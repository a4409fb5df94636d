import ScreenFlow.Schema.Limits

namespace ScreenFlow

/-! A sample form: the signup for an event in three steps. -/

namespace Sample

private def shown (type : StaticType) (text : Text) : Component :=
  .static type (.text text) .null

private def asked (type : InputType) (name label : Text) (required : Bool) : Component :=
  .input type (.text name) (.text label) (.bool required)

private def chosen (type : ChoiceType) (name label : Text) (required : Bool)
    (options : List Text) : Component :=
  .choice type (.text name) (.text label) (.bool required) (.list (options.map .text))

def contact : Screen where
  id := "contact"
  title := .text "Your details"
  components := [
    shown .heading "Event signup",
    asked .input "full name" "Full name" true,
    asked .input "email" "Email address" true,
    asked .date "arrival" "Arrival date" false]

def preferences : Screen where
  id := "preferences"
  title := .text "Preferences"
  components := [
    chosen .radio "ticket" "Ticket type" true ["Day Pass", "Full Weekend"],
    chosen .checkbox "workshops" "Workshops you would like to attend" false
      ["Intro to Python", "Data Pipelines", "Testing"],
    chosen .dropdown "diet" "Dietary needs" false ["None", "Vegetarian", "Vegan"],
    asked .textarea "notes" "Anything else?" false]

def confirm : Screen where
  id := "confirm"
  title := .text "Confirm"
  components := [
    shown .subheading "Almost done",
    shown .text "Press Done to submit your signup.",
    shown .caption "You can change your answers later."]

def signup : Schema where
  screens := [contact, preferences, confirm]

example : signup.validate = .ok () := by decide +kernel

end Sample

end ScreenFlow
