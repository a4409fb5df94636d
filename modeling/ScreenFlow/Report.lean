import ScreenFlow.Flow.Widget
import ScreenFlow.Ordered
import ScreenFlow.Schema.Limits

namespace ScreenFlow

/-! Reports on schemas. A report counts what a schema holds and warns about everything that the
compiler would refuse or change, without refusing it. -/

/-- The inventory of a schema and the findings about it. -/
structure Report where
  totalScreens : Nat
  totalComponents : Nat
  totalFields : Nat
  inbound : List (Text × Nat)
  terminal : Option Text
  truncatedLabels : List Text
  choicesWithoutOptions : List Text
  emptyScreens : List Text
  duplicateIds : List Text
  oversizedScreens : List Text
  warnings : List Value
  deriving DecidableEq, Repr

namespace Report

def empty : Report :=
  { totalScreens := 0, totalComponents := 0, totalFields := 0, inbound := [], terminal := none,
    truncatedLabels := [], choicesWithoutOptions := [], emptyScreens := [], duplicateIds := [],
    oversizedScreens := [], warnings := [] }

def addWarning (report : Report) (warning : Value) : Report :=
  if report.warnings.any warning.same then report
  else { report with warnings := report.warnings ++ [warning] }

end Report

/-! ## Inventory -/

namespace Component

def label : Component → Value
  | .input _ _ label _ => label
  | .choice _ _ label _ _ => label
  | _ => .null

def hasLongLabel (component : Component) : Except Fault Bool :=
  if component.label.isNull then .ok false
  else do
    let length ← orFault .wrongKind component.label.length?
    return length > Naming.maxLabelLength

def lacksOptions : Component → Bool
  | .choice _ _ _ _ options => !options.isGiven
  | _ => false

end Component

/-- What is found about the bound components of a screen: how many there are, and the keys of
those with a long label and of those without options. -/
structure FieldFindings where
  count : Nat
  longLabels : List Text
  withoutOptions : List Text
  deriving DecidableEq, Repr

namespace FieldFindings

def ofPlaced : List Placed → Except Fault FieldFindings
  | [] => return ⟨0, [], []⟩
  | placed :: rest => do
      match ← placed.boundKey? with
      | none => ofPlaced rest
      | some key =>
          let long ← placed.component.hasLongLabel
          let findings ← ofPlaced rest
          return {
            count := findings.count + 1
            longLabels := (if long then [key] else []) ++ findings.longLabels
            withoutOptions :=
              (if placed.component.lacksOptions then [key] else []) ++ findings.withoutOptions }

end FieldFindings

namespace Schema

def inboundFrom (before : Nat) : List (Text × FieldFindings) → List (Text × Nat)
  | [] => []
  | (screen, findings) :: rest => (screen, before) :: inboundFrom (before + findings.count) rest

def duplicateIds (ids : List Text) : List Text :=
  Sequence.sort (· < ·) ((ids.filter fun id => ids.count id > 1).eraseDups)

def inventory (schema : Schema) : Except Fault Report := do
  let findings ← schema.screens.mapM fun screen => FieldFindings.ofPlaced screen.placed
  let ids := schema.screens.map (·.id)
  return {
    totalScreens := schema.screens.length
    totalComponents := (schema.screens.map (·.components.length)).foldl Nat.add 0
    totalFields := (findings.map (·.count)).foldl Nat.add 0
    inbound := Ordered.ofEntries (inboundFrom 0 (ids.zip findings))
    terminal := ids.getLast?
    truncatedLabels := findings.flatMap (·.longLabels)
    choicesWithoutOptions := findings.flatMap (·.withoutOptions)
    emptyScreens := (schema.screens.filter (·.components.isEmpty)).map (·.id)
    duplicateIds := duplicateIds ids
    oversizedScreens :=
      (schema.screens.filter fun screen => screen.components.length > maxComponents).map (·.id)
    warnings := [] }

end Schema

/-! ## Warnings -/

namespace Report

def listing (subject : Text) (found : List Text) : List Value :=
  if found.isEmpty then [] else [.text (subject ++ ": " ++ Text.intercalate ", " found)]

def calledFor (report : Report) : List Value :=
  (if report.totalScreens = 0 then [.text "Schema has no screens"] else []) ++
  (if report.totalScreens > maxScreens then
    [.text s!"Too many screens: {report.totalScreens} (maximum {maxScreens})"] else []) ++
  listing s!"Screens over {maxComponents} components" report.oversizedScreens ++
  listing "Duplicate screen ids" report.duplicateIds ++
  listing s!"Labels longer than {Naming.maxLabelLength} characters" report.truncatedLabels ++
  listing "Choice fields without options" report.choicesWithoutOptions ++
  listing "Empty screens" report.emptyScreens

end Report

namespace Schema

def analyze (schema : Schema) : Except Fault Report := do
  let report ← schema.inventory
  return report.calledFor.foldl Report.addWarning report

end Schema

example : ((Report.empty.addWarning (.text "a")).addWarning (.text "a")).warnings =
    [.text "a"] := by decide

end ScreenFlow
