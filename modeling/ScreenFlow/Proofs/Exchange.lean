import ScreenFlow.Proofs.Carrying
import ScreenFlow.Proofs.RoundTrip

namespace ScreenFlow

/-! Forms exchanged as JSON texts. What a form takes over from a document without fractions is plain
again, so its text is read back value for value, and the form is found in it. The only forms without
such a text are those that keep a number with too many digits, or collections inside each other on
too many levels. -/

open Outcome

namespace Schema

/-- The form has a JSON text, which is ASCII and describes it. -/
def Exchanged (schema : Schema) : Prop :=
  ∃ text, schema.toJson = .ok text ∧ Json.Ascii text.toList ∧ ofJson text = .ok schema

variable {document written : Value} {schema : Schema}

theorem isPlain_written (plain : document.isPlain = true) (read : ofValue document = .ok schema)
    (wrote : schema.toValue = .ok written) : written.isPlain = true :=
  holds_written Value.structural_isPlain.toHereditary 0 (Value.isJson_of_isPlain plain) read wrote
    plain

theorem isWritable_written (json : document.isJson = true) (read : ofValue document = .ok schema)
    (wrote : schema.toValue = .ok written) (writable : document.isWritable = true) :
    written.isWritable = true :=
  holds_written Value.structural_isWritable.toHereditary 0 json read wrote writable

theorem levels_written_le (json : document.isJson = true) (read : ofValue document = .ok schema)
    (wrote : schema.toValue = .ok written) (shallow : document.levels ≤ Json.maxNesting) :
    written.levels ≤ Json.maxNesting :=
  holds_written Value.structural_levels.toHereditary 984 json read wrote shallow

theorem isEncodable_written (json : document.isJson = true)
    (read : ofValue document = .ok schema) (wrote : schema.toValue = .ok written)
    (encodable : document.isEncodable = true) : written.isEncodable = true :=
  holds_written Value.hereditary_isEncodable 0 json read wrote encodable

theorem toJson_of_toValue (wrote : schema.toValue = .ok written) :
    schema.toJson = Json.write .indented written := by
  rw [toJson, wrote, ok_bind]

theorem ofJson_of_write {text : Text} (plain : document.isPlain = true)
    (encodable : document.isEncodable = true)
    (printed : Json.write .indented document = .ok text) : ofJson text = ofValue document := by
  rw [ofJson, Json.read_of_write rfl (fun _ => encodable) plain printed]

/-- A form that was read from a plain document without surrogates is exchanged as a text, unless
what it keeps cannot be written: then it has no text at all. And it keeps no more than its document
held. -/
theorem exchanged_iff_of_read (plain : document.isPlain = true)
    (encodable : document.isEncodable = true) (read : ofValue document = .ok schema) :
    ∃ written, schema.toValue = .ok written ∧
      (schema.Exchanged ↔ written.isWritable = true ∧ written.levels ≤ Json.maxNesting) ∧
      (Succeeds schema.toJson ↔ written.isWritable = true ∧ written.levels ≤ Json.maxNesting) ∧
      (document.isWritable = true → document.levels ≤ Json.maxNesting → schema.Exchanged) := by
  have json := Value.isJson_of_isPlain plain
  rcases restored_of_settled (settled_of_read read) with ⟨written, wrote, restored⟩
  have same_plain := isPlain_written plain read wrote
  have same_encodable := isEncodable_written json read wrote encodable
  have printable : Succeeds schema.toJson ↔
      written.isWritable = true ∧ written.levels ≤ Json.maxNesting := by
    rw [toJson_of_toValue wrote]
    exact Json.write_succeeds_iff .indented (Value.isJson_of_isPlain same_plain)
  have exchanged : schema.Exchanged ↔ Succeeds schema.toJson := by
    constructor
    · intro exchanged
      rcases exchanged with ⟨text, printed, -, -⟩
      exact ⟨text, printed⟩
    · intro succeeds
      rcases succeeds with ⟨text, printed⟩
      refine ⟨text, printed, ?_, ?_⟩
      · rw [toJson_of_toValue wrote] at printed
        rw [Json.write_eq_ok rfl same_plain printed]
        have escaped : Json.Layout.indented.escapesUnicode = true := rfl
        exact Json.ascii_printed escaped 0 written
      · rw [toJson_of_toValue wrote] at printed
        rw [ofJson_of_write same_plain same_encodable printed, restored]
  exact ⟨written, wrote, exchanged.trans printable, printable, fun writable shallow =>
    (exchanged.trans printable).mpr ⟨isWritable_written json read wrote writable,
      levels_written_le json read wrote shallow⟩⟩

/-- A form with nested titles, letters beyond ASCII and beyond the basic plane, and a control
character. -/
def foreignDocument : Value :=
  .map [field "screens" (.list [
    .map [field "id" (.text "é"),
      field "title" (.map [field "😀" (.list [.null, .int (-12), .map [], .list []])]),
      field "components" (.list [
        .map [field "type" (.text "input"), field "name" (.text "n\x01"),
          field "label" (.text "\"\\\n")]])]])]

def foreignSchema : Schema := ⟨[
  { id := "é"
    title := .map [field "😀" (.list [.null, .int (-12), .map [], .list []])]
    components := [.input .input (.text "n\x01") (.text "\"\\\n") (.bool false)] }]⟩

theorem foreignDocument_exchanged :
    foreignDocument.isPlain = true ∧ foreignDocument.isEncodable = true ∧
      ofValue foreignDocument = .ok foreignSchema ∧ foreignSchema.Exchanged := by
  have plain : foreignDocument.isPlain = true := by decide +kernel
  have encodable : foreignDocument.isEncodable = true := by decide +kernel
  have read : ofValue foreignDocument = .ok foreignSchema := by decide +kernel
  rcases exchanged_iff_of_read plain encodable read with ⟨-, -, -, -, exchanged⟩
  exact ⟨plain, encodable, read, exchanged (by decide +kernel) (by decide +kernel)⟩

def titledDocument (title : Value) : Value :=
  .map [field "screens" (.list [.map [field "id" (.text "a"), field "title" title]])]

def titledForm (title : Value) : Schema := ⟨[⟨"a", title, []⟩]⟩

def longNumber : Value := .int (.ofNat (Nat.pow 10 4300))

def nestedList : Nat → Value
  | 0 => .null
  | levels + 1 => .list [nestedList levels]

def deepList : Value := nestedList (Json.maxNesting - 2)

theorem titledDocument_not_exchanged :
    ((titledDocument longNumber).isPlain = true ∧ (titledDocument longNumber).isEncodable = true ∧
      ofValue (titledDocument longNumber) = .ok (titledForm longNumber) ∧
      (titledForm longNumber).toJson = .error .badValue ∧ ¬ (titledForm longNumber).Exchanged) ∧
    ((titledDocument deepList).isPlain = true ∧ (titledDocument deepList).isEncodable = true ∧
      ofValue (titledDocument deepList) = .ok (titledForm deepList) ∧
      (titledForm deepList).toJson = .error .tooDeep ∧ ¬ (titledForm deepList).Exchanged) := by
  have unexchanged {schema : Schema} {fault : Fault} (failed : schema.toJson = .error fault) :
      ¬ schema.Exchanged := by
    intro exchanged
    rcases exchanged with ⟨text, printed, -, -⟩
    rw [failed] at printed
    cases printed
  have long : (titledForm longNumber).toJson = .error .badValue := by decide +kernel
  have deep : (titledForm deepList).toJson = .error .tooDeep := by decide +kernel
  exact ⟨⟨by decide +kernel, by decide +kernel, by decide +kernel, long, unexchanged long⟩,
    ⟨by decide +kernel, by decide +kernel, by decide +kernel, deep, unexchanged deep⟩⟩

end Schema

end ScreenFlow
