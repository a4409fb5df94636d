import ScreenFlow.Proofs.Documents
import ScreenFlow.Proofs.Reportable
import ScreenFlow.Proofs.Storage
import ScreenFlow.Schema.File

namespace ScreenFlow

/-! Flow documents in files. A form that is refused, or a place where no file can be made, leaves
all files as they are. The file is emptied before the document is put into words, so that it stays
empty if the document holds a value without a JSON form or a text that cannot be encoded. -/

open Outcome

/-! ## Documents with bytes -/

namespace Value

def isNamed (key : Value) : Bool := key.text?.isSome || key.isNumeral || key == .null

def keysNamed (keys : List Value) : Bool := keys.all isNamed

theorem keysNamed_of_texts {keys : List Value} (texts : ∀ key ∈ keys, key.text?.isSome = true) :
    keysNamed keys = true := by
  rw [keysNamed, List.all_eq_true]
  intro key member
  rw [isNamed, texts key member, Bool.true_or, Bool.true_or]

section Worded

variable {fits : List Value → Bool}

theorem areWorded_iff {values : List Value} :
    areWorded fits values = true ↔ ∀ value ∈ values, value.isWorded fits = true := by
  induction values with
  | nil => simp [areWorded]
  | cons value values induction => simp [areWorded, induction]

theorem entriesAreWorded_iff {entries : List (Value × Value)} :
    entriesAreWorded fits entries = true ↔ ∀ entry ∈ entries, entry.2.isWorded fits = true := by
  induction entries with
  | nil => simp [entriesAreWorded]
  | cons entry entries induction => simp [entriesAreWorded, induction]

theorem structural_isWorded
    (texts : ∀ keys, (∀ key ∈ keys, key.text?.isSome = true) → fits keys = true) :
    Structural fun _ value => value.isWorded fits = true where
  null _ := rfl
  bool _ _ := rfl
  text _ _ := rfl
  items _ _ := areWorded_iff
  entries _ entries worded := by
    rw [isWorded, Bool.and_eq_true] at worded
    exact entriesAreWorded_iff.mp worded.2
  fields _ entries _ each := by
    rw [isWorded, Bool.and_eq_true]
    constructor
    · apply texts
      rw [List.forall_mem_map]
      exact fun entry member => (each entry member).1
    · exact entriesAreWorded_iff.mpr fun entry member => (each entry member).2.2

end Worded

end Value

namespace Json

theorem joins_of_unsorted {layout : Layout} (unsorted : layout.sortsKeys = false) :
    Joins layout Value.keysNamed := by
  intro entries
  have kept : arrange layout entries = .ok entries := by
    rw [arrange, unsorted]
    rfl
  have named (key : Value) : Succeeds (keyText key) ↔ key.isNamed = true := by
    rw [succeeds_keyText_iff, Value.isNamed, Bool.or_eq_true, Bool.or_eq_true, beq_iff_eq, or_assoc]
  rw [joinEntries_eq, kept, ok_bind, mapM_succeeds_iff, Value.keysNamed, List.all_eq_true,
    List.forall_mem_map]
  simp only [succeeds_joinEntry_iff, named]
  exact forall₂_and

end Json

namespace FlowDocument

/-- The document can be put into words: every value that it takes over from its form has a JSON
form, and its collections do not lie inside each other on too many levels. -/
structure Worded (document : FlowDocument) : Prop where
  worded : ∀ value ∈ document.given, value.isWorded Value.keysNamed = true
  shallow : document.toValue.depth ≤ Json.maxNesting

/-- The document can be put into words and these into bytes: no text in it holds a surrogate. -/
structure Encodable (document : FlowDocument) : Prop extends Worded document where
  plain : document.toValue.isEncodable = true

variable {schema : Schema} {flow : CompiledFlow}

theorem succeeds_toJson_iff (compiled : schema.compile = .ok flow) :
    Succeeds flow.document.toJson ↔ flow.document.Worded := by
  have structural := Value.structural_isWorded fun _ => Value.keysNamed_of_texts
  have joins : Json.Joins .readable Value.keysNamed := Json.joins_of_unsorted rfl
  rw [toJson, joins.write_succeeds_iff, Schema.holds_document_iff structural compiled]
  exact ⟨fun given => ⟨given.1, given.2⟩, fun given => ⟨given.worded, given.shallow⟩⟩

theorem succeeds_encode_iff (compiled : schema.compile = .ok flow) :
    Succeeds flow.document.encode ↔ flow.document.Encodable := by
  refine (Json.succeeds_write_encode_iff rfl rfl).trans ?_
  rw [← toJson, succeeds_toJson_iff compiled]
  exact ⟨fun given => ⟨given.2, given.1⟩, fun given => ⟨given.plain, given.toWorded⟩⟩

end FlowDocument

/-! ## Saving -/

namespace Schema

variable {schema : Schema} {flow : CompiledFlow} {files opened : Files} {path : String}
  {fault : Fault}

theorem saveFlow_of_refused (refused : schema.compile = .error fault) :
    schema.saveFlow files path = (.error fault, files) := by
  rw [saveFlow, refused]

theorem saveFlow_of_compile (compiled : schema.compile = .ok flow) :
    schema.saveFlow files path = ((files.save path flow.document.encode).1.map fun _ => flow,
      (files.save path flow.document.encode).2) := by
  rw [saveFlow, compiled]

theorem saveFlow_of_unplaced (compiled : schema.compile = .ok flow)
    (unplaced : files.write path [] = .error fault) :
    schema.saveFlow files path = (.error fault, files) := by
  rw [saveFlow_of_compile compiled, Files.save_of_unplaced unplaced]
  rfl

theorem saveFlow_of_wordless (compiled : schema.compile = .ok flow)
    (place : files.write path [] = .ok opened) (wordless : flow.document.encode = .error fault) :
    schema.saveFlow files path = (.error fault, opened) := by
  rw [saveFlow_of_compile compiled, wordless, Files.save_of_wordless place]
  rfl

theorem saveFlow_of_encoded (compiled : schema.compile = .ok flow)
    (place : files.write path [] = .ok opened) {content : List UInt8}
    (encoded : flow.document.encode = .ok content) :
    ∃ written, schema.saveFlow files path = (.ok flow, written) ∧
      written.read path = .ok content := by
  rcases @Files.save_of_place _ content _ _ place with ⟨written, stored, saved⟩
  refine ⟨written, ?_, Files.read_of_write stored⟩
  rw [saveFlow_of_compile compiled, encoded, saved]
  rfl

/-- A save that fails leaves the file at the path, or its absence, as it was. -/
def SparesTarget (schema : Schema) (files : Files) (path : String) : Prop :=
  ∀ fault later, schema.saveFlow files path = (.error fault, later) →
    later.read path = files.read path

/-- The form compiles to a document that cannot be put into words and bytes, and a file can be made
at the path where there is anything but an empty file. -/
structure Empties (schema : Schema) (files : Files) (path : String) : Prop where
  wordless : ∃ flow, schema.compile = .ok flow ∧ ¬ flow.document.Encodable
  place : files.Admits path
  held : files.read path ≠ .ok []

theorem exists_saveFlow_of_empties (empties : schema.Empties files path) :
    ∃ fault later, schema.saveFlow files path = (.error fault, later) ∧
      later.read path = .ok [] := by
  rcases empties with ⟨⟨flow, compiled, wordless⟩, place, -⟩
  rcases Files.succeeds_write_iff.mpr place with ⟨opened, stored⟩
  rw [← FlowDocument.succeeds_encode_iff compiled] at wordless
  cases encoded : flow.document.encode with
  | ok content => exact absurd ⟨content, encoded⟩ wordless
  | error fault =>
      exact ⟨fault, opened, saveFlow_of_wordless compiled stored encoded,
        Files.read_of_write stored⟩

theorem sparesTarget_of_not_empties (keeps : ¬ schema.Empties files path) :
    schema.SparesTarget files path := by
  intro fault later failed
  cases compiled : schema.compile with
  | error refusal =>
      rw [saveFlow_of_refused compiled] at failed
      rw [(Prod.mk.inj failed).2]
  | ok flow =>
      cases stored : files.write path [] with
      | error unplaced =>
          rw [saveFlow_of_unplaced compiled stored] at failed
          rw [(Prod.mk.inj failed).2]
      | ok opened =>
          cases encoded : flow.document.encode with
          | ok content =>
              rcases saveFlow_of_encoded compiled stored encoded with ⟨written, saved, -⟩
              rw [saved] at failed
              cases (Prod.mk.inj failed).1
          | error wordless =>
              rw [saveFlow_of_wordless compiled stored encoded] at failed
              rw [← (Prod.mk.inj failed).2, Files.read_of_write stored]
              -- The file was emptied, so it is as it was only if it was empty already.
              by_contra changed
              refine keeps ⟨⟨flow, compiled, ?_⟩, Files.succeeds_write_iff.mp ⟨opened, stored⟩,
                fun empty => changed empty.symm⟩
              rw [← FlowDocument.succeeds_encode_iff compiled, encoded]
              simp [Succeeds]

/-- A failing save leaves its target as it was, unless the document has no JSON form or none in
bytes; then it leaves an empty file. -/
theorem sparesTarget_iff_not_empties :
    (schema.SparesTarget files path ↔ ¬ schema.Empties files path) ∧
      (schema.Empties files path → ∃ fault later,
        schema.saveFlow files path = (.error fault, later) ∧ later.read path = .ok []) := by
  refine ⟨⟨fun spares empties => ?_, sparesTarget_of_not_empties⟩, exists_saveFlow_of_empties⟩
  rcases exists_saveFlow_of_empties empties with ⟨fault, later, failed, emptied⟩
  exact empties.held ((spares fault later failed).symm.trans emptied)

example : (Schema.mk [⟨"a", .text ⟨[.surrogate 0]⟩, []⟩]).saveFlow .empty "flow.json" =
    (.error .unencodable, .ofContents [("flow.json", [])]) := by
  decide +kernel

def datedSchema : Schema := ⟨[⟨"a", .date ⟨2024, 1, 2⟩, []⟩]⟩

theorem datedSchema_not_spared :
    ofYaml "screens: [\x7bid: a, title: 2024-01-02\x7d]\n" = .ok datedSchema ∧
      Files.empty.read "flow.json" = .error .missingFile ∧
      datedSchema.saveFlow .empty "flow.json" =
        (.error .wrongKind, .ofContents [("flow.json", [])]) ∧
      ¬ datedSchema.SparesTarget .empty "flow.json" := by
  have absent : Files.empty.read "flow.json" = .error .missingFile := by decide +kernel
  have failed : datedSchema.saveFlow .empty "flow.json" =
      (.error .wrongKind, .ofContents [("flow.json", [])]) := by decide +kernel
  refine ⟨by decide +kernel, absent, failed, fun spares => ?_⟩
  have emptied : (Files.ofContents [("flow.json", [])]).read "flow.json" = .ok [] := by
    decide +kernel
  have same := spares _ _ failed
  rw [emptied, absent] at same
  cases same

end Schema

end ScreenFlow
