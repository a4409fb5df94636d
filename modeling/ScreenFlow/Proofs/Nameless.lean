import ScreenFlow.Proofs.Precedence
import ScreenFlow.Proofs.Reportable

namespace ScreenFlow

/-! Fields without a name, in any document whose layout fits. The first component that cannot be
read decides the outcome; if that is a field without a name, it is reported with its type and its
place whenever the report can quote what its author wrote. -/

open Outcome

namespace Outcome

variable {ε α β : Type}

theorem failsFirst_split_iff {step : α → Except ε β} {before after : List α} {item : α}
    {fault : ε} (earlier : ∀ other ∈ before, Succeeds (step other))
    (fails : ¬ Succeeds (step item)) :
    FailsFirst step (before ++ item :: after) fault ↔ step item = .error fault := by
  induction before with
  | nil => rw [List.nil_append, failsFirst_cons, or_iff_left fun given => fails given.1]
  | cons first before induction =>
      rw [List.forall_mem_cons] at earlier
      rw [List.cons_append, failsFirst_cons, induction earlier.2, and_iff_right earlier.1]
      rcases earlier.1 with ⟨result, stepped⟩
      simp [stepped]

end Outcome

/-! ## Layouts of documents -/

namespace Value

def listed? (document : Value) : Option (List Value) :=
  match document.unroll with
  | .map entries => ((lookup? "screens" entries).map unroll).bind items?
  | _ => none

structure LaidOut (document : Value) (outlines : List (Text × List Value)) : Prop where
  outlined : ∃ screens, document.listed? = some screens ∧
    screens.mapM Screen.outline = .ok outlines
  fits : Layout.Fits (outlines.map fun outline => (outline.1, outline.2.length))

end Value

def Screen.placesIn (outline : Text × List Value) : List Site :=
  (Sequence.indexed outline.2).map fun (position, component) => ⟨outline.1, position, component⟩

namespace Schema

variable {document : Value} {outlines : List (Text × List Value)}

theorem ofValue_of_listed {screens : List Value} (listed : document.listed? = some screens) :
    ofValue document = ofScreens screens := by
  rw [Value.listed?] at listed
  rw [ofValue]
  generalize document.unroll = content at listed ⊢
  cases content with
  | map entries =>
      rcases Option.bind_eq_some_iff.mp listed with ⟨list, found, items⟩
      cases list <;> cases items
      simp only [found]
      rfl
  | _ => cases listed

theorem ofValue_eq_error_iff (laidOut : document.LaidOut outlines) {fault : Fault} :
    ofValue document = .error fault ↔
      FailsFirst Site.read (outlines.flatMap Screen.placesIn) fault := by
  rcases laidOut with ⟨⟨screens, listed, outlined⟩, fits⟩
  have lengths := (mapM_eq_ok_iff.mp outlined).length_eq
  have sized : outlines.length ≠ 0 ∧ outlines.length ≤ maxScreens := by
    simpa using And.intro fits.nonempty fits.screens
  have filled : screens ≠ [] := by
    intro empty
    rw [empty] at lengths
    exact sized.1 lengths.symm
  have amounts : List.Forall₂ (fun screen outline => ∃ complete : List Component → Screen,
      Screen.ofValue screen = ((Screen.placesIn outline).mapM Site.read).map complete)
        screens outlines := by
    apply forall₂_of_mapM outlined
    intro screen inside outline read
    have few := fits.components _ (List.mem_map_of_mem (mem_of_mapM outlined inside read))
    refine ⟨Screen.mk outline.1 (Screen.titleOf screen), ?_⟩
    rw [Screen.ofValue_of_outline read few, Screen.placesIn, List.mapM_map]
    rfl
  rw [ofValue_of_listed listed, ofScreens_of_few filled (lengths ▸ sized.2), ofOutlined_eq,
    outlined, ok_bind, Layout.check_eq_ok_iff.mpr fits, ok_bind, map_eq_error_iff,
    ← mapM_eq_error_iff]
  exact mapM_eq_error_iff_of_parts amounts

end Schema

/-! ## Missing names -/

/-- The site has a field of this type, given by these entries, and none of them is a name that
counts. -/
structure Site.Nameless (site : Site) (type : ComponentType) (entries : List (Value × Value)) :
    Prop where
  mapping : site.value.unroll = .map entries
  known : Value.entry "type" entries = .text type.word
  field : ∀ kind, type ≠ .static kind
  nameless : (Value.entry "name" entries).isGiven = false

theorem Site.read_of_nameless {site : Site} {type : ComponentType}
    {entries : List (Value × Value)} (nameless : site.Nameless type entries) :
    site.read =
      Component.rejectNameless type (.text site.screen) (.int site.position) entries := by
  have known := ComponentType.ofValue?_eq_some_iff.mpr nameless.known
  rw [read, Component.ofValue, nameless.mapping]
  simp only [known, nameless.nameless]
  cases type with
  | static kind => exact absurd rfl (nameless.field kind)
  | input kind => rfl
  | choice kind => rfl

/-- The layout of a document fits, and its first component that cannot be read is a field without a
name. -/
structure Value.FirstNameless (document : Value) (site : Site) (type : ComponentType)
    (entries : List (Value × Value)) : Prop where
  first : ∃ outlines before after, document.LaidOut outlines ∧
    outlines.flatMap Screen.placesIn = before ++ site :: after ∧
      ∀ earlier ∈ before, Succeeds earlier.read
  nameless : site.Nameless type entries

namespace Schema

variable {document : Value} {site : Site} {type : ComponentType} {entries : List (Value × Value)}

theorem ofValue_eq_error_iff_read (first : document.FirstNameless site type entries)
    {fault : Fault} : ofValue document = .error fault ↔ site.read = .error fault := by
  rcases first.first with ⟨outlines, before, after, laidOut, split, earlier⟩
  have fails : ¬ Succeeds site.read := by
    rw [Site.read_of_nameless first.nameless]
    exact fun given => Component.not_rejectNameless given.choose_spec
  rw [ofValue_eq_error_iff laidOut, split, failsFirst_split_iff earlier fails]

theorem ofValue_of_firstNameless (first : document.FirstNameless site type entries) :
    ofValue document =
      Component.rejectNameless type (.text site.screen) (.int site.position) entries := by
  have read := Site.read_of_nameless first.nameless
  rw [Component.rejectNameless] at read ⊢
  -- Either way of the report is a fault, and a fault of the site is one of the document.
  cases written : Json.write .sorted (.map entries) with
  | error fault =>
      rw [written, error_bind] at read
      rw [error_bind, ofValue_eq_error_iff_read first, read]
  | ok given =>
      rw [written, ok_bind] at read
      rw [ok_bind, reject, ofValue_eq_error_iff_read first, read]
      rfl

theorem ofValue_eq_missingName_iff (first : document.FirstNameless site type entries)
    {given : Text} :
    ofValue document = reject (.missingName (.text type.word) (.text site.screen)
        (.int site.position) given) ↔ Json.write .sorted (.map entries) = .ok given := by
  have unrejected := Json.unrejected_write .sorted (.map entries)
  rw [ofValue_of_firstNameless first, Component.rejectNameless]
  cases written : Json.write .sorted (.map entries) with
  | error fault =>
      refine iff_of_false (fun failed => ?_) (by simp)
      exact unrejected _ (written.trans (congrArg Except.error (Except.error.inj failed)))
  | ok other => simp [ok_bind, reject]

/-- A field without a name that is the first fault of a document is reported with its type, its
screen and its position if the report can quote what its author wrote, and only then. Otherwise the
document is neither read nor refused. -/
theorem reported_iff_isReportable (first : document.FirstNameless site type entries) :
    ((∃ given, ofValue document = reject (.missingName (.text type.word) (.text site.screen)
        (.int site.position) given)) ↔ (Value.map entries).isReportable = true) ∧
      ((Value.map entries).isReportable = false → Escapes (ofValue document)) := by
  have unrejected : Unrejected (Json.write .sorted (.map entries)) :=
    unrejected_map (Json.unrejected_writeAt .sorted 0 _)
  constructor
  · simp only [ofValue_eq_missingName_iff first, ← Json.write_sorted_succeeds_iff]
    rfl
  · intro unreportable
    rw [ofValue_of_firstNameless first, Component.rejectNameless, escapes_bind,
      escapes_iff_of_unrejected unrejected, Json.write_sorted_succeeds_iff, unreportable]
    exact .inl (by simp)

/-! ## A field with a date -/

def dueEntries (due : Value) : List (Value × Value) :=
  [field "type" (.text "input"), field "due" due]

def dueDocument (due : Value) : Value :=
  documentOf [.map [field "id" (.text "a"),
    field "components" (.list [.map (dueEntries due)])]]

theorem firstNameless_of_due (due : Value) :
    (dueDocument due).FirstNameless ⟨"a", 0, .map (dueEntries due)⟩ (.input .input)
      (dueEntries due) := by
  constructor
  · refine ⟨[("a", [.map (dueEntries due)])], [], [], ⟨⟨_, rfl, rfl⟩, ?_⟩, rfl, by simp⟩
    have sound : Layout.check (Layout.ofCounts [("a", 1)]) = .ok () := by decide +kernel
    exact Layout.check_eq_ok_iff.mp sound
  · exact ⟨rfl, rfl, by simp, rfl⟩

theorem dueDate_not_reported :
    (dueDocument (.date ⟨2024, 1, 2⟩)).FirstNameless
        ⟨"a", 0, .map (dueEntries (.date ⟨2024, 1, 2⟩))⟩ (.input .input)
          (dueEntries (.date ⟨2024, 1, 2⟩)) ∧
      ofValue (dueDocument (.date ⟨2024, 1, 2⟩)) = .error .wrongKind ∧
        ¬ ∃ given, ofValue (dueDocument (.date ⟨2024, 1, 2⟩)) =
          reject (.missingName (.text "input") (.text "a") (.int 0) given) := by
  have failed : ofValue (dueDocument (.date ⟨2024, 1, 2⟩)) = .error .wrongKind := by
    decide +kernel
  refine ⟨firstNameless_of_due _, failed, ?_⟩
  rw [failed]
  simp [reject]

theorem dueText_reported :
    (dueDocument (.text "2024-01-02")).FirstNameless
        ⟨"a", 0, .map (dueEntries (.text "2024-01-02"))⟩ (.input .input)
          (dueEntries (.text "2024-01-02")) ∧
      ∃ given, ofValue (dueDocument (.text "2024-01-02")) =
        reject (.missingName (.text "input") (.text "a") (.int 0) given) := by
  have first := firstNameless_of_due (.text "2024-01-02")
  exact ⟨first, (reported_iff_isReportable first).1.mpr (by decide +kernel)⟩

example : (Value.map [(.int 1, .null), (.text "due", .null)]).isReportable = false := by
  decide +kernel

end Schema

end ScreenFlow
