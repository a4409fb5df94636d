import ScreenFlow.Proofs.Assembly
import ScreenFlow.Proofs.Widgets
import ScreenFlow.Report
import ScreenFlow.Schema.Document

namespace ScreenFlow

/-! What a form is like that was read from a document. Its layout was checked before its components
were read, fields have names, and options are texts. -/

namespace Component

/-- The component is one of the known types, a field has a name that counts, and options are absent
or texts. -/
def WellFormed : Component → Prop
  | .static _ _ _ => True
  | .input _ name _ _ => name.isGiven = true
  | .choice _ name _ _ options => name.isGiven = true ∧ options.AbsentOrTexts
  | .foreign => False

theorem texts_of_mapM_render {options texts : List Value}
    (rendered : (options.mapM fun option => option.render.map .text) = .ok texts) :
    ∃ contents : List Text, texts = contents.map .text := by
  rw [Outcome.mapM_eq_ok_iff] at rendered
  induction rendered with
  | nil => exact ⟨[], rfl⟩
  | cons first rest induction =>
      rcases induction with ⟨contents, rfl⟩
      rcases Outcome.map_eq_ok.mp first with ⟨content, -, rfl⟩
      exact ⟨content :: contents, rfl⟩

theorem texts_of_readOptions {name options given : Value}
    (read : readOptions name options = .ok given) : given.AbsentOrTexts := by
  rw [readOptions] at read
  split at read
  · exact .inl (Except.ok.inj read).symm
  · rcases Outcome.bind_eq_ok.mp read with ⟨texts, rendered, read⟩
    rcases texts_of_mapM_render rendered with ⟨contents, rfl⟩
    exact .inr ⟨contents, (Outcome.pure_eq_ok.mp read).symm⟩
  · rcases Outcome.bind_eq_ok.mp read with ⟨_, -, read⟩
    cases read

theorem not_rejectNameless {type : ComponentType} {screen position : Value}
    {entries : List (Value × Value)} {component : Component} :
    rejectNameless type screen position entries ≠ .ok component := by
  intro read
  rcases Outcome.bind_eq_ok.mp read with ⟨_, -, read⟩
  cases read

theorem wellFormed_of_read {screen position value : Value} {component : Component}
    (read : ofValue screen position value = .ok component) : component.WellFormed := by
  simp only [ofValue] at read
  split at read
  · split at read
    · rcases Outcome.bind_eq_ok.mp read with ⟨_, -, read⟩
      cases read
    · rw [← Outcome.pure_eq_ok.mp read]
      trivial
    · split at read
      · next given =>
          rw [← Outcome.pure_eq_ok.mp read]
          exact given
      · exact absurd read not_rejectNameless
    · split at read
      · next given =>
          rcases Outcome.bind_eq_ok.mp read with ⟨options, listed, read⟩
          rw [← Outcome.pure_eq_ok.mp read]
          exact ⟨given, texts_of_readOptions listed⟩
      · exact absurd read not_rejectNameless
  · cases read

theorem ofValues_eq_mapM (screen : Text) (entries : List (Nat × Value)) :
    ofValues screen entries =
      entries.mapM fun entry => ofValue (.text screen) (.int entry.1) entry.2 := by
  induction entries with
  | nil => rfl
  | cons entry entries induction => rw [ofValues, List.mapM_cons, induction]

end Component

namespace Screen

variable {value : Value} {screen : Screen}

theorem ofValue_eq_ok (read : ofValue value = .ok screen) :
    ∃ components, outline value = .ok (screen.id, components) ∧
      components.length = screen.components.length ∧
        ∀ component ∈ screen.components, component.WellFormed := by
  rcases Outcome.bind_eq_ok.mp read with ⟨⟨id, components⟩, outlined, read⟩
  rcases Outcome.bind_eq_ok.mp read with ⟨_, -, read⟩
  rcases Outcome.bind_eq_ok.mp read with ⟨parts, made, read⟩
  rcases Outcome.pure_eq_ok.mp read with rfl
  rw [Component.ofValues_eq_mapM] at made
  refine ⟨components, outlined, ?_, fun component member => ?_⟩
  · have lengths := (Outcome.mapM_eq_ok_iff.mp made).length_eq
    rwa [← List.length_map Prod.snd, Sequence.map_snd_indexed] at lengths
  · rcases Outcome.of_mem_of_mapM made member with ⟨entry, -, built⟩
    exact Component.wellFormed_of_read built

theorem sizes_of_outlines {values : List Value} {outlines : List (Text × List Value)}
    {screens : List Screen} (outlined : values.mapM outline = .ok outlines)
    (read : values.mapM ofValue = .ok screens) :
    (outlines.map fun outline => (outline.1, outline.2.length)) =
      screens.map fun screen => (screen.id, screen.components.length) := by
  rw [Outcome.mapM_eq_ok_iff] at outlined read
  induction outlined generalizing screens with
  | nil =>
      cases read
      rfl
  | cons first rest induction =>
      cases read with
      | cons built others =>
          rcases ofValue_eq_ok built with ⟨components, same, length, -⟩
          rw [first, Except.ok.injEq] at same
          rw [List.map_cons, List.map_cons, induction others, same, length]

end Screen

namespace Schema

variable {value : Value} {schema : Schema}

theorem ofValue_eq_ok (read : ofValue value = .ok schema) :
    ∃ (screens : List Value) (outlines : List (Text × List Value)),
      screens.mapM Screen.outline = .ok outlines ∧
        Layout.check (Layout.ofCounts (outlines.map fun outline =>
          (outline.1, outline.2.length))) = .ok () ∧
            screens.mapM Screen.ofValue = .ok schema.screens := by
  rw [ofValue] at read
  split at read
  · split at read
    · cases read
    · next screens _ =>
        rcases Outcome.bind_eq_ok.mp read with ⟨_, -, read⟩
        rcases Outcome.bind_eq_ok.mp read with ⟨outlines, outlined, read⟩
        rcases Outcome.bind_eq_ok.mp read with ⟨⟨⟩, checked, read⟩
        rcases Outcome.bind_eq_ok.mp read with ⟨built, made, read⟩
        rcases Outcome.pure_eq_ok.mp read with rfl
        refine ⟨screens, outlines, outlined, ?_, made⟩
        rw [Layout.ofCounts, List.map_map]
        exact checked
    · cases read
  · cases read

theorem fits_of_read (read : ofValue value = .ok schema) : Layout.Fits schema.counts := by
  rcases ofValue_eq_ok read with ⟨screens, outlines, outlined, checked, built⟩
  rw [Screen.sizes_of_outlines outlined built] at checked
  exact Layout.check_eq_ok_iff.mp checked

theorem wellFormed_of_read (read : ofValue value = .ok schema) :
    ∀ placed ∈ schema.placed, placed.component.WellFormed := by
  intro placed member
  rcases ofValue_eq_ok read with ⟨screens, -, -, -, built⟩
  rcases List.mem_flatMap.mp member with ⟨screen, among, inside⟩
  rcases Outcome.of_mem_of_mapM built among with ⟨source, -, made⟩
  rcases Screen.ofValue_eq_ok made with ⟨_, -, -, wellFormed⟩
  exact wellFormed _ (List.mem_of_getElem? (Screen.mem_placed_iff.mp inside).2)

end Schema

end ScreenFlow
