import ScreenFlow.Proofs.Encodable
import ScreenFlow.Proofs.Steps

namespace ScreenFlow

/-! Lines that are printed. A line loses its control sequences, which hold no surrogates, so it can
be printed exactly if it can be encoded. What is printed changes nothing else in a session. -/

open Outcome

namespace Text.ControlSequence

theorem isChar_of_any {test : Char → Bool} {point : Point} (passes : point.any test = true) :
    point.isChar = true := by
  cases point with
  | char character => rfl
  | surrogate index => cases passes

theorem all_isChar_takeWhile {kind : Point → Bool}
    (chars : ∀ point, kind point = true → point.isChar = true) (text : List Point) :
    (text.takeWhile kind).all Point.isChar = true := by
  rw [List.all_eq_true]
  exact fun point member => chars point (List.all_eq_true.mp List.all_takeWhile point member)

theorem all_isChar_take_of_length? {text : List Point} {size : Nat}
    (whole : length? text = some size) : (text.take size).all Point.isChar = true := by
  rw [length?] at whole
  split at whole
  · next final =>
      rcases Option.some.inj whole with rfl
      rcases (Option.any_eq_true _ _).mp final with ⟨last, found, closes⟩
      -- What comes before the final character begins the text.
      have front : text.takeWhile isParameter ++
          (text.dropWhile isParameter).takeWhile isIntermediate <+: text := by
        have joined := (List.prefix_append_right_inj (text.takeWhile isParameter)).mpr
          (List.takeWhile_prefix isIntermediate (l := text.dropWhile isParameter))
        rwa [List.takeWhile_append_dropWhile] at joined
      have before := List.prefix_iff_eq_take.mp front
      have closing : last.isChar = true := isChar_of_any closes
      rw [List.length_append] at before
      rw [List.take_add_one, found, ← before, List.all_append, List.all_append,
        @all_isChar_takeWhile isParameter fun _ => isChar_of_any,
        @all_isChar_takeWhile isIntermediate fun _ => isChar_of_any]
      simpa using closing
  · cases whole

theorem all_isChar_stripFrom {skipped : Nat} {text : List Point}
    (plain : (text.take skipped).all Point.isChar = true) :
    (stripFrom skipped text).all Point.isChar = text.all Point.isChar := by
  fun_induction stripFrom skipped text with
  | case1 => rfl
  | case2 skipped point rest induction =>
      rw [List.take_succ_cons, List.all_cons, Bool.and_eq_true] at plain
      rw [induction plain.2, List.all_cons, plain.1, Bool.true_and]
  | case3 body size whole induction =>
      rw [induction ?_]
      · rfl
      · rw [List.take_succ_cons, List.all_cons, all_isChar_take_of_length? whole]
        rfl
  | case4 body unended induction =>
      rw [List.all_cons, List.all_cons, induction rfl]
  | case5 point rest other induction =>
      rw [List.all_cons, List.all_cons, induction rfl]

theorem isEncodable_strip (text : Text) : (strip text).isEncodable = text.isEncodable :=
  all_isChar_stripFrom rfl

end Text.ControlSequence

namespace Command.Session

variable {session later : Session} {line : Text}

theorem run_tell_eq_ok {result : Unit} :
    (tell line).run session = .ok result later ↔
      ∃ string : String, line ++ ("\n" : Text) = string ∧
        { session with output := session.output ++ string } = later := by
  rw [tell, run_bind_eq_ok]
  simp only [run_orEscape_eq_ok, orFault_eq_ok, Text.string?_eq_some_iff]
  constructor
  · intro ran
    rcases ran with ⟨string, _, ⟨same, rfl⟩, ran⟩
    cases ran
    exact ⟨string, same, rfl⟩
  · intro given
    rcases given with ⟨string, same, rfl⟩
    exact ⟨string, session, ⟨same, rfl⟩, rfl⟩

theorem exists_run_say (encodable : line.isEncodable = true) :
    ∃ string, (say line).run session =
      .ok () { session with output := session.output ++ string } := by
  have whole : (Text.ControlSequence.strip line ++ ("\n" : Text)).isEncodable = true := by
    rw [Text.isEncodable_append, Text.ControlSequence.isEncodable_strip, encodable]
    rfl
  rw [← Text.isSome_string?, Option.isSome_iff_exists] at whole
  rcases whole with ⟨string, found⟩
  exact ⟨string, run_tell_eq_ok.mpr ⟨string, Text.string?_eq_some_iff.mp found, rfl⟩⟩

theorem run_say_of_surrogate (surrogate : line.isEncodable = false) :
    (say line).run session = .error (.escaped .unencodable) session := by
  have whole : (Text.ControlSequence.strip line ++ ("\n" : Text)).isEncodable = false := by
    rw [Text.isEncodable_append, Text.ControlSequence.isEncodable_strip, surrogate]
    rfl
  rw [← Text.isSome_string?, Option.isSome_eq_false_iff, Option.isNone_iff_eq_none] at whole
  rw [say, tell, whole]
  rfl

end Command.Session

end ScreenFlow
