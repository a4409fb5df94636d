import Mathlib.Algebra.Ring.Parity
import Mathlib.Data.List.DropRight
import ScreenFlow.Proofs.Redrawing

namespace ScreenFlow.Diagram

/-! Tokens of diagrams as texts of their own. The escapes between quotes are what three replacements
make one after another, backslashes before all else. A quote inside stands behind an odd number of
backslashes and the closing one behind an even number, so that a token ends where it should, and
what was escaped is undone. No token stands for two texts. -/

/-! ## Replacing -/

def replaceAll (target : Point) (replacement text : List Point) : List Point :=
  text.flatMap fun point => if point = target then replacement else [point]

/-- What stands between the quotes of a token. Were backslashes not replaced first, those of the
other escapes would be doubled. -/
def escaped (text : List Point) : List Point :=
  replaceAll '\n' ['\\', 'n'] (replaceAll '"' ['\\', '"'] (replaceAll '\\' ['\\', '\\'] text))

theorem escapePoint_cases (point : Point) :
    (point = '\\' ∧ escapePoint point = [.char '\\', .char '\\']) ∨
      (point = '"' ∧ escapePoint point = [.char '\\', .char '"']) ∨
      (point = '\n' ∧ escapePoint point = [.char '\\', .char 'n']) ∨
      (point ≠ '\\' ∧ point ≠ '"' ∧ point ≠ '\n' ∧
        escapePoint point = [point]) := by
  by_cases backslash : point = .char '\\'
  · exact .inl ⟨backslash, by simp [escapePoint, backslash]⟩
  by_cases quoted : point = '"'
  · exact .inr (.inl ⟨quoted, by simp [escapePoint, quoted]⟩)
  by_cases feed : point = '\n'
  · exact .inr (.inr (.inl ⟨feed, by simp [escapePoint, feed]⟩))
  · exact .inr (.inr (.inr ⟨backslash, quoted, feed,
      by simp [escapePoint, backslash, quoted, feed]⟩))

theorem escaped_eq (text : List Point) : escaped text = text.flatMap escapePoint := by
  rw [escaped, replaceAll, replaceAll, replaceAll, List.flatMap_assoc, List.flatMap_assoc]
  refine List.flatMap_congr fun point _ => ?_
  rcases escapePoint_cases point with
    ⟨rfl, same⟩ | ⟨rfl, same⟩ | ⟨rfl, same⟩ | ⟨backslash, quoted, feed, same⟩
  · rfl
  · rfl
  · rfl
  · simp [same, backslash, quoted, feed]

/-! ## Backslashes -/

def slashes (text : List Point) : Nat := (text.rtakeWhile (· = .char '\\')).length

theorem slashes_concat_slash (text : List Point) :
    slashes (text ++ [.char '\\']) = slashes text + 1 := by
  rw [slashes, List.rtakeWhile_concat_pos _ _ _ (by decide), List.length_append]
  rfl

theorem slashes_concat_of_ne {point : Point} (other : point ≠ '\\') (text : List Point) :
    slashes (text ++ [point]) = 0 := by
  rw [slashes, List.rtakeWhile_concat_neg _ _ _ (by simpa using other)]
  rfl

theorem even_slashes_escaped (text : List Point) : Even (slashes (escaped text)) := by
  rw [escaped_eq]
  induction text using List.reverseRecOn with
  | nil => exact ⟨0, rfl⟩
  | append_singleton text last induction =>
      rw [List.flatMap_append, List.flatMap_singleton]
      rcases escapePoint_cases last with
        ⟨-, same⟩ | ⟨-, same⟩ | ⟨-, same⟩ | ⟨plain, -, -, same⟩
      · rw [same, List.append_cons, slashes_concat_slash, slashes_concat_slash, Nat.add_assoc]
        exact induction.add ⟨1, rfl⟩
      · rw [same, List.append_cons, slashes_concat_of_ne (by decide)]
        exact ⟨0, rfl⟩
      · rw [same, List.append_cons, slashes_concat_of_ne (by decide)]
        exact ⟨0, rfl⟩
      · rw [same, slashes_concat_of_ne plain]
        exact ⟨0, rfl⟩

theorem eq_of_escapePoint_eq {point : Point} {before after : List Point}
    (split : escapePoint point = before ++ .char '"' :: after) : before = [.char '\\'] := by
  rcases escapePoint_cases point with
    ⟨-, same⟩ | ⟨-, same⟩ | ⟨-, same⟩ | ⟨-, plain, -, same⟩
  · simp [same, List.cons_eq_append_iff] at split
  · have parts : before = [.char '\\'] ∧ after = [] := by
      simpa [same, List.cons_eq_append_iff] using split
    exact parts.1
  · simp [same, List.cons_eq_append_iff] at split
  · simp [same, List.cons_eq_append_iff, plain.symm] at split

theorem odd_slashes_of_quote {text before after : List Point}
    (split : escaped text = before ++ .char '"' :: after) : Odd (slashes before) := by
  induction text using List.reverseRecOn generalizing after with
  | nil => simp [escaped, replaceAll] at split
  | append_singleton text last induction =>
      rw [escaped_eq, List.flatMap_append, List.flatMap_singleton, ← escaped_eq] at split
      rcases List.append_eq_append_iff.mp split with ⟨own, rfl, inLast⟩ | ⟨rest, earlier, inLast⟩
      · rw [eq_of_escapePoint_eq inLast, slashes_concat_slash]
        exact (even_slashes_escaped text).add_one
      · cases rest with
        | nil => cases @eq_of_escapePoint_eq last [] after inLast.symm
        | cons quote rest =>
            rcases List.cons.inj inLast with ⟨rfl, -⟩
            exact induction earlier

/-! ## Tokens -/

/-- A token that stands for a text between quotes. -/
structure Quotes (token text : Text) : Prop where
  framed : token.toList = .char '"' :: (escaped text.toList ++ [.char '"'])
  whole : .char '\n' ∉ token.toList
  inside : ∀ before after, escaped text.toList = before ++ .char '"' :: after → Odd (slashes before)
  closing : Even (slashes (escaped text.toList))
  undone : readToken token.toList = some (text, [])

theorem quotes_quote (text : Text) : Quotes (quote text) text where
  framed := by rw [toList_quote, escaped_eq]
  whole := feed_not_mem_quote text
  inside _ _ := odd_slashes_of_quote
  closing := even_slashes_escaped text.toList
  undone := by simpa using readToken_quote text []

theorem idToken_injective : Function.Injective idToken := by
  have read (id : Text) : readToken ((idToken id).toList ++ []) = some (id, []) :=
    readToken_idToken id rfl
  intro id other same
  have both := read id
  rw [same, read other] at both
  exact (Prod.mk.inj (Option.some.inj both)).1.symm

theorem valueToken_text (id : Text) : valueToken (.text id) = .ok (idToken id) := by
  by_cases empty : id = ""
  · subst empty
    rfl
  · simp [valueToken, Value.isGiven, empty]

/-- Every text has a quoted token, on one line, from which it is taken back, and whose quotes but
the outer ones are escaped. Every id has a token, and ids with the same token, whether it has quotes
or not, are the same. -/
theorem tokens_undone :
    (∀ text, quoteValue (.text text) = .ok (quote text) ∧ Quotes (quote text) text) ∧
      (∀ id, valueToken (.text id) = .ok (idToken id)) ∧
      ∀ id other, idToken id = idToken other → id = other :=
  ⟨fun text => ⟨quoteValue_text text, quotes_quote text⟩, valueToken_text,
    fun _ _ same => idToken_injective same⟩

example : quote "\\n\"\n" = "\"\\\\n\\\"\\n\"" := by decide +kernel

end ScreenFlow.Diagram
