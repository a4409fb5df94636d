import Mathlib
import ScreenFlow.Proofs.Dot
import ScreenFlow.Proofs.Quoting

namespace ScreenFlow

/-! Ids in the DOT language. Without quotes an id is a word of the language, between quotes it is a
quoted text, and either way it is read as one name, from which the id is known. Only a reserved word
is none: it stands without quotes like other words. -/

namespace Diagram

/-! ## Names -/

/-- What becomes of a point in a name. Of the escapes only that of a quote is undone. -/
def named (point : Point) : List Point :=
  if point = '\\' then ['\\', '\\']
  else if point = '\n' then ['\\', 'n']
  else [point]

/-- The name that an id has in a graph. -/
def nameOf (id : Text) : Text := Text.ofList (id.toList.flatMap named)

theorem escaped_eq_named (text : List Point) :
    escaped text = replaceAll '"' ['\\', '"'] (text.flatMap named) := by
  rw [escaped_eq, replaceAll, List.flatMap_assoc]
  refine List.flatMap_congr fun point _ => ?_
  rcases escapePoint_cases point with
    ⟨rfl, same⟩ | ⟨rfl, same⟩ | ⟨rfl, same⟩ | ⟨backslash, quoted, feed, same⟩
  · rfl
  · rfl
  · rfl
  · simp [same, named, backslash, quoted, feed]

theorem nameOf_injective : Function.Injective nameOf := by
  intro id other same
  have names : id.toList.flatMap named = other.toList.flatMap named := Text.ofList.inj same
  have tokens : (quote id).toList = (quote other).toList := by
    rw [(quotes_quote id).framed, (quotes_quote other).framed, escaped_eq_named, escaped_eq_named,
      names]
  have undone := (quotes_quote id).undone
  rw [tokens, (quotes_quote other).undone] at undone
  exact (Prod.mk.inj (Option.some.inj undone)).1.symm

theorem run?_escapePoint (front : List Point) (point : Point) :
    Dot.run? (.quoted front) (escapePoint point) =
      some ([], .quoted (front ++ named point)) := by
  rcases escapePoint_cases point with
    ⟨rfl, same⟩ | ⟨rfl, same⟩ | ⟨rfl, same⟩ | ⟨backslash, quoted, feed, same⟩
  · rfl
  · rfl
  · rfl
  · simp [same, named, Dot.run?, Dot.step?, backslash, quoted, feed]

theorem run?_escaped (front text : List Point) :
    Dot.run? (.quoted front) (text.flatMap escapePoint) =
      some ([], .quoted (front ++ text.flatMap named)) := by
  induction text generalizing front with
  | nil => simp [Dot.run?]
  | cons point text induction =>
      rw [List.flatMap_cons, List.flatMap_cons, ← List.append_assoc]
      exact Dot.run?_append (run?_escapePoint front point) (induction _)

theorem run?_quote (text : Text) :
    Dot.run? .between (quote text).toList = some ([.name (nameOf text)], .between) := by
  have opened : Dot.run? .between [.char '"'] = some ([], .quoted []) := rfl
  have closed : Dot.run? (.quoted (text.toList.flatMap named)) [.char '"'] =
      some ([.name (nameOf text)], .between) := rfl
  rw [toList_quote]
  exact Dot.run?_append opened (Dot.run?_append (run?_escaped [] text.toList) closed)

/-! ## Ids without quotes -/

theorem isPart_of_isAlphanumeric {point : Point}
    (given : Text.isAlphanumeric point = true) : Dot.isPart point = true := by
  rw [Text.isAlphanumeric] at given
  split at given
  · cases point with
    | char character =>
        rw [Point.any, Char.isAlphanum, Bool.or_eq_true] at given
        rcases given with letter | digit
        · simp [Dot.isPart, Dot.isLetter, Point.any, letter]
        · simp [Dot.isPart, digit]
    | surrogate index => cases given
  · next beyond => simp [Dot.isPart, Dot.isLetter, Nat.not_lt.mp beyond]

theorem isLetter_of_isPart {point : Point} (part : Dot.isPart point = true)
    (other : Text.isDigit point = false) : Dot.isLetter point = true := by
  rw [Dot.isPart, Bool.or_eq_true] at part
  rcases part with letter | digit
  · exact letter
  · rw [Text.isDigit] at other
    split at other
    · rw [digit] at other
      cases other
    · next beyond => simp [Dot.isLetter, Nat.not_lt.mp beyond]

theorem identifier_of_isBare {id : Text} (bare : isBare id = true) : Dot.Identifier id := by
  have parts : ∀ point ∈ id.toList, Dot.isPart point = true := by
    intro point member
    rcases mem_of_isBare bare member with rfl | letter
    · decide
    · exact isPart_of_isAlphanumeric letter
  refine ⟨?_, parts⟩
  rw [isBare, Bool.and_eq_true, Bool.and_eq_true] at bare
  cases letters : id.toList with
  | nil => simp [letters] at bare
  | cons first others =>
      rw [letters] at bare parts
      have other : Text.isDigit first = false := by simpa using bare.1.1
      exact isLetter_of_isPart (parts first List.mem_cons_self) other

theorem nameOf_of_isBare {id : Text} (bare : isBare id = true) : nameOf id = id := by
  have plain : id.toList.flatMap named = id.toList.flatMap fun point => [point] := by
    refine List.flatMap_congr fun point member => ?_
    have backslash : point ≠ '\\' := by
      rintro rfl
      exact not_mem_of_isBare bare (by decide) (by decide) member
    have feed : point ≠ '\n' := by
      rintro rfl
      exact not_mem_of_isBare bare (by decide) (by decide) member
    rw [named, if_neg backslash, if_neg feed]
  rw [nameOf, plain, List.flatMap_singleton', Text.ofList_toList]

/-- The point is a letter of ASCII. -/
def IsAlpha (point : Point) : Prop := ∃ letter, point = .char letter ∧ letter.isAlpha = true

theorem toNat_of_isAlpha {point : Point} (alpha : IsAlpha point) :
    65 ≤ point.toNat ∧ point.toNat < 128 ∧ point ≠ .char '_' := by
  rcases alpha with ⟨letter, rfl, alpha⟩
  simp only [Char.isAlpha, Char.isUpper, Char.isLower, Bool.or_eq_true, Bool.and_eq_true,
    decide_eq_true_eq, UInt32.le_iff_toNat_le, ge_iff_le] at alpha
  change (65 ≤ letter.toNat ∧ letter.toNat ≤ 90) ∨
    97 ≤ letter.toNat ∧ letter.toNat ≤ 122 at alpha
  rw [Point.toNat_char]
  refine ⟨by omega, by omega, ?_⟩
  intro same
  rcases Point.char.inj same with rfl
  revert alpha
  decide

theorem isAlphanumeric_of_isAlpha {point : Point} (alpha : IsAlpha point) :
    Text.isAlphanumeric point = true := by
  rw [Text.isAlphanumeric, if_pos (toNat_of_isAlpha alpha).2.1]
  rcases alpha with ⟨letter, rfl, alpha⟩
  rw [Point.any, Char.isAlphanum, alpha, Bool.true_or]

theorem isDigit_of_isAlpha {point : Point} (alpha : IsAlpha point) :
    Text.isDigit point = false := by
  have bounds := toNat_of_isAlpha alpha
  rw [Text.isDigit, if_pos bounds.2.1, Bool.eq_false_iff]
  intro digit
  rcases alpha with ⟨letter, rfl, -⟩
  have low := (Char.isDigit_iff_toNat.mp digit).2
  change letter.toNat ≤ 57 at low
  rw [Point.toNat_char] at bounds
  omega

theorem isBare_of_isAlpha {id : Text} (filled : id.toList ≠ [])
    (letters : ∀ point ∈ id.toList, IsAlpha point) : isBare id = true := by
  have whole : id.toList.filter (· ≠ .char '_') = id.toList :=
    List.filter_eq_self.mpr fun point member =>
      decide_eq_true (toNat_of_isAlpha (letters point member)).2.2
  have numeric : id.toList.all Text.isAlphanumeric = true := List.all_eq_true.mpr
    fun point member => isAlphanumeric_of_isAlpha (letters point member)
  rw [isBare, whole, numeric, List.isEmpty_eq_false_iff.mpr filled]
  cases word : id.toList with
  | nil => exact absurd word filled
  | cons first others =>
      have begins := isDigit_of_isAlpha (letters first (word ▸ List.mem_cons_self))
      simp [begins]

theorem isBare_of_reserved {id : Text} (reserved : Dot.Reserved id) : isBare id = true := by
  rcases reserved with ⟨keyword, same⟩
  have small : keyword.word.toList.all (Point.any Char.isLower) = true := by
    cases keyword <;> rfl
  refine isBare_of_isAlpha (fun empty => ?_) fun point member => ?_
  · rw [empty] at same
    cases keyword <;> cases same
  · have lower := List.all_eq_true.mp small _ (same ▸ List.mem_map_of_mem member)
    cases point with
    | char letter => exact ⟨letter, rfl, (Char.isLower_toLower_eq_isAlpha letter).symm.trans lower⟩
    | surrogate index => cases lower

/-! ## Ids as tokens -/

def tokenOf (id : Text) : Dot.Token :=
  match Dot.Keyword.ofText? id.toList with
  | some reserved => .keyword reserved
  | none => .name (nameOf id)

theorem tokenOf_of_free {id : Text} (free : ¬ Dot.Reserved id) :
    tokenOf id = .name (nameOf id) := by
  rw [Dot.reserved_iff, Bool.not_eq_true, Option.isSome_eq_false_iff, Option.isNone_iff_eq_none]
    at free
  rw [tokenOf, free]

theorem tokenOf_of_reserved {id : Text} (reserved : Dot.Reserved id) :
    ∃ keyword, tokenOf id = .keyword keyword := by
  rcases reserved with ⟨keyword, same⟩
  exact ⟨keyword, by rw [tokenOf, Dot.Keyword.ofText?_eq_some_iff.mpr same]⟩

theorem ofWord_of_isBare {id : Text} (bare : isBare id = true) :
    Dot.Token.ofWord id.toList = tokenOf id := by
  cases word : Dot.Keyword.ofText? id.toList with
  | none => simp [Dot.Token.ofWord, tokenOf, word, nameOf_of_isBare bare]
  | some reserved => simp [Dot.Token.ofWord, tokenOf, word]

theorem tokenOf_of_not_isBare {id : Text} (quoted : ¬ isBare id = true) :
    tokenOf id = .name (nameOf id) :=
  tokenOf_of_free fun reserved => quoted (isBare_of_reserved reserved)

theorem run?_of_isBare {id : Text} (bare : isBare id = true) :
    Dot.run? .between id.toList = some ([], .word id.toList) := by
  rcases identifier_of_isBare bare with ⟨first, parts⟩
  cases letters : id.toList with
  | nil => simp [letters] at first
  | cons letter others =>
      rw [letters, List.forall_mem_cons] at parts
      have begun : Dot.step? .between letter = some ([], .word [letter]) :=
        Dot.begin?_of_isLetter (by simpa [letters] using first)
      exact Dot.run?_append (Dot.run?_singleton begun) (Dot.run?_word parts.2 [letter])

theorem run?_idToken (id : Text) {point : Point} {tokens : List Dot.Token} {next : Dot.Mode}
    (ends : Dot.isPart point = false) (begins : Dot.begin? point = some (tokens, next)) :
    Dot.run? .between ((idToken id).toList ++ [point]) = some (tokenOf id :: tokens, next) := by
  by_cases bare : isBare id = true
  · rw [idToken, if_pos bare]
    refine Dot.run?_append (run?_of_isBare bare) (Dot.run?_singleton ?_)
    simp [Dot.step?, ends, begins, ofWord_of_isBare bare]
  · rw [idToken, if_neg bare, tokenOf_of_not_isBare bare]
    exact Dot.run?_append (run?_quote id) (Dot.run?_singleton begins)

theorem tokens?_idToken (id : Text) : Dot.tokens? (idToken id) = some [tokenOf id] := by
  by_cases bare : isBare id = true
  · rw [idToken, if_pos bare, Dot.tokens?, run?_of_isBare bare]
    simp [Dot.finish?, ofWord_of_isBare bare]
  · rw [idToken, if_neg bare, tokenOf_of_not_isBare bare]
    exact Dot.tokens?_of_run (run?_quote id)

/-- A token that is one name of the language, a word without quotes or a text between quotes, and
that is read as the name of an id. -/
structure Stands (token id : Text) : Prop where
  single : Dot.tokens? token = some [.name (nameOf id)]
  form : (token = id ∧ Dot.Identifier id ∧ ¬ Dot.Reserved id) ∨ Quotes token id

theorem stands_iff (id : Text) : Stands (idToken id) id ↔ ¬ Dot.Reserved id := by
  constructor
  · intro stands reserved
    rcases tokenOf_of_reserved reserved with ⟨keyword, same⟩
    have single := stands.single
    rw [tokens?_idToken, same] at single
    cases single
  · intro free
    refine ⟨by rw [tokens?_idToken, tokenOf_of_free free], ?_⟩
    by_cases bare : isBare id = true
    · exact .inl ⟨by rw [idToken, if_pos bare], identifier_of_isBare bare, free⟩
    · rw [idToken, if_neg bare]
      exact .inr (quotes_quote id)

end Diagram

end ScreenFlow
