import Mathlib.Tactic.SplitIfs
import ScreenFlow.Json.Writer

namespace ScreenFlow

/-! Strings of JSON text. What is written for a text reads back as the text: a character is one code
unit or, if it is escaped and lies beyond the basic plane, a pair of surrogates. -/

/-! ## Hexadecimal digits -/

namespace Text

theorem hexValue?_hexDigit {value : Nat} (small : value < 16) :
    hexValue? (hexDigit value) = some value := by
  have each : ∀ digit : Fin 16, hexValue? (hexDigit digit) = some digit.val := by decide
  exact each ⟨value, small⟩

theorem hex_four (number : Nat) :
    hex number 4 = [hexDigit (number / 4096 % 16), hexDigit (number / 256 % 16),
      hexDigit (number / 16 % 16), hexDigit (number % 16)] := by
  simp [hex, Nat.div_div_eq_div_mul]

end Text

/-! ## Surrogates -/

namespace Text.Utf16

variable {character : Char}

theorem isHighSurrogate_toNat (character : Char) : isHighSurrogate character.toNat = false := by
  have valid : character.toNat.isValidChar := character.valid
  simp only [isHighSurrogate, Bool.and_eq_false_iff, decide_eq_false_iff_not]
  omega

def highOf (code : Nat) : Nat := 0xd800 + (code - 0x10000) / 0x400

def lowOf (code : Nat) : Nat := 0xdc00 + (code - 0x10000) % 0x400

theorem highOf_lt {code : Nat} (small : code < 0x110000) : highOf code < 0xdc00 := by
  rw [highOf]
  omega

theorem lowOf_lt (code : Nat) : lowOf code < 0xe000 := by
  rw [lowOf]
  omega

theorem toNat_lt (character : Char) : character.toNat < 0x110000 := by
  have valid : character.toNat.isValidChar := character.valid
  omega

theorem isHighSurrogate_highOf (character : Char) :
    isHighSurrogate (highOf character.toNat) = true := by
  have small := highOf_lt (toNat_lt character)
  simp only [isHighSurrogate, Bool.and_eq_true, decide_eq_true_eq]
  exact ⟨Nat.le_add_right _ _, small⟩

theorem isLowSurrogate_lowOf (code : Nat) : isLowSurrogate (lowOf code) = true := by
  simp only [isLowSurrogate, Bool.and_eq_true, decide_eq_true_eq]
  exact ⟨Nat.le_add_right _ _, lowOf_lt code⟩

theorem isHighSurrogate_lowOf (code : Nat) : isHighSurrogate (lowOf code) = false := by
  have large : ¬ lowOf code < 0xdc00 := by
    rw [lowOf]
    omega
  rw [isHighSurrogate, decide_eq_false large, Bool.and_false]

theorem joinSurrogates_highOf_lowOf (beyond : 0x10000 ≤ character.toNat) :
    joinSurrogates (highOf character.toNat) (lowOf character.toNat) = character := by
  have code : 0x10000 + (highOf character.toNat - 0xd800) * 0x400 +
      (lowOf character.toNat - 0xdc00) = character.toNat := by
    rw [highOf, lowOf]
    omega
  rw [joinSurrogates, code, Char.ofNat_toNat]

end Text.Utf16

/-! ## Characters -/

namespace Json

open Text.Utf16

theorem extend_extend (outer inner : List Point → List Point)
    (reading : Except Stuck (List Point × List Point)) :
    extend outer (extend inner reading) = extend (fun points => outer (inner points)) reading := by
  cases reading <;> rfl

theorem joinUnit_of_unpaired {unit : Nat} (single : isHighSurrogate unit = false)
    (text : List Point) : joinUnit unit text = (.ofNat unit :: ·) := by
  funext points
  unfold joinUnit
  split
  · rw [single, Bool.false_and, if_neg Bool.false_ne_true]
  · rfl

theorem joinUnit_pair {character : Char} (beyond : 0x10000 ≤ character.toNat)
    (text points : List Point) :
    joinUnit (highOf character.toNat) (.char '\\' :: .char 'u' :: text)
      (.ofNat (lowOf character.toNat) :: points) = .char character :: points := by
  have low := lowOf_lt character.toNat
  rw [joinUnit, Point.toNat_ofNat (by omega), isHighSurrogate_highOf, isLowSurrogate_lowOf,
    Bool.and_true, if_pos rfl, joinSurrogates_highOf_lowOf beyond]

theorem digit?_hexDigit {value : Nat} (small : value < 16) :
    digit? (.char (Text.hexDigit value)) = some value :=
  Text.hexValue?_hexDigit small

theorem unit?_hex {unit : Nat} (small : unit < 0x10000) :
    unit? (.char (Text.hexDigit (unit / 4096 % 16))) (.char (Text.hexDigit (unit / 256 % 16)))
      (.char (Text.hexDigit (unit / 16 % 16))) (.char (Text.hexDigit (unit % 16))) =
        some unit := by
  simp only [unit?, digit?_hexDigit (Nat.mod_lt _ (by decide : 0 < 16)), Option.pure_def,
    Option.bind_eq_bind, Option.bind_some, Option.some.injEq]
  omega

variable {start tail : List Point}

theorem readText_escapeUnit {unit : Nat} (small : unit < 0x10000) (more : tail ≠ []) :
    readText start (escapeUnit unit ++ tail) =
      extend (joinUnit unit tail) (readText start tail) := by
  cases tail with
  | nil => exact absurd rfl more
  | cons next tail =>
      simp [escapeUnit, Text.hex_four, readText, unit?_hex small]

theorem readText_escapeUnicode (character : Char) (more : tail ≠ []) :
    readText start (escapeUnicode character.toNat ++ tail) =
      extend (.char character :: ·) (readText start tail) := by
  have high := highOf_lt (toNat_lt character)
  have low := lowOf_lt character.toNat
  rw [escapeUnicode]
  by_cases basic : character.toNat < 0x10000
  · rw [if_pos basic, readText_escapeUnit basic more]
    rw [joinUnit_of_unpaired (isHighSurrogate_toNat character), Point.ofNat_toNat]
  · rw [if_neg basic, List.append_assoc, ← highOf, ← lowOf,
      readText_escapeUnit (by omega) (by simp [escapeUnit]),
      readText_escapeUnit (by omega) more, extend_extend,
      joinUnit_of_unpaired (isHighSurrogate_lowOf _)]
    simp only [escapeUnit, List.cons_append, joinUnit_pair (Nat.not_lt.mp basic)]

theorem readText_escaped {letter : Point} {meant : Char} (escape : escaped? letter = some meant)
    (tail : List Point) :
    readText start (.char '\\' :: letter :: tail) =
      extend (.char meant :: ·) (readText start tail) := by
  have other : letter ≠ .char 'u' := by
    rintro rfl
    cases escape
  simp [readText, other, escape]

theorem readText_plain {point : Point} (quote : point ≠ .char '"')
    (backslash : point ≠ .char '\\') (printable : ¬ point.toNat < 0x20) (tail : List Point) :
    readText start (point :: tail) = extend (point :: ·) (readText start tail) := by
  rw [readText, if_neg printable]
  all_goals simp [quote, backslash]

/-- How a point is written: with a letter that stands for it, by its number, or as it is. -/
inductive Spelling (escapesUnicode : Bool) (point : Point) : List Point → Prop where
  | letter {letter : Point} {meant : Char} (escape : escaped? letter = some meant)
      (same : point = .char meant) : Spelling escapesUnicode point [.char '\\', letter]
  | number (escaped : escapesUnicode = true ∨ point.toNat < 0x20) :
      Spelling escapesUnicode point (escapeUnicode point.toNat)
  | plain (quote : point ≠ .char '"') (backslash : point ≠ .char '\\')
      (printable : ¬ point.toNat < 0x20) (ascii : escapesUnicode = true → point.toNat < 0x7f) :
      Spelling escapesUnicode point [point]

theorem spelling_writePoint (escapesUnicode : Bool) (point : Point) :
    Spelling escapesUnicode point (writePoint escapesUnicode point) := by
  rw [writePoint]
  split_ifs with quote backslash lineFeed carriageReturn tab backspace formFeed control beyond
  · exact .letter rfl quote
  · exact .letter rfl backslash
  · exact .letter rfl lineFeed
  · exact .letter rfl carriageReturn
  · exact .letter rfl tab
  · exact .letter rfl backspace
  · exact .letter rfl formFeed
  · exact .number (.inr control)
  · simp only [Bool.and_eq_true, decide_eq_true_eq] at beyond
    exact .number (.inl beyond.1)
  · simp only [Bool.and_eq_true, decide_eq_true_eq, not_and, Nat.not_le] at beyond
    exact .plain quote backslash control beyond

theorem readText_writePoint {escapesUnicode : Bool} {point : Point}
    (legible : escapesUnicode = true → point.isChar = true) (more : tail ≠ []) :
    readText start (writePoint escapesUnicode point ++ tail) =
      extend (point :: ·) (readText start tail) := by
  have spelled := spelling_writePoint escapesUnicode point
  generalize writePoint escapesUnicode point = written at spelled ⊢
  cases spelled with
  | letter escape same =>
      subst same
      exact readText_escaped escape tail
  | number escaped =>
      cases point with
      | char character => exact readText_escapeUnicode character more
      | surrogate index =>
          rcases escaped with escaped | control
          · exact absurd (legible escaped) Bool.false_ne_true
          · rw [Point.toNat] at control
            omega
  | plain quote backslash printable ascii => exact readText_plain quote backslash printable tail

/-! ## Texts -/

/-- A text reads back as it was written. If it is written with escapes it must not hold surrogates,
which might be taken for a pair. -/
theorem readText_written {escapesUnicode : Bool} {content : List Point}
    (legible : escapesUnicode = true → content.all Point.isChar = true) (rest : List Point) :
    readText start (content.flatMap (writePoint escapesUnicode) ++ .char '"' :: rest) =
      .ok (content, rest) := by
  induction content with
  | nil => rfl
  | cons point content induction =>
      simp only [List.all_cons, Bool.and_eq_true] at legible
      rw [List.flatMap_cons, List.append_assoc,
        readText_writePoint (fun escapes => (legible escapes).1) (by simp),
        induction fun escapes => (legible escapes).2]
      rfl

/-! ## ASCII -/

def Ascii (text : List Point) : Prop := ∀ letter ∈ text, letter.toNat < 0x80

theorem ascii_nil : Ascii [] := by simp [Ascii]

theorem ascii_of_all {text : List Point}
    (all : (text.all fun letter => decide (letter.toNat < 0x80)) = true) : Ascii text := by
  rw [List.all_eq_true] at all
  exact fun letter member => of_decide_eq_true (all letter member)

theorem ascii_cons {letter : Point} {text : List Point} :
    Ascii (letter :: text) ↔ letter.toNat < 0x80 ∧ Ascii text :=
  List.forall_mem_cons

theorem ascii_append {text rest : List Point} : Ascii (text ++ rest) ↔ Ascii text ∧ Ascii rest :=
  List.forall_mem_append

theorem ascii_flatMap {α : Type} {items : List α} {spell : α → List Point} :
    Ascii (items.flatMap spell) ↔ ∀ item ∈ items, Ascii (spell item) :=
  List.forall_mem_flatMap

theorem ascii_hexDigit {value : Nat} (small : value < 16) :
    (Text.hexDigit value).toNat < 0x80 := by
  have each : ∀ digit : Fin 16, (Text.hexDigit digit).toNat < 0x80 := by decide
  exact each ⟨value, small⟩

theorem ascii_escapeUnit (unit : Nat) : Ascii (escapeUnit unit) := by
  rw [escapeUnit, Text.hex_four]
  simp only [List.map_cons, List.map_nil, ascii_cons]
  refine ⟨by decide, by decide, ?_, ?_, ?_, ?_, ascii_nil⟩
  all_goals exact ascii_hexDigit (Nat.mod_lt _ (by decide))

theorem ascii_escapeUnicode (code : Nat) : Ascii (escapeUnicode code) := by
  rw [escapeUnicode]
  split
  · exact ascii_escapeUnit _
  · exact ascii_append.mpr ⟨ascii_escapeUnit _, ascii_escapeUnit _⟩

theorem ascii_of_escaped? {letter : Point} {meant : Char} (escape : escaped? letter = some meant) :
    letter.toNat < 0x80 := by
  rw [escaped?.eq_def] at escape
  split at escape <;> first | decide | cases escape

theorem ascii_writePoint (point : Point) : Ascii (writePoint true point) := by
  have spelled := spelling_writePoint true point
  generalize writePoint true point = written at spelled ⊢
  cases spelled with
  | letter escape same =>
      exact ascii_cons.mpr ⟨by decide, ascii_cons.mpr ⟨ascii_of_escaped? escape, ascii_nil⟩⟩
  | number escaped => exact ascii_escapeUnicode point.toNat
  | plain quote backslash printable ascii =>
      have small := ascii rfl
      exact ascii_cons.mpr ⟨by omega, ascii_nil⟩

theorem ascii_writeText (content : Text) : Ascii (writeText true content) := by
  rw [writeText, ascii_cons, ascii_append, ascii_flatMap]
  exact ⟨by decide, fun point _ => ascii_writePoint point,
    ascii_cons.mpr ⟨by decide, ascii_nil⟩⟩

end Json

end ScreenFlow
