import Std.Data.String.ToNat
import ScreenFlow.Json.Writer

namespace ScreenFlow

/-! Numerals of JSON text. A whole number that is not too long reads back from its decimal numeral,
if nothing follows that would make the numeral longer. -/

namespace Json

/-! ## Digits -/

theorem head_toDigits_ne_zero {number : Nat} (positive : 0 < number) :
    ∃ first rest, Nat.toDigits 10 number = first :: rest ∧ first ≠ '0' := by
  induction number using Nat.strongRecOn with
  | ind number induction =>
      rw [Nat.toDigits_eq_if (by decide)]
      split
      · next small =>
          have each : ∀ digit : Fin 10, 0 < digit.val → digit.val.digitChar ≠ '0' := by decide
          exact ⟨_, [], rfl, each ⟨number, small⟩ positive⟩
      · next large =>
          rcases induction (number / 10) (by omega) (by omega) with ⟨first, rest, digits, nonzero⟩
          exact ⟨first, _, by rw [digits, List.cons_append], nonzero⟩

theorem isDigit_of_mem_toDigits (number : Nat) :
    ∀ digit ∈ Nat.toDigits 10 number, digit.isDigit = true :=
  fun _ member => Nat.isDigit_of_mem_toDigits (by decide) (by decide) member

def digitsOf (number : Nat) : List Point := (Nat.toDigits 10 number).map .char

theorem head_digitsOf_ne_zero {number : Nat} (positive : 0 < number) :
    ∃ first rest, digitsOf number = first :: rest ∧ first ≠ .char '0' := by
  rcases head_toDigits_ne_zero positive with ⟨first, rest, digits, nonzero⟩
  exact ⟨first, rest.map .char, by rw [digitsOf, digits, List.map_cons], by simpa using nonzero⟩

theorem isDigit_of_mem_digitsOf (number : Nat) :
    ∀ digit ∈ digitsOf number, digit.isDigit = true := by
  rw [digitsOf, List.forall_mem_map]
  exact isDigit_of_mem_toDigits number

theorem natOfDigits_digitsOf (number : Nat) : natOfDigits (digitsOf number) = number := by
  have read := @Nat.ofDigitChars_ten_toDigits number
  rw [Nat.ofDigitChars_eq_foldl] at read
  simp only [Nat.mul_comm 10] at read
  rw [natOfDigits, digitsOf, List.foldl_map]
  exact read

theorem isReadable_digitsOf_iff (number : Nat) :
    Whole.isReadable 10 (digitsOf number).length = true ↔
      number < Nat.pow 10 Whole.maxDigits := by
  rw [Whole.isReadable]
  simp only [bne_self_eq_false, Bool.false_or, decide_eq_true_eq]
  rw [digitsOf, List.length_map, Nat.length_toDigits_le_iff (by decide) (by decide), Nat.pow_eq]

def Ends (rest : List Point) : Prop :=
  ∀ next ∈ rest.head?, next.isDigit = false ∧ next ≠ '.' ∧ next ≠ 'e' ∧ next ≠ 'E'

def Stops (rest : List Point) : Prop := ∀ next ∈ rest.head?, next.isDigit = false

variable {rest : List Point}

theorem Ends.stops (ends : Ends rest) : Stops rest := fun next first => (ends next first).1

theorem stops_cons {next : Point} {rest : List Point} (other : next.isDigit = false) :
    Stops (next :: rest) := by
  intro first same
  rcases Option.some.inj same with rfl
  exact other

theorem span_digits {digits : List Point} (all : ∀ digit ∈ digits, digit.isDigit = true)
    (stops : Stops rest) :
    (digits ++ rest).takeWhile Point.isDigit = digits ∧
      (digits ++ rest).dropWhile Point.isDigit = rest := by
  rw [List.takeWhile_append_of_pos all, List.dropWhile_append_of_pos all]
  cases rest with
  | nil => simp
  | cons next rest => simp [stops next rfl]

theorem readWhole_digits {first : Point} {others : List Point}
    (all : ∀ digit ∈ first :: others, digit.isDigit = true) (nonzero : first ≠ .char '0')
    (stops : Stops rest) :
    readWhole (first :: (others ++ rest)) = some (first :: others, rest) := by
  have span := span_digits all stops
  rw [List.cons_append] at span
  simp [readWhole, nonzero, span]

theorem readWhole_digitsOf (number : Nat) (ends : Ends rest) :
    readWhole (digitsOf number ++ rest) = some (digitsOf number, rest) := by
  rcases Nat.eq_zero_or_pos number with rfl | positive
  · rfl
  · rcases head_digitsOf_ne_zero positive with ⟨first, others, digits, nonzero⟩
    have all := isDigit_of_mem_digitsOf number
    rw [digits] at all ⊢
    exact readWhole_digits all nonzero ends.stops

theorem readFraction_of_ends (ends : Ends rest) : readFraction rest = ([], rest) := by
  cases rest with
  | nil => rfl
  | cons next rest =>
      have other := (ends next rfl).2.1
      simp [readFraction, other]

theorem readExponent_of_ends (ends : Ends rest) : readExponent rest = (none, rest) := by
  cases rest with
  | nil => rfl
  | cons next rest =>
      have other := (ends next rfl).2.2
      simp [readExponent, other]

theorem readUnsigned_digitsOf (negative : Bool) (start : List Point) (number : Nat)
    (short : number < Nat.pow 10 Whole.maxDigits) (ends : Ends rest) :
    readUnsigned negative start (digitsOf number ++ rest) =
      .ok (.int (if negative then -(number : Int) else number), rest) := by
  have readable := (isReadable_digitsOf_iff number).mpr short
  simp only [readUnsigned, readWhole_digitsOf number ends, readFraction_of_ends ends,
    readExponent_of_ends ends, readable, natOfDigits_digitsOf]
  rfl

theorem toList_toString_ofNat (number : Nat) :
    (Text.ofString (toString (Int.ofNat number))).toList = digitsOf number :=
  congrArg (List.map Point.char) Nat.toList_repr

theorem toList_toString_negSucc (number : Nat) :
    (Text.ofString (toString (Int.negSucc number))).toList =
      .char '-' :: digitsOf (number + 1) := by
  change (Text.ofString ("-" ++ Nat.repr (number + 1))).toList = _
  rw [Text.toList_ofString, String.toList_append, Nat.toList_repr]
  rfl

theorem exists_head_digitsOf (number : Nat) :
    ∃ first others, digitsOf number = first :: others ∧ first.isDigit = true := by
  cases digits : digitsOf number with
  | nil => exact absurd (List.map_eq_nil_iff.mp digits) Nat.toDigits_ne_nil
  | cons first others =>
      exact ⟨first, others, rfl, isDigit_of_mem_digitsOf number first (by simp [digits])⟩

theorem readScalar_digit {first : Point} (digit : first.isDigit = true) (text : List Point) :
    readScalar (first :: text) = readUnsigned false (first :: text) (first :: text) := by
  rw [readScalar.eq_def]
  split <;> simp_all

theorem readScalar_minus_digit {first : Point} (digit : first.isDigit = true) (text : List Point) :
    readScalar (.char '-' :: first :: text) =
      readUnsigned true ('-' :: first :: text) (first :: text) := by
  have other : first ≠ .char 'I' := by
    rintro rfl
    cases digit
  simp [readScalar, other]

theorem readScalar_toString {number : Int} (writable : Whole.isWritable number = true)
    (ends : Ends rest) :
    readScalar ((Text.ofString (toString number)).toList ++ rest) = .ok (.int number, rest) := by
  rw [Whole.isWritable, decide_eq_true_eq] at writable
  cases number with
  | ofNat size =>
      rcases exists_head_digitsOf size with ⟨first, others, digits, digit⟩
      have read := readUnsigned_digitsOf false (first :: (others ++ rest)) size writable ends
      rw [toList_toString_ofNat]
      rw [digits, List.cons_append] at read ⊢
      rw [readScalar_digit digit, read]
      rfl
  | negSucc size =>
      rcases exists_head_digitsOf (size + 1) with ⟨first, others, digits, digit⟩
      have read := readUnsigned_digitsOf true ('-' :: first :: (others ++ rest)) (size + 1)
        writable ends
      rw [toList_toString_negSucc, List.cons_append]
      rw [digits, List.cons_append] at read ⊢
      rw [readScalar_minus_digit digit, read]
      rfl

theorem exists_head_toString (number : Int) :
    ∃ first others, (Text.ofString (toString number)).toList = first :: others ∧
      (first.isDigit = true ∨ first = .char '-') := by
  cases number with
  | ofNat size =>
      rcases exists_head_digitsOf size with ⟨first, others, digits, digit⟩
      exact ⟨first, others, (toList_toString_ofNat size).trans digits, .inl digit⟩
  | negSucc size => exact ⟨'-', _, toList_toString_negSucc size, .inr rfl⟩

end Json

end ScreenFlow
