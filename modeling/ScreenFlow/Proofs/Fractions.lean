import ScreenFlow.Number.Shortest
import ScreenFlow.Proofs.Numerals

namespace ScreenFlow

/-! Numerals with a fraction or an exponent. The digits of a floating point number are such a
numeral, positional or scientific, and it is read as a number whatever follows that ends it. -/

/-! ## Digits of a number -/

namespace Decimal

variable {number : Binary64} {numerator denominator : Nat} {decimal : Decimal}

theorem digits_pos_of_onGrid? {exponent : Int}
    (nonzero : Binary64.zero false ≠ number)
    (found : onGrid? number numerator denominator exponent = some decimal) :
    0 < decimal.digits := by
  have counted : ∀ count, Binary64.ofDecimal false count exponent = number → 0 < count := by
    intro count same
    refine Nat.pos_of_ne_zero fun zero => nonzero ?_
    rw [← same, zero]
    rfl
  have shape : ∃ near far, onGrid? number numerator denominator exponent =
      if Binary64.ofDecimal false near exponent = number then some ⟨near, exponent⟩
      else if Binary64.ofDecimal false far exponent = number then some ⟨far, exponent⟩
      else none := by
    simp only [onGrid?, decide_eq_true_eq]
    exact ⟨_, _, rfl⟩
  rcases shape with ⟨near, far, shape⟩
  rw [shape] at found
  split at found
  · next same =>
      rw [← Option.some.inj found]
      exact counted near same
  · split at found
    · next same =>
        rw [← Option.some.inj found]
        exact counted far same
    · cases found

theorem digits_firstGrid_pos (nonzero : Binary64.zero false ≠ number) (steps : Nat)
    (exponent : Int) : 0 < (firstGrid number numerator denominator exponent steps).digits := by
  induction steps generalizing exponent with
  | zero => exact Nat.lt_of_lt_of_le Nat.one_pos (Nat.le_max_left 1 _)
  | succ steps induction =>
      rw [firstGrid]
      split
      · next found => exact digits_pos_of_onGrid? nonzero found
      · exact induction (exponent - 1)

theorem digits_shortest_pos {significand : Nat} (exponent : Int) (filled : significand ≠ 0) :
    0 < (shortest significand exponent).digits := by
  refine digits_firstGrid_pos (fun same => filled ?_) 17 _
  exact (Binary64.finite.inj same).2.1.symm

end Decimal

namespace NumberFormat

theorem exists_significantDigits {number : Nat} (positive : 0 < number) :
    ∃ first others, significantDigits (digitText number) = first :: others ∧ first ≠ '0' ∧
      ∀ digit ∈ first :: others, digit.isDigit = true := by
  have spelled : digitText number = Nat.toDigits 10 number := Nat.toList_repr
  have all := Json.isDigit_of_mem_toDigits number
  rcases Json.head_toDigits_ne_zero positive with ⟨first, others, digits, nonzero⟩
  have kept : significantDigits (digitText number) =
      first :: (others.reverse.dropWhile (· = '0')).reverse := by
    rw [significantDigits, spelled, digits, List.reverse_cons, List.dropWhile_append]
    split
    · next none =>
        rw [List.isEmpty_iff.mp none]
        simp [nonzero]
    · simp
  refine ⟨first, _, kept, nonzero, fun digit member => all digit ?_⟩
  rw [digits]
  rcases List.mem_cons.mp member with rfl | member
  · exact List.mem_cons_self
  · have among := (List.dropWhile_sublist _).mem (List.mem_reverse.mp member)
    exact List.mem_cons_of_mem _ (List.mem_reverse.mp among)

end NumberFormat

namespace Json

/-! ## Reading -/

inductive IsWhole : List Char → Prop
  | zero : IsWhole ['0']
  | digits {first : Char} {others : List Char} (nonzero : first ≠ '0')
      (all : ∀ digit ∈ first :: others, digit.isDigit = true) : IsWhole (first :: others)

/-- The characters are read as a floating point number after any sign, whatever follows that ends
it. -/
structure Fractional (text : List Char) : Prop where
  begins : ∃ first others, text = first :: others ∧ first.isDigit = true
  read : ∀ negative, ∃ number, ∀ start rest, Ends rest →
    readUnsigned negative start (text.map .char ++ rest) = .ok (.float number, rest)

variable {whole fraction exponent : List Char} {digits rest : List Point} {sign : Char}

theorem IsWhole.begins (given : IsWhole whole) :
    ∃ first others, whole = first :: others ∧ first.isDigit = true := by
  cases given with
  | zero => exact ⟨'0', [], rfl, rfl⟩
  | digits _ all => exact ⟨_, _, rfl, all _ List.mem_cons_self⟩

theorem readWhole_of_isWhole (given : IsWhole whole) (stops : Stops rest) :
    readWhole (whole.map .char ++ rest) = some (whole.map .char, rest) := by
  cases given with
  | zero => rfl
  | @digits first others nonzero all =>
      have spread : ∀ digit ∈ (first :: others).map Point.char, digit.isDigit = true :=
        List.forall_mem_map.mpr all
      exact readWhole_digits spread (by simpa using nonzero) stops

theorem readFraction_digits (filled : digits ≠ [])
    (all : ∀ digit ∈ digits, digit.isDigit = true) (stops : Stops rest) :
    readFraction (.char '.' :: (digits ++ rest)) = (digits, rest) := by
  have span := span_digits all stops
  simp [readFraction, span, filled]

theorem exists_readExponent (signed : sign = '-' ∨ sign = '+') (filled : digits ≠ [])
    (all : ∀ digit ∈ digits, digit.isDigit = true) :
    ∃ size, ∀ rest, Stops rest →
      readExponent (.char 'e' :: .char sign :: (digits ++ rest)) = (some size, rest) := by
  rcases signed with rfl | rfl
  · refine ⟨-(natOfDigits digits : Int), fun rest stops => ?_⟩
    have span := span_digits all stops
    simp [readExponent, span, filled]
  · refine ⟨(natOfDigits digits : Int), fun rest stops => ?_⟩
    have span := span_digits all stops
    simp [readExponent, span, filled]

theorem fractional_of_parts {tail : List Char} {power : Option Int} (given : IsWhole whole)
    (stops : ∀ rest, Stops (tail.map .char ++ rest))
    (parts : ∀ rest, Ends rest → ∃ middle,
      readFraction (tail.map .char ++ rest) = (digits, middle) ∧
        readExponent middle = (power, rest))
    (fractional : (digits.isEmpty && power.isNone) = false) : Fractional (whole ++ tail) := by
  rcases given.begins with ⟨first, others, begins, digit⟩
  refine ⟨⟨first, others ++ tail, by rw [begins]; rfl, digit⟩, fun negative => ?_⟩
  refine ⟨.ofDecimal negative (natOfDigits (whole.map .char ++ digits))
    (power.getD 0 - digits.length), fun start rest ends => ?_⟩
  rcases parts rest ends with ⟨middle, fractionRead, powerRead⟩
  rw [List.map_append, List.append_assoc]
  simp only [readUnsigned, readWhole_of_isWhole given (stops rest), fractionRead, powerRead,
    fractional]
  rfl

theorem fractional_point (given : IsWhole whole) (filled : fraction ≠ [])
    (all : ∀ digit ∈ fraction, digit.isDigit = true) :
    Fractional (whole ++ '.' :: fraction) := by
  have parts (rest : List Point) (ends : Ends rest) :
      ∃ middle, readFraction (('.' :: fraction).map .char ++ rest) =
          (fraction.map .char, middle) ∧ readExponent middle = (none, rest) :=
    ⟨rest, readFraction_digits (by simpa using filled) (List.forall_mem_map.mpr all) ends.stops,
      readExponent_of_ends ends⟩
  exact fractional_of_parts given (fun rest => stops_cons rfl) parts (by simp [filled])

theorem fractional_power (given : IsWhole whole) (signed : sign = '-' ∨ sign = '+')
    (filled : exponent ≠ []) (all : ∀ digit ∈ exponent, digit.isDigit = true) :
    Fractional (whole ++ 'e' :: sign :: exponent) := by
  have written : exponent.map Point.char ≠ [] := by simpa using filled
  rcases exists_readExponent signed written (List.forall_mem_map.mpr all) with ⟨size, power⟩
  have parts (rest : List Point) (ends : Ends rest) :
      ∃ middle, readFraction (('e' :: sign :: exponent).map .char ++ rest) = ([], middle) ∧
        readExponent middle = (some size, rest) :=
    ⟨_, by simp [readFraction], power rest ends.stops⟩
  exact fractional_of_parts given (fun rest => stops_cons rfl) parts rfl

theorem fractional_point_power (given : IsWhole whole) (pointed : fraction ≠ [])
    (among : ∀ digit ∈ fraction, digit.isDigit = true) (signed : sign = '-' ∨ sign = '+')
    (filled : exponent ≠ []) (all : ∀ digit ∈ exponent, digit.isDigit = true) :
    Fractional (whole ++ '.' :: (fraction ++ 'e' :: sign :: exponent)) := by
  have written : exponent.map Point.char ≠ [] := by simpa using filled
  rcases exists_readExponent signed written (List.forall_mem_map.mpr all) with ⟨size, power⟩
  have parts (rest : List Point) (ends : Ends rest) :
      ∃ middle, readFraction (('.' :: (fraction ++ 'e' :: sign :: exponent)).map .char ++ rest) =
          (fraction.map .char, middle) ∧ readExponent middle = (some size, rest) := by
    rw [List.map_cons, List.map_append, List.cons_append, List.append_assoc]
    exact ⟨_, readFraction_digits (by simpa using pointed) (List.forall_mem_map.mpr among)
      (stops_cons rfl), power rest ends.stops⟩
  exact fractional_of_parts given (fun rest => stops_cons rfl) parts (by simp)

end Json

namespace NumberFormat

open Json

/-! ## Writing -/

variable {first : Char} {others : List Char}

theorem isDigit_of_mem_replicate {count : Nat} {digit : Char}
    (member : digit ∈ List.replicate count '0') : digit.isDigit = true := by
  rw [List.eq_of_mem_replicate member]
  rfl

theorem fractional_positional (nonzero : first ≠ '0')
    (all : ∀ digit ∈ first :: others, digit.isDigit = true) (leading : Int) :
    Fractional (positional (first :: others) leading) := by
  cases leading with
  | ofNat size =>
      have padded : ∀ digit ∈ first :: others ++
          List.replicate (size + 1 - (first :: others).length) '0', digit.isDigit = true := by
        intro digit member
        rcases List.mem_append.mp member with member | member
        · exact all digit member
        · exact isDigit_of_mem_replicate member
      refine fractional_point ?_ ?_ ?_
      · rw [List.cons_append, List.take_succ_cons]
        refine .digits nonzero fun digit member => padded digit ?_
        rw [← List.take_succ_cons] at member
        exact List.mem_of_mem_take member
      · split
        · simp
        · next filled => simpa using filled
      · split
        · simp
        · exact fun digit member => padded digit (List.mem_of_mem_drop member)
  | negSucc zeros =>
      refine @fractional_point ['0'] _ .zero (by simp) fun digit member => ?_
      rcases List.mem_append.mp member with member | member
      · exact isDigit_of_mem_replicate member
      · exact all digit member

theorem fractional_scientific (format : NumberFormat) (nonzero : first ≠ '0')
    (all : ∀ digit ∈ first :: others, digit.isDigit = true) (leading : Int) :
    Fractional (format.scientific (first :: others) leading) := by
  have whole : IsWhole [first] := .digits nonzero (by simpa using all first List.mem_cons_self)
  have signed : ∀ sign, sign = (if leading < 0 then '-' else '+') → sign = '-' ∨ sign = '+' := by
    rintro sign rfl
    split
    · exact .inl rfl
    · exact .inr rfl
  have spelled : digitText leading.natAbs = Nat.toDigits 10 leading.natAbs := Nat.toList_repr
  have filled (padding : List Char) : padding ++ digitText leading.natAbs ≠ [] := by
    simp [spelled, Nat.toDigits_ne_nil]
  have digits (count : Nat) : ∀ digit ∈ List.replicate count '0' ++ digitText leading.natAbs,
      digit.isDigit = true := by
    intro digit member
    rcases List.mem_append.mp member with member | member
    · exact isDigit_of_mem_replicate member
    · exact isDigit_of_mem_toDigits _ digit (spelled ▸ member)
  cases others with
  | nil => exact fractional_power whole (signed _ rfl) (filled _) (digits _)
  | cons next others =>
      have behind : ∀ digit ∈ next :: others, digit.isDigit = true := fun digit member =>
        all digit (List.mem_cons_of_mem first member)
      exact fractional_point_power whole (List.cons_ne_nil next others) behind (signed _ rfl)
        (filled _) (digits _)

theorem render_cases (format : NumberFormat) (number : Binary64) :
    format.render number = format.undefinedText ∨
      (∃ negative : Bool,
        format.render number = (if negative then "-" else "") ++ format.infinityText) ∨
      ∃ (negative : Bool) (text : List Char), Fractional text ∧
        (format.render number).toList = if negative then '-' :: text else text := by
  cases number with
  | nan => exact .inl rfl
  | infinity negative => exact .inr (.inl ⟨negative, rfl⟩)
  | finite negative significand exponent =>
      refine .inr (.inr ⟨negative, _, ?_, String.toList_ofList⟩)
      split
      · exact @fractional_point ['0'] ['0'] .zero (by simp) (by simp)
      · next filled =>
          rcases exists_significantDigits (Decimal.digits_shortest_pos exponent filled) with
            ⟨first, others, digits, nonzero, all⟩
          dsimp only
          rw [digits]
          split
          · exact fractional_positional nonzero all _
          · exact format.fractional_scientific nonzero all _

end NumberFormat

end ScreenFlow
