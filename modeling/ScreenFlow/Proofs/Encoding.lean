import Mathlib.Tactic.IntervalCases
import ScreenFlow.Json.Bytes

namespace ScreenFlow

/-! Texts as bytes and back. Every character is cut out of its bytes again, whether surrogates are
let through or not, and bytes that begin like a JSON text are taken for UTF-8. -/

namespace Text.Utf8

variable {surrogates : Bool} {character : Char} {point : Nat} {rest : List UInt8}

/-! ## Followers -/

theorem toNat_follower (bits : Nat) : (follower bits).toNat = 0x80 + bits % 0x40 := by
  rw [follower, UInt8.toNat_ofNat_of_lt' (by simp only [UInt8.size]; omega)]

def anyFollower : Nat × Nat := (0x80, 0xbf)

theorem add_follower {unfinished : Unfinished} (bits : Nat)
    (least : unfinished.next.1 ≤ 0x80 + bits % 0x40)
    (greatest : 0x80 + bits % 0x40 ≤ unfinished.next.2) :
    piecesFrom surrogates (some unfinished) (follower bits :: rest) =
      match unfinished.later with
      | [] =>
          .point (.ofNat (unfinished.bits * 0x40 + bits % 0x40)) ::
            piecesFrom surrogates none rest
      | next :: later =>
          piecesFrom surrogates
            (some ⟨unfinished.bytes ++ [follower bits], unfinished.bits * 0x40 + bits % 0x40, next,
              later⟩) rest := by
  have accepted : unfinished.accepts (follower bits) = true := by
    simp [Unfinished.accepts, toNat_follower, least, greatest]
  have kept : (0x80 + bits % 0x40) % 0x40 = bits % 0x40 := by omega
  rw [piecesFrom, if_pos accepted, Unfinished.add, toNat_follower, kept]
  cases unfinished.later <;> rfl

theorem add_last (bytes : List UInt8) (high bits : Nat) {next : Nat × Nat}
    (least : next.1 ≤ 0x80 + bits % 0x40) (greatest : 0x80 + bits % 0x40 ≤ next.2) :
    piecesFrom surrogates (some ⟨bytes, high, next, []⟩) (follower bits :: rest) =
      .point (.ofNat (high * 0x40 + bits % 0x40)) :: piecesFrom surrogates none rest :=
  add_follower bits least greatest

theorem add_next (bytes : List UInt8) (high bits : Nat) {next : Nat × Nat}
    (later : List (Nat × Nat)) (least : next.1 ≤ 0x80 + bits % 0x40)
    (greatest : 0x80 + bits % 0x40 ≤ next.2) :
    piecesFrom surrogates (some ⟨bytes, high, next, anyFollower :: later⟩)
        (follower bits :: rest) =
      piecesFrom surrogates
        (some ⟨bytes ++ [follower bits], high * 0x40 + bits % 0x40, anyFollower, later⟩) rest :=
  add_follower bits least greatest

/-! ## First bytes -/

theorem toNat_lead {lead : Nat} (small : lead < 0x100) : (UInt8.ofNat lead).toNat = lead :=
  UInt8.toNat_ofNat_of_lt' small

theorem start_single (small : point < 0x80) :
    start surrogates (UInt8.ofNat point) = .inl (.point (.ofNat point)) := by
  rw [start, toNat_lead (by omega), if_pos small]

theorem start_double (least : 0x80 ≤ point) (small : point < 0x800) :
    start surrogates (UInt8.ofNat (0xc0 + point / 0x40)) =
      .inr ⟨[UInt8.ofNat (0xc0 + point / 0x40)], point / 0x40, anyFollower, []⟩ := by
  have range : (0xc2 ≤ 0xc0 + point / 0x40 && 0xc0 + point / 0x40 < 0xe0) = true := by
    rw [Bool.and_eq_true, decide_eq_true_iff, decide_eq_true_iff]
    omega
  rw [start, toNat_lead (by omega), if_neg (by omega), if_pos range, Nat.add_sub_cancel_left]
  rfl

/-- What the first of several bytes tells: its bits, and a range within which the next one lies. -/
def Begins (surrogates : Bool) (lead bits second : Nat) (later : List (Nat × Nat)) : Prop :=
  ∃ range, start surrogates (UInt8.ofNat lead) = .inr ⟨[UInt8.ofNat lead], bits, range, later⟩ ∧
    range.1 ≤ 0x80 + second ∧ 0x80 + second ≤ range.2

theorem begins_triple (surrogates : Bool) {bits second : Nat} (small : bits < 0x10)
    (within : second < 0x40) (longer : bits = 0 → 0x20 ≤ second)
    (scalar : bits = 0xd → second < 0x20) :
    Begins surrogates (0xe0 + bits) bits second [anyFollower] := by
  by_cases zero : bits = 0
  · subst zero
    exact ⟨(0xa0, 0xbf), rfl, by grind, by grind⟩
  by_cases surrogate : bits = 0xd
  · subst surrogate
    cases surrogates with
    | false => exact ⟨(0x80, 0x9f), rfl, by grind, by grind⟩
    | true => exact ⟨anyFollower, rfl, by grind [anyFollower], by grind [anyFollower]⟩
  refine ⟨anyFollower, ?_, by grind [anyFollower], by grind [anyFollower]⟩
  interval_cases bits <;> first | rfl | contradiction

/-- The first of four bytes narrows the range of the second one where a shorter form or something
beyond the last character would follow. -/
theorem begins_quadruple (surrogates : Bool) {bits second : Nat} (small : bits < 5)
    (within : second < 0x40) (longer : bits = 0 → 0x10 ≤ second)
    (last : bits = 4 → second < 0x10) :
    Begins surrogates (0xf0 + bits) bits second [anyFollower, anyFollower] := by
  by_cases zero : bits = 0
  · subst zero
    exact ⟨(0x90, 0xbf), rfl, by grind, by grind⟩
  by_cases four : bits = 4
  · subst four
    exact ⟨(0x80, 0x8f), rfl, by grind, by grind⟩
  refine ⟨anyFollower, ?_, by grind [anyFollower], by grind [anyFollower]⟩
  interval_cases bits <;> first | rfl | contradiction

/-! ## Characters -/

theorem piecesFrom_of_begins {lead bits second : Nat} {later : List (Nat × Nat)}
    (begins : Begins surrogates lead bits (second % 0x40) (anyFollower :: later)) :
    piecesFrom surrogates none (UInt8.ofNat lead :: follower second :: rest) =
      piecesFrom surrogates (some ⟨[UInt8.ofNat lead, follower second],
        bits * 0x40 + second % 0x40, anyFollower, later⟩) rest := by
  rcases begins with ⟨range, started, least, greatest⟩
  rw [piecesFrom, started]
  exact add_next _ bits second later least greatest

theorem add_any (bytes : List UInt8) (high bits : Nat) (later : List (Nat × Nat)) :
    piecesFrom surrogates (some ⟨bytes, high, anyFollower, anyFollower :: later⟩)
        (follower bits :: rest) =
      piecesFrom surrogates
        (some ⟨bytes ++ [follower bits], high * 0x40 + bits % 0x40, anyFollower, later⟩) rest :=
  add_next bytes high bits later (by grind [anyFollower]) (by grind [anyFollower])

theorem add_any_last (bytes : List UInt8) (high bits : Nat) :
    piecesFrom surrogates (some ⟨bytes, high, anyFollower, []⟩) (follower bits :: rest) =
      .point (.ofNat (high * 0x40 + bits % 0x40)) :: piecesFrom surrogates none rest :=
  add_last bytes high bits (by grind [anyFollower]) (by grind [anyFollower])

theorem piecesFrom_encodeChar (surrogates : Bool) (character : Char) (rest : List UInt8) :
    piecesFrom surrogates none (encodeChar character ++ rest) =
      .point (.char character) :: piecesFrom surrogates none rest := by
  have valid : character.toNat.isValidChar := character.valid
  have same := Point.ofNat_toNat character
  -- One case for each number of bytes, whose bits are those of the point.
  simp only [encodeChar]
  generalize character.toNat = point at *
  by_cases single : point < 0x80
  · rw [if_pos single, List.singleton_append, piecesFrom, start_single single, same]
  rw [if_neg single]
  by_cases double : point < 0x800
  · rw [if_pos double, List.cons_append, List.singleton_append, piecesFrom,
      start_double (by omega) double]
    dsimp only
    rw [add_any_last, show point / 0x40 * 0x40 + point % 0x40 = point by omega, same]
  rw [if_neg double]
  by_cases triple : point < 0x10000
  · have begins : Begins surrogates (0xe0 + point / 0x1000) (point / 0x1000)
        (point / 0x40 % 0x40) [anyFollower] :=
      begins_triple surrogates (by omega) (by omega) (by omega) (by omega)
    have joined : (point / 0x1000 * 0x40 + point / 0x40 % 0x40) * 0x40 + point % 0x40 = point := by
      omega
    rw [if_pos triple, List.cons_append, List.cons_append, List.singleton_append,
      piecesFrom_of_begins begins, add_any_last, joined, same]
  · have begins : Begins surrogates (0xf0 + point / 0x40000) (point / 0x40000)
        (point / 0x1000 % 0x40) [anyFollower, anyFollower] :=
      begins_quadruple surrogates (by omega) (by omega) (by omega) (by omega)
    have joined : ((point / 0x40000 * 0x40 + point / 0x1000 % 0x40) * 0x40 +
        point / 0x40 % 0x40) * 0x40 + point % 0x40 = point := by
      omega
    rw [if_neg triple, List.cons_append, List.cons_append, List.cons_append,
      List.singleton_append, piecesFrom_of_begins begins, add_any, add_any_last, joined, same]

theorem piecesFrom_encodeChars (surrogates : Bool) (characters : List Char) :
    piecesFrom surrogates none (encodeChars characters) =
      characters.map fun character => .point (.char character) := by
  induction characters with
  | nil => rfl
  | cons character characters induction =>
      rw [encodeChars, List.flatMap_cons, piecesFrom_encodeChar, ← encodeChars, induction,
        List.map_cons]

theorem whole?_characters (characters : List Char) :
    whole? (characters.map fun character => .point (.char character)) =
      some ⟨characters.map .char⟩ := by
  induction characters with
  | nil => rfl
  | cons character characters induction => simp [whole?, induction]

theorem decodeLenient?_encode (string : String) :
    decodeLenient? (encode string) = some ↑string := by
  rw [decodeLenient?, encode, piecesFrom_encodeChars, whole?_characters]
  rfl

end Text.Utf8

/-! ## Encodings -/

namespace Json.Encoding

theorem ofStart_of_filled {first second : UInt8} (rest : List UInt8) (filled : first ≠ 0)
    (next : second ≠ 0) : ofStart (first :: second :: rest) = .utf8 := by
  unfold ofStart
  split <;> simp_all

theorem detect_of_ascii {first second : UInt8} (rest : List UInt8) (ascii : first < 0x80)
    (filled : first ≠ 0) (next : second ≠ 0) :
    detect (first :: second :: rest) = (.utf8, first :: second :: rest) := by
  have mark : ∀ byte : UInt8, 0x80 ≤ byte → first ≠ byte :=
    fun byte large same => absurd (same ▸ ascii) (UInt8.not_lt.mpr large)
  unfold detect
  split
  · next same => exact absurd (List.cons.inj same).1 filled
  · next same => exact absurd (List.cons.inj same).1 (mark 0xff (by decide))
  · next same => exact absurd (List.cons.inj same).1 (mark 0xfe (by decide))
  · next same => exact absurd (List.cons.inj same).1 (mark 0xff (by decide))
  · next same => exact absurd (List.cons.inj same).1 (mark 0xef (by decide))
  · rw [ofStart_of_filled rest filled next]

end Json.Encoding

theorem Text.Utf8.lead_ne_zero {lead : Nat} (ascii : lead < 0x80) (filled : lead ≠ 0) :
    UInt8.ofNat lead ≠ 0 := by
  intro zero
  have same := congrArg UInt8.toNat zero
  rw [toNat_lead (by omega)] at same
  exact filled same

theorem Text.Utf8.encodeChar_of_ascii {character : Char} (ascii : character.toNat < 0x80) :
    encodeChar character = [UInt8.ofNat character.toNat] := by
  simp only [encodeChar]
  rw [if_pos ascii]

theorem Json.readBytes_encode {string : String} {first second : Char} {rest : List Char}
    (begins : string.toList = first :: second :: rest) (ascii : first.toNat < 0x80)
    (filled : first.toNat ≠ 0) (next_ascii : second.toNat < 0x80) (next : second.toNat ≠ 0) :
    readBytes (Text.Utf8.encode string) = (read string).mapError ReadError.fault := by
  have bytes : Text.Utf8.encode string = UInt8.ofNat first.toNat :: UInt8.ofNat second.toNat ::
      Text.Utf8.encodeChars rest := by
    rw [Text.Utf8.encode, begins, Text.Utf8.encodeChars, List.flatMap_cons, List.flatMap_cons,
      Text.Utf8.encodeChar_of_ascii ascii, Text.Utf8.encodeChar_of_ascii next_ascii]
    rfl
  have detected : Encoding.detect (Text.Utf8.encode string) = (.utf8, Text.Utf8.encode string) := by
    rw [bytes]
    refine Encoding.detect_of_ascii _ ?_ (Text.Utf8.lead_ne_zero ascii filled)
      (Text.Utf8.lead_ne_zero next_ascii next)
    rw [UInt8.lt_iff_toNat_lt, Text.Utf8.toNat_lead (by omega)]
    exact ascii
  rw [readBytes, detected]
  simp only [Encoding.decode?, Text.Utf8.decodeLenient?_encode]
  rfl

end ScreenFlow
