import ScreenFlow.Text.Hex

namespace ScreenFlow

/-! Texts. A text is a row of code points. The code points of surrogates are no characters, but an
escape can bring one into a text, which then has no form in UTF-8. -/

inductive Point where
  | char (character : Char)
  | surrogate (index : Fin 0x800)
  deriving DecidableEq, Repr, Inhabited

instance : Coe Char Point := ⟨.char⟩

namespace Point

def toNat : Point → Nat
  | char character => character.toNat
  | surrogate index => 0xd800 + index

def ofNat (code : Nat) : Point :=
  if inside : 0xd800 ≤ code ∧ code < 0xe000 then .surrogate ⟨code - 0xd800, by omega⟩
  else .char (Char.ofNat code)

def char? : Point → Option Char
  | char character => some character
  | surrogate _ => none

def isChar (point : Point) : Bool := point.char?.isSome

def any (test : Char → Bool) : Point → Bool
  | char character => test character
  | surrogate _ => false

def isDigit (point : Point) : Bool := point.any Char.isDigit

@[simp] theorem toNat_char (character : Char) : (char character).toNat = character.toNat := rfl

theorem toNat_ofNat {code : Nat} (small : code < 0x110000) : (ofNat code).toNat = code := by
  rw [ofNat]
  split
  · next inside => exact Nat.add_sub_cancel' inside.1
  · next outside =>
      have valid : code.isValidChar := by
        rw [Nat.isValidChar]
        omega
      rw [toNat_char, Char.ofNat, dif_pos valid]
      rfl

theorem ofNat_toNat (character : Char) : ofNat character.toNat = .char character := by
  have valid : character.toNat.isValidChar := character.valid
  have outside : ¬ (0xd800 ≤ character.toNat ∧ character.toNat < 0xe000) := by omega
  rw [ofNat, dif_neg outside, Char.ofNat_toNat]

@[simp] theorem isDigit_char (character : Char) :
    (char character).isDigit = character.isDigit := rfl

theorem all_isChar_map (characters : List Char) : (characters.map char).all isChar = true := by
  rw [List.all_map, List.all_eq_true]
  exact fun _ _ => rfl

end Point

structure Text where
  ofList ::
  toList : List Point
  deriving DecidableEq, Repr, Inhabited

namespace Text

def ofString (string : String) : Text := ⟨string.toList.map .char⟩

instance : Coe String Text := ⟨ofString⟩

instance : Append Text := ⟨fun left right => ⟨left.toList ++ right.toList⟩⟩

instance : LT Text :=
  ⟨fun left right => left.toList.map Point.toNat < right.toList.map Point.toNat⟩

instance (left right : Text) : Decidable (left < right) :=
  inferInstanceAs (Decidable (left.toList.map Point.toNat < right.toList.map Point.toNat))

def isEncodable (text : Text) : Bool := text.toList.all Point.isChar

def length (text : Text) : Nat := text.toList.length

def isEmpty (text : Text) : Bool := text.toList.isEmpty

def intercalate (separator : Text) : List Text → Text
  | [] => ""
  | [text] => text
  | text :: texts => text ++ separator ++ intercalate separator texts

@[simp] theorem toList_ofList (points : List Point) : (ofList points).toList = points := rfl

@[simp] theorem ofList_toList (text : Text) : ofList text.toList = text := rfl

@[simp] theorem toList_append (left right : Text) :
    (left ++ right).toList = left.toList ++ right.toList := rfl

theorem toList_inj {left right : Text} : left.toList = right.toList ↔ left = right := by
  cases left
  cases right
  simp

theorem toList_eq_nil_iff {text : Text} : text.toList = [] ↔ text = "" := by
  rw [← toList_inj]
  rfl

theorem toList_ofString (string : String) :
    (ofString string).toList = string.toList.map .char := rfl

@[simp] theorem char_mem_ofString {character : Char} {string : String} :
    .char character ∈ (ofString string).toList ↔ character ∈ string.toList := by
  simp [toList_ofString]

@[simp] theorem ofString_inj {left right : String} :
    ofString left = ofString right ↔ left = right := by
  rw [← toList_inj, toList_ofString, toList_ofString, List.map_inj_right (by simp),
    String.toList_inj]

theorem ofString_append (left right : String) :
    ofString (left ++ right) = ofString left ++ ofString right := by
  simp [← toList_inj, toList_ofString]

theorem append_assoc (left middle right : Text) :
    left ++ middle ++ right = left ++ (middle ++ right) := by
  simp [← toList_inj]

theorem append_empty (text : Text) : text ++ ("" : Text) = text := by
  rw [← toList_inj]
  exact List.append_nil _

theorem append_right_inj (left : Text) {right other : Text} :
    left ++ right = left ++ other ↔ right = other := by
  simp [← toList_inj]

theorem append_left_inj (right : Text) {left other : Text} :
    left ++ right = other ++ right ↔ left = other := by
  simp [← toList_inj]

@[simp] theorem length_append (left right : Text) :
    (left ++ right).length = left.length + right.length := by
  simp [length]

theorem length_toList (text : Text) : text.toList.length = text.length := rfl

@[simp] theorem length_eq_zero_iff {text : Text} : text.length = 0 ↔ text = "" := by
  rw [length, List.length_eq_zero_iff, toList_eq_nil_iff]

@[simp] theorem isEmpty_iff {text : Text} : text.isEmpty = true ↔ text = "" := by
  rw [isEmpty, List.isEmpty_iff, toList_eq_nil_iff]

@[simp] theorem isEmpty_eq_false_iff {text : Text} : text.isEmpty = false ↔ text ≠ "" := by
  rw [← Bool.not_eq_true, isEmpty_iff]

theorem toList_intercalate (separator : Text) (texts : List Text) :
    (intercalate separator texts).toList =
      separator.toList.intercalate (texts.map Text.toList) := by
  fun_induction intercalate separator texts with
  | case1 => rfl
  | case2 text => simp
  | case3 text texts filled induction =>
      cases texts with
      | nil => exact absurd rfl filled
      | cons next texts => simp [induction, List.intercalate_cons_cons]

theorem intercalate_cons_cons (separator text next : Text) (texts : List Text) :
    intercalate separator (text :: next :: texts) =
      text ++ separator ++ intercalate separator (next :: texts) := rfl

/-! ## Texts and strings -/

/-- The text as a string of characters, unless it holds a surrogate. -/
def string? (text : Text) : Option String :=
  (text.toList.mapM Point.char?).map String.ofList

theorem mapM_char?_eq_some_iff {points : List Point} {characters : List Char} :
    points.mapM Point.char? = some characters ↔ points = characters.map .char := by
  induction points generalizing characters with
  | nil => cases characters <;> simp
  | cons point points induction =>
      cases point with
      | char character =>
          have step : (Point.char character :: points).mapM Point.char? =
              (points.mapM Point.char?).map (character :: ·) := by
            cases each : points.mapM Point.char? <;> simp [Point.char?, each]
          rw [step, Option.map_eq_some_iff]
          simp only [induction]
          constructor
          · rintro ⟨others, rfl, rfl⟩
            rfl
          · intro same
            cases characters with
            | nil => cases same
            | cons first others =>
                have parts := List.cons.inj same
                exact ⟨others, parts.2, by rw [Point.char.inj parts.1]⟩
      | surrogate index => cases characters <;> simp [Point.char?]

theorem string?_eq_some_iff {text : Text} {string : String} :
    text.string? = some string ↔ text = string := by
  rw [string?, Option.map_eq_some_iff, ← toList_inj, toList_ofString]
  constructor
  · rintro ⟨characters, each, rfl⟩
    rw [String.toList_ofList]
    exact mapM_char?_eq_some_iff.mp each
  · intro same
    exact ⟨string.toList, mapM_char?_eq_some_iff.mpr same, String.ofList_toList⟩

@[simp] theorem string?_ofString (string : String) : (ofString string).string? = some string :=
  string?_eq_some_iff.mpr rfl

@[simp] theorem isEncodable_ofString (string : String) : (ofString string).isEncodable = true := by
  rw [isEncodable, toList_ofString, Point.all_isChar_map]

theorem isSome_string? (text : Text) : text.string?.isSome = text.isEncodable := by
  rw [string?, isEncodable, Option.isSome_map]
  induction text.toList with
  | nil => rfl
  | cons point points induction =>
      rw [List.all_cons, ← induction]
      cases point with
      | char character =>
          cases each : points.mapM Point.char? <;> simp [Point.char?, each, Point.isChar]
      | surrogate index => rfl

/-- The text with an escape in the place of each surrogate. -/
def escaped (text : Text) : String :=
  String.ofList (text.toList.flatMap fun point =>
    match point with
    | .char character => [character]
    | .surrogate index => '\\' :: 'u' :: hex (0xd800 + index) 4)

/-- The text with a replacement character in the place of each surrogate. -/
def lossy (text : Text) : String :=
  String.ofList (text.toList.map fun point => point.char?.getD '\ufffd')

end Text

end ScreenFlow
