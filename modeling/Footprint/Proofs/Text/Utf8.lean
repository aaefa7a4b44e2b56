import Footprint.Text.Utf8
import Mathlib.Data.String.Basic
import Mathlib.Tactic.SplitIfs

/-! The bytes of a text in UTF-8. Reading them gives the text back, so no text is changed on its way
through a file. -/
namespace Footprint.Text.Utf8

def encode (text : String) : List UInt8 := text.toUTF8.data.toList

theorem encode_eq_flatMap (text : String) :
    encode text = text.toList.flatMap String.utf8EncodeChar := by
  have bytes : text.toList.utf8Encode = text.toUTF8 := String.utf8Encode_toList
  rw [encode, ← bytes, List.utf8Encode, List.toList_data_toByteArray]

theorem length_encode (text : String) : (encode text).length = text.utf8ByteSize := rfl

/-! ### One character -/

def sequenceOf (value : Nat) : List Nat :=
  if value < 0x80 then [value]
  else if value < 0x800 then [value / 64 + 0xC0, value % 64 + 0x80]
  else if value < 0x10000 then [value / 4096 + 0xE0, value / 64 % 64 + 0x80, value % 64 + 0x80]
  else [value / 262144 + 0xF0, value / 4096 % 64 + 0x80, value / 64 % 64 + 0x80, value % 64 + 0x80]

theorem toNat_utf8EncodeChar (c : Char) :
    (String.utf8EncodeChar c).map UInt8.toNat = sequenceOf c.toNat := by
  have valid : c.toNat < 0x110000 := by
    have number : c.toNat.isValidChar := c.valid
    unfold Nat.isValidChar at number
    omega
  have byte {n m : Nat} (small : n < 256) (same : n = m) : (UInt8.ofNat n).toNat = m := by
    rw [UInt8.toNat_ofNat', Nat.mod_eq_of_lt small, same]
  rw [Char.toNat] at valid ⊢
  unfold String.utf8EncodeChar sequenceOf
  dsimp only
  split_ifs <;> try omega
  all_goals
    simp only [List.map_cons, List.map_nil, List.cons.injEq, and_true]
  · exact byte (by omega) rfl
  · exact ⟨byte (by omega) (by omega), byte (by omega) rfl⟩
  · exact ⟨byte (by omega) (by omega), byte (by omega) rfl, byte (by omega) rfl⟩
  · exact ⟨byte (by omega) (by omega), byte (by omega) rfl, byte (by omega) rfl, byte (by omega) rfl⟩

/-! A first byte is the mark of its length and the digits that fit beside it, a later one is a mark and
one digit to the base 64. -/

theorem start?_of_two {digits : Nat} (low : 2 ≤ digits) (high : digits < 32) :
    start? (digits + 0xC0) = some (.inr ⟨1, digits, 0x80, 0xBF⟩) := by
  unfold start?
  rw [if_neg (by omega), if_neg (by omega), if_pos (by omega), Nat.add_sub_cancel]

theorem start?_of_three {digits : Nat} (high : digits < 16) :
    start? (digits + 0xE0) = some (.inr ⟨2, digits, if digits + 0xE0 = 0xE0 then 0xA0 else 0x80,
      if digits + 0xE0 = 0xED then 0x9F else 0xBF⟩) := by
  unfold start?
  rw [if_neg (by omega), if_neg (by omega), if_neg (by omega), if_pos (by omega), Nat.add_sub_cancel]

theorem start?_of_four {digits : Nat} (high : digits < 5) :
    start? (digits + 0xF0) = some (.inr ⟨3, digits, if digits + 0xF0 = 0xF0 then 0x90 else 0x80,
      if digits + 0xF0 = 0xF4 then 0x8F else 0xBF⟩) := by
  unfold start?
  rw [if_neg (by omega), if_neg (by omega), if_neg (by omega), if_neg (by omega), if_pos (by omega),
    Nat.add_sub_cancel]

theorem decodeFrom_opening {byte : Nat} {opened : Open} (starts : start? byte = some (.inr opened))
    (rest : List Nat) : decodeFrom none (byte :: rest) = decodeFrom (some opened) rest := by
  simp only [decodeFrom, starts]

section

variable {value low high digit : Nat}

theorem decodeFrom_between (needed : Nat) (lower : low ≤ digit + 0x80) (upper : digit + 0x80 ≤ high)
    (rest : List Nat) :
    decodeFrom (some ⟨needed + 2, value, low, high⟩) ((digit + 0x80) :: rest) =
      decodeFrom (some ⟨needed + 1, value * 64 + digit, 0x80, 0xBF⟩) rest := by
  have more : ¬needed + 2 = 1 := by omega
  simp only [decodeFrom, if_pos (And.intro lower upper), if_neg more, Nat.add_sub_cancel]
  rfl

theorem decodeFrom_closing (lower : low ≤ digit + 0x80) (upper : digit + 0x80 ≤ high)
    (rest : List Nat) :
    decodeFrom (some ⟨1, value, low, high⟩) ((digit + 0x80) :: rest) =
      Char.ofNat (value * 64 + digit) :: decodeFrom none rest := by
  simp only [decodeFrom, if_pos (And.intro lower upper), if_pos, Nat.add_sub_cancel]

end

/-- The bytes of a character are read as that character. Where the first byte leaves its successor less
than a whole digit, the number would have a shorter sequence or none at all. -/
theorem decodeFrom_sequenceOf {value : Nat} (valid : value.isValidChar) (rest : List Nat) :
    decodeFrom none (sequenceOf value ++ rest) = Char.ofNat value :: decodeFrom none rest := by
  unfold Nat.isValidChar at valid
  unfold sequenceOf
  split_ifs with one two three
  · simp only [List.singleton_append, decodeFrom, start?, if_pos one]
  · have whole : value / 64 * 64 + value % 64 = value := Nat.div_add_mod' value 64
    simp only [List.cons_append, List.nil_append]
    rw [decodeFrom_opening (start?_of_two (by omega) (by omega)),
      decodeFrom_closing (by omega) (by omega), whole]
  · have whole : (value / 4096 * 64 + value / 64 % 64) * 64 + value % 64 = value := by omega
    simp only [List.cons_append, List.nil_append]
    rw [decodeFrom_opening (start?_of_three (by omega)),
      decodeFrom_between 0 (by split <;> omega) (by split <;> omega),
      decodeFrom_closing (by omega) (by omega), whole]
  · have whole : ((value / 262144 * 64 + value / 4096 % 64) * 64 + value / 64 % 64) * 64 + value % 64 =
        value := by omega
    simp only [List.cons_append, List.nil_append]
    rw [decodeFrom_opening (start?_of_four (by omega)),
      decodeFrom_between 1 (by split <;> omega) (by split <;> omega),
      decodeFrom_between 0 (by omega) (by omega), decodeFrom_closing (by omega) (by omega), whole]

/-! ### Texts -/

theorem decode_encode (text : String) : decode (encode text) = text := by
  have characters (cs : List Char) :
      decodeFrom none ((cs.flatMap String.utf8EncodeChar).map UInt8.toNat) = cs := by
    induction cs with
    | nil => rfl
    | cons first rest ih =>
      have valid : first.toNat.isValidChar := first.valid
      rw [List.flatMap_cons, List.map_append, toNat_utf8EncodeChar, decodeFrom_sequenceOf valid,
        Char.ofNat_toNat, ih]
  rw [decode, encode_eq_flatMap, characters, String.ofList_toList]

/-! ### Lengths -/

/-- No more characters are read than there are bytes, and one for a sequence that was open before. -/
theorem length_decodeFrom_le (sequence : Option Open) (bytes : List Nat) :
    (decodeFrom sequence bytes).length ≤ bytes.length + if sequence.isSome then 1 else 0 := by
  induction bytes generalizing sequence with
  | nil => cases sequence <;> simp [decodeFrom]
  | cons byte rest ih =>
    have closed := ih none
    have opened (s : Open) := ih (some s)
    simp only [Option.isSome_none, Option.isSome_some, if_true, Bool.false_eq_true, if_false] at closed opened
    cases sequence with
    | none =>
      simp only [decodeFrom]
      split
      · simpa using closed
      · simpa using closed
      · simpa using opened _
    | some s =>
      simp only [decodeFrom]
      split
      · split
        · simp only [List.length_cons, Option.isSome_some, if_true]
          omega
        · exact Nat.le_trans (opened _) (by simp)
      · split
        · simp only [List.length_cons, Option.isSome_some, if_true]
          omega
        · simp only [List.length_cons, Option.isSome_some, if_true]
          omega
        · simpa using opened _

theorem utf8Len_le (cs : List Char) : String.utf8Len cs ≤ 4 * cs.length := by
  induction cs with
  | nil => exact Nat.le_refl _
  | cons first rest ih =>
    have most := first.utf8Size_le_four
    rw [String.utf8Len_cons, List.length_cons]
    omega

theorem utf8ByteSize_decode_le (bytes : List UInt8) :
    (decode bytes).utf8ByteSize ≤ 4 * bytes.length := by
  have count := length_decodeFrom_le none (bytes.map UInt8.toNat)
  rw [List.length_map] at count
  have characters := utf8Len_le (decodeFrom none (bytes.map UInt8.toNat))
  rw [decode, String.utf8ByteSize_ofList]
  simp only [Option.isSome_none, Bool.false_eq_true, if_false] at count
  omega

end Footprint.Text.Utf8
