import Footprint.Json.Decoder
import Footprint.Json.Printer
import Mathlib.Data.Char

/-! A text in quotes is decoded to the text, in whatever style its characters are written: as they are, by
the name of an escape, by a code unit, or by the two units of a pair. -/
namespace Footprint.Json

open Text

/-! ### Code units -/

theorem hexValue?_hexDigit : ∀ d < 16, hexValue? (hexDigit d) = some d := by decide

theorem exists_hex (unit : Nat) (small : unit < 0x10000) :
    ∃ a b c d, hex 4 unit = [a, b, c, d] ∧ hexUnit? a b c d = some unit := by
  refine ⟨_, _, _, _, rfl, ?_⟩
  have digit (n : Nat) := hexValue?_hexDigit (n % 16) (Nat.mod_lt n (by decide))
  simp only [hexUnit?, digit, bind, Option.bind, pure, Option.some.injEq]
  omega

variable {c : Char} {s rest after : List Char} {unit : Nat}

/-- A text that goes on with an escape by a code unit is decoded only when there is a code unit. -/
theorem exists_hexUnit_of_stringBody {e f g h : Char} {found : List Char × List Char}
    (decoded : stringBody ('\\' :: 'u' :: e :: f :: g :: h :: rest) = some found) :
    ∃ unit, hexUnit? e f g h = some unit := by
  rw [← Option.ne_none_iff_exists']
  intro none
  rw [stringBody.eq_def] at decoded
  split at decoded <;> grind [simpleEscape?]

theorem stringBody_unit (small : unit < 0x10000) (alone : isHighUnit unit = false)
    (decoded : stringBody rest = some (s, after)) :
    stringBody (unitEscape unit ++ rest) = some (unitChar unit :: s, after) := by
  obtain ⟨a, b, c, d, digits, read⟩ := exists_hex unit small
  simp only [unitEscape, digits, List.cons_append, List.nil_append]
  rw [stringBody.eq_def]
  split
  case h_3 same =>
    -- An escape follows, which is no second half of a pair, because the first is no half of one.
    simp only [List.cons.injEq, true_and] at same
    obtain ⟨rfl, rfl, rfl, rfl, rfl⟩ := same
    obtain ⟨second, next⟩ := exists_hexUnit_of_stringBody decoded
    simp [read, next, alone, decoded]
  all_goals grind [simpleEscape?]

theorem stringBody_pair {high low : Nat} (isHigh : isHighUnit high = true) (isLow : isLowUnit low = true)
    (decoded : stringBody rest = some (s, after)) :
    stringBody (unitEscape high ++ (unitEscape low ++ rest)) = some (pairChar high low :: s, after) := by
  have smallHigh : high < 0x10000 := by simp [isHighUnit] at isHigh; omega
  have smallLow : low < 0x10000 := by simp [isLowUnit] at isLow; omega
  obtain ⟨a, b, c, d, digits, first⟩ := exists_hex high smallHigh
  obtain ⟨e, f, g, h, others, second⟩ := exists_hex low smallLow
  simp only [unitEscape, digits, others, List.cons_append, List.nil_append]
  rw [stringBody]
  simp [first, second, isHigh, isLow, decoded]

/-! ### Characters -/

theorem toNat_valid (c : Char) : c.toNat < 0xD800 ∨ 0xDFFF < c.toNat ∧ c.toNat < 0x110000 := c.valid

theorem unitChar_toNat (c : Char) : isHighUnit c.toNat = false ∧ unitChar c.toNat = c := by
  have valid := toNat_valid c
  have high : isHighUnit c.toNat = false := by simp [isHighUnit]; omega
  have low : isLowUnit c.toNat = false := by simp [isLowUnit]; omega
  exact ⟨high, by simp [unitChar, high, low, Char.ofNat_toNat]⟩

theorem stringBody_codeUnits (c : Char) (decoded : stringBody rest = some (s, after)) :
    stringBody ((codeUnits c).flatMap unitEscape ++ rest) = some (c :: s, after) := by
  unfold codeUnits
  split
  case isTrue small =>
    obtain ⟨alone, same⟩ := unitChar_toNat c
    simpa [same] using stringBody_unit small alone decoded
  case isFalse large =>
    have valid := toNat_valid c
    have high : isHighUnit (0xD800 + (c.toNat - 0x10000) / 0x400) = true := by simp [isHighUnit]; omega
    have low : isLowUnit (0xDC00 + (c.toNat - 0x10000) % 0x400) = true := by simp [isLowUnit]; omega
    have same : pairChar (0xD800 + (c.toNat - 0x10000) / 0x400) (0xDC00 + (c.toNat - 0x10000) % 0x400) =
        c := by
      have point : 0x10000 + (0xD800 + (c.toNat - 0x10000) / 0x400 - 0xD800) * 0x400 +
          (0xDC00 + (c.toNat - 0x10000) % 0x400 - 0xDC00) = c.toNat := by omega
      rw [pairChar, point, Char.ofNat_toNat]
    simpa [same] using stringBody_pair high low decoded

theorem stringBody_named {e : Char} (named : simpleEscape? e = some c)
    (decoded : stringBody rest = some (s, after)) :
    stringBody ('\\' :: e :: rest) = some (c :: s, after) := by
  rw [stringBody.eq_def]
  split <;> grind [simpleEscape?]

theorem stringBody_raw (visible : 32 ≤ c.toNat) (quote : c ≠ '"') (escape : c ≠ '\\')
    (decoded : stringBody rest = some (s, after)) : stringBody (c :: rest) = some (c :: s, after) := by
  rw [stringBody.eq_def]
  split <;> grind

theorem stringBody_escapeChar (style : Style) (c : Char) (decoded : stringBody rest = some (s, after)) :
    stringBody (escapeChar style c ++ rest) = some (c :: s, after) := by
  unfold escapeChar
  -- The characters with a name are tried first.
  iterate 7
    split
    · subst c
      exact stringBody_named rfl decoded
  split
  case isTrue => exact stringBody_codeUnits c decoded
  case isFalse quote escape _ _ _ _ _ plain =>
    simp only [Bool.or_eq_true, decide_eq_true_eq, not_or, not_lt] at plain
    exact stringBody_raw plain.1 quote escape decoded

theorem stringBody_escaped (style : Style) (chars rest : List Char) :
    stringBody (chars.flatMap (escapeChar style) ++ '"' :: rest) = some (chars, rest) := by
  induction chars with
  | nil => simp [stringBody]
  | cons c chars ih =>
    rw [List.flatMap_cons, List.append_assoc]
    exact stringBody_escapeChar style c ih

theorem toList_stringText (style : Style) (text : String) :
    (stringText style text).toList = '"' :: (text.toList.flatMap (escapeChar style) ++ ['"']) := by
  simp [stringText]

end Footprint.Json
