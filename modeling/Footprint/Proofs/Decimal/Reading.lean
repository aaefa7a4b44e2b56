import Footprint.Decimal.Reading
import Mathlib.Algebra.Ring.Parity
import Mathlib.Data.List.Induction

/-! What comes of the digits in a text. -/
namespace Footprint

namespace Text

theorem digitValue?_lt {c : Char} {d : Nat} (h : digitValue? c = some d) : d < 10 := by
  obtain ⟨script, found, rfl⟩ := Option.map_eq_some_iff.mp h
  have range := List.find?_some found
  simp only [Bool.and_eq_true, decide_eq_true_eq] at range
  omega

theorem toNat_of_isDigit {c : Char} (h : c.isDigit = true) : 48 ≤ c.toNat ∧ c.toNat ≤ 57 := by
  simpa [Char.isDigit, UInt32.le_iff_toNat_le] using h

theorem digitValue?_of_isDigit {c : Char} (h : c.isDigit = true) :
    digitValue? c = some (c.toNat - 48) := by
  obtain ⟨low, high⟩ := toNat_of_isDigit h
  have first : (48 ≤ c.toNat && c.toNat < 48 + 10) = true := by
    rw [Bool.and_eq_true, decide_eq_true_eq, decide_eq_true_eq]
    omega
  have found : (48 :: zeroDigits.tail).find? (fun z => z ≤ c.toNat && c.toNat < z + 10) = some 48 :=
    List.find?_cons_of_pos first
  exact congrArg (Option.map fun z => c.toNat - z) found

theorem stripBy_ofList {isDropped : Char → Bool} {text : List Char}
    (kept : ∀ c ∈ text, isDropped c = false) : stripBy isDropped (String.ofList text) = String.ofList text := by
  have whole (text : List Char) (kept : ∀ c ∈ text, isDropped c = false) :
      text.dropWhile isDropped = text := by
    cases text with
    | nil => rfl
    | cons c rest => exact List.dropWhile_cons_of_neg (by simp [kept c])
  rw [stripBy, String.toList_ofList, whole text kept, whole text.reverse (by simpa using kept),
    List.reverse_reverse]

end Text

namespace Decimal

theorem digitRun_lt (afterDigit : Bool) (text : List Char) :
    ∀ d ∈ (digitRun afterDigit text).1, d < 10 := by
  fun_induction digitRun afterDigit text with
  | case1 => simp
  | case2 afterDigit c rest d value run ih =>
    exact List.forall_mem_cons.mpr ⟨Text.digitValue?_lt value, ih⟩
  | case3 afterDigit c rest value between ih => exact ih
  | case4 => simp

theorem ofDigits_concat (digits : List Nat) (d : Nat) :
    ofDigits (digits ++ [d]) = 10 * ofDigits digits + d := by
  simp [ofDigits]

theorem ofDigits_lt (digits : List Nat) (each : ∀ d ∈ digits, d < 10) :
    ofDigits digits < 10 ^ digits.length := by
  induction digits using List.reverseRecOn with
  | nil => decide
  | append_singleton digits d ih =>
    have last := each d (by simp)
    have front := ih fun e he => each e (List.mem_append_left _ he)
    rw [ofDigits_concat, List.length_append, List.length_singleton, pow_succ]
    omega

theorem isMargin_of_isDigit {c : Char} (h : c.isDigit = true) : isMargin c = false := by
  obtain ⟨low, high⟩ := Text.toNat_of_isDigit h
  rw [isMargin, Text.isBlank, Text.blankRanges, Bool.and_eq_false_iff]
  left
  simp [Text.Ranges.holds]
  omega

theorem digitRun_of_isDigit {text : List Char} (digits : ∀ c ∈ text, c.isDigit = true)
    (afterDigit : Bool) : digitRun afterDigit text = (text.map fun c => c.toNat - 48, []) := by
  induction text generalizing afterDigit with
  | nil => rfl
  | cons c rest ih =>
    rw [List.forall_mem_cons] at digits
    simp [digitRun, Text.digitValue?_of_isDigit digits.1, ih digits.2]

theorem splitSign_of_isDigit {text : List Char} (digits : ∀ c ∈ text, c.isDigit = true) :
    splitSign text = (false, text) := by
  unfold splitSign
  split
  · exact absurd (digits '+' (List.mem_cons_self ..)) (by decide)
  · exact absurd (digits '-' (List.mem_cons_self ..)) (by decide)
  · rfl

theorem readInteger_of_isDigit {text : List Char} (some : text ≠ [])
    (digits : ∀ c ∈ text, c.isDigit = true) (few : text.length ≤ digitLimit) :
    readInteger (String.ofList text) = .ok (ofDigits (text.map fun c => c.toNat - 48)) := by
  have stripped := Text.stripBy_ofList fun c hc => isMargin_of_isDigit (digits c hc)
  simp [readInteger, stripped, splitSign_of_isDigit digits, digitRun_of_isDigit digits, some, few]

end Decimal
end Footprint
