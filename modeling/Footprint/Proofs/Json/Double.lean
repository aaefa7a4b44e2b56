import Footprint.Proofs.Decimal.Shortest
import Footprint.Proofs.Json.Number

/-! The text of a double is decoded to the double, bit for bit. Wherever the point stands and whatever zeros
fill the text, it is read as a decimal that lies where the shortest one does, and all of those round to the
double. -/
namespace Footprint.Json

open Decimal

/-! ### Zeros beside the digits -/

theorem toList_zeros (n : Nat) : (zeros n).toList = List.replicate n '0' := String.toList_ofList

theorem toList_padded (width n : Nat) :
    (padded width n).toList = List.replicate (width - (toString n).length) '0' ++ Nat.toDigits 10 n := by
  simp [padded, toList_zeros]

theorem decimalValue_append_zeros (digits : List Char) (k : Nat) :
    decimalValue (digits ++ List.replicate k '0') = decimalValue digits * 10 ^ k := by
  simp [decimalValue_eq, Nat.ofDigitChars_append, Nat.ofDigitChars_replicate_zero, mul_comm]

theorem decimalValue_zeros_append (k : Nat) (digits : List Char) :
    decimalValue (List.replicate k '0' ++ digits) = decimalValue digits := by
  simp [decimalValue_eq, Nat.ofDigitChars_append, Nat.ofDigitChars_replicate_zero]

theorem isDigit_replicate_zero (k : Nat) : ∀ c ∈ List.replicate k '0', c.isDigit = true := by
  simp

theorem isDigit_padded (width n : Nat) : ∀ c ∈ (padded width n).toList, c.isDigit = true := by
  rw [toList_padded]
  exact List.forall_mem_append.mpr ⟨isDigit_replicate_zero _, (isWhole_toDigits n).each⟩

theorem padded_ne_nil (width n : Nat) : (padded width n).toList ≠ [] := by
  simp [toList_padded, (isWhole_toDigits n).ne_nil]

theorem decimalValue_padded (width n : Nat) : decimalValue (padded width n).toList = n := by
  rw [toList_padded, decimalValue_zeros_append, decimalValue_toDigits]

/-! ### Decimals -/

def ReadsAs (negative : Bool) (text rest : List Char) (x : Digits) : Prop :=
  ∃ n e, number ((Binary64.sign negative).toList ++ (text ++ rest)) =
      .ok (.float (Binary64.ofDecimal negative n e), rest) ∧
    ∀ i : Interval, i.Has x.digits x.exponent → i.Has n e

variable {negative : Bool} {digits rest : List Char} {n : Nat} {e : Int}

theorem readsAs_of_point {whole fraction : List Char} (w : IsWhole whole) (some : fraction ≠ [])
    (each : ∀ c ∈ fraction, c.isDigit = true) (ends : Ends rest)
    (same : ∀ i : Interval, i.Has n e → i.Has (decimalValue (whole ++ fraction)) (0 - fraction.length)) :
    ReadsAs negative (whole ++ '.' :: fraction) rest ⟨n, e⟩ := by
  refine ⟨decimalValue (whole ++ fraction), 0 - fraction.length, ?_, same⟩
  have point := fractionPart_append some each ends.breaks
  rw [List.append_assoc, List.cons_append,
    number_of_fraction w (by simp) point (exponentPart_of_ends ends)]
  rfl

structure Leading (digits : List Char) : Prop where
  each : ∀ c ∈ digits, c.isDigit = true
  first : ∃ c more, digits = c :: more ∧ c ≠ '0'

namespace Leading

theorem isWhole (h : Leading digits) : IsWhole digits := by
  obtain ⟨c, more, rfl, nonzero⟩ := h.first
  exact ⟨by simp, h.each, fun zero => absurd (Option.some.inj zero) nonzero⟩

theorem append {fraction : List Char} (h : Leading digits) (each : ∀ c ∈ fraction, c.isDigit = true) :
    Leading (digits ++ fraction) := by
  obtain ⟨c, more, rfl, nonzero⟩ := h.first
  exact ⟨List.forall_mem_append.mpr ⟨h.each, each⟩, c, more ++ fraction, rfl, nonzero⟩

theorem take (h : Leading digits) {k : Nat} (some : k ≠ 0) : Leading (digits.take k) := by
  obtain ⟨c, more, rfl, nonzero⟩ := h.first
  obtain ⟨k, rfl⟩ := Nat.exists_eq_succ_of_ne_zero some
  exact ⟨fun d hd => h.each d (List.mem_of_mem_take hd), c, more.take k, rfl, nonzero⟩

end Leading

theorem leading_toDigits (some : n ≠ 0) : Leading (Nat.toDigits 10 n) where
  each := (isWhole_toDigits n).each
  first := by
    have whole := isWhole_toDigits n
    have value := decimalValue_toDigits n
    generalize Nat.toDigits 10 n = digits at whole value
    cases digits with
    | nil => exact absurd rfl whole.ne_nil
    | cons c more =>
      refine ⟨c, more, rfl, ?_⟩
      rintro rfl
      rw [whole.first rfl] at value
      exact some value.symm

theorem readsAs_positional (negative : Bool) (h : Leading digits) (ends : Ends rest) (whole : Int) :
    ReadsAs negative (positional digits whole).toList rest
      ⟨decimalValue digits, whole - digits.length⟩ := by
  unfold positional
  split
  case isTrue below =>
    -- All digits stand after the point, behind zeros.
    obtain ⟨k, rfl⟩ : ∃ k : Nat, whole = -k := ⟨(-whole).toNat, by omega⟩
    have text : ("0." ++ zeros (-(-(k : Int))).toNat ++ String.ofList digits).toList =
        ['0'] ++ '.' :: (List.replicate k '0' ++ digits) := by
      simp [toList_zeros]
    rw [text]
    refine readsAs_of_point isWhole_zero (by simp [h.isWhole.ne_nil])
      (List.forall_mem_append.mpr ⟨isDigit_replicate_zero k, h.each⟩) ends fun i has => ?_
    have value : decimalValue (['0'] ++ (List.replicate k '0' ++ digits)) = decimalValue digits :=
      decimalValue_zeros_append k digits
    rw [value]
    convert has using 1
    simp
    omega
  case isFalse above =>
    obtain ⟨k, rfl⟩ : ∃ k : Nat, whole = k := ⟨whole.toNat, by omega⟩
    have places : k ≠ 0 := by omega
    dsimp only [Int.toNat_natCast]
    obtain long | short := le_or_gt digits.length k
    · -- Zeros fill the whole part, and one stands after the point.
      have text : (String.ofList (digits.take k) ++ zeros (k - (digits.take k).length) ++ "." ++
          if (digits.drop k).isEmpty then "0" else String.ofList (digits.drop k)).toList =
          (digits ++ List.replicate (k - digits.length) '0') ++ '.' :: ['0'] := by
        simp [toList_zeros, List.take_of_length_le long, List.drop_eq_nil_of_le long]
      rw [text]
      refine readsAs_of_point (h.append (isDigit_replicate_zero _)).isWhole (by simp) (by simp) ends
        fun i has => ?_
      have zero : ['0'] = List.replicate 1 '0' := rfl
      rw [List.append_assoc, zero, List.replicate_append_replicate, decimalValue_append_zeros,
        i.has_mul_ten_pow]
      convert has using 1
      simp
      omega
    · have some : digits.drop k ≠ [] := by simpa using short
      have text : (String.ofList (digits.take k) ++ zeros (k - (digits.take k).length) ++ "." ++
          if (digits.drop k).isEmpty then "0" else String.ofList (digits.drop k)).toList =
          digits.take k ++ '.' :: digits.drop k := by
        simp [toList_zeros, short.le, Nat.not_le.mpr short]
      rw [text]
      refine readsAs_of_point (h.take places).isWhole some
        (fun c hc => h.each c (List.mem_of_mem_drop hc)) ends fun i has => ?_
      rw [List.take_append_drop]
      convert has using 1
      simp
      omega

theorem exponentPart_signed (leading : Int) (ends : Ends rest) :
    exponentPart ((if leading < 0 then "e-" else "e+").toList ++ ((padded 2 leading.natAbs).toList ++ rest)) =
      some (leading, rest) := by
  have some := padded_ne_nil 2 leading.natAbs
  have each := isDigit_padded 2 leading.natAbs
  have value := decimalValue_padded 2 leading.natAbs
  generalize (padded 2 leading.natAbs).toList = digits at *
  have read (negative : Bool) := exponentPart_append negative some each ends.breaks
  rw [value] at read
  obtain below | above := lt_or_ge leading 0
  · rw [if_pos below]
    simpa [abs_of_neg below] using read true
  · rw [if_neg (not_lt.mpr above)]
    simpa [abs_of_nonneg above] using read false

theorem breaks_signed (leading : Int) (after : List Char) :
    Breaks ((if leading < 0 then "e-" else "e+").toList ++ after) := by
  split <;> simp

theorem readsAs_scientific (negative : Bool) (h : Leading digits) (ends : Ends rest) (leading : Int) :
    ReadsAs negative (scientific digits leading).toList rest
      ⟨decimalValue digits, leading + 1 - digits.length⟩ := by
  have mark := exponentPart_signed leading ends
  have breaks := breaks_signed leading ((padded 2 leading.natAbs).toList ++ rest)
  obtain ⟨c, more, rfl, nonzero⟩ := h.first
  have whole : IsWhole [c] := (h.take one_ne_zero).isWhole
  cases more with
  | nil =>
    refine ⟨decimalValue [c], leading, ?_, fun i has => ?_⟩
    · have bare : fractionPart ((if leading < 0 then "e-" else "e+").toList ++
          ((padded 2 leading.natAbs).toList ++ rest)) = none := by
        split <;> rfl
      rw [← number_of_exponent whole breaks bare mark]
      simp [scientific]
    · simpa using has
  | cons d more =>
    have each : ∀ c ∈ d :: more, c.isDigit = true := (List.forall_mem_cons.mp h.each).2
    have point := fractionPart_append (List.cons_ne_nil d more) each breaks
    refine ⟨decimalValue ([c] ++ d :: more), leading - (d :: more).length, ?_, fun i has => ?_⟩
    · refine Eq.trans ?_ (number_of_fraction whole (by simp) point mark)
      simp [scientific]
    · have place : leading - ((d :: more).length : Int) =
          leading + 1 - ((c :: d :: more).length : Int) := by
        simp only [List.length_cons]
        omega
      rw [place]
      exact has

theorem readsAs_text (negative : Bool) (some : n ≠ 0) (ends : Ends rest) (e : Int) :
    ReadsAs negative (Digits.mk n e).text.toList rest ⟨n, e⟩ := by
  have leading := leading_toDigits some
  have value := decimalValue_toDigits n
  unfold Digits.text
  dsimp only
  rw [toList_toString]
  split
  · have read := readsAs_positional negative leading ends
      (e + (Nat.toDigits 10 n).length - 1 + 1)
    rw [value] at read
    convert read using 2
    omega
  · have read := readsAs_scientific negative leading ends
      (e + (Nat.toDigits 10 n).length - 1)
    rw [value] at read
    convert read using 2
    omega

theorem number_zero (negative : Bool) (ends : Ends rest) :
    number ((Binary64.sign negative).toList ++ ("0.0".toList ++ rest)) =
      .ok (.float (Binary64.zero negative), rest) := by
  have value : Binary64.ofDecimal negative 0 (-1) = Binary64.zero negative := by
    cases negative <;> decide +kernel
  have point : fractionPart ('.' :: (['0'] ++ rest)) = some (['0'], rest) :=
    fractionPart_append (by simp) (by simp) ends.breaks
  rw [← value]
  exact number_of_fraction isWhole_zero (by simp) point (exponentPart_of_ends ends)

theorem number_text {x : Binary64} (finite : x.isFinite = true) (ends : Ends rest) :
    number (x.text.toList ++ rest) = .ok (.float x, rest) := by
  cases x with
  | nan => cases finite
  | infinite => cases finite
  | finite negative m p canonical =>
    rw [Binary64.text, String.toList_append, List.append_assoc]
    split
    case isTrue zero =>
      subst zero
      have alone : p = 0 := canonical.normal.resolve_left (by decide)
      subst alone
      exact number_zero negative ends
    case isFalse nonzero =>
      obtain ⟨some, has⟩ := has_shortest canonical nonzero
      obtain ⟨n, e, read, lies⟩ := readsAs_text negative some ends (shortest m p).exponent
      rw [ofDecimal_of_has negative canonical nonzero (lies _ has)] at read
      exact read

end Footprint.Json
