import Footprint.Json.Decoder
import Footprint.Json.Printer
import Footprint.Proofs.Decimal.Reading
import Footprint.Proofs.Report.Writing

/-! The text of a number is decoded to the number, whatever follows it, as long as that does not go on with
the number. -/
namespace Footprint.Json

/-! ### Runs of digits -/

def Breaks (rest : List Char) : Prop := ∀ c ∈ rest.head?, c.isDigit = false

def Ends (rest : List Char) : Prop :=
  ∀ c ∈ rest.head?, c.isDigit = false ∧ c ≠ '.' ∧ c ≠ 'e' ∧ c ≠ 'E'

theorem Ends.breaks {rest : List Char} (h : Ends rest) : Breaks rest := fun c hc => (h c hc).1

@[simp] theorem ends_nil : Ends [] := by simp [Ends]

@[simp] theorem ends_cons (c : Char) (rest : List Char) :
    Ends (c :: rest) ↔ c.isDigit = false ∧ c ≠ '.' ∧ c ≠ 'e' ∧ c ≠ 'E' := by
  simp [Ends]

@[simp] theorem breaks_cons (c : Char) (rest : List Char) : Breaks (c :: rest) ↔ c.isDigit = false := by
  simp [Breaks]

theorem digitSpan_append {digits rest : List Char} (each : ∀ c ∈ digits, c.isDigit = true)
    (breaks : Breaks rest) : digitSpan (digits ++ rest) = (digits, rest) := by
  rw [digitSpan, List.span_eq_takeWhile_dropWhile, List.takeWhile_append_of_pos each,
    List.dropWhile_append_of_pos each]
  cases rest with
  | nil => simp
  | cons c rest => simp [(breaks_cons c rest).mp breaks]

theorem decimalValue_eq (digits : List Char) : decimalValue digits = Nat.ofDigitChars 10 digits 0 := rfl

structure IsWhole (digits : List Char) : Prop where
  ne_nil : digits ≠ []
  each : ∀ c ∈ digits, c.isDigit = true
  first : digits.head? = some '0' → digits = ['0']

theorem isWhole_zero : IsWhole ['0'] := ⟨by simp, by simp, fun _ => rfl⟩

theorem wholePart_append {digits rest : List Char} (h : IsWhole digits) (breaks : Breaks rest) :
    wholePart (digits ++ rest) = some (digits, rest) := by
  obtain ⟨ne_nil, each, first⟩ := h
  cases digits with
  | nil => exact absurd rfl ne_nil
  | cons c digits =>
    rw [List.forall_mem_cons] at each
    by_cases zero : c = '0'
    · subst zero
      obtain rfl := (List.cons.inj (first rfl)).2
      simp [wholePart]
    · simp [wholePart, zero, each.1, digitSpan_append each.2 breaks]

theorem fractionPart_append {digits rest : List Char} (ne_nil : digits ≠ [])
    (each : ∀ c ∈ digits, c.isDigit = true) (breaks : Breaks rest) :
    fractionPart ('.' :: (digits ++ rest)) = some (digits, rest) := by
  rw [fractionPart, digitSpan_append each breaks]
  cases digits with
  | nil => exact absurd rfl ne_nil
  | cons c digits => rfl

theorem fractionPart_of_ends {rest : List Char} (h : Ends rest) : fractionPart rest = none := by
  unfold fractionPart
  split
  · simp at h
  · rfl

theorem exponentPart_of_ends {rest : List Char} (h : Ends rest) : exponentPart rest = none := by
  cases rest with
  | nil => rfl
  | cons c rest =>
    rw [ends_cons] at h
    simp [exponentPart, h]

theorem exponentPart_append (negative : Bool) {digits rest : List Char} (ne_nil : digits ≠ [])
    (each : ∀ c ∈ digits, c.isDigit = true) (breaks : Breaks rest) :
    exponentPart ('e' :: (if negative then '-' else '+') :: (digits ++ rest)) =
      some (if negative then -(decimalValue digits : Int) else decimalValue digits, rest) := by
  have span := digitSpan_append each breaks
  cases digits with
  | nil => exact absurd rfl ne_nil
  | cons c digits =>
    rw [List.cons_append] at span
    cases negative <;> simp [exponentPart, Decimal.splitSign, span]

theorem isWhole_toDigits (n : Nat) : IsWhole (Nat.toDigits 10 n) where
  ne_nil := Nat.toDigits_ne_nil
  each c hc := Nat.isDigit_of_mem_toDigits (by decide) (by decide) hc
  first h := by
    induction n using Nat.strongRecOn with
    | ind n ih =>
      rw [Nat.toDigits_eq_if (by decide)] at h ⊢
      split at h
      · next small =>
        rw [if_pos small]
        simpa using h
      · next large =>
        exfalso
        rw [List.head?_append_of_ne_nil _ Nat.toDigits_ne_nil] at h
        have zero := ih (n / 10) (by omega) h
        have value : Nat.ofDigitChars 10 (Nat.toDigits 10 (n / 10)) 0 = 0 := by
          rw [zero]
          rfl
        rw [Nat.ofDigitChars_toDigits (by decide) (by decide)] at value
        omega

/-! ### Numbers -/

theorem IsWhole.exists_cons {digits : List Char} (h : IsWhole digits) :
    ∃ c more, digits = c :: more ∧ c ≠ '-' := by
  obtain ⟨ne_nil, each, -⟩ := h
  cases digits with
  | nil => exact absurd rfl ne_nil
  | cons c more =>
    refine ⟨c, more, rfl, ?_⟩
    rintro rfl
    exact absurd (each '-' (List.mem_cons_self ..)) (by decide)

theorem sign_true_append (text : List Char) : (Binary64.sign true).toList ++ text = '-' :: text := rfl

theorem sign_false_append (text : List Char) : (Binary64.sign false).toList ++ text = text := rfl

variable {negative : Bool} {whole fraction tail after : List Char}

theorem number_of_fraction (w : IsWhole whole) (breaks : Breaks tail) {exponent : Option (Int × List Char)}
    (point : fractionPart tail = some (fraction, after)) (mark : exponentPart after = exponent) :
    number ((Binary64.sign negative).toList ++ (whole ++ tail)) =
      .ok (.float (Binary64.ofDecimal negative (decimalValue (whole ++ fraction))
        (exponent.elim 0 Prod.fst - fraction.length)), exponent.elim after Prod.snd) := by
  have parted := wholePart_append w breaks
  obtain ⟨c, more, rfl, unsigned⟩ := w.exists_cons
  rw [List.cons_append] at parted ⊢
  cases negative
  · simp [number, sign_false_append, unsigned, parted, point, mark, ok_bind]
    rfl
  · simp [number, sign_true_append, parted, point, mark, ok_bind]
    rfl

theorem number_of_exponent (w : IsWhole whole) (breaks : Breaks tail) {n : Int}
    (point : fractionPart tail = none) (mark : exponentPart tail = some (n, after)) :
    number ((Binary64.sign negative).toList ++ (whole ++ tail)) =
      .ok (.float (Binary64.ofDecimal negative (decimalValue whole) n), after) := by
  have parted := wholePart_append w breaks
  obtain ⟨c, more, rfl, unsigned⟩ := w.exists_cons
  rw [List.cons_append] at parted ⊢
  cases negative
  · simp [number, sign_false_append, unsigned, parted, point, mark, ok_bind]
    rfl
  · simp [number, sign_true_append, parted, point, mark, ok_bind]
    rfl

theorem number_of_whole (w : IsWhole whole) (few : whole.length ≤ Decimal.digitLimit) (ends : Ends tail) :
    number ((Binary64.sign negative).toList ++ (whole ++ tail)) =
      .ok (.int (if negative then -(decimalValue whole : Int) else decimalValue whole), tail) := by
  have parted := wholePart_append w ends.breaks
  have point := fractionPart_of_ends ends
  have mark := exponentPart_of_ends ends
  obtain ⟨c, more, rfl, unsigned⟩ := w.exists_cons
  rw [List.cons_append] at parted ⊢
  rw [List.length_cons] at few
  cases negative
  · simp [number, sign_false_append, unsigned, parted, point, mark, ok_bind]
    split
    · omega
    · rfl
  · simp [number, sign_true_append, parted, point, mark, ok_bind]
    split
    · omega
    · rfl

/-! ### Integers -/

theorem toList_toString (n : Nat) : (toString n).toList = Nat.toDigits 10 n := by
  rw [Nat.toString_eq_repr, Nat.toList_repr]

theorem decimalValue_toDigits (n : Nat) : decimalValue (Nat.toDigits 10 n) = n :=
  Nat.ofDigitChars_toDigits (by decide) (by decide)

theorem toList_toString_int (n : Int) :
    (toString n).toList = (Binary64.sign (decide (n < 0))).toList ++ Nat.toDigits 10 n.natAbs := by
  change n.repr.toList = _
  rw [Int.repr_eq_if]
  split
  · next nonneg =>
    have magnitude : n.toNat = n.natAbs := by omega
    simp [Binary64.sign, nonneg, magnitude]
  · next negative =>
    have magnitude : (-n).toNat = n.natAbs := by omega
    simp [Binary64.sign, not_le.mp negative, magnitude]

theorem eq_of_toString_int_eq {m n : Int} (same : toString m = toString n) : m = n := by
  have texts := congrArg String.toList same
  rw [toList_toString_int, toList_toString_int] at texts
  obtain ⟨c, more, digits, unsigned⟩ := (isWhole_toDigits m.natAbs).exists_cons
  obtain ⟨d, later, digits', unsigned'⟩ := (isWhole_toDigits n.natAbs).exists_cons
  have magnitudes (equal : Nat.toDigits 10 m.natAbs = Nat.toDigits 10 n.natAbs) : m.natAbs = n.natAbs := by
    rw [← decimalValue_toDigits m.natAbs, equal, decimalValue_toDigits]
  obtain left | left := lt_or_ge m 0 <;> obtain right | right := lt_or_ge n 0
  case inl.inl =>
    simp only [left, right, decide_true, sign_true_append, List.cons.injEq, true_and] at texts
    have := magnitudes texts
    omega
  case inl.inr =>
    simp only [left, right.not_gt, decide_true, decide_false, sign_true_append, sign_false_append, digits'] at texts
    exact absurd (List.cons.inj texts).1.symm unsigned'
  case inr.inl =>
    simp only [left.not_gt, right, decide_true, decide_false, sign_true_append, sign_false_append, digits] at texts
    exact absurd (List.cons.inj texts).1 unsigned
  case inr.inr =>
    simp only [left.not_gt, right.not_gt, decide_false, sign_false_append] at texts
    have := magnitudes texts
    omega

theorem number_int {n : Int} (short : Short n) {rest : List Char} (ends : Ends rest) :
    number ((toString n).toList ++ rest) = .ok (.int n, rest) := by
  have few : (Nat.toDigits 10 n.natAbs).length ≤ Decimal.digitLimit := by
    have some : 0 < Decimal.digitLimit := by decide
    have bound := short_iff.mp short
    generalize Decimal.digitLimit = digits at some bound ⊢
    exact (Nat.length_toDigits_le_iff (by decide) some).mpr bound
  rw [toList_toString_int, List.append_assoc, number_of_whole (isWhole_toDigits _) few ends,
    decimalValue_toDigits]
  obtain negative | nonneg := lt_or_ge n 0
  · simp [negative, abs_of_neg negative]
  · simp [nonneg, abs_of_nonneg nonneg]

end Footprint.Json
