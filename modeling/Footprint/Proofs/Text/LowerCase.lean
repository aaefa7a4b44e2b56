import Footprint.Text.Blank
import Footprint.Text.LowerCase
import Mathlib.Data.List.DropRight

/-! The lower case of a text is in lower case: what stands for a capital is no capital, is not the one letter
that becomes two, and is neither blank nor a mark of ASCII. -/
namespace Footprint.Text

/-- A row of the table of capitals: the first, the last, the step and the shift to the lower case. -/
abbrev CapitalRun := Nat × Nat × Nat × Int

namespace CapitalRun

variable {run other : CapitalRun} {n : Nat}

def Holds (run : CapitalRun) (n : Nat) : Prop :=
  run.1 ≤ n ∧ n ≤ run.2.1 ∧ (n - run.1) % run.2.2.1 = 0

instance : Decidable (run.Holds n) := inferInstanceAs (Decidable (_ ∧ _ ∧ _))

def lowest (run : CapitalRun) : Nat := (run.1 + run.2.2.2).toNat

def highest (run : CapitalRun) : Nat := (run.2.1 + run.2.2.2).toNat

def isAlternating (run : CapitalRun) : Bool := run.2.2.1 == 2 || run.1 == run.2.1

/-- What the lower case of a run may not meet: the surrogates, the letter that becomes two, and blanks. -/
def forbidden : Ranges := (0xD800, 0xDFFF) :: (0x130, 0x130) :: blankRanges

def isSound (run : CapitalRun) : Bool :=
  (run.2.2.1 == 1 || run.2.2.1 == 2) && 0 ≤ run.1 + run.2.2.2 && run.highest < 0x110000 &&
    forbidden.all fun r => run.highest < r.1 || r.2 < run.lowest

/-- No character of the other run is the lower case of one of this run: they lie apart or are interleaved. -/
def misses (run other : CapitalRun) : Bool :=
  run.highest.blt other.1 || other.2.1.blt run.lowest ||
    (other.2.2.1 == 2 && run.isAlternating && (run.lowest + other.1) % 2 == 1)

theorem toNat_shift (sound : run.isSound = true) (held : run.Holds n) :
    ((n + run.2.2.2).toNat : Int) = n + run.2.2.2 := by
  simp only [isSound, Bool.and_eq_true, decide_eq_true_eq] at sound
  have := held.1
  omega

theorem shift_mem (held : run.Holds n) :
    run.lowest ≤ (n + run.2.2.2).toNat ∧ (n + run.2.2.2).toNat ≤ run.highest := by
  have := held.1
  have := held.2.1
  unfold lowest highest
  omega

theorem shift_parity (sound : run.isSound = true) (held : run.Holds n)
    (alternating : run.isAlternating = true) :
    (n + run.2.2.2).toNat % 2 = run.lowest % 2 := by
  have shifted := toNat_shift sound held
  obtain ⟨above, below, step⟩ := held
  simp only [isSound, isAlternating, Bool.and_eq_true, Bool.or_eq_true, decide_eq_true_eq, beq_iff_eq]
    at sound alternating
  unfold lowest
  rcases alternating with two | single
  · rw [two] at step
    omega
  · omega

theorem not_holds_of_misses (sound : run.isSound = true) (held : run.Holds n)
    (apart : run.misses other = true) : ¬ other.Holds (n + run.2.2.2).toNat := by
  rintro ⟨above, below, step⟩
  obtain ⟨low, high⟩ := shift_mem held
  simp only [misses, Bool.or_eq_true, Bool.and_eq_true, Nat.blt_eq, beq_iff_eq] at apart
  rcases apart with (left | right) | ⟨⟨two, alternating⟩, odd⟩
  · omega
  · omega
  · have parity := shift_parity sound held alternating
    rw [two] at step
    omega

theorem not_forbidden (sound : run.isSound = true) (held : run.Holds n) {r : Nat × Nat}
    (listed : r ∈ forbidden) :
    ¬ (r.1 ≤ (n + run.2.2.2).toNat ∧ (n + run.2.2.2).toNat ≤ r.2) := by
  obtain ⟨low, high⟩ := shift_mem held
  simp only [isSound, Bool.and_eq_true, List.all_eq_true, Bool.or_eq_true, decide_eq_true_eq] at sound
  have := sound.2 r listed
  omega

theorem toNat_ofNat_shift (sound : run.isSound = true) (held : run.Holds n) :
    (Char.ofNat (n + run.2.2.2).toNat).toNat = (n + run.2.2.2).toNat := by
  have surrogates := not_forbidden sound held (r := (0xD800, 0xDFFF)) (by decide)
  have valid : (n + run.2.2.2).toNat.isValidChar := by
    have := (shift_mem held).2
    simp only [isSound, Bool.and_eq_true, decide_eq_true_eq] at sound
    unfold Nat.isValidChar
    omega
  rw [Char.ofNat, dif_pos valid]
  rfl

end CapitalRun

theorem capitalRuns_sound : capitalRuns.all CapitalRun.isSound = true := by decide +kernel

-- Row against row: to look each capital's lower case up in the table takes many times as long.
theorem capitalRuns_miss : (capitalRuns.all fun run => capitalRuns.all (CapitalRun.misses run)) = true := by
  decide +kernel

theorem isSound_of_mem {run : CapitalRun} (listed : run ∈ capitalRuns) : CapitalRun.isSound run = true :=
  List.all_eq_true.mp capitalRuns_sound run listed

theorem misses_of_mem {run other : CapitalRun} (listed : run ∈ capitalRuns) (among : other ∈ capitalRuns) :
    CapitalRun.misses run other = true :=
  List.all_eq_true.mp (List.all_eq_true.mp capitalRuns_miss run listed) other among

theorem letter_le_lowest : capitalRuns.all (fun run => 'a'.toNat ≤ CapitalRun.lowest run) = true := by
  decide +kernel

/-! ### One character -/

structure IsLowered (c : Char) : Prop where
  outside : ∀ run ∈ capitalRuns, ¬ CapitalRun.Holds run c.toNat
  single : c ≠ 'İ'

instance (c : Char) : Decidable (IsLowered c) :=
  decidable_of_iff ((∀ run ∈ capitalRuns, ¬ CapitalRun.Holds run c.toNat) ∧ c ≠ 'İ')
    ⟨fun h => ⟨h.1, h.2⟩, fun h => ⟨h.outside, h.single⟩⟩

inductive Lowers (c d : Char) : Prop
  | same (kept : d = c) (outside : ∀ run ∈ capitalRuns, ¬ CapitalRun.Holds run c.toNat)
  | shifted (run : CapitalRun) (listed : run ∈ capitalRuns) (held : CapitalRun.Holds run c.toNat)
      (moved : d.toNat = (c.toNat + run.2.2.2).toNat)

theorem Lowers.of_run {c : Char} (run : CapitalRun) (listed : run ∈ capitalRuns)
    (held : CapitalRun.Holds run c.toNat) : Lowers c (Char.ofNat (c.toNat + run.2.2.2).toNat) :=
  .shifted run listed held (CapitalRun.toNat_ofNat_shift (isSound_of_mem listed) held)

theorem lowers_toLower {c : Char} (ascii : c.toNat < 128) : Lowers c c.toLower := by
  have letters : ∀ n < 128,
      (Char.ofNat n).toLower = Char.ofNat (if 65 ≤ n ∧ n ≤ 90 then n + 32 else n) := by
    decide +kernel
  have others : ∀ run ∈ capitalRuns.tail, 128 ≤ run.1 := by decide +kernel
  have lowered := letters c.toNat ascii
  rw [Char.ofNat_toNat] at lowered
  rw [lowered]
  split
  · next capital =>
    exact .of_run (0x41, 0x5A, 1, 32) (by decide) ⟨capital.1, capital.2, Nat.mod_one _⟩
  · next plain =>
    rw [Char.ofNat_toNat]
    refine .same rfl fun run listed held => ?_
    rcases List.mem_cons.mp listed with rfl | later
    · exact plain ⟨held.1, held.2.1⟩
    · have := others run later
      have := held.1
      omega

theorem lowers_lowerChar (c : Char) : Lowers c (lowerChar c) := by
  unfold lowerChar
  split
  · next ascii => exact lowers_toLower ascii
  · split
    · next run found =>
      have holds := List.find?_some found
      simp only [Bool.and_eq_true, decide_eq_true_eq, beq_iff_eq] at holds
      exact .of_run run (List.mem_of_find?_eq_some found) ⟨holds.1.1, holds.1.2, holds.2⟩
    · next none =>
      refine .same rfl fun run listed held => List.find?_eq_none.mp none run listed ?_
      simp [held.1, held.2.1, held.2.2]

theorem IsLowered.lowerChar_eq {c : Char} (h : IsLowered c) : lowerChar c = c := by
  cases lowers_lowerChar c with
  | same kept => exact kept
  | shifted run listed held => exact absurd held (h.outside run listed)

theorem isLowered_lowerChar {c : Char} (single : c ≠ 'İ') : IsLowered (lowerChar c) := by
  cases lowers_lowerChar c with
  | same kept outside => exact kept.symm ▸ ⟨outside, single⟩
  | shifted run listed held moved =>
    have sound := isSound_of_mem listed
    constructor
    · intro other among
      rw [moved]
      exact CapitalRun.not_holds_of_misses sound held (misses_of_mem listed among)
    · intro same
      have here : (lowerChar c).toNat = 0x130 := by rw [same]; rfl
      have distinct := CapitalRun.not_forbidden sound held (r := (0x130, 0x130)) (by decide)
      omega

theorem isBlank_lowerChar {c : Char} (shown : isBlank c = false) : isBlank (lowerChar c) = false := by
  cases lowers_lowerChar c with
  | same kept => exact kept.symm ▸ shown
  | shifted run listed held moved =>
    have outside : ∀ r ∈ blankRanges, ¬ (r.1 ≤ (lowerChar c).toNat ∧ (lowerChar c).toNat ≤ r.2) := by
      intro r among
      rw [moved]
      exact CapitalRun.not_forbidden (isSound_of_mem listed) held
        (List.mem_cons_of_mem _ (List.mem_cons_of_mem _ among))
    simpa [isBlank, Ranges.holds] using outside

theorem lowerChar_eq_or_letter_le (c : Char) : lowerChar c = c ∨ 'a'.toNat ≤ (lowerChar c).toNat := by
  cases lowers_lowerChar c with
  | same kept => exact .inl kept
  | shifted run listed held moved =>
    have first : 'a'.toNat ≤ CapitalRun.lowest run := by
      simpa using List.all_eq_true.mp letter_le_lowest run listed
    exact .inr (moved ▸ first.trans (CapitalRun.shift_mem held).1)

/-! ### Texts -/

structure Replaces (c : Char) (written : List Char) : Prop where
  nonempty : written ≠ []
  lowered : ∀ d ∈ written, IsLowered d
  shown : isBlank c = false → ∀ d ∈ written, isBlank d = false

theorem exists_lowerFrom_cons (before rest : List Char) (c : Char) :
    ∃ written, lowerFrom before (c :: rest) = written ++ lowerFrom (c :: before) rest ∧
      Replaces c written := by
  refine ⟨_, rfl, ?_⟩
  have letter {d : Char} (lowered : IsLowered d) (shown : isBlank d = false) : Replaces c [d] :=
    ⟨by simp, by simpa using lowered, fun _ => by simpa using shown⟩
  split
  · have first : IsLowered 'i' ∧ isBlank 'i' = false := by decide +kernel
    have second : IsLowered '\u0307' ∧ isBlank '\u0307' = false := by decide +kernel
    exact ⟨by simp, by simpa using ⟨first.1, second.1⟩, fun _ => by simpa using ⟨first.2, second.2⟩⟩
  · next single =>
    split
    · split
      · exact letter (by decide +kernel) (by decide)
      · exact letter (by decide +kernel) (by decide)
    · exact ⟨by simp, by simpa using isLowered_lowerChar single,
        fun shown => by simpa using isBlank_lowerChar shown⟩

theorem isLowered_of_mem_lowerFrom {before text : List Char} {d : Char} (h : d ∈ lowerFrom before text) :
    IsLowered d := by
  induction text generalizing before with
  | nil => simp [lowerFrom] at h
  | cons c rest ih =>
    obtain ⟨written, split, replaces⟩ := exists_lowerFrom_cons before rest c
    rw [split, List.mem_append] at h
    exact h.elim (replaces.lowered d) ih

theorem lowerFrom_of_isLowered (before : List Char) {text : List Char} (lowered : ∀ c ∈ text, IsLowered c) :
    lowerFrom before text = text := by
  induction text generalizing before with
  | nil => rfl
  | cons c rest ih =>
    obtain ⟨here, later⟩ := List.forall_mem_cons.mp lowered
    have notSigma : c ≠ 'Σ' := by
      rintro rfl
      exact absurd here (by decide +kernel)
    rw [lowerFrom, if_neg here.single, if_neg notSigma, here.lowerChar_eq, ih _ later]
    rfl

theorem lower_lower (text : String) : lower (lower text) = lower text := by
  have fixed := lowerFrom_of_isLowered [] fun c (h : c ∈ lowerFrom [] text.toList) =>
    isLowered_of_mem_lowerFrom h
  rw [lower, lower, String.toList_ofList, fixed]

theorem mem_or_letter_le_of_mem_lowerFrom {before text : List Char} {d : Char}
    (h : d ∈ lowerFrom before text) : d ∈ text ∨ 'a'.toNat ≤ d.toNat := by
  induction text generalizing before with
  | nil => simp [lowerFrom] at h
  | cons c rest ih =>
    have letters : ∀ e ∈ ['i', '\u0307'] ++ ['σ', 'ς'], 'a'.toNat ≤ e.toNat := by simp
    rw [lowerFrom, List.mem_append] at h
    rcases h with here | later
    · split at here
      · exact .inr (letters d (List.mem_append_left _ here))
      · split at here
        · refine .inr (letters d (List.mem_append_right _ ?_))
          split at here <;> simp [List.mem_singleton.mp here]
        · obtain rfl := List.mem_singleton.mp here
          exact (lowerChar_eq_or_letter_le c).imp_left fun kept => by simp [kept]
    · exact (ih later).imp_left (List.mem_cons_of_mem c)

theorem lower_eq_empty_iff {text : String} : lower text = "" ↔ text = "" := by
  refine ⟨fun none => ?_, by rintro rfl; rfl⟩
  rw [lower, String.ofList_eq_empty_iff] at none
  cases shape : text.toList with
  | nil => exact String.toList_eq_nil_iff.mp shape
  | cons c rest =>
    obtain ⟨written, split, replaces⟩ := exists_lowerFrom_cons [] rest c
    rw [shape, split] at none
    exact absurd (List.append_eq_nil_iff.mp none).1 replaces.nonempty

/-! ### Blanks at the ends -/

structure Trimmed (text : List Char) : Prop where
  head (nonempty : text ≠ []) : isBlank (text.head nonempty) = false
  last (nonempty : text ≠ []) : isBlank (text.getLast nonempty) = false

theorem toList_strip (text : String) :
    (strip text).toList = (text.toList.dropWhile isBlank).rdropWhile isBlank := by
  rw [strip, stripBy, String.toList_ofList, List.rdropWhile]

theorem trimmed_strip (text : String) : Trimmed (strip text).toList := by
  rw [toList_strip]
  constructor
  · intro nonempty
    rw [(List.rdropWhile_prefix isBlank _).head nonempty]
    exact List.head_dropWhile_not isBlank _
  · intro nonempty
    exact Bool.eq_false_iff.mpr (List.rdropWhile_last_not isBlank _ nonempty)

theorem Trimmed.strip_eq {text : String} (h : Trimmed text.toList) : strip text = text := by
  have front : text.toList.dropWhile isBlank = text.toList := by
    cases shape : text.toList with
    | nil => rfl
    | cons c rest =>
      have := h.head (by simp [shape])
      exact List.dropWhile_cons_of_neg (by simpa [shape] using this)
  have back : text.toList.rdropWhile isBlank = text.toList :=
    List.rdropWhile_eq_self_iff.mpr fun nonempty => Bool.eq_false_iff.mp (h.last nonempty)
  rw [← String.toList_inj, toList_strip, front, back]

theorem exists_lowerFrom_getLast (before : List Char) {text : List Char} (nonempty : text ≠ []) :
    ∃ made written, lowerFrom before text = made ++ written ∧ Replaces (text.getLast nonempty) written := by
  induction text generalizing before with
  | nil => exact absurd rfl nonempty
  | cons c rest ih =>
    obtain ⟨written, split, replaces⟩ := exists_lowerFrom_cons before rest c
    by_cases more : rest = []
    · subst more
      exact ⟨[], written, by rw [split]; simp [lowerFrom], replaces⟩
    · obtain ⟨made, last, ends, lastReplaces⟩ := ih (c :: before) more
      refine ⟨written ++ made, last, by rw [split, ends, List.append_assoc], ?_⟩
      rwa [List.getLast_cons more]

theorem Trimmed.lowerFrom {before text : List Char} (h : Trimmed text) : Trimmed (lowerFrom before text) := by
  by_cases nonempty : text = []
  · subst nonempty
    exact ⟨fun none => absurd rfl none, fun none => absurd rfl none⟩
  constructor
  · intro made
    obtain ⟨c, rest, rfl⟩ := List.exists_cons_of_ne_nil nonempty
    obtain ⟨written, split, replaces⟩ := exists_lowerFrom_cons before rest c
    refine replaces.shown (h.head nonempty) _ ?_
    simp only [split, List.head_append_of_ne_nil replaces.nonempty, List.head_mem]
  · intro made
    obtain ⟨front, written, split, replaces⟩ := exists_lowerFrom_getLast before nonempty
    refine replaces.shown (h.last nonempty) _ ?_
    simp only [split, List.getLast_append_of_ne_nil _ replaces.nonempty, List.getLast_mem]

theorem strip_lower_strip (text : String) : strip (lower (strip text)) = lower (strip text) := by
  apply Trimmed.strip_eq
  rw [lower, String.toList_ofList]
  exact (trimmed_strip text).lowerFrom

end Footprint.Text
