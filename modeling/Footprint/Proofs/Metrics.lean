import Footprint.Metrics
import Footprint.Proofs.Binary64.Order
import Footprint.Proofs.Outcome

/-! The figures of several files, one by one: the complexity is one of theirs and no other is above it,
the memory pressure is the rounded mean, and one file with recursion is enough for recursion. -/
namespace Footprint.Metrics

open Binary64

theorem greatest_cons (first y : Binary64) (rest : List Binary64) :
    greatest first (y :: rest) = greatest (first.max y) rest := rfl

theorem greatest_mem (first : Binary64) (rest : List Binary64) :
    greatest first rest ∈ first :: rest := by
  induction rest generalizing first with
  | nil => exact List.mem_singleton_self first
  | cons y rest ih =>
    rw [greatest_cons]
    have step := ih (first.max y)
    unfold Binary64.max at step ⊢
    split at step
    case isTrue above =>
      rw [if_pos above]
      exact List.mem_cons_of_mem _ step
    case isFalse low =>
      rw [if_neg low]
      rcases List.mem_cons.mp step with same | inRest
      · rw [same]
        exact List.mem_cons_self
      · exact List.mem_cons_of_mem _ (List.mem_cons_of_mem _ inRest)

theorem le_max {x y : Binary64} (hx : x ≠ nan) (hy : y ≠ nan) : x ≤ x.max y ∧ y ≤ x.max y := by
  unfold Binary64.max
  split
  case isTrue above =>
    have order := (lt_iff_rank hx hy).mp above
    exact ⟨(le_iff_rank hx hy).mpr order.le, le_refl' hy⟩
  case isFalse low => exact ⟨le_refl' hx, le_of_not_lt hx hy low⟩

theorem le_greatest {first : Binary64} {rest : List Binary64} (numbers : ∀ x ∈ first :: rest, x ≠ nan) :
    ∀ x ∈ first :: rest, x ≤ greatest first rest := by
  induction rest generalizing first with
  | nil =>
    intro x hx
    obtain rfl := List.mem_singleton.mp hx
    exact le_refl' (numbers x hx)
  | cons y rest ih =>
    obtain ⟨left, right⟩ := le_max (numbers first (by simp)) (numbers y (by simp))
    have later : ∀ x ∈ first.max y :: rest, x ≠ nan := by
      intro x hx
      rcases List.mem_cons.mp hx with rfl | inRest
      · exact (ne_nan_of_le left).2
      · exact numbers x (by simp [inRest])
    have above := ih later
    intro x hx
    rw [greatest_cons]
    rcases List.mem_cons.mp hx with rfl | inTail
    · exact le_trans' left (above _ List.mem_cons_self)
    · rcases List.mem_cons.mp inTail with rfl | inRest
      · exact le_trans' right (above _ List.mem_cons_self)
      · exact above x (List.mem_cons_of_mem _ inRest)

structure Aggregated (first : Metrics) (rest : List Metrics) (m : Metrics) : Prop where
  energy : (sum ((first :: rest).map Metrics.energy)).roundHalfUp (3 : Nat) = .ok m.energy
  carbon : (sum ((first :: rest).map Metrics.carbon)).roundHalfUp (2 : Nat) = .ok m.carbon
  gridIntensity : m.gridIntensity = first.gridIntensity
  lineCount : m.lineCount = ((first :: rest).map Metrics.lineCount).sum
  complexity : m.complexity = greatest first.complexity (rest.map Metrics.complexity)
  memPressure : (sum ((first :: rest).map Metrics.memPressure) /
    ((first :: rest).length : Binary64)).roundHalfUp (2 : Nat) = .ok m.memPressure
  recursive : m.recursive = (first :: rest).any Metrics.recursive
  language : m.language = sharedLanguage first rest

theorem aggregate_eq_ok_iff {first : Metrics} {rest : List Metrics} {m : Metrics} :
    aggregate (first :: rest) = .ok m ↔ Aggregated first rest m := by
  constructor
  · intro h
    obtain ⟨energy, energyOk, h⟩ := exists_of_bind_eq_ok h
    obtain ⟨carbon, carbonOk, h⟩ := exists_of_bind_eq_ok h
    obtain ⟨pressure, pressureOk, h⟩ := exists_of_bind_eq_ok h
    obtain rfl := Except.ok.inj h
    constructor
    case energy => exact ofArithmetic_eq_ok_iff.mp energyOk
    case carbon => exact ofArithmetic_eq_ok_iff.mp carbonOk
    case memPressure => exact ofArithmetic_eq_ok_iff.mp pressureOk
    all_goals rfl
  · intro h
    refine bind_eq_ok_of (liftM_eq_ok h.energy) (bind_eq_ok_of (liftM_eq_ok h.carbon)
      (bind_eq_ok_of (liftM_eq_ok h.memPressure) ?_))
    obtain ⟨energy, carbon, intensity, lines, complexity, pressure, recursive, language⟩ := m
    obtain ⟨-, -, rfl, rfl, rfl, -, rfl, rfl⟩ := h
    rfl

theorem aggregate_eq_ok {all : List Metrics} {m : Metrics} (h : aggregate all = .ok m) :
    all ≠ [] ∧ m.complexity ∈ all.map Metrics.complexity ∧
      ((∀ x ∈ all.map Metrics.complexity, x ≠ nan) →
        ∀ x ∈ all.map Metrics.complexity, x ≤ m.complexity) ∧
      (sum (all.map Metrics.memPressure) / (all.length : Binary64)).roundHalfUp 2 =
        .ok m.memPressure ∧
      m.recursive = all.any Metrics.recursive := by
  cases all with
  | nil => cases h
  | cons first rest =>
    have figures := aggregate_eq_ok_iff.mp h
    rw [figures.complexity]
    exact ⟨by simp, greatest_mem _ _, le_greatest, figures.memPressure, figures.recursive⟩

end Footprint.Metrics
