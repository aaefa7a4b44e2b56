import Footprint.Recorded
import Mathlib.Data.List.Basic

/-! Taking computations apart: what comes out of a computation with a result went through a result of
each of its steps. -/
namespace Footprint

variable {ε α β : Type}

theorem ok_bind (a : α) (f : α → Except ε β) : (Except.ok a >>= f) = f a := rfl

theorem error_bind (e : ε) (f : α → Except ε β) : (Except.error e >>= f) = .error e := rfl

theorem exists_of_bind_eq_ok {x : Except ε α} {f : α → Except ε β} {b : β}
    (h : (x >>= f) = .ok b) : ∃ a, x = .ok a ∧ f a = .ok b := by
  cases x with
  | error e => cases h
  | ok a => exact ⟨a, rfl, h⟩

theorem bind_eq_ok_of {x : Except ε α} {f : α → Except ε β} {a : α} {b : β} (hx : x = .ok a)
    (hf : f a = .ok b) : (x >>= f) = .ok b := by
  rw [hx]
  exact hf

theorem cases_of_bind_eq_error {x : Except ε α} {f : α → Except ε β} {e : ε}
    (h : (x >>= f) = .error e) : x = .error e ∨ ∃ a, x = .ok a ∧ f a = .error e := by
  cases x with
  | error other => exact .inl (congrArg Except.error (Except.error.inj h))
  | ok a => exact .inr ⟨a, rfl, h⟩

theorem map_bind_except (x : Except ε α) (f : α → Except ε β) {γ : Type} (g : β → γ) :
    (x >>= f).map g = x >>= fun a => (f a).map g := by
  cases x <;> rfl

theorem exists_of_map_eq_ok {x : Except ε α} {f : α → β} {b : β} (h : x.map f = .ok b) :
    ∃ a, x = .ok a ∧ f a = b := by
  cases x with
  | error e => cases h
  | ok a => exact ⟨a, rfl, Except.ok.inj h⟩

theorem eq_error_of_map_eq_error {x : Except ε α} {f : α → β} {e : ε} (h : x.map f = .error e) :
    x = .error e := by
  cases x with
  | error other => exact congrArg Except.error (Except.error.inj h)
  | ok a => nomatch h

theorem eq_ok_of_toOption {x : Except ε α} {a : α} (h : x.toOption = some a) : x = .ok a := by
  cases x with
  | error e => cases h
  | ok b => exact congrArg Except.ok (Option.some.inj h)

theorem exists_map_ok {outcomes : List (Except ε α)} (h : ∀ o ∈ outcomes, ∃ a, o = .ok a) :
    ∃ values : List α, outcomes = values.map .ok := by
  induction outcomes with
  | nil => exact ⟨[], rfl⟩
  | cons o rest ih =>
    rw [List.forall_mem_cons] at h
    obtain ⟨⟨a, rfl⟩, others⟩ := h
    obtain ⟨values, rfl⟩ := ih others
    exact ⟨a :: values, rfl⟩

def Outcome.cause? : Outcome α → Option Failure
  | .ok _ => none
  | .error cause => some cause

theorem Outcome.eq_error_of_cause? {x : Outcome α} {cause : Failure} (h : x.cause? = some cause) :
    x = .error cause := by
  cases x with
  | error other => exact congrArg Except.error (Option.some.inj h)
  | ok a => cases h

theorem ofArithmetic_eq_ok_iff {x : Except ArithmeticError α} {a : α} :
    Outcome.ofArithmetic x = .ok a ↔ x = .ok a := by
  cases x <;> simp [Outcome.ofArithmetic]

theorem liftM_eq_ok {x : Except ArithmeticError α} {a : α} (h : x = .ok a) :
    (liftM x : Outcome α) = .ok a := by
  rw [h]
  rfl

theorem exists_of_liftM_eq_error {x : Except ArithmeticError α} {cause : Failure}
    (h : (liftM x : Outcome α) = .error cause) : ∃ e, x = .error e ∧ cause = .arithmetic e := by
  cases x with
  | error e => exact ⟨e, rfl, (Except.error.inj h).symm⟩
  | ok a => nomatch h

theorem mapM_eq_ok_map {f : α → Except ε β} {g : α → β} {xs : List α}
    (h : ∀ x ∈ xs, f x = .ok (g x)) : xs.mapM f = .ok (xs.map g) := by
  induction xs with
  | nil => rfl
  | cons x xs ih =>
    rw [List.forall_mem_cons] at h
    rw [List.mapM_cons, h.1, ih h.2]
    rfl

theorem mapM_congr {f g : α → Except ε β} {xs : List α} (h : ∀ x ∈ xs, f x = g x) :
    xs.mapM f = xs.mapM g := by
  induction xs with
  | nil => rfl
  | cons x xs ih =>
    rw [List.forall_mem_cons] at h
    rw [List.mapM_cons, List.mapM_cons, h.1, ih h.2]

theorem mapM_eq_error_iff {f : α → Except ε β} {xs : List α} {e : ε} :
    xs.mapM f = .error e ↔ ∃ before x after, xs = before ++ x :: after ∧
      (∀ y ∈ before, ∃ b, f y = .ok b) ∧ f x = .error e := by
  induction xs with
  | nil =>
    refine ⟨nofun, ?_⟩
    rintro ⟨before, x, after, split, -⟩
    simp at split
  | cons x xs ih =>
    rw [List.mapM_cons]
    cases first : f x with
    | error other =>
      rw [error_bind]
      constructor
      · intro same
        exact ⟨[], x, xs, rfl, by simp, first.trans (congrArg Except.error (Except.error.inj same))⟩
      · rintro ⟨before, y, after, split, each, failed⟩
        cases before with
        | nil =>
          obtain ⟨rfl, -⟩ := List.cons.inj split
          exact congrArg Except.error (Except.error.inj (first.symm.trans failed))
        | cons z before =>
          obtain ⟨rfl, -⟩ := List.cons.inj split
          obtain ⟨b, passed⟩ := each x List.mem_cons_self
          nomatch first.symm.trans passed
    | ok b =>
      have rest : (do let ys ← xs.mapM f; pure (b :: ys)) = .error e ↔ xs.mapM f = .error e := by
        cases xs.mapM f with
        | error other => exact .rfl
        | ok ys => exact ⟨nofun, nofun⟩
      rw [ok_bind, rest, ih]
      constructor
      · rintro ⟨before, y, after, rfl, each, failed⟩
        exact ⟨x :: before, y, after, rfl, List.forall_mem_cons.mpr ⟨⟨b, first⟩, each⟩, failed⟩
      · rintro ⟨before, y, after, split, each, failed⟩
        cases before with
        | nil =>
          obtain ⟨rfl, -⟩ := List.cons.inj split
          nomatch first.symm.trans failed
        | cons z before =>
          obtain ⟨rfl, rfl⟩ := List.cons.inj split
          exact ⟨before, y, after, rfl, (List.forall_mem_cons.mp each).2, failed⟩

theorem exists_map_of_mapM [Inhabited β] {f : α → Except ε β} {xs : List α} {ys : List β}
    (h : xs.mapM f = .ok ys) : ∃ g : α → β, (∀ x ∈ xs, f x = .ok (g x)) ∧ ys = xs.map g := by
  refine ⟨fun x => ((f x).toOption).getD default, ?_⟩
  induction xs generalizing ys with
  | nil => exact ⟨by simp, (Except.ok.inj h).symm⟩
  | cons x xs ih =>
    rw [List.mapM_cons] at h
    obtain ⟨y, first, h⟩ := exists_of_bind_eq_ok h
    obtain ⟨rest, mapped, same⟩ := exists_of_bind_eq_ok h
    obtain rfl := Except.ok.inj same
    obtain ⟨each, rfl⟩ := ih mapped
    simp only [List.forall_mem_cons, List.map_cons, first]
    exact ⟨⟨rfl, each⟩, rfl⟩

@[simp] theorem Recorded.lift_ok_bind (a : α) (f : α → Recorded β) :
    ((liftM (.ok a : Outcome α) : Recorded α) >>= f) = f a := rfl

@[simp] theorem Recorded.lift_error_bind (cause : Failure) (f : α → Recorded β) :
    ((liftM (.error cause : Outcome α) : Recorded α) >>= f) = ⟨[], .error cause⟩ := rfl

@[simp] theorem Recorded.lift_arithmetic_ok_bind (a : α) (f : α → Recorded β) :
    ((liftM (.ok a : Except ArithmeticError α) : Recorded α) >>= f) = f a := rfl

@[simp] theorem Recorded.lift_arithmetic_error_bind (cause : ArithmeticError) (f : α → Recorded β) :
    ((liftM (.error cause : Except ArithmeticError α) : Recorded α) >>= f) =
      ⟨[], .error (.arithmetic cause)⟩ := rfl

theorem Recorded.outcome_bind (x : Recorded α) (f : α → Recorded β) :
    (x >>= f).outcome = (x.outcome >>= fun a => (f a).outcome) := by
  obtain ⟨events, outcome⟩ := x
  cases outcome <;> rfl

theorem Recorded.exists_of_bind_ok {x : Recorded α} {f : α → Recorded β} {b : β}
    (h : (x >>= f).outcome = .ok b) : ∃ a, x.outcome = .ok a ∧ (f a).outcome = .ok b := by
  obtain ⟨events, outcome⟩ := x
  cases outcome with
  | error cause => cases h
  | ok a => exact ⟨a, rfl, h⟩

end Footprint
