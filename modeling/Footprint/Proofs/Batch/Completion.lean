import Footprint.Proofs.Batch
import Footprint.Proofs.Meter.Depth
import Mathlib.Algebra.Ring.Int.Defs
import Mathlib.Data.List.Perm.Basic

/-! Measuring several files at a time comes to what measuring them one by one comes to. Every order of
completion fills each slot once, so nothing of the order is left in the result, and the files share one
hour, so the clock may go on in the meantime. -/
namespace Footprint

/-! ### One hour for all -/

namespace Meter

theorem measure_eq_of_hour (meter : Meter) {c : Conditions} (given : c.hour.isNull = false)
    (clock later : Int) (u : SourceUnit) : meter.measure later c u = meter.measure clock c u := by
  refine measure_sameAt ⟨rfl, rfl, ?_⟩ u
  simp [EnvironmentTables.hourOf, given]

theorem gridIntensity_of_measure {meter : Meter} {clock : Int} {c : Conditions} {u : SourceUnit}
    {m : Measurement} (h : (meter.measure clock c u).outcome = .ok m) :
    meter.environments.gridIntensity clock c = .ok m.metrics.gridIntensity := by
  obtain ⟨-, -, _, _, -, -, figures⟩ := measure_eq_ok_iff.mp h
  exact figures.gridIntensity

end Meter

namespace Batch

theorem isNull_hour_atOneHour (clock : Int) (c : Conditions) :
    (atOneHour clock c).hour.isNull = false := by
  unfold atOneHour
  split
  · rfl
  · next given => simpa using given

/-! ### Orders of completion -/

theorem completions_perm (tasks : Nat) (choices : List Nat) {atWork waiting : List Nat}
    (count : tasks = atWork.length + waiting.length) (busy : atWork = [] → waiting = []) :
    (completions tasks choices atWork waiting).Perm (atWork ++ waiting) := by
  induction tasks generalizing choices atWork waiting with
  | zero =>
    have none : atWork = [] := List.length_eq_zero_iff.mp (by omega)
    rw [none, busy none]
    exact .nil
  | succ tasks ih =>
    have someone : 0 < atWork.length := by
      by_contra nobody
      have none : atWork = [] := List.length_eq_zero_iff.mp (by omega)
      simp [none, busy none] at count
    rw [completions]
    have place := Nat.mod_lt (choices.headD 0) someone
    generalize choices.headD 0 % atWork.length = choice at place ⊢
    rw [List.getElem?_eq_getElem place]
    have fewer : tasks = (atWork.eraseIdx choice ++ waiting.take 1).length + (waiting.drop 1).length := by
      simp only [List.length_append, List.length_eraseIdx, List.length_take, List.length_drop]
      split <;> omega
    have rest := ih choices.tail fewer (by cases waiting <;> simp)
    rw [List.append_assoc, List.take_append_drop] at rest
    have front := List.getElem_cons_eraseIdx_perm place
    exact (rest.cons _).trans (front.append_right waiting)

theorem completionOrder_perm (limit : Int) (choices : List Nat) (tasks : Nat) :
    (completionOrder limit choices tasks).Perm (List.range tasks) := by
  have someone : 1 ≤ workerCount limit tasks := by
    unfold workerCount
    omega
  unfold completionOrder
  dsimp only
  refine (completions_perm tasks choices ?_ ?_).trans (.of_eq (List.take_append_drop _ _))
  · simp only [List.length_take, List.length_drop, List.length_range]
    omega
  · intro none
    have empty := congrArg List.length none
    simp only [List.length_take, List.length_range, List.length_nil] at empty
    have zero : tasks = 0 := by omega
    simp [zero]

/-! ### Filling the slots -/

variable {α : Type}

theorem fill_cons_ok (slots : List (Option α)) (slot : Nat) (a : α) (rest : List (Nat × Outcome α)) :
    fill slots ((slot, .ok a) :: rest) = fill (slots.set slot (some a)) rest := rfl

theorem fill_eq_error {slots : List (Option α)} {tasks : List (Nat × Outcome α)} {cause : Failure}
    (h : fill slots tasks = .error cause) : ∃ slot, (slot, .error cause) ∈ tasks := by
  induction tasks generalizing slots with
  | nil => nomatch h
  | cons task rest ih =>
    obtain ⟨slot, outcome⟩ := task
    cases outcome with
    | error first =>
      obtain rfl := Except.error.inj h
      exact ⟨slot, List.mem_cons_self⟩
    | ok a =>
      obtain ⟨other, later⟩ := ih h
      exact ⟨other, List.mem_cons_of_mem _ later⟩

theorem forall_ok_of_fill {slots filled : List (Option α)} {tasks : List (Nat × Outcome α)}
    (h : fill slots tasks = .ok filled) : ∀ task ∈ tasks, ∃ a, task.2 = .ok a := by
  induction tasks generalizing slots with
  | nil => nofun
  | cons task rest ih =>
    obtain ⟨slot, outcome⟩ := task
    cases outcome with
    | error first => nomatch h
    | ok a =>
      intro other member
      obtain rfl | later := List.mem_cons.mp member
      · exact ⟨a, rfl⟩
      · exact ih h other later

def succeeding (values : List α) (order : List Nat) : List (Nat × Outcome α) :=
  order.filterMap fun i => values[i]?.map fun a => (i, .ok a)

theorem fill_succeeding (values : List α) (order : List Nat) {slots : List (Option α)}
    (length : slots.length = values.length) :
    ∃ filled, fill slots (succeeding values order) = .ok filled ∧ filled.length = values.length ∧
      ∀ i < values.length, filled[i]? = if i ∈ order then some values[i]? else slots[i]? := by
  induction order generalizing slots with
  | nil => exact ⟨slots, rfl, length, fun i _ => by simp⟩
  | cons place rest ih =>
    by_cases inside : place < values.length
    · have task : succeeding values (place :: rest) =
          (place, .ok values[place]) :: succeeding values rest := by
        simp [succeeding, inside]
      have unchanged : (slots.set place (some values[place])).length = values.length := by
        rw [List.length_set, length]
      obtain ⟨filled, fillOk, same, entries⟩ := ih unchanged
      refine ⟨filled, by rw [task, fill_cons_ok, fillOk], same, fun i bound => ?_⟩
      rw [entries i bound]
      by_cases later : i ∈ rest
      · simp [later]
      · by_cases here : place = i
        · subst here
          simp [later, length, inside]
        · have other : ¬ i = place := fun e => here e.symm
          simp [later, here, other]
    · have task : succeeding values (place :: rest) = succeeding values rest := by
        simp [succeeding, inside]
      obtain ⟨filled, fillOk, same, entries⟩ := ih length
      refine ⟨filled, by rw [task, fillOk], same, fun i bound => ?_⟩
      have other : ¬ i = place := by omega
      rw [entries i bound]
      simp [other]

theorem fill_of_perm {values : List α} {order : List Nat}
    (perm : order.Perm (List.range values.length)) :
    (fill (List.replicate values.length none) (succeeding values order)).map (·.filterMap id) =
      .ok values := by
  obtain ⟨filled, fillOk, length, entries⟩ :=
    fill_succeeding values order (List.length_replicate (a := (none : Option α)))
  have full : filled = values.map some := by
    apply List.ext_getElem?
    intro i
    by_cases bound : i < values.length
    · have member : i ∈ order := perm.mem_iff.mpr (List.mem_range.mpr bound)
      rw [entries i bound, if_pos member]
      simp [bound]
    · have beyond : filled.length ≤ i := by omega
      simp [List.getElem?_eq_none beyond, bound]
  rw [fillOk, full]
  simp [Except.map]

/-! ### Several files -/

section

variable (meter : Meter) (clock : Int) (c : Conditions) (units : List SourceUnit)

def alone : List (Outcome Measurement) :=
  units.map fun u => (meter.measure clock (atOneHour clock c) u).outcome

variable {meter clock c units}

theorem outcome_measureInOrder (order : List Nat) :
    (measureInOrder meter clock c units order).outcome =
      (fill (List.replicate units.length none)
        (order.filterMap fun i => (alone meter.inWorker clock c units)[i]?.map fun o => (i, o))).map
          (·.filterMap id) := by
  unfold measureInOrder alone
  dsimp only
  rw [List.map_filterMap]
  congr 3
  funext i
  rw [List.getElem?_map, Option.map_map, Option.map_map]
  rfl

theorem measureInOrder_of_ok {order : List Nat} (perm : order.Perm (List.range units.length))
    {ms : List Measurement} (each : alone meter.inWorker clock c units = ms.map .ok) :
    (measureInOrder meter clock c units order).outcome = .ok ms := by
  have count : units.length = ms.length := by
    have lengths := congrArg List.length each
    simpa [alone] using lengths
  rw [count] at perm
  rw [outcome_measureInOrder, each, count, ← fill_of_perm perm]
  congr 2
  unfold succeeding
  congr 1
  funext i
  rw [List.getElem?_map, Option.map_map]
  rfl

theorem measureInOrder_eq_error {order : List Nat} {cause : Failure}
    (h : (measureInOrder meter clock c units order).outcome = .error cause) :
    .error cause ∈ alone meter.inWorker clock c units := by
  rw [outcome_measureInOrder] at h
  obtain ⟨slot, member⟩ := fill_eq_error (eq_error_of_map_eq_error h)
  obtain ⟨i, -, found⟩ := List.mem_filterMap.mp member
  obtain ⟨outcome, atPlace, same⟩ := Option.map_eq_some_iff.mp found
  obtain rfl := (Prod.mk.inj same).2
  exact List.mem_of_getElem? atPlace

theorem alone_of_measureInOrder {order : List Nat} (perm : order.Perm (List.range units.length))
    {ms : List Measurement} (h : (measureInOrder meter clock c units order).outcome = .ok ms) :
    alone meter.inWorker clock c units = ms.map .ok := by
  have source := h
  rw [outcome_measureInOrder] at source
  obtain ⟨filled, fillOk, -⟩ := exists_of_map_eq_ok source
  have succeeded : ∀ o ∈ alone meter.inWorker clock c units, ∃ m, o = .ok m := by
    intro o member
    obtain ⟨i, atPlace⟩ := List.mem_iff_getElem?.mp member
    have bound : i < units.length := by
      have := (List.getElem?_eq_some_iff.mp atPlace).1
      simpa [alone] using this
    refine forall_ok_of_fill fillOk (i, o) (List.mem_filterMap.mpr ⟨i, ?_, ?_⟩)
    · exact perm.mem_iff.mpr (List.mem_range.mpr bound)
    · rw [atPlace]
      rfl
  obtain ⟨others, each⟩ := exists_map_ok succeeded
  have same := (measureInOrder_of_ok perm each).symm.trans h
  rw [each, Except.ok.inj same]

variable (meter clock c units)

/-- An outcome for several files that tells what each comes to on its own: their measurements in order,
or a failure of one of them. -/
structure TellsEach (outcome : Outcome (List Measurement)) : Prop where
  measured : ∀ ms : List Measurement, alone meter clock c units = ms.map .ok → outcome = .ok ms
  failed : ∀ cause, .error cause ∈ alone meter clock c units →
    ∃ own, .error own ∈ alone meter clock c units ∧ outcome = .error own

variable {meter clock c units}

theorem tellsEach_of_perm {order : List Nat} (perm : order.Perm (List.range units.length)) :
    TellsEach meter.inWorker clock c units (measureInOrder meter clock c units order).outcome where
  measured ms each := measureInOrder_of_ok perm each
  failed cause member := by
    cases h : (measureInOrder meter clock c units order).outcome with
    | error own => exact ⟨own, measureInOrder_eq_error h, rfl⟩
    | ok ms =>
      rw [alone_of_measureInOrder perm h] at member
      obtain ⟨m, -, mixed⟩ := List.mem_map.mp member
      nomatch mixed

theorem exists_gridIntensity_of_alone {ms : List Measurement}
    (each : alone meter clock c units = ms.map .ok) :
    ∃ intensity, ∀ m ∈ ms, m.metrics.gridIntensity = intensity := by
  have shown : ∀ m ∈ ms, meter.environments.gridIntensity clock (atOneHour clock c) =
      .ok m.metrics.gridIntensity := by
    intro m member
    have own : .ok m ∈ alone meter clock c units := each ▸ List.mem_map_of_mem member
    obtain ⟨u, -, measured⟩ := List.mem_map.mp own
    exact Meter.gridIntensity_of_measure measured
  cases ms with
  | nil => exact ⟨0, fun m member => absurd member List.not_mem_nil⟩
  | cons first rest =>
    refine ⟨first.metrics.gridIntensity, fun m member => ?_⟩
    exact Except.ok.inj ((shown m member).symm.trans (shown first List.mem_cons_self))

end

/-! ### One file -/

theorem sameAt_atOneHour {clock : Int} (low : 0 ≤ clock) (high : clock < 24) (c : Conditions) :
    Conditions.SameAt clock clock (atOneHour clock c) c := by
  unfold atOneHour
  split
  · next missing =>
    have day : (Json.int clock).toInteger.map (· % 24) = .ok (clock % 24) := rfl
    refine ⟨rfl, rfl, ?_⟩
    unfold EnvironmentTables.hourOf
    rw [if_pos missing]
    refine (if_neg Bool.false_ne_true).trans (day.trans ?_)
    rw [Int.emod_eq_of_lt low high]
  · exact ⟨rfl, rfl, rfl⟩

theorem alone_singleton (meter : Meter) {clock : Int} (low : 0 ≤ clock) (high : clock < 24) (c : Conditions)
    (u : SourceUnit) : alone meter clock c [u] = [(meter.measure clock c u).outcome] := by
  rw [← Meter.measure_sameAt (sameAt_atOneHour low high c) u]
  rfl

theorem measureMany_singleton (meter : Meter) {clock : Int} (low : 0 ≤ clock) (high : clock < 24)
    (c : Conditions) (u : SourceUnit) (limit : Int) (choices : List Nat) :
    (measureMany meter clock c [u] limit choices).outcome =
      (meter.inWorker.measure clock c u).outcome.map fun m => [m] := by
  have own := alone_singleton meter.inWorker low high c u
  have tells : TellsEach meter.inWorker clock c [u] (measureMany meter clock c [u] limit choices).outcome :=
    tellsEach_of_perm (completionOrder_perm limit choices 1)
  obtain ⟨measured, failed⟩ := tells
  rw [own] at measured failed
  cases outcome : (meter.inWorker.measure clock c u).outcome with
  | ok m =>
    rw [outcome] at measured
    exact measured [m] rfl
  | error cause =>
    rw [outcome] at failed
    obtain ⟨other, same, result⟩ := failed cause (List.mem_singleton_self _)
    obtain rfl := Except.error.inj (List.mem_singleton.mp same)
    exact result

/-! ### Files in any order -/

/-- For stacks that hold the trees of all files alike, each file comes to the same on its own. -/
theorem alone_on_congr {meter : Meter} {one other : Signals.CallStack} {clock : Int} {c : Conditions}
    {units : List SourceUnit} (held : ∀ u ∈ units, meter.HeldAlike one other u) :
    alone (meter.on one) clock c units = alone (meter.on other) clock c units :=
  List.map_congr_left fun u member => by rw [Meter.measure_on_of_heldAlike (held u member)]

def withOversized : List SourceUnit :=
  [⟨"a.js", .int 1024, some "for (;;) f();", "js"⟩, ⟨"b.js", .int (10 ^ 400), none, "js"⟩]

end Batch
end Footprint
