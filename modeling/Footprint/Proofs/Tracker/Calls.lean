import Footprint.Tracker
import Mathlib.Data.List.Induction
import Mathlib.Logic.Function.Basic

/-! Calls of one tracker that are under way at a time. A call records a change or flushes what is pending;
the steps of all calls come in any order. In particular the last check of a computation and the showing of
its figures are two steps, between which others may run. -/
namespace Footprint

structure TrackerCall where
  key : Key
  buffer : Option (String × String) := none
  /-- The hour on the clock when its figures are computed. -/
  clock : Int

inductive CallProgress where
  | called
  /-- The change is noted, and there is no quiet period to wait for. -/
  | noted
  | computing (generation : Nat) (c : Computation)
  | returned

def CallProgress.shows? : CallProgress → Option (Nat × StatusBar)
  | .computing generation (.accepted m) => some (generation, .ofMetrics m)
  | _ => none

theorem CallProgress.exists_of_shows? {p : CallProgress} {s : Nat × StatusBar}
    (shows : p.shows? = some s) :
    ∃ m, s.2 = .ofMetrics m ∧ p = .computing s.1 (.accepted m) := by
  cases p with
  | computing generation c =>
    cases c with
    | accepted m =>
      obtain rfl := Option.some.inj shows
      exact ⟨m, rfl, rfl⟩
    | _ => nomatch shows
  | _ => nomatch shows

namespace Tracker

def takeFor (t : Tracker) (call : TrackerCall) : CallProgress × Tracker :=
  match t.take call.key with
  | (none, t) => (.returned, t)
  | (some change, t) =>
    (.computing change.generation (.taken change.generation change.name change.content), t)

def stepCall (t : Tracker) (call : TrackerCall) : CallProgress → CallProgress × Tracker
  | .called =>
    match call.buffer with
    | none => t.takeFor call
    | some (name, content) =>
      (if t.debounced then .returned else .noted, (t.record call.key name content).2)
  | .noted => t.takeFor call
  | .computing generation c =>
    (.computing generation (t.advance call.clock call.key c).1,
      (t.advance call.clock call.key c).2.1)
  | .returned => (.returned, t)

def stepsCall (call : TrackerCall) : Nat → CallProgress × Tracker → CallProgress × Tracker
  | 0, state => state
  | steps + 1, (progress, t) => stepsCall call steps (t.stepCall call progress)

theorem stepsCall_computing (call : TrackerCall) (steps : Nat) (t : Tracker) (generation : Nat)
    (c : Computation) (events : List Event) :
    stepsCall call steps (.computing generation c, t) =
      (.computing generation (advances call.clock call.key steps (c, t, events)).1,
        (advances call.clock call.key steps (c, t, events)).2.1) := by
  induction steps generalizing t c events with
  | zero => rfl
  | succ steps ih => exact ih _ _ _

theorem stepsCall_returned (call : TrackerCall) (steps : Nat) (t : Tracker) :
    stepsCall call steps (.returned, t) = (.returned, t) := by
  induction steps with
  | zero => rfl
  | succ steps ih => exact ih

theorem stepsCall_takeFor (t : Tracker) (call : TrackerCall) :
    (stepsCall call stepCount (t.takeFor call)).2 = (t.flush call.clock call.key).2.1 := by
  unfold takeFor flush
  generalize t.take call.key = taken
  obtain ⟨pending, t⟩ := taken
  cases pending with
  | none => exact congrArg Prod.snd (stepsCall_returned _ _ _)
  | some change => exact congrArg Prod.snd (stepsCall_computing _ _ _ _ _ [])

theorem stepsCall_flush (t : Tracker) (key : Key) (clock : Int) :
    (stepsCall { key, clock } (stepCount + 1) (.called, t)).2 = (t.flush clock key).2.1 :=
  stepsCall_takeFor t { key, clock }

theorem stepsCall_change (t : Tracker) (key : Key) (name content : String) (clock : Int) :
    (stepsCall { key, buffer := some (name, content), clock } (stepCount + 2) (.called, t)).2 =
      (t.change clock key name content).2.1 := by
  have same : (t.record key name content).2.debounced = t.debounced := rfl
  rw [change, stepsCall, stepCall]
  dsimp only
  rw [same]
  cases t.debounced with
  | true => exact congrArg Prod.snd (stepsCall_returned _ _ _)
  | false => exact stepsCall_takeFor (t.record key name content).2 _

end Tracker

structure Editor (ι : Type) where
  tracker : Tracker
  progress : ι → CallProgress

namespace Editor

variable {ι : Type} (calls : ι → TrackerCall)

def start (t : Tracker) : Editor ι where
  tracker := t
  progress _ := .called

def shows? (e : Editor ι) (i : ι) : Option (Nat × StatusBar) := (e.progress i).shows?

def shownNext (key : Key) (e : Editor ι) (i : ι) : List (Nat × StatusBar) :=
  if (calls i).key = key then (e.shows? i).toList else []

theorem mem_shownNext (key : Key) (e : Editor ι) (i : ι) (s : Nat × StatusBar) :
    s ∈ shownNext calls key e i ↔ (calls i).key = key ∧ e.shows? i = some s := by
  unfold shownNext
  split <;> simp_all

variable [DecidableEq ι]

def step (e : Editor ι) (i : ι) : Editor ι where
  tracker := (e.tracker.stepCall (calls i) (e.progress i)).2
  progress := Function.update e.progress i (e.tracker.stepCall (calls i) (e.progress i)).1

def run (e : Editor ι) (schedule : List ι) : Editor ι := schedule.foldl (step calls) e

def shown (key : Key) : Editor ι → List ι → List (Nat × StatusBar)
  | _, [] => []
  | e, i :: rest => shownNext calls key e i ++ shown key (e.step calls i) rest

theorem run_append (e : Editor ι) (before after : List ι) :
    e.run calls (before ++ after) = (e.run calls before).run calls after :=
  List.foldl_append

theorem shown_append (key : Key) (e : Editor ι) (before after : List ι) :
    shown calls key e (before ++ after) =
      shown calls key e before ++ shown calls key (e.run calls before) after := by
  induction before generalizing e with
  | nil => rfl
  | cons i rest ih =>
    rw [List.cons_append, shown, shown, ih, List.append_assoc]
    rfl

theorem run_concat (e : Editor ι) (schedule : List ι) (i : ι) :
    e.run calls (schedule ++ [i]) = (e.run calls schedule).step calls i :=
  run_append calls e schedule [i]

theorem shown_concat (key : Key) (e : Editor ι) (schedule : List ι) (i : ι) :
    shown calls key e (schedule ++ [i]) =
      shown calls key e schedule ++ shownNext calls key (e.run calls schedule) i := by
  rw [shown_append, shown, shown, List.append_nil]

theorem mem_shown (key : Key) (e : Editor ι) (schedule : List ι) (s : Nat × StatusBar) :
    s ∈ shown calls key e schedule ↔
      ∃ before i after, schedule = before ++ i :: after ∧ (calls i).key = key ∧
        (e.run calls before).shows? i = some s := by
  induction schedule generalizing e with
  | nil => simp [shown]
  | cons j rest ih =>
    rw [shown, List.mem_append, mem_shownNext, ih]
    constructor
    · rintro (⟨own, shows⟩ | ⟨before, i, after, rfl, own, shows⟩)
      · exact ⟨[], j, rest, rfl, own, shows⟩
      · exact ⟨j :: before, i, after, rfl, own, shows⟩
    · rintro ⟨before, i, after, whole, own, shows⟩
      cases before with
      | nil =>
        obtain ⟨rfl, rfl⟩ := List.cons.inj whole
        exact .inl ⟨own, shows⟩
      | cons k before =>
        obtain ⟨rfl, rfl⟩ := List.cons.inj whole
        exact .inr ⟨before, i, after, rfl, own, shows⟩

@[simp] theorem progress_step_self (e : Editor ι) (i : ι) :
    (e.step calls i).progress i = (e.tracker.stepCall (calls i) (e.progress i)).1 :=
  Function.update_self ..

theorem progress_step_of_ne (e : Editor ι) {i j : ι} (ne : j ≠ i) :
    (e.step calls i).progress j = e.progress j :=
  Function.update_of_ne ne _ _

theorem shows?_step_of_ne (e : Editor ι) {i j : ι} (ne : j ≠ i) :
    (e.step calls i).shows? j = e.shows? j := by
  unfold shows?
  rw [progress_step_of_ne calls e ne]

theorem mem_shown_of_shows? {key : Key} {e : Editor ι} {schedule : List ι} {j : ι}
    {s : Nat × StatusBar} (own : (calls j).key = key) (shows : e.shows? j = some s)
    (member : j ∈ schedule) : s ∈ shown calls key e schedule := by
  induction schedule generalizing e with
  | nil => exact absurd member List.not_mem_nil
  | cons i rest ih =>
    rw [shown, List.mem_append, mem_shownNext]
    by_cases same : j = i
    · exact .inl (same ▸ ⟨own, shows⟩)
    · have later : j ∈ rest := (List.mem_cons.mp member).resolve_left same
      exact .inr (ih ((shows?_step_of_ne calls e same).trans shows) later)

end Editor
end Footprint
