import Footprint.Proofs.Meter.Refusal
import Footprint.Proofs.Tracker.Operations

/-! A tracker whose operations come one after another holds, for each key, its last change as long as that
is neither flushed nor closed away. So nothing is stale, and what it shows last for a key is what the last
flush returned. -/
namespace Footprint

open Operation

namespace Operation

variable {key own : Key} {history : List Operation} {name content : String}

theorem unsaved_of_other {op : Operation} (for' : op.key? = some own) (ne : key ≠ own) :
    Unsaved key name content (history ++ [op]) ↔ Unsaved key name content history := by
  have open' : op.settles key = false := by
    simp [settles, for', Ne.symm ne]
  have other : ¬∃ clock, op = .change clock key name content := by
    rintro ⟨clock, rfl⟩
    exact ne (Option.some.inj for')
  simp [unsaved_concat, open', other]

theorem changes_of_other {op : Operation} (for' : op.key? = some own) (ne : key ≠ own) :
    op.changes key = false := by
  cases op with
  | change clock own' name content =>
    obtain rfl := Option.some.inj for'
    simp [changes, Ne.symm ne]
  | flush | close => rfl

theorem changeCount_of_other {op : Operation} (for' : op.key? = some own) (ne : key ≠ own) :
    changeCount key (history ++ [op]) = changeCount key history := by
  rw [changeCount_concat, changes_of_other for' ne]
  rfl

end Operation

namespace Tracker

structure Follows (key : Key) (history : List Operation) (t : Tracker) : Prop where
  generation : t.gate.newest key = changeCount key history
  pending : ∀ change, t.pending.get? key = some change ↔
    change.generation = t.gate.newest key ∧ Unsaved key change.name change.content history
  timer : key ∈ t.timers ↔ (t.pending.get? key).isSome = true
  latest : t.latest.get? key = (t.updatesOf key).getLast?

section Steps

variable {key : Key} {history : List Operation} {t : Tracker}

theorem Follows.upToDate (f : Follows key history t) : t.UpToDate key :=
  fun change found => ((f.pending change).mp found).1

theorem Follows.of_other {u : Tracker} (f : Follows key history t) (same : SameEntries key t u)
    {op : Operation} {own : Key} (for' : op.key? = some own) (ne : key ≠ own) :
    Follows key (history ++ [op]) u where
  generation := by rw [same.generation, f.generation, changeCount_of_other for' ne]
  pending change := by rw [same.pending, same.generation, unsaved_of_other for' ne, f.pending]
  timer := by rw [same.timer, same.pending, f.timer]
  latest := by rw [same.latest, same.updates, f.latest]

theorem Follows.record (f : Follows key history t) (debounced : t.debounced = true) (clock : Int)
    (name content : String) :
    Follows key (history ++ [.change clock key name content]) (t.record key name content).2 := by
  have found := pending_record t key name content
  have newest := newest_record_self t key name content
  have timers : (t.record key name content).2.timers = t.timers.erase key ++ [key] := if_pos debounced
  have counted : changes key (.change clock key name content) = true := by simp [changes]
  refine ⟨?_, fun change => ?_, ?_, f.latest⟩
  · rw [newest, f.generation, changeCount_concat, if_pos counted]
  · -- The new change settles all earlier ones of its key, so that it alone is unsaved.
    have last : Unsaved key change.name change.content (history ++ [.change clock key name content]) ↔
        name = change.name ∧ content = change.content := by
      simp [unsaved_concat, settles, key?]
    rw [found, newest, last]
    constructor
    · rintro same
      obtain rfl := Option.some.inj same
      exact ⟨rfl, rfl, rfl⟩
    · rintro ⟨same, rfl, rfl⟩
      rw [← same]
  · rw [timers, found]
    simp

theorem Follows.settled (f : Follows key history t) {u : Tracker} {op : Operation}
    (settled : op.settles key = true) (noChange : op.changes key = false)
    (generation : u.gate.newest key = t.gate.newest key) (pending : u.pending.get? key = none)
    (timer : key ∉ u.timers) (latest : u.latest.get? key = (u.updatesOf key).getLast?) :
    Follows key (history ++ [op]) u where
  generation := by rw [generation, f.generation, changeCount_concat, noChange]; rfl
  pending change := by
    have other : ¬∃ clock, op = .change clock key change.name change.content := by
      rintro ⟨clock, rfl⟩
      simp [changes] at noChange
    simp [pending, unsaved_concat, settled, other]
  timer := by simp [pending, timer]
  latest := latest

theorem Follows.flush (f : Follows key history t) (once : t.timers.Nodup) (clock : Int) :
    Follows key (history ++ [.flush clock key]) (t.flush clock key).2.1 := by
  have settled : settles key (.flush clock key) = true := by simp [settles, key?]
  have pending : (t.take key).2.pending.get? key = none := (Keyed.get?_erase ..).trans (if_pos rfl)
  have timer : key ∉ (t.take key).2.timers := fun member => (once.mem_erase_iff.mp member).1 rfl
  obtain ⟨-, after⟩ | ⟨m, -, after⟩ := flush_cases f.upToDate clock <;> rw [after]
  · exact f.settled settled rfl rfl pending timer f.latest
  · refine f.settled settled rfl rfl pending timer ?_
    rw [latest_publish, updatesOf_publish, if_pos rfl, if_pos rfl]
    simp

theorem Follows.flush_of_unsaved (f : Follows key history t) {name content : String}
    (unsaved : Unsaved key name content history) (clock : Int) :
    (t.flush clock key).1 = .ofOutcome (t.compute clock name content) := by
  have found : t.pending.get? key = some ⟨t.gate.newest key, name, content⟩ :=
    (f.pending _).mpr ⟨rfl, unsaved⟩
  rw [flush_of_some found rfl]

theorem Follows.flush_eq_none_iff (f : Follows key history t) (clock : Int) :
    (t.flush clock key).1 = .finished none ↔ ¬∃ name content, Unsaved key name content history := by
  constructor
  · rintro nothing ⟨name, content, unsaved⟩
    exact Computation.ofOutcome_ne _ ((f.flush_of_unsaved unsaved clock).symm.trans nothing)
  · intro saved
    have none : t.pending.get? key = none := by
      cases found : t.pending.get? key with
      | none => rfl
      | some change => exact absurd ⟨_, _, ((f.pending change).mp found).2⟩ saved
    rw [flush_of_none none]

theorem Follows.close (f : Follows key history t) : Follows key (history ++ [.close]) t.close :=
  f.settled rfl rfl rfl rfl List.not_mem_nil f.latest

end Steps

/-! ### Histories -/

structure Waiting (new : Tracker) (history : List Operation) (t : Tracker) : Prop where
  debounced : t.debounced = true
  compute : t.compute = new.compute
  once : t.timers.Nodup
  follows : ∀ key, Follows key history t
  updates : t.updates = new.returnedIn history

theorem Waiting.upToDate {new t : Tracker} {history : List Operation} (w : Waiting new history t)
    (key : Key) : t.UpToDate key := (w.follows key).upToDate

theorem Waiting.perform {new t : Tracker} {history : List Operation} (w : Waiting new history t)
    (same : t = new.after history) (op : Operation) :
    Waiting new (history ++ [op]) (t.perform op).1 := by
  obtain ⟨debounced, compute, -⟩ := frame_perform w.upToDate op
  -- For another key neither the entries nor the last unsaved change are any different.
  have others := fun {own other} (for' : op.key? = some own) (ne : other ≠ own) =>
    (w.follows other).of_other (sameEntries_perform w.upToDate for' ne) for' ne
  refine ⟨debounced.trans w.debounced, compute.trans w.compute,
    nodup_timers_perform w.debounced w.upToDate w.once op, fun key => ?_, ?_⟩
  · cases op with
    | change clock own name content =>
      by_cases ne : key = own
      · have after : (t.perform (.change clock own name content)).1 = (t.record own name content).2 :=
          congrArg (·.2.1) (change_debounced w.debounced clock own name content)
        rw [after, ← ne]
        exact (w.follows key).record w.debounced clock name content
      · exact others rfl ne
    | flush clock own =>
      by_cases ne : key = own
      · exact ne ▸ (w.follows key).flush w.once clock
      · exact others rfl ne
    | close => exact (w.follows key).close
  · rw [updates_perform w.debounced w.upToDate, returnedIn_concat, w.updates, same]

theorem waiting_after {new : Tracker} (start : Waiting new [] new) (history : List Operation) :
    Waiting new history (new.after history) := by
  induction history using List.reverseRecOn with
  | nil => exact start
  | append_singleton history op ih =>
    rw [after_concat]
    exact ih.perform rfl op

theorem waiting_new (meter : Meter) (region hardware : Json) :
    let new : Tracker := { meter, region, hardware }
    Waiting new [] new where
  debounced := rfl
  compute := rfl
  once := .nil
  follows key :=
    { generation := rfl
      pending := fun change => by simp [Keyed.get?_nil, Unsaved, not_stands_nil]
      timer := by simp [Keyed.get?_nil]
      latest := rfl }
  updates := rfl

structure Immediate (new : Tracker) (history : List Operation) (t : Tracker) : Prop where
  immediate : t.debounced = false
  compute : ∀ clock name content, t.compute clock name content =
    ((new.meter.deeper 3).compute clock { region := new.region, hardware := new.hardware }
      (.float (byteLength content)) name (some content)).outcome
  pending : t.pending = []
  timers : t.timers = []
  generation : ∀ key, t.gate.newest key = changeCount key history
  latest : ∀ key clock name content m,
    Stands (changes key) (.change clock key name content) history →
      ((new.meter.deeper 3).compute clock { region := new.region, hardware := new.hardware }
        (.float (byteLength content)) name (some content)).outcome = .ok m →
      t.latest.get? key = some (.ofMetrics m)

namespace Immediate

variable {new t : Tracker} {history : List Operation}

theorem upToDate (i : Immediate new history t) (key : Key) : t.UpToDate key := by
  intro change found
  rw [i.pending] at found
  nomatch found

theorem change (i : Immediate new history t) (clock : Int) (key : Key) (name content : String) :
    Immediate new (history ++ [.change clock key name content])
      (t.perform (.change clock key name content)).1 := by
  let recorded := (t.record key name content).2
  have after : (t.perform (.change clock key name content)).1 = (recorded.flush clock key).2.1 :=
    congrArg (·.2.1) (change_immediate i.immediate clock key name content)
  obtain ⟨debounced, gate, pending, timers, compute, -⟩ :=
    frame_flush (upToDate_record t key name content) clock
  have others : ∀ {other}, other ≠ key →
      SameEntries other t (t.perform (.change clock key name content)).1 :=
    fun ne => sameEntries_perform i.upToDate rfl ne
  rw [after] at others ⊢
  refine ⟨debounced.trans i.immediate, compute ▸ i.compute, ?_, ?_, fun other => ?_, ?_⟩
  · rw [pending]
    change (t.pending.insert key _).erase key = []
    simp [i.pending, Keyed.insert, Keyed.erase]
  · rw [timers]
    change (if t.debounced then t.timers.erase key ++ [key] else t.timers.erase key).erase key = []
    simp [i.immediate, i.timers]
  · by_cases ne : other = key
    · have counted : changes other (.change clock key name content) = true := by simp [changes, ne]
      rw [gate, changeCount_concat, if_pos counted, ← i.generation, ne]
      exact newest_record_self t key name content
    · rw [(others ne).generation, i.generation, changeCount_of_other rfl ne]
  · intro other clock' name' content' m stands computed
    obtain same | ⟨open', stands⟩ := stands_concat.mp stands
    · obtain ⟨rfl, rfl, rfl, rfl⟩ := Operation.change.inj same
      have figures : recorded.compute clock name content = .ok m := (i.compute ..).trans computed
      rw [flush_of_some (pending_record t key name content)
        (newest_record_self t key name content).symm, figures]
      exact (Keyed.get?_insert ..).trans (if_pos rfl)
    · have ne : other ≠ key := by
        rintro rfl
        simp [changes] at open'
      rw [(others ne).latest]
      exact i.latest other clock' name' content' m stands computed

theorem idle (i : Immediate new history t) {u : Tracker} {op : Operation}
    (noChange : ∀ key, op.changes key = false) (immediate : u.debounced = false)
    (compute : u.compute = t.compute) (pending : u.pending = []) (timers : u.timers = [])
    (gate : u.gate = t.gate) (latest : u.latest = t.latest) : Immediate new (history ++ [op]) u := by
  refine ⟨immediate, compute ▸ i.compute, pending, timers, fun key => ?_, ?_⟩
  · rw [gate, i.generation, changeCount_concat, noChange]
    rfl
  · intro key clock name content m stands computed
    obtain rfl | ⟨-, stands⟩ := stands_concat.mp stands
    · have change := noChange key
      simp [changes] at change
    · rw [latest]
      exact i.latest key clock name content m stands computed

theorem perform (i : Immediate new history t) (op : Operation) :
    Immediate new (history ++ [op]) (t.perform op).1 := by
  cases op with
  | change clock key name content => exact i.change clock key name content
  | flush clock key =>
    have none : t.pending.get? key = none := by rw [i.pending, Keyed.get?_nil]
    have after : (t.perform (.flush clock key)).1 = (t.take key).2 :=
      congrArg (·.2.1) (flush_of_none none clock)
    have pending : (t.take key).2.pending = [] := by simp [take, i.pending, Keyed.erase]
    have timers : (t.take key).2.timers = [] := by simp [take, i.timers]
    rw [after]
    exact i.idle (fun _ => rfl) i.immediate rfl pending timers rfl rfl
  | close => exact i.idle (fun _ => rfl) i.immediate rfl rfl rfl rfl rfl

theorem after {new : Tracker} (start : Immediate new [] new) (history : List Operation) :
    Immediate new history (new.after history) := by
  induction history using List.reverseRecOn with
  | nil => exact start
  | append_singleton history op ih =>
    rw [after_concat]
    exact ih.perform op

theorem start (meter : Meter) (region hardware : Json) :
    let new : Tracker := { meter, region, hardware, debounced := false }
    Immediate new [] new where
  immediate := rfl
  compute _ _ _ := rfl
  pending := rfl
  timers := rfl
  generation _ := rfl
  latest _ _ _ _ _ stands := absurd stands (not_stands_nil _ _)

end Immediate

def zFigures : Metrics := ⟨0.0, 0.0, 368, 1, 1.0, 1.0, false, "js"⟩

end Tracker
end Footprint
