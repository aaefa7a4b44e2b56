import Footprint.Proofs.Tracker.Publications
import Mathlib.Data.List.Nodup

/-! Operations on one tracker, one after another: each runs to its end before the next begins. What a flush
does is read off the change that is pending, and the other keys are left as they are. -/
namespace Footprint

inductive Operation where
  | change (clock : Int) (key : Key) (name content : String)
  | flush (clock : Int) (key : Key)
  | close

namespace Operation

def key? : Operation → Option Key
  | .change _ key _ _ => some key
  | .flush _ key => some key
  | .close => none

def changes (key : Key) : Operation → Bool
  | .change _ own _ _ => own = key
  | _ => false

def settles (key : Key) (op : Operation) : Bool :=
  match op.key? with
  | some own => own = key
  | none => true

def changeCount (key : Key) (history : List Operation) : Nat := history.countP (changes key)

theorem changeCount_concat (key : Key) (history : List Operation) (op : Operation) :
    changeCount key (history ++ [op]) = changeCount key history + if op.changes key then 1 else 0 := by
  rw [changeCount, List.countP_append, List.countP_singleton, changeCount]

def Stands (ends : Operation → Bool) (op : Operation) (history : List Operation) : Prop :=
  ∃ before after, history = before ++ op :: after ∧ ∀ later ∈ after, ends later = false

theorem not_stands_nil (ends : Operation → Bool) (op : Operation) : ¬Stands ends op [] := by
  rintro ⟨before, after, whole, -⟩
  simp at whole

theorem stands_concat {ends : Operation → Bool} {op last : Operation} {history : List Operation} :
    Stands ends op (history ++ [last]) ↔ last = op ∨ ends last = false ∧ Stands ends op history := by
  constructor
  · rintro ⟨before, after, whole, open'⟩
    obtain rfl | ⟨after, final, rfl⟩ := List.eq_nil_or_concat' after
    · exact .inl (List.append_singleton_inj.mp whole).2
    · rw [← List.cons_append, ← List.append_assoc] at whole
      obtain ⟨rfl, rfl⟩ := List.append_singleton_inj.mp whole
      refine .inr ⟨open' last (by simp), before, after, rfl, fun later member => ?_⟩
      exact open' later (List.mem_append_left _ member)
  · rintro (rfl | ⟨final, before, after, rfl, open'⟩)
    · exact ⟨history, [], rfl, by simp⟩
    · refine ⟨before, after ++ [last], by simp, fun later member => ?_⟩
      obtain earlier | same := List.mem_append.mp member
      · exact open' later earlier
      · exact List.mem_singleton.mp same ▸ final

def Unsaved (key : Key) (name content : String) (history : List Operation) : Prop :=
  ∃ clock, Stands (settles key) (.change clock key name content) history

theorem unsaved_concat {key : Key} {name content : String} {history : List Operation}
    {op : Operation} :
    Unsaved key name content (history ++ [op]) ↔
      (∃ clock, op = .change clock key name content) ∨
        op.settles key = false ∧ Unsaved key name content history := by
  unfold Unsaved
  simp only [stands_concat, exists_or, exists_and_left]

end Operation

def Computation.ofOutcome : Outcome Metrics → Computation
  | .ok m => .finished (some (.ofMetrics m))
  | .error cause => .failed cause

def Computation.shown? : Computation → Option StatusBar
  | .finished shown => shown
  | _ => none

theorem Computation.ofOutcome_ne (outcome : Outcome Metrics) : ofOutcome outcome ≠ .finished none := by
  cases outcome <;> simp [ofOutcome]

namespace Tracker

def perform (t : Tracker) : Operation → Tracker × List Event
  | .change clock key name content => (t.change clock key name content).2
  | .flush clock key => (t.flush clock key).2
  | .close => (t.close, [])

def after (t : Tracker) (history : List Operation) : Tracker :=
  history.foldl (fun t op => (t.perform op).1) t

theorem after_concat (t : Tracker) (history : List Operation) (op : Operation) :
    t.after (history ++ [op]) = ((t.after history).perform op).1 := by
  simp [after]

def returned (t : Tracker) : Operation → Option (Key × StatusBar)
  | .flush clock key => (t.flush clock key).1.shown?.map (key, ·)
  | _ => none

def returnedIn (t : Tracker) : List Operation → List (Key × StatusBar)
  | [] => []
  | op :: rest => (t.returned op).toList ++ (t.perform op).1.returnedIn rest

theorem returnedIn_concat (t : Tracker) (history : List Operation) (op : Operation) :
    t.returnedIn (history ++ [op]) = t.returnedIn history ++ ((t.after history).returned op).toList := by
  induction history generalizing t with
  | nil => simp [returnedIn, after]
  | cons first rest ih =>
    rw [List.cons_append, returnedIn, ih, returnedIn, List.append_assoc]
    rfl

/-! ### Flushes -/

def UpToDate (t : Tracker) (key : Key) : Prop :=
  ∀ change, t.pending.get? key = some change → change.generation = t.gate.newest key

theorem flush_of_none {t : Tracker} {key : Key} (none : t.pending.get? key = none) (clock : Int) :
    t.flush clock key = (.finished .none, (t.take key).2, []) := by
  rw [flush, take, none]

theorem flush_of_some {t : Tracker} {key : Key} {change : Change}
    (found : t.pending.get? key = some change) (current : change.generation = t.gate.newest key)
    (clock : Int) :
    t.flush clock key =
      (.ofOutcome (t.compute clock change.name change.content),
        match t.compute clock change.name change.content with
        | .ok m => (t.take key).2.publish key m
        | .error _ => (t.take key).2,
        []) := by
  have newest : (t.take key).2.gate.isCurrent key change.generation = true := by
    simp [Gate.isCurrent, current, take]
  have accepted : (t.take key).2.gate.accept key change.generation = (true, []) := by
    rw [Gate.accept, if_pos newest]
  have figures : (t.take key).2.compute = t.compute := rfl
  have taken : t.take key = (some change, (t.take key).2) := by rw [take, found]
  unfold flush
  rw [taken]
  dsimp only
  unfold finish stepCount
  cases computed : t.compute clock change.name change.content with
  | ok m => simp [advances, advance, newest, accepted, figures, computed, Computation.ofOutcome]
  | error cause => simp [advances, advance, newest, figures, computed, Computation.ofOutcome]

theorem flush_cases {t : Tracker} {key : Key} (current : t.UpToDate key) (clock : Int) :
    ((t.flush clock key).1.shown? = none ∧ (t.flush clock key).2 = ((t.take key).2, [])) ∨
      ∃ m, (t.flush clock key).1.shown? = some (.ofMetrics m) ∧
        (t.flush clock key).2 = ((t.take key).2.publish key m, []) := by
  cases found : t.pending.get? key with
  | none =>
    rw [flush_of_none found]
    exact .inl ⟨rfl, rfl⟩
  | some change =>
    rw [flush_of_some found (current change found)]
    cases t.compute clock change.name change.content with
    | ok m => exact .inr ⟨m, rfl, rfl⟩
    | error cause => exact .inl ⟨rfl, rfl⟩

theorem frame_flush {t : Tracker} {key : Key} (current : t.UpToDate key) (clock : Int) :
    (t.flush clock key).2.1.debounced = t.debounced ∧
      (t.flush clock key).2.1.gate = t.gate ∧
      (t.flush clock key).2.1.pending = t.pending.erase key ∧
      (t.flush clock key).2.1.timers = t.timers.erase key ∧
      (t.flush clock key).2.1.compute = t.compute ∧ (t.flush clock key).2.2 = [] := by
  obtain ⟨-, after⟩ | ⟨m, -, after⟩ := flush_cases current clock <;> rw [after] <;>
    exact ⟨rfl, rfl, rfl, rfl, rfl, rfl⟩

theorem updates_flush {t : Tracker} {key : Key} (current : t.UpToDate key) (clock : Int) :
    (t.flush clock key).2.1.updates = t.updates ++ (t.returned (.flush clock key)).toList := by
  unfold returned
  dsimp only
  obtain ⟨shown, after⟩ | ⟨m, shown, after⟩ := flush_cases current clock
  · rw [shown, after]
    exact (List.append_nil _).symm
  · rw [shown, after]
    rfl

theorem pending_record (t : Tracker) (key : Key) (name content : String) :
    (t.record key name content).2.pending.get? key = some ⟨t.gate.newest key + 1, name, content⟩ :=
  (Keyed.get?_insert ..).trans (if_pos rfl)

theorem newest_record_self (t : Tracker) (key : Key) (name content : String) :
    (t.record key name content).2.gate.newest key = t.gate.newest key + 1 := if_pos rfl

theorem upToDate_record (t : Tracker) (key : Key) (name content : String) :
    (t.record key name content).2.UpToDate key := by
  intro change found
  rw [pending_record] at found
  obtain rfl := Option.some.inj found
  exact (newest_record_self ..).symm

theorem change_debounced {t : Tracker} (debounced : t.debounced = true) (clock : Int) (key : Key)
    (name content : String) :
    t.change clock key name content =
      ((t.record key name content).1, (t.record key name content).2, []) := by
  have same : (t.record key name content).2.debounced = true := debounced
  unfold change
  dsimp only
  rw [if_pos same]

theorem change_immediate {t : Tracker} (immediate : t.debounced = false) (clock : Int) (key : Key)
    (name content : String) :
    t.change clock key name content = ((t.record key name content).1,
      ((t.record key name content).2.flush clock key).2) := by
  have same : ¬(t.record key name content).2.debounced = true := by
    change ¬t.debounced = true
    simp [immediate]
  unfold change
  dsimp only
  rw [if_neg same]

theorem frame_perform {t : Tracker} (current : ∀ key, t.UpToDate key) (op : Operation) :
    (t.perform op).1.debounced = t.debounced ∧ (t.perform op).1.compute = t.compute ∧
      (t.perform op).2 = [] := by
  cases op with
  | change clock key name content =>
    unfold perform
    dsimp only
    cases mode : t.debounced with
    | true =>
      rw [change_debounced mode]
      exact ⟨mode, rfl, rfl⟩
    | false =>
      rw [change_immediate mode]
      obtain ⟨debounced, -, -, -, compute, events⟩ :=
        frame_flush (upToDate_record t key name content) clock
      exact ⟨debounced.trans mode, compute, events⟩
  | flush clock key =>
    obtain ⟨debounced, -, -, -, compute, events⟩ := frame_flush (current key) clock
    exact ⟨debounced, compute, events⟩
  | close => exact ⟨rfl, rfl, rfl⟩

theorem updates_perform {t : Tracker} (debounced : t.debounced = true)
    (current : ∀ key, t.UpToDate key) (op : Operation) :
    (t.perform op).1.updates = t.updates ++ (t.returned op).toList := by
  cases op with
  | change clock key name content =>
    unfold perform
    dsimp only
    rw [change_debounced debounced]
    exact (List.append_nil _).symm
  | flush clock key => exact updates_flush (current key) clock
  | close => exact (List.append_nil _).symm

theorem nodup_timers_perform {t : Tracker} (debounced : t.debounced = true)
    (current : ∀ key, t.UpToDate key) (once : t.timers.Nodup) (op : Operation) :
    (t.perform op).1.timers.Nodup := by
  cases op with
  | change clock key name content =>
    have timers : (t.record key name content).2.timers = t.timers.erase key ++ [key] :=
      if_pos debounced
    have absent : key ∉ t.timers.erase key := fun member => (once.mem_erase_iff.mp member).1 rfl
    unfold perform
    dsimp only
    rw [change_debounced debounced]
    dsimp only
    rw [timers, List.nodup_append_comm]
    exact List.nodup_cons.mpr ⟨absent, once.erase key⟩
  | flush clock key =>
    unfold perform
    dsimp only
    rw [(frame_flush (current key) clock).2.2.2.1]
    exact once.erase key
  | close => exact .nil

/-! ### The entries of one key -/

structure SameEntries (key : Key) (t u : Tracker) : Prop where
  generation : u.gate.newest key = t.gate.newest key
  pending : u.pending.get? key = t.pending.get? key
  timer : key ∈ u.timers ↔ key ∈ t.timers
  latest : u.latest.get? key = t.latest.get? key
  updates : u.updatesOf key = t.updatesOf key

theorem SameEntries.trans {key : Key} {t u v : Tracker} (left : SameEntries key t u)
    (right : SameEntries key u v) : SameEntries key t v where
  generation := right.generation.trans left.generation
  pending := right.pending.trans left.pending
  timer := right.timer.trans left.timer
  latest := right.latest.trans left.latest
  updates := right.updates.trans left.updates

theorem mem_timers_record (t : Tracker) (key other : Key) (name content : String) (ne : other ≠ key) :
    other ∈ (t.record key name content).2.timers ↔ other ∈ t.timers := by
  have kept : other ∈ t.timers.erase key ↔ other ∈ t.timers := List.mem_erase_of_ne ne
  unfold record
  dsimp only
  split
  · rw [List.mem_append, kept, List.mem_singleton]
    simp [ne]
  · exact kept

theorem sameEntries_record (t : Tracker) {key other : Key} (name content : String)
    (ne : other ≠ key) : SameEntries other t (t.record key name content).2 where
  generation := if_neg ne
  pending := (Keyed.get?_insert ..).trans (if_neg ne)
  timer := mem_timers_record t key other name content ne
  latest := rfl
  updates := rfl

theorem sameEntries_take (t : Tracker) {key other : Key} (ne : other ≠ key) :
    SameEntries other t (t.take key).2 where
  generation := rfl
  pending := (Keyed.get?_erase ..).trans (if_neg ne)
  timer := List.mem_erase_of_ne ne
  latest := rfl
  updates := rfl

theorem sameEntries_publish (t : Tracker) {key other : Key} (m : Metrics) (ne : other ≠ key) :
    SameEntries other t (t.publish key m) where
  generation := rfl
  pending := rfl
  timer := .rfl
  latest := by rw [latest_publish, if_neg (Ne.symm ne), Option.none_or]
  updates := by rw [updatesOf_publish, if_neg (Ne.symm ne), List.append_nil]

theorem sameEntries_flush {t : Tracker} {key other : Key} (current : t.UpToDate key) (clock : Int)
    (ne : other ≠ key) : SameEntries other t (t.flush clock key).2.1 := by
  have taken := sameEntries_take t ne
  obtain ⟨-, after⟩ | ⟨m, -, after⟩ := flush_cases current clock <;> rw [after]
  · exact taken
  · exact taken.trans (sameEntries_publish _ m ne)

theorem sameEntries_perform {t : Tracker} (current : ∀ key, t.UpToDate key) {op : Operation}
    {own other : Key} (for' : op.key? = some own) (ne : other ≠ own) :
    SameEntries other t (t.perform op).1 := by
  cases op with
  | change clock key name content =>
    obtain rfl := Option.some.inj for'
    have recorded := sameEntries_record t name content ne
    unfold perform
    dsimp only
    cases mode : t.debounced with
    | true => rwa [change_debounced mode]
    | false =>
      rw [change_immediate mode]
      exact recorded.trans (sameEntries_flush (upToDate_record t key name content) clock ne)
  | flush clock key =>
    obtain rfl := Option.some.inj for'
    exact sameEntries_flush (current key) clock ne
  | close => nomatch for'

end Tracker
end Footprint
