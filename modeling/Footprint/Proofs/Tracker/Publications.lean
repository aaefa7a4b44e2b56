import Footprint.Proofs.Tracker.Calls

/-! In which order the calls of one tracker show figures. A computation passes its last check only while
its generation is the newest of its key, but a call that has passed it may wait while a newer generation
is computed and shown. Apart from such a call, figures are shown in the order of their generations. -/
namespace Footprint

def Computation.Numbered (generation : Nat) : Computation → Prop
  | .taken own .. => own = generation
  | .current own .. => own = generation
  | .computed own _ => own = generation
  | .accepted _ => True
  | .finished _ => True
  | .failed _ => True

namespace CallProgress

def Issued (newest : Nat) : CallProgress → Prop
  | .computing generation c => generation ≤ newest ∧ c.Numbered generation
  | _ => True

def NotBefore (first : Nat) (p : CallProgress) : Prop :=
  ∀ s, p.shows? = some s → first ≤ s.1

theorem Issued.mono {p : CallProgress} {newest later : Nat} (issued : p.Issued newest)
    (le : newest ≤ later) : p.Issued later := by
  cases p with
  | computing generation c => exact ⟨Nat.le_trans issued.1 le, issued.2⟩
  | _ => exact issued

theorem Issued.notAfter {p : CallProgress} {newest : Nat} {s : Nat × StatusBar}
    (issued : p.Issued newest) (shows : p.shows? = some s) : s.1 ≤ newest := by
  obtain ⟨m, -, rfl⟩ := exists_of_shows? shows
  exact issued.1

end CallProgress

namespace Tracker

def PendingIssued (t : Tracker) : Prop :=
  ∀ key change, t.pending.get? key = some change → change.generation ≤ t.gate.newest key

theorem gate_advance (t : Tracker) (clock : Int) (key : Key) (c : Computation) :
    (t.advance clock key c).2.1.gate = t.gate := by
  cases c <;> unfold advance <;> dsimp only <;> (try split) <;> rfl

theorem pending_advance (t : Tracker) (clock : Int) (key : Key) (c : Computation) :
    (t.advance clock key c).2.1.pending = t.pending := by
  cases c <;> unfold advance <;> dsimp only <;> (try split) <;> rfl

theorem numbered_advance (t : Tracker) (clock : Int) (key : Key) {generation : Nat}
    {c : Computation} (numbered : c.Numbered generation) :
    (t.advance clock key c).1.Numbered generation := by
  cases c <;> unfold advance <;> dsimp only <;> (try split) <;>
    first | exact numbered | exact trivial

theorem eq_newest_of_advance {t : Tracker} {clock : Int} {key : Key} {generation : Nat}
    {c : Computation} {m : Metrics} (numbered : c.Numbered generation)
    (passed : (t.advance clock key c).1 = .accepted m) : generation = t.gate.newest key := by
  cases c with
  | computed own figures =>
    obtain rfl : own = generation := numbered
    have current : t.gate.isCurrent key generation = true := by
      rw [← Gate.accept_fst]
      unfold advance at passed
      dsimp only at passed
      split at passed
      · next same => rw [same]
      · cases passed
    have equal : (t.gate.newest key : Int) = generation := by simpa [Gate.isCurrent] using current
    omega
  | taken own name content =>
    unfold advance at passed
    dsimp only at passed
    split at passed <;> cases passed
  | current own name content =>
    unfold advance at passed
    dsimp only at passed
    split at passed <;> cases passed
  | accepted figures => cases passed
  | finished bar => cases passed
  | failed cause => cases passed

theorem newest_record (t : Tracker) (key other : Key) (name content : String) :
    t.gate.newest other ≤ (t.record key name content).2.gate.newest other := by
  change _ ≤ (t.gate.begin key).2.newest other
  rw [Gate.newest_begin]
  split
  · next same => exact same ▸ Nat.le_succ _
  · exact Nat.le_refl _

theorem newest_stepCall (t : Tracker) (call : TrackerCall) (p : CallProgress) (key : Key) :
    t.gate.newest key ≤ (t.stepCall call p).2.gate.newest key := by
  have taking : t.gate.newest key ≤ (t.takeFor call).2.gate.newest key := by
    unfold takeFor
    split <;> next taken => exact Nat.le_of_eq (congrArg (·.2.gate.newest key) taken)
  cases p with
  | called =>
    unfold stepCall
    dsimp only
    split
    · exact taking
    · exact newest_record ..
  | noted => exact taking
  | computing generation c =>
    change _ ≤ (t.advance call.clock call.key c).2.1.gate.newest key
    exact Nat.le_of_eq (congrArg (·.newest key) (gate_advance ..).symm)
  | returned => exact Nat.le_refl _

theorem PendingIssued.record {t : Tracker} (pending : t.PendingIssued) (key : Key)
    (name content : String) : (t.record key name content).2.PendingIssued := by
  intro other change found
  change (t.pending.insert key _).get? other = some change at found
  rw [Keyed.get?_insert] at found
  split at found
  · next same =>
    obtain rfl := Option.some.inj found
    obtain rfl := same
    change t.gate.newest other + 1 ≤ (t.gate.begin other).2.newest other
    exact Nat.le_of_eq (if_pos rfl).symm
  · exact Nat.le_trans (pending other change found) (newest_record ..)

theorem PendingIssued.take {t : Tracker} (pending : t.PendingIssued) (key : Key) :
    (t.take key).2.PendingIssued := by
  intro other change found
  change (t.pending.erase key).get? other = some change at found
  rw [Keyed.get?_erase] at found
  split at found
  · nomatch found
  · exact pending other change found

theorem issued_takeFor {t : Tracker} (pending : t.PendingIssued) (call : TrackerCall) :
    (t.takeFor call).2.PendingIssued ∧
      (t.takeFor call).1.Issued ((t.takeFor call).2.gate.newest call.key) := by
  have after := pending.take call.key
  unfold takeFor
  split
  · next rest taken =>
    rw [taken] at after
    exact ⟨after, trivial⟩
  · next change rest taken =>
    have found : t.pending.get? call.key = some change := congrArg Prod.fst taken
    have same : t.gate = rest.gate := congrArg (·.2.gate) taken
    rw [taken] at after
    exact ⟨after, same ▸ pending _ _ found, rfl⟩

theorem issued_stepCall {t : Tracker} (pending : t.PendingIssued) (call : TrackerCall)
    {p : CallProgress} (issued : p.Issued (t.gate.newest call.key)) :
    (t.stepCall call p).2.PendingIssued ∧
      (t.stepCall call p).1.Issued ((t.stepCall call p).2.gate.newest call.key) := by
  cases p with
  | called =>
    unfold stepCall
    dsimp only
    split
    · exact issued_takeFor pending call
    · next name content _ =>
      refine ⟨pending.record call.key name content, ?_⟩
      dsimp only
      split <;> exact trivial
  | noted => exact issued_takeFor pending call
  | computing generation c =>
    have gate := gate_advance t call.clock call.key c
    refine ⟨?_, ?_, numbered_advance t _ _ issued.2⟩
    · change (t.advance call.clock call.key c).2.1.PendingIssued
      unfold PendingIssued
      rw [gate, pending_advance]
      exact pending
    · change generation ≤ (t.advance call.clock call.key c).2.1.gate.newest call.key
      rw [gate]
      exact issued.1
  | returned => exact ⟨pending, issued⟩

theorem shows?_takeFor (t : Tracker) (call : TrackerCall) : (t.takeFor call).1.shows? = none := by
  unfold takeFor
  split <;> rfl

/-- A call that passes the last check in this step computes a generation no older than any issued. -/
theorem notBefore_stepCall {t : Tracker} {call : TrackerCall} {p : CallProgress} {first : Nat}
    (issued : p.Issued (t.gate.newest call.key)) (le : first ≤ t.gate.newest call.key) :
    (t.stepCall call p).1.NotBefore first := by
  intro s shows
  cases p with
  | called =>
    have none : (t.stepCall call .called).1.shows? = none := by
      unfold stepCall
      dsimp only
      split
      · exact shows?_takeFor t call
      · dsimp only
        split <;> rfl
    nomatch none.symm.trans shows
  | noted => nomatch (shows?_takeFor t call).symm.trans shows
  | computing generation c =>
    obtain ⟨m, -, passed⟩ := CallProgress.exists_of_shows? shows
    obtain ⟨same, passed⟩ := CallProgress.computing.inj passed
    rw [← same, eq_newest_of_advance issued.2 passed]
    exact le
  | returned => nomatch shows

def updatesOf (t : Tracker) (key : Key) : List StatusBar :=
  t.updates.filterMap fun update => if update.1 = key then some update.2 else none

theorem updatesOf_publish (t : Tracker) (own key : Key) (m : Metrics) :
    (t.publish own m).updatesOf key =
      t.updatesOf key ++ if own = key then [.ofMetrics m] else [] := by
  unfold updatesOf publish
  rw [List.filterMap_append]
  by_cases same : own = key <;> simp [same]

theorem latest_publish (t : Tracker) (own key : Key) (m : Metrics) :
    (t.publish own m).latest.get? key =
      (if own = key then some (.ofMetrics m) else none).or (t.latest.get? key) := by
  unfold publish
  rw [Keyed.get?_insert]
  by_cases same : own = key
  · rw [if_pos same, if_pos same.symm]
    rfl
  · rw [if_neg same, if_neg (Ne.symm same)]
    rfl

theorem stepCall_of_not_shows (t : Tracker) (call : TrackerCall) {p : CallProgress}
    (idle : p.shows? = none) :
    (t.stepCall call p).2.latest = t.latest ∧ (t.stepCall call p).2.updates = t.updates := by
  have taking : (t.takeFor call).2.latest = t.latest ∧ (t.takeFor call).2.updates = t.updates := by
    unfold takeFor
    split <;> next taken =>
      exact ⟨congrArg (·.2.latest) taken.symm, congrArg (·.2.updates) taken.symm⟩
  cases p with
  | called =>
    unfold stepCall
    dsimp only
    split
    · exact taking
    · exact ⟨rfl, rfl⟩
  | noted => exact taking
  | computing generation c =>
    cases c with
    | accepted m => nomatch idle
    | finished bar => exact ⟨rfl, rfl⟩
    | failed cause => exact ⟨rfl, rfl⟩
    | _ =>
      unfold stepCall advance
      dsimp only
      split <;> exact ⟨rfl, rfl⟩
  | returned => exact ⟨rfl, rfl⟩

theorem stepCall_of_shows (t : Tracker) (call : TrackerCall) {p : CallProgress}
    {s : Nat × StatusBar} (shows : p.shows? = some s) :
    ∃ m, s.2 = .ofMetrics m ∧ (t.stepCall call p).2 = t.publish call.key m := by
  obtain ⟨m, bar, rfl⟩ := CallProgress.exists_of_shows? shows
  exact ⟨m, bar, rfl⟩

end Tracker

namespace Editor

variable {ι : Type} (calls : ι → TrackerCall)

structure Issued (e : Editor ι) : Prop where
  pending : e.tracker.PendingIssued
  computing : ∀ i, (e.progress i).Issued (e.tracker.gate.newest (calls i).key)

theorem issued_start {t : Tracker} (pending : t.pending = []) :
    (start t : Editor ι).Issued calls where
  pending key change found := by
    change t.pending.get? key = some change at found
    rw [pending] at found
    nomatch found
  computing _ := trivial

variable [DecidableEq ι]

theorem newest_step (e : Editor ι) (i : ι) (key : Key) :
    e.tracker.gate.newest key ≤ (e.step calls i).tracker.gate.newest key :=
  Tracker.newest_stepCall ..

variable {calls}

theorem Issued.step {e : Editor ι} (issued : e.Issued calls) (i : ι) :
    (e.step calls i).Issued calls := by
  have stepped := Tracker.issued_stepCall issued.pending (calls i) (issued.computing i)
  refine ⟨stepped.1, fun j => ?_⟩
  by_cases same : j = i
  · subst same
    rw [progress_step_self]
    exact stepped.2
  · rw [progress_step_of_ne calls e same]
    exact (issued.computing j).mono (newest_step ..)

theorem Issued.run {e : Editor ι} (issued : e.Issued calls) (schedule : List ι) :
    (e.run calls schedule).Issued calls := by
  induction schedule generalizing e with
  | nil => exact issued
  | cons i rest ih => exact ih (issued.step i)

/-- Once a generation is issued, a call that has not passed the last check with an older one will
show none that is older. -/
theorem notBefore_run {e : Editor ι} (issued : e.Issued calls) {j : ι} {first : Nat}
    (le : first ≤ e.tracker.gate.newest (calls j).key) (later : (e.progress j).NotBefore first)
    (schedule : List ι) : ((e.run calls schedule).progress j).NotBefore first := by
  induction schedule generalizing e with
  | nil => exact later
  | cons i rest ih =>
    refine ih (issued.step i) (Nat.le_trans le (newest_step ..)) ?_
    by_cases same : j = i
    · subst same
      rw [progress_step_self]
      exact Tracker.notBefore_stepCall (issued.computing j) le
    · rwa [progress_step_of_ne calls e same]

variable (calls)

theorem shown_step (key : Key) (e : Editor ι) (i : ι) :
    (e.step calls i).tracker.updatesOf key =
        e.tracker.updatesOf key ++ (shownNext calls key e i).map Prod.snd ∧
      (e.step calls i).tracker.latest.get? key =
        ((shownNext calls key e i).getLast?.map Prod.snd).or (e.tracker.latest.get? key) := by
  change (e.tracker.stepCall (calls i) (e.progress i)).2.updatesOf key = _ ∧
    (e.tracker.stepCall (calls i) (e.progress i)).2.latest.get? key = _
  unfold shownNext shows?
  cases shows : (e.progress i).shows? with
  | none =>
    obtain ⟨latest, updates⟩ := e.tracker.stepCall_of_not_shows (calls i) shows
    unfold Tracker.updatesOf
    rw [latest, updates, Option.toList_none, ite_self]
    exact ⟨(List.append_nil _).symm, rfl⟩
  | some s =>
    obtain ⟨m, bar, after⟩ := e.tracker.stepCall_of_shows (calls i) shows
    rw [after, Tracker.updatesOf_publish, Tracker.latest_publish, ← bar]
    split <;> exact ⟨rfl, rfl⟩

/-- The updates of a key and its latest figures are those shown in the course of the schedule. -/
theorem shown_run (key : Key) (e : Editor ι) (schedule : List ι) :
    (e.run calls schedule).tracker.updatesOf key =
        e.tracker.updatesOf key ++ (shown calls key e schedule).map Prod.snd ∧
      (e.run calls schedule).tracker.latest.get? key =
        ((shown calls key e schedule).getLast?.map Prod.snd).or (e.tracker.latest.get? key) := by
  induction schedule using List.reverseRecOn with
  | nil => exact ⟨(List.append_nil _).symm, rfl⟩
  | append_singleton schedule i ih =>
    obtain ⟨updates, latest⟩ := shown_step calls key (e.run calls schedule) i
    rw [run_concat, shown_concat, updates, latest, ih.1, ih.2, List.map_append,
      List.append_assoc, List.getLast?_append, Option.map_or, Option.or_assoc]
    exact ⟨rfl, rfl⟩

/-- When figures are shown, no call that stands to show an older generation of the key comes after. -/
def NoneOvertaken (key : Key) (e : Editor ι) (schedule : List ι) : Prop :=
  ∀ before i after, schedule = before ++ i :: after → (calls i).key = key →
    ∀ newer, (e.run calls before).shows? i = some newer →
      ∀ j older, (calls j).key = key → (e.run calls before).shows? j = some older →
        older.1 < newer.1 → j ∉ after

variable {calls}

theorem noneOvertaken_of_pairwise {key : Key} {e : Editor ι} {schedule : List ι}
    (ordered : (shown calls key e schedule).Pairwise fun earlier later => earlier.1 ≤ later.1) :
    NoneOvertaken calls key e schedule := by
  rintro before i after rfl own newer shows j older other waits lt later
  have ne : j ≠ i := by
    rintro rfl
    obtain rfl := Option.some.inj (shows.symm.trans waits)
    omega
  rw [shown_append, shown] at ordered
  have now : newer ∈ shownNext calls key (e.run calls before) i :=
    (mem_shownNext ..).mpr ⟨own, shows⟩
  have soon : older ∈ shown calls key ((e.run calls before).step calls i) after :=
    mem_shown_of_shows? calls other ((shows?_step_of_ne calls _ ne).trans waits) later
  have tail := (List.pairwise_append.mp ordered).2.1
  have le := (List.pairwise_append.mp tail).2.2 newer now older soon
  omega

theorem pairwise_of_noneOvertaken {key : Key} {e : Editor ι} (issued : e.Issued calls)
    {schedule : List ι} (none : NoneOvertaken calls key e schedule) :
    (shown calls key e schedule).Pairwise fun earlier later => earlier.1 ≤ later.1 := by
  induction schedule using List.reverseRecOn with
  | nil => exact .nil
  | append_singleton schedule j ih =>
    rw [shown_concat, List.pairwise_append]
    refine ⟨ih ?_, ?_, ?_⟩
    · rintro before i after rfl own newer shows k older other waits lt later
      exact none before i (after ++ [j]) (List.append_assoc ..) own newer shows k older other
        waits lt (List.mem_append_left _ later)
    · unfold shownNext
      split
      · cases (e.run calls schedule).shows? j with
        | none => exact .nil
        | some s => exact List.pairwise_singleton _ s
      · exact .nil
    · intro newer earlier older now
      obtain ⟨before, i, after, rfl, own, shows⟩ := (mem_shown ..).mp earlier
      obtain ⟨other, waits⟩ := (mem_shownNext ..).mp now
      have reached := issued.run before
      have le : newer.1 ≤ (e.run calls before).tracker.gate.newest (calls j).key := by
        rw [other, ← own]
        exact (reached.computing i).notAfter shows
      -- what the call stands to show when the newer figures are shown decides what it can show later
      have later : ((e.run calls before).progress j).NotBefore newer.1 := by
        intro s stands
        by_contra lt
        exact none before i (after ++ [j]) (List.append_assoc ..) own newer shows j s other stands
          (Nat.lt_of_not_le lt) (List.mem_append_right _ List.mem_cons_self)
      rw [run_append] at waits
      exact notBefore_run reached le later (i :: after) older waits

/-- What a new tracker shows for a key is shown in the order of the generations if and only if no call
that stands to show an older one is overtaken. The latest figures are the last shown. -/
theorem shown_in_order_iff (calls : ι → TrackerCall) (meter : Meter) (region hardware : Json)
    (debounced : Bool) (key : Key) (schedule : List ι) :
    let e := start { meter, region, hardware, debounced }
    let shows := shown calls key e schedule
    (e.run calls schedule).tracker.updatesOf key = shows.map Prod.snd ∧
      (e.run calls schedule).tracker.latest.get? key = shows.getLast?.map Prod.snd ∧
      ((shows.Pairwise fun earlier later => earlier.1 ≤ later.1) ↔
        NoneOvertaken calls key e schedule) := by
  intro e shows
  obtain ⟨updates, latest⟩ := shown_run calls key e schedule
  have issued : e.Issued calls := issued_start calls rfl
  exact ⟨updates, latest.trans (Option.or_none ..),
    noneOvertaken_of_pairwise, pairwise_of_noneOvertaken issued⟩

def emptiedThenLoop (second : Bool) : TrackerCall where
  key := .text "a.py"
  buffer := some ("a.py", if second then "while (true) f()" else "")
  clock := 12

/-- The first change passes the last check, the second is computed and shown, and then the first is shown:
it stays, although its buffer is older. -/
theorem older_shown_last :
    let e := start { debounced := false }
    let schedule := List.replicate 5 false ++ List.replicate 6 true ++ [false]
    let shows := shown emptiedThenLoop (.text "a.py") e schedule
    shows.map (fun s => (s.1, s.2.complexity.text)) = [(2, "1.15"), (1, "1.0")] ∧
      ((e.run emptiedThenLoop schedule).tracker.latest.get? (.text "a.py")).map (·.complexity.text) =
        some "1.0" ∧
      ¬ shows.Pairwise fun earlier later => earlier.1 ≤ later.1 := by
  decide +kernel

end Editor
end Footprint
