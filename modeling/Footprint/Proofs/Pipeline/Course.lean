import Footprint.Proofs.Batch.Completion
import Footprint.Proofs.Pipeline.Records
import Footprint.Proofs.Pipeline.Schedule
import Mathlib.Data.List.Nodup

/-! The logs of a request over several files. Each file has its own scoring and calculation, recorded by
the worker that measures it, and the records of different workers may fall in any order between two
stages of the request. -/
namespace Footprint

/-- A record, with the worker that it comes from: one measures each file. The request's own records come
from none. -/
structure Entry where
  worker : Option Nat
  event : Event

def recordsOf (worker : Option Nat) (entries : List Entry) : List Event :=
  (entries.filter (·.worker == worker)).map Entry.event

def requestStages (r : BatchRequest) : List Event :=
  [Stage.parsing, .calculating, .reviewing, .complete].map (.requestStage r.label)

def ownStages (entries : List Entry) : List Event :=
  (entries.map Entry.event).filter Event.isRequestStage

@[simp] theorem recordsOf_append (worker : Option Nat) (first second : List Entry) :
    recordsOf worker (first ++ second) = recordsOf worker first ++ recordsOf worker second := by
  simp [recordsOf]

@[simp] theorem ownStages_append (first second : List Entry) :
    ownStages (first ++ second) = ownStages first ++ ownStages second := by
  simp [ownStages]

theorem ownStages_own (events : List Event) :
    ownStages (events.map (Entry.mk none)) = events.filter Event.isRequestStage := by
  simp [ownStages, Function.comp_def]

theorem recordsOf_mk (worker other : Option Nat) (events : List Event) :
    recordsOf worker (events.map (Entry.mk other)) = if other = worker then events else [] := by
  split_ifs with same
  · simp [recordsOf, same, List.filter_map, Function.comp_def]
  · simp [recordsOf, same]

theorem mem_recordsOf {worker : Option Nat} {entries : List Entry} {e : Entry} (member : e ∈ entries)
    (own : e.worker = worker) : e.event ∈ recordsOf worker entries :=
  List.mem_map_of_mem (List.mem_filter.mpr ⟨member, beq_iff_eq.mpr own⟩)

theorem append_eq_around {α : Type} {first second before after : List α} {a : α}
    (h : first ++ second = before ++ a :: after) :
    (∃ rest, first = before ++ a :: rest ∧ after = rest ++ second) ∨
      ∃ rest, before = first ++ rest ∧ second = rest ++ a :: after := by
  obtain ⟨rest, same, later⟩ | ⟨rest, same, later⟩ := List.append_eq_append_iff.mp h
  · exact .inr ⟨rest, same, later⟩
  · cases rest with
    | nil => exact .inr ⟨[], by simpa using same.symm, later.symm⟩
    | cons b rest =>
      obtain ⟨rfl, rfl⟩ := List.cons.inj later
      exact .inl ⟨rest, same, rfl⟩

def Progress.ownStages? : Progress → Option (List Stage)
  | .received => some []
  | .begun _ | .measured .. | .confirmed .. => some [.parsing]
  | .combined .. => some [.parsing, .calculating]
  | .reviewed .. => some [.parsing, .calculating, .reviewing, .complete]
  | .finished _ | .failed _ => none

def Progress.isUnmeasured : Progress → Bool
  | .received | .begun _ => true
  | _ => false

def Progress.isCombined : Progress → Bool
  | .combined .. => true
  | _ => false

namespace Pipeline

variable {σ : Type} (p : Pipeline σ) (r : BatchRequest)

def workerLog (i : Nat) : List Event :=
  match r.units[i]? with
  | some u => (p.meter.inWorker.measure r.clock (Batch.atOneHour r.clock r.conditions) u).events
  | none => []

theorem workerLog_of_getElem? {i : Nat} {u : SourceUnit} (unit : r.units[i]? = some u) :
    p.workerLog r i = (p.meter.inWorker.measure r.clock (Batch.atOneHour r.clock r.conditions) u).events := by
  rw [workerLog, unit]

theorem workerLog_of_le {i : Nat} (beyond : r.units.length ≤ i) : p.workerLog r i = [] := by
  rw [workerLog, List.getElem?_eq_none beyond]

theorem workerLog_stages {i : Nat} {u : SourceUnit} (unit : r.units[i]? = some u) :
    (p.workerLog r i).filter Event.isUnitStage <+:
      [.unitStage u.label .scoring, .unitStage u.label .calculating] := by
  rw [p.workerLog_of_getElem? r unit]
  obtain ⟨none, -⟩ | ⟨remarks, branch, language, quiet, events⟩ :=
    p.meter.inWorker.events_measure r.clock (Batch.atOneHour r.clock r.conditions) u
  · simp [none]
  · simp [events, List.filter_cons, quiet.filter_isUnitStage]

theorem workerLog_filter_isRequestStage (i : Nat) :
    (p.workerLog r i).filter Event.isRequestStage = [] := by
  cases unit : r.units[i]? with
  | none => rw [workerLog, unit, List.filter_nil]
  | some u =>
    rw [p.workerLog_of_getElem? r unit]
    obtain ⟨none, -⟩ | ⟨remarks, branch, language, quiet, events⟩ :=
      p.meter.inWorker.events_measure r.clock (Batch.atOneHour r.clock r.conditions) u
    · simp [none]
    · simp [events, quiet.filter_isRequestStage]

/-- What may be recorded in a step of a request. While files are measured the workers record in turns: of
their records nothing is fixed but the order of those of one worker. -/
inductive Records (shared : Shared σ) : Progress → List Entry → Prop
  | measuring (generation : Nat) {entries : List Entry} : (∀ e ∈ entries, e.worker ≠ none) →
    (∀ i, recordsOf (some i) entries = p.workerLog r i) → Records shared (.begun generation) entries
  | own {progress : Progress} : (∀ generation, progress ≠ .begun generation) →
    Records shared progress ((p.advance r shared progress).2.2.map (Entry.mk none))

def asked (shared : Shared σ) : Progress → List (Outcome Verdict)
  | .combined _ _ m =>
    [(p.panel.synthesize (some (combinedContent r.units)) m r.cancelled shared.world).1.outcome]
  | _ => []

theorem asked_of_not_combined (shared : Shared σ) {progress : Progress}
    (h : progress.isCombined = false) : p.asked r shared progress = [] := by
  cases progress with
  | combined generation ms m => cases h
  | _ => rfl

/-- How far a request may have come, whatever was shared at each of its steps, with what was recorded and
what the panel came to on the way. -/
inductive Course : Progress → List Entry → List (Outcome Verdict) → Prop
  | received : Course .received [] []
  | advance (shared : Shared σ) {progress : Progress} {entries more : List Entry}
    {verdicts : List (Outcome Verdict)} : Course progress entries verdicts →
    Records p r shared progress more →
    Course (p.advance r shared progress).1 (entries ++ more) (verdicts ++ p.asked r shared progress)

structure FollowsStages (entries : List Entry) (verdicts : List (Outcome Verdict)) : Prop where
  own : ownStages entries <+: requestStages r
  each : ∀ i u, r.units[i]? = some u → (recordsOf (some i) entries).filter Event.isUnitStage <+:
    [.unitStage u.label .scoring, .unitStage u.label .calculating]
  /-- A stage of a file is recorded by a worker, after the request's parsing and before its calculation. -/
  between : ∀ before e after, entries = before ++ e :: after → e.event.isUnitStage = true →
    (∃ i < r.units.length, e.worker = some i) ∧ ownStages before = [.requestStage r.label .parsing]
  complete_iff : .requestStage r.label .complete ∈ ownStages entries ↔ ∃ v, .ok v ∈ verdicts

variable {p r}

namespace FollowsStages

variable {entries : List Entry} {verdicts : List (Outcome Verdict)}

theorem nil : FollowsStages r [] [] where
  own := List.nil_prefix
  each i u _ := List.nil_prefix
  between before e after split := by simp at split
  complete_iff := by simp [ownStages]

theorem append_own (h : FollowsStages r entries verdicts) {more : List Event}
    (new : List (Outcome Verdict)) (quiet : more.filter Event.isUnitStage = [])
    (own : ownStages entries ++ more.filter Event.isRequestStage <+: requestStages r)
    (complete : .requestStage r.label .complete ∈
      ownStages entries ++ more.filter Event.isRequestStage ↔ ∃ v, .ok v ∈ verdicts ++ new) :
    FollowsStages r (entries ++ more.map (Entry.mk none)) (verdicts ++ new) where
  own := by rwa [ownStages_append, ownStages_own]
  each i u unit := by simpa [recordsOf_mk] using h.each i u unit
  between before e after split stage := by
    obtain ⟨rest, same, -⟩ | ⟨rest, -, later⟩ := append_eq_around split
    · exact h.between before e rest same stage
    · have member : e ∈ more.map (Entry.mk none) := later ▸ by simp
      obtain ⟨event, recorded, rfl⟩ := List.mem_map.mp member
      exact absurd stage (List.filter_eq_nil_iff.mp quiet event recorded)
  complete_iff := by rwa [ownStages_append, ownStages_own]

theorem append_quiet (h : FollowsStages r entries verdicts) {more : List Event}
    (quiet : more.filter Event.isStage = []) :
    FollowsStages r (entries ++ more.map (Entry.mk none)) verdicts ∧
      ownStages (entries ++ more.map (Entry.mk none)) = ownStages entries := by
  have units : more.filter Event.isUnitStage = [] := by
    rw [List.filter_eq_nil_iff] at quiet ⊢
    intro e member
    have := quiet e member
    simp_all
  have requests : more.filter Event.isRequestStage = [] := by
    rw [List.filter_eq_nil_iff] at quiet ⊢
    intro e member
    have := quiet e member
    simp_all
  have follows := h.append_own [] units (by simpa [requests] using h.own)
    (by simpa [requests] using h.complete_iff)
  rw [List.append_nil] at follows
  exact ⟨follows, by rw [ownStages_append, ownStages_own, requests, List.append_nil]⟩

theorem append_stage (h : FollowsStages r entries verdicts) {done : List Stage} {next : Stage}
    (own : ownStages entries = done.map (.requestStage r.label))
    (inOrder : done ++ [next] <+: [.parsing, .calculating, .reviewing]) :
    FollowsStages r (entries ++ [⟨none, .requestStage r.label next⟩]) verdicts ∧
      ownStages (entries ++ [⟨none, .requestStage r.label next⟩]) =
        (done ++ [next]).map (.requestStage r.label) := by
  have stages : ownStages entries ++ [Event.requestStage r.label next].filter Event.isRequestStage =
      (done ++ [next]).map (.requestStage r.label) := by
    rw [own, List.map_append]
    rfl
  have early : .complete ∉ done ++ [next] := fun member => nomatch inOrder.subset member
  have undecided : ¬ ∃ v, .ok v ∈ verdicts := by
    rw [← h.complete_iff, own]
    simp_all
  have units : [Event.requestStage r.label next].filter Event.isUnitStage = [] := rfl
  have follows := h.append_own [] units ?own ?complete
  case own =>
    rw [stages]
    have all : done ++ [next] <+: [.parsing, .calculating, .reviewing, .complete] :=
      inOrder.trans ⟨[.complete], rfl⟩
    exact all.map _
  case complete =>
    rw [stages, List.append_nil]
    refine iff_of_false ?_ undecided
    simp_all
  rw [List.append_nil] at follows
  exact ⟨follows, by rw [ownStages_append]; exact stages⟩

/-- The records of the workers come when the request has recorded its parsing, and no file before. -/
theorem append_workers (h : FollowsStages r entries verdicts)
    (parsing : ownStages entries = [.requestStage r.label .parsing])
    (unmeasured : ∀ e ∈ entries, e.worker = none) {more : List Entry}
    (workers : ∀ e ∈ more, e.worker ≠ none) (logs : ∀ i, recordsOf (some i) more = p.workerLog r i) :
    ownStages (entries ++ more) = [.requestStage r.label .parsing] ∧
      FollowsStages r (entries ++ more) verdicts := by
  have source : ∀ e ∈ more, ∃ i, e.worker = some i ∧ e.event ∈ p.workerLog r i := by
    intro e member
    obtain ⟨i, worker⟩ := Option.ne_none_iff_exists'.mp (workers e member)
    exact ⟨i, worker, logs i ▸ mem_recordsOf member worker⟩
  have noneOwn (part : List Entry) (sub : part ⊆ more) : ownStages part = [] := by
    rw [ownStages, List.filter_eq_nil_iff, List.forall_mem_map]
    intro e member
    obtain ⟨i, -, recorded⟩ := source e (sub member)
    exact List.filter_eq_nil_iff.mp (p.workerLog_filter_isRequestStage r i) _ recorded
  have own : ownStages (entries ++ more) = [.requestStage r.label .parsing] := by
    rw [ownStages_append, parsing, noneOwn more (List.Subset.refl more), List.append_nil]
  refine ⟨own, ?_⟩
  constructor
  case own =>
    rw [own]
    exact ⟨_, rfl⟩
  case each =>
    intro i u unit
    have before : recordsOf (some i) entries = [] := by
      rw [recordsOf, List.map_eq_nil_iff, List.filter_eq_nil_iff]
      intro e member
      simp [unmeasured e member]
    rw [recordsOf_append, before, List.nil_append, logs i]
    exact p.workerLog_stages r unit
  case between =>
    intro before e after split stage
    obtain ⟨rest, same, -⟩ | ⟨rest, rfl, later⟩ := append_eq_around split
    · exact h.between before e rest same stage
    · have member : e ∈ more := later ▸ by simp
      obtain ⟨i, worker, recorded⟩ := source e member
      have inside : i < r.units.length := by
        by_contra beyond
        rw [p.workerLog_of_le r (not_lt.mp beyond)] at recorded
        cases recorded
      have front : rest ⊆ more := later ▸ List.subset_append_left rest _
      exact ⟨⟨i, inside, worker⟩, by rw [ownStages_append, parsing, noneOwn rest front, List.append_nil]⟩
  case complete_iff =>
    rw [own, ← parsing]
    exact h.complete_iff

end FollowsStages

structure Kept (r : BatchRequest) (progress : Progress) (entries : List Entry)
    (verdicts : List (Outcome Verdict)) : Prop where
  follows : FollowsStages r entries verdicts
  stages : ∀ s, progress.ownStages? = some s → ownStages entries = s.map (.requestStage r.label)
  unmeasured : progress.isUnmeasured = true → ∀ e ∈ entries, e.worker = none

theorem Kept.received : Kept r .received [] [] where
  follows := .nil
  stages := by
    rintro s ⟨⟩
    rfl
  unmeasured _ := by simp

theorem Kept.ended {progress : Progress} {entries : List Entry} {verdicts : List (Outcome Verdict)}
    (follows : FollowsStages r entries verdicts) (ended : progress.ownStages? = none)
    (measured : progress.isUnmeasured = false) : Kept r progress entries verdicts where
  follows := follows
  stages _ going := nomatch ended.symm.trans going
  unmeasured going := nomatch measured.symm.trans going

theorem Kept.going {progress : Progress} {entries : List Entry} {verdicts : List (Outcome Verdict)}
    (follows : FollowsStages r entries verdicts) {s : List Stage}
    (going : progress.ownStages? = some s) (own : ownStages entries = s.map (.requestStage r.label))
    (unmeasured : progress.isUnmeasured = true → ∀ e ∈ entries, e.worker = none) :
    Kept r progress entries verdicts where
  follows := follows
  stages t same := by
    obtain rfl := Option.some.inj (going.symm.trans same)
    exact own
  unmeasured := unmeasured

theorem Kept.later {progress : Progress} {entries : List Entry} {verdicts : List (Outcome Verdict)}
    (follows : FollowsStages r entries verdicts) {s : List Stage}
    (going : progress.ownStages? = some s) (own : ownStages entries = s.map (.requestStage r.label))
    (measured : progress.isUnmeasured = false) : Kept r progress entries verdicts :=
  .going follows going own fun unmeasured => absurd (measured.symm.trans unmeasured) Bool.false_ne_true

theorem Kept.advance_combined {generation : Nat} {ms : List Measurement} {m : Metrics}
    {entries : List Entry} {verdicts : List (Outcome Verdict)}
    (h : Kept r (.combined generation ms m) entries verdicts) (shared : Shared σ) :
    Kept r (p.advance r shared (.combined generation ms m)).1
      (entries ++ (p.advance r shared (.combined generation ms m)).2.2.map (Entry.mk none))
      (verdicts ++ p.asked r shared (.combined generation ms m)) := by
  have own := h.stages _ rfl
  have undecided : ¬ ∃ v, .ok v ∈ verdicts := by
    rw [← h.follows.complete_iff, own]
    simp
  obtain ⟨remarks, quiet, events⟩ :=
    p.events_review r.toRequest r.label (some (combinedContent r.units)) ms m shared.world
  have decided := p.outcome_review r.toRequest r.label (some (combinedContent r.units)) ms m shared.world
  have recorded : (p.advance r shared (.combined generation ms m)).2.2 =
      (p.review r.toRequest r.label (some (combinedContent r.units)) ms m shared.world).1.events := by
    rw [advance]
    dsimp only
    split <;> rfl
  rw [recorded, events, asked, Pipeline.advance]
  dsimp only
  generalize (p.review r.toRequest r.label (some (combinedContent r.units)) ms m shared.world).1.outcome
    = outcome at decided ⊢
  generalize (p.panel.synthesize (some (combinedContent r.units)) m r.cancelled shared.world).1.outcome
    = verdict at decided ⊢
  have stages (tail : List Event) :
      (Event.requestStage r.label .reviewing :: remarks ++ tail).filter Event.isRequestStage =
        .requestStage r.label .reviewing :: tail.filter Event.isRequestStage := by
    simp [List.filter_cons, quiet.filter_isRequestStage]
  have units (tail : List Event) :
      (Event.requestStage r.label .reviewing :: remarks ++ tail).filter Event.isUnitStage =
        tail.filter Event.isUnitStage := by
    simp [quiet.filter_isUnitStage]
  cases verdict with
  | error cause =>
    obtain rfl : outcome = .error cause := decided
    refine .ended (h.follows.append_own _ (units _) ?own ?complete) rfl rfl
    case own =>
      rw [stages, own]
      exact ⟨[.requestStage r.label .complete], rfl⟩
    case complete =>
      rw [stages, own]
      simp [undecided]
  | ok verdict =>
    have last : ownStages entries ++ (Event.requestStage r.label .reviewing :: remarks ++
        [Event.requestStage r.label .complete]).filter Event.isRequestStage = requestStages r := by
      rw [stages, own]
      rfl
    have follows := h.follows.append_own [.ok verdict]
      (units [.requestStage r.label .complete]) ⟨[], by rw [List.append_nil, last]⟩
      (by rw [last]; simp [requestStages])
    cases outcome with
    | error cause => exact .ended follows rfl rfl
    | ok result =>
      refine .later follows rfl ?_ rfl
      rw [ownStages_append, ownStages_own, last]
      rfl

theorem Kept.advance {progress : Progress} {entries more : List Entry}
    {verdicts : List (Outcome Verdict)} (h : Kept r progress entries verdicts) (shared : Shared σ)
    (recorded : Records p r shared progress more) :
    Kept r (p.advance r shared progress).1 (entries ++ more)
      (verdicts ++ p.asked r shared progress) := by
  cases recorded with
  | measuring generation workers logs =>
    obtain ⟨own, follows⟩ :=
      h.follows.append_workers (h.stages [.parsing] rfl) (h.unmeasured rfl) workers logs
    rw [p.asked_of_not_combined r shared rfl, List.append_nil]
    obtain ⟨cause, next⟩ | ⟨ms, next⟩ := (p.advance_begun r shared generation).progress
    · rw [next]
      exact .ended follows rfl rfl
    · rw [next]
      exact .later follows rfl own rfl
  | own going =>
    cases progress with
    | begun generation => exact absurd rfl (going generation)
    | combined generation ms m => exact h.advance_combined shared
    | received =>
      rw [p.asked_of_not_combined r shared rfl, List.append_nil, advance_received]
      split
      · exact .ended (h.follows.append_quiet rfl).1 rfl rfl
      · obtain ⟨follows, own⟩ := h.follows.append_stage (h.stages [] rfl) ⟨_, rfl⟩
        refine .going follows rfl own fun _ e member => ?_
        rcases List.mem_append.mp member with before | now
        · exact h.unmeasured rfl e before
        · rw [List.mem_singleton.mp now]
    | measured generation ms =>
      rw [p.asked_of_not_combined r shared rfl, List.append_nil, advance_measured]
      split
      · obtain ⟨follows, own⟩ := h.follows.append_quiet (List.filter_nil ..)
        exact .later follows rfl (own.trans (h.stages _ rfl)) rfl
      · exact .ended (h.follows.append_quiet rfl).1 rfl rfl
    | confirmed generation ms =>
      obtain ⟨follows, own⟩ := h.follows.append_stage (h.stages _ rfl) ⟨[.reviewing], rfl⟩
      rw [p.asked_of_not_combined r shared rfl, List.append_nil, Pipeline.advance]
      cases Metrics.aggregate (ms.map Measurement.metrics) with
      | error cause => exact .ended follows rfl rfl
      | ok m => exact .later follows rfl own rfl
    | reviewed generation result =>
      rw [p.asked_of_not_combined r shared rfl, List.append_nil, advance_reviewed]
      split <;> exact .ended (h.follows.append_quiet rfl).1 rfl rfl
    | finished | failed =>
      rw [p.asked_of_not_combined r shared rfl, List.append_nil]
      exact .ended (h.follows.append_quiet rfl).1 rfl rfl

theorem Course.kept {progress : Progress} {entries : List Entry} {verdicts : List (Outcome Verdict)}
    (h : p.Course r progress entries verdicts) : Kept r progress entries verdicts := by
  induction h with
  | received => exact .received
  | advance shared _ recorded ih => exact ih.advance shared recorded

/-! ### The model's own logs -/

theorem flatMap_workerLog (order : List Nat) :
    ((order.filterMap fun i => r.units[i]?.map fun u =>
      (i, p.meter.inWorker.measure r.clock (Batch.atOneHour r.clock r.conditions) u)).flatMap
        fun task => task.2.events) = order.flatMap (p.workerLog r) := by
  induction order with
  | nil => rfl
  | cons i rest ih =>
    cases unit : r.units[i]? with
    | none => simp [unit, workerLog, ih]
    | some u => simp [unit, workerLog, ih]

theorem recordsOf_flatMap (order : List Nat) (i : Nat) :
    recordsOf (some i) (order.flatMap fun j => (p.workerLog r j).map (Entry.mk (some j))) =
      (order.filter (· == i)).flatMap (p.workerLog r) := by
  induction order with
  | nil => rfl
  | cons j rest ih =>
    rw [List.flatMap_cons, recordsOf_append, ih]
    by_cases same : j = i <;> simp [recordsOf_mk, same]

theorem filter_completionOrder (limit : Int) (choices : List Nat) {tasks i : Nat} (inside : i < tasks) :
    (Batch.completionOrder limit choices tasks).filter (· == i) = [i] := by
  have perm := Batch.completionOrder_perm limit choices tasks
  have once := perm.symm.nodup List.nodup_range
  have member := perm.mem_iff.mpr (List.mem_range.mpr inside)
  rw [List.filter_beq, List.count_eq_one_of_mem once member, List.replicate_one]

theorem recorded_begun (p : Pipeline σ) (r : BatchRequest) (shared : Shared σ) (generation : Nat) :
    (p.advance r shared (.begun generation)).2.2 =
      (Batch.completionOrder p.workers r.choices r.units.length).flatMap (p.workerLog r) := by
  rw [← flatMap_workerLog, advance]
  split <;> rfl

theorem exists_records (p : Pipeline σ) (r : BatchRequest) (shared : Shared σ) (progress : Progress) :
    ∃ more, Records p r shared progress more ∧
      more.map Entry.event = (p.advance r shared progress).2.2 := by
  cases progress with
  | begun generation =>
    let order := Batch.completionOrder p.workers r.choices r.units.length
    refine ⟨order.flatMap fun j => (p.workerLog r j).map (Entry.mk (some j)),
      .measuring generation ?workers ?logs, ?recorded⟩
    case workers =>
      intro e member
      obtain ⟨j, -, inLog⟩ := List.mem_flatMap.mp member
      obtain ⟨event, -, rfl⟩ := List.mem_map.mp inLog
      nofun
    case logs =>
      intro i
      rw [recordsOf_flatMap]
      by_cases inside : i < r.units.length
      · rw [filter_completionOrder _ _ inside, List.flatMap_singleton]
      · rw [p.workerLog_of_le r (not_lt.mp inside), List.flatMap_eq_nil_iff]
        intro j member
        rw [beq_iff_eq.mp (List.mem_filter.mp member).2]
        exact p.workerLog_of_le r (not_lt.mp inside)
    case recorded =>
      rw [recorded_begun, List.map_flatMap]
      simp [order, Function.comp_def]
  | _ => exact ⟨_, .own nofun, by simp [Function.comp_def]⟩

theorem exists_course_advances (p : Pipeline σ) (r : BatchRequest) (steps : Nat)
    (state : Progress × Shared σ × List Event) {entries : List Entry}
    {verdicts : List (Outcome Verdict)} (h : p.Course r state.1 entries verdicts)
    (same : entries.map Entry.event = state.2.2) :
    ∃ entries verdicts, p.Course r (p.advances r steps state).1 entries verdicts ∧
      entries.map Entry.event = (p.advances r steps state).2.2 := by
  induction steps generalizing state entries verdicts with
  | zero => exact ⟨entries, verdicts, h, same⟩
  | succ steps ih =>
    obtain ⟨progress, shared, events⟩ := state
    obtain ⟨more, recorded, shown⟩ := p.exists_records r shared progress
    refine ih ((p.advance r shared progress).1, (p.advance r shared progress).2.1,
      events ++ (p.advance r shared progress).2.2) (h.advance shared recorded) ?_
    rw [List.map_append, same, shown]

end Pipeline

theorem System.exists_course {σ ι : Type} [DecidableEq ι] (p : Pipeline σ)
    (requests : ι → BatchRequest) (gate : Gate) (world : σ) (schedule : List (Action ι)) (i : ι) :
    ∃ entries verdicts,
      p.Course (requests i) (((System.start gate world).run p requests schedule).progress i) entries
        verdicts ∧
      entries.map Entry.event = ((System.start gate world).run p requests schedule).events i := by
  induction schedule using List.reverseRecOn with
  | nil => exact ⟨[], [], .received, rfl⟩
  | append_singleton schedule a ih =>
    obtain ⟨entries, verdicts, course, same⟩ := ih
    rw [run_concat]
    generalize (System.start gate world).run p requests schedule = s at course same ⊢
    by_cases own : a = .advance i
    · obtain rfl := own
      obtain ⟨more, recorded, shown⟩ := p.exists_records (requests i) s.shared (s.progress i)
      rw [progress_step_self, events_step_self]
      exact ⟨_, _, course.advance s.shared recorded, by rw [List.map_append, same, shown]⟩
    · rw [progress_step_of_ne s own, events_step_of_ne s own]
      exact ⟨entries, verdicts, course, same⟩

end Footprint
