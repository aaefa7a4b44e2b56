import Footprint.Proofs.Panel.Selection
import Footprint.Proofs.Pipeline.Keys

/-! A request over several files is checked twice against the gate, once before the review and once after
it. The two checks together come to one condition over the whole way: the newest generation of the key is
ahead of the request by just the generations that began meanwhile, at every step. -/
namespace Footprint

/-- What is known of a request when so many generations of its key began while it was on its way. -/
def Progress.Numbered (newest overtakings : Nat) : Progress → Prop
  | .received => overtakings = 0
  | .begun generation => newest = generation + overtakings
  | .measured generation _ => newest = generation + overtakings
  | .confirmed generation _ => newest = generation + overtakings
  | .combined generation _ _ => newest = generation + overtakings
  | .reviewed generation _ => newest = generation + overtakings
  | .finished result => result.isSome = true ↔ overtakings = 0
  | .failed _ => True

def Progress.Warned (key : Key) (events : List Event) : Progress → Prop
  | .finished none => ∃ generation, events.filter Event.isStale = [.staleResult key generation]
  | _ => events.filter Event.isStale = []

theorem Progress.Numbered.overtaken {newest n : Nat} {progress : Progress}
    (h : progress.Numbered newest n) (begun : Prop) [Decidable begun] :
    progress.Numbered (newest + if begun then 1 else 0)
      (n + if progress.generation?.isSome = true ∧ begun then 1 else 0) := by
  cases progress <;> simp_all [Numbered, generation?] <;> omega

namespace Pipeline

variable {σ : Type} {p : Pipeline σ} {r : BatchRequest}

theorem numbered_advance {shared : Shared σ} {progress : Progress} {n : Nat}
    (h : progress.Numbered (shared.gate.newest r.key) n) :
    (p.advance r shared progress).1.Numbered
      ((p.advance r shared progress).2.1.gate.newest r.key) n := by
  cases progress with
  | received =>
    obtain rfl : n = 0 := h
    rw [advance_received]
    split
    · exact trivial
    · simp [Progress.Numbered, Gate.newest_begin]
  | begun generation =>
    obtain ⟨progress, gate, -⟩ := advance_begun p r shared generation
    rw [gate]
    obtain ⟨cause, failed⟩ | ⟨ms, measured⟩ := progress
    · rw [failed]
      exact trivial
    · rw [measured]
      exact h
  | measured generation ms =>
    rw [advance_measured]
    split_ifs with current
    · exact h
    · change false = true ↔ n = 0
      change _ = generation + n at h
      simp only [Bool.false_eq_true, false_iff]
      omega
  | confirmed generation ms =>
    obtain ⟨progress, gate, -⟩ := advance_confirmed p r shared generation ms
    rw [gate]
    obtain ⟨cause, failed⟩ | ⟨m, combined⟩ := progress
    · rw [failed]
      exact trivial
    · rw [combined]
      exact h
  | combined generation ms m =>
    obtain ⟨progress, gate, -⟩ := advance_combined p r shared generation ms m
    rw [gate]
    obtain ⟨cause, failed⟩ | ⟨result, reviewed⟩ := progress
    · rw [failed]
      exact trivial
    · rw [reviewed]
      exact h
  | reviewed generation result =>
    change _ = generation + n at h
    rw [advance_reviewed]
    split_ifs with current
    · change true = true ↔ n = 0
      simp only [true_iff]
      omega
    · change false = true ↔ n = 0
      simp only [Bool.false_eq_true, false_iff]
      omega
  | finished result => exact h
  | failed cause => exact h

/-! ### Calls of reviewers -/

def traced (p : Pipeline σ) : Pipeline (σ × List Call) where
  meter := p.meter
  panel := p.panel.traced
  workers := p.workers

def calls (p : Pipeline σ) (r : BatchRequest) (shared : Shared σ) (progress : Progress) : List Call :=
  (p.traced.advance r ⟨shared.gate, (shared.world, [])⟩ progress).2.1.world.2

theorem calls_eq_nil (shared : Shared σ) {progress : Progress}
    (h : ∀ generation ms m, progress ≠ .combined generation ms m) :
    p.calls r shared progress = [] := by
  cases progress with
  | received =>
    rw [calls, advance_received]
    split <;> rfl
  | begun generation =>
    rw [calls, advance]
    cases (Batch.measureMany p.traced.meter r.clock r.conditions r.units p.traced.workers
      r.choices).outcome <;> rfl
  | measured generation ms =>
    rw [calls, advance_measured]
    split <;> rfl
  | confirmed generation ms =>
    rw [calls, advance]
    cases Metrics.aggregate (ms.map Measurement.metrics) <;> rfl
  | combined generation ms m => exact (h generation ms m rfl).elim
  | reviewed generation result =>
    rw [calls, advance_reviewed]
    split <;> rfl
  | finished => rfl
  | failed => rfl

/-! ### Warnings -/

theorem warned_of_quiet {key : Key} {events more : List Event} {progress next : Progress}
    (quiet : ∀ e ∈ more, e.isStale = false) (before : progress.Warned key events)
    (onItsWay : progress ≠ .finished none) (notDropped : next ≠ .finished none) :
    next.Warned key (events ++ more) := by
  have nothing : more.filter Event.isStale = [] :=
    List.filter_eq_nil_iff.mpr fun e he => by simp [quiet e he]
  have earlier : events.filter Event.isStale = [] := by
    cases progress with
    | finished result =>
      cases result with
      | none => exact (onItsWay rfl).elim
      | some => exact before
    | _ => exact before
  have later : (events ++ more).filter Event.isStale = [] := by
    rw [List.filter_append, earlier, nothing, List.nil_append]
  cases next with
  | finished result =>
    cases result with
    | none => exact (notDropped rfl).elim
    | some => exact later
  | _ => exact later

theorem warned_advance {shared : Shared σ} {progress : Progress} {events : List Event}
    (h : progress.Warned r.key events) :
    (p.advance r shared progress).1.Warned r.key (events ++ (p.advance r shared progress).2.2) := by
  cases progress with
  | received =>
    rw [advance_received]
    split
    · exact warned_of_quiet (by simp) h (by simp) (by simp)
    · exact warned_of_quiet (by simp [Event.isStale]) h (by simp) (by simp)
  | begun generation =>
    obtain ⟨⟨cause, next⟩ | ⟨ms, next⟩, -, quiet⟩ := advance_begun p r shared generation
    all_goals exact warned_of_quiet quiet h (by simp) (by simp [next])
  | measured generation ms =>
    rw [advance_measured]
    split_ifs with current
    · exact warned_of_quiet (by simp) h (by simp) (by simp)
    · refine ⟨generation, ?_⟩
      rw [List.filter_append, show events.filter Event.isStale = [] from h]
      rfl
  | confirmed generation ms =>
    obtain ⟨⟨cause, next⟩ | ⟨m, next⟩, -, quiet⟩ := advance_confirmed p r shared generation ms
    all_goals exact warned_of_quiet quiet h (by simp) (by simp [next])
  | combined generation ms m =>
    obtain ⟨⟨cause, next⟩ | ⟨result, next⟩, -, quiet⟩ := advance_combined p r shared generation ms m
    all_goals exact warned_of_quiet quiet h (by simp) (by simp [next])
  | reviewed generation result =>
    rw [advance_reviewed]
    split_ifs with current
    · exact warned_of_quiet (by simp) h (by simp) (by simp)
    · refine ⟨generation, ?_⟩
      rw [List.filter_append, show events.filter Event.isStale = [] from h]
      rfl
  | finished result =>
    change Progress.Warned r.key (events ++ []) (.finished result)
    rwa [List.append_nil]
  | failed cause =>
    change Progress.Warned r.key (events ++ []) (.failed cause)
    rwa [List.append_nil]

end Pipeline

namespace System

variable {σ ι : Type} [DecidableEq ι] (p : Pipeline σ) (requests : ι → BatchRequest)

/-! ### Whole runs -/

def overtakes (i : ι) (x : System σ ι × Action ι) : Bool :=
  (x.1.progress i).generation?.isSome ∧ x.1.begins? requests x.2 = some (requests i).key

def overtakings (i : ι) (s : System σ ι) (schedule : List (Action ι)) : Nat :=
  (s.trace p requests schedule).countP (overtakes requests i)

variable {p requests}

theorem overtakings_concat (i : ι) (s : System σ ι) (schedule : List (Action ι)) (a : Action ι) :
    s.overtakings p requests i (schedule ++ [a]) = s.overtakings p requests i schedule +
      if overtakes requests i (s.run p requests schedule, a) then 1 else 0 := by
  rw [overtakings, trace_concat, List.countP_append, List.countP_singleton]
  rfl

omit [DecidableEq ι] in
theorem overtakes_advance_self (i : ι) (s : System σ ι) :
    overtakes requests i (s, .advance i) = false := by
  refine decide_eq_false fun ⟨onItsWay, begun⟩ => ?_
  change (s.progress i).begins? (requests i) = _ at begun
  rw [Progress.begins?_eq_none onItsWay] at begun
  cases begun

theorem numbered_run (gate : Gate) (world : σ) (schedule : List (Action ι)) (i : ι) :
    (((start gate world).run p requests schedule).progress i).Numbered
      (((start gate world).run p requests schedule).shared.gate.newest (requests i).key)
      ((start gate world).overtakings p requests i schedule) := by
  induction schedule using List.reverseRecOn with
  | nil => exact rfl
  | append_singleton schedule a ih =>
    rw [run_concat, overtakings_concat]
    by_cases own : a = .advance i
    · subst own
      rw [progress_step_self, overtakes_advance_self]
      exact Pipeline.numbered_advance ih
    · rw [progress_step_of_ne _ own, gate_step, Gate.newest_beginAny]
      have overtaken := ih.overtaken
        (((start gate world).run p requests schedule).begins? requests a = some (requests i).key)
      simpa [overtakes] using overtaken

theorem warned_run (gate : Gate) (world : σ) (schedule : List (Action ι)) (i : ι) :
    (((start gate world).run p requests schedule).progress i).Warned (requests i).key
      (((start gate world).run p requests schedule).events i) := by
  induction schedule using List.reverseRecOn with
  | nil => exact rfl
  | append_singleton schedule a ih =>
    rw [run_concat]
    by_cases own : a = .advance i
    · subst own
      rw [progress_step_self, events_step_self]
      exact Pipeline.warned_advance ih
    · rwa [progress_step_of_ne _ own, events_step_of_ne _ own]

theorem stepsLeft_run (gate : Gate) (world : σ) (schedule : List (Action ι)) (i : ι) :
    (((start gate world).run p requests schedule).progress i).stepsLeft ≤
      Pipeline.stepCount - schedule.count (.advance i) := by
  induction schedule using List.reverseRecOn with
  | nil => exact Nat.le_refl _
  | append_singleton schedule a ih =>
    rw [run_concat, List.count_append]
    by_cases own : a = .advance i
    · subst own
      rw [progress_step_self, List.count_singleton_self]
      have step := p.stepsLeft_advance (requests i)
        ((start gate world).run p requests schedule).shared
        (((start gate world).run p requests schedule).progress i)
      omega
    · rw [progress_step_of_ne _ own, List.count_singleton, if_neg (by simpa using own)]
      exact ih

/-! ### The generation of a request -/

def generation? (p : Pipeline σ) (requests : ι → BatchRequest) (i : ι) (s : System σ ι)
    (schedule : List (Action ι)) : Option Nat :=
  (s.trace p requests schedule).findSome? fun x =>
    if x.2 = .advance i ∧ (x.1.begins? requests x.2).isSome then
      some (x.1.shared.gate.newest (requests i).key + 1)
    else none

theorem generation?_concat (i : ι) (s : System σ ι) (schedule : List (Action ι)) (a : Action ι) :
    s.generation? p requests i (schedule ++ [a]) =
      (s.generation? p requests i schedule).or
        (if a = .advance i ∧ ((s.run p requests schedule).begins? requests a).isSome then
          some ((s.run p requests schedule).shared.gate.newest (requests i).key + 1)
        else none) := by
  rw [generation?, trace_concat, List.findSome?_append]
  congr 1
  simp

/-- The newest generation of a key is ahead of a request by the overtakings at least, also when the
request is over. -/
theorem generation_add_overtakings_le (gate : Gate) (world : σ) (schedule : List (Action ι)) (i : ι)
    {generation : Nat}
    (given : (start gate world).generation? p requests i schedule = some generation) :
    generation + (start gate world).overtakings p requests i schedule ≤
      ((start gate world).run p requests schedule).shared.gate.newest (requests i).key := by
  induction schedule using List.reverseRecOn with
  | nil => cases given
  | append_singleton schedule a ih =>
    rw [generation?_concat] at given
    rw [overtakings_concat, run_concat, gate_step, Gate.newest_beginAny]
    cases earlier : (start gate world).generation? p requests i schedule with
    | some first =>
      rw [earlier, Option.some_or] at given
      obtain rfl := Option.some.inj given
      have before := ih earlier
      by_cases overtaken : overtakes requests i ((start gate world).run p requests schedule, a) = true
      · rw [if_pos overtaken, if_pos (of_decide_eq_true overtaken).2]
        omega
      · rw [if_neg overtaken]
        omega
    | none =>
      rw [earlier, Option.none_or] at given
      split at given
      case isFalse => cases given
      case isTrue begins =>
        obtain ⟨rfl, begun⟩ := begins
        obtain rfl := Option.some.inj given
        obtain ⟨received, begun⟩ := Progress.eq_of_begins? begun
        have numbered : (((start gate world).run p requests schedule).progress i).Numbered _ _ :=
          numbered_run gate world schedule i
        rw [received] at numbered
        have none : (start gate world).overtakings p requests i schedule = 0 := numbered
        rw [overtakes_advance_self, none, begins?, if_pos begun]
        simp

/-! ### Requests that are dropped before the review -/

def calls (p : Pipeline σ) (requests : ι → BatchRequest) (i : ι) (s : System σ ι)
    (schedule : List (Action ι)) : List Call :=
  (s.trace p requests schedule).flatMap fun x =>
    if x.2 = .advance i then p.calls (requests i) x.1.shared (x.1.progress i) else []

theorem calls_append (i : ι) (s : System σ ι) (first second : List (Action ι)) :
    s.calls p requests i (first ++ second) = s.calls p requests i first ++
      (s.run p requests first).calls p requests i second := by
  rw [calls, trace_append, List.flatMap_append]
  rfl

theorem calls_cons (i : ι) (s : System σ ι) (a : Action ι) (rest : List (Action ι)) :
    s.calls p requests i (a :: rest) =
      (if a = .advance i then p.calls (requests i) s.shared (s.progress i) else []) ++
        (s.step p requests a).calls p requests i rest := rfl

theorem calls_concat (i : ι) (s : System σ ι) (schedule : List (Action ι)) (a : Action ι) :
    s.calls p requests i (schedule ++ [a]) = s.calls p requests i schedule ++
      if a = .advance i then
        p.calls (requests i) (s.run p requests schedule).shared
          ((s.run p requests schedule).progress i)
      else [] := by
  rw [calls_append, calls_cons]
  exact congrArg _ (List.append_nil _)

theorem progress_run_of_finished {s : System σ ι} {i : ι} {result : Option AnalysisResult}
    (ended : s.progress i = .finished result) (schedule : List (Action ι)) :
    (s.run p requests schedule).progress i = .finished result ∧
      s.calls p requests i schedule = [] := by
  induction schedule generalizing s with
  | nil => exact ⟨ended, rfl⟩
  | cons a rest ih =>
    have still : (s.step p requests a).progress i = .finished result := by
      by_cases own : a = .advance i
      · rw [own, progress_step_self, ended]
        rfl
      · rw [progress_step_of_ne s own, ended]
    have quiet : (if a = .advance i then p.calls (requests i) s.shared (s.progress i) else []) = [] := by
      split
      · rw [ended]
        rfl
      · rfl
    obtain ⟨last, none⟩ := ih still
    refine ⟨last, ?_⟩
    rw [calls_cons, quiet, none]
    rfl

def beforeReview : Progress → Bool
  | .received | .begun _ | .measured .. | .confirmed .. | .combined .. => true
  | _ => false

theorem beforeReview_of_advance {r : BatchRequest} {shared : Shared σ} {progress : Progress}
    (h : beforeReview (p.advance r shared progress).1 = true) :
    beforeReview progress = true ∧ ∀ generation ms m, progress ≠ .combined generation ms m := by
  cases progress with
  | combined generation ms m =>
    obtain ⟨⟨cause, next⟩ | ⟨result, next⟩, -, -⟩ := Pipeline.advance_combined p r shared generation ms m
    all_goals
      rw [next] at h
      cases h
  | reviewed generation result =>
    rw [Pipeline.advance_reviewed] at h
    split at h <;> cases h
  | finished => cases h
  | failed => cases h
  | _ => exact ⟨rfl, fun _ _ _ => nofun⟩

theorem calls_eq_nil_of_beforeReview (gate : Gate) (world : σ) (schedule : List (Action ι)) (i : ι)
    (h : beforeReview (((start gate world).run p requests schedule).progress i) = true) :
    (start gate world).calls p requests i schedule = [] := by
  induction schedule using List.reverseRecOn with
  | nil => rfl
  | append_singleton schedule a ih =>
    rw [run_concat] at h
    rw [calls_concat]
    by_cases own : a = .advance i
    · subst own
      rw [progress_step_self] at h
      obtain ⟨before, silent⟩ := beforeReview_of_advance h
      rw [ih before, if_pos rfl, Pipeline.calls_eq_nil _ silent]
      rfl
    · rw [progress_step_of_ne _ own] at h
      rw [ih h, if_neg own]
      rfl

theorem dropped_at_first_check (gate : Gate) (world : σ) {before : List (Action ι)} {i : ι}
    {generation : Nat} {ms : List Measurement}
    (reached : ((start gate world).run p requests before).progress i = .measured generation ms)
    (late : 0 < (start gate world).overtakings p requests i before) (after : List (Action ι)) :
    ((start gate world).run p requests (before ++ .advance i :: after)).progress i =
        .finished none ∧
      (start gate world).calls p requests i (before ++ .advance i :: after) = [] := by
  have numbered : (((start gate world).run p requests before).progress i).Numbered _ _ :=
    numbered_run gate world before i
  rw [reached] at numbered
  change _ = generation + _ at numbered
  have notNewest : ((start gate world).run p requests before).shared.gate.newest (requests i).key ≠
      generation := by omega
  have dropped : (((start gate world).run p requests before).step p requests (.advance i)).progress i =
      .finished none := by
    rw [progress_step_self, reached, Pipeline.advance_measured, if_neg notNewest]
  have early : (start gate world).calls p requests i before = [] := by
    refine calls_eq_nil_of_beforeReview gate world before i ?_
    rw [reached]
    rfl
  have silent : p.calls (requests i) ((start gate world).run p requests before).shared
      (.measured generation ms) = [] := Pipeline.calls_eq_nil _ fun _ _ _ => nofun
  obtain ⟨last, none⟩ := progress_run_of_finished dropped after
  rw [run_append, calls_append, calls_cons, early, if_pos rfl, reached, silent, none]
  exact ⟨last, rfl⟩

/-- Only the newest request of a key survives, whatever the order of the steps of all requests and of the
generations that begin for other reasons. A request that does not fail has a result exactly when no
generation of its key began while it was on its way. One that is late at its first check calls no
reviewer, and each dropped one leaves one warning. What goes on under other keys does not change the
verdict, nor anything else as long as reviewers ignore the world. The newest generation of a key is never
dropped. -/
theorem newest_survives (p : Pipeline σ) (requests : ι → BatchRequest) (gate : Gate) (world : σ)
    (schedule : List (Action ι)) (i : ι) :
    let start := System.start gate world
    let final := start.run p requests schedule
    let alone := start.run p requests (schedule.filter fun a => a.key requests = (requests i).key)
    (Pipeline.stepCount ≤ schedule.count (.advance i) →
      (∃ cause, final.progress i = .failed cause) ∨ ∃ result, final.progress i = .finished result) ∧
    (∀ result, final.progress i = .finished result →
      (result.isSome = true ↔ start.overtakings p requests i schedule = 0)) ∧
    (∀ before after generation ms, schedule = before ++ .advance i :: after →
      (start.run p requests before).progress i = .measured generation ms →
      0 < start.overtakings p requests i before →
      final.progress i = .finished none ∧ start.calls p requests i schedule = []) ∧
    (final.progress i = .finished none →
      ∃ generation, (final.events i).filter Event.isStale =
        [.staleResult (requests i).key generation]) ∧
    (final.progress i ≠ .finished none → (final.events i).filter Event.isStale = []) ∧
    (∀ result result', final.progress i = .finished result →
      alone.progress i = .finished result' → result.isSome = result'.isSome) ∧
    (p.panel.IgnoresWorld →
      final.progress i = alone.progress i ∧ final.events i = alone.events i) ∧
    (∀ generation, start.generation? p requests i schedule = some generation →
      final.shared.gate.newest (requests i).key = generation →
      ∀ result, final.progress i = .finished result → result.isSome = true) := by
  intro start final alone
  have numbered : (final.progress i).Numbered _ _ := numbered_run gate world schedule i
  have warned : (final.progress i).Warned _ _ := warned_run gate world schedule i
  obtain ⟨agree, same⟩ : _ ∧ _ := run_own_key gate world schedule i
  have verdict (result : Option AnalysisResult) (ended : final.progress i = .finished result) :
      result.isSome = true ↔ start.overtakings p requests i schedule = 0 := by
    rw [ended] at numbered
    exact numbered
  refine ⟨fun enough => ?_, verdict, ?_, fun dropped => ?_, fun kept => ?_, ?_, same, ?_⟩
  · have left : (final.progress i).stepsLeft ≤ _ := stepsLeft_run gate world schedule i
    have ended : (final.progress i).stepsLeft = 0 := by omega
    cases progress : final.progress i with
    | finished result => exact .inr ⟨result, rfl⟩
    | failed cause => exact .inl ⟨cause, rfl⟩
    | _ =>
      rw [progress] at ended
      cases ended
  · rintro before after generation ms rfl reached late
    exact dropped_at_first_check gate world reached late after
  · rw [dropped] at warned
    exact warned
  · cases progress : final.progress i with
    | finished result =>
      rw [progress] at warned kept
      cases result with
      | none => exact (kept rfl).elim
      | some => exact warned
    | _ =>
      rw [progress] at warned
      exact warned
  · intro result result' ended ended'
    change (final.progress i).Agree (alone.progress i) at agree
    rw [ended, ended'] at agree
    cases agree with
    | same => rfl
    | finished agree => exact agree
  · intro generation given newest result ended
    have ahead : generation + start.overtakings p requests i schedule ≤
        final.shared.gate.newest (requests i).key := generation_add_overtakings_le gate world schedule i given
    exact (verdict result ended).mpr (by omega)

end System
end Footprint
