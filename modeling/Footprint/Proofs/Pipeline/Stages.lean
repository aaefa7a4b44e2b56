import Footprint.Proofs.Pipeline.Course
import Footprint.Proofs.Pipeline.RunLog

/-! The stages that requests record, for one file and for several. -/
namespace Footprint.Pipeline

variable {σ : Type}

/-- Requests record their stages in order, whatever the reviewers do and with a fallback or without.

For one file the stages are a prefix of all five, and all five exactly when there is a result. Scoring comes
after one branch, and when the reviewers are exhausted the last stage is the review.

A request over several files records a prefix of its own four stages, the last exactly when the panel has
come to a verdict, and between the first two each file is scored and then calculated. This holds however
the workers take turns in recording, whatever other requests do in the meantime, and so of the logs that a
request leaves when it runs alone or on a schedule with others. -/
theorem stages_in_order (p : Pipeline σ) :
    (∀ (r : Request) (u : SourceUnit) (world : σ),
      let events := (p.run r u world).1.events
      let outcome := (p.run r u world).1.outcome
      events.filter Event.isStage <+: oneFileStages u.label ∧ (events.filter Event.isStage).Nodup ∧
      (events.filter Event.isStage = oneFileStages u.label ↔ ∃ result, outcome = .ok result) ∧
      (∀ before after, events = before ++ .unitStage u.label .scoring :: after →
        (before.filter Event.isBranch).length = 1) ∧
      ∀ errors, outcome = .error (.reviewersExhausted errors) →
        (events.filter Event.isStage).getLast? = some (.requestStage u.label .reviewing)) ∧
    (∀ (r : BatchRequest) (progress : Progress) (entries : List Entry)
        (verdicts : List (Outcome Verdict)), p.Course r progress entries verdicts →
      FollowsStages r entries verdicts) ∧
    (∀ (r : BatchRequest) (shared : Shared σ), ∃ progress entries verdicts,
      p.Course r progress entries verdicts ∧
      progress.outcome? = some (p.runMany r shared).1.outcome ∧
      entries.map Entry.event = (p.runMany r shared).1.events) ∧
    ∀ (requests : Nat → BatchRequest) (gate : Gate) (world : σ) (schedule : List (Action Nat)) (i : Nat),
      ∃ entries verdicts,
        p.Course (requests i) (((System.start gate world).run p requests schedule).progress i) entries
          verdicts ∧
        entries.map Entry.event = ((System.start gate world).run p requests schedule).events i := by
  refine ⟨?_, fun r progress entries verdicts course => course.kept.follows, ?_, ?_⟩
  · intro r u world events outcome
    have log : RunLog u.label events outcome := p.runLog_run r u world
    have once := log.stages_isPrefix.sublist.nodup (nodup_oneFileStages u.label)
    exact ⟨log.stages_isPrefix, once, log.stages_eq_iff, fun before after split =>
      log.branch_before_scoring split, fun errors exhausted => log.getLast_of_exhausted exhausted⟩
  · intro r shared
    obtain ⟨entries, verdicts, course, same⟩ :=
      p.exists_course_advances r stepCount (.received, shared, []) .received rfl
    obtain ⟨outcome, ended⟩ := Option.isSome_iff_exists.mp (p.outcome_advances_received r shared)
    refine ⟨_, entries, verdicts, course, ?_, same⟩
    rw [runMany]
    dsimp only
    rw [ended]
    rfl
  · exact fun requests gate world schedule i => System.exists_course p requests gate world schedule i

def insistent : Pipeline Unit := { panel := { allowFallback := false } }

def oneDeclaration : SourceUnit := ⟨"a.js", .int 12, some "const x = 1;", "js"⟩

def sameName : BatchRequest where
  clock := 12
  units := [oneDeclaration, oneDeclaration]

theorem stages_in_order_sameName :
    (insistent.run { clock := 12 } oneDeclaration ()).1.outcome = .error (.reviewersExhausted []) ∧
      ((insistent.run { clock := 12 } oneDeclaration ()).1.events.filter Event.isStage).getLast? =
        some (.requestStage "a.js" .reviewing) ∧
      ∃ entries verdicts,
        entries.map Entry.event = (({} : Pipeline Unit).runMany sameName { world := () }).1.events ∧
        FollowsStages sameName entries verdicts ∧ ∃ v, .ok v ∈ verdicts := by
  have outcome : (insistent.run { clock := 12 } oneDeclaration ()).1.outcome =
      .error (.reviewersExhausted []) := Outcome.eq_error_of_cause? (by decide +kernel)
  have complete : .requestStage sameName.label .complete ∈
      (({} : Pipeline Unit).runMany sameName { world := () }).1.events := by decide +kernel
  obtain ⟨one, -⟩ := stages_in_order insistent
  obtain ⟨-, several, alone, -⟩ := stages_in_order ({} : Pipeline Unit)
  obtain ⟨progress, entries, verdicts, course, -, same⟩ := alone sameName { world := () }
  have follows := several sameName progress entries verdicts course
  refine ⟨outcome, (one { clock := 12 } oneDeclaration ()).2.2.2.2 [] outcome, entries, verdicts, same, follows, ?_⟩
  rw [← follows.complete_iff, ownStages, same]
  exact List.mem_filter.mpr ⟨complete, rfl⟩

end Footprint.Pipeline
