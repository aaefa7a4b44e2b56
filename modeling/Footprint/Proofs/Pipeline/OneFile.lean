import Footprint.Proofs.Batch.Completion
import Footprint.Proofs.Metrics.OneFile
import Footprint.Proofs.Pipeline.Newest

/-! A request over several files that turn out to be one. It comes to what a request for the one file
comes to: the hour is read once in both, figures of one file are their own sum, and the reviewers are
shown the same text. Between its steps other requests may go on; then it is the request for the file in
the world that the reviewers are in when they are asked. -/
namespace Footprint

/-! ### The review -/

theorem truncate_combinedContent (u : SourceUnit) (maxChars : Int) :
    Panel.truncate (some (combinedContent [u])) maxChars = Panel.truncate u.content maxChars := by
  have content : combinedContent [u] = u.content.getD "" := by
    unfold combinedContent
    cases text : u.content with
    | none => simp [text]
    | some text' =>
      by_cases empty : text' = ""
      · simp [text, empty]
      · simp [text, empty]
  rw [Panel.truncate, Panel.truncate, content]
  rfl

namespace Pipeline

variable {σ : Type}

theorem review_snd (p : Pipeline σ) (r : Request) (label : String) (content : Option String)
    (ms : List Measurement) (m : Metrics) (world : σ) :
    (p.review r label content ms m world).2 = (p.panel.synthesize content m r.cancelled world).2 := rfl

theorem review_eq_of_truncate (p : Pipeline σ) (r : Request) (label other : String)
    {content shown : Option String}
    (same : Panel.truncate content p.panel.maxChars = Panel.truncate shown p.panel.maxChars)
    (ms : List Measurement) (m : Metrics) (world : σ) :
    (p.review r label content ms m world).1.outcome = (p.review r other shown ms m world).1.outcome ∧
      (p.review r label content ms m world).2 = (p.review r other shown ms m world).2 := by
  have verdict : p.panel.synthesize content m r.cancelled world =
      p.panel.synthesize shown m r.cancelled world := by
    rw [Panel.synthesize, Panel.synthesize, same]
  rw [outcome_review, outcome_review, review_snd, review_snd, verdict]
  exact ⟨rfl, rfl⟩

def callsOfRun (p : Pipeline σ) (r : Request) (u : SourceUnit) (world : σ) : List Call :=
  (p.traced.run r u (world, [])).2.2

end Pipeline

/-- A request over several files that are one, whose hour is one of the day, whose figures are within the
limit and whose tree is not held by just one of the two. -/
structure Pipeline.OneFile {σ : Type} (p : Pipeline σ) (r : BatchRequest) (u : SourceUnit) : Prop where
  units_eq : r.units = [u]
  clock_nonneg : 0 ≤ r.clock
  clock_lt : r.clock < 24
  memoryCap_le : p.meter.scoring.memoryCap ≤ figureLimit
  /-- A worker holds its tree, if it has one, whenever the request does. -/
  heldAlike : p.meter.HeldAlike p.meter.stack.worker (p.meter.stack.enter 1) u
  small : ∀ m, ((p.meter.deeper 1).measure r.clock r.conditions u).outcome = .ok m →
    m.metrics.energy < figureLimit ∧ m.metrics.carbon < figureLimit

def Progress.after {α : Type} (next : α → Progress) : Outcome α → Progress
  | .ok a => next a
  | .error cause => .failed cause

namespace Pipeline.OneFile

variable {σ : Type} {p : Pipeline σ} {r : BatchRequest} {u : SourceUnit}

theorem traced (h : p.OneFile r u) : p.traced.OneFile r u := ⟨h.1, h.2, h.3, h.4, h.5, h.6⟩

theorem aggregate (h : p.OneFile r u) {m : Measurement}
    (measured : ((p.meter.deeper 1).measure r.clock r.conditions u).outcome = .ok m) :
    Metrics.aggregate [m.metrics] = .ok m.metrics := by
  obtain ⟨energy, carbon⟩ := h.small m measured
  have cap : (p.meter.deeper 1).scoring.memoryCap ≤ figureLimit := h.memoryCap_le
  exact Metrics.aggregate_singleton (Meter.isRounded_of_measure cap measured energy carbon)

theorem review (h : p.OneFile r u) {m : Measurement}
    (measured : ((p.meter.deeper 1).measure r.clock r.conditions u).outcome = .ok m) (world : σ) :
    let reviewed := p.review r.toRequest r.label (some (combinedContent r.units)) [m] m.metrics world
    reviewed.1.outcome = (p.run r.toRequest u world).1.outcome ∧
      reviewed.2 = (p.run r.toRequest u world).2 := by
  obtain ⟨outcome, after⟩ := run_of_ok measured world
  have shown := truncate_combinedContent u p.panel.maxChars
  rw [outcome, after, h.units_eq]
  exact p.review_eq_of_truncate r.toRequest r.label u.label shown [m] m.metrics world

/-! ### Step by step -/

theorem advance_received (h : p.OneFile r u) (shared : Shared σ) :
    (p.advance r shared .received).1 = .begun (shared.gate.newest r.key + 1) ∧
      (p.advance r shared .received).2.1 = ⟨(shared.gate.begin r.key).2, shared.world⟩ := by
  have some : r.units.isEmpty = false := by
    rw [h.units_eq]
    rfl
  rw [Pipeline.advance_received, some]
  exact ⟨rfl, rfl⟩

theorem advance_begun (h : p.OneFile r u) (shared : Shared σ) (generation : Nat) :
    (p.advance r shared (.begun generation)).1 =
        Progress.after (fun m => .measured generation [m])
          ((p.meter.deeper 1).measure r.clock r.conditions u).outcome ∧
      (p.advance r shared (.begun generation)).2.1 = shared := by
  have alone := Batch.measureMany_singleton p.meter h.clock_nonneg h.clock_lt r.conditions u p.workers
    r.choices
  have same : p.meter.inWorker.measure r.clock r.conditions u =
      (p.meter.deeper 1).measure r.clock r.conditions u := Meter.measure_on_of_heldAlike h.heldAlike
  rw [← h.units_eq, same] at alone
  have several : (p.advance r shared (.begun generation)).1 = Progress.after (.measured generation)
        (Batch.measureMany p.meter r.clock r.conditions r.units p.workers r.choices).outcome ∧
      (p.advance r shared (.begun generation)).2.1 = shared := by
    rw [advance]
    cases (Batch.measureMany p.meter r.clock r.conditions r.units p.workers r.choices).outcome <;>
      exact ⟨rfl, rfl⟩
  rw [alone] at several
  refine ⟨several.1.trans ?_, several.2⟩
  cases ((p.meter.deeper 1).measure r.clock r.conditions u).outcome <;> rfl

theorem advance_confirmed (h : p.OneFile r u) {m : Measurement}
    (measured : ((p.meter.deeper 1).measure r.clock r.conditions u).outcome = .ok m) (shared : Shared σ)
    (generation : Nat) :
    (p.advance r shared (.confirmed generation [m])).1 = .combined generation [m] m.metrics ∧
      (p.advance r shared (.confirmed generation [m])).2.1 = shared := by
  rw [advance, List.map_singleton, h.aggregate measured]
  exact ⟨rfl, rfl⟩

theorem advance_combined (h : p.OneFile r u) {m : Measurement}
    (measured : ((p.meter.deeper 1).measure r.clock r.conditions u).outcome = .ok m) (shared : Shared σ)
    (generation : Nat) :
    (p.advance r shared (.combined generation [m] m.metrics)).1 =
        Progress.after (.reviewed generation) (p.run r.toRequest u shared.world).1.outcome ∧
      (p.advance r shared (.combined generation [m] m.metrics)).2.1 =
        ⟨shared.gate, (p.run r.toRequest u shared.world).2⟩ := by
  obtain ⟨outcome, after⟩ := h.review measured shared.world
  rw [← outcome, ← after, advance]
  dsimp only
  cases (p.review r.toRequest r.label (some (combinedContent r.units)) [m] m.metrics
    shared.world).1.outcome <;> exact ⟨rfl, rfl⟩

end Pipeline.OneFile

/-! ### All steps in a row -/

namespace Pipeline

variable {σ : Type} {p : Pipeline σ} {r : BatchRequest} {u : SourceUnit}

def LeadsTo (p : Pipeline σ) (r : BatchRequest) (steps : Nat) (progress : Progress) (shared : Shared σ)
    (last : Progress) (final : Shared σ) : Prop :=
  ∀ events, (p.advances r steps (progress, shared, events)).1 = last ∧
    (p.advances r steps (progress, shared, events)).2.1 = final

theorem LeadsTo.step {steps : Nat} {progress next last : Progress} {shared between final : Shared σ}
    (first : (p.advance r shared progress).1 = next ∧ (p.advance r shared progress).2.1 = between)
    (rest : p.LeadsTo r steps next between last final) :
    p.LeadsTo r (steps + 1) progress shared last final := by
  obtain ⟨rfl, rfl⟩ := first
  exact fun events => rest (events ++ (p.advance r shared progress).2.2)

theorem leadsTo_failed (cause : Failure) (shared : Shared σ) (steps : Nat) :
    p.LeadsTo r steps (.failed cause) shared (.failed cause) shared := by
  induction steps with
  | zero => exact fun _ => ⟨rfl, rfl⟩
  | succ steps ih => exact ih.step ⟨rfl, rfl⟩

theorem leadsTo_finished (result : Option AnalysisResult) (shared : Shared σ) (steps : Nat) :
    p.LeadsTo r steps (.finished result) shared (.finished result) shared := by
  induction steps with
  | zero => exact fun _ => ⟨rfl, rfl⟩
  | succ steps ih => exact ih.step ⟨rfl, rfl⟩

theorem OneFile.leadsTo (h : p.OneFile r u) (shared : Shared σ) :
    let alone := p.run r.toRequest u shared.world
    p.LeadsTo r stepCount .received shared (Progress.after (fun result => .finished (some result))
      alone.1.outcome) ⟨(shared.gate.begin r.key).2, alone.2⟩ := by
  intro alone
  have current : (shared.gate.begin r.key).2.newest r.key = shared.gate.newest r.key + 1 := by
    rw [Gate.newest_begin, if_pos rfl]
  refine .step (h.advance_received shared) (.step (h.advance_begun _ _) ?_)
  cases measured : ((p.meter.deeper 1).measure r.clock r.conditions u).outcome with
  | error cause =>
    obtain ⟨outcome, after⟩ := run_of_error measured shared.world
    change p.LeadsTo r 4 (.failed cause) _ _ ⟨_, (p.run r.toRequest u shared.world).2⟩
    rw [outcome, after]
    exact leadsTo_failed cause _ 4
  | ok m =>
    have confirmed : let begun : Shared σ := ⟨(shared.gate.begin r.key).2, shared.world⟩
        let generation := shared.gate.newest r.key + 1
        (p.advance r begun (.measured generation [m])).1 = .confirmed generation [m] ∧
          (p.advance r begun (.measured generation [m])).2.1 = begun := by
      dsimp only
      rw [advance_measured, if_pos current]
      exact ⟨rfl, rfl⟩
    refine .step confirmed (.step (h.advance_confirmed measured _ _)
      (.step (h.advance_combined measured _ _) ?_))
    cases outcome : alone.1.outcome with
    | error cause => exact leadsTo_failed cause _ 1
    | ok result =>
      refine .step ?_ (leadsTo_finished (some result) _ 0)
      rw [Progress.after, advance_reviewed, if_pos current]
      exact ⟨rfl, rfl⟩

theorem OneFile.runMany (h : p.OneFile r u) (shared : Shared σ) :
    (p.runMany r shared).1.outcome = (p.run r.toRequest u shared.world).1.outcome.map some ∧
      (p.runMany r shared).2.world = (p.run r.toRequest u shared.world).2 := by
  obtain ⟨last, final⟩ := h.leadsTo shared []
  unfold Pipeline.runMany
  dsimp only
  rw [last, final]
  refine ⟨?_, rfl⟩
  cases (p.run r.toRequest u shared.world).1.outcome <;> rfl

end Pipeline

/-! ### Steps of others in between -/

/-- A request for one file comes to an outcome with some calls, in one of the worlds that were met. -/
def Pipeline.ComesTo {σ : Type} (p : Pipeline σ) (r : Request) (u : SourceUnit) (met : σ → Prop)
    (calls : List Call) (outcome : Outcome AnalysisResult) : Prop :=
  ∃ world, met world ∧ (p.run r u world).1.outcome = outcome ∧ p.callsOfRun r u world = calls

def Progress.TellsRun {σ : Type} (p : Pipeline σ) (r : Request) (u : SourceUnit) (met : σ → Prop)
    (calls : List Call) : Progress → Prop
  | .received | .begun _ => calls = []
  | .measured _ ms | .confirmed _ ms =>
    calls = [] ∧ ∃ m, ((p.meter.deeper 1).measure r.clock r.conditions u).outcome = .ok m ∧ ms = [m]
  | .combined _ ms metrics =>
    calls = [] ∧ ∃ m, ((p.meter.deeper 1).measure r.clock r.conditions u).outcome = .ok m ∧ ms = [m] ∧
      metrics = m.metrics
  | .reviewed _ result => p.ComesTo r u met calls (.ok result)
  | .finished result => ∀ kept ∈ result, p.ComesTo r u met calls (.ok kept)
  | .failed cause => p.ComesTo r u met calls (.error cause)

section

variable {σ : Type} {p : Pipeline σ} {u : SourceUnit}

theorem Pipeline.ComesTo.mono {r : Request} {met later : σ → Prop} {calls : List Call}
    {outcome : Outcome AnalysisResult} (h : p.ComesTo r u met calls outcome)
    (more : ∀ world, met world → later world) : p.ComesTo r u later calls outcome := by
  obtain ⟨world, here, rest⟩ := h
  exact ⟨world, more world here, rest⟩

theorem Progress.TellsRun.mono {r : Request} {met later : σ → Prop} {calls : List Call}
    {progress : Progress} (h : progress.TellsRun p r u met calls)
    (more : ∀ world, met world → later world) : progress.TellsRun p r u later calls := by
  cases progress with
  | reviewed _ result => exact Pipeline.ComesTo.mono h more
  | finished result => exact fun kept member => (h kept member).mono more
  | failed cause => exact Pipeline.ComesTo.mono h more
  | _ => exact h

variable {r : BatchRequest}

theorem Pipeline.OneFile.calls_combined (h : p.OneFile r u) {m : Measurement}
    (measured : ((p.meter.deeper 1).measure r.clock r.conditions u).outcome = .ok m) (shared : Shared σ)
    (generation : Nat) :
    p.calls r shared (.combined generation [m] m.metrics) = p.callsOfRun r.toRequest u shared.world := by
  obtain ⟨-, after⟩ := h.traced.advance_combined measured ⟨shared.gate, (shared.world, [])⟩ generation
  rw [calls, after]
  rfl

theorem Pipeline.OneFile.tellsRun_advance (h : p.OneFile r u) {met : σ → Prop} {shared : Shared σ}
    (here : met shared.world) {calls : List Call} {progress : Progress}
    (tells : progress.TellsRun p r.toRequest u met calls) :
    (p.advance r shared progress).1.TellsRun p r.toRequest u met
      (calls ++ p.calls r shared progress) := by
  have silent (other : ∀ generation ms m, progress ≠ .combined generation ms m) :
      calls ++ p.calls r shared progress = calls := by
    rw [calls_eq_nil shared other, List.append_nil]
  cases progress with
  | received =>
    rw [(h.advance_received shared).1, silent fun _ _ _ => nofun]
    exact tells
  | begun generation =>
    rw [(h.advance_begun shared generation).1, silent fun _ _ _ => nofun]
    cases measured : ((p.meter.deeper 1).measure r.clock r.conditions u).outcome with
    | error cause =>
      have nobody : p.callsOfRun r.toRequest u shared.world = calls := by
        change calls = [] at tells
        rw [tells, callsOfRun, (run_of_error (p := p.traced) measured (shared.world, [])).2]
      exact ⟨shared.world, here, (run_of_error measured shared.world).1, nobody⟩
    | ok m => exact ⟨tells, m, measured, rfl⟩
  | measured generation ms =>
    rw [advance_measured, silent fun _ _ _ => nofun]
    split
    · exact tells
    · exact fun kept => nofun
  | confirmed generation ms =>
    obtain ⟨nobody, m, measured, rfl⟩ := tells
    rw [(h.advance_confirmed measured shared generation).1, silent fun _ _ _ => nofun]
    exact ⟨nobody, m, measured, rfl, rfl⟩
  | combined generation ms metrics =>
    obtain ⟨rfl, m, measured, rfl, rfl⟩ := tells
    rw [(h.advance_combined measured shared generation).1, h.calls_combined measured, List.nil_append]
    cases outcome : (p.run r.toRequest u shared.world).1.outcome with
    | error cause => exact ⟨shared.world, here, outcome, rfl⟩
    | ok result => exact ⟨shared.world, here, outcome, rfl⟩
  | reviewed generation result =>
    rw [advance_reviewed, silent fun _ _ _ => nofun]
    split
    · rintro kept ⟨⟩
      exact tells
    · exact fun kept => nofun
  | finished result | failed cause =>
    rw [silent fun _ _ _ => nofun]
    exact tells

end

namespace System

variable {σ ι : Type} [DecidableEq ι] {p : Pipeline σ} {requests : ι → BatchRequest} {u : SourceUnit}

def Meets (p : Pipeline σ) (requests : ι → BatchRequest) (s : System σ ι) (schedule : List (Action ι))
    (world : σ) : Prop :=
  ∃ before, before <+: schedule ∧ (s.run p requests before).shared.world = world

theorem Meets.concat {s : System σ ι} {schedule : List (Action ι)} {world : σ}
    (h : s.Meets p requests schedule world) (a : Action ι) :
    s.Meets p requests (schedule ++ [a]) world := by
  obtain ⟨before, front, same⟩ := h
  exact ⟨before, front.trans (List.prefix_append schedule [a]), same⟩

theorem tellsRun_run {i : ι} (h : p.OneFile (requests i) u) (gate : Gate) (world : σ)
    (schedule : List (Action ι)) :
    (((start gate world).run p requests schedule).progress i).TellsRun p (requests i).toRequest u
      ((start gate world).Meets p requests schedule) ((start gate world).calls p requests i schedule) := by
  induction schedule using List.reverseRecOn with
  | nil => exact rfl
  | append_singleton schedule a ih =>
    have later (met : σ) (here : (start gate world).Meets p requests schedule met) :
        (start gate world).Meets p requests (schedule ++ [a]) met := here.concat a
    rw [run_concat, calls_concat]
    by_cases own : a = .advance i
    · subst own
      rw [progress_step_self, if_pos rfl]
      exact (h.tellsRun_advance ⟨schedule, List.prefix_refl _, rfl⟩ ih).mono later
    · rw [progress_step_of_ne _ own, if_neg own, List.append_nil]
      exact ih.mono later

end System

namespace Pipeline.OneFile

variable {σ : Type} {p : Pipeline σ} {r : BatchRequest} {u : SourceUnit}

theorem outcome_of_run {ι : Type} [DecidableEq ι] {requests : ι → BatchRequest} {i : ι}
    (h : p.OneFile (requests i) u) (gate : Gate) (world : σ) {schedule : List (Action ι)}
    (newest : (System.start gate world).overtakings p requests i schedule = 0)
    (enough : stepCount ≤ schedule.count (.advance i)) :
    ∃ met, (System.start gate world).Meets p requests schedule met ∧
      (((System.start gate world).run p requests schedule).progress i).outcome? =
        some ((p.run (requests i).toRequest u met).1.outcome.map some) ∧
      (System.start gate world).calls p requests i schedule =
        p.callsOfRun (requests i).toRequest u met := by
  have tells := System.tellsRun_run h gate world schedule
  have numbered :
      (((System.start gate world).run p requests schedule).progress i).Numbered _ _ :=
    System.numbered_run gate world schedule i
  have left : (((System.start gate world).run p requests schedule).progress i).stepsLeft ≤ _ :=
    System.stepsLeft_run gate world schedule i
  rw [newest] at numbered
  generalize ((System.start gate world).run p requests schedule).progress i = last at *
  have ended : last.stepsLeft = 0 := by omega
  cases last with
  | finished result =>
    obtain ⟨kept, rfl⟩ := Option.isSome_iff_exists.mp (numbered.mpr rfl)
    obtain ⟨met, here, outcome, calls⟩ := tells kept rfl
    exact ⟨met, here, by rw [outcome]; rfl, calls.symm⟩
  | failed cause =>
    obtain ⟨met, here, outcome, calls⟩ := tells
    exact ⟨met, here, by rw [outcome]; rfl, calls.symm⟩
  | _ => cases ended

end Pipeline.OneFile

namespace Pipeline

def busyReviewer : Reviewer Nat where
  name := "busy"
  ask _ _ asked :=
    (⟨if asked = 0 then .error "busy" else .ok (Review.mk 5 "loops" "cache" "10% less").toJson, false⟩,
      asked + 1)

def busyPipeline : Pipeline Nat where panel := { reviewers := [busyReviewer] }

def emptyText : SourceUnit := ⟨"a.py", .float 2048, some "", "py"⟩

def nightRequest (own : Bool) : BatchRequest where
  clock := 23
  units := [emptyText]
  key := if own then .none else .text "other"

theorem oneFile_nightRequest : busyPipeline.OneFile (nightRequest true) emptyText where
  units_eq := rfl
  clock_nonneg := by decide
  clock_lt := by decide
  memoryCap_le := by decide +kernel
  heldAlike := by decide +kernel
  small m h := by
    have figures : ((busyPipeline.meter.deeper 1).measure 23 {} emptyText).outcome.toOption.all (fun m =>
        m.metrics.energy < figureLimit && m.metrics.carbon < figureLimit) = true := by decide +kernel
    change ((busyPipeline.meter.deeper 1).measure 23 {} emptyText).outcome = _ at h
    rw [h] at figures
    simpa [Except.toOption] using figures

def nightSchedule : List (Action Bool) :=
  List.replicate 3 (.advance true) ++ List.replicate 6 (.advance false) ++
    List.replicate 3 (.advance true)

def rimRequest : BatchRequest where
  clock := 12
  units := [negated rim (.int 511)]

theorem exists_review_of_isSome {σ : Type} (p : Pipeline σ) (r : Request) (label : String)
    (content : Option String) (ms : List Measurement) (m : Metrics) (world : σ)
    (reviewed : (p.review r label content ms m world).1.outcome.toOption.isSome = true) :
    ∃ result, (p.review r label content ms m world).1.outcome = .ok result ∧
      result.metrics = m ∧ result.branch = combinedBranch (ms.map Measurement.branch) := by
  obtain ⟨result, found⟩ := Option.isSome_iff_exists.mp reviewed
  obtain ⟨verdict, -, -, same⟩ := exists_of_review (eq_ok_of_toOption found)
  exact ⟨result, eq_ok_of_toOption found, same ▸ rfl, same ▸ rfl⟩

end Pipeline
end Footprint
