import Footprint.Proofs.Meter.Depth
import Footprint.Proofs.Panel.Selection
import Footprint.Proofs.Path
import Footprint.Proofs.Pipeline.Bounds
import Footprint.Proofs.SourceUnit
import Footprint.Proofs.Text.Utf8
import Footprint.Proofs.Tracker.Operations
import Footprint.Report

/-! One text, measured wherever it is met: given with a name, given with its size, read from a file, and
followed in a buffer. The size is told in another way each time, as a double, as an integer or by the
bytes themselves, and the file is known by its path; what is measured is the same, unless the tree of the text
is so deep that some of the entries have too many calls open to visit it. -/
namespace Footprint

open Syntax.Tree (negationText)

/-! ### The unit of a text -/

def IsSizeOf (text : String) (size : Json) : Prop :=
  size = .int text.utf8ByteSize ∨ size = .float (byteLength text)

theorem IsSizeOf.toNumber {text : String} {size : Json} (h : IsSizeOf text size)
    (sized : (byteLength text).isFinite = true) : size.toNumber = .ok (byteLength text) := by
  obtain rfl | rfl := h
  · unfold byteLength at sized ⊢
    rw [Binary64.natCast_eq_ofInt] at sized ⊢
    exact ofArithmetic_eq_ok_iff.mpr (Binary64.refuseInfinite_of_isFinite _ sized)
  · exact Json.toNumber_float sized

theorem IsSizeOf.isNull {text : String} {size : Json} (h : IsSizeOf text size) : size.isNull = false := by
  obtain rfl | rfl := h <;> rfl

def SourceUnit.ofText (languages : LanguageTable) (name text : String) (size : Json) : SourceUnit :=
  ⟨name, size, some text, (languages.classify name).tag⟩

namespace Meter

def textFigures (meter : Meter) (clock : Int) (c : Conditions) (language : Language) (text : String) :
    Outcome Metrics :=
  meter.metricsOf clock c (Binary64.max 0 (byteLength text)) (lineCount text) language
    (meter.scoring.profile ((meter.deeper 2).analysis (some text) language.tag).1)

variable {meter : Meter} {clock : Int} {c : Conditions} {text : String} {size : Json}

theorem textFigures_on_of_heldAlike {one other : Signals.CallStack} {name : String}
    (held : meter.HeldAlike one other (.ofText meter.languages name text .null)) :
    (meter.on one).textFigures clock c (meter.languages.classify name) text =
      (meter.on other).textFigures clock c (meter.languages.classify name) text := by
  have same : (meter.on (one.enter 2)).analysis (some text) (meter.languages.classify name).tag =
      (meter.on (other.enter 2)).analysis (some text) (meter.languages.classify name).tag :=
    meter.analysis_on_congr held
  rw [textFigures, textFigures, deeper_on, deeper_on, same]
  rfl

theorem compute_sameAt {other : Int} {d : Conditions} (same : Conditions.SameAt clock other c d)
    (size : Json) (name : String) (content : Option String) :
    meter.compute clock c size name content = meter.compute other d size name content := by
  rw [compute, compute]
  refine congrArg _ (funext fun u => ?_)
  have inner : (meter.deeper 1).measure clock c u = (meter.deeper 1).measure other d u :=
    measure_sameAt same u
  rw [inner]

/-- However its size is written and whatever name it has, a text has the figures of its language. -/
theorem map_metrics_measure_ofText (meter : Meter) (clock : Int) (c : Conditions) (h : IsSizeOf text size)
    (sized : (byteLength text).isFinite = true) (name : String) :
    (meter.measure clock c (.ofText meter.languages name text size)).outcome.map Measurement.metrics =
      meter.textFigures clock c (meter.languages.classify name) text := by
  have bytes : (SourceUnit.ofText meter.languages name text size).byteCount =
      .ok (Binary64.max 0 (byteLength text)) := by
    rw [SourceUnit.byteCount, SourceUnit.ofText, h.toNumber sized]
    rfl
  rw [map_metrics_measure, bytes]
  rfl

theorem outcome_compute_ofText (h : IsSizeOf text size) (sized : (byteLength text).isFinite = true)
    (name : String) :
    (meter.compute clock c size name (some text)).outcome =
      (meter.deeper 1).textFigures clock c (meter.languages.classify name) text := by
  have taken : (SourceUnit.ofText meter.languages name text size).takenSize = size :=
    if_neg (by rw [SourceUnit.ofText, h.isNull]; exact Bool.false_ne_true)
  have computed := meter.outcome_compute_takenSize clock c (.ofText meter.languages name text size)
  rw [taken] at computed
  exact computed.trans (map_metrics_measure_ofText (meter.deeper 1) clock c h sized name)

end Meter

/-! ### Requests for a text -/

structure ShowsFigures (figures : Outcome Metrics) (outcome : Outcome AnalysisResult) : Prop where
  failed : ∀ cause, figures = .error cause → outcome = .error cause
  metrics : ∀ result, outcome = .ok result → figures = .ok result.metrics

namespace Pipeline

variable {σ : Type} {p : Pipeline σ} {r : Request} {u : SourceUnit}

theorem showsFigures_run (world : σ) :
    ShowsFigures (((p.meter.deeper 1).measure r.clock r.conditions u).outcome.map Measurement.metrics)
      (p.run r u world).1.outcome := by
  cases measured : ((p.meter.deeper 1).measure r.clock r.conditions u).outcome with
  | error cause =>
    have failed := (run_of_error measured world).1
    refine ⟨fun other same => ?_, fun result found => nomatch failed.symm.trans found⟩
    rwa [← Except.error.inj same]
  | ok m =>
    refine ⟨nofun, fun result found => ?_⟩
    rw [(run_of_ok measured world).1] at found
    rw [(review_eq_ok found).1]
    rfl

theorem exists_result {parse : String → String → Option Syntax.Tree} {stack : Signals.CallStack}
    (builtIn : p.meter = { parse, stack }) (fallback : p.panel.allowFallback = true)
    {hour : Int} (told : EnvironmentTables.hourOf r.clock r.conditions.hour = .ok hour) {size : Binary64}
    (sized : u.byteCount = .ok size) (up : size.UpTo 490)
    (short : ∀ text ∈ u.content, text.utf8ByteSize ≤ 2 ^ 490) (world : σ) :
    ∃ result, (p.run r u world).1.outcome = .ok result := by
  obtain ⟨m, found, -⟩ := Meter.exists_measure parse (stack.enter 1) told (by omega) sized up short
  have measured : ((p.meter.deeper 1).measure r.clock r.conditions u).outcome = .ok m := by rwa [builtIn]
  have coherent := Meter.isCoherent_measure (by rw [builtIn]; rfl) measured
  obtain ⟨review, suggested⟩ :=
    Review.exists_ofMetrics coherent.one_le_complexity coherent.complexity_le
  obtain ⟨verdict, concluded⟩ := Panel.exists_conclude fallback suggested
    (Panel.consult (Panel.truncate u.content p.panel.maxChars) m.metrics p.panel.reviewers r.cancelled
      world).1
  obtain ⟨environment, found, -⟩ := Meter.exists_resolve_builtIn r.conditions
  have resolved : p.meter.environments.resolve r.conditions = .ok environment := by rwa [builtIn]
  rw [(run_of_ok measured world).1, outcome_review, Panel.synthesize_fst]
  exact ⟨_, bind_eq_ok_of concluded (bind_eq_ok_of resolved rfl)⟩

theorem runContent_eq_run (name text : String) (world : σ) :
    p.runContent r name (some text) world =
      (p.deeper 1).run r (.ofText p.meter.languages name text (.float (byteLength text))) world := rfl

theorem outcome_runFile {look : Path → Found} {path : Path} {text : String}
    (found : look path = .file (.ofBytes (Text.Utf8.encode text))) (world : σ) :
    (p.runFile r look path world).1.outcome =
      ((p.deeper 1).run r (.ofText p.meter.languages path.text text (.int text.utf8ByteSize))
        world).1.outcome := by
  have source : SourceUnit.read p.meter.languages look path =
      (SourceUnit.ofText p.meter.languages path.text text (.int text.utf8ByteSize)).remade
        p.meter.languages := by
    unfold SourceUnit.read
    rw [found]
    dsimp only
    rw [SourceUnit.ofStored_ofBytes, SourceUnit.ofBytes, Text.Utf8.decode_encode, Text.Utf8.length_encode]
    rfl
  rw [runFile, source]
  exact outcome_runFrom_remade (p.deeper 1) r _ world

end Pipeline

/-! ### Buffers -/

theorem Tracker.flush_record (t : Tracker) (clock : Int) (key : Key) (name text : String) :
    ((t.record key name text).2.flush clock key).1 = .ofOutcome (t.compute clock name text) := by
  have figures : (t.record key name text).2.compute = t.compute := rfl
  rw [flush_of_some (pending_record t key name text) (newest_record_self t key name text).symm, figures]

/-! ### Reports -/

def Report.figure? (document : Json) (name : String) : Option Json :=
  (document.member? "metrics").bind (Json.member? name)

theorem Report.figure?_document {result : AnalysisResult} {executions document : Json}
    (h : Report.document result executions = .ok document) :
    figure? document "estimatedCO2" = some (.float result.metrics.carbon) ∧
      figure? document "complexity" = some (.float result.metrics.complexity) := by
  obtain ⟨listed, given, rfl⟩ := exists_of_map_eq_ok h
  obtain ⟨summary, -, same⟩ := exists_of_bind_eq_ok given
  obtain rfl := Except.ok.inj same
  exact ⟨rfl, rfl⟩

/-! ### One text at every entry -/

/-- A text that is had under a name, in a file of that name, and in a buffer of that name that an editor
measures in the same way, for the same region and hardware, at the same hour. -/
structure Pipeline.OneText {σ : Type} (p : Pipeline σ) (r : Request) (t : Tracker) (hour : Int)
    (look : Path → Found) (name text : String) : Prop where
  hour_eq : EnvironmentTables.hourOf r.clock r.conditions.hour = .ok hour
  meter_eq : t.meter = p.meter.on t.meter.stack
  region_eq : t.region = r.conditions.region
  hardware_eq : t.hardware = r.conditions.hardware
  named : Path.NamesFile name
  file_eq : look (.ofText name) = .file (.ofBytes (Text.Utf8.encode text))
  /-- The number of bytes is a double. -/
  sized : (byteLength text).isFinite = true
  /-- The tree of the text, if it has one, can be visited in a computation just when it can in a request. -/
  request_alike : p.meter.HeldAlike (p.meter.stack.enter 1) (p.meter.stack.enter 2)
    (.ofText p.meter.languages name text .null)
  /-- The same of a computation and of a flush, which takes more calls. -/
  flush_alike : p.meter.HeldAlike (p.meter.stack.enter 1) (t.meter.stack.enter (t.callsToCompute + 1))
    (.ofText p.meter.languages name text .null)

namespace Pipeline.OneText

variable {σ : Type} {p : Pipeline σ} {r : Request} {t : Tracker} {hour : Int} {look : Path → Found}
  {name text : String}

theorem sameAt (h : p.OneText r t hour look name text) :
    Conditions.SameAt hour r.clock t.conditions r.conditions where
  region := h.region_eq
  hardware := h.hardware_eq
  hour := h.hour_eq.symm

theorem outcome_compute (h : p.OneText r t hour look name text) {size : Json}
    (written : IsSizeOf text size) :
    (p.meter.compute r.clock r.conditions size name (some text)).outcome =
      (p.meter.deeper 1).textFigures r.clock r.conditions (p.meter.languages.classify name) text :=
  Meter.outcome_compute_ofText written h.sized name

theorem compute_buffer (h : p.OneText r t hour look name text) :
    t.compute hour name text =
      (p.meter.deeper 1).textFigures r.clock r.conditions (p.meter.languages.classify name) text := by
  have meter : t.meter.deeper t.callsToCompute = p.meter.on (t.meter.stack.enter t.callsToCompute) := by
    have alike := congrArg (fun m => m.on (t.meter.stack.enter t.callsToCompute)) h.meter_eq
    rwa [Meter.on_on] at alike
  rw [Tracker.compute, meter, Meter.compute_sameAt h.sameAt, Meter.outcome_compute_ofText (.inr rfl) h.sized,
    Meter.deeper_on, Signals.CallStack.enter_enter, Meter.languages_on]
  exact (Meter.textFigures_on_of_heldAlike h.flush_alike).symm

theorem textFigures_request (h : p.OneText r t hour look name text) :
    (p.meter.deeper 1).textFigures r.clock r.conditions (p.meter.languages.classify name) text =
      ((p.meter.deeper 1).deeper 1).textFigures r.clock r.conditions (p.meter.languages.classify name)
        text := by
  rw [Meter.deeper_deeper]
  exact Meter.textFigures_on_of_heldAlike h.request_alike

theorem showsFigures_runContent (h : p.OneText r t hour look name text) (world : σ) :
    ShowsFigures ((p.meter.deeper 1).textFigures r.clock r.conditions (p.meter.languages.classify name) text)
      (p.runContent r name (some text) world).1.outcome := by
  have figures := ((p.meter.deeper 1).deeper 1).map_metrics_measure_ofText r.clock r.conditions (.inr rfl)
    h.sized name
  rw [h.textFigures_request, runContent_eq_run]
  exact figures ▸ showsFigures_run (p := p.deeper 1) world

theorem showsFigures_runFile (h : p.OneText r t hour look name text) (world : σ) :
    ShowsFigures ((p.meter.deeper 1).textFigures r.clock r.conditions (p.meter.languages.classify name) text)
      (p.runFile r look (.ofText name) world).1.outcome := by
  have figures := ((p.meter.deeper 1).deeper 1).map_metrics_measure_ofText r.clock r.conditions (.inl rfl)
    h.sized (Path.ofText name).text
  rw [h.textFigures_request, outcome_runFile h.file_eq, ← LanguageTable.classify_ofText h.named]
  exact figures ▸ showsFigures_run (p := p.deeper 1) world

theorem exists_results (h : p.OneText r t hour look name text)
    {parse : String → String → Option Syntax.Tree} {stack : Signals.CallStack}
    (builtIn : p.meter = { parse, stack }) (fallback : p.panel.allowFallback = true)
    (short : text.utf8ByteSize ≤ 2 ^ 490) (world : σ) :
    (∃ result, (p.runContent r name (some text) world).1.outcome = .ok result) ∧
      ∃ result, (p.runFile r look (.ofText name) world).1.outcome = .ok result := by
  have exists_run {size : Json} (written : IsSizeOf text size) (name : String) :
      ∃ result, ((p.deeper 1).run r (.ofText p.meter.languages name text size) world).1.outcome =
        .ok result := by
    have deeper : (p.deeper 1).meter = { parse, stack := stack.enter 1 } :=
      congrArg (Meter.deeper · 1) builtIn
    have up : (byteLength text).UpTo 490 := upTo_byteLength (by omega) short
    refine exists_result deeper fallback h.hour_eq ?_ (Binary64.UpTo.max up.rank_le) ?_ world
    · rw [SourceUnit.byteCount, SourceUnit.ofText, written.toNumber h.sized]
      rfl
    · intro other member
      rwa [← Option.some.inj member]
  rw [runContent_eq_run, outcome_runFile h.file_eq]
  exact ⟨exists_run (.inr rfl) _, exists_run (.inl rfl) _⟩

end Pipeline.OneText

def loopText : String := "for π in x: f(π)\n"

def loopTree : FileTree where
  files := [(["d", "é.py"], [0x66, 0x6F, 0x72, 0x20, 0xCF, 0x80, 0x20, 0x69, 0x6E, 0x20, 0x78, 0x3A, 0x20,
    0x66, 0x28, 0xCF, 0x80, 0x29, 0x0A])]

def loopTextFigures : Metrics := ⟨0.0, 0.0, 368, 2, 1.15, 1.0, false, "py"⟩

theorem oneText_loopText :
    ({} : Pipeline Unit).OneText { clock := 12 } {} 12 loopTree.look "./d//é.py" loopText where
  hour_eq := rfl
  meter_eq := rfl
  region_eq := rfl
  hardware_eq := rfl
  named := by decide +kernel
  file_eq := by
    have path : Path.ofText "./d//é.py" = ⟨"", ["d", "é.py"]⟩ := by decide +kernel
    have bytes : some (Text.Utf8.encode loopText) = loopTree.file? ["d", "é.py"] := by decide +kernel
    rw [path, Option.some.inj bytes]
    rfl
  sized := by decide +kernel
  request_alike := by decide +kernel
  flush_alike := by decide +kernel

end Footprint
