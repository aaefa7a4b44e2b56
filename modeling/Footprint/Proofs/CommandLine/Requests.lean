import Footprint.CommandLine
import Footprint.Proofs.Pipeline.Worlds

/-! What a chat service gets to see of the text that a command line analyses: its front, as long as the
limit for all panels allows. The limit among the settings has no part in it. -/
namespace Footprint

variable {σ : Type}

namespace Chat

def noting (service : Service σ) : Service (σ × List Request) := fun request world =>
  ((service request world.1).1, (service request world.1).2, world.2 ++ [request])

def Noted (kind : Request → Prop) (world : σ) (noted : σ × List Request) : Prop :=
  noted.1 = world ∧ ∀ request ∈ noted.2, kind request

def Shows (models : List String) (source : String) (request : Request) : Prop :=
  request.model ∈ models ∧ request.user = userPrompt source

def ShowsFront (content : String) (limit : Int) (request : Request) : Prop :=
  ∃ source, request.user = userPrompt source ∧ source.toList <+: content.toList ∧
    (source.toList.length : Int) ≤ limit

theorem userPrompt_inj {a b : String} : userPrompt a = userPrompt b ↔ a = b := by
  unfold userPrompt
  rw [← String.toList_inj, String.toList_append, String.toList_append, List.append_cancel_left_eq,
    String.toList_inj]

theorem showsFront_iff {models : List String} {source content : String} {request : Request}
    (shown : Shows models source request) (front : source.toList <+: content.toList) (limit : Int) :
    ShowsFront content limit request ↔ (source.toList.length : Int) ≤ limit := by
  constructor
  · rintro ⟨other, user, -, short⟩
    rwa [userPrompt_inj.mp (shown.2.symm.trans user)]
  · exact fun short => ⟨source, shown.2, front, short⟩

theorem agreeOn_reviewer (service : Service σ) (source : String) {models : List String} {model : String}
    (listed : model ∈ models) :
    Reviewer.AgreeOn (Noted (Shows models source)) source (reviewer service model)
      (reviewer (noting service) model) where
  name := rfl
  ask m w v related := by
    obtain ⟨rfl, shown⟩ := related
    refine ⟨rfl, rfl, fun request taken => ?_⟩
    obtain earlier | same := List.mem_append.mp taken
    · exact shown request earlier
    · obtain rfl := List.mem_singleton.mp same
      exact ⟨listed, rfl⟩

theorem forall₂_reviewers (service : Service σ) (source : String) (s : Settings) :
    List.Forall₂ (Reviewer.AgreeOn (Noted (Shows s.models source)) source) (reviewers service s)
      (reviewers (noting service) s) := by
  unfold reviewers
  split
  · rw [List.forall₂_map_left_iff, List.forall₂_map_right_iff, List.forall₂_same]
    exact fun model listed => agreeOn_reviewer service source listed
  · exact .nil

end Chat

theorem Panel.length_truncate (content : Option String) :
    (truncate content characterLimit).toList.length = min (content.getD "").toList.length 10000 := by
  have places : (max 0 (min characterLimit characterLimit)).toNat = 10000 := rfl
  rw [truncate, String.toList_ofList, places, List.length_take, Nat.min_comm]

theorem Panel.truncate_isPrefix (content : Option String) (limit : Int) :
    (truncate content limit).toList <+: (content.getD "").toList := by
  simp [truncate, List.take_prefix]

namespace CommandLine

open Chat

def Subject.content : Subject → Option String
  | .input u => u.content
  | .files _ [u] => u.content
  | .files _ units => some (combinedContent units)

def analysedContent (s : Surroundings) (arguments : List String) : Option String := do
  let o ← (Options.ofArguments s.settings arguments).toOption
  (← (subject .builtIn s o).toOption).content

theorem agreeOn_pipeline (s : Surroundings) (o : Options) (service : Service σ)
    (content : Option String) :
    (pipeline s o service).AgreeOn
      (Noted (Shows s.settings.models (Panel.truncate content characterLimit)))
      content (pipeline s o (noting service)) where
  meter := rfl
  workers := rfl
  panel :=
    { allowFallback := rfl
      maxChars := rfl
      reviewers := by
        unfold pipeline
        dsimp only
        split
        · exact forall₂_reviewers service _ s.settings
        · exact .nil }

theorem agree_analyse {τ : Type} {R : σ → τ → Prop} {p : Pipeline σ} {q : Pipeline τ}
    {subject : Subject} (same : p.AgreeOn R subject.content q) (clock : Int) (o : Options) {w : σ}
    {v : τ} (related : R w v) :
    Agree R (analyse p clock o subject w) (analyse q clock o subject v) := by
  have several : ∀ {units}, p.AgreeOn R (some (combinedContent units)) q →
      Agree (Pipeline.SharedRelated R)
        (p.runMany { conditions := conditions o, clock, units } { world := w })
        (q.runMany { conditions := conditions o, clock, units } { world := v }) :=
    fun same => same.runMany ⟨rfl, related⟩
  have single : ∀ u : SourceUnit, p.AgreeOn R u.content q →
      Agree R (analyse p clock o (.input u) w) (analyse q clock o (.input u) v) := by
    intro u same
    obtain ⟨result, after⟩ := same.run { conditions := conditions o, clock } related
    refine ⟨?_, after⟩
    unfold analyse
    dsimp only
    rw [result]
  match subject with
  | .input u => exact single u same
  | .files _ [u] => exact single u same
  | .files _ [] => exact ⟨(several same).1, (several same).2.2⟩
  | .files _ (_ :: _ :: _) => exact ⟨(several same).1, (several same).2.2⟩

/-- Whatever the arguments, each request shows the front of the content that they ask to analyse. -/
theorem agree_run (s : Surroundings) (service : Service σ) (arguments : List String) (world : σ) :
    Agree (Noted (Shows s.settings.models
        (Panel.truncate (analysedContent s arguments) characterLimit)))
      (run s service arguments world) (run s (noting service) arguments (world, [])) := by
  have start : ∀ {shown}, Noted (Shows s.settings.models shown) world (world, []) := ⟨rfl, by simp⟩
  unfold run
  cases options : Options.ofArguments s.settings arguments with
  | error e => exact ⟨rfl, start⟩
  | ok o =>
    dsimp only
    split
    · exact ⟨rfl, start⟩
    · unfold runOptions
      cases found : subject .builtIn s o with
      | error cause =>
        have same : ∀ {τ : Type} (service : Service τ),
            subject (pipeline s o service).meter.languages s o = .error cause := fun _ => found
        dsimp only
        rw [same, same]
        exact ⟨rfl, start⟩
      | ok what =>
        have same : ∀ {τ : Type} (service : Service τ),
            subject (pipeline s o service).meter.languages s o = .ok what := fun _ => found
        have content : analysedContent s arguments = what.content := by
          rw [analysedContent, options, Except.toOption, Option.bind_eq_bind, Option.bind_some, found]
          rfl
        obtain ⟨result, after⟩ := agree_analyse
          (agreeOn_pipeline s o service what.content) s.clock o start
        dsimp only
        rw [content, same, same]
        dsimp only
        rw [result]
        exact ⟨rfl, after⟩

/-- What a chat service sees of the content that arguments ask to analyse: in each request a front of it,
with ten thousand characters at most. So a limit among the settings is kept exactly by the runs without a
request, and where it lets through as much as those fronts have. -/
theorem run_requests (s : Surroundings) (service : Service σ) (arguments : List String) (world : σ) :
    let content := (analysedContent s arguments).getD ""
    let noted := run s (noting service) arguments (world, [])
    let sent := noted.2.2
    (noted.1, noted.2.1) = run s service arguments world ∧
      (∀ request ∈ sent, request.model ∈ s.settings.models ∧ ShowsFront content characterLimit request) ∧
      ((∀ request ∈ sent, ShowsFront content s.settings.maxChars request) ↔
        sent = [] ∨ min content.toList.length 10000 ≤ s.settings.maxChars) := by
  intro content noted sent
  obtain ⟨ending, after, shown⟩ := agree_run s service arguments world
  have length := Panel.length_truncate (analysedContent s arguments)
  have front := Panel.truncate_isPrefix (analysedContent s arguments) characterLimit
  have kept : ∀ request ∈ sent, ∀ limit : Int, ShowsFront content limit request ↔
      ((min content.toList.length 10000 : Nat) : Int) ≤ limit := by
    intro request taken limit
    rw [showsFront_iff (shown request taken) front limit, length]
  refine ⟨Prod.ext ending.symm after, fun request taken => ⟨(shown request taken).1, ?_⟩, ?_, ?_⟩
  · rw [kept request taken, characterLimit]
    omega
  · intro all
    by_cases none : sent = []
    · exact .inl none
    · obtain ⟨request, taken⟩ := List.exists_mem_of_ne_nil sent none
      exact .inr ((kept request taken _).mp (all request taken))
  · rintro (none | short) request taken
    · simp [none] at taken
    · exact (kept request taken _).mpr short

def fiveCharacters : Surroundings where
  settings := .ofEnvironment fun name =>
    [("OPENROUTER_API_KEY", "key"), ("CO2DE_REVIEW_MODELS", "m1"),
      ("CO2DE_REVIEW_MAX_CHARS", "5")].lookup name
  clock := 12
  look := fun _ => .nothing
  input := "const x = 1;"
  cyclomatic := .ofGrammar

/-- The limit among the settings is exceeded: the whole text is shown. -/
theorem run_exceeds_limit :
    let arguments := ["--review", "--filename", "a.txt", "-"]
    let service : Service Unit := fun _ _ => (.noChoices, ())
    let sent := (run fiveCharacters (noting service) arguments ((), [])).2.2
    fiveCharacters.settings.maxChars = 5 ∧
      analysedContent fiveCharacters arguments = some "const x = 1;" ∧
      ∃ request ∈ sent, ¬ShowsFront "const x = 1;" fiveCharacters.settings.maxChars request := by
  intro arguments service sent
  have limit : fiveCharacters.settings.maxChars = 5 := by decide +kernel
  have content : analysedContent fiveCharacters arguments = some "const x = 1;" := by decide +kernel
  have users : sent.map Chat.Request.user = [userPrompt "const x = 1;"] := by decide +kernel
  obtain ⟨request, taken, user⟩ := List.mem_map.mp (users ▸ List.mem_singleton_self _)
  refine ⟨limit, content, request, taken, ?_⟩
  rintro ⟨source, same, -, short⟩
  obtain rfl := userPrompt_inj.mp (user.symm.trans same)
  rw [limit] at short
  exact absurd short (by decide)

end CommandLine
end Footprint
