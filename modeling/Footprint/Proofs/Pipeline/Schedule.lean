import Footprint.Pipeline
import Mathlib.Data.List.Induction
import Mathlib.Logic.Function.Basic

/-! Any number of requests over several files on one pipeline. Their steps come in any order, and between
them generations of any keys may begin for other reasons. -/
namespace Footprint

def Progress.generation? : Progress → Option Nat
  | .begun generation => some generation
  | .measured generation _ => some generation
  | .confirmed generation _ => some generation
  | .combined generation _ _ => some generation
  | .reviewed generation _ => some generation
  | .received | .finished _ | .failed _ => none

def Progress.begins? (r : BatchRequest) : Progress → Option Key
  | .received => if r.units.isEmpty then none else some r.key
  | _ => none

theorem Progress.begins?_eq_none {progress : Progress} (h : progress.generation?.isSome = true)
    (r : BatchRequest) : progress.begins? r = none := by
  cases progress <;> first | rfl | cases h

theorem Progress.eq_of_begins? {r : BatchRequest} {progress : Progress}
    (h : (progress.begins? r).isSome = true) :
    progress = .received ∧ progress.begins? r = some r.key := by
  cases progress with
  | received =>
    rw [begins?] at h ⊢
    by_cases empty : r.units.isEmpty = true
    · rw [if_pos empty] at h
      cases h
    · exact ⟨rfl, if_neg empty⟩
  | _ => cases h

def Gate.beginAny (gate : Gate) : Option Key → Gate
  | none => gate
  | some key => (gate.begin key).2

theorem Gate.newest_beginAny (gate : Gate) (begun : Option Key) (key : Key) :
    (gate.beginAny begun).newest key = gate.newest key + if begun = some key then 1 else 0 := by
  cases begun with
  | none => simp [beginAny]
  | some other =>
    by_cases same : key = other
    · simp [beginAny, newest_begin, same]
    · simp [beginAny, newest_begin, same, Ne.symm same]

theorem Pipeline.gate_advance {σ : Type} (p : Pipeline σ) (r : BatchRequest) (shared : Shared σ)
    (progress : Progress) :
    (p.advance r shared progress).2.1.gate = shared.gate.beginAny (progress.begins? r) := by
  cases progress <;> unfold advance <;> dsimp only <;> (try split) <;>
    simp_all [Progress.begins?, Gate.beginAny]

/-- What happens next: a request takes its next step, or a generation begins for another reason. -/
inductive Action (ι : Type) where
  | advance (i : ι)
  | begin (key : Key)
  deriving DecidableEq

structure System (σ ι : Type) where
  shared : Shared σ
  progress : ι → Progress
  events : ι → List Event

namespace System

variable {σ ι : Type} [DecidableEq ι] (p : Pipeline σ) (requests : ι → BatchRequest)

def start (gate : Gate) (world : σ) : System σ ι where
  shared := { gate, world }
  progress _ := .received
  events _ := []

def step (s : System σ ι) : Action ι → System σ ι
  | .advance i =>
    let (progress, shared, events) := p.advance (requests i) s.shared (s.progress i)
    { shared
      progress := Function.update s.progress i progress
      events := Function.update s.events i (s.events i ++ events) }
  | .begin key => { s with shared := { s.shared with gate := (s.shared.gate.begin key).2 } }

def run (s : System σ ι) (schedule : List (Action ι)) : System σ ι :=
  schedule.foldl (step p requests) s

def trace (s : System σ ι) : List (Action ι) → List (System σ ι × Action ι)
  | [] => []
  | a :: rest => (s, a) :: trace (s.step p requests a) rest

def begins? (s : System σ ι) : Action ι → Option Key
  | .advance i => (s.progress i).begins? (requests i)
  | .begin key => some key

variable {p requests}

theorem run_append (s : System σ ι) (first second : List (Action ι)) :
    s.run p requests (first ++ second) = (s.run p requests first).run p requests second :=
  List.foldl_append

theorem run_concat (s : System σ ι) (schedule : List (Action ι)) (a : Action ι) :
    s.run p requests (schedule ++ [a]) = (s.run p requests schedule).step p requests a := by
  rw [run_append]
  rfl

theorem trace_append (s : System σ ι) (first second : List (Action ι)) :
    s.trace p requests (first ++ second) =
      s.trace p requests first ++ (s.run p requests first).trace p requests second := by
  induction first generalizing s with
  | nil => rfl
  | cons a rest ih =>
    change (s, a) :: trace p requests (s.step p requests a) (rest ++ second) = _
    rw [ih]
    rfl

theorem trace_concat (s : System σ ι) (schedule : List (Action ι)) (a : Action ι) :
    s.trace p requests (schedule ++ [a]) =
      s.trace p requests schedule ++ [(s.run p requests schedule, a)] := trace_append s schedule [a]

theorem gate_step (s : System σ ι) (a : Action ι) :
    (s.step p requests a).shared.gate = s.shared.gate.beginAny (s.begins? requests a) := by
  cases a with
  | advance i => exact p.gate_advance (requests i) s.shared (s.progress i)
  | begin key => rfl

theorem progress_step_self (s : System σ ι) (i : ι) :
    (s.step p requests (.advance i)).progress i =
      (p.advance (requests i) s.shared (s.progress i)).1 := Function.update_self i _ _

theorem events_step_self (s : System σ ι) (i : ι) :
    (s.step p requests (.advance i)).events i =
      s.events i ++ (p.advance (requests i) s.shared (s.progress i)).2.2 :=
  Function.update_self i _ _

theorem progress_step_of_ne (s : System σ ι) {i : ι} {a : Action ι} (ne : a ≠ .advance i) :
    (s.step p requests a).progress i = s.progress i := by
  cases a with
  | advance j =>
    have other : i ≠ j := by
      rintro rfl
      exact ne rfl
    exact Function.update_of_ne other _ _
  | begin key => rfl

theorem events_step_of_ne (s : System σ ι) {i : ι} {a : Action ι} (ne : a ≠ .advance i) :
    (s.step p requests a).events i = s.events i := by
  cases a with
  | advance j =>
    have other : i ≠ j := by
      rintro rfl
      exact ne rfl
    exact Function.update_of_ne other _ _
  | begin key => rfl

end System
end Footprint
