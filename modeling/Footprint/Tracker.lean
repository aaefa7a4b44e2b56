import Footprint.Gate
import Footprint.Keyed
import Footprint.Meter
import Footprint.StatusBar

/-! Tracking the buffers of an editor: each change starts a generation and waits for a quiet period, and
a computation that a later change has overtaken is dropped. Every operation is a row of steps that
happen at once; between them, others may run. -/
namespace Footprint

structure Change where
  generation : Nat
  name : String
  content : String

structure Tracker where
  meter : Meter := {}
  region : Json := .null
  hardware : Json := .null
  /-- Whether changes wait for a quiet period. -/
  debounced : Bool := true
  gate : Gate := .empty
  pending : Keyed Change := []
  /-- The keys whose quiet period has not passed. -/
  timers : List Key := []
  latest : Keyed StatusBar := []
  /-- What was shown, in order. -/
  updates : List (Key × StatusBar) := []

inductive Computation where
  | taken (generation : Int) (name content : String)
  | current (generation : Int) (name content : String)
  | computed (generation : Int) (m : Metrics)
  | accepted (m : Metrics)
  | finished (shown : Option StatusBar)
  | failed (cause : Failure)

def Computation.stepsLeft : Computation → Nat
  | .taken .. => 4
  | .current .. => 3
  | .computed .. => 2
  | .accepted .. => 1
  | .finished .. => 0
  | .failed .. => 0

namespace Tracker

def record (t : Tracker) (key : Key) (name content : String) : Nat × Tracker :=
  let (generation, gate) := t.gate.begin key
  let timers := t.timers.erase key
  (generation,
    { t with
      gate
      pending := t.pending.insert key ⟨generation, name, content⟩
      timers := if t.debounced then timers ++ [key] else timers })

def take (t : Tracker) (key : Key) : Option Change × Tracker :=
  (t.pending.get? key,
    { t with pending := t.pending.erase key, timers := t.timers.erase key })

def conditions (t : Tracker) : Conditions := { region := t.region, hardware := t.hardware }

/-- The calls within which a change is computed: of a flush and the computation, and around these of the
change itself when it is computed at once. -/
def callsToCompute (t : Tracker) : Nat := if t.debounced then 2 else 3

def compute (t : Tracker) (clock : Int) (name content : String) : Outcome Metrics :=
  ((t.meter.deeper t.callsToCompute).compute clock t.conditions (.float (byteLength content)) name
    (some content)).outcome

def publish (t : Tracker) (key : Key) (m : Metrics) : Tracker :=
  { t with
    latest := t.latest.insert key (.ofMetrics m)
    updates := t.updates ++ [(key, .ofMetrics m)] }

/-- The next step of a computation, and what it records of stale results. -/
def advance (t : Tracker) (clock : Int) (key : Key) :
    Computation → Computation × Tracker × List Event
  | .taken generation name content =>
    if t.gate.isCurrent key generation then (.current generation name content, t, [])
    else (.finished none, t, [])
  | .current generation name content =>
    match t.compute clock name content with
    | .ok m => (.computed generation m, t, [])
    | .error cause => (.failed cause, t, [])
  | .computed generation m =>
    match t.gate.accept key generation with
    | (true, events) => (.accepted m, t, events)
    | (false, events) => (.finished none, t, events)
  | .accepted m => (.finished (some (.ofMetrics m)), t.publish key m, [])
  | .finished shown => (.finished shown, t, [])
  | .failed cause => (.failed cause, t, [])

theorem stepsLeft_advance (t : Tracker) (clock : Int) (key : Key) (c : Computation) :
    (t.advance clock key c).1.stepsLeft ≤ c.stepsLeft - 1 := by
  cases c <;> unfold advance <;> dsimp only <;> (try split) <;> simp [Computation.stepsLeft]

def advances (clock : Int) (key : Key) :
    Nat → Computation × Tracker × List Event → Computation × Tracker × List Event
  | 0, state => state
  | steps + 1, (computation, t, events) =>
    let (computation, t, more) := t.advance clock key computation
    advances clock key steps (computation, t, events ++ more)

theorem stepsLeft_advances (clock : Int) (key : Key) (steps : Nat)
    (state : Computation × Tracker × List Event) :
    (advances clock key steps state).1.stepsLeft ≤ state.1.stepsLeft - steps := by
  induction steps generalizing state with
  | zero => exact Nat.le_refl _
  | succ steps ih =>
    obtain ⟨c, t, events⟩ := state
    have first := stepsLeft_advance t clock key c
    have rest := ih ((t.advance clock key c).1, (t.advance clock key c).2.1,
      events ++ (t.advance clock key c).2.2)
    exact Nat.le_trans rest (by dsimp only; omega)

/-- A computation has come to its end after this many steps. -/
def stepCount : Nat := 4

/-- Computes the figures of a generation and shows them, unless it has been overtaken. -/
def finish (t : Tracker) (clock : Int) (key : Key) (generation : Int) (name content : String) :
    Computation × Tracker × List Event :=
  advances clock key stepCount (.taken generation name content, t, [])

def flush (t : Tracker) (clock : Int) (key : Key) : Computation × Tracker × List Event :=
  match t.take key with
  | (none, t) => (.finished none, t, [])
  | (some change, t) => t.finish clock key change.generation change.name change.content

/-- A change of a buffer: without a quiet period it is computed at once. -/
def change (t : Tracker) (clock : Int) (key : Key) (name content : String) :
    Nat × Tracker × List Event :=
  let (generation, t) := t.record key name content
  if t.debounced then (generation, t, [])
  else
    let (_, t, events) := t.flush clock key
    (generation, t, events)

def close (t : Tracker) : Tracker := { t with pending := [], timers := [] }

end Tracker
end Footprint
