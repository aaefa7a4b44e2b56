import Footprint.Event
import Footprint.Failure

/-! Computations that keep records: an outcome together with the events on the way to it. A failure
keeps the events before it. -/
namespace Footprint

structure Recorded (α : Type) where
  events : List Event
  outcome : Outcome α

namespace Recorded

variable {α β : Type}

def bind (x : Recorded α) (f : α → Recorded β) : Recorded β :=
  match x.outcome with
  | .ok a => ⟨x.events ++ (f a).events, (f a).outcome⟩
  | .error cause => ⟨x.events, .error cause⟩

instance : Monad Recorded where
  pure a := ⟨[], .ok a⟩
  bind := bind

def record (events : List Event) : Recorded Unit := ⟨events, .ok ()⟩

def ofOutcome (outcome : Outcome α) : Recorded α := ⟨[], outcome⟩

instance : MonadLift Outcome Recorded := ⟨ofOutcome⟩

instance : MonadLift (Except ArithmeticError) Recorded :=
  ⟨fun x => ofOutcome (Outcome.ofArithmetic x)⟩

theorem pure_def (a : α) : (pure a : Recorded α) = ⟨[], .ok a⟩ := rfl

theorem bind_ok (events : List Event) (a : α) (f : α → Recorded β) :
    (Recorded.mk events (.ok a) >>= f) = ⟨events ++ (f a).events, (f a).outcome⟩ := rfl

theorem bind_error (events : List Event) (cause : Failure) (f : α → Recorded β) :
    (Recorded.mk events (.error cause) >>= f) = ⟨events, .error cause⟩ := rfl

end Recorded
end Footprint
