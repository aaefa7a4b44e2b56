/-! Steps of a parse. A step goes on from a state or refuses; where it refuses nothing is taken. -/
namespace Footprint.Syntax

abbrev Step (σ : Type) := σ → Option σ

namespace Step

variable {σ : Type}

def accept : Step σ := some

def refuse : Step σ := fun _ => none

def branch (test : σ → Bool) (yes no : Step σ) : Step σ := fun s => if test s then yes s else no s

def whenever (test : σ → Bool) (step : Step σ) : Step σ := branch test step accept

def either (first second : Step σ) : Step σ := fun s => (first s).or (second s)

def optionally (step : Step σ) : Step σ := fun s => some ((step s).getD s)

def untilLoop (stop : σ → Bool) (step : Step σ) : Nat → Step σ
  | 0, s => if stop s then some s else none
  | n + 1, s =>
    if stop s then some s
    else
      match step s with
      | some s' => untilLoop stop step n s'
      | none => none

end Step
end Footprint.Syntax
