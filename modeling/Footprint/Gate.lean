import Footprint.Event

/-! Generations: computations for one key are numbered as they begin, and a result counts only while no
later computation for its key has begun. -/
namespace Footprint

structure Gate where
  /-- The newest generation of each key, zero before the first. -/
  newest : Key → Nat

namespace Gate

def empty : Gate := ⟨fun _ => 0⟩

def begin (g : Gate) (key : Key) : Nat × Gate :=
  let generation := g.newest key + 1
  (generation, ⟨fun k => if k = key then generation else g.newest k⟩)

def isCurrent (g : Gate) (key : Key) (generation : Int) : Bool := (g.newest key : Int) == generation

def accept (g : Gate) (key : Key) (generation : Int) : Bool × List Event :=
  if g.isCurrent key generation then (true, []) else (false, [.staleResult key generation])

theorem begin_fst (g : Gate) (key : Key) : (g.begin key).1 = g.newest key + 1 := rfl

theorem newest_begin (g : Gate) (key other : Key) :
    (g.begin key).2.newest other = if other = key then g.newest key + 1 else g.newest other := rfl

theorem accept_fst (g : Gate) (key : Key) (generation : Int) :
    (g.accept key generation).1 = g.isCurrent key generation := by
  unfold accept
  split <;> simp_all

end Gate
end Footprint
