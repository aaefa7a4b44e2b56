import Footprint.Meter

/-! Measuring several files at a time. Workers take the files in order, whichever of those at work
completes first is collected first, and the measurements end up in the order of the files. -/
namespace Footprint.Batch

def workerCount (limit : Int) (tasks : Nat) : Nat := (max 1 (min limit tasks)).toNat

/-- The order in which tasks complete. Each choice says which of the tasks at work completes next;
where choices run out it is the one taken first. -/
def completions : (tasks : Nat) → (choices atWork waiting : List Nat) → List Nat
  | 0, _, _, _ => []
  | tasks + 1, choices, atWork, waiting =>
    let choice := choices.headD 0 % atWork.length
    match atWork[choice]? with
    | none => []
    | some task =>
      task ::
        completions tasks choices.tail (atWork.eraseIdx choice ++ waiting.take 1) (waiting.drop 1)

def completionOrder (limit : Int) (choices : List Nat) (tasks : Nat) : List Nat :=
  let workers := workerCount limit tasks
  completions tasks choices ((List.range tasks).take workers) ((List.range tasks).drop workers)

/-- Puts outcomes into their slots as they complete; the first failure ends it. -/
def fill {α : Type} (slots : List (Option α)) : List (Nat × Outcome α) → Outcome (List (Option α))
  | [] => .ok slots
  | (slot, outcome) :: rest => do
    let a ← outcome
    fill (slots.set slot (some a)) rest

/-- The conditions with the hour read once, so that all files share it. -/
def atOneHour (clock : Int) (c : Conditions) : Conditions :=
  if c.hour.isNull then { c with hour := .int clock } else c

/-- The measurements of files that complete in an order. All of them run, also when one fails, and each is
measured by a worker. -/
def measureInOrder (meter : Meter) (clock : Int) (c : Conditions) (units : List SourceUnit)
    (order : List Nat) : Recorded (List Measurement) :=
  let completed := order.filterMap fun i =>
    units[i]?.map fun u => (i, meter.inWorker.measure clock (atOneHour clock c) u)
  let slots := fill (List.replicate units.length none)
    (completed.map fun task => (task.1, task.2.outcome))
  ⟨completed.flatMap fun task => task.2.events, slots.map (·.filterMap id)⟩

def measureMany (meter : Meter) (clock : Int) (c : Conditions) (units : List SourceUnit)
    (limit : Int) (choices : List Nat) : Recorded (List Measurement) :=
  measureInOrder meter clock c units (completionOrder limit choices units.length)

example : completionOrder 0 [] 3 = [0, 1, 2] ∧ completionOrder 2 [1, 1, 0] 4 = [1, 2, 0, 3] := by decide

end Footprint.Batch
