import Footprint.Script.Type

/-! Patterns that bind names: in declarations, parameters and handlers. -/
namespace Footprint.Script

open Syntax Step

def withDefault (g : Pursuit) (target : Step) : Step := fun s =>
  (target >=> fun t =>
    if t.isMark "=" then
      ((skip >=> g .assignment) t).map (·.gather s.height .assignmentPattern)
    else some t) s

def restElement (g : Pursuit) : Step := node .restPattern (mark "..." >=> g .bindingTarget)

def arrayPattern (g : Pursuit) : Step :=
  node .arrayPattern
    (mark "[" >=>
      free (repeatUntil (·.isMark "]")
        (branch (·.isMark ",") skip
          (branch (·.isMark "...") (restElement g) (withDefault g (g .bindingTarget)) >=>
            branch (·.isMark "]") accept (mark ",")))) >=>
      mark "]")

def memberPattern (g : Pursuit) : Step := fun s =>
  if s.isMark "..." then restElement g s
  else if s.isName && !s.peek.isMark ":" then withDefault g name s
  else node .pair (key g >=> mark ":" >=> as .value (withDefault g (g .bindingTarget))) s

def objectPattern (g : Pursuit) : Step :=
  node .objectPattern (mark "\x7b" >=> free (commaList "\x7d" (memberPattern g)) >=> mark "\x7d")

def bindingTarget (g : Pursuit) : Step := fun s =>
  if s.isMark "[" then arrayPattern g s
  else if s.isMark "\x7b" then objectPattern g s
  else name s

end Footprint.Script
