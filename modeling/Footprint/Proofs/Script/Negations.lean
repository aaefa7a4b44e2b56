import Footprint.Proofs.Signals.Depth
import Footprint.Proofs.Syntax.Walk
import Footprint.Script.Parse

/-! A chain of negations is read as it is written, under a comment and in any dialect. Behind its last token
the text has ended, so that every production that looks for an operator there stops. -/
namespace Footprint.Script

open Syntax Step
open Syntax.Tree (negations negationProgram negationText)

def negationMarks (n : Nat) : List Char := List.replicate n '!' ++ ['0']

theorem toList_negationText (n : Nat) :
    (negationText n).toList = "// for while do\n".toList ++ negationMarks n := by
  have whole (comment number : String) (marks : List Char) :
      (comment ++ String.ofList marks ++ number).toList = comment.toList ++ (marks ++ number.toList) := by simp
  have number : "0".toList = ['0'] := by decide +kernel
  exact (whole _ _ _).trans (by rw [number, negationMarks])

/-! ### The tokens of a chain -/

def leading (n : Nat) (afterLineEnd : Bool) : Token :=
  match n with
  | 0 => ⟨.number, "0", negationMarks 0, [], afterLineEnd⟩
  | n + 1 => ⟨.mark, "!", negationMarks (n + 1), negationMarks n, afterLineEnd⟩

theorem tokenAt_negationMarks (n : Nat) (afterLineEnd : Bool) :
    tokenAt (negationMarks n) afterLineEnd = leading n afterLineEnd := by
  cases n with
  | zero => rfl
  | succ n =>
    -- The mark for inequality is longer, so that it takes two characters to tell.
    cases n <;> rfl

theorem skipGaps_negationMarks (markup lineEnd : Bool) (n : Nat) :
    skipGaps markup .between lineEnd (negationMarks n) = some (lineEnd, negationMarks n) := by
  cases n <;> rfl

theorem skipGaps_comment (markup : Bool) (rest : List Char) :
    skipGaps markup .between true ("// for while do\n".toList ++ rest) =
      skipGaps markup .between true rest := by
  have comment : "// for while do\n".toList =
      ['/', '/', ' ', 'f', 'o', 'r', ' ', 'w', 'h', 'i', 'l', 'e', ' ', 'd', 'o', '\n'] := by decide +kernel
  rw [comment]
  rfl

theorem nextToken_negationMarks (markup lineEnd : Bool) (n : Nat) :
    nextToken markup lineEnd (negationMarks n) = leading n lineEnd := by
  rw [nextToken, skipGaps_negationMarks]
  exact tokenAt_negationMarks n lineEnd

theorem nextToken_negationText (markup : Bool) (n : Nat) :
    nextToken markup true (withoutRunLine (negationText n).toList) = leading n true := by
  have line : withoutRunLine (negationText n).toList = (negationText n).toList := by
    rw [toList_negationText]
    rfl
  rw [line, toList_negationText, nextToken, skipGaps_comment, skipGaps_negationMarks]
  exact tokenAt_negationMarks n true

/-! ### Behind the last token -/

section

variable {t : State} (ended : t.atEnd = true)
include ended

theorem kind_of_ended : t.token.kind = .ending := by simpa [State.atEnd] using ended

theorem isMark_of_ended (m : String) : t.isMark m = false := by
  rw [State.isMark, kind_of_ended ended]
  rfl

theorem isWord_of_ended (w : String) : t.isWord w = false := by
  rw [State.isWord, kind_of_ended ended]
  rfl

theorem isAnyMark_of_ended (ms : List String) : t.isAnyMark ms = false := by
  rw [State.isAnyMark, kind_of_ended ended]
  rfl

theorem chainLoop_of_ended (g : Pursuit) (calls : Bool) (start n : Nat) :
    chainLoop g calls start n t = some t := by
  cases n with
  | zero => rfl
  | succ n =>
    have unlinked : t.atLink calls = false := by
      simp [State.atLink, isMark_of_ended ended, kind_of_ended ended]
    simp [chainLoop, unlinked, isMark_of_ended ended]

theorem operandLoop_of_ended (g : Pursuit) (level start n : Nat) :
    operandLoop g level start n t = some t := by
  cases n with
  | zero => rfl
  | succ n =>
    have unclaimed : t.atTypeClaim = false := by simp [State.atTypeClaim, isWord_of_ended ended]
    have none : t.operatorLevel? = none := by rw [State.operatorLevel?, kind_of_ended ended]
    simp [operandLoop, unclaimed, none]

theorem plainAssignment_of_ended {g : Pursuit} {s : State} {left : Tree} (read : unary g s = some t)
    (top : t.top? = some left) : plainAssignment g s = some t := by
  have single : conditional g s = some t := by
    simp [conditional, operand, read, operandLoop_of_ended ended, isMark_of_ended ended]
  rw [plainAssignment, single]
  dsimp only
  rw [top]
  simp [isMark_of_ended ended, isAnyMark_of_ended ended]

end

/-- The state behind the last token of a text, with one more tree on the pile. -/
def State.behind (s : State) (t : Tree) : State := (s.put t).relex []

theorem atEnd_behind (s : State) (t : Tree) : (s.behind t).atEnd = true := rfl

theorem gather_one (s : State) (kind : Kind) (t : Tree) :
    (s.behind t).gather s.height kind = s.behind (.node kind [(none, t)]) := by
  have one : s.height + 1 - s.height = 1 := by omega
  simp [State.gather, State.replace, State.above, State.behind, State.put, State.relex, one, State.split]

theorem gather_two (s : State) (kind : Kind) (first second : Tree) :
    ((s.put first).behind second).gather s.height kind =
      s.behind (.node kind [(none, first), (none, second)]) := by
  have two : s.height + 1 + 1 - s.height = 2 := by omega
  simp [State.gather, State.replace, State.above, State.behind, State.put, State.relex, two, State.split]

/-! ### Productions at the front of a chain -/

section

variable {s : State} {n : Nat} {afterLineEnd : Bool} (front : s.token = leading n afterLineEnd)
include front

theorem isWord_of_front (w : String) : s.isWord w = false := by
  cases n <;> simp [State.isWord, front, leading]

theorem isMark_of_front {m : String} (other : "!" ≠ m) : s.isMark m = false := by
  cases n <;> simp [State.isMark, front, leading, other]

theorem kind_of_front : s.token.kind ≠ .word ∧ s.token.kind ≠ .ending := by
  cases n <;> simp [front, leading]

end

variable {s : State} {n : Nat} {afterLineEnd : Bool}

theorem unary_number (front : s.token = leading 0 afterLineEnd) (g : Pursuit) :
    unary g s = some (s.behind (negations 0)) := by
  have ended := atEnd_behind s (negations 0)
  have noWord := isWord_of_front front
  have noMark (m : String) : s.isMark m = false := by simp [State.isMark, front, leading]
  have noMarks (ms : List String) : s.isAnyMark ms = false := by simp [State.isAnyMark, front, leading]
  have taken : primary g s = some (s.behind (negations 0)) := by
    simp only [primary, Step.leaf, State.take, front]
    rfl
  have operand : postfixStep g s = some (s.behind (negations 0)) := by
    simp [postfixStep, leftSide, chain, branch, noWord, taken, chainLoop_of_ended ended,
      isMark_of_ended ended]
  simp [unary, noWord, noMark, noMarks, operand, (kind_of_front front).1]

/-- By induction on the negations, each of which pursues its operand with a supply of one less. -/
theorem pursue_unary (front : s.token = leading n afterLineEnd) (k : Nat) :
    pursue (k + n + 1) .unary s = some (s.behind (negations n)) := by
  induction n generalizing s afterLineEnd with
  | zero => exact unary_number front _
  | succ n ih =>
    have operator : s.isAnyMark unaryMarks = true := by
      simp [State.isAnyMark, front, leading, unaryMarks]
    have mark : s.take .token false = (s.put (.leaf .token false "!")).relex (negationMarks n) := by
      rw [State.take, front]
      rfl
    have operand : pursue (k + n + 1) .unary (s.take .token false) =
        some ((s.put (.leaf .token false "!")).behind (negations n)) := by
      rw [mark]
      exact ih (nextToken_negationMarks ..)
    have step : unary (pursue (k + n + 1)) s =
        (pursue (k + n + 1) .unary (s.take .token false)).map (·.gather s.height .unary) := by
      rw [unary, operator]
      rfl
    refine step.trans ?_
    rw [operand]
    exact congrArg some (gather_two ..)

theorem assignment_negations (front : s.token = leading n afterLineEnd) (k : Nat) :
    assignment (pursue (k + n)) s = some (s.behind (negations n)) := by
  have noWord := isWord_of_front front
  have untyped : s.mayBeTypedArrow = false := by
    simp [State.mayBeTypedArrow, noWord, isMark_of_front front]
  have plain : plainAssignment (pursue (k + n)) s = some (s.behind (negations n)) :=
    plainAssignment_of_ended (atEnd_behind ..) (pursue_unary front k) rfl
  simp [assignment, noWord, untyped, plain]

theorem pursue_statement (front : s.token = leading n afterLineEnd) (k : Nat) :
    pursue (k + n + 3) .statement s =
      some (s.behind (.node .expressionStatement [(none, negations n)])) := by
  have ended := atEnd_behind s (negations n)
  have value : expression (pursue (k + n + 1)) s = some (s.behind (negations n)) := by
    have assigned : pursue (k + n + 1) .assignment s = some (s.behind (negations n)) :=
      assignment_negations front k
    simp [expression, assigned, isMark_of_ended ended]
  have whole : (pursue (k + n + 2) .expression >=> semicolon) s = some (s.behind (negations n)) := by
    refine (congrArg (fun read => Option.bind read semicolon) value).trans ?_
    simp [semicolon, isMark_of_ended ended, ended]
  have pursued : pursue (k + n + 3) .statement s = statement (pursue (k + n + 2)) s := rfl
  have step : statement (pursue (k + n + 2)) s = expressionStatement (pursue (k + n + 2)) s := by
    simp [statement, (kind_of_front front).1, isMark_of_front front]
  rw [pursued, step, expressionStatement, node, whole]
  exact congrArg some (gather_one ..)

theorem program_negations (front : s.token = leading n afterLineEnd) (more : s.bound ≠ 0) (k : Nat) :
    program (k + n + 3) s = some (s.behind (negationProgram n)) := by
  let statement : Tree := .node .expressionStatement [(none, negations n)]
  obtain ⟨b, bound⟩ := Nat.exists_eq_succ_of_ne_zero more
  have begins : s.atEnd = false := by simpa [State.atEnd] using (kind_of_front front).2
  have stops : untilLoop (·.atEnd) (pursue (k + n + 3) .statement) b (s.behind statement) =
      some (s.behind statement) := by
    cases b <;> simp [untilLoop, atEnd_behind]
  have statements : repeatUntil (·.atEnd) (pursue (k + n + 3) .statement) s =
      some (s.behind statement) := by
    rw [repeatUntil, bound, untilLoop, begins, pursue_statement front]
    exact stops
  rw [program, node, statements]
  exact congrArg some (gather_one ..)

/-! ### The text as a whole -/

theorem isStrayPattern_negationProgram (n : Nat) :
    (negationProgram n).walk.any isStrayPattern = false := by
  have plain : ∀ t ∈ (negations n).preorder, isStrayPattern t = false := by
    induction n with
    | zero => simp [negations, Tree.preorder, isStrayPattern, Tree.kind]
    | succ n ih => simpa [negations, Tree.preorder, Tree.preorderAll, isStrayPattern, Tree.kind] using ih
  rw [Tree.walk_eq_preorder]
  simpa [negationProgram, Tree.preorder, Tree.preorderAll, isStrayPattern, Tree.kind] using plain

theorem parse?_negationText (dialect : Dialect) (n : Nat) :
    parse? dialect (negationText n) = some (negationProgram n) := by
  let start : State :=
    { dialect, limits := ⟨false, false⟩, token := leading n true, pile := [], height := 0
      bound := n + 18 }
  have length : (negationText n).toList.length + 1 = n + 18 := by
    have comment : "// for while do\n".toList.length = 16 := by decide +kernel
    rw [toList_negationText, List.length_append, comment, negationMarks, List.length_append,
      List.length_replicate, List.length_singleton]
    omega
  have whole : program (16 * (n + 18) + 16) start = some (start.behind (negationProgram n)) := by
    have supply : 16 * (n + 18) + 16 = 15 * n + 301 + n + 3 := by omega
    rw [supply]
    exact program_negations rfl (Nat.succ_ne_zero _) _
  have top : (start.behind (negationProgram n)).top? = some (negationProgram n) := rfl
  simp only [parse?, length, nextToken_negationText, start] at whole top ⊢
  rw [whole]
  simp [top, isStrayPattern_negationProgram]

end Footprint.Script
