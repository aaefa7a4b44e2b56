import Footprint.Binary64.HalfUp
import Footprint.Decimal.Reading

/-! What can go wrong in an estimate, by cause, and what is said about it. -/
namespace Footprint

/-- The fields of a review, in the order in which their problems are listed. -/
inductive ReviewField where
  | score | bottleneck | optimization | improvement
  deriving DecidableEq, Repr

def ReviewField.name : ReviewField → String
  | .score => "score"
  | .bottleneck => "bottleneck"
  | .optimization => "optimization"
  | .improvement => "improvement"

inductive FieldProblem where
  | missing | notInteger | notNumber | belowLeast | aboveGreatest | notPositive | notText | emptyText
  | notList
  deriving DecidableEq, Repr

inductive Failure where
  | arithmetic (cause : ArithmeticError)
  | integerText (cause : Decimal.IntegerTextError)
  /-- A value of a kind that no integer can be read from. -/
  | notIntegral (kind : String)
  /-- A default that its table does not hold. -/
  | missingEntry (key : String)
  | noInput (name : String)
  | emptyAggregate
  | noFiles
  | unknownBranch (name : String)
  | reviewNotObject (kind : String)
  | invalidReview (problems : List (ReviewField × FieldProblem))
  | reviewersExhausted (errors : List String)
  | emptyReply
  | undecodableReply
  | replyTooManyDigits (count : Nat)
  | missingFile (path : String)
  | directoryInstead (path : String)
  /-- A path goes on behind a file. -/
  | notDirectory (path : String)
  | nothingAt (path : String)
  /-- A directory without a file in a known language. -/
  | noSources (path : String)
  /-- Fields of a kind of document whose values are wrong. -/
  | invalidFields (document : String) (problems : List (String × FieldProblem))
  /-- A failure of the system that files are on, by what it says. -/
  | system (message : String)
  /-- A failure within a library. -/
  | foreign (kind message : String)
  deriving DecidableEq, Repr

namespace Failure

def problemCount (count : Nat) (of : String) : String :=
  s!"{count} validation error" ++ (if count = 1 then "" else "s") ++ " for " ++ of

/-- A wording for each problem: that of the library that checks documents is longer, and differs between its
versions. -/
def problemText : FieldProblem → String
  | .missing => "is missing"
  | .notInteger => "is not an integer"
  | .notNumber => "is not a number"
  | .belowLeast => "is too small"
  | .aboveGreatest => "is too large"
  | .notPositive => "is not positive"
  | .notText => "is not a text"
  | .emptyText => "is empty"
  | .notList => "is not a list"

def problemLines (problems : List (String × FieldProblem)) : String :=
  String.join (problems.map fun p => "\n  " ++ p.1 ++ " " ++ problemText p.2)

def message : Failure → String
  | .arithmetic cause => cause.message
  | .integerText cause => cause.message
  | .notIntegral kind =>
    "int() argument must be a string, a bytes-like object or a real number, not '" ++ kind ++ "'"
  | .missingEntry key => Text.quoted key
  | .noInput name => (if name.isEmpty then "<unnamed>" else name) ++ ": no content and no size"
  | .emptyAggregate => "cannot aggregate an empty set of metrics"
  | .noFiles => "no files to analyze"
  | .unknownBranch name => Text.quoted name ++ " is not a valid AnalysisBranch"
  | .reviewNotObject kind => "review must be a JSON object, got " ++ kind
  | .invalidReview problems =>
    "invalid review: " ++ problemCount problems.length "Review" ++
      problemLines (problems.map fun p => (p.1.name, p.2))
  | .reviewersExhausted errors =>
    "All review providers exhausted: " ++
      (if errors.isEmpty then "no review providers configured" else " | ".intercalate errors)
  | .emptyReply => "reviewer returned empty content"
  | .undecodableReply => "failed to parse reviewer response as JSON"
  | .replyTooManyDigits count => Decimal.tooManyDigitsMessage count
  | .missingFile path => "[Errno 2] No such file or directory: " ++ Text.quoted path
  | .directoryInstead path => "[Errno 21] Is a directory: " ++ Text.quoted path
  | .notDirectory path => "[Errno 20] Not a directory: " ++ Text.quoted path
  | .nothingAt path => "path not found: " ++ path
  | .noSources path => "no source files found under " ++ path
  | .invalidFields document problems =>
    problemCount problems.length document ++ problemLines problems
  | .system message | .foreign _ message => message

/-- Failures of the estimate itself and of reading files, which a command line reports instead of passing
on. -/
def isReported : Failure → Bool
  | .noInput _ | .emptyAggregate | .noFiles | .reviewNotObject _ | .invalidReview _
  | .reviewersExhausted _ | .emptyReply | .undecodableReply | .missingFile _ | .directoryInstead _
  | .notDirectory _ | .nothingAt _ | .noSources _ | .system _ => true
  | _ => false

end Failure

abbrev Outcome (α : Type) := Except Failure α

def Outcome.ofArithmetic {α : Type} : Except ArithmeticError α → Outcome α
  | .ok a => .ok a
  | .error cause => .error (.arithmetic cause)

instance : MonadLift (Except ArithmeticError) (Except Failure) := ⟨Outcome.ofArithmetic⟩

def Outcome.ofIntegerText {α : Type} : Except Decimal.IntegerTextError α → Outcome α
  | .ok a => .ok a
  | .error cause => .error (.integerText cause)

instance : MonadLift (Except Decimal.IntegerTextError) (Except Failure) := ⟨Outcome.ofIntegerText⟩

end Footprint
