import Footprint.Text.Quoted

/-! Records of what happens in the course of an analysis, for a log. -/
namespace Footprint

inductive Stage where
  | parsing | scoring | calculating | reviewing | complete
  deriving DecidableEq, Repr

def Stage.name : Stage → String
  | .parsing => "parsing"
  | .scoring => "scoring"
  | .calculating => "calculating"
  | .reviewing => "reviewing"
  | .complete => "complete"

/-- How a content was looked at: through its syntax tree, by keywords alone, or not at all. -/
inductive Branch where
  | syntaxTree | keywords | sizeOnly
  deriving DecidableEq, Repr

def Branch.name : Branch → String
  | .syntaxTree => "ast"
  | .keywords => "regex"
  | .sizeOnly => "none"

def Branch.ofName? (name : String) : Option Branch :=
  [Branch.syntaxTree, .keywords, .sizeOnly].find? fun b => b.name == name

/-- What generations are counted for: a text, a number, or nothing in particular. -/
inductive Key where
  | none
  | text (s : String)
  | number (n : Int)
  deriving DecidableEq, Repr

def Key.quoted : Key → String
  | .none => "None"
  | .text s => Text.quoted s
  | .number n => toString n

/-- The parts of the meter that keep records, by the name they record under. -/
inductive Recorder where
  | program | analyzer | calculator | review | session | pipeline
  deriving DecidableEq, Repr

def Recorder.name : Recorder → String
  | .program => "co2de_meter"
  | .analyzer => "co2de_meter.analyzer"
  | .calculator => "co2de_meter.calculator"
  | .review => "co2de_meter.review"
  | .session => "co2de_meter.session"
  | .pipeline => "co2de_meter.pipeline"

/-- A stage is recorded for a label: by the calculator when it concerns one file, by the pipeline when
it concerns the request. -/
inductive Event where
  | withoutParser (language : String)
  | parseFailed
  | tooDeep
  | branchTaken (branch : Branch) (language : String)
  | unitStage (label : String) (reached : Stage)
  | requestStage (label : String) (reached : Stage)
  | reviewerFailed (reviewer reason : String)
  | fallbackTaken
  | reviewerMissing
  | staleResult (key : Key) (generation : Int)
  deriving DecidableEq, Repr

namespace Event

def isWarning : Event → Bool
  | .reviewerFailed .. | .fallbackTaken | .reviewerMissing | .staleResult .. => true
  | _ => false

def level (e : Event) : String := if e.isWarning then "WARNING" else "DEBUG"

def recorder : Event → Recorder
  | .withoutParser _ | .parseFailed | .tooDeep => .analyzer
  | .branchTaken .. | .unitStage .. => .calculator
  | .requestStage .. => .pipeline
  | .reviewerFailed .. | .fallbackTaken => .review
  | .reviewerMissing => .program
  | .staleResult .. => .session

/-- What is recorded. Where a parse fails, the place of the failure goes with the recovery of the parser: for
all of them one text stands here. -/
def message : Event → String
  | .withoutParser language => "language " ++ language ++ " has no parser, using keyword count"
  | .parseFailed => "parse failed (syntax error), using keyword count"
  | .tooDeep => "syntax tree too deep to walk, using keyword count"
  | .branchTaken branch language => "analysis branch " ++ branch.name ++ " for " ++ language
  | .unitStage label reached | .requestStage label reached => label ++ ": " ++ reached.name
  | .reviewerFailed reviewer reason =>
    "Reviewer " ++ reviewer ++ " failed, trying next: " ++ reason
  | .fallbackTaken => "No reviewer produced a valid review, using fallback"
  | .reviewerMissing => "Reviewer not configured (OPENROUTER_API_KEY unset)"
  | .staleResult key generation =>
    "Discarding stale result for " ++ key.quoted ++ s!" (generation {generation})"

end Event
end Footprint
