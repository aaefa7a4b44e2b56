import Footprint.Arguments
import Footprint.Chat
import Footprint.Cyclomatic.Library
import Footprint.FileTree
import Footprint.Report
import Footprint.Text.LineFeeds

/-! The command line: a file, the files of a directory or a text from standard input are analysed, and
the result is printed. A failure of the analysis or of the system is reported; one of a library or of the
report itself is not. -/
namespace Footprint

structure Run where
  output : String := ""
  /-- The lines of records and of errors. -/
  errors : List String := []
  /-- The exit status, or the failure that nothing caught. -/
  ending : Outcome Nat

namespace CommandLine

variable {σ : Type}

def programName : String := "main.py"

structure Surroundings where
  settings : Settings
  clock : Int
  look : Path → Found
  input : String
  /-- The library that is asked for cyclomatic complexities. -/
  cyclomatic : Cyclomatic.Library
  /-- The parser of texts in a language. -/
  parse : String → String → Option Syntax.Tree := Analysis.parse?
  /-- The stack on which the program is called. -/
  stack : Signals.CallStack := {}

inductive Subject where
  | input (u : SourceUnit)
  | files (files : List (Path × StoredFile)) (units : List SourceUnit)

/-- The files of a directory in known languages, in the order of their paths. -/
def knownFiles (languages : LanguageTable) (p : Path) (files : List (List String × StoredFile)) :
    List (Path × StoredFile) :=
  let known := files.filter fun f => languages.isKnown (p.append f.1).name
  (known.mergeSort fun a b => Path.partsBefore a.1 b.1).map fun f => (p.append f.1, f.2)

/-- The files to analyse at a path: the file there, or those of a directory. -/
def collect (languages : LanguageTable) (look : Path → Found) (p : Path) :
    Outcome (List (Path × StoredFile)) :=
  match look p with
  | .file stored => .ok [(p, stored)]
  | .directory files =>
    match knownFiles languages p files with
    | [] => .error (.noSources p.text)
    | found => .ok found
  | .refused message => .error (.system message)
  | _ => .error (.nothingAt p.text)

def subject (languages : LanguageTable) (s : Surroundings) (o : Options) : Outcome Subject :=
  if o.path = "-" then do
    let input := String.ofList (Text.withLineFeeds s.input.toList)
    return .input (← SourceUnit.ofInput languages o.fileName (some input) .null)
  else do
    let files ← collect languages s.look (.ofText o.path)
    return .files files (← files.mapM fun f => SourceUnit.ofStored languages f.1 f.2)

def conditions (o : Options) : Conditions where
  region := .string o.region
  hardware := .string o.hardware
  hour := (o.hour.map Json.int).getD .null

/-- Whether the path names a file whose cyclomatic complexity is looked at. -/
def isPython (p : Path) : Bool := p.suffix == ".py"

def textAgain (stored : StoredFile) : Outcome String := do
  return String.ofList (Text.withLineFeeds (Text.Utf8.decode (← stored.second.outcome)).toList)

/-- The greatest cyclomatic complexity of the Python files, when one of them is Python. The first of them
that cannot be read or measured ends it. -/
def greatestCyclomatic (library : Cyclomatic.Library) (files : List (Path × StoredFile)) :
    Outcome (Option Int) := do
  let each ← (files.filter fun f => isPython f.1).mapM fun f => do
    library.greatest? (← textAgain f.2)
  return (each.filterMap id).max?

def cyclomaticLabel : String := "Cyclomatic Complexity (radon, max)"

def extras (library : Cyclomatic.Library) (o : Options) (files : List (Path × StoredFile)) :
    Outcome (List (String × Json)) :=
  if o.radon then do
    match ← greatestCyclomatic library files with
    | some n => return [(cyclomaticLabel, .int n)]
    | none => return []
  else return []

def pipeline (s : Surroundings) (o : Options) (service : Chat.Service σ) : Pipeline σ where
  meter := { parse := s.parse, stack := s.stack.enter 1 }
  panel :=
    { reviewers := if o.review then Chat.reviewers service s.settings else []
      allowFallback := !o.noFallback }
  workers := max 1 o.jobs

/-- Analyses the subject. Only one request runs, so none is dropped. -/
def analyse (p : Pipeline σ) (clock : Int) (o : Options) (subject : Subject) (world : σ) :
    Recorded (Option AnalysisResult) × σ :=
  let request : Request := { conditions := conditions o, clock }
  let single (u : SourceUnit) : Recorded (Option AnalysisResult) × σ :=
    let (result, world) := p.run request u world
    (⟨result.events, result.outcome.map some⟩, world)
  match subject with
  | .input u => single u
  | .files _ [u] => single u
  | .files _ units =>
    let (result, shared) := p.runMany { toRequest := request, units } { world }
    (result, shared.world)

def report (o : Options) (r : AnalysisResult) (extra : List (String × Json)) : Outcome String := do
  let executions := Json.int o.executionsPerDay
  if o.json || o.jsonShortcut then
    let members ← Report.members r executions
    let extra := if extra.isEmpty then [] else [("extra", Json.object extra)]
    return Json.print (Json.asciiStyle (some 2)) (← Json.writable (.object (members ++ extra)))
  else Report.text r executions extra

def eventLine (e : Event) : String := e.level ++ " " ++ e.recorder.name ++ ": " ++ e.message

/-- The lines of the records that are shown: warnings, and on request all. -/
def eventLines (o : Options) (events : List Event) : List String :=
  (events.filter fun e => o.verbose || e.isWarning).map eventLine

def errorLine (message : String) : String := "Error: " ++ message

def reviewerEvents (s : Settings) (o : Options) : List Event :=
  if o.review && !s.reviewerConfigured then [.reviewerMissing] else []

def subjectFiles : Subject → List (Path × StoredFile)
  | .input _ => []
  | .files files _ => files

/-- The end of a run that a failure stops: it is reported, or passed on. -/
def failed (lines : List String) (cause : Failure) : Run :=
  if cause.isReported then { errors := lines ++ [errorLine cause.message], ending := .ok 1 }
  else { errors := lines, ending := .error cause }

def finish (library : Cyclomatic.Library) (o : Options) (subject : Subject) (lines : List String)
    (outcome : Outcome (Option AnalysisResult)) : Run :=
  let found : Outcome (Option AnalysisResult × List (String × Json)) := do
    let result ← outcome
    return (result, ← extras library o (subjectFiles subject))
  match found with
  | .error cause => failed lines cause
  | .ok (none, _) => { errors := lines, ending := .ok 1 }
  | .ok (some r, extra) =>
    match report o r extra with
    | .ok text => { output := text ++ "\n", errors := lines, ending := .ok 0 }
    | .error cause => { errors := lines, ending := .error cause }

def runOptions (s : Surroundings) (service : Chat.Service σ) (o : Options) (world : σ) : Run × σ :=
  let p := pipeline s o service
  let before := reviewerEvents s.settings o
  match subject p.meter.languages s o with
  | .error cause => (failed (eventLines o before) cause, world)
  | .ok subject =>
    let (result, world) := analyse p s.clock o subject world
    (finish s.cyclomatic o subject (eventLines o (before ++ result.events)) result.outcome, world)

def usage : String :=
  "usage: " ++ programName ++ " [options] [path]\n\n" ++
  "Energy and carbon estimates for source code: a file, a directory, or - for standard input.\n\n" ++
  "options:\n" ++ String.join (Switch.all.map fun s => "  " ++ ", ".intercalate s.names ++ "\n")

def run (s : Surroundings) (service : Chat.Service σ) (arguments : List String) (world : σ) :
    Run × σ :=
  match Options.ofArguments s.settings arguments with
  | .error e =>
    ({ errors := [programName ++ ": error: " ++ e.message], ending := .ok 2 }, world)
  | .ok o => if o.help then ({ output := usage, ending := .ok 0 }, world) else runOptions s service o world

end CommandLine
end Footprint
