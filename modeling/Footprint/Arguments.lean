import Footprint.Decimal.Reading
import Footprint.Projection
import Footprint.Settings

/-! The arguments of a command line. Options may be shortened as long as they stay distinct, letters may
be joined, and a value stands behind its option, behind an equals sign or right behind a letter. Only
one argument is no option: the path. -/
namespace Footprint

inductive Switch where
  | help | fileName | outputFormat | json | region | hardware | hour | review | noFallback
  | executionsPerDay | jobs | radon | verbose
  deriving DecidableEq, Repr

namespace Switch

def all : List Switch :=
  [.help, .fileName, .outputFormat, .json, .region, .hardware, .hour, .review, .noFallback,
    .executionsPerDay, .jobs, .radon, .verbose]

def names : Switch → List String
  | .help => ["-h", "--help"]
  | .fileName => ["--filename"]
  | .outputFormat => ["-o", "--output-format"]
  | .json => ["--json"]
  | .region => ["--region"]
  | .hardware => ["--hardware"]
  | .hour => ["--hour"]
  | .review => ["--review"]
  | .noFallback => ["--no-fallback"]
  | .executionsPerDay => ["--executions-per-day"]
  | .jobs => ["--jobs"]
  | .radon => ["--radon"]
  | .verbose => ["-v", "--verbose"]

def takesValue : Switch → Bool
  | .fileName | .outputFormat | .region | .hardware | .hour | .executionsPerDay | .jobs => true
  | _ => false

def title (s : Switch) : String := "/".intercalate s.names

def table : List (String × Switch) := all.flatMap fun s => s.names.map (·, s)

def ofName? (name : String) : Option Switch := table.lookup name

end Switch

inductive UsageError where
  | ambiguous (argument : String) (names : List String)
  | expectedValue (s : Switch)
  | ignoredValue (s : Switch) (value : String)
  | notAnInteger (s : Switch) (value : String)
  | notAFormat (value : String)
  | unrecognized (arguments : List String)
  deriving DecidableEq, Repr

def UsageError.message : UsageError → String
  | .ambiguous argument names =>
    "ambiguous option: " ++ argument ++ " could match " ++ ", ".intercalate names
  | .expectedValue s => "argument " ++ s.title ++ ": expected one argument"
  | .ignoredValue s value =>
    "argument " ++ s.title ++ ": ignored explicit argument " ++ Text.quoted value
  | .notAnInteger s value =>
    "argument " ++ s.title ++ ": invalid int value: " ++ Text.quoted value
  | .notAFormat value =>
    "argument " ++ Switch.outputFormat.title ++ ": invalid choice: " ++ Text.quoted value ++
      " (choose from 'text', 'json')"
  | .unrecognized arguments => "unrecognized arguments: " ++ " ".intercalate arguments

structure Joined where
  value : List Char
  assigned : Bool

inductive Argument where
  | operand (text : String)
  /-- Behind it every argument is an operand. -/
  | separator
  | option (s : Switch) (name : String) (joined : Option Joined)
  /-- It looks like an option and is none. -/
  | unknown (text : String)

namespace Argument

def splitAssignment (text : List Char) : List Char × Option (List Char) :=
  match text.span (· != '=') with
  | (before, _ :: behind) => (before, some behind)
  | (before, []) => (before, none)

def longMatches (text : List Char) : List (String × Switch × Option Joined) :=
  let (name, value) := splitAssignment text
  (Switch.table.filter fun e => name.isPrefixOf e.1.toList).map fun e =>
    (e.1, e.2, value.map (⟨·, true⟩))

/-- The options that an argument with one hyphen may stand for: a letter with what is joined to it, or a
shortened name. -/
def shortMatches (text : List Char) : List (String × Switch × Option Joined) :=
  Switch.table.filterMap fun e =>
    if e.1.toList = text.take 2 then some (e.1, e.2, some ⟨text.drop 2, false⟩)
    else if text.isPrefixOf e.1.toList then some (e.1, e.2, none)
    else none

def isNegativeNumber (text : List Char) : Bool :=
  let isDigit (c : Char) : Bool := (Text.digitValue? c).isSome
  match (if text.getLast? = some '\n' then text.dropLast else text) with
  | '-' :: rest =>
    match rest.dropWhile isDigit with
    | [] => !rest.isEmpty
    | '.' :: fraction => !fraction.isEmpty && fraction.all isDigit
    | _ => false
  | _ => false

/-- An argument that is the name of an option, or begins with one and an equals sign. -/
def ofWhole? (text : String) : Option Argument :=
  match Switch.ofName? text with
  | some s => some (.option s text none)
  | none =>
    match splitAssignment text.toList with
    | (name, some value) =>
      (Switch.ofName? (String.ofList name)).map fun s =>
        .option s (String.ofList name) (some ⟨value, true⟩)
    | _ => none

def classify (text : String) : Except UsageError Argument :=
  match text.toList with
  | '-' :: second :: rest =>
    match ofWhole? text with
    | some argument => .ok argument
    | none =>
      let chars := '-' :: second :: rest
      match if second = '-' then longMatches chars else shortMatches chars with
      | [(name, s, joined)] => .ok (.option s name joined)
      | [] =>
        if isNegativeNumber chars || chars.contains ' ' then .ok (.operand text)
        else .ok (.unknown text)
      | several => .error (.ambiguous text (several.map Prod.fst))
  | _ => .ok (.operand text)

/-- The arguments up to a pair of hyphens by their looks, and operands behind it. -/
def classifyAll : List String → Except UsageError (List Argument)
  | [] => .ok []
  | text :: rest =>
    if text = "--" then .ok (.separator :: rest.map .operand)
    else do return (← classify text) :: (← classifyAll rest)

end Argument

structure Options where
  path : String := "-"
  fileName : String := "stdin.js"
  /-- As a document, not as a text. -/
  json : Bool := false
  region : String
  hardware : String
  hour : Option Int := none
  review : Bool := false
  noFallback : Bool := false
  executionsPerDay : Int := Projection.defaultExecutionsPerDay
  jobs : Int := 4
  radon : Bool := false
  verbose : Bool := false
  /-- The short way to ask for a document counts whatever format is named. -/
  jsonShortcut : Bool := false
  help : Bool := false
  deriving DecidableEq, Repr

namespace Options

def ofSettings (s : Settings) : Options where
  region := s.defaultRegion
  hardware := s.defaultHardware

def integer (s : Switch) (value : String) : Except UsageError Int :=
  match Decimal.readInteger value with
  | .ok n => .ok n
  | .error _ => .error (.notAnInteger s value)

def set (o : Options) (s : Switch) (value : String) : Except UsageError Options :=
  match s with
  | .help => .ok { o with help := true }
  | .fileName => .ok { o with fileName := value }
  | .outputFormat =>
    if value = "text" then .ok { o with json := false }
    else if value = "json" then .ok { o with json := true }
    else .error (.notAFormat value)
  | .json => .ok { o with jsonShortcut := true }
  | .region => .ok { o with region := value }
  | .hardware => .ok { o with hardware := value }
  | .hour => do return { o with hour := some (← integer s value) }
  | .review => .ok { o with review := true }
  | .noFallback => .ok { o with noFallback := true }
  | .executionsPerDay => do return { o with executionsPerDay := ← integer s value }
  | .jobs => do return { o with jobs := ← integer s value }
  | .radon => .ok { o with radon := true }
  | .verbose => .ok { o with verbose := true }

end Options

structure Reading where
  options : Options
  /-- Whether the path has been seen. -/
  placed : Bool := false
  /-- Arguments that mean nothing, the latest first. -/
  unrecognized : List String := []

namespace Reading

/-- The options in an argument: several letters may be joined. The last of them may want the value from
the next argument, and what is joined behind the last letter may be unknown. -/
structure Joint where
  settings : List (Switch × String) := []
  wants : Option Switch := none
  unknown : Option String := none

def isLetter (name : String) : Bool := (name.toList.drop 1).head? != some '-'

def joinedOf : List Char → Option Joined
  | [] => none
  | '=' :: value => some ⟨value, true⟩
  | value => some ⟨value, false⟩

def unjoin : (fuel : Nat) → Switch → (name : String) → Option Joined → Except UsageError Joint
  | 0, _, _, _ => .ok {}
  | _ + 1, s, _, none => if s.takesValue then .ok { wants := some s } else .ok { settings := [(s, "")] }
  | fuel + 1, s, name, some joined =>
    if s.takesValue then .ok { settings := [(s, String.ofList joined.value)] }
    else
      let ignored : UsageError := .ignoredValue s (String.ofList joined.value)
      match joined.value with
      | [] => .error ignored
      | letter :: rest =>
        if !isLetter name || joined.assigned || letter = '-' then .error ignored
        else
          let next := String.ofList ['-', letter]
          match Switch.ofName? next with
          | none =>
            .ok { settings := [(s, "")], unknown := some (String.ofList ('-' :: letter :: rest)) }
          | some s' => do
            let joint ← unjoin fuel s' next (joinedOf rest)
            return { joint with settings := (s, "") :: joint.settings }

def apply (o : Options) : List (Switch × String) → Except UsageError Options
  | [] => .ok o
  | (s, value) :: rest => if o.help then .ok o else do apply (← o.set s value) rest

def place (r : Reading) (path : String) : Reading :=
  { r with options := { r.options with path }, placed := true }

def reject (r : Reading) (text : String) : Reading :=
  { r with unrecognized := text :: r.unrecognized }

/-- Reads arguments from the front. A separator next to the path belongs to it. -/
def read (r : Reading) : List Argument → Except UsageError Reading
  | [] => .ok r
  | .unknown text :: rest => (r.reject text).read rest
  | .separator :: rest =>
    if r.placed then (r.reject "--").read rest
    else
      match rest with
      | .operand path :: rest => (r.place path).read rest
      | rest => read { r with placed := true } rest
  | .operand text :: rest =>
    if r.placed then (r.reject text).read rest
    else
      match rest with
      | .separator :: rest => (r.place text).read rest
      | rest => (r.place text).read rest
  | .option s name joined :: rest =>
    match unjoin ((joined.map fun j => j.value.length).getD 0 + 1) s name joined with
    | .error e => .error e
    | .ok joint =>
      let r := match joint.unknown with
        | some text => r.reject text
        | none => r
      match joint.wants with
      | none =>
        match apply r.options joint.settings with
        | .error e => .error e
        | .ok options => if options.help then .ok { r with options } else read { r with options } rest
      | some s =>
        match rest with
        | .operand value :: rest =>
          match apply r.options (joint.settings ++ [(s, value)]) with
          | .error e => .error e
          | .ok options =>
            if options.help then .ok { r with options } else read { r with options } rest
        | _ => .error (.expectedValue s)
  termination_by arguments => arguments.length

end Reading

def Options.ofArguments (s : Settings) (arguments : List String) : Except UsageError Options := do
  let r ← Reading.read { options := .ofSettings s } (← Argument.classifyAll arguments)
  if r.options.help then return r.options
  if r.unrecognized.isEmpty then return r.options
  throw (.unrecognized r.unrecognized.reverse)

end Footprint
