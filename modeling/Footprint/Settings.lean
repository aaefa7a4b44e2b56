import Footprint.Environment
import Footprint.Panel

/-! Settings of the meter and of the reviewers it asks: given field by field, or read from environment
variables, of which a number that makes no sense counts as not given. -/
namespace Footprint

structure Settings where
  apiKey : Option String
  baseUrl : String
  models : List String
  /-- In seconds. -/
  timeout : Binary64
  maxChars : Int
  defaultRegion : String
  defaultHardware : String
  deriving DecidableEq

namespace Settings

def defaultModels : List String :=
  ["deepseek/deepseek-r1-distill-llama-70b:free", "google/gemini-2.0-flash-lite-preview-02-05:free",
    "microsoft/phi-3-medium-128k-instruct:free", "meta-llama/llama-3.3-70b-instruct:free",
    "google/gemini-2.0-flash-exp:free"]

def builtIn : Settings where
  apiKey := none
  baseUrl := "https://openrouter.ai/api/v1"
  models := defaultModels
  timeout := 30
  maxChars := characterLimit
  defaultRegion := EnvironmentTables.builtIn.defaultRegion
  defaultHardware := EnvironmentTables.builtIn.defaultHardware

def reviewerConfigured (s : Settings) : Bool := (s.apiKey.any fun k => !k.isEmpty) && !s.models.isEmpty

/-! ### From fields -/

abbrev Checked (α : Type) := Except (List FieldProblem) α

def checkText : Json → Checked String
  | .string s => .ok s
  | _ => .error [.notText]

def checkTextOrNull : Json → Checked (Option String)
  | .null => .ok none
  | value => some <$> checkText value

def checkTexts : Json → Checked (List String)
  | .array items =>
    match items.filterMap fun item => match item with | .string _ => none | _ => some FieldProblem.notText with
    | [] => .ok (items.filterMap fun item => match item with | .string s => some s | _ => none)
    | problems => .error problems
  | _ => .error [.notList]

def checkPositive (value : Json) : Checked Binary64 :=
  let number : Option Binary64 :=
    match value with
    | .float x => some x
    | .int n => some (Binary64.ofInt n)
    | .bool b => some (if b then 1 else 0)
    | .string s => Decimal.readDouble s
    | _ => none
  match number with
  | none => .error [.notNumber]
  | some x => if 0 < x then .ok x else .error [.notPositive]

/-- An integer between 1 and the character limit, also in text or as a double without fraction. -/
def checkCharacters (value : Json) : Checked Int :=
  let number : Option Int :=
    match value with
    | .int n => some n
    | .bool b => some (if b then 1 else 0)
    | .float x => x.truncate?.toOption.filter fun n => Binary64.ofInt n == x
    | .string s => (Decimal.readInteger s).toOption
    | _ => none
  match number with
  | none => .error [.notInteger]
  | some n =>
    if n < 1 then .error [.belowLeast]
    else if characterLimit < n then .error [.aboveGreatest]
    else .ok n

def fieldOr {α : Type} (fields : Json) (name : String) (default : α) (check : Json → Checked α) :
    Checked α :=
  match fields.member? name with
  | none => .ok default
  | some value => check value

def problemsOf {α : Type} (name : String) (x : Checked α) : List (String × FieldProblem) :=
  match x with
  | .ok _ => []
  | .error problems => problems.map (name, ·)

/-- Settings from their fields; those that are absent have their defaults, unknown ones are ignored.
All problems are found, in the order of the fields. -/
def ofFields (fields : Json) : Outcome Settings :=
  let apiKey := fieldOr fields "openrouter_api_key" builtIn.apiKey checkTextOrNull
  let baseUrl := fieldOr fields "review_base_url" builtIn.baseUrl checkText
  let models := fieldOr fields "review_models" builtIn.models checkTexts
  let timeout := fieldOr fields "review_timeout_sec" builtIn.timeout checkPositive
  let maxChars := fieldOr fields "review_max_chars" builtIn.maxChars checkCharacters
  let region := fieldOr fields "default_region" builtIn.defaultRegion checkText
  let hardware := fieldOr fields "default_hardware" builtIn.defaultHardware checkText
  match apiKey, baseUrl, models, timeout, maxChars, region, hardware with
  | .ok apiKey, .ok baseUrl, .ok models, .ok timeout, .ok maxChars, .ok defaultRegion,
      .ok defaultHardware =>
    .ok { apiKey, baseUrl, models, timeout, maxChars, defaultRegion, defaultHardware }
  | _, _, _, _, _, _, _ =>
    .error (.invalidFields "Settings"
      (problemsOf "openrouter_api_key" apiKey ++ problemsOf "review_base_url" baseUrl ++
        problemsOf "review_models" models ++ problemsOf "review_timeout_sec" timeout ++
        problemsOf "review_max_chars" maxChars ++ problemsOf "default_region" region ++
        problemsOf "default_hardware" hardware))

def toFields (s : Settings) : Json :=
  .object [("openrouter_api_key", s.apiKey.elim .null .string), ("review_base_url", .string s.baseUrl),
    ("review_models", .array (s.models.map .string)), ("review_timeout_sec", .float s.timeout),
    ("review_max_chars", .int s.maxChars), ("default_region", .string s.defaultRegion),
    ("default_hardware", .string s.defaultHardware)]

/-! ### From the environment -/

/-- The entries of a comma list without blanks around them; empty ones are left out. -/
def entries (list : String) : List String :=
  ((list.toList.splitOn ',').map fun part => Text.strip (String.ofList part)).filter (!·.isEmpty)

/-- A variable's number when it is finite and above zero, otherwise the default. -/
def numberOr (default : Binary64) (given : Option String) : Binary64 :=
  match given.bind Decimal.readDouble with
  | some x => if x.isFinite ∧ 0 < x then x else default
  | none => default

def charactersOf (x : Binary64) : Int :=
  min characterLimit (max 1 (x.truncate?.toOption.getD 0))

def variableNames : List String :=
  ["OPENROUTER_API_KEY", "CO2DE_REVIEW_BASE_URL", "CO2DE_REVIEW_MODELS", "CO2DE_REVIEW_TIMEOUT_SEC",
    "CO2DE_REVIEW_MAX_CHARS", "CO2DE_DEFAULT_REGION", "CO2DE_DEFAULT_HARDWARE"]

def ofEnvironment (valueOf : String → Option String) : Settings where
  apiKey := (valueOf "OPENROUTER_API_KEY").filter (!·.isEmpty)
  baseUrl := (valueOf "CO2DE_REVIEW_BASE_URL").getD builtIn.baseUrl
  models :=
    let listed := entries ((valueOf "CO2DE_REVIEW_MODELS").getD "")
    if listed.isEmpty then defaultModels else listed
  timeout := numberOr builtIn.timeout (valueOf "CO2DE_REVIEW_TIMEOUT_SEC")
  maxChars := charactersOf (numberOr (Binary64.ofInt characterLimit) (valueOf "CO2DE_REVIEW_MAX_CHARS"))
  defaultRegion := (valueOf "CO2DE_DEFAULT_REGION").getD builtIn.defaultRegion
  defaultHardware := (valueOf "CO2DE_DEFAULT_HARDWARE").getD builtIn.defaultHardware

/-- The settings under an assignment of environment variables, checked like all others. A number of
characters without an integral part is an error. -/
def fromEnvironment (valueOf : String → Option String) : Outcome Settings := do
  let given := numberOr (Binary64.ofInt characterLimit) (valueOf "CO2DE_REVIEW_MAX_CHARS")
  let characters ← given.truncate?
  ofFields (toFields { ofEnvironment valueOf with maxChars := min characterLimit (max 1 characters) })

end Settings
end Footprint
