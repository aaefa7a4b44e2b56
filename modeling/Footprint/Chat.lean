import Footprint.Decimal.Notation
import Footprint.Json.Decoder
import Footprint.Panel
import Footprint.Settings

/-! Reviewers behind a chat completion service: the prompt they are given, and the JSON value found in
what they write. -/
namespace Footprint.Chat

def metricContext : Option Metrics → String
  | none => ""
  | some m =>
    "\n\nMetric Context: Big_O=" ++ m.complexity.text ++ ", Mem_Pressure=" ++ m.memPressure.text ++
      s!", Lines={m.lineCount}, Language=" ++ m.language ++ ", Recursion=" ++
      (if m.recursive then "yes" else "no")

def systemPrompt (m : Metrics) : String :=
  "You are a Sustainability Auditor. Analyze the code for environmental footprint." ++
    metricContext (some m) ++
    "\nReturn a JSON object with exactly these fields:\n\x7b\n" ++
    "  \"score\": integer (1-10, 10 is most efficient),\n" ++
    "  \"bottleneck\": \"string\",\n  \"optimization\": \"string\",\n  \"improvement\": \"string\"\n\x7d\n" ++
    "Ensure the score reflects the complexity metrics provided."

def userPrompt (source : String) : String := "Target Code:\n\n" ++ source

structure Request where
  model : String
  system : String
  user : String

inductive Response where
  | content (text : Option String)
  | refused (kind text : String)
  | noChoices

/-- From the first opening to the last closing brace, if one follows the other. -/
def bracedPart? (text : List Char) : Option (List Char) :=
  let fromOpening := text.dropWhile (· != '\x7b')
  let toClosing := (fromOpening.reverse.dropWhile (· != '\x7d')).reverse
  if toClosing.isEmpty then none else some toClosing

def decodeAll (text : String) : Outcome (Option Json) :=
  match Json.decode text with
  | .ok value => .ok (some value)
  | .error .malformed => .ok none
  | .error (.tooManyDigits count) => .error (.replyTooManyDigits count)

/-- The value that a text is, or the object that it holds among other words. -/
def readReply (content : Option String) : Outcome Json := do
  let text := content.getD ""
  if text.isEmpty then throw .emptyReply
  match ← decodeAll text with
  | some value => return value
  | none =>
    match bracedPart? text.toList with
    | none => throw .undecodableReply
    | some part =>
      match ← decodeAll (String.ofList part) with
      | some value => return value
      | none => throw .undecodableReply

def noChoicesText : String := "reviewer returned no choices"

def answerOf : Response → Answer
  | .refused kind text => { reply := .error (kind ++ ": " ++ text) }
  | .noChoices => { reply := .error noChoicesText }
  | .content text =>
    match readReply text with
    | .ok value => { reply := .ok value }
    | .error cause => { reply := .error cause.message }

abbrev Service (σ : Type) := Request → σ → Response × σ

def reviewer {σ : Type} (service : Service σ) (model : String) : Reviewer σ where
  name := model
  ask source m world :=
    let (response, world) := service ⟨model, systemPrompt m, userPrompt source⟩ world
    (answerOf response, world)

/-- The reviewers of some settings, in the order of the models; none unless they are configured. -/
def reviewers {σ : Type} (service : Service σ) (s : Settings) : List (Reviewer σ) :=
  if s.reviewerConfigured then s.models.map (reviewer service) else []

end Footprint.Chat
