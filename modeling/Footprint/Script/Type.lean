import Footprint.Script.Grammar

/-! Types, as they stand in ascriptions, arguments and declarations. -/
namespace Footprint.Script

open Syntax Step

def typeOperators : List String := ["keyof", "unique", "readonly"]

def plainTypes : List String :=
  ["any", "bigint", "boolean", "never", "null", "number", "object", "string", "symbol", "undefined",
    "unknown", "void"]

/-- A name of a type parameter with its modifiers, bound and default. -/
def typeParameter (g : Pursuit) : Step :=
  repeatWhile (fun s => (s.isWord "const" || s.isWord "in" || s.isWord "out") &&
      s.peek.kind == .word && s.peek.text != "extends") skip >=>
    name >=>
    whenever (·.isWord "extends") (skip >=> g .type) >=>
    whenever (·.isMark "=") (skip >=> g .type)

def typeParameters (g : Pursuit) : Step := node .typeParameters (angleList (typeParameter g))

def typeArguments (g : Pursuit) : Step := node .typeArguments (angleList (g .type))

def typeAscription (g : Pursuit) : Step := node .typeAscription (mark ":" >=> g .type)

/-- Whether the dialect has types and the mark of an ascription follows. -/
def State.atAscription (s : State) : Bool := s.dialect.types && s.isMark ":"

def optionalAscription (g : Pursuit) : Step := whenever (·.atAscription) (typeAscription g)

def returnedType (g : Pursuit) : Step := fun s =>
  let wordFollows := s.peek.kind == .word && !s.peek.afterLineEnd
  if s.isWord "asserts" && wordFollows then
    (skip >=> leaf .identifier >=> whenever (·.isWord "is") (skip >=> g .type)) s
  else if s.token.kind == .word && wordFollows && s.peek.isWord "is" then
    (skip >=> skip >=> g .type) s
  else g .type s

def returnAscription (g : Pursuit) : Step :=
  whenever (·.atAscription) (node .typeAscription (mark ":" >=> returnedType g))

def optionalTypeParameters (g : Pursuit) : Step :=
  whenever (fun s => s.dialect.types && s.isMark "<") (typeParameters g)

def parameterModifiers : List String := ["public", "private", "protected", "readonly", "override"]

def decorator (g : Pursuit) : Step := node .decorator (mark "@" >=> g .leftSide)

def decorators (g : Pursuit) : Step := repeatWhile (·.isMark "@") (decorator g)

/-- What a parameter or declarator binds; the receiver may be declared among parameters. -/
def parameterTarget (g : Pursuit) : Step :=
  branch (fun s => s.dialect.types && s.isWord "this") (leaf .this) (g .bindingTarget)

def parameter (g : Pursuit) : Step :=
  decorators g >=>
    repeatWhile (fun s => s.dialect.types && s.token.kind == .word &&
      parameterModifiers.contains s.token.text &&
      (s.peek.kind == .word || s.peek.isMark "\x7b" || s.peek.isMark "[")) skip >=>
    branch (·.isMark "...")
      (node .restPattern (skip >=> g .bindingTarget) >=> optionalAscription g)
      (fun s =>
        (parameterTarget g >=>
          whenever (·.dialect.types) (optionalMark "?") >=>
          optionalAscription g >=>
          fun t =>
            if t.isMark "=" then
              ((skip >=> g .assignment) t).map (·.gather s.height .assignmentPattern)
            else some t) s)

def parameters (g : Pursuit) : Step :=
  node .parameters (mark "(" >=> free (commaList ")" (parameter g)) >=> mark ")")

def typeName : Step := fun s =>
  (branch (·.token.kind == .word) (leaf .identifier) refuse >=>
    repeatWhile (fun s => s.isMark "." ) (skip >=> propertyName)) s

def referenceArguments (g : Pursuit) : Step :=
  whenever (fun s => s.isMark "<" && !s.token.afterLineEnd) (typeArguments g)

/-- The text of a template up to the next substitution or its end: whether it ended, its characters,
the latest first, and the text after. -/
def templateSpan (taken : List Char) : List Char → Option (Bool × Span)
  | [] => none
  | '\\' :: c :: rest => templateSpan (c :: '\\' :: taken) rest
  | '$' :: '\x7b' :: rest => some (false, taken, rest)
  | c :: rest => if c = '\x60' then some (true, taken, rest) else templateSpan (c :: taken) rest

/-- A template from behind its first backquote on; `hole` reads what stands in a substitution. -/
def templateLoop (hole : Step) : Nat → List Char → Step
  | 0, _ => refuse
  | bound + 1, text => fun s =>
    match templateSpan [] text with
    | none => none
    | some (ended, span) =>
      let s := s.put (.leaf .templateText true span.text)
      if ended then some (s.relex span.2)
      else
        match node .templateSubstitution (free hole) (s.relex span.2) with
        | some s => if s.isMark "\x7d" then templateLoop hole bound s.token.rest s else none
        | none => none

def template (hole : Step) : Step :=
  node .template fun s =>
    if s.token.kind == .template then templateLoop hole s.bound s.token.rest s else none

def State.atIndex (words : List String) (s : State) : Bool :=
  let name := s.peek
  let next := nextToken false false name.rest
  s.isMark "[" && name.kind == .word && (next.isMark ":" || words.any next.isWord)

/-- The key of a mapped type or an index: a name in brackets with what ranges over it. -/
def indexKey (g : Pursuit) : Step :=
  mark "[" >=> name >=>
    branch (·.isMark ":") (skip >=> g .type)
      (word "in" >=> g .type >=> whenever (·.isWord "as") (skip >=> g .type)) >=>
    mark "]"

def atSignature (s : State) : Bool := s.isMark "(" || s.isMark "<"

def signature (g : Pursuit) : Step :=
  optionalTypeParameters g >=> parameters g >=> returnAscription g

def signBefore (test : Token → Bool) : Step :=
  whenever (fun s => (s.isMark "+" || s.isMark "-") && test s.peek) skip

def keyedMember (g : Pursuit) : Step :=
  signBefore (·.isWord "readonly") >=>
    whenever (fun s => s.isWord "readonly" && s.peek.startsKey) skip >=>
    branch (·.atIndex ["in"]) (indexKey g) (key g) >=>
    signBefore (·.isMark "?") >=> optionalMark "?" >=>
    branch atSignature (signature g) (optionalAscription g)

def typeMember (g : Pursuit) : Step := fun s =>
  if atSignature s then signature g s
  else if s.isWord "new" && (s.peek.isMark "(" || s.peek.isMark "<") then (skip >=> signature g) s
  else if (s.isWord "get" || s.isWord "set") && s.peek.startsKey then
    (skip >=> key g >=> signature g) s
  else keyedMember g s

/-- Members of an object type end with a semicolon, a comma or their line. -/
def objectType (g : Pursuit) : Step :=
  mark "\x7b" >=>
    free (repeatUntil (·.isMark "\x7d")
      (typeMember g >=>
        branch (fun s => s.isMark ";" || s.isMark ",") skip
          (fun s => if s.isMark "\x7d" || s.token.afterLineEnd then some s else none))) >=>
    mark "\x7d"

/-- An element of a tuple type, with a name, a mark of rest or of option. -/
def tupleElement (g : Pursuit) : Step :=
  optionalMark "..." >=>
    branch (fun s => s.token.kind == .word &&
        (s.peek.isMark ":" || (s.peek.isMark "?" && (nextToken false false s.peek.rest).isMark ":")))
      (skip >=> optionalMark "?" >=> mark ":" >=> g .type)
      (g .type >=> optionalMark "?")

def importType (g : Pursuit) : Step :=
  word "import" >=> mark "(" >=> g .type >=>
    whenever (·.isMark ",") (skip >=> whenever (·.isMark "\x7b") (objectType g)) >=> mark ")" >=>
    repeatWhile (·.isMark ".") (skip >=> propertyName) >=> referenceArguments g

def wordType (g : Pursuit) : Step := fun s =>
  if s.isWord "typeof" then
    (skip >=> branch (·.isWord "import") (importType g) (typeName >=> referenceArguments g)) s
  else if s.isWord "import" then importType g s
  else if ["void", "null", "true", "false", "this"].contains s.token.text then skip s
  else if plainTypes.contains s.token.text && !s.peek.isMark "." then skip s
  else if s.isName then (typeName >=> referenceArguments g) s
  else none

def primaryType (g : Pursuit) : Step := fun s =>
  match s.token.kind with
  | .string => skip s
  | .number => skip s
  | .template => template (g .type) s
  | .word => wordType g s
  | _ =>
    if s.isMark "(" then (skip >=> free (g .type) >=> mark ")") s
    else if s.isMark "[" then (skip >=> free (commaList "]" (tupleElement g)) >=> mark "]") s
    else if s.isMark "\x7b" then objectType g s
    else if s.isMark "-" && s.peek.kind == .number then (skip >=> skip) s
    else none

def postfixType (g : Pursuit) : Step :=
  primaryType g >=>
    repeatWhile (fun s => s.isMark "[" && !s.token.afterLineEnd)
      (skip >=> branch (·.isMark "]") skip (free (g .type) >=> mark "]"))

/-- A type to be inferred, with its bound unless a condition begins behind it. -/
def inferredType (g : Pursuit) : Step :=
  word "infer" >=> name >=>
    whenever (·.isWord "extends")
      (optionally (skip >=> g .plainType >=> fun s => if s.isMark "?" then none else some s))

def operatorType (g : Pursuit) : Step :=
  repeatWhile (fun s => s.token.kind == .word && typeOperators.contains s.token.text)
      (branch (fun s => s.isWord "unique" && !s.peek.isWord "symbol") refuse skip) >=>
    branch (·.isWord "infer") (inferredType g) (postfixType g)

def intersectionType (g : Pursuit) : Step :=
  optionalMark "&" >=> operatorType g >=> repeatWhile (·.isMark "&") (skip >=> operatorType g)

def unionType (g : Pursuit) : Step :=
  optionalMark "|" >=> intersectionType g >=> repeatWhile (·.isMark "|") (skip >=> intersectionType g)

def functionType (g : Pursuit) : Step :=
  whenever (·.isWord "abstract") skip >=> whenever (·.isWord "new") skip >=>
    optionalTypeParameters g >=> parameters g >=> mark "=>" >=> returnedType g

def startsFunctionType (s : State) : Bool :=
  s.isMark "<" || (s.isWord "new" && (s.peek.isMark "(" || s.peek.isMark "<")) ||
    (s.isWord "abstract" && s.peek.isWord "new")

def plainType (g : Pursuit) : Step :=
  node .typeNode
    (branch startsFunctionType (functionType g)
      (branch (·.isMark "(") (either (functionType g) (unionType g)) (unionType g)))

def type (g : Pursuit) : Step :=
  node .typeNode
    (plainType g >=>
      whenever (fun s => s.isWord "extends" && !s.token.afterLineEnd)
        (skip >=> g .plainType >=> mark "?" >=> free (g .type) >=> mark ":" >=> g .type))

end Footprint.Script
