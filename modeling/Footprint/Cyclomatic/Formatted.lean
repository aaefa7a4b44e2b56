import Footprint.Cyclomatic.Token

/-! Strings with expressions in braces. An expression ends at a mark that no bracket or string in it
encloses; a conversion and a format may follow it, and a format may have expressions of its own. -/
namespace Footprint.Cyclomatic.Formatted

def isOpening (c : Char) : Bool := c == '(' || c == '[' || c == '\x7b'

def isClosing (c : Char) : Bool := c == ')' || c == ']' || c == '\x7d'

def isPair (opened closed : Char) : Bool :=
  (opened == '(' && closed == ')') || (opened == '[' && closed == ']') ||
    (opened == '\x7b' && closed == '\x7d')

/-- Marks that end an expression, unless they are the first half of a comparison. -/
def isEndMark (c : Char) : Bool := c == '!' || c == ':' || c == '\x7d' || c == '='

def isBeforeEquals (c : Char) : Bool := c == '!' || c == '=' || c == '<' || c == '>'

/-- The rest behind a string, which stands between single or triple quotes. -/
def afterString (quote : Char) (triple : Bool) : List Char → Option (List Char)
  | [] => none
  | c :: rest =>
    if c = '\\' then none
    else if c != quote then afterString quote triple rest
    else if !triple then some rest
    else if rest.take 2 == [c, c] then some (rest.drop 2)
    else afterString quote triple rest

/-- The rest from the mark that ends an expression. Backslashes and comments cannot be written in it. -/
def fromEndMark : (fuel : Nat) → (brackets : List Char) → List Char → Option (List Char)
  | 0, _, _ => none
  | _, _, [] => none
  | fuel + 1, brackets, c :: rest =>
    if c = '\\' ∨ c = '#' then none
    else if c = '"' ∨ c = '\'' then
      let triple := rest.take 2 == [c, c]
      (afterString c triple (if triple then rest.drop 2 else rest)).bind (fromEndMark fuel brackets)
    else if isOpening c then fromEndMark fuel (c :: brackets) rest
    else
      match brackets with
      | opened :: below =>
        if !isClosing c then fromEndMark fuel brackets rest
        else if isPair opened c then fromEndMark fuel below rest
        else none
      | [] =>
        if isBeforeEquals c && rest.head? == some '=' then fromEndMark fuel [] (rest.drop 1)
        else if isEndMark c then some (c :: rest)
        else if isClosing c then none
        else fromEndMark fuel [] rest

/-- The text of an expression and the rest from the mark that ends it. -/
def expressionText (text : List Char) : Option (List Char × List Char) :=
  (fromEndMark (text.length + 1) [] text).map fun rest =>
    (text.take (text.length - rest.length), rest)

def isBrace (c : Char) : Bool := c == '\x7b' || c == '\x7d'

/-- The rest from the next brace that is not doubled. In a format braces cannot be doubled. Names of
characters have braces of their own. -/
def fromBrace (raw inFormat : Bool) : (fuel : Nat) → List Char → Option (List Char)
  | 0, _ => none
  | _, [] => some []
  | fuel + 1, c :: rest =>
    if c = '\\' ∧ !raw then
      match rest with
      | [] => some []
      | c₁ :: behind =>
        if c₁ = 'N' then fromBrace raw inFormat fuel ((behind.dropWhile (· != '\x7d')).drop 1)
        else fromBrace raw inFormat fuel (if isBrace c₁ then rest else behind)
    else if !isBrace c then fromBrace raw inFormat fuel rest
    else if inFormat then some (c :: rest)
    else if rest.head? == some c then fromBrace raw inFormat fuel (rest.drop 1)
    else if c = '\x7b' then some (c :: rest)
    else none

def isBlank (c : Char) : Bool := c == ' ' || c == '\t' || c == '\n' || c == '\x0c'

def afterEquals : List Char → List Char
  | '=' :: rest => rest.dropWhile fun c => isBlank c || c == '\r' || c == '\x0b'
  | rest => rest

def afterConversion : List Char → Option (List Char)
  | '!' :: c :: rest => if c = 's' ∨ c = 'r' ∨ c = 'a' then some rest else none
  | ['!'] => none
  | rest => some rest

/-- The expressions of a text, up to its end or, in a format, to the brace behind that. Formats nest no
deeper than two. -/
def expressions (raw : Bool) : (fuel depth : Nat) → List Char →
    Option (List (List Char) × List Char)
  | 0, _, _ => none
  | fuel + 1, depth, text => do
    match ← fromBrace raw (depth != 0) (text.length + 1) text with
    | '\x7b' :: rest =>
      if 2 ≤ depth then none
      let (expression, behind) ← expressionText rest
      if expression.all isBlank then none
      let behind ← afterConversion (afterEquals behind)
      let (inner, behind) ←
        match behind with
        | ':' :: rest => expressions raw fuel (depth + 1) rest
        | rest => some ([], rest)
      match behind with
      | '\x7d' :: rest =>
        let (others, rest) ← expressions raw fuel depth rest
        some (expression :: (inner ++ others), rest)
      | _ => none
    | rest => some ([], rest)

end Formatted

def Quotation.expressions? (q : Quotation) : Option (List (List Char)) :=
  if q.formatted then
    (Formatted.expressions q.raw (q.body.length + 1) 0 q.body).map Prod.fst
  else some []

example : (Quotation.expressions? ⟨false, false, true, "a\x7bb!r:>\x7bc\x7d\x7d \x7b\x7b \x7bd==e\x7d".toList⟩) =
    some [['b'], ['c'], ['d', '=', '=', 'e']] := by decide +kernel

end Footprint.Cyclomatic
