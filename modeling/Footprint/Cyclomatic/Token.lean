import Footprint.Text.Digit
import Footprint.Text.Identifier

/-! Tokens of Python sources, each read from the front of a text. -/
namespace Footprint.Cyclomatic

structure Quotation where
  bytes : Bool
  /-- Whether escapes stand for nothing but themselves. -/
  raw : Bool
  /-- Whether expressions in braces are part of it. -/
  formatted : Bool
  body : List Char

inductive Token where
  | name (text : String)
  | keyword (text : String)
  | number (imaginary : Bool)
  | string (q : Quotation)
  | mark (text : String)
  | lineEnd
  | indent
  | dedent

def keywords : List String :=
  ["False", "None", "True", "and", "as", "assert", "async", "await", "break", "class", "continue",
    "def", "del", "elif", "else", "except", "finally", "for", "from", "global", "if", "import", "in",
    "is", "lambda", "nonlocal", "not", "or", "pass", "raise", "return", "try", "while", "with",
    "yield"]

/-! ### Names and marks -/

/-- A name or keyword; characters beyond ASCII belong to names, and have to be fit for them. -/
def word? (text : List Char) : Option (Token × List Char) :=
  let (chars, rest) := text.span fun c => c.isAlphanum || c == '_' || 128 ≤ c.toNat
  match chars with
  | [] => none
  | first :: others =>
    if Text.isIdentifierStart first && others.all Text.isIdentifierPart then
      let w := String.ofList chars
      some (if keywords.contains w then .keyword w else .name w, rest)
    else none

/-- Marks, the longer ones first. -/
def marks : List String :=
  ["**=", "//=", ">>=", "<<=", "...", "!=", "%=", "&=", "**", "*=", "+=", "-=", "->", "//", "/=", ":=",
    "<<", "<=", "==", ">=", ">>", "@=", "^=", "|=", "(", ")", "[", "]", "\x7b", "\x7d", ":", ",", ";",
    "+", "-", "*", "/", "|", "&", "<", ">", "=", ".", "%", "~", "^", "@"]

def mark? (text : List Char) : Option (String × List Char) :=
  (marks.find? fun m => m.toList.isPrefixOf text).map fun m => (m, text.drop m.length)

/-! ### Numbers -/

def digitsFrom (isDigit : Char → Bool) : List Char → Option (List Char)
  | [] => some []
  | '_' :: c :: rest => if isDigit c then digitsFrom isDigit rest else none
  | ['_'] => none
  | c :: rest => if isDigit c then digitsFrom isDigit rest else some (c :: rest)

/-- Whether a number may end here: no name goes on, unless it is a word that may follow a value. -/
def endsNumber (text : List Char) : Bool :=
  match text with
  | [] => true
  | c :: _ =>
    !(c.isAlphanum || c == '_' || 128 ≤ c.toNat) ||
      ["and", "else", "for", "if", "in", "is", "or", "not"].any fun w => w.toList.isPrefixOf text

/-- An integer in another base behind its letter: an underscore may stand in front of its digits. -/
def basedNumber? (isDigit : Char → Bool) (text : List Char) : Option (Token × List Char) :=
  let text := match text with
    | '_' :: rest => rest
    | text => text
  match text with
  | first :: rest =>
    if isDigit first then
      match digitsFrom isDigit rest with
      | some rest => if endsNumber rest then some (.number false, rest) else none
      | none => none
    else none
  | [] => none

/-- Whether an exponent comes: a digit behind its letter, with or without a sign between them. -/
def startsExponent : List Char → Bool
  | mark :: c :: rest =>
    (mark == 'e' || mark == 'E') &&
      (c.isDigit || ((c == '+' || c == '-') && rest.head?.any Char.isDigit))
  | _ => false

/-- What follows the exponent in front, if there is one; a sign needs a digit behind it. -/
def afterExponent (text : List Char) : Option (List Char) :=
  match text with
  | mark :: c :: rest =>
    if mark = 'e' ∨ mark = 'E' then
      if c.isDigit then digitsFrom Char.isDigit (c :: rest)
      else if c = '+' ∨ c = '-' then
        if rest.head?.any Char.isDigit then digitsFrom Char.isDigit rest else none
      else some text
    else some text
  | text => some text

/-- The end of a decimal number: the letter of imaginary ones, and nothing of a name behind it. -/
def finishNumber (text : List Char) : Option (Token × List Char) :=
  match text with
  | c :: rest =>
    if c = 'j' ∨ c = 'J' then (if endsNumber rest then some (.number true, rest) else none)
    else if endsNumber text then some (.number false, text)
    else none
  | [] => some (.number false, [])

def fraction? (text : List Char) : Option (Token × List Char) := do
  let rest ← match text with
    | c :: _ => if c.isDigit then digitsFrom Char.isDigit text else some text
    | [] => some []
  finishNumber (← afterExponent rest)

/-- A decimal number. One that starts with a zero and has other digits needs a fraction, an exponent or
the letter of imaginary ones. -/
def decimal? (text : List Char) : Option (Token × List Char) := do
  let rest ← digitsFrom Char.isDigit text
  let digits := text.takeWhile fun c => c.isDigit || c == '_'
  match rest with
  | '.' :: behind => fraction? behind
  | _ =>
    let behind ← afterExponent rest
    let (token, last) ← finishNumber behind
    let whole := !startsExponent rest && (match token with | .number imaginary => !imaginary | _ => true)
    if whole && digits.head? == some '0' && digits.any (fun c => c != '0' && c != '_') then none
    else some (token, last)

def number? (text : List Char) : Option (Token × List Char) :=
  match text with
  | '0' :: base :: rest =>
    if base = 'x' ∨ base = 'X' then basedNumber? Text.isHexDigit rest
    else if base = 'o' ∨ base = 'O' then basedNumber? (fun c => '0' ≤ c && c ≤ '7') rest
    else if base = 'b' ∨ base = 'B' then basedNumber? (fun c => c == '0' || c == '1') rest
    else decimal? text
  | '.' :: rest => fraction? rest
  | _ => decimal? text

/-! ### Strings -/

def prefixOf? (letters : List Char) : Option (Bool × Bool × Bool) :=
  match letters.map Char.toLower with
  | [] => some (false, false, false)
  | ['u'] => some (false, false, false)
  | ['b'] => some (true, false, false)
  | ['r'] => some (false, true, false)
  | ['f'] => some (false, false, true)
  | ['b', 'r'] | ['r', 'b'] => some (true, true, false)
  | ['f', 'r'] | ['r', 'f'] => some (false, true, true)
  | _ => none

/-- The text up to a quote that stands once, on one line, or three times. -/
def bodyTo (quote : Char) (triple : Bool) (taken : List Char) : List Char → Option (List Char × List Char)
  | [] => none
  | '\\' :: c :: rest => bodyTo quote triple (c :: '\\' :: taken) rest
  | c :: rest =>
    if c = quote then
      if !triple then some (taken.reverse, rest)
      else
        match rest with
        | c₁ :: c₂ :: behind =>
          if c₁ = quote ∧ c₂ = quote then some (taken.reverse, behind) else bodyTo quote triple (c :: taken) rest
        | _ => none
    else if c = '\n' && !triple then none
    else bodyTo quote triple (c :: taken) rest

def allHex (count : Nat) (text : List Char) : Bool :=
  (text.take count).length == count && (text.take count).all Text.isHexDigit

/-- Whether the eight digits of the longest escape name a character. -/
def inUnicode (digits : List Char) : Bool :=
  digits.take 2 == ['0', '0'] &&
    ((digits.drop 2).take 2 == ['1', '0'] || (digits.drop 2).take 1 == ['0'])

def escapesWhole (bytes : Bool) : List Char → Bool
  | [] => true
  | '\\' :: 'x' :: rest => allHex 2 rest && escapesWhole bytes rest
  | '\\' :: 'u' :: rest => (bytes || allHex 4 rest) && escapesWhole bytes rest
  | '\\' :: 'U' :: rest => (bytes || (allHex 8 rest && inUnicode rest)) && escapesWhole bytes rest
  | '\\' :: 'N' :: rest =>
    (bytes || (rest.head? == some '\x7b' && rest.contains '\x7d')) && escapesWhole bytes rest
  | '\\' :: _ :: rest => escapesWhole bytes rest
  | _ :: rest => escapesWhole bytes rest

def quotation? (bytes raw formatted : Bool) (text : List Char) : Option (Token × List Char) :=
  match text with
  | [] => none
  | quote :: rest =>
    let found :=
      match rest with
      | q₁ :: q₂ :: behind =>
        if q₁ = quote ∧ q₂ = quote then bodyTo quote true [] behind else bodyTo quote false [] rest
      | _ => bodyTo quote false [] rest
    match found with
    | none => none
    | some (body, rest) =>
      if (raw || escapesWhole bytes body) && (!bytes || body.all fun c => c.toNat < 128) then
        some (.string ⟨bytes, raw, formatted, body⟩, rest)
      else none

def string? (text : List Char) : Option (Option (Token × List Char)) :=
  let (letters, rest) := text.span Char.isAlpha
  match rest.head? with
  | some quote =>
    if quote = '"' ∨ quote = '\'' then
      (prefixOf? letters).map fun (bytes, raw, formatted) => quotation? bytes raw formatted rest
    else none
  | none => none

example : (number? "1_000.5e-3j)".toList).map Prod.snd = some [')'] ∧
    (number? "012".toList).isNone ∧ (number? "0x_fF ".toList).map Prod.snd = some [' '] ∧
    (number? "1if".toList).map Prod.snd = some ['i', 'f'] := by decide +kernel

end Footprint.Cyclomatic
