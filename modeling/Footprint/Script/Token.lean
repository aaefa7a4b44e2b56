import Footprint.Text.Blank
import Footprint.Text.Digit

/-! Tokens of JavaScript and TypeScript, read one at a time from the front of a text. A slash is read
as an operator and a backquote as the start of a template; the grammar reads regular expressions,
template text and markup text itself, where it expects them. -/
namespace Footprint.Script

inductive TokenKind where
  | word | privateName | number | string | template | mark | ending | invalid
  deriving DecidableEq, Repr

/-- A token with what surrounds it: the text from its first character on, the text after it, and
whether a line ends between it and the token before. -/
structure Token where
  kind : TokenKind
  text : String
  start : List Char
  rest : List Char
  afterLineEnd : Bool

def isLineEnd (c : Char) : Bool := c == '\n' || c == '\r' || c == '\u2028' || c == '\u2029'

/-- Blanks between tokens: those of any text, the byte order mark and the invisible joiners. -/
def isGap (c : Char) : Bool :=
  if c.toNat < 128 then c == ' ' || (9 ≤ c.toNat && c.toNat ≤ 13)
  else Text.isBlank c || c == '\ufeff' || c == '\u2060' || c == '\u200b'

/-- Characters outside ASCII that are not blank may stand in names. -/
def isNameStart (c : Char) : Bool :=
  if c.toNat < 128 then c.isAlpha || c == '_' || c == '$' else !isGap c

def isNamePart (c : Char) : Bool := isNameStart c || c.isDigit

inductive GapMode where
  | between | lineComment | blockComment
  deriving DecidableEq

/-- The text after blanks and comments, and whether a line ended in them. A block comment that stays
open is refused. On request the marks of markup comments open a comment up to the end of the line,
the closing one at the beginning of a line only. -/
def skipGaps (markup : Bool) (mode : GapMode) (lineEnd : Bool) : List Char → Option (Bool × List Char)
  | [] => if mode = .blockComment then none else some (lineEnd, [])
  | '<' :: '!' :: '-' :: '-' :: rest =>
    match mode with
    | .between =>
      if markup then skipGaps markup .lineComment lineEnd rest
      else some (lineEnd, '<' :: '!' :: '-' :: '-' :: rest)
    | mode => skipGaps markup mode lineEnd rest
  | '-' :: '-' :: '>' :: rest =>
    match mode with
    | .between =>
      if markup && lineEnd then skipGaps markup .lineComment lineEnd rest
      else some (lineEnd, '-' :: '-' :: '>' :: rest)
    | mode => skipGaps markup mode lineEnd rest
  | '*' :: '/' :: rest =>
    match mode with
    | .between => some (lineEnd, '*' :: '/' :: rest)
    | .lineComment => skipGaps markup .lineComment lineEnd rest
    | .blockComment => skipGaps markup .between lineEnd rest
  | '/' :: c :: rest =>
    match mode with
    | .between =>
      if c = '/' then skipGaps markup .lineComment lineEnd rest
      else if c = '*' then skipGaps markup .blockComment lineEnd rest
      else some (lineEnd, '/' :: c :: rest)
    | .lineComment => skipGaps markup .lineComment lineEnd (c :: rest)
    | .blockComment => skipGaps markup .blockComment lineEnd (c :: rest)
  | c :: rest =>
    match mode with
    | .between =>
      if isGap c then skipGaps markup .between (lineEnd || isLineEnd c) rest
      else some (lineEnd, c :: rest)
    | .lineComment =>
      if isLineEnd c then skipGaps markup .between true rest else skipGaps markup .lineComment lineEnd rest
    | .blockComment => skipGaps markup .blockComment (lineEnd || isLineEnd c) rest

abbrev Span := List Char × List Char

def Span.text (s : Span) : String := String.ofList s.1.reverse

def startsUnicodeEscape : List Char → Bool
  | 'u' :: '\x7b' :: rest =>
    let after := rest.dropWhile Text.isHexDigit
    rest.head?.any Text.isHexDigit && after.head? == some '\x7d'
  | 'u' :: a :: b :: c :: d :: _ => Text.isHexDigit a && Text.isHexDigit b && Text.isHexDigit c && Text.isHexDigit d
  | _ => false

/-- The name at the front. Inside the braces of an escape every character up to the closing one is
taken. -/
def nameSpan (braced : Bool) (taken : List Char) : List Char → Option Span
  | [] => some (taken, [])
  | '\\' :: 'u' :: rest =>
    if startsUnicodeEscape ('u' :: rest) then
      nameSpan (rest.head? == some '\x7b') ('u' :: '\\' :: taken) rest
    else none
  | c :: rest =>
    if braced then nameSpan (c != '\x7d') (c :: taken) rest
    else if c = '\\' then none
    else if isNamePart c then nameSpan false (c :: taken) rest
    else some (taken, c :: rest)

/-- The string up to its closing quote. A line may end inside only behind a backslash, and an escape
by number needs its digits. -/
def stringSpan (quote : Char) (taken : List Char) : List Char → Option Span
  | [] => none
  | '\\' :: e :: rest =>
    let valid :=
      if e = 'x' then
        match rest with
        | a :: b :: _ => Text.isHexDigit a && Text.isHexDigit b
        | _ => false
      else if e = 'u' then startsUnicodeEscape ('u' :: rest)
      else true
    if !valid then none
    else if e = '\r' then
      match rest with
      | '\n' :: rest => stringSpan quote ('\n' :: '\r' :: '\\' :: taken) rest
      | rest => stringSpan quote ('\r' :: '\\' :: taken) rest
    else stringSpan quote (e :: '\\' :: taken) rest
  | c :: rest =>
    if c = quote then some (c :: taken, rest)
    else if c = '\n' ∨ c = '\r' ∨ c = '\\' then none
    else stringSpan quote (c :: taken) rest

def Span.takeWhile (test : Char → Bool) (taken : List Char) : List Char → Span
  | [] => (taken, [])
  | c :: rest => if test c then takeWhile test (c :: taken) rest else (taken, c :: rest)

def digitSpan (isDigit : Char → Bool) (s : Span) : Span :=
  .takeWhile (fun c => isDigit c || c == '_') s.1 s.2

def Span.optional (test : Char → Bool) (s : Span) : Span :=
  match s.2 with
  | c :: rest => if test c then (c :: s.1, rest) else s
  | [] => s

/-- An exponent, if there is a mark of one; the mark needs digits behind it. -/
def exponentSpan (s : Span) : Option Span :=
  match s.2 with
  | mark :: rest =>
    if mark = 'e' ∨ mark = 'E' then
      let signed := Span.optional (fun c => c == '+' || c == '-') (mark :: s.1, rest)
      if signed.2.head?.any Char.isDigit then some (digitSpan Char.isDigit signed) else none
    else some s
  | [] => some s

def basedSpan (isDigit : Char → Bool) (s : Span) : Option Span :=
  if s.2.head?.any isDigit then some ((digitSpan isDigit s).optional (· == 'n')) else none

def isOctalDigit (c : Char) : Bool := '0' ≤ c && c ≤ '7'

def isBinaryDigit (c : Char) : Bool := c == '0' || c == '1'

def numberSpan (text : List Char) : Option Span :=
  match text with
  | '0' :: 'x' :: rest => basedSpan Text.isHexDigit (['x', '0'], rest)
  | '0' :: 'X' :: rest => basedSpan Text.isHexDigit (['X', '0'], rest)
  | '0' :: 'o' :: rest => basedSpan isOctalDigit (['o', '0'], rest)
  | '0' :: 'O' :: rest => basedSpan isOctalDigit (['O', '0'], rest)
  | '0' :: 'b' :: rest => basedSpan isBinaryDigit (['b', '0'], rest)
  | '0' :: 'B' :: rest => basedSpan isBinaryDigit (['B', '0'], rest)
  | _ =>
    let whole := digitSpan Char.isDigit ([], text)
    match whole.2 with
    | 'n' :: rest => some ('n' :: whole.1, rest)
    | '.' :: rest => exponentSpan (digitSpan Char.isDigit ('.' :: whole.1, rest))
    | _ => exponentSpan whole

def marks : List String :=
  [">>>=", "...", "===", "!==", "**=", "<<=", ">>=", ">>>", "&&=", "||=", "??=",
    "=>", "==", "!=", "<=", ">=", "&&", "||", "??", "?.", "++", "--", "+=", "-=", "*=", "/=", "%=",
    "&=", "|=", "^=", "<<", ">>", "**",
    "\x7b", "\x7d", "(", ")", "[", "]", ";", ",", "<", ">", "+", "-", "*", "/", "%", "&", "|", "^",
    "!", "~", "?", ":", "=", ".", "@"]

/-- The marks as characters, so that each is compared from the front. -/
def markChars : List (String × List Char) := marks.map fun m => (m, m.toList)

/-- The longest mark at the front. A question mark before a fraction does not take its point. -/
def markAt? (text : List Char) : Option (String × List Char) :=
  match text with
  | '?' :: '.' :: c :: rest =>
    if c.isDigit then some ("?", '.' :: c :: rest) else some ("?.", c :: rest)
  | _ =>
    markChars.findSome? fun (m, chars) =>
      if chars.isPrefixOf text then some (m, text.drop chars.length) else none

def Token.invalid (start : List Char) (afterLineEnd : Bool) : Token :=
  ⟨.invalid, "", start, [], afterLineEnd⟩

/-- A token that scanning has delimited; one that it refused is invalid. -/
def Token.ofScan (kind : TokenKind) (start : List Char) (span : Option Span)
    (afterLineEnd : Bool) : Token :=
  match span with
  | some span => ⟨kind, span.text, start, span.2, afterLineEnd⟩
  | none => .invalid start afterLineEnd

/-- A number may not run into a name. -/
def numberToken (start : List Char) (afterLineEnd : Bool) : Token :=
  .ofScan .number start
    ((numberSpan start).filter fun span => !span.2.head?.any isNamePart) afterLineEnd

def tokenAt (start : List Char) (afterLineEnd : Bool) : Token :=
  match start with
  | [] => ⟨.ending, "", [], [], afterLineEnd⟩
  | c :: rest =>
    if c == '\\' || isNameStart c then
      .ofScan .word start (nameSpan false [] start) afterLineEnd
    else if c.isDigit then numberToken start afterLineEnd
    else if c == '.' && rest.head?.any Char.isDigit then numberToken start afterLineEnd
    else if c == '"' || c == '\'' then
      .ofScan .string start (stringSpan c [c] rest) afterLineEnd
    else if c == '\x60' then ⟨.template, "\x60", start, rest, afterLineEnd⟩
    else if c == '#' then
      if rest.head?.any fun c => isNameStart c || c == '\\' then
        .ofScan .privateName start (nameSpan false [c] rest) afterLineEnd
      else .invalid start afterLineEnd
    else
      match markAt? start with
      | some (m, rest) => ⟨.mark, m, start, rest, afterLineEnd⟩
      | none => .invalid start afterLineEnd

/-- The first token of a text, behind its gaps. At the beginning of a program a line counts as having
ended. -/
def nextToken (markupComments atBeginning : Bool) (text : List Char) : Token :=
  match skipGaps markupComments .between atBeginning text with
  | some (lineEnd, start) => tokenAt start lineEnd
  | none => .invalid text false

end Footprint.Script
