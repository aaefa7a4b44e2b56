import Footprint.Cyclomatic.Token
import Footprint.Text.LineFeeds

/-! Lines of Python sources: a line that is not blank ends a statement unless a bracket is open, and the
depth of its indentation opens and closes blocks. -/
namespace Footprint.Cyclomatic

/-- The depth of an indentation, with tabs up to the next multiple of eight and with tabs as one. The two
must agree on what is deeper. -/
structure Depth where
  wide : Nat
  narrow : Nat
  deriving DecidableEq

def mostBrackets : Nat := 200

/-- No more indentations than this may be open at once, that of the outermost lines included. -/
def mostDepths : Nat := 100

structure Layout where
  /-- The brackets that are open, the latest first. -/
  brackets : List Char := []
  /-- The indentations of the blocks that are open, the deepest first. -/
  depths : List Depth := [⟨0, 0⟩]
  /-- The tokens so far, the latest first. -/
  tokens : List Token := []

/-- The depth of the blanks at the front of a line, and the rest of it. A backslash at the end of the
line goes on with the next one; the first that stands behind blanks settles the depth. -/
def depthOf (settled : Option Depth) (d : Depth) : List Char → Option (Depth × List Char)
  | ' ' :: rest => depthOf settled ⟨d.wide + 1, d.narrow + 1⟩ rest
  | '\t' :: rest => depthOf settled ⟨(d.wide / 8 + 1) * 8, d.narrow + 1⟩ rest
  | '\x0c' :: rest => depthOf settled ⟨0, 0⟩ rest
  | '\\' :: '\n' :: c :: rest =>
    depthOf (settled.or (if d.wide = 0 then none else some ⟨d.wide, d.wide⟩)) d (c :: rest)
  | '\\' :: _ => none
  | rest => some (settled.getD d, rest)

def closeTo (d : Depth) : List Depth → List Token → Option (List Depth × List Token)
  | [], _ => none
  | top :: below, tokens =>
    if d.wide = top.wide then (if d.narrow = top.narrow then some (top :: below, tokens) else none)
    else if d.wide < top.wide then closeTo d below (.dedent :: tokens)
    else none

namespace Layout

def atDepth (l : Layout) (d : Depth) : Option Layout :=
  match l.depths with
  | [] => none
  | top :: _ =>
    if top.wide < d.wide then
      if top.narrow < d.narrow ∧ l.depths.length < mostDepths then
        some { l with depths := d :: l.depths, tokens := .indent :: l.tokens }
      else none
    else (closeTo d l.depths l.tokens).map fun (depths, tokens) => { l with depths, tokens }

def put (l : Layout) (t : Token) : Layout := { l with tokens := t :: l.tokens }

def closerOf (c : Char) : Char := if c = '(' then ')' else if c = '[' then ']' else '\x7d'

def afterMark (l : Layout) (m : String) : Option Layout :=
  match m.toList with
  | [c] =>
    if c = '(' ∨ c = '[' ∨ c = '\x7b' then
      if l.brackets.length < mostBrackets then some { l.put (.mark m) with brackets := c :: l.brackets }
      else none
    else if c = ')' ∨ c = ']' ∨ c = '\x7d' then
      match l.brackets with
      | opened :: rest => if closerOf opened = c then some { l.put (.mark m) with brackets := rest } else none
      | [] => none
    else some (l.put (.mark m))
  | _ => some (l.put (.mark m))

def isLineBlank (c : Char) : Bool := c == ' ' || c == '\t' || c == '\x0c'

def scan (l : Layout) (text : List Char) : Option (Layout × List Char) :=
  let startsNumber :=
    match text with
    | c :: d :: _ => c.isDigit || (c == '.' && d.isDigit)
    | [c] => c.isDigit
    | [] => false
  if startsNumber then (number? text).map fun (t, rest) => (l.put t, rest)
  else
    match string? text with
    | some found => found.map fun (t, rest) => (l.put t, rest)
    | none =>
      match word? text with
      | some (t, rest) => some (l.put t, rest)
      | none =>
        match mark? text with
        | some (m, rest) => (l.afterMark m).map (·, rest)
        | none => none

/-- The layout of a whole text. `atStart` says whether a line begins. -/
def read : (fuel : Nat) → (atStart : Bool) → Layout → List Char → Option Layout
  | 0, _, _, _ => none
  | fuel + 1, true, l, text =>
    match depthOf none ⟨0, 0⟩ text with
    | none => none
    | some (d, rest) =>
      match rest with
      | [] => some l
      | '\n' :: rest => read fuel true l rest
      | '#' :: rest => read fuel true l ((rest.dropWhile (· != '\n')).drop 1)
      | rest =>
        if l.brackets.isEmpty then
          match l.atDepth d with
          | some l => read fuel false l rest
          | none => none
        else read fuel false l rest
  | fuel + 1, false, l, text =>
    match text.dropWhile isLineBlank with
    | [] => some (l.put .lineEnd)
    | '\n' :: rest => read fuel true (if l.brackets.isEmpty then l.put .lineEnd else l) rest
    | '#' :: rest => read fuel false l (rest.dropWhile (· != '\n'))
    | '\\' :: '\n' :: c :: rest => read fuel false l (c :: rest)
    | '\\' :: _ => none
    | rest =>
      match l.scan rest with
      | some (l, rest) => read fuel false l rest
      | none => none

end Layout

def tokens? (text : List Char) : Option (List Token) := do
  let lines := Text.withLineFeeds text
  let lines := if lines.getLast?.any (· != '\n') then lines ++ ['\n'] else lines
  let l ← Layout.read (2 * lines.length + 2) true {} lines
  if !l.brackets.isEmpty then none
  let closed := List.replicate (l.depths.length - 1) Token.dedent
  some (l.tokens.reverse ++ closed)

end Footprint.Cyclomatic
