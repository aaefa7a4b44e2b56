import Footprint.Json.Value
import Footprint.Decimal.Reading

/-! Decoding JSON text. Beside the standard's grammar the names of the special numbers are read; of
members with one key the last counts. -/
namespace Footprint.Json

inductive DecodeError where
  | malformed
  | tooManyDigits (count : Nat)
  deriving DecidableEq, Repr

def isSpace (c : Char) : Bool := c == ' ' || c == '\t' || c == '\n' || c == '\r'

def skipSpace (text : List Char) : List Char := text.dropWhile isSpace

def hexValue? (c : Char) : Option Nat :=
  if '0' ≤ c ∧ c ≤ '9' then some (c.toNat - 48)
  else if 'a' ≤ c ∧ c ≤ 'f' then some (c.toNat - 87)
  else if 'A' ≤ c ∧ c ≤ 'F' then some (c.toNat - 55)
  else none

def hexUnit? (a b c d : Char) : Option Nat := do
  return ((← hexValue? a) * 16 + (← hexValue? b)) * 256 + (← hexValue? c) * 16 + (← hexValue? d)

def simpleEscape? (c : Char) : Option Char :=
  match c with
  | '"' => some '"'
  | '\\' => some '\\'
  | '/' => some '/'
  | 'b' => some '\x08'
  | 'f' => some '\x0c'
  | 'n' => some '\n'
  | 'r' => some '\r'
  | 't' => some '\t'
  | _ => none

def isHighUnit (unit : Nat) : Bool := 0xD800 ≤ unit && unit < 0xDC00

def isLowUnit (unit : Nat) : Bool := 0xDC00 ≤ unit && unit < 0xE000

def unitChar (unit : Nat) : Char :=
  if isHighUnit unit || isLowUnit unit then '\ufffd' else Char.ofNat unit

def pairChar (high low : Nat) : Char :=
  Char.ofNat (0x10000 + (high - 0xD800) * 0x400 + (low - 0xDC00))

def stringBody : List Char → Option (List Char × List Char)
  | [] => none
  | '"' :: rest => some ([], rest)
  | '\\' :: 'u' :: a :: b :: c :: d :: '\\' :: 'u' :: e :: f :: g :: h :: rest =>
    match hexUnit? a b c d, hexUnit? e f g h with
    | some first, some second =>
      if isHighUnit first && isLowUnit second then
        (stringBody rest).map fun (s, rest) => (pairChar first second :: s, rest)
      else
        (stringBody ('\\' :: 'u' :: e :: f :: g :: h :: rest)).map fun (s, rest) =>
          (unitChar first :: s, rest)
    | _, _ => none
  | '\\' :: 'u' :: a :: b :: c :: d :: rest =>
    match hexUnit? a b c d with
    | some unit => (stringBody rest).map fun (s, rest) => (unitChar unit :: s, rest)
    | none => none
  | '\\' :: e :: rest =>
    match simpleEscape? e with
    | some c => (stringBody rest).map fun (s, rest) => (c :: s, rest)
    | none => none
  | c :: rest =>
    if c.toNat < 32 || c == '\\' then none
    else (stringBody rest).map fun (s, rest) => (c :: s, rest)

def decimalValue (digits : List Char) : Nat :=
  digits.foldl (fun n c => 10 * n + (c.toNat - 48)) 0

def digitSpan (text : List Char) : List Char × List Char := text.span Char.isDigit

def wholePart : List Char → Option (List Char × List Char)
  | [] => none
  | c :: rest =>
    if c = '0' then some (['0'], rest)
    else if c.isDigit then
      let (digits, rest) := digitSpan rest
      some (c :: digits, rest)
    else none

def fractionPart : List Char → Option (List Char × List Char)
  | '.' :: rest =>
    match digitSpan rest with
    | ([], _) => none
    | span => some span
  | _ => none

def exponentPart : List Char → Option (Int × List Char)
  | mark :: rest =>
    if mark = 'e' ∨ mark = 'E' then
      let (negative, rest) := Decimal.splitSign rest
      match digitSpan rest with
      | ([], _) => none
      | (digits, rest) =>
        let n := decimalValue digits
        some (if negative then -(n : Int) else n, rest)
    else none
  | [] => none

def number (text : List Char) : Except DecodeError (Json × List Char) := do
  let (negative, rest) :=
    match text with
    | '-' :: rest => (true, rest)
    | _ => (false, text)
  let (whole, rest) ← (wholePart rest).elim (.error .malformed) .ok
  match fractionPart rest, exponentPart ((fractionPart rest).elim rest Prod.snd) with
  | none, none =>
    if Decimal.digitLimit < whole.length then .error (.tooManyDigits whole.length)
    else
      let n := decimalValue whole
      return (.int (if negative then -(n : Int) else n), rest)
  | fraction, exponent =>
    let digits := (fraction.elim [] Prod.fst)
    let rest := exponent.elim (fraction.elim rest Prod.snd) Prod.snd
    let power := exponent.elim 0 Prod.fst
    return (.float (Binary64.ofDecimal negative (decimalValue (whole ++ digits))
      (power - digits.length)), rest)

def names : List (String × Json) :=
  [("null", .null), ("true", .bool true), ("false", .bool false), ("NaN", .float .nan),
    ("Infinity", .float (.infinite false)), ("-Infinity", .float (.infinite true))]

def named? (text : List Char) : Option (Json × List Char) :=
  names.findSome? fun (name, value) =>
    if name.toList.isPrefixOf text then some (value, text.drop name.length) else none

mutual

/-- One value at the start of the text. The first argument bounds the nesting and is at least the
length of the text in every use. -/
def value : Nat → List Char → Except DecodeError (Json × List Char)
  | 0, _ => .error .malformed
  | fuel + 1, text =>
    match text with
    | '"' :: rest =>
      match stringBody rest with
      | some (s, rest) => .ok (.string (String.ofList s), rest)
      | none => .error .malformed
    | '[' :: rest =>
      match skipSpace rest with
      | ']' :: rest => .ok (.array [], rest)
      | rest => do
        let (items, rest) ← items fuel rest
        return (.array items, rest)
    | '\x7b' :: rest =>
      match skipSpace rest with
      | '}' :: rest => .ok (.object [], rest)
      | rest => do
        let (members, rest) ← members fuel rest
        return (ofMembers members, rest)
    | _ =>
      match named? text with
      | some found => .ok found
      | none => number text

def items : Nat → List Char → Except DecodeError (List Json × List Char)
  | 0, _ => .error .malformed
  | fuel + 1, text => do
    let (item, rest) ← value fuel text
    match skipSpace rest with
    | ']' :: rest => return ([item], rest)
    | ',' :: rest =>
      let (more, rest) ← items fuel (skipSpace rest)
      return (item :: more, rest)
    | _ => .error .malformed

def members : Nat → List Char → Except DecodeError (List (String × Json) × List Char)
  | 0, _ => .error .malformed
  | fuel + 1, text => do
    match text with
    | '"' :: rest =>
      let (key, rest) ← (stringBody rest).elim (.error .malformed) .ok
      match skipSpace rest with
      | ':' :: rest =>
        let (value, rest) ← value fuel (skipSpace rest)
        match skipSpace rest with
        | '\x7d' :: rest => return ([(String.ofList key, value)], rest)
        | ',' :: rest =>
          let (more, rest) ← members fuel (skipSpace rest)
          return ((String.ofList key, value) :: more, rest)
        | _ => .error .malformed
      | _ => .error .malformed
    | _ => .error .malformed

end

def decode (text : String) : Except DecodeError Json := do
  let chars := text.toList
  let (result, rest) ← value (2 * chars.length + 2) (skipSpace chars)
  if (skipSpace rest).isEmpty then return result else .error .malformed

end Footprint.Json
