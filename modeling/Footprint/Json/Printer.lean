import Footprint.Json.Value
import Footprint.Decimal.Notation
import Footprint.Decimal.Reading
import Footprint.Text.Quoted

/-! The written form of a JSON value: members and items on lines of their own under an indentation,
or all on one line. A style says which characters are written by their code units. -/
namespace Footprint.Json

structure Style where
  /-- Spaces per level; with none, the value is on one line. -/
  indent : Option Nat
  /-- Characters written as `\u` escapes, besides those that JSON never allows raw. -/
  escaped : Char → Bool

def asciiStyle (indent : Option Nat) : Style where
  indent := indent
  escaped c := !(32 ≤ c.toNat && c.toNat ≤ 126)

def unitEscape (unit : Nat) : List Char := '\\' :: 'u' :: Text.hex 4 unit

def codeUnits (c : Char) : List Nat :=
  if c.toNat < 0x10000 then [c.toNat]
  else
    let offset := c.toNat - 0x10000
    [0xD800 + offset / 0x400, 0xDC00 + offset % 0x400]

def escapeChar (style : Style) (c : Char) : List Char :=
  if c = '"' then ['\\', '"']
  else if c = '\\' then ['\\', '\\']
  else if c = '\n' then ['\\', 'n']
  else if c = '\r' then ['\\', 'r']
  else if c = '\t' then ['\\', 't']
  else if c = '\x0c' then ['\\', 'f']
  else if c = '\x08' then ['\\', 'b']
  else if c.toNat < 32 || style.escaped c then (codeUnits c).flatMap unitEscape
  else [c]

def stringText (style : Style) (s : String) : String :=
  String.ofList ('"' :: s.toList.flatMap (escapeChar style) ++ ['"'])

def floatText : Binary64 → String
  | .nan => "NaN"
  | .infinite negative => if negative then "-Infinity" else "Infinity"
  | x => x.text

def lineBreak (style : Style) (level : Nat) : String :=
  match style.indent with
  | none => ""
  | some width => "\n" ++ String.ofList (List.replicate (level * width) ' ')

def separator (style : Style) (level : Nat) : String :=
  match style.indent with
  | none => ", "
  | some _ => "," ++ lineBreak style level

mutual

def render (style : Style) (level : Nat) : Json → String
  | .null => "null"
  | .bool b => if b then "true" else "false"
  | .int n => toString n
  | .float x => floatText x
  | .string s => stringText style s
  | .array [] => "[]"
  | .array (item :: items) =>
    "[" ++ lineBreak style (level + 1) ++ render style (level + 1) item ++
      renderItems style (level + 1) items ++ lineBreak style level ++ "]"
  | .object [] => "\x7b\x7d"
  | .object ((key, value) :: members) =>
    "\x7b" ++ lineBreak style (level + 1) ++ stringText style key ++ ": " ++
      render style (level + 1) value ++ renderMembers style (level + 1) members ++
      lineBreak style level ++ "\x7d"

def renderItems (style : Style) (level : Nat) : List Json → String
  | [] => ""
  | item :: items =>
    separator style level ++ render style level item ++ renderItems style level items

def renderMembers (style : Style) (level : Nat) : List (String × Json) → String
  | [] => ""
  | (key, value) :: members =>
    separator style level ++ stringText style key ++ ": " ++ render style level value ++
      renderMembers style level members

end

def print (style : Style) (value : Json) : String := render style 0 value

/-! ### Integers that are too long -/

mutual

/-- Whether every integer in a value has few enough digits to be written. -/
def isWritable : Json → Bool
  | .int n => n.natAbs < Nat.pow 10 Decimal.digitLimit
  | .array items => areWritable items
  | .object members => membersWritable members
  | _ => true

def areWritable : List Json → Bool
  | [] => true
  | item :: items => isWritable item && areWritable items

def membersWritable : List (String × Json) → Bool
  | [] => true
  | (_, value) :: members => isWritable value && membersWritable members

end

def writable (value : Json) : Except Decimal.IntegerTextError Json :=
  if value.isWritable then .ok value else .error .tooLongToWrite

end Footprint.Json
