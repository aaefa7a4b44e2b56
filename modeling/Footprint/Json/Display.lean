import Footprint.Decimal.Notation
import Footprint.Json.Value
import Footprint.Text.Quoted

/-! Values in running text: a text stands as it is, but is quoted inside a list or an object. -/
namespace Footprint.Json

mutual

def quotedText : Json → String
  | .null => "None"
  | .bool b => if b then "True" else "False"
  | .int n => toString n
  | .float x => x.text
  | .string s => Text.quoted s
  | .array [] => "[]"
  | .array (item :: items) => "[" ++ quotedText item ++ quotedItems items ++ "]"
  | .object [] => "\x7b\x7d"
  | .object ((key, value) :: members) =>
    "\x7b" ++ Text.quoted key ++ ": " ++ quotedText value ++ quotedMembers members ++ "\x7d"

def quotedItems : List Json → String
  | [] => ""
  | item :: items => ", " ++ quotedText item ++ quotedItems items

def quotedMembers : List (String × Json) → String
  | [] => ""
  | (key, value) :: members =>
    ", " ++ Text.quoted key ++ ": " ++ quotedText value ++ quotedMembers members

end

def displayText : Json → String
  | .string s => s
  | value => quotedText value

example : displayText (.array [.int 1, .string "a", .bool true]) = "[1, 'a', True]" := by decide +kernel

end Footprint.Json
