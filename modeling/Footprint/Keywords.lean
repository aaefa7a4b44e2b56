import Footprint.Text.Word

/-! Loop keywords in plain text: words that suggest iteration in many languages, counted wherever they
stand whole, comments and strings included. -/
namespace Footprint.Keywords

def keywords : List (List Char) :=
  ["for", "while", "do", "forEach", "map", "filter", "reduce"].map String.toList

/-- Whether a keyword stands at the front and no word character follows it. -/
def standsAt (text : List Char) : Bool :=
  keywords.any fun k => k.isPrefixOf text && !(text.drop k.length).head?.any Text.isWord

/-- Adds the keywords that start in a text to a count; `inWord` says whether a word character comes
before it. -/
def countFrom (count : Nat) (inWord : Bool) : List Char → Nat
  | [] => count
  | c :: rest =>
    countFrom (if !inWord && standsAt (c :: rest) then count + 1 else count) (Text.isWord c) rest

def count (text : String) : Nat := countFrom 0 false text.toList

example : count "for (a of b) { forEach; format; do_it }" = 2 := by decide +kernel

end Footprint.Keywords
