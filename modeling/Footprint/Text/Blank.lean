import Footprint.Text.Ranges

/-! Blank characters: white space of Unicode 14 together with the four information separators, and
the texts that are left when blanks are taken from both ends. -/
namespace Footprint.Text

def blankRanges : Ranges :=
  [(0x9, 0xD), (0x1C, 0x20), (0x85, 0x85), (0xA0, 0xA0), (0x1680, 0x1680), (0x2000, 0x200A),
   (0x2028, 0x2029), (0x202F, 0x202F), (0x205F, 0x205F), (0x3000, 0x3000)]

def isBlank (c : Char) : Bool := blankRanges.holds c

def stripBy (isDropped : Char → Bool) (text : String) : String :=
  String.ofList ((text.toList.dropWhile isDropped).reverse.dropWhile isDropped).reverse

def strip (text : String) : String := stripBy isBlank text

end Footprint.Text
