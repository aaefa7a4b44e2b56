/-! Line ends: a carriage return, alone or with a line feed behind it, counts as a line feed. -/
namespace Footprint.Text

def withLineFeeds : List Char → List Char
  | '\r' :: '\n' :: rest => '\n' :: withLineFeeds rest
  | '\r' :: rest => '\n' :: withLineFeeds rest
  | c :: rest => c :: withLineFeeds rest
  | [] => []

end Footprint.Text
