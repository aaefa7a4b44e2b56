/-! Paths of files: components behind a root. Empty components and single points say nothing and are
left out; a pair of points is kept. -/
namespace Footprint

structure Path where
  /-- One or two slashes for a path from the root, nothing for one from where the program runs. -/
  root : String
  parts : List String
  deriving DecidableEq, Repr

namespace Path

/-- Three slashes at the front count as one. -/
def rootOf (text : List Char) : String :=
  match text.takeWhile (· == '/') with
  | [] => ""
  | [_, _] => "//"
  | _ => "/"

def ofText (text : String) : Path where
  root := rootOf text.toList
  parts := ((text.toList.splitOn '/').map String.ofList).filter fun p => p ≠ "" ∧ p ≠ "."

def text (p : Path) : String :=
  if p.root = "" ∧ p.parts = [] then "." else p.root ++ "/".intercalate p.parts

def name (p : Path) : String := p.parts.getLast?.getD ""

def append (p : Path) (parts : List String) : Path := { p with parts := p.parts ++ parts }

/-- The name from its last point on, unless the point comes first or last. -/
def suffixOf (name : List Char) : List Char :=
  let behind := (name.reverse.takeWhile (· != '.')).reverse
  let before := name.take (name.length - behind.length - 1)
  if behind.length < name.length ∧ before ≠ [] ∧ behind ≠ [] then '.' :: behind else []

def suffix (p : Path) : String := String.ofList (suffixOf p.name.toList)

/-- Paths are ordered by their components, not by their text. -/
def partsBefore : List String → List String → Bool
  | [], _ => true
  | _ :: _, [] => false
  | a :: as, b :: bs => if a = b then partsBefore as bs else decide (a < b)

example : (ofText "./d//e.ts").text = "d/e.ts" ∧ (ofText "d/../u.js").text = "d/../u.js" ∧
    (ofText "").text = "." ∧ (ofText "///a").text = "/a" := by decide +kernel

example : (ofText "a/b.tar.gz").suffix = ".gz" ∧ (ofText ".py").suffix = "" ∧
    (ofText "a.").suffix = "" := by decide +kernel

end Path
end Footprint
