import Footprint.Syntax.Tree

/-! A cursor that walks a tree: down to the first child, else on to the next sibling, else up until
some ancestor has one. It never leaves the tree it started on, since that tree has no siblings to
it. -/
namespace Footprint.Syntax

/-- A position in a walk, with the siblings still to come at this level and at those above, the
nearest level first. -/
structure Cursor where
  focus : Tree
  siblings : List Tree
  above : List (List Tree)

namespace Cursor

def start (t : Tree) : Cursor := ⟨t, [], []⟩

/-- The next tree among the levels above, if one of them has any left. -/
def climb? : List (List Tree) → Option Cursor
  | [] => none
  | [] :: above => climb? above
  | (t :: siblings) :: above => some ⟨t, siblings, above⟩

def next? (c : Cursor) : Option Cursor :=
  match c.focus.children with
  | [] => climb? (c.siblings :: c.above)
  | first :: rest => some ⟨first.2, rest.map Prod.snd, c.siblings :: c.above⟩

/-- The trees under the cursor at each step, the latest first, in front of those already seen. The
first argument bounds the number of steps. -/
def visited : Nat → Cursor → List Tree → List Tree
  | 0, _, seen => seen
  | steps + 1, c, seen =>
    match c.next? with
    | none => c.focus :: seen
    | some c' => visited steps c' (c.focus :: seen)

end Cursor

def Tree.walk (t : Tree) : List Tree := (Cursor.visited t.size (.start t) []).reverse

end Footprint.Syntax
