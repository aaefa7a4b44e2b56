import Footprint.Syntax.Walk
import Mathlib.Data.List.Basic

/-! A walk passes every tree once, each before those below it. What a cursor has still to pass is read off
its position: the tree under it, then its siblings and those of the levels above. -/
namespace Footprint.Syntax

namespace Tree

theorem preorderAll_eq_flatMap (children : List (Option Field × Tree)) :
    preorderAll children = (children.map Prod.snd).flatMap preorder := by
  induction children with
  | nil => simp [preorderAll]
  | cons c rest ih => simp [preorderAll, ih]

theorem preorder_eq_cons (t : Tree) : t.preorder = t :: preorderAll t.children := by
  cases t <;> simp [preorder, children, preorderAll]

end Tree

namespace Cursor

def behind (levels : List (List Tree)) : List Tree := levels.flatMap (·.flatMap Tree.preorder)

def ahead (c : Cursor) : List Tree := c.focus.preorder ++ behind (c.siblings :: c.above)

theorem climb?_eq_none {levels : List (List Tree)} (h : climb? levels = none) : behind levels = [] := by
  induction levels with
  | nil => simp [behind]
  | cons level above ih =>
    cases level with
    | nil => simpa [behind] using ih h
    | cons t siblings => simp [climb?] at h

theorem climb?_eq_some {levels : List (List Tree)} {c : Cursor} (h : climb? levels = some c) :
    behind levels = c.ahead := by
  induction levels with
  | nil => simp [climb?] at h
  | cons level above ih =>
    cases level with
    | nil => simpa [behind] using ih h
    | cons t siblings =>
      simp only [climb?, Option.some.injEq] at h
      subst h
      simp [behind, ahead]

theorem ahead_of_last {c : Cursor} (h : c.next? = none) : c.ahead = [c.focus] := by
  unfold next? at h
  split at h
  · next leaf => simp [ahead, Tree.preorder_eq_cons, leaf, Tree.preorderAll, climb?_eq_none h]
  · cases h

theorem ahead_of_next {c c' : Cursor} (h : c.next? = some c') : c.ahead = c.focus :: c'.ahead := by
  unfold next? at h
  split at h
  · next leaf => simp [ahead, Tree.preorder_eq_cons, leaf, Tree.preorderAll, climb?_eq_some h]
  · next first rest below =>
    obtain rfl := Option.some.inj h
    simp [ahead, behind, Tree.preorder_eq_cons c.focus, below, Tree.preorderAll_eq_flatMap]

theorem visited_eq (steps : Nat) {c : Cursor} (enough : c.ahead.length ≤ steps) (seen : List Tree) :
    visited steps c seen = c.ahead.reverse ++ seen := by
  induction steps generalizing c seen with
  | zero => simp [ahead, Tree.preorder_eq_cons] at enough
  | succ steps ih =>
    cases next : c.next? with
    | none => simp [visited, next, ahead_of_last next]
    | some c' =>
      rw [ahead_of_next next, List.length_cons] at enough
      simp [visited, next, ahead_of_next next, ih (by omega : c'.ahead.length ≤ steps)]

end Cursor

theorem Tree.walk_eq_preorder (t : Tree) : t.walk = t.preorder := by
  have all : (Cursor.start t).ahead = t.preorder := by simp [Cursor.ahead, Cursor.start, Cursor.behind]
  have enough : (Cursor.start t).ahead.length ≤ t.size := by simp [all, t.length_preorder]
  rw [walk, Cursor.visited_eq t.size enough, all]
  simp

end Footprint.Syntax
