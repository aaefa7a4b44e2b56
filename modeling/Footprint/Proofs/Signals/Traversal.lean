import Footprint.Proofs.Signals.Tally
import Footprint.Proofs.Syntax.Places

/-! The walk of a cursor and the visit of the counters, started at one tree. The walk ends, and it has then
passed the tree and all that is below it, each place once and before those below it; what it passes by a
name is what the visit enters. -/
namespace Footprint.Signals

open Syntax Tree

def dispatched (t : Tree) : List Tree := visitBy (fun seen u => seen ++ [u]) [] t

theorem foldl_concat {α : Type} (seen xs : List α) :
    xs.foldl (fun seen x => seen ++ [x]) seen = seen ++ xs := by
  induction xs generalizing seen with
  | nil => simp
  | cons x xs ih => simp [ih]

theorem dispatched_eq (t : Tree) : dispatched t = t.entered := by
  rw [dispatched, visitBy_eq_foldl, foldl_concat, List.nil_append]

theorem tail_walk (t : Tree) : t.walk.tail = preorderAll t.children := by
  rw [walk_eq_preorder, preorder_eq_cons, List.tail_cons]

/-- Wherever a tree stands in another one, the walk over it is a run of the cursor to its end. The cursor
stands once at each place from there on, in the order of the places, and never elsewhere. A visit of the
tree enters it and then the trees that the walk passes by a name after it, so all that the walk passes by a
name if the tree has a name itself. -/
theorem walk_passes_places {top t : Tree} {place : List Nat} (standing : top.at? place = some t) :
    ∃ (cursors : List Cursor) (places : List (List Nat)),
      Cursor.Run (.start t) cursors ∧
      t.walk = cursors.map Cursor.focus ∧
      cursors.map some = places.map (Cursor.start t).down? ∧
      places.Pairwise (· < ·) ∧
      (∀ p, p ∈ places ↔ (top.at? (place ++ p)).isSome = true) ∧
      t.walk.map some = (places.map fun p => top.at? (place ++ p)) ∧
      (∀ s : Signals, s.visit t = visitBy enter s t) ∧
      dispatched t = t :: t.walk.tail.filter isNamed ∧
      (dispatched t).filter isNamed = t.walk.filter isNamed ∧
      (t.isNamed = true → dispatched t = t.walk.filter isNamed) := by
  obtain ⟨cursors, run, placed, walked⟩ := Cursor.exists_run_start t
  have inside (p : List Nat) : top.at? (place ++ p) = t.at? p := by
    rw [at?_append, standing, Option.bind_some]
  have visited : dispatched t = t :: t.walk.tail.filter isNamed := by
    rw [dispatched_eq, entered, tail_walk]
  have first : t.walk = t :: t.walk.tail := by
    rw [tail_walk, walk_eq_preorder, preorder_eq_cons]
  refine ⟨cursors, t.places, run, walked, placed, pairwise_places t, fun p => ?_, ?_,
    fun s => visit_eq_visitBy s t, visited, ?_, fun named => ?_⟩
  · rw [inside, mem_places]
  · have focused := congrArg (List.map (Option.map Cursor.focus)) placed
    rw [List.map_map, List.map_map] at focused
    rw [walked, List.map_map]
    refine focused.trans (List.map_congr_left fun p _ => ?_)
    rw [Function.comp_apply, Cursor.map_focus_down?, inside]
    rfl
  · rw [visited, first, List.filter_cons, List.filter_cons, List.filter_filter]
    simp
  · rw [dispatched_eq, entered_eq named, walk_eq_preorder]

def callLoop : Tree :=
  .node .whileStatement
    [(none, .leaf .token false "while"), (none, .node .call [(some .callee, .leaf .identifier true "f")])]

def equalLoops : Tree := .node .block [(none, callLoop), (none, callLoop)]

theorem walk_passes_places_equalLoops :
    equalLoops.at? [1] = some callLoop ∧
      (∃ cursors, Cursor.Run (.start callLoop) cursors ∧ callLoop.walk = cursors.map Cursor.focus) ∧
      callLoop.walk.length = 4 ∧ dispatched callLoop = callLoop.walk.filter isNamed := by
  have standing : equalLoops.at? [1] = some callLoop := rfl
  obtain ⟨cursors, places, run, walked, -, -, -, -, -, -, -, named⟩ := walk_passes_places standing
  exact ⟨standing, ⟨cursors, run, walked⟩, rfl, named rfl⟩

end Footprint.Signals
