import Footprint.Proofs.Syntax.Walk

/-! Places in a tree, and the run of a cursor over them. A place is told by the indices of the children that
lead to it, so that equal trees at two places are told apart; in the order of these lists a tree comes
before those below it, and these before its later siblings. The run of a cursor ends, and it has then stood
at each place of the tree that it started on once, in this order. -/
namespace Footprint.Syntax

namespace Tree

def at? (t : Tree) : List Nat → Option Tree
  | [] => some t
  | i :: place => t.children[i]?.bind fun c => c.2.at? place

theorem at?_append (t : Tree) (p q : List Nat) : t.at? (p ++ q) = (t.at? p).bind fun u => u.at? q := by
  induction p generalizing t with
  | nil => rfl
  | cons i p ih => cases child : t.children[i]? <;> simp [at?, child, ih]

mutual

def places : Tree → List (List Nat)
  | leaf .. => [[]]
  | node _ children => [] :: placesFrom 0 children

def placesFrom (i : Nat) : List (Option Field × Tree) → List (List Nat)
  | [] => []
  | c :: rest => (places c.2).map (i :: ·) ++ placesFrom (i + 1) rest

end

theorem places_eq_cons (t : Tree) : t.places = [] :: placesFrom 0 t.children := by
  cases t <;> simp [places, placesFrom, children]

theorem mem_placesFrom {children : List (Option Field × Tree)} {i : Nat} {p : List Nat} :
    p ∈ placesFrom i children ↔
      ∃ j q c, p = (i + j) :: q ∧ children[j]? = some c ∧ q ∈ c.2.places := by
  induction children generalizing i with
  | nil => simp [placesFrom]
  | cons c rest ih =>
    rw [placesFrom, List.mem_append, List.mem_map, ih]
    constructor
    · rintro (⟨q, below, rfl⟩ | ⟨j, q, d, rfl, found, below⟩)
      · exact ⟨0, q, c, rfl, rfl, below⟩
      · exact ⟨j + 1, q, d, by rw [Nat.add_assoc, Nat.add_comm 1], found, below⟩
    · rintro ⟨_ | j, q, d, rfl, found, below⟩
      · obtain rfl := Option.some.inj found
        exact .inl ⟨q, below, rfl⟩
      · exact .inr ⟨j, q, d, by rw [Nat.add_assoc, Nat.add_comm 1], found, below⟩

theorem mem_places {t : Tree} {p : List Nat} : p ∈ t.places ↔ (t.at? p).isSome = true := by
  induction p generalizing t with
  | nil => simp [places_eq_cons, at?]
  | cons i p ih =>
    rw [places_eq_cons, List.mem_cons, mem_placesFrom, at?]
    cases found : t.children[i]? with
    | none => simp [found]
    | some c =>
      obtain ⟨field, u⟩ := c
      simp [found, ih]

mutual

theorem pairwise_places : (t : Tree) → t.places.Pairwise (· < ·)
  | leaf .. => List.pairwise_singleton _ _
  | node _ children => by
    rw [places, List.pairwise_cons]
    refine ⟨fun p member => ?_, pairwise_placesFrom 0 children⟩
    obtain ⟨j, q, c, rfl, -⟩ := mem_placesFrom.mp member
    exact List.nil_lt_cons _ _

theorem pairwise_placesFrom (i : Nat) :
    (children : List (Option Field × Tree)) → (placesFrom i children).Pairwise (· < ·)
  | [] => .nil
  | (field, t) :: rest => by
    rw [placesFrom, List.pairwise_append, List.pairwise_map]
    refine ⟨(pairwise_places t).imp fun less => List.cons_lt_cons_iff.mpr (.inr ⟨rfl, less⟩),
      pairwise_placesFrom (i + 1) rest, fun p own q other => ?_⟩
    obtain ⟨p, -, rfl⟩ := List.mem_map.mp own
    obtain ⟨j, q, c, rfl, -⟩ := mem_placesFrom.mp other
    exact List.cons_lt_cons_iff.mpr (.inl (by omega))

end

end Tree

namespace Cursor

/-! ### The cursor at a place -/

def child? (c : Cursor) (i : Nat) : Option Cursor :=
  match c.focus.children.drop i with
  | [] => none
  | first :: rest => some ⟨first.2, rest.map Prod.snd, c.siblings :: c.above⟩

def down? (c : Cursor) : List Nat → Option Cursor
  | [] => some c
  | i :: place => (c.child? i).bind fun d => d.down? place

theorem map_focus_child? (c : Cursor) (i : Nat) :
    (c.child? i).map focus = c.focus.children[i]?.map Prod.snd := by
  unfold child?
  rw [← List.head?_drop]
  cases c.focus.children.drop i <;> rfl

theorem map_focus_down? (c : Cursor) (p : List Nat) : (c.down? p).map focus = c.focus.at? p := by
  induction p generalizing c with
  | nil => rfl
  | cons i p ih =>
    have child := c.map_focus_child? i
    cases found : c.child? i with
    | none =>
      rw [found, Option.map_none, eq_comm, Option.map_eq_none_iff] at child
      simp [down?, Tree.at?, found, child]
    | some d =>
      rw [found, Option.map_some, eq_comm, Option.map_eq_some_iff] at child
      obtain ⟨entry, present, same⟩ := child
      simp [down?, Tree.at?, found, present, same, ih d]

/-! ### Runs -/

inductive Run : Cursor → List Cursor → Prop where
  | last {c : Cursor} : c.next? = none → Run c [c]
  | next {c d : Cursor} {rest : List Cursor} : c.next? = some d → Run d rest → Run c (c :: rest)

theorem Run.map_focus {c : Cursor} {cursors : List Cursor} (run : Run c cursors) :
    cursors.map focus = c.ahead := by
  induction run with
  | last final => rw [ahead_of_last final]; rfl
  | next step _ ih => rw [ahead_of_next step, List.map_cons, ih]

def GoesOn (levels : List (List Tree)) (rest : List Cursor) : Prop :=
  match climb? levels with
  | none => rest = []
  | some c => Run c rest

theorem next?_eq_climb? (c : Cursor) :
    c.next? = climb? (c.focus.children.map Prod.snd :: c.siblings :: c.above) := by
  unfold next?
  cases c.focus.children <;> rfl

theorem run_of_goesOn {c : Cursor} {rest : List Cursor}
    (on : GoesOn (c.focus.children.map Prod.snd :: c.siblings :: c.above) rest) : Run c (c :: rest) := by
  unfold GoesOn at on
  rw [← next?_eq_climb?] at on
  cases step : c.next? with
  | none =>
    rw [step] at on
    subst on
    exact .last step
  | some d =>
    rw [step] at on
    exact .next step on

mutual

/-- A run passes the places of the tree under the cursor, and then goes on from the levels above. -/
theorem exists_run (c : Cursor) {rest : List Cursor} (on : GoesOn (c.siblings :: c.above) rest) :
    (t : Tree) → c.focus = t →
      ∃ cursors, cursors.map some = t.places.map c.down? ∧ Run c (cursors ++ rest)
  | .leaf kind named text, under => by
    refine ⟨[c], rfl, run_of_goesOn ?_⟩
    rw [under]
    exact on
  | .node kind children, under => by
    have all : c.focus.children.drop 0 = children := by rw [under, List.drop_zero]; rfl
    obtain ⟨cursors, placed, onward⟩ := exists_run_all c on children all
    refine ⟨c :: cursors, ?_, run_of_goesOn ?_⟩
    · rw [Tree.places, List.map_cons, List.map_cons, placed]
      rfl
    · rw [under]
      exact onward

theorem exists_run_all (c : Cursor) {rest : List Cursor} (on : GoesOn (c.siblings :: c.above) rest)
    {i : Nat} : (children : List (Option Field × Tree)) → c.focus.children.drop i = children →
      ∃ cursors, cursors.map some = (Tree.placesFrom i children).map c.down? ∧
        GoesOn (children.map Prod.snd :: c.siblings :: c.above) (cursors ++ rest)
  | [], _ => ⟨[], rfl, on⟩
  | (field, t) :: later, left => by
    have others : c.focus.children.drop (i + 1) = later := by
      rw [← List.drop_drop, left]
      rfl
    obtain ⟨cursors, placed, onward⟩ := exists_run_all c on later others
    have child : c.child? i = some ⟨t, later.map Prod.snd, c.siblings :: c.above⟩ := by
      rw [child?, left]
    obtain ⟨first, firstPlaced, run⟩ :=
      exists_run ⟨t, later.map Prod.snd, c.siblings :: c.above⟩ onward t rfl
    refine ⟨first ++ cursors, ?_, by rwa [List.append_assoc]⟩
    rw [List.map_append, firstPlaced, placed, Tree.placesFrom, List.map_append, List.map_map]
    congr 1
    refine List.map_congr_left fun p _ => ?_
    simp [down?, child]

end

theorem exists_run_start (t : Tree) :
    ∃ cursors, Run (start t) cursors ∧ cursors.map some = t.places.map (start t).down? ∧
      t.walk = cursors.map focus := by
  obtain ⟨cursors, placed, run⟩ := exists_run (start t) (show GoesOn _ [] from rfl) t rfl
  rw [List.append_nil] at run
  refine ⟨cursors, run, placed, ?_⟩
  rw [run.map_focus, Tree.walk_eq_preorder]
  simp [ahead, start, behind]

end Cursor

end Footprint.Syntax
