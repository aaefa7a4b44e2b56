import Footprint.Proofs.Binary64.Within
import Footprint.Proofs.Complexity
import Footprint.Proofs.Signals.Tally
import Footprint.Proofs.Syntax.Insertion

/-! Adding code lowers no counter. A tree that has grown says at least what it said before, and what is new
in between adds something or nothing; so each running sum stays at least what it was, and with the sums the
factors that are made of them. -/
namespace Footprint

open Syntax Binary64

/-! ### Trees that have grown -/

namespace Syntax.Tree

open Signals

variable {t t' : Tree}

theorem Kept.memberProperty?_eq (h : Kept t t') (plain : t.hasPlainNames = true) :
    t'.memberProperty? = t.memberProperty? := by
  rw [memberProperty?, memberProperty?, ← h.kind_eq]
  split
  · next member =>
    have leaf : (t.child? .property).all isLeaf = true := by
      simp only [hasPlainNames, member, Bool.and_eq_true] at plain
      exact plain.1.2
    rw [h.child?_eq leaf]
  · rfl

theorem Kept.callee (h : Kept t t') (names : t.namesAreLeaves = true) :
    t'.calledMember? = t.calledMember? ∧ t'.calledName? = t.calledName? := by
  have kept := h.child? .callee
  unfold calledMember? calledName?
  generalize t'.child? .callee = changed at kept ⊢
  cases found : t.child? .callee with
  | none =>
    rw [found] at kept
    cases kept
    exact ⟨rfl, rfl⟩
  | some c =>
    rw [found] at kept
    cases kept with
    | some k =>
      have plain := hasPlainNames_of_namesAreLeaves
        (namesAreLeaves_of_mem names (mem_preorder_of_child? found))
      have property := k.memberProperty?_eq plain
      refine ⟨property, ?_⟩
      by_cases identifier : c.kind = .identifier
      · have leaf : c.isLeaf = true := by
          simp only [hasPlainNames, identifier, Bool.and_eq_true] at plain
          exact plain.2
        rw [k.eq_of_isLeaf leaf]
      · simp [← k.kind_eq, identifier, property]

theorem Kept.loopTerm?_eq (h : Kept t t') (names : t.namesAreLeaves = true) :
    t'.loopTerm? = t.loopTerm? := by
  have same : t'.iterates = t.iterates := by
    by_cases call : t.kind = .call
    · rw [← iterates_eq t call, ← iterates_eq t' (h.kind_eq ▸ call), (h.callee names).1]
    · have other : (t.kind == Kind.call) = false := by simpa using call
      simp only [iterates, ← h.kind_eq, other, Bool.false_and]
  rw [loopTerm?_def, loopTerm?_def, same, h.kind_eq]

theorem Kept.allocates_eq (h : Kept t t') : t'.allocates = t.allocates := by
  have kept := h.child? .value
  unfold allocates
  rw [h.kind_eq]
  generalize t'.child? .value = changed at kept ⊢
  generalize t.child? .value = value at kept ⊢
  cases kept with
  | none => rfl
  | some k => simp [k.kind_eq]

theorem Kept.exists_declared? (h : Kept t t') (names : t.namesAreLeaves = true) {d : String × Tree}
    (declared : d ∈ t.declared?) : ∃ body, (d.1, body) ∈ t'.declared? ∧ Kept d.2 body ∧
      d.2.namesAreLeaves = true := by
  have plain := hasPlainNames_of_namesAreLeaves names
  have kept := h.child? .body
  rw [declared?_def] at declared ⊢
  rw [← h.kind_eq]
  generalize t'.child? .body = changed at kept ⊢
  split at declared
  · next function =>
    have leaf : (t.child? .name).all isLeaf = true := by
      simp only [hasPlainNames, function, Bool.and_eq_true] at plain
      exact plain.1.1
    rw [if_pos function, h.child?_eq leaf]
    cases named : t.child? .name with
    | none => simp [named] at declared
    | some name =>
      cases found : t.child? .body with
      | none => simp [named, found] at declared
      | some body =>
        rw [found] at kept
        simp only [named, found, Option.bind_some] at declared
        split at declared
        · cases declared
        · next nonempty =>
          obtain rfl := Option.some.inj declared
          cases kept with
          | @some _ body' k =>
            exact ⟨body', by simp [nonempty], k,
              namesAreLeaves_of_mem names (mem_preorder_of_child? found)⟩
  · cases declared

theorem Kept.nestsLoops (h : Kept t t') (names : t.namesAreLeaves = true) (nests : t.nestsLoops = true) :
    t'.nestsLoops = true := by
  rw [nestsLoops_def] at nests ⊢
  obtain ⟨d, declared, many⟩ := (Option.any_eq_true _ _).mp nests
  obtain ⟨body, declared', kept, -⟩ := h.exists_declared? names declared
  have more := kept.preorder.countP_le isEntryLoop
  simp only [Option.mem_def] at declared'
  simp only [declared', Option.any_some, decide_eq_true_eq] at many ⊢
  omega

theorem Kept.callsItself (h : Kept t t') (names : t.namesAreLeaves = true) (calls : t.callsItself = true) :
    t'.callsItself = true := by
  obtain ⟨d, declared, some⟩ := (Option.any_eq_true _ _).mp calls
  obtain ⟨body, declared', kept, inner⟩ := h.exists_declared? names declared
  obtain ⟨u, member, call⟩ := List.any_eq_true.mp some
  obtain ⟨u', member', same⟩ := kept.preorder.exists_mem member
  have called := (same.callee (namesAreLeaves_of_mem inner member)).2
  simp only [Option.mem_def] at declared'
  simp only [Tree.callsItself, declared', Option.any_some, List.any_eq_true]
  exact ⟨u', member', by rw [← same.kind_eq, called]; exact call⟩

end Syntax.Tree

/-! ### Counters -/

namespace Signals

open Tree

structure AtMost (s s' : Signals) : Prop where
  loops : Within s.loops s'.loops
  nesting : Within s.nesting s'.nesting
  recursion : Within s.recursion s'.recursion
  allocation : Within s.allocation s'.allocation
  recursive : s.recursive = true → s'.recursive = true

variable {s s' : Signals} {t t' : Tree}

theorem atMost_start : AtMost {} {} := ⟨.refl zero_le_zero, .refl zero_le_zero, .refl zero_le_zero,
  .refl zero_le_zero, id⟩

theorem loopTerm?_nonneg {w : Binary64} (h : t.loopTerm? = some w) : 0 ≤ w := by
  rw [loopTerm?_def] at h
  split at h
  · exact Option.some.inj h ▸ weights_nonneg.1
  · split at h
    · exact Option.some.inj h ▸ weights_nonneg.2.1
    · cases h

theorem AtMost.enter (h : s.AtMost s') (k : Tree.Kept t t') (names : t.namesAreLeaves = true) :
    (s.enter t).AtMost (s'.enter t') := by
  rw [enter_eq, enter_eq, k.loopTerm?_eq names, k.allocates_eq]
  obtain ⟨-, -, nesting, recursion, allocation⟩ := weights_nonneg
  constructor
  case loops =>
    cases term : t.loopTerm? with
    | none => exact h.loops
    | some w => exact h.loops.add (.refl (loopTerm?_nonneg term))
  case nesting => exact h.nesting.addIf nesting (k.nestsLoops names)
  case recursion => exact h.recursion.addIf recursion (k.callsItself names)
  case allocation => exact h.allocation.addIf allocation id
  case recursive =>
    have recursive := h.recursive
    have calls := k.callsItself names
    grind

theorem AtMost.enter_right (h : s.AtMost s') (t : Tree) : s.AtMost (s'.enter t) := by
  rw [enter_eq]
  obtain ⟨-, -, nesting, recursion, allocation⟩ := weights_nonneg
  constructor
  case loops =>
    cases term : t.loopTerm? with
    | none => exact h.loops
    | some w => exact h.loops.add_right (loopTerm?_nonneg term)
  case nesting => exact h.nesting.addIf_right nesting _
  case recursion => exact h.recursion.addIf_right recursion _
  case allocation => exact h.allocation.addIf_right allocation _
  case recursive => simp +contextual [h.recursive]

theorem AtMost.foldl {ts us : List Tree} (h : s.AtMost s') (names : ∀ t ∈ ts, t.namesAreLeaves = true)
    (kept : KeptAll ts us) : (ts.foldl Signals.enter s).AtMost (us.foldl Signals.enter s') := by
  obtain ⟨middle, same, inside⟩ := kept
  induction inside generalizing ts s s' with
  | slnil =>
    cases same
    exact h
  | cons added inside ih => exact ih (h.enter_right added) names same
  | cons_cons grown inside ih =>
    cases same with
    | cons first rest =>
      rw [List.forall_mem_cons] at names
      rw [List.foldl_cons, List.foldl_cons]
      exact ih (h.enter first names.1) names.2 rest

theorem atMost_visit (h : Inserted t t') (names : t.namesAreLeaves = true) :
    (visit {} t).AtMost (visit {} t') := by
  rw [visit_eq_foldl, visit_eq_foldl, entered_eq h.isNamed.1, entered_eq h.isNamed.2]
  refine atMost_start.foldl (fun u member => ?_) h.preorder.filter_isNamed
  exact namesAreLeaves_of_mem names (List.mem_filter.mp member).1

end Signals

/-! ### Factors -/

theorem Scoring.profile_syntaxTree (s : Signals) :
    (profile {} ⟨s, .syntaxTree⟩).complexity = clamp (1.0 + s.loops * 0.15 + s.nesting + s.recursion) 5.0 ∧
      (profile {} ⟨s, .syntaxTree⟩).memPressure = clamp (1.0 + s.allocation) 2.5 := by
  simp only [profile, and_self]

theorem Scoring.profile_le {s s' : Signals} (h : s.AtMost s') :
    (profile {} ⟨s, .syntaxTree⟩).complexity ≤ (profile {} ⟨s', .syntaxTree⟩).complexity ∧
      (profile {} ⟨s, .syntaxTree⟩).memPressure ≤ (profile {} ⟨s', .syntaxTree⟩).memPressure := by
  have loops : Within (1.0 + s.loops * 0.15) (1.0 + s'.loops * 0.15) :=
    ⟨le_trans' zero_le_one (one_le_add_loopShare h.loops.nonneg), add_loopShare_le h.loops.nonneg h.loops.le⟩
  have sum := (loops.add h.nesting).add h.recursion
  have pressure := (Within.refl zero_le_one).add h.allocation
  rw [(profile_syntaxTree s).1, (profile_syntaxTree s').1, (profile_syntaxTree s).2,
    (profile_syntaxTree s').2]
  exact ⟨clamp_le_clamp one_le_five sum.le, clamp_le_clamp one_le_recursiveComplexity pressure.le⟩

/-- A tree with one more named tree in it, which is none of the names, counts at least as much in every
respect, and is at least as complex. -/
theorem Signals.le_of_inserted {t t' : Tree} (h : Tree.Inserted t t') (names : t.namesAreLeaves = true)
    {stack stack' : CallStack} {s s' : Signals} (visited : ofTree? stack t = some s)
    (visited' : ofTree? stack' t' = some s') :
    s.loops ≤ s'.loops ∧ s.nesting ≤ s'.nesting ∧ s.recursion ≤ s'.recursion ∧
      s.allocation ≤ s'.allocation ∧ (s.recursive = true → s'.recursive = true) ∧
      (Scoring.profile {} ⟨s, .syntaxTree⟩).complexity ≤ (Scoring.profile {} ⟨s', .syntaxTree⟩).complexity ∧
      (Scoring.profile {} ⟨s, .syntaxTree⟩).memPressure ≤
        (Scoring.profile {} ⟨s', .syntaxTree⟩).memPressure := by
  unfold ofTree? at visited visited'
  split at visited
  · split at visited'
    · obtain rfl := Option.some.inj visited
      obtain rfl := Option.some.inj visited'
      have order := atMost_visit h names
      exact ⟨order.loops.le, order.nesting.le, order.recursion.le, order.allocation.le, order.recursive,
        Scoring.profile_le order⟩
    · cases visited'
  · cases visited

def boundByPattern : Tree := .node .variableDeclarator [(some .name, .node .objectPattern [])]

def selfCalling (added : List (Option Field × Tree)) : Tree :=
  .node .functionDeclaration ([(some .name, .leaf .identifier true "f")] ++
    (some .body, .node .block ([(none, boundByPattern), (none, .node .whileStatement [])] ++ added ++
      [(none, .node .call [(some .callee, .leaf .identifier true "f")])])) :: [])

theorem Signals.le_of_inserted_selfCalling :
    ofTree? {} (selfCalling []) = some ⟨1, 0, 1.5, 0, true⟩ ∧
      ofTree? {} (selfCalling [(none, .node .forStatement [])]) = some ⟨2, 0.8, 1.5, 0, true⟩ ∧
      (Scoring.profile {} ⟨⟨1, 0, 1.5, 0, true⟩, .syntaxTree⟩).complexity ≤
        (Scoring.profile {} ⟨⟨2, 0.8, 1.5, 0, true⟩, .syntaxTree⟩).complexity := by
  have before : ofTree? {} (selfCalling []) = some ⟨1, 0, 1.5, 0, true⟩ := by decide +kernel
  have after : ofTree? {} (selfCalling [(none, .node .forStatement [])]) = some ⟨2, 0.8, 1.5, 0, true⟩ := by
    decide +kernel
  have inserted : Tree.Inserted (selfCalling []) (selfCalling [(none, .node .forStatement [])]) :=
    .inside _ _ _ _ (.here _ [(none, boundByPattern), (none, .node .whileStatement [])] _ rfl)
  have names : (selfCalling []).namesAreLeaves = true := by decide +kernel
  exact ⟨before, after, (le_of_inserted inserted names before after).2.2.2.2.2.1⟩

end Footprint
