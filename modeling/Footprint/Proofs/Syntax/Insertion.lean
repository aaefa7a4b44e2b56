import Footprint.Proofs.Syntax.Walk
import Footprint.Signals
import Mathlib.Data.List.Forall2

/-! Trees that grow by one tree among the children of some node. All trees in the smaller one are still in
the larger one, in their order and of their kinds, some of them grown themselves; and what stands under the
fields of a tree is the same or has grown. -/
namespace Footprint.Syntax.Tree

/-- A named tree is inserted into a tree, under no field, somewhere among the children of a node. -/
inductive Inserted : Tree → Tree → Prop
  | here (kind : Kind) (before after : List (Option Field × Tree)) {added : Tree}
    (named : added.isNamed = true) :
    Inserted (.node kind (before ++ after)) (.node kind (before ++ (none, added) :: after))
  | inside (kind : Kind) (before after : List (Option Field × Tree)) (field : Option Field) {t t' : Tree}
    (h : Inserted t t') :
    Inserted (.node kind (before ++ (field, t) :: after)) (.node kind (before ++ (field, t') :: after))

def Kept (t t' : Tree) : Prop := t = t' ∨ Inserted t t'

def isLeaf : Tree → Bool
  | leaf .. => true
  | node .. => false

/-- Names are leaves: that of a declared function, the property of a member, and an identifier. What a
variable is bound by may be a pattern. -/
def hasPlainNames (t : Tree) : Bool :=
  (!Signals.isFunctionDeclaration t.kind || (t.child? .name).all isLeaf) &&
    (t.kind != .member || (t.child? .property).all isLeaf) && (t.kind != .identifier || t.isLeaf)

def namesAreLeaves (t : Tree) : Bool := t.preorder.all hasPlainNames

variable {t t' u : Tree}

@[refl] theorem Kept.refl (t : Tree) : Kept t t := .inl rfl

theorem Inserted.kind_eq (h : Inserted t t') : t.kind = t'.kind := by cases h <;> rfl

theorem Inserted.isLeaf_eq (h : Inserted t t') : t.isLeaf = false := by cases h <;> rfl

theorem Inserted.isNamed (h : Inserted t t') : t.isNamed = true ∧ t'.isNamed = true := by
  cases h <;> exact ⟨rfl, rfl⟩

theorem Kept.isNamed_eq (h : Kept t t') : t.isNamed = t'.isNamed :=
  h.elim (congrArg Tree.isNamed) fun inserted => inserted.isNamed.1.trans inserted.isNamed.2.symm

theorem Kept.kind_eq (h : Kept t t') : t.kind = t'.kind := h.elim (congrArg kind) Inserted.kind_eq

theorem Kept.eq_of_isLeaf (h : Kept t t') (leaf : t.isLeaf = true) : t = t' := by
  cases h with
  | inl same => exact same
  | inr inserted => simp [inserted.isLeaf_eq] at leaf

/-! ### Fields -/

def KeptField : Option Tree → Option Tree → Prop := Option.Rel Kept

theorem KeptField.refl (c : Option Tree) : KeptField c c := by
  cases c
  · exact .none
  · exact .some (.refl _)

theorem Inserted.child? (h : Inserted t t') (f : Field) : KeptField (t.child? f) (t'.child? f) := by
  cases h with
  | @here kind before after added named =>
    have same : (node kind (before ++ (none, added) :: after)).child? f = (node kind (before ++ after)).child? f := by
      simp [child?, children, List.find?_append]
    exact same ▸ .refl _
  | inside kind before after field h =>
    simp only [child?, children, List.find?_append, List.find?_cons]
    cases before.find? fun c => c.1 == some f with
    | some c => exact .refl _
    | none =>
      cases field == some f with
      | true => exact .some (.inr h)
      | false => exact .refl _

theorem Kept.child? (h : Kept t t') (f : Field) : KeptField (t.child? f) (t'.child? f) := by
  cases h with
  | inl same => exact same ▸ .refl _
  | inr inserted => exact inserted.child? f

/-! ### Trees below -/

theorem preorderAll_append (cs ds : List (Option Field × Tree)) :
    preorderAll (cs ++ ds) = preorderAll cs ++ preorderAll ds := by
  simp [preorderAll_eq_flatMap]

def KeptAll (ts ts' : List Tree) : Prop := ∃ us, List.Forall₂ Kept ts us ∧ us.Sublist ts'

theorem KeptAll.of_sublist {ts ts' : List Tree} (h : ts.Sublist ts') : KeptAll ts ts' :=
  ⟨ts, List.forall₂_same.mpr fun t _ => .refl t, h⟩

theorem KeptAll.append {ts ts' us us' : List Tree} (h : KeptAll ts ts') (k : KeptAll us us') :
    KeptAll (ts ++ us) (ts' ++ us') := by
  obtain ⟨vs, kept, inside⟩ := h
  obtain ⟨ws, kept', inside'⟩ := k
  exact ⟨vs ++ ws, List.rel_append kept kept', inside.append inside'⟩

theorem KeptAll.cons {ts ts' : List Tree} (h : Kept t t') (k : KeptAll ts ts') :
    KeptAll (t :: ts) (t' :: ts') := by
  obtain ⟨us, kept, inside⟩ := k
  exact ⟨t' :: us, .cons h kept, inside.cons_cons t'⟩

theorem Inserted.preorder (h : Inserted t t') : KeptAll t.preorder t'.preorder := by
  induction h with
  | here kind before after named =>
    simp only [Tree.preorder, preorderAll_append, preorderAll]
    refine .cons (.inr (.here kind before after named)) (.of_sublist ?_)
    exact (List.sublist_append_right ..).append_left _
  | inside kind before after field h ih =>
    simp only [Tree.preorder, preorderAll_append, preorderAll]
    refine .cons (.inr (.inside kind before after field h)) ?_
    exact (KeptAll.of_sublist (.refl _)).append (ih.append (.of_sublist (.refl _)))

theorem Kept.preorder (h : Kept t t') : KeptAll t.preorder t'.preorder := by
  cases h with
  | inl same => exact same ▸ .of_sublist (.refl _)
  | inr inserted => exact inserted.preorder

theorem KeptAll.exists_mem {ts ts' : List Tree} (h : KeptAll ts ts') (member : u ∈ ts) :
    ∃ u' ∈ ts', Kept u u' := by
  obtain ⟨us, kept, inside⟩ := h
  suffices found : ∃ u' ∈ us, Kept u u' from found.imp fun u' h => ⟨inside.subset h.1, h.2⟩
  clear inside
  induction kept with
  | nil => simp at member
  | @cons t t' ts us first rest ih =>
    obtain rfl | later := List.mem_cons.mp member
    · exact ⟨t', by simp, first⟩
    · obtain ⟨u', found, same⟩ := ih later
      exact ⟨u', by simp [found], same⟩

theorem KeptAll.countP_le {ts ts' : List Tree} (h : KeptAll ts ts') (test : Kind → Bool) :
    ts.countP (fun u => test u.kind) ≤ ts'.countP fun u => test u.kind := by
  obtain ⟨us, kept, inside⟩ := h
  refine Nat.le_trans (Nat.le_of_eq ?_) inside.countP_le
  clear inside
  induction kept with
  | nil => rfl
  | cons first rest ih => simp [List.countP_cons, first.kind_eq, ih]

theorem KeptAll.filter_isNamed {ts ts' : List Tree} (h : KeptAll ts ts') :
    KeptAll (ts.filter Tree.isNamed) (ts'.filter Tree.isNamed) := by
  obtain ⟨us, kept, inside⟩ := h
  refine ⟨us.filter Tree.isNamed, ?_, inside.filter _⟩
  clear inside
  induction kept with
  | nil => exact .nil
  | @cons t u ts us first rest ih =>
    rw [List.filter_cons, List.filter_cons, ← first.isNamed_eq]
    split
    · exact .cons first ih
    · exact ih

/-! ### Names -/

theorem mem_preorder_self (t : Tree) : t ∈ t.preorder := by simp [preorder_eq_cons]

mutual

theorem preorder_subset_of_mem {u : Tree} : (t : Tree) → u ∈ t.preorder → u.preorder ⊆ t.preorder
  | leaf kind named text => by
    intro member
    rw [preorder, List.mem_singleton] at member
    simp [member, preorder]
  | node kind children => by
    intro member
    rw [preorder, List.mem_cons] at member
    obtain rfl | below := member
    · simp
    · rw [preorder]
      exact List.subset_cons_of_subset _ (preorder_subset_of_mem_all children below)

theorem preorder_subset_of_mem_all {u : Tree} :
    (cs : List (Option Field × Tree)) → u ∈ preorderAll cs → u.preorder ⊆ preorderAll cs
  | [] => by simp [preorderAll]
  | (field, t) :: rest => by
    intro member
    rw [preorderAll, List.mem_append] at member
    rw [preorderAll]
    cases member with
    | inl first => exact List.subset_append_of_subset_left _ (preorder_subset_of_mem t first)
    | inr later => exact List.subset_append_of_subset_right _ (preorder_subset_of_mem_all rest later)

end

theorem mem_preorder_of_child? {f : Field} (h : t.child? f = some u) : u ∈ t.preorder := by
  obtain ⟨c, found, rfl⟩ := Option.map_eq_some_iff.mp h
  have member := List.mem_of_find?_eq_some found
  simp only [preorder_eq_cons t, preorderAll_eq_flatMap, List.mem_cons, List.mem_flatMap, List.mem_map]
  exact .inr ⟨c.2, ⟨c, member, rfl⟩, mem_preorder_self _⟩

theorem namesAreLeaves_of_mem (names : t.namesAreLeaves = true) (member : u ∈ t.preorder) :
    u.namesAreLeaves = true :=
  List.all_eq_true.mpr fun w hw => List.all_eq_true.mp names w (preorder_subset_of_mem t member hw)

theorem hasPlainNames_of_namesAreLeaves (names : t.namesAreLeaves = true) : t.hasPlainNames = true :=
  List.all_eq_true.mp names t (mem_preorder_self t)

theorem Kept.child?_eq {f : Field} (h : Kept t t') (leaf : (t.child? f).all isLeaf = true) :
    t'.child? f = t.child? f := by
  have kept := h.child? f
  generalize t'.child? f = changed at kept ⊢
  cases first : t.child? f with
  | none =>
    rw [first] at kept
    cases kept
    rfl
  | some c =>
    rw [first] at kept leaf
    cases kept with
    | some k => rw [k.eq_of_isLeaf leaf]

end Footprint.Syntax.Tree
