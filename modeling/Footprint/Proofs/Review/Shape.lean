import Footprint.Review
import Mathlib.Data.List.Basic

/-! The shape of a review. A JSON object is read as a review exactly when its four fields have values of the
expected form, whatever else it holds and in whatever order. Of any other object the fields that are missing
or have another value are told, in their order, and a value that is no object is refused as such. -/
namespace Footprint

/-! ### Members in any order -/

namespace Json

theorem lookup_eq_some_iff_mem {members : List (String × Json)} (distinct : (members.map Prod.fst).Nodup)
    {key : String} {value : Json} : members.lookup key = some value ↔ (key, value) ∈ members := by
  induction members with
  | nil => simp
  | cons m members ih =>
    obtain ⟨k, v⟩ := m
    rw [List.map_cons, List.nodup_cons] at distinct
    rw [List.lookup_cons, List.mem_cons, Prod.mk.injEq]
    by_cases same : key = k
    · subst same
      have single : (key, value) ∉ members := fun other =>
        distinct.1 (List.mem_map.mpr ⟨_, other, rfl⟩)
      simp [single, eq_comm]
    · have differs : (key == k) = false := beq_false_of_ne same
      simp [differs, same, ih distinct.2]

theorem lookup_eq_of_perm {members others : List (String × Json)} (distinct : (members.map Prod.fst).Nodup)
    (perm : members.Perm others) (key : String) : members.lookup key = others.lookup key := by
  have distinct' : (others.map Prod.fst).Nodup := (perm.map Prod.fst).nodup_iff.mp distinct
  refine Option.ext fun value => ?_
  rw [lookup_eq_some_iff_mem distinct, lookup_eq_some_iff_mem distinct', perm.mem_iff]

theorem lookup_filter {members : List (String × Json)} {p : String × Json → Bool} {key : String}
    (kept : ∀ value, p (key, value) = true) : (members.filter p).lookup key = members.lookup key := by
  induction members with
  | nil => rfl
  | cons m members ih =>
    obtain ⟨k, v⟩ := m
    by_cases same : key = k
    · subst same
      simp [kept]
    · have differs : (key == k) = false := beq_false_of_ne same
      by_cases stays : p (k, v) = true
      · simp [stays, List.lookup_cons, differs, ih]
      · simp [stays, List.lookup_cons, differs, ih]

end Json

namespace Review

/-! ### One field -/

def Admits : ReviewField → Json → Prop
  | .score, value => ∃ n : Int, value = .int n ∧ 1 ≤ n ∧ n ≤ 10
  | _, value => ∃ s : String, value = .string s ∧ 1 ≤ s.length

def Offends (members : List (String × Json)) (field : ReviewField) : Prop :=
  ∀ value, members.lookup field.name = some value → ¬Admits field value

theorem one_le_length_iff {s : String} : 1 ≤ s.length ↔ s ≠ "" := by
  rw [Nat.one_le_iff_ne_zero, Ne, String.length_eq_zero_iff]

theorem scoreProblem?_eq_none_iff {given : Option Json} :
    scoreProblem? given = none ↔ ∃ value, given = some value ∧ Admits .score value := by
  unfold scoreProblem? Admits
  split
  case h_1 => simp
  case h_2 n =>
    split
    · simp; omega
    · split
      · simp; omega
      · simp; omega
  case h_3 value other => simpa using fun n same => absurd same (other n)

theorem remarkProblem?_eq_none_iff {given : Option Json} :
    remarkProblem? given = none ↔ ∃ value, given = some value ∧ ∃ s : String, value = .string s ∧ 1 ≤ s.length := by
  unfold remarkProblem?
  split
  case h_1 => simp
  case h_2 s =>
    simp [one_le_length_iff]
  case h_3 value other => simpa using fun s same => absurd same (other s)

theorem not_offends_iff {members : List (String × Json)} {field : ReviewField} :
    ¬Offends members field ↔ ∃ value, members.lookup field.name = some value ∧ Admits field value := by
  simp [Offends]

theorem fieldProblem?_eq_none_iff {members : List (String × Json)} {field : ReviewField} :
    fieldProblem? (.object members) field = none ↔ ¬Offends members field := by
  rw [not_offends_iff]
  cases field with
  | score => exact scoreProblem?_eq_none_iff
  | bottleneck | optimization | improvement => exact remarkProblem?_eq_none_iff

/-! ### All fields -/

theorem map_fst_problems (payload : Json) :
    (problems payload).map Prod.fst = fields.filter fun field => (fieldProblem? payload field).isSome := by
  rw [problems, List.map_filterMap, ← List.filterMap_eq_filter]
  congr 1
  funext field
  cases problem : fieldProblem? payload field <;> simp [Option.guard, problem]

theorem mem_fields (field : ReviewField) : field ∈ fields := by
  cases field <;> decide

theorem mem_problems_iff {members : List (String × Json)} {field : ReviewField} :
    field ∈ (problems (.object members)).map Prod.fst ↔ Offends members field := by
  have listed := mem_fields field
  rw [map_fst_problems, List.mem_filter, Option.isSome_iff_ne_none, Ne, fieldProblem?_eq_none_iff, not_not]
  exact and_iff_right listed

theorem problems_eq_nil_iff {members : List (String × Json)} :
    problems (.object members) = [] ↔ ∀ field, ¬Offends members field := by
  rw [← List.map_eq_nil_iff, List.eq_nil_iff_forall_not_mem]
  exact forall_congr' fun field => not_congr mem_problems_iff

/-! ### The review -/

def Graded (r : Review) : Prop := 1 ≤ r.score ∧ r.score ≤ 10

structure WellFormed (r : Review) : Prop where
  graded : r.Graded
  bottleneck : 1 ≤ r.bottleneck.length
  optimization : 1 ≤ r.optimization.length
  improvement : 1 ≤ r.improvement.length

instance (r : Review) : Decidable r.WellFormed :=
  decidable_of_iff ((1 ≤ r.score ∧ r.score ≤ 10) ∧ 1 ≤ r.bottleneck.length ∧ 1 ≤ r.optimization.length ∧
      1 ≤ r.improvement.length)
    ⟨fun ⟨a, b, c, d⟩ => ⟨a, b, c, d⟩, fun ⟨a, b, c, d⟩ => ⟨a, b, c, d⟩⟩

structure Holds (members : List (String × Json)) (r : Review) : Prop where
  score : members.lookup "score" = some (.int r.score)
  bottleneck : members.lookup "bottleneck" = some (.string r.bottleneck)
  optimization : members.lookup "optimization" = some (.string r.optimization)
  improvement : members.lookup "improvement" = some (.string r.improvement)

theorem Holds.ofFields_eq {members : List (String × Json)} {r : Review} (h : Holds members r) :
    ofFields (.object members) = r := by
  simp [ofFields, Json.member?, ReviewField.name, h.score, h.bottleneck, h.optimization, h.improvement,
    scoreOf, remarkOf]

theorem exists_holds {members : List (String × Json)} (fine : ∀ field, ¬Offends members field) :
    ∃ r, Holds members r ∧ r.WellFormed := by
  simp only [not_offends_iff] at fine
  obtain ⟨_, score, n, rfl, graded⟩ := fine .score
  obtain ⟨_, bottleneck, s, rfl, some⟩ := fine .bottleneck
  obtain ⟨_, optimization, t, rfl, some'⟩ := fine .optimization
  obtain ⟨_, improvement, u, rfl, some''⟩ := fine .improvement
  exact ⟨⟨n, s, t, u⟩, ⟨score, bottleneck, optimization, improvement⟩, ⟨graded, some, some', some''⟩⟩

theorem Holds.not_offends {members : List (String × Json)} {r : Review} (h : Holds members r)
    (formed : r.WellFormed) (field : ReviewField) : ¬Offends members field := by
  rw [not_offends_iff]
  cases field with
  | score => exact ⟨_, h.score, _, rfl, formed.graded⟩
  | bottleneck => exact ⟨_, h.bottleneck, _, rfl, formed.bottleneck⟩
  | optimization => exact ⟨_, h.optimization, _, rfl, formed.optimization⟩
  | improvement => exact ⟨_, h.improvement, _, rfl, formed.improvement⟩

theorem ofJson_of_not_offends {members : List (String × Json)} (fine : ∀ field, ¬Offends members field) :
    ofJson (.object members) = .ok (ofFields (.object members)) := by
  rw [ofJson, problems_eq_nil_iff.mpr fine]

theorem ofJson_of_offends {members : List (String × Json)} {field : ReviewField}
    (offends : Offends members field) :
    ofJson (.object members) = .error (.invalidReview (problems (.object members))) := by
  have some : problems (.object members) ≠ [] := fun none => problems_eq_nil_iff.mp none field offends
  rw [ofJson]
  cases found : problems (.object members) with
  | nil => exact absurd found some
  | cons => rfl

theorem ofJson_of_not_object {payload : Json} (other : ∀ members, payload ≠ .object members) :
    ofJson payload = .error (.reviewNotObject payload.kindName) := by
  cases payload with
  | object members => exact absurd rfl (other members)
  | _ => rfl

theorem ofJson_eq_ok_iff {payload : Json} {r : Review} :
    ofJson payload = .ok r ↔ ∃ members, payload = .object members ∧ Holds members r ∧ r.WellFormed := by
  constructor
  · intro accepted
    by_cases object : ∃ members, payload = .object members
    · obtain ⟨members, rfl⟩ := object
      by_cases offends : ∃ field, Offends members field
      · obtain ⟨field, offends⟩ := offends
        rw [ofJson_of_offends offends] at accepted
        cases accepted
      · obtain ⟨other, holds, formed⟩ := exists_holds (not_exists.mp offends)
        rw [ofJson_of_not_offends (not_exists.mp offends), holds.ofFields_eq] at accepted
        obtain rfl := Except.ok.inj accepted
        exact ⟨members, rfl, holds, formed⟩
    · rw [ofJson_of_not_object fun members same => object ⟨members, same⟩] at accepted
      cases accepted
  · rintro ⟨members, rfl, holds, formed⟩
    rw [ofJson_of_not_offends (holds.not_offends formed), holds.ofFields_eq]

theorem graded_of_ofJson {payload : Json} {review : Review} (h : ofJson payload = .ok review) :
    review.Graded := by
  obtain ⟨members, -, -, formed⟩ := ofJson_eq_ok_iff.mp h
  exact formed.graded

/-! ### Other members -/

def reviewMembers (members : List (String × Json)) : List (String × Json) :=
  members.filter fun m => m.1 ∈ fields.map ReviewField.name

theorem lookup_reviewMembers (members : List (String × Json)) (field : ReviewField) :
    (reviewMembers members).lookup field.name = members.lookup field.name :=
  Json.lookup_filter fun _ => decide_eq_true (List.mem_map_of_mem (mem_fields field))

theorem ofJson_congr {members others : List (String × Json)}
    (same : ∀ field : ReviewField, members.lookup field.name = others.lookup field.name) :
    ofJson (.object members) = ofJson (.object others) := by
  have each (field : ReviewField) : fieldProblem? (.object members) field = fieldProblem? (.object others) field := by
    cases field <;> simp only [fieldProblem?, Json.member?, same]
  have found : problems (.object members) = problems (.object others) := by
    simp only [problems, each]
  have read : ofFields (.object members) = ofFields (.object others) := by
    simp only [ofFields, Json.member?, same]
  rw [ofJson, ofJson, found, read]

theorem ofJson_of_perm {members others : List (String × Json)} (distinct : (members.map Prod.fst).Nodup)
    (perm : (reviewMembers members).Perm (reviewMembers others)) :
    ofJson (.object members) = ofJson (.object others) := by
  have kept : ((reviewMembers members).map Prod.fst).Nodup :=
    distinct.sublist (List.filter_sublist.map Prod.fst)
  refine ofJson_congr fun field => ?_
  rw [← lookup_reviewMembers members, ← lookup_reviewMembers others, Json.lookup_eq_of_perm kept perm]

/-! ### From a review and back -/

theorem holds_toJson (r : Review) :
    ∃ members, r.toJson = .object members ∧ Holds members r := by
  refine ⟨_, rfl, ?_⟩
  constructor <;> rfl

theorem ofJson_toJson_iff {r : Review} : ofJson r.toJson = .ok r ↔ r.WellFormed := by
  obtain ⟨members, object, holds⟩ := r.holds_toJson
  rw [ofJson_eq_ok_iff, object]
  constructor
  · rintro ⟨-, -, -, formed⟩
    exact formed
  · exact fun formed => ⟨members, rfl, holds, formed⟩

/-- A value is accepted as a review exactly when it is an object that holds the four values of a well-formed
one, and it is that review. No other value is: what is no object is refused as such, and an object for the
fields that offend, in their order and each once. Neither further members nor the order of members matter, and
exactly the well-formed reviews are read back from the objects that they are written as. -/
theorem ofJson_accepts_shape :
    (∀ (payload : Json) (r : Review), ofJson payload = .ok r ↔
      ∃ members, payload = .object members ∧ Holds members r ∧ r.WellFormed) ∧
    (∀ payload : Json, (∀ members, payload ≠ .object members) →
      ofJson payload = .error (.reviewNotObject payload.kindName)) ∧
    (∀ members, (∀ r, ¬(Holds members r ∧ r.WellFormed)) →
      ∃ found, ofJson (.object members) = .error (.invalidReview found) ∧
        (found.map Prod.fst).Sublist [.score, .bottleneck, .optimization, .improvement] ∧
        ∀ field, field ∈ found.map Prod.fst ↔ Offends members field) ∧
    (∀ members others, (members.map Prod.fst).Nodup → (reviewMembers members).Perm (reviewMembers others) →
      ofJson (.object members) = ofJson (.object others)) ∧
    ∀ r : Review, ofJson r.toJson = .ok r ↔ r.WellFormed := by
  refine ⟨fun payload r => ofJson_eq_ok_iff, fun payload => ofJson_of_not_object, fun members refused => ?_,
    fun members others => ofJson_of_perm, fun r => ofJson_toJson_iff⟩
  have offending : ∃ field, Offends members field := by
    by_contra none
    obtain ⟨r, holds, formed⟩ := exists_holds (not_exists.mp none)
    exact refused r ⟨holds, formed⟩
  obtain ⟨field, offends⟩ := offending
  refine ⟨_, ofJson_of_offends offends, ?_, fun other => mem_problems_iff⟩
  rw [map_fst_problems]
  exact List.filter_sublist

def plainReview : Review := ⟨7, "Scans.", "Index.", "Cache."⟩

def plainMembers : List (String × Json) :=
  [("score", .int 7), ("bottleneck", .string "Scans."), ("optimization", .string "Index."),
    ("improvement", .string "Cache.")]

def shuffledMembers : List (String × Json) := ("note", .null) :: plainMembers.reverse

def faultyMembers : List (String × Json) := [("improvement", .null), ("score", .float 7), ("bottleneck", .string "")]

theorem ofJson_accepts_shuffled :
    ofJson (.object shuffledMembers) = .ok plainReview ∧
      ofJson (.object shuffledMembers) = ofJson (.object plainMembers) ∧
      ofJson plainReview.toJson = .ok plainReview ∧
      ofJson (.array [.int 7]) = .error (.reviewNotObject "list") ∧
      ∃ found, ofJson (.object faultyMembers) = .error (.invalidReview found) ∧
        (found.map Prod.fst).Sublist [.score, .bottleneck, .optimization, .improvement] ∧
        .optimization ∈ found.map Prod.fst := by
  obtain ⟨accepted, notObject, faulty, shuffled, back⟩ := ofJson_accepts_shape
  have formed : plainReview.WellFormed := by decide
  have holds : Holds shuffledMembers plainReview := ⟨rfl, rfl, rfl, rfl⟩
  have distinct : (shuffledMembers.map Prod.fst).Nodup := by decide
  have perm : (reviewMembers shuffledMembers).Perm (reviewMembers plainMembers) :=
    plainMembers.reverse_perm
  have unheld : ∀ r, ¬(Holds faultyMembers r ∧ r.WellFormed) := by
    rintro r ⟨held, -⟩
    cases held.score
  obtain ⟨found, refused, ordered, offending⟩ := faulty faultyMembers unheld
  have missing : Offends faultyMembers .optimization := by
    rintro value found
    cases found
  exact ⟨(accepted _ _).mpr ⟨_, rfl, holds, formed⟩, shuffled _ _ distinct perm, (back _).mpr formed,
    notObject _ nofun, found, refused, ordered, (offending _).mpr missing⟩

end Review
end Footprint
