import Footprint.Settings
import Footprint.Proofs.Binary64.Approximation
import Footprint.Proofs.Outcome
import Footprint.Proofs.Text.LowerCase

/-! Settings under every assignment of environment variables. A number that makes no sense gives way to its
default before it is checked, and a list without entries to the built-in models, so that each field passes
its check. A list of models is read back from the text that joins it by commas. -/
namespace Footprint.Settings

open Binary64 Text

/-! ### Fields -/

structure Valid (s : Settings) : Prop where
  timeout_pos : 0 < s.timeout
  one_le_maxChars : 1 ≤ s.maxChars
  maxChars_le : s.maxChars ≤ characterLimit

theorem checkTextOrNull_elim (given : Option String) : checkTextOrNull (given.elim .null .string) = .ok given := by
  cases given <;> rfl

theorem checkTexts_array (texts : List String) : checkTexts (.array (texts.map .string)) = .ok texts := by
  simp [checkTexts, List.filterMap_map]

theorem checkPositive_float {x : Binary64} (pos : 0 < x) : checkPositive (.float x) = .ok x :=
  if_pos pos

theorem checkCharacters_int {n : Int} (low : 1 ≤ n) (high : n ≤ characterLimit) :
    checkCharacters (.int n) = .ok n :=
  (if_neg low.not_gt).trans (if_neg high.not_gt)

theorem ofFields_toFields {s : Settings} (h : s.Valid) : ofFields (toFields s) = .ok s := by
  have apiKey : fieldOr s.toFields "openrouter_api_key" builtIn.apiKey checkTextOrNull = .ok s.apiKey :=
    checkTextOrNull_elim s.apiKey
  have baseUrl : fieldOr s.toFields "review_base_url" builtIn.baseUrl checkText = .ok s.baseUrl := rfl
  have models : fieldOr s.toFields "review_models" builtIn.models checkTexts = .ok s.models :=
    checkTexts_array s.models
  have timeout : fieldOr s.toFields "review_timeout_sec" builtIn.timeout checkPositive = .ok s.timeout :=
    checkPositive_float h.timeout_pos
  have maxChars : fieldOr s.toFields "review_max_chars" builtIn.maxChars checkCharacters = .ok s.maxChars :=
    checkCharacters_int h.one_le_maxChars h.maxChars_le
  have region : fieldOr s.toFields "default_region" builtIn.defaultRegion checkText = .ok s.defaultRegion := rfl
  have hardware : fieldOr s.toFields "default_hardware" builtIn.defaultHardware checkText =
    .ok s.defaultHardware := rfl
  simp only [ofFields, apiKey, baseUrl, models, timeout, maxChars, region, hardware]

theorem pos_of_checkPositive {value : Json} {x : Binary64} (h : checkPositive value = .ok x) : 0 < x := by
  unfold checkPositive at h
  dsimp only at h
  split at h
  case h_1 => cases h
  case h_2 =>
    split at h
    case isTrue pos =>
      obtain rfl := Except.ok.inj h
      exact pos
    case isFalse => cases h

theorem between_of_checkCharacters {value : Json} {n : Int} (h : checkCharacters value = .ok n) :
    1 ≤ n ∧ n ≤ characterLimit := by
  unfold checkCharacters at h
  dsimp only at h
  split at h
  case h_1 => cases h
  case h_2 =>
    split at h
    · cases h
    · split at h
      · cases h
      · obtain rfl := Except.ok.inj h
        omega

theorem fieldOr_eq_ok {α : Type} {fields : Json} {name : String} {default a : α} {check : Json → Checked α}
    (h : fieldOr fields name default check = .ok a) : a = default ∨ ∃ value, check value = .ok a := by
  unfold fieldOr at h
  split at h
  · exact .inl (Except.ok.inj h).symm
  · exact .inr ⟨_, h⟩

theorem builtIn_timeout : builtIn.timeout.isFinite = true ∧ 0 < builtIn.timeout := by decide +kernel

theorem valid_builtIn : builtIn.Valid where
  timeout_pos := builtIn_timeout.2
  one_le_maxChars := by decide
  maxChars_le := by decide

theorem valid_of_ofFields {fields : Json} {s : Settings} (h : ofFields fields = .ok s) : s.Valid := by
  unfold ofFields at h
  dsimp only at h
  split at h
  case h_2 => cases h
  case h_1 timeout maxChars _ _ _ _ _ positive characters _ _ =>
    obtain rfl := Except.ok.inj h
    have pos : 0 < timeout := by
      obtain standard | ⟨value, checked⟩ := fieldOr_eq_ok positive
      · rw [standard]
        exact valid_builtIn.timeout_pos
      · exact pos_of_checkPositive checked
    have between : 1 ≤ maxChars ∧ maxChars ≤ characterLimit := by
      obtain standard | ⟨value, checked⟩ := fieldOr_eq_ok characters
      · rw [standard]
        exact ⟨valid_builtIn.one_le_maxChars, valid_builtIn.maxChars_le⟩
      · exact between_of_checkCharacters checked
    exact ⟨pos, between.1, between.2⟩

theorem ofFields_toFields_iff {s : Settings} : ofFields (toFields s) = .ok s ↔ s.Valid :=
  ⟨valid_of_ofFields, ofFields_toFields⟩

/-! ### Numbers -/

def IsNumber (given : Option String) (x : Binary64) : Prop :=
  ∃ text, given = some text ∧ Decimal.readDouble text = some x ∧ x.isFinite = true ∧ 0 < x

variable {given : Option String} {default x : Binary64}

theorem numberOr_of_isNumber (h : IsNumber given x) : numberOr default given = x := by
  obtain ⟨text, rfl, read, finite, pos⟩ := h
  simp [numberOr, read, finite, pos]

theorem numberOr_of_not_isNumber (none : ∀ x, ¬IsNumber given x) : numberOr default given = default := by
  unfold numberOr
  split
  case h_1 x found =>
    obtain ⟨text, rfl, read⟩ := Option.bind_eq_some_iff.mp found
    exact if_neg fun fits => none x ⟨text, rfl, read, fits⟩
  case h_2 => rfl

theorem isFinite_numberOr (finite : default.isFinite = true) (pos : 0 < default) :
    (numberOr default given).isFinite = true ∧ 0 < numberOr default given := by
  by_cases some : ∃ x, IsNumber given x
  · obtain ⟨x, number⟩ := some
    rw [numberOr_of_isNumber number]
    obtain ⟨-, -, -, fits⟩ := number
    exact fits
  · rw [numberOr_of_not_isNumber (not_exists.mp some)]
    exact ⟨finite, pos⟩

theorem truncate?_of_pos (finite : x.isFinite = true) (pos : 0 < x) : x.truncate? = .ok ⌊x.toRat⌋ :=
  truncate?_of_nonneg finite (toRat_nonneg (le_of_lt' pos) finite)

/-! ### Lists -/

/-- What may stand between two commas of a list: it is not empty, blanks are not around it, and it has no
comma itself. -/
structure IsEntry (entry : String) : Prop where
  ne_empty : entry ≠ ""
  trimmed : Trimmed entry.toList
  no_comma : ',' ∉ entry.toList

theorem isEntry_of_strip_eq {entry : String} (h : entry ≠ "" ∧ strip entry = entry ∧ ',' ∉ entry.toList) :
    IsEntry entry where
  ne_empty := h.1
  trimmed := h.2.1 ▸ trimmed_strip entry
  no_comma := h.2.2

theorem not_mem_of_mem_splitOn {α : Type} [BEq α] [LawfulBEq α] {a : α} {xs part : List α}
    (h : part ∈ xs.splitOn a) : a ∉ part := by
  induction xs generalizing part with
  | nil => simp_all
  | cons x xs ih =>
    rw [List.splitOn_cons_eq_if_modifyHead] at h
    split at h
    case isTrue =>
      rcases List.mem_cons.mp h with rfl | later
      · exact List.not_mem_nil
      · exact ih later
    case isFalse other =>
      cases parts : xs.splitOn a with
      | nil => exact absurd parts (List.splitOn_ne_nil a xs)
      | cons first rest =>
        rw [parts] at h ih
        rcases List.mem_cons.mp h with rfl | later
        · exact List.not_mem_cons_of_ne_of_not_mem (fun same => other (by simp [same])) (ih List.mem_cons_self)
        · exact ih (List.mem_cons_of_mem _ later)

theorem mem_of_mem_toList_strip {c : Char} {text : String} (h : c ∈ (strip text).toList) : c ∈ text.toList := by
  rw [toList_strip] at h
  exact (List.dropWhile_sublist _).subset ((List.rdropWhile_prefix _ _).subset h)

theorem isEntry_of_mem_entries {list entry : String} (h : entry ∈ entries list) : IsEntry entry := by
  obtain ⟨made, some⟩ := List.mem_filter.mp h
  obtain ⟨part, among, rfl⟩ := List.mem_map.mp made
  constructor
  case ne_empty => simpa using some
  case trimmed => exact trimmed_strip _
  case no_comma =>
    intro comma
    have inPart := mem_of_mem_toList_strip comma
    rw [String.toList_ofList] at inPart
    exact not_mem_of_mem_splitOn among inPart

theorem entries_intercalate {listed : List String} (some : listed ≠ []) (each : ∀ entry ∈ listed, IsEntry entry) :
    entries (",".intercalate listed) = listed := by
  have split : ((",".intercalate listed).toList.splitOn ',') = listed.map String.toList := by
    rw [String.toList_intercalate]
    refine List.splitOn_intercalate ',' (fun part among => ?_) (by simpa using some)
    obtain ⟨entry, inList, rfl⟩ := List.mem_map.mp among
    exact (each entry inList).no_comma
  have stripped : listed.map (fun entry => strip (String.ofList entry.toList)) = listed := by
    refine (List.map_congr_left fun entry inList => ?_).trans (List.map_id listed)
    rw [String.ofList_toList, (each entry inList).trimmed.strip_eq, id]
  have kept : listed.filter (!·.isEmpty) = listed :=
    List.filter_eq_self.mpr fun entry inList => by simpa using (each entry inList).ne_empty
  rw [entries, split, List.map_map]
  exact (congrArg _ stripped).trans kept

/-! ### From the environment -/

theorem numberOr_characterLimit (given : Option String) :
    (numberOr (ofInt characterLimit) given).truncate? =
      .ok ⌊(numberOr (ofInt characterLimit) given).toRat⌋ := by
  have limit : (ofInt characterLimit).isFinite = true ∧ 0 < ofInt characterLimit := by decide +kernel
  obtain ⟨finite, pos⟩ := isFinite_numberOr limit.1 limit.2
  exact truncate?_of_pos finite pos

theorem charactersOf_of_truncate? {n : Int} (h : x.truncate? = .ok n) :
    charactersOf x = min characterLimit (max 1 n) := by
  rw [charactersOf, h]
  rfl

theorem charactersOf_between (x : Binary64) : 1 ≤ charactersOf x ∧ charactersOf x ≤ characterLimit := by
  unfold charactersOf characterLimit
  omega

theorem timeout_ofEnvironment (valueOf : String → Option String) :
    (ofEnvironment valueOf).timeout.isFinite = true ∧ 0 < (ofEnvironment valueOf).timeout :=
  isFinite_numberOr builtIn_timeout.1 builtIn_timeout.2

theorem valid_ofEnvironment (valueOf : String → Option String) : (ofEnvironment valueOf).Valid where
  timeout_pos := (timeout_ofEnvironment valueOf).2
  one_le_maxChars := (charactersOf_between _).1
  maxChars_le := (charactersOf_between _).2

theorem fromEnvironment_eq (valueOf : String → Option String) :
    fromEnvironment valueOf = .ok (ofEnvironment valueOf) := by
  have truncated := numberOr_characterLimit (valueOf "CO2DE_REVIEW_MAX_CHARS")
  -- What has an integral part is clamped with it, not with the zero that stands in where there is none.
  refine bind_eq_ok_of (liftM_eq_ok truncated) ?_
  have same : min characterLimit (max 1 ⌊(numberOr (ofInt characterLimit)
      (valueOf "CO2DE_REVIEW_MAX_CHARS")).toRat⌋) = (ofEnvironment valueOf).maxChars :=
    (charactersOf_of_truncate? truncated).symm
  rw [same]
  exact ofFields_toFields_iff.mpr (valid_ofEnvironment valueOf)

theorem isEntry_defaultModels : ∀ model ∈ defaultModels, IsEntry model := by
  have names : ∀ model ∈ defaultModels, model ≠ "" ∧ strip model = model ∧ ',' ∉ model.toList := by
    decide +kernel
  exact fun model listed => isEntry_of_strip_eq (names model listed)

structure Usable (s : Settings) : Prop where
  timeout : s.timeout.isFinite = true ∧ 0 < s.timeout
  maxChars : 1 ≤ s.maxChars ∧ s.maxChars ≤ 10000
  models_ne_nil : s.models ≠ []
  models : ∀ model ∈ s.models, IsEntry model
  apiKey : ∀ key, s.apiKey = some key → key ≠ ""

theorem models_ofEnvironment (valueOf : String → Option String) :
    (ofEnvironment valueOf).models ≠ [] ∧ ∀ model ∈ (ofEnvironment valueOf).models, IsEntry model := by
  unfold ofEnvironment
  dsimp only
  split
  case isTrue => exact ⟨by decide, isEntry_defaultModels⟩
  case isFalse some => exact ⟨by simpa using some, fun model => isEntry_of_mem_entries⟩

theorem usable_ofEnvironment (valueOf : String → Option String) : (ofEnvironment valueOf).Usable where
  timeout := timeout_ofEnvironment valueOf
  maxChars := charactersOf_between _
  models_ne_nil := (models_ofEnvironment valueOf).1
  models := (models_ofEnvironment valueOf).2
  apiKey key given := by simpa using (Option.filter_eq_some_iff.mp given).2

structure Follows (s : Settings) (timeout maxChars : Option String) : Prop where
  timeout_eq : ∀ x, IsNumber timeout x → s.timeout = x
  timeout_default : (∀ x, ¬IsNumber timeout x) → s.timeout = 30
  maxChars_eq : ∀ x, IsNumber maxChars x → s.maxChars = min 10000 (max 1 ⌊x.toRat⌋)
  maxChars_default : (∀ x, ¬IsNumber maxChars x) → s.maxChars = 10000

theorem follows_ofEnvironment (valueOf : String → Option String) :
    (ofEnvironment valueOf).Follows (valueOf "CO2DE_REVIEW_TIMEOUT_SEC") (valueOf "CO2DE_REVIEW_MAX_CHARS") where
  timeout_eq x number := numberOr_of_isNumber number
  timeout_default none := numberOr_of_not_isNumber none
  maxChars_eq x number := by
    have given := numberOr_characterLimit (valueOf "CO2DE_REVIEW_MAX_CHARS")
    change charactersOf (numberOr _ _) = _
    rw [charactersOf_of_truncate? given, numberOr_of_isNumber number]
    rfl
  maxChars_default none := by
    have standard : charactersOf (ofInt characterLimit) = 10000 := by decide +kernel
    change charactersOf (numberOr _ _) = _
    rw [numberOr_of_not_isNumber none, standard]

/-- Settings come of every assignment of environment variables. Their fields are within bounds, the numbers
are the given ones where these are finite and above zero and the defaults otherwise, and a list of models
that is joined by commas is read back. -/
theorem fromEnvironment_usable :
    (∀ valueOf : String → Option String, ∃ s, fromEnvironment valueOf = .ok s ∧ s.Usable ∧
      s.Follows (valueOf "CO2DE_REVIEW_TIMEOUT_SEC") (valueOf "CO2DE_REVIEW_MAX_CHARS")) ∧
    ∀ (valueOf : String → Option String) (listed : List String), listed ≠ [] →
      (∀ model ∈ listed, IsEntry model) → valueOf "CO2DE_REVIEW_MODELS" = some (",".intercalate listed) →
      ∃ s, fromEnvironment valueOf = .ok s ∧ s.models = listed := by
  refine ⟨fun valueOf => ?_, fun valueOf listed some each given => ?_⟩
  · exact ⟨_, fromEnvironment_eq valueOf, usable_ofEnvironment valueOf, follows_ofEnvironment valueOf⟩
  · refine ⟨_, fromEnvironment_eq valueOf, ?_⟩
    rw [ofEnvironment, given]
    simp [entries_intercalate some each, some]

/-- An empty key, two models, a timeout too small for a double and a limit below one character. -/
def oddVariables (name : String) : Option String :=
  [("OPENROUTER_API_KEY", ""), ("CO2DE_REVIEW_MODELS", "a/one,b/two"), ("CO2DE_REVIEW_TIMEOUT_SEC", "1e-400"),
    ("CO2DE_REVIEW_MAX_CHARS", "0.5")].lookup name

theorem fromEnvironment_usable_odd :
    ∃ s, fromEnvironment oddVariables = .ok s ∧ s.Usable ∧ s.apiKey ≠ some "" ∧ s.models = ["a/one", "b/two"] ∧
      s.timeout = 30 ∧ s.maxChars = 1 := by
  obtain ⟨always, read⟩ := fromEnvironment_usable
  obtain ⟨s, ok, usable, follows⟩ := always oddVariables
  have names : ∀ model ∈ ["a/one", "b/two"], model ≠ "" ∧ strip model = model ∧ ',' ∉ model.toList := by
    decide +kernel
  obtain ⟨other, same, models⟩ := read oddVariables ["a/one", "b/two"] (by decide)
    (fun model listed => isEntry_of_strip_eq (names model listed)) (by decide +kernel)
  obtain rfl := Except.ok.inj (ok.symm.trans same)
  have tiny : Decimal.readDouble "1e-400" = some 0 ∧ ¬(0 : Binary64) < 0 := by decide +kernel
  have half : Decimal.readDouble "0.5" = some 0.5 ∧ (0.5 : Binary64).isFinite = true ∧ 0 < (0.5 : Binary64) ∧
      (0.5 : Binary64).truncate?.toOption = some 0 := by decide +kernel
  obtain ⟨isHalf, finite, pos, truncated⟩ := half
  have floor : ⌊(0.5 : Binary64).toRat⌋ = 0 :=
    Except.ok.inj ((truncate?_of_pos finite pos).symm.trans (eq_ok_of_toOption truncated))
  refine ⟨s, ok, usable, fun empty => usable.apiKey _ empty rfl, models, follows.timeout_default ?_, ?_⟩
  · rintro x ⟨text, set, number, -, above⟩
    obtain rfl : "1e-400" = text := Option.some.inj set
    obtain rfl := Option.some.inj (tiny.1.symm.trans number)
    exact tiny.2 above
  · rw [follows.maxChars_eq 0.5 ⟨"0.5", rfl, isHalf, finite, pos⟩, floor]
    rfl

end Footprint.Settings
