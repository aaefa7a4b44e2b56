import Footprint.Language
import Footprint.Proofs.Environment
import Footprint.Proofs.Extension
import Footprint.Proofs.Text.LowerCase
import Mathlib.Data.List.TakeWhile

/-! Which entries of a table are found. What is asked for is put in the form in which keys are compared, the
keys of the table are taken as they stand: an entry whose key is not in that form is no answer to anything. -/
namespace Footprint

/-- A key in the form in which keys are compared: in lower case and without blanks at its ends. -/
structure IsComparable (key : String) : Prop where
  trimmed : Text.strip key = key
  lowered : Text.lower key = key

namespace EnvironmentTables

theorem normalize_of_isComparable {key : String} (h : IsComparable key) : normalize (.string key) = key := by
  rw [normalize, h.trimmed, h.lowered]

theorem isComparable_normalize (x : Json) : IsComparable (normalize x) := by
  have empty : IsComparable "" := ⟨by decide, by decide⟩
  cases x with
  | string key => exact ⟨Text.strip_lower_strip key, Text.lower_lower _⟩
  | _ => exact empty

end EnvironmentTables

open EnvironmentTables

/-- Which of the entries that stand under keys are the answer to a value. The same entry may stand under
several keys. -/
structure FoundByKey {ε : Type} (find : String → Option ε) (resolve : Json → Outcome ε) (fallback : ε) :
    Prop where
  /-- An entry is found under its own key if the key can be compared; else it is found there only if it
  stands under the form of the key as well, or if nothing stands there and it is the fallback. -/
  own (key : String) (e : ε) (listed : find key = some e) :
    resolve (.string key) = .ok e ↔
      IsComparable key ∨ find (normalize (.string key)) = some e ∨
        find (normalize (.string key)) = none ∧ e = fallback
  /-- What names an entry in another spelling stands for that entry. -/
  named (x : Json) (e : ε) (listed : find (normalize x) = some e) : resolve x = .ok e
  /-- What names no entry stands for the fallback. -/
  other (x : Json) (unknown : find (normalize x) = none) : resolve x = .ok fallback
  /-- An entry other than the fallback is found by some value only if one of its keys can be compared. -/
  asked (e : ε) (distinct : e ≠ fallback) :
    (∃ x, resolve x = .ok e) ↔ ∃ key, find key = some e ∧ IsComparable key

theorem foundByKey {ε : Type} {find : String → Option ε} {resolve : Json → Outcome ε} {fallback : ε}
    (resolved : ∀ x, resolve x = .ok ((find (normalize x)).getD fallback)) :
    FoundByKey find resolve fallback := by
  have found {x : Json} {e : ε} (answer : resolve x = .ok e) :
      find (normalize x) = some e ∨ find (normalize x) = none ∧ e = fallback := by
    have value := Except.ok.inj ((resolved x).symm.trans answer)
    cases place : find (normalize x) <;> simp_all
  have named (x : Json) (e : ε) (listed : find (normalize x) = some e) : resolve x = .ok e := by
    rw [resolved, listed, Option.getD_some]
  have reached {key : String} {e : ε} (listed : find key = some e) (h : IsComparable key) :
      resolve (.string key) = .ok e :=
    named _ e (by rw [normalize_of_isComparable h, listed])
  have other (x : Json) (unknown : find (normalize x) = none) : resolve x = .ok fallback := by
    rw [resolved, unknown, Option.getD_none]
  refine ⟨?_, named, other, ?_⟩
  · intro key e listed
    refine ⟨fun answer => Or.inr (found answer), ?_⟩
    rintro (h | listed | ⟨unknown, rfl⟩)
    · exact reached listed h
    · exact named _ e listed
    · exact other _ unknown
  · intro e distinct
    constructor
    · rintro ⟨x, answer⟩
      rcases found answer with listed | ⟨-, same⟩
      · exact ⟨_, listed, isComparable_normalize x⟩
      · exact absurd same distinct
    · rintro ⟨key, listed, h⟩
      exact ⟨.string key, reached listed h⟩

namespace EnvironmentTables

variable {tables : EnvironmentTables}

theorem foundByKey_regions {fallback : Region}
    (present : tables.region? tables.defaultRegion = some fallback) :
    FoundByKey tables.region? tables.resolveRegion fallback := by
  refine foundByKey fun x => ?_
  rw [resolveRegion, present]
  cases tables.region? (normalize x) <;> rfl

theorem foundByKey_hardware {fallback : Hardware}
    (present : tables.hardware? tables.defaultHardware = some fallback) :
    FoundByKey tables.hardware? tables.resolveHardware fallback := by
  refine foundByKey fun x => ?_
  rw [resolveHardware, present]
  cases tables.hardware? (normalize x) <;> rfl

end EnvironmentTables

/-! ### Languages -/

namespace Language

structure IsExtension (text : String) : Prop where
  nonempty : text ≠ ""
  plain : ∀ c ∈ text.toList, c ≠ '.' ∧ isSeparator c = false

instance (text : String) : Decidable (IsExtension text) :=
  decidable_of_iff (text ≠ "" ∧ (text.toList.all fun c => c ≠ '.' && !isSeparator c) = true)
    ⟨fun h => ⟨h.1, by simpa using h.2⟩, fun h => ⟨h.nonempty, by simpa using h.plain⟩⟩

theorem fileExtension_append {text : String} (h : IsExtension text) :
    fileExtension ("x." ++ text) = Text.lower text := by
  have shape : ("x." ++ text).toList = ['x'] ++ '.' :: text.toList := by simp
  have flat : ∀ c ∈ ['x'] ++ '.' :: text.toList, isSeparator c = false := by
    simpa using ⟨by decide, by decide, fun c hc => (h.plain c hc).2⟩
  have plain : '.' ∉ text.toList := fun point => (h.plain '.' point).1 rfl
  rw [fileExtension, shape, lastComponent_of_forall flat, extensionOf_of_not_points plain (by simp),
    String.ofList_toList]

theorem lower_fileExtension (name : String) : Text.lower (fileExtension name) = fileExtension name :=
  Text.lower_lower _

end Language

structure FoundByExtension (languages : LanguageTable) : Prop where
  /-- A multiplier is found by its own extension if that is in lower case; else it is found so only if the
  default is the same language and no other entry takes its place. -/
  own (tag : String) (multiplier : Binary64) (listed : languages.multipliers.lookup tag = some multiplier)
      (extension : Language.IsExtension tag) :
    languages.classify ("x." ++ tag) = ⟨tag, multiplier⟩ ↔
      Text.lower tag = tag ∨
        languages.multipliers.lookup (Text.lower tag) = none ∧ languages.default = ⟨tag, multiplier⟩
  /-- What has an extension of the table in another spelling is of that language. -/
  named (name : String) (multiplier : Binary64)
      (listed : languages.multipliers.lookup (Language.fileExtension name) = some multiplier) :
    languages.classify name = ⟨Language.fileExtension name, multiplier⟩
  /-- What has no extension of the table is of the default language. -/
  other (name : String) (unknown : languages.isKnown name = false) :
    languages.classify name = languages.default
  /-- A multiplier other than the default is found by some name only if its extension is in lower case. -/
  asked (tag : String) (multiplier : Binary64) (listed : languages.multipliers.lookup tag = some multiplier)
      (extension : Language.IsExtension tag) (distinct : ⟨tag, multiplier⟩ ≠ languages.default) :
    (∃ name, languages.classify name = ⟨tag, multiplier⟩) ↔ Text.lower tag = tag

namespace LanguageTable

variable {languages : LanguageTable}

theorem classify_cases {name tag : String} {multiplier : Binary64}
    (found : languages.classify name = ⟨tag, multiplier⟩) :
    Language.fileExtension name = tag ∨
      languages.multipliers.lookup (Language.fileExtension name) = none ∧
        languages.default = ⟨tag, multiplier⟩ := by
  unfold classify at found
  split at found
  · exact Or.inl (Language.mk.inj found).1
  · next unknown => exact Or.inr ⟨unknown, found⟩

theorem classify_of_listed {name tag : String} {multiplier : Binary64}
    (named : Language.fileExtension name = tag)
    (listed : languages.multipliers.lookup tag = some multiplier) :
    languages.classify name = ⟨tag, multiplier⟩ := by
  rw [classify, named, listed]

theorem foundByExtension (languages : LanguageTable) : FoundByExtension languages := by
  have unlisted (name : String)
      (unknown : languages.multipliers.lookup (Language.fileExtension name) = none) :
      languages.classify name = languages.default := by
    rw [classify, unknown]
  refine ⟨?_, fun name multiplier => classify_of_listed rfl,
    fun name unknown => unlisted name (by simpa [isKnown] using unknown), ?_⟩
  · intro tag multiplier listed extension
    have named := Language.fileExtension_append extension
    constructor
    · intro found
      simpa only [named] using classify_cases found
    · rintro (lowered | ⟨unknown, same⟩)
      · exact classify_of_listed (named.trans lowered) listed
      · rw [unlisted _ (by rw [named]; exact unknown), same]
  · intro tag multiplier listed extension distinct
    constructor
    · rintro ⟨name, found⟩
      rcases classify_cases found with named | ⟨-, same⟩
      · exact named ▸ Language.lower_fileExtension name
      · exact absurd same.symm distinct
    · intro lowered
      exact ⟨_, classify_of_listed ((Language.fileExtension_append extension).trans lowered) listed⟩

end LanguageTable

/-! ### All tables -/

/-- Of tables whose defaults are present, the entries found are those whose keys are in the form in which keys
are compared: every region, every hardware and every multiplier under such a key is found under it, what names
no entry stands for the default, and an entry under any other key is found by nothing but as a default. -/
theorem entries_found (tables : EnvironmentTables) (languages : LanguageTable) {region : Region}
    {hardware : Hardware} (regionPresent : tables.region? tables.defaultRegion = some region)
    (hardwarePresent : tables.hardware? tables.defaultHardware = some hardware) :
    FoundByKey tables.region? tables.resolveRegion region ∧
      FoundByKey tables.hardware? tables.resolveHardware hardware ∧ FoundByExtension languages :=
  ⟨foundByKey_regions regionPresent, foundByKey_hardware hardwarePresent, languages.foundByExtension⟩

def laboratory : EnvironmentTables where
  regions := [("lab", ⟨"lab", "Lab", 1.0, 100, 0⟩), ("Up", ⟨"Up", "U", 1.0, 1, 1⟩)]
  hardware := [("pi", ⟨"pi", "Raspberry Pi", 0.1⟩), (" big", ⟨" big", "Big", 1000.0⟩)]
  defaultRegion := "lab"
  defaultHardware := "pi"

def laboratoryLanguages : LanguageTable where
  multipliers := [("zig", 0.3), ("PY", 1.8)]
  default := ⟨"js", 1.0⟩

theorem entries_found_laboratory :
    laboratory.region? laboratory.defaultRegion = some ⟨"lab", "Lab", 1.0, 100, 0⟩ ∧
      laboratory.hardware? laboratory.defaultHardware = some ⟨"pi", "Raspberry Pi", 0.1⟩ ∧
      laboratory.resolveRegion (.string "lab") = .ok ⟨"lab", "Lab", 1.0, 100, 0⟩ ∧
      (¬ ∃ x, laboratory.resolveRegion x = .ok ⟨"Up", "U", 1.0, 1, 1⟩) ∧
      (¬ ∃ x, laboratory.resolveHardware x = .ok ⟨" big", "Big", 1000.0⟩) ∧
      laboratoryLanguages.classify ("x." ++ "zig") = ⟨"zig", 0.3⟩ ∧
      ¬ ∃ name, laboratoryLanguages.classify name = ⟨"PY", 1.8⟩ := by
  have regionPresent : laboratory.region? laboratory.defaultRegion = some ⟨"lab", "Lab", 1.0, 100, 0⟩ := rfl
  have hardwarePresent :
      laboratory.hardware? laboratory.defaultHardware = some ⟨"pi", "Raspberry Pi", 0.1⟩ := rfl
  obtain ⟨regions, hardware, names⟩ :=
    entries_found laboratory laboratoryLanguages regionPresent hardwarePresent
  have lab : IsComparable "lab" := ⟨by decide +kernel, by decide +kernel⟩
  have up : ¬ IsComparable "Up" := fun h => absurd h.lowered (by decide +kernel)
  have big : ¬ IsComparable " big" := fun h => absurd h.trimmed (by decide +kernel)
  have onlyUp {key : String} (listed : laboratory.region? key = some ⟨"Up", "U", 1.0, 1, 1⟩) :
      key = "Up" := by
    simpa [laboratory] using mem_of_lookup_eq_some listed
  have onlyBig {key : String} (listed : laboratory.hardware? key = some ⟨" big", "Big", 1000.0⟩) :
      key = " big" := by
    simpa [laboratory] using mem_of_lookup_eq_some listed
  have zig : Language.IsExtension "zig" ∧ Text.lower "zig" = "zig" := by decide +kernel
  have py : Language.IsExtension "PY" ∧ Text.lower "PY" ≠ "PY" := by decide +kernel
  exact ⟨regionPresent, hardwarePresent, (regions.own "lab" _ rfl).mpr (.inl lab),
    fun found =>
      let ⟨_, listed, h⟩ := (regions.asked _ (by decide)).mp found
      up (onlyUp listed ▸ h),
    fun found =>
      let ⟨_, listed, h⟩ := (hardware.asked _ (by decide)).mp found
      big (onlyBig listed ▸ h),
    (names.own "zig" _ rfl zig.1).mpr (.inl zig.2),
    fun found => py.2 ((names.asked "PY" _ rfl py.1 (by decide)).mp found)⟩

/-- Under their own keys stand a region, a hardware and a multiplier that a look-up by these keys does
not give. -/
theorem capital_keys_not_found :
    (laboratory.region? "Up" = some ⟨"Up", "U", 1.0, 1, 1⟩ ∧
        laboratory.resolveRegion (.string "Up") = .ok ⟨"lab", "Lab", 1.0, 100, 0⟩) ∧
      (laboratory.hardware? " big" = some ⟨" big", "Big", 1000.0⟩ ∧
        laboratory.resolveHardware (.string " big") = .ok ⟨"pi", "Raspberry Pi", 0.1⟩) ∧
      (laboratoryLanguages.multipliers.lookup "PY" = some 1.8 ∧ Language.IsExtension "PY" ∧
        laboratoryLanguages.classify "x.PY" = ⟨"js", 1.0⟩) := by
  decide +kernel

end Footprint
