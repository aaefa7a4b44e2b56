import Footprint.CommandLine
import Footprint.Proofs.Meter.Refusal
import Footprint.Proofs.Pipeline.Uninterrupted
import Footprint.Proofs.Text.Utf8

/-! What a command line analyses. As one request runs and no other, it is never dropped; and of files that
are not too large, there is a result unless the reviewers are exhausted. -/
namespace Footprint

open Binary64

theorem Text.utf8Len_withLineFeeds_le (text : List Char) :
    String.utf8Len (withLineFeeds text) ≤ String.utf8Len text := by
  have size (c : Char) (rest : List Char) : String.utf8Len (c :: rest) = String.utf8Len rest + c.utf8Size :=
    String.utf8Len_cons c rest
  fun_induction withLineFeeds text with
  | case1 rest ih =>
    rw [size, size, size]
    omega
  | case2 rest _ ih =>
    have one : '\n'.utf8Size = '\r'.utf8Size := by decide
    rw [size, size, one]
    omega
  | case3 c rest _ ih =>
    rw [size, size]
    omega
  | case4 => exact Nat.le_refl _

namespace SourceUnit

variable {k : Nat}

theorem within_of_size {u : SourceUnit} {x : Binary64} (size : u.size = .float x) (up : x.UpTo k)
    (small : k ≤ 1023) (content : ∀ text ∈ u.content, text.utf8ByteSize ≤ 2 ^ k) : u.Within k where
  size := by
    refine ⟨Binary64.max 0 x, ?_, UpTo.max up.rank_le⟩
    rw [byteCount, size, Json.toNumber_float (up.isFinite small)]
    rfl
  content := content

theorem within_ofInput {text : String} (languages : LanguageTable) (name : String) (small : k ≤ 1023)
    (short : text.utf8ByteSize ≤ 2 ^ k) :
    ∃ u, ofInput languages name (some text) .null = .ok u ∧ u.Within k := by
  refine ⟨_, rfl, within_of_size rfl (upTo_byteLength small short) small fun other same => ?_⟩
  rwa [← Option.some.inj same]

theorem within_ofBytes (languages : LanguageTable) (p : Path) {bytes : List UInt8} (small : k + 2 ≤ 1023)
    (short : bytes.length ≤ 2 ^ k) : ∃ u, ofBytes languages p bytes = .ok u ∧ u.Within (k + 2) := by
  have up : (ofInt bytes.length).UpTo k :=
    UpTo.ofRatio Nat.one_pos (by omega) (Int.natCast_nonneg _) (Int.ofNat_le.mpr short)
  have number : (Json.int bytes.length).toNumber = .ok (ofInt bytes.length) :=
    ofArithmetic_eq_ok_iff.mpr (refuseInfinite_of_isFinite _ (up.isFinite (by omega)))
  refine ⟨⟨p.text, .float (Binary64.max 0 (ofInt bytes.length)), some (Text.Utf8.decode bytes),
    (languages.classify p.text).tag⟩, ?_, ?_⟩
  · rw [ofBytes, ofInput_of_ne_null languages p.text _ (by simp), number]
    rfl
  · refine within_of_size rfl ((UpTo.max up.rank_le).mono (by omega)) small fun other same => ?_
    rw [← Option.some.inj same]
    have length := Text.Utf8.utf8ByteSize_decode_le bytes
    rw [pow_add]
    omega

theorem ofStored_cases (languages : LanguageTable) (p : Path) {stored : StoredFile} (small : k + 2 ≤ 1023)
    (short : ∀ bytes, stored.first = .ok bytes → bytes.length ≤ 2 ^ k) :
    (∃ cause, ofStored languages p stored = .error cause ∧ cause.isReported = true) ∨
      ∃ u, ofStored languages p stored = .ok u ∧ u.Within (k + 2) := by
  unfold ofStored
  cases reading : stored.first with
  | error message => exact .inl ⟨.system message, rfl, rfl⟩
  | ok bytes =>
    rw [FileReading.outcome, ok_bind]
    exact .inr (within_ofBytes languages p small (short bytes reading))

end SourceUnit

theorem mapM_cases {α β ε : Type} {f : α → Except ε β} {P : β → Prop} {Q : ε → Prop} {items : List α}
    (each : ∀ a ∈ items, (∃ e, f a = .error e ∧ Q e) ∨ ∃ b, f a = .ok b ∧ P b) :
    (∃ e, items.mapM f = .error e ∧ Q e) ∨
      ∃ values, items.mapM f = .ok values ∧ values.length = items.length ∧ ∀ b ∈ values, P b := by
  induction items with
  | nil => exact .inr ⟨[], rfl, rfl, by simp⟩
  | cons a rest ih =>
    rw [List.forall_mem_cons] at each
    rw [List.mapM_cons]
    obtain ⟨e, failed, holds⟩ | ⟨b, first, holds⟩ := each.1
    · exact .inl ⟨e, by rw [failed]; rfl, holds⟩
    · rw [first, ok_bind]
      obtain ⟨e, failed, refused⟩ | ⟨values, mapped, length, all⟩ := ih each.2
      · exact .inl ⟨e, by rw [failed]; rfl, refused⟩
      · exact .inr ⟨b :: values, by rw [mapped]; rfl, by simp [length], List.forall_mem_cons.mpr ⟨holds, all⟩⟩

namespace CommandLine

variable {σ : Type}

/-! ### Subjects -/

def Subject.Within (k : Nat) : Subject → Prop
  | .input u => u.Within k
  | .files _ units => units ≠ [] ∧ units.length < 2 ^ 50 ∧ ∀ u ∈ units, u.Within k

structure Moderate (s : Surroundings) (o : Options) : Prop where
  input : s.input.utf8ByteSize ≤ 2 ^ 98
  file : ∀ p stored, s.look p = .file stored → ∀ bytes, stored.first = .ok bytes → bytes.length ≤ 2 ^ 98
  directory : ∀ p files, s.look p = .directory files → files.length < 2 ^ 50 ∧
    ∀ f ∈ files, ∀ bytes, f.2.first = .ok bytes → bytes.length ≤ 2 ^ 98
  cyclomatic : o.radon = true → ∀ subject, CommandLine.subject .builtIn s o = .ok subject →
    ∀ n, greatestCyclomatic s.cyclomatic (subjectFiles subject) = .ok (some n) →
      (Json.int n).isWritable = true

variable {s : Surroundings} {o : Options}

theorem mem_knownFiles {languages : LanguageTable} {p : Path} {files : List (List String × StoredFile)}
    {found : Path × StoredFile} (h : found ∈ knownFiles languages p files) :
    ∃ f ∈ files, f.2 = found.2 := by
  obtain ⟨f, sorted, rfl⟩ := List.mem_map.mp h
  exact ⟨f, List.mem_of_mem_filter ((List.mergeSort_perm ..).mem_iff.mp sorted), rfl⟩

theorem length_knownFiles_le (languages : LanguageTable) (p : Path)
    (files : List (List String × StoredFile)) : (knownFiles languages p files).length ≤ files.length := by
  rw [knownFiles, List.length_map, (List.mergeSort_perm ..).length_eq]
  exact List.length_filter_le _ files

theorem collect_cases (h : Moderate s o) (languages : LanguageTable) (p : Path) :
    (∃ cause, collect languages s.look p = .error cause ∧ cause.isReported = true) ∨
      ∃ files, collect languages s.look p = .ok files ∧ files ≠ [] ∧ files.length < 2 ^ 50 ∧
        ∀ f ∈ files, ∀ bytes, f.2.first = .ok bytes → bytes.length ≤ 2 ^ 98 := by
  unfold collect
  split
  · next stored found => exact .inr ⟨_, rfl, by simp, by simp, by simpa using h.file p stored found⟩
  · next files found =>
    obtain ⟨few, short⟩ := h.directory p files found
    split
    · exact .inl ⟨_, rfl, rfl⟩
    · refine .inr ⟨_, rfl, by assumption, (length_knownFiles_le languages p files).trans_lt few, ?_⟩
      intro f known
      obtain ⟨source, listed, same⟩ := mem_knownFiles known
      exact same ▸ short source listed
  · exact .inl ⟨_, rfl, rfl⟩
  · exact .inl ⟨_, rfl, rfl⟩

theorem subject_cases (h : Moderate s o) :
    (∃ cause, subject .builtIn s o = .error cause ∧ cause.isReported = true) ∨
      ∃ found, subject .builtIn s o = .ok found ∧ found.Within 100 := by
  unfold subject
  split
  · have size := Text.utf8Len_withLineFeeds_le s.input.toList
    rw [← String.utf8ByteSize_ofList, ← String.utf8ByteSize_ofList, String.ofList_toList] at size
    have short := size.trans (h.input.trans (Nat.pow_le_pow_right (by decide) (by decide : 98 ≤ 100)))
    obtain ⟨u, made, within⟩ := SourceUnit.within_ofInput .builtIn o.fileName (by omega) short
    exact .inr ⟨.input u, bind_eq_ok_of made rfl, within⟩
  · obtain ⟨cause, failed, reported⟩ | ⟨files, collected, some, few, short⟩ :=
      collect_cases h .builtIn (.ofText o.path)
    · exact .inl ⟨cause, by rw [failed]; rfl, reported⟩
    · rw [collected, ok_bind]
      obtain ⟨cause, failed, reported⟩ | ⟨units, read, length, within⟩ := mapM_cases fun f listed =>
        SourceUnit.ofStored_cases .builtIn f.1 (k := 98) (by omega) (short f listed)
      · exact .inl ⟨cause, by rw [failed]; rfl, reported⟩
      · refine .inr ⟨.files files units, by rw [read]; rfl, ?_, length ▸ few, within⟩
        rintro rfl
        exact some (List.length_eq_zero_iff.mp length.symm)

/-! ### Analysis -/

theorem outcome_analyse_ne (p : Pipeline σ) (clock : Int) (o : Options) (subject : Subject) (world : σ) :
    (analyse p clock o subject world).1.outcome ≠ .ok none := by
  have single (u : SourceUnit) :
      (analyse p clock o (.input u) world).1.outcome ≠ .ok none := by
    intro dropped
    obtain ⟨result, -, absurd⟩ := exists_of_map_eq_ok dropped
    cases absurd
  have several (units : List SourceUnit) :
      (p.runMany { conditions := conditions o, clock, units } { world }).1.outcome ≠ .ok none := by
    intro dropped
    cases files : units.isEmpty with
    | true => nomatch (Pipeline.outcome_runMany_of_nothing files _).symm.trans dropped
    | false =>
      obtain ⟨result, -, absurd⟩ :=
        exists_of_map_eq_ok ((Pipeline.outcome_runMany files _).symm.trans dropped)
      cases absurd
  match subject with
  | .input u => exact single u
  | .files _ [u] => exact single u
  | .files _ [] => exact several []
  | .files _ (u :: v :: rest) => exact several (u :: v :: rest)

theorem exists_hourOf_conditions (clock : Int) (o : Options) :
    ∃ hour, EnvironmentTables.hourOf clock (conditions o).hour = .ok hour := by
  unfold conditions
  cases o.hour with
  | none => exact ⟨clock, rfl⟩
  | some n => exact ⟨n % 24, rfl⟩

/-- An analysis that has a plain result with figures up to a power of two, unless the reviewers are
exhausted. -/
def Answers (outcome : Outcome (Option AnalysisResult)) : Prop :=
  (∃ result, outcome = .ok (some result) ∧ result.metrics.UpTo 301 ∧ result.Plain .builtIn) ∨
    ∃ errors, outcome = .error (.reviewersExhausted errors)

theorem answers_analyse {p : Pipeline σ} {parse : String → String → Option Syntax.Tree}
    {stack : Signals.CallStack} (builtIn : p.meter = { parse, stack }) (clock : Int) (o : Options)
    {subject : Subject} (within : subject.Within 100) (world : σ) :
    Answers (analyse p clock o subject world).1.outcome := by
  obtain ⟨hour, told⟩ := exists_hourOf_conditions clock o
  have tables : p.meter.environments = .builtIn := by rw [builtIn]
  have single (u : SourceUnit) (within : u.Within 100) :
      Answers (((p.run { conditions := conditions o, clock } u world).1.outcome).map some) := by
    obtain ⟨result, found, up⟩ | ⟨errors, exhausted⟩ :=
      Pipeline.reviewDecides_run builtIn (r := { conditions := conditions o, clock }) told
        (by omega) within world
    · exact .inl ⟨result, congrArg (Except.map some) found, up.mono (by omega),
        tables ▸ Pipeline.plain_of_run found⟩
    · exact .inr ⟨errors, congrArg (Except.map some) exhausted⟩
  have several (units : List SourceUnit) (files : units ≠ []) (few : units.length < 2 ^ 50)
      (within : ∀ u ∈ units, u.Within 100) :
      Answers (p.runMany { conditions := conditions o, clock, units } { world }).1.outcome := by
    have alone : (p.runMany { conditions := conditions o, clock, units } { world }).1.outcome = _ :=
      Pipeline.outcome_runMany (by simpa using files) _
    obtain ⟨result, found, up⟩ | ⟨errors, exhausted⟩ :=
      Pipeline.reviewDecides_inOneGo builtIn (r := { conditions := conditions o, clock, units }) told
        (by omega) files few within world
    · have kept := alone.trans (congrArg (Except.map some) found)
      exact .inl ⟨result, kept, up, tables ▸ (Pipeline.reached_of_runMany kept).plain⟩
    · exact .inr ⟨errors, alone.trans (congrArg (Except.map some) exhausted)⟩
  match subject, within with
  | .input u, within => exact single u within
  | .files _ [u], within => exact single u (within.2.2 u (List.mem_singleton_self u))
  | .files _ [], within => exact absurd rfl within.1
  | .files _ (u :: v :: rest), within =>
    exact several (u :: v :: rest) within.1 within.2.1 within.2.2

end CommandLine
end Footprint
