import Footprint.Proofs.Meter.Totality

/-! When the built-in meter refuses a file. Without a content and without a size there is nothing to
estimate. Besides, a size that is an integer beyond all doubles is refused, and so are figures beyond all
doubles, which sizes below `2 ^ 490` bytes do not come to. -/
namespace Footprint

open Binary64

def figureOverflows : List Failure :=
  [.arithmetic .infinityToInteger, .arithmetic .quotientTooLarge]

namespace Json

def isMalformedNumber : Json → Bool
  | .null | .int _ => false
  | .float x => !x.isFinite
  | .string s => !((Decimal.readDouble s).any Binary64.isFinite)
  | .bool _ | .array _ | .object _ => true

theorem toNumber_of_malformed {value : Json} (malformed : value.isMalformedNumber = true) :
    value.toNumber = .ok 0 := by
  cases value with
  | null | int => nomatch malformed
  | bool | array | object => rfl
  | float x =>
    have unbounded : x.isFinite = false := by simpa [isMalformedNumber] using malformed
    simp [toNumber, orZero, unbounded]
  | string s =>
    unfold toNumber
    dsimp only
    cases read : Decimal.readDouble s with
    | none => rw [Option.map_none, Option.getD_none]
    | some x =>
      have unbounded : x.isFinite = false := by simpa [isMalformedNumber, read] using malformed
      rw [Option.map_some, Option.getD_some, orZero, unbounded, if_neg Bool.false_ne_true]

theorem isFinite_orZero (x : Binary64) : (orZero x).isFinite = true := by
  unfold orZero
  split
  · assumption
  · exact zero_spec.1

theorem toNumber_float {x : Binary64} (finite : x.isFinite = true) : (float x).toNumber = .ok x := by
  rw [toNumber, orZero, if_pos finite]

theorem toNumber_cases (value : Json) :
    (∃ n, value = .int n ∧ (ofInt n).isFinite = false ∧
      value.toNumber = .error (.arithmetic .integerTooLarge)) ∨
    (∀ n, value = .int n → (ofInt n).isFinite = true) ∧
      ∃ x, x.isFinite = true ∧ value.toNumber = .ok x := by
  cases value with
  | int n =>
    have number := (rank_ofInt n).2
    by_cases finite : (ofInt n).isFinite = true
    · refine .inr ⟨fun _ same => ?_, ofInt n, finite, ?_⟩
      · rwa [← Json.int.inj same]
      · exact ofArithmetic_eq_ok_iff.mpr (refuseInfinite_of_isFinite _ finite)
    · have infinite : (ofInt n).isFinite = false := by simpa using finite
      refine .inl ⟨n, rfl, infinite, ?_⟩
      change Outcome.ofArithmetic ((ofInt n).refuseInfinite .integerTooLarge) = _
      cases value : ofInt n with
      | nan => exact absurd value number
      | infinite => rfl
      | finite =>
        rw [value] at infinite
        nomatch infinite
  | float x => exact .inr ⟨nofun, orZero x, isFinite_orZero x, rfl⟩
  | string s =>
    refine .inr ⟨nofun, ((Decimal.readDouble s).map orZero).getD 0, ?_, rfl⟩
    cases Decimal.readDouble s with
    | none => exact zero_spec.1
    | some x => exact isFinite_orZero x
  | _ => exact .inr ⟨nofun, 0, zero_spec.1, rfl⟩

end Json

namespace Meter

theorem error_of_roundAmount {x : Binary64} {places : Nat} {e : ArithmeticError}
    (factor : (decimalFactor places).isFinite = true) (h : roundAmount x places = .error e) :
    e = .infinityToInteger := by
  obtain ⟨a, rounded, -⟩ | failed := roundHalfUp_of_nonneg factor (zero_le_max x)
  · nomatch rounded.symm.trans h
  · exact Except.error.inj (h.symm.trans failed)

theorem error_of_linesOf {content : Option String} {size : Binary64} {e : ArithmeticError}
    (number : size ≠ nan) (h : linesOf content size = .error e) : e = .infinityToInteger := by
  obtain ⟨-, -, -, -, -, divisor, -⟩ := builtIn_constants
  have positive : 0 < bytesPerLine.units :=
    Int.lt_of_lt_of_le (Int.natCast_pos.mpr unitsPerOne_pos) divisor.2
  cases content with
  | some text => nomatch h
  | none =>
    have quotient := div_ne_nan number divisor.1 positive
    change (size / bytesPerLine).ceil? = .error e at h
    cases ratio : size / bytesPerLine with
    | nan => exact absurd ratio quotient
    | infinite negative =>
      rw [ratio] at h
      exact (Except.error.inj h).symm
    | finite =>
      rw [ratio] at h
      nomatch h

variable {clock : Int} {c : Conditions} {cause : Failure}

theorem mem_figureOverflows_of_metricsOf (parse : String → String → Option Syntax.Tree) (stack : Signals.CallStack) {hour : Int}
    (given : EnvironmentTables.hourOf clock c.hour = .ok hour) {size : Binary64} {lines : Int}
    {language : Language} {profile : Profile} {branch : Branch}
    (coherent : Coherent branch profile.complexity profile.memPressure profile.recursive)
    (h : ({ parse, stack } : Meter).metricsOf clock c size lines language profile = .error cause) :
    cause ∈ figureOverflows := by
  obtain ⟨-, -, -, -, -, -, scales⟩ := builtIn_constants
  obtain ⟨environment, resolved, -⟩ := exists_resolve_builtIn c
  obtain ⟨intensity, gridOk, gridLow, gridHigh⟩ :=
    EnvironmentTables.exists_gridIntensity_builtIn clock given
  obtain ⟨⟨a, complexityOk⟩, b, pressureOk⟩ := exists_rounded_factors coherent
  -- The steps in order: a failure of one that always has a result is absurd.
  unfold metricsOf at h
  obtain failed | ⟨_, -, h⟩ := cases_of_bind_eq_error h
  · nomatch resolved.symm.trans failed
  obtain failed | ⟨thousands, -, h⟩ := cases_of_bind_eq_error h
  · obtain ⟨e, quotient, rfl⟩ := exists_of_liftM_eq_error failed
    have divided : ofRatio? lines (1000 : Nat) = _ := ofRatio?_eq lines (by omega)
    obtain ⟨rfl, -⟩ := eq_of_refuseInfinite_eq_error (divided.symm.trans quotient)
    simp [figureOverflows]
  obtain failed | ⟨energy, -, h⟩ := cases_of_bind_eq_error h
  · obtain ⟨e, rounded, rfl⟩ := exists_of_liftM_eq_error failed
    simp [figureOverflows, error_of_roundAmount scales.1 rounded]
  obtain failed | ⟨grid, same, h⟩ := cases_of_bind_eq_error h
  · nomatch gridOk.symm.trans failed
  obtain rfl := Except.ok.inj (gridOk.symm.trans same)
  obtain failed | ⟨carbon, -, h⟩ := cases_of_bind_eq_error h
  · obtain ⟨e, carbonFailed, rfl⟩ := exists_of_liftM_eq_error failed
    have finite : (ofInt intensity).UpTo 10 := UpTo.ofRatio Nat.one_pos (by omega) gridLow gridHigh
    have converted : ofInt? intensity = .ok (ofInt intensity) :=
      refuseInfinite_of_isFinite _ (finite.isFinite (by omega))
    unfold carbonOf at carbonFailed
    obtain refused | ⟨_, -, rounded⟩ := cases_of_bind_eq_error carbonFailed
    · nomatch converted.symm.trans refused
    · simp [figureOverflows, error_of_roundAmount scales.2 rounded]
  obtain failed | ⟨_, -, h⟩ := cases_of_bind_eq_error h
  · nomatch (liftM_eq_ok complexityOk).symm.trans failed
  obtain failed | ⟨_, -, h⟩ := cases_of_bind_eq_error h
  · nomatch (liftM_eq_ok pressureOk).symm.trans failed
  nomatch h

theorem mem_figureOverflows_of_measure (parse : String → String → Option Syntax.Tree) (stack : Signals.CallStack) {hour : Int}
    (given : EnvironmentTables.hourOf clock c.hour = .ok hour) {u : SourceUnit} {size : Binary64}
    (sized : u.byteCount = .ok size) (number : size ≠ nan)
    (h : (({ parse, stack } : Meter).measure clock c u).outcome = .error cause) :
    cause ∈ figureOverflows := by
  rw [outcome_measure] at h
  obtain failed | ⟨x, same, h⟩ := cases_of_bind_eq_error h
  · nomatch sized.symm.trans failed
  obtain rfl := Except.ok.inj (sized.symm.trans same)
  obtain failed | ⟨lines, -, h⟩ := cases_of_bind_eq_error h
  · obtain ⟨e, uncounted, rfl⟩ := exists_of_liftM_eq_error failed
    simp [figureOverflows, error_of_linesOf number uncounted]
  obtain failed | ⟨m, -, h⟩ := cases_of_bind_eq_error h
  · exact mem_figureOverflows_of_metricsOf parse stack given (coherent_analysisOf parse stack u) failed
  nomatch h

end Meter

/-! ### What is given of a file -/

namespace SourceUnit

variable (languages : LanguageTable) (name : String) (content : Option String)

theorem ofInput_of_ne_null {size : Json} (given : size ≠ .null) :
    ofInput languages name content size = (do
      let x ← size.toNumber
      return ⟨name, .float (Binary64.max 0 x), content, (languages.classify name).tag⟩) := by
  have number : ofInput languages name content size = (do
      let x ← (Binary64.max 0 ·) <$> size.toNumber
      return ⟨name, .float x, content, (languages.classify name).tag⟩) := by
    cases size with
    | null => exact absurd rfl given
    | _ => cases content <;> rfl
  rw [number, bind_map_left]

/-- The three ways in which a file is looked at: nothing is known of it, its size is refused, or there is
a number of bytes. -/
theorem ofInput_cases (size : Json) :
    (content = none ∧ size = .null ∧
      ofInput languages name content size = .error (.noInput name)) ∨
    (∃ n, size = .int n ∧ (ofInt n).isFinite = false ∧
      ofInput languages name content size = .error (.arithmetic .integerTooLarge)) ∨
    ¬(content = none ∧ size = .null) ∧ (∀ n, size = .int n → (ofInt n).isFinite = true) ∧
      ∃ s, ofInput languages name content size =
          .ok ⟨name, .float s, content, (languages.classify name).tag⟩ ∧
        ((∃ text, content = some text ∧ s = byteLength text) ∨
          ∃ x, size.toNumber = .ok x ∧ s = Binary64.max 0 x) := by
  by_cases missing : size = .null
  · subst missing
    cases content with
    | none => exact .inl ⟨rfl, rfl, rfl⟩
    | some text => exact .inr (.inr ⟨nofun, nofun, _, rfl, .inl ⟨text, rfl, rfl⟩⟩)
  · have shape := ofInput_of_ne_null languages name content missing
    obtain ⟨n, rfl, infinite, refused⟩ | ⟨finite, x, -, number⟩ := Json.toNumber_cases size
    · rw [refused] at shape
      exact .inr (.inl ⟨n, rfl, infinite, shape⟩)
    · rw [number] at shape
      exact .inr (.inr ⟨fun both => missing both.2, finite, _, shape, .inr ⟨x, number, rfl⟩⟩)

theorem ofInput_of_malformed {size : Json} (malformed : size.isMalformedNumber = true) :
    ofInput languages name content size = ofInput languages name content (.float 0) := by
  have given : size ≠ .null := by
    rintro rfl
    nomatch malformed
  rw [ofInput_of_ne_null languages name content given, Json.toNumber_of_malformed malformed,
    ofInput_of_ne_null languages name content (by simp), Json.toNumber_float zero_spec.1]

theorem exists_byteCount {u : SourceUnit} {s : Binary64} (sized : u.size = .float s) :
    ∃ x, u.byteCount = .ok x ∧ x ≠ nan ∧ ∀ k ≤ 1023, s.UpTo k → x.UpTo k := by
  refine ⟨Binary64.max 0 (Json.orZero s), ?_, (ne_nan_of_le (zero_le_max _)).2, ?_⟩
  · rw [byteCount, sized]
    rfl
  · intro k small up
    rw [Json.orZero, if_pos (up.isFinite small)]
    exact UpTo.max up.rank_le

end SourceUnit

namespace Meter

structure Moderate (size : Json) (content : Option String) : Prop where
  size_le : ∃ x, size.toNumber = .ok x ∧ x ≤ ofInt (2 ^ 490 : Nat)
  content_le : ∀ text ∈ content, text.utf8ByteSize ≤ 2 ^ 490

theorem upTo_moderate : (ofInt (2 ^ 490 : Nat)).UpTo 490 :=
  UpTo.ofRatio Nat.one_pos (by omega) (Int.natCast_nonneg _) (le_refl _)

theorem Moderate.of_content {text : String} (short : text.utf8ByteSize ≤ 2 ^ 490) :
    Moderate (.float (byteLength text)) (some text) := by
  have up : (byteLength text).UpTo 490 := upTo_byteLength (by omega) short
  have number := Json.toNumber_float (up.isFinite (by omega))
  have high : byteLength text ≤ ofInt (2 ^ 490 : Nat) := by
    rw [byteLength, natCast_eq_ofInt]
    exact ofRatio_le_ofRatio (Int.ofNat_le.mpr short) Nat.one_pos
  refine ⟨⟨byteLength text, number, high⟩, fun other member => ?_⟩
  rwa [← Option.some.inj member]

variable (parse : String → String → Option Syntax.Tree) (stack : Signals.CallStack) {hour : Int}

theorem compute_cases (given : EnvironmentTables.hourOf clock c.hour = .ok hour) (size : Json)
    (name : String) (content : Option String) :
    let figures := (({ parse, stack } : Meter).compute clock c size name content).outcome
    (content = none ∧ size = .null ∧ figures = .error (.noInput name)) ∨
      (∃ n, size = .int n ∧ (ofInt n).isFinite = false ∧
        figures = .error (.arithmetic .integerTooLarge)) ∨
      ¬(content = none ∧ size = .null) ∧ (∀ n, size = .int n → (ofInt n).isFinite = true) ∧
        ((∃ m, figures = .ok m) ∨ ∃ cause ∈ figureOverflows, figures = .error cause) := by
  intro figures
  have shape : figures = _ := outcome_compute _ _ _ size name content
  obtain ⟨none, null, missing⟩ | ⟨n, same, infinite, refused⟩ | ⟨known, finite, s, unit, -⟩ :=
    SourceUnit.ofInput_cases ({ parse, stack } : Meter).languages name content size
  · rw [missing] at shape
    exact .inl ⟨none, null, shape⟩
  · rw [refused] at shape
    exact .inr (.inl ⟨n, same, infinite, shape⟩)
  · refine .inr (.inr ⟨known, finite, ?_⟩)
    rw [unit] at shape
    cases result : figures with
    | ok m => exact .inl ⟨m, rfl⟩
    | error cause =>
      refine .inr ⟨cause, ?_, rfl⟩
      obtain ⟨x, sized, number, -⟩ :=
        SourceUnit.exists_byteCount (u := ⟨name, .float s, content, _⟩) rfl
      obtain failed | ⟨u, same, later⟩ := cases_of_bind_eq_error (shape.symm.trans result)
      · nomatch failed
      obtain rfl := Except.ok.inj same
      obtain failed | ⟨m, -, done⟩ := cases_of_bind_eq_error later
      · exact mem_figureOverflows_of_measure parse (stack.enter 1) given sized number failed
      · nomatch done

theorem exists_compute (given : EnvironmentTables.hourOf clock c.hour = .ok hour) {size : Json}
    (name : String) {content : Option String} (moderate : Moderate size content)
    (known : ¬(content = none ∧ size = .null)) :
    ∃ m, (({ parse, stack } : Meter).compute clock c size name content).outcome = .ok m := by
  rw [outcome_compute]
  obtain ⟨none, null, -⟩ | ⟨n, rfl, -, refused⟩ | ⟨-, -, s, unit, measured⟩ :=
    SourceUnit.ofInput_cases ({ parse, stack } : Meter).languages name content size
  · exact absurd ⟨none, null⟩ known
  · obtain ⟨x, number, -⟩ := moderate.size_le
    rw [SourceUnit.ofInput_of_ne_null _ _ _ (by simp), number] at refused
    nomatch refused
  · have up : s.UpTo 490 := by
      obtain ⟨text, rfl, rfl⟩ | ⟨x, number, rfl⟩ := measured
      · exact upTo_byteLength (by omega) (moderate.content_le text rfl)
      · obtain ⟨y, same, high⟩ := moderate.size_le
        obtain rfl := Except.ok.inj (number.symm.trans same)
        exact UpTo.max ((rank_le_of_le high).trans upTo_moderate.rank_le)
    obtain ⟨x, sized, -, range⟩ :=
      SourceUnit.exists_byteCount (u := ⟨name, .float s, content, _⟩) rfl
    obtain ⟨m, found, -⟩ := exists_measure parse (stack.enter 1) given (by omega) sized
      (range 490 (by omega) up) moderate.content_le
    exact ⟨_, bind_eq_ok_of unit (bind_eq_ok_of found rfl)⟩

end Meter
end Footprint
