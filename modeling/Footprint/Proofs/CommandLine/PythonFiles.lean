import Footprint.Proofs.CommandLine.Subjects
import Footprint.Proofs.Extension
import Footprint.Proofs.SourceUnit

/-! Files whose cyclomatic complexity is looked at. They are told by the suffix of the path as it is written,
while the language of a file is told by its extension without case. So a file of Python is looked at exactly
when its extension is in small letters, and beyond these only names that are points before the suffix. What
is reported is the greatest complexity of the files that are looked at, if one of them parses. -/
namespace Footprint.CommandLine

open Footprint.Language

variable {s : Surroundings} {o : Options}

def python : List Char := ['p', 'y']

def Respelled (name : String) : Prop :=
  fileExtension name = "py" ∧ extensionOf (lastComponent name.toList) ≠ python

/-- A name that ends in the suffix, with only points between its last separator and the suffix. -/
def PointsOnly (name : String) : Prop :=
  ∃ front, front ≠ [] ∧ name.toList = front ++ '.' :: python ∧ ∀ c ∈ lastComponent front, c = '.'

theorem python_plain : '.' ∉ python ∧ python ≠ [] ∧ ∀ c ∈ '.' :: python, isSeparator c = false := by
  simp [python, isSeparator]

theorem lower_python : Text.lower (String.ofList python) = "py" ∧ Text.lower (String.ofList []) ≠ "py" := by
  decide +kernel

theorem isPython_iff {p : Path} :
    isPython p = true ↔ ∃ front, front ≠ [] ∧ p.name.toList = front ++ '.' :: python := by
  have suffix : ".py" = String.ofList ('.' :: python) := by decide
  rw [isPython, beq_iff_eq, Path.suffix, suffix, String.ofList_inj]
  exact Path.suffixOf_eq_iff python_plain.2.1 python_plain.1

theorem extensionOf_front_of_points {front : List Char} (points : ∀ c ∈ lastComponent front, c = '.') :
    extensionOf (lastComponent (front ++ '.' :: python)) = [] := by
  rw [lastComponent_append_of_plain front python_plain.2.2, extensionOf_of_points python_plain.1 points]

theorem extensionOf_front_of_not_points {front : List Char} (named : ¬ ∀ c ∈ lastComponent front, c = '.') :
    extensionOf (lastComponent (front ++ '.' :: python)) = python := by
  rw [lastComponent_append_of_plain front python_plain.2.2, extensionOf_of_not_points python_plain.1 named]

theorem isPython_and_not_iff {p : Path} :
    isPython p = true ∧ fileExtension p.name ≠ "py" ↔ PointsOnly p.name := by
  rw [isPython_iff, fileExtension]
  constructor
  · rintro ⟨⟨front, nonempty, name⟩, other⟩
    refine ⟨front, nonempty, name, ?_⟩
    rw [name] at other
    by_contra named
    rw [extensionOf_front_of_not_points named] at other
    exact other lower_python.1
  · rintro ⟨front, nonempty, name, points⟩
    refine ⟨⟨front, nonempty, name⟩, ?_⟩
    rw [name, extensionOf_front_of_points points]
    exact lower_python.2

theorem not_isPython_and_iff {p : Path} :
    isPython p = false ∧ fileExtension p.name = "py" ↔ Respelled p.name := by
  rw [← Bool.not_eq_true, isPython_iff, Respelled, and_comm]
  refine and_congr_right fun extension => not_congr ⟨?_, fun written => ?_⟩
  · rintro ⟨front, -, name⟩
    rw [fileExtension, name] at extension
    rw [name]
    refine extensionOf_front_of_not_points fun points => ?_
    rw [extensionOf_front_of_points points] at extension
    exact lower_python.2 extension
  · obtain ⟨front, component, named⟩ := exists_of_extensionOf (written ▸ python_plain.2.1)
    obtain ⟨directory, name⟩ := exists_append_lastComponent p.name.toList
    refine ⟨directory ++ front, ?_, ?_⟩
    · intro none
      rw [(List.append_eq_nil_iff.mp none).2] at named
      exact named (by simp)
    · rw [name, component, written, List.append_assoc]

/-! ### The files of a subject -/

theorem tag_classify_eq_iff {languages : LanguageTable} {tag : String}
    (listed : languages.multipliers.lookup tag ≠ none) (other : languages.default.tag ≠ tag) (name : String) :
    (languages.classify name).tag = tag ↔ fileExtension name = tag := by
  rw [LanguageTable.classify]
  cases known : languages.multipliers.lookup (fileExtension name) with
  | some multiplier => exact .rfl
  | none => exact iff_of_false other fun same => listed (same ▸ known)

theorem language_of_ofStored {languages : LanguageTable} {p : Path} {stored : StoredFile} {u : SourceUnit}
    (read : SourceUnit.ofStored languages p stored = .ok u) :
    u.language = (languages.classify p.text).tag := by
  obtain ⟨bytes, -, read⟩ := exists_of_bind_eq_ok read
  rw [SourceUnit.ofBytes, SourceUnit.ofInput_of_ne_null _ _ _ (by simp)] at read
  obtain ⟨size, -, made⟩ := exists_of_bind_eq_ok read
  rw [← Except.ok.inj made]

theorem leads_of_collect {languages : LanguageTable} {look : Path → Found} {text : String}
    {files : List (Path × StoredFile)} (found : collect languages look (.ofText text) = .ok files) :
    ∀ f ∈ files, Path.Leads f.1.root.toList := by
  have root := Path.leads_rootOf text.toList
  unfold collect at found
  split at found
  · obtain rfl := Except.ok.inj found
    exact fun f single => List.mem_singleton.mp single ▸ root
  · split at found
    · cases found
    · obtain rfl := Except.ok.inj found
      intro f member
      obtain ⟨entry, -, rfl⟩ := List.mem_map.mp member
      exact root
  · cases found
  · cases found

structure Examined (p : Path) (language : String) : Prop where
  /-- It is looked at if its name ends in the suffix and has something before. -/
  examined : isPython p = true ↔ ∃ front, front ≠ [] ∧ p.name.toList = front ++ '.' :: python
  tagged : language = "py" ↔ fileExtension p.name = "py"
  missed : isPython p = false ∧ language = "py" ↔ Respelled p.name
  besides : isPython p = true ∧ language ≠ "py" ↔ PointsOnly p.name
  agrees : (isPython p = true ↔ language = "py") ↔ ¬ Respelled p.name ∧ ¬ PointsOnly p.name

theorem examined_of_tagged {p : Path} {language : String}
    (tagged : language = "py" ↔ fileExtension p.name = "py") : Examined p language := by
  have missed : isPython p = false ∧ language = "py" ↔ Respelled p.name := by
    rw [tagged, not_isPython_and_iff]
  have besides : isPython p = true ∧ language ≠ "py" ↔ PointsOnly p.name := by
    rw [ne_eq, tagged, ← ne_eq, isPython_and_not_iff]
  refine ⟨isPython_iff, tagged, missed, besides, ?_⟩
  rw [← missed, ← besides]
  cases isPython p <;> simp

theorem examined_of_subject {files : List (Path × StoredFile)} {units : List SourceUnit}
    (found : subject .builtIn s o = .ok (.files files units)) :
    List.Forall₂ (fun f u => Examined f.1 u.language) files units := by
  unfold subject at found
  split at found
  · obtain ⟨u, -, absurd⟩ := exists_of_bind_eq_ok found
    cases absurd
  · obtain ⟨collected, listed, found⟩ := exists_of_bind_eq_ok found
    obtain ⟨_, mapped, same⟩ := exists_of_bind_eq_ok found
    cases same
    have : Inhabited SourceUnit := ⟨⟨"", .null, none, ""⟩⟩
    obtain ⟨unit, made, rfl⟩ := exists_map_of_mapM mapped
    rw [List.forall₂_map_right_iff, List.forall₂_same]
    intro f member
    refine examined_of_tagged ?_
    rw [language_of_ofStored (made f member), tag_classify_eq_iff (by decide) (by decide),
      Path.fileExtension_text (leads_of_collect listed f member)]

/-! ### The complexity that is reported -/

section

variable {library other : Cyclomatic.Library} {files : List (Path × StoredFile)}

/-- The greatest complexity that a library tells of a file, none if that is no Python. There is none either
way if the file cannot be read again, or if the library fails. -/
def complexityOf (library : Cyclomatic.Library) (f : Path × StoredFile) : Outcome (Option Int) := do
  library.greatest? (← textAgain f.2)

structure IsGreatestOf (library : Cyclomatic.Library) (files : List (Path × StoredFile)) (n : Int) : Prop
    where
  told : ∀ f ∈ files, ∃ greatest, complexityOf library f = .ok greatest
  present : ∃ f ∈ files, complexityOf library f = .ok (some n)
  greatest : ∀ f ∈ files, ∀ m, complexityOf library f = .ok (some m) → m ≤ n

def FailsFirst (library : Cyclomatic.Library) (files : List (Path × StoredFile)) (cause : Failure) : Prop :=
  ∃ before f after, files = before ++ f :: after ∧
    (∀ g ∈ before, ∃ greatest, complexityOf library g = .ok greatest) ∧ complexityOf library f = .error cause

theorem failsFirst_iff {cause : Failure} :
    FailsFirst library files cause ↔ files.mapM (complexityOf library) = .error cause :=
  mapM_eq_error_iff.symm

/-- What is reported besides the result tells the greatest complexity of the files, if one of them parses. -/
structure Reports (library : Cyclomatic.Library) (files : List (Path × StoredFile))
    (outcome : Outcome (List (String × Json))) : Prop where
  present : ∀ extra, outcome = .ok extra →
    (extra ≠ [] ↔ ∃ f ∈ files, ∃ n, complexityOf library f = .ok (some n))
  value (n : Int) : outcome = .ok [(cyclomaticLabel, .int n)] ↔ IsGreatestOf library files n
  failed (cause : Failure) : outcome = .error cause ↔ FailsFirst library files cause

def pythonFiles (files : List (Path × StoredFile)) (units : List SourceUnit) : List (Path × StoredFile) :=
  ((files.zip units).filter fun f => f.2.language = "py").map Prod.fst

theorem max?_eq_some_iff_isGreatestOf {told : Path × StoredFile → Option Int}
    (each : ∀ f ∈ files, complexityOf library f = .ok (told f)) {n : Int} :
    (files.filterMap told).max? = some n ↔ IsGreatestOf library files n := by
  rw [List.max?_eq_some_iff, List.mem_filterMap]
  constructor
  · rintro ⟨⟨f, member, found⟩, least⟩
    refine ⟨fun f member => ⟨_, each f member⟩, ⟨f, member, found ▸ each f member⟩, fun g listed m parsed => ?_⟩
    exact least m (List.mem_filterMap.mpr ⟨g, listed, Except.ok.inj ((each g listed).symm.trans parsed)⟩)
  · rintro ⟨-, ⟨f, member, parsed⟩, least⟩
    refine ⟨⟨f, member, Except.ok.inj ((each f member).symm.trans parsed)⟩, fun m listed => ?_⟩
    obtain ⟨g, listed, found⟩ := List.mem_filterMap.mp listed
    exact least g listed m (found ▸ each g listed)

/-- What is reported of the files that are looked at, once it is known what the library tells of each. -/
theorem reports_of_told {told : Path × StoredFile → Option Int}
    (each : ∀ f ∈ files, complexityOf library f = .ok (told f)) :
    Reports library files (.ok (((files.filterMap told).max?.map fun n => (cyclomaticLabel, .int n)).toList)) := by
  constructor
  case present =>
    rintro extra ⟨⟩
    have nothing : (files.filterMap told).max? = none ↔ ∀ f ∈ files, told f = none := by
      rw [List.max?_eq_none_iff, List.filterMap_eq_nil_iff]
    constructor
    · intro told'
      by_contra none
      refine told' ?_
      rw [nothing.mpr fun f member => ?_]
      · rfl
      · cases found : told f with
        | none => rfl
        | some n => exact absurd ⟨f, member, n, found ▸ each f member⟩ none
    · rintro ⟨f, member, n, parsed⟩ empty
      have some := Except.ok.inj ((each f member).symm.trans parsed)
      cases greatest : (files.filterMap told).max? with
      | none => nomatch (nothing.mp greatest f member).symm.trans some
      | some m => simp [greatest] at empty
  case value =>
    intro n
    rw [← max?_eq_some_iff_isGreatestOf each]
    cases (files.filterMap told).max? with
    | none => simp
    | some m => simp
  case failed =>
    refine fun cause => ⟨nofun, ?_⟩
    rintro ⟨before, f, after, rfl, -, failed⟩
    nomatch (each f (by simp)).symm.trans failed

theorem greatestCyclomatic_eq (library : Cyclomatic.Library) (files : List (Path × StoredFile)) :
    greatestCyclomatic library files =
      (files.filter fun f => isPython f.1).mapM (complexityOf library) >>= fun each =>
        .ok (each.filterMap id).max? := rfl

theorem reports_extras (asked : o.radon = true) (files : List (Path × StoredFile)) :
    Reports library (files.filter fun f => isPython f.1) (extras library o files) := by
  rw [extras, if_pos asked, greatestCyclomatic_eq]
  cases mapped : (files.filter fun f => isPython f.1).mapM (complexityOf library) with
  | error cause =>
    obtain ⟨before, f, after, split, -, failed⟩ := failsFirst_iff.mpr mapped
    rw [error_bind, error_bind]
    constructor
    case present => exact nofun
    case value =>
      refine fun n => ⟨nofun, fun greatest => ?_⟩
      obtain ⟨_, absurd⟩ := greatest.told f (by simp [split])
      nomatch failed.symm.trans absurd
    case failed =>
      intro other
      rw [failsFirst_iff, mapped, Except.error.injEq, Except.error.injEq]
  | ok each =>
    obtain ⟨told, agree, rfl⟩ := exists_map_of_mapM mapped
    have reports := reports_of_told agree
    rw [ok_bind, ok_bind, List.filterMap_map, Function.id_comp]
    cases greatest : (List.filterMap told (files.filter fun f => isPython f.1)).max? <;>
    · rw [greatest] at reports
      exact reports

theorem extras_congr (alike : ∀ f ∈ files, isPython f.1 = true →
    ∀ text, textAgain f.2 = .ok text → other text = library text) :
    extras other o files = extras library o files := by
  have each : (files.filter fun f => isPython f.1).mapM (complexityOf other) =
      (files.filter fun f => isPython f.1).mapM (complexityOf library) := by
    refine mapM_congr fun f listed => ?_
    rw [complexityOf, complexityOf]
    cases read : textAgain f.2 with
    | error cause => rfl
    | ok text =>
      obtain ⟨member, looked⟩ := List.mem_filter.mp listed
      have same := alike f member looked text read
      rw [ok_bind, ok_bind, Cyclomatic.Library.greatest?, Cyclomatic.Library.greatest?, same]
  rw [extras, extras, greatestCyclomatic_eq, greatestCyclomatic_eq, each]

end

theorem pythonFiles_eq {files : List (Path × StoredFile)} {units : List SourceUnit}
    (each : List.Forall₂ (fun f u => Examined f.1 u.language) files units)
    (ordinary : ∀ f ∈ files, ¬ Respelled f.1.name ∧ ¬ PointsOnly f.1.name) :
    pythonFiles files units = files.filter fun f => isPython f.1 := by
  rw [pythonFiles]
  induction each with
  | nil => rfl
  | @cons f u _ _ first _ ih =>
    rw [List.forall_mem_cons] at ordinary
    have agrees := first.agrees.mpr ordinary.1
    rw [List.zip_cons_cons, List.filter_cons, List.filter_cons]
    by_cases tagged : u.language = "py"
    · rw [if_pos (by simpa using tagged), if_pos (agrees.mpr tagged), List.map_cons, ih ordinary.2]
    · rw [if_neg (by simpa using tagged), if_neg (mt agrees.mp tagged), ih ordinary.2]

/-- With the switch given, a file that is analysed is looked at exactly when its name ends in the suffix and
has something before, whatever its language: of no other text does the library have a say. The language
agrees unless the suffix has a capital, and then the file is not looked at, or only points stand before the
suffix. The greatest complexity of the files that are looked at is reported, if one parses, and where no name
is of these two kinds, they are the files of the language. -/
theorem cyclomatic_of_files (asked : o.radon = true) {files : List (Path × StoredFile)}
    {units : List SourceUnit} (found : subject .builtIn s o = .ok (.files files units)) :
    List.Forall₂ (fun f u => Examined f.1 u.language) files units ∧
    Reports s.cyclomatic (files.filter fun f => isPython f.1) (extras s.cyclomatic o files) ∧
    (∀ other : Cyclomatic.Library,
      (∀ f ∈ files, isPython f.1 = true → ∀ text, textAgain f.2 = .ok text → other text = s.cyclomatic text) →
      extras other o files = extras s.cyclomatic o files) ∧
    ((∀ f ∈ files, ¬ Respelled f.1.name ∧ ¬ PointsOnly f.1.name) →
      Reports s.cyclomatic (pythonFiles files units) (extras s.cyclomatic o files)) := by
  have each := examined_of_subject found
  have reports : Reports s.cyclomatic _ (extras s.cyclomatic o files) := reports_extras asked files
  refine ⟨each, reports, fun other => extras_congr, fun ordinary => ?_⟩
  rwa [pythonFiles_eq each ordinary]

def twoPaths : List UInt8 := Text.Utf8.encode "def f(x):\n    if x:\n        return 1\n    return 2\n"

def onlyTwoPaths : Surroundings where
  settings := .builtIn
  clock := 12
  look := fun _ => .file (.ofBytes twoPaths)
  input := ""
  cyclomatic := .ofGrammar

def cyclomaticOptions (path : String) : Options := { Options.ofSettings .builtIn with path, radon := true }

theorem complexityOf_twoPaths (p : Path) :
    complexityOf .ofGrammar (p, .ofBytes twoPaths) = .ok (some 2) := by
  have read : Text.withLineFeeds (Text.Utf8.decode twoPaths).toList = (Text.Utf8.decode twoPaths).toList := by
    decide +kernel
  have complexities : Cyclomatic.Library.ofGrammar (Text.Utf8.decode twoPaths) = .ok [2] := by
    decide +kernel
  simp only [complexityOf, textAgain, StoredFile.ofBytes, FileReading.outcome, ok_bind, pure_bind, read,
    String.ofList_toList, Cyclomatic.Library.greatest?, complexities]
  rfl

theorem subject_onlyTwoPaths {path : String} (file : path ≠ "-") :
    ∃ u, subject .builtIn onlyTwoPaths (cyclomaticOptions path) =
        .ok (.files [(.ofText path, .ofBytes twoPaths)] [u]) ∧
      u.language = (LanguageTable.builtIn.classify (Path.ofText path).text).tag := by
  have short : twoPaths.length ≤ 2 ^ 6 := by decide
  obtain ⟨u, read, -⟩ := SourceUnit.within_ofBytes .builtIn (.ofText path) (by decide : 6 + 2 ≤ 1023) short
  have stored : SourceUnit.ofStored .builtIn (.ofText path) (.ofBytes twoPaths) = .ok u := by
    rw [SourceUnit.ofStored_ofBytes, read]
  refine ⟨u, ?_, language_of_ofStored stored⟩
  have collected : collect .builtIn onlyTwoPaths.look (.ofText path) =
      .ok [(.ofText path, .ofBytes twoPaths)] := rfl
  rw [subject, if_neg (show (cyclomaticOptions path).path ≠ "-" from file)]
  simp only [cyclomaticOptions, collected, ok_bind, List.mapM_cons, List.mapM_nil, stored]
  rfl

theorem cyclomatic_of_files_smallLetters :
    ∃ u, subject .builtIn onlyTwoPaths (cyclomaticOptions "m.py") =
        .ok (.files [(.ofText "m.py", .ofBytes twoPaths)] [u]) ∧
      Examined (.ofText "m.py") u.language ∧
      extras .ofGrammar (cyclomaticOptions "m.py") [(.ofText "m.py", .ofBytes twoPaths)] =
        .ok [(cyclomaticLabel, .int 2)] := by
  obtain ⟨u, found, -⟩ := subject_onlyTwoPaths (by decide : "m.py" ≠ "-")
  obtain ⟨each, reports, -⟩ := cyclomatic_of_files (rfl : (cyclomaticOptions "m.py").radon = true) found
  have looked : [(Path.ofText "m.py", StoredFile.ofBytes twoPaths)].filter (fun f => isPython f.1) =
      [(.ofText "m.py", .ofBytes twoPaths)] := List.filter_cons_of_pos (by decide +kernel)
  rw [looked] at reports
  have two := complexityOf_twoPaths (.ofText "m.py")
  refine ⟨u, found, (List.forall₂_cons.mp each).1, (reports.value 2).mpr ⟨?_, ?_, ?_⟩⟩
  · exact List.forall_mem_singleton.mpr ⟨_, two⟩
  · exact ⟨_, List.mem_singleton_self _, two⟩
  · refine List.forall_mem_singleton.mpr fun m parsed => ?_
    exact (Option.some.inj (Except.ok.inj (two.symm.trans parsed))).ge

/-- With capitals in its suffix, a file of the language is not looked at, although it parses. -/
theorem capitals_not_examined :
    ∃ u, subject .builtIn onlyTwoPaths (cyclomaticOptions "A.PY") =
        .ok (.files [(.ofText "A.PY", .ofBytes twoPaths)] [u]) ∧
      u.language = "py" ∧ complexityOf .ofGrammar (.ofText "A.PY", .ofBytes twoPaths) = .ok (some 2) ∧
      isPython (.ofText "A.PY") = false ∧
      extras .ofGrammar (cyclomaticOptions "A.PY") [(.ofText "A.PY", .ofBytes twoPaths)] = .ok [] := by
  obtain ⟨u, found, language⟩ := subject_onlyTwoPaths (by decide : "A.PY" ≠ "-")
  have tagged : (LanguageTable.builtIn.classify (Path.ofText "A.PY").text).tag = "py" := by decide +kernel
  have passed : isPython (.ofText "A.PY") = false := by decide +kernel
  refine ⟨u, found, language.trans tagged, complexityOf_twoPaths _, passed, ?_⟩
  have nothing : greatestCyclomatic .ofGrammar [(.ofText "A.PY", .ofBytes twoPaths)] = .ok none := by
    rw [greatestCyclomatic, List.filter_cons_of_neg (by simp [passed])]
    rfl
  rw [extras, if_pos (show (cyclomaticOptions "A.PY").radon = true from rfl), nothing]
  rfl

end Footprint.CommandLine
