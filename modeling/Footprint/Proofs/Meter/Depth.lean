import Footprint.Proofs.Keywords
import Footprint.Proofs.Meter.Figures
import Footprint.Proofs.Script.Negations
import Mathlib.Data.String.Basic

/-! How deep a tree may be for a file to be measured by it. A content with a tree is measured by it where the
stack holds it within the calls down to the visit, and elsewhere by its keywords. The two come apart in a
chain of negations under a comment: the tree says nothing, and the words of the comment are keywords. -/
namespace Footprint

open Syntax.Tree (negationProgram negationText)

/-! ### Chains of negations as texts -/

theorem utf8ByteSize_negationText (n : Nat) : (negationText n).utf8ByteSize = n + 17 := by
  have whole (comment number : String) (marks : List Char) :
      (comment ++ String.ofList marks ++ number).utf8ByteSize =
        comment.utf8ByteSize + String.utf8Len marks + number.utf8ByteSize := by
    simp [String.utf8ByteSize_ofList]
  have marks : String.utf8Len (List.replicate n '!') = n := by
    induction n with
    | zero => rfl
    | succ n ih =>
      rw [List.replicate_succ, String.utf8Len_cons, ih]
      rfl
  have literals : "// for while do\n".utf8ByteSize = 16 ∧ "0".utf8ByteSize = 1 := by decide +kernel
  have sum : (negationText n).utf8ByteSize = _ := whole "// for while do\n" "0" (List.replicate n '!')
  omega

theorem lineCount_negationText (n : Nat) : lineCount (negationText n) = 2 := by
  have comment : "// for while do\n".toList.count '\n' = 1 := by decide +kernel
  rw [lineCount, Script.toList_negationText, List.count_append, Script.negationMarks, List.count_append,
    comment, List.count_replicate]
  rfl

theorem Keywords.count_negationText (n : Nat) : count (negationText n) = 3 := by
  have marks : countFrom 0 false (List.replicate n '!' ++ ['0']) = 0 := by
    induction n with
    | zero => decide +kernel
    | succ n ih =>
      rw [List.replicate_succ, List.cons_append, countFrom_other 0 false (by decide +kernel), ih]
  have rest : count (String.ofList (List.replicate n '!') ++ "0") = 0 := by
    rw [count, String.toList_append, String.toList_ofList]
    exact marks
  have words : count "// for while do" = 3 := by decide +kernel
  have text : negationText n =
      "// for while do" ++ String.singleton '\n' ++ (String.ofList (List.replicate n '!') ++ "0") := by
    have comment : "// for while do" ++ String.singleton '\n' = "// for while do\n" := by decide +kernel
    rw [comment, ← String.append_assoc]
    rfl
  rw [text, count_append _ _ (by decide +kernel), words, rest]

/-! ### Measuring by the tree -/

namespace Meter

variable {meter : Meter} {u : SourceUnit}

theorem analysisOf_of_tree {text : String} {t : Syntax.Tree} (content : u.content = some text)
    (known : meter.parsed.contains (meter.languages.classify u.name).tag = true)
    (tree : meter.parse text (meter.languages.classify u.name).tag = some t) :
    meter.analysisOf u =
      if (meter.stack.enter 3).holds t then { signals := Signals.visit {} t, branch := .syntaxTree }
      else .ofKeywords text := by
  have deeper : ((meter.deeper 2).stack.enter 1) = meter.stack.enter 3 := Signals.CallStack.enter_enter ..
  rw [analysisOf, content, analysis, Analysis.ofContentWith, deeper]
  have known' : (meter.deeper 2).parsed.contains (meter.languages.classify u.name).tag = true := known
  have tree' : (meter.deeper 2).parse text (meter.languages.classify u.name).tag = some t := tree
  rw [if_pos known', tree', Analysis.ofTree, Signals.ofTree?]
  cases (meter.stack.enter 3).holds t <;> rfl

end Meter

def negated (n : Nat) (size : Json) : SourceUnit := ⟨"a.js", size, some (negationText n), "js"⟩

/-- With the built-in parser, a chain of negations is measured by its tree as long as two calls for each of
them are left, and has then no complexity of its own. -/
theorem analysisOf_negated (n : Nat) (stack : Signals.CallStack) (size : Json) :
    (({} : Meter).on stack).analysisOf (negated n size) =
      if stack.inUse + (2 * n + 9) ≤ stack.limit then {} else { signals := { loops := 3 }, branch := .keywords }
      := by
  have known : (({} : Meter).on stack).parsed.contains
      ((({} : Meter).on stack).languages.classify (negated n size).name).tag = true := by
    change Analysis.parsedLanguages.contains (LanguageTable.builtIn.classify "a.js").tag = true
    decide +kernel
  have tree (language : String) : (({} : Meter).on stack).parse (negationText n) language =
      some (negationProgram n) := Script.parse?_negationText _ n
  have walked : Signals.visit {} (negationProgram n) = {} := Signals.visit_negationProgram {} n
  have counted : Analysis.ofKeywords (negationText n) = { signals := { loops := 3 }, branch := .keywords } := by
    rw [Analysis.ofKeywords, Keywords.count_negationText]
    rfl
  have held : (stack.enter 3).holds (negationProgram n) = decide (stack.inUse + (2 * n + 9) ≤ stack.limit) := by
    rw [Signals.CallStack.holds, Signals.visitDepth_negationProgram]
    exact decide_eq_decide.mpr (by simp only [Signals.CallStack.enter]; omega)
  rw [Meter.analysisOf_of_tree rfl known (tree _), Meter.stack_on, held, walked, counted]
  simp only [decide_eq_true_eq]

/-! ### At the rim of a stack -/

/-- So many negations that whoever calls a meter first of all can have them measured by their tree, but not
from three calls further down, nor from a worker. -/
def rim : Nat := 494

def walkedFigures : Metrics := ⟨0.0, 0.0, 368, 2, 1.0, 1.0, false, "js"⟩

def countedFigures : Metrics := ⟨0.0, 0.0, 368, 2, 1.45, 1.0, false, "js"⟩

theorem measure_rim (stack : Signals.CallStack) {size : Json}
    (sized : (negated rim size).byteCount = .ok 511) :
    ((({} : Meter).on stack).measure 12 {} (negated rim size)).outcome =
      .ok (if stack.inUse + 997 ≤ stack.limit then ⟨walkedFigures, .syntaxTree, "a.js"⟩
        else ⟨countedFigures, .keywords, "a.js"⟩) := by
  have lines : linesOf (negated rim size).content 511 = .ok 2 :=
    congrArg (fun lines : Nat => Except.ok (lines : Int)) (lineCount_negationText rim)
  have walked : (({} : Meter).on stack).metricsOf 12 {} 511 2 (LanguageTable.builtIn.classify "a.js")
      (Scoring.profile {} {}) = .ok walkedFigures := by
    rw [Meter.metricsOf_on]
    exact eq_ok_of_toOption (by decide +kernel)
  have counted : (({} : Meter).on stack).metricsOf 12 {} 511 2 (LanguageTable.builtIn.classify "a.js")
      (Scoring.profile {} { signals := { loops := 3 }, branch := .keywords }) = .ok countedFigures := by
    rw [Meter.metricsOf_on]
    exact eq_ok_of_toOption (by decide +kernel)
  have analysis : (({} : Meter).on stack).analysisOf (negated rim size) =
      if stack.inUse + 997 ≤ stack.limit then {} else { signals := { loops := 3 }, branch := .keywords } :=
    analysisOf_negated rim stack size
  rw [Meter.measure_eq_ok_iff]
  by_cases held : stack.inUse + 997 ≤ stack.limit
  · rw [if_pos held] at analysis ⊢
    rw [analysis]
    exact ⟨rfl, rfl, 511, 2, sized, lines, Meter.metricsOf_eq_ok_iff.mp walked⟩
  · rw [if_neg held] at analysis ⊢
    rw [analysis]
    exact ⟨rfl, rfl, 511, 2, sized, lines, Meter.metricsOf_eq_ok_iff.mp counted⟩

end Footprint
