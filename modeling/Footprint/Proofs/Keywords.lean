import Footprint.Keywords
import Footprint.Proofs.Binary64.Mean
import Footprint.Proofs.Complexity
import Mathlib.Data.List.TakeWhile

/-! Counting keywords is counting words. A text falls into its longest runs of word characters; the count
is the number of runs that are a keyword, and these are also what a search finds that tries each keyword in
turn between two edges of words, from left to right and each time behind what it has found. -/
namespace Footprint.Keywords

open Binary64 Text

def words (text : List Char) : List (List Char) :=
  (text.splitOnP fun c => !isWord c).filter (!·.isEmpty)

/-! ### Searching -/

/-- An edge of a word lies between two characters, or an end of the text, of which just one is a word
character. -/
def isEdge (before after : Option Char) : Bool := before.any isWord != after.any isWord

def matchAt? (before : Option Char) (text : List Char) : Option (List Char) :=
  if isEdge before text.head? then
    keywords.find? fun k => k.isPrefixOf text && isEdge k.getLast? (text.drop k.length).head?
  else none

def search (before : Option Char) : List Char → List (List Char)
  | [] => []
  | c :: rest =>
    match matchAt? before (c :: rest) with
    | some k => k :: search k.getLast? (rest.drop (k.length - 1))
    | none => search (some c) rest
  termination_by text => text.length

/-! ### Runs -/

theorem isWord_of_mem : ∀ k ∈ keywords, k ≠ [] ∧ ∀ c ∈ k, isWord c = true := by
  simp [keywords]
  decide

def Breaks (rest : List Char) : Prop := ∀ c ∈ rest.head?, isWord c = false

@[simp] theorem breaks_nil : Breaks [] := by simp [Breaks]

@[simp] theorem breaks_cons (c : Char) (rest : List Char) : Breaks (c :: rest) ↔ isWord c = false := by
  simp [Breaks]

/-- Every text is a run of word characters, or such a run with another character and a text behind it. -/
theorem runs_induction {P : List Char → Prop} (last : ∀ run, (∀ c ∈ run, isWord c = true) → P run)
    (more : ∀ run c rest, (∀ c ∈ run, isWord c = true) → isWord c = false → P rest → P (run ++ c :: rest))
    (text : List Char) : P text := by
  induction length : text.length using Nat.strong_induction_on generalizing text with
  | _ n ih =>
    have run (c : Char) (h : c ∈ text.takeWhile isWord) : isWord c = true := List.mem_takeWhile_imp h
    rw [← List.takeWhile_append_dropWhile (p := isWord) (l := text)]
    cases behind : text.dropWhile isWord with
    | nil => simpa using last _ run
    | cons c rest =>
      have other := List.head?_dropWhile_not isWord text
      rw [behind] at other
      have shorter := congrArg List.length (List.takeWhile_append_dropWhile (p := isWord) (l := text))
      simp [behind] at shorter
      exact more _ c rest run other (ih rest.length (by omega) rest rfl)

/-! ### Words -/

variable {run rest : List Char} {c : Char}

theorem words_run (each : ∀ c ∈ run, isWord c = true) : words run = if run.isEmpty then [] else [run] := by
  have one : run.splitOnP (fun c => !isWord c) = [run] :=
    List.splitOnP_eq_singleton fun c hc => by simp [each c hc]
  cases run <;> simp [words, one]

theorem words_append_cons (text rest : List Char) (other : isWord c = false) :
    words (text ++ c :: rest) = words text ++ words rest := by
  have apart : (text ++ c :: rest).splitOnP (fun c => !isWord c) =
      text.splitOnP (fun c => !isWord c) ++ rest.splitOnP (fun c => !isWord c) :=
    List.splitOnP_append_cons text rest (by simp [other])
  simp [words, apart]

/-! ### Keywords in front of a text -/

/-- A keyword stands in front without a word character behind it just when it is the run in front. -/
theorem prefix_and_breaks_iff {k : List Char} (word : ∀ c ∈ k, isWord c = true)
    (each : ∀ c ∈ run, isWord c = true) (breaks : Breaks rest) :
    (k.isPrefixOf (run ++ rest) && !((run ++ rest).drop k.length).head?.any isWord) = true ↔ k = run := by
  constructor
  · intro h
    simp only [Bool.and_eq_true, List.isPrefixOf_iff_prefix, Bool.not_eq_true'] at h
    obtain ⟨⟨behind, cut⟩, free⟩ := h
    rw [← cut, List.drop_left] at free
    obtain ⟨more, rfl, same⟩ | ⟨more, rfl, same⟩ := List.append_eq_append_iff.mp cut
    · cases more with
      | nil => simp
      | cons c more =>
        rw [same] at free
        simp [each c (by simp)] at free
    · cases more with
      | nil => simp
      | cons c more =>
        rw [same] at breaks
        simp [word c (by simp)] at breaks
  · rintro rfl
    cases rest with
    | nil => simp
    | cons c rest => simp [(breaks_cons c rest).mp breaks]

theorem standsAt_append (each : ∀ c ∈ run, isWord c = true) (breaks : Breaks rest) :
    standsAt (run ++ rest) = keywords.contains run := by
  rw [Bool.eq_iff_iff, standsAt, List.any_eq_true, List.contains_iff_mem]
  constructor
  · rintro ⟨k, member, stands⟩
    exact (prefix_and_breaks_iff (isWord_of_mem k member).2 each breaks).mp stands ▸ member
  · intro member
    exact ⟨run, member, (prefix_and_breaks_iff each each breaks).mpr rfl⟩

/-! ### Counting -/

theorem countFrom_inside (n : Nat) (each : ∀ c ∈ run, isWord c = true) :
    countFrom n true (run ++ rest) = countFrom n true rest := by
  induction run with
  | nil => rfl
  | cons c run ih =>
    rw [List.forall_mem_cons] at each
    simp [countFrom, each.1, ih each.2]

theorem countFrom_run (n : Nat) (each : ∀ c ∈ run, isWord c = true) (breaks : Breaks rest) :
    countFrom n false (run ++ rest) =
      countFrom (if keywords.contains run then n + 1 else n) (!run.isEmpty) rest := by
  have stands := standsAt_append each breaks
  cases run with
  | nil =>
    have none : [] ∉ keywords := by decide
    simp [none]
  | cons c run =>
    rw [List.forall_mem_cons] at each
    rw [List.cons_append] at stands ⊢
    rw [countFrom, stands, each.1, countFrom_inside _ each.2]
    simp

theorem countFrom_other (n : Nat) (inWord : Bool) (other : isWord c = false) :
    countFrom n inWord (c :: rest) = countFrom n false rest := by
  have stands : standsAt (c :: rest) = false := by
    rw [← List.nil_append (c :: rest), standsAt_append (by simp) (by simp [other])]
    decide
  simp [countFrom, stands, other]

theorem countFrom_eq (n : Nat) (text : List Char) :
    countFrom n false text = n + (words text).countP keywords.contains := by
  induction text using runs_induction generalizing n with
  | last run each =>
    have counted := countFrom_run n each breaks_nil
    rw [List.append_nil] at counted
    rw [counted, words_run each]
    cases run with
    | nil => simp [countFrom]; decide
    | cons c run => simp [countFrom, List.countP_singleton]; split <;> rfl
  | more run c rest each other ih =>
    rw [countFrom_run n each (by simp [other]), countFrom_other _ _ other, ih,
      words_append_cons _ _ other, words_run each]
    cases run with
    | nil => simp; decide
    | cons c run => simp [List.countP_cons]; split <;> omega

/-! ### Searching finds the words -/

theorem isEdge_getLast? {k : List Char} (member : k ∈ keywords) (after : Option Char) :
    isEdge k.getLast? after = !after.any isWord := by
  obtain ⟨nonempty, word⟩ := isWord_of_mem k member
  have last := word _ (List.getLast_mem nonempty)
  rw [List.getLast?_eq_getLast_of_ne_nil nonempty]
  cases after <;> simp [isEdge, last]

theorem matchAt?_of_inside {before : Char} (word : isWord before = true) (each : ∀ c ∈ run, isWord c = true)
    (text : List Char) (front : run ≠ []) : matchAt? (some before) (run ++ text) = none := by
  cases run with
  | nil => exact absurd rfl front
  | cons c run => simp [matchAt?, isEdge, word, each c (by simp)]

theorem matchAt?_of_breaks (before : Option Char) (breaks : Breaks rest) : matchAt? before rest = none := by
  unfold matchAt?
  split
  · simp only [List.find?_eq_none, Bool.and_eq_true, not_and]
    intro k member behind
    rw [isEdge_getLast? member, ← List.nil_append rest] at *
    intro free
    have stands := (prefix_and_breaks_iff (isWord_of_mem k member).2 (by simp) breaks).mp
      (Bool.and_eq_true_iff.mpr ⟨behind, free⟩)
    exact (isWord_of_mem k member).1 stands
  · rfl

theorem matchAt?_run {before : Option Char} (outside : before.any isWord = false)
    (each : ∀ c ∈ run, isWord c = true) (breaks : Breaks rest) :
    matchAt? before (run ++ rest) = if run ∈ keywords then some run else none := by
  cases run with
  | nil =>
    have none : [] ∉ keywords := by decide
    simp [none, matchAt?_of_breaks before breaks]
  | cons c tail =>
    have edge : isEdge before ((c :: tail) ++ rest).head? = true := by
      simp [isEdge, outside, each c (by simp)]
    have iff (k : List Char) (member : k ∈ keywords) : (k.isPrefixOf (c :: tail ++ rest) &&
        isEdge k.getLast? ((c :: tail ++ rest).drop k.length).head?) = true ↔ k = c :: tail := by
      rw [isEdge_getLast? member]
      exact prefix_and_breaks_iff (isWord_of_mem k member).2 each breaks
    rw [matchAt?, if_pos edge]
    cases found : keywords.find? fun k => k.isPrefixOf (c :: tail ++ rest) &&
      isEdge k.getLast? ((c :: tail ++ rest).drop k.length).head? with
    | none =>
      rw [List.find?_eq_none] at found
      rw [if_neg fun member => found _ member ((iff _ member).mpr rfl)]
    | some k =>
      have member := List.mem_of_find?_eq_some found
      have stands := List.find?_some found
      obtain rfl := (iff k member).mp stands
      rw [if_pos member]

theorem search_nil (before : Option Char) : search before [] = [] := by rw [search]

theorem search_of_none {before : Option Char} (nothing : matchAt? before (c :: rest) = none) :
    search before (c :: rest) = search (some c) rest := by
  rw [search, nothing]

theorem search_of_some {before : Option Char} {k : List Char} (found : matchAt? before (k ++ rest) = some k)
    (nonempty : k ≠ []) : search before (k ++ rest) = k :: search k.getLast? rest := by
  cases k with
  | nil => exact absurd rfl nonempty
  | cons c k =>
    rw [List.cons_append] at found ⊢
    rw [search, found]
    simp

theorem search_inside {before : Char} (word : isWord before = true) (each : ∀ c ∈ run, isWord c = true)
    (rest : List Char) :
    ∃ last, isWord last = true ∧ search (some before) (run ++ rest) = search (some last) rest := by
  induction run generalizing before with
  | nil => exact ⟨before, word, rfl⟩
  | cons c run ih =>
    have nothing := matchAt?_of_inside word each rest (by simp)
    rw [List.forall_mem_cons] at each
    rw [List.cons_append] at nothing ⊢
    rw [search_of_none nothing]
    exact ih each.1 each.2

theorem search_run {before : Option Char} (outside : before.any isWord = false)
    (each : ∀ c ∈ run, isWord c = true) (breaks : Breaks rest) :
    ∃ last, search before (run ++ rest) = (words run).filter (· ∈ keywords) ++ search last rest := by
  have first := matchAt?_run outside each breaks
  rw [words_run each]
  split at first
  · next member =>
    have nonempty := (isWord_of_mem run member).1
    exact ⟨run.getLast?, by simp [search_of_some first nonempty, nonempty, member]⟩
  · next other =>
    cases run with
    | nil => exact ⟨before, by simp⟩
    | cons c run =>
      rw [List.forall_mem_cons] at each
      obtain ⟨last, -, rest⟩ := search_inside each.1 each.2 rest
      rw [List.cons_append] at first ⊢
      exact ⟨some last, by simp [search_of_none first, rest, other]⟩

theorem search_eq {before : Option Char} (outside : before.any isWord = false) (text : List Char) :
    search before text = (words text).filter (· ∈ keywords) := by
  induction text using runs_induction generalizing before with
  | last run each =>
    obtain ⟨last, found⟩ := search_run outside each breaks_nil
    rw [List.append_nil] at found
    simp [found, search_nil]
  | more run c rest each other ih =>
    have breaks : Breaks (c :: rest) := by simp [other]
    obtain ⟨last, found⟩ := search_run outside each breaks
    rw [found, search_of_none (matchAt?_of_breaks last (by simp [other])),
      ih (by simp [other]), words_append_cons _ _ other, List.filter_append]

/-! ### Texts -/

theorem count_eq (text : String) : count text = ((words text.toList).filter (· ∈ keywords)).length := by
  have same : keywords.contains = fun word => decide (word ∈ keywords) := by
    funext word
    simp
  rw [count, countFrom_eq, Nat.zero_add, List.countP_eq_length_filter, same]

theorem count_append (a b : String) (other : isWord c = false) :
    count (a ++ String.singleton c ++ b) = count a + count b := by
  simp [count_eq, words_append_cons _ _ other]

def complexity (text : String) : Binary64 := (Scoring.profile {} (Analysis.ofKeywords text)).complexity

theorem complexity_eq (text : String) :
    complexity text = Scoring.clamp (1.0 + (count text : Binary64) * 0.15) 3.0 := by
  simp only [complexity, Analysis.ofKeywords, Scoring.profile]

theorem complexity_le_complexity {a b : String} (h : count a ≤ count b) : complexity a ≤ complexity b := by
  have order {m n : Nat} (h : m ≤ n) : (m : Binary64) ≤ n := by
    rw [natCast_eq_ofInt, natCast_eq_ofInt]
    exact ofRatio_le_ofRatio (by exact_mod_cast h) Nat.one_pos
  have nonneg : (0 : Binary64) ≤ (count a : Binary64) := order (Nat.zero_le _)
  rw [complexity_eq, complexity_eq]
  exact Scoring.clamp_le_clamp one_le_three (Scoring.add_loopShare_le nonneg (order h))

/-- The count of a text is the number of its words that are keywords, and a search finds these words. A
character that belongs to no word therefore divides a text into two whose counts add up, and neither of
them is more complex than the text. -/
theorem count_whole_words :
    (∀ text, count text = (search none text.toList).length ∧
      search none text.toList = (words text.toList).filter
        (· ∈ ["for", "while", "do", "forEach", "map", "filter", "reduce"].map String.toList)) ∧
    ∀ a b c, isWord c = false →
      count (a ++ String.singleton c ++ b) = count a + count b ∧
      complexity a ≤ complexity (a ++ String.singleton c ++ b) ∧
      complexity b ≤ complexity (a ++ String.singleton c ++ b) := by
  have found (text : String) : search none text.toList = (words text.toList).filter (· ∈ keywords) :=
    search_eq rfl text.toList
  refine ⟨fun text => ⟨?_, found text⟩, fun a b c other => ?_⟩
  · rw [count_eq, found]
  have sum := count_append a b other
  exact ⟨sum, complexity_le_complexity (by omega), complexity_le_complexity (by omega)⟩

theorem count_whole_words_divided :
    isWord '-' = false ∧ count "for-do_it" = count "for" + count "do_it" ∧ count "for-do_it" = 1 ∧
      complexity "for" ≤ complexity "for-do_it" ∧ complexity "do_it" ≤ complexity "for-do_it" := by
  have other : isWord '-' = false := by decide +kernel
  obtain ⟨sum, left, right⟩ := count_whole_words.2 "for" "do_it" '-' other
  obtain ⟨counted, found⟩ := count_whole_words.1 "for-do_it"
  exact ⟨other, sum, by rw [counted, found]; decide +kernel, left, right⟩

example : words "for (é of b) { forEach; do_it }".toList =
    ["for", "é", "of", "b", "forEach", "do_it"].map String.toList := by decide +kernel

end Footprint.Keywords
