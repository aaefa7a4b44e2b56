import Footprint.FileTree
import Mathlib.Data.List.Basic

/-! What a path keeps of the text it is read from. Slashes and single points that say nothing are left
out, but the name of a file stays at the end, and with it its language. -/
namespace Footprint

namespace Path

/-- Whether a text ends in what can be the name of a file: not in a slash or a point by itself. -/
def NamesFile (text : String) : Prop :=
  ∀ last ∈ (text.toList.splitOn '/').getLast?, last ≠ [] ∧ last ≠ ['.']

instance (text : String) : Decidable (NamesFile text) :=
  inferInstanceAs
    (Decidable (∀ last ∈ (text.toList.splitOn '/').getLast?, last ≠ [] ∧ last ≠ ['.']))

def Leads (front : List Char) : Prop := ∀ c ∈ front.getLast?, c = '/'

theorem Leads.append {front back : List Char} (hf : Leads front) (hb : Leads back) :
    Leads (front ++ back) := by
  intro c hc
  rw [List.getLast?_append] at hc
  cases last : back.getLast? with
  | none => exact hf c (by rwa [last, Option.none_or] at hc)
  | some d =>
    rw [last, Option.some_or] at hc
    exact hb c (last ▸ hc)

theorem leads_slash (component : List Char) : Leads (component ++ ['/']) := by
  intro c hc
  rw [List.getLast?_concat] at hc
  exact (Option.some.inj hc).symm

theorem leads_rootOf (text : List Char) : Leads (rootOf text).toList := by
  unfold rootOf
  split <;> intro c hc
  · nomatch hc
  all_goals exact (Option.some.inj hc).symm

theorem exists_intercalate_concat (parts : List (List Char)) (last : List Char) :
    ∃ front, ['/'].intercalate (parts ++ [last]) = front ++ last ∧ Leads front := by
  induction parts with
  | nil => exact ⟨[], List.intercalate_singleton, nofun⟩
  | cons first rest ih =>
    obtain ⟨front, joined, leads⟩ := ih
    refine ⟨first ++ ['/'] ++ front, ?_, (leads_slash first).append leads⟩
    rw [List.cons_append, List.intercalate_cons_of_ne_nil (by simp), joined, List.append_assoc,
      List.append_assoc, List.append_assoc]

theorem exists_text {p : Path} {others : List String} {last : String}
    (components : p.parts = others ++ [last]) (root : Leads p.root.toList) :
    ∃ back, p.text.toList = back ++ last.toList ∧ Leads back := by
  obtain ⟨inner, shown, innerLeads⟩ :=
    exists_intercalate_concat (others.map String.toList) last.toList
  refine ⟨p.root.toList ++ inner, ?_, root.append innerLeads⟩
  rw [Path.text, if_neg (by simp [components]), String.toList_append, String.toList_intercalate,
    components, List.map_append, List.append_assoc, ← shown]
  simp

theorem exists_text_ofText {text : String} (file : NamesFile text) :
    ∃ front back last, text.toList = front ++ last ∧ Leads front ∧
      (ofText text).text.toList = back ++ last ∧ Leads back := by
  obtain none | ⟨parts, last, split⟩ := List.eq_nil_or_concat' (text.toList.splitOn '/')
  · exact absurd none (List.splitOn_ne_nil '/' text.toList)
  obtain ⟨nonempty, noPoint⟩ := file last (by rw [split, List.getLast?_concat]; rfl)
  obtain ⟨front, joined, leads⟩ := exists_intercalate_concat parts last
  have whole : text.toList = front ++ last := by
    rw [← joined, ← split, List.intercalate_splitOn]
  have kept : String.ofList last ≠ "" ∧ String.ofList last ≠ "." := by
    constructor <;> intro same
    · exact nonempty (by simpa using congrArg String.toList same)
    · exact noPoint (by simpa using congrArg String.toList same)
  obtain ⟨others, components⟩ : ∃ others, (ofText text).parts = others ++ [String.ofList last] := by
    refine ⟨(parts.map String.ofList).filter fun p => p ≠ "" ∧ p ≠ ".", ?_⟩
    rw [ofText, split, List.map_append, List.filter_append]
    simp [kept]
  obtain ⟨back, shown, backLeads⟩ := exists_text components (leads_rootOf text.toList)
  exact ⟨front, back, last, whole, leads, by rw [shown, String.toList_ofList], backLeads⟩

end Path

theorem Language.lastComponent_append {front : List Char} (leads : Path.Leads front)
    (last : List Char) : lastComponent (front ++ last) = lastComponent last := by
  obtain rfl | ⟨before, c, rfl⟩ := List.eq_nil_or_concat' front
  · rfl
  · obtain rfl := leads c (by rw [List.getLast?_concat]; rfl)
    rw [List.append_assoc, List.singleton_append, lastComponent_append_cons before rfl]

theorem LanguageTable.classify_ofText {name : String} (file : Path.NamesFile name)
    (languages : LanguageTable) :
    languages.classify (Path.ofText name).text = languages.classify name := by
  obtain ⟨front, back, last, whole, leads, path, pathLeads⟩ := Path.exists_text_ofText file
  have extension : Language.fileExtension (Path.ofText name).text = Language.fileExtension name := by
    unfold Language.fileExtension
    rw [whole, path, Language.lastComponent_append leads, Language.lastComponent_append pathLeads]
  rw [classify, classify, extension]

end Footprint
