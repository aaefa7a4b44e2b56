import Footprint.Proofs.Path
import Mathlib.Data.List.TakeWhile

/-! What stands behind the last point of a name. The extension of a name and the suffix of a path both take
it, the extension unless only points stand before, the suffix unless nothing does; and the extension looks
behind the last separator of either kind. -/
namespace Footprint

namespace Language

theorem exists_last_point {name : List Char} (pointed : '.' ∈ name) :
    ∃ front extension, name = front ++ '.' :: extension ∧ '.' ∉ extension := by
  obtain ⟨back, front, split, plain⟩ := List.eq_append_cons_of_mem (List.mem_reverse.mpr pointed)
  refine ⟨front.reverse, back.reverse, ?_, by simpa using plain⟩
  rw [← List.reverse_reverse name, split]
  simp

theorem takeWhile_reverse_of_plain {front extension : List Char} (plain : '.' ∉ extension) :
    ((front ++ '.' :: extension).reverse.takeWhile (· != '.')).reverse = extension := by
  have all : ∀ c ∈ extension.reverse, (c != '.') = true := fun c hc => by
    simpa using ne_of_mem_of_not_mem (List.mem_reverse.mp hc) plain
  rw [List.reverse_append, List.reverse_cons, List.append_assoc, List.takeWhile_append_of_pos all]
  simp

theorem extensionOf_of_points {front extension : List Char} (plain : '.' ∉ extension)
    (points : ∀ c ∈ front, c = '.') : extensionOf (front ++ '.' :: extension) = [] := by
  have dropped : (front ++ '.' :: extension).dropWhile (· == '.') = extension.dropWhile (· == '.') := by
    rw [List.dropWhile_append_of_pos fun c hc => by simpa using points c hc]
    simp
  have kept : extension.dropWhile (· == '.') = extension := by
    refine List.dropWhile_eq_self_iff.mpr fun nonempty => ?_
    simpa using ne_of_mem_of_not_mem (List.getElem_mem nonempty) plain
  rw [extensionOf, dropped, kept, if_neg (by simpa using plain)]

theorem extensionOf_of_not_points {front extension : List Char} (plain : '.' ∉ extension)
    (named : ¬ ∀ c ∈ front, c = '.') : extensionOf (front ++ '.' :: extension) = extension := by
  have left : front.dropWhile (· == '.') ≠ [] := by
    simpa [List.dropWhile_eq_nil_iff] using named
  have pointed : ((front ++ '.' :: extension).dropWhile (· == '.')).contains '.' = true := by
    rw [List.dropWhile_append, if_neg (by simpa using left)]
    simp
  rw [extensionOf, takeWhile_reverse_of_plain plain, if_pos pointed]

theorem extensionOf_of_no_point {name : List Char} (plain : '.' ∉ name) : extensionOf name = [] := by
  have absent : (name.dropWhile (· == '.')).contains '.' = false := by
    simpa using fun pointed => plain ((List.dropWhile_suffix _).mem pointed)
  rw [extensionOf, absent]
  rfl

/-- An extension stands behind a point, and what is before the point is not made of points alone. -/
theorem exists_of_extensionOf {name : List Char} (some : extensionOf name ≠ []) :
    ∃ front, name = front ++ '.' :: extensionOf name ∧ ¬ ∀ c ∈ front, c = '.' := by
  by_cases pointed : '.' ∈ name
  · obtain ⟨front, extension, rfl, plain⟩ := exists_last_point pointed
    by_cases points : ∀ c ∈ front, c = '.'
    · exact absurd (extensionOf_of_points plain points) some
    · rw [extensionOf_of_not_points plain points]
      exact ⟨front, rfl, points⟩
  · exact absurd (extensionOf_of_no_point pointed) some

theorem lastComponent_append_of_plain (front : List Char) {back : List Char}
    (plain : ∀ c ∈ back, isSeparator c = false) :
    lastComponent (front ++ back) = lastComponent front ++ back := by
  have all : ∀ c ∈ back.reverse, (!isSeparator c) = true := fun c hc => by
    simp [plain c (List.mem_reverse.mp hc)]
  rw [lastComponent, List.reverse_append, List.takeWhile_append_of_pos all, List.reverse_append,
    List.reverse_reverse, lastComponent]

theorem lastComponent_of_forall {path : List Char} (plain : ∀ c ∈ path, isSeparator c = false) :
    lastComponent path = path :=
  lastComponent_append_of_plain [] plain

theorem exists_append_lastComponent (name : List Char) : ∃ front, name = front ++ lastComponent name := by
  refine ⟨(name.reverse.dropWhile fun c => !isSeparator c).reverse, ?_⟩
  rw [lastComponent, ← List.reverse_append, List.takeWhile_append_dropWhile, List.reverse_reverse]

end Language

namespace Path

open Footprint.Language

theorem suffixOf_of_point {front extension : List Char} (plain : '.' ∉ extension) :
    suffixOf (front ++ '.' :: extension) =
      if front ≠ [] ∧ extension ≠ [] then '.' :: extension else [] := by
  have length : (front ++ '.' :: extension).length = front.length + 1 + extension.length := by
    rw [List.length_append, List.length_cons]
    omega
  have behind : (front ++ '.' :: extension).length - extension.length - 1 = front.length := by omega
  have before : (front ++ '.' :: extension).take
      ((front ++ '.' :: extension).length - extension.length - 1) = front := by
    rw [behind, List.take_left]
  have longer : extension.length < (front ++ '.' :: extension).length := by omega
  simp only [suffixOf, takeWhile_reverse_of_plain plain, before, longer, true_and]

theorem suffixOf_of_no_point {name : List Char} (plain : '.' ∉ name) : suffixOf name = [] := by
  have whole : name.reverse.takeWhile (· != '.') = name.reverse :=
    List.takeWhile_eq_self_iff.mpr fun c hc => by
      simpa using ne_of_mem_of_not_mem (List.mem_reverse.mp hc) plain
  simp [suffixOf, whole]

/-- A suffix is what a name ends in from its last point on, where something stands before the point. -/
theorem suffixOf_eq_iff {name extension : List Char} (some : extension ≠ []) (plain : '.' ∉ extension) :
    suffixOf name = '.' :: extension ↔ ∃ front, front ≠ [] ∧ name = front ++ '.' :: extension := by
  constructor
  · intro found
    by_cases pointed : '.' ∈ name
    · obtain ⟨front, behind, rfl, unpointed⟩ := exists_last_point pointed
      rw [suffixOf_of_point unpointed] at found
      split at found
      · next both => exact ⟨front, both.1, by rw [found]⟩
      · cases found
    · rw [suffixOf_of_no_point pointed] at found
      cases found
  · rintro ⟨front, nonempty, rfl⟩
    rw [suffixOf_of_point plain, if_pos ⟨nonempty, some⟩]

theorem fileExtension_text {p : Path} (root : Leads p.root.toList) :
    fileExtension p.text = fileExtension p.name := by
  obtain none | ⟨others, last, components⟩ := List.eq_nil_or_concat' p.parts
  · have name : p.name = "" := by rw [Path.name, none]; rfl
    rw [name, Path.text, none]
    by_cases relative : p.root = ""
    · rw [if_pos ⟨relative, rfl⟩]
      decide +kernel
    · rw [if_neg fun both => relative both.1, String.intercalate_nil, String.append_empty,
        fileExtension, fileExtension, ← List.append_nil p.root.toList, lastComponent_append root]
      rfl
  · have name : p.name = last := by rw [Path.name, components, List.getLast?_concat]; rfl
    obtain ⟨back, text, leads⟩ := exists_text components root
    rw [name, fileExtension, fileExtension, text, lastComponent_append leads]

end Path

end Footprint
