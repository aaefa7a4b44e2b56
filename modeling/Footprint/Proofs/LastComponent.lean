import Footprint.Proofs.Extension
import Footprint.Proofs.Text.LowerCase

/-! The part of a name behind its last separator, of either kind, is all that its extension is read from, and
with it its language. So a name has one language in every directory, whatever points the directory has. -/
namespace Footprint

namespace Language

/-- The part of a name behind its last separator: it has none, and it is the whole or one stands before it. -/
structure IsLastComponent (name component : List Char) : Prop where
  plain : ∀ c ∈ component, c ∉ ['/', '\\']
  behind : name = component ∨
    ∃ directory, ∃ separator ∈ ['/', '\\'], name = directory ++ separator :: component

theorem isSeparator_iff {c : Char} : isSeparator c = true ↔ c ∈ ['/', '\\'] := by
  simp [isSeparator]

theorem isSeparator_eq_false_iff {c : Char} : isSeparator c = false ↔ c ∉ ['/', '\\'] := by
  rw [← isSeparator_iff, Bool.not_eq_true]

theorem isLastComponent_lastComponent (name : List Char) : IsLastComponent name (lastComponent name) := by
  have plain : ∀ c ∈ lastComponent name, isSeparator c = false := by
    intro c member
    simpa using List.mem_takeWhile_imp (List.mem_reverse.mp member)
  refine ⟨fun c member => isSeparator_eq_false_iff.mp (plain c member), ?_⟩
  obtain ⟨front, whole⟩ := exists_append_lastComponent name
  obtain rfl | ⟨directory, separator, rfl⟩ := List.eq_nil_or_concat' front
  · exact .inl whole
  · rw [List.append_assoc, List.singleton_append] at whole
    refine .inr ⟨directory, separator, isSeparator_iff.mp ?_, whole⟩
    -- If what stands before were no separator, it would be in the component.
    by_contra other
    have longer := lastComponent_append_of_plain directory
      (List.forall_mem_cons.mpr ⟨Bool.not_eq_true _ ▸ other, plain⟩)
    rw [← whole] at longer
    have := congrArg List.length longer
    rw [List.length_append, List.length_cons] at this
    omega

theorem isLastComponent_iff {name component : List Char} :
    IsLastComponent name component ↔ component = lastComponent name := by
  refine ⟨?_, fun same => same ▸ isLastComponent_lastComponent name⟩
  rintro ⟨plain, behind⟩
  have whole : lastComponent component = component :=
    lastComponent_of_forall fun c member => isSeparator_eq_false_iff.mpr (plain c member)
  rcases behind with rfl | ⟨directory, separator, separates, rfl⟩
  · exact whole.symm
  · rw [lastComponent_append_cons directory (isSeparator_iff.mpr separates), whole]

theorem lastComponent_inDirectory (directory name : String) {separator : String}
    (separates : separator ∈ ["/", "\\"]) :
    lastComponent (directory ++ separator ++ name).toList = lastComponent name.toList := by
  obtain ⟨c, hc, shown⟩ : ∃ c, isSeparator c = true ∧ separator.toList = [c] := by
    rcases List.mem_pair.mp separates with rfl | rfl
    · exact ⟨'/', rfl, rfl⟩
    · exact ⟨'\\', rfl, rfl⟩
  rw [String.toList_append, String.toList_append, shown, List.append_assoc, List.singleton_append,
    lastComponent_append_cons _ hc]

/-! ### The extension of a component -/

theorem mem_extensionOf {component : List Char} {c : Char} (member : c ∈ extensionOf component) :
    c ∈ component ∧ c ≠ '.' := by
  unfold extensionOf at member
  split at member
  · have taken := List.mem_reverse.mp member
    have inside := (List.takeWhile_prefix _).mem taken
    exact ⟨List.mem_reverse.mp inside, by simpa using List.mem_takeWhile_imp taken⟩
  · cases member

/-- Where a point follows the points at the front of a component, the extension follows its last point. -/
theorem exists_of_pointed {component : List Char} (pointed : '.' ∈ component.dropWhile (· == '.')) :
    ∃ front, component = front ++ '.' :: extensionOf component := by
  obtain ⟨front, extension, split, plain⟩ := exists_last_point ((List.dropWhile_suffix _).mem pointed)
  have behind : extensionOf component = extension := by
    rw [extensionOf, if_pos (by simpa using pointed), split, takeWhile_reverse_of_plain plain]
  exact ⟨front, by rw [behind, split]⟩

theorem extensionOf_ne_nil_iff {component : List Char} :
    extensionOf component ≠ [] ↔
      '.' ∈ component.dropWhile (· == '.') ∧ component.getLast? ≠ some '.' := by
  by_cases pointed : '.' ∈ component.dropWhile (· == '.')
  · obtain ⟨front, split⟩ := exists_of_pointed pointed
    rw [and_iff_right pointed, ne_eq, ne_eq, not_iff_not]
    constructor
    · intro none
      rw [split, none, List.getLast?_concat]
    · intro last
      by_contra some
      rw [split, List.getLast?_append_cons, List.getLast?_cons_of_ne_nil some] at last
      exact (mem_extensionOf (List.mem_of_getLast? last)).2 rfl
  · have none : extensionOf component = [] := by rw [extensionOf, if_neg (by simpa using pointed)]
    exact iff_of_false (not_not_intro none) fun both => pointed both.1

/-! ### The extension of a name -/

theorem fileExtension_ne_empty_iff {name : String} :
    fileExtension name ≠ "" ↔ extensionOf (lastComponent name.toList) ≠ [] := by
  rw [fileExtension, ne_eq, Text.lower_eq_empty_iff, String.ofList_eq_empty_iff]

theorem plain_fileExtension {name : String} {c : Char} (member : c ∈ (fileExtension name).toList) :
    c ∉ ['.', '/', '\\'] := by
  rw [fileExtension, Text.lower, String.toList_ofList, String.toList_ofList] at member
  rcases Text.mem_or_letter_le_of_mem_lowerFrom member with kept | letter
  · obtain ⟨inside, notPoint⟩ := mem_extensionOf kept
    have := (isLastComponent_lastComponent name.toList).plain c inside
    simpa [notPoint] using this
  · have marks : ∀ d ∈ ['.', '/', '\\'], d.toNat < 'a'.toNat := by simp
    exact fun mark => absurd letter (marks c mark).not_ge

structure ToldByLastComponent (name : String) : Prop where
  /-- One part of the name is its last component. -/
  component (part : List Char) : IsLastComponent name.toList part ↔ part = lastComponent name.toList
  plain : ∀ c ∈ (fileExtension name).toList, c ∉ ['.', '/', '\\']
  /-- There is an extension exactly if the component has a point behind those at its front and does not end
  in one. -/
  present : fileExtension name ≠ "" ↔
    '.' ∈ (lastComponent name.toList).dropWhile (· == '.') ∧
      (lastComponent name.toList).getLast? ≠ some '.'
  /-- It is the lower case of what follows the last point. -/
  behind : fileExtension name ≠ "" → ∃ front extension,
    lastComponent name.toList = front ++ '.' :: extension ∧ '.' ∉ extension ∧
      fileExtension name = Text.lower (String.ofList extension)
  /-- A directory before the name changes nothing, with either separator and whatever points it has. -/
  inDirectory (directory : String) : ∀ separator ∈ ["/", "\\"],
    fileExtension (directory ++ separator ++ name) = fileExtension name
  languages (table : LanguageTable) (directory : String) : ∀ separator ∈ ["/", "\\"],
    table.classify (directory ++ separator ++ name) = table.classify name ∧
      table.isKnown (directory ++ separator ++ name) = table.isKnown name

/-- Of every name, the last component alone tells the extension and the language. -/
theorem toldByLastComponent (name : String) : ToldByLastComponent name := by
  have inDirectory (directory : String) : ∀ separator ∈ ["/", "\\"],
      fileExtension (directory ++ separator ++ name) = fileExtension name := by
    intro separator separates
    rw [fileExtension, fileExtension, lastComponent_inDirectory directory name separates]
  constructor
  case component => exact fun part => isLastComponent_iff
  case plain => exact fun c => plain_fileExtension
  case present => rw [fileExtension_ne_empty_iff, extensionOf_ne_nil_iff]
  case behind =>
    intro some
    obtain ⟨front, split, -⟩ := exists_of_extensionOf (fileExtension_ne_empty_iff.mp some)
    exact ⟨front, _, split, fun point => (mem_extensionOf point).2 rfl, rfl⟩
  case inDirectory => exact inDirectory
  case languages =>
    intro table directory separator separates
    have same := inDirectory directory separator separates
    exact ⟨by rw [LanguageTable.classify, LanguageTable.classify, same],
      by rw [LanguageTable.isKnown, LanguageTable.isKnown, same]⟩

example : fileExtension "a.d\\..b/.c.TÉ" = "té" ∧ fileExtension "dir.d/README" = "" ∧
    fileExtension "...py" = "" ∧ fileExtension "a.b." = "" := by decide +kernel

end Language
end Footprint
