import Footprint.Binary64.Rounding
import Footprint.Text.LowerCase

/-! The language of a file, told by the extension of its name, and the energy that the language costs
relative to the others. -/
namespace Footprint

structure Language where
  tag : String
  multiplier : Binary64
  deriving DecidableEq

/-- Multipliers by extension, and the language of every name that has none of them. -/
structure LanguageTable where
  multipliers : List (String × Binary64)
  default : Language

namespace Language

def isSeparator (c : Char) : Bool := c == '/' || c == '\\'

def lastComponent (path : List Char) : List Char :=
  (path.reverse.takeWhile fun c => !isSeparator c).reverse

/-- The part of a component behind its last point; points at its front do not count. -/
def extensionOf (component : List Char) : List Char :=
  if (component.dropWhile (· == '.')).contains '.' then
    (component.reverse.takeWhile (· != '.')).reverse
  else []

/-- The extension of a file name in lower case, empty when it has none. -/
def fileExtension (name : String) : String :=
  Text.lower (String.ofList (extensionOf (lastComponent name.toList)))

theorem lastComponent_append_cons (directory : List Char) {separator : Char}
    (separates : isSeparator separator = true) (name : List Char) :
    lastComponent (directory ++ separator :: name) = lastComponent name := by
  unfold lastComponent
  rw [List.reverse_append, List.reverse_cons, List.append_assoc, List.takeWhile_append]
  split
  · next all =>
    rw [(List.takeWhile_prefix _).eq_of_length all]
    simp [separates]
  · rfl

end Language

namespace LanguageTable

def builtIn : LanguageTable where
  multipliers :=
    [("js", 1.0), ("mjs", 1.0), ("cjs", 1.0), ("jsx", 1.05), ("ts", 1.1), ("tsx", 1.15), ("py", 1.8),
      ("rs", 0.4), ("go", 0.6), ("cpp", 0.35), ("java", 1.4), ("swift", 0.9), ("kt", 1.25),
      ("kotlin", 1.25)]
  default := ⟨"js", 1.0⟩

/-- The language of a file name; a name is missing as an empty one is. -/
def classify (table : LanguageTable) (name : String) : Language :=
  match table.multipliers.lookup (Language.fileExtension name) with
  | some multiplier => ⟨Language.fileExtension name, multiplier⟩
  | none => table.default

def isKnown (table : LanguageTable) (name : String) : Bool :=
  (table.multipliers.lookup (Language.fileExtension name)).isSome

end LanguageTable
end Footprint
