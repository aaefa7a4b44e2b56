import Footprint.Json.Loose
import Footprint.Language

/-! One file to be estimated: its name, its size in bytes, and its content unless only the size is
known. -/
namespace Footprint

/-- A size is kept as it was given, so that a unit can also be built without one. -/
structure SourceUnit where
  name : String
  size : Json
  content : Option String
  language : String

def byteLength (text : String) : Binary64 := (text.utf8ByteSize : Binary64)

namespace SourceUnit

def label (u : SourceUnit) : String := if u.name.isEmpty then "<string>" else u.name

/-- A unit from what is known of a file. Without a size its content is measured, and one of the two
there must be. -/
def ofInput (languages : LanguageTable) (name : String) (content : Option String) (size : Json) :
    Outcome SourceUnit := do
  let size ←
    match size, content with
    | .null, none => throw (.noInput name)
    | .null, some text => pure (byteLength text)
    | given, _ => (Binary64.max 0 ·) <$> given.toNumber
  return ⟨name, .float size, content, (languages.classify name).tag⟩

def byteCount (u : SourceUnit) : Outcome Binary64 := (Binary64.max 0 ·) <$> u.size.toNumber

end SourceUnit

def lineCount (text : String) : Nat := text.toList.count '\n' + 1

def bytesPerLine : Binary64 := 50

def estimatedLines (size : Binary64) : Except ArithmeticError Int := (size / bytesPerLine).ceil?

def linesOf (content : Option String) (size : Binary64) : Except ArithmeticError Int :=
  match content with
  | some text => .ok (lineCount text)
  | none => estimatedLines size

end Footprint
