import Footprint.Failure
import Footprint.Path
import Footprint.SourceUnit
import Footprint.Text.Utf8

/-! Files under the directory that a program runs in, and what is found at a path. -/
namespace Footprint

/-- What reading a file comes to: its bytes, or what the system says of the failure. -/
abbrev FileReading := Except String (List UInt8)

def FileReading.outcome : FileReading → Outcome (List UInt8)
  | .ok bytes => .ok bytes
  | .error message => .error (.system message)

structure StoredFile where
  first : FileReading
  second : FileReading

def StoredFile.ofBytes (bytes : List UInt8) : StoredFile := ⟨.ok bytes, .ok bytes⟩

/-- What is found at a path: a directory comes with all files beneath it, by their components. -/
inductive Found where
  | nothing
  /-- A component that is no directory stands before the end of the path. -/
  | blocked
  /-- The system refuses to look. -/
  | refused (message : String)
  | file (stored : StoredFile)
  | directory (files : List (List String × StoredFile))

structure FileTree where
  files : List (List String × List UInt8)
  directories : List (List String) := []

namespace FileTree

def file? (t : FileTree) (place : List String) : Option (List UInt8) := t.files.lookup place

/-- Directories are those that are named, and those on the way to a file or to one that is named. -/
def isDirectory (t : FileTree) (place : List String) : Bool :=
  place.isEmpty || t.directories.any place.isPrefixOf ||
    t.files.any fun f => place.isPrefixOf f.1 && place != f.1

def beneath (t : FileTree) (place : List String) : List (List String × StoredFile) :=
  t.files.filterMap fun f =>
    if place.isPrefixOf f.1 then some (f.1.drop place.length, .ofBytes f.2) else none

/-- What is found behind a place by further components; above the top nothing is known. -/
def lookFrom (t : FileTree) (place : List String) : List String → Found
  | [] =>
    match t.file? place with
    | some bytes => .file (.ofBytes bytes)
    | none => if t.isDirectory place then .directory (t.beneath place) else .nothing
  | part :: parts =>
    if (t.file? place).isSome then .blocked
    else if !t.isDirectory place then .nothing
    else if part = ".." then (if place.isEmpty then .nothing else lookFrom t place.dropLast parts)
    else lookFrom t (place ++ [part]) parts

def look (t : FileTree) (p : Path) : Found := if p.root = "" then t.lookFrom [] p.parts else .nothing

end FileTree

/-- The unit of a file: its name is the path, its size the number of its bytes. -/
def SourceUnit.ofBytes (languages : LanguageTable) (p : Path) (bytes : List UInt8) :
    Outcome SourceUnit :=
  SourceUnit.ofInput languages p.text (some (Text.Utf8.decode bytes)) (.int bytes.length)

def SourceUnit.ofStored (languages : LanguageTable) (p : Path) (stored : StoredFile) :
    Outcome SourceUnit := do
  SourceUnit.ofBytes languages p (← stored.first.outcome)

def SourceUnit.read (languages : LanguageTable) (look : Path → Found) (p : Path) :
    Outcome SourceUnit :=
  match look p with
  | .file stored => SourceUnit.ofStored languages p stored
  | .refused message => .error (.system message)
  | .directory _ => .error (.directoryInstead p.text)
  | .blocked => .error (.notDirectory p.text)
  | .nothing => .error (.missingFile p.text)

end Footprint
