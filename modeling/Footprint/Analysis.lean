import Footprint.Event
import Footprint.Keywords
import Footprint.Script.Parse
import Footprint.Signals

/-! What a content shows of the work it does. Languages with a parser are analysed through their syntax
tree; every other text, and one that does not parse or nests too deeply, through its keywords. -/
namespace Footprint

structure Analysis where
  signals : Signals := {}
  branch : Branch := .syntaxTree
  deriving DecidableEq

namespace Analysis

def parsedLanguages : List String := ["js", "mjs", "cjs", "jsx", "ts", "tsx"]

def dialectOf (language : String) : Script.Dialect :=
  if language = "ts" then .typeScript
  else if language = "tsx" then .typeScriptMarkup
  else .javaScript

def parse? (content language : String) : Option Syntax.Tree :=
  Script.parse? (dialectOf language) content

def ofKeywords (content : String) : Analysis where
  signals := { loops := (Keywords.count content : Binary64) }
  branch := .keywords

def ofSizeOnly : Analysis := { branch := .sizeOnly }

/-- The analysis of a tree, or the reason why its text is analysed by keywords. -/
def ofTree (stack : Signals.CallStack) (tree : Option Syntax.Tree) (content : String) :
    Analysis × List Event :=
  match tree with
  | none => (ofKeywords content, [.parseFailed])
  | some t =>
    match Signals.ofTree? stack t with
    | none => (ofKeywords content, [.tooDeep])
    | some signals => ({ signals, branch := .syntaxTree }, [])

/-- The analysis of a content in a language under a parser, with the records of how it went. It is a call
of its own, within which the tree is visited. -/
def ofContentWith (stack : Signals.CallStack) (parse : String → String → Option Syntax.Tree)
    (parsed : List String) (content language : String) : Analysis × List Event :=
  if parsed.contains language then ofTree (stack.enter 1) (parse content language) content
  else (ofKeywords content, [.withoutParser language])

def ofContent : List String → String → String → Analysis × List Event := ofContentWith {} parse?

end Analysis
end Footprint
