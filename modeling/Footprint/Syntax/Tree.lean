/-! Concrete syntax trees. Leaves hold the text of tokens; punctuation and keywords are leaves without
a name of their own. A child may stand under a field, which says what it is to its parent. -/
namespace Footprint.Syntax

inductive Kind where
  /- Tokens -/
  | token | identifier | propertyIdentifier | privateIdentifier | number | string | regex
  | templateText | markupText | this | super | importKeyword | metaProperty
  /- Programs and statements -/
  | program | block | expressionStatement | variableDeclaration | variableDeclarator
  | functionDeclaration | generatorFunctionDeclaration | functionSignature | classDeclaration
  | ifStatement | switchStatement | switchClause | forStatement | forInStatement | whileStatement
  | doStatement | tryStatement | catchClause | finallyClause | withStatement | breakStatement
  | continueStatement | debuggerStatement | returnStatement | throwStatement | emptyStatement
  | labeledStatement | importStatement | exportStatement
  /- Expressions -/
  | array | object | pair | spread | method | functionExpression | arrowFunction | classExpression
  | classBody | field | staticBlock | call | new | member | subscript | unary | update | binary
  | conditional | assignment | await | yield | sequence | parenthesized | parameterCover
  | arguments | template | templateSubstitution | decorator
  /- Parameters and patterns -/
  | parameters | arrayPattern | objectPattern | assignmentPattern | restPattern
  /- Markup -/
  | markupElement | markupAttribute | markupExpression
  /- Types -/
  | typeNode | typeAscription | typeArguments | typeParameters | typedExpression | nonNull
  | instantiation | typeDeclaration | enumDeclaration | namespaceDeclaration | ambientDeclaration
  deriving DecidableEq, Repr, Inhabited

inductive Field where
  | callee | property | name | body | value
  deriving DecidableEq, Repr

inductive Tree where
  | leaf (kind : Kind) (named : Bool) (text : String)
  | node (kind : Kind) (children : List (Option Field × Tree))
  deriving Inhabited

namespace Tree

def kind : Tree → Kind
  | leaf kind .. => kind
  | node kind _ => kind

def isNamed : Tree → Bool
  | leaf _ named _ => named
  | node .. => true

def children : Tree → List (Option Field × Tree)
  | leaf .. => []
  | node _ children => children

def child? (f : Field) (t : Tree) : Option Tree :=
  (t.children.find? fun c => c.1 == some f).map Prod.snd

mutual

def text : Tree → String
  | leaf _ _ text => text
  | node _ children => textAll children

def textAll : List (Option Field × Tree) → String
  | [] => ""
  | c :: rest => text c.2 ++ textAll rest

end

mutual

def preorder : Tree → List Tree
  | leaf kind named text => [leaf kind named text]
  | node kind children => node kind children :: preorderAll children

def preorderAll : List (Option Field × Tree) → List Tree
  | [] => []
  | c :: rest => preorder c.2 ++ preorderAll rest

end

mutual

def size : Tree → Nat
  | leaf .. => 1
  | node _ children => 1 + sizeAll children

def sizeAll : List (Option Field × Tree) → Nat
  | [] => 0
  | c :: rest => size c.2 + sizeAll rest

end

mutual

theorem length_preorder : (t : Tree) → t.preorder.length = t.size
  | leaf .. => rfl
  | node _ children => by simp [preorder, size, length_preorderAll children, Nat.add_comm]

theorem length_preorderAll : (cs : List (Option Field × Tree)) → (preorderAll cs).length = sizeAll cs
  | [] => rfl
  | c :: rest => by simp [preorderAll, sizeAll, length_preorder c.2, length_preorderAll rest]

end

end Tree
end Footprint.Syntax
