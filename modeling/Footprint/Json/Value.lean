import Footprint.Binary64.Arithmetic

/-! JSON values. Whole numbers and doubles are told apart, and the members of an object keep their
order. -/
namespace Footprint

inductive Json where
  | null
  | bool (b : Bool)
  | int (n : Int)
  | float (x : Binary64)
  | string (s : String)
  | array (items : List Json)
  | object (members : List (String × Json))
  deriving Inhabited

namespace Json

/-- The member under a key; a key that is absent is told apart from one that holds null. -/
def member? (key : String) : Json → Option Json
  | .object members => members.lookup key
  | _ => none

/-- Sets a member: a key already there keeps its place. -/
def insertMember (key : String) (value : Json) : List (String × Json) → List (String × Json)
  | [] => [(key, value)]
  | (k, v) :: rest =>
    if k = key then (k, value) :: rest else (k, v) :: insertMember key value rest

def ofMembers (members : List (String × Json)) : Json :=
  .object (members.foldl (fun done m => insertMember m.1 m.2 done) [])

def isNull : Json → Bool
  | .null => true
  | _ => false

end Json
end Footprint
