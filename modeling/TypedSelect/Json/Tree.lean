import TypedSelect.Number.Binary64

/-! JSON documents as trees. An object lists its members in the order in which they are to
be written. -/
namespace TypedSelect

open Number

inductive Json where
  | null
  | bool (value : Bool)
  | int (value : Int)
  | float (value : Binary64)
  | text (value : String)
  | array (items : List Json)
  | object (members : List (String × Json))

namespace Json

def setMember (key : String) (value : Json) : List (String × Json) → List (String × Json)
  | [] => [(key, value)]
  | (other, held) :: rest =>
    if other < key then (other, held) :: setMember key value rest
    else if key < other then (key, value) :: (other, held) :: rest
    else (key, value) :: rest

/-- Members in the order of their keys; of repeated keys the last counts. -/
def inKeyOrder (members : List (String × Json)) : List (String × Json) :=
  members.foldl (fun kept (key, value) => setMember key value kept) []

mutual

/-- The same tree with the members of every object in the order of their keys. -/
def sorted : Json → Json
  | .array items => .array (sortedItems items)
  | .object members => .object (inKeyOrder (sortedMembers members))
  | leaf => leaf

@[inherit_doc sorted]
def sortedItems : List Json → List Json
  | [] => []
  | item :: rest => item.sorted :: sortedItems rest

@[inherit_doc sorted]
def sortedMembers : List (String × Json) → List (String × Json)
  | [] => []
  | (key, value) :: rest => (key, value.sorted) :: sortedMembers rest

end

end Json

end TypedSelect
