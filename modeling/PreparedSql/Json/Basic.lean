import PreparedSql.Ieee.Binary

/-!
# JSON documents

Whole numbers and binary fractions are kept apart, so `1` and `1.0` are different documents.
-/
namespace PreparedSql

open PreparedSql.Ieee

inductive Json
  | null
  | bool (b : Bool)
  | int (n : Int)
  | float (x : Binary64)
  | string (s : String)
  | array (items : List Json)
  | object (members : List (String × Json))
  deriving Inhabited, Repr

namespace Json

/-- Puts a member at the place of its key in the order of keys; a member of that key gives way. -/
def insert (key : String) (value : Json) : List (String × Json) → List (String × Json)
  | [] => [(key, value)]
  | (k, v) :: members =>
    if key < k then (key, value) :: (k, v) :: members
    else if key = k then (key, value) :: members
    else (k, v) :: insert key value members

/-- The object with the given members in the order of their keys. Of members with one key the last
one counts. -/
def ofMembers (members : List (String × Json)) : Json :=
  .object (members.foldl (fun sorted m => insert m.1 m.2 sorted) [])

def member? (key : String) : Json → Option Json
  | object members => members.lookup key
  | _ => none

mutual

def beq : Json → Json → Bool
  | null, null => true
  | bool a, bool b => a == b
  | int a, int b => a == b
  | float a, float b => a == b
  | string a, string b => a == b
  | array as, array bs => beqItems as bs
  | object as, object bs => beqMembers as bs
  | _, _ => false

def beqItems : List Json → List Json → Bool
  | [], [] => true
  | a :: as, b :: bs => beq a b && beqItems as bs
  | _, _ => false

def beqMembers : List (String × Json) → List (String × Json) → Bool
  | [], [] => true
  | (k, a) :: as, (l, b) :: bs => k == l && beq a b && beqMembers as bs
  | _, _ => false

end

instance : BEq Json := ⟨beq⟩

end Json

end PreparedSql
