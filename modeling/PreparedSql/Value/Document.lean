import PreparedSql.Time.Rfc3339
import PreparedSql.Value.Basic

/-!
# Values as documents

A value is kept as an object that names its kind under `type` and holds its content under `value`;
NULL has no content. Numbers that are not finite have no form of their own and become `null`.

A document is read in that form, with any members besides, or as the pair of kind and content. Under
`type` the kind may also be an object that has the name as its one key and `null` under it.
-/
namespace PreparedSql.Value

open PreparedSql.Ieee PreparedSql.Time

def int64Range : Decimal.Range :=
  Decimal.Range.signed 8

def tagged (kind : String) (content : Json) : Json :=
  .object [("type", .string kind), ("value", content)]

/-- A number with a fraction, or `null` in place of what no document can hold. -/
def numberDocument (x : Binary64) : Json :=
  if x.isFinite then .float x else .null

mutual

def toDocument : Value → Json
  | null => .object [("type", .string "Null")]
  | bool b => tagged "Bool" (.bool b)
  | int n => tagged "Int" (.int n.toInt)
  | float x => tagged "Float" (numberDocument x)
  | text s => tagged "Text" (.string s)
  | timestamp t => tagged "Timestamp" (.string (String.ofList (Rfc3339.text t)))
  | uuid u => tagged "Uuid" (.string (String.ofList u.text))
  | json document => tagged "Json" document
  | list items => tagged "List" (.array (toDocuments items))

def toDocuments : List Value → List Json
  | [] => []
  | item :: items => toDocument item :: toDocuments items

end

/-- The value of a kind other than `List` with the given content. -/
def ofContent? (kind : String) (content : Json) : Option Value :=
  match kind, content with
  | "Null", .null => some null
  | "Bool", .bool b => some (bool b)
  | "Int", .int n => if int64Range.holds n then some (int (Int64.ofInt n)) else none
  | "Float", .int n => some (float (Binary64.ofInt n))
  | "Float", .float x => some (float x)
  | "Text", .string s => some (text s)
  | "Timestamp", .string s => (Rfc3339.parse? s.toList).map timestamp
  | "Uuid", .string s => (Uuid.parse? s.toList).map uuid
  | "Json", document => some (json document)
  | _, _ => none

def kindOf? : Json → Option String
  | .string kind => some kind
  | .object [(kind, .null)] => some kind
  | _ => none

mutual

/-- Kind and content of a document are found first; only `Null` may lack a content. -/
def ofDocument? : Json → Option Value
  | .object members =>
    match (members.lookup "type").bind kindOf? with
    | some kind => ofMembers? kind members
    | none => none
  | .array [.string kind, content] => ofTagged? kind content
  | _ => none

/-- Looks for the content of a kind among the members of an object. -/
def ofMembers? (kind : String) : List (String × Json) → Option Value
  | [] => if kind = "Null" then some null else none
  | (key, content) :: members =>
    if key = "value" then ofTagged? kind content else ofMembers? kind members

def ofTagged? (kind : String) : Json → Option Value
  | .array items =>
    if kind = "List" then (ofDocuments? items).map list
    else ofContent? kind (.array items)
  | content => ofContent? kind content

def ofDocuments? : List Json → Option (List Value)
  | [] => some []
  | item :: items => do
    let value ← ofDocument? item
    let values ← ofDocuments? items
    return value :: values

end

end PreparedSql.Value
