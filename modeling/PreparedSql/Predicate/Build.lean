import PreparedSql.Predicate.Render

/-!
# Predicates built on their own

A predicate may be built behind any number of values, which is given as a word of 64 bits. Where a
sum is too large for a word the program stops, or the sum wraps around if it is not checked.
-/
namespace PreparedSql

/-- What becomes of a sum that is too large for a word. -/
inductive Overflow
  | stops
  | wraps
  deriving DecidableEq, Repr

/-- A word with a count added to it, unless the program stops. -/
def Overflow.add (mode : Overflow) (base : UInt64) (n : Nat) : Option UInt64 :=
  if mode = stops ∧ UInt64.size ≤ base.toNat + n then none else some (base + UInt64.ofNat n)

namespace Leaf

variable (mode : Overflow) (base : UInt64)

/-- The placeholder of the value with the given number behind `base` others. -/
def mark (number : Nat) : Option String :=
  (mode.add base number).map fun index => placeholder index.toNat

/-- The placeholders of values that come after `placed` others of the same test. -/
def marks (placed : Nat) : List Value → Option (List String)
  | [] => some []
  | _ :: values => do
    let first ← mark mode base (placed + 1)
    let later ← marks (placed + 1) values
    return first :: later

def buildMembers (column operator : String) (negated : Bool) : List Value → Option Fragment
  | [] => some (.ofText (if negated then "1=1" else "1=0"))
  | values =>
    (marks mode base 0 values).map fun placeholders =>
      ⟨column ++ " " ++ operator ++ " (" ++ ", ".intercalate placeholders ++ ")", values⟩

def buildValue (l : Leaf) (operator : String) : Value → Option (Except Fault Fragment)
  | .null =>
    if l.comparison = .eq then some (.ok (.ofText (l.column ++ " IS NULL")))
    else if l.comparison = .ne then some (.ok (.ofText (l.column ++ " IS NOT NULL")))
    else some (.error (.nullComparison l.column))
  | .list _ => some (.error (.listComparison l.column))
  | v =>
    (mark mode base 1).map fun placeholder =>
      .ok ⟨l.column ++ " " ++ operator ++ " " ++ placeholder, [v]⟩

def build (l : Leaf) : Option (Except Fault Fragment) :=
  match l.comparison.operator? with
  | none => some (.error (.unsupportedComparison l.comparison))
  | some operator =>
    match l.operand with
    | .raw sql => some (.ok (.ofText (l.column ++ " " ++ operator ++ " " ++ sql)))
    | .bound v =>
      if l.comparison.membership then
        (buildMembers mode base l.column operator l.comparison.negated (members v)).map .ok
      else l.buildValue mode base operator v

end Leaf

namespace Predicate

variable (mode : Overflow)

mutual

/-- A group is too short before any of its children is built. -/
def build (base : UInt64) : Predicate → Option (Except Fault Fragment)
  | empty => some (.error .emptyPredicate)
  | leaf l => l.build mode base
  | group connective children =>
    if children.length < 2 then some (.error (.shortGroup connective children.length))
    else
      (buildChildren base 0 children).map fun result =>
        result.map fun (texts, args) =>
          ⟨"(" ++ connective.separator.intercalate texts ++ ")", args⟩

/-- The children of a group, of which the ones before have `placed` values. -/
def buildChildren (base : UInt64) (placed : Nat) :
    List Predicate → Option (Except Fault (List String × List Value))
  | [] => some (.ok ([], []))
  | child :: children => do
    let start ← mode.add base placed
    match ← build start child with
    | .error fault => return .error fault
    | .ok first =>
      let later ← buildChildren base (placed + first.args.length) children
      return later.map fun (texts, args) => (first.sql :: texts, first.args ++ args)

end

end Predicate

end PreparedSql
