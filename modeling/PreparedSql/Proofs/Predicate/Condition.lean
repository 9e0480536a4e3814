import PreparedSql.Fault

/-!
# Reading conditions

A reader of SQL conditions. Comparisons are atoms, parentheses group, and AND binds tighter than OR.
The text is first cut into tokens. They are read from left to right with one level of terms and
factors for every parenthesis that is open: AND adds a factor to the current term, OR begins a new
term, and a closing parenthesis makes a factor of all that was read on its level.
-/
namespace PreparedSql

inductive Condition
  | comparison (sql : String)
  | group (connective : Connective) (children : List Condition)
  deriving Repr

namespace Condition

inductive Token
  | opening
  | closing
  | connective (c : Connective)
  | comparison (sql : String)
  deriving Repr

inductive Follow
  | nothing
  | operand
  | operands
  deriving DecidableEq, Repr

def isWordChar (c : Char) : Bool :=
  c.isAlphanum || c == '_' || c == '.' || c == '$'

def isSymbolChar (c : Char) : Bool :=
  c == '=' || c == '!' || c == '<' || c == '>'

def isListChar (c : Char) : Bool :=
  isWordChar c || c == ',' || c == ' '

def isKeyword (keyword : String) (word : List Char) : Bool :=
  word.map Char.toUpper == keyword.toList

def connective? (word : List Char) : Option Connective :=
  if isKeyword "AND" word then some .and
  else if isKeyword "OR" word then some .or
  else none

def skipBlanks (cs : List Char) : List Char :=
  cs.dropWhile (· == ' ')

def readName (cs : List Char) : Option (List Char) :=
  let word := cs.takeWhile isWordChar
  if word = [] ∨ (connective? word).isSome then none else some (cs.dropWhile isWordChar)

def splitLexeme (cs : List Char) : List Char × List Char :=
  if cs.takeWhile isWordChar = [] then (cs.takeWhile isSymbolChar, cs.dropWhile isSymbolChar)
  else (cs.takeWhile isWordChar, cs.dropWhile isWordChar)

def readKeywords : List String → List Char → Option (List Char)
  | [], cs => some cs
  | keyword :: keywords, cs =>
    let (lexeme, behind) := splitLexeme (skipBlanks cs)
    if isKeyword keyword lexeme then readKeywords keywords behind else none

def comparisonTable : List (List String × Follow) :=
  [(["="], .operand), (["!="], .operand), ([">"], .operand), ([">="], .operand), (["<"], .operand),
    (["<="], .operand), (["LIKE"], .operand), (["NOT", "LIKE"], .operand), (["ILIKE"], .operand),
    (["NOT", "ILIKE"], .operand), (["IN"], .operands), (["NOT", "IN"], .operands)]

def nullTable : List (List String × Follow) :=
  [(["IS", "NULL"], .nothing), (["IS", "NOT", "NULL"], .nothing)]

def readEntry (cs : List Char) (entry : List String × Follow) : Option (Follow × List Char) :=
  (readKeywords entry.1 cs).map fun behind => (entry.2, behind)

/-- No operator begins another one, so the first that is found is the one that is written. -/
def readOperator (cs : List Char) : Option (Follow × List Char) :=
  (comparisonTable ++ nullTable).findSome? (readEntry cs)

def readOperands (cs : List Char) : Option (List Char) :=
  match cs.dropWhile isListChar with
  | ')' :: behind => some behind
  | _ => none

def readFollowing : Follow → List Char → Option (List Char)
  | .nothing, cs => some cs
  | .operand, cs => readName (skipBlanks cs)
  | .operands, cs =>
    match skipBlanks cs with
    | '(' :: inside => readOperands inside
    | operand => readName operand

def readComparison (cs : List Char) : Option (List Char) := do
  let behindName ← readName cs
  let (follow, behindOperator) ← readOperator behindName
  readFollowing follow behindOperator

/-- The tokens of a text, the first `skipped` characters of which have been read. -/
def tokensFrom : Nat → List Char → Option (List Token)
  | _, [] => some []
  | skipped + 1, _ :: cs => tokensFrom skipped cs
  | 0, ' ' :: cs => tokensFrom 0 cs
  | 0, '(' :: cs => (tokensFrom 0 cs).map (.opening :: ·)
  | 0, ')' :: cs => (tokensFrom 0 cs).map (.closing :: ·)
  | 0, c :: cs =>
    let word := (c :: cs).takeWhile isWordChar
    match connective? word with
    | some connective => (tokensFrom (word.length - 1) cs).map (.connective connective :: ·)
    | none =>
      match readComparison (c :: cs) with
      | none => none
      | some behind =>
        let size := (c :: cs).length - behind.length
        (tokensFrom (size - 1) cs).map (.comparison (String.ofList ((c :: cs).take size)) :: ·)

def connected (connective : Connective) : List Condition → Condition
  | [x] => x
  | children => group connective children

/-- What was read since a parenthesis was opened: whole terms, and factors of the current one. -/
structure Level where
  terms : List Condition
  factors : List Condition
  deriving Repr

namespace Level

def fresh : Level :=
  ⟨[], []⟩

def add (l : Level) (x : Condition) : Level :=
  ⟨l.terms, l.factors ++ [x]⟩

def allTerms (l : Level) : List Condition :=
  l.terms ++ [connected .and l.factors]

def nextTerm (l : Level) : Level :=
  ⟨l.allTerms, []⟩

def condition (l : Level) : Condition :=
  connected .or l.allTerms

end Level

/-- Whether a condition has to come next or has just been read, and the levels from the innermost
on. -/
inductive State
  | awaiting (inner : Level) (outer : List Level)
  | complete (inner : Level) (outer : List Level)
  deriving Repr

namespace State

def step : State → Token → Option State
  | awaiting inner outer, .opening => some (awaiting .fresh (inner :: outer))
  | awaiting inner outer, .comparison sql => some (complete (inner.add (.comparison sql)) outer)
  | complete inner outer, .connective .and => some (awaiting inner outer)
  | complete inner outer, .connective .or => some (awaiting inner.nextTerm outer)
  | complete inner (level :: outer), .closing => some (complete (level.add inner.condition) outer)
  | _, _ => none

def run (s : State) (tokens : List Token) : Option State :=
  tokens.foldlM step s

def result : State → Option Condition
  | complete inner [] => some inner.condition
  | _ => none

end State

def read (sql : String) : Option Condition := do
  let tokens ← tokensFrom 0 sql.toList
  let s ← State.run (.awaiting .fresh []) tokens
  s.result

-- AND binds tighter than OR where there are no parentheses
example : read "a = b AND (c > d OR e IS NULL) OR f IN (g, h)" =
    some (.group .or [
      .group .and [.comparison "a = b", .group .or [.comparison "c > d", .comparison "e IS NULL"]],
      .comparison "f IN (g, h)"]) := rfl

end Condition

end PreparedSql
