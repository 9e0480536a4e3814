/-!
# Blank text

White space is the Unicode property White_Space. A text is blank when it holds nothing else; a
statement whose table or function name is blank is refused.
-/
namespace PreparedSql.Text

/-- The characters with the property White_Space. -/
def isSpace (c : Char) : Bool :=
  let n := c.toNat
  (0x09 ≤ n && n ≤ 0x0D) || n == 0x20 || n == 0x85 || n == 0xA0 || n == 0x1680 ||
    (0x2000 ≤ n && n ≤ 0x200A) || n == 0x2028 || n == 0x2029 || n == 0x202F || n == 0x205F ||
    n == 0x3000

def isBlank (s : String) : Bool :=
  s.toList.all isSpace

def dropSpaces (cs : List Char) : List Char :=
  cs.dropWhile isSpace

@[simp] theorem isBlank_empty : isBlank "" = true := rfl

theorem length_dropSpaces_le (cs : List Char) : (dropSpaces cs).length ≤ cs.length :=
  (List.dropWhile_suffix isSpace).length_le

theorem dropSpaces_cons_of_not {c : Char} {cs : List Char} (h : isSpace c = false) :
    dropSpaces (c :: cs) = c :: cs := by
  simp [dropSpaces, h]

end PreparedSql.Text
