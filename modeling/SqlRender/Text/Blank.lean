/-!
# Blank characters

The characters with the Unicode property White_Space, and the trimming of such
characters from both ends of a text.
-/

namespace SqlRender.Text

/-- Whether `c` has the Unicode property White_Space. -/
def isBlank (c : Char) : Bool :=
  let n := c.toNat
  (9 ≤ n && n ≤ 13) || n == 32 || n == 0x85 || n == 0xA0 || n == 0x1680
    || (0x2000 ≤ n && n ≤ 0x200A) || n == 0x2028 || n == 0x2029 || n == 0x202F
    || n == 0x205F || n == 0x3000

/-- The characters of `cs` without the blanks in front. -/
def skipBlanks (cs : List Char) : List Char :=
  cs.dropWhile isBlank

/-- `s` without the blanks at its two ends. -/
def trim (s : String) : String :=
  String.ofList (skipBlanks (skipBlanks s.toList).reverse).reverse

/-- Whether `s` holds no character but blanks. -/
def isAllBlank (s : String) : Bool :=
  s.toList.all isBlank

end SqlRender.Text
