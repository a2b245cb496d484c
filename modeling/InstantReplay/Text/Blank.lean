/-!
# Blanks

The characters that separate words or stand for empty space, and texts without them at their ends.
-/

namespace InstantReplay

/-- Whether a character is empty space of any script. -/
def isBlank (c : Char) : Bool :=
  let n := c.toNat
  (9 ≤ n && n ≤ 13) || n == 32 || n == 0x85 || n == 0xa0 || n == 0x1680 ||
    (0x2000 ≤ n && n ≤ 0x200a) || n == 0x2028 || n == 0x2029 || n == 0x202f || n == 0x205f ||
    n == 0x3000

/-- The characters without blanks at the end. -/
def trimEnd (chars : List Char) : List Char := (chars.reverse.dropWhile isBlank).reverse

/-- The characters without blanks at both ends. -/
def trim (chars : List Char) : List Char := trimEnd (chars.dropWhile isBlank)

/-- A text without blanks at both ends. -/
def trimmed (text : String) : String := String.ofList (trim text.toList)

/-- Whether every character is blank. -/
def isAllBlank (text : String) : Bool := text.toList.all isBlank

end InstantReplay
