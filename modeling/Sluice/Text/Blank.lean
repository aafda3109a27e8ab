/-!
# Blank space and case of names

The white space that is trimmed off a setting, and the letters that fold to lower-case ASCII.
-/
namespace Sluice.Text

/-- The white space characters of Unicode. -/
def isBlank (c : Char) : Bool :=
  let n := c.toNat
  (9 ≤ n && n ≤ 13) || n == 0x20 || n == 0x85 || n == 0xA0 || n == 0x1680 ||
  (0x2000 ≤ n && n ≤ 0x200A) || n == 0x2028 || n == 0x2029 || n == 0x202F || n == 0x205F ||
  n == 0x3000

/-- Without the white space at its front. -/
def trimLeft (s : List Char) : List Char := s.dropWhile isBlank

/-- Without the white space at its end. -/
def trimRight (s : List Char) : List Char := (s.reverse.dropWhile isBlank).reverse

/-- Without the white space at either end. -/
def trimChars (s : List Char) : List Char := trimRight (trimLeft s)

/-- Without the white space at either end. -/
def trim (s : String) : String := String.ofList (trimChars s.toList)

/-- Holds nothing but white space. -/
def isBlankText (s : String) : Bool := s.toList.all isBlank

/-- The lower-case form of a character as far as it can matter to an ASCII name: the ASCII letters
and the Kelvin sign have one. -/
def lower (c : Char) : Char := if c.toNat == 0x212A then 'k' else c.toLower

/-- A name in lower case. -/
def lowerText (s : String) : String := String.ofList (s.toList.map lower)

end Sluice.Text
