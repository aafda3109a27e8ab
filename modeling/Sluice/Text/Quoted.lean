import Sluice.Unicode.Runs
/-!
# Quoted text

How a piece of text is shown inside an error message: between double quotes, with the characters
escaped that a reader could not see or tell apart.
-/
namespace Sluice.Text

/-- A digit of base sixteen, in lower case. -/
def hexDigit (n : Nat) : Char := Char.ofNat (if n < 10 then 48 + n else 87 + n)

/-- A number in base sixteen, lower case, without leading zeros. -/
def hex (n : Nat) : List Char :=
  if n < 16 then [hexDigit n] else hex (n / 16) ++ [hexDigit (n % 16)]
termination_by n

/-- Characters that have no shape of their own: controls, formats, separators other than the
plain space, unassigned and private code points. -/
def isHidden (c : Char) : Bool :=
  let n := c.toNat
  n < 0x20 || n == 0x7F ||
  (n > 0x7F &&
    (((Unicode.find? Unicode.categories "c").any fun rs => Unicode.within rs n) ||
     ((Unicode.find? Unicode.categories "z").any fun rs => Unicode.within rs n)))

/-- Characters that merge with the one before them. -/
def isExtending (c : Char) : Bool :=
  c.toNat > 0x7F &&
    (Unicode.find? Unicode.properties "graphemeextend").any fun rs => Unicode.within rs c.toNat

/-- How one character is written between the quotes. -/
def escape (c : Char) : List Char :=
  match c with
  | '\x00' => ['\\', '0']
  | '\t' => ['\\', 't']
  | '\n' => ['\\', 'n']
  | '\r' => ['\\', 'r']
  | '"' => ['\\', '"']
  | '\\' => ['\\', '\\']
  | c => if isExtending c || isHidden c then ['\\', 'u', '\x7b'] ++ hex c.toNat ++ ['\x7d'] else [c]

/-- A text between double quotes. -/
def quoted (s : String) : String :=
  String.ofList ('"' :: s.toList.flatMap escape ++ ['"'])

/-- A list of texts, each quoted, between brackets. -/
def quotedList (xs : List String) : String :=
  "[" ++ ", ".intercalate (xs.map quoted) ++ "]"

end Sluice.Text
