import Sluice.Json.Value
import Sluice.Text.Quoted
/-!
# Printing JSON

The one written form of a value: no space, entries in the order the object keeps them, only the
characters escaped that must be, and floating point numbers in the fewest digits that read back.
-/
namespace Sluice.Json

/-- A character inside a printed string. -/
def printChar (c : Char) : List Char :=
  match c with
  | '"' => ['\\', '"']
  | '\\' => ['\\', '\\']
  | '\x08' => ['\\', 'b']
  | '\t' => ['\\', 't']
  | '\n' => ['\\', 'n']
  | '\x0c' => ['\\', 'f']
  | '\r' => ['\\', 'r']
  | c =>
    if c.toNat < 0x20 then
      ['\\', 'u', '0', '0', Text.hexDigit (c.toNat / 16), Text.hexDigit (c.toNat % 16)]
    else [c]

/-- A printed string. -/
def printString (s : String) : List Char := '"' :: s.toList.flatMap printChar ++ ['"']

/-- A whole number in base ten. -/
def printNat (n : Nat) : List Char := Nat.toDigits 10 n

/-- A whole number in base ten. -/
def printInt : Int → List Char
  | .ofNat n => printNat n
  | .negSucc n => '-' :: printNat (n + 1)

/-- When a floating point number is written without an exponent: while the exponent of its leading
digit lies in this range. -/
def positional (e : Int) : Bool := -5 ≤ e && e ≤ 15

/-- A magnitude `a * 10 ^ k` in its shortest digits: with a point and at least one digit behind it,
or as a leading digit, a point only if more digits follow, and a signed exponent. -/
def printDecimal (a : Nat) (k : Int) : List Char :=
  let ds := printNat a
  let e : Int := k + Int.ofNat ds.length - 1
  if positional e then
    if 0 ≤ k then ds ++ List.replicate k.toNat '0' ++ ['.', '0']
    else if 0 ≤ e then
      let whole := (e + 1).toNat
      ds.take whole ++ ['.'] ++ ds.drop whole
    else ['0', '.'] ++ List.replicate (-e - 1).toNat '0' ++ ds
  else
    let tail := ds.drop 1
    ds.take 1 ++ (if tail.isEmpty then [] else '.' :: tail) ++ ['e'] ++
      (if 0 ≤ e then '+' :: printNat e.toNat else '-' :: printNat (-e).toNat)

/-- A floating point magnitude. -/
def printFloat (x : Binary64) : List Char :=
  if x.mant == 0 then ['0', '.', '0'] else let p := x.shortest; printDecimal p.1 p.2

/-- A printed number. -/
def Number.print : Number → List Char
  | .whole n => printInt n
  | .float negative x => (if negative then ['-'] else []) ++ printFloat x

mutual

/-- A printed value. -/
def Value.print : Value → List Char
  | .null => ['n', 'u', 'l', 'l']
  | .bool true => ['t', 'r', 'u', 'e']
  | .bool false => ['f', 'a', 'l', 's', 'e']
  | .number n => n.print
  | .string s => printString s
  | .array items => '[' :: printItems items
  | .object entries => '\x7b' :: printEntries entries

/-- The items of a list and its closing bracket. -/
def printItems : List Value → List Char
  | [] => [']']
  | [v] => v.print ++ [']']
  | v :: vs => v.print ++ ',' :: printItems vs

/-- The entries of an object and its closing brace. -/
def printEntries : List (String × Value) → List Char
  | [] => ['\x7d']
  | [(k, v)] => printString k ++ ':' :: v.print ++ ['\x7d']
  | (k, v) :: es => printString k ++ ':' :: v.print ++ ',' :: printEntries es

end

/-- A value as text. -/
def Value.toText (v : Value) : String := String.ofList v.print

end Sluice.Json
