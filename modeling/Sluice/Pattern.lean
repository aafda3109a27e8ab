import Sluice.Pattern.Reader
/-!
# Patterns

A pattern is a text that was read as a regular expression, with what it matches. What reads it is a
`Pattern.Library`: which texts are regular expressions, and what they match, is the library's to say.
Whatever checks or uses patterns takes the library as given and asks nothing of it.

`Library.standard` is the library that the command runs with. It reads the notation that
`Sluice.Pattern.Reader` tells of and gives no reason when it refuses a text.
-/
namespace Sluice

/-- A regular expression that has been read: its text, and whether it matches some part of a text. -/
structure Pattern where
  source : String
  isMatch : String → Bool

namespace Pattern

/-- A library of regular expressions: what a text matches when it is read as one, or why it is none,
if the library has words for that. -/
structure Library where
  read : String → Except (Option String) (String → Bool)

/-- Reads a pattern. -/
def Library.parse (library : Library) (source : String) : Except (Option String) Pattern :=
  (library.read source).map fun isMatch => ⟨source, isMatch⟩

/-- Whether a character belongs to a word. -/
def inWord (ascii : Bool) (c : Char) : Bool :=
  if ascii || c.toNat < 128 then ClassName.asciiWord.holds c else ClassName.wordSet.holds c

/-- The library of the command. -/
def Library.standard : Library where
  read source :=
    match parseNode? source.toList with
    | some n => .ok fun text => n.occursIn inWord text.toList
    | none => .error none

end Pattern
end Sluice
