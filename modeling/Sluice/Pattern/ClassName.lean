import Sluice.Pattern.CharSet
/-!
# Classes of characters by name

The classes a pattern can name: `\d`, `\s` and `\w`, the bracketed ASCII classes such as
`[:alpha:]`, and those of `\p`: general categories, scripts, binary properties, versions, and the
values of the three breaks.
-/
namespace Sluice.Pattern.ClassName

/-- The set of a table entry; empty when there is no such entry. -/
def entry (table : List (List String × String)) (name : String) : CharSet :=
  (Unicode.find? table name).getD []

/-- The decimal digits of all scripts. -/
def digit : CharSet := entry Unicode.categories "nd"

/-- White space. -/
def space : CharSet := entry Unicode.properties "whitespace"

/-- What words are made of: letters, marks, decimal digits, connectors and joiners. -/
def wordSet : CharSet :=
  CharSet.ofRanges (entry Unicode.properties "alphabetic" ++ entry Unicode.categories "m" ++ digit ++
    entry Unicode.categories "pc" ++ entry Unicode.properties "joincontrol")

/-- The ASCII decimal digits. -/
def asciiDigit : CharSet := [(48, 57)]

/-- The ASCII white space. -/
def asciiSpace : CharSet := [(9, 13), (32, 32)]

/-- What ASCII words are made of. -/
def asciiWord : CharSet := [(48, 57), (65, 90), (95, 95), (97, 122)]

/-- The ASCII class of this name. -/
def ascii? (name : String) : Option CharSet :=
  match name with
  | "alnum" => some [(48, 57), (65, 90), (97, 122)]
  | "alpha" => some [(65, 90), (97, 122)]
  | "ascii" => some [(0, 127)]
  | "blank" => some [(9, 9), (32, 32)]
  | "cntrl" => some [(0, 31), (127, 127)]
  | "digit" => some asciiDigit
  | "graph" => some [(33, 126)]
  | "lower" => some [(97, 122)]
  | "print" => some [(32, 126)]
  | "punct" => some [(33, 47), (58, 64), (91, 96), (123, 126)]
  | "space" => some asciiSpace
  | "upper" => some [(65, 90)]
  | "word" => some asciiWord
  | "xdigit" => some [(48, 57), (65, 70), (97, 102)]
  | _ => none

/-- A name with everything dropped that does not count: case, spaces, hyphens, underscores, what is
not ASCII, and a leading `is`. -/
def loose (name : List Char) : String :=
  let isMark (c : Char) (lower : Char) : Bool := c == lower || c == lower.toUpper
  let (marked, body) := match name with
    | a :: b :: rest => if isMark a 'i' && isMark b 's' then (true, rest) else (false, name)
    | _ => (false, name)
  let kept := (body.filter fun c => c.toNat < 128 && c != ' ' && c != '_' && c != '-').map Char.toLower
  if marked && kept == ['c'] then "isc" else String.ofList kept

/-- The general category of this loose name, or one of the three wider groups. -/
def category? (name : String) : Option CharSet :=
  match name with
  | "any" => some [(0, Unicode.last)]
  | "assigned" => some (CharSet.complement (entry Unicode.categories "cn"))
  | "ascii" => some [(0, 127)]
  | _ => Unicode.find? Unicode.categories name

/-- The script of this loose name. -/
def script? (name : String) : Option CharSet := Unicode.find? Unicode.scripts name

/-- The script of this loose name with everything else that is used with it. -/
def scriptExtension? (name : String) : Option CharSet :=
  Unicode.find? Unicode.scriptExtensions name <|> script? name

/-- What has a meaning in the version of this loose name, and so in each one before it. -/
def age? (name : String) : Option CharSet :=
  (Unicode.ages.findIdx? fun e => e.1.contains name).map fun i =>
    CharSet.ofRanges ((Unicode.ages.take (i + 1)).flatMap fun e => Unicode.ranges e.2)

/-- Names of properties that are not sets by themselves. They hide a category or script of the same
name. -/
def valued : List String := [
  "age", "bc", "bidiclass", "bidimirroringglyph", "bidipairedbracket", "bidipairedbrackettype",
  "blk", "block", "bmg", "bpb", "bpt", "canonicalcombiningclass", "casefolding", "ccc",
  "compositionexclusion", "decompositionmapping", "decompositiontype", "dm", "dt", "ea",
  "eastasianwidth", "gc", "gcb", "generalcategory", "graphemeclusterbreak", "hangulsyllabletype",
  "hst", "indicpositionalcategory", "indicsyllabiccategory", "inpc", "insc", "isc", "isocomment",
  "jamoshortname", "jg", "joininggroup", "joiningtype", "jsn", "jt", "lb", "linebreak",
  "lowercasemapping", "na", "na1", "name", "namealias", "nt", "numerictype", "numericvalue", "nv",
  "sb", "scf", "script", "scriptextensions", "scx", "sentencebreak", "simplecasefolding",
  "simplelowercasemapping", "simpletitlecasemapping", "simpleuppercasemapping", "slc", "stc", "suc",
  "tc", "titlecasemapping", "uc", "unicode1name", "uppercasemapping", "verticalorientation", "vo",
  "wb", "wordbreak"]

/-- The class of a name alone: a property, a category or a script. -/
def alone? (name : List Char) : Option CharSet :=
  let n := loose name
  let isCategory := n == "cf" || n == "sc" || n == "lc"
  if !isCategory && valued.contains n then none
  else
    (if isCategory then none else Unicode.find? Unicode.properties n) <|> category? n <|> script? n

/-- The class of a property with a value. -/
def withValue? (name value : List Char) : Option CharSet :=
  let v := loose value
  match loose name with
  | "gc" | "generalcategory" => category? v
  | "sc" | "script" => script? v
  | "scx" | "scriptextensions" => scriptExtension? v
  | "age" => age? v
  | "gcb" | "graphemeclusterbreak" => Unicode.find? Unicode.graphemeBreaks v
  | "wb" | "wordbreak" => Unicode.find? Unicode.wordBreaks v
  | "sb" | "sentencebreak" => Unicode.find? Unicode.sentenceBreaks v
  | _ => none

end Sluice.Pattern.ClassName
