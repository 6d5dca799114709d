import Exposition.Unicode.AgeTable
import Exposition.Unicode.CategoryTable
import Exposition.Unicode.CharSet
import Exposition.Unicode.PropertyTable
import Exposition.Unicode.ScriptExtensionTable
import Exposition.Unicode.ScriptTable
import Exposition.Unicode.SegmentationTable

/-! # Unicode properties by name

Names of properties and of their values are compared loosely: case, blanks, underscores and
hyphens do not count, nor does `is` in front. A name alone asks for a binary property, a general
category or a script, in this order; a name with a value asks for a value of that property.
-/

namespace Exposition.Unicode

/-- Why a property cannot be looked up. -/
inductive Unknown where
  | property
  | value
  deriving DecidableEq, Repr

def isPrefixIs : List Char → Bool
  | c :: d :: _ => (c == 'i' || c == 'I') && (d == 's' || d == 'S')
  | _ => false

/-- The letters and other ASCII characters of a name that count, in lower case. -/
def significant (name : List Char) : List Char :=
  (name.filter fun c => c.toNat < 0x80 && c != ' ' && c != '_' && c != '-').map Char.toLower

/-- The normal form of a name. The short name of one property is `isc`, which is not `c` with `is`
    in front. -/
def normalName (name : String) : String :=
  let chars := name.toList
  if isPrefixIs chars then
    let rest := significant (chars.drop 2)
    if rest = ['c'] then "isc" else String.ofList rest
  else String.ofList (significant chars)

/-- The characters that a table has under a name. -/
def find? (table : List (List String × String)) (name : String) : Option CharSet :=
  (table.find? fun (names, _) => names.contains name).map fun (_, ranges) => .ofTable ranges

/-- The union of several entries of a table. -/
def findAll (table : List (List String × String)) (names : List String) : CharSet :=
  names.foldl (fun s name => s.union ((find? table name).getD .empty)) .empty

/-- The categories that are unions of others. -/
def categoryGroups : List (List String × List String) := [
  (["l", "letter"], ["lu", "ll", "lt", "lm", "lo"]),
  (["lc", "casedletter"], ["lu", "ll", "lt"]),
  (["m", "mark", "combiningmark"], ["mn", "mc", "me"]),
  (["n", "number"], ["nd", "nl", "no"]),
  (["p", "punctuation", "punct"], ["pc", "pd", "ps", "pe", "pi", "pf", "po"]),
  (["s", "symbol"], ["sm", "sc", "sk", "so"]),
  (["z", "separator"], ["zs", "zl", "zp"]),
  (["c", "other"], ["cc", "cf", "co", "cn"])]

/-- The characters of a category or a group of them, and of all characters that have some code. -/
def category? (name : String) : Option CharSet :=
  if name = "any" then some .all
  else if name = "ascii" then some (.range 0 0x7F)
  else if name = "assigned" then
    some (CharSet.all.difference (findAll categoryTable ["cn"]))
  else
    match categoryGroups.find? fun (names, _) => names.contains name with
    | some (_, members) => some (findAll categoryTable members)
    | none => find? categoryTable name

/-- Surrogates have a category, but no characters. -/
def isSurrogateCategory (name : String) : Bool := name = "cs" || name = "surrogate"

/-- The characters of one version and of all before it. -/
def upToAge? (name : String) : Option CharSet :=
  if ageTable.any fun (names, _) => names.contains name then
    let older := ageTable.takeWhile fun (names, _) => !names.contains name
    some ((older.foldl (fun s (_, ranges) => s.union (.ofTable ranges)) CharSet.empty).union
      (findAll ageTable [name]))
  else none

/-- Further properties that are known by name. Alone, none of them stands for any characters. -/
def otherProperties : List String := [
  "bc", "bidiclass", "bidim", "bidimirrored", "bidimirroringglyph", "bidipairedbracket",
  "bidipairedbrackettype", "blk", "block", "bmg", "bpb", "bpt", "canonicalcombiningclass",
  "casefolding", "ccc", "ce", "cf", "changeswhennfkccasefolded", "compex", "compositionexclusion",
  "cwkcf", "decompositionmapping", "decompositiontype", "dm", "dt", "ea", "eastasianwidth",
  "equideo", "equivalentunifiedideograph", "expandsonnfc", "expandsonnfd", "expandsonnfkc",
  "expandsonnfkd", "fcnfkc", "fcnfkcclosure", "fullcompositionexclusion", "gcb",
  "graphemeclusterbreak", "graphemelink", "grlink", "hangulsyllabletype", "hst", "hyphen",
  "indicpositionalcategory", "indicsyllabiccategory", "inpc", "insc", "isc", "isocomment",
  "jamoshortname", "jg", "joininggroup", "joiningtype", "jsn", "jt", "lb", "lc", "linebreak",
  "lowercasemapping", "na", "na1", "name", "namealias", "nfcqc", "nfcquickcheck", "nfdqc",
  "nfdquickcheck", "nfkccasefold", "nfkccf", "nfkcqc", "nfkcquickcheck", "nfkdqc",
  "nfkdquickcheck", "nt", "numerictype", "numericvalue", "nv", "oalpha", "ocomment", "odi",
  "ogrext", "oidc", "oids", "olower", "omath", "otheralphabetic",
  "otherdefaultignorablecodepoint", "othergraphemeextend", "otheridcontinue", "otheridstart",
  "otherlowercase", "othermath", "otheruppercase", "oupper", "sb", "scf", "sentencebreak", "sfc",
  "simplecasefolding", "simplelowercasemapping", "simpletitlecasemapping",
  "simpleuppercasemapping", "slc", "stc", "suc", "tc", "titlecasemapping", "uc", "unicode1name",
  "uppercasemapping", "vo", "verticalorientation", "wb", "wordbreak", "xonfc", "xonfd", "xonfkc",
  "xonfkd"]

/-- Is this the name of a property, rather than of a value? -/
def isPropertyName (name : String) : Bool :=
  ["age", "gc", "generalcategory", "sc", "script", "scx", "scriptextensions"].contains name ||
    otherProperties.contains name || propertyTable.any fun (names, _) => names.contains name

/-- The characters that a name alone asks for. A name of a property is never taken for one of a
    category or script, `cf` excepted. -/
def named (name : String) : Except Unknown CharSet :=
  let name := normalName name
  if isPropertyName name && name ≠ "cf" then
    (find? propertyTable name).elim (.error .property) .ok
  else if isSurrogateCategory name then .error .value
  else
    match category? name with
    | some s => .ok s
    | none => (find? scriptTable name).elim (.error .property) .ok

/-- The characters for which a property has some value. -/
def valued (name value : String) : Except Unknown CharSet :=
  let name := normalName name
  let value := normalName value
  let found (s : Option CharSet) : Except Unknown CharSet := s.elim (.error .value) .ok
  if name = "gc" || name = "generalcategory" then found (category? value)
  else if name = "sc" || name = "script" then found (find? scriptTable value)
  else if name = "scx" || name = "scriptextensions" then found (find? scriptExtensionTable value)
  else if name = "age" then found (upToAge? value)
  else if name = "gcb" || name = "graphemeclusterbreak" then found (find? graphemeBreakTable value)
  else if name = "sb" || name = "sentencebreak" then found (find? sentenceBreakTable value)
  else if name = "wb" || name = "wordbreak" then found (find? wordBreakTable value)
  else if isPropertyName name then .error .value
  else .error .property

/-- Decimal digits. -/
def digits : CharSet := findAll categoryTable ["nd"]

/-- White space. -/
def spaces : CharSet := findAll propertyTable ["whitespace"]

/-- The characters of words: letters, marks, digits, connectors and joiners. -/
def wordCharacters : CharSet :=
  (findAll propertyTable ["alphabetic", "joincontrol"]).union
    (findAll categoryTable ["mn", "mc", "me", "nd", "pc"])

end Exposition.Unicode
