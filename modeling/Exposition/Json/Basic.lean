import Exposition.Number.Layout

/-! # JSON

The values that reports are made of, and how they are printed. One value has two layouts: compact,
on one line without blanks, and pretty, with one item or member a line, two blanks deeper than the
brackets around it. They differ in nothing else.
-/

namespace Exposition

/-- A JSON value. Members of an object keep the order in which they are given. -/
inductive Json where
  | null
  | integer (n : Int)
  | number (x : Binary64)
  | string (text : String)
  | array (items : List Json)
  | object (members : List (String × Json))
  deriving Inhabited

namespace Json

/-- Numbers from `1e-5` up to `1e16` are written positionally and always have a point; the exponent
    of all others has a sign. -/
def numberLayout : NumberLayout := ⟨-5, 16, ['.', '0'], 'e'⟩

/-- A number that is not finite has no JSON form and is written as `null`. -/
def numberText (x : Binary64) : List Char :=
  if x.isFinite then numberLayout.finite x else ['n', 'u', 'l', 'l']

/-- A character as it stands in a string. Controls are escaped, all others stand for themselves. -/
def stringChar (c : Char) : List Char :=
  if c = '"' then ['\\', '"']
  else if c = '\\' then ['\\', '\\']
  else if c = '\x08' then ['\\', 'b']
  else if c = '\x0c' then ['\\', 'f']
  else if c = '\n' then ['\\', 'n']
  else if c = '\r' then ['\\', 'r']
  else if c = '\t' then ['\\', 't']
  else if c.toNat < 0x20 then
    ['\\', 'u', '0', '0', Nat.digitChar (c.toNat / 16), Nat.digitChar (c.toNat % 16)]
  else [c]

/-- A string, quotes included. -/
def stringText (text : String) : List Char := '"' :: text.toList.flatMap stringChar ++ ['"']

def integerText (n : Int) : List Char := (toString n).toList

mutual

/-- The value without any white space. -/
def compact : Json → List Char
  | null => ['n', 'u', 'l', 'l']
  | integer n => integerText n
  | number x => numberText x
  | string text => stringText text
  | array items => '[' :: compactItems items ++ [']']
  | object members => '\x7b' :: compactMembers members ++ ['\x7d']

def compactItems : List Json → List Char
  | [] => []
  | [item] => compact item
  | item :: rest => compact item ++ ',' :: compactItems rest

def compactMembers : List (String × Json) → List Char
  | [] => []
  | [(name, value)] => stringText name ++ ':' :: compact value
  | (name, value) :: rest => stringText name ++ ':' :: (compact value ++ ',' :: compactMembers rest)

end

/-- A new line at some depth. -/
def newLine (depth : Nat) : List Char := '\n' :: List.replicate (2 * depth) ' '

mutual

/-- The value, its first line standing at some depth. -/
def prettyAt (depth : Nat) : Json → List Char
  | null => ['n', 'u', 'l', 'l']
  | integer n => integerText n
  | number x => numberText x
  | string text => stringText text
  | array [] => ['[', ']']
  | array (item :: rest) => '[' :: prettyItems (depth + 1) (item :: rest) ++ newLine depth ++ [']']
  | object [] => ['\x7b', '\x7d']
  | object (member :: rest) =>
    '\x7b' :: prettyMembers (depth + 1) (member :: rest) ++ newLine depth ++ ['\x7d']

def prettyItems (depth : Nat) : List Json → List Char
  | [] => []
  | [item] => newLine depth ++ prettyAt depth item
  | item :: rest => newLine depth ++ prettyAt depth item ++ ',' :: prettyItems depth rest

def prettyMembers (depth : Nat) : List (String × Json) → List Char
  | [] => []
  | [(name, value)] => newLine depth ++ stringText name ++ ':' :: ' ' :: prettyAt depth value
  | (name, value) :: rest =>
    newLine depth ++ stringText name ++ ':' :: ' ' :: (prettyAt depth value ++ ',' ::
      prettyMembers depth rest)

end

/-- The value with one item or member a line. -/
def pretty (value : Json) : List Char := prettyAt 0 value

end Json

end Exposition
