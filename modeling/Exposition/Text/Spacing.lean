/-! # Lines, blanks and white space

A line ends at `\n`; one `\r` right before that `\n` belongs to the line end. A last line without
`\n` counts if it has a character, and keeps its `\r`. Inside a line only the space and the tab
separate tokens. Help texts and error messages are cut at any character with the Unicode property
`White_Space`.
-/

namespace Exposition

/-- The line without the carriage return that its line end may start with. -/
def dropReturn (line : List Char) : List Char :=
  if line.getLast? = some '\r' then line.dropLast else line

/-- The lines of a text, without their ends. -/
def lines (text : List Char) : List (List Char) :=
  match _h : text.dropWhile (· != '\n') with
  | [] => if text.isEmpty then [] else [text]
  | _ :: rest => dropReturn (text.takeWhile (· != '\n')) :: lines rest
termination_by text.length
decreasing_by
  have := (List.dropWhile_sublist (l := text) (· != '\n')).length_le
  rw [_h] at this
  simp at this
  omega

/-- The two characters that separate tokens of a line. -/
def isBlank (c : Char) : Bool := c == ' ' || c == '\t'

def skipBlanks (cs : List Char) : List Char := cs.dropWhile isBlank

/-- The characters with the Unicode property `White_Space`. -/
def isSpace (c : Char) : Bool :=
  let n := c.toNat
  (0x9 ≤ n && n ≤ 0xD) || n == 0x20 || n == 0x85 || n == 0xA0 || n == 0x1680 ||
    (0x2000 ≤ n && n ≤ 0x200A) || n == 0x2028 || n == 0x2029 || n == 0x202F || n == 0x205F ||
    n == 0x3000

/-- The text without the white space at its end. -/
def trimEnd (cs : List Char) : List Char := (cs.reverse.dropWhile isSpace).reverse

/-- The characters up to the first white space. -/
def firstWord (cs : List Char) : List Char := cs.takeWhile fun c => !isSpace c

theorem length_skipBlanks_le (cs : List Char) : (skipBlanks cs).length ≤ cs.length :=
  (List.dropWhile_sublist isBlank).length_le

end Exposition
