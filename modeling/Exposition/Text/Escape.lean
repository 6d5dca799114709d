/-! # Escapes in label values and help texts

A label value writes `\`, `"` and the line feed as `\\`, `\"` and `\n`; a help text has only the
first and the last of these. Readers keep every other escape as it stands, backslash included.
-/

namespace Exposition

/-- A character of a label value as it is written between the quotes. -/
def escapeChar (c : Char) : List Char :=
  if c = '\\' then ['\\', '\\']
  else if c = '"' then ['\\', '"']
  else if c = '\n' then ['\\', 'n']
  else [c]

/-- A label value as it is written between the quotes. -/
def escape (value : List Char) : List Char := value.flatMap escapeChar

/-- What a backslash and the character after it stand for in a label value. -/
def unescapeChar (c : Char) : List Char :=
  if c = '\\' || c = '"' then [c]
  else if c = 'n' then ['\n']
  else ['\\', c]

/-- Reads a label value up to its closing quote or the end of the line, whichever comes first.
    There is no value if the line ends right after the backslash of an escape. -/
def unescapeBody : List Char → Option (List Char × List Char)
  | [] => some ([], [])
  | '"' :: rest => some ([], '"' :: rest)
  | ['\\'] => none
  | '\\' :: c :: rest =>
    (unescapeBody rest).map fun (value, rest) => (unescapeChar c ++ value, rest)
  | c :: rest => (unescapeBody rest).map fun (value, rest) => (c :: value, rest)

/-- The text that a written help stands for. -/
def unescapeHelp : List Char → List Char
  | [] => []
  | '\\' :: '\\' :: rest => '\\' :: unescapeHelp rest
  | '\\' :: 'n' :: rest => '\n' :: unescapeHelp rest
  | '\\' :: c :: rest => '\\' :: c :: unescapeHelp rest
  | c :: rest => c :: unescapeHelp rest

@[simp]
theorem escape_cons (c : Char) (cs : List Char) : escape (c :: cs) = escapeChar c ++ escape cs := by
  simp [escape]

/-- Reading a label value consumes nothing but its characters. -/
theorem length_unescapeBody_le {cs value rest : List Char}
    (h : unescapeBody cs = some (value, rest)) : rest.length ≤ cs.length := by
  fun_induction unescapeBody cs generalizing value rest with
  | case1 => simp_all
  | case2 => simp_all
  | case3 => simp_all
  | case4 c r ih =>
    simp only [Option.map_eq_some_iff, Prod.mk.injEq, Prod.exists] at h
    obtain ⟨v, s, h, -, rfl⟩ := h
    have := ih h
    simp; omega
  | case5 c r _ _ _ ih =>
    simp only [Option.map_eq_some_iff, Prod.mk.injEq, Prod.exists] at h
    obtain ⟨v, s, h, -, rfl⟩ := h
    have := ih h
    simp; omega

end Exposition
