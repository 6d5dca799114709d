import Exposition.Labels
import Exposition.Line.Token

/-! # Reading a label set

Pairs stand between braces, separated by commas; a comma may follow the last pair, and blanks may
stand around pairs and on both sides of an equals sign.
-/

namespace Exposition

/-- A quoted label value. What does not start with a quote is none; a quoted value has to be
    closed. A value cut off inside an escape is not begun: its first character is unexpected. -/
def labelValue (cs : List Char) : Except Rejection (String × List Char) :=
  match cs with
  | '"' :: body =>
    match unescapeBody body with
    | some (value, '"' :: rest) => .ok (String.ofList value, rest)
    | some (_, rest) => .error ⟨.closingQuote, rest⟩
    | none => .error ⟨.closingQuote, body⟩
  | _ => .error ⟨.labelValue, cs⟩

/-- An equals sign, blanks on both sides allowed; its absence counts from before the blanks. -/
def equals? (cs : List Char) : Option (Unit × List Char) :=
  match skipBlanks cs with
  | '=' :: rest => some ((), skipBlanks rest)
  | _ => none

/-- A label and the blanks around it, if a label name follows the blanks. Once the name is there,
    the rest of the label has to be. -/
def pair? (cs : List Char) : Except Rejection (Option ((String × String) × List Char)) :=
  match labelName? (skipBlanks cs) with
  | none => .ok none
  | some (name, rest) => do
    let ((), rest) ← expect .equalsSign equals? rest
    let (value, rest) ← labelValue rest
    return some ((name, value), skipBlanks rest)

theorem length_name?_lt {isStart : Char → Bool} {cs rest : List Char} {name : String}
    (h : name? isStart cs = some (name, rest)) : rest.length < cs.length := by
  cases cs with
  | nil => simp [name?] at h
  | cons c cs =>
    simp only [name?] at h
    split at h
    · simp only [Option.some.injEq, Prod.mk.injEq] at h
      obtain ⟨-, rfl⟩ := h
      exact Nat.lt_succ_of_le (List.dropWhile_sublist _).length_le
    · simp at h

theorem length_equals?_lt {cs rest : List Char} (h : equals? cs = some ((), rest)) :
    rest.length < cs.length := by
  have hle := length_skipBlanks_le cs
  unfold equals? at h
  split at h
  · next r heq =>
    simp only [Option.some.injEq, Prod.mk.injEq, true_and] at h
    have := length_skipBlanks_le r
    rw [heq] at hle
    simp at hle
    subst h
    omega
  · simp at h

theorem length_labelValue_lt {cs rest : List Char} {value : String}
    (h : labelValue cs = .ok (value, rest)) : rest.length < cs.length := by
  unfold labelValue at h
  split at h
  · next body =>
    split at h
    · next v r heq =>
      have := length_unescapeBody_le heq
      simp only [Except.ok.injEq, Prod.mk.injEq] at h
      obtain ⟨-, rfl⟩ := h
      simp at this ⊢
      omega
    · simp at h
    · simp at h
  · simp at h

theorem length_pair?_lt {cs rest : List Char} {pair : String × String}
    (h : pair? cs = .ok (some (pair, rest))) : rest.length < cs.length := by
  have h0 := length_skipBlanks_le cs
  unfold pair? at h
  split at h
  · simp at h
  · next name r1 h1 =>
    have h1 := length_name?_lt h1
    simp only [expect] at h
    cases h2 : equals? r1 with
    | none => simp [h2, bind, Except.bind] at h
    | some p =>
      obtain ⟨⟨⟩, r2⟩ := p
      have hlt2 := length_equals?_lt h2
      simp only [h2, bind, Except.bind] at h
      cases h3 : labelValue r2 with
      | error e => simp [h3] at h
      | ok q =>
        obtain ⟨v, r3⟩ := q
        have hlt3 := length_labelValue_lt h3
        simp only [h3, pure, Except.pure, Except.ok.injEq, Option.some.injEq, Prod.mk.injEq] at h
        have := length_skipBlanks_le r3
        obtain ⟨-, rfl⟩ := h
        omega

/-- Pairs separated by commas, as many as there are. A comma is taken only with the pair after
    it. -/
def pairs (cs : List Char) : Except Rejection (List (String × String) × List Char) :=
  match _h : pair? cs with
  | .error e => .error e
  | .ok none => .ok ([], cs)
  | .ok (some (pair, ',' :: rest)) =>
    match pairs rest with
    | .error e => .error e
    | .ok ([], _) => .ok ([pair], ',' :: rest)
    | .ok (more, rest) => .ok (pair :: more, rest)
  | .ok (some (pair, rest)) => .ok ([pair], rest)
termination_by cs.length
decreasing_by
  have := length_pair?_lt _h
  simp at this
  omega

/-- The rest after the comma that may follow the last of some pairs. -/
def dropComma (pairs : List (String × String)) (cs : List Char) : List Char :=
  match pairs, skipBlanks cs with
  | _ :: _, ',' :: rest => rest
  | _, _ => cs

/-- The label set whose opening brace has been read; `start` is the text from that brace on, where
    a repeated name is reported. -/
def labelsAfterBrace (start body : List Char) : Except Rejection (Labels × List Char) := do
  let (found, rest) ← pairs body
  match skipBlanks (dropComma found rest) with
  | '\x7d' :: rest =>
    match Labels.ofDistinct? found with
    | some labels => .ok (labels, rest)
    | none => .error ⟨.uniqueLabelNames, start⟩
  | rest => .error ⟨.commaOrBrace, rest⟩

/-- The label set of a sample. Where no brace follows the blanks it is empty, and the blanks are
    not taken. -/
def labels (cs : List Char) : Except Rejection (Labels × List Char) :=
  match skipBlanks cs with
  | '\x7b' :: body => labelsAfterBrace ('\x7b' :: body) body
  | _ => .ok (SortedMap.empty, cs)

end Exposition
