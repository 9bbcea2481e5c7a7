import TokenTransfer.Json.Quoted

/-!
# JSON tokens

The tokens of a JSON text: marks, words, numbers and quoted texts, with blanks between them.

## Main definitions

* `Numeral` - a number as it is written
* `Token` - the tokens
* `Token.next?` - the token at the head of a text
* `Token.scan` - all tokens of a text
* `Token.render` - the text of a token
-/

namespace TokenTransfer

/-- A number as it is written: its sign, the digits before any point, and whether those are all. -/
structure Numeral where
  negative : Bool
  digits : List Char
  whole : Bool
deriving DecidableEq

namespace Numeral

/-- The number that decimal digits denote. -/
def value (digits : List Char) : Nat := digits.foldl (fun n d => 10 * n + (d.toNat - '0'.toNat)) 0

/-- The integer that a numeral denotes.  A numeral with a point or an exponent denotes none, nor does
minus zero. -/
def toInt? (n : Numeral) : Option Int :=
  if ¬ n.whole ∨ (n.negative ∧ n.digits = ['0']) then none
  else some (if n.negative then - (value n.digits : Int) else value n.digits)

/-- The numeral of an integer. -/
def ofInt (z : Int) : Numeral :=
  { negative := z < 0, digits := Nat.toDigits 10 z.natAbs, whole := true }

/-- The digits at the head of a text, of which there must be one, and what follows them. -/
def digits? (s : List Char) : Option (List Char × List Char) :=
  let digits := s.takeWhile Char.isDigit
  if digits.isEmpty then none else some (digits, s.dropWhile Char.isDigit)

/-- Skips a point and the digits behind it, and says whether there was one. -/
def fraction? : List Char → Option (Bool × List Char)
  | '.' :: rest => (digits? rest).map fun (_, rest) => (true, rest)
  | rest => some (false, rest)

/-- What remains of a text after one sign. -/
def unsigned : List Char → List Char
  | '+' :: rest => rest
  | '-' :: rest => rest
  | rest => rest

/-- Skips an exponent, and says whether there was one. -/
def exponent? : List Char → Option (Bool × List Char)
  | 'e' :: rest => (digits? (unsigned rest)).map fun (_, rest) => (true, rest)
  | 'E' :: rest => (digits? (unsigned rest)).map fun (_, rest) => (true, rest)
  | rest => some (false, rest)

/-- The numeral at the head of a text, after its sign.  Only the digit zero may begin with zero. -/
def magnitude? (negative : Bool) (s : List Char) : Option (Numeral × List Char) := do
  let (digits, rest) ← digits? s
  if digits.head? = some '0' ∧ digits.length ≠ 1 then none
  let (point, rest) ← fraction? rest
  let (power, rest) ← exponent? rest
  return ({ negative, digits, whole := !point && !power }, rest)

/-- The text of a numeral that denotes an integer. -/
def render (n : Numeral) : List Char :=
  if n.negative then '-' :: n.digits else n.digits

end Numeral

/-- The tokens of a JSON text. -/
inductive Token where
  | openArray
  | closeArray
  | openObject
  | closeObject
  | comma
  | colon
  | null
  | bool (b : Bool)
  | number (n : Numeral)
  | string (s : Quoted)
deriving DecidableEq

namespace Token

/-- Blanks between tokens. -/
def isBlank (c : Char) : Bool := c = ' ' || c = '\n' || c = '\t' || c = '\r'

/-- The token that begins with `c` and goes on in the text behind it, and what follows it. -/
def next? (c : Char) (s : List Char) : Option (Token × List Char) :=
  match c, s with
  | '[', rest => some (openArray, rest)
  | ']', rest => some (closeArray, rest)
  | '\x7b', rest => some (openObject, rest)
  | '\x7d', rest => some (closeObject, rest)
  | ',', rest => some (comma, rest)
  | ':', rest => some (colon, rest)
  | 'n', 'u' :: 'l' :: 'l' :: rest => some (null, rest)
  | 't', 'r' :: 'u' :: 'e' :: rest => some (bool true, rest)
  | 'f', 'a' :: 'l' :: 's' :: 'e' :: rest => some (bool false, rest)
  | '"', rest => (Quoted.scan #[] rest).map fun (s, rest) => (string s, rest)
  | '-', rest => (Numeral.magnitude? true rest).map fun (n, rest) => (number n, rest)
  | c, rest =>
    if c.isDigit then
      (Numeral.magnitude? false (c :: rest)).map fun (n, rest) => (number n, rest)
    else none

end Token

/-! ### Every token uses up some of the text -/

namespace Numeral

theorem length_digits? {s digits rest : List Char} (h : digits? s = some (digits, rest)) :
    rest.length < s.length := by
  unfold digits? at h
  dsimp only at h
  split at h
  · simp at h
  · rename_i nonempty
    cases h
    have whole := congrArg List.length (List.takeWhile_append_dropWhile (p := Char.isDigit) (l := s))
    rw [List.length_append] at whole
    have : (s.takeWhile Char.isDigit).length ≠ 0 := by
      simpa [List.isEmpty_iff] using nonempty
    omega

theorem length_fraction? {s rest : List Char} {b : Bool} (h : fraction? s = some (b, rest)) :
    rest.length ≤ s.length := by
  unfold fraction? at h
  split at h
  · obtain ⟨⟨_, _⟩, found, same⟩ := Option.map_eq_some_iff.mp h
    cases same
    have := length_digits? found
    simp only [List.length_cons]
    omega
  · cases h
    exact Nat.le_refl _

theorem length_unsigned (s : List Char) : (unsigned s).length ≤ s.length := by
  unfold unsigned
  split <;> simp

theorem length_exponent? {s rest : List Char} {b : Bool} (h : exponent? s = some (b, rest)) :
    rest.length ≤ s.length := by
  unfold exponent? at h
  split at h
  · obtain ⟨⟨_, _⟩, found, same⟩ := Option.map_eq_some_iff.mp h
    cases same
    rename_i tail _
    have := length_digits? found
    have := length_unsigned tail
    simp only [List.length_cons]
    omega
  · obtain ⟨⟨_, _⟩, found, same⟩ := Option.map_eq_some_iff.mp h
    cases same
    rename_i tail _
    have := length_digits? found
    have := length_unsigned tail
    simp only [List.length_cons]
    omega
  · cases h
    exact Nat.le_refl _

theorem length_magnitude? {negative : Bool} {s rest : List Char} {n : Numeral}
    (h : magnitude? negative s = some (n, rest)) : rest.length < s.length := by
  unfold magnitude? at h
  obtain ⟨⟨digits, rest₁⟩, found, h⟩ := Option.bind_eq_some_iff.mp h
  dsimp only at h
  split at h
  · simp at h
  · obtain ⟨⟨_, rest₂⟩, point, h⟩ := Option.bind_eq_some_iff.mp h
    obtain ⟨⟨_, rest₃⟩, power, h⟩ := Option.bind_eq_some_iff.mp h
    cases h
    exact Nat.lt_of_le_of_lt (length_exponent? power)
      (Nat.lt_of_le_of_lt (length_fraction? point) (length_digits? found))

end Numeral

namespace Token

theorem length_next? {c : Char} {s rest : List Char} {t : Token}
    (h : next? c s = some (t, rest)) : rest.length ≤ s.length := by
  unfold next? at h
  split at h
  · cases h; exact Nat.le_refl _
  · cases h; exact Nat.le_refl _
  · cases h; exact Nat.le_refl _
  · cases h; exact Nat.le_refl _
  · cases h; exact Nat.le_refl _
  · cases h; exact Nat.le_refl _
  · cases h; simp only [List.length_cons]; omega
  · cases h; simp only [List.length_cons]; omega
  · cases h; simp only [List.length_cons]; omega
  · obtain ⟨⟨_, _⟩, found, same⟩ := Option.map_eq_some_iff.mp h
    cases same
    exact Nat.le_of_lt (Quoted.length_scan found)
  · obtain ⟨⟨_, _⟩, found, same⟩ := Option.map_eq_some_iff.mp h
    cases same
    exact Nat.le_of_lt (Numeral.length_magnitude? found)
  · split at h
    · obtain ⟨⟨_, _⟩, found, same⟩ := Option.map_eq_some_iff.mp h
      cases same
      have := Numeral.length_magnitude? found
      simp only [List.length_cons] at this
      omega
    · simp at h

/-- All tokens of a text, behind those in `done`. -/
def scan (done : Array Token) : List Char → Option (List Token)
  | [] => some done.toList
  | c :: s =>
    if isBlank c then scan done s
    else
      match h : next? c s with
      | some (t, rest) =>
        have := length_next? h
        scan (done.push t) rest
      | none => none
termination_by s => s.length
decreasing_by
  · simp
  · simp only [List.length_cons]
    omega

/-- The text of a token. -/
def render : Token → List Char
  | openArray => ['[']
  | closeArray => [']']
  | openObject => ['\x7b']
  | closeObject => ['\x7d']
  | comma => [',']
  | colon => [':']
  | null => ['n', 'u', 'l', 'l']
  | bool true => ['t', 'r', 'u', 'e']
  | bool false => ['f', 'a', 'l', 's', 'e']
  | number n => n.render
  | string s => s.render

end Token

end TokenTransfer
