/-!
# Quoted text

What stands between the quotes of a JSON string.  An escape by number names a 16-bit unit, and two units
may form one character, so the pieces of a quoted text are kept as they are written and put together
only where the text is wanted: a lone half of a pair is well-formed JSON but no text.

## Main definitions

* `Piece`, `Quoted` - the pieces of a quoted text
* `Quoted.text?` - the text they form, if they form one
* `Quoted.scan` - the pieces up to the closing quote
* `Quoted.ofString`, `Quoted.render` - write a text with the escapes it needs
-/

namespace TokenTransfer

/-- A piece of a quoted text: a character as it is, a character behind a backslash, or a 16-bit unit
given by number. -/
inductive Piece where
  | plain (c : Char)
  | escaped (c : Char)
  | unit (u : UInt16)
deriving DecidableEq

/-- A quoted text. -/
abbrev Quoted := List Piece

namespace Quoted

/-! ### From pieces to text -/

/-- The first halves of pairs. -/
def isHigh (u : UInt16) : Bool := 0xd800 ≤ u && u < 0xdc00

/-- The second halves of pairs. -/
def isLow (u : UInt16) : Bool := 0xdc00 ≤ u && u < 0xe000

/-- The character that two halves form. -/
def pair (high low : UInt16) : Char :=
  Char.ofNat (0x10000 + (high.toNat - 0xd800) * 0x400 + (low.toNat - 0xdc00))

/-- The characters so far and a first half that waits for its second. -/
structure Partial where
  done : Array Char
  high : Option UInt16

/-- Adds a piece.  Only a second half may follow a first half. -/
def Partial.add (p : Partial) : Piece → Option Partial
  | .unit u =>
    match p.high with
    -- Two halves that follow each other form one character.
    | some high => if isLow u then some ⟨p.done.push (pair high u), none⟩ else none
    | none =>
      if isHigh u then some ⟨p.done, some u⟩
      else if isLow u then none
      else some ⟨p.done.push (Char.ofNat u.toNat), none⟩
  | .plain c | .escaped c =>
    match p.high with
    | some _ => none
    | none => some ⟨p.done.push c, none⟩

/-- The text that the pieces form, unless a half of a pair stands alone. -/
def text? (quoted : Quoted) : Option String := do
  let p ← quoted.foldlM Partial.add ⟨#[], none⟩
  match p.high with
  | some _ => none
  | none => return String.ofList p.done.toList

/-- The characters of a quoted text without any escape. -/
def plain? (quoted : Quoted) : Option (List Char) :=
  quoted.mapM fun
    | .plain c => some c
    | _ => none

/-! ### From characters to pieces -/

/-- The value of a hexadecimal digit of either case. -/
def hexDigit? (c : Char) : Option Nat :=
  if '0' ≤ c ∧ c ≤ '9' then some (c.toNat - '0'.toNat)
  else if 'a' ≤ c ∧ c ≤ 'f' then some (c.toNat - 'a'.toNat + 10)
  else if 'A' ≤ c ∧ c ≤ 'F' then some (c.toNat - 'A'.toNat + 10)
  else none

/-- The unit that four hexadecimal digits name. -/
def unit? (digits : List Char) : Option UInt16 := do
  let values ← digits.mapM hexDigit?
  return UInt16.ofNat (values.foldl (fun n d => 16 * n + d) 0)

/-- The character that a letter behind a backslash stands for. -/
def escape? : Char → Option Char
  | '"' => some '"'
  | '\\' => some '\\'
  | '/' => some '/'
  | 'b' => some '\x08'
  | 'f' => some '\x0c'
  | 'n' => some '\n'
  | 'r' => some '\r'
  | 't' => some '\t'
  | _ => none

/-- The pieces up to the closing quote, behind those in `done`, and what follows the quote. -/
def scan (done : Array Piece) : List Char → Option (Quoted × List Char)
  | [] => none
  | '"' :: rest => some (done.toList, rest)
  | '\\' :: 'u' :: a :: b :: c :: d :: rest =>
    match unit? [a, b, c, d] with
    | some u => scan (done.push (.unit u)) rest
    | none => none
  | '\\' :: c :: rest =>
    match escape? c with
    | some e => scan (done.push (.escaped e)) rest
    | none => none
  | c :: rest => if c.toNat < 32 then none else scan (done.push (.plain c)) rest

/-- Scanning uses up at least the closing quote. -/
theorem length_scan {done : Array Piece} {s rest : List Char} {quoted : Quoted}
    (h : scan done s = some (quoted, rest)) : rest.length < s.length := by
  fun_induction scan done s with
  | case1 => simp at h
  | case2 done tail =>
    cases h
    simp
  | case3 done a b c d tail u _ ih =>
    have := ih h
    simp only [List.length_cons]
    omega
  | case4 => simp at h
  | case5 done c tail _ e _ ih =>
    have := ih h
    simp only [List.length_cons]
    omega
  | case6 => simp at h
  | case7 => simp at h
  | case8 done c tail _ _ _ _ ih =>
    have := ih h
    simp only [List.length_cons]
    omega

/-! ### Writing -/

/-- A text as it is, character by character. -/
def ofString (s : String) : Quoted := s.toList.map .plain

/-- The hexadecimal form of a number in four digits. -/
def fourDigits (n : Nat) : List Char :=
  let digits := Nat.toDigits 16 n
  List.replicate (4 - digits.length) '0' ++ digits

/-- A character inside quotes.  Only the quote, the backslash and control characters are escaped. -/
def renderChar (c : Char) : List Char :=
  if c = '"' then ['\\', '"']
  else if c = '\\' then ['\\', '\\']
  else if c = '\x08' then ['\\', 'b']
  else if c = '\x0c' then ['\\', 'f']
  else if c = '\n' then ['\\', 'n']
  else if c = '\r' then ['\\', 'r']
  else if c = '\t' then ['\\', 't']
  else if c.toNat < 32 then '\\' :: 'u' :: fourDigits c.toNat
  else [c]

/-- A piece inside quotes. -/
def renderPiece : Piece → List Char
  | .plain c | .escaped c => renderChar c
  | .unit u => '\\' :: 'u' :: fourDigits u.toNat

/-- A quoted text with its quotes. -/
def render (quoted : Quoted) : List Char := '"' :: quoted.flatMap renderPiece ++ ['"']

end Quoted

end TokenTransfer
