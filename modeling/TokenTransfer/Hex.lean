import TokenTransfer.Bytes

/-!
# Hexadecimal text

Byte strings as hexadecimal text.  Writing uses lowercase digits; reading takes either case and works
on the UTF-8 bytes of the text, so that a bad digit is named by its byte and its byte position.

## Main definitions

* `Hex.encode` - two lowercase digits a byte
* `Hex.decode` - the bytes that pairs of digits denote, or the first byte that is no digit
-/

namespace TokenTransfer

/-- Why a text is not the hexadecimal form of a byte string. -/
inductive HexError where
  | oddLength
  | badDigit (byte : UInt8) (position : Nat)
deriving DecidableEq

namespace Hex

/-- The lowercase digit of a number below sixteen. -/
def digit (n : Nat) : Char :=
  if n < 10 then Char.ofNat ('0'.toNat + n) else Char.ofNat ('a'.toNat + (n - 10))

/-- The two digits of a byte. -/
def digits (b : UInt8) : List Char :=
  [digit (b.toNat / 16), digit (b.toNat % 16)]

/-- Two lowercase digits a byte, in order. -/
def encode (bytes : Bytes) : String :=
  String.ofList (bytes.flatMap digits)

/-- The number that a hexadecimal digit, given as an ASCII byte, denotes. -/
def digitValue? (byte : UInt8) : Option Nat :=
  let n := byte.toNat
  if '0'.toNat ≤ n ∧ n ≤ '9'.toNat then some (n - '0'.toNat)
  else if 'a'.toNat ≤ n ∧ n ≤ 'f'.toNat then some (n - 'a'.toNat + 10)
  else if 'A'.toNat ≤ n ∧ n ≤ 'F'.toNat then some (n - 'A'.toNat + 10)
  else none

/-- The bytes of `done` and then those that the pairs of digits in `text` denote, where `position`
is the index of the first byte of `text`. -/
def decodePairs (done : Array UInt8) (position : Nat) : Bytes → Except HexError Bytes
  | [] => .ok done.toList
  | [_] => .error .oddLength
  | high :: low :: rest =>
    match digitValue? high, digitValue? low with
    | some h, some l => decodePairs (done.push (UInt8.ofNat (16 * h + l))) (position + 2) rest
    | none, _ => .error (.badDigit high position)
    | _, none => .error (.badDigit low (position + 1))

/-- The bytes that the digits in `text` denote.  An odd count is refused before any digit is
looked at. -/
def decode (text : Bytes) : Except HexError Bytes :=
  if text.length % 2 = 1 then .error .oddLength else decodePairs #[] 0 text

/-- The UTF-8 bytes of a text. -/
def utf8 (text : String) : Bytes := text.toUTF8.toList

end Hex

/-! ### The wording of a refusal -/

namespace HexError

/-- A byte as a quoted character: quote, backslash and the usual controls by name, other control
characters by number. -/
def quoted (byte : UInt8) : String :=
  let n := byte.toNat
  let named : String :=
    if n = 0 then "\\0"
    else if n = 9 then "\\t"
    else if n = 10 then "\\n"
    else if n = 13 then "\\r"
    else if n = 39 then "\\'"
    else if n = 92 then "\\\\"
    else if n < 32 ∨ (127 ≤ n ∧ n ≤ 160) ∨ n = 173 then
      "\\u\x7b" ++ String.ofList ((Nat.toDigits 16 n)) ++ "\x7d"
    else String.ofList [Char.ofNat n]
  "'" ++ named ++ "'"

/-- The text of a refusal. -/
def message : HexError → String
  | .oddLength => "Odd number of digits"
  | .badDigit byte position =>
    "Invalid character " ++ quoted byte ++ " at position " ++ toString position

end HexError

end TokenTransfer
