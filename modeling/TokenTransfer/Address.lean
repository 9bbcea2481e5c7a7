import TokenTransfer.Hex
import TokenTransfer.Table

/-!
# Addresses

An address is a string of 32 bytes, whatever chain it lives on.  The shorter addresses of a chain are
padded with zero bytes on the left.

## Main definitions

* `Address.ofNative` - the address of a chain's own, at most 32 bytes
* `Address.text` - `0x` and 64 digits
* `Address.parse` - one to 64 hexadecimal digits, after an optional `0x`
-/

namespace TokenTransfer

/-- A string of 32 bytes, on any chain. -/
abbrev Address := FixedBytes 32

instance {n : Nat} : Ranked (FixedBytes n) := ⟨FixedBytes.toNat, FixedBytes.toNat_inj⟩

/-- Why a text or a byte string is no address. -/
inductive AddressError where
  | invalidHex (cause : HexError)
  | tooLong (length : Nat)
  | empty
deriving DecidableEq

namespace AddressError

/-- The text of a refusal. -/
def message : AddressError → String
  | invalidHex cause => "address is not valid hex: " ++ cause.message
  | tooLong length => "address is " ++ toString length ++ " bytes, longer than 32"
  | empty => "address is empty"

end AddressError

namespace Address

/-- The number of bytes in an address. -/
def size : Nat := 32

/-- The address of zero bytes. -/
def zero : Address := FixedBytes.zero size

/-- Pads a chain's own address with zero bytes on the left. -/
def ofNative (own : Bytes) : Except AddressError Address :=
  if h : own.length ≤ size then
    .ok ⟨List.replicate (size - own.length) 0 ++ own, by
      rw [List.length_append, List.length_replicate, Nat.sub_add_cancel h]
      rfl⟩
  else .error (.tooLong own.length)

/-- An address in text: `0x` and two lowercase digits a byte. -/
def text (address : Address) : String := "0x" ++ Hex.encode address.bytes

/-- An address as it is shown for inspection. -/
def inspect (address : Address) : String := "UniversalAddress(" ++ address.text ++ ")"

/-- What remains of a text after one leading `0x`. -/
def withoutMark : Bytes → Bytes
  | 48 :: 120 :: rest => rest
  | text => text

/-- Puts the leading zero back that an odd count of digits has lost. -/
def evenDigits (digits : Bytes) : Bytes :=
  if digits.length % 2 = 1 then 48 :: digits else digits

/-- Reads an address.  Digits are looked at before they are counted, so a text with a bad character is
refused for that one however long it is. -/
def parse (text : String) : Except AddressError Address :=
  match withoutMark (Hex.utf8 text) with
  -- No digits at all would be read as no bytes; here that is a refusal of its own.
  | [] => .error .empty
  | digits =>
    match Hex.decode (evenDigits digits) with
    | .ok native => ofNative native
    | .error cause => .error (.invalidHex cause)

end Address

end TokenTransfer
