import TokenTransfer.Fallible
import TokenTransfer.Wire.Error

/-!
# Readers

A reader takes bytes off the front of those that are left.  It says what is left also when it fails:
a field of a declared width that runs short takes nothing, while a field of a fixed size that runs
short has used up all there was.

## Main definitions

* `Reader α` - reads an `α`, or fails, and leaves the rest
* `Reader.uint` - a number in one to eight bytes
* `Reader.counted` - bytes behind their number
* `Reader.nested` - a payload behind the number of its bytes
* `Reader.fixed` - a fixed number of bytes
* `Reader.whole` - reads all of a byte string
-/

namespace TokenTransfer

/-- Reads an `α` off the front of the bytes that are left. -/
abbrev Reader (α : Type) := Fallible WireError Bytes α

/-- A number takes one to eight bytes. -/
def WidthSupported (width : Nat) : Prop := 1 ≤ width ∧ width ≤ 8

instance (width : Nat) : Decidable (WidthSupported width) :=
  inferInstanceAs (Decidable (1 ≤ width ∧ width ≤ 8))

namespace Reader

variable {α : Type}

/-- The next `count` bytes; takes nothing if there are fewer. -/
def take (count : Nat) : Reader Bytes := do
  let bytes ← get
  if count ≤ bytes.length then
    set (bytes.drop count)
    return bytes.take count
  else throw .truncated

/-- The next `count` bytes; uses up all there are if there are fewer. -/
def fixed (count : Nat) : Reader (FixedBytes count) := do
  let bytes ← get
  if h : count ≤ bytes.length then
    set (bytes.drop count)
    return ⟨bytes.take count, by rw [List.length_take, Nat.min_eq_left h]⟩
  else
    set ([] : Bytes)
    throw .truncated

/-- A number in `width` bytes. -/
def uint (width : Nat) : Reader UInt64 := do
  if WidthSupported width then
    let bytes ← take width
    return UInt64.ofNat bytes.value
  else throw (.unsupportedWidth width)

/-- As many bytes as the number in the first `width` bytes says. -/
def counted (width : Nat) : Reader Bytes := do
  -- A count that is too large has been read all the same.
  let declared ← uint width
  let rest ← get
  if declared.toNat ≤ rest.length then take declared.toNat
  else throw (.lengthOverrun declared.toNat rest.length)

/-- What `decode` makes of a counted byte string. -/
def nested (decode : Bytes → Except WireError α) (width : Nat) : Reader α := do
  let bytes ← counted width
  Fallible.ofExcept (decode bytes)

/-- The tag `expected`, at the head of `frame`. -/
def tag (expected : Tag) (frame : String) : Reader Unit := do
  let found ← fixed 4
  if found ≠ expected then throw (.tagMismatch frame expected found)

/-- Nothing is left after `frame`. -/
def finish (frame : String) : Reader Unit := do
  let rest ← get
  if rest ≠ [] then throw (.trailingBytes frame rest.length)

/-- A byte that is zero or one. -/
def flag : Reader Bool := do
  let byte ← fixed 1
  if byte.toNat = 0 then return false
  else if byte.toNat = 1 then return true
  else throw (.malformed "invalid bool value")

/-- Reads all of `bytes`, a frame of the given name. -/
def whole (reader : Reader α) (frame : String) (bytes : Bytes) : Except WireError α :=
  Fallible.outcome (do let a ← reader; finish frame; return a) bytes

/-! ### What readers do to the bytes that are left -/

@[simp] theorem runOn_take (count : Nat) (bytes : Bytes) :
    (take count).runOn bytes =
      if count ≤ bytes.length then (.ok (bytes.take count), bytes.drop count)
      else (.error .truncated, bytes) := by
  show Fallible.runOn (if count ≤ bytes.length then _ else _) bytes = _
  split <;> rfl

@[simp] theorem runOn_fixed (count : Nat) (bytes : Bytes) :
    (fixed count).runOn bytes =
      if h : count ≤ bytes.length then
        (.ok ⟨bytes.take count, by rw [List.length_take, Nat.min_eq_left h]⟩, bytes.drop count)
      else (.error .truncated, []) := by
  show Fallible.runOn (dite (count ≤ bytes.length) _ _) bytes = _
  split <;> rfl

@[simp] theorem runOn_finish (frame : String) (bytes : Bytes) :
    (finish frame).runOn bytes =
      if bytes = [] then (.ok (), bytes)
      else (.error (.trailingBytes frame bytes.length), bytes) := by
  show Fallible.runOn (ite (bytes ≠ []) _ _) bytes = _
  split <;> rename_i h <;> simp_all

end Reader

end TokenTransfer
