import TokenTransfer.Wire.Tag

/-!
# Wire errors

Why bytes are refused on reading, or a value on writing.

## Main definitions

* `WireError` - the causes
* `WireError.message` - their texts
* `WireError.isMalformed` - all causes but an unknown tag
* `StreamFailure` - a failure reported by a stream of bytes
* `WireError.ofStreamFailure` - the wire error that a stream's failure stands for
-/

namespace TokenTransfer

/-- Why bytes are refused on reading, or a value on writing. -/
inductive WireError where
  | truncated
  | lengthOverrun (declared remaining : Nat)
  | tagMismatch (frame : String) (expected found : Tag)
  | trailingBytes (frame : String) (count : Nat)
  | lengthOverflow (length width : Nat)
  | valueOverflow (value : UInt64) (width : Nat)
  | unsupportedWidth (width : Nat)
  | lengthMismatch (expected actual : Nat)
  | malformed (reason : String)
  | unknownTag (found : Tag)
deriving DecidableEq

namespace WireError

/-- The text of a refusal. -/
def message : WireError → String
  | truncated => "buffer ended before the declared field width"
  | lengthOverrun declared remaining =>
    "declared length " ++ toString declared ++ " exceeds the " ++ toString remaining ++
      " remaining bytes"
  | tagMismatch frame expected found =>
    "invalid prefix for " ++ frame ++ ": expected " ++ expected.listed ++ ", found " ++
      found.listed
  | trailingBytes frame count => toString count ++ " trailing bytes after " ++ frame
  | lengthOverflow length width =>
    "length " ++ toString length ++ " does not fit a " ++ toString width ++
      "-byte length prefix"
  | valueOverflow value width =>
    "value " ++ toString value.toNat ++ " does not fit in " ++ toString width ++ " bytes"
  | unsupportedWidth width => "unsupported field width " ++ toString width
  | lengthMismatch expected actual =>
    "fixed field expected " ++ toString expected ++ " bytes, got " ++ toString actual
  | malformed reason => "malformed layout: " ++ reason
  | unknownTag found => "no configured transceiver prefix matches " ++ found.listed

/-- Whether the bytes themselves are at fault.  An unknown tag may belong to a transceiver that is not
configured here. -/
def isMalformed : WireError → Bool
  | unknownTag _ => false
  | _ => true

end WireError

/-! ### Failures of a stream -/

/-- The kinds of failure that a stream of bytes reports. -/
inductive StreamFailure.Kind where
  | unexpectedEnd
  | invalidData
  | notFound
  | other
deriving DecidableEq

/-- The text of a kind of failure. -/
def StreamFailure.Kind.message : StreamFailure.Kind → String
  | .unexpectedEnd => "unexpected end of file"
  | .invalidData => "invalid data"
  | .notFound => "entity not found"
  | .other => "other error"

/-- What a stream's failure carries besides its kind. -/
inductive StreamFailure.Cause where
  | text (reason : String)
  | wire (error : WireError)
deriving DecidableEq

/-- A failure reported by a stream of bytes. -/
structure StreamFailure where
  kind : StreamFailure.Kind
  cause : Option StreamFailure.Cause
deriving DecidableEq

namespace WireError

/-- Carries a wire error through a stream, as invalid data. -/
def toStreamFailure (error : WireError) : StreamFailure := ⟨.invalidData, some (.wire error)⟩

/-- A stream that ends early is truncated whatever it carries; a wire error carried by a stream comes
out as it went in. -/
def ofStreamFailure (failure : StreamFailure) : WireError :=
  if failure.kind = .unexpectedEnd then truncated
  else match failure.cause with
    | some (.wire error) => error
    | some (.text reason) => malformed reason
    | none => malformed failure.kind.message

@[simp] theorem ofStreamFailure_toStreamFailure (error : WireError) :
    ofStreamFailure error.toStreamFailure = error := rfl

end WireError

end TokenTransfer
