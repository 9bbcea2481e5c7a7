import TokenTransfer.Json.Token

/-!
# JSON values

A JSON text denotes a tree.  Its tokens are read one after another by a machine with a stack of open
arrays and objects, so the depth of the tree is bounded by nothing but the text.

## Main definitions

* `JsonValue` - the trees; an object keeps its members in order, also those with equal keys
* `JsonValue.Machine`, `JsonValue.Machine.step` - what has been read so far, and one more token
* `JsonValue.parse?` - the value that a text denotes
* `JsonValue.render` - the text of a value, without blanks
-/

namespace TokenTransfer

/-- A JSON value. -/
inductive JsonValue where
  | null
  | bool (b : Bool)
  | number (n : Numeral)
  | string (s : Quoted)
  | array (items : List JsonValue)
  | object (members : List (Quoted × JsonValue))

namespace JsonValue

/-! ### Reading -/

/-- An array or an object that is still open, with what it holds so far, last first. -/
inductive Frame where
  | items (before : List JsonValue)
  | member (before : List (Quoted × JsonValue)) (key : Quoted)

/-- What is to come next. -/
inductive Mode where
  /-- A value. -/
  | value
  /-- The first item of an array, or its end. -/
  | firstItem
  /-- The first key of an object, or its end. -/
  | firstKey
  /-- A key, behind the members so far. -/
  | key (before : List (Quoted × JsonValue))
  /-- The colon behind a key. -/
  | colon (before : List (Quoted × JsonValue)) (key : Quoted)
  /-- What follows a value. -/
  | done (v : JsonValue)

/-- What has been read so far. -/
structure Machine where
  stack : List Frame
  mode : Mode

namespace Machine

/-- The machine that has read nothing. -/
def start : Machine := ⟨[], .value⟩

/-- Begins a value. -/
def beginValue (stack : List Frame) : Token → Option Machine
  | .null => some ⟨stack, .done .null⟩
  | .bool b => some ⟨stack, .done (.bool b)⟩
  | .number n => some ⟨stack, .done (.number n)⟩
  | .string s => some ⟨stack, .done (.string s)⟩
  | .openArray => some ⟨.items [] :: stack, .firstItem⟩
  | .openObject => some ⟨stack, .firstKey⟩
  | _ => none

/-- Goes on behind a value: closes the innermost array or object, or begins its next item. -/
def continueAfter (stack : List Frame) (v : JsonValue) (t : Token) : Option Machine :=
  match stack, t with
  | .items before :: outer, .comma => some ⟨.items (v :: before) :: outer, .value⟩
  | .items before :: outer, .closeArray => some ⟨outer, .done (.array (v :: before).reverse)⟩
  | .member before key :: outer, .comma => some ⟨outer, .key ((key, v) :: before)⟩
  | .member before key :: outer, .closeObject =>
    some ⟨outer, .done (.object ((key, v) :: before).reverse)⟩
  | _, _ => none

/-- Reads one more token. -/
def step (m : Machine) (t : Token) : Option Machine :=
  match m.mode, t with
  | .value, t => beginValue m.stack t
  | .firstItem, .closeArray => some ⟨m.stack.tail, .done (.array [])⟩
  | .firstItem, t => beginValue m.stack t
  | .firstKey, .closeObject => some ⟨m.stack, .done (.object [])⟩
  | .firstKey, .string key => some ⟨m.stack, .colon [] key⟩
  | .key before, .string key => some ⟨m.stack, .colon before key⟩
  | .colon before key, .colon => some ⟨.member before key :: m.stack, .value⟩
  | .done v, t => continueAfter m.stack v t
  | _, _ => none

/-- The value that was read, if it is complete. -/
def finished? (m : Machine) : Option JsonValue :=
  match m with
  | ⟨[], .done v⟩ => some v
  | _ => none

end Machine

/-- The value that a sequence of tokens denotes. -/
def ofTokens? (tokens : List Token) : Option JsonValue :=
  (tokens.foldlM Machine.step Machine.start).bind Machine.finished?

/-- The value that a text denotes. -/
def parse? (text : String) : Option JsonValue := (Token.scan #[] text.toList).bind ofTokens?

/-! ### Writing -/

mutual

/-- The tokens of a value. -/
def tokens : JsonValue → List Token
  | null => [.null]
  | bool b => [.bool b]
  | number n => [.number n]
  | string s => [.string s]
  | array items => .openArray :: itemTokens items ++ [.closeArray]
  | object members => .openObject :: memberTokens members ++ [.closeObject]

/-- The tokens of the items of an array. -/
def itemTokens : List JsonValue → List Token
  | [] => []
  | [v] => v.tokens
  | v :: rest => v.tokens ++ .comma :: itemTokens rest

/-- The tokens of the members of an object. -/
def memberTokens : List (Quoted × JsonValue) → List Token
  | [] => []
  | [(key, v)] => .string key :: .colon :: v.tokens
  | (key, v) :: rest => .string key :: .colon :: (v.tokens ++ .comma :: memberTokens rest)

end

/-- The text of a value, without blanks. -/
def render (v : JsonValue) : String := String.ofList (v.tokens.flatMap Token.render)

end JsonValue

end TokenTransfer
