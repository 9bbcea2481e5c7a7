import TokenTransfer.Json.Value

/-!
# Types with a JSON form

How values of a type are written as JSON and read back.  Reading is strict about what is there and easy
about what is not asked for: a record takes its fields by name, in any order and among others, or all
of them in order as an array; a field given twice is refused.

## Main definitions

* `JsonFormat` - a type's JSON form
* `JsonValue.record?` - the fields of a record
* `Record.required`, `Record.defaulted` - the value of one field
* `JsonValue.variant?` - the name of a variant
* `readJson?`, `writeJson` - from and to text
-/

namespace TokenTransfer

/-- A type's JSON form. -/
class JsonFormat (α : Type) where
  /-- The value that a tree denotes. -/
  read? : JsonValue → Option α
  /-- The tree of a value. -/
  write : α → JsonValue

/-- The value that a text denotes. -/
def readJson? (α : Type) [JsonFormat α] (text : String) : Option α :=
  (JsonValue.parse? text).bind JsonFormat.read?

/-- The text of a value. -/
def writeJson {α : Type} [JsonFormat α] (a : α) : String := (JsonFormat.write a).render

/-! ### Records -/

/-- The fields of a record that are present. -/
abbrev Record := List (String × JsonValue)

namespace JsonValue

/-- The fields of a record whose fields have the given names.  All keys must be texts; those of other
names are passed over.  An array gives the first fields in order, and no more than there are. -/
def record? (names : List String) : JsonValue → Option Record
  | object members => do
    let named ← members.mapM fun (key, v) => key.text?.map fun name => (name, v)
    -- Names that are not asked for may repeat; those that are asked for may not.
    let known := named.filter fun field => names.contains field.1
    if (known.map (·.1)).Nodup then some known else none
  | array items => if items.length ≤ names.length then some (names.zip items) else none
  | _ => none

/-- The record of the given fields. -/
def ofFields (fields : Record) : JsonValue :=
  object (fields.map fun (name, v) => (Quoted.ofString name, v))

/-- The name of a variant: a string, or an object whose only member is the name with null. -/
def variant? : JsonValue → Option String
  | string s => s.text?
  | object [(key, null)] => key.text?
  | _ => none

/-- The string of a text. -/
def ofText (s : String) : JsonValue := string (Quoted.ofString s)

/-- The text of a string. -/
def text? : JsonValue → Option String
  | string s => s.text?
  | _ => none

/-- The integer that a number denotes, if it is at least `low` and below `high`. -/
def integer? (low high : Int) : JsonValue → Option Int
  | number n => do
    let z ← n.toInt?
    if low ≤ z ∧ z < high then some z else none
  | _ => none

/-- The number of an integer. -/
def ofInteger (z : Int) : JsonValue := number (.ofInt z)

/-- The items of an array. -/
def items? : JsonValue → Option (List JsonValue)
  | array items => some items
  | _ => none

end JsonValue

namespace Record

variable {α : Type} [JsonFormat α]

/-- The value of a field that must be present. -/
def required (record : Record) (name : String) : Option α :=
  (record.lookup name).bind JsonFormat.read?

/-- The value of a field, or `default` if the field is absent. -/
def defaulted (record : Record) (name : String) (default : α) : Option α :=
  match record.lookup name with
  | some v => JsonFormat.read? v
  | none => some default

end Record

/-- A field with a name and a value. -/
def field {α : Type} [JsonFormat α] (name : String) (a : α) : String × JsonValue :=
  (name, JsonFormat.write a)

/-! ### Plain types -/

instance : JsonFormat Bool where
  read?
    | .bool b => some b
    | _ => none
  write := .bool

instance : JsonFormat String where
  read? := JsonValue.text?
  write := .ofText

instance : JsonFormat UInt8 where
  read? v := (v.integer? 0 UInt8.size).map fun z => UInt8.ofNat z.toNat
  write n := .ofInteger n.toNat

instance : JsonFormat UInt16 where
  read? v := (v.integer? 0 UInt16.size).map fun z => UInt16.ofNat z.toNat
  write n := .ofInteger n.toNat

instance : JsonFormat UInt64 where
  read? v := (v.integer? 0 UInt64.size).map fun z => UInt64.ofNat z.toNat
  write n := .ofInteger n.toNat

instance : JsonFormat Int64 where
  read? v := (v.integer? Int64.minValue.toInt (Int64.maxValue.toInt + 1)).map Int64.ofInt
  write n := .ofInteger n.toInt

/-- An absent value is null. -/
instance {α : Type} [JsonFormat α] : JsonFormat (Option α) where
  read?
    | .null => some none
    | v => (JsonFormat.read? v).map some
  write
    | none => .null
    | some a => JsonFormat.write a

instance {α : Type} [JsonFormat α] : JsonFormat (List α) where
  read? v := v.items?.bind (·.mapM JsonFormat.read?)
  write items := .array (items.map JsonFormat.write)

end TokenTransfer
