import QueryGrading.Json.Printer
import QueryGrading.Json.Source
import QueryGrading.Text.Quoted

/-!
# Records in JSON

A reader takes a `Source` to a value of the program or to the first error in the order of the text.
A record is written as an object, whose unknown members are skipped, or as the list of its fields;
fields that are not required keep their value from the start. A value that is skipped only needs the
form of one: `Reader.skip` accepts what has no content that could be read.

So the derived readers of assignments, sessions, submissions and of the replies of helper programs
work: each is one `Record` with its own fields and defaults. Errors are a missing field, a field
that occurs twice, a list of the wrong length, an unknown variant and a value of the wrong type,
with the wording and in the order that the derived readers have. Lines and columns are left out of
the messages.
-/

namespace QueryGrading

/-! ## 1. Errors -/

/-- Why a JSON value is not the one that was asked for. -/
inductive ReadError
  | badText (fault : JsonFault)
  | wrongType (found expected : String)
  | wrongValue (found expected : String)
  | wrongLength (length : Nat) (expected : String)
  | missing (field : String)
  | repeated (field : String)
  | unknownVariant (name expected : String)
  | unknownName (noun name : String)
  deriving DecidableEq, Repr

/-- The wording of an error. -/
def ReadError.message : ReadError → String
  | .badText fault => fault.message
  | .wrongType found expected => s!"invalid type: {found}, expected {expected}"
  | .wrongValue found expected => s!"invalid value: {found}, expected {expected}"
  | .wrongLength length expected => s!"invalid length {length}, expected {expected}"
  | .missing field => s!"missing field `{field}`"
  | .repeated field => s!"duplicate field `{field}`"
  | .unknownVariant name expected => s!"unknown variant `{name}`, expected {expected}"
  | .unknownName noun name => s!"Unknown property {noun}: {name}"

/-- Where a source stands: in a text of its own, or as a value that was read before. A list with
too many items is reported in different words. -/
inductive Origin
  | text
  | value
  deriving DecidableEq, Repr

/-- A reader of values. -/
abbrev Reader (α : Type) := Source → Except ReadError α

/-! ## 2. Single values -/

/-- A number as messages name it. -/
def JsonNumber.found (n : JsonNumber) : String :=
  match n with
  | .integer _ => "integer `" ++ n.text ++ "`"
  | .real _ => "floating point `" ++ n.text ++ "`"

/-- The error for a value of another type than the expected one. -/
def mismatch (expected : String) : Source → ReadError
  | .unreadable fault => .badText fault
  | .broken stop => .badText stop.read
  | .null => .wrongType "null" expected
  | .bool b => .wrongType ("boolean `" ++ (Json.bool b).compact ++ "`") expected
  | .number n => .wrongType n.found expected
  | .string s => .wrongType ("string " ++ Text.quoted s) expected
  | .array _ _ => .wrongType "sequence" expected
  | .object _ _ => .wrongType "map" expected

namespace Reader

/-- A string. -/
def text : Reader String
  | .string s => .ok s
  | source => .error (mismatch "a string" source)

/-- A truth value. -/
def flag : Reader Bool
  | .bool b => .ok b
  | source => .error (mismatch "a boolean" source)

/-- A natural number of so many bits. -/
def count (bits : Nat) (expected : String) : Reader Nat
  | .number (.integer n) =>
    if 0 ≤ n ∧ n < Nat.pow 2 bits then .ok n.toNat
    else .error (.wrongValue (JsonNumber.integer n).found expected)
  | source => .error (mismatch expected source)

/-- A natural number of 64 bits. -/
def size : Reader Nat := count 64 "usize"

/-- A natural number of 32 bits. -/
def ordinal : Reader Nat := count 32 "u32"

/-- A value or `null`. -/
def optional {α : Type} (reader : Reader α) : Reader (Option α)
  | .null => .ok none
  | source => some <$> reader source

/-- Any value, which may be `depth` deep. -/
def any (depth : Nat) : Reader Json := fun source =>
  match source.toJson depth with
  | .ok value => .ok value
  | .error fault => .error (.badText fault)

/-- Nothing, unless the reading of the text stops here. -/
def close : Option JsonBreak → Except ReadError Unit
  | none => .ok ()
  | some stop => .error (.badText stop.read)

/-- Any value, of which only the form counts. -/
def skip : Reader Unit := fun source =>
  match source.stop? with
  | none => .ok ()
  | some stop => .error (.badText stop.skipped)

/-- The key of a member. -/
def key : Except JsonFault String → Except ReadError String
  | .ok key => .ok key
  | .error fault => .error (.badText fault)

/-- A list of values. -/
def list {α : Type} (reader : Reader α) : Reader (List α)
  | .array items ending => do
    let values ← items.mapM reader
    close ending
    return values
  | source => .error (mismatch "a sequence" source)

end Reader

/-! ## 3. Records -/

/-- A field of a record of type `σ`: how its value is read into the record. -/
structure Field (σ : Type) where
  name : String
  required : Bool
  read : σ → Source → Except ReadError σ

/-- The form of a record: what messages call it, its fields in order, and its value before any
field is read. -/
structure Record (σ : Type) where
  name : String
  fields : List (Field σ)
  start : σ

namespace Record

variable {σ : Type}

/-- Reads the members of an object in order; `seen` holds the keys of the fields so far. -/
def readMembers (record : Record σ) (value : σ) (seen : List String) :
    List (Except JsonFault String × Source) → Except ReadError (σ × List String)
  | [] => .ok (value, seen)
  | (key, source) :: rest => do
    let key ← Reader.key key
    match record.fields.find? (·.name == key) with
    | some field =>
      if seen.contains key then .error (.repeated key)
      else
        let value ← field.read value source
        readMembers record value (key :: seen) rest
    | none =>
      Reader.skip source
      readMembers record value seen rest

/-- Reads the items of a list as the fields in order; returns the items that are left over. -/
def readItems (record : Record σ) (ending : Option JsonBreak) (index : Nat) (value : σ) :
    List (Field σ) → List Source → Except ReadError (σ × List Source)
  | [], items => .ok (value, items)
  | field :: fields, item :: items => do
    let value ← field.read value item
    readItems record ending (index + 1) value fields items
  | field :: fields, [] => do
    Reader.close ending
    if field.required then
      .error (.wrongLength index s!"struct {record.name} with {record.fields.length} elements")
    else readItems record ending (index + 1) value fields []

/-- The error for the items after the last field, if there are any. -/
def closeItems (origin : Origin) (length : Nat) (left : List Source) (ending : Option JsonBreak) :
    Except ReadError Unit :=
  match left, ending with
  | [], none => .ok ()
  | [], some stop =>
    match stop.read with
    | .endInValue | .listEndExpected => .error (.badText .trailingCharacters)
    | fault => .error (.badText fault)
  | _ :: _, _ =>
    match origin with
    | .text => .error (.badText .trailingCharacters)
    | .value => .error (.wrongLength length "fewer elements in array")

/-- Reads a record. -/
def read (record : Record σ) (origin : Origin) : Reader σ
  | .object members ending => do
    let (value, seen) ← readMembers record record.start [] members
    Reader.close ending
    match record.fields.find? (fun field => field.required && !seen.contains field.name) with
    | some field => .error (.missing field.name)
    | none => return value
  | .array items ending => do
    let (value, left) ← readItems record ending 0 record.start record.fields items
    closeItems origin items.length left ending
    return value
  | source => .error (mismatch s!"struct {record.name}" source)

end Record

/-- Reads a value of the program out of a text that holds nothing else. -/
def Reader.ofText {α : Type} (reader : Reader α) (text : String) : Except ReadError α := do
  let (source, rest) := Source.read text
  let value ← reader source
  if rest.isEmpty then return value else .error (.badText .trailingCharacters)

end QueryGrading
