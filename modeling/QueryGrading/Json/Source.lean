import QueryGrading.Json.Basic
import QueryGrading.Json.StringContent

/-!
# Reading JSON text

`Source.read` turns a text into a `Source`: its values in the order in which they stand there, up to
the first place where the reading has to stop. Faults are kept at their places instead of ending the
reading, because a reader that expects a certain shape may meet an error of its own before them, and
a reader that skips a value does not mind those of its content. `Json.parse` expects no shape: it
reports the first fault, or the value.

A number is read as an integer if it has the form of one and 64 bits hold it, else as a real number,
whose digits are first cut to a significand of 64 bits and then scaled by rounded powers of ten;
that is not the nearest number in all cases, and it is what the reader in question does. Values may
be nested 127 deep. Both `Value` and the derived readers rest on this: `read_json`, `from_json_str`,
and `invoke` on the reply of a helper program.
-/

namespace QueryGrading

open Decimal (Binary64)

/-! ## 1. What a text holds -/

/-- The content of a text, in its order. An `unreadable` value has the form of one, but no
content: a number beyond the greatest, or a string with half a character. The `ending` of a list
or an object says where the reading stopped inside it or inside its last item; at a `broken` value
it stopped. -/
inductive Source
  | null
  | bool (b : Bool)
  | number (n : JsonNumber)
  | string (s : String)
  | unreadable (fault : JsonFault)
  | array (items : List Source) (ending : Option JsonBreak)
  | object (members : List (Except JsonFault String × Source)) (ending : Option JsonBreak)
  | broken (stop : JsonBreak)
  deriving Inhabited

/-- The place inside this value where the reading of the text stops. -/
def Source.stop? : Source → Option JsonBreak
  | .broken stop => some stop
  | .array _ ending => ending
  | .object _ ending => ending
  | _ => none

/-- A value that breaks off at a fault. -/
def Source.breakAt (fault : JsonFault) : Source := .broken (.of fault)

/-- A number that breaks off at the end of the text, or else at a character that is no digit. -/
def Source.breakNumber (rest : List Char) : Source :=
  if rest.isEmpty then .broken ⟨.endInValue, .badNumber⟩ else .breakAt .badNumber

/-! ## 2. Numbers -/

/-- The greatest integer kept while the digits of a number are read. -/
def maxSignificand : Nat := Nat.pow 2 64 - 1

/-- The value of a digit. -/
def digitValue (c : Char) : Nat := c.toNat - '0'.toNat

/-- The digits that fit into the significand, and how many more there are. -/
def gatherDigits (significand : Nat) : List Char → Nat × Nat
  | [] => (significand, 0)
  | c :: rest =>
    if maxSignificand < significand * 10 + digitValue c then (significand, rest.length + 1)
    else gatherDigits (significand * 10 + digitValue c) rest

/-- `f · 10^e`, rounded at each step: powers of ten are rounded first, and beyond `10^308` the
division is made in steps. Nothing if the number is too large. -/
def scaleReal (f : Binary64) (e : Int) : Nat → Option Binary64
  | 0 => some f
  | fuel + 1 =>
    if e.natAbs ≤ 308 then do
      let power ← Binary64.ofRatio? false (Nat.pow 10 e.natAbs) 1
      if 0 ≤ e then f.mul? power else f.div? power
    else if f.mantissa = 0 then some f
    else if 0 ≤ e then none
    else do
      let power ← Binary64.ofRatio? false (Nat.pow 10 308) 1
      let quotient ← f.div? power
      scaleReal quotient (e + 308) fuel

/-- The real number `± significand · 10^exponent`. -/
def realSource (negative : Bool) (significand : Nat) (exponent : Int) : Source :=
  let real := do
    let f ← Binary64.ofRatio? false significand 1
    scaleReal f exponent (exponent.natAbs / 308 + 1)
  match real with
  | some x => .number (.real ⟨negative, x.mantissa, x.exponent⟩)
  | none => .unreadable .numberTooLarge

/-- A number without point and exponent: an integer if it has at most 64 bits. -/
def integerSource (negative : Bool) (significand : Nat) : Source :=
  if !negative then .number (.integer significand)
  else if 0 < significand ∧ significand ≤ Nat.pow 2 63 then
    .number (.integer (-Int.ofNat significand))
  else realSource true significand 0

/-- The exponent part after its letter. -/
def readExponent (negative : Bool) (significand : Nat) (exponent : Int) (cs : List Char) :
    Source × List Char :=
  let (down, cs) := match cs with
    | '+' :: rest => (false, rest)
    | '-' :: rest => (true, rest)
    | _ => (false, cs)
  let digits := cs.takeWhile Char.isDigit
  let rest := cs.dropWhile Char.isDigit
  if digits.isEmpty then (.breakNumber rest, [])
  else
    let e : Int := digits.foldl (fun n c => n * 10 + digitValue c) 0
    (realSource negative significand (exponent + (if down then -e else e)), rest)

/-- The fraction part after its point. -/
def readFraction (negative : Bool) (significand : Nat) (exponent : Int) (cs : List Char) :
    Source × List Char :=
  let digits := cs.takeWhile Char.isDigit
  let rest := cs.dropWhile Char.isDigit
  if digits.isEmpty then (.breakNumber rest, [])
  else
    let (significand, dropped) := gatherDigits significand digits
    let exponent := exponent - Int.ofNat (digits.length - dropped)
    match rest with
    | 'e' :: rest => readExponent negative significand exponent rest
    | 'E' :: rest => readExponent negative significand exponent rest
    | _ => (realSource negative significand exponent, rest)

/-- A number after its sign. -/
def readNumber (negative : Bool) (cs : List Char) : Source × List Char :=
  let digits := cs.takeWhile Char.isDigit
  let rest := cs.dropWhile Char.isDigit
  match digits with
  | [] => (.breakNumber rest, [])
  | '0' :: _ :: _ => (.breakAt .badNumber, [])
  | _ =>
    let (significand, dropped) := gatherDigits 0 digits
    match rest with
    | '.' :: rest => readFraction negative significand dropped rest
    | 'e' :: rest => readExponent negative significand dropped rest
    | 'E' :: rest => readExponent negative significand dropped rest
    | _ =>
      if dropped = 0 then (integerSource negative significand, rest)
      else (realSource negative significand dropped, rest)

/-! ## 3. Values -/

/-- The blanks between the parts of a text. -/
def isJsonBlank (c : Char) : Bool := c = ' ' || c = '\n' || c = '\t' || c = '\r'

/-- A text without the blanks in front. -/
def skipBlanks (cs : List Char) : List Char := cs.dropWhile isJsonBlank

/-- The rest of a word such as `null`, which stands for `value`. -/
def readWord (value : Source) : List Char → List Char → Source × List Char
  | [], cs => (value, cs)
  | _ :: _, [] => (.breakAt .endInValue, [])
  | w :: word, c :: cs => if c = w then readWord value word cs else (.breakAt .wordExpected, [])

mutual
/-- A value and the text after it; the length of the text bounds the number of steps. -/
def readValue : Nat → List Char → Source × List Char
  | 0, _ => (.breakAt .endInValue, [])
  | fuel + 1, cs =>
    match skipBlanks cs with
    | [] => (.breakAt .endInValue, [])
    | 'n' :: rest => readWord .null ['u', 'l', 'l'] rest
    | 't' :: rest => readWord (.bool true) ['r', 'u', 'e'] rest
    | 'f' :: rest => readWord (.bool false) ['a', 'l', 's', 'e'] rest
    | '-' :: rest => readNumber true rest
    | '"' :: rest =>
      match readString rest with
      | .ok (.ok s, rest) => (.string s, rest)
      | .ok (.error fault, rest) => (.unreadable fault, rest)
      | .error stop => (.broken stop, [])
    | '[' :: rest =>
      let (items, ending, rest) := readItems fuel true rest
      (.array items ending, rest)
    | '\x7b' :: rest =>
      let (members, ending, rest) := readMembers fuel true rest
      (.object members ending, rest)
    | c :: rest =>
      if c.isDigit then readNumber false (c :: rest) else (.breakAt .valueExpected, [])

/-- The items of a list after its bracket, or after an item. -/
def readItems : Nat → Bool → List Char → List Source × Option JsonBreak × List Char
  | 0, _, _ => ([], some (.of .endInList), [])
  | fuel + 1, isFirst, cs =>
    match isFirst, skipBlanks cs with
    | _, [] => ([], some (.of .endInList), [])
    | _, ']' :: rest => ([], none, rest)
    | true, cs => readItem fuel cs
    | false, ',' :: rest =>
      match skipBlanks rest with
      | [] => ([], some (.of .endInValue), [])
      | ']' :: _ => ([], some ⟨.trailingComma, .valueExpected⟩, [])
      | cs => readItem fuel cs
    | false, _ => ([], some (.of .listEndExpected), [])

/-- One item of a list and the items after it. -/
def readItem : Nat → List Char → List Source × Option JsonBreak × List Char
  | 0, _ => ([], some (.of .endInList), [])
  | fuel + 1, cs =>
    let (item, rest) := readValue fuel cs
    match item.stop? with
    | some stop => ([item], some stop, [])
    | none =>
      let (items, ending, rest) := readItems fuel false rest
      (item :: items, ending, rest)

/-- The members of an object after its brace, or after a member. -/
def readMembers : Nat → Bool → List Char →
    List (Except JsonFault String × Source) × Option JsonBreak × List Char
  | 0, _, _ => ([], some (.of .endInObject), [])
  | fuel + 1, isFirst, cs =>
    match isFirst, skipBlanks cs with
    | _, [] => ([], some (.of .endInObject), [])
    | _, '\x7d' :: rest => ([], none, rest)
    | true, '"' :: rest => readMember fuel rest
    | true, _ => ([], some (.of .keyNotString), [])
    | false, ',' :: rest =>
      match skipBlanks rest with
      | [] => ([], some ⟨.endInValue, .endInObject⟩, [])
      | '"' :: rest => readMember fuel rest
      | '\x7d' :: _ => ([], some ⟨.trailingComma, .keyNotString⟩, [])
      | _ => ([], some (.of .keyNotString), [])
    | false, _ => ([], some (.of .objectEndExpected), [])

/-- One member of an object, after the quote of its key, and the members after it. -/
def readMember : Nat → List Char →
    List (Except JsonFault String × Source) × Option JsonBreak × List Char
  | 0, _ => ([], some (.of .endInObject), [])
  | fuel + 1, cs =>
    match readString cs with
    | .error stop => ([], some stop, [])
    | .ok (key, rest) =>
      match skipBlanks rest with
      | [] => ([(key, .breakAt .endInObject)], some (.of .endInObject), [])
      | ':' :: rest =>
        let (value, rest) := readValue fuel rest
        match value.stop? with
        | some stop => ([(key, value)], some stop, [])
        | none =>
          let (members, ending, rest) := readMembers fuel false rest
          ((key, value) :: members, ending, rest)
      | _ => ([(key, .breakAt .colonExpected)], some (.of .colonExpected), [])
end

/-- The first value of a text and what follows it. -/
def Source.read (text : String) : Source × List Char :=
  let cs := text.toList
  let (value, rest) := readValue (3 * cs.length + 3) cs
  (value, skipBlanks rest)

/-! ## 4. Values of any shape -/

/-- How many lists and objects may stand inside each other. -/
def maxDepth : Nat := 127

mutual
/-- The value, or its first fault; lists and objects may be `depth` deep. -/
def Source.toJson (depth : Nat) : Source → Except JsonFault Json
  | .null => .ok .null
  | .bool b => .ok (.bool b)
  | .number n => .ok (.number n)
  | .string s => .ok (.string s)
  | .unreadable fault => .error fault
  | .broken stop => .error stop.read
  | .array items ending =>
    match depth with
    | 0 => .error .tooDeep
    | depth + 1 => do
      let items ← itemsToJson depth items
      match ending with
      | some stop => .error stop.read
      | none => .ok (.array items)
  | .object members ending =>
    match depth with
    | 0 => .error .tooDeep
    | depth + 1 => do
      let members ← membersToJson depth members
      match ending with
      | some stop => .error stop.read
      | none => .ok (Json.ofMembers members)

/-- The values of some items. -/
def itemsToJson (depth : Nat) : List Source → Except JsonFault (List Json)
  | [] => .ok []
  | item :: rest => do
    let item ← item.toJson depth
    let rest ← itemsToJson depth rest
    return item :: rest

/-- The values of some members. -/
def membersToJson (depth : Nat) :
    List (Except JsonFault String × Source) → Except JsonFault (List (String × Json))
  | [] => .ok []
  | (key, value) :: rest => do
    let key ← key
    let value ← value.toJson depth
    let rest ← membersToJson depth rest
    return (key, value) :: rest
end

mutual
/-- A value as the content of a text. -/
def Json.toSource : Json → Source
  | .null => .null
  | .bool b => .bool b
  | .number n => .number n
  | .string s => .string s
  | .array items => .array (itemsToSource items) none
  | .object members => .object (membersToSource members) none

/-- Items as the content of a text. -/
def itemsToSource : List Json → List Source
  | [] => []
  | item :: rest => item.toSource :: itemsToSource rest

/-- Members as the content of a text. -/
def membersToSource : List (String × Json) → List (Except JsonFault String × Source)
  | [] => []
  | (key, value) :: rest => (.ok key, value.toSource) :: membersToSource rest
end

/-- The one value of a text, which may be `depth` deep. -/
def Json.parseWithin (depth : Nat) (text : String) : Except JsonFault Json := do
  let (source, rest) := Source.read text
  let value ← source.toJson depth
  if rest.isEmpty then return value else .error .trailingCharacters

/-- The one value of a text. -/
def Json.parse (text : String) : Except JsonFault Json := Json.parseWithin maxDepth text

end QueryGrading
