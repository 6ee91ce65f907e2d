import QueryGrading.Json.Fault

/-!
# Strings in JSON

A character beyond `U+FFFF` is written as two escapes by number, one for each half. A half that
stands alone leaves a string without content, but the string still ends at its closing quote, so
that who skips it reads on. `readString` reads a string with its content or with the fault that
spoils it.

Both ways of going through a string are followed here, the one that reads its content and the one
that only looks for its end; they report different faults at the same place, for instance where four
hexadecimal digits are wanted and the text breaks off.
-/

namespace QueryGrading

/-! ## 1. Characters so far -/

/-- A string while it is read: its characters in reverse or the fault of its content, and a first
half that waits for its second. -/
structure StringContent where
  seen : Except JsonFault (List Char)
  half : Option Nat

namespace StringContent

/-- No characters. -/
def empty : StringContent := ⟨.ok [], none⟩

/-- A fault of the content; only the first one counts. -/
def spoil (content : StringContent) (fault : JsonFault) : StringContent :=
  match content.seen with
  | .ok _ => ⟨.error fault, none⟩
  | .error first => ⟨.error first, none⟩

/-- The content when no second half follows. -/
def settle (content : StringContent) : StringContent :=
  match content.half with
  | none => content
  | some _ => content.spoil .unpairedSurrogate

/-- The content with one more character. -/
def push (content : StringContent) (c : Char) : StringContent :=
  ⟨(c :: ·) <$> content.settle.seen, none⟩

/-- The number is that of a first half. -/
def isFirstHalf (n : Nat) : Bool := 0xD800 ≤ n && n ≤ 0xDBFF

/-- The number is that of a second half. -/
def isSecondHalf (n : Nat) : Bool := 0xDC00 ≤ n && n ≤ 0xDFFF

/-- The character of two halves. -/
def pairChar (first second : Nat) : Char :=
  Char.ofNat ((first - 0xD800) * 1024 + (second - 0xDC00) + 0x10000)

/-- The content with the character, or the half, of an escape by number. -/
def pushNumbered (content : StringContent) (n : Nat) : StringContent :=
  match content.half with
  | some first =>
    if isSecondHalf n then ⟨(pairChar first n :: ·) <$> content.seen, none⟩
    else content.spoil .loneSurrogate
  | none =>
    if isSecondHalf n then content.spoil .loneSurrogate
    else if isFirstHalf n then { content with half := some n }
    else content.push (Char.ofNat n)

/-- The whole string. -/
def text (content : StringContent) : Except JsonFault String :=
  (fun seen => String.ofList seen.reverse) <$> content.settle.seen

/-- The stop at a fault: a reader of the string meets a fault of its content first. -/
def stop (content : StringContent) (fault : JsonFault) : JsonBreak :=
  match content.seen with
  | .ok _ => .of fault
  | .error first => ⟨first, fault⟩

end StringContent

/-! ## 2. Escapes -/

/-- The value of a hexadecimal digit. -/
def hexValue? (c : Char) : Option Nat :=
  if c.isDigit then some (c.toNat - '0'.toNat)
  else if 'a' ≤ c ∧ c ≤ 'f' then some (c.toNat - 'a'.toNat + 10)
  else if 'A' ≤ c ∧ c ≤ 'F' then some (c.toNat - 'A'.toNat + 10)
  else none

/-- Four hexadecimal digits, and the text after them. The text is too short for them if fewer than
four bytes are left of it. -/
def readHex (cs : List Char) : Except JsonFault (Nat × List Char) :=
  match cs with
  | a :: b :: c :: d :: rest =>
    match hexValue? a, hexValue? b, hexValue? c, hexValue? d with
    | some a, some b, some c, some d => .ok (((a * 16 + b) * 16 + c) * 16 + d, rest)
    | _, _, _, _ => .error .badEscape
  | _ => .error (if (String.ofList cs).utf8ByteSize < 4 then .endInString else .badEscape)

/-- The character that a letter after a backslash stands for. -/
def escaped? (letter : Char) : Option Char :=
  [('"', '"'), ('\\', '\\'), ('/', '/'), ('b', '\x08'), ('f', '\x0c'), ('n', '\n'), ('r', '\r'),
    ('t', '\t')].lookup letter

/-! ## 3. Strings -/

/-- The rest of a string, of which `content` is read, and the text after its closing quote; the
length of the text bounds the number of steps. -/
def readRest (content : StringContent) :
    Nat → List Char → Except JsonBreak (Except JsonFault String × List Char)
  | 0, _ => .error (content.stop .endInString)
  | _ + 1, [] => .error (content.stop .endInString)
  | _ + 1, '"' :: rest => .ok (content.text, rest)
  | _ + 1, ['\\'] => .error (content.stop .endInString)
  | fuel + 1, '\\' :: 'u' :: rest =>
    match readHex rest with
    | .ok (n, rest) => readRest (content.pushNumbered n) fuel rest
    | .error fault => .error (content.stop fault)
  | fuel + 1, '\\' :: letter :: rest =>
    match escaped? letter with
    | some c => readRest (content.push c) fuel rest
    | none => .error (content.settle.stop .badEscape)
  | fuel + 1, c :: rest =>
    if c.toNat < 32 then .error (content.settle.stop .controlCharacter)
    else readRest (content.push c) fuel rest

/-- A string after its opening quote, and the text after its closing quote. -/
def readString (cs : List Char) : Except JsonBreak (Except JsonFault String × List Char) :=
  readRest .empty (cs.length + 1) cs

end QueryGrading
