/-!
# Faults of JSON texts

Why a text is no JSON value. Where the reading of a text has to stop, what is reported depends on
whether the value at that place is read or skipped: a `JsonBreak` holds both. The messages are those
that `from_str` and `from_slice` give, without the line and the column behind them, which
`Reader.ofText` does not tell either.
-/

namespace QueryGrading

/-- Why a text is no JSON value. -/
inductive JsonFault
  | endInList | endInObject | endInString | endInValue
  | colonExpected | listEndExpected | objectEndExpected | wordExpected | valueExpected
  | badEscape | badNumber | numberTooLarge | controlCharacter | keyNotString
  | loneSurrogate | unpairedSurrogate | trailingComma | trailingCharacters | tooDeep
  deriving DecidableEq, Repr

/-- The wording of a fault. -/
def JsonFault.message : JsonFault → String
  | .endInList => "EOF while parsing a list"
  | .endInObject => "EOF while parsing an object"
  | .endInString => "EOF while parsing a string"
  | .endInValue => "EOF while parsing a value"
  | .colonExpected => "expected `:`"
  | .listEndExpected => "expected `,` or `]`"
  | .objectEndExpected => "expected `,` or `\x7d`"
  | .wordExpected => "expected ident"
  | .valueExpected => "expected value"
  | .badEscape => "invalid escape"
  | .badNumber => "invalid number"
  | .numberTooLarge => "number out of range"
  | .controlCharacter =>
    "control character (\\u0000-\\u001F) found while parsing a string"
  | .keyNotString => "key must be a string"
  | .loneSurrogate => "lone leading surrogate in hex escape"
  | .unpairedSurrogate => "unexpected end of hex escape"
  | .trailingComma => "trailing comma"
  | .trailingCharacters => "trailing characters"
  | .tooDeep => "recursion limit exceeded"

/-- A place where the reading of a text has to stop: the fault for a reader of the value, and the
one for a reader that skips it. -/
structure JsonBreak where
  read : JsonFault
  skipped : JsonFault
  deriving DecidableEq, Repr

/-- A stop with one fault for all readers. -/
def JsonBreak.of (fault : JsonFault) : JsonBreak := ⟨fault, fault⟩

end QueryGrading
