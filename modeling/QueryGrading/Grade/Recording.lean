import QueryGrading.Grade.Engine
import QueryGrading.Text.Ascii
import QueryGrading.Text.Blank

/-!
# Recordings

A recording holds what was answered for each of some statements. A text is looked up as it stands
among the exact entries first, and then up to blanks, case and final semicolons among the others;
the earliest entry wins. `Engine.ofRecording` answers from a recording.

This is no part of a grading run: it is the engine that stands in for a parser and a database where
there are none, so that a run can be followed by itself.
-/

namespace QueryGrading

/-! ## 1. Looking up -/

/-- What was recorded for a text; an exact entry stands for this text only. -/
structure Recorded (α : Type) where
  text : String
  exact : Bool
  answer : α

namespace Recorded

/-- The blanks of ASCII. -/
def isGap (c : Char) : Bool := c = ' ' || c = '\t' || c = '\n' || c = '\x0c' || c = '\r'

/-- One space for each run of blanks, none in front and none at the end. -/
def squeeze : List Char → List Char
  | [] => []
  | c :: rest =>
    let rest := squeeze rest
    if !isGap c then c :: rest
    else match rest with
      | [] => []
      | d :: _ => if d = ' ' then rest else ' ' :: rest

/-- A text without final semicolons. -/
def withoutEnd (cs : List Char) : List Char := (cs.reverse.dropWhile (· = ';')).reverse

/-- A text up to blanks, case and final semicolons. -/
def loose (s : String) : String :=
  Text.asciiLower (String.ofList ((squeeze (withoutEnd (Text.trim s).toList)).dropWhile (· = ' ')))

/-- What was recorded for a text. -/
def find? {α : Type} (entries : List (Recorded α)) (text : String) : Option α :=
  match entries.find? fun e => e.exact && e.text == text with
  | some e => some e.answer
  | none => (entries.find? fun e => !e.exact && loose e.text == loose text).map (·.answer)

end Recorded

/-! ## 2. A recorded engine -/

/-- What the parser and the database answered for a statement. -/
structure RecordedAnswer where
  parse : Except Fault (Except String Parsed)
  query : Except Fault (List Row)
  change : Except Fault Effect

namespace RecordedAnswer

/-- The answer for a statement that was not recorded: it does not parse and does nothing. -/
def unknown : RecordedAnswer := ⟨.ok (.error "unknown statement"), .ok [], .ok ⟨[], none⟩⟩

end RecordedAnswer

/-- An effect with the change that its error stands for. -/
def Effect.ofError (changes : List Change) (error : Option String) : Effect :=
  ⟨changes ++ (error.bind Change.ofError?).toList, error⟩

/-- The engine that answers from a recording. -/
def Engine.ofRecording (entries : List (Recorded RecordedAnswer)) : Engine :=
  let answer := fun text => (Recorded.find? entries text).getD .unknown
  { parse := fun text => (answer text).parse
    query := fun text => (answer text).query
    change := fun text => (answer text).change }

end QueryGrading
