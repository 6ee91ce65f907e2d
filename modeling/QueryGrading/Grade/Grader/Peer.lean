import QueryGrading.Grade.Submission

/-!
# Peers

What a stage may see of the other submissions: a `Peer` is taken from each of them before the stage
starts, so no stage reads what it writes. It is `PeerView`, with its six fields, and `from` as
`toPeer`.
-/

namespace QueryGrading

/-- What others see of a submission. -/
structure Peer where
  id : String
  text : String
  tree : Option Tree
  parseable : Bool
  right : Bool
  hasOutput : Bool
  deriving Repr

/-- What others see of a submission. -/
def Submission.toPeer (s : Submission) : Peer where
  id := s.id
  text := s.text
  tree := s.tree
  parseable := s.parseable
  right := s.isRight
  hasOutput := !s.output.isEmpty

end QueryGrading
