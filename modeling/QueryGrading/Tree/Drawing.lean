import QueryGrading.Tree.Basic

/-!
# Drawings of parse trees

`Tree.draw` writes one node a line, with connectors that show which node it belongs to. It is
`render`, by `render_into`; the root counts as a last child.
-/

namespace QueryGrading

namespace Tree

mutual
/-- The lines of a tree; `margin` stands in front of each, and `isLast` says that no sibling
follows. -/
def drawLines (margin : String) (isLast : Bool) : Tree → List String
  | node key value children =>
    (margin ++ (if isLast then "└──" else "├──") ++ key ++ ": " ++ value ++ "\n")
      :: drawAll (margin ++ (if isLast then "    " else "│   ")) children

/-- The lines of some siblings. -/
def drawAll (margin : String) : List Tree → List String
  | [] => []
  | t :: rest => drawLines margin rest.isEmpty t ++ drawAll margin rest
end

/-- The drawing of a tree. -/
def draw (t : Tree) : String := Text.concat (drawLines "" true t)

end Tree

end QueryGrading
