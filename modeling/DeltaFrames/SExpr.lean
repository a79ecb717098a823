/-!
# S-expressions

The concrete syntax of SMT-LIB: an atom is its own text, and a list is its items in parentheses,
separated by single spaces.
-/

namespace DeltaFrames

inductive SExpr where
  | atom (text : String)
  | list (items : List SExpr)

namespace SExpr

instance : Inhabited SExpr := ⟨.list []⟩

mutual

def print : SExpr → String
  | .atom text => text
  | .list items => "(" ++ " ".intercalate (printEach items) ++ ")"

def printEach : List SExpr → List String
  | [] => []
  | item :: rest => item.print :: printEach rest

end

theorem printEach_eq_map (items : List SExpr) : printEach items = items.map print := by
  induction items with
  | nil => rfl
  | cons item rest ih => simp [printEach, ih]

end SExpr
end DeltaFrames
