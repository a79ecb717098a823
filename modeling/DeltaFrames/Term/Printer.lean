import DeltaFrames.SExpr
import DeltaFrames.Term.Basic

/-!
# Terms as SMT-LIB text

SMT-LIB has no negative literals, so `-3` is written as the application `(- 3)`. A conjunction or
disjunction of no operands is its neutral literal, and one of a single operand is that operand.
Variable names are written as they are.
-/

namespace DeltaFrames

def TermSort.print : TermSort → String
  | .bool => "Bool"
  | .int => "Int"

def Arithmetic.symbol : Arithmetic → String
  | .add => "+"
  | .sub => "-"
  | .mul => "*"

def Comparison.symbol : Comparison → String
  | .lt => "<"
  | .le => "<="
  | .gt => ">"
  | .ge => ">="

def BinaryOp.symbol : BinaryOp → String
  | .arithmetic op => op.symbol
  | .comparison op => op.symbol
  | .eq => "="
  | .implies => "=>"

def Connective.symbol : Connective → String
  | .and => "and"
  | .or => "or"

def Connective.neutral : Connective → Bool
  | .and => true
  | .or => false

namespace Term

def boolLiteral (value : Bool) : SExpr :=
  .atom (if value then "true" else "false")

def intLiteral (value : Int64) : SExpr :=
  let magnitude := SExpr.atom (Nat.repr value.toInt.natAbs)
  if value < 0 then .list [.atom "-", magnitude] else magnitude

def applyConnective (connective : Connective) : List SExpr → SExpr
  | [] => boolLiteral connective.neutral
  | [operand] => operand
  | operands => .list (.atom connective.symbol :: operands)

mutual

def toSExpr : Term → SExpr
  | .var name => .atom name
  | .int value => intLiteral value
  | .bool value => boolLiteral value
  | .binary op left right => .list [.atom op.symbol, left.toSExpr, right.toSExpr]
  | .nary connective operands => applyConnective connective (toSExprs operands)
  | .not operand => .list [.atom "not", operand.toSExpr]
  | .ite condition consequent alternative =>
      .list [.atom "ite", condition.toSExpr, consequent.toSExpr, alternative.toSExpr]

def toSExprs : List Term → List SExpr
  | [] => []
  | term :: rest => term.toSExpr :: toSExprs rest

end

theorem toSExprs_eq_map (terms : List Term) : toSExprs terms = terms.map toSExpr := by
  induction terms with
  | nil => rfl
  | cons term rest ih => simp [toSExprs, ih]

def print (term : Term) : String := term.toSExpr.print

instance : ToString Term := ⟨print⟩

end Term

def satisfiabilityScript (declarations : Declarations) (assertions : List Term) : String :=
  let declared := declarations.map fun (name, sort) =>
    "(declare-fun " ++ name ++ " () " ++ sort.print ++ ")\n"
  let asserted := assertions.map fun term => "(assert " ++ term.print ++ ")\n"
  String.join declared ++ String.join asserted ++ "(check-sat)\n"

end DeltaFrames
