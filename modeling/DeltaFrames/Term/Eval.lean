import DeltaFrames.Term.Printer

/-!
# Values of terms

The value of a term under an assignment of its variables. Arithmetic is exact inside the range of
a signed 64-bit word and stays at the nearer end of it outside (`Arithmetic.apply`). Evaluation
goes from left to right and stops at the first error; an implication whose premise is false does
not look at its conclusion, and a conditional looks at the chosen branch only. Values of different
sorts are unequal.
-/

namespace DeltaFrames

inductive Value where
  | int (value : Int64)
  | bool (value : Bool)
  deriving DecidableEq, Repr, Inhabited

inductive EvalError where
  | unbound (name : String)
  /-- The term has a value of the other sort than the place where it stands asks for. -/
  | illSorted (term : Term)
  deriving DecidableEq

def EvalError.message : EvalError → String
  | .unbound name => "unknown variable '" ++ name ++ "'"
  | .illSorted term => "ill-sorted term: " ++ term.print

abbrev Assignment := String → Option Value

namespace Assignment

def empty : Assignment := fun _ => none

def bind (assignment : Assignment) (name : String) (value : Value) : Assignment :=
  fun other => if other = name then some value else assignment other

end Assignment

namespace Arithmetic

def exact : Arithmetic → Int → Int → Int
  | .add, a, b => a + b
  | .sub, a, b => a - b
  | .mul, a, b => a * b

def apply (op : Arithmetic) (a b : Int64) : Int64 :=
  Int64.ofIntClamp (op.exact a.toInt b.toInt)

end Arithmetic

def Comparison.apply : Comparison → Int64 → Int64 → Bool
  | .lt, a, b => a < b
  | .le, a, b => a ≤ b
  | .gt, a, b => b < a
  | .ge, a, b => b ≤ a

def Connective.apply : Connective → List Bool → Bool
  | .and, operands => operands.all id
  | .or, operands => operands.any id

def Value.expectInt (term : Term) : Value → Except EvalError Int64
  | .int value => .ok value
  | .bool _ => .error (.illSorted term)

def Value.expectBool (term : Term) : Value → Except EvalError Bool
  | .bool value => .ok value
  | .int _ => .error (.illSorted term)

namespace Term

mutual

def eval (assignment : Assignment) : Term → Except EvalError Value
  | .var name =>
      match assignment name with
      | some value => .ok value
      | none => .error (.unbound name)
  | .int value => .ok (.int value)
  | .bool value => .ok (.bool value)
  | .binary (.arithmetic op) left right => do
      let a ← (← left.eval assignment).expectInt left
      let b ← (← right.eval assignment).expectInt right
      return .int (op.apply a b)
  | .binary (.comparison op) left right => do
      let a ← (← left.eval assignment).expectInt left
      let b ← (← right.eval assignment).expectInt right
      return .bool (op.apply a b)
  | .binary .eq left right => do
      let a ← left.eval assignment
      let b ← right.eval assignment
      return .bool (a = b)
  | .binary .implies premise conclusion => do
      let a ← (← premise.eval assignment).expectBool premise
      if a then
        let b ← (← conclusion.eval assignment).expectBool conclusion
        return .bool b
      else
        return .bool true
  | .nary connective operands => do
      let values ← evalEach assignment operands
      return .bool (connective.apply values)
  | .not operand => do
      let a ← (← operand.eval assignment).expectBool operand
      return .bool !a
  | .ite condition consequent alternative => do
      let a ← (← condition.eval assignment).expectBool condition
      if a then consequent.eval assignment else alternative.eval assignment

def evalEach (assignment : Assignment) : List Term → Except EvalError (List Bool)
  | [] => .ok []
  | term :: rest => do
      let value ← (← term.eval assignment).expectBool term
      let values ← evalEach assignment rest
      return value :: values

end

def evalBool (assignment : Assignment) (term : Term) : Except EvalError Bool := do
  (← term.eval assignment).expectBool term

end Term

def allTrue (assignment : Assignment) : List Term → Except EvalError Bool
  | [] => .ok true
  | term :: rest => do
      if ← term.evalBool assignment then allTrue assignment rest else return false

end DeltaFrames
