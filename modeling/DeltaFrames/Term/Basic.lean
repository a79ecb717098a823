/-!
# Terms

First-order terms over Boolean and integer variables. Terms are plain syntax: any operator may be
applied to any operand, and building a term simplifies nothing. Equality is structural
(`Term.beq_iff_eq`).
-/

namespace DeltaFrames

inductive TermSort where
  | bool
  | int
  deriving DecidableEq, Repr, Inhabited

abbrev Declarations := List (String × TermSort)

def TermSort.le : TermSort → TermSort → Bool
  | .int, .bool => false
  | _, _ => true

inductive Arithmetic where
  | add
  | sub
  | mul
  deriving DecidableEq, Repr, Inhabited

inductive Comparison where
  | lt
  | le
  | gt
  | ge
  deriving DecidableEq, Repr, Inhabited

inductive BinaryOp where
  | arithmetic (op : Arithmetic)
  | comparison (op : Comparison)
  | eq
  | implies
  deriving DecidableEq, Repr, Inhabited

inductive Connective where
  | and
  | or
  deriving DecidableEq, Repr, Inhabited

inductive Term where
  | var (name : String)
  | int (value : Int64)
  | bool (value : Bool)
  | binary (op : BinaryOp) (left right : Term)
  | nary (connective : Connective) (operands : List Term)
  | not (operand : Term)
  | ite (condition consequent alternative : Term)

namespace Term

instance : Inhabited Term := ⟨.bool true⟩

mutual

def beq : Term → Term → Bool
  | .var x, .var y => x == y
  | .int m, .int n => m == n
  | .bool a, .bool b => a == b
  | .binary f a b, .binary g c d => f == g && a.beq c && b.beq d
  | .nary f as, .nary g bs => f == g && beqAll as bs
  | .not a, .not b => a.beq b
  | .ite a b c, .ite d e f => a.beq d && b.beq e && c.beq f
  | _, _ => false

def beqAll : List Term → List Term → Bool
  | [], [] => true
  | a :: as, b :: bs => a.beq b && beqAll as bs
  | _, _ => false

end

mutual

theorem beq_iff_eq (a b : Term) : a.beq b = true ↔ a = b := by
  cases a with
  | var x => cases b <;> simp [beq]
  | int n => cases b <;> simp [beq]
  | bool v => cases b <;> simp [beq]
  | binary f l r =>
      cases b with
      | binary g l' r' => simp [beq, beq_iff_eq l l', beq_iff_eq r r', and_assoc]
      | _ => simp [beq]
  | nary f as =>
      cases b with
      | nary g bs => simp [beq, beqAll_iff_eq as bs]
      | _ => simp [beq]
  | not t =>
      cases b with
      | not u => simp [beq, beq_iff_eq t u]
      | _ => simp [beq]
  | ite c t e =>
      cases b with
      | ite c' t' e' =>
          simp [beq, beq_iff_eq c c', beq_iff_eq t t', beq_iff_eq e e', and_assoc]
      | _ => simp [beq]

theorem beqAll_iff_eq (as bs : List Term) : beqAll as bs = true ↔ as = bs := by
  cases as with
  | nil => cases bs <;> simp [beqAll]
  | cons a as =>
      cases bs with
      | nil => simp [beqAll]
      | cons b bs => simp [beqAll, beq_iff_eq a b, beqAll_iff_eq as bs]

end

instance : DecidableEq Term := fun a b => decidable_of_iff _ (beq_iff_eq a b)

/-- Logical negation that takes an outer negation off, and flips a Boolean literal, before it adds
a negation of its own. -/
def negate : Term → Term
  | .not operand => operand
  | .bool value => .bool !value
  | term => .not term

abbrev implies (premise conclusion : Term) : Term :=
  .binary .implies premise conclusion

end Term
end DeltaFrames
