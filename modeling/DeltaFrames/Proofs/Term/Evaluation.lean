import DeltaFrames.Term.Eval
import DeltaFrames.Term.Names

/-!
# Evaluation and the variables of a term

The value of a term, and the error if there is none, depends on the variables that occur in it and
on no others (`evalBool_congr`). If all of these are bound then no variable is missed
(`evalBool_bound`), though the term may still be ill-sorted. The negation of a term has the opposite
value, and the error of the term if it has none (`evalBool_negate`).
-/

namespace DeltaFrames

/-- No variable was missed. -/
def Bound {α : Type} (result : Except EvalError α) : Prop :=
  ∀ name, result ≠ .error (.unbound name)

namespace Bound

variable {α β : Type}

theorem ok (value : α) : Bound (.ok value) := nofun

theorem bind {result : Except EvalError α} {next : α → Except EvalError β}
    (bound : Bound result) (others : ∀ value, Bound (next value)) : Bound (result >>= next) := by
  cases result with
  | error error =>
      intro name same
      cases same
      exact bound name rfl
  | ok value => exact others value

theorem expectInt (term : Term) (value : Value) : Bound (value.expectInt term) := by
  cases value with
  | int number => exact ok number
  | bool truth => exact fun name same => by cases same

theorem expectBool (term : Term) (value : Value) : Bound (value.expectBool term) := by
  cases value with
  | int number => exact fun name same => by cases same
  | bool truth => exact ok truth

end Bound

namespace Term

variable {assignment other : Assignment}

mutual

theorem eval_bound (term : Term)
    (bound : ∀ name ∈ term.occurrences, ∃ value, assignment name = some value) :
    Bound (term.eval assignment) := by
  cases term with
  | var name =>
      obtain ⟨value, given⟩ := bound name List.mem_cons_self
      simp only [eval, given]
      exact .ok value
  | int number => exact .ok _
  | bool truth => exact .ok _
  | binary op left right =>
      obtain ⟨leftBound, rightBound⟩ := List.forall_mem_append.1 bound
      have leftEval := eval_bound left leftBound
      have rightEval := eval_bound right rightBound
      cases op with
      | arithmetic op =>
          exact leftEval.bind fun a => (Bound.expectInt left a).bind fun _ =>
            rightEval.bind fun b => (Bound.expectInt right b).bind fun _ => .ok _
      | comparison op =>
          exact leftEval.bind fun a => (Bound.expectInt left a).bind fun _ =>
            rightEval.bind fun b => (Bound.expectInt right b).bind fun _ => .ok _
      | eq => exact leftEval.bind fun _ => rightEval.bind fun _ => .ok _
      | implies =>
          refine leftEval.bind fun a => (Bound.expectBool left a).bind fun premise => ?_
          cases premise with
          | true => exact rightEval.bind fun b => (Bound.expectBool right b).bind fun _ => .ok _
          | false => exact .ok _
  | nary connective operands => exact (evalEach_bound operands bound).bind fun _ => .ok _
  | not operand =>
      exact (eval_bound operand bound).bind fun a => (Bound.expectBool operand a).bind fun _ => .ok _
  | ite condition consequent alternative =>
      obtain ⟨tested, alternativeBound⟩ := List.forall_mem_append.1 bound
      obtain ⟨conditionBound, consequentBound⟩ := List.forall_mem_append.1 tested
      refine (eval_bound condition conditionBound).bind fun a =>
        (Bound.expectBool condition a).bind fun chosen => ?_
      cases chosen with
      | true => exact eval_bound consequent consequentBound
      | false => exact eval_bound alternative alternativeBound

theorem evalEach_bound (terms : List Term)
    (bound : ∀ name ∈ occurrencesAll terms, ∃ value, assignment name = some value) :
    Bound (evalEach assignment terms) := by
  cases terms with
  | nil => exact .ok _
  | cons term rest =>
      obtain ⟨termBound, restBound⟩ := List.forall_mem_append.1 bound
      exact (eval_bound term termBound).bind fun a => (Bound.expectBool term a).bind fun _ =>
        (evalEach_bound rest restBound).bind fun _ => .ok _

end

mutual

theorem eval_congr (term : Term)
    (same : ∀ name ∈ term.occurrences, other name = assignment name) :
    term.eval other = term.eval assignment := by
  cases term with
  | var name => simp only [eval, same name List.mem_cons_self]
  | int number => rfl
  | bool truth => rfl
  | binary op left right =>
      obtain ⟨leftSame, rightSame⟩ := List.forall_mem_append.1 same
      cases op <;> simp only [eval, eval_congr left leftSame, eval_congr right rightSame]
  | nary connective operands => simp only [eval, evalEach_congr operands same]
  | not operand => simp only [eval, eval_congr operand same]
  | ite condition consequent alternative =>
      obtain ⟨tested, alternativeSame⟩ := List.forall_mem_append.1 same
      obtain ⟨conditionSame, consequentSame⟩ := List.forall_mem_append.1 tested
      simp only [eval, eval_congr condition conditionSame, eval_congr consequent consequentSame,
        eval_congr alternative alternativeSame]

theorem evalEach_congr (terms : List Term)
    (same : ∀ name ∈ occurrencesAll terms, other name = assignment name) :
    evalEach other terms = evalEach assignment terms := by
  cases terms with
  | nil => rfl
  | cons term rest =>
      obtain ⟨termSame, restSame⟩ := List.forall_mem_append.1 same
      simp only [evalEach, eval_congr term termSame, evalEach_congr rest restSame]

end

theorem evalBool_bound {term : Term}
    (bound : ∀ name ∈ term.freeVars, ∃ value, assignment name = some value) :
    Bound (term.evalBool assignment) :=
  (eval_bound term fun name occurs => bound name (mem_freeVars.2 occurs)).bind
    fun value => .expectBool term value

theorem evalBool_congr {term : Term}
    (same : ∀ name ∈ term.freeVars, other name = assignment name) :
    term.evalBool other = term.evalBool assignment := by
  simp only [evalBool, eval_congr term fun name occurs => same name (mem_freeVars.2 occurs)]

theorem evalBool_not (term : Term) :
    (Term.not term).evalBool assignment = (term.evalBool assignment).map (!·) := by
  simp only [evalBool, eval]
  rcases term.eval assignment with _ | (_ | _) <;> rfl

/-- The error is kept even where a negation is taken off, since that one asked for a Boolean as
well. -/
theorem evalBool_negate (term : Term) :
    term.negate.evalBool assignment = (term.evalBool assignment).map (!·) := by
  cases term with
  | bool value => rfl
  | not operand =>
      rw [evalBool_not]
      show operand.evalBool assignment = _
      cases operand.evalBool assignment <;> simp [Except.map]
  | var name => exact evalBool_not _
  | int value => exact evalBool_not _
  | binary op left right => exact evalBool_not _
  | nary connective operands => exact evalBool_not _
  | ite condition consequent alternative => exact evalBool_not _

theorem evalBool_eq_false_of_negate {term : Term}
    (holds : term.negate.evalBool assignment = .ok true) : term.evalBool assignment = .ok false := by
  rw [evalBool_negate] at holds
  cases value : term.evalBool assignment with
  | error error =>
      rw [value] at holds
      cases holds
  | ok truth =>
      rw [value] at holds
      cases truth with
      | true => cases holds
      | false => rfl

end Term
end DeltaFrames
