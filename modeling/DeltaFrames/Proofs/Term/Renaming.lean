import DeltaFrames.Proofs.Term.Evaluation
import DeltaFrames.System.Basic

/-!
# Renaming terms

All names are replaced at once, so two renamings in a row are one (`rename_rename`), for finite maps
as well (`Renaming.apply_andThen`).
-/

namespace DeltaFrames

namespace Renaming

theorem lookup_map_snd (pairs : Renaming) (change : String → String) (name : String) :
    (pairs.map fun (old, new) => (old, change new)).lookup name =
      (pairs.lookup name).map change := by
  induction pairs with
  | nil => rfl
  | cons pair rest ih =>
      obtain ⟨old, new⟩ := pair
      simp only [List.map_cons, List.lookup_cons, ih]
      cases name == old <;> rfl

def andThen (first second : Renaming) : Renaming :=
  second ++ first.map fun (old, new) => (old, second.apply new)

theorem apply_andThen (first second : Renaming) (name : String) :
    (first.andThen second).apply name = second.apply (first.apply name) := by
  have mapped : (first.map fun (old, new) => (old, second.apply new)).reverse.lookup name =
      (first.reverse.lookup name).map second.apply := by
    rw [← List.map_reverse]
    exact lookup_map_snd first.reverse second.apply name
  show ((second ++ first.map _).reverse.lookup name).getD name = _
  rw [List.reverse_append, List.lookup_append, mapped]
  unfold apply
  cases first.reverse.lookup name <;> rfl

end Renaming

namespace Term

mutual

theorem occurrences_rename (names : String → String) (term : Term) :
    (term.rename names).occurrences = term.occurrences.map names := by
  cases term with
  | var name => rfl
  | int value => rfl
  | bool value => rfl
  | binary op left right =>
      simp only [rename, occurrences, List.map_append, occurrences_rename names left,
        occurrences_rename names right]
  | nary connective operands =>
      simp only [rename, occurrences, occurrencesAll_rename names operands]
  | not operand => simp only [rename, occurrences, occurrences_rename names operand]
  | ite condition consequent alternative =>
      simp only [rename, occurrences, List.map_append, occurrences_rename names condition,
        occurrences_rename names consequent, occurrences_rename names alternative]

theorem occurrencesAll_rename (names : String → String) (terms : List Term) :
    occurrencesAll (renameAll names terms) = (occurrencesAll terms).map names := by
  cases terms with
  | nil => rfl
  | cons term rest =>
      simp only [renameAll, occurrencesAll, List.map_append, occurrences_rename names term,
        occurrencesAll_rename names rest]

end

theorem mem_freeVars_rename {names : String → String} {term : Term} {name : String} :
    name ∈ (term.rename names).freeVars ↔ ∃ old ∈ term.freeVars, names old = name := by
  simp only [mem_freeVars, occurrences_rename, List.mem_map]

mutual

theorem rename_rename (first second : String → String) (term : Term) :
    (term.rename first).rename second = term.rename fun name => second (first name) := by
  cases term with
  | var name => rfl
  | int value => rfl
  | bool value => rfl
  | binary op left right =>
      simp only [rename, rename_rename first second left, rename_rename first second right]
  | nary connective operands => simp only [rename, renameAll_renameAll first second operands]
  | not operand => simp only [rename, rename_rename first second operand]
  | ite condition consequent alternative =>
      simp only [rename, rename_rename first second condition,
        rename_rename first second consequent, rename_rename first second alternative]

theorem renameAll_renameAll (first second : String → String) (terms : List Term) :
    renameAll second (renameAll first terms) =
      renameAll (fun name => second (first name)) terms := by
  cases terms with
  | nil => rfl
  | cons term rest =>
      simp only [renameAll, rename_rename first second term, renameAll_renameAll first second rest]

end

end Term

def EvalError.rename (names : String → String) : EvalError → EvalError
  | .unbound name => .unbound (names name)
  | .illSorted term => .illSorted (term.rename names)

theorem mapError_eq_ok_iff {α : Type} {change : EvalError → EvalError}
    {result : Except EvalError α} {value : α} :
    result.mapError change = .ok value ↔ result = .ok value := by
  cases result with
  | ok other => exact Iff.rfl
  | error error => constructor <;> (intro same; cases same)

namespace Term

variable {assignment : Assignment} {names : String → String}

mutual

theorem eval_rename (term : Term) :
    (term.rename names).eval assignment =
      (term.eval fun name => assignment (names name)).mapError (.rename names) := by
  cases term with
  | var name =>
      simp only [rename, eval]
      cases assignment (names name) <;> rfl
  | int value => rfl
  | bool value => rfl
  | binary op left right =>
      have leftValue := eval_rename left
      have rightValue := eval_rename right
      cases op <;> simp only [rename, eval, leftValue, rightValue] <;>
        rcases left.eval _ with _ | (_ | (_ | _)) <;> rcases right.eval _ with _ | (_ | _) <;> rfl
  | nary connective operands =>
      simp only [rename, eval, evalEach_rename operands]
      cases evalEach _ operands <;> rfl
  | not operand =>
      simp only [rename, eval, eval_rename operand]
      rcases operand.eval _ with _ | (_ | _) <;> rfl
  | ite condition consequent alternative =>
      simp only [rename, eval, eval_rename condition, eval_rename consequent,
        eval_rename alternative]
      rcases condition.eval _ with _ | (_ | (_ | _)) <;> rfl

theorem evalEach_rename (terms : List Term) :
    evalEach assignment (renameAll names terms) =
      (evalEach (fun name => assignment (names name)) terms).mapError (.rename names) := by
  cases terms with
  | nil => rfl
  | cons term rest =>
      simp only [renameAll, evalEach, eval_rename term, evalEach_rename rest]
      rcases term.eval _ with _ | (_ | _)
      · rfl
      · rfl
      · cases evalEach _ rest <;> rfl

end

theorem evalBool_rename (term : Term) :
    (term.rename names).evalBool assignment =
      (term.evalBool fun name => assignment (names name)).mapError (.rename names) := by
  simp only [evalBool, eval_rename term]
  rcases term.eval _ with _ | (_ | _) <;> rfl

end Term
end DeltaFrames
