import DeltaFrames.Term.Basic

/-!
# Variables of a term

`freeVars` lists the variables of a term without repetition in ascending order of their names
(`mem_freeVars`, `freeVars_sorted`), and `rename` replaces all names at once.
-/

namespace DeltaFrames.Term

mutual

def occurrences : Term → List String
  | .var name => [name]
  | .int _ => []
  | .bool _ => []
  | .binary _ left right => left.occurrences ++ right.occurrences
  | .nary _ operands => occurrencesAll operands
  | .not operand => operand.occurrences
  | .ite condition consequent alternative =>
      condition.occurrences ++ consequent.occurrences ++ alternative.occurrences

def occurrencesAll : List Term → List String
  | [] => []
  | term :: rest => term.occurrences ++ occurrencesAll rest

end

def insertName (name : String) : List String → List String
  | [] => [name]
  | head :: tail =>
      if name = head then head :: tail
      else if name < head then name :: head :: tail
      else head :: insertName name tail

def freeVars (term : Term) : List String :=
  term.occurrences.foldr insertName []

mutual

def rename (names : String → String) : Term → Term
  | .var name => .var (names name)
  | .int value => .int value
  | .bool value => .bool value
  | .binary op left right => .binary op (left.rename names) (right.rename names)
  | .nary connective operands => .nary connective (renameAll names operands)
  | .not operand => .not (operand.rename names)
  | .ite condition consequent alternative =>
      .ite (condition.rename names) (consequent.rename names) (alternative.rename names)

def renameAll (names : String → String) : List Term → List Term
  | [] => []
  | term :: rest => term.rename names :: renameAll names rest

end

theorem occurrencesAll_eq_flatMap (terms : List Term) :
    occurrencesAll terms = terms.flatMap occurrences := by
  induction terms with
  | nil => rfl
  | cons term rest ih => simp [occurrencesAll, ih]

theorem renameAll_eq_map (names : String → String) (terms : List Term) :
    renameAll names terms = terms.map (rename names) := by
  induction terms with
  | nil => rfl
  | cons term rest ih => simp [renameAll, ih]

@[simp] theorem mem_insertName {name other : String} {names : List String} :
    other ∈ insertName name names ↔ other = name ∨ other ∈ names := by
  induction names with
  | nil => simp [insertName]
  | cons head tail ih =>
      unfold insertName
      split
      · next same => subst same; simp
      · split
        · simp
        · simp only [List.mem_cons, ih]
          exact or_left_comm

theorem mem_freeVars {term : Term} {name : String} :
    name ∈ term.freeVars ↔ name ∈ term.occurrences := by
  unfold freeVars
  induction term.occurrences with
  | nil => simp
  | cons head tail ih => simp [ih]

theorem insertName_sorted (name : String) {names : List String}
    (sorted : names.Pairwise (· < ·)) : (insertName name names).Pairwise (· < ·) := by
  induction names with
  | nil => simp [insertName]
  | cons head tail ih =>
      have ⟨least, rest⟩ := List.pairwise_cons.1 sorted
      unfold insertName
      split
      · exact sorted
      · next different =>
          split
          · next smaller =>
              refine List.pairwise_cons.2 ⟨fun other member => ?_, sorted⟩
              rcases List.mem_cons.1 member with rfl | member
              · exact smaller
              · exact String.lt_trans smaller (least other member)
          · next notSmaller =>
              refine List.pairwise_cons.2 ⟨fun other member => ?_, ih rest⟩
              rcases mem_insertName.1 member with rfl | member
              · exact Std.lt_of_le_of_ne (Std.not_lt.1 notSmaller) (Ne.symm different)
              · exact least other member

theorem freeVars_sorted (term : Term) : term.freeVars.Pairwise (· < ·) := by
  unfold freeVars
  induction term.occurrences with
  | nil => exact .nil
  | cons head tail ih => exact insertName_sorted head ih

end DeltaFrames.Term
