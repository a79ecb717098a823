import DeltaFrames.Term.Eval
import DeltaFrames.Term.Names

/-!
# Meaning of terms

What a term means depends on what integers are. An interpretation fixes the numbers, the operators
on them and the numbers over which variables range: the words that `Term.eval` computes with are one
(`Interpretation.words`), unbounded integers would be another. A term means something under a
valuation exactly if evaluation succeeds (`meaning_words`); renaming a term renames what the
valuation is asked for (`meaning_rename`), and a larger valuation changes no meaning
(`meaning_mono`).
-/

namespace DeltaFrames

structure Interpretation where
  Number : Type
  [decidableEq : DecidableEq Number]
  literal : Int64 → Number
  arithmetic : Arithmetic → Number → Number → Number
  comparison : Comparison → Number → Number → Bool
  InRange : Number → Prop
  inhabited : ∃ number, InRange number

attribute [instance] Interpretation.decidableEq

inductive Referent (I : Interpretation) where
  | number (value : I.Number)
  | truth (value : Bool)
  deriving DecidableEq

namespace Referent

variable {I : Interpretation}

def number? : Referent I → Option I.Number
  | .number value => some value
  | .truth _ => none

def truth? : Referent I → Option Bool
  | .truth value => some value
  | .number _ => none

end Referent

abbrev Valuation (I : Interpretation) := String → Option (Referent I)

namespace Term

mutual

def meaning {I : Interpretation} (valuation : Valuation I) : Term → Option (Referent I)
  | .var name => valuation name
  | .int value => some (.number (I.literal value))
  | .bool value => some (.truth value)
  | .binary (.arithmetic op) left right => do
      let a ← (← left.meaning valuation).number?
      let b ← (← right.meaning valuation).number?
      return .number (I.arithmetic op a b)
  | .binary (.comparison op) left right => do
      let a ← (← left.meaning valuation).number?
      let b ← (← right.meaning valuation).number?
      return .truth (I.comparison op a b)
  | .binary .eq left right => do
      let a ← left.meaning valuation
      let b ← right.meaning valuation
      return .truth (a = b)
  | .binary .implies premise conclusion => do
      let a ← (← premise.meaning valuation).truth?
      if a then
        let b ← (← conclusion.meaning valuation).truth?
        return .truth b
      else
        return .truth true
  | .nary connective operands => do
      let values ← meaningEach valuation operands
      return .truth (connective.apply values)
  | .not operand => do
      let a ← (← operand.meaning valuation).truth?
      return .truth !a
  | .ite condition consequent alternative => do
      let a ← (← condition.meaning valuation).truth?
      if a then consequent.meaning valuation else alternative.meaning valuation

def meaningEach {I : Interpretation} (valuation : Valuation I) : List Term → Option (List Bool)
  | [] => some []
  | term :: rest => do
      let value ← (← term.meaning valuation).truth?
      let values ← meaningEach valuation rest
      return value :: values

end

def Holds {I : Interpretation} (valuation : Valuation I) (term : Term) : Prop :=
  term.meaning valuation = some (.truth true)

mutual

theorem meaning_rename {I : Interpretation} (valuation : Valuation I) (names : String → String)
    (term : Term) :
    (term.rename names).meaning valuation = term.meaning fun name => valuation (names name) := by
  cases term with
  | var name => simp only [rename, meaning]
  | int value => simp only [rename, meaning]
  | bool value => simp only [rename, meaning]
  | binary op left right =>
      have leftMeaning := meaning_rename valuation names left
      have rightMeaning := meaning_rename valuation names right
      cases op <;> simp only [rename, meaning, leftMeaning, rightMeaning]
  | nary connective operands =>
      simp only [rename, meaning, meaningEach_rename valuation names operands]
  | not operand => simp only [rename, meaning, meaning_rename valuation names operand]
  | ite condition consequent alternative =>
      simp only [rename, meaning, meaning_rename valuation names condition,
        meaning_rename valuation names consequent, meaning_rename valuation names alternative]

theorem meaningEach_rename {I : Interpretation} (valuation : Valuation I)
    (names : String → String) (terms : List Term) :
    meaningEach valuation (renameAll names terms) =
      meaningEach (fun name => valuation (names name)) terms := by
  cases terms with
  | nil => simp only [renameAll, meaningEach]
  | cons term rest =>
      simp only [renameAll, meaningEach, meaning_rename valuation names term,
        meaningEach_rename valuation names rest]

end

mutual

theorem rename_eq_self {names : String → String} (term : Term)
    (same : ∀ name ∈ term.occurrences, names name = name) : term.rename names = term := by
  cases term with
  | var name => simpa [rename, occurrences] using same
  | int value => rfl
  | bool value => rfl
  | binary op left right =>
      simp only [occurrences, List.mem_append] at same
      simp only [rename, rename_eq_self left fun name member => same name (.inl member),
        rename_eq_self right fun name member => same name (.inr member)]
  | nary connective operands =>
      simp only [rename, renameAll_eq_self operands same]
  | not operand => simp only [rename, rename_eq_self operand same]
  | ite condition consequent alternative =>
      simp only [occurrences, List.mem_append] at same
      simp only [rename,
        rename_eq_self condition fun name member => same name (.inl (.inl member)),
        rename_eq_self consequent fun name member => same name (.inl (.inr member)),
        rename_eq_self alternative fun name member => same name (.inr member)]

theorem renameAll_eq_self {names : String → String} (terms : List Term)
    (same : ∀ name ∈ occurrencesAll terms, names name = name) : renameAll names terms = terms := by
  cases terms with
  | nil => rfl
  | cons term rest =>
      simp only [occurrencesAll, List.mem_append] at same
      simp only [renameAll, rename_eq_self term fun name member => same name (.inl member),
        renameAll_eq_self rest fun name member => same name (.inr member)]

end

theorem rename_negate (names : String → String) (term : Term) :
    term.negate.rename names = (term.rename names).negate := by
  cases term <;> rfl

end Term

def Valuation.Extends {I : Interpretation} (small large : Valuation I) : Prop :=
  ∀ name value, small name = some value → large name = some value

namespace Term

mutual

theorem meaning_mono {I : Interpretation} {small large : Valuation I}
    (larger : small.Extends large) (term : Term) {value : Referent I}
    (known : term.meaning small = some value) : term.meaning large = some value := by
  cases term with
  | var name =>
      simp only [meaning] at known ⊢
      exact larger name value known
  | int number => simpa only [meaning] using known
  | bool truth => simpa only [meaning] using known
  | binary op left right =>
      cases op with
      | arithmetic op =>
          simp only [meaning, bind, Option.bind_eq_some_iff] at known ⊢
          obtain ⟨a, leftKnown, number, isNumber, b, rightKnown, result⟩ := known
          exact ⟨a, meaning_mono larger left leftKnown, number, isNumber,
            b, meaning_mono larger right rightKnown, result⟩
      | comparison op =>
          simp only [meaning, bind, Option.bind_eq_some_iff] at known ⊢
          obtain ⟨a, leftKnown, number, isNumber, b, rightKnown, result⟩ := known
          exact ⟨a, meaning_mono larger left leftKnown, number, isNumber,
            b, meaning_mono larger right rightKnown, result⟩
      | eq =>
          simp only [meaning, bind, Option.bind_eq_some_iff] at known ⊢
          obtain ⟨a, leftKnown, b, rightKnown, result⟩ := known
          exact ⟨a, meaning_mono larger left leftKnown, b, meaning_mono larger right rightKnown,
            result⟩
      | implies =>
          simp only [meaning, bind, Option.bind_eq_some_iff] at known ⊢
          obtain ⟨a, leftKnown, truth, isTruth, result⟩ := known
          refine ⟨a, meaning_mono larger left leftKnown, truth, isTruth, ?_⟩
          cases truth with
          | false => exact result
          | true =>
              simp only [if_true, Option.bind_eq_some_iff] at result ⊢
              obtain ⟨b, rightKnown, result⟩ := result
              exact ⟨b, meaning_mono larger right rightKnown, result⟩
  | nary connective operands =>
      simp only [meaning, bind, Option.bind_eq_some_iff] at known ⊢
      obtain ⟨values, operandsKnown, result⟩ := known
      exact ⟨values, meaningEach_mono larger operands operandsKnown, result⟩
  | not operand =>
      simp only [meaning, bind, Option.bind_eq_some_iff] at known ⊢
      obtain ⟨a, operandKnown, result⟩ := known
      exact ⟨a, meaning_mono larger operand operandKnown, result⟩
  | ite condition consequent alternative =>
      simp only [meaning, bind, Option.bind_eq_some_iff] at known ⊢
      obtain ⟨a, conditionKnown, truth, isTruth, result⟩ := known
      refine ⟨a, meaning_mono larger condition conditionKnown, truth, isTruth, ?_⟩
      cases truth with
      | false => exact meaning_mono larger alternative result
      | true => exact meaning_mono larger consequent result

theorem meaningEach_mono {I : Interpretation} {small large : Valuation I}
    (larger : small.Extends large) (terms : List Term) {values : List Bool}
    (known : meaningEach small terms = some values) : meaningEach large terms = some values := by
  cases terms with
  | nil => simpa only [meaningEach] using known
  | cons term rest =>
      simp only [meaningEach, bind, Option.bind_eq_some_iff] at known ⊢
      obtain ⟨a, termKnown, truth, isTruth, others, restKnown, result⟩ := known
      exact ⟨a, meaning_mono larger term termKnown, truth, isTruth, others,
        meaningEach_mono larger rest restKnown, result⟩

end

theorem Holds.mono {I : Interpretation} {small large : Valuation I} {term : Term}
    (larger : small.Extends large) (holds : term.Holds small) : term.Holds large :=
  meaning_mono larger term holds

end Term

structure WordRange where
  Contains : Int64 → Prop
  inhabited : ∃ number, Contains number

abbrev Interpretation.words (range : WordRange) : Interpretation where
  Number := Int64
  literal := id
  arithmetic := Arithmetic.apply
  comparison := Comparison.apply
  InRange := range.Contains
  inhabited := range.inhabited

def Value.referent (range : WordRange) : Value → Referent (.words range)
  | .int value => .number value
  | .bool value => .truth value

theorem Value.referent_injective (range : WordRange) {a b : Value}
    (same : a.referent range = b.referent range) : a = b := by
  cases a <;> cases b <;> simp_all [referent]

def Assignment.valuation (range : WordRange) (assignment : Assignment) :
    Valuation (.words range) :=
  fun name => (assignment name).map (·.referent range)

namespace Term

mutual

theorem meaning_words (range : WordRange) (assignment : Assignment) (term : Term) :
    term.meaning (assignment.valuation range) =
      (term.eval assignment).toOption.map (·.referent range) := by
  cases term with
  | var name =>
      simp only [meaning, eval, Assignment.valuation]
      cases assignment name <;> rfl
  | int value => rfl
  | bool value => rfl
  | binary op left right =>
      have leftMeaning := meaning_words range assignment left
      have rightMeaning := meaning_words range assignment right
      cases op with
      | arithmetic op =>
          simp only [meaning, eval, leftMeaning, rightMeaning]
          rcases left.eval assignment with _ | (_ | _) <;>
            rcases right.eval assignment with _ | (_ | _) <;> rfl
      | comparison op =>
          simp only [meaning, eval, leftMeaning, rightMeaning]
          rcases left.eval assignment with _ | (_ | _) <;>
            rcases right.eval assignment with _ | (_ | _) <;> rfl
      | eq =>
          simp only [meaning, eval, leftMeaning, rightMeaning]
          rcases left.eval assignment with _ | a <;> rcases right.eval assignment with _ | b
          · rfl
          · rfl
          · rfl
          · have same : a.referent range = b.referent range ↔ a = b :=
              ⟨Value.referent_injective range, congrArg _⟩
            exact congrArg (some ∘ Referent.truth) (decide_eq_decide.2 same)
      | implies =>
          simp only [meaning, eval, leftMeaning, rightMeaning]
          rcases left.eval assignment with _ | (_ | (_ | _)) <;>
            rcases right.eval assignment with _ | (_ | _) <;> rfl
  | nary connective operands =>
      simp only [meaning, eval, meaningEach_words range assignment operands]
      cases evalEach assignment operands <;> rfl
  | not operand =>
      simp only [meaning, eval, meaning_words range assignment operand]
      rcases operand.eval assignment with _ | (_ | _) <;> rfl
  | ite condition consequent alternative =>
      simp only [meaning, eval, meaning_words range assignment condition,
        meaning_words range assignment consequent, meaning_words range assignment alternative]
      rcases condition.eval assignment with _ | (_ | (_ | _)) <;> rfl

theorem meaningEach_words (range : WordRange) (assignment : Assignment) (terms : List Term) :
    meaningEach (assignment.valuation range) terms = (evalEach assignment terms).toOption := by
  cases terms with
  | nil => rfl
  | cons term rest =>
      simp only [meaningEach, evalEach, meaning_words range assignment term,
        meaningEach_words range assignment rest]
      rcases term.eval assignment with _ | (_ | _)
      · rfl
      · rfl
      · cases evalEach assignment rest <;> rfl

end

theorem holds_words_iff {range : WordRange} {assignment : Assignment} {term : Term} :
    term.Holds (assignment.valuation range) ↔ term.evalBool assignment = .ok true := by
  unfold Holds evalBool
  rw [meaning_words]
  rcases term.eval assignment with _ | (_ | _) <;>
    simp [Except.toOption, Value.referent, Value.expectBool, bind, Except.bind]

end Term
end DeltaFrames
