import DeltaFrames.Proofs.Term.Meaning
import DeltaFrames.System.Symbolic

/-!
# Well-sorted terms

Under a valuation that gives every variable a value of its sort, a well-sorted term means a value
of its sort (`HasSort.meaning`), so that negation and implication of well-sorted Boolean terms are
those of logic (`holds_negate`, `holds_not_implies`). Satisfiability of well-sorted terms depends on
no variables but their own (`satisfiable_extension`).
-/

namespace DeltaFrames

abbrev Signature := String → Option TermSort

/-- A variable that is declared more than once has the sort declared last. -/
def Declarations.signature (declarations : Declarations) : Signature :=
  fun name => declarations.reverse.lookup name

def Signature.Extends (small large : Signature) : Prop :=
  ∀ name sort, small name = some sort → large name = some sort

namespace Term

inductive HasSort (signature : Signature) : Term → TermSort → Prop where
  | var {name : String} {sort : TermSort} (known : signature name = some sort) :
      HasSort signature (.var name) sort
  | int (value : Int64) : HasSort signature (.int value) .int
  | bool (value : Bool) : HasSort signature (.bool value) .bool
  | arithmetic {op : Arithmetic} {left right : Term} (leftSorted : HasSort signature left .int)
      (rightSorted : HasSort signature right .int) :
      HasSort signature (.binary (.arithmetic op) left right) .int
  | comparison {op : Comparison} {left right : Term} (leftSorted : HasSort signature left .int)
      (rightSorted : HasSort signature right .int) :
      HasSort signature (.binary (.comparison op) left right) .bool
  | eq {left right : Term} {sort sort' : TermSort} (leftSorted : HasSort signature left sort)
      (rightSorted : HasSort signature right sort') :
      HasSort signature (.binary .eq left right) .bool
  | implies {left right : Term} (leftSorted : HasSort signature left .bool)
      (rightSorted : HasSort signature right .bool) :
      HasSort signature (.binary .implies left right) .bool
  | nary {connective : Connective} {operands : List Term}
      (sorted : ∀ operand ∈ operands, HasSort signature operand .bool) :
      HasSort signature (.nary connective operands) .bool
  | not {operand : Term} (sorted : HasSort signature operand .bool) :
      HasSort signature (.not operand) .bool
  | ite {condition consequent alternative : Term} {sort : TermSort}
      (conditionSorted : HasSort signature condition .bool)
      (consequentSorted : HasSort signature consequent sort)
      (alternativeSorted : HasSort signature alternative sort) :
      HasSort signature (.ite condition consequent alternative) sort

namespace HasSort

theorem negate {signature : Signature} {term : Term} (sorted : HasSort signature term .bool) :
    HasSort signature term.negate .bool := by
  cases sorted with
  | bool value => exact .bool _
  | not operandSorted => exact operandSorted
  | var known => exact .not (.var known)
  | comparison leftSorted rightSorted => exact .not (.comparison leftSorted rightSorted)
  | eq leftSorted rightSorted => exact .not (.eq leftSorted rightSorted)
  | implies leftSorted rightSorted => exact .not (.implies leftSorted rightSorted)
  | nary operandsSorted => exact .not (.nary operandsSorted)
  | ite conditionSorted consequentSorted alternativeSorted =>
      exact .not (.ite conditionSorted consequentSorted alternativeSorted)

theorem rename {small large : Signature} {names : String → String} {term : Term} {sort : TermSort}
    (sorted : HasSort small term sort)
    (kept : ∀ name sort, small name = some sort → large (names name) = some sort) :
    HasSort large (term.rename names) sort := by
  induction sorted with
  | var known => exact .var (kept _ _ known)
  | int value => exact .int value
  | bool value => exact .bool value
  | arithmetic _ _ leftIh rightIh => exact .arithmetic leftIh rightIh
  | comparison _ _ leftIh rightIh => exact .comparison leftIh rightIh
  | eq _ _ leftIh rightIh => exact .eq leftIh rightIh
  | implies _ _ leftIh rightIh => exact .implies leftIh rightIh
  | nary _ ih =>
      refine .nary fun operand member => ?_
      rw [renameAll_eq_map] at member
      obtain ⟨original, originalMember, rfl⟩ := List.mem_map.1 member
      exact ih original originalMember
  | not _ ih => exact .not ih
  | ite _ _ _ conditionIh consequentIh alternativeIh =>
      exact .ite conditionIh consequentIh alternativeIh

theorem mono {small large : Signature} {term : Term} {sort : TermSort}
    (sorted : HasSort small term sort) (larger : small.Extends large) :
    HasSort large term sort := by
  have same : term.rename id = term := rename_eq_self term fun _ _ => rfl
  rw [← same]
  exact sorted.rename larger

theorem of_occurrences {signature other : Signature} {term : Term} {sort : TermSort}
    (sorted : HasSort signature term sort)
    (kept : ∀ name ∈ term.occurrences, ∀ sort, signature name = some sort → other name = some sort) :
    HasSort other term sort := by
  induction sorted with
  | var known => exact .var (kept _ (List.mem_singleton_self _) _ known)
  | int value => exact .int value
  | bool value => exact .bool value
  | arithmetic _ _ leftIh rightIh =>
      have ⟨left, right⟩ := List.forall_mem_append.1 kept
      exact .arithmetic (leftIh left) (rightIh right)
  | comparison _ _ leftIh rightIh =>
      have ⟨left, right⟩ := List.forall_mem_append.1 kept
      exact .comparison (leftIh left) (rightIh right)
  | eq _ _ leftIh rightIh =>
      have ⟨left, right⟩ := List.forall_mem_append.1 kept
      exact .eq (leftIh left) (rightIh right)
  | implies _ _ leftIh rightIh =>
      have ⟨left, right⟩ := List.forall_mem_append.1 kept
      exact .implies (leftIh left) (rightIh right)
  | nary _ ih =>
      refine .nary fun operand member => ih operand member fun name occurs => kept name ?_
      rw [occurrences, occurrencesAll_eq_flatMap]
      exact List.mem_flatMap.2 ⟨operand, member, occurs⟩
  | not _ ih => exact .not (ih kept)
  | ite _ _ _ conditionIh consequentIh alternativeIh =>
      have ⟨branches, alternative⟩ := List.forall_mem_append.1 kept
      have ⟨condition, consequent⟩ := List.forall_mem_append.1 branches
      exact .ite (conditionIh condition) (consequentIh consequent) (alternativeIh alternative)

theorem known {signature : Signature} {term : Term} {sort : TermSort}
    (sorted : HasSort signature term sort) {name : String} (member : name ∈ term.occurrences) :
    ∃ sort, signature name = some sort := by
  induction sorted with
  | var known => exact ⟨_, by rwa [List.mem_singleton.1 member]⟩
  | int value => cases member
  | bool value => cases member
  | arithmetic _ _ leftIh rightIh => exact (List.mem_append.1 member).elim leftIh rightIh
  | comparison _ _ leftIh rightIh => exact (List.mem_append.1 member).elim leftIh rightIh
  | eq _ _ leftIh rightIh => exact (List.mem_append.1 member).elim leftIh rightIh
  | implies _ _ leftIh rightIh => exact (List.mem_append.1 member).elim leftIh rightIh
  | nary _ ih =>
      rw [occurrences, occurrencesAll_eq_flatMap] at member
      obtain ⟨operand, operandMember, occurs⟩ := List.mem_flatMap.1 member
      exact ih operand operandMember occurs
  | not _ ih => exact ih member
  | ite _ _ _ conditionIh consequentIh alternativeIh =>
      rcases List.mem_append.1 member with member | member
      · exact (List.mem_append.1 member).elim conditionIh consequentIh
      · exact alternativeIh member

end HasSort
end Term

/-! ## Valuations of a signature -/

namespace Referent

variable {I : Interpretation}

def sort : Referent I → TermSort
  | .number _ => .int
  | .truth _ => .bool

def InRange : Referent I → Prop
  | .number value => I.InRange value
  | .truth _ => True

theorem exists_inRange (I : Interpretation) (sort : TermSort) :
    ∃ value : Referent I, value.sort = sort ∧ value.InRange := by
  cases sort with
  | bool => exact ⟨.truth true, rfl, trivial⟩
  | int =>
      obtain ⟨number, inRange⟩ := I.inhabited
      exact ⟨.number number, rfl, inRange⟩

end Referent

namespace Valuation

variable {I : Interpretation}

structure Fits (signature : Signature) (valuation : Valuation I) : Prop where
  sorts : ∀ name, (valuation name).map Referent.sort = signature name
  inRange : ∀ name value, valuation name = some value → value.InRange

theorem Fits.defined {signature : Signature} {valuation : Valuation I}
    (fits : valuation.Fits signature) {name : String} {sort : TermSort}
    (known : signature name = some sort) :
    ∃ value, valuation name = some value ∧ value.sort = sort := by
  have sorts := fits.sorts name
  rw [known] at sorts
  exact Option.map_eq_some_iff.1 sorts

theorem Fits.extend {small large : Signature} {valuation : Valuation I}
    (fits : valuation.Fits small) (larger : small.Extends large) :
    ∃ extension : Valuation I, extension.Fits large ∧ valuation.Extends extension := by
  classical
  let choice (sort : TermSort) := (Referent.exists_inRange I sort).choose
  have chosen (sort : TermSort) : (choice sort).sort = sort ∧ (choice sort).InRange :=
    (Referent.exists_inRange I sort).choose_spec
  -- Variables that are new take some value of their sort.
  refine ⟨fun name => (valuation name).orElse fun _ => (large name).map choice, ⟨?_, ?_⟩, ?_⟩
  · intro name
    cases given : valuation name with
    | none =>
        cases large name with
        | none => rfl
        | some sort => exact congrArg some (chosen sort).1
    | some value =>
        have sorts := fits.sorts name
        rw [given] at sorts
        exact (larger name _ sorts.symm).symm
  · intro name value given
    cases old : valuation name with
    | some other =>
        rw [old] at given
        exact fits.inRange name value (by rw [old]; exact given)
    | none =>
        rw [old] at given
        obtain ⟨sort, -, rfl⟩ := Option.map_eq_some_iff.1 given
        exact (chosen sort).2
  · intro name value given
    simp only [given, Option.orElse_some]

def restrict (valuation : Valuation I) (signature : Signature) : Valuation I :=
  fun name => (signature name).bind fun _ => valuation name

theorem extends_restrict (valuation : Valuation I) (signature : Signature) :
    (valuation.restrict signature).Extends valuation := by
  intro name value given
  obtain ⟨_, -, given⟩ := Option.bind_eq_some_iff.1 given
  exact given

theorem Fits.restrict {small large : Signature} {valuation : Valuation I}
    (fits : valuation.Fits large) (larger : small.Extends large) :
    (valuation.restrict small).Fits small := by
  refine ⟨fun name => ?_, fun name value given =>
    fits.inRange name value (extends_restrict valuation small name value given)⟩
  cases known : small name with
  | none => simp [Valuation.restrict, known]
  | some sort => simpa [Valuation.restrict, known] using
      (fits.sorts name).trans (larger name sort known)

end Valuation

namespace Referent

variable {I : Interpretation}

theorem exists_number {value : Referent I} (sorted : value.sort = .int) :
    ∃ number, value = .number number := by
  cases value with
  | number number => exact ⟨number, rfl⟩
  | truth _ => cases sorted

theorem exists_truth {value : Referent I} (sorted : value.sort = .bool) :
    ∃ truth, value = .truth truth := by
  cases value with
  | number _ => cases sorted
  | truth truth => exact ⟨truth, rfl⟩

end Referent

namespace Term

variable {I : Interpretation} {signature : Signature} {valuation : Valuation I}

theorem meaningEach_of_truths {terms : List Term}
    (truths : ∀ term ∈ terms, ∃ truth, term.meaning valuation = some (.truth truth)) :
    ∃ values, meaningEach valuation terms = some values := by
  induction terms with
  | nil => exact ⟨[], rfl⟩
  | cons term rest ih =>
      obtain ⟨truth, termMeaning⟩ := truths term List.mem_cons_self
      obtain ⟨values, restMeaning⟩ := ih fun other member =>
        truths other (List.mem_cons_of_mem _ member)
      exact ⟨truth :: values, by simp [meaningEach, termMeaning, restMeaning, Referent.truth?]⟩

namespace HasSort

theorem meaning {term : Term} {sort : TermSort} (sorted : HasSort signature term sort)
    (fits : valuation.Fits signature) :
    ∃ value, term.meaning valuation = some value ∧ value.sort = sort := by
  induction sorted with
  | var known => exact fits.defined known
  | int value => exact ⟨_, rfl, rfl⟩
  | bool value => exact ⟨_, rfl, rfl⟩
  | arithmetic _ _ leftIh rightIh =>
      obtain ⟨_, leftMeaning, leftSort⟩ := leftIh
      obtain ⟨_, rightMeaning, rightSort⟩ := rightIh
      obtain ⟨a, rfl⟩ := Referent.exists_number leftSort
      obtain ⟨b, rfl⟩ := Referent.exists_number rightSort
      exact ⟨_, by simp only [Term.meaning, leftMeaning, rightMeaning]; rfl, rfl⟩
  | comparison _ _ leftIh rightIh =>
      obtain ⟨_, leftMeaning, leftSort⟩ := leftIh
      obtain ⟨_, rightMeaning, rightSort⟩ := rightIh
      obtain ⟨a, rfl⟩ := Referent.exists_number leftSort
      obtain ⟨b, rfl⟩ := Referent.exists_number rightSort
      exact ⟨_, by simp only [Term.meaning, leftMeaning, rightMeaning]; rfl, rfl⟩
  | eq _ _ leftIh rightIh =>
      obtain ⟨a, leftMeaning, -⟩ := leftIh
      obtain ⟨b, rightMeaning, -⟩ := rightIh
      exact ⟨_, by simp only [Term.meaning, leftMeaning, rightMeaning]; rfl, rfl⟩
  | implies _ _ leftIh rightIh =>
      obtain ⟨_, leftMeaning, leftSort⟩ := leftIh
      obtain ⟨_, rightMeaning, rightSort⟩ := rightIh
      obtain ⟨a, rfl⟩ := Referent.exists_truth leftSort
      obtain ⟨b, rfl⟩ := Referent.exists_truth rightSort
      refine ⟨.truth (!a || b), ?_, rfl⟩
      simp only [Term.meaning, leftMeaning, rightMeaning]
      cases a <;> rfl
  | nary _ ih =>
      obtain ⟨values, operandsMeaning⟩ := meaningEach_of_truths fun operand member => by
        obtain ⟨_, operandMeaning, operandSort⟩ := ih operand member
        obtain ⟨truth, rfl⟩ := Referent.exists_truth operandSort
        exact ⟨truth, operandMeaning⟩
      exact ⟨_, by simp only [Term.meaning, operandsMeaning]; rfl, rfl⟩
  | not _ ih =>
      obtain ⟨_, operandMeaning, operandSort⟩ := ih
      obtain ⟨a, rfl⟩ := Referent.exists_truth operandSort
      exact ⟨_, by simp only [Term.meaning, operandMeaning]; rfl, rfl⟩
  | ite _ _ _ conditionIh consequentIh alternativeIh =>
      obtain ⟨_, conditionMeaning, conditionSort⟩ := conditionIh
      obtain ⟨a, rfl⟩ := Referent.exists_truth conditionSort
      simp only [Term.meaning, conditionMeaning]
      cases a with
      | false => exact alternativeIh
      | true => exact consequentIh

theorem truth {term : Term} (sorted : HasSort signature term .bool)
    (fits : valuation.Fits signature) :
    ∃ truth, term.meaning valuation = some (.truth truth) := by
  obtain ⟨_, termMeaning, termSort⟩ := sorted.meaning fits
  obtain ⟨truth, rfl⟩ := Referent.exists_truth termSort
  exact ⟨truth, termMeaning⟩

theorem meaning_extension {term : Term} {sort : TermSort} {extension : Valuation I}
    (sorted : HasSort signature term sort) (fits : valuation.Fits signature)
    (larger : valuation.Extends extension) :
    term.meaning extension = term.meaning valuation := by
  obtain ⟨value, known, -⟩ := sorted.meaning fits
  rw [known, meaning_mono larger term known]

theorem holds_extension {term : Term} {sort : TermSort} {extension : Valuation I}
    (sorted : HasSort signature term sort) (fits : valuation.Fits signature)
    (larger : valuation.Extends extension) : term.Holds extension ↔ term.Holds valuation := by
  unfold Holds
  rw [sorted.meaning_extension fits larger]

end HasSort

theorem holds_not {term : Term} (sorted : HasSort signature term .bool)
    (fits : valuation.Fits signature) : (Term.not term).Holds valuation ↔ ¬ term.Holds valuation := by
  obtain ⟨truth, known⟩ := sorted.truth fits
  unfold Holds
  cases truth <;> simp [Term.meaning, known, Referent.truth?]

theorem holds_implies {premise conclusion : Term} (premiseSorted : HasSort signature premise .bool)
    (conclusionSorted : HasSort signature conclusion .bool) (fits : valuation.Fits signature) :
    (premise.implies conclusion).Holds valuation ↔
      (premise.Holds valuation → conclusion.Holds valuation) := by
  obtain ⟨a, premiseKnown⟩ := premiseSorted.truth fits
  obtain ⟨b, conclusionKnown⟩ := conclusionSorted.truth fits
  unfold Holds
  cases a <;> cases b <;> simp [Term.meaning, premiseKnown, conclusionKnown, Referent.truth?]

theorem holds_negate {term : Term} (sorted : HasSort signature term .bool)
    (fits : valuation.Fits signature) : term.negate.Holds valuation ↔ ¬ term.Holds valuation := by
  cases sorted with
  | not operandSorted => rw [holds_not operandSorted fits, Classical.not_not]; rfl
  | bool value => cases value <;> simp [negate, Holds, Term.meaning]
  | var known => exact holds_not (.var known) fits
  | comparison leftSorted rightSorted => exact holds_not (.comparison leftSorted rightSorted) fits
  | eq leftSorted rightSorted => exact holds_not (.eq leftSorted rightSorted) fits
  | implies leftSorted rightSorted => exact holds_not (.implies leftSorted rightSorted) fits
  | nary operandsSorted => exact holds_not (.nary operandsSorted) fits
  | ite conditionSorted consequentSorted alternativeSorted =>
      exact holds_not (.ite conditionSorted consequentSorted alternativeSorted) fits

end Term

/-! ## Satisfiability and entailment -/

def Satisfiable (I : Interpretation) (signature : Signature) (terms : List Term) : Prop :=
  ∃ valuation : Valuation I, valuation.Fits signature ∧ ∀ term ∈ terms, term.Holds valuation

def Entails (I : Interpretation) (signature : Signature) (premises : List Term)
    (conclusion : Term) : Prop :=
  ∀ valuation : Valuation I, valuation.Fits signature →
    (∀ premise ∈ premises, premise.Holds valuation) → conclusion.Holds valuation

section

variable {I : Interpretation} {small large : Signature} {terms : List Term}

theorem Satisfiable.extend (larger : small.Extends large) (possible : Satisfiable I small terms) :
    Satisfiable I large terms := by
  obtain ⟨valuation, fits, holds⟩ := possible
  obtain ⟨extension, extensionFits, extends_⟩ := fits.extend larger
  exact ⟨extension, extensionFits, fun term member => (holds term member).mono extends_⟩

theorem Satisfiable.subset {few many : List Term} (included : few ⊆ many)
    (possible : Satisfiable I small many) : Satisfiable I small few := by
  obtain ⟨valuation, fits, holds⟩ := possible
  exact ⟨valuation, fits, fun term member => holds term (included member)⟩

theorem satisfiable_extension (larger : small.Extends large)
    (sorted : ∀ term ∈ terms, term.HasSort small .bool) :
    Satisfiable I large terms ↔ Satisfiable I small terms := by
  refine ⟨?_, .extend larger⟩
  rintro ⟨valuation, fits, holds⟩
  have restricted := fits.restrict larger
  refine ⟨_, restricted, fun term member => ?_⟩
  exact ((sorted term member).holds_extension restricted (valuation.extends_restrict small)).1
    (holds term member)

theorem not_satisfiable_negate_iff {premises : List Term} {conclusion : Term}
    (sorted : conclusion.HasSort small .bool) :
    ¬ Satisfiable I small (premises ++ [conclusion.negate]) ↔
      Entails I small premises conclusion := by
  constructor
  · intro impossible valuation fits holds
    refine Classical.byContradiction fun fails => ?_
    refine impossible ⟨valuation, fits, fun term member => ?_⟩
    rcases List.mem_append.1 member with member | member
    · exact holds term member
    · rw [List.mem_singleton.1 member]
      exact (Term.holds_negate sorted fits).2 fails
  · rintro entailed ⟨valuation, fits, holds⟩
    have negated := holds conclusion.negate (List.mem_append_right _ List.mem_cons_self)
    exact (Term.holds_negate sorted fits).1 negated
      (entailed valuation fits fun premise member => holds premise (List.mem_append_left _ member))

theorem not_satisfiable_not_implies_iff {premise conclusion : Term}
    (premiseSorted : premise.HasSort small .bool)
    (conclusionSorted : conclusion.HasSort small .bool) :
    ¬ Satisfiable I small [.not (premise.implies conclusion)] ↔
      Entails I small [premise] conclusion := by
  have meaning (valuation : Valuation I) (fits : valuation.Fits small) :
      (Term.not (premise.implies conclusion)).Holds valuation ↔
        ¬ (premise.Holds valuation → conclusion.Holds valuation) := by
    rw [Term.holds_not (.implies premiseSorted conclusionSorted) fits,
      Term.holds_implies premiseSorted conclusionSorted fits]
  constructor
  · intro impossible valuation fits holds
    refine Classical.byContradiction fun fails => ?_
    refine impossible ⟨valuation, fits, List.forall_mem_singleton.2 ?_⟩
    exact (meaning valuation fits).2 fun follows =>
      fails (follows (holds premise List.mem_cons_self))
  · rintro entailed ⟨valuation, fits, holds⟩
    refine (meaning valuation fits).1 (holds _ List.mem_cons_self) fun premiseHolds => ?_
    exact entailed valuation fits (List.forall_mem_singleton.2 premiseHolds)

theorem Entails.mono {premises more : List Term} {conclusion : Term}
    (entailed : Entails I small premises conclusion) (subset : premises ⊆ more) :
    Entails I small more conclusion :=
  fun valuation fits holds => entailed valuation fits fun premise member =>
    holds premise (subset member)

end
end DeltaFrames
