import DeltaFrames.Proofs.Term.Sorting
import DeltaFrames.Solver.Basic
import DeltaFrames.Solver.ScopeStack

/-!
# What a solver promises

A solver is known by its responses alone. A view says which scopes and which declarations a world
of the solver stands for, and the promises of a solver are stated through it:

* `KeepsScopes`: a call that succeeds changes the scopes as it should, one that fails does not;
* `KeepsDeclarations`: a declaration lasts at least as long as the scope in which it was made;
* `PopsSucceed`: an open scope can be closed;
* `Sound`: a query is called unsatisfiable only if it is, and `Exact`: satisfiable only if it is;
* `Decisive`: calls do not fail, and a query of Boolean terms is decided.

Unless a solver is decisive, calls other than a pop may fail at any time, and any query may be left
undecided.
-/

namespace DeltaFrames

/-- A declared variable, and how many scopes have to stay open for the declaration to last. -/
structure Declared where
  sort : TermSort
  depth : Nat

structure View (ω : Type) where
  stack : ω → ScopeStack
  declared : ω → String → Option Declared

def Call.apply : Call → ScopeStack → ScopeStack
  | .push, stack => stack.push
  | .pop, stack => stack.pop.getD stack
  | .declare .., stack => stack
  | .assert term, stack => stack.assert term
  | .check, stack => stack
  | .reset, _ => {}

def Verdict.decided (unsat : Bool) : Verdict := if unsat then .unsat else .sat

namespace View

variable {ω : Type} (view : View ω)

def signature (world : ω) : Signature :=
  fun name => (view.declared world name).map Declared.sort

def Declares (declarations : Declarations) (depth : Nat) (world : ω) : Prop :=
  ∀ name sort, declarations.signature name = some sort →
    ∃ anchor ≤ depth, view.declared world name = some ⟨sort, anchor⟩

variable {view}

theorem Declares.extends {declarations : Declarations} {depth : Nat} {world : ω}
    (declared : view.Declares declarations depth world) :
    declarations.signature.Extends (view.signature world) := by
  intro name sort known
  obtain ⟨anchor, -, located⟩ := declared name sort known
  simp only [signature, located, Option.map_some]

end View

namespace Solver

variable {ω ε : Type}

structure KeepsScopes (solver : Solver ω ε) (view : View ω) : Prop where
  succeeds : ∀ {call world answer after}, solver.respond call world = .ok answer after →
    view.stack after = call.apply (view.stack world)
  fails : ∀ {call world error after}, solver.respond call world = .error error after →
    view.stack after = view.stack world

structure KeepsDeclarations (solver : Solver ω ε) (view : View ω) : Prop where
  declares : ∀ {name sort world answer after},
    solver.respond (.declare name sort) world = .ok answer after →
      (∃ depth ≤ (view.stack world).depth, view.declared after name = some ⟨sort, depth⟩) ∧
      ∀ other declared, other ≠ name → view.declared world other = some declared →
        view.declared after other = some declared
  keeps : ∀ {call world answer after}, solver.respond call world = .ok answer after →
    (∀ name sort, call ≠ .declare name sort) → call ≠ .reset →
      ∀ name declared, view.declared world name = some declared →
        declared.depth ≤ (view.stack after).depth → view.declared after name = some declared

def PopsSucceed (solver : Solver ω ε) (view : View ω) : Prop :=
  ∀ world, (view.stack world).opened ≠ [] → ∃ after, solver.respond .pop world = .ok () after

structure Disciplined (solver : Solver ω ε) (view : View ω) : Prop where
  scopes : solver.KeepsScopes view
  declarations : solver.KeepsDeclarations view
  pops : solver.PopsSucceed view

structure Sound (I : Interpretation) (solver : Solver ω ε) (view : View ω) : Prop
    extends solver.Disciplined view where
  unsat : ∀ {world after}, solver.respond .check world = .ok Verdict.unsat after →
    ¬ Satisfiable I (view.signature world) (view.stack world).assertions

structure Exact (I : Interpretation) (solver : Solver ω ε) (view : View ω) : Prop
    extends solver.Sound I view where
  sat : ∀ {world after}, solver.respond .check world = .ok Verdict.sat after →
    Satisfiable I (view.signature world) (view.stack world).assertions

/-- A query that has no meaning need not be answered, nor a scope closed that is not open. -/
structure Decisive (I : Interpretation) (solver : Solver ω ε) (view : View ω) : Prop
    extends solver.Exact I view where
  accepts : ∀ call world, call ≠ .check → call ≠ .pop →
    ∃ answer after, solver.respond call world = .ok answer after
  decides : ∀ world,
    (∀ term ∈ (view.stack world).assertions, term.HasSort (view.signature world) .bool) →
      ∃ unsat after, solver.respond .check world = .ok (Verdict.decided unsat) after

/-- Where the variables are declared and exactly these assertions hold, the solver gave the
verdict. -/
def Answers (solver : Solver ω ε) (view : View ω) (declarations : Declarations)
    (assertions : List Term) (verdict : Verdict) : Prop :=
  ∃ world after, declarations.signature.Extends (view.signature world) ∧
    (view.stack world).assertions = assertions ∧
    solver.respond .check world = .ok verdict after

variable {I : Interpretation} {solver : Solver ω ε} {view : View ω} {declarations : Declarations}
  {assertions : List Term}

theorem Sound.not_satisfiable (sound : solver.Sound I view)
    (answered : solver.Answers view declarations assertions .unsat) :
    ¬ Satisfiable I declarations.signature assertions := by
  obtain ⟨world, after, declared, rfl, response⟩ := answered
  exact fun possible => sound.unsat response (possible.extend declared)

theorem Exact.satisfiable (exactSolver : solver.Exact I view)
    (sorted : ∀ term ∈ assertions, term.HasSort declarations.signature .bool)
    (answered : solver.Answers view declarations assertions .sat) :
    Satisfiable I declarations.signature assertions := by
  obtain ⟨world, after, declared, rfl, response⟩ := answered
  exact (satisfiable_extension declared sorted).1 (exactSolver.sat response)

end Solver
end DeltaFrames
