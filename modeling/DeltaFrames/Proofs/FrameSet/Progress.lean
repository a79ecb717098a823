import DeltaFrames.Proofs.FrameSet.Chronicle
import DeltaFrames.Proofs.FrameSet.Decisions
import DeltaFrames.Proofs.FrameSet.Retention

/-!
# Work that meets no error

All that a decisive solver may fail at is a query that makes no sense, and closing a scope that is
not open. On a well-sorted system, work that blocks nothing but Boolean terms over the declared
variables never asks for either: clauses stay Boolean terms while they are negated, primed, moved
and dropped, and each propagation closes the scopes that it has opened (`Faultless.performed`).
-/

namespace DeltaFrames.FrameSet

open Relation StateAction

variable {ω ε : Type}

theorem perform_leads (bench : Workbench ω ε) (command : Command ω) (state : FrameSet × Run ω ε) :
    ReflTransGen bench.solver.Leads state.2.world
      (finalState (perform bench command state)).2.world := by
  cases command with
  | openFrame => exact .refl
  | block states level =>
      rcases perform_block_cases bench states level state with
        ⟨index, rfl, -, accepted⟩ | ⟨-, error, refused⟩
      · rw [accepted]
        exact .refl
      · rw [refused]
        exact .refl
  | propagate poll =>
      rw [finalState_propagate]
      exact propagate_leads bench poll state

def PatientCommand (bench : Workbench ω ε) (start : ω) : Command ω → Prop
  | .openFrame => True
  | .block states _ => states.HasSort bench.system.declarations.signature .bool
  | .propagate poll => Patient bench.solver poll start

structure Faultless (bench : Workbench ω ε) (view : View ω) (start : Run ω ε)
    (state : FrameSet × Run ω ε) : Prop where
  sorted : state.1.ClausesSorted bench.system.declarations.signature
  stack : view.stack state.2.world = view.stack start.world
  leads : ReflTransGen bench.solver.Leads start.world state.2.world
  told : ∃ told, state.2.entries = start.entries ++ told ∧ ∀ entry ∈ told, entry.failure = none

section Decisive

variable {I : Interpretation} {bench : Workbench ω ε} {view : View ω} {start : Run ω ε}
  {state : FrameSet × Run ω ε}

theorem faultless_ofSystem (bench : Workbench ω ε) (view : View ω) (start : Run ω ε) :
    Faultless bench view start (ofSystem bench.system, start) where
  sorted := clausesSorted_ofSystem bench.system _
  stack := rfl
  leads := .refl
  told := ⟨[], (List.append_nil _).symm, fun _ member => absurd member List.not_mem_nil⟩

variable (decisive : bench.solver.Decisive I view) (wellSorted : bench.system.WellSorted)
  (free : (view.stack start.world).assertions = [])

include decisive wellSorted free

theorem Faultless.returns (faultless : Faultless bench view start state)
    {poll : ω → Except Cancellation.Interrupted Unit}
    (patient : Patient bench.solver poll start.world) :
    ∃ reached after, propagate bench poll state = .ok reached after := by
  have stillFree : (view.stack state.2.world).assertions = [] := faultless.stack ▸ free
  exact propagate_decided decisive wellSorted faultless.sorted stillFree
    (patient.of_leads faultless.leads)

theorem Faultless.tells (faultless : Faultless bench view start state) {command : Command ω}
    (allowed : PatientCommand bench start.world command) :
    ∃ told, (finalState (perform bench command state)).2.entries = state.2.entries ++ told ∧
      ∀ entry ∈ told, entry.failure = none := by
  cases command with
  | openFrame => exact ⟨_, Run.entries_emit _ _, List.forall_mem_singleton.2 rfl⟩
  | block states level =>
      rcases perform_block_cases bench states level state with
        ⟨index, rfl, -, accepted⟩ | ⟨-, error, refused⟩
      · rw [accepted]
        exact ⟨_, Run.entries_emit _ _, List.forall_mem_singleton.2 rfl⟩
      · rw [refused]
        exact ⟨[], (List.append_nil _).symm, fun _ member => absurd member List.not_mem_nil⟩
  | propagate poll =>
      have patient : Patient bench.solver poll start.world := allowed
      obtain ⟨reached, after, returned⟩ :=
        faultless.returns decisive wellSorted free patient
      obtain ⟨told, written, chronicle⟩ := propagate_chronicle returned
      rw [finalState_propagate, returned]
      exact ⟨told, written, List.findSome?_eq_none_iff.1 chronicle.failure_eq_none⟩

theorem Faultless.performed (faultless : Faultless bench view start state) {command : Command ω}
    (allowed : PatientCommand bench start.world command) :
    Faultless bench view start (finalState (perform bench command state)) where
  sorted := by
    have sensible : WellSortedCommand bench.system state.1 command := by
      cases command with
      | openFrame => exact trivial
      | block states level => exact allowed
      | propagate poll => exact trivial
    exact perform_clausesSorted bench wellSorted sensible faultless.sorted
  stack := by
    have stillFree : (view.stack state.2.world).assertions = [] := faultless.stack ▸ free
    exact (perform_change decisive.toSound state.1 state.2 stillFree command).2.trans faultless.stack
  leads := faultless.leads.trans (perform_leads bench command state)
  told := by
    obtain ⟨earlier, written, unfailed⟩ := faultless.told
    obtain ⟨later, more, unfailedLater⟩ := faultless.tells decisive wellSorted free allowed
    refine ⟨earlier ++ later, ?_, List.forall_mem_append.2 ⟨unfailed, unfailedLater⟩⟩
    rw [more, written, List.append_assoc]

theorem history_faultless (commands : List (Command ω))
    (allowed : ∀ command ∈ commands, PatientCommand bench start.world command) :
    Faultless bench view start (history bench start commands) := by
  induction commands using List.reverseRecOn with
  | nil => exact faultless_ofSystem bench view start
  | append_singleton earlier command ih =>
      obtain ⟨before, last⟩ := List.forall_mem_append.1 allowed
      rw [history_concat]
      exact (ih before).performed decisive wellSorted free (List.forall_mem_singleton.1 last)

end Decisive

/-- Blocks only Boolean terms over the variables of both states, and polls a token that is not
cancelled. -/
def WellPosed {σ : Type} (system : SymbolicSystem) (tokens : Cancellation.Store) :
    Command (World σ) → Prop
  | .openFrame => True
  | .block states _ => states.HasSort system.signature .bool
  | .propagate poll => ∃ token, poll = World.poll token ∧ tokens.check token = .ok ()

def enumeratingBench (system : SymbolicSystem) (options : Options)
    (clock : World Enumerating.State → Nat) :
    Workbench (World Enumerating.State) Enumerating.Error where
  system := system.toTransitionSystem
  options
  solver := Enumerating.solver {}
  clock

theorem enumerating_keeps_tokens {before after : World Enumerating.State}
    (leads : ReflTransGen (Enumerating.solver {}).Leads before after) :
    after.tokens = before.tokens := by
  induction leads with
  | refl => rfl
  | tail _ step ih =>
      obtain ⟨call, rfl⟩ := step
      exact (Enumerating.tokens_respond false call _).trans ih

theorem WellPosed.patientCommand {system : SymbolicSystem} {options : Options}
    {clock : World Enumerating.State → Nat} {start : World Enumerating.State}
    {command : Command (World Enumerating.State)}
    (posed : WellPosed system start.tokens command) :
    PatientCommand (enumeratingBench system options clock) start command := by
  cases command with
  | openFrame => exact trivial
  | block states level => exact posed
  | propagate poll =>
      obtain ⟨token, rfl, alive⟩ := posed
      intro world leads
      show world.tokens.check token = .ok ()
      rw [enumerating_keeps_tokens leads, alive]

/-- Let a system be accepted and its formulas be Boolean terms over the declared variables, and let
the solver be fresh, with no order to leave queries undecided or to cancel a token. Whatever frames
are opened, whatever Boolean terms over the declared variables are blocked at whatever levels, and
however often clauses are propagated under tokens that are not cancelled, every propagation succeeds.
No call of the solver fails, no query is left undecided, and in the end no scope is open and nothing
is asserted. -/
theorem well_posed_work_meets_no_error {system : SymbolicSystem} {options : Options}
    {clock : World Enumerating.State → Nat}
    {start : Run (World Enumerating.State) Enumerating.Error}
    {commands : List (Command (World Enumerating.State))}
    (wellSorted : system.WellSorted) (fresh : start.world.solver = {})
    (posed : ∀ command ∈ commands, WellPosed system start.world.tokens command) :
    (∀ earlier poll later, commands = earlier ++ .propagate poll :: later →
      ∃ reached after, propagate (enumeratingBench system options clock) poll
        (history (enumeratingBench system options clock) start earlier) = .ok reached after) ∧
    (∃ told, (history (enumeratingBench system options clock) start commands).2.entries =
        start.entries ++ told ∧ ∀ entry ∈ told, entry.failure = none) ∧
    (history (enumeratingBench system options clock) start commands).2.world.solver.stack = {} := by
  have decisive : (enumeratingBench system options clock).solver.Decisive
      (.words Enumerating.range) Enumerating.view := Enumerating.solver_decisive none
  have sorted : (enumeratingBench system options clock).system.WellSorted :=
    wellSorted.toTransitionSystem
  have empty : Enumerating.view.stack start.world = {} := by
    show start.world.solver.stack = {}
    rw [fresh]
  have free : (Enumerating.view.stack start.world).assertions = [] := by
    rw [empty]
    rfl
  have allowed : ∀ command ∈ commands,
      PatientCommand (enumeratingBench system options clock) start.world command :=
    fun command member => (posed command member).patientCommand
  have faultless := history_faultless decisive sorted free commands allowed
  refine ⟨?_, faultless.told, faultless.stack.trans empty⟩
  rintro earlier poll later rfl
  obtain ⟨before, others⟩ := List.forall_mem_append.1 allowed
  have patient := others (.propagate poll) List.mem_cons_self
  exact (history_faultless decisive sorted free earlier before).returns decisive sorted free patient

def counter : SymbolicSystem where
  stateVariables := [("count", .int), ("on", .bool)]
  initial := .binary .eq (.var "count") (.int 0)
  property := .binary (.comparison .ge) (.var "count") (.int 0)
  transition := .binary .eq (.var "count_next")
    (.ite (.var "on") (.binary (.arithmetic .add) (.var "count") (.int 1)) (.var "count"))
  names_nodup := by decide
  primedName_not_mem := by decide
  initial_closed := by decide
  property_closed := by decide
  transition_closed := by decide

theorem counter_wellSorted : counter.WellSorted where
  initial := .eq (.var rfl) (.int 0)
  property := .comparison (.var rfl) (.int 0)
  transition := by
    have count : (Term.var "count").HasSort counter.signature .int := .var (by decide)
    have next : (Term.var "count_next").HasSort counter.signature .int := .var (by decide)
    exact .eq next (.ite (.var (by decide)) (.arithmetic count (.int 1)) count)

def counterStart : Run (World Enumerating.State) Enumerating.Error where
  world := { solver := {}, tokens := { cells := #[{}] } }

def counterCommands : List (Command (World Enumerating.State)) :=
  [.openFrame, .openFrame, .block (.binary (.comparison .gt) (.var "count") (.int 5)) 1]

theorem counter_work_meets_no_error :
    ∃ reached after, propagate (enumeratingBench counter {} World.clock) (World.poll ⟨0⟩)
      (history (enumeratingBench counter {} World.clock) counterStart counterCommands) =
        .ok reached after := by
  have states : (Term.binary (.comparison .gt) (.var "count") (.int 5)).HasSort counter.signature
      .bool := .comparison (.var (by decide)) (.int 5)
  have posed : ∀ command ∈ counterCommands ++ [.propagate (World.poll ⟨0⟩)],
      WellPosed counter counterStart.world.tokens command :=
    List.forall_mem_cons.2 ⟨trivial, List.forall_mem_cons.2 ⟨trivial,
      List.forall_mem_cons.2 ⟨states, List.forall_mem_singleton.2 ⟨⟨0⟩, rfl, rfl⟩⟩⟩⟩
  exact (well_posed_work_meets_no_error counter_wellSorted rfl posed).1 _ _ [] rfl

end DeltaFrames.FrameSet
