import DeltaFrames.Proofs.Cancellation.Operations
import DeltaFrames.Proofs.Session.Record
import DeltaFrames.Solver.World

/-!
# The world after the calls of a journal

A solver responds to a call as the world it lives in has it, so the world can be told from the
calls that were entered in the journal (`Run.Follows`). If all that the solver does to tokens is to
perform operations, what has become of a token can be told from them as well
(`Solver.Performs.check`).
-/

namespace DeltaFrames

open StateAction

variable {ω ε : Type}

def Entry.call? : Entry ε → Option Call
  | .exchange made => some made.call
  | .event _ => none

def callsOf (entries : List (Entry ε)) : List Call := entries.filterMap Entry.call?

theorem callsOf_append (first second : List (Entry ε)) :
    callsOf (first ++ second) = callsOf first ++ callsOf second :=
  List.filterMap_append

def Entry.isCheck : Entry ε → Bool
  | .exchange ⟨.check, _⟩ => true
  | _ => false

theorem Entry.Prepares.isCheck_eq_false {entry : Entry ε} (prepares : entry.Prepares) :
    entry.isCheck = false := by
  cases prepares with
  | done made answer noQuery =>
      cases made with
      | check => exact absurd rfl noQuery
      | push => rfl
      | pop => rfl
      | declare _ _ => rfl
      | assert _ => rfl
      | reset => rfl

theorem Entry.Releases.isCheck_eq_false {entry : Entry ε} (releases : entry.Releases) :
    entry.isCheck = false := by
  cases releases <;> rfl

theorem unchecked_of_prepares {entries : List (Entry ε)}
    (prepares : ∀ entry ∈ entries, entry.Prepares) : ∀ entry ∈ entries, entry.isCheck = false :=
  fun entry member => (prepares entry member).isCheck_eq_false

theorem unchecked_of_releases {entries : List (Entry ε)}
    (releases : ∀ entry ∈ entries, entry.Releases) : ∀ entry ∈ entries, entry.isCheck = false :=
  fun entry member => (releases entry member).isCheck_eq_false

theorem closed_unchecked (scopes : Nat) :
    ∀ entry ∈ (closed scopes : List (Entry ε)), entry.isCheck = false :=
  unchecked_of_prepares (closed_prepares scopes)

theorem countP_isCheck_eq_zero {entries : List (Entry ε)}
    (unchecked : ∀ entry ∈ entries, entry.isCheck = false) : entries.countP Entry.isCheck = 0 :=
  List.countP_eq_zero.2 fun entry member => Bool.eq_false_iff.1 (unchecked entry member)

theorem exists_of_append_eq_append_cons {α : Type} {front back before rest : List α} {item : α}
    (same : front ++ back = before ++ item :: rest)
    (behind : ∀ inner, front ≠ before ++ item :: inner) :
    ∃ skipped, before = front ++ skipped ∧ back = skipped ++ item :: rest := by
  rcases List.append_eq_append_iff.1 same with ⟨skipped, longer, split⟩ | ⟨inner, shorter, split⟩
  · exact ⟨skipped, longer, split⟩
  · cases inner with
    | nil => exact ⟨[], by rw [shorter, List.append_nil, List.append_nil], split.symm⟩
    | cons other inner =>
        obtain ⟨rfl, -⟩ := List.cons.inj split
        exact absurd shorter (behind inner)

theorem not_closed_isPrefix {closings pops : Nat} (few : closings < pops) {error : ε}
    {tail : List (Entry ε)} :
    ¬ closed pops <+: closed closings ++ .refused .pop error :: tail := by
  obtain ⟨missing, rfl⟩ := Nat.exists_eq_add_of_lt few
  intro closes
  have split : (closed (closings + missing + 1) : List (Entry ε)) =
      closed closings ++ closed (missing + 1) := by
    rw [closed, closed, closed, List.replicate_append_replicate, Nat.add_assoc]
  rw [split, List.prefix_append_right_inj] at closes
  obtain ⟨other, -⟩ := List.cons_prefix_cons.1 closes
  cases other

section Check

variable {front back before rest tail skipped : List (Entry ε)} {first made : Entry ε}
  (check : made.isCheck = true)

include check

theorem check_behind (unchecked : ∀ entry ∈ front, entry.isCheck = false)
    (same : front ++ back = before ++ made :: rest) :
    ∃ skipped, before = front ++ skipped ∧ back = skipped ++ made :: rest :=
  exists_of_append_eq_append_cons same fun inner within => by
    have refuted := unchecked made (within ▸ List.mem_append_right _ List.mem_cons_self)
    rw [check] at refuted
    cases refuted

theorem check_first (unchecked : ∀ entry ∈ tail, entry.isCheck = false)
    (same : first :: tail = skipped ++ made :: rest) :
    skipped = [] ∧ first = made ∧ tail = rest := by
  cases skipped with
  | nil => exact ⟨rfl, List.cons.inj same⟩
  | cons other skipped =>
      obtain ⟨-, rfl⟩ := List.cons.inj same
      have refuted := unchecked made (List.mem_append_right _ List.mem_cons_self)
      rw [check] at refuted
      cases refuted

theorem asked_check {goal : Term} {verdict : Verdict}
    (unchecked : ∀ entry ∈ tail, entry.isCheck = false)
    (same : asked goal verdict ++ tail = skipped ++ made :: rest) :
    skipped = [.done .push (), .done (.assert goal) ()] ∧ made = .done .check verdict ∧
      rest = tail := by
  let shown : List (Entry ε) := [.done .push (), .done (.assert goal) ()]
  have unasked : ∀ entry ∈ shown, entry.isCheck = false :=
    List.forall_mem_cons.2 ⟨rfl, List.forall_mem_singleton.2 rfl⟩
  have split : shown ++ (.done .check verdict :: tail) = skipped ++ made :: rest := same
  obtain ⟨inner, rfl, later⟩ := check_behind check unasked split
  obtain ⟨rfl, rfl, rfl⟩ := check_first check unchecked later
  exact ⟨List.append_nil _, rfl, rfl⟩

end Check

section Stumble

variable {queries : Term → Nat → Prop} {failure : SessionError ε} {broken : List (Entry ε)}
  (stumble : Stumble queries failure broken)

include stumble

theorem Stumble.countP_isCheck_le : broken.countP Entry.isCheck ≤ 1 := by
  cases stumble with
  | refused made error => exact List.countP_le_length
  | undecided reason => exact List.countP_le_length
  | @unreleased _ _ closings _ _ unsat error =>
      rw [List.countP_append, List.countP_append,
        countP_isCheck_eq_zero (closed_unchecked closings)]
      exact Nat.le_refl 1

theorem Stumble.of_decided {tail skipped rest : List (Entry ε)} {unsat : Bool}
    (unchecked : ∀ entry ∈ tail, entry.isCheck = false)
    (same : broken ++ tail = skipped ++ .done .check (.decided unsat) :: rest) :
    ∃ goal pops closings error, queries goal pops ∧ closings < pops ∧ failure = .backend error ∧
      skipped = [.done .push (), .done (.assert goal) ()] ∧
      rest = closed closings ++ .refused .pop error :: tail := by
  cases stumble with
  | refused made error =>
      obtain ⟨-, other, -⟩ := check_first rfl unchecked same
      cases other
  | undecided reason =>
      obtain ⟨-, other, -⟩ := check_first rfl unchecked same
      cases unsat <;> cases other
  | @unreleased goal pops closings query few decided error =>
      rw [List.append_assoc, List.append_assoc] at same
      have unasked : ∀ entry ∈ closed closings ++ ([.refused .pop error] ++ tail),
          entry.isCheck = false :=
        List.forall_mem_append.2
          ⟨closed_unchecked closings, List.forall_mem_cons.2 ⟨rfl, unchecked⟩⟩
      obtain ⟨rfl, -, rfl⟩ := asked_check rfl unasked same
      exact ⟨goal, pops, closings, error, query, few, rfl, rfl, rfl⟩

end Stumble

def Solver.after (solver : Solver ω ε) (world : ω) (calls : List Call) : ω :=
  calls.foldl (fun world call => finalState (solver.respond call world)) world

theorem Solver.after_append (solver : Solver ω ε) (world : ω) (first second : List Call) :
    solver.after world (first ++ second) = solver.after (solver.after world first) second :=
  List.foldl_append

def Run.Follows (solver : Solver ω ε) (start run : Run ω ε) : Prop :=
  ∃ told, run.entries = start.entries ++ told ∧
    run.world = solver.after start.world (callsOf told)

namespace Run.Follows

variable {solver : Solver ω ε} {start run : Run ω ε} (follows : start.Follows solver run)

include follows

theorem world_eq {told : List (Entry ε)} (written : run.entries = start.entries ++ told) :
    run.world = solver.after start.world (callsOf told) := by
  obtain ⟨others, othersWritten, world⟩ := follows
  obtain rfl : others = told := List.append_cancel_left (othersWritten.symm.trans written)
  exact world

theorem emit (event : Event ε) : start.Follows solver (run.emit event) := by
  obtain ⟨told, written, world⟩ := follows
  refine ⟨told ++ [.event event], ?_, ?_⟩
  · rw [Run.entries_emit, written, List.append_assoc]
  · rw [callsOf_append, show callsOf [Entry.event event] = [] from rfl, List.append_nil]
    exact world

end Run.Follows

theorem Run.follows_self (solver : Solver ω ε) (run : Run ω ε) : run.Follows solver run :=
  ⟨[], (List.append_nil _).symm, rfl⟩

theorem Session.follows_invariant (solver : Solver ω ε) (start : Run ω ε) :
    Session.Invariant solver (start.Follows solver)
      fun session => start.Follows solver session.run := by
  refine Session.invariant_of_calls (fun made run follows => ?_) fun run error follows =>
    follows.emit _
  obtain ⟨told, written, world⟩ := follows
  have logged (answer : Except ε made.Answer) (after : ω)
      (response : finalState (solver.respond made run.world) = after) :
      start.Follows solver (run.log ⟨made, answer⟩ after) := by
    refine ⟨told ++ [.exchange ⟨made, answer⟩], ?_, ?_⟩
    · rw [Run.entries_log, written, List.append_assoc]
    · rw [callsOf_append, Solver.after_append, ← world]
      exact response.symm
  unfold Solver.call
  cases response : solver.respond made run.world with
  | ok answer after => exact logged (.ok answer) after (by rw [response]; rfl)
  | error error after => exact logged (.error error) after (by rw [response]; rfl)

section Tokens

open Cancellation

variable {σ : Type} {solver : Solver (World σ) ε}

/-- All that the solver does to tokens is to perform these operations in each call. -/
def Solver.Performs (solver : Solver (World σ) ε)
    (operations : Call → World σ → List Operation) : Prop :=
  ∀ call world, (finalState (solver.respond call world)).tokens =
    world.tokens.applyAll (operations call world)

variable {operations : Call → World σ → List Operation} {token : Token} {reason : Option String}

theorem Solver.Performs.holds (performs : solver.Performs operations) {world : World σ}
    (holds : world.tokens.Holds token reason) (calls : List Call) :
    ∃ later : Option String,
      (solver.after world calls).tokens.Holds token (reason.or later) := by
  induction calls generalizing world reason with
  | nil => exact ⟨none, by rwa [Option.or_none]⟩
  | cons call rest ih =>
      have next : (finalState (solver.respond call world)).tokens.Holds token
          (reason.or (firstReason token (operations call world))) := by
        rw [performs]
        exact holds.applyAll _
      obtain ⟨later, held⟩ := ih next
      exact ⟨_, by rwa [Option.or_assoc] at held⟩

theorem Solver.Performs.fresh (performs : solver.Performs operations) {world : World σ}
    (fresh : world.tokens.Holds token none) {calls : List Call}
    (allowed : World.poll token (solver.after world calls) = .ok ()) :
    (solver.after world calls).tokens.Holds token none := by
  obtain ⟨later, held⟩ := performs.holds fresh calls
  rw [Option.none_or] at held
  cases later with
  | none => exact held
  | some given => exact nomatch allowed.symm.trans held.check

theorem Solver.Performs.check (performs : solver.Performs operations) {world : World σ}
    (fresh : world.tokens.Holds token none) {call : Call} {given : String}
    (cancels : firstReason token (operations call world) = some given) (calls : List Call) :
    World.poll token (solver.after world (call :: calls)) = .error ⟨given⟩ := by
  have next : (finalState (solver.respond call world)).tokens.Holds token (some given) := by
    rw [performs, ← cancels]
    exact fresh.applyAll _
  obtain ⟨later, held⟩ := performs.holds next calls
  exact held.check

end Tokens
end DeltaFrames
