import DeltaFrames.Cancellation.Registry
import DeltaFrames.Proofs.Cancellation.Operations
import Mathlib.Logic.Basic
import Mathlib.Logic.Relation

/-!
# What is asked about tokens

Cloning a token gives another handle on what the token stands for, so tokens are related if clones
connect them. What has to be answered about a token can be told from what was asked before (`due`).
-/

namespace DeltaFrames.Cancellation

open Relation

inductive Happening where
  | asked (request : Request)
  | waited (nanoseconds : Nat)

structure Dealing where
  moment : Nat
  request : Request
  reply : Reply

namespace Registry

def wait (registry : Registry) (nanoseconds : Nat) : Registry :=
  { registry with store := registry.store.apply (.wait nanoseconds) }

def dealing (registry : Registry) (request : Request) : Dealing :=
  ⟨registry.store.now, request, (registry.perform request).1⟩

def dealings (registry : Registry) : List Happening → List Dealing
  | [] => []
  | .waited nanoseconds :: rest => dealings (registry.wait nanoseconds) rest
  | .asked request :: rest =>
      registry.dealing request :: dealings (registry.perform request).2 rest

end Registry

section Relatives

variable (past : List Dealing)

def Cloned (original copy : Nat) : Prop :=
  ∃ moment, ⟨moment, .clone original, .token copy⟩ ∈ past

def Descends : Nat → Nat → Prop :=
  ReflTransGen (Cloned past)

def Related (first second : Nat) : Prop :=
  ∃ ancestor, Descends past ancestor first ∧ Descends past ancestor second

def CancelledFor (reason : String) (number : Nat) : Prop :=
  ∃ moment other, ⟨moment, .cancel other reason, .done⟩ ∈ past ∧ Related past other number

end Relatives

def Lifetime.Ends : Lifetime → Nat → Nat → Prop
  | .unlimited, _, _ => False
  | .timeout seconds, start, ending =>
      seconds ≠ 0 ∧ ending = start + seconds.toNat * nanosPerSecond ∧
        ending / nanosPerSecond < secondsOnClock
  | .deadline moment, _, ending => ending = moment

def Expires (past : List Dealing) (number ending : Nat) : Prop :=
  ∃ start lifetime root, ⟨start, .create lifetime, .token root⟩ ∈ past ∧
    Related past root number ∧ lifetime.Ends start ending

def Expired (past : List Dealing) (number moment : Nat) : Prop :=
  ∃ ending ≤ moment, Expires past number ending

namespace Dealing

def cancellation? : Dealing → Option (Nat × String)
  | ⟨_, .cancel number reason, .done⟩ => some (number, reason)
  | _ => none

open Classical in
noncomputable def reasonAmong (family : Nat → Prop) (dealing : Dealing) : Option String :=
  dealing.cancellation?.bind fun cancelled =>
    if family cancelled.1 then some cancelled.2 else none

end Dealing

noncomputable def firstReasonAmong (family : Nat → Prop) (past : List Dealing) : Option String :=
  past.findSome? (Dealing.reasonAmong family)

open Classical in
/-- What a check of the token has to come to. The first reason given for a related token is reported,
before a deadline that has passed as well. -/
noncomputable def due (past : List Dealing) (number moment : Nat) : Except Interrupted Unit :=
  match firstReasonAmong (Related past · number) past with
  | some reason => .error ⟨reason⟩
  | none => if Expired past number moment then .error ⟨"deadline exceeded"⟩ else .ok ()

section Reasons

variable {family family' : Nat → Prop} {past : List Dealing}

theorem Dealing.eq_of_cancellation? {dealing : Dealing} {other : Nat} {reason : String}
    (cancelled : dealing.cancellation? = some (other, reason)) :
    ∃ moment, dealing = ⟨moment, .cancel other reason, .done⟩ := by
  unfold cancellation? at cancelled
  split at cancelled
  · next moment _ _ =>
      cases cancelled
      exact ⟨moment, rfl⟩
  · cases cancelled

open Classical in
theorem Dealing.reasonAmong_congr {dealing : Dealing}
    (same : ∀ other reason, dealing.cancellation? = some (other, reason) →
      (family other ↔ family' other)) :
    dealing.reasonAmong family = dealing.reasonAmong family' := by
  unfold reasonAmong
  cases cancelled : dealing.cancellation? with
  | none => rfl
  | some given =>
      simp only [Option.bind_some]
      exact if_congr (same given.1 given.2 cancelled) rfl rfl

theorem Dealing.of_reasonAmong {dealing : Dealing} {reason : String}
    (told : dealing.reasonAmong family = some reason) :
    ∃ moment other, dealing = ⟨moment, .cancel other reason, .done⟩ ∧ family other := by
  unfold reasonAmong at told
  cases cancelled : dealing.cancellation? with
  | none =>
      rw [cancelled] at told
      cases told
  | some given =>
      rw [cancelled, Option.bind_some] at told
      obtain ⟨moment, rfl⟩ := eq_of_cancellation? cancelled
      split at told
      · next member =>
          cases told
          exact ⟨moment, given.1, rfl, member⟩
      · cases told

theorem firstReasonAmong_congr
    (same : ∀ dealing ∈ past, ∀ other reason, dealing.cancellation? = some (other, reason) →
      (family other ↔ family' other)) :
    firstReasonAmong family past = firstReasonAmong family' past := by
  induction past with
  | nil => rfl
  | cons dealing rest ih =>
      have ⟨here, others⟩ := List.forall_mem_cons.1 same
      have heads := Dealing.reasonAmong_congr here
      have tails := ih others
      unfold firstReasonAmong at tails ⊢
      rw [List.findSome?_cons, List.findSome?_cons, heads, tails]

theorem firstReasonAmong_concat (dealing : Dealing) :
    firstReasonAmong family (past ++ [dealing]) =
      (firstReasonAmong family past).or (dealing.reasonAmong family) := by
  unfold firstReasonAmong
  rw [List.findSome?_append, List.findSome?_singleton]

theorem firstReasonAmong_concat_of_none {dealing : Dealing}
    (noReason : dealing.cancellation? = none) :
    firstReasonAmong family (past ++ [dealing]) = firstReasonAmong family past := by
  rw [firstReasonAmong_concat, Dealing.reasonAmong, noReason, Option.bind_none, Option.or_none]

theorem firstReasonAmong_filter {kept : Dealing → Bool}
    (keeps : ∀ dealing ∈ past, ∀ other reason, dealing.cancellation? = some (other, reason) →
      family other → kept dealing = true) :
    firstReasonAmong family (past.filter kept) = firstReasonAmong family past := by
  induction past with
  | nil => rfl
  | cons dealing rest ih =>
      have ⟨here, others⟩ := List.forall_mem_cons.1 keeps
      have tails := ih others
      unfold firstReasonAmong at tails ⊢
      cases choice : kept dealing with
      | true =>
          rw [List.filter_cons_of_pos choice, List.findSome?_cons, List.findSome?_cons, tails]
      | false =>
          have silent : dealing.reasonAmong family = none := by
            refine Option.eq_none_iff_forall_ne_some.2 fun reason told => ?_
            obtain ⟨moment, other, rfl, member⟩ := Dealing.of_reasonAmong told
            rw [here other reason rfl member] at choice
            cases choice
          rw [List.filter_cons_of_neg (by simp [choice]), List.findSome?_cons, silent, tails]

theorem firstReasonAmong_eq_none
    (nobody : ∀ dealing ∈ past, ∀ other reason, dealing.cancellation? = some (other, reason) →
      ¬ family other) :
    firstReasonAmong family past = none := by
  refine List.findSome?_eq_none_iff.2 fun dealing member => ?_
  refine Option.eq_none_iff_forall_ne_some.2 fun reason told => ?_
  obtain ⟨moment, other, rfl, related⟩ := Dealing.of_reasonAmong told
  exact nobody _ member other reason rfl related

theorem firstReasonAmong_ne_none {moment other : Nat} {reason : String}
    (member : ⟨moment, .cancel other reason, .done⟩ ∈ past) (related : family other) :
    firstReasonAmong family past ≠ none := by
  intro none
  have silent := List.findSome?_eq_none_iff.1 none _ member
  simp [Dealing.reasonAmong, Dealing.cancellation?, related] at silent

end Reasons

open Classical in
theorem due_congr {past past' : List Dealing} {number number' moment moment' : Nat}
    (reasons : firstReasonAmong (Related past · number) past =
      firstReasonAmong (Related past' · number') past')
    (expiry : Expired past number moment ↔ Expired past' number' moment') :
    due past number moment = due past' number' moment' := by
  unfold due
  rw [reasons]
  split
  · rfl
  · exact if_congr expiry rfl rfl

theorem due_error_iff {past : List Dealing} {number moment : Nat} :
    (∃ interruption, due past number moment = .error interruption) ↔
      (∃ reason, CancelledFor past reason number) ∨ Expired past number moment := by
  unfold due
  cases told : firstReasonAmong (Related past · number) past with
  | some reason =>
      obtain ⟨dealing, member, given⟩ := List.exists_of_findSome?_eq_some told
      obtain ⟨start, other, rfl, related⟩ := Dealing.of_reasonAmong given
      exact iff_of_true ⟨_, rfl⟩ (.inl ⟨reason, start, other, member, related⟩)
  | none =>
      have nobody : ¬ ∃ reason, CancelledFor past reason number := by
        rintro ⟨reason, start, other, member, related⟩
        exact firstReasonAmong_ne_none member related told
      by_cases expired : Expired past number moment <;> simp [nobody, expired]

theorem due_reason {past : List Dealing} {number moment : Nat} {reason : String}
    (fails : due past number moment = .error ⟨reason⟩) :
    CancelledFor past reason number ∨ reason = "deadline exceeded" := by
  unfold due at fails
  cases told : firstReasonAmong (Related past · number) past with
  | some given =>
      rw [told] at fails
      cases fails
      obtain ⟨dealing, member, given⟩ := List.exists_of_findSome?_eq_some told
      obtain ⟨start, other, rfl, related⟩ := Dealing.of_reasonAmong given
      exact .inl ⟨start, other, member, related⟩
  | none =>
      rw [told] at fails
      dsimp only at fails
      split at fails
      · cases fails
        exact .inr rfl
      · cases fails

/-! ## What is due depends on relatives alone -/

def Request.target : Request → Option Nat
  | .create _ => none
  | .clone number => some number
  | .cancel number _ => some number
  | .isCancelled number => some number
  | .hasDeadline number => some number
  | .check number => some number

def Dealing.Concerns (family : Nat → Prop) (dealing : Dealing) : Prop :=
  (∃ number, dealing.request.target = some number ∧ family number) ∨
    ∃ number, dealing.reply = .token number ∧ family number

open Classical in
noncomputable def concerning (past : List Dealing) (number : Nat) : List Dealing :=
  past.filter fun dealing => dealing.Concerns (Related past · number)

section Concerning

variable {past : List Dealing} {number : Nat}

theorem mem_concerning {dealing : Dealing} :
    dealing ∈ concerning past number ↔
      dealing ∈ past ∧ dealing.Concerns (Related past · number) := by
  simp [concerning]

theorem Descends.concerning {root other : Nat} (descends : Descends past root other)
    (ancestor : Descends past root number) :
    Descends (concerning past number) root other := by
  induction descends with
  | refl => exact .refl
  | @tail original copy earlier cloned ih =>
      obtain ⟨moment, member⟩ := cloned
      refine ih.tail ⟨moment, mem_concerning.2 ⟨member, .inl ⟨original, rfl, ?_⟩⟩⟩
      exact ⟨root, earlier, ancestor⟩

theorem Related.mono {more : List Dealing} (included : past ⊆ more) {first second : Nat}
    (related : Related past first second) : Related more first second := by
  have kept (original copy : Nat) (cloned : Cloned past original copy) :
      Cloned more original copy := by
    obtain ⟨moment, member⟩ := cloned
    exact ⟨moment, included member⟩
  obtain ⟨ancestor, toFirst, toSecond⟩ := related
  exact ⟨ancestor, toFirst.lift id kept, toSecond.lift id kept⟩

theorem Related.symm {first second : Nat} (related : Related past first second) :
    Related past second first := by
  obtain ⟨ancestor, toFirst, toSecond⟩ := related
  exact ⟨ancestor, toSecond, toFirst⟩

theorem related_concerning_iff {other : Nat} :
    Related (concerning past number) other number ↔ Related past other number := by
  constructor
  · exact Related.mono fun _ member => (mem_concerning.1 member).1
  · rintro ⟨ancestor, toOther, toNumber⟩
    exact ⟨ancestor, toOther.concerning toNumber, toNumber.concerning toNumber⟩

open Classical in
theorem firstReasonAmong_concerning :
    firstReasonAmong (Related (concerning past number) · number) (concerning past number) =
      firstReasonAmong (Related past · number) past := by
  have same : (Related (concerning past number) · number) = (Related past · number) :=
    funext fun _ => propext related_concerning_iff
  rw [same]
  refine firstReasonAmong_filter fun dealing member other reason cancelled related => ?_
  obtain ⟨moment, rfl⟩ := Dealing.eq_of_cancellation? cancelled
  exact decide_eq_true (.inl ⟨other, rfl, related⟩)

theorem expires_concerning_iff {ending : Nat} :
    Expires (concerning past number) number ending ↔ Expires past number ending := by
  constructor
  · rintro ⟨start, lifetime, root, member, related, ends⟩
    exact ⟨start, lifetime, root, (mem_concerning.1 member).1, related_concerning_iff.1 related, ends⟩
  · rintro ⟨start, lifetime, root, member, related, ends⟩
    exact ⟨start, lifetime, root, mem_concerning.2 ⟨member, .inr ⟨root, rfl, related⟩⟩,
      related_concerning_iff.2 related, ends⟩

theorem due_concerning {moment : Nat} :
    due (concerning past number) number moment = due past number moment :=
  due_congr firstReasonAmong_concerning
    (exists_congr fun _ => and_congr_right fun _ => expires_concerning_iff)

end Concerning

end DeltaFrames.Cancellation
