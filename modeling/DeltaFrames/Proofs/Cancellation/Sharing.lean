import DeltaFrames.Proofs.Cancellation.Dealings

/-!
# Tokens that are shared

A registry `Reflects` what was asked of it if related tokens are those of one cell, and if each cell
is as the cancellations of its tokens have left it.
-/

namespace DeltaFrames.Cancellation

def Registry.Handles (registry : Registry) (cell number : Nat) : Prop :=
  registry.tokens[number]? = some ⟨cell⟩

/-- The registry has handed out what the past tells, related tokens are those of one cell, and the
cells are as the cancellations have left them. -/
structure Reflects (past : List Dealing) (registry : Registry) : Prop where
  bounded : ∀ cell number, registry.Handles cell number → cell < registry.store.cells.size
  handed : ∀ dealing ∈ past, ∀ number, dealing.reply = .token number →
    number < registry.tokens.size
  cancelled : ∀ dealing ∈ past, ∀ number reason, dealing.cancellation? = some (number, reason) →
    number < registry.tokens.size
  cloned : ∀ original copy, Cloned past original copy →
    registry.tokens[copy]? = registry.tokens[original]?
  shared : ∀ cell first second, registry.Handles cell first → registry.Handles cell second →
    Related past first second
  created : ∀ start lifetime root, ⟨start, .create lifetime, .token root⟩ ∈ past →
    ∃ index cell, registry.Handles index root ∧ registry.store.cells[index]? = some cell ∧
      ∀ ending, cell.deadline = some ending ↔ lifetime.Ends start ending
  founded : ∀ cell number, registry.Handles cell number →
    ∃ start lifetime root, ⟨start, .create lifetime, .token root⟩ ∈ past ∧
      registry.Handles cell root
  cells : ∀ index cell, registry.store.cells[index]? = some cell →
    cell.cancelled = cell.reason.isSome ∧
      cell.reason = firstReasonAmong (registry.Handles index) past

theorem Registry.handles_push {registry after : Registry} {index cell number : Nat}
    (pushed : after.tokens = registry.tokens.push ⟨index⟩) :
    after.Handles cell number ↔
      registry.Handles cell number ∨ number = registry.tokens.size ∧ cell = index := by
  unfold Handles
  rw [pushed, Array.getElem?_push]
  by_cases last : number = registry.tokens.size
  · subst last
    simp [eq_comm]
  · simp [last]

theorem Registry.Handles.lt {registry : Registry} {cell number : Nat}
    (handle : registry.Handles cell number) : number < registry.tokens.size :=
  (Array.getElem?_eq_some_iff.1 handle).1

theorem Registry.exists_handles {registry : Registry} {number : Nat}
    (exists_ : number < registry.tokens.size) : ∃ cell, registry.Handles cell number :=
  ⟨registry.tokens[number].cell, Array.getElem?_eq_getElem exists_⟩

theorem Registry.perform_unknown {registry : Registry} {request : Request} {number : Nat}
    (target : request.target = some number) (unknown : registry.tokens[number]? = none) :
    registry.perform request = (.noSuchToken, registry) := by
  cases request <;> cases target <;> simp [perform, withToken, unknown]

theorem Registry.Handles.withToken {registry : Registry} {cell number : Nat}
    (handle : registry.Handles cell number) (answer : Token → Reply × Registry) :
    registry.withToken number answer = answer ⟨cell⟩ := by
  unfold Registry.withToken
  rw [show registry.tokens[number]? = some ⟨cell⟩ from handle]

theorem Registry.Handles.perform_ne_noSuchToken {registry : Registry} {cell number : Nat}
    (handle : registry.Handles cell number) {request : Request}
    (target : request.target = some number) : (registry.perform request).1 ≠ .noSuchToken := by
  cases request with
  | create => cases target
  | clone | cancel | isCancelled | hasDeadline | check =>
      cases target
      rw [Registry.perform, handle.withToken]
      nofun

theorem Registry.deadlineOf_eq_some_iff (registry : Registry) (lifetime : Lifetime)
    {ending : Nat} :
    registry.deadlineOf lifetime = some ending ↔ lifetime.Ends registry.store.now ending := by
  unfold Lifetime.Ends deadlineOf
  cases lifetime with
  | unlimited => simp
  | deadline moment => simp [eq_comm]
  | timeout seconds =>
      simp only [Store.timeoutDeadline, Store.secondsFromNow]
      split
      · next zero => simp [zero]
      · next nonzero =>
          split
          · next shown =>
              rw [Option.some.injEq]
              constructor
              · rintro rfl
                exact ⟨nonzero, rfl, shown⟩
              · exact fun ends => ends.2.1.symm
          · next unshown =>
              refine ⟨nofun, ?_⟩
              rintro ⟨-, rfl, shown⟩
              exact absurd shown unshown

namespace Reflects

variable {past : List Dealing} {registry : Registry}

theorem fresh : Reflects [] {} where
  bounded _ _ handle := nomatch handle
  handed _ member := nomatch member
  cancelled _ member := nomatch member
  cloned _ _ cloned := nomatch cloned
  shared _ _ _ handle := nomatch handle
  created _ _ _ member := nomatch member
  founded _ _ handle := nomatch handle
  cells _ _ located := nomatch located

variable (reflects : Reflects past registry)

include reflects

theorem wait (nanoseconds : Nat) : Reflects past (registry.wait nanoseconds) :=
  ⟨reflects.bounded, reflects.handed, reflects.cancelled, reflects.cloned, reflects.shared,
    reflects.created, reflects.founded, reflects.cells⟩

theorem note {dealing : Dealing} (noToken : ∀ number, dealing.reply ≠ .token number)
    (noReason : dealing.cancellation? = none) : Reflects (past ++ [dealing]) registry where
  bounded := reflects.bounded
  handed := by
    refine List.forall_mem_append.2 ⟨reflects.handed, List.forall_mem_singleton.2 ?_⟩
    exact fun number isToken => absurd isToken (noToken number)
  cancelled := by
    refine List.forall_mem_append.2 ⟨reflects.cancelled, List.forall_mem_singleton.2 ?_⟩
    rw [noReason]
    exact nofun
  cloned original copy := by
    rintro ⟨moment, member⟩
    rcases List.mem_append.1 member with earlier | now
    · exact reflects.cloned original copy ⟨moment, earlier⟩
    · cases List.mem_singleton.1 now
      exact absurd rfl (noToken copy)
  shared cell first second ofFirst ofSecond :=
    (reflects.shared cell first second ofFirst ofSecond).mono fun _ => List.mem_append_left _
  created start lifetime root member := by
    rcases List.mem_append.1 member with earlier | now
    · exact reflects.created start lifetime root earlier
    · cases List.mem_singleton.1 now
      exact absurd rfl (noToken root)
  founded cell number handle := by
    obtain ⟨start, lifetime, root, member, handles⟩ := reflects.founded cell number handle
    exact ⟨start, lifetime, root, List.mem_append_left _ member, handles⟩
  cells index cell located := by
    rw [firstReasonAmong_concat_of_none noReason]
    exact reflects.cells index cell located

theorem handOut {after : Registry} {dealing : Dealing} (index : Nat)
    (pushed : after.tokens = registry.tokens.push ⟨index⟩)
    (replied : dealing.reply = .token registry.tokens.size)
    (noReason : dealing.cancellation? = none)
    (inside : index < after.store.cells.size)
    (kept : ∀ {place : Nat} {cell : Cell}, registry.store.cells[place]? = some cell →
      after.store.cells[place]? = some cell)
    (added : ∀ {place : Nat} {cell : Cell}, after.store.cells[place]? = some cell →
      registry.store.cells[place]? = some cell ∨
        place = registry.store.cells.size ∧ cell.cancelled = false ∧ cell.reason = none)
    (original : ∀ {moment number copy}, dealing = ⟨moment, .clone number, .token copy⟩ →
      registry.Handles index number)
    (ends : ∀ {start lifetime root}, dealing = ⟨start, .create lifetime, .token root⟩ →
      ∃ cell, after.store.cells[index]? = some cell ∧
        ∀ ending, cell.deadline = some ending ↔ lifetime.Ends start ending)
    (kin : ∀ {number}, registry.Handles index number →
      Related (past ++ [dealing]) number registry.tokens.size)
    (founder : ∃ start lifetime root,
      ⟨start, .create lifetime, .token root⟩ ∈ past ++ [dealing] ∧ after.Handles index root) :
    Reflects (past ++ [dealing]) after := by
  have handles {cell number : Nat} : after.Handles cell number ↔
      registry.Handles cell number ∨ number = registry.tokens.size ∧ cell = index :=
    Registry.handles_push pushed
  have size : after.tokens.size = registry.tokens.size + 1 := by rw [pushed, Array.size_push]
  have larger : registry.store.cells.size ≤ after.store.cells.size := by
    refine Nat.le_of_not_lt fun fewer => ?_
    have located := kept (Array.getElem?_eq_getElem fewer)
    exact Nat.lt_irrefl _ (Array.getElem?_eq_some_iff.1 located).1
  have same {number : Nat} (old : number < registry.tokens.size) :
      after.tokens[number]? = registry.tokens[number]? := by
    rw [pushed, Array.getElem?_push, if_neg (Nat.ne_of_lt old)]
  have newest : after.tokens[registry.tokens.size]? = some ⟨index⟩ := by
    rw [pushed, Array.getElem?_push, if_pos rfl]
  constructor
  case bounded =>
    intro cell number handle
    rcases handles.1 handle with old | ⟨-, rfl⟩
    · exact Nat.lt_of_lt_of_le (reflects.bounded cell number old) larger
    · exact inside
  case handed =>
    refine List.forall_mem_append.2 ⟨fun earlier member number isToken => ?_,
      List.forall_mem_singleton.2 fun number isToken => ?_⟩
    · exact size ▸ Nat.lt_succ_of_lt (reflects.handed earlier member number isToken)
    · cases replied.symm.trans isToken
      exact size ▸ Nat.lt_succ_self _
  case cancelled =>
    refine List.forall_mem_append.2 ⟨fun earlier member number reason given => ?_,
      List.forall_mem_singleton.2 (noReason ▸ nofun)⟩
    exact size ▸ Nat.lt_succ_of_lt (reflects.cancelled earlier member number reason given)
  case cloned =>
    rintro number copy ⟨moment, member⟩
    rcases List.mem_append.1 member with earlier | now
    · have copied := reflects.cloned number copy ⟨moment, earlier⟩
      have copyOld : copy < registry.tokens.size := reflects.handed _ earlier copy rfl
      obtain ⟨cell, handle⟩ := Registry.exists_handles copyOld
      have numberOld : number < registry.tokens.size :=
        Registry.Handles.lt (copied.symm.trans handle)
      rw [same copyOld, same numberOld, copied]
    · have isClone := (List.mem_singleton.1 now).symm
      have handle := original isClone
      rw [isClone] at replied
      cases replied
      rw [newest, same handle.lt, handle]
  case shared =>
    intro cell first second ofFirst ofSecond
    rcases handles.1 ofFirst with firstOld | ⟨rfl, rfl⟩
    · rcases handles.1 ofSecond with secondOld | ⟨rfl, rfl⟩
      · exact (reflects.shared cell first second firstOld secondOld).mono
          fun _ => List.mem_append_left _
      · exact kin firstOld
    · rcases handles.1 ofSecond with secondOld | ⟨rfl, -⟩
      · exact (kin secondOld).symm
      · exact ⟨_, .refl, .refl⟩
  case created =>
    intro start lifetime root member
    rcases List.mem_append.1 member with earlier | now
    · obtain ⟨place, cell, handle, located, ending⟩ :=
        reflects.created start lifetime root earlier
      exact ⟨place, cell, handles.2 (.inl handle), kept located, ending⟩
    · have isCreate := (List.mem_singleton.1 now).symm
      obtain ⟨cell, located, ending⟩ := ends isCreate
      rw [isCreate] at replied
      cases replied
      exact ⟨index, cell, newest, located, ending⟩
  case founded =>
    intro cell number handle
    rcases handles.1 handle with old | ⟨-, rfl⟩
    · obtain ⟨start, lifetime, root, member, handle⟩ := reflects.founded cell number old
      exact ⟨start, lifetime, root, List.mem_append_left _ member, handles.2 (.inl handle)⟩
    · exact founder
  case cells =>
    intro place cell located
    have families : firstReasonAmong (after.Handles place) (past ++ [dealing]) =
        firstReasonAmong (registry.Handles place) past := by
      rw [firstReasonAmong_concat_of_none noReason]
      refine firstReasonAmong_congr fun earlier member other reason given => ?_
      unfold Registry.Handles
      rw [same (reflects.cancelled earlier member other reason given)]
    rw [families]
    rcases added located with old | ⟨rfl, uncancelled, silent⟩
    · exact reflects.cells place cell old
    · -- No token that was handed out before is a handle on the new cell.
      have nobody : firstReasonAmong (registry.Handles registry.store.cells.size) past = none :=
        firstReasonAmong_eq_none fun _ _ other _ _ handle =>
          Nat.lt_irrefl _ (reflects.bounded _ other handle)
      rw [uncancelled, silent, nobody]
      exact ⟨rfl, rfl⟩

theorem cancel {index number : Nat} (moment : Nat) (reason : String)
    (handle : registry.Handles index number) :
    Reflects (past ++ [⟨moment, .cancel number reason, .done⟩])
      { registry with store := registry.store.cancel ⟨index⟩ reason } := by
  have size : (registry.store.cancel ⟨index⟩ reason).cells.size = registry.store.cells.size :=
    Array.size_modify
  have earlierOf {dealing : Dealing} {copy : Nat} (isToken : dealing.reply = .token copy)
      (member : dealing ∈ past ++ [⟨moment, .cancel number reason, .done⟩]) : dealing ∈ past := by
    rcases List.mem_append.1 member with earlier | now
    · exact earlier
    · cases List.mem_singleton.1 now
      cases isToken
  constructor
  case bounded =>
    intro cell other ofOther
    exact size ▸ reflects.bounded cell other ofOther
  case handed =>
    intro dealing member copy isToken
    exact reflects.handed dealing (earlierOf isToken member) copy isToken
  case cancelled =>
    refine List.forall_mem_append.2 ⟨reflects.cancelled, List.forall_mem_singleton.2 ?_⟩
    rintro other given isGiven
    cases isGiven
    exact handle.lt
  case cloned =>
    rintro original copy ⟨start, member⟩
    exact reflects.cloned original copy ⟨start, earlierOf rfl member⟩
  case shared =>
    intro cell first second ofFirst ofSecond
    exact (reflects.shared cell first second ofFirst ofSecond).mono
      fun _ => List.mem_append_left _
  case created =>
    intro start lifetime root member
    obtain ⟨place, cell, ofRoot, located, ends⟩ :=
      reflects.created start lifetime root (earlierOf rfl member)
    refine ⟨place, if index = place then cell.cancel reason else cell, ofRoot, ?_, ?_⟩
    · rw [Store.cancel, Array.getElem?_modify, located]
      split <;> rfl
    · split
      · exact ends
      · exact ends
  case founded =>
    intro cell other ofOther
    obtain ⟨start, lifetime, root, member, ofRoot⟩ := reflects.founded cell other ofOther
    exact ⟨start, lifetime, root, List.mem_append_left _ member, ofRoot⟩
  case cells =>
    intro place cell located
    have reasons : firstReasonAmong (registry.Handles place)
          (past ++ [⟨moment, .cancel number reason, .done⟩]) =
        (firstReasonAmong (registry.Handles place) past).or
          (if index = place then some reason else none) := by
      rw [firstReasonAmong_concat]
      have decided : registry.Handles place number ↔ index = place := by
        constructor
        · intro other
          exact congrArg Token.cell (Option.some.inj (handle.symm.trans other))
        · rintro rfl
          exact handle
      simp only [Dealing.reasonAmong, Dealing.cancellation?, Option.bind_some, decided]
    change _ ∧ _ = firstReasonAmong (registry.Handles place) _
    rw [reasons]
    rw [Store.cancel, Array.getElem?_modify] at located
    split at located
    · next same =>
        obtain ⟨old, oldLocated, rfl⟩ := Option.map_eq_some_iff.1 located
        obtain ⟨-, known⟩ := reflects.cells place old oldLocated
        rw [if_pos same, ← known]
        unfold Cell.cancel
        cases old.reason <;> exact ⟨rfl, rfl⟩
    · next apart =>
        rw [if_neg apart, Option.or_none]
        exact reflects.cells place cell located

theorem create (lifetime : Lifetime) :
    Reflects (past ++ [registry.dealing (.create lifetime)])
      (registry.perform (.create lifetime)).2 := by
  have newest : (registry.store.cells.push { deadline := registry.deadlineOf lifetime })[
      registry.store.cells.size]? = some { deadline := registry.deadlineOf lifetime } := by
    rw [Array.getElem?_push, if_pos rfl]
  refine reflects.handOut registry.store.cells.size rfl rfl rfl ?inside ?kept ?added
    nofun ?ends ?kin ?founder
  case inside => exact Array.size_push .. ▸ Nat.lt_succ_self _
  case kept =>
    intro place cell located
    have old := (Array.getElem?_eq_some_iff.1 located).1
    exact (Array.getElem?_push.trans (if_neg (Nat.ne_of_lt old))).trans located
  case added =>
    intro place cell located
    rcases Nat.decEq place registry.store.cells.size with apart | same
    · exact .inl ((Array.getElem?_push.trans (if_neg apart)).symm.trans located)
    · cases same
      cases newest.symm.trans located
      exact .inr ⟨rfl, rfl, rfl⟩
  case ends =>
    intro start given root isCreate
    cases isCreate
    exact ⟨_, newest, fun _ => registry.deadlineOf_eq_some_iff lifetime⟩
  case kin =>
    intro number handle
    exact absurd (reflects.bounded _ number handle) (Nat.lt_irrefl _)
  case founder =>
    refine ⟨registry.store.now, lifetime, registry.tokens.size, List.mem_append_right _ ?_, ?_⟩
    · exact List.mem_singleton_self _
    · exact (Registry.handles_push rfl).2 (.inr ⟨rfl, rfl⟩)

theorem clone {index number : Nat} (moment : Nat) (handle : registry.Handles index number) :
    Reflects (past ++ [⟨moment, .clone number, .token registry.tokens.size⟩])
      { registry with tokens := registry.tokens.push ⟨index⟩ } := by
  refine reflects.handOut index rfl rfl rfl (reflects.bounded index number handle)
    id .inl ?original nofun ?kin ?founder
  case original =>
    intro moment original copy isClone
    cases isClone
    exact handle
  case kin =>
    intro other ofOther
    obtain ⟨ancestor, toOther, toNumber⟩ :=
      (reflects.shared index other number ofOther handle).mono (List.subset_append_left _ _)
    refine ⟨ancestor, toOther, toNumber.tail ⟨moment, List.mem_append_right _ ?_⟩⟩
    exact List.mem_singleton_self _
  case founder =>
    obtain ⟨start, lifetime, root, member, ofRoot⟩ := reflects.founded index number handle
    exact ⟨start, lifetime, root, List.mem_append_left _ member,
      (Registry.handles_push rfl).2 (.inl ofRoot)⟩

theorem perform (request : Request) :
    Reflects (past ++ [registry.dealing request]) (registry.perform request).2 := by
  cases target : request.target with
  | none =>
      cases request with
      | create lifetime => exact reflects.create lifetime
      | _ => cases target
  | some number =>
      unfold Registry.dealing
      cases located : registry.tokens[number]? with
      | none =>
          rw [Registry.perform_unknown target located]
          exact reflects.note nofun (by cases request <;> rfl)
      | some token =>
          have handle : registry.Handles token.cell number := located
          cases request with
          | create => cases target
          | clone =>
              cases target
              rw [Registry.perform, handle.withToken]
              exact reflects.clone _ handle
          | cancel _ reason =>
              cases target
              rw [Registry.perform, handle.withToken]
              exact reflects.cancel _ reason handle
          | isCancelled | hasDeadline | check =>
              cases target
              rw [Registry.perform, handle.withToken]
              exact reflects.note nofun rfl

/-! ## What a registry answers -/

theorem tokens_eq_of_descends {ancestor number : Nat} (descends : Descends past ancestor number) :
    registry.tokens[number]? = registry.tokens[ancestor]? := by
  induction descends with
  | refl => rfl
  | tail _ cloned ih => exact (reflects.cloned _ _ cloned).trans ih

theorem related_iff {cell number other : Nat} (handle : registry.Handles cell number) :
    Related past other number ↔ registry.Handles cell other := by
  constructor
  · rintro ⟨ancestor, toOther, toNumber⟩
    have one := reflects.tokens_eq_of_descends toOther
    exact one.trans ((reflects.tokens_eq_of_descends toNumber).symm.trans handle)
  · exact fun ofOther => reflects.shared cell other number ofOther handle

theorem expires_iff {index number ending : Nat} {cell : Cell}
    (handle : registry.Handles index number)
    (located : registry.store.cells[index]? = some cell) :
    Expires past number ending ↔ cell.deadline = some ending := by
  constructor
  · rintro ⟨start, lifetime, root, member, related, ends⟩
    obtain ⟨place, rootCell, ofRoot, rootLocated, deadline⟩ :=
      reflects.created start lifetime root member
    cases ofRoot.symm.trans ((reflects.related_iff handle).1 related)
    cases rootLocated.symm.trans located
    exact (deadline ending).2 ends
  · intro deadline
    obtain ⟨start, lifetime, root, member, ofRoot⟩ := reflects.founded index number handle
    refine ⟨start, lifetime, root, member, (reflects.related_iff handle).2 ofRoot, ?_⟩
    obtain ⟨place, rootCell, handleRoot, rootLocated, ends⟩ :=
      reflects.created start lifetime root member
    cases handleRoot.symm.trans ofRoot
    cases rootLocated.symm.trans located
    exact (ends ending).1 deadline

theorem expired_iff {index number : Nat} {cell : Cell} (handle : registry.Handles index number)
    (located : registry.store.cells[index]? = some cell) (moment : Nat) :
    Expired past number moment ↔ cell.expired moment = true := by
  unfold Expired Cell.expired
  rw [Option.any_eq_true]
  constructor
  · rintro ⟨ending, passed, expires⟩
    exact ⟨ending, (reflects.expires_iff handle located).1 expires, decide_eq_true passed⟩
  · rintro ⟨ending, deadline, passed⟩
    exact ⟨ending, of_decide_eq_true passed, (reflects.expires_iff handle located).2 deadline⟩

open Classical in
theorem check {index number : Nat} (handle : registry.Handles index number) :
    registry.store.check ⟨index⟩ = due past number registry.store.now := by
  obtain ⟨cell, located⟩ : ∃ cell, registry.store.cells[index]? = some cell :=
    ⟨_, Array.getElem?_eq_getElem (reflects.bounded index number handle)⟩
  have found : registry.store.cell ⟨index⟩ = cell := by
    rw [Store.cell, Array.getD_eq_getD_getElem?, located, Option.getD_some]
  have family : (Related past · number) = registry.Handles index :=
    funext fun _ => propext (reflects.related_iff handle)
  obtain ⟨flag, reason⟩ := reflects.cells index cell located
  unfold Store.check Cell.check due
  rw [found, family, ← reason, flag]
  cases cell.reason with
  | some given => rfl
  | none =>
      rw [Option.isSome_none, if_neg Bool.false_ne_true]
      exact (if_congr (reflects.expired_iff handle located _) rfl rfl).symm

end Reflects

theorem Store.isCancelled_eq (store : Store) (token : Token) :
    store.isCancelled token = !(store.check token).isOk := by
  unfold isCancelled Cell.isCancelled check Cell.check
  cases (store.cell token).cancelled <;> cases (store.cell token).expired store.now <;> rfl

theorem exists_stage {registry : Registry} {past later : List Dealing} {dealing : Dealing}
    {before : List Dealing} {happenings : List Happening} (reflects : Reflects before registry)
    (told : registry.dealings happenings = past ++ dealing :: later) :
    ∃ stage request after, Reflects (before ++ past) stage ∧ dealing = stage.dealing request ∧
      (stage.perform request).2.dealings after = later := by
  induction happenings generalizing registry before past with
  | nil => exact absurd told.symm (List.append_ne_nil_of_right_ne_nil past nofun)
  | cons happening rest ih =>
      cases happening with
      | waited nanoseconds => exact ih (reflects.wait nanoseconds) told
      | asked request =>
          cases past with
          | nil =>
              obtain ⟨here, others⟩ := List.cons.inj told
              exact ⟨registry, request, rest, (List.append_nil before).symm ▸ reflects,
                here.symm, others⟩
          | cons first past =>
              obtain ⟨rfl, others⟩ := List.cons.inj told
              obtain ⟨stage, next, after, kept, same, follows⟩ :=
                ih (reflects.perform request) others
              rw [List.append_assoc] at kept
              exact ⟨stage, next, after, kept, same, follows⟩

theorem Registry.now_perform (registry : Registry) (request : Request) :
    (registry.perform request).2.store.now = registry.store.now := by
  have located (number : Nat) (answer : Token → Reply × Registry)
      (unmoved : ∀ token, (answer token).2.store.now = registry.store.now) :
      (registry.withToken number answer).2.store.now = registry.store.now := by
    unfold withToken
    split
    · exact unmoved _
    · rfl
  cases request with
  | create => rfl
  | _ => exact located _ _ fun _ => rfl

theorem Registry.now_le_moment {registry : Registry} {happenings : List Happening}
    {dealing : Dealing} (member : dealing ∈ registry.dealings happenings) :
    registry.store.now ≤ dealing.moment := by
  induction happenings generalizing registry with
  | nil => cases member
  | cons happening rest ih =>
      cases happening with
      | waited nanoseconds => exact Nat.le_trans (Nat.le_add_right ..) (ih member)
      | asked request =>
          rcases List.mem_cons.1 member with rfl | later
          · exact Nat.le_refl _
          · exact registry.now_perform request ▸ ih later

theorem exists_stage_of_handedOut {happenings : List Happening} {past later : List Dealing}
    {dealing : Dealing} {number : Nat}
    (told : Registry.dealings {} happenings = past ++ dealing :: later)
    (handedOut : ∃ earlier ∈ past, earlier.reply = .token number) :
    ∃ stage index request after, Reflects past stage ∧ stage.Handles index number ∧
      dealing = stage.dealing request ∧ (stage.perform request).2.dealings after = later := by
  obtain ⟨stage, request, after, reflects, same, follows⟩ := exists_stage Reflects.fresh told
  obtain ⟨earlier, member, isToken⟩ := handedOut
  obtain ⟨index, handle⟩ := Registry.exists_handles (reflects.handed earlier member number isToken)
  exact ⟨stage, index, request, after, reflects, handle, same, follows⟩

theorem reply_ne_noSuchToken {happenings : List Happening} {past later : List Dealing}
    {dealing : Dealing} {number : Nat}
    (told : Registry.dealings {} happenings = past ++ dealing :: later)
    (handedOut : ∃ earlier ∈ past, earlier.reply = .token number)
    (target : dealing.request.target = some number) : dealing.reply ≠ .noSuchToken := by
  obtain ⟨stage, index, request, _, _, handle, rfl, _⟩ := exists_stage_of_handedOut told handedOut
  exact handle.perform_ne_noSuchToken target

theorem due_error_of_later {happenings : List Happening} {past between rest : List Dealing}
    {dealing next : Dealing} {number other : Nat}
    (told : Registry.dealings {} happenings = past ++ dealing :: (between ++ next :: rest))
    (handedOut : ∃ earlier ∈ past, earlier.reply = .token number)
    (related : Related (past ++ dealing :: between) other number)
    (fails : ∃ interruption, due past number dealing.moment = .error interruption) :
    ∃ interruption, due (past ++ dealing :: between) other next.moment = .error interruption := by
  have included : past ⊆ past ++ dealing :: between := List.subset_append_left _ _
  obtain ⟨before, _, request, after, _, _, same, follows⟩ :=
    exists_stage_of_handedOut told handedOut
  rw [← List.singleton_append, ← List.append_assoc, ← List.append_assoc, List.append_assoc past,
    List.singleton_append] at told
  obtain ⟨earlier, member, isToken⟩ := handedOut
  obtain ⟨stage, index, _, _, reflects, handle, _, _⟩ :=
    exists_stage_of_handedOut told ⟨earlier, included member, isToken⟩
  have ofOther : stage.Handles index other := (reflects.related_iff handle).1 related
  have kin {root : Nat} (toNumber : Related past root number) :
      Related (past ++ dealing :: between) root other :=
    (reflects.related_iff ofOther).2 ((reflects.related_iff handle).1 (toNumber.mono included))
  have inOrder : dealing.moment ≤ next.moment := by
    have later : next ∈ (before.perform request).2.dealings after := by
      rw [follows]
      exact List.mem_append_right _ List.mem_cons_self
    have ordered := Registry.now_le_moment later
    rw [Registry.now_perform] at ordered
    exact same ▸ ordered
  rw [due_error_iff] at fails ⊢
  rcases fails with ⟨reason, moment, canceller, member, toNumber⟩ | ⟨ending, passed, expires⟩
  · exact .inl ⟨reason, moment, canceller, included member, kin toNumber⟩
  · obtain ⟨start, lifetime, root, member, toNumber, ends⟩ := expires
    exact .inr ⟨ending, Nat.le_trans passed inOrder, start, lifetime, root, included member,
      kin toNumber, ends⟩

/-- A token that was handed out is reported with the outcome that is due. -/
theorem answers_follow_related_operations (happenings : List Happening)
    {past later : List Dealing} {dealing : Dealing}
    (told : Registry.dealings {} happenings = past ++ dealing :: later) {number : Nat}
    (handedOut : ∃ earlier ∈ past, earlier.reply = .token number) :
    (dealing.request = .check number →
      dealing.reply = .checked (due past number dealing.moment)) ∧
    (dealing.request = .isCancelled number →
      dealing.reply = .holds (!(due past number dealing.moment).isOk)) ∧
    ((∃ interruption, due past number dealing.moment = .error interruption) ↔
      (∃ reason, CancelledFor past reason number) ∨ Expired past number dealing.moment) ∧
    (∀ reason, due past number dealing.moment = .error ⟨reason⟩ →
      CancelledFor past reason number ∨ reason = "deadline exceeded") ∧
    (∀ between next rest other, later = between ++ next :: rest →
      Related (past ++ dealing :: between) other number →
      (∃ interruption, due past number dealing.moment = .error interruption) →
      ∃ interruption,
        due (past ++ dealing :: between) other next.moment = .error interruption) ∧
    due (concerning past number) number dealing.moment = due past number dealing.moment := by
  refine ⟨?checked, ?holds, due_error_iff, fun _ => due_reason, ?kept, due_concerning⟩
  case checked =>
    intro asked
    obtain ⟨stage, index, request, _, reflects, handle, rfl, _⟩ :=
      exists_stage_of_handedOut told handedOut
    subst asked
    exact (congrArg Prod.fst (handle.withToken _)).trans
      (congrArg Reply.checked (reflects.check handle))
  case holds =>
    intro asked
    obtain ⟨stage, index, request, _, reflects, handle, rfl, _⟩ :=
      exists_stage_of_handedOut told handedOut
    subst asked
    refine (congrArg Prod.fst (handle.withToken _)).trans (congrArg Reply.holds ?_)
    rw [Store.isCancelled_eq, reflects.check handle]
    rfl
  case kept =>
    rintro between next rest other rfl related fails
    exact due_error_of_later told handedOut related fails

/-- The reason for which a copy is cancelled is due on the original, whose deadline has passed too. -/
theorem expired_token_reports_the_reason_for_its_copy :
    let past : List Dealing := [⟨0, .create (.deadline 0), .token 0⟩, ⟨0, .clone 0, .token 1⟩,
      ⟨0, .cancel 1 "user abort", .done⟩]
    Registry.dealings {} [.asked (.create (.deadline 0)), .asked (.clone 0),
        .asked (.cancel 1 "user abort"), .waited 7, .asked (.check 0)] =
      past ++ [⟨7, .check 0, .checked (.error ⟨"user abort"⟩)⟩] ∧
    due past 0 7 = .error ⟨"user abort"⟩ := by
  intro past
  have told : Registry.dealings {} [.asked (.create (.deadline 0)), .asked (.clone 0),
        .asked (.cancel 1 "user abort"), .waited 7, .asked (.check 0)] =
      past ++ [⟨7, .check 0, .checked (.error ⟨"user abort"⟩)⟩] := rfl
  have ⟨checked, _⟩ := answers_follow_related_operations _ told ⟨_, List.mem_cons_self, rfl⟩
  exact ⟨told, (Reply.checked.inj (checked rfl)).symm⟩

end DeltaFrames.Cancellation
