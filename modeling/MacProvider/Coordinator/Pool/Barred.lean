import MacProvider.Coordinator.Pool.Registry
import Mathlib.Tactic.SplitIfs

/-! # Sessions that are barred from service

A session is barred while it is unavailable, or held. Under a hold a provider stays `degraded`. But
a report other than `ready` is applied to an unavailable session, and then `ready` is as well. -/

namespace MacProvider.Coordinator.Pool.Barred

open Lib.Runs Pool.Registry

/-! ### Sessions and holders -/

/-- The session and its state. -/
def session (e : Entry) : Option (String × State) := e.provider.map fun p => (p.assignedID, p.state)

/-- The session that is held. -/
def holder (e : Entry) : Option String := e.recoveryHold.map RecoveryHold.assignedID

variable {e : Entry} {p : Provider} {aid : String}

theorem session_of_provider (h : e.provider = some p) :
    session e = some (p.assignedID, p.state) := by
  rw [session, h]
  rfl

theorem held_iff : e.held aid = true ↔ holder e = some aid := by
  cases h : e.recoveryHold <;> simp [Entry.held, holder, h]

theorem current_eq
    (h : e.current aid = some p) : e.provider = some p ∧ p.assignedID = aid := by
  obtain ⟨hp, hid⟩ := Option.filter_eq_some_iff.mp h
  exact ⟨hp, of_decide_eq_true hid⟩

theorem session_setState (e : Entry) (p : Provider) (next : State) :
    session (e.setState p next) = some (p.assignedID, next) := by
  unfold Entry.setState
  split_ifs <;> rfl

theorem holder_setState (e : Entry) (p : Provider) (next : State) :
    holder (e.setState p next) = if next = .unavailable then none else holder e := by
  unfold Entry.setState
  split_ifs <;> rfl

/-! ### What a method can do -/

/-- The state that a method asks for a session. -/
def Asks : Method → String → State → Prop
  | .heartbeat assignedID hb, id, st => id = assignedID ∧ hb.status = some st
  | .stateUpdate assignedID update, id, st => id = assignedID ∧ st = update.state
  | .drainStatus assignedID starting, id, st =>
    id = assignedID ∧ st = .draining ∧ starting = true
  | .markState assignedID state, id, st => id = assignedID ∧ st = state
  | _, _, _ => False

/-- A registration, `MarkRecovered`, a canary that passes, or an operator. -/
def Lifts (e : Entry) (assignedID : String) : Method → Prop
  | .register _ _ => True
  | .markRecovered id _ => id = assignedID
  | .recordCanaryResult id passed _ _ _ => id = assignedID ∧ passed = true
  | .clearCanarySanction =>
    holder e = some assignedID ∧ session e ≠ some (assignedID, .degraded)
  | _ => False

/-- What a method does. `A` says that it asks for a state, without which an unavailable session
keeps its own; `L` that it lifts the bar, without which a hold stays. -/
inductive Effect (A : String → State → Prop) (L : String → Prop) (e e' : Entry) : Prop
  | quiet (hsession : session e' = session e) (hholder : holder e' = holder e)
  | gone (hsession : session e' = none)
  | set (p : Provider) (next : State) (hp : e.provider = some p)
      (hready : next = .ready → holder e ≠ some p.assignedID ∧ p.state ≠ .unavailable)
      (hasked : p.state = .unavailable → A p.assignedID next)
      (hsession : session e' = some (p.assignedID, next))
      (hholder : holder e' = if next = .unavailable then none else holder e)
  | hold (p : Provider) (hp : e.provider = some p)
      (hsession : session e' = some (p.assignedID, .degraded))
      (hholder : holder e' = some p.assignedID)
  | lifted (hsound : holder e' = none ∨ ∀ id, session e' ≠ some (id, .ready))
      (hlifts : ∀ id st, session e' = some (id, st) →
        L id ∨ session e = some (id, st) ∧ holder e ≠ some id)

section Effects
variable {A : String → State → Prop} {L : String → Prop} {e : Entry} {aid : String}

theorem effect_refl : Effect A L e e := .quiet rfl rfl

variable {p : Provider} {e' : Entry} {next : State}

theorem effect_hold {p' : Provider} (reason : RecoveryReason)
    (hp : e.provider = some p) (hid : p'.assignedID = p.assignedID) :
    Effect A L e (e'.hold p' reason) := by
  refine .hold p hp ?_ ?_
  · rw [← hid]
    exact session_setState e' p' .degraded
  · rw [← hid]
    rfl

theorem ready_of_canSetCoordinatorState
    (h : e.canSetCoordinatorState p next = true) (hnext : next = .ready) :
    holder e ≠ some p.assignedID ∧ p.state ≠ .unavailable := by
  simp only [Entry.canSetCoordinatorState, ne_eq] at h
  split_ifs at h with hheld
  exact ⟨fun hholder => hheld (held_iff.mpr hholder), of_decide_eq_true h⟩

theorem ready_of_canApplyProviderState
    (h : e.canApplyProviderState p next = true) (hnext : next = .ready) :
    holder e ≠ some p.assignedID ∧ p.state ≠ .unavailable := by
  subst hnext
  simp only [Entry.canApplyProviderState, ne_eq, not_true_eq_false, if_false] at h
  split_ifs at h with hheld
  · exact absurd (of_decide_eq_true h) (by decide)
  · exact ⟨fun hholder => hheld (held_iff.mpr hholder), of_decide_eq_true h⟩

theorem effect_markState (state : State) :
    Effect (fun id next => id = aid ∧ next = state) L e (e.markState aid state).1 := by
  unfold Entry.markState
  split
  · exact effect_refl
  · rename_i p hcurrent
    obtain ⟨hp, hid⟩ := current_eq hcurrent
    split_ifs with hcan
    · exact .set p state hp (ready_of_canSetCoordinatorState hcan) (fun _ => ⟨hid, rfl⟩)
        (session_setState e p state) (holder_setState e p state)
    · exact effect_refl

theorem effect_applyHeartbeat (hb : Entry.HeartbeatUpdate) :
    Effect (fun id next => id = aid ∧ hb.status = some next) L e
      (e.applyHeartbeat aid hb).1 := by
  unfold Entry.applyHeartbeat
  split
  · exact effect_refl
  · rename_i p hcurrent
    obtain ⟨hp, hid⟩ := current_eq hcurrent
    dsimp only
    split
    · exact .quiet (session_of_provider hp).symm rfl
    · rename_i status hstatus
      split_ifs with hcan
      · exact .set p status hp (ready_of_canApplyProviderState hcan.2) (fun _ => ⟨hid, hstatus⟩)
          (session_setState _ _ status) (holder_setState _ _ status)
      · exact .quiet (session_of_provider hp).symm rfl

theorem effect_applyStateUpdate (update : Entry.StateUpdate) :
    Effect (fun id next => id = aid ∧ next = update.state) L e
      (e.applyStateUpdate aid update).1 := by
  unfold Entry.applyStateUpdate
  split
  · exact effect_refl
  · rename_i p hcurrent
    obtain ⟨hp, hid⟩ := current_eq hcurrent
    split_ifs with hcan
    · exact .set p update.state hp (ready_of_canApplyProviderState hcan) (fun _ => ⟨hid, rfl⟩)
        (session_setState _ _ update.state) (holder_setState _ _ update.state)
    · exact .quiet (session_of_provider hp).symm rfl

theorem effect_markDegradedForRecovery (reason : RecoveryReason) :
    Effect A L e (e.markDegradedForRecovery aid reason).1 := by
  unfold Entry.markDegradedForRecovery
  split
  · exact effect_refl
  · rename_i p hcurrent
    split_ifs
    · exact effect_refl
    · exact effect_hold reason (current_eq hcurrent).1 rfl

theorem effect_recordBreakerFault (time threshold window : ℤ) :
    Effect A L e (e.recordBreakerFault aid time threshold window).1 := by
  unfold Entry.recordBreakerFault
  dsimp only
  generalize (if threshold ≤ 0 then 2 else threshold) = threshold
  generalize (if window ≤ 0 then 120000000000 else window) = window
  split
  · exact effect_refl
  · rename_i p hcurrent
    obtain ⟨hp, hid⟩ := current_eq hcurrent
    split_ifs with hstate
    · exact effect_refl
    · exact .quiet rfl rfl
    · refine .set p .unavailable hp (fun h => by cases h) (fun hdown => ?_)
        (session_setState _ p .unavailable) (holder_setState _ p .unavailable)
      rw [hdown] at hstate
      exact absurd ⟨by decide, by decide⟩ hstate
    · exact effect_hold .breaker hp rfl

/-- A provider behind a probe. -/
def probed (p : Provider) (time : ℤ) : Provider := { p with canaryLastCheckedAt := some time }

theorem effect_canaryFailed (hp : e.provider = some p) (hup : p.state ≠ .unavailable)
    (time threshold : ℤ) (floorHeld : Bool) :
    Effect A L e (e.canaryFailed (probed p time) time threshold floorHeld).1 := by
  have hsession := session_of_provider hp
  unfold Entry.canaryFailed
  dsimp only
  split_ifs
  · exact .quiet hsession.symm rfl
  · exact .quiet hsession.symm rfl
  · exact .set p .unavailable hp (fun h => by cases h) (fun hdown => absurd hdown hup)
      (session_setState _ _ .unavailable) (holder_setState _ _ .unavailable)
  · exact .hold p hp rfl rfl

theorem effect_ready (hsession : session e' = some (aid, .ready))
    (hholder : holder e' = none) (h : L aid) : Effect A L e e' := by
  refine .lifted (Or.inl hholder) fun id st hst => Or.inl ?_
  rw [hsession] at hst
  cases hst
  exact h

theorem effect_recordCanaryResult (passed : Bool) (time threshold : ℤ) (floorHeld : Bool) :
    Effect A (fun id => aid = id ∧ passed = true) e
      (e.recordCanaryResult aid passed time threshold floorHeld).1 := by
  unfold Entry.recordCanaryResult
  generalize (if threshold ≤ 0 then 3 else threshold) = threshold
  split
  · exact effect_refl
  · rename_i p hcurrent
    obtain ⟨hp, hid⟩ := current_eq hcurrent
    split_ifs with hskip hpassed
    · exact effect_refl
    · unfold Entry.canaryPassed
      split_ifs
      · exact effect_ready (hid ▸ session_setState _ _ .ready) (holder_setState _ _ .ready)
          ⟨rfl, hpassed⟩
      · exact .quiet (session_of_provider hp).symm rfl
    · exact effect_canaryFailed hp (fun hdown => hskip (Or.inr (Or.inl hdown))) time threshold
        floorHeld

theorem effect_markRecovered (time : ℤ) :
    Effect A (fun id => aid = id) e (e.markRecovered aid time).1 := by
  unfold Entry.markRecovered
  split
  · rename_i p hold hcurrent hhold
    have hsession := session_setState e p .ready
    rw [(current_eq hcurrent).2] at hsession
    split_ifs
    · exact effect_refl
    · exact effect_ready hsession rfl rfl
    · exact effect_ready hsession rfl rfl
  · exact effect_refl

theorem effect_clearCanarySanction :
    Effect A (fun id => holder e = some id ∧ session e ≠ some (id, .degraded)) e
      e.clearCanarySanction.1 := by
  have hcleared : session { e with
      provider := e.provider.map fun p =>
        { p with canaryFailCount := 0, canaryLastFailedAt := none }
      canarySanction := none } = session e := by
    cases hp : e.provider <;> simp [session, hp]
  unfold Entry.clearCanarySanction
  split
  · rename_i id hhold
    split_ifs with hdeg
    · exact .quiet hcleared (by simp [holder, hhold])
    · refine .lifted (Or.inl rfl) fun id' st hst => ?_
      by_cases hheld : holder e = some id'
      · refine Or.inl ⟨hheld, fun hsession => hdeg ?_⟩
        obtain ⟨p, hp, heq⟩ := Option.map_eq_some_iff.mp hsession
        rw [holder, hhold] at hheld
        cases hheld
        simp [hp, Prod.mk.inj heq]
      · exact Or.inr ⟨hcleared ▸ hst, hheld⟩
  · exact .quiet hcleared rfl

theorem effect_register (p : Provider) (staged : Option (List UInt8)) :
    Effect A (fun _ => True) e (e.register p staged).1 := by
  unfold Entry.register
  split_ifs
  · exact effect_refl
  · split
    · exact effect_refl
    · unfold Entry.applyCanarySanction
      dsimp only
      split
      · exact .lifted (Or.inl rfl) fun _ _ _ => Or.inl trivial
      · split_ifs
        · exact .lifted (Or.inl rfl) fun _ _ _ => Or.inl trivial
        · exact .lifted (Or.inr fun _ hid => by cases hid) fun _ _ _ => Or.inl trivial

theorem effect_removeIfSession : Effect A L e (e.removeIfSession aid).1 := by
  unfold Entry.removeIfSession
  split
  · exact effect_refl
  · exact .gone rfl

theorem effect_removeIfSessionState (state : State) :
    Effect A L e (e.removeIfSessionState aid state).1 := by
  unfold Entry.removeIfSessionState
  split
  · exact effect_refl
  · split_ifs
    · exact .gone rfl
    · exact effect_refl

/-- **Every method has an effect.** -/
theorem effect_apply (e : Entry) (m : Method) :
    Effect (Asks m) (fun id => Lifts e id m) e (m.apply e) := by
  cases m with
  | heartbeat aid hb => exact effect_applyHeartbeat hb
  | stateUpdate aid update => exact effect_applyStateUpdate update
  | drainStatus aid starting =>
    cases starting with
    | false => exact effect_refl
    | true =>
      have hasks : Asks (.drainStatus aid true) =
          fun id next => id = aid ∧ next = .draining := by
        funext id next
        simp [Asks]
      rw [hasks]
      exact effect_markState .draining
  | markState aid state => exact effect_markState state
  | markDegradedForRecovery aid reason => exact effect_markDegradedForRecovery reason
  | markRecovered aid time => exact effect_markRecovered time
  | recordBreakerFault aid time threshold window =>
    exact effect_recordBreakerFault time threshold window
  | recordCanaryResult aid passed time threshold floorHeld =>
    exact effect_recordCanaryResult passed time threshold floorHeld
  | clearCanarySanction => exact effect_clearCanarySanction
  | register p staged => exact effect_register p staged
  | removeIfSession aid => exact effect_removeIfSession
  | removeIfSessionState aid state => exact effect_removeIfSessionState state

end Effects

/-- A held session is not ready. -/
def Sound (e : Entry) : Prop := ∀ id, session e = some (id, .ready) → holder e ≠ some id

theorem Sound.effect {A : String → State → Prop} {L : String → Prop} {e' : Entry} (h : Sound e)
    (heff : Effect A L e e') : Sound e' := by
  intro id hid hholder
  cases heff with
  | quiet hsession hholder' => exact h id (hsession ▸ hid) (hholder' ▸ hholder)
  | gone hsession =>
    rw [hsession] at hid
    cases hid
  | set p next hp hready hasked hsession hholder' =>
    rw [hsession] at hid
    cases hid
    rw [hholder', if_neg (by decide)] at hholder
    exact (hready rfl).1 hholder
  | hold p hp hsession hholder' =>
    rw [hsession] at hid
    cases hid
  | lifted hsound hlifts =>
    rcases hsound with hnone | hready
    · rw [hnone] at hholder
      cases hholder
    · exact hready id hid

theorem sound_of_reaches {sanctions : String → Option CanarySanction} {r : Sessions}
    (h : Reaches step (fun _ _ => True) (Sessions.init sanctions) r) (pid : String) :
    Sound (r pid) := by
  refine reaches_induction (I := fun r => ∀ pid, Sound (r pid)) h ?_ ?_ pid
  · exact fun _ _ hid => by cases hid
  · exact fun r c hr _ => (Function.forall_update_iff r fun _ e => Sound e).mpr
      ⟨(hr _).effect (effect_apply _ c.method), fun pid _ => hr pid⟩

/-- Unavailable, held and not ready, or gone. -/
def Out (assignedID : String) (e : Entry) : Prop :=
  ∀ st, session e = some (assignedID, st) →
    st = .unavailable ∨ holder e = some assignedID ∧ st ≠ .ready

/-- The bar stays, and an unavailable session is asked for `ready` or `unavailable` only. -/
def Kept (e : Entry) (assignedID : String) (m : Method) : Prop :=
  ¬ Lifts e assignedID m ∧
    (session e = some (assignedID, .unavailable) →
      ∀ st, Asks m assignedID st → st = .ready ∨ st = .unavailable)

/-- **One method**: a session that is out stays out. -/
theorem Out.apply (h : Out aid e) {m : Method} (hm : Kept e aid m) : Out aid (m.apply e) := by
  intro st hst
  cases effect_apply e m with
  | quiet hsession hholder =>
    rw [hholder]
    exact h st (hsession ▸ hst)
  | gone hsession =>
    rw [hsession] at hst
    cases hst
  | set p next hp hready hfrom hsession hholder =>
    rw [hsession] at hst
    obtain ⟨rfl, rfl⟩ := Prod.mk.inj (Option.some.inj hst)
    have hsess := session_of_provider hp
    rcases h p.state hsess with hdown | ⟨hheld, -⟩
    · rw [hdown] at hsess
      rcases hm.2 hsess next (hfrom hdown) with hnext | hnext
      · exact absurd hdown (hready hnext).2
      · exact Or.inl hnext
    · by_cases hnext : next = .unavailable
      · exact Or.inl hnext
      · rw [hholder, if_neg hnext]
        exact Or.inr ⟨hheld, fun hr => (hready hr).1 hheld⟩
  | hold p hp hsession hholder =>
    rw [hsession] at hst
    obtain ⟨rfl, rfl⟩ := Prod.mk.inj (Option.some.inj hst)
    exact Or.inr ⟨hholder, by decide⟩
  | lifted hsound hlifts =>
    rcases hlifts aid st hst with hlift | ⟨hsession, hheld⟩
    · exact absurd hlift hm.1
    · exact (h st hsession).imp_right fun hbar => absurd hbar.1 hheld

/-- The session is unavailable or held. -/
def IsBarred (r : Sessions) (providerID assignedID : String) : Prop :=
  ∃ p, (r providerID).provider = some p ∧ p.assignedID = assignedID ∧
    (p.state = .unavailable ∨ (r providerID).held assignedID = true)

/-- The session gets no requests. -/
def OutOfService (r : Sessions) (providerID assignedID : String) : Prop :=
  ∀ p, (r providerID).provider = some p → p.assignedID = assignedID →
    p.state ≠ .ready ∧ p.routingEligible = false

/-- The call keeps the bar. -/
def KeepsOut (providerID assignedID : String) (r : Sessions) (c : Call) : Prop :=
  c.providerID = providerID → Kept (r providerID) assignedID c.method

theorem routingEligible_of_state (h : p.state ≠ .ready) : p.routingEligible = false := by
  simp [Provider.routingEligible, h]

/-- **A barred session stays out of service**, over any calls, until the bar is lifted, if nothing
but `ready` and `unavailable` is asked for it while it is unavailable. -/
theorem barred_session_stays_out {sanctions : String → Option CanarySanction} {r r' : Sessions}
    {providerID assignedID : String}
    (hr : Reaches step (fun _ _ => True) (Sessions.init sanctions) r)
    (hbarred : IsBarred r providerID assignedID)
    (hrun : Reaches step (KeepsOut providerID assignedID) r r') :
    OutOfService r' providerID assignedID := by
  have hout : Out assignedID (r' providerID) := by
    refine reaches_induction (I := fun r => Out assignedID (r providerID)) hrun ?_ ?_
    · obtain ⟨p, hp, rfl, hbar⟩ := hbarred
      intro st hst
      obtain rfl : p.state = st :=
        (Prod.mk.inj (Option.some.inj ((session_of_provider hp).symm.trans hst))).2
      refine hbar.imp_right fun hheld => ⟨held_iff.mp hheld, fun hready => ?_⟩
      rw [hready] at hst
      exact sound_of_reaches hr providerID p.assignedID hst (held_iff.mp hheld)
    · intro r c hr hc
      by_cases hid : c.providerID = providerID
      · subst hid
        simp only [step, Function.update_self]
        exact hr.apply (hc rfl)
      · simp only [step, Function.update_of_ne (Ne.symm hid)]
        exact hr
  intro p hp hpid
  have hready : p.state ≠ .ready := by
    have hsess := session_of_provider hp
    rw [hpid] at hsess
    rcases hout p.state hsess with hdown | ⟨-, hready⟩
    · rw [hdown]
      decide
    · exact hready
  exact ⟨hready, routingEligible_of_state hready⟩

def demoProvider : Provider :=
  ⟨"s1", .ready, .pinned, .bearerValidated, .other, [], false, false, false, false, false, 1, 1,
    none, 0, none, none⟩

def demoUpdate (state : State) : Call := ⟨"p1", .stateUpdate "s1" ⟨state, none, none⟩⟩

theorem repeated_ready_stays_out :
    OutOfService (run step (Sessions.init fun _ => none)
      [⟨"p1", .register demoProvider (some [])⟩, ⟨"p1", .markState "s1" .unavailable⟩,
        demoUpdate .ready, demoUpdate .unavailable, demoUpdate .ready]) "p1" "s1" := by
  have hstart : Reaches step (fun _ _ => True) (Sessions.init fun _ => none)
      (run step (Sessions.init fun _ => none)
        [⟨"p1", .register demoProvider (some [])⟩, ⟨"p1", .markState "s1" .unavailable⟩]) :=
    reaches_run (fun _ _ => trivial) _ _
  have hkept : ∀ r st, st = State.ready ∨ st = State.unavailable →
      KeepsOut "p1" "s1" r (demoUpdate st) := by
    rintro r st hst -
    exact ⟨id, fun _ st' hasks => hasks.2 ▸ hst⟩
  refine barred_session_stays_out hstart ⟨{ demoProvider with state := .unavailable }, ?_, rfl,
    Or.inl rfl⟩ (.step _ (.step _ (.step _ .refl (hkept _ .ready (Or.inl rfl)))
      (hkept _ .unavailable (Or.inr rfl))) (hkept _ .ready (Or.inl rfl)))
  decide +kernel

theorem busy_then_ready_is_back :
    ((run step (Sessions.init fun _ => none)
      [⟨"p1", .register demoProvider (some [])⟩, ⟨"p1", .markState "s1" .unavailable⟩,
        demoUpdate .busy, demoUpdate .ready]) "p1").provider.map
          (fun p => (p.assignedID, p.state, p.routingEligible)) = some ("s1", .ready, true) := by
  decide +kernel

end MacProvider.Coordinator.Pool.Barred
