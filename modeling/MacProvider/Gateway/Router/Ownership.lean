import MacProvider.Gateway.Router.Admission

/-! # Whose reservation a run undoes

A run undoes its reservation by key. It is its own (`Inv`) as long as no `ReserveQuota` breaks off
on a taken key, and none inserts while another run of the key may refund (`Permitted`). -/

namespace MacProvider.Gateway.Router.Ownership

open Gateway.Time Store.Schema Store.Ops Store.Effects Store.Steps Router.Admission Lib.Tables
open Lib.Calls Lib.Runs
open Lib.Transactions (Fault)

variable {ι : Type} [DecidableEq ι]

/-- Past its `ReserveQuota`, it may refund `k`. -/
def Waiting (p : Runs ι) (i : ι) (k : Key) : Prop :=
  ¬ (p.progs i).MayCall IsReserve ∧ (p.progs i).MayCall (IsRefund k)

/-- `ReserveQuota` on a taken key does not fail in its first four calls; on a free one no other run
waits. -/
def Permitted (p : Runs ι) : Action ι → Prop
  | .env _ => True
  | .call i f => ∀ req k, p.progs i = .call (.reserveQuota req) k →
      (∀ q, p.state.db.quota.find? req.key = some q → q.status = .active →
        ∀ n e, f = .call n e → 4 ≤ n) ∧
      (p.state.db.quota.find? req.key = none → ∀ j, j ≠ i → ¬ Waiting p j req.key)

/-- Reservations of others stay active, or expire. -/
def OthersKept (p : Runs ι) (i : ι) (f : Fault SqlErr) : Prop :=
  ∀ k q, p.state.db.quota.find? k = some q → q.status = .active → p.state.owner k ≠ some i →
    ∃ q', (step p (.call i f)).state.db.quota.find? k = some q' ∧
      (q' = q ∨ ∃ now, reapable now q = true ∧ q' = QuotaRow.close q .expired now)

/-! ### What the steps do to the reservations -/

variable {k : Key} {f : Fault SqlErr} {db : Db} {q' : QuotaRow}

theorem active_of_effect {o : Op} {db' : Db} (h : Effect o db db')
    (ho : ∀ clock req, o ≠ .reserveQuota clock req) (hq : db'.quota.find? k = some q')
    (ha : q'.status = .active) : ∃ q, db.quota.find? k = some q ∧ q.status = .active := by
  cases h with
  | same => exact ⟨q', hq, ha⟩
  | update quiet =>
    rw [find?_withUpdate] at hq
    obtain ⟨q, h₀, rfl⟩ := Option.map_eq_some_iff.mp hq
    split_ifs at ha with hp
    · exact ⟨q, h₀, (quiet q hp).active⟩
    · exact ⟨q, h₀, ha⟩
  | delete closed =>
    rw [Table.find?_delete] at hq
    exact ⟨q', (Option.filter_eq_some_iff.mp hq).1, ha⟩
  | reserve called => exact absurd called (ho _ _)
  | @settle clock s q total usage demo called settles =>
    by_cases hk : k = s.key
    · subst hk
      exact ⟨q, settles.found, settles.active⟩
    · have hsame := onlyTouches_settledDb db s total (s.settledAt.getD clock) usage k hk
      exact ⟨q', hsame.symm.trans hq, ha⟩

theorem acquire_quota (clock : Instant) (req : ConcurrencyRequest) (f : Fault SqlErr) (db : Db) :
    ((acquireConcurrency clock req).run f db).2.quota = db.quota := by
  rcases acquireConcurrency_cases clock req f db with
    ⟨r, h, -⟩ | ⟨r, w, h, ⟨-, rfl⟩ | ⟨d, e, t, -, rfl, -⟩⟩ <;> rw [h]
  · rfl

theorem release_quota (k : Key) (t : Instant) (f : Fault SqlErr) (db : Db) :
    (autocommit (releaseConcurrency 0 k (some t)) f db).2.quota = db.quota := by
  unfold autocommit
  rcases f.now with _ | e <;> rfl

theorem active_of_call {c : Call} (hc : ¬ IsReserve c)
    (hq : (c.run f db).2.quota.find? k = some q') (ha : q'.status = .active) :
    ∃ q, db.quota.find? k = some q ∧ q.status = .active := by
  cases c with
  | reserveQuota req => exact absurd trivial hc
  | refundReservation k' t =>
    exact active_of_effect (run_effect f db (.refundReservation k' t)) nofun hq ha
  | acquireConcurrency req => exact ⟨q', (acquire_quota 0 req f db) ▸ hq, ha⟩
  | releaseConcurrency k' t => exact ⟨q', (release_quota k' t f db) ▸ hq, ha⟩

omit [DecidableEq ι] in
theorem active_of_env {e : Env} {w : World ι} (hq : (Env.run w e).db.quota.find? k = some q')
    (ha : q'.status = .active) : ∃ q, w.db.quota.find? k = some q ∧ q.status = .active := by
  cases e with
  | reservations o f ho => exact active_of_effect (run_effect f w.db o) ho hq ha
  | release k' t f => exact ⟨q', (release_quota k' t f w.db) ▸ hq, ha⟩

theorem reserve_row {clock : Instant} {req : ReservationRequest} {q : QuotaRow}
    (hq : db.quota.find? k = some q) :
    ∃ q', ((reserveQuota clock req).run f db).2.quota.find? k = some q' ∧
      (q' = q ∨ ∃ now, reapable now q = true ∧ q' = QuotaRow.close q .expired now) := by
  rcases reserveQuota_cases clock req f db with
    ⟨r, h, -⟩ | ⟨r, w, h, d, e, t, -, rfl, -, -, ht, -⟩ <;> rw [h]
  · exact ⟨q, hq, Or.inl rfl⟩
  · have hr : (reaped (req.createdAt.getD clock) db).quota.find? k =
        some (if reapable (req.createdAt.getD clock) q then
          QuotaRow.close q .expired (req.createdAt.getD clock) else q) := by
      unfold reaped
      rw [find?_withUpdate, hq, Option.map_some]
    have hne : (req.row (req.createdAt.getD clock)).key ≠ k := by
      intro hk
      rw [← hk, (Table.insert_eq_some ht).1] at hr
      cases hr
    refine ⟨_, (Table.find?_insert ht k).trans ((if_neg hne).trans hr), ?_⟩
    split_ifs with hrp
    · exact Or.inr ⟨_, hrp, rfl⟩
    · exact Or.inl rfl

theorem reserve_active {clock : Instant} {req : ReservationRequest}
    (hq : ((reserveQuota clock req).run f db).2.quota.find? k = some q')
    (ha : q'.status = .active) :
    (∃ q, db.quota.find? k = some q ∧ q.status = .active) ∨
      (k = req.key ∧ db.quota.find? k = none) := by
  rcases hdb : db.quota.find? k with _ | q
  · refine Or.inr ⟨?_, rfl⟩
    rcases reserveQuota_cases clock req f db with
      ⟨r, h, -⟩ | ⟨r, w, h, d, e, t, -, rfl, -, -, ht, -⟩
    · rw [h, hdb] at hq; cases hq
    · rw [h] at hq
      rw [Table.find?_insert ht] at hq
      split_ifs at hq with hk
      · exact hk.symm
      · unfold reaped at hq
        rw [find?_withUpdate, hdb] at hq
        cases hq
  · obtain ⟨q₁, h₁, hcases⟩ := @reserve_row k f db clock req q hdb
    cases h₁.symm.trans hq
    rcases hcases with rfl | ⟨now, -, rfl⟩
    · exact Or.inl ⟨_, rfl, ha⟩
    · cases ha

/-! ### The invariant -/

/-- A run that may refund has inserted it. -/
structure Inv (cfg : Config) (r : ι → ChatRequest) (p : Runs ι) : Prop where
  staged : Staged cfg r p
  /-- The active reservation of a key is that of the run that may still refund it. -/
  own : ∀ i k, Waiting p i k → ∀ q, p.state.db.quota.find? k = some q → q.status = .active →
    p.state.owner k = some i

omit [DecidableEq ι] in
theorem inv_start (cfg : Config) (r : ι → ChatRequest) (db : Db) : Inv cfg r (start cfg r db) where
  staged i := stage_handler cfg (r i)
  own i k hw := by
    -- a run at its start is not waiting
    intro q hq ha
    exfalso
    obtain ⟨hres, href⟩ := hw
    unfold start handleChatCompletions at hres href
    dsimp only at hres href
    split_ifs at hres href
    · exact href
    · exact hres (Or.inl trivial)

section Step
variable {cfg : Config} {r : ι → ChatRequest} {p : Runs ι}

omit [DecidableEq ι] in
theorem inv_env (h : Inv cfg r p) (e : Env) : Inv cfg r { p with state := Env.run p.state e } where
  staged := h.staged
  own i k hw q hq ha := by
    obtain ⟨q₀, hq₀, ha₀⟩ := active_of_env hq ha
    have howner : (Env.run p.state e).owner = p.state.owner := by cases e <;> rfl
    rw [howner]
    exact h.own i k hw q₀ hq₀ ha₀

variable {i : ι} {f : Fault SqlErr}

theorem own_call {c : Call} {k : Answer c → Prog Answer Outcome} (h : Inv cfg r p)
    (hp : p.progs i = .call c k) (hnr : ¬ (Prog.call c k).MayCall IsReserve) :
    Inv cfg r (after p i c k f) := by
  have hc : ¬ IsReserve c := Prog.not_call_of_not_mayCall hnr
  refine ⟨staged_call h.staged hp _ _, fun j k' hw q hq ha => ?_⟩
  have hwait : Waiting p j k' := by
    rcases eq_or_ne j i with rfl | hj
    · unfold Waiting
      rw [hp]
      exact ⟨hnr, Or.inr ⟨_, by simpa only [Function.update_self] using hw.2⟩⟩
    · simpa only [Waiting, Function.update_of_ne hj] using hw
  rw [exec_db] at hq
  obtain ⟨q₀, hq₀, ha₀⟩ := active_of_call hc hq ha
  rw [exec_owner hc]
  exact h.own j k' hwait q₀ hq₀ ha₀

theorem own_reserve (h : Inv cfg r p)
    (hp : p.progs i = .call (.reserveQuota (reservation cfg (r i))) (afterReserve cfg (r i)))
    (hok : Permitted p (.call i f)) :
    Inv cfg r (after p i (.reserveQuota (reservation cfg (r i)))
      (afterReserve cfg (r i)) f) := by
  obtain ⟨hA, hB⟩ := hok _ _ hp
  refine ⟨staged_call h.staged hp _ _, fun j k' hw q hq ha => ?_⟩
  rcases eq_or_ne j i with rfl | hj
  · -- the run itself: it may refund, so it was not refused as a duplicate
    have hmay : (afterReserve cfg (r j) ((Call.reserveQuota (reservation cfg (r j))).run f
        p.state.db).1).MayCall (IsRefund k') := by
      simpa only [Function.update_self, exec_fst] using hw.2
    obtain ⟨rfl, hdup⟩ := refund_of_mayCall hmay
    rcases reserve_active hq ha with ⟨q₀, hq₀, ha₀⟩ | ⟨-, hnone⟩
    · have htaken :=
        @reserveQuota_taken p.state.db 0 (reservation cfg (r j)) f q₀ hq₀ (hA q₀ hq₀ ha₀)
      exact absurd (congrArg (fun x => x.1.2) htaken)
        (hdup (congrArg (fun x => x.1.1.admitted) htaken))
    · exact exec_owner_inserted hnone fun hn => Option.some_ne_none q (hq.symm.trans hn)
  · -- another run that waits: the key was not free
    have hwait : Waiting p j k' := by simpa only [Waiting, Function.update_of_ne hj] using hw
    rcases reserve_active hq ha with ⟨q₀, hq₀, ha₀⟩ | ⟨rfl, hnone⟩
    · rw [exec_owner_of_row (hq₀ ▸ Option.some_ne_none q₀)]
      exact h.own j k' hwait q₀ hq₀ ha₀
    · exact absurd hwait (hB hnone j hj)

theorem inv_call {c : Call} {k : Answer c → Prog Answer Outcome} (h : Inv cfg r p)
    (hok : Permitted p (.call i f)) (hp : p.progs i = .call c k) :
    Inv cfg r (after p i c k f) := by
  have hstage := h.staged i
  rw [hp] at hstage
  rcases hstage.reserve with heq | hnr
  · cases heq
    exact own_reserve h hp hok
  · exact own_call h hp hnr

theorem othersKept_of_inv (h : Inv cfg r p) (i : ι) (f : Fault SqlErr) : OthersKept p i f := by
  intro k q hq ha hown
  rcases hp : p.progs i with o | ⟨c, kont⟩
  · have hstep : step p (.call i f) = p := step_ret hp
    rw [hstep]
    exact ⟨q, hq, Or.inl rfl⟩
  have hstep : step p (.call i f) = _ := step_call hp
  rw [hstep]
  cases c with
  | reserveQuota req => exact reserve_row hq
  | acquireConcurrency req => exact ⟨q, (acquire_quota 0 req f p.state.db).symm ▸ hq, Or.inl rfl⟩
  | releaseConcurrency k' t => exact ⟨q, (release_quota k' t f p.state.db).symm ▸ hq, Or.inl rfl⟩
  | refundReservation k' t =>
    rcases eq_or_ne k k' with rfl | hk
    · -- it would be waiting for this key, and own its reservation
      have hstage := h.staged i
      rw [hp] at hstage
      rcases hstage.reserve with heq | hnr
      · cases heq
      · refine absurd (h.own i k ⟨by rw [hp]; exact hnr, ?_⟩ q hq ha) hown
        rw [hp]
        exact Or.inl rfl
    · have honly : OnlyTouches k' p.state.db ((refundReservation k' t).run f p.state.db).2 :=
        onlyTouches_close (fun r hr => key_of_isActive hr) f p.state.db
      exact ⟨q, (honly k hk).trans hq, Or.inl rfl⟩

end Step

/-- **Reservations of other runs**: if `ReserveQuota` calls are permitted, no run changes another's
active reservation before its dispatch, but may expire it. -/
theorem othersKept_of_permitted {cfg : Config} {r : ι → ChatRequest} {db : Db} {p : Runs ι}
    (h : Leads Permitted (start cfg r db) p) (i : ι) (f : Fault SqlErr) : OthersKept p i f := by
  have hinv : Inv cfg r p :=
    pool_induction h (inv_start cfg r db) (fun _ _ _ _ _ h hok hp => inv_call h hok hp)
      (fun _ e h _ => inv_env h e)
  exact othersKept_of_inv hinv i f

/-! ### Two runs of one key -/

/-- Two leases for an account. -/
def config : Config := ⟨24, 2, 1⟩

/-- An account and a request id. -/
def key : Key := ⟨"acct", "req"⟩

/-- A request. -/
def duplicate : ChatRequest where
  key := key
  promptReservation := 10
  maxTokens := 10
  dailyQuota := 100
  demo := false
  requestBound := seconds 60
  invalidConversationTag := false
  now n := seconds (1767225600 + n)

/-- Two runs of it. -/
def both : Runs Bool := start config (fun _ => duplicate) Db.empty

/-- The first has its reservation. -/
def first : Runs Bool := step both (.call true .none)

/-- The second one is cancelled before its connection. -/
def cancelled : List (Action Bool) := [.call true .none, .call false (.call 0 .canceled)]

/-- The second run is refused. -/
def second : Runs Bool := steps both cancelled

/-- The first reservation stays active. -/
theorem othersKept_refused_duplicate :
    (first.state.db.quota.find? key).map QuotaRow.status = some .active ∧
      first.state.owner key = some true ∧ OthersKept first false .none := by
  have hpermitted : Permitted both (.call true .none) := by
    intro req k _
    refine ⟨fun q _ _ n e hf => (nomatch hf), fun _ j _ hw => hw.1 ?_⟩
    exact Or.inl trivial
  have hfirst : Leads Permitted both first :=
    Reaches.step (Act.call true Fault.none) .refl hpermitted
  exact ⟨by decide +kernel, by decide +kernel, othersKept_of_permitted hfirst false .none⟩

/-- That of the first. -/
theorem refunds_reservation_of_other_run :
    ¬ ∀ p : Runs Bool, Leads anyAction both p → ∀ i f, OthersKept p i f := by
  intro hall
  have hsecond : Leads anyAction both second :=
    reaches_run (fun _ _ => trivial) both cancelled
  have hrow : second.state.db.quota.find? key =
      some ((reservation config duplicate).row (seconds 1767225601)) := by decide +kernel
  have hrefunded : ((step second (.call false .none)).state.db.quota.find? key).map
      QuotaRow.status = some .refunded := by decide +kernel
  obtain ⟨q', hq', hcases⟩ :=
    hall second hsecond false .none key _ hrow rfl (by decide +kernel)
  rw [hq', Option.map_some, Option.some.injEq] at hrefunded
  rcases hcases with rfl | ⟨now, -, rfl⟩
  · cases hrefunded
  · cases hrefunded

end MacProvider.Gateway.Router.Ownership
