import MacProvider.Gateway.Router.Ownership

/-! # At most one dispatch of a request id

Reservations are deleted some time after they are closed, leases never. A run dispatches behind the
lease it inserted (`Leased`), so at most one run of a key does. A refused run owes a refund
(`Refunds`). -/

namespace MacProvider.Gateway.Router.Dispatch

open Gateway.Time Store.Schema Store.Ops Store.Effects Store.Steps Router.Admission Router.Ownership
open Lib.Tables Lib.Calls Lib.Runs
open Lib.Transactions (Fault)

variable {ι : Type} [DecidableEq ι]

/-! ### Leases stay -/

variable {db : Db} {k : Key} {f : Fault SqlErr} {w : World ι} {i : ι} {p : Runs ι} {cfg : Config}
  {r : ι → ChatRequest}

theorem leases_of_effect {o : Op} {db' : Db} (h : Effect o db db') : db'.leases = db.leases := by
  cases h <;> rfl

theorem find?_leasesExpired_ne {account : String} {now : Instant} (h : db.leases.find? k ≠ none) :
    (leasesExpired account now db).leases.find? k ≠ none := by
  unfold leasesExpired
  rw [Table.find?_update]
  simpa using h

theorem acquire_lease (clock : Instant) (req : ConcurrencyRequest) (f : Fault SqlErr) (db : Db) :
    (∀ k, db.leases.find? k ≠ none →
      ((acquireConcurrency clock req).run f db).2.leases.find? k ≠ none) ∧
    (((acquireConcurrency clock req).run f db).1.2 = none → db.leases.find? req.key = none ∧
      ((acquireConcurrency clock req).run f db).2.leases.find? req.key ≠ none) := by
  rcases acquireConcurrency_cases clock req f db with
    ⟨r, h, hne⟩ | ⟨r, w, h, ⟨hne, rfl⟩ | ⟨d, e, t, rfl, rfl, -, -, ht⟩⟩ <;> rw [h]
  · exact ⟨fun k hk => hk, fun he => absurd he hne⟩
  · exact ⟨fun k hk => find?_leasesExpired_ne hk, fun he => absurd he hne⟩
  · refine ⟨fun k hk => ?_, fun _ => ⟨?_, ?_⟩⟩
    · rw [Table.find?_insert ht]
      split_ifs
      · exact Option.some_ne_none _
      · exact find?_leasesExpired_ne hk
    · by_contra hk
      exact find?_leasesExpired_ne hk (Table.insert_eq_some ht).1
    · rw [Table.find?_insert ht]
      exact (if_pos rfl).trans_ne (Option.some_ne_none _)

theorem release_lease {k' : Key} {t : Instant} (h : db.leases.find? k ≠ none) :
    (autocommit (releaseConcurrency 0 k' (some t)) f db).2.leases.find? k ≠ none := by
  unfold autocommit
  rcases f.now with _ | e
  · simp only [releaseConcurrency, updateLeases, Table.find?_update]
    simpa using h
  · exact h

theorem lease_of_call {c : Call} (h : db.leases.find? k ≠ none) :
    (c.run f db).2.leases.find? k ≠ none := by
  cases c with
  | reserveQuota req =>
    have := leases_of_effect (run_effect f db (.reserveQuota 0 req))
    exact this ▸ h
  | refundReservation k' t =>
    have := leases_of_effect (run_effect f db (.refundReservation k' t))
    exact this ▸ h
  | acquireConcurrency req => exact (acquire_lease 0 req f db).1 k h
  | releaseConcurrency k' t => exact release_lease h

omit [DecidableEq ι] in
theorem lease_of_env {e : Env} (h : w.db.leases.find? k ≠ none) :
    (Env.run w e).db.leases.find? k ≠ none := by
  cases e with
  | reservations o f ho => exact (leases_of_effect (run_effect f w.db o)).symm ▸ h
  | release k' t f => exact release_lease h

theorem exec_lessee (i : ι) (c : Call) (f : Fault SqlErr) (w : World ι) (k : Key) :
    (Admission.exec i c f w).2.lessee k = w.lessee k ∨
      (IsAcquire c ∧ w.db.leases.find? k = none ∧
        (Admission.exec i c f w).2.lessee k = some i) := by
  cases c with
  | acquireConcurrency req =>
    unfold Admission.exec
    dsimp only
    split_ifs with hins
    · simp only [Bool.and_eq_true, Option.isNone_iff_eq_none] at hins
      rcases eq_or_ne k req.key with rfl | hk
      · exact Or.inr ⟨trivial, hins.1, Function.update_self _ _ _⟩
      · exact Or.inl (Function.update_of_ne hk _ _)
    · exact Or.inl rfl
  | _ => exact Or.inl rfl

theorem exec_lessee_inserted {req : ConcurrencyRequest}
    (h : ((Call.acquireConcurrency req).run f w.db).1.2 = none) :
    (Admission.exec i (.acquireConcurrency req) f w).2.lessee req.key = some i := by
  obtain ⟨hnone, hsome⟩ := (acquire_lease 0 req f w.db).2 h
  unfold Admission.exec
  dsimp only
  rw [if_pos]
  · exact Function.update_self _ _ _
  · simp only [hnone, Option.isNone_none, Bool.true_and]
    exact Option.isSome_iff_ne_none.mpr hsome

/-- **A lease, and the run that inserted it, stay.** -/
theorem lessee_of_leads {p' : Runs ι} (h : Leads anyAction p p')
    (hk : p.state.db.leases.find? k ≠ none) :
    p'.state.db.leases.find? k ≠ none ∧ p'.state.lessee k = p.state.lessee k := by
  refine pool_induction h (I := fun p' => p'.state.db.leases.find? k ≠ none ∧
    p'.state.lessee k = p.state.lessee k) ⟨hk, rfl⟩ ?_ ?_
  · rintro q i f c kont ⟨hq, hl⟩ - -
    refine ⟨by rw [exec_db]; exact lease_of_call hq, ?_⟩
    rcases exec_lessee i c f q.state k with hs | ⟨-, hn, -⟩
    · exact hs.trans hl
    · exact absurd hn hq
  · rintro q e ⟨hq, hl⟩ -
    refine ⟨lease_of_env hq, Eq.trans ?_ hl⟩
    cases e <;> rfl

/-! ### Dispatched runs hold the lease of their key -/

/-- A run dispatches behind the lease it inserted. -/
structure Leased (cfg : Config) (r : ι → ChatRequest) (p : Runs ι) : Prop where
  staged : Staged cfg r p
  /-- Behind its `AcquireConcurrency`, a run that may dispatch has inserted the lease. -/
  leased : ∀ i, ¬ (p.progs i).MayCall IsAcquire → (p.progs i).MayRet (· = .dispatch) →
    p.state.db.leases.find? (r i).key ≠ none ∧ p.state.lessee (r i).key = some i
  /-- Before it, a run has inserted none. -/
  unleased : ∀ i, (p.progs i).MayCall IsAcquire → ∀ k, p.state.lessee k ≠ some i

omit [DecidableEq ι] in
theorem leased_start (cfg : Config) (r : ι → ChatRequest) (db : Db) :
    Leased cfg r (start cfg r db) where
  staged i := stage_handler cfg (r i)
  leased i hacq hret := by
    exfalso
    unfold start handleChatCompletions at hacq hret
    dsimp only at hacq hret
    split_ifs at hacq hret
    · cases hret
    · obtain ⟨a, ha⟩ := hret
      rcases afterReserve_cases a with heq | ⟨-, hno⟩
      · exact hacq (Or.inr ⟨a, heq.symm ▸ Or.inl trivial⟩)
      · exact hno ha
  unleased i _ k := nofun

section Step
variable {cfg : Config} {r : ι → ChatRequest} {p : Runs ι}

omit [DecidableEq ι] in
theorem leased_env (h : Leased cfg r p) (e : Env) :
    Leased cfg r { p with state := Env.run p.state e } := by
  have hlessee : (Env.run p.state e).lessee = p.state.lessee := by cases e <;> rfl
  refine ⟨h.staged, fun i hacq hret => ?_, fun i hacq k => ?_⟩
  · obtain ⟨hl, hi⟩ := h.leased i hacq hret
    exact ⟨lease_of_env hl, hlessee ▸ hi⟩
  · exact hlessee.symm ▸ h.unleased i hacq k

theorem dispatch_next {req : ChatRequest} {c : Call} {k : Answer c → Prog Answer Outcome}
    (h : Stage cfg req (.call c k)) {f : Fault SqlErr} {db : Db}
    (hacq : ¬ (k (c.run f db).1).MayCall IsAcquire)
    (hret : (k (c.run f db).1).MayRet (· = .dispatch)) :
    (c = .acquireConcurrency (lease cfg req) ∧
        ((Call.acquireConcurrency (lease cfg req)).run f db).1.2 = none) ∨
      ¬ (Prog.call c k).MayCall IsAcquire := by
  rcases h with heq | heq | ⟨-, hna⟩
  · cases heq
    rcases afterReserve_cases ((Call.reserveQuota (reservation cfg req)).run f db).1 with
      heq | ⟨-, hno⟩
    · exact absurd (heq.symm ▸ Or.inl trivial) hacq
    · exact absurd hret hno
  · cases heq
    exact Or.inl ⟨rfl, leased_of_dispatch hret⟩
  · exact Or.inr hna

theorem leased_call {i : ι} {f : Fault SqlErr} {c : Call} {k : Answer c → Prog Answer Outcome}
    (h : Leased cfg r p) (hp : p.progs i = .call c k) :
    Leased cfg r (after p i c k f) := by
  have hstage := h.staged i
  rw [hp] at hstage
  -- a lease that was there stays with its run
  have kept : ∀ j, p.state.db.leases.find? (r j).key ≠ none ∧ p.state.lessee (r j).key = some j →
      (Admission.exec i c f p.state).2.db.leases.find? (r j).key ≠ none ∧
        (Admission.exec i c f p.state).2.lessee (r j).key = some j := by
    rintro j ⟨hl, hj⟩
    refine ⟨by rw [exec_db]; exact lease_of_call hl, ?_⟩
    rcases exec_lessee i c f p.state (r j).key with hs | ⟨-, hn, -⟩
    · exact hs.trans hj
    · exact absurd hn hl
  refine ⟨staged_call h.staged hp _ _, fun j hacq hret => ?_, fun j hacq k' => ?_⟩
  · rcases eq_or_ne j i with rfl | hj
    · simp only [Function.update_self, exec_fst] at hacq hret
      rcases dispatch_next hstage hacq hret with ⟨rfl, hok⟩ | hna
      · refine ⟨?_, exec_lessee_inserted hok⟩
        exact ((acquire_lease 0 _ f p.state.db).2 hok).2
      · refine kept j (h.leased j (by rw [hp]; exact hna) ?_)
        rw [hp]
        exact ⟨_, hret⟩
    · simp only [Function.update_of_ne hj] at hacq hret
      exact kept j (h.leased j hacq hret)
  · dsimp only at hacq ⊢
    rcases eq_or_ne j i with rfl | hj
    · rw [Function.update_self] at hacq
      have hbefore := h.unleased j (by rw [hp]; exact Or.inr ⟨_, hacq⟩) k'
      rcases exec_lessee j c f p.state k' with hs | ⟨hc, -⟩
      · exact hs.symm ▸ hbefore
      · -- no run acquires twice
        exfalso
        rcases hstage with heq | heq | ⟨-, hna⟩
        · cases heq; exact hc
        · cases heq
          rcases mayCall_afterLease hacq with ⟨_, h⟩ | ⟨_, h⟩ <;> exact h
        · exact hna (Or.inl hc)
    · rw [Function.update_of_ne hj] at hacq
      rcases exec_lessee i c f p.state k' with hs | ⟨-, -, hs⟩ <;> rw [hs]
      · exact h.unleased j hacq k'
      · exact fun hij => hj (Option.some.inj hij).symm

end Step

theorem leased_of_leads (h : Leads anyAction (start cfg r db) p) : Leased cfg r p :=
  pool_induction h (leased_start cfg r db) (fun _ _ _ _ _ h _ hp => leased_call h hp)
    (fun _ e h _ => leased_env h e)

omit [DecidableEq ι] in
theorem lessee_of_dispatch (h : Leased cfg r p) (hi : (p.progs i).result = some .dispatch) :
    p.state.db.leases.find? (r i).key ≠ none ∧ p.state.lessee (r i).key = some i := by
  rcases hp : p.progs i with o | ⟨c, k⟩ <;> rw [hp] at hi
  · cases hi
    refine h.leased i ?_ ?_ <;> rw [hp]
    · exact id
    · exact rfl
  · cases hi

/-! ### Refused runs refund their reservation -/

section Owes
variable {cfg : Config} {r : ChatRequest}

theorem owes_afterReserve {a : QuotaDecision × Option StoreErr} (ha : a.1.admitted = true)
    (he : SqlOnly a.2) : (afterReserve cfg r a).Owes (IsRefund r.key) (· = .dispatch) := by
  obtain ⟨d, e⟩ := a
  rcases e with _ | e
  · refine Or.inr fun ⟨d, e⟩ => ?_
    rcases e with _ | e
    · show (afterAcquire r).Owes _ _
      unfold afterAcquire
      split_ifs
      · exact Or.inl rfl
      · exact rfl
    · cases e <;> exact Or.inl rfl
  · obtain ⟨s, rfl⟩ := he e rfl
    show Prog.Owes _ _ (if d.admitted then _ else _)
    rw [if_pos ha]
    exact Or.inl rfl

end Owes

theorem refund_row {t : ℕ} {q : QuotaRow}
    (hq : ((refundReservation k t).run f db).2.quota.find? k = some q) (ha : q.status = .active) :
    refundFailed ((refundReservation k t).run f db).1 = true := by
  unfold refundReservation at hq ⊢
  rcases closeReservation_cases (isActive k) (fun r => QuotaRow.close r .refunded (seconds t))
    (close_key .refunded (seconds t)) f db with ⟨_, h, e, rfl, hcases⟩ | ⟨e, w, h, rfl, -⟩ <;>
    rw [h] at hq ⊢
  · rcases hcases with ⟨s, rfl⟩ | hcount
    · rfl
    · obtain ⟨hmem, hkey⟩ := Table.find?_eq_some.mp hq
      have hnone := List.filter_eq_nil_iff.mp (List.length_eq_zero_iff.mp hcount) q hmem
      simp [isActive, hkey, ha] at hnone
  · rw [find?_withUpdate] at hq
    obtain ⟨q₀, h₀, rfl⟩ := Option.map_eq_some_iff.mp hq
    split_ifs at ha with hp
    · cases ha
    · simp [isActive, ha, Table.key_of_find? h₀] at hp

theorem exec_unrefunded {j : ι} {c : Call} (h : w.unrefunded i = true) :
    (Admission.exec j c f w).2.unrefunded i = true := by
  cases c with
  | refundReservation k t =>
    unfold Admission.exec
    dsimp only
    split_ifs
    · rcases eq_or_ne i j with rfl | hj
      · exact Function.update_self _ _ _
      · rw [Function.update_of_ne hj]
        exact h
    · exact h
  | _ => exact h

theorem exec_unrefunded_failed {t : ℕ}
    (h : refundFailed ((refundReservation k t).run f w.db).1 = true) :
    (Admission.exec i (.refundReservation k t) f w).2.unrefunded i = true := by
  have hrow : (Admission.exec i (.refundReservation k t) f w).2.unrefunded =
      Function.update w.unrefunded i true := if_pos h
  rw [hrow, Function.update_self]

/-- A refused run owes a refund. -/
structure Refunds (cfg : Config) (r : ι → ChatRequest) (p : Runs ι) : Prop where
  staged : Staged cfg r p
  /-- Before its `ReserveQuota` a run has inserted nothing. -/
  unowned : ∀ i, (p.progs i).MayCall IsReserve → ∀ k, p.state.owner k ≠ some i
  /-- The active reservation of a run is one it will refund or dispatch, or could not refund. -/
  owes : ∀ i k q, p.state.owner k = some i → p.state.db.quota.find? k = some q →
    q.status = .active →
      p.state.unrefunded i = true ∨ (p.progs i).Owes (IsRefund k) (· = .dispatch)

omit [DecidableEq ι] in
theorem refunds_start (cfg : Config) (r : ι → ChatRequest) (db : Db) :
    Refunds cfg r (start cfg r db) where
  staged i := stage_handler cfg (r i)
  unowned _ _ _ := nofun
  owes _ _ _ h := nomatch h

section Step
variable {cfg : Config} {r : ι → ChatRequest} {p : Runs ι}

omit [DecidableEq ι] in
theorem refunds_env (h : Refunds cfg r p) (e : Env) :
    Refunds cfg r { p with state := Env.run p.state e } := by
  have howner : (Env.run p.state e).owner = p.state.owner := by cases e <;> rfl
  have hun : (Env.run p.state e).unrefunded = p.state.unrefunded := by cases e <;> rfl
  refine ⟨h.staged, fun i hi k => howner.symm ▸ h.unowned i hi k, fun i k q hown hq ha => ?_⟩
  obtain ⟨q₀, hq₀, ha₀⟩ := active_of_env hq ha
  rw [howner] at hown
  rw [hun]
  exact h.owes i k q₀ hown hq₀ ha₀

variable {i : ι} {f : Fault SqlErr}

theorem refunds_reserve (h : Refunds cfg r p)
    (hp : p.progs i = .call (.reserveQuota (reservation cfg (r i))) (afterReserve cfg (r i))) :
    Refunds cfg r (after p i (.reserveQuota (reservation cfg (r i)))
      (afterReserve cfg (r i)) f) := by
  have hstart : ∀ k, p.state.owner k ≠ some i :=
    h.unowned i (by rw [hp]; exact Or.inl trivial)
  refine ⟨staged_call h.staged hp _ _, fun j hj k => ?_, fun j k q hown hq ha => ?_⟩
  · dsimp only at hj ⊢
    rcases eq_or_ne j i with rfl | hne
    · rw [Function.update_self] at hj
      exact absurd hj (not_mayCall_reserve _)
    · rw [Function.update_of_ne hne] at hj
      rcases exec_owner_cases i (reservation cfg (r i)) f p.state k with hs | hs <;> rw [hs]
      · exact h.unowned j hj k
      · exact fun hij => hne (Option.some.inj hij).symm
  dsimp only at hown hq ⊢
  rw [exec_db] at hq
  rcases reserve_active hq ha with ⟨q₀, hq₀, ha₀⟩ | ⟨rfl, hnone⟩
  · -- a reservation that was there is that of another run
    rw [exec_owner_of_row (hq₀ ▸ Option.some_ne_none q₀)] at hown
    have hne : j ≠ i := fun hji => hstart k (hji ▸ hown)
    rw [Function.update_of_ne hne]
    exact h.owes j k q₀ hown hq₀ ha₀
  · -- the run inserted it
    rw [exec_owner_inserted hnone fun hn => Option.some_ne_none q (hq.symm.trans hn)] at hown
    cases hown
    refine Or.inr ?_
    rw [Function.update_self, exec_fst]
    rcases reserveQuota_cases 0 (reservation cfg (r i)) f p.state.db with
      ⟨_, hrun, d, e, rfl, -⟩ | ⟨_, w, hrun, d, e, t, rfl, rfl, hd, he, -⟩
    · have hsame : ((Call.reserveQuota (reservation cfg (r i))).run f p.state.db).2 = p.state.db :=
        congrArg Prod.snd hrun
      rw [hsame, hnone] at hq
      cases hq
    · have hanswer : ((Call.reserveQuota (reservation cfg (r i))).run f p.state.db).1 = (d, e) :=
        congrArg Prod.fst hrun
      rw [hanswer]
      exact owes_afterReserve hd he

theorem refunds_behind {c : Call} {k : Answer c → Prog Answer Outcome} (h : Refunds cfg r p)
    (hp : p.progs i = .call c k) (hnr : ¬ (Prog.call c k).MayCall IsReserve) :
    Refunds cfg r (after p i c k f) := by
  have hc : ¬ IsReserve c := Prog.not_call_of_not_mayCall hnr
  refine ⟨staged_call h.staged hp _ _, fun j hj k' => ?_, fun j k' q hown hq ha => ?_⟩
  · dsimp only at hj ⊢
    rw [exec_owner hc]
    rcases eq_or_ne j i with rfl | hne
    · rw [Function.update_self] at hj
      exact absurd hj (Prog.not_mayCall_next hnr _)
    · rw [Function.update_of_ne hne] at hj
      exact h.unowned j hj k'
  rw [exec_owner hc] at hown
  rw [exec_db] at hq
  obtain ⟨q₀, hq₀, ha₀⟩ := active_of_call hc hq ha
  rcases h.owes j k' q₀ hown hq₀ ha₀ with hu | ho
  · exact Or.inl (exec_unrefunded hu)
  rcases eq_or_ne j i with rfl | hne
  · rw [hp] at ho
    rcases ho with hrefund | hnext
    · -- this call is the refund
      cases c with
      | refundReservation k₁ t =>
        cases hrefund
        exact Or.inl (exec_unrefunded_failed (refund_row hq ha))
      | _ => exact absurd hrefund id
    · exact Or.inr (by simpa only [Function.update_self] using hnext _)
  · exact Or.inr (by simpa only [Function.update_of_ne hne] using ho)

theorem refunds_call {c : Call} {k : Answer c → Prog Answer Outcome} (h : Refunds cfg r p)
    (hp : p.progs i = .call c k) :
    Refunds cfg r (after p i c k f) := by
  have hstage := h.staged i
  rw [hp] at hstage
  rcases hstage.reserve with heq | hnr
  · cases heq
    exact refunds_reserve h hp
  · exact refunds_behind h hp hnr

end Step

theorem refunds_of_leads (h : Leads anyAction (start cfg r db) p) : Refunds cfg r p :=
  pool_induction h (refunds_start cfg r db) (fun _ _ _ _ _ h _ hp => refunds_call h hp)
    (fun _ e h _ => refunds_env h e)

/-- **At most one dispatch** of a key over every interleaving; one with a lease is refused from then
on; and a refused run leaves no reservation of its own, unless its refund failed. -/
theorem dispatched_once {cfg : Config} {r : ι → ChatRequest} {db : Db} {p : Runs ι}
    (h : Leads anyAction (start cfg r db) p) :
    (∀ i j, (r i).key = (r j).key → (p.progs i).result = some .dispatch →
      (p.progs j).result = some .dispatch → i = j) ∧
    (∀ i, (p.progs i).result = some .dispatch → p.state.db.leases.find? (r i).key ≠ none) ∧
    (∀ i p', p.state.db.leases.find? (r i).key ≠ none → (p.progs i).MayCall IsAcquire →
      Leads anyAction p p' → (p'.progs i).result ≠ some .dispatch) ∧
    (∀ i o, (p.progs i).result = some o → o ≠ .dispatch → p.state.unrefunded i = false →
      ∀ k q, p.state.db.quota.find? k = some q → q.status = .active →
        p.state.owner k ≠ some i) := by
  have hleased := leased_of_leads h
  refine ⟨fun i j hkey hi hj => ?_, fun i hi => (lessee_of_dispatch hleased hi).1,
    fun i p' hlease hacq hreach hi => ?_, fun i o hres ho hun k q hq ha hown => ?_⟩
  · have hi := (lessee_of_dispatch hleased hi).2
    have hj := (lessee_of_dispatch hleased hj).2
    rw [hkey, hj] at hi
    exact (Option.some.inj hi).symm
  · have hthen := (lessee_of_dispatch (leased_of_leads (h.trans hreach)) hi).2
    rw [(lessee_of_leads hreach hlease).2] at hthen
    exact hleased.unleased i hacq _ hthen
  · rcases (refunds_of_leads h).owes i k q hown hq ha with hu | howes
    · rw [hun] at hu
      cases hu
    · rcases hp : p.progs i with o' | ⟨c, k'⟩ <;> rw [hp] at hres howes
      · cases hres
        exact ho howes
      · cases hres

/-! ### Two requests with a limit of one -/

/-- One lease for each account. -/
def single : Config := ⟨24, 1, 1⟩

/-- Two runs of one id, and another one. -/
def requests (i : Fin 3) : ChatRequest :=
  { duplicate with key := ⟨"acct", if i = 0 then "other" else "req"⟩ }

/-- The three runs. -/
def three : Runs (Fin 3) := start single requests Db.empty

/-- The second run is refused and refunds. -/
def limited : Runs (Fin 3) :=
  steps three [.call 0 .none, .call 0 .none, .call 1 .none, .call 1 .none, .call 1 .none]

/-- Lease released, closed reservation deleted. -/
def cleaned : Runs (Fin 3) :=
  steps limited [.env (.release ⟨"acct", "other"⟩ (seconds 1767225700) .none),
    .env (.reservations (.deleteTerminalQuotaReservations (some (seconds 1767312000))) .none nofun)]

def reused : Runs (Fin 3) := steps cleaned [.call 2 .none, .call 2 .none]

/-- The refund of the second run fails. -/
def stuck : Runs (Fin 3) :=
  steps three [.call 0 .none, .call 0 .none, .call 1 .none, .call 1 .none,
    .call 1 (.call 0 (.other "disk I/O error"))]

/-- It never had a lease; and a refund fails. -/
theorem deleted_id_dispatched_and_reservation_left :
    (¬ ∀ p₁ p p' i q, Leads anyAction three p₁ → Leads anyAction p₁ p → Leads anyAction p p' →
      p₁.state.db.quota.find? (requests i).key = some q → q.status ≠ .active →
      p.state.db.quota.find? (requests i).key = none →
      p.progs i = handleChatCompletions single (requests i) →
        (p'.progs i).result ≠ some .dispatch) ∧
    ¬ ∀ p i o q, Leads anyAction three p → (p.progs i).result = some o → o ≠ .dispatch →
      p.state.db.quota.find? (requests i).key = some q → q.status = .active →
        p.state.owner (requests i).key ≠ some i := by
  have any : ∀ (p : Runs (Fin 3)) a, anyAction p a := fun _ _ => trivial
  refine ⟨fun hall => ?_, fun hall => ?_⟩
  · have hclosed : limited.state.db.quota.find? (requests 2).key =
        some (QuotaRow.close ((reservation single (requests 1)).row (seconds 1767225601)) .refunded
          (seconds 1767225606)) := by decide +kernel
    have hgone : cleaned.state.db.quota.find? (requests 2).key = none := by decide +kernel
    have hdispatch : (reused.progs 2).result = some .dispatch := by decide +kernel
    exact hall limited cleaned reused 2 _ (reaches_run any three _) (reaches_run any limited _)
      (reaches_run any cleaned _) hclosed nofun hgone rfl hdispatch
  · have hactive : stuck.state.db.quota.find? (requests 1).key =
        some ((reservation single (requests 1)).row (seconds 1767225601)) := by decide +kernel
    have hrefused : (stuck.progs 1).result = some (.respond ⟨429, "rate_limit_exceeded",
        "account_concurrency_exceeded", "Account concurrency limit exceeded"⟩) := by
      decide +kernel
    have howner : stuck.state.owner (requests 1).key = some 1 := by decide +kernel
    exact hall stuck 1 _ _ (reaches_run any three _) hrefused nofun hactive rfl howner

/-- Only the second of two runs dispatches. -/
theorem dispatched_once_duplicate :
    (reused.progs 1).result ≠ some .dispatch ∧ (reused.progs 2).result = some .dispatch ∧
      reused.state.db.leases.find? (requests 2).key ≠ none := by
  have hreused : Leads anyAction three reused := by
    have any : ∀ (p : Runs (Fin 3)) a, anyAction p a := fun _ _ => trivial
    exact ((reaches_run any three _).trans (reaches_run any limited _)).trans
      (reaches_run any cleaned _)
  obtain ⟨honce, hlease, -⟩ := dispatched_once hreused
  have hdispatch : (reused.progs 2).result = some .dispatch := by decide +kernel
  exact ⟨fun h1 => absurd (honce 1 2 rfl h1 hdispatch) (by decide), hdispatch, hlease 2 hdispatch⟩

/-! ### The concurrency limit -/

/-- An active lease of the account. -/
def holds (account : String) (l : LeaseRow) : Bool :=
  decide (l.key.accountID = account) && decide (l.status = .active)

/-- How many there are. -/
def held (account : String) (db : Db) : ℕ := db.leases.rows.countP (holds account)

variable {account : String}

theorem held_close {q : LeaseRow → Bool} {g : LeaseRow → LeaseRow} (hg : ∀ l, (g l).key = l.key)
    (hclosed : ∀ l, (g l).status ≠ .active) :
    held account { db with leases := db.leases.update q g hg } ≤ held account db := by
  unfold held Table.update
  rw [List.countP_map]
  refine List.countP_mono_left fun l _ hl => ?_
  dsimp only [Function.comp] at hl
  split_ifs at hl
  · simp [holds, hclosed l] at hl
  · exact hl

/-- An active lease is expired or counted. -/
theorem held_le_counted {now : Instant} {n : ℕ} {db' : Db}
    (h : updateLeases (leaseExpired account now)
      (fun l => { l with status := .expired, releasedAt := some now }) (fun _ => rfl) db =
        .ok (db', n)) :
    held account db' ≤ db'.leases.countWhere (leaseCounted account now) := by
  cases h
  unfold Table.countWhere
  rw [← List.countP_eq_length_filter]
  refine List.countP_mono_left fun l hl hactive => ?_
  obtain ⟨x, -, rfl⟩ := List.mem_map.mp hl
  split_ifs at hactive ⊢ with hp
  · simp [holds] at hactive
  · simp only [holds, leaseExpired, leaseCounted, Bool.and_eq_true, decide_eq_true_eq] at *
    exact ⟨hactive, not_le.mp fun hle => hp ⟨hactive, hle⟩⟩

theorem held_acquire (clock : Instant) (req : ConcurrencyRequest) :
    held account ((acquireConcurrency clock req).run f db).2 ≤ held account db ∨
      req.key.accountID = account ∧
        (held account ((acquireConcurrency clock req).run f db).2 : ℤ) ≤ req.limit := by
  have hyields : (acquireConcurrency clock req).body.Yields (fun _ => True)
      (fun _ db' => held account db' ≤ held account db ∨
        req.key.accountID = account ∧ (held account db' : ℤ) ≤ req.limit) db := by
    refine ⟨fun _ => trivial, fun w n hs => ?_⟩
    have hclose : held account w ≤ held account db := by
      cases hs
      exact held_close _ (by simp)
    have hcounted := held_le_counted hs
    refine ⟨fun _ => trivial, fun _ active hs => ?_⟩
    cases hs
    dsimp only
    split_ifs with hfull
    · exact ⟨fun _ => Or.inl hclose, fun _ => trivial⟩
    refine ⟨fun _ => trivial, fun _ u hs => ⟨fun _ => ?_, fun _ => trivial⟩⟩
    obtain ⟨t, ht, rfl⟩ := insertLease_ok hs
    unfold held at hclose hcounted ⊢
    rw [(Table.insert_eq_some ht).2, List.countP_append, List.countP_singleton]
    split_ifs with hnew
    · obtain rfl : req.key.accountID = account := by simpa [holds] using hnew
      exact Or.inr ⟨rfl, by omega⟩
    · exact Or.inl hclose
  rcases Lib.Transactions.Prog.run_yields (fun _ => trivial) hyields f with
    ⟨_, hrun, -⟩ | ⟨_, w, hrun, hw⟩ <;> unfold ImmediateOp.run <;> rw [hrun]
  · exact Or.inl le_rfl
  · exact hw

theorem held_op (o : Op) : held account (o.run f db) = held account db := by
  unfold held
  rw [leases_of_effect (run_effect f db o)]

theorem held_release (t : Instant) :
    held account (autocommit (releaseConcurrency 0 k (some t)) f db).2 ≤ held account db := by
  unfold autocommit
  rcases f.now with _ | e
  · exact held_close _ (by simp)
  · exact le_rfl

theorem held_call (c : Call) : held account (c.run f db).2 ≤ held account db ∨
    ∃ req, c = .acquireConcurrency req ∧ req.key.accountID = account ∧
      (held account (c.run f db).2 : ℤ) ≤ req.limit := by
  cases c with
  | reserveQuota req => exact Or.inl (held_op (.reserveQuota 0 req)).le
  | refundReservation k t => exact Or.inl (held_op (.refundReservation k t)).le
  | acquireConcurrency req => exact (held_acquire 0 req).imp_right fun h => ⟨req, rfl, h⟩
  | releaseConcurrency k t => exact Or.inl (held_release t)

theorem held_of_leads {limit : ℤ} (hdb : held account db ≤ limit)
    (hlimit : ∀ i, (r i).key.accountID = account → (lease cfg (r i)).limit ≤ limit)
    (h : Leads anyAction (start cfg r db) p) : held account p.state.db ≤ limit := by
  refine (pool_induction h (I := fun p => Staged cfg r p ∧ held account p.state.db ≤ limit)
    ⟨fun i => stage_handler cfg (r i), hdb⟩ ?_ ?_).2
  · rintro p i f c k ⟨hstaged, hp⟩ - hprog
    refine ⟨staged_call hstaged hprog _ _, ?_⟩
    rw [exec_db]
    have hcall : held account (c.run f p.state.db).2 ≤ held account p.state.db ∨ _ := held_call c
    rcases hcall with hle | ⟨req, rfl, haccount, hle⟩
    · exact (Int.ofNat_le.mpr hle).trans hp
    -- a run asks for the limit of its own request
    have hstage := hstaged i
    rw [hprog] at hstage
    rcases hstage with heq | heq | ⟨-, hno⟩
    · cases heq
    · cases heq
      exact hle.trans (hlimit i haccount)
    · exact absurd (Or.inl trivial) hno
  · rintro p e ⟨hstaged, hp⟩ -
    refine ⟨hstaged, ?_⟩
    cases e with
    | reservations o f ho => exact (congrArg _ (held_op o)).trans_le hp
    | release k t f => exact (Int.ofNat_le.mpr (held_release t)).trans hp

/-- **The concurrency limit**: no more runs of an account are dispatched with an active lease than
it says. -/
theorem running_within_limit {cfg : Config} {r : ι → ChatRequest} {db : Db} {p : Runs ι}
    {account : String} {limit : ℤ} (hdb : held account db ≤ limit)
    (hlimit : ∀ i, (r i).key.accountID = account → (lease cfg (r i)).limit ≤ limit)
    (h : Leads anyAction (start cfg r db) p) {running : List ι} (hnodup : running.Nodup)
    (hrunning : ∀ i ∈ running, (p.progs i).result = some .dispatch ∧
      ∃ l, p.state.db.leases.find? (r i).key = some l ∧ holds account l = true) :
    running.length ≤ limit := by
  have hleased := leased_of_leads h
  have hkeys : (running.map fun i => (r i).key).Nodup := by
    refine hnodup.map_on fun i hi j hj hkey => ?_
    have hi := (lessee_of_dispatch hleased (hrunning i hi).1).2
    have hj := (lessee_of_dispatch hleased (hrunning j hj).1).2
    rw [hkey, hj] at hi
    exact (Option.some.inj hi).symm
  have hsub : (running.map fun i => (r i).key) ⊆
      (p.state.db.leases.rows.filter (holds account)).map LeaseRow.key := by
    intro k hk
    obtain ⟨i, hi, rfl⟩ := List.mem_map.mp hk
    obtain ⟨-, l, hl, hactive⟩ := hrunning i hi
    obtain ⟨hmem, hkey⟩ := Table.find?_eq_some.mp hl
    exact List.mem_map.mpr ⟨l, List.mem_filter.mpr ⟨hmem, hactive⟩, hkey⟩
  have hlength := hkeys.length_le_of_subset hsub
  rw [List.length_map, List.length_map, ← List.countP_eq_length_filter] at hlength
  exact (Int.ofNat_le.mpr hlength).trans (held_of_leads hdb hlimit h)

theorem running_within_limit_single :
    (limited.progs 0).result = some .dispatch ∧ ([0] : List (Fin 3)).length ≤ (1 : ℤ) := by
  have hdispatch : (limited.progs 0).result = some .dispatch := by decide +kernel
  have hdb : held "acct" Db.empty ≤ (1 : ℤ) := by decide
  refine ⟨hdispatch, running_within_limit hdb (fun i _ => le_refl (lease single (requests i)).limit)
    (reaches_run (fun _ _ => trivial) three _) (p := limited) (List.nodup_singleton 0) ?_⟩
  intro i hi
  rw [List.mem_singleton.mp hi]
  exact ⟨hdispatch, leaseRow 0 (lease single (requests 0)), by decide +kernel, by decide +kernel⟩

end MacProvider.Gateway.Router.Dispatch
