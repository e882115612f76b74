import MacProvider.Gateway.Store.Ops

/-! # What the store operations do

One lemma for each operation, under every fault: it left the database alone and reports an error, or
it committed, and then what. -/

namespace MacProvider.Gateway.Store.Effects

open Gateway.Time Store.Schema Store.Ops Lib.Tables Lib.Transactions

variable {σ : Type} {db db' : Db} {k : Key} {u : Unit}

/-! ### Statements -/

theorem selectReservation_eq (k : Key) (db : Db) :
    selectReservation k db = .ok (db, db.quota.find? k) := rfl

theorem insertReservation_ok {r : QuotaRow} (h : insertReservation r db = .ok (db', u)) :
    r.check = true ∧ ∃ t, db.quota.insert r = some t ∧ db' = { db with quota := t } := by
  unfold insertReservation at h
  split_ifs at h with hc
  rcases ht : db.quota.insert r with _ | t <;> rw [ht] at h <;> cases h
  exact ⟨hc, t, rfl, rfl⟩

theorem insertUsage_ok {r : UsageRow} (h : insertUsage r db = .ok (db', u)) :
    r.check = true ∧ ∃ t, db.usage.insert r = some t ∧ db' = { db with usage := t } := by
  unfold insertUsage at h
  split_ifs at h with hc
  rcases ht : db.usage.insert r with _ | t <;> rw [ht] at h <;> cases h
  exact ⟨hc, t, rfl, rfl⟩

theorem insertDemoUsage_ok {r : DemoUsageRow} (h : insertDemoUsage r db = .ok (db', u)) :
    ∃ t, db.demo.insert r = some t ∧ db' = { db with demo := t } := by
  unfold insertDemoUsage at h
  split_ifs at h with hc
  rcases ht : db.demo.insert r with _ | t <;> rw [ht] at h <;> cases h
  exact ⟨t, rfl, rfl⟩

theorem insertLease_ok {r : LeaseRow} (h : insertLease r db = .ok (db', u)) :
    ∃ t, db.leases.insert r = some t ∧ db' = { db with leases := t } := by
  unfold insertLease at h
  rcases ht : db.leases.insert r with _ | t <;> rw [ht] at h <;> cases h
  exact ⟨t, rfl, rfl⟩

theorem selectSum_ok {s : Db → ℤ} {x : ℤ} (h : selectSum s db = .ok (db', x)) :
    db' = db ∧ x = s db ∧ s db ≤ maxInt64 := by
  unfold selectSum at h
  split_ifs at h with hs
  cases h
  exact ⟨rfl, rfl, hs⟩

/-- An error is one of SQL. -/
def SqlOnly (r : Option StoreErr) : Prop := ∀ e, r = some e → ∃ s, e = .sql s

theorem sqlOnly_map (o : Option SqlErr) : SqlOnly (o.map StoreErr.sql) := by
  intro e he
  obtain ⟨s, -, rfl⟩ := Option.map_eq_some_iff.mp he
  exact ⟨s, rfl⟩

theorem run_cases {op : ImmediateOp σ (Option StoreErr)} {P : Option StoreErr → σ → Prop} {db : σ}
    (hfail : ∀ e, op.fail e = some (.sql e)) (h : op.body.Yields (fun r => ∃ e, r = some e) P db)
    (f : Fault SqlErr) :
    (∃ e, op.run f db = (some e, db)) ∨ ∃ r w, op.run f db = (r, w) ∧ P r w := by
  rcases Prog.run_yields (fun e => ⟨.sql e, hfail e⟩) h f with ⟨_, h, e, rfl⟩ | h
  · exact Or.inl ⟨e, h⟩
  · exact Or.inr h

theorem commitErr_yields {w : σ} {P : Option StoreErr → σ → Prop} (h : ∀ r, SqlOnly r → P r w) :
    commitErr.Yields (fun r => ∃ e, r = some e) P w :=
  ⟨fun o => h _ (sqlOnly_map o), fun e => ⟨.sql e, rfl⟩⟩

/-! ### Closing a reservation -/

/-- The store behind an `UPDATE`. -/
def withUpdate (db : Db) (p : QuotaRow → Bool) (f : QuotaRow → QuotaRow)
    (hf : ∀ r, (f r).key = r.key) : Db :=
  { db with quota := db.quota.update p f hf }

theorem find?_withUpdate (db : Db) (p : QuotaRow → Bool) (f : QuotaRow → QuotaRow)
    (hf : ∀ r, (f r).key = r.key) (k : Key) :
    (withUpdate db p f hf).quota.find? k =
      (db.quota.find? k).map fun r => if p r then f r else r :=
  Table.find?_update db.quota p f hf k

theorem closeReservation_cases (p : QuotaRow → Bool) (f : QuotaRow → QuotaRow)
    (hf : ∀ r, (f r).key = r.key) (fl : Fault SqlErr) (db : Db) :
    (∃ r, (closeReservation p f hf).run fl db = (r, db) ∧
        ∃ e, r = some e ∧ ((∃ s, e = .sql s) ∨ db.quota.countWhere p = 0)) ∨
      ∃ r w, (closeReservation p f hf).run fl db = (r, w) ∧ w = withUpdate db p f hf ∧ SqlOnly r ∧
        0 < db.quota.countWhere p := by
  have hsql : ∀ s, ∃ e, some (StoreErr.sql s) = some e ∧
      ((∃ s, e = .sql s) ∨ db.quota.countWhere p = 0) := fun s => ⟨_, rfl, Or.inl ⟨s, rfl⟩⟩
  refine Prog.run_yields ?_ ?_ fl
  · exact hsql
  refine ⟨hsql, fun w n hs => ?_⟩
  cases hs
  dsimp only
  split_ifs with hn
  · exact ⟨_, rfl, Or.inr hn⟩
  · exact ⟨fun o => ⟨rfl, sqlOnly_map o, Nat.pos_of_ne_zero hn⟩, hsql⟩

theorem closeReservation_live (p : QuotaRow → Bool) (f : QuotaRow → QuotaRow)
    (hf : ∀ r, (f r).key = r.key) (db : Db) :
    (closeReservation p f hf).run .none db =
      if db.quota.countWhere p = 0 then (some .reservationNotFound, db)
      else (none, withUpdate db p f hf) := by
  simp only [closeReservation, ImmediateOp.run, Prog.run, Prog.body, updateReservations, Fault.now,
    Option.elim]
  split_ifs
  · rfl
  · rfl

theorem markReservationSettlementHold_cases (k : Key) (fl : Fault SqlErr) (db : Db) :
    (∃ e, (markReservationSettlementHold k).run fl db = (some e, db)) ∨
      ∃ r w, (markReservationSettlementHold k).run fl db = (r, w) ∧
        w = withUpdate db (isActive k) (fun r => { r with settlementHold := true })
          (fun _ => rfl) ∧ SqlOnly r := by
  refine run_cases (fun _ => rfl) ?_ fl
  refine ⟨fun e => ⟨_, rfl⟩, fun w q hs => ?_⟩
  cases hs
  rcases db.quota.find? k with _ | q
  · exact ⟨_, rfl⟩
  dsimp only
  split_ifs
  · exact ⟨_, rfl⟩
  refine ⟨fun e => ⟨_, rfl⟩, fun w n hs => ?_⟩
  cases hs
  exact commitErr_yields fun r hr => ⟨rfl, hr⟩

theorem clampExpiryTx_cases (k : Key) (expiresAt : Instant) (fl : Fault SqlErr) (db : Db) :
    (∃ e, (clampExpiryTx k expiresAt).run fl db = (some e, db)) ∨
      ∃ r w, (clampExpiryTx k expiresAt).run fl db = (r, w) ∧
        ∃ t, w = withUpdate db (isActive k)
          (fun r => { r with expiresAt := t, settlementHold := true }) (fun _ => rfl) ∧
            SqlOnly r := by
  refine run_cases (fun _ => rfl) ?_ fl
  refine ⟨fun e => ⟨_, rfl⟩, fun w q hs => ?_⟩
  cases hs
  generalize (db.quota.find? k).filter _ = found
  rcases found with _ | q
  · exact ⟨_, rfl⟩
  refine ⟨fun e => ⟨_, rfl⟩, fun w n hs => ?_⟩
  cases hs
  exact commitErr_yields fun r hr => ⟨_, rfl, hr⟩

/-! ### Reaping and deleting -/

/-- The store behind the reaper. -/
def reaped (now : Instant) (db : Db) : Db :=
  withUpdate db (reapable now) (fun r => QuotaRow.close r .expired now) (close_key .expired now)

theorem reapExpiredReservationsTx_eq (clock : Instant) (now : Option Instant) (db : Db) :
    reapExpiredReservationsTx clock now db =
      .ok (reaped (now.getD clock) db, db.quota.countWhere (reapable (now.getD clock))) := rfl

theorem reapExpiredReservations_cases (clock : Instant) (now : Option Instant) (fl : Fault SqlErr)
    (db : Db) :
    (∃ r, (reapExpiredReservations clock now).run fl db = (r, db) ∧ True) ∨
      ∃ r w, (reapExpiredReservations clock now).run fl db = (r, w) ∧
        w = reaped (now.getD clock) db := by
  refine Prog.run_yields (fun _ => trivial) ?_ fl
  refine ⟨fun _ => trivial, fun w n hs => ?_⟩
  cases hs
  exact ⟨fun _ => rfl, fun _ => trivial⟩

theorem deleteTerminalTx_cases (before : Instant) (fl : Fault SqlErr) (db : Db) :
    (∃ r, (deleteTerminalTx before).run fl db = (r, db) ∧ True) ∨
      ∃ r w, (deleteTerminalTx before).run fl db = (r, w) ∧
        w = { db with quota := db.quota.delete (deletable before) } := by
  refine Prog.run_yields (fun _ => trivial) ?_ fl
  refine ⟨fun _ => trivial, fun w n hs => ?_⟩
  cases hs
  exact ⟨fun _ => rfl, fun _ => trivial⟩

/-- What `ReserveQuota` has checked. -/
structure Admits (req : ReservationRequest) (db : Db) : Prop where
  used_le : usedTokens req.key.accountID req.windowDate db ≤ maxInt64
  reserved_le : activeReserved req.key.accountID req.windowDate db ≤ maxInt64
  fits : req.requestedTokens ≤
    wrap64 (wrap64 (req.dailyQuota - usedTokens req.key.accountID req.windowDate db) -
      activeReserved req.key.accountID req.windowDate db)

theorem reserveQuota_cases (clock : Instant) (req : ReservationRequest) (fl : Fault SqlErr)
    (db : Db) :
    (∃ r, (reserveQuota clock req).run fl db = (r, db) ∧
      ∃ d e, r = (d, some e) ∧ (d.admitted = true → ∃ s, e = .sql s)) ∨
    ∃ r w, (reserveQuota clock req).run fl db = (r, w) ∧
      ∃ d e t, r = (d, e) ∧ w = { reaped (req.createdAt.getD clock) db with quota := t } ∧
        d.admitted = true ∧ SqlOnly e ∧
        (reaped (req.createdAt.getD clock) db).quota.insert (req.row (req.createdAt.getD clock)) =
          some t ∧
        (req.row (req.createdAt.getD clock)).check = true ∧
        Admits req (reaped (req.createdAt.getD clock) db) := by
  have hno : ∀ (d : QuotaDecision) (e' : StoreErr), d.admitted = false →
      ∃ d' e, (d, some e') = (d', some e) ∧ (d'.admitted = true → ∃ s, e = .sql s) :=
    fun d e h => ⟨d, e, rfl, fun ha => by rw [h] at ha; cases ha⟩
  -- the reaper
  refine Prog.run_yields ?_ ?_ fl
  · exact fun e => hno _ _ rfl
  refine ⟨fun e => hno _ _ rfl, fun w n hs => ?_⟩
  rw [reapExpiredReservationsTx_eq, Except.ok.injEq, Prod.mk.injEq, Option.getD_some] at hs
  obtain ⟨rfl, -⟩ := hs
  -- the look for the key
  refine ⟨fun e => hno _ _ rfl, fun w q hs => ?_⟩
  obtain ⟨rfl, rfl⟩ := hs
  rcases (reaped (req.createdAt.getD clock) db).quota.find? req.key with _ | q
  swap
  · exact hno _ _ rfl
  -- the two sums
  refine ⟨fun e => hno _ _ rfl, fun w used hs => ?_⟩
  obtain ⟨rfl, rfl, hu⟩ := selectSum_ok hs
  refine ⟨fun e => hno _ _ rfl, fun w reserved hs => ?_⟩
  obtain ⟨rfl, rfl, hr⟩ := selectSum_ok hs
  dsimp only
  split_ifs with hlt
  · exact hno _ _ rfl
  -- the insert
  refine ⟨fun e => ?_, fun w u hs => ?_⟩
  · cases e <;> exact hno _ _ rfl
  obtain ⟨hc, t, ht, rfl⟩ := insertReservation_ok hs
  exact ⟨fun o => ⟨_, _, t, rfl, rfl, rfl, sqlOnly_map o, ht, hc, hu, hr, not_lt.mp hlt⟩,
    fun e => ⟨_, _, rfl, fun _ => ⟨e, rfl⟩⟩⟩

variable {p : QuotaRow → Bool} {f : QuotaRow → QuotaRow} {clock : Instant}

/-- A taken key is refused. -/
theorem reserveQuota_taken {req : ReservationRequest} {fl : Fault SqlErr}
    {q : QuotaRow} (hq : db.quota.find? req.key = some q) (hf : ∀ n e, fl = .call n e → 4 ≤ n) :
    (reserveQuota clock req).run fl db = (({}, some .reservationExists), db) := by
  have hr : (reaped (req.createdAt.getD clock) db).quota.find? req.key ≠ none := by
    unfold reaped
    rw [find?_withUpdate, hq]
    simp
  obtain ⟨q', hq'⟩ := Option.ne_none_iff_exists'.mp hr
  -- the statements, once the fault is known to come behind them
  have hbody : ∀ g : Fault SqlErr, g.now = none → g.next.now = none →
      (reserveQuota clock req).body.body g db db = (({}, some .reservationExists), db) := by
    intro g h1 h2
    simp only [reserveQuota, Prog.body, h1, h2, Option.elim, reapExpiredReservationsTx_eq,
      selectReservation_eq, Option.getD_some, hq']
  rcases fl with _ | ⟨n, e⟩ | e
  · exact hbody .none rfl rfl
  · obtain ⟨m, rfl⟩ := Nat.exists_eq_add_of_le (hf n e rfl)
    rw [Nat.add_comm]
    exact hbody (.call (m + 2) e) rfl rfl
  · exact hbody (.close e) rfl rfl

/-! ### Settling -/

/-- The store behind a settlement. -/
def settledDb (db : Db) (s : ReservationSettlement) (total : ℤ) (settledAt : Instant)
    (usage : Table UsageRow.key) : Db :=
  { db with
    quota := db.quota.update (fun q => decide (q.key = s.key))
      (fun q => QuotaRow.settle q total settledAt) (settle_key total settledAt)
    usage := usage }

theorem find?_settled (db : Db) (s : ReservationSettlement) (total : ℤ) (settledAt : Instant)
    (usage : Table UsageRow.key) (k : Key) :
    (settledDb db s total settledAt usage).quota.find? k = (db.quota.find? k).map fun r =>
      if decide (r.key = s.key) then QuotaRow.settle r total settledAt else r :=
  Table.find?_update _ _ _ (settle_key total settledAt) k

/-- What `settleWith` has checked. -/
structure Settles (clock : Instant) (s : ReservationSettlement) (demoIdentity : String) (db : Db)
    (q : QuotaRow) (total : ℤ) (usage : Table UsageRow.key) : Prop where
  found : db.quota.find? s.key = some q
  active : q.status = .active
  tokens : normalizeSettlementTokens s = .ok total
  check : (s.usage demoIdentity q.windowDate total (s.settledAt.getD clock)).check = true
  inserted : db.usage.insert (s.usage demoIdentity q.windowDate total (s.settledAt.getD clock)) =
    some usage

theorem settleWith_yields {s : ReservationSettlement} {demoIdentity : String}
    {rest : QuotaRow → ℤ → Prog Db SqlErr (Option StoreErr)} {P : Option StoreErr → Db → Prop}
    (h : ∀ q total usage, Settles clock s demoIdentity db q total usage →
      (rest q total).Yields (fun r => ∃ e, r = some e) P
        (settledDb db s total (s.settledAt.getD clock) usage)) :
    (settleWith clock s demoIdentity rest).Yields (fun r => ∃ e, r = some e) P db := by
  refine ⟨fun e => ⟨_, rfl⟩, fun w q hs => ?_⟩
  cases hs
  rcases hq : db.quota.find? s.key with _ | q <;> dsimp only
  · exact ⟨_, rfl⟩
  split_ifs with hst
  · exact ⟨_, rfl⟩
  rcases hn : normalizeSettlementTokens s with e | total <;> dsimp only
  · exact ⟨_, rfl⟩
  refine ⟨fun e => ⟨_, rfl⟩, fun w n hs => ?_⟩
  cases hs
  refine ⟨fun e => ⟨_, rfl⟩, fun w u hs => ?_⟩
  obtain ⟨hc, t, ht, rfl⟩ := insertUsage_ok hs
  exact h q total t ⟨hq, not_not.mp hst, hn, hc, ht⟩

theorem settleReservation_cases (clock : Instant) (s : ReservationSettlement) (fl : Fault SqlErr)
    (db : Db) :
    (∃ e, (settleReservation clock s).run fl db = (some e, db)) ∨
      ∃ r w, (settleReservation clock s).run fl db = (r, w) ∧
        ∃ q total usage, Settles clock s "" db q total usage ∧ SqlOnly r ∧
          w = settledDb db s total (s.settledAt.getD clock) usage := by
  refine run_cases (fun _ => rfl) (settleWith_yields fun q total usage hS => ?_) fl
  exact commitErr_yields fun r hr => ⟨q, total, usage, hS, hr, rfl⟩

theorem settleDemoReservation_cases (clock : Instant) (s : ReservationSettlement)
    (demo : DemoUsageEvent) (fl : Fault SqlErr) (db : Db) :
    (∃ e, (settleDemoReservation clock s demo).run fl db = (some e, db)) ∨
      ∃ r w, (settleDemoReservation clock s demo).run fl db = (r, w) ∧
        ∃ q total usage t, Settles clock s demo.clientIP db q total usage ∧ SqlOnly r ∧
          w = { settledDb db s total (s.settledAt.getD clock) usage with demo := t } := by
  refine run_cases (fun _ => rfl) (settleWith_yields fun q total usage hS => ?_) fl
  refine ⟨fun e => ⟨_, rfl⟩, fun w u hs => ?_⟩
  obtain ⟨t, -, rfl⟩ := insertDemoUsage_ok hs
  exact commitErr_yields fun r hr => ⟨q, total, usage, t, hS, hr, rfl⟩

/-- The store behind the expiry of leases. -/
def leasesExpired (account : String) (now : Instant) (db : Db) : Db :=
  { db with
    leases := db.leases.update (leaseExpired account now)
      (fun r => { r with status := .expired, releasedAt := some now }) fun _ => rfl }

/-- The row of a lease. -/
def leaseRow (clock : Instant) (req : ConcurrencyRequest) : LeaseRow :=
  ⟨req.key, .active, req.expiresAt.getD (req.createdAt.getD clock + minutes 10),
    req.createdAt.getD clock, none⟩

theorem acquireConcurrency_cases (clock : Instant) (req : ConcurrencyRequest) (fl : Fault SqlErr)
    (db : Db) :
    (∃ r, (acquireConcurrency clock req).run fl db = (r, db) ∧ r.2 ≠ none) ∨
    ∃ r w, (acquireConcurrency clock req).run fl db = (r, w) ∧
      ((r.2 ≠ none ∧ w = leasesExpired req.key.accountID (req.createdAt.getD clock) db) ∨
        ∃ d e t, r = (d, e) ∧ w = { db with leases := t } ∧ d.admitted = true ∧ SqlOnly e ∧
          (leasesExpired req.key.accountID (req.createdAt.getD clock) db).leases.insert
            (leaseRow clock req) = some t) := by
  refine Prog.run_yields ?_ ?_ fl
  · exact fun e => Option.some_ne_none _
  refine ⟨fun e => Option.some_ne_none _, fun w n hs => ?_⟩
  cases hs
  refine ⟨fun e => Option.some_ne_none _, fun w n hs => ?_⟩
  cases hs
  dsimp only
  split_ifs with hlim
  -- at the limit, the expiries are committed and the request is refused
  · exact ⟨fun o => Or.inl ⟨by cases o <;> exact Option.some_ne_none _, rfl⟩,
      fun e => Option.some_ne_none _⟩
  refine ⟨fun e => Option.some_ne_none _, fun w u hs => ?_⟩
  obtain ⟨t, ht, rfl⟩ := insertLease_ok hs
  exact ⟨fun o => Or.inr ⟨_, _, t, rfl, rfl, rfl, sqlOnly_map o, ht⟩, fun e =>
    Option.some_ne_none _⟩

/-! ### Frames -/

/-- The other keys are as before. -/
def OnlyTouches (k : Key) (db db' : Db) : Prop :=
  ∀ k', k' ≠ k → db'.quota.find? k' = db.quota.find? k'

theorem OnlyTouches.refl (k : Key) (db : Db) : OnlyTouches k db db := fun _ _ => rfl

theorem OnlyTouches.trans {db'' : Db} (h : OnlyTouches k db db') (h' : OnlyTouches k db' db'') :
    OnlyTouches k db db'' :=
  fun k' hk => (h' k' hk).trans (h k' hk)

theorem onlyTouches_update
    {hf : ∀ r, (f r).key = r.key} (hp : ∀ r, p r = true → r.key = k) :
    OnlyTouches k db (withUpdate db p f hf) := by
  intro k' hk
  rw [find?_withUpdate]
  rcases hq : db.quota.find? k' with _ | q
  · rfl
  · rw [Option.map_some, if_neg]
    intro hpq
    exact hk ((Table.key_of_find? hq).symm.trans (hp q hpq))

theorem key_of_isActive {r : QuotaRow} (h : isActive k r = true) : r.key = k :=
  of_decide_eq_true (Bool.and_eq_true_iff.mp h).1

theorem onlyTouches_close
    {hf : ∀ r, (f r).key = r.key} (hp : ∀ r, p r = true → r.key = k) (fl : Fault SqlErr) (db : Db) :
    OnlyTouches k db ((closeReservation p f hf).run fl db).2 := by
  rcases closeReservation_cases p f hf fl db with ⟨r, h, -⟩ | ⟨r, w, h, rfl, -⟩ <;> rw [h]
  · exact .refl k db
  · exact onlyTouches_update hp

theorem onlyTouches_settledDb (db : Db) (s : ReservationSettlement) (total : ℤ)
    (settledAt : Instant) (usage : Table UsageRow.key) :
    OnlyTouches s.key db (settledDb db s total settledAt usage) :=
  fun k' hk => @onlyTouches_update db s.key (fun q => decide (q.key = s.key))
    (fun q => QuotaRow.settle q total settledAt) (settle_key total settledAt)
    (fun _ hr => of_decide_eq_true hr) k' hk

end MacProvider.Gateway.Store.Effects
