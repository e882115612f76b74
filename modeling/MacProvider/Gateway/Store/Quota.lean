import MacProvider.Gateway.Store.Steps

/-! # Quota safety

An account stays within its daily quota in every window (`Inv`, `inv_effect`), if requests reserve a
positive number of tokens: a reservation of none settles with any total
(`normalizeSettlementTokens`). -/

namespace MacProvider.Gateway.Store.Quota

open Gateway.Time Store.Schema Store.Ops Store.Effects Store.Steps Lib.Tables Lib.Transactions

/-- As the gateway calls for `a`: quota `Q`, at most the reserved tokens. -/
structure Called (Q : ℤ) (a : String) (db : Db) (o : Op) : Prop where
  quota : ∀ {clock req}, o = .reserveQuota clock req → req.key.accountID = a → req.dailyQuota = Q
  maximum : ∀ {s q}, o.settlement = some s → s.key.accountID = a →
    db.quota.find? s.key = some q → s.maxTotalTokens = q.reservedTokens

/-- A positive number of tokens. -/
def Positive (a : String) (o : Op) : Prop :=
  ∀ {clock req}, o = .reserveQuota clock req → req.key.accountID = a → 0 < req.requestedTokens

/-- The databases that calls allowed by `P` lead to. -/
inductive Reachable (P : Db → Op → Prop) : Db → Prop
  | init : Reachable P Db.empty
  | step {db : Db} (o : Op) (fl : Fault SqlErr) : Reachable P db → P db o →
      Reachable P (o.run fl db)

/-! ### What a step does to one reservation -/

/-- A closed reservation stays as it is. -/
def TerminalKept (db db' : Db) : Prop :=
  ∀ {k q q'}, db.quota.find? k = some q → q.status ≠ .active → db'.quota.find? k = some q' → q' = q

/-- A reservation is settled with these tokens. -/
def BecomesSettled (db db' : Db) (k : Key) (n : ℤ) : Prop :=
  (∃ q', db'.quota.find? k = some q' ∧ q'.status = .settled ∧ q'.settledTokens = n) ∧
    ∀ q, db.quota.find? k = some q → q.status ≠ .settled

/-- A usage row of these tokens is written. -/
def UsageWritten (db db' : Db) (k : Key) (n : ℤ) : Prop :=
  db.usage.find? k = none ∧ ∃ u, db'.usage.find? k = some u ∧ u.totalTokens = n

variable {Q total : ℤ} {a : String} {db db' : Db} {o : Op} {s : ReservationSettlement}

variable {k : Key} {now clock : Instant} {t : Table QuotaRow.key} {demoIdentity : String}
  {q : QuotaRow} {usage : Table UsageRow.key} {p : QuotaRow → Bool}

theorem find?_reserved {r : QuotaRow} (h : (reaped now db).quota.insert r = some t) {q' : QuotaRow}
    (hq : t.find? k = some q') :
    (q' = r ∧ k = r.key ∧ db.quota.find? k = none) ∨
      ∃ q, db.quota.find? k = some q ∧
        q' = if reapable now q then QuotaRow.close q .expired now else q := by
  have hn := (Table.insert_eq_some h).1
  rw [Table.find?_insert h] at hq
  unfold reaped at hn hq
  rw [find?_withUpdate] at hn hq
  split_ifs at hq with hk
  · subst hk
    exact Or.inl ⟨(Option.some.inj hq).symm, rfl, Option.map_eq_none_iff.mp hn⟩
  · obtain ⟨q, h₀, rfl⟩ := Option.map_eq_some_iff.mp hq
    exact Or.inr ⟨q, h₀, rfl⟩

theorem terminalKept_effect (h : Effect o db db') : TerminalKept db db' := by
  intro k q q' hq hs hq'
  cases h with
  | same => exact Option.some.inj (hq'.symm.trans hq)
  | update quiet =>
    rw [find?_withUpdate, hq, Option.map_some, if_neg] at hq'
    · exact (Option.some.inj hq').symm
    · exact fun hp => hs (quiet q hp).active
  | delete closed =>
    rw [Table.find?_delete, hq] at hq'
    exact (Option.some.inj (Option.filter_eq_some_iff.mp hq').1).symm
  | reserve called inserted check admits =>
    rcases find?_reserved inserted hq' with ⟨-, -, hn⟩ | ⟨q₀, hq₀, rfl⟩
    · rw [hn] at hq; cases hq
    · cases hq.symm.trans hq₀
      exact if_neg fun hr => hs (quiet_reap hr).active
  | settle demo called settles =>
    rw [find?_settled, hq, Option.map_some, if_neg] at hq'
    · exact (Option.some.inj hq').symm
    · intro hk
      have hkey : q.key = _ := of_decide_eq_true hk
      rw [← Table.key_of_find? hq, hkey, settles.found] at hq
      exact hs (Option.some.inj hq ▸ settles.active)

theorem not_usageWritten_of_same (h : db'.usage = db.usage) {n : ℤ} :
    ¬ UsageWritten db db' k n := by
  rintro ⟨hn, u, hu, -⟩
  rw [h, hn] at hu
  cases hu

theorem usage_find?_settled (h : Settles clock s demoIdentity db q total usage) (k : Key) :
    usage.find? k = if s.key = k then
      some (s.usage demoIdentity q.windowDate total (s.settledAt.getD clock))
    else db.usage.find? k :=
  Table.find?_insert h.inserted k

theorem settle_becomesSettled_iff (h : Settles clock s demoIdentity db q total usage)
    (demo : Table DemoUsageRow.key) (k : Key) (n : ℤ) :
    BecomesSettled db { settledDb db s total (s.settledAt.getD clock) usage with demo } k n ↔
      UsageWritten db { settledDb db s total (s.settledAt.getD clock) usage with demo } k n := by
  unfold BecomesSettled UsageWritten
  rw [find?_settled,
    show (settledDb db s total (s.settledAt.getD clock) usage).usage = usage from rfl,
    usage_find?_settled h]
  by_cases hk : s.key = k
  · subst hk
    have hn : db.usage.find? s.key = none := (Table.insert_eq_some h.inserted).1
    have hq : q.key = s.key := Table.key_of_find? h.found
    rw [h.found, if_pos rfl]
    simp [hq, hn, h.active, QuotaRow.settle, ReservationSettlement.usage]
  · rw [if_neg hk]
    constructor
    · rintro ⟨⟨q', hq', hs, -⟩, hno⟩
      obtain ⟨q₀, hq₀, rfl⟩ := Option.map_eq_some_iff.mp hq'
      rw [if_neg] at hs
      · exact absurd hs (hno q₀ hq₀)
      · intro hd
        exact hk ((of_decide_eq_true hd).symm.trans (Table.key_of_find? hq₀))
    · rintro ⟨hn, u, hu, -⟩
      rw [hn] at hu
      cases hu

/-- **Settling is writing the usage row**, with the same tokens. -/
theorem becomesSettled_effect (h : Effect o db db') (k : Key) (n : ℤ) :
    BecomesSettled db db' k n ↔ UsageWritten db db' k n := by
  -- all transitions but the last leave the usage rows alone and settle nothing
  have quiet : db'.usage = db.usage → (∀ q', db'.quota.find? k = some q' → q'.status = .settled →
      ∃ q, db.quota.find? k = some q ∧ q.status = .settled) →
      (BecomesSettled db db' k n ↔ UsageWritten db db' k n) := by
    intro hu hs
    refine ⟨?_, fun hw => absurd hw (not_usageWritten_of_same hu)⟩
    rintro ⟨⟨q', hq', hst, -⟩, hno⟩
    obtain ⟨q, hq, hst⟩ := hs q' hq' hst
    exact absurd hst (hno q hq)
  cases h with
  | same => exact quiet rfl fun q' hq' hs => ⟨q', hq', hs⟩
  | update hquiet =>
    refine quiet rfl fun q' hq' hs => ?_
    rw [find?_withUpdate] at hq'
    obtain ⟨q, hq, rfl⟩ := Option.map_eq_some_iff.mp hq'
    split_ifs at hs with hp
    · exact absurd hs (hquiet q hp).unsettled
    · exact ⟨q, hq, hs⟩
  | delete closed =>
    refine quiet rfl fun q' hq' hs => ?_
    rw [Table.find?_delete] at hq'
    exact ⟨q', (Option.filter_eq_some_iff.mp hq').1, hs⟩
  | reserve called inserted check admits =>
    refine quiet rfl fun q' hq' hs => ?_
    rcases find?_reserved inserted hq' with ⟨rfl, -, -⟩ | ⟨q, hq, rfl⟩
    · cases hs
    · split_ifs at hs with hr
      · exact absurd hs (quiet_reap hr).unsettled
      · exact ⟨q, hq, hs⟩
  | settle demo called settles => exact settle_becomesSettled_iff settles demo k n

/-! ### The invariant -/

/-- What holds of `a`, with the quota `Q`. -/
structure Inv (Q : ℤ) (a : String) (db : Db) : Prop where
  bound : ∀ w, usedTokens a w db + activeReserved a w db ≤ Q
  reserved_nonneg : ∀ r ∈ db.quota.rows, 0 ≤ r.reservedTokens
  reserved_pos : ∀ r ∈ db.quota.rows, r.key.accountID = a → 0 < r.reservedTokens
  usage_nonneg : ∀ u ∈ db.usage.rows, 0 ≤ u.totalTokens
  settled : ∀ {k q}, db.quota.find? k = some q → q.status = .settled →
    ∃ u, db.usage.find? k = some u ∧ u.totalTokens = q.settledTokens

section Sums
variable {Q : ℤ} {a : String} {db : Db}

theorem Inv.used_nonneg (h : Inv Q a db) (w : String) : 0 ≤ usedTokens a w db :=
  Table.sumWhere_nonneg _ _ _ h.usage_nonneg

theorem Inv.active_nonneg (h : Inv Q a db) (w : String) : 0 ≤ activeReserved a w db :=
  Table.sumWhere_nonneg _ _ _ h.reserved_nonneg

/-- An active reservation of the account. -/
abbrev counts (a w : String) (r : QuotaRow) : Bool :=
  decide (r.key.accountID = a ∧ r.windowDate = w ∧ r.status = .active)

theorem weight_quiet {w : String} {r r' : QuotaRow} (h : Quiet r r') (hr : 0 ≤ r.reservedTokens) :
    Table.weight (counts a w) QuotaRow.reservedTokens r' ≤
      Table.weight (counts a w) QuotaRow.reservedTokens r := by
  unfold Table.weight counts
  simp only [h.key, h.window, h.reserved, h.active, decide_eq_true_eq, and_true]
  split_ifs with h1 h2 h2
  · exact le_rfl
  · exact absurd ⟨h1.1, h1.2.1⟩ h2
  · exact hr
  · exact le_rfl

theorem activeReserved_update_le {p : QuotaRow → Bool} {f : QuotaRow → QuotaRow}
    (hf : ∀ r, (f r).key = r.key) (hquiet : ∀ r, p r = true → Quiet r (f r)) (h : Inv Q a db)
    (w : String) : activeReserved a w (withUpdate db p f hf) ≤ activeReserved a w db :=
  Table.sumWhere_update_le _ _ _ hf _ _ fun r hr hp =>
    weight_quiet (hquiet r hp) (h.reserved_nonneg r hr)

end Sums

theorem inv_update {f : QuotaRow → QuotaRow} (hf : ∀ r, (f r).key = r.key)
    (hquiet : ∀ r, p r = true → Quiet r (f r)) (h : Inv Q a db) :
    Inv Q a (withUpdate db p f hf) where
  bound w := by
    have hle := activeReserved_update_le hf hquiet h w
    have hb := h.bound w
    have hu : usedTokens a w (withUpdate db p f hf) = usedTokens a w db := rfl
    omega
  reserved_nonneg := Table.forall_update hf h.reserved_nonneg fun r _ hp hr => by
    rw [(hquiet r hp).reserved]; exact hr
  reserved_pos := Table.forall_update hf h.reserved_pos fun r _ hp hr => by
    rw [(hquiet r hp).reserved, (hquiet r hp).key]; exact hr
  usage_nonneg := h.usage_nonneg
  settled := by
    intro k q' hq' hs
    rw [find?_withUpdate] at hq'
    obtain ⟨q, hq, rfl⟩ := Option.map_eq_some_iff.mp hq'
    split_ifs at hs ⊢ with hp
    · exact absurd hs (hquiet q hp).unsettled
    · exact h.settled hq hs

theorem inv_delete (closed : ∀ r, p r = true → r.status ≠ .active)
    (h : Inv Q a db) : Inv Q a { db with quota := db.quota.delete p } where
  bound w := by
    have hd : (db.quota.delete p).sumWhere (counts a w) QuotaRow.reservedTokens =
        db.quota.sumWhere (counts a w) QuotaRow.reservedTokens := by
      refine Table.sumWhere_delete _ _ _ _ fun r _ hp => ?_
      unfold Table.weight
      rw [if_neg]
      intro hc
      exact closed r hp (of_decide_eq_true hc).2.2
    exact (congrArg (usedTokens a w db + ·) hd).trans_le (h.bound w)
  reserved_nonneg := Table.forall_delete h.reserved_nonneg
  reserved_pos := Table.forall_delete h.reserved_pos
  usage_nonneg := h.usage_nonneg
  settled := by
    intro k q hq hs
    rw [Table.find?_delete] at hq
    exact h.settled (Option.filter_eq_some_iff.mp hq).1 hs

theorem remaining_eq {u r : ℤ} (hQ : Q ≤ maxInt64) (hu : 0 ≤ u) (hr : 0 ≤ r) (hb : u + r ≤ Q) :
    wrap64 (wrap64 (Q - u) - r) = Q - u - r := by
  have h1 : wrap64 (Q - u) = Q - u := wrap64_of_range (by omega) (by omega)
  rw [h1]
  exact wrap64_of_range (by omega) (by omega)

theorem inv_reserve {req : ReservationRequest}
    (hQ : Q ≤ maxInt64) (hcall : req.key.accountID = a → req.dailyQuota = Q)
    (hpos : req.key.accountID = a → 0 < req.requestedTokens)
    (inserted : db.quota.insert (req.row now) = some t) (check : (req.row now).check = true)
    (admits : Admits req db) (h : Inv Q a db) : Inv Q a { db with quota := t } where
  bound w := by
    have hs : t.sumWhere (counts a w) QuotaRow.reservedTokens = activeReserved a w db +
        Table.weight (counts a w) QuotaRow.reservedTokens (req.row now) :=
      Table.sumWhere_insert inserted _ _
    have hb := h.bound w
    show usedTokens a w db + t.sumWhere (counts a w) QuotaRow.reservedTokens ≤ Q
    rw [hs]
    unfold Table.weight
    split_ifs with hc
    · -- the row counts: it was admitted against the same two sums
      obtain ⟨ha, hw, -⟩ := of_decide_eq_true hc
      have ha : req.key.accountID = a := ha
      have hw : req.windowDate = w := hw
      have hf := admits.fits
      rw [ha, hw, hcall ha, remaining_eq hQ (h.used_nonneg w) (h.active_nonneg w) hb] at hf
      have hr : (req.row now).reservedTokens = req.requestedTokens := rfl
      omega
    · omega
  reserved_nonneg := Table.forall_insert inserted h.reserved_nonneg <| by
    simp only [QuotaRow.check, Bool.and_eq_true, decide_eq_true_eq] at check
    exact check.1
  reserved_pos := Table.forall_insert inserted h.reserved_pos hpos
  usage_nonneg := h.usage_nonneg
  settled := by
    intro k q hq hs
    rw [Table.find?_insert inserted] at hq
    split_ifs at hq with hk
    · cases hq
      cases hs
    · exact h.settled hq hs

theorem normalize_ok (h : normalizeSettlementTokens s = .ok total) :
    0 ≤ total ∧ (0 < s.maxTotalTokens → total ≤ s.maxTotalTokens) := by
  unfold normalizeSettlementTokens at h
  dsimp only at h
  split_ifs at h with h1 h2 h3 h4
  cases h
  exact ⟨by omega, fun hm => not_lt.mp fun hlt => h4 ⟨hm, hlt⟩⟩

section Settle
variable {Q : ℤ} {a : String} {db : Db} {clock : Instant} {s : ReservationSettlement}
  {demoIdentity : String} {q : QuotaRow} {total : ℤ} {usage : Table UsageRow.key}

theorem usedTokens_settle (settles : Settles clock s demoIdentity db q total usage) (w : String) :
    usedTokens a w (settledDb db s total (s.settledAt.getD clock) usage) =
      usedTokens a w db + if s.key.accountID = a ∧ q.windowDate = w then total else 0 := by
  refine (Table.sumWhere_insert settles.inserted _ _).trans ?_
  refine congrArg (usedTokens a w db + ·) ?_
  by_cases hc : s.key.accountID = a ∧ q.windowDate = w
  · rw [if_pos hc]
    exact if_pos (decide_eq_true hc)
  · rw [if_neg hc]
    exact if_neg fun hd => hc (of_decide_eq_true hd)

theorem activeReserved_settle (settles : Settles clock s demoIdentity db q total usage)
    (w : String) :
    activeReserved a w (settledDb db s total (s.settledAt.getD clock) usage) +
      (if s.key.accountID = a ∧ q.windowDate = w then q.reservedTokens else 0) =
      activeReserved a w db := by
  have hkey : q.key = s.key := Table.key_of_find? settles.found
  have hs := Table.sumWhere_update_single settles.found (fun r => decide (r.key = s.key))
    (decide_eq_true hkey) (fun r hr => of_decide_eq_true hr)
    (fun r => QuotaRow.settle r total (s.settledAt.getD clock))
    (settle_key total (s.settledAt.getD clock)) (counts a w) QuotaRow.reservedTokens
  have h0 : Table.weight (counts a w) QuotaRow.reservedTokens
      (QuotaRow.settle q total (s.settledAt.getD clock)) = 0 := by
    simp [Table.weight, counts, QuotaRow.settle]
  have h1 : Table.weight (counts a w) QuotaRow.reservedTokens q =
      if s.key.accountID = a ∧ q.windowDate = w then q.reservedTokens else 0 := by
    simp [Table.weight, counts, hkey, settles.active]
  rw [h0, h1, add_zero] at hs
  exact hs

theorem inv_settle (settles : Settles clock s demoIdentity db q total usage)
    (demo : Table DemoUsageRow.key)
    (hmax : s.key.accountID = a → s.maxTotalTokens = q.reservedTokens) (h : Inv Q a db) :
    Inv Q a { settledDb db s total (s.settledAt.getD clock) usage with demo } where
  bound w := by
    have hu := usedTokens_settle (a := a) settles w
    have hr := activeReserved_settle (a := a) settles w
    have hb := h.bound w
    show usedTokens a w (settledDb db s total (s.settledAt.getD clock) usage) +
      activeReserved a w (settledDb db s total (s.settledAt.getD clock) usage) ≤ Q
    rw [hu]
    split_ifs at hr ⊢ with hc
    · -- the reservation is one of the account, so the total is within what it reserved
      have hkey : q.key = s.key := Table.key_of_find? settles.found
      have hq := h.reserved_pos q (Table.find?_eq_some.mp settles.found).1 (hkey ▸ hc.1)
      have hle := (normalize_ok settles.tokens).2
      rw [hmax hc.1] at hle
      omega
    · omega
  reserved_nonneg := Table.forall_update (settle_key _ _) h.reserved_nonneg fun _ _ _ hr => hr
  reserved_pos := Table.forall_update (settle_key _ _) h.reserved_pos fun _ _ _ hr => hr
  usage_nonneg := Table.forall_insert settles.inserted h.usage_nonneg
    (normalize_ok settles.tokens).1
  settled := by
    intro k q' hq' hs
    rw [find?_settled] at hq'
    obtain ⟨q₀, hq₀, rfl⟩ := Option.map_eq_some_iff.mp hq'
    show ∃ u, usage.find? k = some u ∧ _
    rw [usage_find?_settled settles]
    have hk : q₀.key = k := Table.key_of_find? hq₀
    by_cases hsk : s.key = k
    · rw [if_pos hsk, if_pos (decide_eq_true (hk.trans hsk.symm))]
      exact ⟨_, rfl, rfl⟩
    · have hd : ¬ decide (q₀.key = s.key) = true := fun hd =>
        hsk ((of_decide_eq_true hd).symm.trans hk)
      rw [if_neg hd] at hs ⊢
      rw [if_neg hsk]
      exact h.settled hq₀ hs

end Settle

/-! ### Runs -/

theorem inv_empty (hQ : 0 ≤ Q) (a : String) : Inv Q a Db.empty where
  bound _ := hQ
  reserved_nonneg := nofun
  reserved_pos := nofun
  usage_nonneg := nofun
  settled := nofun

theorem inv_effect (hQ : Q ≤ maxInt64) (hcall : Called Q a db o) (hpos : Positive a o)
    (h : Inv Q a db) (he : Effect o db db') : Inv Q a db' := by
  cases he with
  | same => exact h
  | update quiet => exact inv_update _ quiet h
  | delete closed => exact inv_delete closed h
  | reserve called inserted check admits =>
    exact inv_reserve hQ (hcall.quota called) (hpos called) inserted check admits
      (inv_update _ (fun r hr => quiet_reap hr) h)
  | settle demo called settles =>
    exact inv_settle settles demo (fun ha => hcall.maximum called ha settles.found) h

theorem inv_reachable (hQ0 : 0 ≤ Q) (hQ : Q ≤ maxInt64)
    (h : Reachable (fun db o => Called Q a db o ∧ Positive a o) db) : Inv Q a db := by
  induction h with
  | init => exact inv_empty hQ0 a
  | step o fl _ hc ih => exact inv_effect hQ hc.1 hc.2 ih (run_effect fl _ o)

/-- **Quota safety**: with positive requests the account stays within its quota and settled
reservations have their usage row; no call changes a closed one, and settling and usage rows come
together. -/
theorem quota_safe {Q : ℤ} {a : String} {db : Db} (hQ0 : 0 ≤ Q) (hQ : Q ≤ maxInt64)
    (h : Reachable (fun db o => Called Q a db o ∧ Positive a o) db) :
    (∀ w, usedTokens a w db + activeReserved a w db ≤ Q) ∧
      (∀ k q, db.quota.find? k = some q → q.status = .settled →
        ∃ u, db.usage.find? k = some u ∧ u.totalTokens = q.settledTokens) ∧
      ∀ (o : Op) (fl : Fault SqlErr), TerminalKept db (o.run fl db) ∧
        ∀ k n, BecomesSettled db (o.run fl db) k n ↔ UsageWritten db (o.run fl db) k n := by
  have hi := inv_reachable hQ0 hQ h
  refine ⟨hi.bound, fun k q => hi.settled, fun o fl => ?_⟩
  have he := run_effect fl db o
  exact ⟨terminalKept_effect he, becomesSettled_effect he⟩

/-- A request of this many tokens. -/
def request (tokens : ℤ) : ReservationRequest where
  key := ⟨"acct", "req"⟩
  windowDate := "2026-01-01"
  requestedTokens := tokens
  dailyQuota := 100
  expiresAt := none
  createdAt := some (seconds 1767225600)

/-- Its settlement. -/
def settlement (maximum tokens : ℤ) : ReservationSettlement where
  key := ⟨"acct", "req"⟩
  promptTokens := tokens
  completionTokens := 0
  totalTokens := 0
  maxTotalTokens := maximum
  tokenSource := "provider_reported"
  outcome := "success"
  settledAt := some (seconds 1767225601)

theorem called_request {req : ReservationRequest} (h : req.dailyQuota = 100) (db : Db) :
    Called 100 "acct" db (.reserveQuota 0 req) where
  quota := by rintro clock req ⟨⟩ -; exact h
  maximum := nofun

theorem called_settlement {db : Db} {reserved : ℤ} (tokens : ℤ)
    (h : db.quota.find? ⟨"acct", "req"⟩ = some ((request reserved).row (seconds 1767225600))) :
    Called 100 "acct" db (.settleReservation 0 (settlement reserved tokens)) where
  quota := nofun
  maximum := by
    rintro s q ⟨⟩ - hq
    cases h.symm.trans hq
    rfl

/-- Ten tokens, settled with seven; then twenty. -/
def demoSecond : Db :=
  Op.run .none (Op.run .none (Op.run .none Db.empty (.reserveQuota 0 (request 10)))
      (.settleReservation 0 (settlement 10 7)))
    (.reserveQuota 0 { request 20 with key := ⟨"acct", "second"⟩ })

theorem quota_safe_second_request :
    usedTokens "acct" "2026-01-01" demoSecond = 7 ∧
      activeReserved "acct" "2026-01-01" demoSecond = 20 ∧
      usedTokens "acct" "2026-01-01" demoSecond + activeReserved "acct" "2026-01-01" demoSecond ≤
        100 := by
  refine ⟨by decide +kernel, by decide +kernel, (quota_safe (by decide) (by decide) ?_).1 _⟩
  refine .step _ .none (.step _ .none (.step _ .none .init ⟨called_request rfl _, ?_⟩)
    ⟨called_settlement 7 (by decide +kernel), nofun⟩) ⟨called_request rfl _, ?_⟩
  all_goals
    rintro clock req ⟨⟩ -
    decide

/-- No tokens, settled with 1000. -/
theorem quota_exceeded_by_empty_reservation :
    ¬ ∀ db, Reachable (Called 100 "acct") db →
      ∀ w, usedTokens "acct" w db + activeReserved "acct" w db ≤ 100 := by
  intro hall
  have h1 : Reachable (Called 100 "acct") (Op.run .none Db.empty (.reserveQuota 0 (request 0))) :=
    .step _ .none .init (called_request rfl Db.empty)
  have h2 := h1.step (.settleReservation 0 (settlement 0 1000)) .none
    (called_settlement 1000 (by decide +kernel))
  exact absurd (hall _ h2 "2026-01-01") (by decide +kernel)

end MacProvider.Gateway.Store.Quota
