import MacProvider.Gateway.Store.Effects

/-! # The reservation store as a transition system

`Op` lists the methods that change `quota_reservations`, and `Effect` their transitions: none, a
change of active ones, a deletion of closed ones, a new one, or a settlement with its usage row. -/

namespace MacProvider.Gateway.Store.Steps

open Gateway.Time Store.Schema Store.Ops Store.Effects Lib.Tables Lib.Transactions

/-- They change reservations; `clock` is `time.Now()`. -/
inductive Op
  | reserveQuota (clock : Instant) (req : ReservationRequest)
  | settleReservation (clock : Instant) (s : ReservationSettlement)
  | settleDemoReservation (clock : Instant) (s : ReservationSettlement) (d : DemoUsageEvent)
  | refundReservation (k : Key) (refundedAt : ℕ)
  | expireReservation (clock : Instant) (k : Key) (expiredAt : Option Instant)
  | markReservationSettlementHold (k : Key)
  | clampReservationExpiry (k : Key) (expiresAt : Option Instant)
  | markReservationStaleHeld (clock : Instant) (k : Key) (staleAt : Option Instant)
  | reapExpiredReservations (clock : Instant) (now : Option Instant)
  | deleteTerminalQuotaReservations (before : Option Instant)

/-- The store behind a method. -/
def Op.run (f : Fault SqlErr) (db : Db) : Op → Db
  | reserveQuota clock req => ((Ops.reserveQuota clock req).run f db).2
  | settleReservation clock s => ((Ops.settleReservation clock s).run f db).2
  | settleDemoReservation clock s d => ((Ops.settleDemoReservation clock s d).run f db).2
  | refundReservation k refundedAt => ((Ops.refundReservation k refundedAt).run f db).2
  | expireReservation clock k expiredAt => ((Ops.expireReservation clock k expiredAt).run f db).2
  | markReservationSettlementHold k => ((Ops.markReservationSettlementHold k).run f db).2
  | clampReservationExpiry k expiresAt =>
    match Ops.clampReservationExpiry k expiresAt with
    | .error _ => db
    | .ok op => (op.run f db).2
  | markReservationStaleHeld clock k staleAt =>
    ((Ops.markReservationStaleHeld clock k staleAt).run f db).2
  | reapExpiredReservations clock now => ((Ops.reapExpiredReservations clock now).run f db).2
  | deleteTerminalQuotaReservations before =>
    match Ops.deleteTerminalQuotaReservations before with
    | .error _ => db
    | .ok op => (op.run f db).2

/-- What a method settles. -/
def Op.settlement : Op → Option ReservationSettlement
  | settleReservation _ s => some s
  | settleDemoReservation _ s _ => some s
  | _ => none

def Op.demoIdentity : Op → String
  | settleDemoReservation _ _ d => d.clientIP
  | _ => ""

/-! ### The transitions -/

/-- It settles nothing and counts as before. -/
structure Quiet (r r' : QuotaRow) : Prop where
  active : r.status = .active
  key : r'.key = r.key
  window : r'.windowDate = r.windowDate
  reserved : r'.reservedTokens = r.reservedTokens
  unsettled : r'.status ≠ .settled

/-- The transitions. -/
inductive Effect (o : Op) (db : Db) : Db → Prop
  | same : Effect o db db
  | update {p : QuotaRow → Bool} {f : QuotaRow → QuotaRow} {hf : ∀ r, (f r).key = r.key}
      (quiet : ∀ r, p r = true → Quiet r (f r)) : Effect o db (withUpdate db p f hf)
  | delete {p : QuotaRow → Bool} (closed : ∀ r, p r = true → r.status ≠ .active) :
      Effect o db { db with quota := db.quota.delete p }
  | reserve {clock : Instant} {req : ReservationRequest} {now : Instant} {t : Table QuotaRow.key}
      (called : o = .reserveQuota clock req)
      (inserted : (reaped now db).quota.insert (req.row now) = some t)
      (check : (req.row now).check = true) (admits : Admits req (reaped now db)) :
      Effect o db { reaped now db with quota := t }
  | settle {clock : Instant} {s : ReservationSettlement} {q : QuotaRow} {total : ℤ}
      {usage : Table UsageRow.key} (demo : Table DemoUsageRow.key) (called : o.settlement = some s)
      (settles : Settles clock s o.demoIdentity db q total usage) :
      Effect o db { settledDb db s total (s.settledAt.getD clock) usage with demo := demo }

theorem quiet_reap {now : Instant} {r : QuotaRow} (h : reapable now r = true) :
    Quiet r (QuotaRow.close r .expired now) := by
  simp only [reapable, Bool.and_eq_true, decide_eq_true_eq] at h
  exact ⟨h.1.1, rfl, rfl, rfl, nofun⟩

theorem status_of_isActive {k : Key} {r : QuotaRow} (h : isActive k r = true) :
    r.status = .active := by
  simp only [isActive, Bool.and_eq_true, decide_eq_true_eq] at h
  exact h.2

theorem effect_closeReservation (o : Op) (db : Db) {p : QuotaRow → Bool} {f : QuotaRow → QuotaRow}
    {hf : ∀ r, (f r).key = r.key} (quiet : ∀ r, p r = true → Quiet r (f r)) (fl : Fault SqlErr) :
    Effect o db ((closeReservation p f hf).run fl db).2 := by
  rcases closeReservation_cases p f hf fl db with ⟨r, h, -⟩ | ⟨r, w, h, rfl, -⟩ <;> rw [h]
  · exact .same
  · exact .update quiet

/-- **Every method takes one of the transitions.** -/
theorem run_effect (fl : Fault SqlErr) (db : Db) (o : Op) : Effect o db (o.run fl db) := by
  cases o with
  | reserveQuota clock req =>
    simp only [Op.run]
    rcases reserveQuota_cases clock req fl db with
      ⟨r, h, -⟩ | ⟨r, w, h, d, e, t, -, rfl, -, -, ht, hc, ha⟩ <;> rw [h]
    · exact .same
    · exact .reserve rfl ht hc ha
  | settleReservation clock s =>
    simp only [Op.run]
    rcases settleReservation_cases clock s fl db with
      ⟨e, h⟩ | ⟨r, w, h, q, total, usage, hs, -, rfl⟩ <;> rw [h]
    · exact .same
    · exact .settle db.demo rfl hs
  | settleDemoReservation clock s d =>
    simp only [Op.run]
    rcases settleDemoReservation_cases clock s d fl db with
      ⟨e, h⟩ | ⟨r, w, h, q, total, usage, t, hs, -, rfl⟩ <;> rw [h]
    · exact .same
    · exact .settle t rfl hs
  | refundReservation k refundedAt =>
    refine effect_closeReservation _ db (fun r hr => ?_) fl
    exact ⟨status_of_isActive hr, rfl, rfl, rfl, nofun⟩
  | expireReservation clock k expiredAt =>
    refine effect_closeReservation _ db (fun r hr => ?_) fl
    exact ⟨status_of_isActive hr, rfl, rfl, rfl, nofun⟩
  | markReservationStaleHeld clock k staleAt =>
    refine effect_closeReservation _ db (fun r hr => ?_) fl
    exact ⟨status_of_isActive (Bool.and_eq_true_iff.mp hr).1, rfl, rfl, rfl, nofun⟩
  | markReservationSettlementHold k =>
    simp only [Op.run]
    rcases markReservationSettlementHold_cases k fl db with ⟨e, h⟩ | ⟨r, w, h, rfl, -⟩ <;> rw [h]
    · exact .same
    · refine .update fun r hr => ⟨status_of_isActive hr, rfl, rfl, rfl, ?_⟩
      simp [status_of_isActive hr]
  | clampReservationExpiry k expiresAt =>
    rcases expiresAt with _ | t
    · exact .same
    · show Effect _ db ((clampExpiryTx k t).run fl db).2
      rcases clampExpiryTx_cases k t fl db with ⟨e, h⟩ | ⟨r, w, h, u, rfl, -⟩ <;> rw [h]
      · exact .same
      · refine .update fun r hr => ⟨status_of_isActive hr, rfl, rfl, rfl, ?_⟩
        simp [status_of_isActive hr]
  | reapExpiredReservations clock now =>
    simp only [Op.run]
    rcases reapExpiredReservations_cases clock now fl db with ⟨r, h, -⟩ | ⟨r, w, h, rfl⟩ <;>
      rw [h]
    · exact .same
    · exact .update fun r hr => quiet_reap hr
  | deleteTerminalQuotaReservations before =>
    rcases before with _ | t
    · exact .same
    · show Effect _ db ((deleteTerminalTx t).run fl db).2
      rcases deleteTerminalTx_cases t fl db with ⟨r, h, -⟩ | ⟨r, w, h, rfl⟩ <;> rw [h]
      · exact .same
      · refine .delete fun r hr hs => ?_
        simp [deletable, hs] at hr

end MacProvider.Gateway.Store.Steps
