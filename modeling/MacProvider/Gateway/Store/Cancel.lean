import MacProvider.Gateway.Store.Ops

/-! # Store operations under a cancelled context

`immediateTx` issues `COMMIT` and `ROLLBACK` under the context of the caller. If it dies behind
`BEGIN IMMEDIATE`, the pooled connection stays inside the transaction. -/

namespace MacProvider.Gateway.Store.Cancel

open Gateway.Time Store.Schema Store.Ops Lib.Transactions

variable {σ ρ : Type}

/-- The errors of the connection. -/
def connErrors : ConnErrors SqlErr := ⟨.canceled, .nestedTransaction⟩

/-- Its context is cancelled after `live` calls. -/
def exec (op : ImmediateOp σ ρ) (live : ℕ) (c : Conn σ) : ρ × Conn σ :=
  op.body.exec connErrors op.fail live c

/-- The connection, `BEGIN IMMEDIATE`, statements and closing. -/
def calls (op : ImmediateOp σ ρ) (db : σ) : ℕ := op.body.calls db + 2

/-- **Cancellation**: an operation gives back a connection outside a transaction, its writes all in
or all out, exactly when the context dies before `BEGIN IMMEDIATE` or not before the closing
statement. -/
theorem settled_iff_cancelled_outside (op : ImmediateOp σ ρ) (live : ℕ) (db : σ) :
    op.body.Settled connErrors db (exec op live ⟨db, none⟩).2 ↔ live ≤ 1 ∨ calls op db ≤ live :=
  Prog.exec_settled_iff connErrors op.body op.fail live db

/-- 10 tokens, the first of an account. -/
def firstRequest : ReservationRequest where
  key := ⟨"acct", "req"⟩
  windowDate := "2026-01-01"
  requestedTokens := 10
  dailyQuota := 100
  expiresAt := none
  createdAt := some (seconds 1767225600)

theorem reserveQuota_cancelled_before_commit :
    ¬ (reserveQuota 0 firstRequest).body.Settled connErrors Db.empty
      (exec (reserveQuota 0 firstRequest) 7 ⟨Db.empty, none⟩).2 := by
  intro h
  have hc : (reserveQuota 0 firstRequest).body.calls Db.empty = 6 := by decide +kernel
  have := (Prog.exec_settled_iff _ _ _ _ _).mp h
  omega

end MacProvider.Gateway.Store.Cancel
