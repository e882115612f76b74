import MacProvider.Gateway.Store.Ops

/-! # Usage events

The two statements of `EnsureUsageEvent`, which are not in a transaction: the insert that ignores a
row it cannot make, and the read of the row that is there. -/

namespace MacProvider.Gateway.Store.Usage

open Gateway.Time Store.Schema Store.Ops Lib.Tables Lib.Transactions

/-- The arguments of `InsertUsageEvent`. -/
structure UsageEvent where
  key : Key
  demoIdentity : String
  windowDate : String
  promptTokens : ℤ
  completionTokens : ℤ
  totalTokens : ℤ
  tokenSource : String
  outcome : String
  createdAt : Option Instant

/-- Its row. -/
def UsageEvent.row (ev : UsageEvent) (clock : Instant) : UsageRow where
  key := ev.key
  demoIdentity := ev.demoIdentity
  windowDate := ev.windowDate
  promptTokens := ev.promptTokens
  completionTokens := ev.completionTokens
  totalTokens := ev.totalTokens
  tokenSource := ev.tokenSource
  outcome := ev.outcome
  createdAt := ev.createdAt.getD clock

/-- The checks of `insertUsageEventExec`: the total of the row. -/
def checkUsageTokens (ev : UsageEvent) : Except StoreErr ℤ :=
  if ev.promptTokens < 0 ∨ ev.completionTokens < 0 ∨ ev.totalTokens < 0 then
    .error (.invalid "usage tokens must be non-negative")
  else if maxInt64 - ev.completionTokens < ev.promptTokens then
    .error (.invalid "usage token total overflows int64")
  else
    let sum := ev.promptTokens + ev.completionTokens
    if ev.totalTokens = 0 then .ok sum
    else if ev.totalTokens ≠ sum then
      .error (.invalid "usage total_tokens does not match prompt_tokens plus completion_tokens")
    else .ok ev.totalTokens

/-- With its total filled in. -/
def UsageEvent.normalized (ev : UsageEvent) : UsageEvent :=
  if ev.totalTokens = 0 then
    { ev with totalTokens := wrap64 (ev.promptTokens + ev.completionTokens) }
  else ev

/-- The comparison of `EnsureUsageEvent`. -/
def UsageEvent.sameBill (ev : UsageEvent) (u : UsageRow) : Bool :=
  decide (u.key.accountID = ev.key.accountID) && decide (u.demoIdentity = ev.demoIdentity) &&
    decide (u.windowDate = ev.windowDate) && decide (u.promptTokens = ev.promptTokens) &&
    decide (u.completionTokens = ev.completionTokens) && decide (u.totalTokens = ev.totalTokens) &&
    decide (u.tokenSource = ev.tokenSource) && decide (u.outcome = ev.outcome)

/-- The row of a key. -/
def selectUsage (k : Key) : Stmt (Option UsageRow) := fun db => .ok (db, db.usage.find? k)

/-- `EnsureDemoUsageEvent`. -/
def ensureDemoUsageEvent (clock : Instant) (d : DemoUsageEvent) : Stmt ℕ := fun db =>
  match insertDemoUsage ⟨⟨d.demoTokenHash, d.requestID⟩, d.clientIP, d.windowDate, d.totalTokens,
    d.createdAt.getD clock⟩ db with
  | .ok (db', ()) => .ok (db', 1)
  | .error _ => .ok (db, 0)

/-- A statement on its own. -/
def execContext {β : Type} (s : Stmt β) (f : Fault SqlErr) (db : Db) : Except SqlErr β × Db :=
  match f.now with
  | some e => (.error e, db)
  | none =>
    match s db with
    | .error e => (.error e, db)
    | .ok (db', b) => (f.late.elim (.ok b) .error, db')

section Effects
variable {clock : Instant} {ev : UsageEvent} {db : Db}

theorem execContext_cases {β : Type} (s : Stmt β) (f : Fault SqlErr) (db : Db) :
    (∃ e, execContext s f db = (.error e, db)) ∨
      ∃ db' b r, s db = .ok (db', b) ∧ execContext s f db = (r, db') ∧
        (r = .ok b ∨ ∃ e, r = .error e) := by
  unfold execContext
  rcases f.now with _ | e <;> dsimp only
  · rcases s db with e | ⟨db', b⟩ <;> dsimp only
    · exact Or.inl ⟨e, rfl⟩
    · rcases f.late with _ | e
      · exact Or.inr ⟨db', b, _, rfl, rfl, Or.inl rfl⟩
      · exact Or.inr ⟨db', b, _, rfl, rfl, Or.inr ⟨e, rfl⟩⟩
  · exact Or.inl ⟨e, rfl⟩

theorem insertOrIgnoreUsage_cases (u : UsageRow) (db : Db) :
    (∃ t, db.usage.insert u = some t ∧
        insertOrIgnoreUsage u db = .ok ({ db with usage := t }, 1)) ∨
      ((u.check = false ∨ db.usage.find? u.key ≠ none) ∧
        insertOrIgnoreUsage u db = .ok (db, 0)) := by
  unfold insertOrIgnoreUsage insertUsage
  by_cases hc : u.check = true
  · rw [if_pos hc]
    rcases hi : db.usage.insert u with _ | t
    · exact Or.inr ⟨Or.inr (Table.insert_eq_none.mp hi), rfl⟩
    · exact Or.inl ⟨t, rfl, rfl⟩
  · rw [if_neg hc]
    exact Or.inr ⟨Or.inl (by simpa using hc), rfl⟩

theorem ensureDemoUsageEvent_cases (clock : Instant) (d : DemoUsageEvent) (db : Db) :
    ∃ t n, ensureDemoUsageEvent clock d db = .ok ({ db with demo := t }, n) := by
  unfold ensureDemoUsageEvent insertDemoUsage
  split_ifs
  · rcases db.demo.insert _ with _ | t
    · exact ⟨db.demo, 0, rfl⟩
    · exact ⟨t, 1, rfl⟩
  · exact ⟨db.demo, 0, rfl⟩

theorem checkUsageTokens_ok {total : ℤ} (h : checkUsageTokens ev = .ok total) :
    0 ≤ ev.promptTokens ∧ 0 ≤ ev.completionTokens ∧
      ev.promptTokens + ev.completionTokens ≤ maxInt64 ∧
      total = ev.promptTokens + ev.completionTokens := by
  unfold checkUsageTokens at h
  dsimp only at h
  split_ifs at h with h1 h2 h3 h4 <;> cases h <;> omega

end Effects

end MacProvider.Gateway.Store.Usage
