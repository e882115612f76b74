import MacProvider.Gateway.Store.Steps
import MacProvider.Lib.Calls

/-! # Admission of a chat completion

`handleChatCompletions` from the reservation to the dispatch, as a program over the store: reserve
the quota, take a lease, and undo the reservation by its key when something goes wrong. -/

namespace MacProvider.Gateway.Router.Admission

open Gateway.Time Store.Schema Store.Ops Lib.Calls Lib.Runs
open Lib.Transactions (Fault)

/-- The calls of a run. -/
inductive Call
  | reserveQuota (req : ReservationRequest)
  | refundReservation (k : Key) (refundedAt : ℕ)
  | acquireConcurrency (req : ConcurrencyRequest)
  | releaseConcurrency (k : Key) (releasedAt : Instant)

/-- Their answers. -/
def Answer : Call → Type
  | .reserveQuota _ => QuotaDecision × Option StoreErr
  | .refundReservation _ _ => Option StoreErr
  | .acquireConcurrency _ => ConcurrencyDecision × Option StoreErr
  | .releaseConcurrency _ _ => Option SqlErr

/-- A statement on its own. -/
def autocommit (s : Stmt ℕ) (f : Fault SqlErr) (db : Db) : Option SqlErr × Db :=
  match f.now with
  | some e => (some e, db)
  | none =>
    match s db with
    | .error e => (some e, db)
    | .ok (db', _) => (f.late, db')

/-- No time is zero, so `time.Now()` is not read. -/
def Call.run : (c : Call) → Fault SqlErr → Db → Answer c × Db
  | .reserveQuota req, f, db => (Store.Ops.reserveQuota 0 req).run f db
  | .refundReservation k t, f, db => (Store.Ops.refundReservation k t).run f db
  | .acquireConcurrency req, f, db => (Store.Ops.acquireConcurrency 0 req).run f db
  | .releaseConcurrency k t, f, db => autocommit (Store.Ops.releaseConcurrency 0 k (some t)) f db

/-! ### The handler -/

/-- An error that the client gets. -/
structure ErrorResponse where
  status : ℕ
  type : String
  code : String
  message : String
deriving DecidableEq

/-- How a run ends. -/
inductive Outcome
  | respond (e : ErrorResponse)
  /-- The client is gone, nothing is written. -/
  | silent
  | dispatch
deriving DecidableEq

/-- The configuration. -/
structure Config where
  /-- `ReservationMaxAgeHours`. -/
  reservationMaxAgeHours : ℕ
  accountConcurrency : ℤ
  demoConcurrency : ℤ

/-- What the handler has at the reservation. -/
structure ChatRequest where
  key : Key
  promptReservation : ℤ
  maxTokens : ℤ
  dailyQuota : ℤ
  demo : Bool
  requestBound : ℕ
  /-- Sticky routing is on, the subject is no demo and its conversation tag is not valid. -/
  invalidConversationTag : Bool
  /-- The readings of `s.now()`, in the order in which the handler can make them. -/
  now : ℕ → Instant

section Handler
variable (cfg : Config) (r : ChatRequest)

/-- `RefundReservation`, its error ignored. -/
def refundThen (n : ℕ) (k : Prog Answer Outcome) : Prog Answer Outcome :=
  .call (.refundReservation r.key (r.now n / nanosPerSecond)) fun _ => k

/-- No response to a client that is gone. -/
def failedWith (e : StoreErr) (response : ErrorResponse) : Outcome :=
  if e.isContext then .silent else .respond response

/-- The quota does not suffice. -/
def quotaExhausted : ErrorResponse :=
  ⟨429, "rate_limit_exceeded", "quota_exhausted", "Quota exhausted"⟩

/-- Conversation tag, then dispatch. A run that does not dispatch releases its lease at its
return. -/
def afterAcquire : Prog Answer Outcome :=
  if r.invalidConversationTag then
    refundThen r 7 (.call (.releaseConcurrency r.key (r.now 8)) fun _ =>
      .ret (.respond ⟨400, "invalid_request_error", "invalid_conversation_tag",
        "Invalid conversation tag"⟩))
  else .ret .dispatch

/-- Behind `AcquireConcurrency`. -/
def afterLease : ConcurrencyDecision × Option StoreErr → Prog Answer Outcome
  | (_, none) => afterAcquire r
  | (_, some .quotaExceeded) =>
    refundThen r 6 (.ret (.respond
      (if r.demo then ⟨429, "rate_limit_exceeded", "demo_concurrency_exceeded",
        "Demo concurrency limit exceeded"⟩
      else ⟨429, "rate_limit_exceeded", "account_concurrency_exceeded",
        "Account concurrency limit exceeded"⟩)))
  | (_, some e) =>
    refundThen r 6 (.ret (failedWith e ⟨500, "server_error", "concurrency_reservation_failed",
      "Could not reserve concurrency"⟩))

/-- The lease a run asks for. -/
def lease : ConcurrencyRequest :=
  ⟨r.key, if r.demo then cfg.demoConcurrency else cfg.accountConcurrency,
    some (r.now 5 + (r.requestBound + minutes 1)), some (r.now 4)⟩

/-- The second call. -/
def acquire : Prog Answer Outcome := .call (.acquireConcurrency (lease cfg r)) (afterLease r)

/-- The defensive refund of what was not admitted, and the response. -/
def reserveFailed (decision : QuotaDecision) (e : StoreErr) : Prog Answer Outcome :=
  if !decision.admitted && decision.remainingTokens == 0 && decide (0 < decision.limitTokens) then
    .ret (.respond quotaExhausted)
  else if e = .reservationExists then
    .ret (.respond ⟨409, "invalid_request_error", "duplicate_request_id",
      "Request ID already has an active quota reservation"⟩)
  else
    let last : Prog Answer Outcome :=
      .ret (failedWith e
        ⟨500, "server_error", "quota_reservation_failed", "Could not reserve quota"⟩)
    if !decision.admitted then refundThen r 3 last else last

/-- Behind `ReserveQuota`. -/
def afterReserve : QuotaDecision × Option StoreErr → Prog Answer Outcome
  | (_, none) => acquire cfg r
  | (_, some .quotaExceeded) => .ret (.respond quotaExhausted)
  | (decision, some e) =>
    if decision.admitted then refundThen r 3 (reserveFailed r decision e)
    else reserveFailed r decision e

/-- The tokens a run asks for. -/
def reservationTokens : ℤ := wrap64 (r.promptReservation + r.maxTokens)

/-- Its reservation. -/
def reservation : ReservationRequest where
  key := r.key
  windowDate := windowDate (r.now 0)
  requestedTokens := reservationTokens r
  dailyQuota := r.dailyQuota
  expiresAt := some (r.now 2 + hours cfg.reservationMaxAgeHours)
  createdAt := some (r.now 1)

/-- From the reservation to the dispatch. -/
def handleChatCompletions : Prog Answer Outcome :=
  if reservationTokens r < r.maxTokens then
    .ret (.respond ⟨400, "invalid_request_error", "token_limit_overflow",
      "Requested token reservation overflows"⟩)
  else .call (.reserveQuota (reservation cfg r)) (afterReserve cfg r)

end Handler

/-! ### What a run can still do -/

/-- A `ReserveQuota`. -/
def IsReserve : Call → Prop
  | .reserveQuota _ => True
  | _ => False

/-- A refund of the key. -/
def IsRefund (k : Key) : Call → Prop
  | .refundReservation k' _ => k' = k
  | _ => False

/-- An `AcquireConcurrency`. -/
def IsAcquire : Call → Prop
  | .acquireConcurrency _ => True
  | _ => False

section Programs
variable {cfg : Config} {r : ChatRequest}

variable {P : Call → Prop} {n : ℕ} {p : Prog Answer Outcome}

theorem mayCall_refundThen :
    (refundThen r n p).MayCall P ↔
      P (.refundReservation r.key (r.now n / nanosPerSecond)) ∨ p.MayCall P := by
  unfold refundThen
  exact or_congr_right ⟨fun ⟨_, h⟩ => h, fun h => ⟨none, h⟩⟩

theorem mayCall_afterAcquire (h : (afterAcquire r).MayCall P) :
    (∃ t, P (.refundReservation r.key t)) ∨ ∃ t, P (.releaseConcurrency r.key t) := by
  unfold afterAcquire at h
  split_ifs at h
  · rcases mayCall_refundThen.mp h with h | h
    · exact Or.inl ⟨_, h⟩
    · rcases h with h | ⟨_, h⟩
      · exact Or.inr ⟨_, h⟩
      · cases h
  · cases h

theorem mayCall_afterLease {a : ConcurrencyDecision × Option StoreErr}
    (h : (afterLease r a).MayCall P) :
    (∃ t, P (.refundReservation r.key t)) ∨ ∃ t, P (.releaseConcurrency r.key t) := by
  have refunded : ∀ {n o}, (refundThen r n (.ret o)).MayCall P →
      ∃ t, P (.refundReservation r.key t) := by
    intro n o h
    rcases mayCall_refundThen.mp h with h | h
    · exact ⟨_, h⟩
    · cases h
  obtain ⟨d, e⟩ := a
  rcases e with _ | e
  · exact mayCall_afterAcquire h
  · cases e <;> exact Or.inl (refunded h)

theorem mayCall_acquire (h : (acquire cfg r).MayCall P) :
    P (.acquireConcurrency (lease cfg r)) ∨
      (∃ t, P (.refundReservation r.key t)) ∨ ∃ t, P (.releaseConcurrency r.key t) := by
  rcases h with h | ⟨a, h⟩
  · exact Or.inl h
  · exact Or.inr (mayCall_afterLease h)

theorem mayCall_reserveFailed {d : QuotaDecision} {e : StoreErr}
    (h : (reserveFailed r d e).MayCall P) :
    (∃ t, P (.refundReservation r.key t)) ∧ d.admitted = false ∧ e ≠ .reservationExists := by
  unfold reserveFailed at h
  split_ifs at h with h1 h2 h3
  · cases h
  · cases h
  · rcases mayCall_refundThen.mp h with h | h
    · exact ⟨⟨_, h⟩, by simpa using h3, h2⟩
    · cases h
  · cases h

theorem not_mayCall_reserve (a : QuotaDecision × Option StoreErr) :
    ¬ (afterReserve cfg r a).MayCall IsReserve := by
  obtain ⟨d, e⟩ := a
  have failed : ∀ d e, ¬ (reserveFailed r d e).MayCall IsReserve := by
    intro d e h
    obtain ⟨⟨t, ht⟩, -⟩ := mayCall_reserveFailed h
    exact ht
  intro h
  rcases e with _ | e
  · rcases mayCall_acquire h with h | ⟨_, h⟩ | ⟨_, h⟩ <;> exact h
  · unfold afterReserve at h
    split at h
    · cases ‹(_, _) = (_, none)›
    · cases h
    · split_ifs at h
      · rcases mayCall_refundThen.mp h with h | h
        · exact h
        · exact failed _ _ h
      · exact failed _ _ h

theorem refund_of_mayCall {k : Key} {a : QuotaDecision × Option StoreErr}
    (h : (afterReserve cfg r a).MayCall (IsRefund k)) :
    k = r.key ∧ (a.1.admitted = false → a.2 ≠ some .reservationExists) := by
  obtain ⟨d, e⟩ := a
  rcases e with _ | e
  · refine ⟨?_, fun _ => nofun⟩
    rcases mayCall_acquire h with h | ⟨_, h⟩ | ⟨_, h⟩
    · cases h
    · exact h.symm
    · cases h
  · unfold afterReserve at h
    split at h
    · cases ‹(_, _) = (_, none)›
    · cases h
    · rename_i d' e' _ heq
      cases heq
      split_ifs at h with ha
      · refine ⟨?_, fun hna => absurd (ha.symm.trans hna) nofun⟩
        rcases mayCall_refundThen.mp h with h | h
        · exact h.symm
        · obtain ⟨⟨t, ht⟩, -⟩ := mayCall_reserveFailed h
          exact ht.symm
      · obtain ⟨⟨t, ht⟩, -, hne⟩ := mayCall_reserveFailed h
        exact ⟨ht.symm, fun _ hc => hne (Option.some.inj hc)⟩

theorem mayRet_refundThen {Q : Outcome → Prop} : (refundThen r n p).MayRet Q ↔ p.MayRet Q :=
  ⟨fun ⟨_, h⟩ => h, fun h => ⟨none, h⟩⟩

theorem failedWith_ne_dispatch (e : StoreErr) (response : ErrorResponse) :
    failedWith e response ≠ .dispatch := by
  unfold failedWith
  split_ifs <;> exact nofun

theorem not_dispatch_reserveFailed (d : QuotaDecision) (e : StoreErr) :
    ¬ (reserveFailed r d e).MayRet (· = .dispatch) := by
  intro h
  unfold reserveFailed at h
  split_ifs at h
  · cases h
  · cases h
  · exact failedWith_ne_dispatch _ _ (mayRet_refundThen.mp h)
  · exact failedWith_ne_dispatch _ _ h

theorem leased_of_dispatch {a : ConcurrencyDecision × Option StoreErr}
    (h : (afterLease r a).MayRet (· = .dispatch)) : a.2 = none := by
  obtain ⟨d, e⟩ := a
  rcases e with _ | e
  · rfl
  · exfalso
    cases e with
    | quotaExceeded => cases mayRet_refundThen.mp h
    | _ => exact failedWith_ne_dispatch _ _ (mayRet_refundThen.mp h)

theorem afterReserve_cases (a : QuotaDecision × Option StoreErr) :
    afterReserve cfg r a = acquire cfg r ∨
      (¬ (afterReserve cfg r a).MayCall IsAcquire ∧
        ¬ (afterReserve cfg r a).MayRet (· = .dispatch)) := by
  have failed : ∀ d e, ¬ (reserveFailed r d e).MayCall IsAcquire := by
    intro d e h
    obtain ⟨⟨t, ht⟩, -⟩ := mayCall_reserveFailed h
    exact ht
  obtain ⟨d, e⟩ := a
  rcases e with _ | e
  · exact Or.inl rfl
  refine Or.inr ?_
  unfold afterReserve
  split
  · cases ‹(_, _) = (_, none)›
  · exact ⟨id, nofun⟩
  · split_ifs
    · refine ⟨fun h => ?_, fun h => not_dispatch_reserveFailed _ _ (mayRet_refundThen.mp h)⟩
      rcases mayCall_refundThen.mp h with h | h
      · exact h
      · exact failed _ _ h
    · exact ⟨failed _ _, not_dispatch_reserveFailed _ _⟩

/-- Before `ReserveQuota`, before `AcquireConcurrency`, or behind. -/
def Stage (cfg : Config) (r : ChatRequest) (p : Prog Answer Outcome) : Prop :=
  p = .call (.reserveQuota (reservation cfg r)) (afterReserve cfg r) ∨ p = acquire cfg r ∨
    (¬ p.MayCall IsReserve ∧ ¬ p.MayCall IsAcquire)

theorem stage_handler (cfg : Config) (r : ChatRequest) :
    Stage cfg r (handleChatCompletions cfg r) := by
  unfold handleChatCompletions
  split_ifs
  · exact Or.inr (Or.inr ⟨id, id⟩)
  · exact Or.inl rfl

theorem Stage.reserve (h : Stage cfg r p) :
    p = .call (.reserveQuota (reservation cfg r)) (afterReserve cfg r) ∨ ¬ p.MayCall IsReserve := by
  rcases h with h | rfl | ⟨h, -⟩
  · exact Or.inl h
  · refine Or.inr fun h => ?_
    rcases mayCall_acquire h with h | ⟨_, h⟩ | ⟨_, h⟩ <;> exact h
  · exact Or.inr h

theorem stage_next {c : Call} {k : Answer c → Prog Answer Outcome} (h : Stage cfg r (.call c k))
    (a : Answer c) : Stage cfg r (k a) := by
  rcases h with h | h | ⟨hr, ha⟩
  · cases h
    rcases afterReserve_cases a with h | ⟨ha, -⟩
    · exact Or.inr (Or.inl h)
    · exact Or.inr (Or.inr ⟨not_mayCall_reserve a, ha⟩)
  · cases h
    refine Or.inr (Or.inr ⟨fun h => ?_, fun h => ?_⟩) <;>
      rcases mayCall_afterLease h with ⟨_, h⟩ | ⟨_, h⟩ <;> exact h
  · exact Or.inr (Or.inr ⟨Prog.not_mayCall_next hr a, Prog.not_mayCall_next ha a⟩)

end Programs

/-! ### Pools of runs -/

/-- The store and its history. -/
structure World (ι : Type) where
  db : Db
  /-- The run that inserted the reservation of a key. -/
  owner : Key → Option ι
  /-- The run that inserted the lease of a key. -/
  lessee : Key → Option ι
  /-- The runs of which a `RefundReservation` call failed. -/
  unrefunded : ι → Bool

/-- Every method but `ReserveQuota`, and `ReleaseConcurrency`. -/
inductive Env
  | reservations (o : Store.Steps.Op) (f : Fault SqlErr)
      (h : ∀ clock req, o ≠ .reserveQuota clock req)
  | release (k : Key) (releasedAt : Instant) (f : Fault SqlErr)

/-- A step of the environment. -/
def Env.run {ι : Type} (w : World ι) : Env → World ι
  | .reservations o f _ => { w with db := o.run f w.db }
  | .release k t f =>
    { w with db := (autocommit (Store.Ops.releaseConcurrency 0 k (some t)) f w.db).2 }

/-- The refund was not executed. -/
def refundFailed : Option StoreErr → Bool
  | some (.sql _) => true
  | _ => false

section Exec
variable {ι : Type} [DecidableEq ι]

/-- The call of run `i`, with its history. -/
def exec (i : ι) (c : Call) (f : Fault SqlErr) (w : World ι) : Answer c × World ι :=
  let out := c.run f w.db
  (out.1,
    match c, out with
    | .reserveQuota req, (_, db') =>
      let inserted := (w.db.quota.find? req.key).isNone && (db'.quota.find? req.key).isSome
      { w with
        db := db', owner := if inserted then Function.update w.owner req.key (some i) else w.owner }
    | .acquireConcurrency req, (_, db') =>
      let inserted := (w.db.leases.find? req.key).isNone && (db'.leases.find? req.key).isSome
      { w with
        db := db'
        lessee := if inserted then Function.update w.lessee req.key (some i) else w.lessee }
    | .refundReservation _ _, (e, db') =>
      { w with
        db := db'
        unrefunded := if refundFailed e then Function.update w.unrefunded i true else w.unrefunded }
    | .releaseConcurrency _ _, (_, db') => { w with db := db' })

theorem exec_fst (i : ι) (c : Call) (f : Fault SqlErr) (w : World ι) :
    (exec i c f w).1 = (c.run f w.db).1 := rfl

theorem exec_db (i : ι) (c : Call) (f : Fault SqlErr) (w : World ι) :
    (exec i c f w).2.db = (c.run f w.db).2 := by
  cases c <;> rfl

theorem exec_owner {c : Call} (hc : ¬ IsReserve c) (i : ι) (f : Fault SqlErr) (w : World ι) :
    (exec i c f w).2.owner = w.owner := by
  cases c with
  | reserveQuota req => exact absurd trivial hc
  | _ => rfl

variable {i : ι} {f : Fault SqlErr} {w : World ι} {req : ReservationRequest}

theorem exec_owner_of_row
    {k : Key} (h : w.db.quota.find? k ≠ none) :
    (exec i (.reserveQuota req) f w).2.owner k = w.owner k := by
  unfold exec
  dsimp only
  split_ifs with hins
  · refine Function.update_of_ne ?_ _ _
    rintro rfl
    simp only [Bool.and_eq_true, Option.isNone_iff_eq_none] at hins
    exact h hins.1
  · rfl

theorem exec_owner_cases (i : ι) (req : ReservationRequest) (f : Fault SqlErr) (w : World ι)
    (k : Key) : (exec i (.reserveQuota req) f w).2.owner k = w.owner k ∨
      (exec i (.reserveQuota req) f w).2.owner k = some i := by
  unfold exec
  dsimp only
  split_ifs
  · rcases eq_or_ne k req.key with rfl | hk
    · exact Or.inr (Function.update_self _ _ _)
    · exact Or.inl (Function.update_of_ne hk _ _)
  · exact Or.inl rfl

theorem exec_owner_inserted
    (h : w.db.quota.find? req.key = none)
    (h' : ((Call.reserveQuota req).run f w.db).2.quota.find? req.key ≠ none) :
    (exec i (.reserveQuota req) f w).2.owner req.key = some i := by
  unfold exec
  dsimp only
  rw [if_pos]
  · exact Function.update_self _ _ _
  · simp only [h, Option.isNone_none, Bool.true_and]
    exact Option.isSome_iff_ne_none.mpr h'

end Exec

/-- The runs before their first call. -/
def start {ι : Type} (cfg : Config) (r : ι → ChatRequest) (db : Db) :
    Pool ι Answer Outcome (World ι) where
  progs i := handleChatCompletions cfg (r i)
  state := ⟨db, fun _ => none, fun _ => none, fun _ => false⟩

section Runs
variable {ι : Type} [DecidableEq ι]

/-- The runs over the store. -/
abbrev Runs (ι : Type) := Pool ι Answer Outcome (World ι)

/-- A step. -/
abbrev Action (ι : Type) := Act ι Env (Fault SqlErr)

/-- One step. -/
abbrev step : Runs ι → Action ι → Runs ι := Pool.step exec fun e w => Env.run w e

/-- Behind the call of a run. -/
abbrev after (p : Runs ι) (i : ι) (c : Call) (k : Answer c → Prog Answer Outcome)
    (f : Fault SqlErr) : Runs ι :=
  ⟨Function.update p.progs i (k (exec i c f p.state).1), (exec i c f p.state).2⟩

/-- A sequence of steps. -/
abbrev steps (p : Runs ι) (as : List (Action ι)) : Runs ι := run step p as

/-- The pools that allowed actions lead to. -/
abbrev Leads (ok : Runs ι → Action ι → Prop) (p₀ p : Runs ι) : Prop :=
  Reaches (Pool.step exec fun e w => Env.run w e) ok p₀ p

/-- No condition on the steps. -/
def anyAction (_ : Runs ι) (_ : Action ι) : Prop := True

/-- Every run is at one of its stages. -/
def Staged (cfg : Config) (r : ι → ChatRequest) (p : Runs ι) : Prop :=
  ∀ i, Stage cfg (r i) (p.progs i)

theorem staged_call {cfg : Config} {r : ι → ChatRequest} {p : Runs ι} (h : Staged cfg r p) {i : ι}
    {c : Call} {k : Answer c → Prog Answer Outcome} (hp : p.progs i = .call c k) (a : Answer c)
    (w : World ι) : Staged cfg r ⟨Function.update p.progs i (k a), w⟩ := by
  intro j
  have hi := h i
  rw [hp] at hi
  rcases eq_or_ne j i with rfl | hj
  · simpa only [Function.update_self] using stage_next hi a
  · simpa only [Function.update_of_ne hj] using h j

end Runs

end MacProvider.Gateway.Router.Admission
