import MacProvider.Coordinator.Billing.Receipts
import MacProvider.Lib.Runs

/-! # Replayed requests

`handleChatCompletions` (`internal/buyer/server.go`): a second request with an idempotency key is
answered with a conflict, logged under the same request id. `writeHotPath` counts the rows of a
request, so an early answer makes the attempt look like a copy. `Alone` relates the runs with and
without such requests. -/

namespace MacProvider.Coordinator.Billing.Replays

open Lib.Tables Lib.Runs Billing.HotPath Billing.Recording Billing.Receipts

/-! ### Requests -/

/-- A row of `request_idempotency_keys`. -/
structure Reservation where
  accountID : String
  idempotencyKey : String
  bodySHA256 : String
  requestID : String

/-- The account and the key. -/
def Reservation.slot (k : Reservation) : String × String := (k.accountID, k.idempotencyKey)

/-- The request id and whether the key was there, or a conflict. -/
def reserveIdempotencyKey (accountID key bodySHA256 requestID : String)
    (t : Table Reservation.slot) : Option (String × Bool) × Table Reservation.slot :=
  match t.find? (accountID, key) with
  | some k => if k.bodySHA256 ≠ bodySHA256 then (none, t) else (some (k.requestID, true), t)
  | none =>
    (some (requestID, false), (t.insert ⟨accountID, key, bodySHA256, requestID⟩).getD t)

/-- A request with a key; the recorder has the server's id. -/
structure ChatRequest where
  recorder : BillingRecorder
  idempotencyKey : String
  bodySHA256 : String

/-- What a handler is doing. -/
inductive Phase
  | absent
  | dispatched (r : BillingRecorder)
  /-- The key is taken; `replay` if the body is the same. -/
  | refused (replay : Bool) (r : BillingRecorder)
  | answered

/-- `replays` counts answers logged under another id. -/
structure State where
  books : Books
  keys : Table Reservation.slot
  phase : ℕ → Phase
  replays : ℕ

/-- What can happen. -/
inductive Action
  | arrive (h : ℕ) (q : ChatRequest)
  | answer (h : ℕ)
  | record (h : ℕ) (server : Server) (a : Attempt)

/-- The handler it is about. -/
def Action.handler : Action → ℕ
  | .arrive h _ | .answer h | .record h _ _ => h

/-- The answer to a request whose key is taken. -/
def conflict : Attempt := ⟨"", "", 409, .null, "", 0, .none, none⟩

/-- A request comes. -/
def arrive (h : ℕ) (q : ChatRequest) (s : State) : State :=
  match reserveIdempotencyKey (accountOf q.recorder) q.idempotencyKey q.bodySHA256
      q.recorder.requestID s.keys with
  | (none, keys) =>
    { s with keys, phase := Function.update s.phase h (.refused false q.recorder) }
  | (some (requestID, true), keys) =>
    { s with
      keys, phase := Function.update s.phase h (.refused true { q.recorder with requestID }) }
  | (some (requestID, false), keys) =>
    { s with keys, phase := Function.update s.phase h (.dispatched { q.recorder with requestID }) }

/-- A conflict is answered. -/
def answer (env : Env) (server : Server) (h : ℕ) (replay : Bool) (r : BillingRecorder) (s : State) :
    State :=
  { s with
    books := (recordRow env server r conflict s.books).2.2
    phase := Function.update s.phase h .answered
    replays := s.replays + if replay then 1 else 0 }

/-- An attempt is recorded. -/
def record (env : Env) (server : Server) (h : ℕ) (r : BillingRecorder) (a : Attempt) (s : State) :
    State :=
  let out := recordRow env server r a s.books
  { s with books := out.2.2, phase := Function.update s.phase h (.dispatched out.2.1) }

/-- What an action does. -/
def step (env : Env) (idle : Server) (s : State) : Action → State
  | .arrive h q =>
    match s.phase h with
    | .absent => arrive h q s
    | _ => s
  | .answer h =>
    match s.phase h with
    | .refused replay r => answer env idle h replay r s
    | _ => s
  | .record h server a =>
    match s.phase h with
    | .dispatched r => record env server h r a s
    | _ => s

/-! ### An attempt with rows of replays before it -/

/-- An attempt that is credited. -/
def Hot (a : Attempt) : Prop := a.providerAssignedID ≠ "" ∧ a.status ≠ 503

instance (a : Attempt) : Decidable (Hot a) := by unfold Hot; infer_instance

section Attempt
variable {env : Env} {server : Server} {r : BillingRecorder} {a : Attempt} {b b' : Books} {k : ℕ}

theorem bill_congr {i : HotPathInput} {retried : ℤ} {n n' : ℕ} (h : n - 1 ≤ i.attemptN)
    (h' : n' - 1 ≤ i.attemptN) : bill i retried n = bill i retried n' := by
  unfold bill
  rw [if_neg (not_lt.mpr h), if_neg (not_lt.mpr h')]

theorem attemptBill_eq
    (hcount : b'.requestCount (accountOf r) r.requestID =
      b.requestCount (accountOf r) r.requestID + k)
    (hk : k = 0 ∨ b'.requestCount (accountOf r) r.requestID ≤ r.attemptN) :
    attemptBill env server r a b' = attemptBill env server r a b := by
  unfold attemptBill
  rcases hk with rfl | hle
  · rw [hcount, Nat.add_zero]
  · have hi : (billedInput env server r a).attemptN = r.attemptN := rfl
    exact bill_congr (by omega) (by omega)

/-- **The bill is the same.** -/
theorem writeAttempt_withLog (hassigned : a.providerAssignedID ≠ "")
    (hprovider : stableProviderID server a ≠ "") (hb : b' = b.withLog b'.log)
    (hbill : attemptBill env server r a b' = attemptBill env server r a b) :
    writeAttempt env server r a b' = (writeAttempt env server r a b).map
      (Books.withLog (insertLog (storedRow env server r a) b').log) := by
  have hlog : insertLog (storedRow env server r a) b' =
      (insertLog (storedRow env server r a) b).withLog
        (insertLog (storedRow env server r a) b').log := by
    conv_lhs => rw [hb]
    rfl
  unfold writeAttempt
  dsimp only
  rw [writeHotPath_eq env server r a b' hassigned,
    writeHotPath_eq env server r a b hassigned, hbill,
    hlog, writeBill_withLog, writeRequestLogWithIdentity_eq env server r a b' hassigned hprovider,
    writeRequestLogWithIdentity_eq env server r a b hassigned hprovider, hlog,
    insertProviderIdentitySnapshot_withLog]
  cases writeBill env ((billedInput env server r a).scoped env (accountOf r))
    (attemptBill env server r a b) (insertLog (storedRow env server r a) b) with
  | ok b₁ => rfl
  | error e =>
    cases insertProviderIdentitySnapshot (identityOf (billedInput env server r a) r.attemptN)
      (insertLog (storedRow env server r a) b) <;> rfl

theorem writeAttempt_log (hassigned : a.providerAssignedID ≠ "")
    (hprovider : stableProviderID server a ≠ "") {b₁ : Books}
    (h : writeAttempt env server r a b = .ok b₁) :
    b₁.log = (insertLog (storedRow env server r a) b).log := by
  unfold writeAttempt at h
  dsimp only at h
  rw [writeHotPath_eq env server r a b hassigned,
    writeRequestLogWithIdentity_eq env server r a b hassigned hprovider] at h
  split at h
  · next hok =>
    cases h
    exact writeBill_log hok
  · split at h
    · next hok =>
      cases h
      rw [(insertProviderIdentitySnapshot_ok hok).2]
    · cases h

theorem next_eq (r : BillingRecorder) (a : Attempt) :
    accountOf (r.next a) = accountOf r ∧ (r.next a).requestID = r.requestID := by
  unfold BillingRecorder.next
  split_ifs <;> exact ⟨rfl, rfl⟩

theorem recordRow_recorder :
    accountOf (recordRow env server r a b).2.1 = accountOf r ∧
      (recordRow env server r a b).2.1.requestID = r.requestID := by
  unfold recordRow
  split_ifs
  · exact next_eq r a
  · exact next_eq r a
  split
  · exact next_eq r a
  · unfold recordSettlementAttemptOutput
    split
    · exact next_eq r a
    · exact next_eq { r with outputCursorByte := _ } a

theorem requestCount_congr {x y : Books} (h : x.log = y.log) (acct req : String) :
    x.requestCount acct req = y.requestCount acct req := by
  unfold Books.requestCount
  rw [h]

/-- **With and without the rows of replays.** -/
theorem recordRow_withLog (hb : b' = b.withLog b'.log)
    (hcount : b'.requestCount (accountOf r) r.requestID =
      b.requestCount (accountOf r) r.requestID + k)
    (hk : Hot a → k = 0 ∨ b'.requestCount (accountOf r) r.requestID ≤ r.attemptN) :
    (recordRow env server r a b').2.1 = (recordRow env server r a b).2.1 ∧
      (recordRow env server r a b').2.2 =
        (recordRow env server r a b).2.2.withLog (recordRow env server r a b').2.2.log ∧
      (recordRow env server r a b').2.2.requestCount (accountOf r) r.requestID =
        (recordRow env server r a b).2.2.requestCount (accountOf r) r.requestID + k := by
  unfold recordRow
  by_cases hplain : a.providerAssignedID = "" ∨ a.status = 503
  · rw [if_pos hplain, if_pos hplain]
    refine ⟨rfl, ?_, ?_⟩
    · rw [hb]
      rfl
    · rw [requestCount_insertLog, requestCount_insertLog, hcount]
      omega
  rw [if_neg hplain, if_neg hplain]
  obtain ⟨hassigned, hstatus⟩ := not_or.mp hplain
  by_cases hprovider : stableProviderID server a = ""
  · rw [if_pos hprovider, if_pos hprovider]
    exact ⟨rfl, hb, hcount⟩
  rw [if_neg hprovider, if_neg hprovider]
  have hbill : attemptBill env server r a b' = attemptBill env server r a b :=
    attemptBill_eq hcount (hk ⟨hassigned, hstatus⟩)
  rw [writeAttempt_withLog hassigned hprovider hb hbill]
  rcases hw : writeAttempt env server r a b with e | b₁
  · exact ⟨rfl, hb, hcount⟩
  have hlog := writeAttempt_log hassigned hprovider hw
  have hcounts : ∀ x : Books, x.log = (insertLog (storedRow env server r a) b').log →
      ∀ y : Books, y.log = b₁.log → x.requestCount (accountOf r) r.requestID =
        y.requestCount (accountOf r) r.requestID + k := by
    intro x hx y hy
    rw [requestCount_congr hx, requestCount_congr (hy.trans hlog), requestCount_insertLog,
      requestCount_insertLog, hcount]
    omega
  dsimp only [Except.map]
  unfold recordSettlementAttemptOutput
  dsimp only [Books.withLog]
  split
  · exact ⟨rfl, rfl, hcounts _ rfl _ rfl⟩
  · exact ⟨rfl, rfl, hcounts _ rfl _ rfl⟩

end Attempt

/-! ### The run without the other requests -/

/-- What a handler of another request may be doing. -/
def Waits (accountID requestID : String) : Phase → Prop
  | .absent => True
  | .dispatched _ => False
  | .refused true r => accountOf r = accountID ∧ r.requestID = requestID
  | .refused false r => r.requestID ≠ requestID
  | .answered => True

/-- `s` has all requests, `t` that of handler `h₀` alone. -/
structure Alone (h₀ : ℕ) (accountID key requestID : String) (s t : State) : Prop where
  first : ∃ r, s.phase h₀ = .dispatched r ∧ t.phase h₀ = .dispatched r ∧
    accountOf r = accountID ∧ r.requestID = requestID
  books : s.books = t.books.withLog s.books.log
  count : s.books.requestCount accountID requestID =
    t.books.requestCount accountID requestID + s.replays
  reserved : ∃ k, s.keys.find? (accountID, key) = some k ∧ k.requestID = requestID
  others : ∀ h, h ≠ h₀ → Waits accountID requestID (s.phase h)

/-- **No replay is in the way**: none was answered, or the number is larger than the count
anyway. -/
def Undisturbed (h₀ : ℕ) (s : State) : Action → Prop
  | .record h _ a =>
    match s.phase h with
    | .dispatched r =>
      h = h₀ → Hot a → s.replays = 0 ∨
        s.books.requestCount (accountOf r) r.requestID ≤ r.attemptN
    | _ => True
  | _ => True

instance (h₀ : ℕ) (s : State) (act : Action) : Decidable (Undisturbed h₀ s act) := by
  unfold Undisturbed
  split
  · split <;> infer_instance
  · infer_instance

/-- Same account and key, other request ids. -/
def SameKey (h₀ : ℕ) (accountID key requestID : String) : Action → Prop
  | .arrive h q => h ≠ h₀ → accountOf q.recorder = accountID ∧ q.idempotencyKey = key ∧
      q.recorder.requestID ≠ requestID
  | _ => True

section Steps
variable {env : Env} {idle : Server} {h₀ : ℕ} {acct key req : String} {s t : State}

theorem Waits.update (h : ∀ h, h ≠ h₀ → Waits acct req (s.phase h)) {h₁ : ℕ} {p : Phase}
    (hp : h₁ ≠ h₀ → Waits acct req p) :
    ∀ h, h ≠ h₀ → Waits acct req (Function.update s.phase h₁ p h) :=
  (Function.forall_update_iff _ fun h q => h ≠ h₀ → Waits acct req q).mpr ⟨hp, fun h' _ => h h'⟩

section
variable (hal : Alone h₀ acct key req s t)
include hal

theorem Alone.arrive {h : ℕ} {q : ChatRequest}
    (hne : h ≠ h₀) (hq : accountOf q.recorder = acct ∧ q.idempotencyKey = key ∧
      q.recorder.requestID ≠ req) : Alone h₀ acct key req (arrive h q s) t := by
  obtain ⟨hacc, hkey, hid⟩ := hq
  obtain ⟨k, hk, hkid⟩ := hal.reserved
  have hfirst : ∀ p, Function.update s.phase h p h₀ = s.phase h₀ := fun p =>
    Function.update_of_ne (Ne.symm hne) _ _
  unfold Replays.arrive reserveIdempotencyKey
  rw [hacc, hkey, hk]
  dsimp only
  split_ifs
  · refine ⟨?_, hal.books, hal.count, ⟨k, hk, hkid⟩, Waits.update hal.others fun _ => hid⟩
    dsimp only
    rw [hfirst]
    exact hal.first
  · refine ⟨?_, hal.books, hal.count, ⟨k, hk, hkid⟩,
      Waits.update hal.others fun _ => ⟨hacc, hkid⟩⟩
    dsimp only
    rw [hfirst]
    exact hal.first

theorem Alone.answer {h : ℕ} {replay : Bool}
    {r : BillingRecorder} (hne : h ≠ h₀) (hphase : s.phase h = .refused replay r) :
    Alone h₀ acct key req (answer env idle h replay r s) t := by
  have hwaits := hal.others h hne
  rw [hphase] at hwaits
  have hplain : recordRow env idle r conflict s.books = (.ok (), r.next conflict,
      insertLog { logRowOf r conflict with accountID := accountOf r } s.books) :=
    if_pos (Or.inl rfl)
  have hcount := requestCount_insertLog s.books
    { logRowOf r conflict with accountID := accountOf r } acct req
  refine ⟨?_, ?_, ?_, hal.reserved, Waits.update hal.others fun _ => trivial⟩
  · obtain ⟨r₀, hr⟩ := hal.first
    refine ⟨r₀, ?_, hr.2⟩
    exact (Function.update_of_ne (Ne.symm hne) _ _).trans hr.1
  · unfold Replays.answer
    rw [hplain]
    rw [hal.books]
    rfl
  · unfold Replays.answer
    refine hcount.trans ?_
    rw [hal.count]
    cases replay with
    | true =>
      rw [if_pos ⟨hwaits.1, hwaits.2⟩]
      simp
      omega
    | false =>
      rw [if_neg fun h => hwaits h.2]
      simp

theorem Alone.record {server : Server} {a : Attempt}
    (hok : Undisturbed h₀ s (.record h₀ server a)) :
    Alone h₀ acct key req (step env idle s (.record h₀ server a))
      (step env idle t (.record h₀ server a)) := by
  obtain ⟨r, hs, ht, hacc, hreq⟩ := hal.first
  subst hacc hreq
  simp only [Undisturbed, hs] at hok
  have hstep : ∀ x : State, x.phase h₀ = .dispatched r →
      step env idle x (.record h₀ server a) = Replays.record env server h₀ r a x := by
    intro x hx
    simp only [Replays.step, hx]
  rw [hstep s hs, hstep t ht]
  obtain ⟨hrec, hbooks, hcount⟩ := @recordRow_withLog env server r a _ _ _ hal.books hal.count
    (hok trivial)
  have hsame := @recordRow_recorder env server r a t.books
  refine ⟨⟨_, ?_, ?_, hsame.1, hsame.2⟩, hbooks, hcount, hal.reserved, ?_⟩
  · unfold Replays.record
    dsimp only
    rw [Function.update_self, hrec]
  · exact Function.update_self ..
  · exact Waits.update hal.others fun h => absurd rfl h

/-- **One action.** -/
theorem Alone.step {act : Action}
    (hok : Undisturbed h₀ s act) (hsame : SameKey h₀ acct key req act) :
    Alone h₀ acct key req (step env idle s act)
      (if act.handler = h₀ then step env idle t act else t) := by
  obtain ⟨r, hs, ht, -⟩ := hal.first
  by_cases hh : act.handler = h₀
  · rw [if_pos hh]
    cases act with
    | arrive h q =>
      cases hh
      change s.phase h = _ at hs
      change t.phase h = _ at ht
      simp only [Replays.step, hs, ht]
      exact hal
    | answer h =>
      cases hh
      change s.phase h = _ at hs
      change t.phase h = _ at ht
      simp only [Replays.step, hs, ht]
      exact hal
    | record h server a =>
      cases hh
      exact hal.record hok
  · rw [if_neg hh]
    have hwaits := hal.others _ hh
    cases act with
    | arrive h q =>
      simp only [Replays.step]
      cases hp : s.phase h with
      | absent => exact hal.arrive hh (hsame hh)
      | _ => exact hal
    | answer h =>
      simp only [Replays.step]
      cases hp : s.phase h with
      | refused replay r => exact hal.answer hh hp
      | _ => exact hal
    | record h server a =>
      simp only [Replays.step]
      change Waits acct req (s.phase h) at hwaits
      cases hp : s.phase h with
      | dispatched r =>
        rw [hp] at hwaits
        exact hwaits.elim
      | _ => exact hal

/-- **A run** with the others and without them. -/
theorem Alone.run {acts : List Action}
    (hok : Allowed (Replays.step env idle) (Undisturbed h₀) s acts)
    (hsame : ∀ act ∈ acts, SameKey h₀ acct key req act) :
    Alone h₀ acct key req (run (Replays.step env idle) s acts)
      (run (Replays.step env idle) t (acts.filter fun act => act.handler = h₀)) := by
  induction acts generalizing s t with
  | nil => exact hal
  | cons act acts ih =>
    have hstep := @Alone.step env idle _ _ _ _ _ _ hal _ hok.1 (hsame act List.mem_cons_self)
    have htail := fun act h => hsame act (List.mem_cons_of_mem _ h)
    rw [run_cons, List.filter_cons]
    split_ifs with hh
    · rw [if_pos (of_decide_eq_true hh)] at hstep
      exact ih hstep hok.2 htail
    · rw [if_neg fun h => hh (decide_eq_true h)] at hstep
      exact ih hstep hok.2 htail

end

theorem alone_of_first {q₀ : ChatRequest} (habsent : ∀ h, s.phase h = .absent)
    (hreplays : s.replays = 0)
    (hfree : s.keys.find? (accountOf q₀.recorder, q₀.idempotencyKey) = none) :
    Alone h₀ (accountOf q₀.recorder) q₀.idempotencyKey q₀.recorder.requestID
      (Replays.step env idle s (.arrive h₀ q₀)) (Replays.step env idle s (.arrive h₀ q₀)) := by
  obtain ⟨keys, hins⟩ : ∃ keys, s.keys.insert ⟨accountOf q₀.recorder, q₀.idempotencyKey,
      q₀.bodySHA256, q₀.recorder.requestID⟩ = some keys := Table.exists_insert hfree
  have harrive : Replays.step env idle s (.arrive h₀ q₀) =
      { s with keys, phase := Function.update s.phase h₀ (.dispatched q₀.recorder) } := by
    simp only [Replays.step, habsent h₀, Replays.arrive, reserveIdempotencyKey, hfree, hins,
      Option.getD_some]
  rw [harrive]
  refine ⟨⟨q₀.recorder, Function.update_self .., Function.update_self .., rfl, rfl⟩, rfl, ?_,
    ⟨⟨accountOf q₀.recorder, q₀.idempotencyKey, q₀.bodySHA256, q₀.recorder.requestID⟩, ?_, rfl⟩, ?_⟩
  · dsimp only
    omega
  · rw [Table.find?_insert hins]
    exact if_pos rfl
  · refine Waits.update (fun h _ => ?_) fun h => absurd rfl h
    rw [habsent h]
    trivial

end Steps

/-- **Replays do not disturb the ledger** if none is in the way of an attempt. -/
theorem replays_leave_the_ledger (env : Env) (idle : Server) (s : State) (h₀ : ℕ)
    (q₀ : ChatRequest) (acts : List Action) (habsent : ∀ h, s.phase h = .absent)
    (hreplays : s.replays = 0)
    (hfree : s.keys.find? (accountOf q₀.recorder, q₀.idempotencyKey) = none)
    (hsame : ∀ act ∈ acts,
      SameKey h₀ (accountOf q₀.recorder) q₀.idempotencyKey q₀.recorder.requestID act)
    (hok : Allowed (step env idle) (Undisturbed h₀) (step env idle s (.arrive h₀ q₀)) acts) :
    (run (step env idle) s (.arrive h₀ q₀ :: acts)).books.credits =
      (run (step env idle) s (.arrive h₀ q₀ ::
        acts.filter fun act => act.handler = h₀)).books.credits := by
  have halone := (alone_of_first habsent hreplays hfree).run hok hsame
  rw [run_cons, run_cons, halone.books]
  rfl

/-! ### An answer before the attempt -/

def demoStart : State := ⟨.empty, .empty, fun _ => .absent, 0⟩

def demoRequest (requestID body : String) : ChatRequest :=
  ⟨{ demoRecorder with requestID }, "key", body⟩

def demoRows (acts : List Action) : List (ℕ × Bool × ℤ) :=
  (run (step demoEnv demoServer) demoStart acts).books.credits.rows.map fun c =>
    (c.attemptN, c.quarantined, c.grossCredits)

/-- A second request while the provider is at work: nothing is paid. -/
theorem replay_quarantines_the_attempt :
    demoRows [.arrive 0 (demoRequest "req" "body"),
        .record 0 demoServer (demoAttempt none)] = [(0, false, 4001)] ∧
      demoRows [.arrive 0 (demoRequest "req" "body"), .arrive 1 (demoRequest "req2" "body"),
        .answer 1, .record 0 demoServer (demoAttempt none)] = [(1, true, 0)] := by
  decide +kernel

/-- Another body before the attempt, a replay behind it. -/
def demoActs : List Action :=
  [.arrive 1 (demoRequest "req2" "other"), .answer 1, .record 0 demoServer (demoAttempt none),
    .arrive 2 (demoRequest "req3" "body"), .answer 2]

theorem replays_leave_the_ledger_behind_the_attempt :
    (run (step demoEnv demoServer) demoStart
        (.arrive 0 (demoRequest "req" "body") :: demoActs)).books.credits =
      (run (step demoEnv demoServer) demoStart (.arrive 0 (demoRequest "req" "body") ::
        demoActs.filter fun act => act.handler = 0)).books.credits :=
  replays_leave_the_ledger demoEnv demoServer demoStart 0 (demoRequest "req" "body") demoActs
    (fun _ => rfl) rfl rfl
    (by
      intro act hact
      simp only [demoActs, List.mem_cons, List.not_mem_nil, or_false] at hact
      rcases hact with rfl | rfl | rfl | rfl | rfl
      · exact fun _ => ⟨rfl, rfl, by decide⟩
      · trivial
      · trivial
      · exact fun _ => ⟨rfl, rfl, by decide⟩
      · trivial)
    (by decide +kernel)

end MacProvider.Coordinator.Billing.Replays
