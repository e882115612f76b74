import MacProvider.Gateway.Router.Finality
import MacProvider.Gateway.Store.Effects

/-! # Reconciling settlement holds

A pass asks the coordinator (`Upstream`) about every held reservation.
`fetchCoordinatorRequestSettlementFinality` reports `found = false` with every error, and its caller
takes that for the answer 404. -/

namespace MacProvider.Gateway.Router.Reconcile

open Gateway.Time Store.Schema Store.Ops Store.Effects Router.Finality Lib.Tables Lib.Transactions

/-! ### The fetch -/

/-- The question to the coordinator. -/
structure FinalityRequest where
  url : String
  accountID : String
  requestID : String
  reservationCreatedAtUnixMS : ℕ

/-- A status, and the decoded body. -/
structure Response where
  status : ℕ
  body : Except String RequestFinality

/-- The way to the coordinator. -/
structure Upstream where
  /-- `cfg.Coordinator.OperatorURL`. -/
  operatorURL : String
  /-- The error of `url.Parse`. -/
  parse : String → Option String
  /-- The error of `http.NewRequestWithContext`. -/
  newRequest : FinalityRequest → Option String
  /-- `client.Do`. -/
  send : FinalityRequest → Except String Response

/-- `strings.TrimRight(OperatorURL, "/")`. -/
def Upstream.base (u : Upstream) : String :=
  String.ofList (u.operatorURL.toList.rdropWhile fun c => c == '/')

/-- The endpoint. -/
def Upstream.url (u : Upstream) : String := u.base ++ "/internal/settlement/finality"

/-- The question about a reservation. -/
def Upstream.request (u : Upstream) (r : QuotaRow) : FinalityRequest :=
  ⟨u.url, r.key.accountID, r.key.requestID, toUnixMilli r.createdAt⟩

/-- What the fetch returns. -/
structure Fetched where
  finality : RequestFinality := {}
  found : Bool := false
  err : Option String := none

/-- The coordinator is asked. -/
def fetchCoordinatorRequestSettlementFinality (u : Upstream) (r : QuotaRow) : Fetched :=
  if u.base = "" then { err := some "coordinator operator URL is not configured" }
  else
    match u.parse u.url with
    | some e => { err := some e }
    | none =>
      match u.newRequest (u.request r) with
      | some e => { err := some e }
      | none =>
        match u.send (u.request r) with
        | .error e => { err := some e }
        | .ok resp =>
          if resp.status = 404 then {}
          else if resp.status < 200 ∨ 299 < resp.status then
            { err := some ("coordinator finality status=" ++ toString resp.status) }
          else
            match resp.body with
            | .error e => { err := some e }
            | .ok f =>
              if f.requestID ≠ "" ∧ f.requestID ≠ r.key.requestID then
                { err := some "coordinator finality request_id mismatch" }
              else { finality := f, found := true }

/-- It was asked, and answers `resp`. -/
structure Replies (u : Upstream) (r : QuotaRow) (resp : Response) : Prop where
  configured : u.base ≠ ""
  parsed : u.parse u.url = none
  built : u.newRequest (u.request r) = none
  sent : u.send (u.request r) = .ok resp

/-- It answered 404. -/
def Answers404 (u : Upstream) (r : QuotaRow) : Prop := ∃ resp, Replies u r resp ∧ resp.status = 404

/-- It answered with a finality of the request. -/
def AnswersFinality (u : Upstream) (r : QuotaRow) : Prop :=
  ∃ resp f, Replies u r resp ∧ 200 ≤ resp.status ∧ resp.status ≤ 299 ∧ resp.body = .ok f ∧
    (f.requestID = "" ∨ f.requestID = r.key.requestID)

/-! ### One reservation -/

/-- What becomes of a hold. -/
inductive Result
  | verified | refunded | held | coordinator404Expired | coordinator404 | alreadyTerminal | legacy

/-- Why nothing does. -/
inductive ReconcileErr
  | fetch (msg : String)
  | store (e : StoreErr)
  | tokens (msg : String)
  | hold (msg : String)

/-- An error that may say it is closed already. -/
def closedAlready (gone : StoreErr → Bool) (ok : Result) :
    Option StoreErr → Except ReconcileErr Result
  | none => .ok ok
  | some e => if gone e then .ok .alreadyTerminal else .error (.store e)

/-- One that ends it. -/
def blocking : Option StoreErr → Bool
  | none => false
  | some e => !e.isGone

/-- `f` are the faults of its calls. -/
def boundStreamingSettlementHold (now : Instant) (f : ℕ → Fault SqlErr) (k : Key)
    (s : SettlementFinality) (db : Db) : Bool × Db :=
  let (e, db) := (markReservationSettlementHold k).run (f 0) db
  if blocking e then (false, db)
  else
    let (e, db) := (clampExpiryTx k (holdDeadline now s)).run (f 1) db
    (!blocking e, db)

/-- The settlement of a verified request. -/
def settlementOf (r : QuotaRow) (now : Instant) (tokens : ℤ × ℤ × ℤ) (source : String) :
    ReservationSettlement where
  key := r.key
  promptTokens := tokens.1
  completionTokens := tokens.2.1
  totalTokens := tokens.2.2
  maxTotalTokens := r.reservedTokens
  tokenSource := source
  outcome := "spec022_verified"
  settledAt := some now

/-- The answer is applied. -/
def applyFinality (now : Instant) (f : ℕ → Fault SqlErr) (r : QuotaRow) (finality : RequestFinality)
    (db : Db) : Except ReconcileErr Result × Db :=
  let action := coordinatorSettlementFinalityFromHeaders (finalityHeaders finality)
  match action.action with
  | .legacy => (.ok .legacy, db)
  | .debit =>
    match finalityTokenTotals finality with
    | .error e => (.error (.tokens e), db)
    | .ok tokens =>
      let (e, db) :=
        (settleReservation now (settlementOf r now tokens finality.tokenSource)).run (f 0) db
      (closedAlready StoreErr.isGone .verified e, db)
  | .refund =>
    let (e, db) := (refundReservation r.key (now / nanosPerSecond)).run (f 0) db
    (closedAlready (fun e => decide (e = .reservationNotFound)) .refunded e, db)
  | .hold =>
    let (ok, db) := boundStreamingSettlementHold now f r.key action db
    (if ok then .ok .held else .error (.hold "failed to bound settlement hold"), db)

/-- One hold. -/
def reconcileSettlementReservation (u : Upstream) (now : Instant) (f : ℕ → Fault SqlErr)
    (r : QuotaRow) (db : Db) : Except ReconcileErr Result × Db :=
  let fetched := fetchCoordinatorRequestSettlementFinality u r
  if fetched.err.isSome || !fetched.found then
    if !fetched.found then
      if r.expiresAt ≤ now then
        let (e, db) := (markReservationStaleHeld now r.key (some now)).run (f 0) db
        (closedAlready StoreErr.isGone .coordinator404Expired e, db)
      else (.ok .coordinator404, db)
    else (.error (.fetch (fetched.err.getD "")), db)
  else applyFinality now f r fetched.finality db

/-! ### A pass -/

/-- The counts of a pass. -/
structure Summary where
  scanned : ℕ := 0
  verified : ℕ := 0
  refunded : ℕ := 0
  staleHeld : ℕ := 0
  held : ℕ := 0
  skipped : ℕ := 0
  errors : ℕ := 0
  coordinator404 : ℕ := 0

/-- One hold is counted. -/
def Summary.count (s : Summary) : Result → Summary
  | .verified => { s with verified := s.verified + 1 }
  | .refunded => { s with refunded := s.refunded + 1 }
  | .held => { s with held := s.held + 1 }
  | .coordinator404Expired =>
    { s with coordinator404 := s.coordinator404 + 1, staleHeld := s.staleHeld + 1 }
  | .coordinator404 => { s with coordinator404 := s.coordinator404 + 1, skipped := s.skipped + 1 }
  | .alreadyTerminal => { s with skipped := s.skipped + 1 }
  | .legacy => { s with skipped := s.skipped + 1 }

/-- Coordinator, clock and faults at each reservation. -/
structure World where
  upstream : Key → Upstream
  now : Key → Instant
  fault : Key → ℕ → Fault SqlErr

/-- Summary, logged errors, database. -/
structure Pass where
  summary : Summary
  log : List (Key × ReconcileErr)
  db : Db

/-- The body of its loop. -/
def Pass.step (w : World) (p : Pass) (r : QuotaRow) : Pass :=
  match reconcileSettlementReservation (w.upstream r.key) (w.now r.key) (w.fault r.key) r p.db with
  | (.error e, db) =>
    ⟨{ p.summary with errors := p.summary.errors + 1 }, p.log ++ [(r.key, e)], db⟩
  | (.ok result, db) => ⟨p.summary.count result, p.log, db⟩

/-- The holds, one after the other. -/
def Pass.loop (w : World) (l : List QuotaRow) (p : Pass) : Pass := l.foldl (Pass.step w) p

/-- The holds of a pass. -/
def scanned (limit : ℤ) (db : Db) : List QuotaRow :=
  listSettlementHeldReservations (if limit ≤ 0 then 100 else if 500 < limit then 500 else limit) db

/-- Behind the error of its list. -/
def reconcileSettlementHolds (w : World) (limit : ℤ) (db : Db) : Pass :=
  Pass.loop w (scanned limit db) ⟨{ scanned := (scanned limit db).length }, [], db⟩

/-! ### What the fetch reports -/

variable {u : Upstream} {r : QuotaRow} {resp : Response} {db : Db}

theorem fetch_of_no_reply (h : ¬ ∃ resp, Replies u r resp) :
    ∃ e, fetchCoordinatorRequestSettlementFinality u r = { err := some e } := by
  unfold fetchCoordinatorRequestSettlementFinality
  split_ifs with hb
  · exact ⟨_, rfl⟩
  rcases hp : u.parse u.url with _ | e
  · rcases hn : u.newRequest (u.request r) with _ | e
    · rcases hs : u.send (u.request r) with e | resp
      · exact ⟨_, rfl⟩
      · exact absurd ⟨resp, hb, hp, hn, hs⟩ h
    · exact ⟨_, rfl⟩
  · exact ⟨_, rfl⟩

theorem replies_unique {resp' : Response}
    (h : Replies u r resp) (h' : Replies u r resp') : resp = resp' :=
  Except.ok.inj (h.sent.symm.trans h'.sent)

/-- **What the fetch reports**: not found for 404, the finality, or else an error, with not
found. -/
theorem fetch_cases (u : Upstream) (r : QuotaRow) :
    (Answers404 u r ∧ fetchCoordinatorRequestSettlementFinality u r = {}) ∨
    (AnswersFinality u r ∧ ¬ Answers404 u r ∧
      ∃ f, fetchCoordinatorRequestSettlementFinality u r = { finality := f, found := true }) ∨
    (¬ Answers404 u r ∧ ¬ AnswersFinality u r ∧
      ∃ e, fetchCoordinatorRequestSettlementFinality u r = { err := some e }) := by
  by_cases hrep : ∃ resp, Replies u r resp
  swap
  · refine Or.inr (Or.inr ⟨?_, ?_, fetch_of_no_reply hrep⟩)
    · rintro ⟨resp, h, -⟩
      exact hrep ⟨resp, h⟩
    · rintro ⟨resp, -, h, -⟩
      exact hrep ⟨resp, h⟩
  obtain ⟨resp, h⟩ := hrep
  unfold fetchCoordinatorRequestSettlementFinality
  rw [if_neg h.configured, h.parsed, h.built, h.sent]
  dsimp only
  by_cases h404 : resp.status = 404
  · exact Or.inl ⟨⟨resp, h, h404⟩, if_pos h404⟩
  have hno : ¬ Answers404 u r := by
    rintro ⟨resp', h', hs⟩
    exact h404 (replies_unique h h' ▸ hs)
  rw [if_neg h404]
  by_cases hfin : AnswersFinality u r
  · obtain ⟨resp', f, h', h2, h3, hf, hid⟩ := hfin
    obtain rfl := replies_unique h h'
    refine Or.inr (Or.inl ⟨⟨resp, f, h, h2, h3, hf, hid⟩, hno, f, ?_⟩)
    rw [if_neg (by omega), hf]
    exact if_neg fun hn => hid.elim hn.1 hn.2
  · refine Or.inr (Or.inr ⟨hno, hfin, ?_⟩)
    by_cases hst : resp.status < 200 ∨ 299 < resp.status
    · exact ⟨_, if_pos hst⟩
    rw [if_neg hst]
    rcases hbody : resp.body with e | f
    · exact ⟨e, rfl⟩
    · refine ⟨_, if_pos ⟨fun hid => ?_, fun hid => ?_⟩⟩
      · exact hfin ⟨resp, f, h, by omega, by omega, hbody, Or.inl hid⟩
      · exact hfin ⟨resp, f, h, by omega, by omega, hbody, Or.inr hid⟩

section Frame
variable (now : Instant) (f : ℕ → Fault SqlErr) (r : QuotaRow) (db : Db)

theorem onlyTouches_hold (k : Key) (s : SettlementFinality) :
    OnlyTouches k db (boundStreamingSettlementHold now f k s db).2 := by
  have h1 : OnlyTouches k db ((markReservationSettlementHold k).run (f 0) db).2 := by
    rcases markReservationSettlementHold_cases k (f 0) db with ⟨e, h⟩ | ⟨r, w, h, rfl, -⟩ <;> rw [h]
    · exact .refl k db
    · exact onlyTouches_update fun r hr => key_of_isActive hr
  have h2 : ∀ db', OnlyTouches k db' ((clampExpiryTx k (holdDeadline now s)).run (f 1) db').2 := by
    intro db'
    rcases clampExpiryTx_cases k (holdDeadline now s) (f 1) db' with
      ⟨e, h⟩ | ⟨r, w, h, t, rfl, -⟩ <;>
      rw [h]
    · exact .refl k db'
    · exact onlyTouches_update fun r hr => key_of_isActive hr
  unfold boundStreamingSettlementHold
  dsimp only
  split_ifs with hb
  · exact h1
  · exact h1.trans (h2 _)

theorem onlyTouches_applyFinality (finality : RequestFinality) :
    OnlyTouches r.key db (applyFinality now f r finality db).2 := by
  unfold applyFinality
  dsimp only
  split
  · exact .refl _ _
  · split
    · exact .refl _ _
    · rename_i tokens _
      have hsettle :=
        settleReservation_cases now (settlementOf r now tokens finality.tokenSource) (f 0) db
      rcases hsettle with ⟨e, h⟩ | ⟨e, w, h, q, total, usage, -, -, rfl⟩ <;> rw [h]
      · exact .refl _ _
      · exact onlyTouches_settledDb db (settlementOf r now tokens finality.tokenSource) total _
          usage
  · exact onlyTouches_close (fun r hr => key_of_isActive hr) _ _
  · exact onlyTouches_hold now f db r.key _

theorem onlyTouches_reconcile (u : Upstream) :
    OnlyTouches r.key db (reconcileSettlementReservation u now f r db).2 := by
  unfold reconcileSettlementReservation
  dsimp only
  split_ifs
  · exact onlyTouches_close (fun r hr => key_of_isActive (Bool.and_eq_true_iff.mp hr).1) _ _
  · exact .refl _ _
  · exact .refl _ _
  · exact onlyTouches_applyFinality now f r db _

end Frame

/-! ### Closing a hold -/

/-- The key has no stale hold. -/
def NotStale (k : Key) (db : Db) : Prop :=
  ∀ q, db.quota.find? k = some q → q.status ≠ .staleHeld

theorem notStale_update {k : Key} {p : QuotaRow → Bool} {g : QuotaRow → QuotaRow}
    (hg : ∀ r, (g r).key = r.key) (hs : ∀ r, r.status ≠ .staleHeld → (g r).status ≠ .staleHeld)
    (h : NotStale k db) : NotStale k (withUpdate db p g hg) := by
  intro q hq
  rw [find?_withUpdate] at hq
  obtain ⟨q₀, hq₀, rfl⟩ := Option.map_eq_some_iff.mp hq
  split_ifs with hp
  · exact hs q₀ (h q₀ hq₀)
  · exact h q₀ hq₀

section Closing
variable {now : Instant} {f : ℕ → Fault SqlErr} {r : QuotaRow} {db : Db}

theorem notStale_hold {k : Key} (s : SettlementFinality) (h : NotStale k db) :
    NotStale k (boundStreamingSettlementHold now f k s db).2 := by
  have h1 : NotStale k ((markReservationSettlementHold k).run (f 0) db).2 := by
    rcases markReservationSettlementHold_cases k (f 0) db with ⟨e, he⟩ | ⟨r, w, he, rfl, -⟩ <;>
      rw [he]
    · exact h
    · exact notStale_update _ (fun _ hr => hr) h
  unfold boundStreamingSettlementHold
  dsimp only
  split_ifs with hb
  · exact h1
  · rcases clampExpiryTx_cases k (holdDeadline now s) (f 1)
      ((markReservationSettlementHold k).run (f 0) db).2 with ⟨e, he⟩ | ⟨r, w, he, t, rfl, -⟩ <;>
        rw [he]
    · exact h1
    · exact notStale_update _ (fun _ hr => hr) h1

theorem notStale_applyFinality (finality : RequestFinality) (h : NotStale r.key db) :
    NotStale r.key (applyFinality now f r finality db).2 := by
  unfold applyFinality
  dsimp only
  split
  · exact h
  · split
    · exact h
    · rename_i tokens _
      have hsettle :=
        settleReservation_cases now (settlementOf r now tokens finality.tokenSource) (f 0) db
      rcases hsettle with ⟨e, he⟩ | ⟨e, w, he, q, total, usage, -, -, rfl⟩ <;> rw [he]
      · exact h
      · exact notStale_update (settle_key total now) (fun _ _ => nofun) h
  · rcases closeReservation_cases (isActive r.key)
      (fun q => QuotaRow.close q .refunded (seconds (now / nanosPerSecond)))
      (close_key .refunded (seconds (now / nanosPerSecond))) (f 0) db with
      ⟨e, he, -⟩ | ⟨e, w, he, rfl, -⟩
    · exact (congrArg (NotStale r.key) (congrArg Prod.snd he)).mpr h
    · exact (congrArg (NotStale r.key) (congrArg Prod.snd he)).mpr
        (notStale_update _ (fun _ _ => nofun) h)
  · exact notStale_hold _ h

variable {u : Upstream}

/-- **An answered hold closes only on 404, past its expiry.** -/
theorem stale_of_answered (h : NotStale r.key db)
    (ha : Answers404 u r ∨ AnswersFinality u r) {q : QuotaRow}
    (hq : (reconcileSettlementReservation u now f r db).2.quota.find? r.key = some q)
    (hs : q.status = .staleHeld) : Answers404 u r ∧ r.expiresAt ≤ now := by
  rcases fetch_cases u r with ⟨h404, hf⟩ | ⟨-, -, fin, hf⟩ | ⟨hn, hn', -⟩
  · refine ⟨h404, ?_⟩
    by_contra hexp
    unfold reconcileSettlementReservation at hq
    simp only [hf, Option.isSome_none, Bool.not_false, Bool.or_true, if_true, if_neg hexp] at hq
    exact h q hq hs
  · unfold reconcileSettlementReservation at hq
    simp only [hf, Option.isSome_none, Bool.not_true, Bool.or_false, Bool.false_eq_true,
      if_false] at hq
    exact absurd hs (notStale_applyFinality fin h q hq)
  · exact absurd ha (not_or.mpr ⟨hn, hn'⟩)

theorem reconcile_unanswered (hn : ¬ Answers404 u r) (hn' : ¬ AnswersFinality u r)
    {e : ReconcileErr} :
    (reconcileSettlementReservation u now (fun _ => .none) r db).1 ≠ .error e := by
  rcases fetch_cases u r with ⟨h, -⟩ | ⟨h, -⟩ | ⟨-, -, msg, hf⟩
  · exact absurd h hn
  · exact absurd h hn'
  unfold reconcileSettlementReservation
  simp only [hf, Option.isSome_some, Bool.not_false, Bool.or_true, if_true]
  split_ifs with hexp
  · unfold markReservationStaleHeld
    rw [closeReservation_live]
    split_ifs <;> simp [closedAlready, StoreErr.isGone]
  · simp

end Closing

/-! ### The pass -/

section Loop
variable {w : World}

theorem loop_cons (p : Pass) (r : QuotaRow) (l : List QuotaRow) :
    p.loop w (r :: l) = (p.step w r).loop w l := rfl

/-- What a pass does to a reservation. -/
def outcome (w : World) (r : QuotaRow) (db : Db) : Except ReconcileErr Result × Db :=
  reconcileSettlementReservation (w.upstream r.key) (w.now r.key) (w.fault r.key) r db

theorem step_db (p : Pass) (r : QuotaRow) : (p.step w r).db = (outcome w r p.db).2 := by
  unfold Pass.step outcome
  rcases reconcileSettlementReservation (w.upstream r.key) (w.now r.key) (w.fault r.key) r p.db
    with ⟨_ | _, _⟩ <;> rfl

variable {r : QuotaRow} {l : List QuotaRow} {k : Key}

theorem mem_step_log {p : Pass} {x : Key × ReconcileErr} :
    x ∈ (p.step w r).log ↔ x ∈ p.log ∨ x.1 = r.key ∧ (outcome w r p.db).1 = .error x.2 := by
  unfold Pass.step outcome
  rcases reconcileSettlementReservation (w.upstream r.key) (w.now r.key) (w.fault r.key) r p.db
    with ⟨e | result, db'⟩
  · obtain ⟨k, e'⟩ := x
    simp only [List.mem_append, List.mem_singleton, Prod.mk.injEq, Except.error.injEq]
    exact or_congr_right (and_congr_right fun _ => eq_comm)
  · simp

theorem step_other (p : Pass) (hr : r.key ≠ k) :
    (p.step w r).db.quota.find? k = p.db.quota.find? k := by
  rw [step_db]
  unfold outcome
  exact onlyTouches_reconcile (w.now r.key) (w.fault r.key) r p.db (w.upstream r.key) k hr.symm

theorem loop_other (hk : ∀ r ∈ l, r.key ≠ k) (p : Pass) :
    (p.loop w l).db.quota.find? k = p.db.quota.find? k ∧
      ∀ e, (k, e) ∈ (p.loop w l).log ↔ (k, e) ∈ p.log := by
  induction l generalizing p with
  | nil => exact ⟨rfl, fun _ => Iff.rfl⟩
  | cons r l ih =>
    have hr : r.key ≠ k := hk r (by simp)
    obtain ⟨h1, h2⟩ := ih (fun x hx => hk x (by simp [hx])) (p.step w r)
    refine ⟨h1.trans (step_other p hr), fun e => (h2 e).trans ?_⟩
    rw [mem_step_log]
    exact or_iff_left fun h => hr h.1.symm

/-- **A pass does to a reservation what its step does.** -/
theorem loop_row (hl : (l.map QuotaRow.key).Nodup) (p : Pass) (hr : r ∈ l) :
    ∃ db, db.quota.find? r.key = p.db.quota.find? r.key ∧
      (p.loop w l).db.quota.find? r.key = (outcome w r db).2.quota.find? r.key ∧
      ∀ e, (r.key, e) ∈ (p.loop w l).log ↔ (r.key, e) ∈ p.log ∨ (outcome w r db).1 = .error e := by
  induction l generalizing p with
  | nil => cases hr
  | cons x l ih =>
    simp only [List.map_cons, List.nodup_cons] at hl
    rw [loop_cons]
    rcases List.mem_cons.mp hr with rfl | hr
    · -- its own step; the rest of the pass is about other keys
      have hother : ∀ y ∈ l, y.key ≠ r.key := by
        intro y hy he
        exact hl.1 (he ▸ List.mem_map_of_mem hy)
      obtain ⟨h1, h2⟩ := loop_other (w := w) hother (p.step w r)
      refine ⟨p.db, rfl, h1.trans (by rw [step_db]), fun e => (h2 e).trans ?_⟩
      rw [mem_step_log]
      simp
    · have hx : x.key ≠ r.key := fun he => hl.1 (he ▸ List.mem_map_of_mem hr)
      obtain ⟨db, h0, h1, h2⟩ := ih hl.2 (p.step w x) hr
      refine ⟨db, h0.trans (step_other p hx), h1, fun e => (h2 e).trans ?_⟩
      rw [mem_step_log]
      exact or_congr_left (or_iff_left fun h => hx h.1.symm)

end Loop

theorem mem_scanned {limit : ℤ} (h : r ∈ scanned limit db) :
    db.quota.find? r.key = some r ∧ r.status = .active := by
  have h := List.mem_of_mem_take h
  rw [List.mem_insertionSort, List.mem_filter] at h
  refine ⟨Table.find?_eq_some.mpr ⟨h.1, rfl⟩, ?_⟩
  exact of_decide_eq_true (Bool.and_eq_true_iff.mp h.2).1

theorem nodup_scanned (limit : ℤ) (db : Db) : ((scanned limit db).map QuotaRow.key).Nodup := by
  have hf : ((db.quota.rows.filter isHeld).map QuotaRow.key).Nodup :=
    db.quota.nodup.sublist (List.filter_sublist.map _)
  have hp : (((db.quota.rows.filter isHeld).insertionSort heldBefore).map QuotaRow.key).Nodup :=
    ((List.perm_insertionSort heldBefore _).map _).nodup_iff.mpr hf
  exact hp.sublist ((List.take_sublist _ _).map _)

/-- The hold is closed only on 404, past its expiry; a failed fetch leaves the row and counts an
error. -/
structure HoldKept (w : World) (r : QuotaRow) (p : Pass) : Prop where
  stale : ∀ q, p.db.quota.find? r.key = some q → q.status = .staleHeld →
    Answers404 (w.upstream r.key) r ∧ r.expiresAt ≤ w.now r.key
  failed : ¬ Answers404 (w.upstream r.key) r → ¬ AnswersFinality (w.upstream r.key) r →
    p.db.quota.find? r.key = some r ∧ ∃ e, (r.key, e) ∈ p.log

/-- **Holds and missing information**: a pass keeps to `HoldKept` exactly when each answer is 404 or
a finality of the request. -/
theorem holdsKept_iff (upstream : Key → Upstream) (now : Key → Instant) (limit : ℤ) (db : Db) :
    (∀ fault, ∀ r ∈ scanned limit db, HoldKept ⟨upstream, now, fault⟩ r
      (reconcileSettlementHolds ⟨upstream, now, fault⟩ limit db)) ↔
    ∀ r ∈ scanned limit db,
      Answers404 (upstream r.key) r ∨ AnswersFinality (upstream r.key) r := by
  constructor
  · intro h r hr
    by_contra hn
    obtain ⟨hn, hn'⟩ := not_or.mp hn
    -- with a store that works, the failed fetch goes uncounted
    obtain ⟨-, e, he⟩ := (h (fun _ _ => .none) r hr).failed hn hn'
    obtain ⟨db', -, -, hlog⟩ := loop_row (w := ⟨upstream, now, fun _ _ => .none⟩)
      (nodup_scanned limit db) ⟨{ scanned := (scanned limit db).length }, [], db⟩ hr
    rcases (hlog e).mp he with hmem | herr
    · cases hmem
    · exact reconcile_unanswered hn hn' herr
  · intro h fault r hr
    refine ⟨fun q hq hs => ?_, fun hn hn' => absurd (h r hr) (not_or.mpr ⟨hn, hn'⟩)⟩
    obtain ⟨db', h0, h1, -⟩ := loop_row (w := ⟨upstream, now, fault⟩)
      (nodup_scanned limit db) ⟨{ scanned := (scanned limit db).length }, [], db⟩ hr
    obtain ⟨hfind, hact⟩ := mem_scanned hr
    have hns : NotStale r.key db' := by
      intro q' hq'
      rw [h0, hfind] at hq'
      cases hq'
      rw [hact]
      exact nofun
    exact stale_of_answered hns (h r hr) (h1.symm.trans hq) hs

/-- A hold that expired an hour ago. -/
def expiredHold : QuotaRow where
  key := ⟨"acct", "req"⟩
  windowDate := "2026-01-01"
  reservedTokens := 10
  settledTokens := 0
  status := .active
  settlementHold := true
  expiresAt := seconds 1767225600
  createdAt := seconds 1767222000
  settledAt := none

/-- A store with this hold. -/
def expiredHoldDb : Db := { Db.empty with quota := ⟨[expiredHold], by decide⟩ }

/-- The coordinator cannot be reached. -/
def unreachable : World where
  upstream _ := ⟨"http://coordinator:9000", fun _ => none, fun _ => none,
    fun _ => .error "connection refused"⟩
  now _ := seconds 1767229200
  fault _ _ := .none

/-- The pass closes the hold, and counts no error. -/
theorem not_holdKept_unreachable :
    ¬ HoldKept unreachable expiredHold
      (reconcileSettlementHolds unreachable 100 expiredHoldDb) := by
  intro h
  have hstale : ∃ q, (reconcileSettlementHolds unreachable 100 expiredHoldDb).db.quota.find?
      expiredHold.key = some q ∧ q.status = .staleHeld :=
    ⟨{ QuotaRow.close expiredHold .staleHeld (seconds 1767229200) with settlementHold := true },
      by decide +kernel, rfl⟩
  obtain ⟨q, hq, hs⟩ := hstale
  obtain ⟨⟨resp, hrep, -⟩, -⟩ := h.stale q hq hs
  cases hrep.sent

end MacProvider.Gateway.Router.Reconcile
