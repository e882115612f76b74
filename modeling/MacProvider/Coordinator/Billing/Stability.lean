import MacProvider.Coordinator.Billing.Views

/-! # Closed answers stay

The gateway asks for the finality of a request until the answer is closed. `Keeps` says which
operations leave it alone; it can change with an output that meets one of a verified attempt, a
first verdict, a credit that recovery quarantines, and a new request under the id. -/

namespace MacProvider.Coordinator.Billing.Stability

open Lib.Tables Lib.Runs Billing.Schema Billing.Outputs Billing.HotPath Billing.Recovery
open Billing.Verifier Billing.Verdicts Billing.Finality Billing.Lifecycle Billing.Grounds
open Billing.Closing Billing.Views Billing.Receipts Billing.Tallies

section Keeps
variable (env : Env) (acct req : String) (since : ℕ)

/-- The requests that the answer is about. -/
def requestsBehind (b : Books) : List String :=
  if directRequestIDWithinReservationWindow acct req since b then
    if requestSettlementVerdicts env (env.accountScope acct) req b = [] then
      req :: requestIDsForExternalRequest acct req since b
    else [req]
  else requestIDsForExternalRequest acct req since b

/-- The row brings no new request under the id. -/
def LogKeeps (row : RequestRow) (b : Books) : Prop :=
  LogRow.within acct since ⟨row, b.requestCount row.accountID row.requestID⟩ = true →
    (row.requestID = req →
      directRequestIDWithinReservationWindow acct req since b = true) ∧
    (row.externalRequestID = req → row.requestID = "" ∨
      row.requestID ∈ requestIDsForExternalRequest acct req since b)

/-- The attempt is verified, and behind the answer. -/
def VerifiedBehind (b : Books) (id : ReceiptIdentity) : Prop :=
  id.accountScope = env.accountScope acct ∧
    id.requestID ∈ requestsBehind env acct req since b ∧
    ∃ row ∈ requestSettlementVerdicts env (env.accountScope acct) id.requestID b,
      row.outcome = .verified ∧ row.attemptN = id.attemptN ∧ row.providerID = id.providerID

/-- The operation leaves the answer alone. -/
def Keeps (b : Books) : Op → Prop
  | .ingestSettlementReceipt id .. | .recordMissingSettlementReceipt id _ =>
    -- no first verdict on an attempt of these requests
    id.requestID ∈ requestsBehind env acct req since b →
      ∃ row, b.verdicts.find? (id.key env) = some row ∧ row.closed = true
  | .writeHotPath account row i =>
    LogKeeps acct req since
      (loggedRow account row (boundProviderReportedPromptTokens i)) b
  | .insertSettlementAttemptOutput a =>
    -- it meets no output of a verified attempt, unless that one is marked already
    ∀ id, VerifiedBehind env acct req since b id →
      ∀ o ∈ b.outputs.find? (id.accountScope, id.requestID, id.attemptN, id.providerID),
        meets env.codec a o = true → o.overlappingOrDuplicate = true
  | .recoverLedger w =>
    -- the credit of a verified attempt is in the log, and no row of the log differs from it
    ∀ id, VerifiedBehind env acct req since b id → ∀ c ∈ chargedCredit env id b,
      (w.contains c.ts = true → hasRequestLog b c = true) ∧
        ∀ x ∈ scannedRows w b, clears env b x c = true
  | .requestSettlementFinalityForAccount acct' req' _ since' =>
    acct' = acct ∧ req' = req ∧ since' = since
  | _ => False

end Keeps

/-! ### Reading -/

section Read
variable (env : Env) (acct req : String) (since : ℕ) (b : Books)

/-- One more answer; `true` if one is missing. -/
def addResolved (resolved : Option RequestFinality) (r : List RequestFinality × Bool) :
    List RequestFinality × Bool :=
  match resolved with
  | some f => (f :: r.1, r.2)
  | none => (r.1, true)

/-- Without the missing receipts. -/
def readFinalities (scope : String) :
    List String → Except FinalityError (List RequestFinality × Bool)
  | [] => .ok ([], false)
  | q :: qs =>
    match finalityOf env scope q b with
    | .error e => .error e
    | .ok resolved =>
      match readFinalities scope qs with
      | .error e => .error e
      | .ok r => .ok (addResolved resolved r)

/-- About the requests under an id. -/
def readExternal : Except FinalityError (Option RequestFinality) :=
  match readFinalities env b (env.accountScope acct)
    (requestIDsForExternalRequest acct req since b) with
  | .error e => .error e
  | .ok ([], _) => .ok none
  | .ok (f :: fs, missing) =>
    .ok (some (heldBack missing (aggregateExternalRequestFinality req f fs)))

/-- The answer as it is read, without writing. -/
def readFinality : Except FinalityError (Option RequestFinality) :=
  if directRequestIDWithinReservationWindow acct req since b then
    match finalityOf env (env.accountScope acct) req b with
    | .ok none => readExternal env acct req since b
    | direct => direct
  else readExternal env acct req since b

/-- **The three answers**: of the request, of those under the id, of both. -/
inductive Behind : List String → Except FinalityError (Option RequestFinality) → Prop
  | direct (hd : directRequestIDWithinReservationWindow acct req since b = true)
      (hrows : requestSettlementVerdicts env (env.accountScope acct) req b ≠ []) :
      Behind [req] (finalityOf env (env.accountScope acct) req b)
  | both (hd : directRequestIDWithinReservationWindow acct req since b = true)
      (hrows : requestSettlementVerdicts env (env.accountScope acct) req b = []) :
      Behind (req :: requestIDsForExternalRequest acct req since b)
        (readExternal env acct req since b)
  | external (hd : directRequestIDWithinReservationWindow acct req since b ≠ true) :
      Behind (requestIDsForExternalRequest acct req since b)
        (readExternal env acct req since b)

theorem behind : ∃ qs x, Behind env acct req since b qs x := by
  by_cases hd : directRequestIDWithinReservationWindow acct req since b = true
  · by_cases hrows : requestSettlementVerdicts env (env.accountScope acct) req b = []
    · exact ⟨_, _, .both hd hrows⟩
    · exact ⟨_, _, .direct hd hrows⟩
  · exact ⟨_, _, .external hd⟩

end Read

section Reading
variable {v : ReceiptCodec} {env : Env} {acct req scope q : String} {since : ℕ}
  {b b' : Books} {qs : List String} {now : ℤ}

theorem finalityOf_none :
    finalityOf env scope q b = .ok none ↔ requestSettlementVerdicts env scope q b = [] := by
  unfold finalityOf
  rcases requestSettlementVerdicts env scope q b with _ | ⟨first, rest⟩
  · exact ⟨fun _ => rfl, fun _ => rfl⟩
  · refine ⟨fun h => ?_, fun h => by cases h⟩
    obtain ⟨⟨mixed, t⟩, -, h⟩ := bind_ok h
    dsimp only at h
    split_ifs at h <;> cases h

theorem readFinalities_same (h : ∀ q ∈ qs, Same env scope q b b') :
    readFinalities env b' scope qs = readFinalities env b scope qs := by
  induction qs with
  | nil => rfl
  | cons q qs ih =>
    unfold readFinalities
    rw [finalityOf_same (h q List.mem_cons_self), ih fun x hx => h x (List.mem_cons_of_mem q hx)]

theorem finalitiesOf_settled (hscope : scope ≠ "") (h : ∀ q ∈ qs, q ≠ "" ∧ Settled env scope q b) :
    finalitiesOf v env scope now qs b = (readFinalities env b scope qs, b) := by
  induction qs with
  | nil => rfl
  | cons q qs ih =>
    obtain ⟨⟨hq, hsettled⟩, hothers⟩ := List.forall_mem_cons.mp h
    unfold finalitiesOf readFinalities
    rw [finality_closed hscope hq hsettled.closed]
    rcases finalityOf env scope q b with e | resolved
    · rfl
    · dsimp only
      rw [ih hothers]
      rcases readFinalities env b scope qs with e | ⟨fs, missing⟩
      · rfl
      · cases resolved <;> rfl

theorem Behind.eq {x : Except FinalityError (Option RequestFinality)}
    (h : Behind env acct req since b qs x) :
    requestsBehind env acct req since b = qs ∧
      readFinality env acct req since b = x := by
  unfold requestsBehind readFinality
  cases h with
  | direct hd hrows =>
    rw [if_pos hd, if_neg hrows, if_pos hd]
    refine ⟨rfl, ?_⟩
    rcases hfin : finalityOf env (env.accountScope acct) req b with e | _ | f
    · rfl
    · exact absurd (finalityOf_none.mp hfin) hrows
    · rfl
  | both hd hrows =>
    rw [if_pos hd, if_pos hrows, if_pos hd, finalityOf_none.mpr hrows]
    exact ⟨rfl, rfl⟩
  | external hd =>
    rw [if_neg hd, if_neg hd]
    exact ⟨rfl, rfl⟩

/-- Everything behind the answer is settled. -/
structure Quiet (env : Env) (acct req : String) (since : ℕ) (b : Books) : Prop where
  scope : env.accountScope acct ≠ ""
  settled : ∀ q ∈ requestsBehind env acct req since b,
    q ≠ "" ∧ Settled env (env.accountScope acct) q b

theorem externalFinality_settled (hscope : env.accountScope acct ≠ "")
    (h : ∀ q ∈ requestIDsForExternalRequest acct req since b,
      q ≠ "" ∧ Settled env (env.accountScope acct) q b) :
    externalFinality v env acct req now since b = (readExternal env acct req since b, b) := by
  unfold externalFinality readExternal
  rw [finalitiesOf_settled hscope h]
  rcases readFinalities env b (env.accountScope acct)
    (requestIDsForExternalRequest acct req since b) with e | ⟨_ | ⟨f, fs⟩, missing⟩
  · rfl
  · rfl
  · rfl

/-- **Where all is settled, the call reads the answer.** -/
theorem call_of_quiet (h : Quiet env acct req since b) :
    Finality.requestSettlementFinalityForAccount v env acct req now since b =
      (readFinality env acct req since b, b) := by
  obtain ⟨hscope, hsettled⟩ := h
  obtain ⟨qs, x, hbehind⟩ := behind env acct req since b
  rw [hbehind.eq.2]
  rw [hbehind.eq.1] at hsettled
  unfold Finality.requestSettlementFinalityForAccount
  cases hbehind with
  | direct hd hrows =>
    obtain ⟨hname, hset⟩ := hsettled _ List.mem_cons_self
    rw [if_pos hd, finality_closed hscope hname hset.closed]
    rcases hfin : finalityOf env (env.accountScope acct) req b with e | _ | f
    · rfl
    · exact absurd (finalityOf_none.mp hfin) hrows
    · rfl
  | both hd hrows =>
    obtain ⟨⟨hname, hset⟩, hothers⟩ := List.forall_mem_cons.mp hsettled
    rw [if_pos hd, finality_closed hscope hname hset.closed, finalityOf_none.mpr hrows]
    exact externalFinality_settled hscope hothers
  | external hd =>
    rw [if_neg hd]
    exact externalFinality_settled hscope hsettled

end Reading

/-! ### Steps that keep the answer -/

/-- What the answer is read from stays. -/
structure Unmoved (env : Env) (acct req : String) (since : ℕ) (b b' : Books) :
    Prop where
  direct : directRequestIDWithinReservationWindow acct req since b' =
    directRequestIDWithinReservationWindow acct req since b
  ids : requestIDsForExternalRequest acct req since b' =
    requestIDsForExternalRequest acct req since b
  same : ∀ q ∈ requestsBehind env acct req since b,
    Same env (env.accountScope acct) q b b'

section Unmoved
variable {v : ReceiptCodec} {env : Env} {acct req : String} {since : ℕ}
  {b b' : Books}

theorem Unmoved.refl (b : Books) : Unmoved env acct req since b b :=
  ⟨rfl, rfl, fun _ _ => .refl b⟩

theorem direct_of_log (h : b'.log = b.log) :
    directRequestIDWithinReservationWindow acct req since b' =
      directRequestIDWithinReservationWindow acct req since b := by
  unfold directRequestIDWithinReservationWindow
  rw [h]

theorem ids_of_log (h : b'.log = b.log) :
    requestIDsForExternalRequest acct req since b' =
      requestIDsForExternalRequest acct req since b := by
  unfold requestIDsForExternalRequest
  rw [h]

theorem unmoved_of_log (hlog : b'.log = b.log)
    (h : ∀ q ∈ requestsBehind env acct req since b,
      Same env (env.accountScope acct) q b b') : Unmoved env acct req since b b' :=
  ⟨direct_of_log hlog, ids_of_log hlog, h⟩

theorem Unmoved.behind (h : Unmoved env acct req since b b') :
    requestsBehind env acct req since b' =
        requestsBehind env acct req since b ∧
      readFinality env acct req since b' = readFinality env acct req since b := by
  have hsame := h.same
  have hexternal : (∀ q ∈ requestIDsForExternalRequest acct req since b,
      Same env (env.accountScope acct) q b b') →
      readExternal env acct req since b' =
        readExternal env acct req since b := by
    intro hq
    unfold readExternal
    rw [h.ids, readFinalities_same hq]
  obtain ⟨qs, x, hbehind⟩ := Stability.behind env acct req since b
  rw [hbehind.eq.1, hbehind.eq.2]
  rw [hbehind.eq.1] at hsame
  cases hbehind with
  | direct hd hrows =>
    have hs := hsame _ List.mem_cons_self
    rw [← finalityOf_same hs]
    exact (Behind.direct (h.direct.trans hd) (hs.rows ▸ hrows)).eq
  | both hd hrows =>
    obtain ⟨hs, hothers⟩ := List.forall_mem_cons.mp hsame
    rw [← h.ids, ← hexternal hothers]
    exact (Behind.both (h.direct.trans hd) (hs.rows.trans hrows)).eq
  | external hd =>
    rw [← h.ids, ← hexternal hsame]
    exact (Behind.external (h.direct ▸ hd)).eq

theorem Quiet.unmoved (hb : Quiet env acct req since b) (h : Unmoved env acct req since b b') :
    Quiet env acct req since b' := by
  refine ⟨hb.scope, ?_⟩
  rw [h.behind.1]
  exact fun q hq => ⟨(hb.settled q hq).1, (hb.settled q hq).2.same (h.same q hq)⟩

/-! ### The operations -/

theorem apply_unmoved {id : ReceiptIdentity} {missing : Bool} {received : ℤ}
    {header pubkey : String} {row : VerdictRow}
    (h : applySettlementReceiptVerdict v env id missing received header pubkey b = .ok (row, b'))
    (hkeeps : id.requestID ∈ requestsBehind env acct req since b →
      ∃ row, b.verdicts.find? (id.key env) = some row ∧ row.closed = true) :
    Unmoved env acct req since b b' := by
  by_cases hid : id.requestID ∈ requestsBehind env acct req since b
  · obtain ⟨row₀, hrow, hclosed⟩ := hkeeps hid
    rcases apply_cases h with rfl | ⟨e, row, b₁, hopen, -⟩
    · exact .refl b'
    · rw [hopen row₀ hrow] at hclosed
      cases hclosed
  · refine unmoved_of_log (apply_log_outputs h).1 fun q hq => apply_same h ?_
    rintro rfl
    exact hid hq

theorem insertLog_ids {row : RequestRow} (h : LogKeeps acct req since row b) :
    directRequestIDWithinReservationWindow acct req since (HotPath.insertLog row b) =
        directRequestIDWithinReservationWindow acct req since b ∧
      requestIDsForExternalRequest acct req since (HotPath.insertLog row b) =
        requestIDsForExternalRequest acct req since b := by
  constructor
  · unfold directRequestIDWithinReservationWindow HotPath.insertLog
    rw [List.any_append, ← Bool.or_assoc]
    refine Bool.or_eq_left_iff_imp.mpr fun hnew => ?_
    simp only [List.any_cons, List.any_nil, Bool.or_false, Bool.and_eq_true, decide_eq_true_eq]
      at hnew
    exact (h hnew.1).1 hnew.2
  · unfold requestIDsForExternalRequest HotPath.insertLog
    rw [List.filter_append, List.map_append, List.eraseDups_append, List.append_right_eq_self]
    -- what the filter takes of the new row is there
    refine congrArg List.eraseDups (List.filter_eq_nil_iff.mpr fun y hy => ?_)
    obtain ⟨x, hx, rfl⟩ := List.mem_map.mp hy
    obtain ⟨hmem, hx⟩ := List.mem_filter.mp hx
    obtain rfl := List.mem_singleton.mp hmem
    simp only [Bool.and_eq_true, decide_eq_true_eq] at hx
    have hold := ((h hx.1.1.1).2 hx.1.2).resolve_left hx.2
    rw [List.elem_iff.mpr (List.mem_eraseDups.mp hold)]
    decide

theorem writeHotPath_unmoved {account : Option String} {row : RequestRow} {i : HotPathInput}
    (hb : Quiet env acct req since b) (h : HotPath.writeHotPath env account row i b = .ok b')
    (hkeeps : LogKeeps acct req since
      (loggedRow account row (boundProviderReportedPromptTokens i)) b) :
    Unmoved env acct req since b b' := by
  obtain ⟨hdirect, hids⟩ := insertLog_ids hkeeps
  unfold HotPath.writeHotPath at h
  dsimp only at h
  set b₁ := HotPath.insertLog (loggedRow account row (boundProviderReportedPromptTokens i)) b
  -- the log is not read behind the verdicts
  have hfirst : Unmoved env acct req since b b₁ :=
    ⟨hdirect, hids, fun q _ => ⟨rfl, fun _ _ _ => rfl⟩⟩
  split at h
  · obtain rfl : b₁ = b' := Except.ok.inj h
    exact hfirst
  · have hlog := writeBill_log h
    refine ⟨(direct_of_log hlog).trans hdirect, (ids_of_log hlog).trans hids, fun q hq =>
      (hfirst.same q hq).trans (writeBill_same h ((hb.settled q hq).2.same (hfirst.same q hq)))⟩

variable {a : SettlementAttemptOutput}

theorem markMet_find {c : Codec} {marked : Bool} {t : OutputTable} {k : OutputKey}
    {o : StoredOutput} (ho : t.find? k = some o)
    (h : meets c a o = true → o.overlappingOrDuplicate = true) :
    (markMet c a marked t).find? k = some o := by
  unfold markMet
  split_ifs
  · rw [Table.find?_update, ho, Option.map_some]
    split_ifs with hmeets
    · have hover := h ((Bool.and_eq_true _ _).mp hmeets).2
      rw [show o.mark = o from by rw [StoredOutput.mark, ← hover]]
    · rfl
  · exact ho

theorem insertOutput_unmoved {r : String × OutputTable} (hb : Quiet env acct req since b)
    (h : Outputs.insertSettlementAttemptOutput env.codec a b.outputs = .ok r)
    (hkeeps : ∀ id, VerifiedBehind env acct req since b id →
      ∀ o ∈ b.outputs.find? (id.accountScope, id.requestID, id.attemptN, id.providerID),
        meets env.codec a o = true → o.overlappingOrDuplicate = true) :
    Unmoved env acct req since b { b with outputs := r.2 } := by
  refine unmoved_of_log rfl fun q hq => ⟨rfl, fun row hrow hverified => ?_⟩
  obtain ⟨u, hu⟩ := (hb.settled q hq).2.usage row hrow hverified
  have hid : VerifiedBehind env acct req since b
      (attemptOf (env.accountScope acct) q row) :=
    ⟨rfl, hq, row, hrow, hverified, rfl, rfl⟩
  refine usage_congr ?_ rfl
  unfold requestSettlementUsage at hu
  split at hu
  · next o c ho hc =>
    rw [ho]
    obtain ⟨t', marked, hr, hkept⟩ := insert_ok h
    rw [hr, markMet_find (hkept _ o ho) (hkeeps _ hid o ho)]
  · cases hu

theorem recoverLedger_unmoved {w : Window} (hb : Quiet env acct req since b)
    (h : Recovery.recoverLedger env w b = .ok b')
    (hkeeps : Keeps env acct req since b (.recoverLedger w)) : Unmoved env acct req since b b' := by
  obtain ⟨hlog, houtputs⟩ : b'.log = b.log ∧ b'.outputs = b.outputs :=
    recoverRows_frame (b := quarantineOrphans w b) h
  have horphans : Carries b (quarantineOrphans w b) := quarantineWhere_carries _ _ b
  refine unmoved_of_log hlog fun q hq => ?_
  have hcredited : Credited env (env.accountScope acct) q (quarantineOrphans w b) :=
    (hb.settled q hq).2.credited.carries horphans rfl
  obtain ⟨hcarries, hrows⟩ := recoverRows_carries h hcredited
  refine ⟨hrows, fun row hrow hverified => usage_congr (by rw [houtputs]) ?_⟩
  obtain ⟨r, hr⟩ := (hb.settled q hq).2.usage row hrow hverified
  obtain ⟨c, hc, hcharged⟩ := creditOf_of_usage hr
  obtain ⟨hlogged, hclears⟩ := hkeeps _ ⟨rfl, hq, row, hrow, hverified, rfl, rfl⟩ c hcharged
  have hkept : (quarantineOrphans w b).creditOf q row.attemptN row.providerID = some c :=
    quarantineWhere_spares hc (by simpa using hlogged)
  have hlast := recoverRows_clears h hkept fun x hx => (clears_congr rfl rfl).trans (hclears x hx)
  unfold chargedCredit
  rw [hc]
  exact congrArg _ hlast

/-- **An operation that keeps the answer** moves nothing. -/
theorem step_unmoved {op : Op} (hb : Quiet env acct req since b)
    (h : Keeps env acct req since b op) : Unmoved env acct req since b (step v env b op) := by
  cases op with
  | ingestSettlementReceipt id header pubkey received =>
    refine commit_of_ok (.refl b) fun b' hok => ?_
    obtain ⟨row, hok⟩ := map_snd_ok hok
    exact apply_unmoved (ingest_ok hok).2 h
  | recordMissingSettlementReceipt id now =>
    refine commit_of_ok (.refl b) fun b' hok => ?_
    obtain ⟨row, hok⟩ := map_snd_ok hok
    exact apply_unmoved (recordMissing_ok hok).2 h
  | requestSettlementFinalityForAccount acct' req' now since' =>
    obtain ⟨rfl, rfl, rfl⟩ := h
    change Unmoved env acct' req' since' b
      (Finality.requestSettlementFinalityForAccount v env acct' req' now since' b).2
    rw [call_of_quiet hb]
    exact .refl b
  | writeHotPath account row i =>
    exact commit_of_ok (.refl b) fun b' hok => writeHotPath_unmoved hb hok h
  | insertSettlementAttemptOutput a =>
    refine commit_of_ok (.refl b) fun b' hok => ?_
    rcases hr : Outputs.insertSettlementAttemptOutput env.codec a b.outputs with e | r <;>
      rw [hr] at hok <;> cases hok
    exact insertOutput_unmoved hb hr h
  | recoverLedger w =>
    exact commit_of_ok (.refl b) fun b' hok => recoverLedger_unmoved hb hok h
  | _ => exact h.elim

end Unmoved

/-! ### Behind a closed answer -/

section Closed
variable {v : ReceiptCodec} {env : Env} {acct req scope q : String} {since : ℕ}
  {b b' : Books} {qs : List String} {now : ℤ} {t t' : Tally} {row : VerdictRow}
  {rows : List VerdictRow}

variable {policyVersion : String} {mode : PolicyMode} {f : RequestFinality}

theorem decided_of_foldl
    (hread : ∀ row ∈ rows, Readable env scope q b row)
    (h : ((rows.map (rate env scope q b)).foldl addRow .zero).pendingAttempts = 0) :
    ∀ row ∈ rows, row.outcome ≠ .pending ∧ (row.outcome = .verified →
      ∃ r, requestSettlementUsage env (attemptOf scope q row) b = .ok r) := by
  induction rows with
  | nil => exact fun row hrow => by cases hrow
  | cons row rows ih =>
    obtain ⟨hrow, hrows⟩ := List.forall_mem_cons.mp hread
    have hsums := sums_foldl (rows.map (rate env scope q b)) (addRow .zero (rate env scope q b row))
    simp only [sums, Prod.mk_add_mk, Prod.mk.injEq] at hsums
    rw [List.map_cons, List.foldl_cons, hsums.2.2.2.1, Nat.add_eq_zero_iff] at h
    refine List.forall_mem_cons.mpr ⟨?_, ih hrows h.2⟩
    have hzero := h.1
    unfold addRow at hzero
    rw [rate_row] at hzero
    refine ⟨fun hpending => ?_, fun hverified => ?_⟩
    · rw [hpending] at hzero
      cases hzero
    · rw [hverified] at hzero
      split_ifs at hzero with hvalid
      · simp only [Bool.and_eq_true, decide_eq_true_eq] at hvalid
        exact hrow hverified hvalid.1 hvalid.2
      · cases hzero

theorem settled_of_finality (hb : Grounded env b) {o : Option RequestFinality}
    (h : finalityOf env scope q b = .ok o) (hpending : ∀ f ∈ o, f.tally.pendingAttempts = 0) :
    Settled env scope q b := by
  have hjudged : ∀ row ∈ requestSettlementVerdicts env scope q b, Judged row := by
    intro row hrow
    have hmem := (mem_requestSettlementVerdicts.mp hrow).1
    exact hb.judged row.key row (Table.find?_eq_some.mpr ⟨hmem, rfl⟩)
  have hrows : ∀ row ∈ requestSettlementVerdicts env scope q b, row.outcome ≠ .pending ∧
      (row.outcome = .verified →
        ∃ r, requestSettlementUsage env (attemptOf scope q row) b = .ok r) := by
    rcases o with _ | f
    · rw [finalityOf_none.mp h]
      exact fun row hrow => by cases hrow
    · have hzero := hpending f rfl
      rcases finalityOf_ok h with ⟨hpos, -⟩ | ⟨policyVersion, mode, hread, rfl⟩
      · omega
      · rw [(rowsFinality_answers _ _).tally] at hzero
        exact decided_of_foldl (fun row hrow => (hread row hrow).2) hzero
  exact ⟨fun row hrow => (hjudged row hrow).closed.mpr (hrows row hrow).1,
    fun row hrow => (hrows row hrow).2⟩

theorem settled_of_nil (h : requestSettlementVerdicts env scope q b = []) :
    Settled env scope q b := by
  refine ⟨fun row hrow => ?_, fun row hrow => ?_⟩ <;> rw [h] at hrow <;> cases hrow

theorem pending_of_conclude {total verified : ℤ}
    (h : (conclude q policyVersion mode t total verified).closed = true) :
    t.pendingAttempts = 0 := by
  by_contra hne
  unfold conclude at h
  rw [if_pos (Nat.pos_of_ne_zero hne)] at h
  cases h

theorem pending_of_closed (h : finalityOf env scope q b = .ok (some f))
    (hclosed : f.closed = true) : f.tally.pendingAttempts = 0 := by
  rcases finalityOf_ok h with ⟨-, hopen⟩ | ⟨policyVersion, mode, -, rfl⟩
  · rw [hopen] at hclosed
    cases hclosed
  · rw [(rowsFinality_answers _ _).tally]
    exact pending_of_conclude hclosed

theorem finality_ok {o : Option RequestFinality}
    (h : Finality.requestSettlementFinality v env scope q now b = (.ok o, b')) :
    scope ≠ "" ∧ q ≠ "" ∧ finalityOf env scope q b' = .ok o := by
  unfold Finality.requestSettlementFinality at h
  split_ifs at h with hscope hq
  · cases h
  · cases h
  · split at h
    · cases h
    · obtain ⟨hfin, rfl⟩ := Prod.mk.inj h
      exact ⟨hscope, hq, hfin⟩

theorem finalitiesOf_ok (hnodup : qs.Nodup) {r : List RequestFinality × Bool}
    (h : finalitiesOf v env scope now qs b = (.ok r, b')) :
    readFinalities env b' scope qs = .ok r ∧ (qs ≠ [] → scope ≠ "") ∧
      ∀ q ∈ qs, ∃ o, finalityOf env scope q b' = .ok o ∧ ∀ f ∈ o, f ∈ r.1 := by
  induction qs generalizing b r with
  | nil =>
    cases h
    exact ⟨rfl, fun h => absurd rfl h, fun q hq => by cases hq⟩
  | cons q qs ih =>
    unfold finalitiesOf at h
    split at h
    · cases h
    next o b₁ hfirst =>
    split at h
    · cases h
    next fs missing b₂ hrest =>
    obtain ⟨hscope, -, hfin⟩ := finality_ok hfirst
    have hmisses : MissesAll v env scope qs b₁ b₂ := by
      have := @finalitiesOf_misses v env b₁ scope now qs
      rwa [hrest] at this
    have hsame := finalityOf_same
      (@misses_same v env scope q b₁ b₂ qs scope hmisses (List.nodup_cons.mp hnodup).1)
    have hb₂ : b₂ = b' ∧ r = addResolved o (fs, missing) := by
      cases o <;> cases h <;> exact ⟨rfl, rfl⟩
    obtain ⟨rfl, rfl⟩ := hb₂
    obtain ⟨hread, -, hall⟩ := ih (List.nodup_cons.mp hnodup).2 hrest
    refine ⟨?_, fun _ => hscope, fun x hx => ?_⟩
    · unfold readFinalities
      rw [hsame, hfin, hread]
    · rcases List.mem_cons.mp hx with rfl | hx
      · refine ⟨o, hsame.trans hfin, fun f hf => ?_⟩
        obtain rfl := Option.mem_def.mp hf
        exact List.mem_cons_self
      · obtain ⟨o', ho', hmem⟩ := hall x hx
        refine ⟨o', ho', fun f hf => ?_⟩
        cases o
        · exact hmem f hf
        · exact List.mem_cons_of_mem _ (hmem f hf)

theorem tallyFinalities_settled {fs : List RequestFinality} {total total' : ℤ}
    (h : tallyFinalities policyVersion mode fs t total = (false, t', total'))
    (hpending : t'.pendingAttempts = 0) :
    t.pendingAttempts = 0 ∧ ∀ f ∈ fs, f.tally.pendingAttempts = 0 := by
  induction fs generalizing t total with
  | nil =>
    cases h
    exact ⟨hpending, fun f hf => by cases hf⟩
  | cons f fs ih =>
    unfold tallyFinalities at h
    split at h
    · cases h
    obtain ⟨hsum, hrest⟩ := ih h
    have hparts : t.pendingAttempts + f.tally.pendingAttempts = 0 := hsum
    refine ⟨by omega, fun x hx => ?_⟩
    rcases List.mem_cons.mp hx with rfl | hx
    · omega
    · exact hrest x hx

theorem aggregate_closed {first : RequestFinality} {rest : List RequestFinality}
    (h : (aggregateExternalRequestFinality q first rest).closed = true) :
    ∀ f ∈ first :: rest, f.tally.pendingAttempts = 0 := by
  unfold aggregateExternalRequestFinality at h
  rcases ht : tallyFinalities first.policyVersion first.mode (first :: rest) .zero 0 with
    ⟨mixed, t, total⟩
  rw [ht] at h
  dsimp only at h
  cases mixed
  · exact (tallyFinalities_settled ht (pending_of_conclude h)).2
  · cases h

theorem heldBack_closed {missing : Bool} (h : (heldBack missing f).closed = true) :
    heldBack missing f = f := by
  unfold heldBack at h ⊢
  by_cases hcond : (missing && f.outcome = .of .verified && f.closed) = true
  · rw [if_pos hcond] at h
    cases h
  · exact if_neg hcond

theorem nodup_requestIDs : (requestIDsForExternalRequest acct req since b).Nodup :=
  nodup_eraseDups _

theorem requestIDs_ne_empty : ∀ q ∈ requestIDsForExternalRequest acct req since b, q ≠ "" := by
  intro q hq
  unfold requestIDsForExternalRequest at hq
  rw [List.mem_eraseDups] at hq
  obtain ⟨r, hr, rfl⟩ := List.mem_map.mp hq
  have := (List.mem_filter.mp hr).2
  simp only [Bool.and_eq_true, decide_eq_true_eq] at this
  exact this.2

theorem external_of_closed
    (h : externalFinality v env acct req now since b = (.ok (some f), b'))
    (hclosed : f.closed = true) (hb' : Grounded env b') :
    env.accountScope acct ≠ "" ∧
      (∀ q ∈ requestIDsForExternalRequest acct req since b',
        q ≠ "" ∧ Settled env (env.accountScope acct) q b') ∧
      readExternal env acct req since b' = .ok (some f) := by
  have hlog : b'.log = b.log := by
    have := (@externalFinality_misses v env b req acct now since).frame.1
    rwa [h] at this
  have hids := @ids_of_log acct req since _ _ hlog
  unfold externalFinality at h
  split at h
  · cases h
  · cases h
  next first rest missing b₁ hfin =>
  obtain ⟨hf, rfl⟩ := Prod.mk.inj h
  obtain rfl := Option.some.inj (Except.ok.inj hf)
  have hheld := heldBack_closed hclosed
  rw [hheld] at hclosed
  obtain ⟨hread, hscope, hall⟩ := finalitiesOf_ok nodup_requestIDs hfin
  have hpending := aggregate_closed hclosed
  have hne : requestIDsForExternalRequest acct req since b ≠ [] := by
    intro hnil
    rw [hnil] at hread
    cases hread
  refine ⟨hscope hne, fun q hq => ?_, ?_⟩
  · rw [hids] at hq
    obtain ⟨o, ho, hmem⟩ := hall q hq
    exact ⟨requestIDs_ne_empty q hq,
      settled_of_finality hb' ho fun f hf => hpending f (hmem f hf)⟩
  · unfold readExternal
    rw [hids, hread]

theorem finalitiesOf_same (hclosed : ∀ row ∈ requestSettlementVerdicts env scope q b,
      row.closed = true) (hscope : scope ≠ "") (hq : q ≠ "") :
    Same env scope q b (finalitiesOf v env scope now qs b).2 := by
  induction qs generalizing b with
  | nil => exact .refl b
  | cons x qs ih =>
    have hfirst : Same env scope q b
        (Finality.requestSettlementFinality v env scope x now b).2 := by
      by_cases hx : x = q
      · rw [hx, finality_closed hscope hq hclosed]
        exact .refl b
      · exact misses_same (finality_misses now) fun h => hx (List.mem_singleton.mp h).symm
    unfold finalitiesOf
    rcases hfin : Finality.requestSettlementFinality v env scope x now b with ⟨_ | o, b₁⟩
    · rw [hfin] at hfirst
      exact hfirst
    · rw [hfin] at hfirst
      have hrest := ih (b := b₁) fun row hrow => hclosed row (hfirst.rows ▸ hrow)
      have hall := hfirst.trans hrest
      dsimp only
      rcases hmore : finalitiesOf v env scope now qs b₁ with ⟨_ | ⟨fs, missing⟩, b₂⟩
      · rw [hmore] at hall
        exact hall
      · rw [hmore] at hall
        cases o <;> exact hall

theorem Behind.quiet {x : Except FinalityError (Option RequestFinality)}
    (hbehind : Behind env acct req since b qs x) (hscope : env.accountScope acct ≠ "")
    (h : ∀ q ∈ qs, q ≠ "" ∧ Settled env (env.accountScope acct) q b) :
    Quiet env acct req since b ∧
      readFinality env acct req since b = x :=
  ⟨⟨hscope, hbehind.eq.1 ▸ h⟩, hbehind.eq.2⟩

/-- **Behind a closed answer all is settled.** -/
theorem answer_of_closed (hb : Grounded env b)
    (h : Finality.requestSettlementFinalityForAccount v env acct req now since b =
      (.ok (some f), b')) (hclosed : f.closed = true) :
    Quiet env acct req since b' ∧
      readFinality env acct req since b' = .ok (some f) := by
  have hb' : Grounded env b' := by
    have := hb.step (v := v)
      (.requestSettlementFinalityForAccount acct req now since)
    change Grounded env (Finality.requestSettlementFinalityForAccount v env acct req now
      since b).2 at this
    rwa [h] at this
  have hlog : b'.log = b.log := by
    have := (@finalityForAccount_misses v env b req acct now since).frame.1
    rwa [h] at this
  have hdirect := @direct_of_log acct req since _ _ hlog
  unfold Finality.requestSettlementFinalityForAccount at h
  by_cases hd : directRequestIDWithinReservationWindow acct req since b = true
  · rw [if_pos hd] at h
    rcases hfirst : Finality.requestSettlementFinality v env (env.accountScope acct) req
      now b with ⟨e | _ | g, b₁⟩
    · rw [hfirst] at h
      cases h
    · -- there is no verdict on the id itself, before and behind the others
      rw [hfirst] at h
      obtain ⟨hscope, hname, hnone⟩ := finality_ok hfirst
      obtain ⟨-, hsettled, hread⟩ := external_of_closed h hclosed hb'
      have hrows₁ := finalityOf_none.mp hnone
      have hsame : Same env (env.accountScope acct) req b₁ b' := by
        have := @finalitiesOf_same v env (env.accountScope acct) req b₁
          (requestIDsForExternalRequest acct req since b₁) now
          (by rw [hrows₁]; exact fun row hrow => by cases hrow) hscope hname
        have hbooks : (finalitiesOf v env (env.accountScope acct) now
            (requestIDsForExternalRequest acct req since b₁) b₁).2 = b' := by
          have hsnd := congrArg Prod.snd h
          dsimp only at hsnd
          rw [← hsnd]
          unfold externalFinality
          split <;> next heq => rw [heq]
        rwa [hbooks] at this
      have hrows : requestSettlementVerdicts env (env.accountScope acct) req b' = [] :=
        hsame.rows.trans hrows₁
      rw [← hread]
      exact (Behind.both (hdirect.trans hd) hrows).quiet hscope
        (List.forall_mem_cons.mpr ⟨⟨hname, settled_of_nil hrows⟩, hsettled⟩)
    · rw [hfirst] at h
      cases h
      obtain ⟨hscope, hname, hfin⟩ := finality_ok hfirst
      have hne : requestSettlementVerdicts env (env.accountScope acct) req b' ≠ [] := by
        intro hnil
        rw [finalityOf_none.mpr hnil] at hfin
        cases hfin
      rw [← hfin]
      refine (Behind.direct (hdirect.trans hd) hne).quiet hscope
        (List.forall_mem_singleton.mpr ⟨hname, settled_of_finality hb' hfin fun g hg => ?_⟩)
      cases hg
      exact pending_of_closed hfin hclosed
  · rw [if_neg hd] at h
    obtain ⟨hscope, hsettled, hread⟩ := external_of_closed h hclosed hb'
    rw [← hread]
    exact (Behind.external (hdirect ▸ hd)).quiet hscope hsettled

end Closed

/-- **Closed answers stay.** In reachable books a call has returned a closed answer: behind
operations that keep it, every later call returns it. -/
theorem closed_answers_stay {v : ReceiptCodec} {env : Env} {acct req : String}
    {since : ℕ} {b b' : Books} {now : ℤ} {f : RequestFinality}
    (hb : Reaches (step v env) (fun _ _ => True) .empty b)
    (h : Finality.requestSettlementFinalityForAccount v env acct req now since b =
      (.ok (some f), b')) (hclosed : f.closed = true) {b'' : Books}
    (hrun : Reaches (step v env) (Keeps env acct req since) b' b'') (now' : ℤ) :
    (Finality.requestSettlementFinalityForAccount v env acct req now' since b'').1 =
      .ok (some f) := by
  have hquiet : Quiet env acct req since b'' ∧
      readFinality env acct req since b'' = .ok (some f) := by
    refine reaches_induction (I := fun b => Quiet env acct req since b ∧
      readFinality env acct req since b = .ok (some f)) hrun
      (answer_of_closed (reaches_grounded hb) h hclosed) ?_
    rintro b₁ op ⟨hquiet, hread⟩ hkeeps
    have hunmoved := step_unmoved (v := v) hquiet hkeeps
    exact ⟨hquiet.unmoved hunmoved, hunmoved.behind.2.trans hread⟩
  rw [call_of_quiet hquiet.1]
  exact hquiet.2

def demoCall (ops : List Op) : Except FinalityError (Option RequestFinality) :=
  (Finality.requestSettlementFinalityForAccount demoReceipts demoEnv "acct" "req" 5 0
    (demoBooks ops)).1

/-- A second attempt with the bytes of the first. -/
def demoRepeated : SettlementAttemptOutput := { demoOutput with attemptN := 1, providerID := "p2" }

/-- Recovery quarantines a credit billed from its receipt, or a later output overlaps. -/
theorem closed_answer_changes :
    (demoCall (demoPaid none)).map (Option.map fun f => (f.closed, f.outcome, f.totalTokens)) =
        .ok (some (true, .of .verified, 1001000)) ∧
      demoCall (demoPaid none ++ [.requestSettlementFinalityForAccount "acct" "req" 5 0,
        .recoverLedger ⟨0, 10⟩]) = .error (.usageMissing "req" 0 "p") ∧
      (demoCall (demoPaid none ++ [.requestSettlementFinalityForAccount "acct" "req" 5 0,
          .insertSettlementAttemptOutput demoRepeated])).map
        (Option.map fun f => (f.closed, f.outcome, f.totalTokens)) =
        .ok (some (true, .overlapBlockedTerminal, 0)) := by
  decide +kernel

/-- The counts of provider and coordinator agree. -/
def demoEven : List Op :=
  [.writeHotPath (some "acct")
      { demoRow none with tokens := ⟨some 1000, none, some 1000000, none⟩ }
      { demoInput none with tokens := ⟨some 1000, none, some 1000000, none⟩ },
    .insertRouteSnapshot demoRoute, .insertSettlementAttemptOutput demoOutput,
    .ingestSettlementReceipt ⟨"acct", "req", 0, "p"⟩ "header" "pubkey" 2]

theorem answer_stays_behind_recovery :
    ∃ f b', Finality.requestSettlementFinalityForAccount demoReceipts demoEnv "acct" "req" 5 0
        (demoBooks (demoEven)) = (.ok (some f), b') ∧ f.closed = true ∧
      (Finality.requestSettlementFinalityForAccount demoReceipts demoEnv "acct" "req" 100000 0
        (step demoReceipts demoEnv b' (.recoverLedger ⟨0, 10⟩))).1 = .ok (some f) := by
  have hcall : ∃ f b', Finality.requestSettlementFinalityForAccount demoReceipts demoEnv "acct"
      "req" 5 0 (demoBooks (demoEven)) = (.ok (some f), b') ∧ f.closed = true ∧
      b' = (Finality.requestSettlementFinalityForAccount demoReceipts demoEnv "acct" "req" 5 0
        (demoBooks (demoEven))).2 := ⟨_, _, rfl, by decide +kernel, rfl⟩
  obtain ⟨f, b', hcall, hclosed, hb'⟩ := hcall
  have hkeeps : Keeps demoEnv "acct" "req" 0 b' (.recoverLedger ⟨0, 10⟩) := by
    rintro ⟨scope, q, n, p⟩ ⟨hscope, hq, row, hrow, -, hn, hp⟩
    have hbehind : requestsBehind demoEnv "acct" "req" 0 b' = ["req"] := by
      rw [hb']
      decide +kernel
    rw [hbehind, List.mem_singleton] at hq
    subst hscope hq hn hp
    have hrows : ∀ row ∈ requestSettlementVerdicts demoEnv "acct" "req" b',
        ∀ c ∈ chargedCredit demoEnv ⟨"acct", "req", row.attemptN, row.providerID⟩ b',
          (Window.contains ⟨0, 10⟩ c.ts = true → hasRequestLog b' c = true) ∧
            ∀ x ∈ scannedRows ⟨0, 10⟩ b', clears demoEnv b' x c = true := by
      rw [hb']
      decide +kernel
    exact hrows row hrow
  exact ⟨f, b', hcall, hclosed, closed_answers_stay
    (reaches_run (fun _ _ => trivial) Books.empty (demoEven)) hcall hclosed
    (.step _ .refl hkeeps) 100000⟩

end MacProvider.Coordinator.Billing.Stability
