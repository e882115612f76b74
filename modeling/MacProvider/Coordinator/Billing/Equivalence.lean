import MacProvider.Coordinator.Billing.Fallback
import MacProvider.Lib.Runs

/-! # The hot path and its fallback

An attempt whose hot path fails is credited from the log. The two ways agree exactly if both hold
the attempt or both bill it, and the log has kept source and flag (`recoveredColumns_iff`). -/

namespace MacProvider.Coordinator.Billing.Equivalence

open Lib.Tables Lib.Runs Billing.Schema Billing.Formula Billing.HotPath Billing.Recording
open Billing.Receipts Billing.Recovery Billing.Confirmation Billing.Fallback

/-! ### Both ways of an attempt -/

section Alike
variable (env : Env) (s : Server) (r : BillingRecorder) (a : Attempt) (n : ℕ)

/-- The counts of an attempt that is held. -/
def heldTokens : TokenCounts :=
  { (billedInput env s r a).tokens with cachedPromptTokens := none }

/-- These counts can be priced. -/
def PayableAs (t : TokenCounts) : Prop :=
  Payable t (usageFor a.errorCode a.tokens.estimatedCompTokens) (s.config.rateFor r.model)
    s.config.multiplierPPM s.config.providerShareBps

/-- What the hot path writes, as attempt `n`. -/
def hotPathColumns : Columns :=
  if Held (billedInput env s r a) a.retried (n + 1) then
    heldColumns (billOf s r a (heldTokens env s r a) a.faultFlag).usageSource
      (billOf s r a (heldTokens env s r a) a.faultFlag).faultFlag
  else billedColumns (billOf s r a (countedInput env s r a).tokens a.faultFlag)

/-- No fault of the provider, held by both or billed by both, and source and flag are in the log. -/
structure RecoversAlike : Prop where
  breaker : a.faultFlag ≠ .breakerQualifying
  held : Held (billedInput env s r a) a.retried (n + 1) ↔ HeldByRecovery env s r a n
  source : Held (billedInput env s r a) a.retried (n + 1) →
    usageFor a.errorCode a.tokens.estimatedCompTokens ≠ .nullError →
      a.faultFlag = .none ∧ PayableAs s r a (heldTokens env s r a) ∧
        (a.tokens.estimatedCompTokens = none ∨ invalidReason (storedRow env s r a).tokens = none)
  flag : ¬ Held (billedInput env s r a) a.retried (n + 1) →
    FlagKept (countedInput env s r a) a.faultFlag

end Alike

section Compared
variable {env : Env} {s : Server} {r : BillingRecorder} {a : Attempt} {n : ℕ} {b₀ : Books}

theorem hotPathRow_columns : columnsOf (hotPathRow env s r a b₀) =
    hotPathColumns env s r a (b₀.requestCount (accountOf r) r.requestID) := by
  unfold hotPathColumns hotPathRow attemptBill
  rcases bill_cases (billedInput env s r a) a.retried
    (b₀.requestCount (accountOf r) r.requestID + 1) with ⟨hheld, reason, hbill⟩ | ⟨hheld, hbill⟩
  · obtain ⟨hg, hp, hu, hf, -⟩ := zeroCredits_eq ((billedInput env s r a).credits none)
    rw [if_pos hheld, hbill]
    unfold columnsOf creditRow
    rw [hg, hp, hu, hf]
    rfl
  · rw [if_neg hheld, hbill]
    rfl

/-- What the formula pays nothing for. -/
def unpaid : Columns := ⟨false, 0, 0, some 0, .nullError, .nullUsageError⟩

/-- It has a source and can be priced. -/
def Priced (s : Server) (r : BillingRecorder) (a : Attempt) (t : TokenCounts) : Prop :=
  usageFor a.errorCode a.tokens.estimatedCompTokens ≠ .nullError ∧ PayableAs s r a t

theorem billOf_cases (t : TokenCounts) (flag : FaultFlag)
    (ht : t.estimatedCompTokens = a.tokens.estimatedCompTokens) :
    (flag = .breakerQualifying ∧ (billOf s r a t flag).faultFlag = .breakerQualifying) ∨
      (flag ≠ .breakerQualifying ∧ ¬ Priced s r a t ∧
        billedColumns (billOf s r a t flag) = unpaid) ∨
      (flag ≠ .breakerQualifying ∧ Priced s r a t ∧
        (billOf s r a t flag).usageSource =
          usageFor a.errorCode a.tokens.estimatedCompTokens ∧
        (billOf s r a t flag).faultFlag = flag) := by
  have hbilled := billedAs t (usageFor a.errorCode a.tokens.estimatedCompTokens) flag
    (s.config.rateFor r.model) s.config.multiplierPPM s.config.providerShareBps
  change BilledAs _ _ _ _ _ _ (billOf s r a t flag) at hbilled
  rcases hbilled with ⟨h, hrow⟩ | ⟨h, hsource, hrow⟩ | ⟨h, hsource, hpay, hrow⟩ |
    ⟨h, hsource, hpay, source', hsource', hnull, gross, hgross, hrow⟩
  · refine Or.inl ⟨h, ?_⟩
    rw [hrow]
    exact h
  · refine Or.inr (Or.inl ⟨h, fun hpriced => hpriced.1 hsource, ?_⟩)
    rw [hrow, hsource]
    rfl
  · refine Or.inr (Or.inl ⟨h, fun hpriced => hpay hpriced.2, ?_⟩)
    rw [hrow]
    rfl
  · refine Or.inr (Or.inr ⟨h, ⟨hsource, hpay⟩, ?_, ?_⟩)
    · rw [hrow]
      refine hsource' ?_
      rw [ht]
      exact usageFor_source hsource
    · rw [hrow]
      rfl

theorem not_breaker_cases {flag : FaultFlag} (h : flag ≠ .breakerQualifying) :
    flag = .none ∨ flag = .nullUsageError := by
  cases flag
  · exact Or.inl rfl
  · exact absurd rfl h
  · exact Or.inr rfl

/-- **The flag of a bill does not matter** if the formula raises it, or it is `none`. -/
theorem billedColumns_flag_iff {t : TokenCounts} {flag : FaultFlag}
    (ht : t.estimatedCompTokens = a.tokens.estimatedCompTokens) :
    billedColumns (billOf s r a t .none) = billedColumns (billOf s r a t flag) ↔
      flag = .none ∨ flag = .nullUsageError ∧ ¬ Priced s r a t := by
  have hnone := @billOf_cases s r a t .none ht
  have hflag := @billOf_cases s r a t flag ht
  constructor
  · intro heq
    have hsame : (billOf s r a t .none).faultFlag = (billOf s r a t flag).faultFlag :=
      congrArg Columns.faultFlag heq
    rcases hflag with ⟨-, hf⟩ | ⟨hne, hnot, -⟩ | ⟨hne, hpriced, -, hf⟩
    · rw [hf] at hsame
      rcases hnone with ⟨h, -⟩ | ⟨-, -, h⟩ | ⟨-, -, -, h⟩
      · cases h
      · exact absurd (hsame.symm.trans (congrArg Columns.faultFlag h)) FaultFlag.noConfusion
      · exact absurd (hsame.symm.trans h) FaultFlag.noConfusion
    · exact (not_breaker_cases hne).imp_right fun h => ⟨h, hnot⟩
    · left
      rcases hnone with ⟨h, -⟩ | ⟨-, h, -⟩ | ⟨-, -, -, h⟩
      · cases h
      · exact absurd hpriced h
      · exact (hf.symm.trans hsame.symm).trans h
  · rintro (rfl | ⟨rfl, hnot⟩)
    · rfl
    rcases hnone with ⟨h, -⟩ | ⟨-, -, hnone⟩ | ⟨-, h, -⟩
    · cases h
    · rcases hflag with ⟨h, -⟩ | ⟨-, -, hflag⟩ | ⟨-, h, -⟩
      · cases h
      · exact hnone.trans hflag.symm
      · exact absurd h hnot
    · exact absurd h hnot

theorem usageFor_of_ne {errorCode : String} {estimated : Option ℤ}
    (h : usageFor errorCode estimated ≠ .nullError) (estimated' : Option ℤ) :
    usageFor errorCode estimated' =
      if estimated'.isSome then .byteEstimated else .providerReported := by
  unfold usageFor at *
  by_cases hcode : errorCode = "error_model_not_loaded" ∨ errorCode = "error_context_exceeded" ∨
      errorCode = "error_queue_full" ∨ errorCode = "error_internal"
  · rw [if_pos hcode] at h
    exact absurd rfl h
  · rw [if_neg hcode]

theorem quarantinedUsage_eq_iff
    (hsource : usageFor a.errorCode a.tokens.estimatedCompTokens ≠ .nullError) :
    quarantinedUsage env s r a ≠ .nullError ∧
      (quarantinedUsage env s r a = usageFor a.errorCode a.tokens.estimatedCompTokens ↔
        a.tokens.estimatedCompTokens = none ∨
          invalidReason (storedRow env s r a).tokens = none) := by
  unfold quarantinedUsage
  by_cases hvalid : invalidReason (storedRow env s r a).tokens = none
  · rw [if_neg (not_not.mpr hvalid)]
    exact ⟨hsource, iff_of_true rfl (Or.inr hvalid)⟩
  have husage := usageFor_of_ne hsource
  rw [if_pos hvalid, husage none, husage a.tokens.estimatedCompTokens]
  rcases a.tokens.estimatedCompTokens with _ | estimate
  · exact ⟨UsageSource.noConfusion, iff_of_true rfl (Or.inl rfl)⟩
  · simp [hvalid]

theorem quarantinedUsage_null
    (hsource : usageFor a.errorCode a.tokens.estimatedCompTokens = .nullError) :
    quarantinedUsage env s r a = .nullError := by
  unfold quarantinedUsage
  have hcode : usageFor a.errorCode none = .nullError := by
    unfold usageFor at *
    split_ifs at hsource ⊢
    rfl
  rw [hcode, hsource, ite_self]

theorem heldColumns_iff :
    heldColumns (quarantinedUsage env s r a)
        (if quarantinedUsage env s r a = .nullError then .nullUsageError else .none) =
      heldColumns (billOf s r a (heldTokens env s r a) a.faultFlag).usageSource
        (billOf s r a (heldTokens env s r a) a.faultFlag).faultFlag ↔
    a.faultFlag ≠ .breakerQualifying ∧
      (usageFor a.errorCode a.tokens.estimatedCompTokens ≠ .nullError →
        a.faultFlag = .none ∧ PayableAs s r a (heldTokens env s r a) ∧
          (a.tokens.estimatedCompTokens = none ∨
            invalidReason (storedRow env s r a).tokens = none)) := by
  have hcolumns : ∀ u u' f f', heldColumns u f = heldColumns u' f' ↔ u = u' ∧ f = f' := by
    intro u u' f f'
    simp [heldColumns]
  rw [hcolumns]
  rcases @billOf_cases s r a (heldTokens env s r a) a.faultFlag rfl with ⟨hflag, hf⟩ |
    ⟨hflag, hnot, h⟩ | ⟨hflag, ⟨hsource, hpay⟩, hu, hf⟩
  · refine iff_of_false (fun h => ?_) fun h => h.1 hflag
    have hsame := h.2
    rw [hf] at hsame
    split_ifs at hsame
  · have hu := congrArg Columns.usageSource h
    have hf := congrArg Columns.faultFlag h
    by_cases hsource : usageFor a.errorCode a.tokens.estimatedCompTokens = .nullError
    · have hnull := @quarantinedUsage_null env s r a hsource
      refine iff_of_true ⟨hnull.trans hu.symm, ?_⟩ ⟨hflag, fun hne => absurd hsource hne⟩
      rw [if_pos hnull]
      exact hf.symm
    · refine iff_of_false (fun h' => ?_) fun h' => hnot ⟨hsource, (h'.2 hsource).2.1⟩
      exact (quarantinedUsage_eq_iff hsource).1 (h'.1.trans hu)
  · obtain ⟨hne, hiff⟩ := @quarantinedUsage_eq_iff env s r a hsource
    rw [hu, hf, if_neg hne, hiff]
    constructor
    · rintro ⟨hkept, hnone⟩
      exact ⟨hflag, fun _ => ⟨hnone.symm, hpay, hkept⟩⟩
    · rintro ⟨-, h⟩
      obtain ⟨hnone, -, hkept⟩ := h hsource
      exact ⟨hkept, hnone.symm⟩

/-- **The columns are the same** exactly if recovery repeats the hot path. -/
theorem recoveredColumns_iff :
    recoveredColumns env s r a n = hotPathColumns env s r a n ↔ RecoversAlike env s r a n := by
  unfold recoveredColumns hotPathColumns
  by_cases hheld : Held (billedInput env s r a) a.retried (n + 1)
  · by_cases hrecovery : HeldByRecovery env s r a n
    · rw [if_pos hheld, if_pos hrecovery, heldColumns_iff]
      constructor
      · rintro ⟨hbreaker, hsource⟩
        exact ⟨hbreaker, iff_of_true hheld hrecovery, fun _ => hsource, fun h => absurd hheld h⟩
      · intro h
        exact ⟨h.breaker, h.source hheld⟩
    · rw [if_pos hheld, if_neg hrecovery]
      exact iff_of_false (fun h => absurd (congrArg Columns.quarantined h) Bool.false_ne_true)
        fun h => hrecovery (h.held.mp hheld)
  · by_cases hrecovery : HeldByRecovery env s r a n
    · rw [if_neg hheld, if_pos hrecovery]
      exact iff_of_false (fun h => absurd (congrArg Columns.quarantined h).symm Bool.false_ne_true)
        fun h => hheld (h.held.mpr hrecovery)
    · have htokens : recoveredTokens env s r a n = (countedInput env s r a).tokens := by
        have hclear : (normalizeCachedPromptTokens (billedInput env s r a)).2 = "" :=
          not_not.mp (not_or.mp (not_or.mp hheld).2).2
        have hn : r.attemptN = n := not_not.mp (not_or.mp (not_or.mp hrecovery).2).1
        exact recoveredTokens_eq hclear hn
      rw [if_neg hheld, if_neg hrecovery, htokens,
        @billedColumns_flag_iff s r a (countedInput env s r a).tokens a.faultFlag rfl]
      constructor
      · intro hflag
        refine ⟨?_, iff_of_false hheld hrecovery, fun h => absurd h hheld, fun _ => hflag⟩
        rcases hflag with h | ⟨h, -⟩ <;> rw [h] <;> exact FaultFlag.noConfusion
      · intro h
        exact h.flag hheld

end Compared

/-! ### The recovery of an attempt in the log -/

/-- The row is the attempt. -/
def isRow (q : String) (n : ℕ) (x : LogRow) : Bool := x.requestID = q ∧ x.attemptN = n

section Awaiting
variable (env : Env) (s : Server) (r : BillingRecorder) (a : Attempt)

/-- It is in the log, as number `n`, and not credited. -/
structure Awaits (n : ℕ) (b : Books) : Prop where
  row : b.log.filter (isRow r.requestID n) = [loggedAs env s r a n]
  identity : b.identities.find? (r.requestID, n, a.providerAssignedID) =
    if r.attemptN = n then some (identityOf (billedInput env s r a) n) else none
  credits : attemptCredits b r.requestID n = []
  receipts : NoReceipt r.requestID n b

/-- Nothing is written for the attempt yet. -/
structure NewAttempt (n : ℕ) (b : Books) : Prop where
  row : b.log.filter (isRow r.requestID n) = []
  identity : b.identities.find? (r.requestID, n, a.providerAssignedID) = none
  credits : attemptCredits b r.requestID n = []
  receipts : NoReceipt r.requestID n b

/-- Nothing was written for the attempt. -/
structure Later (q : String) (n : ℕ) (b b' : Books) : Prop where
  row : b'.log.filter (isRow q n) = b.log.filter (isRow q n)
  identity : ∀ assigned, b'.identities.find? (q, n, assigned) = b.identities.find? (q, n, assigned)
  credits : attemptCredits b' q n = attemptCredits b q n
  receipts : NoReceipt q n b → NoReceipt q n b'

/-- No row of another attempt stops it. -/
def Completes (env : Env) (w : Window) (q : String) (n : ℕ) (b : Books) : Prop :=
  ∀ xs x ys b', scannedRows w b = xs ++ x :: ys →
    xs.foldlM (recoverRow env) (quarantineOrphans w b) = .ok b' →
      (q, n) ≠ (x.requestID, x.attemptN) → ∃ b'', recoverRow env b' x = .ok b''

end Awaiting

section Ledger
variable {env : Env} {s : Server} {r : BillingRecorder} {a : Attempt} {n : ℕ}
  {b b' b₀ b₁ b₂ : Books} {w : Window}

theorem isRow_eq_false {q : String} {x : LogRow} (h : ¬ isRow q n x = true) :
    (q, n) ≠ (x.requestID, x.attemptN) := by
  intro heq
  obtain ⟨h1, h2⟩ := Prod.mk.inj heq
  exact h (by simp [isRow, h1, h2])

theorem fallback_awaits (hassigned : a.providerAssignedID ≠ "")
    (hprovider : stableProviderID s a ≠ "")
    (hnew : NewAttempt r a (b₀.requestCount (accountOf r) r.requestID) b₀)
    (h : writeRequestLogWithIdentity r.authenticatedAccount (logRowOf r a)
      (hotPathInputOf env s r a) b₀ = .ok b₂) :
    NonnegOrNull a.tokens.promptTokens ∧
      Awaits env s r a (b₀.requestCount (accountOf r) r.requestID) b₂ := by
  obtain ⟨hacc, hreq, -⟩ := storedRow_eq env s r a
  rw [writeRequestLogWithIdentity_eq env s r a b₀ hassigned hprovider] at h
  obtain ⟨hreported, rfl⟩ := insertProviderIdentitySnapshot_ok h
  refine ⟨hreported, ?_, ?_, hnew.credits, hnew.receipts⟩
  · have hlogged : (⟨storedRow env s r a, b₀.requestCount (storedRow env s r a).accountID
        (storedRow env s r a).requestID⟩ : LogRow) =
        loggedAs env s r a (b₀.requestCount (accountOf r) r.requestID) := by
      rw [hacc, hreq]
      rfl
    dsimp only [insertLog]
    rw [List.filter_append, hnew.row, hlogged]
    simp [isRow, loggedAs, hreq]
  · set n := b₀.requestCount (accountOf r) r.requestID with hn
    set d := identityOf (billedInput env s r a) r.attemptN with hd
    change (Table.find? ((b₀.identities.insert d).getD b₀.identities) _) = _
    have hkey : d.key = (r.requestID, n, a.providerAssignedID) ↔ r.attemptN = n := by
      constructor
      · intro h
        exact (Prod.mk.inj (Prod.mk.inj h).2).1
      · intro h
        rw [← h]
        rfl
    rcases hinsert : b₀.identities.insert d with _ | t
    · -- the identity was there: it is not one of attempt `n`
      have hne : r.attemptN ≠ n := by
        intro h
        have hfound := hnew.identity
        rw [← hkey.mpr h] at hfound
        exact absurd hfound (Table.insert_eq_none.mp hinsert)
      rw [if_neg hne]
      exact hnew.identity
    · rw [Option.getD_some, Table.find?_insert hinsert]
      by_cases h : r.attemptN = n
      · rw [if_pos (hkey.mpr h), if_pos h, hd, h]
      · rw [if_neg (mt hkey.mp h), if_neg h]
        exact hnew.identity

theorem Awaits.later (h : Awaits env s r a n b) (hlater : Later r.requestID n b b') :
    Awaits env s r a n b' :=
  ⟨hlater.row.trans h.row, (hlater.identity _).trans h.identity, hlater.credits.trans h.credits,
    hlater.receipts h.receipts⟩

theorem scannedRows_filter (h : Awaits env s r a n b) (hassigned : a.providerAssignedID ≠ "")
    (hstatus : a.status ≠ 503) (hwindow : w.contains r.startedAt = true) :
    (scannedRows w b).filter (isRow r.requestID n) = [loggedAs env s r a n] := by
  obtain ⟨-, -, -, hstored, hcode, -, hts, -⟩ := storedRow_eq env s r a
  refine List.perm_singleton.mp ?_
  have hperm := (List.perm_insertionSort (fun x x' : LogRow => x.ts ≤ x'.ts) (b.log.filter fun x =>
    w.contains x.ts && x.providerAssignedID ≠ "" && x.status ≠ 503)).filter (isRow r.requestID n)
  refine hperm.trans (List.Perm.of_eq ?_)
  rw [List.filter_comm, h.row]
  simp [loggedAs, hstored, hcode, hts, hassigned, hstatus, hwindow]

theorem eq_of_filter {q : String} {x y : LogRow} {rows xs ys : List LogRow}
    (h : rows.filter (isRow q n) = [y]) (hsplit : rows = xs ++ x :: ys) (hx : isRow q n x = true) :
    x = y ∧ (∀ z ∈ xs, (q, n) ≠ (z.requestID, z.attemptN)) ∧
      ∀ z ∈ ys, (q, n) ≠ (z.requestID, z.attemptN) := by
  rw [hsplit, List.filter_append, List.filter_cons_of_pos hx] at h
  obtain ⟨hxs, hrest⟩ := (List.append_eq_singleton_iff.mp h).resolve_right fun h' => by
    cases h'.2
  obtain ⟨rfl, hys⟩ := List.cons.inj hrest
  exact ⟨rfl, fun z hz => isRow_eq_false (List.filter_eq_nil_iff.mp hxs z hz),
    fun z hz => isRow_eq_false (List.filter_eq_nil_iff.mp hys z hz)⟩

theorem Awaits.reached (h : Awaits env s r a n b) {xs : List LogRow}
    (hxs : ∀ x ∈ xs, (r.requestID, n) ≠ (x.requestID, x.attemptN))
    (hfold : xs.foldlM (recoverRow env) (quarantineOrphans w b) = .ok b') :
    attemptCredits b' r.requestID n = [] ∧ NoReceipt r.requestID n b' ∧
      b'.identities.find? (r.requestID, n, a.providerAssignedID) =
        if r.attemptN = n then some (identityOf (billedInput env s r a) n) else none := by
  have haside := (quarantineOrphans_aside w h.credits).trans (foldlM_aside hxs hfold)
  refine ⟨haside.credits.trans h.credits, haside.verdicts h.receipts, ?_⟩
  rw [haside.identities]
  exact h.identity

/-- **A recovery that gets through** credits it once. -/
theorem recoverLedger_awaiting (hconfig : Snapshot env s)
    (hchecks : (hotPathRow env s r a b₀).Checks) (hreported : NonnegOrNull a.tokens.promptTokens)
    (hassigned : a.providerAssignedID ≠ "") (hstatus : a.status ≠ 503)
    (hwindow : w.contains r.startedAt = true) (h : Awaits env s r a n b) :
    ((∃ b₃, recoverLedger env w b = .ok b₃) ↔ Completes env w r.requestID n b) ∧
      ∀ b₃, recoverLedger env w b = .ok b₃ → ∃ c, attemptCredits b₃ r.requestID n = [c] ∧
        columnsOf c = recoveredColumns env s r a n := by
  have hfilter := scannedRows_filter h hassigned hstatus hwindow
  have hrow : ∀ xs x ys b', scannedRows w b = xs ++ x :: ys → isRow r.requestID n x = true →
      xs.foldlM (recoverRow env) (quarantineOrphans w b) = .ok b' →
        ∃ b'' c, recoverRow env b' x = .ok b'' ∧ attemptCredits b'' r.requestID n = [c] ∧
          columnsOf c = recoveredColumns env s r a n := by
    intro xs x ys b' hsplit hx hfold
    obtain ⟨rfl, hxs, -⟩ := eq_of_filter hfilter hsplit hx
    obtain ⟨hcredits, hreceipts, hidentity⟩ := h.reached hxs hfold
    exact recoverRow_fresh hconfig hchecks hreported hcredits hreceipts hidentity
  constructor
  · constructor
    · intro hok xs x ys b' hsplit hfold _
      exact foldlM_ok_iff.mp hok xs x ys b' hsplit hfold
    · intro hcompletes
      refine foldlM_ok_iff.mpr fun xs x ys b' hsplit hfold => ?_
      by_cases hx : isRow r.requestID n x = true
      · obtain ⟨b'', -, hok, -⟩ := hrow xs x ys b' hsplit hx hfold
        exact ⟨b'', hok⟩
      · exact hcompletes xs x ys b' hsplit hfold (isRow_eq_false hx)
  · intro b₃ hok
    obtain ⟨xs, ys, hsplit, -, hx, -⟩ := List.filter_eq_cons_iff.mp hfilter
    obtain ⟨-, -, hys⟩ := eq_of_filter hfilter hsplit hx
    unfold recoverLedger at hok
    rw [hsplit, List.foldlM_append] at hok
    obtain ⟨b', hfold, hrest⟩ := bind_ok hok
    rw [List.foldlM_cons] at hrest
    obtain ⟨b'', c, hrow', hcredits, hcolumns⟩ := hrow xs _ ys b' hsplit hx hfold
    rw [hrow'] at hrest
    exact ⟨c, (foldlM_aside hys hrest).credits.trans hcredits, hcolumns⟩

theorem writeHotPath_row (hassigned : a.providerAssignedID ≠ "")
    (hreceipt : NoReceipt r.requestID (attemptBill env s r a b₀).attemptN b₀)
    (h : writeHotPath env r.authenticatedAccount (logRowOf r a) (hotPathInputOf env s r a) b₀ =
      .ok b₁) :
    b₁.creditOf r.requestID (attemptBill env s r a b₀).attemptN (stableProviderID s a) =
      some (hotPathRow env s r a b₀) := by
  rw [writeHotPath_eq env s r a b₀ hassigned] at h
  obtain ⟨hnone, -, hrest⟩ := writeBill_ok h
  set i := (billedInput env s r a).scoped env (accountOf r)
  set d := attemptBill env s r a b₀
  have hrow : ((insertLog (storedRow env s r a) b₀).credited i d).creditOf r.requestID d.attemptN
      (stableProviderID s a) = some (hotPathRow env s r a b₀) := by
    unfold Books.creditOf at hnone ⊢
    dsimp only [Books.credited, Books.appended]
    rw [List.find?_append]
    have hsame : b₀.credits.rows.find? (fun c => decide (c.requestID = r.requestID ∧
        c.attemptN = d.attemptN ∧ c.providerID = stableProviderID s a)) = none := hnone
    rw [show (insertLog (storedRow env s r a) b₀).credits = b₀.credits from rfl, hsame,
      Option.none_or, List.find?_cons_of_pos (by simp [creditRow, i]; exact ⟨rfl, rfl⟩)]
    rfl
  have hreceipt' : NoReceipt i.requestID d.attemptN
      ((insertLog (storedRow env s r a) b₀).credited i d) := hreceipt
  have hb₁ : b₁ = (insertLog (storedRow env s r a) b₀).credited i d := by
    split_ifs at hrest
    · exact hrest
    · have hsync := (sync_none hreceipt').symm.trans hrest
      exact (Except.ok.inj hsync).symm
  rw [hb₁]
  exact hrow

/-- **Recovery repeats the hot path**: for an attempt that the fallback logged, it writes one row,
with the columns of the hot path, exactly if no other row stops it and the log says enough. -/
theorem recovery_repeats_the_hot_path_iff (env : Env) (s : Server) (r : BillingRecorder)
    (a : Attempt) (b₀ b₁ b₂ b : Books) (w : Window) (n : ℕ)
    (hn : n = b₀.requestCount (accountOf r) r.requestID)
    (hassigned : a.providerAssignedID ≠ "") (hprovider : stableProviderID s a ≠ "")
    (hstatus : a.status ≠ 503) (hconfig : Snapshot env s) (hnew : NewAttempt r a n b₀)
    (hreceipt : NoReceipt r.requestID (attemptBill env s r a b₀).attemptN b₀)
    (hhot : writeHotPath env r.authenticatedAccount (logRowOf r a) (hotPathInputOf env s r a) b₀ =
      .ok b₁)
    (hfallback : writeRequestLogWithIdentity r.authenticatedAccount (logRowOf r a)
      (hotPathInputOf env s r a) b₀ = .ok b₂)
    (hlater : Later r.requestID n b₂ b) (hwindow : w.contains r.startedAt = true) :
    ∃ c₁, b₁.creditOf r.requestID (attemptBill env s r a b₀).attemptN (stableProviderID s a) =
        some c₁ ∧
      ((∃ b₃ c, recoverLedger env w b = .ok b₃ ∧ attemptCredits b₃ r.requestID n = [c] ∧
          columnsOf c = columnsOf c₁) ↔
        Completes env w r.requestID n b ∧ RecoversAlike env s r a n) := by
  subst hn
  obtain ⟨hreported, hawaits⟩ := fallback_awaits hassigned hprovider hnew hfallback
  obtain ⟨hok, hcredit⟩ := recoverLedger_awaiting hconfig (hotPathRow_checks hassigned hhot)
    hreported hassigned hstatus hwindow (hawaits.later hlater)
  refine ⟨_, writeHotPath_row hassigned hreceipt hhot, ?_⟩
  rw [hotPathRow_columns, ← hok, ← recoveredColumns_iff]
  constructor
  · rintro ⟨b₃, c, h₃, hc, hcolumns⟩
    obtain ⟨c', hc', hcolumns'⟩ := hcredit b₃ h₃
    obtain rfl : c = c' := List.singleton_inj.mp (hc.symm.trans hc')
    exact ⟨⟨b₃, h₃⟩, hcolumns'.symm.trans hcolumns⟩
  · rintro ⟨⟨b₃, h₃⟩, halike⟩
    obtain ⟨c, hc, hcolumns⟩ := hcredit b₃ h₃
    exact ⟨b₃, c, h₃, hc, hcolumns.trans halike⟩

end Ledger

/-! ### A fault that the log forgets -/

/-- A disconnect during the stream; the output is estimated. -/
def demoCut : Attempt :=
  { demoAttempt none with
    tokens := ⟨none, none, none, some 500000⟩
    faultFlag := .breakerQualifying
    settlementOutput := none }

def demoScan : Window := ⟨0, 10⟩

def demoColumns (b : Books) : List Columns := b.credits.rows.map columnsOf

def demoLogged (a : Attempt) : Books :=
  { insertLog (storedRow demoEnv demoServer demoRecorder a) .empty with
    identities := (Table.insert .empty (identityOf (billedInput demoEnv demoServer demoRecorder a)
      0)).getD .empty }

theorem recovery_pays_for_a_fault :
    (writeHotPath demoEnv none (logRowOf demoRecorder demoCut)
        (hotPathInputOf demoEnv demoServer demoRecorder demoCut) .empty).toOption.map demoColumns =
      some [⟨false, 0, 0, some 0, .byteEstimated, .breakerQualifying⟩] ∧
    writeRequestLogWithIdentity none (logRowOf demoRecorder demoCut)
        (hotPathInputOf demoEnv demoServer demoRecorder demoCut) .empty =
      .ok (demoLogged demoCut) ∧
    (recoverLedger demoEnv demoScan (demoLogged demoCut)).toOption.map demoColumns =
      some [⟨false, 2000, 1700, some 300, .byteEstimated, .none⟩] :=
  ⟨by decide +kernel, rfl, by decide +kernel⟩

theorem recovery_repeats_a_priced_attempt :
    ∃ b₁ b₃ c c₁, writeHotPath demoEnv none (logRowOf demoRecorder (demoAttempt none))
        (hotPathInputOf demoEnv demoServer demoRecorder (demoAttempt none)) .empty = .ok b₁ ∧
      b₁.creditOf "req" 0 "p" = some c₁ ∧
      recoverLedger demoEnv demoScan (demoLogged (demoAttempt none)) = .ok b₃ ∧
      attemptCredits b₃ "req" 0 = [c] ∧ columnsOf c = columnsOf c₁ := by
  obtain ⟨b₁, hhot⟩ : ∃ b₁, writeHotPath demoEnv none (logRowOf demoRecorder (demoAttempt none))
      (hotPathInputOf demoEnv demoServer demoRecorder (demoAttempt none)) .empty = .ok b₁ :=
    exists_of_isOk (by decide +kernel)
  have hlog : writeRequestLogWithIdentity none (logRowOf demoRecorder (demoAttempt none))
      (hotPathInputOf demoEnv demoServer demoRecorder (demoAttempt none)) .empty =
      .ok (demoLogged (demoAttempt none)) := rfl
  obtain ⟨c₁, hc₁, hiff⟩ := recovery_repeats_the_hot_path_iff demoEnv demoServer demoRecorder
    (demoAttempt none) .empty b₁ (demoLogged (demoAttempt none)) (demoLogged (demoAttempt none))
    demoScan 0 rfl (by decide) (by decide) (by decide) ⟨by decide, rfl⟩
    ⟨rfl, rfl, rfl, fun v hv => absurd hv List.not_mem_nil⟩
    (fun v hv => absurd hv List.not_mem_nil) hhot hlog
    ⟨rfl, fun _ => rfl, rfl, id⟩ (by decide)
  have hok : ∃ b₃, recoverLedger demoEnv demoScan (demoLogged (demoAttempt none)) = .ok b₃ :=
    exists_of_isOk (by decide +kernel)
  obtain ⟨b₃, c, h₃, hc, hcolumns⟩ := hiff.mpr
    ⟨fun xs x ys b' hsplit hfold _ => foldlM_ok_iff.mp hok xs x ys b' hsplit hfold,
      by decide, by decide +kernel, fun h => absurd h (by decide +kernel), fun _ => Or.inl rfl⟩
  exact ⟨b₁, b₃, c, c₁, hhot, hc₁, h₃, hc, hcolumns⟩

end MacProvider.Coordinator.Billing.Equivalence
