import MacProvider.Coordinator.Billing.Grounds
import MacProvider.Coordinator.Billing.Tallies

/-! # When a request closes

A request whose verdicts are all closed is not always closed itself: a verified verdict needs a
credit that is not quarantined, and sometimes no rung of the ladder applies. -/

namespace MacProvider.Coordinator.Billing.Closing

open Lib.Tables Lib.Runs Billing.Outputs Billing.HotPath Billing.Recovery Billing.Verifier
open Billing.Verdicts Billing.Finality Billing.Lifecycle Billing.Grounds Billing.Receipts
open Billing.Tallies

/-! ### What a row counts for -/

section Rows
variable (env : Env) (scope req : String) (b : Books) (row : VerdictRow)

/-- The credit charged for the attempt of the row. -/
def creditFor : Option CreditRow :=
  chargedCredit env ⟨scope, req, row.attemptN, row.providerID⟩ b

/-- What is charged for the attempt of the row. -/
def chargedTokens : ℤ :=
  match creditFor env scope req b row with
  | some c => c.tokens.promptTokens.getD 0 + c.tokens.completionTokens.getD 0
  | none => 0

/-- The output of the attempt overlaps another one. -/
def overlapping : Bool :=
  (b.outputs.find? (scope, req, row.attemptN, row.providerID)).any fun o =>
    o.overlappingOrDuplicate

/-- A verified row whose tokens are charged. -/
def counts : Bool :=
  row.outcome = .verified && !overlapping scope req b row

/-- The charged tokens of verified attempts without an overlap. -/
def settledTokens : ℤ :=
  (((requestSettlementVerdicts env scope req b).filter
    (counts scope req b)).map (chargedTokens env scope req b)).sum

/-- **The request closes**: verified verdicts have a credit, and one verdict is not verified,
overlaps nothing or has tokens. -/
def Closes : Prop :=
  (∀ row ∈ requestSettlementVerdicts env scope req b, row.outcome = .verified →
      (creditFor env scope req b row).isSome = true) ∧
    ∃ row ∈ requestSettlementVerdicts env scope req b,
      row.outcome ≠ .verified ∨ overlapping scope req b row = false ∨
        0 < chargedTokens env scope req b row

instance : Decidable (Closes env scope req b) := by unfold Closes; infer_instance

/-- The row is decided, and its usage can be read. -/
structure Ready : Prop where
  closed : row.closed = true
  judged : Judged row
  nonneg : 0 ≤ chargedTokens env scope req b row
  usage : row.outcome = .verified → (creditFor env scope req b row).isSome = true →
    ∃ u, requestSettlementUsage env ⟨scope, req, row.attemptN, row.providerID⟩ b =
        .ok (u, overlapping scope req b row) ∧
      u.billableInputTokens + u.billableOutputTokens =
        chargedTokens env scope req b row

end Rows

/-! ### The loop -/

/-- A rung of the ladder applies. -/
def Decides (t : Tally) : Prop :=
  0 < t.verifiedAttempts ∨ Refunds t ∨ 0 < t.overlappingBlockedTokens

/-- Nothing is pending. -/
def Clear (t : Tally) : Prop := t.pendingAttempts = 0 ∧ 0 ≤ t.overlappingBlockedTokens

theorem ladder_ne_pending {t : Tally} (h : Clear t) : ladder t ≠ .pending ↔ Decides t := by
  unfold ladder Decides
  rw [if_neg (by simp [h.1])]
  split_ifs <;> simp_all

section Rows
variable {env : Env} {scope req : String} {b : Books} {row : VerdictRow}
  {rows : List VerdictRow}

theorem Ready.readable_iff (h : Ready env scope req b row) :
    Readable env scope req b row ↔ (row.outcome = .verified →
      (creditFor env scope req b row).isSome = true) := by
  refine ⟨fun hread hverified => ?_, fun hcredit hverified _ _ => ?_⟩
  · obtain ⟨r, hr⟩ := hread hverified h.closed (h.judged.valid hverified)
    unfold requestSettlementUsage at hr
    split at hr
    · next sao c hsao hc => exact Option.isSome_iff_exists.mpr ⟨c, hc⟩
    · cases hr
  · obtain ⟨u, hu, -⟩ := h.usage hverified (hcredit hverified)
    exact ⟨_, hu⟩

theorem Ready.addRow (h : Ready env scope req b row) (hread : Readable env scope req b row) :
    let t := Tallies.addRow .zero (rate env scope req b row)
    Clear t ∧ t.promptTokens + t.completionTokens =
        (if counts scope req b row then
          chargedTokens env scope req b row else 0) ∧
      (Decides t ↔ row.outcome ≠ .verified ∨ overlapping scope req b row = false ∨
        0 < chargedTokens env scope req b row) := by
  have hnonneg := h.nonneg
  unfold Tallies.addRow counts
  rw [rate_row]
  rcases houtcome : row.outcome with _ | _ | _ | _
  case pending => exact absurd houtcome (h.judged.closed.mp h.closed)
  case verified =>
    obtain ⟨u, hu, htokens⟩ := h.usage houtcome (h.readable_iff.mp hread houtcome)
    unfold rate
    rw [hu, h.closed, h.judged.valid houtcome]
    cases overlapping scope req b row
    · simp [Tally.addUsage, Clear, Decides, Tally.zero, htokens]
    · simp [Tally.addUsage, Clear, Decides, Tally.zero, htokens, Refunds, hnonneg]
  all_goals simp [Clear, Decides, Tally.zero, Tally.addRefund, Refunds]

/-- **The rows behind the loop**: tokens add up. -/
theorem ready_foldl (h : ∀ row ∈ rows, Ready env scope req b row ∧
      Readable env scope req b row) :
    let t := (rows.map (rate env scope req b)).foldl Tallies.addRow .zero
    Clear t ∧ t.promptTokens + t.completionTokens =
        ((rows.filter (counts scope req b)).map
          (chargedTokens env scope req b)).sum ∧
      (Decides t ↔ ∃ row ∈ rows, row.outcome ≠ .verified ∨
        overlapping scope req b row = false ∨
        0 < chargedTokens env scope req b row) := by
  induction rows with
  | nil => simp [Clear, Decides, Tally.zero]
  | cons row rows ih =>
    obtain ⟨⟨hready, hread⟩, hrows⟩ := List.forall_mem_cons.mp h
    have hsums := sums_foldl (rows.map (rate env scope req b))
      (Tallies.addRow .zero (rate env scope req b row))
    simp only [sums, Prod.mk_add_mk, Prod.mk.injEq] at hsums
    obtain ⟨hprompt, hcompletion, hv, hp, hq, hz, ho⟩ := hsums
    obtain ⟨hclear, htokens, hdecides⟩ := ih hrows
    obtain ⟨hclear₀, htokens₀, hdecides₀⟩ := hready.addRow hread
    dsimp only at *
    rw [List.map_cons, List.foldl_cons, List.exists_mem_cons_iff, ← hdecides, ← hdecides₀]
    unfold Clear at hclear hclear₀ ⊢
    unfold Decides Refunds
    rw [hprompt, hcompletion, hv, hp, hq, hz, ho, List.filter_cons]
    refine ⟨by omega, ?_, by omega⟩
    split_ifs at htokens₀ ⊢
    · rw [List.map_cons, List.sum_cons]
      omega
    · omega

end Rows

section Request
variable {v : ReceiptCodec} {env : Env} {scope req : String}
  {b : Books} {row : VerdictRow}

theorem mem_requestSettlementVerdicts :
    row ∈ requestSettlementVerdicts env scope req b ↔
      row ∈ b.verdicts.rows ∧ row.accountScopeHash = env.scopeHash scope ∧
        row.requestID = req := by
  unfold requestSettlementVerdicts
  rw [List.mem_insertionSort, List.mem_filter, decide_eq_true_eq]

theorem ready_of_grounded (hb : Grounded env b) (hinj : Function.Injective env.scopeHash)
    (hrow : row ∈ requestSettlementVerdicts env scope req b)
    (hclosed : row.closed = true) : Ready env scope req b row := by
  obtain ⟨hmem, hscope, hrequest⟩ := mem_requestSettlementVerdicts.mp hrow
  have hfind : b.verdicts.find? row.key = some row := Table.find?_eq_some.mpr ⟨hmem, rfl⟩
  have hcounted : ∀ c, creditFor env scope req b row = some c → Counted c := by
    intro c hc
    exact hb.counted c (creditOf_some (Option.eq_some_of_filter_eq_some hc)).1
  have hparts : ∀ c, Counted c →
      0 ≤ c.tokens.promptTokens.getD 0 ∧ 0 ≤ c.tokens.completionTokens.getD 0 := by
    intro c hc
    constructor
    · rcases h : c.tokens.promptTokens with _ | k
      · exact le_rfl
      · exact hc.1 k h
    · rcases h : c.tokens.completionTokens with _ | k
      · exact le_rfl
      · exact hc.2 k h
  refine ⟨hclosed, hb.judged row.key row hfind, ?_, fun hverified hcredit => ?_⟩
  · unfold chargedTokens
    split
    · next c hc =>
      have := hparts c (hcounted c hc)
      omega
    · exact le_rfl
  · obtain ⟨name, o, u, hhash, ho, hu, hvalid⟩ := hb.usage row.key row hfind hverified
    obtain rfl : name = scope := hinj (hhash.trans hscope)
    have hkey : row.key.2 = (req, row.attemptN, row.providerID) := by
      rw [← hrequest]
      rfl
    rw [hkey] at ho
    obtain ⟨c, hc⟩ := Option.isSome_iff_exists.mp hcredit
    have hpos := hparts c (hcounted c hc)
    have hc' := hc
    unfold creditFor at hc'
    unfold requestSettlementUsage chargedTokens overlapping
    rw [ho, hc', hc]
    dsimp only
    rw [hu]
    dsimp only
    have hvalid' : SettlementUsage.validate { u with
        billableInputTokens := c.tokens.promptTokens.getD 0
        billableOutputTokens := c.tokens.completionTokens.getD 0 } = .ok () := by
      unfold SettlementUsage.validate at hvalid ⊢
      split_ifs at hvalid
      exact if_neg (by dsimp only; omega)
    rw [hvalid']
    exact ⟨_, rfl, rfl⟩

theorem recordDue_closed {now : ℤ} {rows : List VerdictRow} (h : ∀ row ∈ rows, row.closed = true) :
    recordDue v env scope req now rows b = (.ok (), b) := by
  induction rows with
  | nil => rfl
  | cons row rows ih =>
    have hclosed := h row List.mem_cons_self
    unfold recordDue
    rw [if_neg (by simp [due, hclosed])]
    exact ih fun x hx => h x (List.mem_cons_of_mem row hx)

theorem finality_closed {now : ℤ} (hscope : scope ≠ "") (hrequest : req ≠ "")
    (h : ∀ row ∈ requestSettlementVerdicts env scope req b, row.closed = true) :
    Finality.requestSettlementFinality v env scope req now b = (finalityOf env scope req b, b) := by
  unfold Finality.requestSettlementFinality
  rw [if_neg hscope, if_neg hrequest, recordDue_closed h]

/-- **When a request closes.** A request whose verdicts are all closed under one policy gets a
closed answer with the charged tokens exactly if `Closes`. -/
theorem closed_parts_close_iff (hinj : Function.Injective env.scopeHash)
    (hb : Reaches (step v env) (fun _ _ => True) .empty b) (now : ℤ)
    (hrows : requestSettlementVerdicts env scope req b ≠ [])
    (hclosed : ∀ row ∈ requestSettlementVerdicts env scope req b, row.closed = true)
    (hpolicy : ∀ row ∈ requestSettlementVerdicts env scope req b,
      ∀ row' ∈ requestSettlementVerdicts env scope req b,
        row.policyVersion = row'.policyVersion ∧ row.mode = row'.mode) :
    (∃ f, (Finality.requestSettlementFinality v env scope req now b).1 =
        .ok (some f) ∧ f.closed = true ∧ f.tally.pendingAttempts = 0 ∧
      (f.outcome = .of .verified →
        f.totalTokens = settledTokens env scope req b)) ↔
      Closes env scope req b := by
  have hgrounded := reaches_grounded hb
  have hready : ∀ row ∈ requestSettlementVerdicts env scope req b,
      Ready env scope req b row :=
    fun row hrow => ready_of_grounded hgrounded hinj hrow (hclosed row hrow)
  have hnames : scope ≠ "" ∧ req ≠ "" := by
    obtain ⟨row, hrow⟩ := List.exists_mem_of_ne_nil _ hrows
    obtain ⟨hmem, hscope, hrequest⟩ := mem_requestSettlementVerdicts.mp hrow
    have hfind : b.verdicts.find? row.key ≠ none := by
      rw [Table.find?_eq_some.mpr ⟨hmem, rfl⟩]
      exact Option.some_ne_none row
    obtain ⟨⟨_, hne, hhash⟩, hq⟩ := hgrounded.named row.key hfind
    exact ⟨hinj (hhash.trans hscope) ▸ hne, hrequest ▸ hq⟩
  rw [finality_closed hnames.1 hnames.2 hclosed]
  constructor
  · rintro ⟨f, hf, hfclosed, -⟩
    rcases finalityOf_ok hf with ⟨-, hopen⟩ | ⟨policyVersion, mode, hread, rfl⟩
    · rw [hopen] at hfclosed
      cases hfclosed
    obtain ⟨hclear, -, hdecides⟩ := ready_foldl fun row hrow =>
      ⟨hready row hrow, (hread row hrow).2⟩
    rw [(rowsFinality_answers _ _).closed, decide_eq_true_eq, ladder_ne_pending hclear] at hfclosed
    exact ⟨fun row hrow => (hready row hrow).readable_iff.mp (hread row hrow).2,
      hdecides.mp hfclosed⟩
  · rintro ⟨hcredit, hrow⟩
    have hread : ∀ row ∈ requestSettlementVerdicts env scope req b,
        Readable env scope req b row :=
      fun row hrow => (hready row hrow).readable_iff.mpr (hcredit row hrow)
    obtain ⟨first, hfirst⟩ := List.exists_mem_of_ne_nil _ hrows
    have hanswers := @rowsFinality_answers first.policyVersion first.mode req
      ((requestSettlementVerdicts env scope req b).map
        (rate env scope req b))
    obtain ⟨hclear, htokens, hdecides⟩ := ready_foldl fun row hrow =>
      ⟨hready row hrow, hread row hrow⟩
    refine ⟨_, finalityOf_rated hrows fun row hrow => ⟨hpolicy row hrow first hfirst,
      hread row hrow⟩, ?_, ?_, fun _ => ?_⟩
    · rw [hanswers.closed, decide_eq_true_eq, ladder_ne_pending hclear]
      exact hdecides.mpr hrow
    · rw [hanswers.tally]
      exact hclear.1
    · rw [hanswers.total, if_neg (by simp [hclear.1])]
      exact htokens

end Request

def demoPaid (cached : Option ℤ) : List Op :=
  [.writeHotPath (some "acct") (demoRow cached) { demoInput cached with stickyResult := "miss" },
    .insertRouteSnapshot demoRoute, .insertSettlementAttemptOutput demoOutput,
    .ingestSettlementReceipt ⟨"acct", "req", 0, "p"⟩ "header" "pubkey" 2]

def demoBooks (ops : List Op) : Books := run (step demoReceipts demoEnv) .empty ops

theorem quarantined_credit_never_closes :
    ((requestSettlementVerdicts demoEnv "acct" "req" (demoBooks (demoPaid (some 1500)))).map
        fun row => (row.closed, row.outcome)) = [(true, .verified)] ∧
      ∀ now, (Finality.requestSettlementFinality demoReceipts demoEnv "acct" "req" now
        (demoBooks (demoPaid (some 1500)))).1 = .error (.usageMissing "req" 0 "p") := by
  have hclosed : ∀ row ∈ requestSettlementVerdicts demoEnv "acct" "req"
      (demoBooks (demoPaid (some 1500))), row.closed = true := by decide +kernel
  refine ⟨by decide +kernel, fun now => ?_⟩
  rw [finality_closed (by decide) (by decide) hclosed]
  decide +kernel

theorem charged_request_closes :
    ∃ f, (Finality.requestSettlementFinality demoReceipts demoEnv "acct" "req" 5
        (demoBooks (demoPaid none))).1 = .ok (some f) ∧ f.closed = true ∧
      f.tally.pendingAttempts = 0 ∧ (f.outcome = .of .verified →
        f.totalTokens = settledTokens demoEnv "acct" "req" (demoBooks (demoPaid none))) :=
  (closed_parts_close_iff (v := demoReceipts) (fun _ _ h => h)
    (reaches_run (fun _ _ => trivial) Books.empty (demoPaid none)) 5 (by decide +kernel)
    (by decide +kernel) (by decide +kernel)).mpr (by decide +kernel)

end MacProvider.Coordinator.Billing.Closing
