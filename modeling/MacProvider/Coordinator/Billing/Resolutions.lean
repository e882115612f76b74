import MacProvider.Coordinator.Billing.Conservation

/-! # Force resolutions

`forceResolutionHandler` (`internal/billing/quarantine.go`): `force_void` keeps a quarantined credit
out of the settlements, `force_credit` lets it in behind a hold. An opposite decision may correct it
before a deadline. The hold is read twice, and a reload may change it in between. -/

namespace MacProvider.Coordinator.Billing.Resolutions

open Gateway.Time Lib.Tables Lib.Runs Billing.Schema Billing.Settlement Billing.Conservation

/-! ### The handler -/

/-- The ledger, `correction_deadline_at_utc` by id, and the last time. -/
structure Desk where
  ledger : Ledger
  deadlines : ℕ → Instant
  clock : Instant

/-- It has passed the dispatcher. `bodyError` refuses its body; the holds are those read for
maturity and deadline. -/
structure Request where
  creditID : ℕ
  kind : ResolutionKind
  bodyError : Option String
  now : Instant
  maturityHold : ℤ
  deadlineHold : ℤ

/-- Why a decision is refused. -/
inductive ResolutionError
  | invalidBody (code : String)
  | notFound
  | notQuarantined
  | alreadyResolved
  | resolutionLocked

/-- The hold if none is stored. -/
def defaultForceCreditSettlementHoldSeconds : ℤ := 24 * 60 * 60

/-- The hold in seconds. -/
def forceCreditSettlementHoldSeconds (stored : ℤ) : ℤ :=
  if stored ≤ 0 then defaultForceCreditSettlementHoldSeconds else stored

/-- The product of `now.Add` is an `int64`. -/
def afterHold (now : Instant) (stored : ℤ) : Instant :=
  ((now : ℤ) + (forceCreditSettlementHoldSeconds stored * nanosPerSecond).bmod (2 ^ 64)).toNat

/-- When the credit can be settled. -/
def Request.maturesAt (req : Request) : Instant := afterHold req.now req.maturityHold

/-- Until when it can be corrected. -/
def Request.correctionDeadlineAt (req : Request) : Instant := afterHold req.now req.deadlineHold

/-- The decisions about the credit. -/
def resolutionsOf (l : Ledger) (creditID : ℕ) : List Resolution :=
  l.evidence.resolutions.filter fun r => r.requestCreditID = creditID

/-- The id of the next decision. -/
def nextResolutionID (l : Ledger) : ℕ := (l.evidence.resolutions.map Resolution.id).foldl max 0 + 1

/-- The decision. -/
def Request.resolution (req : Request) (l : Ledger) : Resolution where
  id := nextResolutionID l
  requestCreditID := req.creditID
  kind := req.kind
  createdAt := req.now
  forceCreditMaturesAt := if req.kind = .forceCredit then some req.maturesAt else none

/-- It is stored. -/
def record (req : Request) (d : Desk) : Desk :=
  { d with
    ledger := { d.ledger with
      evidence := { d.ledger.evidence with
        resolutions := d.ledger.evidence.resolutions ++ [req.resolution d.ledger] } }
    deadlines := Function.update d.deadlines (nextResolutionID d.ledger) req.correctionDeadlineAt }

/-- One transaction; a refusal has no effect. -/
def forceResolutionHandler (req : Request) (d : Desk) : Except ResolutionError Desk :=
  match req.bodyError, d.ledger.credits.find? req.creditID with
  | some code, _ => .error (.invalidBody code)
  | none, none => .error .notFound
  | none, some c =>
    if c.quarantined then
      match d.ledger.evidence.latestResolution req.creditID with
      | none => .ok (record req d)
      | some existing =>
        if existing.kind = req.kind ∨ 2 ≤ (resolutionsOf d.ledger req.creditID).length then
          .error .alreadyResolved
        else if req.now < d.deadlines existing.id then .ok (record req d)
        else .error .resolutionLocked
    else .error .notQuarantined

/-- Decisions and settlements. -/
inductive Op
  | resolve (req : Request)
  | runSettlement (cfg : SettlementConfig) (windowStart windowEnd now : Instant)

/-- The time of the operation. -/
def Op.now : Op → Instant
  | .resolve req => req.now
  | .runSettlement _ _ _ now => now

/-- What an operation does. -/
def step (d : Desk) : Op → Desk
  | .resolve req =>
    match forceResolutionHandler req d with
    | .ok d' => { d' with clock := req.now }
    | .error _ => { d with clock := req.now }
  | .runSettlement cfg windowStart windowEnd now =>
    { d with ledger := runSettlement cfg windowStart windowEnd now d.ledger, clock := now }

section Settlement
variable {cfg : SettlementConfig} {start stop now : Instant} {l : Ledger} {k : ℕ}
  {c : Credit}

/-- **A quarantined credit stays**, unless a `force_credit` has matured. -/
theorem runSettlement_quarantined (hc : l.credits.find? k = some c) (hq : c.quarantined = true) :
    (runSettlement cfg start stop now l).evidence = l.evidence ∧
      ((runSettlement cfg start stop now l).credits.find? k = some c ∨
        ∃ id m, (runSettlement cfg start stop now l).credits.find? k =
            some (linkCredit id c) ∧
          l.evidence.forceCreditMaturity k = some m ∧ m ≤ now) := by
  have hcleared : (cleared stop l).credits.find? k = some c :=
    (cleared_credit hc).resolve_right (by simp [hq])
  refine ⟨runSettlement_evidence, ?_⟩
  rcases @runSettlement_credit cfg start stop now l k with
    hsame | ⟨x, hx, id, hfind, hlink⟩
  · exact Or.inl (hsame.trans hcleared)
  · obtain rfl := Option.some.inj (hfind.symm.trans hcleared)
    obtain rfl := Table.key_of_find? hfind
    have hdue := (List.mem_filter.mp hx).2
    simp only [Bool.and_eq_true] at hdue
    have hrel := hdue.1.1.2
    unfold Evidence.released at hrel
    rw [hq] at hrel
    have hany : (l.evidence.forceCreditMaturity x.id).any (fun m => decide (m ≤ now)) = true := hrel
    rcases hm : l.evidence.forceCreditMaturity x.id with _ | m
    · rw [hm] at hany
      cases hany
    · rw [hm] at hany
      exact Or.inr ⟨id, m, hlink, rfl, of_decide_eq_true hany⟩

end Settlement

/-! ### The last resolution -/

section Latest
variable {l : Ledger} {k : ℕ} {r r' : Resolution}

theorem latestResolution_nil (h : resolutionsOf l k = []) :
    l.evidence.latestResolution k = none := by
  unfold resolutionsOf at h
  unfold Evidence.latestResolution
  rw [h]
  rfl

theorem latestResolution_one (h : resolutionsOf l k = [r]) :
    l.evidence.latestResolution k = some r := by
  unfold resolutionsOf at h
  unfold Evidence.latestResolution
  rw [h]
  rfl

theorem latestResolution_two (h : resolutionsOf l k = [r, r']) (hid : r.id < r'.id)
    (hle : r.createdAt ≤ r'.createdAt) : l.evidence.latestResolution k = some r' := by
  unfold resolutionsOf at h
  unfold Evidence.latestResolution
  rw [h]
  have hlater : r.createdAt < r'.createdAt ∨ (r.createdAt = r'.createdAt ∧ r.id < r'.id) :=
    (Nat.lt_or_eq_of_le hle).imp_right fun he => ⟨he, hid⟩
  simp only [List.foldl_cons, List.foldl_nil, if_pos hlater]

theorem forceCreditMaturity_some {m : Instant} (h : l.evidence.forceCreditMaturity k = some m)
    (hr : l.evidence.latestResolution k = some r) :
    r.kind = .forceCredit ∧ r.forceCreditMaturesAt = some m := by
  unfold Evidence.forceCreditMaturity at h
  rw [hr, Option.bind_some] at h
  split_ifs at h with hk
  exact ⟨hk, h⟩

theorem lt_nextResolutionID (h : r ∈ resolutionsOf l k) : r.id < nextResolutionID l := by
  exact lt_max_succ (List.mem_map_of_mem (List.mem_of_mem_filter h))

variable {req : Request} {d : Desk}

theorem resolutionsOf_record (k : ℕ) : resolutionsOf (record req d).ledger k =
    if req.creditID = k then resolutionsOf d.ledger k ++ [req.resolution d.ledger]
    else resolutionsOf d.ledger k := by
  unfold resolutionsOf record
  split_ifs with hk
  · simp [Request.resolution, hk]
  · simp [Request.resolution, hk]

theorem deadlines_record (h : r ∈ resolutionsOf d.ledger k) :
    (record req d).deadlines r.id = d.deadlines r.id :=
  Function.update_of_ne (lt_nextResolutionID h).ne _ _

end Latest

/-- **What is accepted**: a first resolution, or the opposite one before its deadline. -/
theorem forceResolutionHandler_ok {req : Request} {d d' : Desk}
    (h : forceResolutionHandler req d = .ok d') :
    d' = record req d ∧ ∀ r, d.ledger.evidence.latestResolution req.creditID = some r →
      r.kind ≠ req.kind ∧ (resolutionsOf d.ledger req.creditID).length < 2 ∧
        req.now < d.deadlines r.id := by
  unfold forceResolutionHandler at h
  split at h
  · cases h
  · cases h
  · split at h
    · split at h
      · next hnone =>
        cases h
        exact ⟨rfl, fun r hr => by rw [hnone] at hr; cases hr⟩
      · next existing hsome =>
        split at h
        · cases h
        · next hfree =>
          split at h
          · next hopen =>
            cases h
            refine ⟨rfl, fun r hr => ?_⟩
            obtain rfl : existing = r := Option.some.inj (hsome.symm.trans hr)
            obtain ⟨hkind, hcount⟩ := not_or.mp hfree
            exact ⟨hkind, Nat.lt_of_not_le hcount, hopen⟩
          · cases h
    · cases h

/-- The resolutions of `k`, and what a settlement knew. -/
inductive Stage (k : ℕ) (taken : Prop) (d : Desk) : Prop
  | undecided (rows : resolutionsOf d.ledger k = []) (free : ¬ taken)
  | decided (r : Resolution) (rows : resolutionsOf d.ledger k = [r])
      (created : r.createdAt ≤ d.clock)
      (hold : ∀ m, r.forceCreditMaturesAt = some m → d.deadlines r.id ≤ m)
      (locked : taken → r.kind = .forceCredit ∧ d.deadlines r.id ≤ d.clock)
  | corrected (r r' : Resolution) (rows : resolutionsOf d.ledger k = [r, r'])
      (opposite : r.kind ≠ r'.kind) (created : r.createdAt ≤ r'.createdAt) (id : r.id < r'.id)
      (credited : taken → r'.kind = .forceCredit)

section Stages
variable {k : ℕ} {taken taken' : Prop} {d d' : Desk} {req : Request}

theorem Stage.mono (h : Stage k taken d) (ht : taken' → taken) : Stage k taken' d := by
  cases h with
  | undecided rows free => exact .undecided rows fun h => free (ht h)
  | decided r rows created hold locked =>
    exact .decided r rows created hold fun h => locked (ht h)
  | corrected r r' rows opposite created id credited =>
    exact .corrected r r' rows opposite created id fun h => credited (ht h)

theorem Stage.keep (h : Stage k taken d)
    (hrows : resolutionsOf d'.ledger k = resolutionsOf d.ledger k)
    (hdeadlines : ∀ r ∈ resolutionsOf d.ledger k, d'.deadlines r.id = d.deadlines r.id)
    (hclock : d.clock ≤ d'.clock) : Stage k taken d' := by
  cases h with
  | undecided rows free => exact .undecided (hrows.trans rows) free
  | decided r rows created hold locked =>
    have hr : d'.deadlines r.id = d.deadlines r.id :=
      hdeadlines r (rows ▸ List.mem_singleton_self r)
    refine .decided r (hrows.trans rows) (created.trans hclock) (fun m hm => hr ▸ hold m hm)
      fun ht => ⟨(locked ht).1, ?_⟩
    exact hr ▸ (locked ht).2.trans hclock
  | corrected r r' rows opposite created id credited =>
    exact .corrected r r' (hrows.trans rows) opposite created id credited

theorem Stage.take {m : Instant} (h : Stage k taken d)
    (hmature : d.ledger.evidence.forceCreditMaturity k = some m) (hm : m ≤ d.clock) :
    Stage k True d := by
  cases h with
  | undecided rows free =>
    unfold Evidence.forceCreditMaturity at hmature
    rw [latestResolution_nil rows] at hmature
    cases hmature
  | decided r rows created hold locked =>
    obtain ⟨hkind, hmatures⟩ := forceCreditMaturity_some hmature (latestResolution_one rows)
    exact .decided r rows created hold fun _ => ⟨hkind, (hold m hmatures).trans hm⟩
  | corrected r r' rows opposite created id credited =>
    have hlast := latestResolution_two rows id created
    exact .corrected r r' rows opposite created id fun _ =>
      (forceCreditMaturity_some hmature hlast).1

theorem Stage.record (h : Stage k taken d) (hk : req.creditID = k) (hclock : d.clock ≤ req.now)
    (hhold : req.kind = .forceCredit → req.correctionDeadlineAt ≤ req.maturesAt)
    (hok : ∀ r, d.ledger.evidence.latestResolution k = some r →
      r.kind ≠ req.kind ∧ (resolutionsOf d.ledger k).length < 2 ∧ req.now < d.deadlines r.id) :
    Stage k taken { record req d with clock := req.now } := by
  have hrows : resolutionsOf (Resolutions.record req d).ledger k =
      resolutionsOf d.ledger k ++ [req.resolution d.ledger] := by
    rw [resolutionsOf_record, if_pos hk]
  cases h with
  | undecided rows free =>
    rw [rows, List.nil_append] at hrows
    refine .decided _ hrows le_rfl (fun m hm => ?_) fun ht => absurd ht free
    simp only [Request.resolution, Option.ite_none_right_eq_some, Option.some.injEq] at hm
    obtain ⟨hkind, rfl⟩ := hm
    refine le_of_eq_of_le ?_ (hhold hkind)
    exact Function.update_self _ _ _
  | decided r rows created hold locked =>
    obtain ⟨hkind, _, hopen⟩ := hok r (latestResolution_one rows)
    have hmem : r ∈ resolutionsOf d.ledger k := rows ▸ List.mem_singleton_self r
    rw [rows] at hrows
    refine .corrected r _ hrows hkind (created.trans hclock) (lt_nextResolutionID hmem) fun ht => ?_
    -- the credit has been taken: its deadline has passed
    exact absurd hopen (Nat.not_lt_of_le ((locked ht).2.trans hclock))
  | corrected r r' rows opposite created id credited =>
    obtain ⟨_, hcount, _⟩ := hok r' (latestResolution_two rows id created)
    rw [rows] at hcount
    exact absurd hcount (by simp)

end Stages

/-! ### Runs -/

/-- The deadline of a `force_credit` is not behind its maturity; the clock goes on. -/
def OneHold (d : Desk) (op : Op) : Prop :=
  d.clock ≤ op.now ∧ ∀ req, op = .resolve req → req.kind = .forceCredit →
    req.correctionDeadlineAt ≤ req.maturesAt

/-- What is true of `k`, which was `c₀`. -/
structure Tracked (k : ℕ) (c₀ : Credit) (d : Desk) (c : Credit) : Prop where
  row : d.ledger.credits.find? k = some c
  quarantined : c.quarantined = true
  stage : Stage k (c₀.settled = false ∧ c.settled = true) d

theorem step_tracked {k : ℕ} {c₀ c : Credit} {d : Desk} {op : Op} (h : Tracked k c₀ d c)
    (hok : OneHold d op) : ∃ c', Tracked k c₀ (step d op) c' := by
  cases op with
  | runSettlement cfg start stop now =>
    obtain ⟨hev, hrow⟩ := @runSettlement_quarantined cfg start stop now d.ledger k c
      h.row h.quarantined
    have hrows : resolutionsOf (step d (.runSettlement cfg start stop now)).ledger k =
        resolutionsOf d.ledger k := by
      dsimp only [resolutionsOf, step]
      rw [hev]
    have hstage : Stage k (c₀.settled = false ∧ c.settled = true)
        (step d (.runSettlement cfg start stop now)) :=
      h.stage.keep hrows (fun _ _ => rfl) hok.1
    rcases hrow with hsame | ⟨id, m, hlink, hmature, hm⟩
    · exact ⟨c, hsame, h.quarantined, hstage⟩
    · have hmature' : Evidence.forceCreditMaturity
          (step d (.runSettlement cfg start stop now)).ledger.evidence k = some m := by
        dsimp only [step]
        rw [hev]
        exact hmature
      exact ⟨linkCredit id c, hlink, h.quarantined, (hstage.take hmature' hm).mono fun _ => trivial⟩
  | resolve req =>
    have hclock : d.clock ≤ req.now := hok.1
    rcases hres : forceResolutionHandler req d with e | d'
    · have hstep : step d (.resolve req) = { d with clock := req.now } := by
        dsimp only [step]
        rw [hres]
      rw [hstep]
      exact ⟨c, h.row, h.quarantined, h.stage.keep rfl (fun _ _ => rfl) hclock⟩
    · obtain ⟨rfl, haccept⟩ := forceResolutionHandler_ok hres
      have hstep : step d (.resolve req) = { record req d with clock := req.now } := by
        dsimp only [step]
        rw [hres]
      rw [hstep]
      refine ⟨c, h.row, h.quarantined, ?_⟩
      by_cases hk : req.creditID = k
      · exact h.stage.record hk hclock (hok.2 req rfl) (hk ▸ haccept)
      · refine h.stage.keep ?_ (fun r hr => deadlines_record hr) hclock
        exact (resolutionsOf_record k).trans (if_neg hk)

/-- No further decision is accepted. -/
def Locked (k : ℕ) (d : Desk) : Prop :=
  ∀ req, req.creditID = k → d.clock ≤ req.now → ∃ e, forceResolutionHandler req d = .error e

/-- Resolutions of `k` and settlements do not cross; `settled` is since the start. -/
structure NotCrossed (k : ℕ) (d₀ d : Desk) : Prop where
  atMostTwo : (resolutionsOf d.ledger k).length ≤ 2
  opposite : (resolutionsOf d.ledger k).Pairwise fun r r' => r.kind ≠ r'.kind
  voided : ∀ r, d.ledger.evidence.latestResolution k = some r → r.kind = .forceVoid →
    ∀ cfg windowStart windowEnd now,
      (runSettlement cfg windowStart windowEnd now d.ledger).credits.find? k =
        d.ledger.credits.find? k
  settled : ∀ c₀ c, d₀.ledger.credits.find? k = some c₀ → d.ledger.credits.find? k = some c →
    c₀.settled = false → c.settled = true →
      (∃ r, d.ledger.evidence.latestResolution k = some r ∧ r.kind = .forceCredit) ∧ Locked k d

theorem Stage.locked {k : ℕ} {taken : Prop} {d : Desk} (h : Stage k taken d) (ht : taken) :
    (∃ r, d.ledger.evidence.latestResolution k = some r ∧ r.kind = .forceCredit) ∧ Locked k d := by
  -- an accepted request would find an open deadline and only one resolution
  have hlock : (∀ r, d.ledger.evidence.latestResolution k = some r →
      2 ≤ (resolutionsOf d.ledger k).length ∨ d.deadlines r.id ≤ d.clock) →
      (∃ r, d.ledger.evidence.latestResolution k = some r) → Locked k d := by
    intro hclosed ⟨r, hr⟩ req hk hclock
    subst hk
    rcases hres : forceResolutionHandler req d with e | d'
    · exact ⟨e, rfl⟩
    · obtain ⟨_, hcount, hopen⟩ := (forceResolutionHandler_ok hres).2 r hr
      rcases hclosed r hr with htwo | hpassed
      · exact absurd hcount (Nat.not_lt_of_le htwo)
      · exact absurd hopen (Nat.not_lt_of_le (hpassed.trans hclock))
  cases h with
  | undecided rows free => exact absurd ht free
  | decided r rows created hold locked =>
    obtain ⟨hkind, hpassed⟩ := locked ht
    have hlast := latestResolution_one rows
    refine ⟨⟨r, hlast, hkind⟩, hlock (fun r' hr' => Or.inr ?_) ⟨r, hlast⟩⟩
    obtain rfl : r = r' := Option.some.inj (hlast.symm.trans hr')
    exact hpassed
  | corrected r r' rows opposite created id credited =>
    have hlast := latestResolution_two rows id created
    exact ⟨⟨r', hlast, credited ht⟩, hlock (fun _ _ => Or.inl (by rw [rows]; simp)) ⟨r', hlast⟩⟩

theorem Tracked.notCrossed {k : ℕ} {c₀ c : Credit} {d₀ d : Desk} (h : Tracked k c₀ d c)
    (h₀ : d₀.ledger.credits.find? k = some c₀) : NotCrossed k d₀ d where
  atMostTwo := by
    rcases h.stage with ⟨rows, _⟩ | ⟨r, rows, _, _, _⟩ | ⟨r, r', rows, _, _, _, _⟩ <;> simp [rows]
  opposite := by
    rcases h.stage with ⟨rows, _⟩ | ⟨r, rows, _, _, _⟩ | ⟨r, r', rows, hne, _, _, _⟩
    · simp [rows]
    · simp [rows]
    · simpa [rows] using hne
  voided r hr hvoid cfg start stop now := by
    obtain ⟨_, hsame | ⟨_, m, _, hmature, _⟩⟩ := @runSettlement_quarantined cfg start stop
      now d.ledger k c h.row h.quarantined
    · exact hsame.trans h.row.symm
    · have hkind := (forceCreditMaturity_some hmature hr).1
      rw [hvoid] at hkind
      cases hkind
  settled c₀' c' hc₀ hc hfree hsettled := by
    obtain rfl : c₀ = c₀' := Option.some.inj (h₀.symm.trans hc₀)
    obtain rfl : c = c' := Option.some.inj (h.row.symm.trans hc)
    exact h.stage.locked ⟨hfree, hsettled⟩

/-- **Force resolutions and settlements do not cross** if the clock does not go back and deadlines
are not behind maturities. -/
theorem resolutions_do_not_cross {k : ℕ} {c₀ : Credit} {d₀ d : Desk}
    (h₀ : d₀.ledger.credits.find? k = some c₀) (hq : c₀.quarantined = true)
    (hnone : resolutionsOf d₀.ledger k = []) (h : Reaches step OneHold d₀ d) :
    NotCrossed k d₀ d := by
  have hstart : Tracked k c₀ d₀ c₀ :=
    ⟨h₀, hq, .undecided hnone fun ht => by rw [ht.1] at ht; cases ht.2⟩
  obtain ⟨c, hc⟩ := reaches_induction (I := fun d => ∃ c, Tracked k c₀ d c) h ⟨c₀, hstart⟩
    fun _ _ ⟨_, ht⟩ hok => step_tracked ht hok
  exact hc.notCrossed h₀

/-! ### A credit that is settled and then voided -/

def demoCredit : Credit :=
  { id := 1, requestID := "req-1", attemptN := 0, providerID := "mac-1", ts := 0,
    grossCredits := 100, providerCredits := 90, settled := false, settlementID := none,
    quarantined := true, quarantineReason := some "ambiguous_attempt_n", accountScopeHash := none,
    policyMode := .legacy, policyVersion := none }

def demoDesk : Desk where
  ledger :=
    { payouts := .empty, credits := ⟨[demoCredit], by decide⟩, operatorCredits := [],
      evidence := ⟨[], [], [], []⟩ }
  deadlines := fun _ => 0
  clock := 0

/-- At `time`, with two holds in seconds. -/
def demoRequest (kind : ResolutionKind) (time : ℕ) (maturityHold deadlineHold : ℤ) : Request :=
  { creditID := 1, kind, bodyError := none, now := seconds time, maturityHold, deadlineHold }

def demoSettlement (time : ℕ) : Op := .runSettlement ⟨0⟩ 0 (seconds 1) (seconds time)

/-- It is locked when settled. -/
theorem resolutions_do_not_cross_with_one_hold :
    NotCrossed 1 demoDesk (run step demoDesk
      [.resolve (demoRequest .forceCredit 100 10 10), demoSettlement 110,
        .resolve (demoRequest .forceVoid 110 10 10)]) :=
  @resolutions_do_not_cross 1 demoCredit demoDesk _ rfl rfl rfl <| reaches_of_allowed
    ⟨⟨by decide, fun _ h _ => by cases h; exact le_rfl⟩, ⟨by decide, fun _ h _ => by cases h⟩,
      ⟨by decide, fun _ h hk => by cases h; cases hk⟩, trivial⟩

/-- The hold is raised from 10 to 20 s between two reads: it matures, is settled, and is voided 5 s
later. -/
theorem force_void_behind_settlement :
    let settled := run step demoDesk
      [.resolve (demoRequest .forceCredit 100 10 20), demoSettlement 110]
    let voided := run step settled [.resolve (demoRequest .forceVoid 115 20 20)]
    (settled.ledger.credits.find? 1).map (fun c => c.settled) = some true ∧
      (forceResolutionHandler (demoRequest .forceVoid 115 20 20) settled).isOk = true ∧
      (voided.ledger.credits.find? 1).map (fun c => c.settled) = some true ∧
      (voided.ledger.evidence.latestResolution 1).map Resolution.kind = some .forceVoid := by
  decide +kernel

end MacProvider.Coordinator.Billing.Resolutions
