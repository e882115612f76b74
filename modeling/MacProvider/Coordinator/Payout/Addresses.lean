import MacProvider.Coordinator.Billing.Schema
import MacProvider.Coordinator.Evm.Transfers
import MacProvider.Lib.Runs

/-! # Payout addresses

`ServePayoutAddress` (`internal/payout/addresses.go`) registers the address of a provider, and
`SelectReadyPayouts` (`internal/payout/attempts.go`) takes it once its cooling-off is over, and its
predecessor until then. A rotation inside the cooling-off makes a pending address the
predecessor. -/

namespace MacProvider.Coordinator.Payout.Addresses

open Gateway.Time Lib.Tables Lib.Runs Billing.Schema Evm.Signing Evm.Transfers

/-- A row of `provider_payout_addresses`. -/
structure AddressRow where
  providerID : String
  address : String
  payoutAllowed : Bool
  pendingUntil : Option Instant
  rotatedFrom : Option String
  registeredAt : Instant
  registeredAgainstHotWallet : String

/-- Addresses, nonces seen, `registration_paused`. -/
structure Registry where
  addresses : Table AddressRow.providerID
  nonces : List (String × String)
  paused : Bool

/-! ### The handler -/

/-- The body of a request. -/
structure Body where
  chain : String
  address : String
  nonce : String
  tsUtc : ℕ
  signature : String

/-- Provider of the path, subject of a valid token, readable body. -/
structure Request where
  providerID : String
  subject : Option String
  body : Option Body

/-- What a signature is over. -/
structure EIP712Inputs where
  providerID : String
  canonicalAddr : String
  chain : String
  nonce : String
  tsUtc : ℕ
  verifyingContract : String

/-- Its configuration, and the checks of others. -/
structure Service where
  crypto : Crypto
  hotWallet : String
  coolingOff : ℕ
  denied : String → Bool
  hasActiveToken : String → Bool
  verifyEIP712 : EIP712Inputs → String → Bool

/-- A reply. -/
structure Reply where
  status : ℕ
  code : String

/-- The form of a provider's name. -/
def isProviderID (s : String) : Bool :=
  1 ≤ s.length && s.length ≤ 128 && s.toList.all fun c => c.isAlphanum || c == '_' || c == '-'

/-- `DecodeNonce32`, in the form the table keeps. -/
def decodeNonce32 (s : String) : Option String :=
  match s.toList with
  | '0' :: x :: hex =>
    if hex.length = 64 ∧ (x = 'x' ∨ x = 'X') ∧ isHexAlphabet hex then
      some (String.ofList ('0' :: 'x' :: hex.map Char.toLower))
    else none
  | _ => none

/-- How far a timestamp may be off. -/
def timestampSkewBound : ℕ := minutes 5

/-- The canonical address and the nonce. -/
def checkRequest (svc : Service) (now : Instant) (paused : Bool) (req : Request) :
    Except Reply (String × String) :=
  if paused then .error ⟨503, "rotation_in_progress"⟩
  else match req.subject with
  | none => .error ⟨401, "unauthorized"⟩
  | some subject =>
    if subject ≠ req.providerID then .error ⟨403, "forbidden"⟩
    else match req.body with
    | none => .error ⟨400, "bad_format"⟩
    | some body =>
      if body.chain = "" ∨ body.address = "" ∨ body.nonce = "" ∨ body.signature = "" ∨
          body.tsUtc = 0 then .error ⟨400, "missing_field"⟩
      else if body.chain ≠ "base-mainnet" then .error ⟨400, "chain_mismatch"⟩
      else match parseAndCanonicalizeEIP55 svc.crypto body.address with
      | .error (.error "checksum_mismatch") => .error ⟨400, "checksum_mismatch"⟩
      | .error _ => .error ⟨400, "bad_format"⟩
      | .ok hex =>
        let canonical := String.ofList ('0' :: 'x' :: hex)
        if !isProviderID req.providerID then .error ⟨400, "bad_provider_id"⟩
        else if !svc.hasActiveToken req.providerID then .error ⟨400, "unknown_provider"⟩
        else if svc.denied canonical then .error ⟨400, "denylist"⟩
        else if seconds body.tsUtc + timestampSkewBound < now ∨
            now + timestampSkewBound < seconds body.tsUtc then .error ⟨400, "signature_skew"⟩
        else match decodeNonce32 body.nonce with
        | none => .error ⟨400, "missing_field"⟩
        | some nonce =>
          let inputs := EIP712Inputs.mk req.providerID canonical body.chain nonce body.tsUtc
            svc.hotWallet
          if svc.verifyEIP712 inputs body.signature then .ok (canonical, nonce)
          else .error ⟨400, "signature_mismatch"⟩

/-- The address becomes the predecessor. -/
def AddressRow.rotate (svc : Service) (now : Instant) (canonical : String) (r : AddressRow) :
    AddressRow :=
  { r with address := canonical, pendingUntil := some (now + svc.coolingOff),
           rotatedFrom := some r.address, registeredAt := now,
           registeredAgainstHotWallet := svc.hotWallet }

/-- The row of a first registration. -/
def firstRow (svc : Service) (now : Instant) (providerID canonical : String) : AddressRow :=
  { providerID, address := canonical, payoutAllowed := true,
    pendingUntil := some (now + svc.coolingOff), rotatedFrom := none, registeredAt := now,
    registeredAgainstHotWallet := svc.hotWallet }

/-- The transaction: pause flag, nonce, and the row. -/
def writeAddress (svc : Service) (now : Instant) (providerID canonical nonce : String)
    (s : Registry) : Except Reply (Reply × Registry) :=
  let key := (canonical.toLower, nonce)
  if s.paused then .error ⟨503, "rotation_in_progress"⟩
  else if key ∈ s.nonces then .error ⟨400, "nonce_replayed"⟩
  else match s.addresses.find? providerID with
  | some r =>
    if r.address = "" then .error ⟨500, "internal_error"⟩
    else if !r.payoutAllowed then .error ⟨409, "payout_not_allowed"⟩
    else .ok (⟨200, "ok"⟩,
      { s with
        nonces := s.nonces ++ [key]
        addresses := s.addresses.update (fun r => r.providerID = providerID)
          (AddressRow.rotate svc now canonical) fun _ => rfl })
  | none =>
    match s.addresses.insert (firstRow svc now providerID canonical) with
    | some t => .ok (⟨201, "created"⟩, { s with nonces := s.nonces ++ [key], addresses := t })
    | none => .error ⟨500, "internal_error"⟩

/-- The reply, and the address and tables if accepted. -/
def servePayoutAddress (svc : Service) (now : Instant) (req : Request) (s : Registry) :
    Except Reply (Reply × String × Registry) :=
  match checkRequest svc now s.paused req with
  | .error e => .error e
  | .ok (canonical, nonce) =>
    match writeAddress svc now req.providerID canonical nonce s with
    | .error e => .error e
    | .ok (reply, s') => .ok (reply, canonical, s')

/-- A ready payout with its address. -/
structure ReadyRow where
  payoutID : ℕ
  providerID : String
  grossCredits : ℤ
  providerCredits : ℤ
  effectiveAddress : Option String
deriving DecidableEq

/-- `ppa.pending_until_utc > now`. -/
def pending (now : Instant) (r : AddressRow) : Bool :=
  r.pendingUntil.any fun p => decide (encodeTime now < encodeTime p)

/-- The predecessor while the address is pending. -/
def effectiveAddress (now : Instant) (r : AddressRow) : Option String :=
  if pending now r then r.rotatedFrom else some r.address

/-- A ready payout joined with its address. -/
def readyRow (addresses : Table AddressRow.providerID) (hotWallet : String) (now : Instant)
    (p : Payout) : Option ReadyRow :=
  match addresses.find? p.providerID with
  | none => none
  | some r =>
    if p.status = .ready ∧ r.payoutAllowed ∧ r.registeredAgainstHotWallet = hotWallet ∧
        (pending now r = false ∨ r.rotatedFrom ≠ none) then
      some { payoutID := p.id, providerID := p.providerID, grossCredits := p.grossCredits,
             providerCredits := p.providerCredits,
             effectiveAddress := effectiveAddress now r }
    else none

/-- `ORDER BY lpr.id ASC LIMIT ?`. -/
def selectReadyPayouts (payouts : Table Payout.id) (addresses : Table AddressRow.providerID)
    (hotWallet : String) (now : Instant) (limit : ℕ) : List ReadyRow :=
  ((payouts.rows.insertionSort fun a b => a.id ≤ b.id).filterMap
    (readyRow addresses hotWallet now)).take limit

/-! ### Runs of requests -/

/-- An accepted registration. -/
structure Registration where
  providerID : String
  address : String
  acceptedAt : Instant

/-- The tables, the clock and what was accepted. -/
structure State where
  registry : Registry
  clock : Instant
  /-- The accepted registrations, which the tables do not keep. -/
  accepted : List Registration

/-- Nothing is registered. -/
def State.initial (clock : Instant) : State :=
  { registry := { addresses := .empty, nonces := [], paused := false }, clock, accepted := [] }

/-- What happens. -/
inductive Action
  | tick (d : ℕ)
  | pause (b : Bool)
  | request (req : Request)

/-- One action. -/
def step (svc : Service) (s : State) : Action → State
  | .tick d => { s with clock := s.clock + d }
  | .pause b => { s with registry := { s.registry with paused := b } }
  | .request req =>
    match servePayoutAddress svc s.clock req s.registry with
    | .error _ => s
    | .ok (_, canonical, t) =>
      { s with registry := t, accepted := s.accepted ++ [⟨req.providerID, canonical, s.clock⟩] }

/-- Accepted a cooling-off or more before `t`. -/
def Cooled (svc : Service) (s : State) (providerID address : String) (t : Instant) : Prop :=
  ∃ r ∈ s.accepted, r.providerID = providerID ∧ r.address = address ∧
    r.acceptedAt + svc.coolingOff ≤ t

instance (svc : Service) (s : State) (providerID address : String) (t : Instant) :
    Decidable (Cooled svc s providerID address t) := by
  unfold Cooled; infer_instance

/-- A request that rotates finds the address cooled off. -/
def RotatesCooled (svc : Service) (s : State) : Action → Prop
  | .request req => (servePayoutAddress svc s.clock req s.registry).isOk = true →
      ∀ r ∈ s.registry.addresses.find? req.providerID, Cooled svc s r.providerID r.address s.clock
  | _ => True

instance (svc : Service) (s : State) : ∀ a, Decidable (RotatesCooled svc s a)
  | .request _ => inferInstanceAs (Decidable (_ → ∀ r ∈ _, _))
  | .tick _ => .isTrue trivial
  | .pause _ => .isTrue trivial

/-! ### The rows in a run -/

/-- It was accepted, and its predecessor has cooled off. -/
structure RowOk (svc : Service) (s : State) (r : AddressRow) : Prop where
  address : ∃ at', ⟨r.providerID, r.address, at'⟩ ∈ s.accepted ∧
    r.pendingUntil = some (at' + svc.coolingOff)
  predecessor : ∀ a, r.rotatedFrom = some a → Cooled svc s r.providerID a s.clock

section Run
variable {svc : Service} {s s' : State}

theorem Cooled.mono {providerID address : String} {t t' : Instant}
    (h : Cooled svc s providerID address t) (hacc : ∀ r ∈ s.accepted, r ∈ s'.accepted)
    (ht : t ≤ t') : Cooled svc s' providerID address t' := by
  obtain ⟨r, hr, hp, ha, hc⟩ := h
  exact ⟨r, hacc r hr, hp, ha, le_trans hc ht⟩

theorem RowOk.mono {r : AddressRow} (h : RowOk svc s r)
    (hacc : ∀ r ∈ s.accepted, r ∈ s'.accepted) (ht : s.clock ≤ s'.clock) : RowOk svc s' r := by
  obtain ⟨at', ha, hp⟩ := h.address
  exact ⟨⟨at', hacc _ ha, hp⟩, fun a hrot => (h.predecessor a hrot).mono hacc ht⟩

/-- **What an accepted request leaves**: a first row or a rotated one. -/
theorem servePayoutAddress_rows {now : Instant} {req : Request} {t u : Registry} {reply : Reply}
    {canonical : String} (h : servePayoutAddress svc now req t = .ok (reply, canonical, u)) :
    ∀ r ∈ u.addresses.rows, r ∈ t.addresses.rows ∨
      r = firstRow svc now req.providerID canonical ∨
      ∃ r₀, t.addresses.find? req.providerID = some r₀ ∧ r = r₀.rotate svc now canonical := by
  unfold servePayoutAddress at h
  split at h
  · cases h
  split at h
  · cases h
  rename_i reply' u' hw
  cases h
  unfold writeAddress at hw
  dsimp only at hw
  split_ifs at hw
  split at hw
  · split_ifs at hw
    cases hw
    intro r hr
    obtain ⟨x, hx, rfl⟩ := List.mem_map.mp hr
    split_ifs with hid
    · have hx₀ : t.addresses.find? req.providerID = some x :=
        Table.find?_eq_some.mpr ⟨hx, of_decide_eq_true hid⟩
      exact Or.inr (Or.inr ⟨x, hx₀, rfl⟩)
    · exact Or.inl hx
  · split at hw
    · rename_i t' ht'
      cases hw
      intro r hr
      rw [(Table.insert_eq_some ht').2, List.mem_append, List.mem_singleton] at hr
      exact hr.imp id Or.inl
    · cases hw

theorem rowOk_step {a : Action} (hok : RotatesCooled svc s a)
    (h : ∀ r ∈ s.registry.addresses.rows, RowOk svc s r) :
    ∀ r ∈ (step svc s a).registry.addresses.rows, RowOk svc (step svc s a) r := by
  cases a with
  | tick d => exact fun r hr => (h r hr).mono (fun _ hx => hx) (Nat.le_add_right _ _)
  | pause b => exact fun r hr => (h r hr).mono (fun _ hx => hx) le_rfl
  | request req =>
    unfold step
    dsimp only
    split
    · exact h
    rename_i reply canonical t ht
    have hacc : ∀ r ∈ s.accepted, r ∈ s.accepted ++ [⟨req.providerID, canonical, s.clock⟩] :=
      fun r hr => List.mem_append_left _ hr
    intro r hr
    rcases servePayoutAddress_rows ht r hr with hr | rfl | ⟨r₀, hr₀, rfl⟩
    · exact (h r hr).mono hacc le_rfl
    · refine ⟨⟨s.clock, by simp [firstRow], rfl⟩, fun a ha => ?_⟩
      cases ha
    · have hkey : r₀.providerID = req.providerID := Table.key_of_find? hr₀
      refine ⟨⟨s.clock, by simp [AddressRow.rotate, hkey], rfl⟩, fun a ha => ?_⟩
      cases ha
      exact (hok (by rw [ht]; rfl) r₀ hr₀).mono hacc le_rfl

theorem rowOk_of_reaches {t₀ : Instant}
    (h : Reaches (step svc) (RotatesCooled svc) (State.initial t₀) s) :
    ∀ r ∈ s.registry.addresses.rows, RowOk svc s r := by
  refine reaches_induction (I := fun s => ∀ r ∈ s.registry.addresses.rows, RowOk svc s r) h ?_
    fun s a hs hok => rowOk_step hok hs
  intro r hr
  cases hr

theorem mem_selectReadyPayouts {payouts : Table Payout.id}
    {addresses : Table AddressRow.providerID} {hotWallet : String} {now : Instant} {limit : ℕ}
    {x : ReadyRow} (h : x ∈ selectReadyPayouts payouts addresses hotWallet now limit) :
    ∃ r ∈ addresses.rows, r.providerID = x.providerID ∧
      (pending now r = false ∧ x.effectiveAddress = some r.address ∨
        pending now r = true ∧ x.effectiveAddress = r.rotatedFrom ∧ r.rotatedFrom ≠ none) := by
  obtain ⟨p, -, hp⟩ := List.mem_filterMap.mp (List.mem_of_mem_take h)
  unfold readyRow at hp
  split at hp
  · cases hp
  rename_i r hr
  split_ifs at hp with hcond
  cases hp
  obtain ⟨hmem, hkey⟩ := Table.find?_eq_some.mp hr
  refine ⟨r, hmem, hkey, ?_⟩
  unfold effectiveAddress
  rcases hpend : pending now r with _ | _
  · exact Or.inl ⟨rfl, rfl⟩
  · refine Or.inr ⟨rfl, rfl, ?_⟩
    simpa [hpend] using hcond.2.2.2

/-- **Cooling-off**: in a run in which requests rotate cooled addresses only, the selected address
has cooled off, at times whose texts compare as they do. -/
theorem selected_address_has_cooled {t₀ : Instant}
    (h : Reaches (step svc) (RotatesCooled svc) (State.initial t₀) s)
    (payouts : Table Payout.id) (hotWallet : String) (limit : ℕ) {t : Instant} (ht : s.clock ≤ t)
    (horder : ∀ r ∈ s.registry.addresses.rows, ∀ p ∈ r.pendingUntil, OrderAgrees t p) :
    ∀ x ∈ selectReadyPayouts payouts s.registry.addresses hotWallet t limit,
      ∃ a, x.effectiveAddress = some a ∧ Cooled svc s x.providerID a t := by
  intro x hx
  obtain ⟨r, hr, hkey, hcase⟩ := mem_selectReadyPayouts hx
  have hok := rowOk_of_reaches h r hr
  rcases hcase with ⟨hpend, haddr⟩ | ⟨-, haddr, hne⟩
  · obtain ⟨at', hacc, hp⟩ := hok.address
    refine ⟨r.address, haddr, _, hacc, hkey, rfl, ?_⟩
    -- the deadline has passed as a text, so it has passed
    have htext : ¬ encodeTime t < encodeTime (at' + svc.coolingOff) := by
      rw [pending, hp, Option.any_some] at hpend
      exact of_decide_eq_false hpend
    exact not_lt.mp fun hlt => htext ((horder r hr _ hp).1.mpr hlt)
  · obtain ⟨a, ha⟩ := Option.ne_none_iff_exists'.mp hne
    have hcool := (hok.predecessor a ha).mono (fun _ h => h) ht
    exact ⟨a, haddr.trans ha, hkey ▸ hcool⟩

end Run

/-! ### Two runs -/

section Examples

/-- A service to which everything is valid. -/
def demoService : Service :=
  { crypto := { keccak := id, signCompact := id, recoverCompact := fun _ _ => .error "" }
    hotWallet := "0x1111111111111111111111111111111111111111"
    coolingOff := hours 24
    denied := fun _ => false
    hasActiveToken := fun _ => true
    verifyEIP712 := fun _ _ => true }

/-- Of provider `p`; `c` is the digit of address and nonce. -/
def demoRequest (c : Char) (now : Instant) : Request :=
  { providerID := "p"
    subject := some "p"
    body := some
      { chain := "base-mainnet"
        address := String.ofList ('0' :: 'x' :: List.replicate 40 c)
        nonce := String.ofList ('0' :: 'x' :: List.replicate 64 c)
        tsUtc := now / nanosPerSecond
        signature := "0x00" } }

def demoPayout : Table Payout.id :=
  ⟨[{ id := 1, providerID := "p", windowStart := 0, windowEnd := 1, sourceCreditCount := 1,
      grossCredits := 100, providerCredits := 90, operatorCredits := 10, minPayoutCredits := 1,
      payoutCurrency := none, payoutExternalID := none, status := .ready, createdAt := 1 }],
    List.nodup_singleton _⟩

/-- 2026-01-01. -/
def newYear : Instant := seconds 1767225600

def demoAddress (c : Char) : String := String.ofList ('0' :: 'x' :: List.replicate 40 c)

/-- Register `2`, rotate to `3` after `d`. -/
def demoRotation (d : ℕ) : List Action :=
  [.request (demoRequest '2' newYear), .tick d, .request (demoRequest '3' (newYear + d))]

/-- Registered half a second behind a full second; it ends on a full second. -/
def demoEarly : List Action :=
  [.tick (nanosPerSecond / 2), .request (demoRequest '2' newYear),
    .tick (hours 24 - nanosPerSecond / 2)]

/-- The addresses selected behind actions. -/
def demoSelected (as : List Action) : List (Option String) :=
  let s := run (step demoService) (State.initial newYear) as
  (selectReadyPayouts demoPayout s.registry.addresses demoService.hotWallet s.clock 1).map
    ReadyRow.effectiveAddress

def demoCooled (as : List Action) : Prop :=
  let s := run (step demoService) (State.initial newYear) as
  Cooled demoService s "p" (demoAddress '2') s.clock

instance (as : List Action) : Decidable (demoCooled as) := by unfold demoCooled; infer_instance

/-- A rotation after an hour selects the first address at once; and one is selected half a second
early. -/
theorem pending_address_is_selected :
    (demoSelected (demoRotation (hours 1)) = [some (demoAddress '2')] ∧
      ¬ demoCooled (demoRotation (hours 1))) ∧
    (demoSelected demoEarly = [some (demoAddress '2')] ∧ ¬ demoCooled demoEarly) := by
  decide +kernel

theorem selected_address_has_cooled_after_a_day :
    let s := run (step demoService) (State.initial newYear) (demoRotation (hours 24))
    selectReadyPayouts demoPayout s.registry.addresses demoService.hotWallet s.clock 1 =
        [⟨1, "p", 100, 90, some (demoAddress '2')⟩] ∧
      ∃ a, some (demoAddress '2') = some a ∧ Cooled demoService s "p" a s.clock := by
  intro s
  have hrun : Allowed (step demoService) (RotatesCooled demoService) (State.initial newYear)
      (demoRotation (hours 24)) := by decide +kernel
  have horder : ∀ r ∈ s.registry.addresses.rows, ∀ p ∈ r.pendingUntil, OrderAgrees s.clock p := by
    decide +kernel
  have hsel : selectReadyPayouts demoPayout s.registry.addresses demoService.hotWallet s.clock 1 =
      [⟨1, "p", 100, 90, some (demoAddress '2')⟩] := by decide +kernel
  have hcooled := selected_address_has_cooled (reaches_of_allowed hrun) demoPayout
    demoService.hotWallet 1 le_rfl horder
  exact ⟨hsel, hcooled ⟨1, "p", 100, 90, some (demoAddress '2')⟩ (by rw [hsel]; simp)⟩

end Examples

end MacProvider.Coordinator.Payout.Addresses
