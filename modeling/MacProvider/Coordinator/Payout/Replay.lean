import MacProvider.Coordinator.Payout.Addresses

/-! # Replayed registrations

The nonce of a registration is kept for twice the skew of its timestamp. `PruneNonces`
(`internal/payout/addresses.go`) compares printed times, and a handler reads its clock before its
transaction, so a registration can be accepted again. -/

namespace MacProvider.Coordinator.Payout.Replay

open Gateway.Time Lib.Tables Lib.Runs Lib.Rlp Evm.Codec Evm.Transfers Payout.Addresses

/-! ### The nonces -/

/-- A nonce and when it was seen. -/
structure NonceRow where
  canonicalAddress : String
  nonce : String
  seenAt : Instant

/-- The primary key. -/
def NonceRow.key (r : NonceRow) : String × String := (r.canonicalAddress, r.nonce)

/-- The tables of the handler. -/
structure Tables where
  addresses : Table AddressRow.providerID
  nonces : Table NonceRow.key
  paused : Bool

/-- The tables without the times of the nonces. -/
def Tables.registry (t : Tables) : Registry :=
  { addresses := t.addresses, nonces := t.nonces.rows.map NonceRow.key, paused := t.paused }

/-- `writeAddress` with the time the nonce was seen. -/
def writeAddressSeen (svc : Service) (now : Instant) (providerID canonical nonce : String)
    (t : Tables) : Except Reply (Reply × Tables) :=
  match writeAddress svc now providerID canonical nonce t.registry with
  | .error e => .error e
  | .ok (reply, r) =>
    match t.nonces.insert ⟨canonical.toLower, nonce, now⟩ with
    | none => .error ⟨400, "nonce_replayed"⟩
    | some nonces => .ok (reply, { t with addresses := r.addresses, nonces })

/-- How long a nonce is kept. -/
def nonceTableRetention : ℕ := minutes 10

/-- `seen_at_utc < cutoff`; before 1970 nothing is. -/
def outdated (now : Instant) (r : NonceRow) : Bool :=
  decide (nonceTableRetention ≤ now) &&
    decide (encodeTime r.seenAt < encodeTime (now - nonceTableRetention))

/-- `PruneNonces`. -/
def pruneNonces (now : Instant) (t : Tables) : Tables :=
  { t with nonces := t.nonces.delete (outdated now) }

/-! ### Runs -/

/-- What was signed, and the handler's clock. -/
structure Accepted where
  canonical : String
  nonce : Bytes
  tsUtc : ℕ
  acceptedAt : Instant

/-- The tables, the clock and what was accepted. -/
structure State where
  tables : Tables
  clock : Instant
  /-- The latest clock of a prune that has deleted. -/
  lastPrune : Instant
  accepted : List Accepted

/-- What happens. -/
inductive Action
  | tick (d : ℕ)
  /-- The other endpoints. -/
  | other (addresses : Table AddressRow.providerID) (paused : Bool)
  /-- The transaction of a handler that saw the pause flag and the clock before. -/
  | request (req : Request) (paused : Bool) (now : Instant)
  /-- The deletion by a prune that read the clock before. -/
  | prune (now : Instant)

/-- The bytes of a nonce. -/
def nonceBytes (s : String) : Bytes := hexDecode (s.toList.drop 2)

/-- What an accepted request has signed. -/
def accept (req : Request) (canonical : String) (now : Instant) : Option Accepted :=
  req.body.map fun body => ⟨canonical, nonceBytes body.nonce, body.tsUtc, now⟩

/-- One action. -/
def step (svc : Service) (s : State) : Action → State
  | .tick d => { s with clock := s.clock + d }
  | .other addresses paused => { s with tables := { s.tables with addresses, paused } }
  | .request req paused now =>
    match checkRequest svc now paused req with
    | .error _ => s
    | .ok (canonical, nonce) =>
      match writeAddressSeen svc now req.providerID canonical nonce s.tables with
      | .error _ => s
      | .ok (_, t) =>
        { s with tables := t, accepted := s.accepted ++ (accept req canonical now).toList }
  | .prune now => { s with tables := pruneNonces now s.tables, lastPrune := max s.lastPrune now }

/-- Nothing has been accepted. -/
def State.initial (clock : Instant) : State :=
  { tables := { addresses := .empty, nonces := .empty, paused := false }, clock, lastPrune := 0,
    accepted := [] }

/-- Clocks are read before they are used. -/
def Possible (s : State) : Action → Prop
  | .request _ _ now => now ≤ s.clock
  | .prune now => now ≤ s.clock
  | _ => True

/-- When a registration comes again, no prune with a later clock deleted since the handler read its
own; a prune on a full second finds none that is still good and was accepted behind its cutoff in
that second. Years have four digits. -/
def Careful (s : State) : Action → Prop
  | .request req _ now => InRange now ∧ ∀ body ∈ req.body,
      (∃ a ∈ s.accepted, a.nonce = nonceBytes body.nonce ∧ a.tsUtc = body.tsUtc) → s.lastPrune ≤ now
  | .prune now => now % nanosPerSecond = 0 → ∀ a ∈ s.accepted,
      now ≤ seconds a.tsUtc + timestampSkewBound →
      a.acceptedAt / nanosPerSecond = (now - nonceTableRetention) / nanosPerSecond →
      a.acceptedAt % nanosPerSecond = 0
  | _ => True

instance (s : State) (a : Action) : Decidable (Possible s a) := by
  unfold Possible
  split <;> infer_instance

instance (s : State) (a : Action) : Decidable (Careful s a) := by
  unfold Careful
  split <;> infer_instance

/-- `"0x" + hex.EncodeToString(nonce32[:])`. -/
def nonceText (b : Bytes) : String :=
  String.ofList ('0' :: 'x' :: b.flatMap fun x => (hexByte x).toList)

theorem hex_digit {c : Char} (h : isHexAlphabet [c] = true) :
    hexValue c < 16 ∧ hexDigit (hexValue c) = c.toLower := by
  simp only [isHexAlphabet, List.all_cons, List.all_nil, Bool.and_true, Bool.or_eq_true,
    Bool.and_eq_true, decide_eq_true_eq] at h
  have hrange : (48 ≤ c.toNat ∧ c.toNat ≤ 57 ∨ 97 ≤ c.toNat ∧ c.toNat ≤ 102) ∨
      65 ≤ c.toNat ∧ c.toNat ≤ 70 := h
  have hall : ∀ k < 103, (48 ≤ k ∧ k ≤ 57 ∨ 97 ≤ k ∧ k ≤ 102) ∨ 65 ≤ k ∧ k ≤ 70 →
      hexValue (Char.ofNat k) < 16 ∧
        hexDigit (hexValue (Char.ofNat k)) = (Char.ofNat k).toLower := by decide
  have hc := hall c.toNat (by omega) hrange
  rwa [Char.ofNat_toNat] at hc

theorem hexEncode_hexDecode : ∀ l : List Char, 2 ∣ l.length → isHexAlphabet l = true →
    (hexDecode l).flatMap (fun x => (hexByte x).toList) = l.map Char.toLower
  | [], _, _ => rfl
  | [_], hl, _ => by
    simp only [List.length_singleton] at hl
    omega
  | a :: b :: l, hl, h => by
    have hparts : isHexAlphabet [a] = true ∧ isHexAlphabet [b] = true ∧ isHexAlphabet l = true := by
      simpa [isHexAlphabet] using h
    obtain ⟨ha, hb, hrest⟩ := hparts
    obtain ⟨ha16, had⟩ := hex_digit ha
    obtain ⟨hb16, hbd⟩ := hex_digit hb
    have hlen : 2 ∣ l.length := by
      simp only [List.length_cons] at hl
      omega
    have hbyte : (UInt8.ofNat (16 * hexValue a + hexValue b)).toNat =
        16 * hexValue a + hexValue b := by
      rw [UInt8.toNat_ofNat']
      omega
    have hhigh : (16 * hexValue a + hexValue b) / 16 = hexValue a := by omega
    have hlow : (16 * hexValue a + hexValue b) % 16 = hexValue b := by omega
    rw [hexDecode, List.flatMap_cons, hexEncode_hexDecode l hlen hrest, hexByte, hbyte, hhigh, hlow,
      had, hbd]
    simp

theorem decodeNonce32_eq {s n : String} (h : decodeNonce32 s = some n) :
    n = nonceText (nonceBytes s) := by
  unfold decodeNonce32 at h
  split at h
  · next x hex hs =>
    split_ifs at h with hcond
    obtain ⟨hlen, -, hhex⟩ := hcond
    have heven : 2 ∣ hex.length := ⟨32, hlen⟩
    unfold nonceText nonceBytes
    rw [hs, List.drop_succ_cons, List.drop_succ_cons, List.drop_zero,
      hexEncode_hexDecode hex heven hhex]
    exact (Option.some.inj h).symm
  · cases h

section Steps
variable {svc : Service} {s : State} {now : Instant}

theorem checkRequest_ok {paused : Bool} {req : Request} {canonical nonce : String}
    (h : checkRequest svc now paused req = .ok (canonical, nonce)) :
    ∃ body, req.body = some body ∧ now ≤ seconds body.tsUtc + timestampSkewBound ∧
      seconds body.tsUtc ≤ now + timestampSkewBound ∧
      nonce = nonceText (nonceBytes body.nonce) := by
  unfold checkRequest at h
  split at h
  · cases h
  split at h
  · cases h
  split at h
  · cases h
  split at h
  · cases h
  next body hbody =>
  refine ⟨body, hbody, ?_⟩
  split at h
  · cases h
  split at h
  · cases h
  split at h
  · cases h
  · cases h
  dsimp only at h
  split at h
  · cases h
  split at h
  · cases h
  split at h
  · cases h
  split at h
  · cases h
  next hskew =>
  split at h
  · cases h
  next n hn =>
  split at h
  · cases h
    obtain ⟨hlate, hearly⟩ := not_or.mp hskew
    exact ⟨not_lt.mp hlate, not_lt.mp hearly, decodeNonce32_eq hn⟩
  · cases h

/-- The row of its nonce. -/
def Accepted.row (a : Accepted) : NonceRow :=
  ⟨a.canonical.toLower, nonceText a.nonce, a.acceptedAt⟩

/-- **A request**: nothing, or it is accepted with a new nonce. -/
theorem request_cases (req : Request) (paused : Bool) :
    step svc s (.request req paused now) = s ∨
      ∃ a body, req.body = some body ∧ a.nonce = nonceBytes body.nonce ∧ a.tsUtc = body.tsUtc ∧
        a.acceptedAt = now ∧ now ≤ seconds a.tsUtc + timestampSkewBound ∧
        seconds a.tsUtc ≤ now + timestampSkewBound ∧
        s.tables.nonces.find? (Accepted.row a).key = none ∧
        (step svc s (.request req paused now)).accepted = s.accepted ++ [a] ∧
        (step svc s (.request req paused now)).tables.nonces.rows =
          s.tables.nonces.rows ++ [Accepted.row a] ∧
        (step svc s (.request req paused now)).lastPrune = s.lastPrune := by
  unfold step
  dsimp only
  split
  · exact Or.inl rfl
  next canonical nonce hcheck =>
  split
  · exact Or.inl rfl
  next reply t hwrite =>
  obtain ⟨body, hbody, hlate, hearly, hnonce⟩ := checkRequest_ok hcheck
  have hacc : accept req canonical now =
      some ⟨canonical, nonceBytes body.nonce, body.tsUtc, now⟩ := by
    unfold accept
    rw [hbody]
    rfl
  unfold writeAddressSeen at hwrite
  split at hwrite
  · cases hwrite
  split at hwrite
  · cases hwrite
  next nonces hins =>
  obtain ⟨hnone, hrows⟩ := Table.insert_eq_some hins
  cases hwrite
  rw [hacc]
  subst hnonce
  exact Or.inr ⟨⟨canonical, nonceBytes body.nonce, body.tsUtc, now⟩, body, hbody, rfl, rfl, rfl,
    hlate, hearly, hnone, rfl, hrows, rfl⟩

theorem skew_over {seen now ts : ℕ} (hold : nonceTableRetention ≤ now)
    (hsecond : seen / nanosPerSecond ≤ (now - nonceTableRetention) / nanosPerSecond)
    (hfull : now % nanosPerSecond = 0 →
      seen / nanosPerSecond ≠ (now - nonceTableRetention) / nanosPerSecond)
    (hearly : seconds ts ≤ seen + timestampSkewBound) : seconds ts + timestampSkewBound < now := by
  simp only [nonceTableRetention, timestampSkewBound, minutes, seconds, nanosPerSecond] at *
  by_cases hzero : now % 1000000000 = 0
  · omega
  · omega

theorem outdated_late {a : Accepted} (hcareful : Careful s (.prune now))
    (hmem : a ∈ s.accepted) (hrange : InRange a.acceptedAt)
    (hearly : seconds a.tsUtc ≤ a.acceptedAt + timestampSkewBound)
    (hout : outdated now (Accepted.row a) = true) : seconds a.tsUtc + timestampSkewBound < now := by
  obtain ⟨hold, htext⟩ : nonceTableRetention ≤ now ∧
      encodeTime a.acceptedAt < encodeTime (now - nonceTableRetention) := by
    simp only [outdated, Bool.and_eq_true, decide_eq_true_eq] at hout
    exact hout
  -- whole seconds are compared rightly
  have hsecond : a.acceptedAt / nanosPerSecond ≤ (now - nonceTableRetention) / nanosPerSecond := by
    by_contra hlt
    have hlt := not_le.mp hlt
    have hne : ¬ Confusable (now - nonceTableRetention) a.acceptedAt := fun hc => hlt.ne hc.1
    have hless : now - nonceTableRetention < a.acceptedAt :=
      lt_of_not_ge fun hge => hlt.not_ge (Nat.div_le_div_right hge)
    exact lt_asymm htext (encodeTime_lt hrange hless hne)
  refine not_le.mp fun hgood => absurd hgood (not_le.mpr ?_)
  refine skew_over hold hsecond (fun hzero heq => ?_) hearly
  have hzero' : a.acceptedAt % nanosPerSecond = 0 := hcareful hzero a hmem hgood heq
  have hcut : (now - nonceTableRetention) % nanosPerSecond = 0 :=
    Nat.mod_eq_zero_of_dvd (Nat.dvd_sub (Nat.dvd_of_mod_eq_zero hzero) ⟨600, by decide⟩)
  have hsame : a.acceptedAt = now - nonceTableRetention := by
    rw [← Nat.div_add_mod a.acceptedAt nanosPerSecond, heq, hzero', ← hcut, Nat.div_add_mod]
  rw [hsame] at htext
  exact lt_irrefl _ htext

/-! ### The run -/

/-- What was signed. -/
def Accepted.signed (a : Accepted) : String × Bytes × ℕ := (a.canonical, a.nonce, a.tsUtc)

/-- Its nonce is in the table, or its time is over. -/
structure Remembered (s : State) (a : Accepted) : Prop where
  inRange : InRange a.acceptedAt
  early : seconds a.tsUtc ≤ a.acceptedAt + timestampSkewBound
  kept : Accepted.row a ∈ s.tables.nonces.rows ∨
    seconds a.tsUtc + timestampSkewBound < s.lastPrune

/-- No registration was accepted twice. -/
structure Good (s : State) : Prop where
  remembered : ∀ a ∈ s.accepted, Remembered s a
  once : (s.accepted.map Accepted.signed).Nodup

theorem Good.fresh (h : Good s) {a : Accepted} (hlate : now ≤ seconds a.tsUtc + timestampSkewBound)
    (hprune : (∃ b ∈ s.accepted, b.nonce = a.nonce ∧ b.tsUtc = a.tsUtc) → s.lastPrune ≤ now)
    (hnone : s.tables.nonces.find? (Accepted.row a).key = none) :
    ∀ b ∈ s.accepted, b.signed ≠ a.signed := by
  intro b hb heq
  obtain ⟨hcanonical, hnonce, hts⟩ : b.canonical = a.canonical ∧ b.nonce = a.nonce ∧
      b.tsUtc = a.tsUtc := by
    simpa [Accepted.signed] using heq
  rcases (h.remembered b hb).kept with hrow | hover
  · have hkey : (Accepted.row b).key = (Accepted.row a).key := by
      simp [Accepted.row, NonceRow.key, hcanonical, hnonce]
    exact Table.find?_eq_none.mp hnone _ hrow hkey
  · rw [hts] at hover
    exact absurd (hover.trans_le ((hprune ⟨b, hb, hnonce, hts⟩).trans hlate)) (lt_irrefl _)

theorem step_good (h : Good s) {a : Action} (hcareful : Careful s a) : Good (step svc s a) := by
  cases a with
  | tick | other =>
    refine ⟨fun a ha => ?_, h.once⟩
    have hrem := h.remembered a ha
    exact ⟨hrem.inRange, hrem.early, hrem.kept⟩
  | request req paused now =>
    obtain ⟨hrange, hprune⟩ := hcareful
    rcases @request_cases svc s now req paused with
      heq | ⟨a, body, hbody, hnonce, hts, rfl, hlate, hearly, hnone, hacc, hrows, hlast⟩
    · rw [heq]
      exact h
    · have hfresh := h.fresh hlate (hnonce ▸ hts ▸ hprune body hbody) hnone
      refine ⟨fun b hb => ?_, ?_⟩
      · rw [hacc] at hb
        rcases List.mem_append.mp hb with hb | hb
        · have hrem := h.remembered b hb
          refine ⟨hrem.inRange, hrem.early, ?_⟩
          rw [hrows, hlast]
          exact hrem.kept.imp_left fun hrow => List.mem_append_left _ hrow
        · obtain rfl := List.mem_singleton.mp hb
          refine ⟨hrange, hearly, Or.inl ?_⟩
          rw [hrows]
          exact List.mem_append_right _ (List.mem_singleton.mpr rfl)
      · rw [hacc, List.map_append, List.nodup_append]
        refine ⟨h.once, List.nodup_singleton _, fun x hx y hy => ?_⟩
        obtain ⟨b, hb, rfl⟩ := List.mem_map.mp hx
        obtain rfl := List.mem_singleton.mp hy
        exact hfresh b hb
  | prune now =>
    refine ⟨fun a ha => ?_, h.once⟩
    have hrem := h.remembered a ha
    refine ⟨hrem.inRange, hrem.early, ?_⟩
    rcases hrem.kept with hrow | hover
    · by_cases hout : outdated now (Accepted.row a) = true
      · have hover := outdated_late hcareful ha hrem.inRange hrem.early hout
        exact Or.inr (lt_of_lt_of_le hover (le_max_right _ _))
      · refine Or.inl (List.mem_filter.mpr ⟨hrow, ?_⟩)
        simpa using hout
    · exact Or.inr (lt_of_lt_of_le hover (le_max_left _ _))

end Steps

/-- **A registration is accepted once** in every careful run: accepted ones differ in address,
decoded nonce or timestamp. -/
theorem registration_is_accepted_once {svc : Service} {s : State} {t₀ : Instant}
    (h : Reaches (step svc) (fun s a => Possible s a ∧ Careful s a) (State.initial t₀) s) :
    (s.accepted.map Accepted.signed).Nodup := by
  have hgood : Good s := by
    refine reaches_induction h ⟨fun a ha => ?_, List.nodup_nil⟩ fun s a hs hok => step_good hs hok.2
    cases ha
  exact hgood.once

/-! ### Two replays -/

/-- Five minutes ahead of `now`. -/
def demoAhead (now : Instant) : Request := demoRequest '2' (now + timestampSkewBound)

/-- Accepted half a second behind a full second; ten minutes behind that, a prune. -/
def demoFullSecond : List Action :=
  [.tick (nanosPerSecond / 2),
    .request (demoAhead newYear) false (newYear + nanosPerSecond / 2),
    .tick (minutes 10 - nanosPerSecond / 2),
    .prune (newYear + minutes 10),
    .request (demoAhead newYear) false (newYear + minutes 10)]

/-- A prune deletes behind the handler's clock. -/
def demoRace : List Action :=
  [.request (demoAhead newYear) false newYear,
    .tick (minutes 10 + nanosPerSecond),
    .prune (newYear + minutes 10 + nanosPerSecond),
    .request (demoAhead newYear) false (newYear + minutes 10)]

/-- What was accepted behind these actions. -/
def demoSigned (as : List Action) : List (String × Bytes × ℕ) :=
  (run (step demoService) (State.initial newYear) as).accepted.map Accepted.signed

/-- **Accepted twice**, on a full second and in a race. -/
theorem registration_is_accepted_again :
    (Allowed (step demoService) Possible (State.initial newYear) demoFullSecond ∧
      ¬ (demoSigned demoFullSecond).Nodup) ∧
    (Allowed (step demoService) Possible (State.initial newYear) demoRace ∧
      ¬ (demoSigned demoRace).Nodup) := by
  decide +kernel

/-- Again with the prefix `0X`, behind a prune. -/
def demoCareful : List Action :=
  let again := { demoAhead newYear with
    body := (demoAhead newYear).body.map fun b =>
      { b with nonce := String.ofList ('0' :: 'X' :: List.replicate 64 '2') } }
  [.request (demoAhead newYear) false newYear, .tick (minutes 10), .prune (newYear + minutes 10),
    .request again false (newYear + minutes 10)]

theorem registration_is_accepted_once_careful :
    (demoSigned (demoCareful.take 3)).length = 1 ∧ (demoSigned demoCareful).Nodup := by
  have hrun : Allowed (step demoService) (fun s a => Possible s a ∧ Careful s a)
      (State.initial newYear) demoCareful := by decide +kernel
  exact ⟨by decide +kernel, registration_is_accepted_once (reaches_of_allowed hrun)⟩

end MacProvider.Coordinator.Payout.Replay
