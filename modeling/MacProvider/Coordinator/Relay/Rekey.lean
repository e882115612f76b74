import MacProvider.Coordinator.Relay.Nonces
import MacProvider.Coordinator.Relay.Receive

/-! # Frames to providers, and rekeying

A session seals requests under its leg (`tier2Mu`), and replaces it by an exchange (`rekeyMu`): a
request once the session has drained, a response, a commit frame sealed under the new key as number
0, and a confirmation that installs the new leg. The sessions refine the slots of `Nonces`
(`moves_of_local`, `Inv.step`). -/

namespace MacProvider.Coordinator.Relay.Rekey

open Relay.Frames Relay.Nonces Lib.Runs

/-! ### Sessions -/

/-- The keys of an exchange. -/
structure PillarBKeyMaterial where
  aeadSuite : Bytes
  keyID : Bytes
  c2pKey : Bytes
  p2cKey : Bytes
  c2pNonceBase : Bytes
  p2cNonceBase : Bytes

/-- The request. -/
structure AEADRekeyRequest where
  coordinatorECDHPublicKey : Bytes
  selectedAEAD : Bytes
  expiresAt : Bytes
  responseChunkPlaintextEnvelope : Bool

/-- The response. -/
structure AEADRekeyResponse where
  type : Bytes
  version : ℤ
  rekeyID : Bytes
  assignedID : Bytes
  oldKID : Bytes
  newKID : Bytes
  providerECDHPublicKey : Bytes

/-- The confirmation. -/
structure AEADRekeyConfirmation where
  type : Bytes
  version : ℤ
  rekeyID : Bytes
  assignedID : Bytes
  oldKID : Bytes
  newKID : Bytes
  enc : AEADEnvelope

/-- What commit and confirmation prove. -/
structure AEADRekeyProof where
  rekeyID : Bytes
  providerID : Bytes
  assignedID : Bytes
  oldKID : Bytes
  newKID : Bytes
  providerECDHPublicKey : Bytes
  coordinatorECDHPublicKey : Bytes
  selectedAEAD : Bytes
  expiresAt : Bytes

/-- How far an exchange is. -/
inductive RekeyPhase
  | draining
  | requested
  | commitSent
  deriving DecidableEq

/-- Its number stands for its private key. -/
structure Tier2RekeyExchange where
  number : ℕ
  id : Bytes
  oldKID : Bytes
  request : AEADRekeyRequest
  setupErr : Bool
  phase : RekeyPhase
  next : Option Tier2Session
  proof : Bytes
  /-- the handler of the confirmation stands between the registry and the session, and holds
  `rekeyMu` -/
  installing : Bool

/-- Keys, and the exchange they come from. -/
structure Tier2Leg where
  session : Tier2Session
  exchange : ℕ

/-- A session. -/
structure ProviderSession where
  peer : Peer
  tier2 : Option Tier2Leg
  rekey : Option Tier2RekeyExchange
  closed : Bool

/-- The functions of the exchange. -/
structure KeyExchange where
  /-- the keys that an exchange gives with a provider's public key (`ParseX25519PublicKey`,
  `DerivePillarBKeys`) -/
  derive : ℕ → Bytes → Except String PillarBKeyMaterial
  marshalProof : AEADRekeyProof → Except String Bytes

/-- Different exchanges give different keys. -/
def KeyExchange.DistinctKeys (x : KeyExchange) : Prop :=
  ∀ m n publicKey publicKey' keys keys', x.derive m publicKey = .ok keys →
    x.derive n publicKey' = .ok keys' → keys.c2pKey = keys'.c2pKey → m = n

variable (p : Primitives) (x : KeyExchange)

/-- A frame sealed as `seq`. -/
def sealedEvents (exchange : ℕ) (key nonceBase : Bytes) (seq : UInt64) : List Event :=
  match pillarBNonce nonceBase seq with
  | .ok nonce => [.sealed exchange key nonce]
  | .error _ => []

/-- What a frame to a provider is bound to. -/
def c2pAAD (peer : Peer) (type requestID : Bytes) (stream : Bool) (seq : UInt64) : AEADFrameAAD :=
  ⟨type, text "c2p", requestID, stream, peer.providerID, peer.assignedID, seq⟩

/-- Under `tier2Mu`; in the clear without a leg. A failure keeps the counter. -/
def sealFrame (s : ProviderSession) (type requestID : Bytes) (stream : Bool)
    (plaintext : Except String Bytes) : ProviderSession × List Event :=
  match s.tier2 with
  | none => (s, [])
  | some leg =>
    if leg.session.c2pCounter = exhausted then (s, [])
    else
      match plaintext with
      | .error _ => (s, [])
      | .ok plaintext =>
        match sealPillarBFrame p leg.session.c2pKey leg.session.c2pNonceBase leg.session.keyID
          leg.session.c2pCounter
          (c2pAAD s.peer type requestID stream leg.session.c2pCounter) plaintext with
        | .error _ => (s, [])
        | .ok _ =>
          ({ s with tier2 := some { leg with session := { leg.session with
              c2pCounter := leg.session.c2pCounter + 1 } } },
            sealedEvents leg.exchange leg.session.c2pKey leg.session.c2pNonceBase
              leg.session.c2pCounter)

/-- An inference request is sealed. -/
def sealInferenceRequest (s : ProviderSession) (requestID : Bytes) (stream : Bool)
    (plaintext : Except String Bytes) : ProviderSession × List Event :=
  sealFrame p s (text "inference_request") requestID stream plaintext

/-- Under `rekeyMu`, when no exchange is on. -/
def sealLosslessnessProbeRequest (s : ProviderSession) (due : Bool) (probeID : Bytes)
    (plaintext : Except String Bytes) : ProviderSession × List Event :=
  if s.rekey.isSome ∨ due then (s, [])
  else sealFrame p s (text "losslessness_probe_v1.encrypted_request") probeID false plaintext

/-! ### Rekeying -/

/-- A fresh number; `generated` is its public key. -/
def newTier2RekeyExchange (s : ProviderSession) (number : ℕ) (id : Bytes)
    (generated : Except String Bytes) : Tier2RekeyExchange :=
  let failed (oldKID : Bytes) : Tier2RekeyExchange :=
    ⟨number, id, oldKID, ⟨[], [], [], false⟩, true, .draining, none, [], false⟩
  match s.tier2 with
  | none => failed []
  | some leg =>
    if !leg.session.inBandAEADRekeyV1 then failed leg.session.keyID
    else
      match generated with
      | .error _ => failed leg.session.keyID
      | .ok publicKey =>
        ⟨number, id, leg.session.keyID,
          ⟨publicKey, leg.session.aeadSuite, [], leg.session.responseChunkPlaintextEnvelope⟩,
          false, .draining, none, [], false⟩

/-- The request is sent, if the exchange could be set up. -/
def runTier2Rekey (s : ProviderSession) (expiresAt : Bytes) : ProviderSession :=
  match s.rekey with
  | none => s
  | some e =>
    if e.installing ∨ e.setupErr ∨ e.phase ≠ .draining then s
    else { s with rekey := some { e with
        phase := .requested
        request := { e.request with expiresAt } } }

/-- Gives up the exchange, and the session with it. -/
def failTier2Rekey (s : ProviderSession) : ProviderSession :=
  match s.rekey with
  | none => s
  | some e => if e.installing then s else { s with rekey := none, closed := true }

/-- The response is not one to this exchange. -/
def invalidResponse (e : Tier2RekeyExchange) (assignedID : Bytes) (r : AEADRekeyResponse) : Bool :=
  r.type ≠ text "aead_rekey_response" || r.version ≠ 1 || r.rekeyID ≠ e.id ||
    r.assignedID ≠ assignedID || r.oldKID ≠ e.oldKID || r.newKID = [] || r.newKID = e.oldKID

/-- Where it leads; frame 0 is the commit. -/
def nextSession (e : Tier2RekeyExchange) (keys : PillarBKeyMaterial) : Tier2Session where
  aeadSuite := keys.aeadSuite
  responseChunkPlaintextEnvelope := e.request.responseChunkPlaintextEnvelope
  inBandAEADRekeyV1 := true
  c2pKey := keys.c2pKey
  p2cKey := keys.p2cKey
  c2pNonceBase := keys.c2pNonceBase
  p2cNonceBase := keys.p2cNonceBase
  c2pCounter := 1
  p2cCounter := 0
  p2cSeen := ∅
  keyID := keys.keyID

/-- The proof of an exchange. -/
def proofOf (s : ProviderSession) (e : Tier2RekeyExchange) (r : AEADRekeyResponse)
    (keys : PillarBKeyMaterial) : AEADRekeyProof :=
  ⟨e.id, s.peer.providerID, s.peer.assignedID, e.oldKID, keys.keyID, r.providerECDHPublicKey,
    e.request.coordinatorECDHPublicKey, e.request.selectedAEAD, e.request.expiresAt⟩

/-- Under `rekeyMu`; a failed check leaves it to `failTier2Rekey`. -/
def handleAEADRekeyResponse (s : ProviderSession) (r : AEADRekeyResponse) (expired : Bool) :
    ProviderSession × List Event :=
  match s.rekey with
  | none => (s, [])
  | some e =>
    if e.installing ∨ e.phase ≠ .requested then (s, [])
    else if invalidResponse e s.peer.assignedID r ∨ expired then (s, [])
    else
      match x.derive e.number r.providerECDHPublicKey with
      | .error _ => (s, [])
      | .ok keys =>
        if keys.keyID ≠ r.newKID then (s, [])
        else
          match x.marshalProof (proofOf s e r keys) with
          | .error _ => (s, [])
          | .ok proofBytes =>
            match sealPillarBFrame p keys.c2pKey keys.c2pNonceBase keys.keyID 0
              (c2pAAD s.peer (text "aead_rekey_commit") e.id false 0) proofBytes with
            | .error _ => (s, [])
            | .ok _ =>
              ({ s with rekey := some { e with
                  next := some (nextSession e keys)
                  proof := proofBytes
                  phase := .commitSent } },
                sealedEvents e.number keys.c2pKey keys.c2pNonceBase 0)

/-- The confirmation is not one of this exchange. -/
def invalidConfirmation (e : Tier2RekeyExchange) (next : Tier2Session) (assignedID : Bytes)
    (c : AEADRekeyConfirmation) : Bool :=
  c.type ≠ text "aead_rekey_committed" || c.version ≠ 1 || !c.enc.encrypted || c.rekeyID ≠ e.id ||
    c.assignedID ≠ assignedID || c.oldKID ≠ e.oldKID || c.newKID ≠ next.keyID

/-- What the confirmation is bound to. -/
def committedAAD (peer : Peer) (id : Bytes) : AEADFrameAAD :=
  ⟨text "aead_rekey_committed", text "p2c", id, false, peer.providerID, peer.assignedID, 0⟩

/-- Up to `ReplaceTier2Session`. -/
def handleAEADRekeyCommitted (s : ProviderSession) (c : AEADRekeyConfirmation)
    (expired replaced : Bool) : ProviderSession :=
  match s.rekey with
  | none => s
  | some e =>
    if e.installing ∨ e.phase ≠ .commitSent then s
    else if expired then s
    else
      match e.next with
      | none => s
      | some next =>
        if invalidConfirmation e next s.peer.assignedID c then s
        else
          match openPillarBFrame p next.p2cKey next.p2cNonceBase next.keyID 0
            (committedAAD s.peer e.id) c.enc with
          | .error _ => s
          | .ok plaintext =>
            if plaintext ≠ e.proof then s
            -- the current leg must still be the one that the exchange started from
            else if s.tier2.map (·.session.keyID) ≠ some e.oldKID ∨ !replaced then s
            else { s with rekey := some { e with
                next := some { next with p2cCounter := 1 }
                installing := true } }

/-- Its rest: the new leg is taken. -/
def installNext (s : ProviderSession) : ProviderSession × List Event :=
  match s.rekey, s.tier2 with
  | some e, some old =>
    match e.installing, e.next with
    | true, some next =>
      ({ s with tier2 := some ⟨next, e.number⟩, rekey := none },
        [.committed old.exchange old.session.c2pKey])
    | _, _ => (s, [])
  | _, _ => (s, [])

/-! ### The coordinator -/

/-- The sessions and what has happened to keys. -/
structure World (ι : Type) where
  sessions : ι → Option ProviderSession
  exchanges : ℕ
  events : List Event

/-- No session. -/
def World.init (ι : Type) : World ι := ⟨fun _ => none, 0, []⟩

/-- One region under a lock. -/
inductive Action (ι : Type)
  /-- a provider registers; with a public key, its handshake is an exchange of its own -/
  | register (i : ι) (peer : Peer) (publicKey : Option Bytes) (envelope inBandRekey : Bool)
  | sealInferenceRequest (i : ι) (requestID : Bytes) (stream : Bool)
      (plaintext : Except String Bytes)
  | sealLosslessnessProbeRequest (i : ι) (due : Bool) (probeID : Bytes)
      (plaintext : Except String Bytes)
  | beginTier2Rekey (i : ι) (id : Bytes) (generated : Except String Bytes)
  | runTier2Rekey (i : ι) (expiresAt : Bytes)
  | rekeyResponse (i : ι) (r : AEADRekeyResponse) (expired : Bool)
  | rekeyCommitted (i : ι) (c : AEADRekeyConfirmation) (expired replaced : Bool)
  | installNext (i : ι)
  | failTier2Rekey (i : ι)
  | close (i : ι)

section Step
variable {ι : Type} [DecidableEq ι]

/-- The session behind an action. -/
def World.set (w : World ι) (i : ι) (r : ProviderSession × List Event) : World ι :=
  { w with sessions := Function.update w.sessions i (some r.1), events := w.events ++ r.2 }

/-- An action of a session, if there is one. -/
def World.onSession (w : World ι) (i : ι) (f : ProviderSession → ProviderSession × List Event) :
    World ι :=
  match w.sessions i with
  | none => w
  | some s => w.set i (f s)

/-- The leg of a handshake. -/
def registeredLeg (number : ℕ) (keys : PillarBKeyMaterial) (envelope inBandRekey : Bool) :
    Tier2Leg :=
  ⟨⟨keys.aeadSuite, envelope, inBandRekey, keys.c2pKey, keys.p2cKey, keys.c2pNonceBase,
    keys.p2cNonceBase, 0, 0, ∅, keys.keyID⟩, number⟩

/-- One action. -/
def step (w : World ι) : Action ι → World ι
  | .register i peer publicKey envelope inBandRekey =>
    match w.sessions i with
    | some _ => w
    | none =>
      match publicKey with
      | none => w.set i (⟨peer, none, none, false⟩, [])
      | some publicKey =>
        match x.derive w.exchanges publicKey with
        | .error _ => w
        | .ok keys =>
          { w.set i (⟨peer, some (registeredLeg w.exchanges keys envelope inBandRekey), none,
              false⟩, []) with exchanges := w.exchanges + 1 }
  | .sealInferenceRequest i requestID stream plaintext =>
    w.onSession i fun s => sealInferenceRequest p s requestID stream plaintext
  | .sealLosslessnessProbeRequest i due probeID plaintext =>
    w.onSession i fun s => sealLosslessnessProbeRequest p s due probeID plaintext
  | .beginTier2Rekey i id generated =>
    match w.sessions i with
    | none => w
    | some s =>
      if s.rekey.isSome then w
      else
        { w.set i ({ s with rekey := some (newTier2RekeyExchange s w.exchanges id generated) }, [])
          with exchanges := w.exchanges + 1 }
  | .runTier2Rekey i expiresAt => w.onSession i fun s => (runTier2Rekey s expiresAt, [])
  | .rekeyResponse i r expired => w.onSession i fun s => handleAEADRekeyResponse p x s r expired
  | .rekeyCommitted i c expired replaced =>
    w.onSession i fun s => (handleAEADRekeyCommitted p s c expired replaced, [])
  | .installNext i => w.onSession i installNext
  | .failTier2Rekey i => w.onSession i fun s => (failTier2Rekey s, [])
  | .close i => w.onSession i fun s => ({ s with closed := true }, [])

end Step

/-! ### The sessions as slots -/

/-- The part of a leg that frames are sealed with. -/
def legOf (t : Tier2Session) : Leg := ⟨t.c2pKey, t.c2pNonceBase, t.c2pCounter⟩

/-- The current exchange, and the one under way. -/
def ProviderSession.entry (s : ProviderSession) : Bool → Option Entry
  | false => s.tier2.map fun t => ⟨t.exchange, some (legOf t.session)⟩
  | true => s.rekey.map fun e => ⟨e.number, e.next.map legOf⟩

/-- The sessions as slots. -/
def slots {ι : Type} (w : World ι) : Slots (ι × Bool) where
  entry a := (w.sessions a.1).bind (·.entry a.2)
  exchanges := w.exchanges
  events := w.events

/-- An exchange can give the key. -/
def gives (m : ℕ) (key : Bytes) : Prop :=
  ∃ publicKey keys, x.derive m publicKey = .ok keys ∧ keys.c2pKey = key

theorem distinct_gives (h : x.DistinctKeys) : Distinct (gives x) := by
  rintro m n key ⟨publicKey, keys, hm, rfl⟩ ⟨publicKey', keys', hn, heq⟩
  exact h m n publicKey publicKey' keys keys' hm hn heq.symm

/-- What can happen to one session. -/
inductive Local (s s' : ProviderSession) : List Event → Prop
  | kept (h : ∀ b, s'.entry b = s.entry b ∨ s'.entry b = none) : Local s s' []
  | sealed (m : ℕ) (leg : Leg) (nonce : Bytes) (hold : s.entry false = some ⟨m, some leg⟩)
      (hne : leg.counter ≠ exhausted) (hnonce : pillarBNonce leg.base leg.counter = .ok nonce)
      (hentry : s'.entry false = some ⟨m, some { leg with counter := leg.counter + 1 }⟩)
      (hother : s'.entry true = s.entry true) : Local s s' [.sealed m leg.key nonce]
  | confirmed (m : ℕ) (leg : Leg) (nonce : Bytes) (hold : s.entry true = some ⟨m, none⟩)
      (hgives : gives x m leg.key) (hcounter : leg.counter = 1)
      (hnonce : pillarBNonce leg.base 0 = .ok nonce)
      (hentry : s'.entry true = some ⟨m, some leg⟩)
      (hother : s'.entry false = s.entry false) : Local s s' [.sealed m leg.key nonce]
  | installed (m : ℕ) (old : Leg) (hold : s.entry false = some ⟨m, some old⟩)
      (hentry : s'.entry false = s.entry true) (hnone : s'.entry true = none) :
      Local s s' [.committed m old.key]

/-- It has a new leg once it was answered. -/
structure Phased (s : ProviderSession) : Prop where
  unanswered : ∀ e, s.rekey = some e → e.phase ≠ .commitSent → e.next = none

variable {key base : Bytes} {seq : UInt64} {s : ProviderSession}

theorem phased_of_none (h : s.rekey = none) : Phased s where
  unanswered e he := by
    rw [h] at he
    cases he

/-- So it does. -/
def Turns (s : ProviderSession) (r : ProviderSession × List Event) : Prop :=
  Phased s → Local x s r.1 r.2 ∧ Phased r.1

theorem Turns.rfl : Turns x s (s, []) :=
  fun h => ⟨.kept fun _ => .inl (Eq.refl _), h⟩

theorem nonce_of_seal {keyID plain : Bytes} {aad : AEADFrameAAD}
    {e : AEADEnvelope} (h : sealPillarBFrame p key base keyID seq aad plain = .ok e) :
    ∃ nonce, pillarBNonce base seq = .ok nonce ∧ e.nonce = p.encodeToString nonce := by
  rw [sealPillarBFrame] at h
  split_ifs at h
  obtain ⟨nonce, hnonce, h⟩ := bind_eq_ok.mp h
  obtain ⟨_, -, h⟩ := bind_eq_ok.mp h
  obtain ⟨_, -, h⟩ := bind_eq_ok.mp h
  exact ⟨nonce, hnonce, by rw [← Except.ok.inj h]⟩

theorem sealedEvents_of_nonce {exchange : ℕ} {nonce : Bytes}
    (h : pillarBNonce base seq = .ok nonce) :
    sealedEvents exchange key base seq = [.sealed exchange key nonce] := by
  simp only [sealedEvents, h]

theorem turns_sealFrame (s : ProviderSession) (type requestID : Bytes) (stream : Bool)
    (plain : Except String Bytes) : Turns x s (sealFrame p s type requestID stream plain) := by
  rw [sealFrame]
  rcases hleg : s.tier2 with _ | leg
  · exact .rfl x
  · dsimp only
    split_ifs with hex
    · exact .rfl x
    · rcases plain with _ | plain
      · exact .rfl x
      · dsimp only
        split
        · exact .rfl x
        · next e hseal =>
          obtain ⟨nonce, hnonce, -⟩ := nonce_of_seal p hseal
          rw [sealedEvents_of_nonce hnonce]
          refine fun hs => ⟨.sealed leg.exchange (legOf leg.session) nonce ?_ hex hnonce rfl rfl,
            ⟨hs.unanswered⟩⟩
          simp only [ProviderSession.entry, hleg, Option.map_some]

theorem turns_sealProbe (s : ProviderSession) (due : Bool) (probeID : Bytes)
    (plain : Except String Bytes) :
    Turns x s (sealLosslessnessProbeRequest p s due probeID plain) := by
  rw [sealLosslessnessProbeRequest]
  split_ifs
  · exact .rfl x
  · exact turns_sealFrame p x s _ _ _ _

theorem turns_of_rekey {e e' : Tier2RekeyExchange} (he : s.rekey = some e)
    (hnumber : e'.number = e.number) (hnext : e'.next.map legOf = e.next.map legOf)
    (hphase : Phased s → e'.phase ≠ .commitSent → e'.next = none) :
    Turns x s ({ s with rekey := some e' }, []) := by
  refine fun hs => ⟨.kept fun b => .inl ?_, ⟨fun e'' he'' => ?_⟩⟩
  · cases b
    · rfl
    · simp only [ProviderSession.entry, he, Option.map_some, hnumber, hnext]
  · rw [← Option.some.inj he'']
    exact hphase hs

theorem turns_run (s : ProviderSession) (expiresAt : Bytes) :
    Turns x s (runTier2Rekey s expiresAt, []) := by
  rw [runTier2Rekey]
  rcases he : s.rekey with _ | e
  · exact .rfl x
  · dsimp only
    split_ifs with hphase
    · exact .rfl x
    · have hdraining : e.phase = .draining := not_not.mp (not_or.mp (not_or.mp hphase).2).2
      exact turns_of_rekey x he rfl rfl fun hs _ =>
        hs.unanswered e he (by rw [hdraining]; decide)

theorem turns_fail (s : ProviderSession) : Turns x s (failTier2Rekey s, []) := by
  rw [failTier2Rekey]
  rcases he : s.rekey with _ | e
  · exact .rfl x
  · dsimp only
    split_ifs
    · exact .rfl x
    · refine fun _ => ⟨.kept fun b => ?_, phased_of_none rfl⟩
      cases b
      · exact .inl rfl
      · exact .inr rfl

theorem turns_response (s : ProviderSession) (r : AEADRekeyResponse) (expired : Bool) :
    Turns x s (handleAEADRekeyResponse p x s r expired) := by
  rw [handleAEADRekeyResponse]
  rcases he : s.rekey with _ | e
  · exact .rfl x
  · dsimp only
    split_ifs with hphase hinvalid
    · exact .rfl x
    · exact .rfl x
    · rcases hkeys : x.derive e.number r.providerECDHPublicKey with _ | keys
      · exact .rfl x
      · dsimp only
        split_ifs
        · exact .rfl x
        · rcases x.marshalProof (proofOf s e r keys) with _ | proofBytes
          · exact .rfl x
          · dsimp only
            split
            · exact .rfl x
            · next env hseal =>
              obtain ⟨nonce, hnonce, -⟩ := nonce_of_seal p hseal
              rw [sealedEvents_of_nonce hnonce]
              have hrequested : e.phase = .requested := not_not.mp (not_or.mp hphase).2
              intro hs
              have hnext : e.next = none := hs.unanswered e he (by rw [hrequested]; decide)
              refine ⟨.confirmed e.number ⟨keys.c2pKey, keys.c2pNonceBase, 1⟩ nonce ?_
                ⟨_, keys, hkeys, rfl⟩ rfl hnonce rfl rfl, ⟨fun e' he' hne => ?_⟩⟩
              · simp only [ProviderSession.entry, he, Option.map_some, hnext, Option.map_none]
              · rw [← Option.some.inj he'] at hne
                exact absurd rfl hne

theorem turns_committed (s : ProviderSession) (c : AEADRekeyConfirmation)
    (expired replaced : Bool) :
    Turns x s (handleAEADRekeyCommitted p s c expired replaced, []) := by
  rw [handleAEADRekeyCommitted]
  split
  · exact .rfl x
  · next e he =>
    split
    · exact .rfl x
    · next hphase =>
      split
      · exact .rfl x
      · split
        · exact .rfl x
        · next next hnext =>
          split
          · exact .rfl x
          · split
            · exact .rfl x
            · split
              · exact .rfl x
              · split
                · exact .rfl x
                · refine turns_of_rekey x he rfl ?_ fun _ hne => ?_
                  · simp only [hnext, Option.map_some]
                    rfl
                  · exact absurd (not_not.mp (not_or.mp hphase).2) hne

theorem turns_install (s : ProviderSession) : Turns x s (installNext s) := by
  rw [installNext]
  split
  · next e old he hold =>
    split
    · next next hinstalling hnext =>
      refine fun _ => ⟨.installed old.exchange (legOf old.session) ?_ ?_ rfl, phased_of_none rfl⟩
      · simp only [ProviderSession.entry, hold, Option.map_some]
      · simp only [ProviderSession.entry, he, Option.map_some, hnext]
    · exact .rfl x
  · exact .rfl x

section Refinement
variable {ι : Type} [DecidableEq ι] {w : World ι} {i : ι} {s : ProviderSession}

theorem slots_set_self (r : ProviderSession × List Event) (b : Bool) :
    (slots (w.set i r)).entry (i, b) = r.1.entry b := by
  simp only [slots, World.set, Function.update_self, Option.bind_some]

theorem slots_set_of_ne (r : ProviderSession × List Event) {a : ι × Bool} (ha : a.1 ≠ i) :
    (slots (w.set i r)).entry a = (slots w).entry a := by
  simp only [slots, World.set, Function.update_of_ne ha]

omit [DecidableEq ι] in
theorem slots_of_session (hs : w.sessions i = some s) (b : Bool) :
    (slots w).entry (i, b) = s.entry b := by
  simp only [slots, hs, Option.bind_some]

variable {r : ProviderSession × List Event}

theorem apart_set {b : Bool} (hb : r.1.entry (!b) = (slots w).entry (i, !b)) :
    Apart {(i, b)} (slots w) (slots (w.set i r)) := by
  rintro ⟨j, c⟩ hne
  by_cases hj : j = i
  · subst hj
    have hc : c = !b := Bool.eq_not.mpr fun h => hne (h ▸ rfl)
    rw [hc, slots_set_self, hb]
  · exact slots_set_of_ne r hj

/-- **What happens to a session is a move.** -/
theorem moves_of_local (hs : w.sessions i = some s)
    (h : Local x s r.1 r.2) : Moves (gives x) (slots w) (slots (w.set i r)) := by
  obtain ⟨s', es⟩ := r
  have hset := fun b => slots_set_self (w := w) (i := i) (s', es) b
  have hslot := fun b => slots_of_session hs b
  simp only at h hset
  rcases h with hslots | ⟨m, leg, nonce, hold, hne, hnonce, hentry, hother⟩ |
    ⟨m, leg, nonce, hold, hgives, hcounter, hnonce, hentry, hother⟩ | ⟨m, old, hold, hentry, hnone⟩
  · refine .kept ?_ rfl (List.append_nil _)
    rintro ⟨j, b⟩
    by_cases hj : j = i
    · subst hj
      rw [hset b, hslot b]
      exact hslots b
    · exact .inl (slots_set_of_ne _ hj)
  · exact .sealed (i, false) m leg nonce ((hslot false).trans hold) hne hnonce
      ((hset false).trans hentry) (apart_set (hother.trans (hslot true).symm)) rfl rfl
  · exact .confirmed (i, true) m leg nonce ((hslot true).trans hold) hgives hcounter hnonce
      ((hset true).trans hentry) (apart_set (hother.trans (hslot false).symm)) rfl rfl
  · refine .installed (i, false) (i, true) m old (by simp) ((hslot false).trans hold)
      (by rw [hset, hslot, hentry]) ((hset true).trans hnone) ?_ rfl rfl
    rintro ⟨j, b⟩ hne
    refine slots_set_of_ne _ fun hj => hne ?_
    simp only at hj
    subst hj
    cases b
    · exact Or.inl rfl
    · exact Or.inr rfl

/-! ### Runs -/

/-- The slots are safe, and legs come with commits. -/
structure Inv (w : World ι) : Prop where
  safe : Safe (gives x) (slots w)
  phased : ∀ i s, w.sessions i = some s → Phased s

variable {x}

theorem Inv.set (hgives : Distinct (gives x)) (h : Inv x w)
    {n : ℕ} (hmoves : Moves (gives x) (slots w) (slots { w.set i r with exchanges := n }))
    (hr : Phased r.1) : Inv x { w.set i r with exchanges := n } := by
  refine ⟨h.safe.moves hgives hmoves, fun j t ht => ?_⟩
  simp only [World.set] at ht
  by_cases hj : j = i
  · rw [hj, Function.update_self] at ht
    exact Option.some.inj ht ▸ hr
  · rw [Function.update_of_ne hj] at ht
    exact h.phased j t ht

theorem Inv.onSession (hgives : Distinct (gives x)) (h : Inv x w)
    {f : ProviderSession → ProviderSession × List Event} (hturns : ∀ s, Turns x s (f s)) (i : ι) :
    Inv x (w.onSession i f) := by
  rw [World.onSession]
  rcases hs : w.sessions i with _ | s
  · exact h
  · obtain ⟨hlocal, hphased⟩ := hturns s (h.phased i s hs)
    exact h.set hgives (moves_of_local x hs hlocal) hphased

theorem newTier2RekeyExchange_eq (s : ProviderSession) (n : ℕ) (id : Bytes)
    (generated : Except String Bytes) :
    (newTier2RekeyExchange s n id generated).number = n ∧
      (newTier2RekeyExchange s n id generated).next = none := by
  rw [newTier2RekeyExchange]
  split
  · exact ⟨rfl, rfl⟩
  · split
    · exact ⟨rfl, rfl⟩
    · split <;> exact ⟨rfl, rfl⟩

theorem moves_register (hs : w.sessions i = none) {peer : Peer} {publicKey : Bytes}
    {keys : PillarBKeyMaterial} (hkeys : x.derive w.exchanges publicKey = .ok keys)
    (envelope inBandRekey : Bool) :
    Moves (gives x) (slots w) (slots { w.set i
      (⟨peer, some (registeredLeg w.exchanges keys envelope inBandRekey), none, false⟩, []) with
        exchanges := w.exchanges + 1 }) := by
  have hnone : (slots w).entry (i, true) = none := by
    simp only [slots, hs, Option.bind_none]
  refine .began (i, false) _ (slots_set_self (_, []) false) (fun leg hleg => ?_)
    (apart_set (r := (_, [])) hnone.symm) rfl (List.append_nil _)
  rw [← Option.some.inj hleg]
  exact ⟨publicKey, keys, hkeys, rfl⟩

theorem moves_begin (hs : w.sessions i = some s) (id : Bytes) (generated : Except String Bytes) :
    Moves (gives x) (slots w) (slots { w.set i
      ({ s with rekey := some (newTier2RekeyExchange s w.exchanges id generated) }, []) with
        exchanges := w.exchanges + 1 }) := by
  obtain ⟨hnumber, hnext⟩ := newTier2RekeyExchange_eq s w.exchanges id generated
  have hself := slots_set_self (w := w) (i := i)
    ({ s with rekey := some (newTier2RekeyExchange s w.exchanges id generated) }, []) true
  simp only [ProviderSession.entry, Option.map_some, hnext, hnumber, Option.map_none] at hself
  exact .began (i, true) none hself (fun _ h => by cases h)
    (apart_set (r := (_, [])) (slots_of_session hs false).symm) rfl (List.append_nil _)

theorem Inv.step (hgives : Distinct (gives x)) (h : Inv x w) (a : Action ι) :
    Inv x (step p x w a) := by
  cases a with
  | sealInferenceRequest i requestID stream plain =>
    exact h.onSession hgives (fun s => turns_sealFrame p x s _ _ _ _) i
  | sealLosslessnessProbeRequest i due probeID plain =>
    exact h.onSession hgives (fun s => turns_sealProbe p x s _ _ _) i
  | runTier2Rekey i expiresAt => exact h.onSession hgives (fun s => turns_run x s _) i
  | rekeyResponse i r expired => exact h.onSession hgives (fun s => turns_response p x s _ _) i
  | rekeyCommitted i c expired replaced =>
    exact h.onSession hgives (fun s => turns_committed p x s _ _ _) i
  | installNext i => exact h.onSession hgives (turns_install x) i
  | failTier2Rekey i => exact h.onSession hgives (turns_fail x) i
  | close i =>
    refine h.onSession hgives (fun s hs => ⟨.kept fun b => .inl ?_, ⟨hs.unanswered⟩⟩) i
    cases b <;> rfl
  | beginTier2Rekey i id generated =>
    rw [Rekey.step]
    split
    · exact h
    · next s hs =>
      split_ifs
      · exact h
      · refine h.set hgives (moves_begin hs id generated) ⟨fun e he _ => ?_⟩
        rw [← Option.some.inj he]
        exact (newTier2RekeyExchange_eq s w.exchanges id generated).2
  | register i peer publicKey envelope inBandRekey =>
    simp only [Rekey.step]
    split
    · exact h
    · next hs =>
      split
      · refine h.set hgives (.kept (fun a => .inl ?_) rfl (List.append_nil _)) (phased_of_none rfl)
        by_cases ha : a.1 = i
        · obtain ⟨j, b⟩ := a
          simp only at ha
          subst ha
          simp only [slots, World.set, Function.update_self, hs, Option.bind_some, Option.bind_none]
          cases b <;> rfl
        · exact slots_set_of_ne (_, []) ha
      · split
        · exact h
        · next keys hkeys =>
          exact h.set hgives (moves_register hs hkeys envelope inBandRekey) (phased_of_none rfl)

omit [DecidableEq ι] in
theorem inv_init : Inv x (World.init ι) where
  safe :=
    { fine := fun _ _ h => by cases h
      distinct := fun _ _ _ _ h => by cases h
      known := fun _ h => absurd h List.not_mem_nil
      nodup := List.nodup_nil
      ordered := fun before _ _ _ h => absurd h.symm (by simp [slots, World.init]) }
  phased := fun _ _ h => by cases h

/-- **No nonce twice**: in any order of requests, exchanges and closes, no key seals two frames
under one nonce, and no replaced key seals any. -/
theorem no_nonce_reuse (hx : x.DistinctKeys) (as : List (Action ι)) :
    ((run (step p x) (World.init ι) as).events.filterMap Event.frame).Nodup ∧
      ∀ before behind m old,
        (run (step p x) (World.init ι) as).events = before ++ .committed m old :: behind →
          ∀ m' nonce, .sealed m' old nonce ∉ behind := by
  have hreach : Reaches (step p x) (fun _ _ => True) (World.init ι)
      (run (step p x) (World.init ι) as) := reaches_run (fun _ _ => trivial) _ as
  have hinv : Inv x (run (step p x) (World.init ι) as) :=
    reaches_induction (I := Inv x) hreach inv_init fun _ a h _ => h.step p (distinct_gives x hx) a
  exact ⟨hinv.safe.nodup, hinv.safe.ordered⟩

end Refinement

section Demo

open Relay.Receive (demoPrimitives demoPeer)

def demoKeys (m : ℕ) : PillarBKeyMaterial :=
  ⟨pillarBAEADA256GCM, [UInt8.ofNat m], UInt8.ofNat m :: List.replicate 31 1,
    UInt8.ofNat m :: List.replicate 31 2, List.replicate 4 3, List.replicate 4 4⟩

/-- The number is the first byte of the key. -/
def demoExchange : KeyExchange where
  derive m _ := if m < 256 then .ok (demoKeys m) else .error "X25519 public key must be 32 bytes"
  marshalProof proof := .ok (proof.rekeyID ++ proof.newKID)

theorem demoExchange_distinctKeys : demoExchange.DistinctKeys := by
  intro m n publicKey publicKey' keys keys' hm hn hkeys
  simp only [demoExchange] at hm hn
  split_ifs at hm hn with h1 h2
  rw [← Except.ok.inj hm, ← Except.ok.inj hn] at hkeys
  have hbyte : UInt8.ofNat m = UInt8.ofNat n := (List.cons.inj hkeys).1
  have hnat := congrArg UInt8.toNat hbyte
  rw [UInt8.toNat_ofNat', UInt8.toNat_ofNat'] at hnat
  omega

def demoConfirmation : AEADEnvelope :=
  match sealPillarBFrame demoPrimitives (demoKeys 1).p2cKey (demoKeys 1).p2cNonceBase
    (demoKeys 1).keyID 0 (committedAAD demoPeer (text "rekey")) (text "rekey" ++ [1]) with
  | .ok e => e
  | .error _ => ⟨false, [], 0, [], [], [], [], []⟩

/-- A rekey, with requests before, between and behind. -/
def demoActions : List (Action Unit) :=
  [.register () demoPeer (some []) true true,
    .sealInferenceRequest () (text "req-a") true (.ok (text "body")),
    .beginTier2Rekey () (text "rekey") (.ok []),
    .runTier2Rekey () (text "later"),
    .rekeyResponse () ⟨text "aead_rekey_response", 1, text "rekey", demoPeer.assignedID, [0], [1],
      []⟩ false,
    .rekeyCommitted () ⟨text "aead_rekey_committed", 1, text "rekey", demoPeer.assignedID, [0], [1],
      demoConfirmation⟩ false true,
    .sealInferenceRequest () (text "req-b") true (.ok (text "body")),
    .installNext (),
    .sealInferenceRequest () (text "req-c") true (.ok (text "body"))]

theorem no_nonce_reuse_through_a_rekey :
    (run (step demoPrimitives demoExchange) (World.init Unit) demoActions).events.length = 5 ∧
    ((run (step demoPrimitives demoExchange) (World.init Unit) demoActions).events.filterMap
      Event.frame).Nodup ∧
    ∀ before behind m old,
      (run (step demoPrimitives demoExchange) (World.init Unit) demoActions).events =
        before ++ .committed m old :: behind → ∀ m' nonce, .sealed m' old nonce ∉ behind :=
  ⟨by decide +kernel, no_nonce_reuse demoPrimitives demoExchange_distinctKeys demoActions⟩

end Demo

end MacProvider.Coordinator.Relay.Rekey
