import MacProvider.Coordinator.Relay.Frames
import MacProvider.Lib.ReceiveWindow
import MacProvider.Lib.Runs

/-! # Frames from a provider

Response chunks, ends and late frames are opened under the number they carry, and marked in the
receive window (`openP2CFrame`). A probe result is opened under the number that is due, and only
steps the counter (`openLosslessnessProbeResult`). `window_mark`: the session refines the window of
the library. -/

namespace MacProvider.Coordinator.Relay.Receive

open Relay.Frames Lib.ReceiveWindow

/-- The width of the receive window. -/
def tier2MaxOutOfOrderP2CFrames : UInt64 := 4096

/-- The number is too far ahead. -/
def tier2P2CSequenceOutsideWindow (s : Tier2Session) (seq : UInt64) : Bool :=
  if seq ≤ s.p2cCounter then false
  else decide (tier2MaxOutOfOrderP2CFrames < seq - s.p2cCounter)

/-- The number has come. -/
def tier2P2CSequenceSeen (s : Tier2Session) (seq : UInt64) : Bool :=
  if seq < s.p2cCounter then true else decide (seq ∈ s.p2cSeen)

/-- Each round takes a number out of the set. -/
def drainSeen : ℕ → Tier2Session → Tier2Session
  | 0, s => s
  | k + 1, s =>
    if s.p2cCounter ∈ s.p2cSeen then
      drainSeen k { s with
        p2cSeen := s.p2cSeen.erase s.p2cCounter
        p2cCounter := s.p2cCounter + 1 }
    else s

/-- The counter steps over all that came. -/
def markTier2P2CSequenceSeen (s : Tier2Session) (seq : UInt64) : Tier2Session :=
  if seq = s.p2cCounter then
    drainSeen s.p2cSeen.card { s with p2cCounter := s.p2cCounter + 1 }
  else if seq < s.p2cCounter then s
  else { s with p2cSeen := insert seq s.p2cSeen }

/-! ### Opening -/

/-- A decoded chunk. -/
structure InferenceResponseChunk where
  requestID : Bytes
  seq : ℤ
  data : Bytes

/-- A decoded end. -/
structure InferenceResponseEnd where
  requestID : Bytes

/-- The field `type` of a JSON object. -/
inductive TypeField
  | missing
  | notString
  | string (s : Bytes)

/-- What `json.Unmarshal` makes of the plaintexts. -/
structure Decoders where
  /-- the fields of a chunk's envelope: none for what is no JSON object -/
  chunkType : Bytes → Option TypeField
  /-- `seq` and `data` of a chunk's envelope -/
  chunk : Bytes → Except String (Option ℤ × Option Bytes)
  responseEnd : Bytes → Except String InferenceResponseEnd
  /-- `type` and `payload` of a probe result -/
  carrier : Bytes → Except String (Bytes × Bytes)

/-- The plaintext is the data. -/
def legacyEncryptedInferenceChunk (requestID : Bytes) (legacySeq : UInt64) (plaintext : Bytes) :
    Except String InferenceResponseChunk :=
  if legacySeq.toNat > 2 ^ 63 - 1 then .error "legacy encrypted chunk seq overflows int"
  else .ok ⟨requestID, legacySeq.toNat, plaintext⟩

/-- An envelope, or legacy data. -/
def decodeEncryptedInferenceChunkPlaintext (d : Decoders) (requestID : Bytes) (legacySeq : UInt64)
    (responseChunkPlaintextEnvelope : Bool) (plaintext : Bytes) :
    Except String InferenceResponseChunk :=
  if !responseChunkPlaintextEnvelope then
    legacyEncryptedInferenceChunk requestID legacySeq plaintext
  else
    match d.chunkType plaintext with
    | none => .error "encrypted chunk plaintext envelope must be valid JSON"
    | some .missing => .error "encrypted chunk plaintext type is required"
    | some .notString => .error "encrypted chunk plaintext type must be a string"
    | some (.string type) =>
      if type ≠ text "inference_response_chunk_plaintext" then
        .error "encrypted chunk plaintext type mismatch"
      else
        match d.chunk plaintext with
        | .error e => .error e
        | .ok (none, _) => .error "encrypted chunk plaintext seq is required"
        | .ok (some seq, data) =>
          if seq < 0 then .error "encrypted chunk plaintext seq must be >= 0"
          else
            match data with
            | none => .error "encrypted chunk plaintext data is required"
            | some data => .ok ⟨requestID, seq, data⟩

/-- Of a frame from the provider. -/
def p2cAAD (peer : Peer) (type requestID : Bytes) (stream : Bool) (seq : UInt64) : AEADFrameAAD :=
  ⟨type, text "p2c", requestID, stream, peer.providerID, peer.assignedID, seq⟩

/-- The number is checked, the frame opened, the number marked. -/
def openP2CFrame (p : Primitives) (peer : Peer) (s : Tier2Session) (type requestID : Bytes)
    (stream : Bool) (seq : UInt64) (e : AEADEnvelope) : Except String Bytes × Tier2Session :=
  if seq = exhausted then (.error "tier2 p2c frame counter exhausted", s)
  else if tier2P2CSequenceOutsideWindow s seq then
    (.error "tier2 p2c frame sequence outside receive window", s)
  else if tier2P2CSequenceSeen s seq then (.error "tier2 p2c frame replayed", s)
  else
    match openPillarBFrame p s.p2cKey s.p2cNonceBase s.keyID seq
      (p2cAAD peer type requestID stream seq) e with
    | .error m => (.error m, s)
    | .ok plaintext => (.ok plaintext, markTier2P2CSequenceSeen s seq)

/-- The type of a chunk. -/
def chunkType : Bytes := text "inference_response_chunk"

/-- The type of an end. -/
def endType : Bytes := text "inference_response_end"

/-- A chunk of an active request. -/
def openInferenceChunk (p : Primitives) (d : Decoders) (peer : Peer) (s : Tier2Session)
    (requestID : Bytes) (stream : Bool) (aad : AEADFrameAAD) (e : AEADEnvelope) :
    Except String InferenceResponseChunk × Tier2Session :=
  match openP2CFrame p peer s chunkType requestID stream aad.seq e with
  | (.error m, s') => (.error m, s')
  | (.ok plaintext, s') =>
    (decodeEncryptedInferenceChunkPlaintext d requestID aad.seq s.responseChunkPlaintextEnvelope
      plaintext, s')

/-- The end of an active request. -/
def openInferenceEnd (p : Primitives) (d : Decoders) (peer : Peer) (s : Tier2Session)
    (requestID : Bytes) (stream : Bool) (aad : AEADFrameAAD) (e : AEADEnvelope) :
    Except String InferenceResponseEnd × Tier2Session :=
  match openP2CFrame p peer s endType requestID stream aad.seq e with
  | (.error m, s') => (.error m, s')
  | (.ok plaintext, s') => (d.responseEnd plaintext, s')

/-- A late frame of a retired request. -/
def consumeRetiredEncryptedFrame (p : Primitives) (peer : Peer) (s : Tier2Session)
    (stream : Bool) (expectedType expectedRequestID : Bytes) (aad : AEADFrameAAD)
    (e : AEADEnvelope) : Except String Unit × Tier2Session :=
  if aad.seq = exhausted then (.error "tier2 p2c frame counter exhausted", s)
  else if aad.type ≠ expectedType then (.error "tier2 retired frame type mismatch", s)
  else if aad.direction ≠ text "p2c" then (.error "tier2 retired frame direction mismatch", s)
  else if aad.requestID ≠ expectedRequestID then
    (.error "tier2 retired frame request_id mismatch", s)
  else if aad.stream ≠ stream then (.error "tier2 retired frame stream mismatch", s)
  else
    match openP2CFrame p peer s expectedType expectedRequestID stream aad.seq e with
    | (.error m, s') => (.error m, s')
    | (.ok _, s') => (.ok (), s')

/-- The type of a probe result. -/
def losslessnessEncryptedResultType : Bytes := text "losslessness_probe_v1.encrypted_result"

/-- The type of its plaintext. -/
def losslessnessResultPlaintextType : Bytes := text "losslessness_probe_v1.result_plaintext"

/-- The result of a probe. -/
def openLosslessnessProbeResult (p : Primitives) (d : Decoders) (peer : Peer) (s : Tier2Session)
    (probeID : Bytes) (e : AEADEnvelope) : Except String Bytes × Tier2Session :=
  if s.p2cCounter = exhausted then (.error "tier2 p2c frame counter exhausted", s)
  else
    match openPillarBFrame p s.p2cKey s.p2cNonceBase s.keyID s.p2cCounter
      (p2cAAD peer losslessnessEncryptedResultType probeID false s.p2cCounter) e with
    | .error m => (.error m, s)
    | .ok plaintext =>
      match d.carrier plaintext with
      | .error m => (.error m, s)
      | .ok (type, payload) =>
        if type ≠ losslessnessResultPlaintextType ∨ payload = [] then
          (.error "invalid losslessness result plaintext envelope", s)
        -- the counter steps without a look at the set
        else (.ok payload, { s with p2cCounter := s.p2cCounter + 1 })

/-! ### Frames -/

/-- What is known of the request of a frame. -/
inductive Known
  | active (requestID : Bytes) (stream : Bool)
  | retired (requestID : Bytes) (stream : Bool)

/-- An encrypted frame from the provider. -/
inductive Frame
  | chunk (known : Known) (e : AEADEnvelope)
  | responseEnd (known : Known) (e : AEADEnvelope)
  | losslessness (probeID : Bytes) (e : AEADEnvelope)

namespace Frame

/-- What the frame carries. -/
def envelope : Frame → AEADEnvelope
  | chunk _ e => e
  | responseEnd _ e => e
  | losslessness _ e => e

/-- The number it carries. -/
def seq (f : Frame) : UInt64 := f.envelope.seq

end Frame

variable (p : Primitives) (d : Decoders) (peer : Peer)

/-- Whether it was opened. -/
def forget {α : Type} (r : Except String α × Tier2Session) : Except String Unit × Tier2Session :=
  (r.1.map fun _ => (), r.2)

/-- The encrypted part of the three handlers. -/
def receive (s : Tier2Session) : Frame → Except String Unit × Tier2Session
  | .chunk known e =>
    match decodeAEADAAD p e.aad with
    | .error m => (.error m, s)
    | .ok (aad, _) =>
      match known with
      | .active requestID stream => forget (openInferenceChunk p d peer s requestID stream aad e)
      | .retired requestID stream =>
        consumeRetiredEncryptedFrame p peer s stream chunkType requestID aad e
  | .responseEnd known e =>
    match decodeAEADAAD p e.aad with
    | .error m => (.error m, s)
    | .ok (aad, _) =>
      match known with
      | .active requestID stream => forget (openInferenceEnd p d peer s requestID stream aad e)
      | .retired requestID stream =>
        consumeRetiredEncryptedFrame p peer s stream endType requestID aad e
  | .losslessness probeID e => forget (openLosslessnessProbeResult p d peer s probeID e)

/-- Its number, and the counter it met. -/
structure Accepted where
  seq : UInt64
  counter : UInt64

/-- A session key, with its accepted frames. -/
structure Receiver where
  session : Tier2Session
  accepted : List Accepted
  closed : Bool

/-- No frame has come. -/
def Receiver.start (s : Tier2Session) : Receiver := ⟨s, [], false⟩

/-- A refused response frame closes the session, a probe result does not. -/
def Receiver.refuse (r : Receiver) (s : Tier2Session) : Frame → Receiver
  | .losslessness _ _ => { r with session := s }
  | _ => { r with session := s, closed := true }

/-- One frame. -/
def step (r : Receiver) (f : Frame) : Receiver :=
  if r.closed then r
  else
    match receive p d peer r.session f with
    | (.ok (), s) =>
      { r with session := s, accepted := r.accepted ++ [⟨f.seq, r.session.p2cCounter⟩] }
    | (.error _, s) => r.refuse s f

/-! ### What a frame can do to the session -/

/-- The keys of a session, which no frame changes. -/
structure SameKeys (s s' : Tier2Session) : Prop where
  p2cKey : s'.p2cKey = s.p2cKey
  p2cNonceBase : s'.p2cNonceBase = s.p2cNonceBase
  keyID : s'.keyID = s.keyID
  envelope : s'.responseChunkPlaintextEnvelope = s.responseChunkPlaintextEnvelope

theorem sameKeys_drainSeen (k : ℕ) (s : Tier2Session) : SameKeys s (drainSeen k s) := by
  induction k generalizing s with
  | zero => exact ⟨rfl, rfl, rfl, rfl⟩
  | succ k ih =>
    rw [drainSeen]
    split_ifs
    · exact ⟨(ih _).p2cKey, (ih _).p2cNonceBase, (ih _).keyID, (ih _).envelope⟩
    · exact ⟨rfl, rfl, rfl, rfl⟩

theorem sameKeys_mark (s : Tier2Session) (seq : UInt64) :
    SameKeys s (markTier2P2CSequenceSeen s seq) := by
  rw [markTier2P2CSequenceSeen]
  split_ifs
  · have h := sameKeys_drainSeen s.p2cSeen.card { s with p2cCounter := s.p2cCounter + 1 }
    exact ⟨h.p2cKey, h.p2cNonceBase, h.keyID, h.envelope⟩
  · exact ⟨rfl, rfl, rfl, rfl⟩
  · exact ⟨rfl, rfl, rfl, rfl⟩

/-- It fits, and has not come. -/
structure Fresh (s : Tier2Session) (seq : UInt64) : Prop where
  ne_exhausted : seq ≠ exhausted
  inWindow : seq.toNat ≤ s.p2cCounter.toNat + 4096
  counter_le : s.p2cCounter ≤ seq
  notMem : seq ∉ s.p2cSeen

/-- **What a frame can do**: be refused, mark a fresh number, or be a due probe result. -/
inductive Receives (s : Tier2Session) (f : Frame) : Except String Unit → Tier2Session → Prop
  | refused (m : String) : Receives s f (.error m) s
  | marked (r : Except String Unit) (hfresh : Fresh s f.seq)
      (hresponse : ∀ probeID e, f ≠ .losslessness probeID e) :
      Receives s f r (markTier2P2CSequenceSeen s f.seq)
  | stepped (hdue : f.seq = s.p2cCounter) (hne : s.p2cCounter ≠ exhausted)
      (hprobe : ∃ probeID e, f = .losslessness probeID e) :
      Receives s f (.ok ()) { s with p2cCounter := s.p2cCounter + 1 }

variable {s : Tier2Session} {seq : UInt64}

theorem outsideWindow_eq_false_iff :
    tier2P2CSequenceOutsideWindow s seq = false ↔ seq.toNat ≤ s.p2cCounter.toNat + 4096 := by
  have hmax : tier2MaxOutOfOrderP2CFrames.toNat = 4096 := by decide
  rw [tier2P2CSequenceOutsideWindow]
  split_ifs with hle
  · have hle : seq.toNat ≤ s.p2cCounter.toNat := UInt64.le_iff_toNat_le.mp hle
    exact iff_of_true rfl (by omega)
  · have hlt : ¬ seq.toNat ≤ s.p2cCounter.toNat := fun h => hle (UInt64.le_iff_toNat_le.mpr h)
    have hsub : (seq - s.p2cCounter).toNat = seq.toNat - s.p2cCounter.toNat :=
      UInt64.toNat_sub_of_le _ _ (UInt64.le_iff_toNat_le.mpr (by omega))
    rw [decide_eq_false_iff_not, UInt64.lt_iff_toNat_lt, hmax, hsub]
    omega

theorem sequenceSeen_eq_false_iff :
    tier2P2CSequenceSeen s seq = false ↔ s.p2cCounter ≤ seq ∧ seq ∉ s.p2cSeen := by
  rw [tier2P2CSequenceSeen]
  split_ifs with hlt
  · exact iff_of_false (by simp) fun h => absurd hlt (UInt64.not_lt.mpr h.1)
  · rw [decide_eq_false_iff_not]
    exact ⟨fun h => ⟨UInt64.not_lt.mp hlt, h⟩, fun h => h.2⟩

theorem openP2CFrame_cases (s : Tier2Session) (type rid : Bytes) (stream : Bool)
    (seq : UInt64) (e : AEADEnvelope) :
    (∃ m, openP2CFrame p peer s type rid stream seq e = (.error m, s)) ∨
    (e.seq = seq ∧ Fresh s seq ∧ ∃ plain,
      openP2CFrame p peer s type rid stream seq e =
        (.ok plain, markTier2P2CSequenceSeen s seq)) := by
  rw [openP2CFrame]
  split_ifs with hex hout hseen
  · exact .inl ⟨_, rfl⟩
  · exact .inl ⟨_, rfl⟩
  · exact .inl ⟨_, rfl⟩
  · rcases hopen : openPillarBFrame p s.p2cKey s.p2cNonceBase s.keyID seq
      (p2cAAD peer type rid stream seq) e with m | plain
    · exact .inl ⟨m, rfl⟩
    · have hfree := sequenceSeen_eq_false_iff.mp (Bool.not_eq_true _ ▸ hseen)
      have hin := outsideWindow_eq_false_iff.mp (Bool.not_eq_true _ ▸ hout)
      exact .inr ⟨seq_of_open hopen, ⟨hex, hin, hfree.1, hfree.2⟩, plain, rfl⟩

theorem receives_consumeRetired {f : Frame} (stream : Bool) (type rid : Bytes)
    (aad : AEADFrameAAD) (hresponse : ∀ probeID e, f ≠ .losslessness probeID e) :
    Receives s f (consumeRetiredEncryptedFrame p peer s stream type rid aad f.envelope).1
      (consumeRetiredEncryptedFrame p peer s stream type rid aad f.envelope).2 := by
  rw [consumeRetiredEncryptedFrame]
  split_ifs
  · exact .refused _
  · exact .refused _
  · exact .refused _
  · exact .refused _
  · exact .refused _
  · obtain ⟨m, h⟩ | ⟨hseq, hfresh, plain, h⟩ :=
      openP2CFrame_cases p peer s type rid stream aad.seq f.envelope
    · rw [h]
      exact .refused m
    · rw [h]
      have hf : f.seq = aad.seq := hseq
      rw [← hf] at hfresh ⊢
      exact .marked _ hfresh hresponse

theorem receives (s : Tier2Session) (f : Frame) :
    Receives s f (receive p d peer s f).1 (receive p d peer s f).2 := by
  have hchunk : ∀ known e probeID e', Frame.chunk known e ≠ .losslessness probeID e' :=
    fun _ _ _ _ => Frame.noConfusion
  have hend : ∀ known e probeID e', Frame.responseEnd known e ≠ .losslessness probeID e' :=
    fun _ _ _ _ => Frame.noConfusion
  cases f with
  | chunk known e =>
    rw [receive]
    rcases decodeAEADAAD p e.aad with m | ⟨aad, raw⟩
    · exact .refused m
    · cases known with
      | retired rid stream =>
        exact receives_consumeRetired p peer (f := .chunk _ e) stream _ _ aad (hchunk _ e)
      | active rid stream =>
        simp only [openInferenceChunk, forget]
        obtain ⟨m, h⟩ | ⟨hseq, hfresh, plain, h⟩ :=
          openP2CFrame_cases p peer s chunkType rid stream aad.seq e
        · rw [h]
          exact .refused m
        · rw [h, ← hseq]
          rw [← hseq] at hfresh
          exact .marked (f := .chunk _ e) _ hfresh (hchunk _ e)
  | responseEnd known e =>
    rw [receive]
    rcases decodeAEADAAD p e.aad with m | ⟨aad, raw⟩
    · exact .refused m
    · cases known with
      | retired rid stream =>
        exact receives_consumeRetired p peer (f := .responseEnd _ e) stream _ _ aad (hend _ e)
      | active rid stream =>
        simp only [openInferenceEnd, forget]
        obtain ⟨m, h⟩ | ⟨hseq, hfresh, plain, h⟩ :=
          openP2CFrame_cases p peer s endType rid stream aad.seq e
        · rw [h]
          exact .refused m
        · rw [h, ← hseq]
          rw [← hseq] at hfresh
          exact .marked (f := .responseEnd _ e) _ hfresh (hend _ e)
  | losslessness probeID e =>
    rw [receive, openLosslessnessProbeResult, forget]
    split_ifs with hex
    · exact .refused _
    · rcases hopen : openPillarBFrame p s.p2cKey s.p2cNonceBase s.keyID s.p2cCounter
        (p2cAAD peer losslessnessEncryptedResultType probeID false s.p2cCounter) e with m | plain
      · exact .refused m
      · dsimp only
        rcases d.carrier plain with m | ⟨type, payload⟩
        · exact .refused m
        · dsimp only
          split_ifs
          · exact .refused _
          · exact .stepped (seq_of_open hopen) hex ⟨probeID, e, rfl⟩

/-! ### The session as a receive window -/

/-- The window of the library. -/
def window (s : Tier2Session) : Window := ⟨s.p2cCounter.toNat, s.p2cSeen.image UInt64.toNat⟩

theorem toNat_injective : Function.Injective UInt64.toNat := fun _ _ => UInt64.toNat_inj.mp

theorem toNat_mem_ahead {u : UInt64} : u.toNat ∈ (window s).ahead ↔ u ∈ s.p2cSeen := by
  simp only [window, Finset.mem_image]
  exact ⟨fun ⟨v, hv, h⟩ => toNat_injective h ▸ hv, fun h => ⟨u, h, rfl⟩⟩

theorem next_mem_ahead : (window s).next ∈ (window s).ahead ↔ s.p2cCounter ∈ s.p2cSeen :=
  toNat_mem_ahead

theorem within_iff :
    (window s).Within 4096 ↔
      ∀ u ∈ s.p2cSeen, s.p2cCounter < u ∧ u.toNat ≤ s.p2cCounter.toNat + 4096 := by
  constructor
  · intro h u hu
    have hmem := h _ (toNat_mem_ahead.mpr hu)
    exact ⟨UInt64.lt_iff_toNat_lt.mpr hmem.1, hmem.2⟩
  · intro h n hn
    obtain ⟨u, hu, rfl⟩ := Finset.mem_image.mp hn
    exact ⟨UInt64.lt_iff_toNat_lt.mp (h u hu).1, (h u hu).2⟩

theorem drainSeen_subset (k : ℕ) (s : Tier2Session) : (drainSeen k s).p2cSeen ⊆ s.p2cSeen := by
  induction k generalizing s with
  | zero => exact fun _ h => h
  | succ k ih =>
    rw [drainSeen]
    split_ifs
    · exact (ih _).trans (Finset.erase_subset _ _)
    · exact fun _ h => h

theorem exhausted_notMem_mark (h : exhausted ∉ s.p2cSeen) (hseq : seq ≠ exhausted) :
    exhausted ∉ (markTier2P2CSequenceSeen s seq).p2cSeen := by
  rw [markTier2P2CSequenceSeen]
  split_ifs
  · have hsub := drainSeen_subset s.p2cSeen.card { s with p2cCounter := s.p2cCounter + 1 }
    exact fun hmem => h (hsub hmem)
  · exact h
  · intro hmem
    rcases Finset.mem_insert.mp hmem with heq | hmem
    · exact hseq heq.symm
    · exact h hmem

theorem window_drainSeen (k : ℕ) (h : exhausted ∉ s.p2cSeen) :
    window (drainSeen k s) = (window s).drain k := by
  induction k generalizing s with
  | zero => rfl
  | succ k ih =>
    rw [drainSeen, Window.drain]
    by_cases hmem : s.p2cCounter ∈ s.p2cSeen
    · have hne : s.p2cCounter ≠ exhausted := fun heq => h (heq ▸ hmem)
      have hwindow : window { s with
            p2cSeen := s.p2cSeen.erase s.p2cCounter
            p2cCounter := s.p2cCounter + 1 } =
          ⟨(window s).next + 1, (window s).ahead.erase (window s).next⟩ := by
        simp only [window, toNat_succ hne, Finset.image_erase toNat_injective]
      rw [if_pos hmem, if_pos (next_mem_ahead.mpr hmem), ← hwindow]
      exact ih fun hin => h (Finset.mem_of_mem_erase hin)
    · rw [if_neg hmem, if_neg fun hin => hmem (next_mem_ahead.mp hin)]

/-- **A marked session is the marked window.** -/
theorem window_mark (h : exhausted ∉ s.p2cSeen) (hseq : seq ≠ exhausted) :
    window (markTier2P2CSequenceSeen s seq) = (window s).mark seq.toNat := by
  rw [markTier2P2CSequenceSeen, Window.mark]
  have hnext : (window s).next = s.p2cCounter.toNat := rfl
  by_cases heq : seq = s.p2cCounter
  · have hcard : (window s).ahead.card = s.p2cSeen.card :=
      Finset.card_image_of_injective _ toNat_injective
    have hwindow : window { s with p2cCounter := s.p2cCounter + 1 } =
        ⟨(window s).next + 1, (window s).ahead⟩ := by
      simp only [window, toNat_succ (heq ▸ hseq : s.p2cCounter ≠ exhausted)]
    rw [if_pos heq, hnext, if_pos (congrArg UInt64.toNat heq), hcard, ← hnext, ← hwindow]
    exact window_drainSeen _ h
  · rw [if_neg heq, hnext, if_neg fun hn => heq (toNat_injective hn)]
    by_cases hlt : seq < s.p2cCounter
    · rw [if_pos hlt, if_pos (UInt64.lt_iff_toNat_lt.mp hlt)]
    · rw [if_neg hlt, if_neg fun hn => hlt (UInt64.lt_iff_toNat_lt.mpr hn)]
      simp only [window, Finset.image_insert]

theorem window_step (hne : s.p2cCounter ≠ exhausted) :
    window { s with p2cCounter := s.p2cCounter + 1 } = ⟨(window s).next + 1, (window s).ahead⟩ := by
  simp only [window, toNat_succ hne]

theorem window_step_eq_mark (hne : s.p2cCounter ≠ exhausted) (h : s.p2cCounter + 1 ∉ s.p2cSeen) :
    window { s with p2cCounter := s.p2cCounter + 1 } = (window s).mark s.p2cCounter.toNat := by
  have hnext : (window s).next + 1 ∉ (window s).ahead := by
    intro hmem
    have : (s.p2cCounter + 1).toNat ∈ (window s).ahead := toNat_succ hne ▸ hmem
    exact h (toNat_mem_ahead.mp this)
  rw [window_step hne]
  exact (Window.mark_next_of_notMem hnext).symm

theorem Fresh.notMem_consumed (h : Fresh s seq) : seq.toNat ∉ (window s).consumed := by
  rintro (hlt | hmem)
  · have := UInt64.le_iff_toNat_le.mp h.counter_le
    simp only [window] at hlt
    omega
  · exact h.notMem (toNat_mem_ahead.mp hmem)

/-! ### A session to run -/

section Demo

/-- A cipher that hides nothing, over plain texts. -/
def demoPrimitives : Primitives where
  encodeToString b := b
  decodeString b := .ok b
  gcmSeal _ _ plaintext _ := plaintext ++ List.replicate 16 0
  gcmOpen _ _ sealed _ := .ok (sealed.take (sealed.length - 16))
  unmarshalAAD _ := .error "unexpected end of JSON input"

theorem demoPrimitives_lawful : demoPrimitives.Lawful where
  decode_encode _ := rfl
  open_seal _ _ plain _ := by
    simp only [demoPrimitives, List.length_append, List.length_replicate, Nat.add_sub_cancel,
      List.take_left]

/-- Decoders for the texts below. -/
def demoDecoders : Decoders where
  chunkType _ := none
  chunk _ := .error "unexpected end of JSON input"
  responseEnd _ := .ok ⟨[]⟩
  carrier b := .ok (losslessnessResultPlaintextType, b)

def demoPeer : Peer := ⟨text "provider", text "session"⟩

def demoSession : Tier2Session where
  aeadSuite := pillarBAEADA256GCM
  responseChunkPlaintextEnvelope := false
  inBandAEADRekeyV1 := true
  c2pKey := List.replicate 32 1
  p2cKey := List.replicate 32 2
  c2pNonceBase := List.replicate 4 3
  p2cNonceBase := List.replicate 4 4
  c2pCounter := 0
  p2cCounter := 0
  p2cSeen := ∅
  keyID := text "kid"

/-- A frame sealed by the provider. -/
def demoEnvelope (type requestID : Bytes) (stream : Bool) (seq : UInt64) : AEADEnvelope :=
  match sealPillarBFrame demoPrimitives demoSession.p2cKey demoSession.p2cNonceBase
    demoSession.keyID seq (p2cAAD demoPeer type requestID stream seq) (text "data") with
  | .ok e => e
  | .error _ => ⟨false, [], 0, [], [], [], [], []⟩

def demoChunk (seq : UInt64) : Frame :=
  .chunk (.active (text "req-a") true) (demoEnvelope chunkType (text "req-a") true seq)

def demoProbe (seq : UInt64) : Frame :=
  .losslessness (text "probe")
    (demoEnvelope losslessnessEncryptedResultType (text "probe") false seq)

end Demo

end MacProvider.Coordinator.Relay.Receive
