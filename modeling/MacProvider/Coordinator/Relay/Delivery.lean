import MacProvider.Coordinator.Relay.Replay

/-! # Honest providers

A provider that numbers its frames from the counter on has all of them accepted, in any order within
the window, exactly if each probe result comes when due and before the next number. -/

namespace MacProvider.Coordinator.Relay.Delivery

open Relay.Frames Relay.Receive Relay.Replay Lib.ReceiveWindow Lib.Runs

section Definitions
variable (p : Primitives) (d : Decoders) (peer : Peer)

/-- What a frame is bound to. -/
def frameAAD (peer : Peer) (f : Frame) : AEADFrameAAD :=
  match f with
  | .chunk (.active requestID stream) _ => p2cAAD peer chunkType requestID stream f.seq
  | .chunk (.retired requestID stream) _ => p2cAAD peer chunkType requestID stream f.seq
  | .responseEnd (.active requestID stream) _ => p2cAAD peer endType requestID stream f.seq
  | .responseEnd (.retired requestID stream) _ => p2cAAD peer endType requestID stream f.seq
  | .losslessness probeID _ => p2cAAD peer losslessnessEncryptedResultType probeID false f.seq

/-- A plaintext of the expected form. -/
def WellFormed (d : Decoders) (envelope : Bool) (f : Frame) (plaintext : Bytes) : Prop :=
  match f with
  | .chunk (.active requestID _) _ =>
    envelope = true →
      (decodeEncryptedInferenceChunkPlaintext d requestID f.seq true plaintext).isOk = true
  | .responseEnd (.active _ _) _ => (d.responseEnd plaintext).isOk = true
  | .losslessness _ _ =>
    ∃ payload, payload ≠ [] ∧ d.carrier plaintext = .ok (losslessnessResultPlaintextType, payload)
  | _ => True

/-- Sealed with the session's keys, for a known request. -/
def Honest (s : Tier2Session) (f : Frame) : Prop :=
  ∃ plaintext, sealPillarBFrame p s.p2cKey s.p2cNonceBase s.keyID f.seq
    (frameAAD peer f) plaintext =
    .ok f.envelope ∧ WellFormed d s.responseChunkPlaintextEnvelope f plaintext

/-- At most the counter plus the window. -/
def InWindow (r : Receiver) (f : Frame) : Prop :=
  f.seq.toNat ≤ r.session.p2cCounter.toNat + 4096

instance (r : Receiver) (f : Frame) : Decidable (InWindow r f) :=
  inferInstanceAs (Decidable (_ ≤ _))

/-- The frame is accepted. -/
def Accepts (r : Receiver) (f : Frame) : Prop :=
  r.closed = false ∧ (receive p d peer r.session f).1.isOk = true

instance (r : Receiver) (f : Frame) : Decidable (Accepts p d peer r f) :=
  inferInstanceAs (Decidable (_ ∧ _))

/-- A probe result is due and the next number has not come; numbers do not run out. -/
def InTurn (r : Receiver) (f : Frame) : Prop :=
  f.seq ≠ exhausted ∧
    match f with
    | .losslessness _ _ =>
      f.seq = r.session.p2cCounter ∧ r.session.p2cCounter + 1 ∉ r.session.p2cSeen
    | .chunk (.active _ _) _ =>
      r.session.responseChunkPlaintextEnvelope = true ∨ f.seq.toNat ≤ 2 ^ 63 - 1
    | _ => True

instance (r : Receiver) : ∀ f, Decidable (InTurn r f)
  | .losslessness _ _ => inferInstanceAs (Decidable (_ ∧ _ ∧ _))
  | .chunk (.active _ _) _ => inferInstanceAs (Decidable (_ ∧ (_ ∨ _)))
  | .chunk (.retired _ _) _ => inferInstanceAs (Decidable (_ ∧ True))
  | .responseEnd _ _ => inferInstanceAs (Decidable (_ ∧ True))

end Definitions

variable {p : Primitives} {d : Decoders} {peer : Peer}
variable {s s' : Tier2Session} {f : Frame} {r : Receiver}

theorem Honest.congr (h : Honest p d peer s f) (hs : SameKeys s s') : Honest p d peer s' f := by
  obtain ⟨plain, hseal, hform⟩ := h
  refine ⟨plain, ?_, hs.envelope ▸ hform⟩
  rw [hs.p2cKey, hs.p2cNonceBase, hs.keyID]
  exact hseal

variable {plain rid : Bytes} {seq : UInt64} {e : AEADEnvelope} {frames : List Frame}

theorem decodeAEADAAD_of_seal (hp : p.Lawful) {key base keyID : Bytes} {aad : AEADFrameAAD}
    (h : sealPillarBFrame p key base keyID seq aad plain = .ok e) :
    ∃ raw, decodeAEADAAD p e.aad = .ok (aad, raw) := by
  rw [sealPillarBFrame] at h
  split_ifs at h
  obtain ⟨_, -, h⟩ := bind_eq_ok.mp h
  obtain ⟨raw, hraw, h⟩ := bind_eq_ok.mp h
  obtain ⟨_, -, h⟩ := bind_eq_ok.mp h
  rw [← Except.ok.inj h]
  exact ⟨raw, decodeAEADAAD_encode hp hraw⟩

theorem openP2CFrame_of_fresh (hp : p.Lawful) {type : Bytes} {stream : Bool} (hfresh : Fresh s seq)
    (hseal : sealPillarBFrame p s.p2cKey s.p2cNonceBase s.keyID seq
      (p2cAAD peer type rid stream seq) plain = .ok e) :
    openP2CFrame p peer s type rid stream seq e = (.ok plain, markTier2P2CSequenceSeen s seq) := by
  have hout := outsideWindow_eq_false_iff.mpr hfresh.inWindow
  have hseen := sequenceSeen_eq_false_iff.mpr ⟨hfresh.counter_le, hfresh.notMem⟩
  rw [openP2CFrame, if_neg hfresh.ne_exhausted, hout, if_neg (by simp), hseen, if_neg (by simp),
    open_seal hp hseal]

theorem consumeRetired_of_fresh (hp : p.Lawful) {type : Bytes} {stream : Bool}
    (hfresh : Fresh s seq)
    (hseal : sealPillarBFrame p s.p2cKey s.p2cNonceBase s.keyID seq
      (p2cAAD peer type rid stream seq) plain = .ok e) :
    consumeRetiredEncryptedFrame p peer s stream type rid
      (p2cAAD peer type rid stream seq) e = (.ok (), markTier2P2CSequenceSeen s seq) := by
  have hopen := openP2CFrame_of_fresh hp hfresh hseal
  simp only [consumeRetiredEncryptedFrame, p2cAAD] at hopen ⊢
  simp only [hfresh.ne_exhausted, ne_eq, not_true_eq_false, if_false, hopen]

theorem decodeChunk_isOk {envelope : Bool}
    (hform : envelope = true →
      (decodeEncryptedInferenceChunkPlaintext d rid seq true plain).isOk = true) :
    (decodeEncryptedInferenceChunkPlaintext d rid seq envelope plain).isOk = true ↔
      (envelope = true ∨ seq.toNat ≤ 2 ^ 63 - 1) := by
  cases envelope with
  | true => exact iff_of_true (hform rfl) (.inl rfl)
  | false =>
    rw [decodeEncryptedInferenceChunkPlaintext, if_pos (by rfl), legacyEncryptedInferenceChunk]
    split_ifs with hbig
    · refine iff_of_false (by simp [Except.isOk, Except.toBool]) ?_
      rintro (h | h)
      · exact h.elim
      · omega
    · exact iff_of_true rfl (.inr (by omega))

theorem isOk_map {α : Type} (x : Except String α) : (x.map fun _ => ()).isOk = x.isOk := by
  cases x <;> rfl

/-- **A fresh honest frame is accepted** if its number fits, a probe's if it is due. -/
theorem receive_honest (hp : p.Lawful) (hfresh : Fresh s f.seq) (hhonest : Honest p d peer s f)
    (hresponse : ∀ probeID e, f ≠ .losslessness probeID e) :
    (receive p d peer s f).2 = markTier2P2CSequenceSeen s f.seq ∧
      ((receive p d peer s f).1.isOk = true ↔ match f with
        | .chunk (.active _ _) _ =>
          s.responseChunkPlaintextEnvelope = true ∨ f.seq.toNat ≤ 2 ^ 63 - 1
        | _ => True) := by
  obtain ⟨plain, hseal, hform⟩ := hhonest
  obtain ⟨raw, hdecode⟩ := decodeAEADAAD_of_seal hp hseal
  rcases f with ⟨⟨rid, stream⟩ | ⟨rid, stream⟩, e⟩ |
    ⟨⟨rid, stream⟩ | ⟨rid, stream⟩, e⟩ | ⟨probeID, e⟩
  case chunk.retired | responseEnd.retired =>
    have hconsume := consumeRetired_of_fresh hp hfresh hseal
    simp only [Frame.envelope] at hdecode hconsume
    simp only [receive, hdecode, frameAAD, hconsume]
    exact ⟨trivial, iff_of_true rfl trivial⟩
  · have hopen := openP2CFrame_of_fresh hp hfresh hseal
    simp only [Frame.envelope] at hdecode hopen
    simp only [receive, hdecode, openInferenceChunk, frameAAD, p2cAAD, forget, hopen, isOk_map]
    exact ⟨trivial, decodeChunk_isOk hform⟩
  · have hopen := openP2CFrame_of_fresh hp hfresh hseal
    simp only [Frame.envelope] at hdecode hopen
    simp only [receive, hdecode, openInferenceEnd, frameAAD, p2cAAD, forget, hopen, isOk_map]
    exact ⟨trivial, iff_of_true hform trivial⟩
  · exact absurd rfl (hresponse probeID e)

theorem receive_honest_probe (hp : p.Lawful) {probeID : Bytes}
    (hhonest : Honest p d peer s (.losslessness probeID e)) (hne : s.p2cCounter ≠ exhausted)
    (hdue : e.seq = s.p2cCounter) :
    receive p d peer s (.losslessness probeID e) =
      (.ok (), { s with p2cCounter := s.p2cCounter + 1 }) := by
  obtain ⟨plain, hseal, payload, hpayload, hcarrier⟩ := hhonest
  have hopen := open_seal hp hseal
  simp only [Frame.seq, Frame.envelope, frameAAD, hdue] at hopen
  simp only [receive, openLosslessnessProbeResult, if_neg hne, hopen, hcarrier, ne_eq,
    not_true_eq_false, hpayload, or_self, if_false, forget]
  rfl

/-- The numbers to come, none of them consumed. -/
structure Awaits (p : Primitives) (d : Decoders) (peer : Peer) (r : Receiver)
    (frames : List Frame) : Prop where
  isOpen : r.closed = false
  within : (window r.session).Within 4096
  room : exhausted ∉ r.session.p2cSeen
  honest : ∀ f ∈ frames, Honest p d peer r.session f
  nodup : (frames.map fun f => f.seq.toNat).Nodup
  fresh : ∀ f ∈ frames, f.seq.toNat ∉ (window r.session).consumed

theorem fresh_of_notMem (hne : f.seq ≠ exhausted) (hin : InWindow r f)
    (hnew : f.seq.toNat ∉ (window r.session).consumed) : Fresh r.session f.seq := by
  rw [Window.mem_consumed, not_or, toNat_mem_ahead] at hnew
  exact ⟨hne, hin, UInt64.le_iff_toNat_le.mpr (not_lt.mp hnew.1), hnew.2⟩

/-- **One frame in its turn** is accepted. -/
theorem Awaits.receive (hp : p.Lawful) (h : Awaits p d peer r (f :: frames)) (hin : InWindow r f)
    (hturn : InTurn r f) :
    (receive p d peer r.session f).1.isOk = true ∧
      SameKeys r.session (receive p d peer r.session f).2 ∧
      exhausted ∉ (receive p d peer r.session f).2.p2cSeen ∧
      window (receive p d peer r.session f).2 = (window r.session).mark f.seq.toNat := by
  have hfresh := fresh_of_notMem hturn.1 hin (h.fresh f List.mem_cons_self)
  have hhonest := h.honest f List.mem_cons_self
  by_cases hprobe : ∃ probeID e, f = .losslessness probeID e
  · obtain ⟨probeID, e, rfl⟩ := hprobe
    obtain ⟨hne, hdue, hfree⟩ := hturn
    rw [hdue] at hne
    rw [receive_honest_probe hp hhonest hne hdue, hdue]
    exact ⟨rfl, ⟨rfl, rfl, rfl, rfl⟩, h.room, window_step_eq_mark hne hfree⟩
  · have hresponse : ∀ probeID e, f ≠ .losslessness probeID e :=
      fun probeID e heq => hprobe ⟨probeID, e, heq⟩
    have hrec := receive_honest hp hfresh hhonest hresponse
    refine ⟨hrec.2.mpr ?_, ?_⟩
    · rcases f with ⟨_ | _, e⟩ | ⟨_ | _, e⟩ | ⟨probeID, e⟩
      · exact hturn.2
      · trivial
      · trivial
      · trivial
      · exact absurd rfl (hresponse probeID e)
    · rw [hrec.1]
      exact ⟨sameKeys_mark _ _, exhausted_notMem_mark h.room hfresh.ne_exhausted,
        window_mark h.room hfresh.ne_exhausted⟩

theorem step_of_isOk (hopen : r.closed = false)
    (hok : (receive p d peer r.session f).1.isOk = true) :
    step p d peer r f = ⟨(receive p d peer r.session f).2,
      r.accepted ++ [⟨f.seq, r.session.p2cCounter⟩], false⟩ := by
  rw [step, hopen, if_neg (by simp)]
  rcases hres : Receive.receive p d peer r.session f with ⟨m | u, s⟩
  · rw [hres] at hok
    cases hok
  · rfl

theorem Awaits.step (hp : p.Lawful) (h : Awaits p d peer r (f :: frames)) (hin : InWindow r f)
    (hturn : InTurn r f) :
    Awaits p d peer (Receive.step p d peer r f) frames ∧
      (window (Receive.step p d peer r f).session).consumed =
        insert f.seq.toNat (window r.session).consumed := by
  obtain ⟨hok, hkeys, hroom, hwindow⟩ := h.receive hp hin hturn
  rw [step_of_isOk h.isOpen hok]
  have hconsumed := Window.consumed_mark h.within f.seq.toNat
  rw [← hwindow] at hconsumed
  have hnodup := List.nodup_cons.mp (List.map_cons ▸ h.nodup)
  refine ⟨⟨rfl, hwindow ▸ Window.within_mark h.within hin, hroom, ?_, hnodup.2, ?_⟩, hconsumed⟩
  · intro g hg
    exact (h.honest g (List.mem_cons_of_mem _ hg)).congr hkeys
  · intro g hg hmem
    rw [hconsumed] at hmem
    rcases hmem with heq | hmem
    · exact hnodup.1 (List.mem_map.mpr ⟨g, hg, heq⟩)
    · exact h.fresh g (List.mem_cons_of_mem _ hg) hmem

theorem Awaits.run (hp : p.Lawful) (h : Awaits p d peer r frames)
    (hin : Allowed (Receive.step p d peer) InWindow r frames)
    (hturn : Allowed (Receive.step p d peer) InTurn r frames) :
    Allowed (Receive.step p d peer) (Accepts p d peer) r frames ∧
      (window (Lib.Runs.run (Receive.step p d peer) r frames).session).Within 4096 ∧
      ∀ m, m ∈ (window (Lib.Runs.run (Receive.step p d peer) r frames).session).consumed ↔
        m ∈ (window r.session).consumed ∨ m ∈ frames.map fun f => f.seq.toNat := by
  induction frames generalizing r with
  | nil => exact ⟨trivial, h.within, fun m => by simp [Lib.Runs.run]⟩
  | cons f frames ih =>
    obtain ⟨hnext, hconsumed⟩ := h.step hp hin.1 hturn.1
    obtain ⟨hacc, hwithin, hmem⟩ := ih hnext hin.2 hturn.2
    refine ⟨⟨⟨h.isOpen, (h.receive hp hin.1 hturn.1).1⟩, hacc⟩, hwithin, fun m => ?_⟩
    rw [run_cons, hmem m, hconsumed, Set.mem_insert_iff, List.map_cons, List.mem_cons]
    tauto

/-- A counter on a number of the set stays there until the number comes again. -/
theorem stuck (hstuck : r.session.p2cCounter ∈ r.session.p2cSeen)
    (hnot : ∀ f ∈ frames, f.seq ≠ r.session.p2cCounter) :
    (Lib.Runs.run (step p d peer) r frames).session.p2cSeen ≠ ∅ := by
  induction frames generalizing r with
  | nil => exact Finset.ne_empty_of_mem hstuck
  | cons f frames ih =>
    rw [run_cons]
    have hne := hnot f List.mem_cons_self
    have hrest := fun g hg => hnot g (List.mem_cons_of_mem f hg)
    have hstep := step_steps p d peer r f
    generalize step p d peer r f = r' at hstep
    rcases hstep with closed | ⟨closed, accepted, -, hfresh, -, -⟩ | ⟨-, hdue, -, -, -⟩
    · exact ih hstuck hrest
    · have hlater : ¬ f.seq < r.session.p2cCounter := UInt64.not_lt.mpr hfresh.counter_le
      have hmark : markTier2P2CSequenceSeen r.session f.seq =
          { r.session with p2cSeen := insert f.seq r.session.p2cSeen } := by
        rw [markTier2P2CSequenceSeen, if_neg hne, if_neg hlater]
      refine ih ?_ ?_
      · rw [hmark]
        exact Finset.mem_insert_of_mem hstuck
      · rw [hmark]
        exact hrest
    · exact absurd hdue hne

theorem Awaits.inTurn (hp : p.Lawful) (h : Awaits p d peer r (f :: frames)) (hin : InWindow r f)
    (hacc : Accepts p d peer r f)
    (hend : (Lib.Runs.run (Receive.step p d peer) r (f :: frames)).session.p2cSeen = ∅) :
    InTurn r f := by
  have hhonest := h.honest f List.mem_cons_self
  have hrec := receives p d peer r.session f
  rcases hres : Receive.receive p d peer r.session f with ⟨res, s⟩
  have hok := hacc.2
  rw [hres] at hrec hok
  rcases hrec with m | ⟨-, hfresh, hresponse⟩ | ⟨hdue, hne, ⟨probeID, e, rfl⟩⟩
  · cases hok
  · have hiff := (receive_honest hp hfresh hhonest hresponse).2
    rw [hres] at hiff
    have hmatch := hiff.mp hok
    refine ⟨hfresh.ne_exhausted, ?_⟩
    rcases f with ⟨_ | _, e⟩ | ⟨_ | _, e⟩ | ⟨probeID, e⟩
    · exact hmatch
    · trivial
    · trivial
    · trivial
    · exact absurd rfl (hresponse probeID e)
  · refine ⟨hdue ▸ hne, hdue, fun hmem => ?_⟩
    -- the number behind it has come, so no later frame frees the counter
    have hstep := step_of_isOk hacc.1 hacc.2
    rw [hres] at hstep
    rw [run_cons, hstep] at hend
    refine stuck (p := p) (d := d) hmem ?_ hend
    intro g hg heq
    have hgmem : g.seq ∈ r.session.p2cSeen := heq ▸ hmem
    exact h.fresh g (List.mem_cons_of_mem _ hg) (Or.inr (toNat_mem_ahead.mpr hgmem))

theorem Awaits.allowed_inTurn (hp : p.Lawful) (h : Awaits p d peer r frames)
    (hin : Allowed (Receive.step p d peer) InWindow r frames)
    (hacc : Allowed (Receive.step p d peer) (Accepts p d peer) r frames)
    (hend : (Lib.Runs.run (Receive.step p d peer) r frames).session.p2cSeen = ∅) :
    Allowed (Receive.step p d peer) InTurn r frames := by
  induction frames generalizing r with
  | nil => trivial
  | cons f frames ih =>
    have hturn := h.inTurn hp hin.1 hacc.1 hend
    exact ⟨hturn, ih (h.step hp hin.1 hturn).1 hin.2 hacc.2 (run_cons _ _ _ _ ▸ hend)⟩

theorem awaits_start (hfresh : s.p2cSeen = ∅) {m : ℕ}
    (hperm : (frames.map fun f => f.seq.toNat).Perm (List.range' s.p2cCounter.toNat m))
    (hhonest : ∀ f ∈ frames, Honest p d peer s f) : Awaits p d peer (.start s) frames := by
  have hnone : ∀ u, u ∉ s.p2cSeen := by
    intro u hu
    rw [hfresh] at hu
    exact absurd hu (Finset.notMem_empty u)
  refine ⟨rfl, within_iff.mpr fun u hu => absurd hu (hnone u), hnone _, hhonest,
    hperm.nodup_iff.mpr (List.nodup_range' ..), fun f hf hmem => ?_⟩
  have hrange := hperm.mem_iff.mp (List.mem_map.mpr ⟨f, hf, rfl⟩)
  rw [List.mem_range'_1] at hrange
  rcases hmem with hlt | hmem
  · have hnext : (window (Receiver.start s).session).next = s.p2cCounter.toNat := rfl
    omega
  · exact hnone _ (toNat_mem_ahead.mp hmem)

/-- **Honest frames**, numbered from the counter on and within the window, are all accepted and
leave the counter behind them exactly if probe results come when due and before the next number, and
numbers do not run out. -/
theorem honest_frames_accepted_iff (hp : p.Lawful) (hfresh : s.p2cSeen = ∅) {frames : List Frame}
    {m : ℕ} (hperm : (frames.map fun f => f.seq.toNat).Perm (List.range' s.p2cCounter.toNat m))
    (hhonest : ∀ f ∈ frames, Honest p d peer s f)
    (hwindow : Allowed (step p d peer) InWindow (.start s) frames) :
    (Allowed (step p d peer) (Accepts p d peer) (.start s) frames ∧
      (Lib.Runs.run (step p d peer) (.start s) frames).session.p2cCounter.toNat =
        s.p2cCounter.toNat + m ∧
      (Lib.Runs.run (step p d peer) (.start s) frames).session.p2cSeen = ∅) ↔
    Allowed (step p d peer) InTurn (.start s) frames := by
  have hawaits : Awaits p d peer (.start s) frames := awaits_start hfresh hperm hhonest
  refine ⟨fun ⟨hacc, _, hend⟩ => hawaits.allowed_inTurn hp hwindow hacc hend, fun hturn => ?_⟩
  obtain ⟨hacc, hwithin, hconsumed⟩ := hawaits.run hp hwindow hturn
  have hfirst : ∀ k,
      k ∈ (window (Lib.Runs.run (step p d peer) (.start s) frames).session).consumed ↔
      k < s.p2cCounter.toNat + m := by
    intro k
    rw [hconsumed, hperm.mem_iff, List.mem_range'_1, Window.mem_consumed]
    simp only [window, Receiver.start, hfresh, Finset.image_empty, Finset.notMem_empty, or_false]
    omega
  obtain ⟨hnext, hahead⟩ := hwithin.eq_of_consumed hfirst
  exact ⟨hacc, hnext, Finset.image_eq_empty.mp hahead⟩

theorem demoChunk_honest (seq : UInt64) (h : sealPillarBFrame demoPrimitives demoSession.p2cKey
      demoSession.p2cNonceBase demoSession.keyID seq
      (p2cAAD demoPeer chunkType (text "req-a") true seq) (text "data") =
        .ok (demoEnvelope chunkType (text "req-a") true seq)) :
    Honest demoPrimitives demoDecoders demoPeer demoSession (demoChunk seq) := by
  have hseq : (demoChunk seq).seq = seq := seq_of_seal h
  have haad : frameAAD demoPeer (demoChunk seq) =
    p2cAAD demoPeer chunkType (text "req-a") true seq :=
    congrArg (p2cAAD demoPeer chunkType (text "req-a") true) hseq
  refine ⟨text "data", ?_, fun henvelope => ?_⟩
  · rw [hseq, haad]
    exact h
  · cases henvelope

theorem demoProbe_honest (seq : UInt64) (h : sealPillarBFrame demoPrimitives demoSession.p2cKey
      demoSession.p2cNonceBase demoSession.keyID seq
      (p2cAAD demoPeer losslessnessEncryptedResultType (text "probe") false seq) (text "data") =
        .ok (demoEnvelope losslessnessEncryptedResultType (text "probe") false seq)) :
    Honest demoPrimitives demoDecoders demoPeer demoSession (demoProbe seq) := by
  have hseq : (demoProbe seq).seq = seq := seq_of_seal h
  have haad : frameAAD demoPeer (demoProbe seq) =
      p2cAAD demoPeer losslessnessEncryptedResultType (text "probe") false seq :=
    congrArg (p2cAAD demoPeer losslessnessEncryptedResultType (text "probe") false) hseq
  refine ⟨text "data", ?_, text "data", by decide +kernel, rfl⟩
  rw [hseq, haad]
  exact h

/-- Two chunks in the wrong order, then a probe. -/
theorem honest_chunks_then_probe_accepted :
    Allowed (step demoPrimitives demoDecoders demoPeer)
      (Accepts demoPrimitives demoDecoders demoPeer) (.start demoSession)
      [demoChunk 1, demoChunk 0, demoProbe 2] ∧
    (Lib.Runs.run (step demoPrimitives demoDecoders demoPeer) (.start demoSession)
      [demoChunk 1, demoChunk 0, demoProbe 2]).session.p2cCounter.toNat = 0 + 3 ∧
    (Lib.Runs.run (step demoPrimitives demoDecoders demoPeer) (.start demoSession)
      [demoChunk 1, demoChunk 0, demoProbe 2]).session.p2cSeen = ∅ := by
  refine (honest_frames_accepted_iff demoPrimitives_lawful (s := demoSession) rfl (m := 3)
    (by decide +kernel) ?_ (by decide +kernel)).mpr (by decide +kernel)
  intro f hf
  simp only [List.mem_cons, List.not_mem_nil, or_false] at hf
  rcases hf with rfl | rfl | rfl
  · exact demoChunk_honest 1 (by decide +kernel)
  · exact demoChunk_honest 0 (by decide +kernel)
  · exact demoProbe_honest 2 (by decide +kernel)

/-- Number 1 of a probe comes before number 0. -/
theorem honest_probe_refused :
    ([demoProbe 1, demoChunk 0].map fun f => f.seq.toNat).Perm
        (List.range' demoSession.p2cCounter.toNat 2) ∧
      (∀ f ∈ [demoProbe 1, demoChunk 0],
        Honest demoPrimitives demoDecoders demoPeer demoSession f) ∧
      Allowed (step demoPrimitives demoDecoders demoPeer) InWindow (.start demoSession)
        [demoProbe 1, demoChunk 0] ∧
      ¬ Accepts demoPrimitives demoDecoders demoPeer (.start demoSession) (demoProbe 1) := by
  refine ⟨by decide +kernel, fun f hf => ?_, by decide +kernel, by decide +kernel⟩
  simp only [List.mem_cons, List.not_mem_nil, or_false] at hf
  rcases hf with rfl | rfl
  · exact demoProbe_honest 1 (by decide +kernel)
  · exact demoChunk_honest 0 (by decide +kernel)

end MacProvider.Coordinator.Relay.Delivery
