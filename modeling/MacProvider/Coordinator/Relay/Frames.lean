import MacProvider.Lib.BigEndian

/-! # Encrypted frames

The additional data of a frame (`marshalAEADAAD`, `decodeAEADAAD`), its nonce, sealing and opening.
Base64, AES-GCM and JSON are parameters (`Primitives`). `open_seal`: a sealed frame opens. -/

namespace MacProvider.Coordinator.Relay.Frames

open Lib.BigEndian

/-- Strings and byte slices. -/
abbrev Bytes := List UInt8

/-- The bytes of a text. -/
def text (s : String) : Bytes := s.toUTF8.toList

/-- The additional data. -/
structure AEADFrameAAD where
  type : Bytes
  direction : Bytes
  requestID : Bytes
  stream : Bool
  providerID : Bytes
  assignedID : Bytes
  seq : UInt64
  deriving DecidableEq

/-- What the frames use of the standard library. -/
structure Primitives where
  /-- `base64.RawURLEncoding` -/
  encodeToString : Bytes → Bytes
  decodeString : Bytes → Except String Bytes
  /-- AES-GCM by key, nonce, text and additional data -/
  gcmSeal : Bytes → Bytes → Bytes → Bytes → Bytes
  gcmOpen : Bytes → Bytes → Bytes → Bytes → Except String Bytes
  /-- `json.Unmarshal` into additional data -/
  unmarshalAAD : Bytes → Except String AEADFrameAAD

/-- What the two inverse pairs of functions satisfy. -/
structure Primitives.Lawful (p : Primitives) : Prop where
  decode_encode : ∀ b, p.decodeString (p.encodeToString b) = .ok b
  open_seal : ∀ key nonce plaintext aad,
    p.gcmOpen key nonce (p.gcmSeal key nonce plaintext aad) aad = .ok plaintext

/-! ### Additional data -/

/-- How its binary form begins. -/
def pillarBAADPrefix : Bytes := text "macprovider/spec008/pillar-b/aad/v1" ++ [0]

/-- A length and the bytes. -/
def writeAADString (value : Bytes) : Except String Bytes :=
  if value.length > 2 ^ 32 - 1 then .error "pillar B AAD field too large"
  else .ok (fixed 4 value.length ++ value)

/-- A flag as a byte. -/
def streamFlag (stream : Bool) : Bytes := if stream then [1] else [0]

/-- The binary form. -/
def marshalAEADAAD (aad : AEADFrameAAD) : Except String Bytes := do
  let type ← writeAADString aad.type
  let direction ← writeAADString aad.direction
  let requestID ← writeAADString aad.requestID
  let providerID ← writeAADString aad.providerID
  let assignedID ← writeAADString aad.assignedID
  return pillarBAADPrefix ++ (type ++ (direction ++ (requestID ++ (streamFlag aad.stream ++
    (providerID ++ (assignedID ++ fixed 8 aad.seq.toNat))))))

/-- A length and that many bytes, and the rest. -/
def readString (name : String) (raw : Bytes) : Except String (Bytes × Bytes) :=
  if raw = [] then .error ("invalid pillar B AAD " ++ name ++ " length: EOF")
  else if raw.length < 4 then
    .error ("invalid pillar B AAD " ++ name ++ " length: unexpected EOF")
  else if value (raw.take 4) > (raw.drop 4).length then
    .error ("invalid pillar B AAD " ++ name ++ " length")
  else .ok ((raw.drop 4).take (value (raw.take 4)), (raw.drop 4).drop (value (raw.take 4)))

/-- A flag, and the rest. -/
def readStream : Bytes → Except String (Bool × Bytes)
  | [] => .error "invalid pillar B AAD stream: EOF"
  | flag :: rest =>
    if flag = 0 then .ok (false, rest)
    else if flag = 1 then .ok (true, rest)
    else .error "invalid pillar B AAD stream flag"

/-- A number, at the end. -/
def readSeq (raw : Bytes) : Except String UInt64 :=
  if raw.length < 8 then .error "invalid pillar B AAD seq"
  else if raw.length ≠ 8 then .error "invalid pillar B AAD trailing data"
  else .ok (UInt64.ofNat (value raw))

/-- The binary form is read. -/
def parseBinaryAEADAAD (raw : Bytes) : Except String AEADFrameAAD := do
  let (type, raw) ← readString "type" (raw.drop pillarBAADPrefix.length)
  let (direction, raw) ← readString "direction" raw
  let (requestID, raw) ← readString "request_id" raw
  let (stream, raw) ← readStream raw
  let (providerID, raw) ← readString "provider_id" raw
  let (assignedID, raw) ← readString "assigned_id" raw
  let seq ← readSeq raw
  return ⟨type, direction, requestID, stream, providerID, assignedID, seq⟩

/-- Additional data, and its bytes. -/
def decodeAEADAAD (p : Primitives) (encoded : Bytes) : Except String (AEADFrameAAD × Bytes) :=
  match p.decodeString encoded with
  | .error e => .error ("invalid pillar B AAD: " ++ e)
  | .ok raw =>
    if pillarBAADPrefix.isPrefixOf raw then
      match parseBinaryAEADAAD raw with
      | .error e => .error e
      | .ok aad => .ok (aad, raw)
    else
      match p.unmarshalAAD raw with
      | .error e => .error ("invalid pillar B AAD JSON: " ++ e)
      | .ok aad => .ok (aad, raw)

theorem bind_eq_ok {α β : Type} {x : Except String α} {f : α → Except String β} {b : β} :
    x >>= f = .ok b ↔ ∃ a, x = .ok a ∧ f a = .ok b := by
  cases x with
  | error e =>
    refine iff_of_false (fun h => by cases h) ?_
    rintro ⟨_, ⟨⟩, -⟩
  | ok a =>
    refine ⟨fun h => ⟨a, rfl, h⟩, ?_⟩
    rintro ⟨_, ⟨⟩, h⟩
    exact h

theorem writeAADString_ok {v b : Bytes} (h : writeAADString v = .ok b) :
    v.length < 256 ^ 4 ∧ b = fixed 4 v.length ++ v := by
  rw [writeAADString] at h
  split_ifs at h with hlen
  exact ⟨by omega, (Except.ok.inj h).symm⟩

theorem readString_write {v b rest : Bytes} (name : String) (h : writeAADString v = .ok b) :
    readString name (b ++ rest) = .ok (v, rest) := by
  obtain ⟨hlen, rfl⟩ := writeAADString_ok h
  have h4 : (fixed 4 v.length).length = 4 := length_fixed 4 _
  have htake : ((fixed 4 v.length ++ v) ++ rest).take 4 = fixed 4 v.length := by
    rw [List.append_assoc, List.take_left' h4]
  have hdrop : ((fixed 4 v.length ++ v) ++ rest).drop 4 = v ++ rest := by
    rw [List.append_assoc, List.drop_left' h4]
  have hvalue : value (fixed 4 v.length) = v.length := by
    rw [value_fixed, Nat.mod_eq_of_lt hlen]
  have hlong : ¬ ((fixed 4 v.length ++ v) ++ rest).length < 4 := by
    rw [List.length_append, List.length_append, h4]
    omega
  have hfits : ¬ v.length > (v ++ rest).length := by
    rw [List.length_append]
    omega
  have hne : (fixed 4 v.length ++ v) ++ rest ≠ [] := fun h => hlong (by simp [h])
  rw [readString, if_neg hne, if_neg hlong, htake, hdrop, hvalue, if_neg hfits, List.take_left,
    List.drop_left]

theorem readString_ok {name : String} {r v rest : Bytes} (h : readString name r = .ok (v, rest)) :
    ∃ b, writeAADString v = .ok b ∧ r = b ++ rest := by
  rw [readString] at h
  split_ifs at h with hne hshort hlong
  obtain ⟨rfl, rfl⟩ := Prod.mk.inj (Except.ok.inj h)
  have hlen : ((r.drop 4).take (value (r.take 4))).length = value (r.take 4) := by
    rw [List.length_take]
    omega
  have h4 : (r.take 4).length = 4 := by
    rw [List.length_take]
    omega
  have hlt := value_lt (r.take 4)
  have hfixed := fixed_value (r.take 4)
  rw [h4] at hlt hfixed
  refine ⟨_, if_neg (by omega), ?_⟩
  rw [hlen, hfixed, List.append_assoc, List.take_append_drop, List.take_append_drop]

theorem readStream_flag (stream : Bool) (rest : Bytes) :
    readStream (streamFlag stream ++ rest) = .ok (stream, rest) := by
  cases stream <;> rfl

theorem readStream_ok {r rest : Bytes} {stream : Bool} (h : readStream r = .ok (stream, rest)) :
    r = streamFlag stream ++ rest := by
  rcases r with _ | ⟨flag, r⟩
  · cases h
  · rw [readStream] at h
    split_ifs at h with h0 h1
    · obtain ⟨rfl, rfl⟩ := Prod.mk.inj (Except.ok.inj h)
      rw [h0]
      rfl
    · obtain ⟨rfl, rfl⟩ := Prod.mk.inj (Except.ok.inj h)
      rw [h1]
      rfl

theorem readSeq_fixed (seq : UInt64) : readSeq (fixed 8 seq.toNat) = .ok seq := by
  have hlt : seq.toNat < 256 ^ 8 := seq.toNat_lt
  rw [readSeq, length_fixed, if_neg (by decide), if_neg (by decide), value_fixed,
    Nat.mod_eq_of_lt hlt, UInt64.ofNat_toNat]

theorem readSeq_ok {r : Bytes} {seq : UInt64} (h : readSeq r = .ok seq) :
    r = fixed 8 seq.toNat := by
  rw [readSeq] at h
  split_ifs at h with hshort hlong
  have h8 : r.length = 8 := not_not.mp hlong
  have hlt := value_lt r
  have hfixed := fixed_value r
  rw [h8] at hlt hfixed
  rw [← Except.ok.inj h, UInt64.toNat_ofNat', Nat.mod_eq_of_lt (by simpa using hlt), hfixed]

variable {p : Primitives} {aad : AEADFrameAAD} {raw base key keyID plain : Bytes} {seq : UInt64}

/-- **It reads back.** -/
theorem parseBinaryAEADAAD_marshal (h : marshalAEADAAD aad = .ok raw) :
    parseBinaryAEADAAD raw = .ok aad := by
  obtain ⟨type, htype, h⟩ := bind_eq_ok.mp h
  obtain ⟨direction, hdirection, h⟩ := bind_eq_ok.mp h
  obtain ⟨requestID, hrequest, h⟩ := bind_eq_ok.mp h
  obtain ⟨providerID, hprovider, h⟩ := bind_eq_ok.mp h
  obtain ⟨assignedID, hassigned, h⟩ := bind_eq_ok.mp h
  obtain rfl := Except.ok.inj h
  rw [parseBinaryAEADAAD, List.drop_left, bind_eq_ok]
  refine ⟨_, readString_write _ htype, bind_eq_ok.mpr ⟨_, readString_write _ hdirection, ?_⟩⟩
  refine bind_eq_ok.mpr
    ⟨_, readString_write _ hrequest, bind_eq_ok.mpr ⟨_, readStream_flag _ _, ?_⟩⟩
  refine bind_eq_ok.mpr ⟨_, readString_write _ hprovider, ?_⟩
  refine bind_eq_ok.mpr ⟨_, readString_write _ hassigned, bind_eq_ok.mpr ⟨_, readSeq_fixed _, rfl⟩⟩

/-- **What is read is its form.** -/
theorem marshal_parseBinaryAEADAAD (h : parseBinaryAEADAAD raw = .ok aad)
    (hstart : pillarBAADPrefix.isPrefixOf raw) : marshalAEADAAD aad = .ok raw := by
  obtain ⟨rest, rfl⟩ := List.isPrefixOf_iff_prefix.mp hstart
  rw [parseBinaryAEADAAD, List.drop_left] at h
  obtain ⟨⟨type, r₁⟩, h₁, h⟩ := bind_eq_ok.mp h
  obtain ⟨⟨direction, r₂⟩, h₂, h⟩ := bind_eq_ok.mp h
  obtain ⟨⟨requestID, r₃⟩, h₃, h⟩ := bind_eq_ok.mp h
  obtain ⟨⟨stream, r₄⟩, h₄, h⟩ := bind_eq_ok.mp h
  obtain ⟨⟨providerID, r₅⟩, h₅, h⟩ := bind_eq_ok.mp h
  obtain ⟨⟨assignedID, r₆⟩, h₆, h⟩ := bind_eq_ok.mp h
  obtain ⟨seq, h₇, h⟩ := bind_eq_ok.mp h
  obtain rfl := Except.ok.inj h
  obtain ⟨b₁, hb₁, rfl⟩ := readString_ok h₁
  obtain ⟨b₂, hb₂, rfl⟩ := readString_ok h₂
  obtain ⟨b₃, hb₃, rfl⟩ := readString_ok h₃
  obtain rfl := readStream_ok h₄
  obtain ⟨b₅, hb₅, rfl⟩ := readString_ok h₅
  obtain ⟨b₆, hb₆, rfl⟩ := readString_ok h₆
  obtain rfl := readSeq_ok h₇
  rw [marshalAEADAAD, hb₁, hb₂, hb₃, hb₅, hb₆]
  rfl

theorem isPrefixOf_marshal (h : marshalAEADAAD aad = .ok raw) :
    pillarBAADPrefix.isPrefixOf raw := by
  obtain ⟨_, -, h⟩ := bind_eq_ok.mp h
  obtain ⟨_, -, h⟩ := bind_eq_ok.mp h
  obtain ⟨_, -, h⟩ := bind_eq_ok.mp h
  obtain ⟨_, -, h⟩ := bind_eq_ok.mp h
  obtain ⟨_, -, h⟩ := bind_eq_ok.mp h
  obtain rfl := Except.ok.inj h
  rw [List.isPrefixOf_iff_prefix]
  exact List.prefix_append _ _

theorem decodeAEADAAD_encode (hp : p.Lawful) (h : marshalAEADAAD aad = .ok raw) :
    decodeAEADAAD p (p.encodeToString raw) = .ok (aad, raw) := by
  simp only [decodeAEADAAD, hp.decode_encode, if_pos (isPrefixOf_marshal h),
    parseBinaryAEADAAD_marshal h]

/-- Four bytes can write the lengths of the texts. -/
def AEADFrameAAD.Short (aad : AEADFrameAAD) : Prop :=
  ∀ v ∈ [aad.type, aad.direction, aad.requestID, aad.providerID, aad.assignedID],
    v.length < 2 ^ 32

theorem marshalAEADAAD_of_short (h : aad.Short) : ∃ raw, marshalAEADAAD aad = .ok raw := by
  have hwrite : ∀ v ∈ [aad.type, aad.direction, aad.requestID, aad.providerID, aad.assignedID],
      writeAADString v = .ok (fixed 4 v.length ++ v) := by
    intro v hv
    have hlen := h v hv
    exact if_neg (by omega)
  rw [marshalAEADAAD, hwrite _ (by simp), hwrite _ (by simp), hwrite _ (by simp),
    hwrite _ (by simp), hwrite _ (by simp)]
  exact ⟨_, rfl⟩

theorem decodeAEADAAD_ok {p : Primitives} {encoded raw : Bytes}
    (h : decodeAEADAAD p encoded = .ok (aad, raw)) : p.decodeString encoded = .ok raw ∧
      (pillarBAADPrefix.isPrefixOf raw → parseBinaryAEADAAD raw = .ok aad) := by
  rw [decodeAEADAAD] at h
  split at h
  · cases h
  next hdecode =>
  split_ifs at h with hbinary
  · split at h
    · cases h
    next hparse =>
    obtain ⟨rfl, rfl⟩ := Prod.mk.inj (Except.ok.inj h)
    exact ⟨hdecode, fun _ => hparse⟩
  · split at h
    · cases h
    · obtain ⟨rfl, rfl⟩ := Prod.mk.inj (Except.ok.inj h)
      exact ⟨hdecode, fun hstart => absurd hstart hbinary⟩

/-- **The binary form is unambiguous**: it reads back, accepted bytes are the form of their value,
and no two values share it. -/
theorem binary_aad_is_unambiguous (p : Primitives) :
    (∀ aad : AEADFrameAAD, aad.Short →
      ∃ raw, marshalAEADAAD aad = .ok raw ∧ parseBinaryAEADAAD raw = .ok aad) ∧
    (∀ encoded aad raw, decodeAEADAAD p encoded = .ok (aad, raw) →
      pillarBAADPrefix.isPrefixOf raw →
        p.decodeString encoded = .ok raw ∧ marshalAEADAAD aad = .ok raw) ∧
    ∀ aad aad' raw, marshalAEADAAD aad = .ok raw → marshalAEADAAD aad' = .ok raw → aad = aad' := by
  refine ⟨fun aad hshort => ?_, fun encoded aad raw h hstart => ?_, fun aad aad' raw h h' => ?_⟩
  · obtain ⟨raw, hraw⟩ := marshalAEADAAD_of_short hshort
    exact ⟨raw, hraw, parseBinaryAEADAAD_marshal hraw⟩
  · obtain ⟨hdecode, hparse⟩ := decodeAEADAAD_ok h
    exact ⟨hdecode, marshal_parseBinaryAEADAAD (hparse hstart) hstart⟩
  · have hparse := parseBinaryAEADAAD_marshal h
    rw [parseBinaryAEADAAD_marshal h'] at hparse
    exact (Except.ok.inj hparse).symm

/-- The nonce of a number. -/
def pillarBNonce (nonceBase : Bytes) (seq : UInt64) : Except String Bytes :=
  if nonceBase.length ≠ 4 then .error "pillar B nonce base must be 4 bytes"
  else .ok (nonceBase ++ fixed 8 seq.toNat)

theorem pillarBNonce_ok {nonce : Bytes} (h : pillarBNonce base seq = .ok nonce) :
    base.length = 4 ∧ nonce = base ++ fixed 8 seq.toNat := by
  rw [pillarBNonce] at h
  split_ifs at h with hlen
  exact ⟨not_not.mp hlen, (Except.ok.inj h).symm⟩

/-- **Nonces differ** with their numbers. -/
theorem pillarBNonce_injective {nonce : Bytes} {seq' : UInt64}
    (h : pillarBNonce base seq = .ok nonce) (h' : pillarBNonce base seq' = .ok nonce) :
    seq = seq' := by
  obtain ⟨-, rfl⟩ := pillarBNonce_ok h
  have heq := List.append_cancel_left (pillarBNonce_ok h').2
  have hvalue := congrArg value heq
  have hlt : seq.toNat < 256 ^ 8 := seq.toNat_lt
  have hlt' : seq'.toNat < 256 ^ 8 := seq'.toNat_lt
  rw [value_fixed, value_fixed, Nat.mod_eq_of_lt hlt, Nat.mod_eq_of_lt hlt'] at hvalue
  exact UInt64.toNat_inj.mp hvalue

/-! ### Sealing and opening -/

/-- The algorithm. -/
def pillarBAEADA256GCM : Bytes := text "A256GCM"

/-- `AEADEnvelope` with its `AEADEnvelopeBody`. -/
structure AEADEnvelope where
  encrypted : Bool
  alg : Bytes
  seq : UInt64
  nonce : Bytes
  aad : Bytes
  ciphertext : Bytes
  tag : Bytes
  kid : Bytes
  deriving DecidableEq

variable {e : AEADEnvelope}

/-- `newA256GCM`: a key of the right length. -/
def newA256GCM (key : Bytes) : Except String Unit :=
  if key.length ≠ 32 then .error "A256GCM key must be 32 bytes" else .ok ()

/-- The size of a tag. -/
def gcmOverhead : ℕ := 16

/-- Seals a frame. -/
def sealPillarBFrame (p : Primitives) (key nonceBase keyID : Bytes) (seq : UInt64)
    (aad : AEADFrameAAD) (plaintext : Bytes) : Except String AEADEnvelope :=
  if aad.seq ≠ seq then .error "AAD seq does not match frame seq" else do
    let nonce ← pillarBNonce nonceBase seq
    let aadRaw ← marshalAEADAAD aad
    let _ ← newA256GCM key
    let sealed := p.gcmSeal key nonce plaintext aadRaw
    let tagStart := sealed.length - gcmOverhead
    return {
      encrypted := true, alg := pillarBAEADA256GCM, seq
      nonce := p.encodeToString nonce
      aad := p.encodeToString aadRaw
      ciphertext := p.encodeToString (sealed.take tagStart)
      tag := p.encodeToString (sealed.drop tagStart)
      kid := keyID }

/-- An error of a decoder under its heading. -/
def wrap {α : Type} (heading : String) : Except String α → Except String α
  | .error e => .error (heading ++ e)
  | .ok a => .ok a

/-- Opens a frame. -/
def openPillarBFrame (p : Primitives) (key nonceBase keyID : Bytes) (expectedSeq : UInt64)
    (expectedAAD : AEADFrameAAD) (envelope : AEADEnvelope) : Except String Bytes :=
  if !envelope.encrypted then .error "frame is not encrypted"
  else if envelope.alg ≠ pillarBAEADA256GCM then .error "pillar B unsupported AEAD algorithm"
  else if envelope.kid ≠ keyID then .error "pillar B key id mismatch"
  else if envelope.seq ≠ expectedSeq then .error "pillar B sequence mismatch"
  else do
    let expectedNonce ← pillarBNonce nonceBase expectedSeq
    let nonce ← wrap "invalid pillar B nonce: " (p.decodeString envelope.nonce)
    if nonce ≠ expectedNonce then .error "pillar B nonce mismatch" else
    let expectedAADRaw ← marshalAEADAAD { expectedAAD with seq := expectedSeq }
    let decoded ← decodeAEADAAD p envelope.aad
    -- JSON data may differ from the binary form in its bytes, not in its fields
    if decoded.2 ≠ expectedAADRaw ∧
        (pillarBAADPrefix.isPrefixOf decoded.2 ∨
          decoded.1 ≠ { expectedAAD with seq := expectedSeq })
    then .error "pillar B AAD mismatch" else
    let ciphertext ← wrap "invalid pillar B ciphertext: " (p.decodeString envelope.ciphertext)
    let tag ← wrap "invalid pillar B tag: " (p.decodeString envelope.tag)
    let _ ← newA256GCM key
    p.gcmOpen key nonce (ciphertext ++ tag) decoded.2

theorem seq_of_open (h : openPillarBFrame p key base keyID seq aad e = .ok plain) :
    e.seq = seq := by
  rw [openPillarBFrame] at h
  split_ifs at h with _ _ _ hseq
  exact not_not.mp hseq

theorem seq_of_seal (h : sealPillarBFrame p key base keyID seq aad plain = .ok e) :
    e.seq = seq := by
  rw [sealPillarBFrame] at h
  split_ifs at h
  obtain ⟨_, -, h⟩ := bind_eq_ok.mp h
  obtain ⟨_, -, h⟩ := bind_eq_ok.mp h
  obtain ⟨_, -, h⟩ := bind_eq_ok.mp h
  rw [← Except.ok.inj h]

/-- **A sealed frame opens.** -/
theorem open_seal (hp : p.Lawful) (h : sealPillarBFrame p key base keyID seq aad plain = .ok e) :
    openPillarBFrame p key base keyID seq aad e = .ok plain := by
  rw [sealPillarBFrame] at h
  split_ifs at h with hseq
  have hseq : aad.seq = seq := not_not.mp hseq
  obtain ⟨nonce, hnonce, h⟩ := bind_eq_ok.mp h
  obtain ⟨aadRaw, haad, h⟩ := bind_eq_ok.mp h
  obtain ⟨_, hkey, h⟩ := bind_eq_ok.mp h
  obtain rfl := Except.ok.inj h
  have hself : { aad with seq } = aad := by rw [← hseq]
  rw [openPillarBFrame, hself]
  rw [if_neg (by simp), if_neg (by simp), if_neg (by simp), if_neg (by simp), bind_eq_ok]
  refine ⟨nonce, hnonce, bind_eq_ok.mpr ⟨nonce, by rw [hp.decode_encode]; rfl, ?_⟩⟩
  rw [if_neg (by simp), bind_eq_ok]
  refine ⟨aadRaw, haad, bind_eq_ok.mpr ⟨_, decodeAEADAAD_encode hp haad, ?_⟩⟩
  rw [if_neg (by simp), bind_eq_ok]
  refine ⟨_, by rw [hp.decode_encode]; rfl, bind_eq_ok.mpr ⟨_, by rw [hp.decode_encode]; rfl, ?_⟩⟩
  refine bind_eq_ok.mpr ⟨_, hkey, ?_⟩
  rw [List.take_append_drop]
  exact hp.open_seal key nonce plain aadRaw

/-- `pool.Tier2Session`: keys and counters. -/
structure Tier2Session where
  aeadSuite : Bytes
  responseChunkPlaintextEnvelope : Bool
  inBandAEADRekeyV1 : Bool
  c2pKey : Bytes
  p2cKey : Bytes
  c2pNonceBase : Bytes
  p2cNonceBase : Bytes
  c2pCounter : UInt64
  p2cCounter : UInt64
  p2cSeen : Finset UInt64
  keyID : Bytes

/-- `^uint64(0)`, the number that no frame gets. -/
def exhausted : UInt64 := ~~~0

/-- Provider and registration of the frames. -/
structure Peer where
  providerID : Bytes
  assignedID : Bytes

theorem toNat_exhausted : exhausted.toNat = 2 ^ 64 - 1 := by decide

theorem toNat_succ {c : UInt64} (h : c ≠ exhausted) : (c + 1).toNat = c.toNat + 1 := by
  have hlt := c.toNat_lt
  have hne : c.toNat ≠ 2 ^ 64 - 1 := fun hc =>
    h (UInt64.toNat_inj.mp (hc.trans toNat_exhausted.symm))
  rw [UInt64.toNat_add, UInt64.toNat_one, Nat.mod_eq_of_lt (by omega)]

end MacProvider.Coordinator.Relay.Frames
