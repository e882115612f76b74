import MacProvider.Coordinator.Evm.Envelope

/-! # Signing and recovery

`SignTx` (`internal/payout/signer.go`) and `RecoverTxSender`, over the hash and the curve
(`Crypto`). An EIP-1559 signature is over nine fields (`signingPayload`); both hash the envelope of
twelve. -/

namespace MacProvider.Coordinator.Evm.Signing

open Lib.Rlp Lib.BigEndian Evm.Codec Evm.Grammar Evm.Transaction Evm.Envelope

/-- The hash, `ecdsa.SignCompact`, and `ecdsa.RecoverCompact` with an uncompressed key. -/
structure Crypto where
  keccak : Bytes → Bytes
  signCompact : Bytes → Bytes
  recoverCompact : Bytes → Bytes → Except String Bytes

/-- Bytes as a text. -/
def hexText (b : Bytes) : String := "0x" ++ String.join (b.map hexByte)

/-- The hash of an envelope, as a text. -/
def txHash (crypto : Crypto) (signedTxBytes : Bytes) : String :=
  hexText (crypto.keccak signedTxBytes)

/-- An `ErrSignerUnavailable` with a message. -/
abbrev unavailable {α : Type} (msg : String) : Go α := fail ("payout: signer unavailable: " ++ msg)

/-- One around an error. -/
def wrapUnavailable {α : Type} (pre : String) (x : Go α) : Go α :=
  wrapErr ("payout: signer unavailable: " ++ pre) x

/-- The unsigned items, and the digest. -/
def signingInput (keccak : Bytes → Bytes) (unsignedTxBytes : Bytes) : Go (List Bytes × Bytes) :=
  match unsignedTxBytes with
  | [] | [_] => unavailable "unsigned bytes not type 0x02"
  | type :: body =>
    if type ≠ 0x02 then unavailable "unsigned bytes not type 0x02"
    else do
      let (items, _) ← wrapUnavailable "rlp decode" (rlpDecodeList body)
      match items with
      | [] => unavailable "empty rlp list"
      | item :: _ => do
        let chainID ← wrapUnavailable "chain_id" (rlpItemUint item)
        if chainID ≠ baseMainnetChainID then
          unavailable ("chain_id " ++ toString chainID.toNat ++ ", want " ++
            toString baseMainnetChainID.toNat)
        else return (items, keccak unsignedTxBytes)

/-- The transaction of twelve items. -/
def decodeUnsignedForSigning (items : List Bytes) : Go EIP1559Tx :=
  match items with
  | [chain, nonce, prio, fee, gas, toAddress, value, data, _, _, _, _] => do
    let chainID ← wrapErr "chain_id" (rlpItemUint chain)
    let nonce ← wrapErr "nonce" (rlpItemUint nonce)
    let gasLimit ← wrapErr "gas_limit" (rlpItemUint gas)
    if hto : toAddress.length = 20 then
      return { chainID, nonce, maxPriorityFeePerGas := setBytes prio, maxFeePerGas := setBytes fee,
               gasLimit, toAddress, value := setBytes value, data, toAddress_length := hto }
    else fail "to: must be 20 bytes"
  | _ => fail ("decodeUnsignedForSigning: expected 12 fields, got " ++ toString items.length)

/-- `SignTx`, with the error and deadline of its context. -/
def signTx (crypto : Crypto) (ctxErr : Option String) (late : Bool) (unsignedTxBytes : Bytes) :
    Go (Bytes × String) :=
  match ctxErr with
  | some msg => fail msg
  | none => do
    let (items, digest) ← signingInput crypto.keccak unsignedTxBytes
    let compact := crypto.signCompact digest
    let rBytes ← slice compact 1 33
    let sBytes ← slice compact 33 65
    let tx ← wrapUnavailable "rebuild tx" (decodeUnsignedForSigning items)
    let signedBytes ←
      wrapUnavailable "re-encode signed" (signedRLP tx (compact.headD 0 - 27) rBytes sBytes)
    if late then unavailable "sign exceeded 100ms local-file deadline"
    else return (signedBytes, txHash crypto signedBytes)

/-- The hash of the unsigned envelope. -/
def signingHash (keccak : Bytes → Bytes) (t : EIP1559Tx) : Go Bytes := do
  let unsigned ← unsignedRLP t
  return keccak unsigned

/-- The decoded envelope, and the digest. -/
def recoveryInput (keccak : Bytes → Bytes) (signedTxBytes : Bytes) : Go (Decoded × Bytes) := do
  let d ← wrapErr "RecoverTxSender: decode" (decodeSignedEIP1559 signedTxBytes)
  let digest ← wrapErr "RecoverTxSender: signing hash" (signingHash keccak d.tx)
  return (d, digest)

/-- The address that a signature recovers to. -/
def ecrecover (crypto : Crypto) (digest sig : Bytes) : Go String :=
  match crypto.recoverCompact sig digest with
  | .error msg => fail msg
  | .ok uncompressed =>
    if uncompressed.length ≠ 65 ∨ uncompressed.headD 0 ≠ 0x04 then
      fail "recovered pubkey not in uncompressed form"
    else
      let digestPub := crypto.keccak uncompressed.tail
      .ok (hexText (digestPub.drop (digestPub.length - 20)))

/-- The sender of a signed envelope. -/
def recoverTxSender (crypto : Crypto) (signedTxBytes : Bytes) : Go String := do
  let (d, digest) ← recoveryInput crypto.keccak signedTxBytes
  ecrecover crypto digest ((27 + d.yParity) :: (d.r ++ d.s))

/-! ### What is hashed -/

/-- What EIP-1559 signs: the type byte and nine fields. -/
def signingPayload (t : EIP1559Tx) : Bytes := 0x02 :: rlpList (encodedFields t)

/-- It signs the hash of the payload. -/
def SignerConforms (t : EIP1559Tx) : Prop :=
  ∀ keccak unsigned, unsignedRLP t = .ok unsigned →
    (signingInput keccak unsigned).map Prod.snd = .ok (keccak (signingPayload t))

/-- It recovers against that hash. -/
def RecoveryConforms (t : EIP1559Tx) (signed : Bytes) : Prop :=
  ∀ keccak, (recoveryInput keccak signed).map Prod.snd = .ok (keccak (signingPayload t))

theorem length_bigEndianLen_le (v : UInt64) : (bigEndianLen v).length ≤ 8 := by
  rw [bigEndianLen, trimLeadingZeros_binaryBigEndianPutUint64]
  exact length_bytes_le v.toNat_lt

theorem length_rlpList (items : List Bytes) :
    (rlpList items).length =
      1 + (((rlpList items).headD 0).toNat - 0xf7) + items.flatten.length := by
  unfold rlpList
  rw [← List.length_flatten]
  dsimp only
  split_ifs with h0 h55
  · rw [h0]
    rfl
  · have htag : (0xc0 : UInt8) + UInt8.ofNat items.flatten.length =
        UInt8.ofNat (0xc0 + items.flatten.length) := by simp
    rw [htag, List.headD_cons, toNat_tag (by omega), List.length_cons]
    omega
  · have hl := length_bigEndianLen_le (UInt64.ofNat items.flatten.length)
    have htag : (0xf7 : UInt8) +
        UInt8.ofNat (bigEndianLen (UInt64.ofNat items.flatten.length)).length =
        UInt8.ofNat (0xf7 + (bigEndianLen (UInt64.ofNat items.flatten.length)).length) := by simp
    rw [htag, List.headD_cons, toNat_tag (by omega), List.length_cons, List.length_append]
    omega

variable {b digest signed : Bytes} {keccak : Bytes → Bytes} {items : List Bytes} {t : EIP1559Tx}
  {d : Decoded}

theorem rlpList_append_ne {more : List Bytes} (h : more.flatten ≠ []) :
    rlpList (items ++ more) ≠ rlpList items := by
  intro heq
  have h1 := length_rlpList (items ++ more)
  have h2 := length_rlpList items
  have hpos := List.length_pos_iff.mpr h
  rw [heq] at h1
  rw [List.flatten_append, List.length_append] at h1
  omega

theorem unsignedRLP_ne_signingPayload {t' : EIP1559Tx} (h : unsignedRLP t = .ok b)
    (ht : encodedFields t = encodedFields t') : b ≠ signingPayload t' := by
  obtain ⟨-, rfl⟩ := unsignedRLP_eq_ok_iff.mp h
  intro heq
  rw [signingPayload, ← ht] at heq
  exact rlpList_append_ne (by simp [rlpUint, rlpBytes]) (List.cons.inj heq).2

theorem signingInput_digest {u : Bytes} (h : signingInput keccak u = .ok (items, digest)) :
    digest = keccak u := by
  unfold signingInput at h
  split at h
  · cases h
  · cases h
  split_ifs at h
  obtain ⟨⟨items', used⟩, -, h⟩ := bind_eq_ok.mp h
  dsimp only at h
  split at h
  · cases h
  obtain ⟨chainID, -, h⟩ := bind_eq_ok.mp h
  split_ifs at h
  cases h
  rfl

theorem encodedFields_decoded {y : UInt8} {r s : Bytes}
    (h : signedRLP t y r s = .ok signed) (hlen : signed.length < 2 ^ 63)
    (hd : decodeSignedEIP1559 signed = .ok d) : encodedFields d.tx = encodedFields t := by
  obtain ⟨p, e, rfl, he, hseq, hp⟩ := signedRLP_minimal h hlen.le
  obtain ⟨p', e', l', heq, he', hlen', hl', ha⟩ := decodeSignedEIP1559_eq_ok_iff.mp hd
  cases heq
  have hr := seq_readable (hseq.mono fun _ _ _ h => h.spells) (by omega)
  rw [← items_unique he.spells he' hlen' hr hl'] at ha
  have hf := (fields_of_assemble (canonicalItems_fields t y r s) ha).1
  have hfields : fields d.tx = fields t := (List.append_inj hf rfl).1
  rw [encodedFields_eq, encodedFields_eq, hfields]

theorem recoveryInput_digest
    (h : recoveryInput keccak signed = .ok (d, digest)) :
    decodeSignedEIP1559 signed = .ok d ∧ ∃ u, unsignedRLP d.tx = .ok u ∧ digest = keccak u := by
  obtain ⟨d', hd, h⟩ := bind_eq_ok.mp h
  obtain ⟨digest', hs, h⟩ := bind_eq_ok.mp h
  cases h
  obtain ⟨u, hu, hs⟩ := bind_eq_ok.mp (wrapErr_eq_ok_iff.mp hs)
  cases hs
  exact ⟨wrapErr_eq_ok_iff.mp hd, u, hu, rfl⟩

theorem map_snd_eq_ok {α : Type} {x : Go (α × Bytes)} (h : x.map Prod.snd = .ok b) :
    ∃ a, x = .ok (a, b) := by
  cases x with
  | error e => cases h
  | ok a =>
    cases h
    exact ⟨a.1, rfl⟩

/-- **The signer and the recovery never conform**: they hash no payload of nine fields. -/
theorem signer_and_recovery_never_conform {t : EIP1559Tx} (hv : validate t = .ok ()) :
    ¬ SignerConforms t ∧ ∀ y r s signed, signedRLP t y r s = .ok signed →
      signed.length < 2 ^ 63 → ¬ RecoveryConforms t signed := by
  constructor
  · intro hc
    have hu := unsignedRLP_eq_ok_iff.mpr ⟨(validate_eq_ok_iff t).mp hv, rfl⟩
    obtain ⟨items, h⟩ := map_snd_eq_ok (hc id _ hu)
    exact unsignedRLP_ne_signingPayload hu rfl (signingInput_digest h).symm
  · intro y r s signed hs hlen hc
    obtain ⟨d, h⟩ := map_snd_eq_ok (hc id)
    obtain ⟨hd, u, hu, hdig⟩ := recoveryInput_digest h
    exact unsignedRLP_ne_signingPayload hu (encodedFields_decoded hs hlen hd) hdig.symm

/-- A call with this value. -/
def demoTx (value : ℤ) : EIP1559Tx :=
  { chainID := 8453, nonce := 7, maxPriorityFeePerGas := some 1, maxFeePerGas := some 2,
    gasLimit := 65000, toAddress := List.replicate 20 0x83, value := some value, data := [],
    toAddress_length := rfl }

theorem signs_twelve_fields : let t := demoTx 0
    ∃ unsigned signed, validate t = .ok () ∧ unsignedRLP t = .ok unsigned ∧
      signedRLP t 1 [5] [6] = .ok signed ∧
      (signingInput id unsigned).map Prod.snd = .ok unsigned ∧
      (recoveryInput id signed).map Prod.snd = .ok unsigned ∧ unsigned ≠ signingPayload t := by
  refine ⟨0x02 :: 0xe4 :: ([0x82, 0x21, 0x05, 0x07, 0x01, 0x02, 0x82, 0xfd, 0xe8] ++
    0x94 :: List.replicate 20 0x83 ++ [0x80, 0x80, 0xc0, 0x80, 0x80, 0x80]),
    0x02 :: 0xe4 :: ([0x82, 0x21, 0x05, 0x07, 0x01, 0x02, 0x82, 0xfd, 0xe8] ++
    0x94 :: List.replicate 20 0x83 ++ [0x80, 0x80, 0xc0, 0x01, 0x05, 0x06]), ?_, ?_, ?_, ?_, ?_, ?_⟩
    <;> decide +kernel

theorem never_conform_transfer : let t := demoTx 0
    ¬ SignerConforms t ∧ ¬ RecoveryConforms t
      (0x02 :: 0xe4 :: ([0x82, 0x21, 0x05, 0x07, 0x01, 0x02, 0x82, 0xfd, 0xe8] ++
        0x94 :: List.replicate 20 0x83 ++ [0x80, 0x80, 0xc0, 0x01, 0x05, 0x06])) := by
  intro t
  have h := signer_and_recovery_never_conform (t := t) rfl
  exact ⟨h.1, h.2 1 [5] [6] _ (by decide +kernel) (by decide +kernel)⟩

section Recovers
variable {y : UInt8} {r s u : Bytes}

theorem signingInput_unsignedRLP (hu : unsignedRLP t = .ok u) (hlen : u.length < 2 ^ 63) :
    signingInput keccak u = .ok ((fields t ++ signatureFields 0 [] []).map Prod.fst, keccak u) := by
  obtain ⟨hv, hbytes⟩ := unsignedRLP_eq_ok_iff.mp hu
  -- the unsigned envelope is one with an empty signature
  have he : u = 0x02 :: rlpList ((fields t ++ signatureFields 0 [] []).map encodeItem) := by
    rw [hbytes, encodedFields_eq, List.map_append, ← encodedSignature_eq]
    rfl
  rw [he, List.length_cons] at hlen
  have hle := length_flatten_le_rlpList ((fields t ++ signatureFields 0 [] []).map encodeItem)
  have hp := (minimalList_rlpList (lt_of_le_of_lt hle (by omega))).spells
  have hseq := seq_minimal (flat_fields t 0 [] []) (by omega)
  have hlist : rlpDecodeList (rlpList _) = .ok (_, _) := decodeList_ok_iff.mpr
    ⟨_, _, [], _, (List.append_nil _).symm, hp, by omega,
      seq_readable (hseq.mono fun _ _ _ h => h.spells) (by omega), rfl, rfl⟩
  generalize rlpList _ = e at *
  obtain ⟨x, e, rfl⟩ := List.exists_cons_of_ne_nil hp.ne_nil
  rw [he]
  unfold signingInput
  simp [hlist, wrapUnavailable, wrapErr, fields, rlpItemUint_toNat, hv.chainID]

theorem decodeUnsignedForSigning_fields (hv : Valid t) (hval : ∀ v, t.value = some v → 0 ≤ v) :
    decodeUnsignedForSigning ((fields t ++ signatureFields 0 [] []).map Prod.fst) = .ok t := by
  obtain ⟨prio, hprio, hp, fee, hfee, hf, -⟩ := hv.prio
  obtain ⟨v, hv⟩ := hv.value
  simp only [fields, signatureFields, List.cons_append, List.nil_append, List.map_cons,
    List.map_nil, decodeUnsignedForSigning, rlpItemUint_toNat, wrapErr, ok_bind, hprio, hfee, hv,
    Option.getD_some, setBytes_bytes hp, setBytes_bytes hf, setBytes_bytes (hval v hv),
    dif_pos t.toAddress_length]
  cases t
  simp_all

/-- **The recovery is against what was signed**: it gets the digest and the signature of the signer
from the envelope. -/
theorem recovers_what_was_signed {crypto : Crypto} {t : EIP1559Tx} {y : UInt8} {r s u : Bytes}
    (hu : unsignedRLP t = .ok u) (hlen : u.length < 2 ^ 63) (hval : ∀ v, t.value = some v → 0 ≤ v)
    (hsign : crypto.signCompact (crypto.keccak u) = (27 + y) :: (r ++ s)) (hsig : Signature y r s)
    (hr : r.length = 32) (hs : s.length = 32) :
    ∃ signed, signTx crypto none false u = .ok (signed, txHash crypto signed) ∧
      (signed.length < 2 ^ 63 → decodeSignedEIP1559 signed = .ok ⟨t, y, r, s⟩ ∧
        recoverTxSender crypto signed =
          ecrecover crypto (crypto.keccak u) (crypto.signCompact (crypto.keccak u))) := by
  have hv := (unsignedRLP_eq_ok_iff.mp hu).1
  have hpad : ∀ b : Bytes, b.length = 32 → leftPad32 b = b := fun b hb => by simp [leftPad32, hb]
  obtain ⟨signed, hsigned⟩ : ∃ b, signedRLP t y r s = .ok b :=
    ⟨_, signedRLP_eq_ok_iff.mpr ⟨hv, hsig.toSignatureParts, rfl⟩⟩
  refine ⟨signed, ?_, fun hb => ?_⟩
  · have h1 : slice ((27 + y) :: (r ++ s)) 1 33 = .ok r := by
      have h := slice_append [27 + y] r s
      rwa [hr] at h
    have h2 : slice ((27 + y) :: (r ++ s)) 33 65 = .ok s := by
      have h := slice_append ((27 + y) :: r) s []
      rwa [List.append_nil, List.length_cons, hr, hs] at h
    rw [signTx, signingInput_unsignedRLP hu hlen, ok_bind]
    dsimp only
    rw [hsign, h1, ok_bind, h2, ok_bind, decodeUnsignedForSigning_fields hv hval]
    simp [wrapUnavailable, wrapErr, hsigned]
  · obtain ⟨p, e, rfl, hl, hseq, hp⟩ := signedRLP_minimal hsigned hb.le
    rw [List.length_cons] at hb
    have hd := decodeSignedEIP1559_eq_ok_iff.mpr ⟨p, e, _, rfl, hl.spells, by omega,
      seq_readable (hseq.mono fun _ _ _ h => h.spells) (by omega), assemble_fields hv hval hsig⟩
    rw [hpad r hr, hpad s hs] at hd
    refine ⟨hd, ?_⟩
    rw [recoverTxSender, recoveryInput, hd, hsign]
    simp [wrapErr, signingHash, hu]

end Recovers

/-- With fixed bytes for signature and key. -/
theorem recovers_what_was_signed_transfer : let t := demoTx 5
    let sig := 28 :: (List.replicate 32 5 ++ List.replicate 32 6)
    let crypto : Crypto := ⟨id, fun _ => sig, fun _ _ => .ok (0x04 :: List.replicate 64 9)⟩
    ∃ u signed, unsignedRLP t = .ok u ∧
      signTx crypto none false u = .ok (signed, txHash crypto signed) ∧
      decodeSignedEIP1559 signed = .ok ⟨t, 1, List.replicate 32 5, List.replicate 32 6⟩ ∧
      recoverTxSender crypto signed = ecrecover crypto u sig ∧
      recoverTxSender crypto signed = .ok (hexText (List.replicate 20 9)) := by
  intro t sig crypto
  have hu : unsignedRLP t = .ok _ := rfl
  have hsign : ∀ b, crypto.signCompact b =
    (27 + 1) :: (List.replicate 32 5 ++ List.replicate 32 6) := fun _ => rfl
  obtain ⟨signed, h, hback⟩ := recovers_what_was_signed hu (by decide +kernel)
    (by rintro v ⟨⟩; decide) (hsign _)
    ⟨⟨by decide, by decide, by decide, by decide, by decide⟩, ⟨5, by decide, by decide⟩,
      ⟨6, by decide, by decide⟩⟩ rfl rfl
  have hlen : (unsignedRLP t >>= signTx crypto none false).toOption.map
      (fun x => decide (x.1.length < 2 ^ 63)) = some true := by
    decide +kernel
  rw [hu, ok_bind, h] at hlen
  obtain ⟨hdecoded, hrecovered⟩ := hback (of_decide_eq_true (Option.some.inj hlen))
  exact ⟨_, signed, hu, h, hdecoded, hrecovered, hrecovered.trans (by decide +kernel)⟩

end MacProvider.Coordinator.Evm.Signing
