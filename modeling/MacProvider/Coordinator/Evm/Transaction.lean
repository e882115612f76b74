import MacProvider.Coordinator.Evm.Grammar

/-! # EIP-1559 transactions

The transaction record of `internal/payout/evm.go`, its check (`validate_eq_ok_iff`), its envelopes
and the decoder of signed envelopes. `fields`, `signatureFields`: their fields as items. -/

namespace MacProvider.Coordinator.Evm.Transaction

open Lib.Rlp Lib.BigEndian Evm.Codec

/-- The chain. -/
def baseMainnetChainID : UInt64 := 8453

/-- `EIP1559Tx`; a nil pointer is `none`. -/
structure EIP1559Tx where
  chainID : UInt64
  nonce : UInt64
  maxPriorityFeePerGas : Option ℤ
  maxFeePerGas : Option ℤ
  gasLimit : UInt64
  toAddress : Bytes
  value : Option ℤ
  data : Bytes
  toAddress_length : toAddress.length = 20
  deriving DecidableEq

/-- `Validate`. -/
def validate (t : EIP1559Tx) : Go Unit :=
  if t.chainID ≠ baseMainnetChainID then
    fail ("EIP1559Tx: chain_id must be " ++ toString baseMainnetChainID.toNat ++ ", got " ++
      toString t.chainID.toNat)
  else match t.maxPriorityFeePerGas with
  | none => fail "EIP1559Tx: max_priority_fee_per_gas must be set and non-negative"
  | some prio =>
    if prio < 0 then fail "EIP1559Tx: max_priority_fee_per_gas must be set and non-negative"
    else match t.maxFeePerGas with
    | none => fail "EIP1559Tx: max_fee_per_gas must be set and non-negative"
    | some fee =>
      if fee < 0 then fail "EIP1559Tx: max_fee_per_gas must be set and non-negative"
      else if fee < prio then
        fail "EIP1559Tx: max_fee_per_gas must be >= max_priority_fee_per_gas"
      else if t.gasLimit = 0 then fail "EIP1559Tx: gas_limit must be > 0"
      else match t.value with
      | none => fail "EIP1559Tx: value must be set (use big.NewInt(0) for zero)"
      | some _ => .ok ()

/-- The texts of the nine fields. -/
def encodedFields (t : EIP1559Tx) : List Bytes :=
  [rlpUint t.chainID, rlpUint t.nonce, rlpBigInt t.maxPriorityFeePerGas, rlpBigInt t.maxFeePerGas,
    rlpUint t.gasLimit, rlpBytes t.toAddress, rlpBigInt t.value, rlpBytes t.data, rlpList []]

/-- The unsigned envelope, with an empty signature. -/
def unsignedRLP (t : EIP1559Tx) : Go Bytes := do
  validate t
  return prependEIP2718 0x02 (rlpList (encodedFields t ++ [rlpUint 0, rlpBytes [], rlpBytes []]))

/-- The signed envelope. -/
def signedRLP (t : EIP1559Tx) (yParity : UInt8) (r s : Bytes) : Go Bytes := do
  validate t
  if 1 < yParity then
    fail ("EIP1559Tx.SignedRLP: yParity must be 0 or 1, got " ++ toString yParity.toNat)
  else if r.length = 0 ∨ 32 < r.length ∨ s.length = 0 ∨ 32 < s.length then
    fail "EIP1559Tx.SignedRLP: r and s must be 1-32 bytes each"
  else
    return prependEIP2718 0x02 (rlpList (encodedFields t ++
      [rlpUint yParity.toUInt64, rlpBytes (trimLeadingZeros r), rlpBytes (trimLeadingZeros s)]))

/-! ### Decoder -/

/-- What an envelope says. -/
structure Decoded where
  tx : EIP1559Tx
  yParity : UInt8
  r : Bytes
  s : Bytes
  deriving DecidableEq

/-- `new(big.Int).SetBytes(b)`. -/
def setBytes (b : Bytes) : Option ℤ := some (value b)

/-- `copy(w[32-len(b):], b)` into 32 zero bytes. -/
def leftPad32 (b : Bytes) : Bytes := List.replicate (32 - b.length) 0 ++ b

/-- A kind as the source numbers it. -/
def kindNumber : Kind → ℕ
  | .string => 1
  | .list => 2

/-- The checks of the twelve items, in order. -/
def assemble (items : List (Bytes × Kind)) : Go Decoded :=
  match items with
  | [(chain, _), (nonce, _), (prio, _), (fee, _), (gas, _), (toAddress, _), (value, _), (data, _),
      (access, accessKind), (parity, _), (r, _), (s, _)] => do
    let chainID ← wrapErr "chain_id" (rlpItemUint chain)
    let nonce ← wrapErr "nonce" (rlpItemUint nonce)
    let gasLimit ← wrapErr "gas_limit" (rlpItemUint gas)
    if hto : toAddress.length = 20 then
      if accessKind ≠ .list then
        fail ("access_list must be RLP list (got kind=" ++ toString (kindNumber accessKind) ++ ")")
      else if access.length ≠ 0 then fail "access_list must be empty for §4.3 hot path"
      else do
        let parityU ← wrapErr "y_parity" (rlpItemUint parity)
        if 1 < parityU then fail ("y_parity must be 0 or 1, got " ++ toString parityU.toNat)
        else if r.length = 0 ∨ 32 < r.length ∨ s.length = 0 ∨ 32 < s.length then
          fail "r/s must be 1-32 bytes each"
        else return {
          tx := { chainID, nonce, maxPriorityFeePerGas := setBytes prio,
                  maxFeePerGas := setBytes fee, gasLimit, toAddress, value := setBytes value, data,
                  toAddress_length := hto }
          yParity := parityU.toUInt8, r := leftPad32 r, s := leftPad32 s }
    else fail ("to: must be 20 bytes, got " ++ toString toAddress.length)
  | _ => fail ("DecodeSignedEIP1559: expected 12 fields, got " ++ toString items.length)

/-- `DecodeSignedEIP1559`. -/
def decodeSignedEIP1559 (signedTxBytes : Bytes) : Go Decoded :=
  match signedTxBytes with
  | [] | [_] => fail "DecodeSignedEIP1559: envelope too short"
  | type :: body =>
    if type ≠ 0x02 then
      fail ("DecodeSignedEIP1559: envelope is not type 0x02 (got 0x" ++ hexByte type ++ ")")
    else do
      let (items, consumed) ←
        wrapErr "DecodeSignedEIP1559: RLP decode body" (rlpDecodeListWithKinds body)
      if consumed ≠ body.length then
        fail ("DecodeSignedEIP1559: trailing " ++ toString (body.length - consumed) ++
          " bytes after top-level list")
      else assemble items

/-- What `Validate` asks for. -/
structure Valid (t : EIP1559Tx) : Prop where
  chainID : t.chainID = baseMainnetChainID
  prio : ∃ prio, t.maxPriorityFeePerGas = some prio ∧ 0 ≤ prio ∧
    ∃ fee, t.maxFeePerGas = some fee ∧ 0 ≤ fee ∧ prio ≤ fee
  gasLimit : t.gasLimit ≠ 0
  value : ∃ v, t.value = some v

theorem validate_eq_ok_iff (t : EIP1559Tx) : validate t = .ok () ↔ Valid t := by
  constructor
  · intro h
    unfold validate at h
    cases hprio : t.maxPriorityFeePerGas with
    | none =>
      rw [hprio] at h
      split_ifs at h
    | some prio =>
    cases hfee : t.maxFeePerGas with
    | none =>
      rw [hprio, hfee] at h
      dsimp only at h
      split_ifs at h
    | some fee =>
    cases hv : t.value with
    | none =>
      rw [hprio, hfee, hv] at h
      dsimp only at h
      split_ifs at h
    | some v =>
      rw [hprio, hfee, hv] at h
      dsimp only at h
      split_ifs at h with hc hp hf hle hg
      exact ⟨not_not.mp hc, ⟨prio, hprio, not_lt.mp hp, fee, hfee, not_lt.mp hf, not_lt.mp hle⟩, hg,
        v, hv⟩
  · rintro ⟨hc, ⟨prio, hprio, hp, fee, hfee, hf, hle⟩, hg, v, hv⟩
    unfold validate
    rw [if_neg (not_not.mpr hc), hprio, hfee, hv]
    dsimp only
    rw [if_neg (not_lt.mpr hp), if_neg (not_lt.mpr hf), if_neg (not_lt.mpr hle), if_neg hg]

theorem unsignedRLP_eq_ok_iff {t : EIP1559Tx} {b : Bytes} : unsignedRLP t = .ok b ↔
    Valid t ∧ b = 0x02 :: rlpList (encodedFields t ++ [rlpUint 0, rlpBytes [], rlpBytes []]) := by
  unfold unsignedRLP
  rw [bind_eq_ok, ← validate_eq_ok_iff]
  constructor
  · rintro ⟨_, hv, h⟩
    cases h
    exact ⟨hv, rfl⟩
  · rintro ⟨hv, rfl⟩
    exact ⟨(), hv, rfl⟩

/-- What `SignedRLP` checks of a signature. -/
structure SignatureParts (yParity : UInt8) (r s : Bytes) : Prop where
  parity : yParity ≤ 1
  r_ne : r ≠ []
  r_le : r.length ≤ 32
  s_ne : s ≠ []
  s_le : s.length ≤ 32

theorem signedRLP_eq_ok_iff {t : EIP1559Tx} {y : UInt8} {r s b : Bytes} :
    signedRLP t y r s = .ok b ↔ Valid t ∧ SignatureParts y r s ∧
      b = 0x02 :: rlpList (encodedFields t ++
        [rlpUint y.toUInt64, rlpBytes (trimLeadingZeros r), rlpBytes (trimLeadingZeros s)]) := by
  unfold signedRLP
  rw [bind_eq_ok, ← validate_eq_ok_iff]
  constructor
  · rintro ⟨_, hv, h⟩
    split_ifs at h with hy hrs
    simp only [not_or, not_lt, List.length_eq_zero_iff] at hrs
    cases h
    exact ⟨hv, ⟨UInt8.not_lt.mp hy, hrs.1, hrs.2.1, hrs.2.2.1, hrs.2.2.2⟩, rfl⟩
  · rintro ⟨hv, hs, rfl⟩
    refine ⟨(), hv, ?_⟩
    have hrs : ¬ (r.length = 0 ∨ 32 < r.length ∨ s.length = 0 ∨ 32 < s.length) := by
      simp only [not_or, not_lt, List.length_eq_zero_iff]
      exact ⟨hs.r_ne, hs.r_le, hs.s_ne, hs.s_le⟩
    rw [if_neg (UInt8.not_lt.mpr hs.parity), if_neg hrs]
    rfl

/-! ### Fields as items -/

/-- The nine fields as items. -/
def fields (t : EIP1559Tx) : List (Bytes × Kind) :=
  [(bytes t.chainID.toNat, .string), (bytes t.nonce.toNat, .string),
    (bytes (t.maxPriorityFeePerGas.getD 0).natAbs, .string),
    (bytes (t.maxFeePerGas.getD 0).natAbs, .string), (bytes t.gasLimit.toNat, .string),
    (t.toAddress, .string), (bytes (t.value.getD 0).natAbs, .string), (t.data, .string),
    ([], .list)]

/-- The signature as items. -/
def signatureFields (y : UInt8) (r s : Bytes) : List (Bytes × Kind) :=
  [(bytes y.toNat, .string), (trimLeadingZeros r, .string), (trimLeadingZeros s, .string)]

/-- The text of an item. -/
def encodeItem (x : Bytes × Kind) : Bytes :=
  match x.2 with
  | .string => rlpBytes x.1
  | .list => rlpList []

theorem rlpBigInt_getD (v : Option ℤ) : rlpBigInt v = rlpBytes (bytes (v.getD 0).natAbs) := by
  cases v with
  | none => rfl
  | some v => exact rlpBigInt_eq v

theorem encodedFields_eq (t : EIP1559Tx) : encodedFields t = (fields t).map encodeItem := by
  simp [encodedFields, fields, encodeItem, rlpUint_eq, rlpBigInt_getD]

theorem encodedSignature_eq (y : UInt8) (r s : Bytes) :
    [rlpUint y.toUInt64, rlpBytes (trimLeadingZeros r), rlpBytes (trimLeadingZeros s)] =
      (signatureFields y r s).map encodeItem := by
  simp [signatureFields, encodeItem, rlpUint_eq]

/-- Its lists are empty. -/
def Flat (l : List (Bytes × Kind)) : Prop := ∀ x ∈ l, x.2 = .list → x.1 = []

theorem length_le_rlpBytes (s : Bytes) : s.length ≤ (rlpBytes s).length := by
  unfold rlpBytes
  split_ifs with h0 h1
  · simp [h0]
  · simp [h1.1]
  · simp
  · simp only [List.length_cons, List.length_append]
    omega

theorem seq_minimal {l : List (Bytes × Kind)} (hf : Flat l)
    (h : (l.map encodeItem).flatten.length < 2 ^ 64) :
    Seq Minimal l (l.map encodeItem).flatten := by
  induction l with
  | nil => exact .nil
  | cons x l ih =>
    obtain ⟨s, k⟩ := x
    rw [List.map_cons, List.flatten_cons] at h ⊢
    rw [List.length_append] at h
    refine .cons ?_ (ih (fun y hy => hf y (List.mem_cons_of_mem _ hy)) (by omega))
    cases k with
    | string =>
      have hs : s.length ≤ (encodeItem (s, .string)).length := length_le_rlpBytes s
      exact minimal_rlpBytes (by omega)
    | list =>
      have hs : s = [] := hf _ List.mem_cons_self rfl
      subst hs
      exact .emptyList

end MacProvider.Coordinator.Evm.Transaction
