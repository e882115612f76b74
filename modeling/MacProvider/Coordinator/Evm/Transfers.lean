import MacProvider.Coordinator.Evm.Signing

/-! # The two transactions of the payout system

The USDC transfer to a provider (`buildEIP1559`) and the self-transfer of one wei that takes the
nonce of an abandoned one (`buildCancelTx`), with the checks on signed envelopes. -/

namespace MacProvider.Coordinator.Evm.Transfers

open MacProvider.Lib Lib.Rlp Evm.Codec Evm.Transaction Evm.Envelope Evm.Signing

/-! ### Addresses -/

/-- Hexadecimal digits only. -/
def isHexAlphabet (s : List Char) : Bool :=
  s.all fun c => ('0' ≤ c && c ≤ '9') || ('a' ≤ c && c ≤ 'f') || ('A' ≤ c && c ≤ 'F')

/-- The case is the top bit of the hash's digit. -/
def applyEIP55Checksum (crypto : Crypto) (lowerHex : List Char) : List Char :=
  let digest := crypto.keccak (lowerHex.map fun c => UInt8.ofNat c.toNat)
  lowerHex.mapIdx fun i c =>
    let byte := (digest.getD (i / 2) 0).toNat
    let nibble := if i % 2 = 0 then byte / 16 else byte % 16
    if 8 ≤ nibble ∧ 'a' ≤ c ∧ c ≤ 'f' then c.toUpper else c

/-- Behind its `0x`. A text in one case needs no checksum. -/
def parseAndCanonicalizeEIP55 (crypto : Crypto) (input : String) : Go (List Char) :=
  match input.toList with
  | '0' :: x :: hexBody =>
    if hexBody.length ≠ 40 ∨ (x ≠ 'x' ∧ x ≠ 'X') ∨ !isHexAlphabet hexBody then fail "bad_format"
    else
      let lower := hexBody.map Char.toLower
      let canonical := applyEIP55Checksum crypto lower
      if hexBody = lower ∨ hexBody = hexBody.map Char.toUpper ∨ hexBody = canonical then
        return canonical
      else fail "checksum_mismatch"
  | _ => fail "bad_format"

/-- The value of a digit. -/
def hexValue (c : Char) : ℕ :=
  if c ≤ '9' then c.toNat - '0'.toNat
  else if c ≤ 'F' then c.toNat - 'A'.toNat + 10
  else c.toNat - 'a'.toNat + 10

/-- `hex.DecodeString` of an even number of digits. -/
def hexDecode : List Char → Bytes
  | a :: b :: l => UInt8.ofNat (16 * hexValue a + hexValue b) :: hexDecode l
  | _ => []

/-- The bytes of an address. -/
def addressBytes (crypto : Crypto) (input : String) : Go Bytes := do
  let canonical ← parseAndCanonicalizeEIP55 crypto input
  return hexDecode canonical

/-- `NormalizeAddress`, behind its `0x`. -/
def normalizeAddress (crypto : Crypto) (input : String) : Go (List Char) := do
  let canonical ← parseAndCanonicalizeEIP55 crypto input
  return canonical.map Char.toLower

/-- The texts are of one address. -/
def addressEqualFold (crypto : Crypto) (a b : String) : Bool :=
  match normalizeAddress crypto a, normalizeAddress crypto b with
  | .ok an, .ok bn => an == bn
  | _, _ => false

/-- `strings.EqualFold` on hexadecimal digits. -/
def equalFold (a b : String) : Bool := a.toList.map Char.toLower == b.toList.map Char.toLower

/-! ### The transfer -/

/-- The token. -/
def usdcContractAddressBase : String := "0x833589fCD6eDb6E08f4c7C32D4f71b54bdA02913"

/-- The selector of `transfer`. -/
def transferSelector : Bytes := [0xa9, 0x05, 0x9c, 0xbb]

/-- `transfer(to, amount)` in words of 32 bytes. -/
def usdcTransferCalldata (crypto : Crypto) (toAddress : String) (amount : ℤ) : Go Bytes :=
  if amount ≤ 0 then fail ("USDCTransferCalldata: amount must be > 0, got " ++ toString amount)
  else do
    let addr ← wrapErr "USDCTransferCalldata: to address" (addressBytes crypto toAddress)
    return transferSelector ++ (List.replicate 12 0 ++ addr) ++ BigEndian.fixed 32 amount.toNat

/-- A transaction to the address in the text. -/
def withRecipient (crypto : Crypto) (address : String)
    (tx : (b : Bytes) → b.length = 20 → EIP1559Tx) : Go EIP1559Tx := do
  let b ← addressBytes crypto address
  if h : b.length = 20 then return tx b h
  else fail "bad_format"

/-- A transfer of the token. -/
def buildEIP1559 (crypto : Crypto) (nonce : ℤ) (effectiveAddress : String) (amount : ℤ) :
    Go EIP1559Tx := do
  let calldata ← usdcTransferCalldata crypto effectiveAddress amount
  withRecipient crypto usdcContractAddressBase fun b h =>
    { chainID := baseMainnetChainID, nonce := UInt64.ofInt nonce,
      maxPriorityFeePerGas := some 2000000000, maxFeePerGas := some 50000000000, gasLimit := 80000,
      toAddress := b, value := some 0, data := calldata, toAddress_length := h }

/-- The end of both checks; `msg` is its error. -/
def verifySender (crypto : Crypto) (hotWallet : String) (msg : String → String) (signed : Bytes) :
    Go Unit := do
  let recovered ← wrapErr "ecrecover" (recoverTxSender crypto signed)
  if addressEqualFold crypto recovered hotWallet then return () else fail (msg recovered)

/-- The checks on a signed transfer. Call data that cannot be built is empty. -/
def verifySignedTx (crypto : Crypto) (hotWallet : String) (unsigned : EIP1559Tx) (signed : Bytes)
    (returnedTxHash : String) (amount : ℤ) (effectiveAddress : String) : Go Unit := do
  let decoded ← wrapErr "decode" (decodeSignedEIP1559 signed)
  let wantData := (usdcTransferCalldata crypto effectiveAddress amount).toOption.getD []
  if decoded.tx.nonce ≠ unsigned.nonce then
    fail ("nonce mismatch: decoded=" ++ toString decoded.tx.nonce ++ " unsigned=" ++
      toString unsigned.nonce)
  else if decoded.tx.chainID ≠ baseMainnetChainID then
    fail ("chain_id != Base (" ++ toString decoded.tx.chainID ++ ")")
  else if decoded.tx.toAddress ≠ unsigned.toAddress then fail "to mismatch"
  else if decoded.tx.value ≠ some 0 then fail "value != 0"
  else if decoded.tx.data ≠ wantData then fail "calldata mismatch"
  else if !equalFold (txHash crypto signed) returnedTxHash then
    fail ("tx_hash mismatch: signer=" ++ returnedTxHash ++ " local=" ++ txHash crypto signed)
  else
    let msg := fun recovered => "recovered sender " ++ recovered ++ " != hot_wallet " ++ hotWallet
    verifySender crypto hotWallet msg signed

/-- A self-transfer of one wei, with the raised `tip`. -/
def buildCancelTx (crypto : Crypto) (hotWallet : String) (nonce : ℤ) (tip : ℤ) : Go EIP1559Tx :=
  withRecipient crypto hotWallet fun b h =>
    { chainID := baseMainnetChainID, nonce := UInt64.ofInt nonce,
      maxPriorityFeePerGas := some tip, maxFeePerGas := some (tip + 20000000000), gasLimit := 21000,
      toAddress := b, value := some 1, data := [], toAddress_length := h }

/-- The checks on a signed cancel. -/
def verifyCancelEnvelope (crypto : Crypto) (hotWallet : String) (unsigned : EIP1559Tx)
    (signed : Bytes) (returnedHash : String) : Go Unit := do
  let decoded ← wrapErr "decode" (decodeSignedEIP1559 signed)
  let hotBytes := (addressBytes crypto hotWallet).toOption.getD (List.replicate 20 0)
  if decoded.tx.nonce ≠ unsigned.nonce then fail "nonce mismatch"
  else if decoded.tx.chainID ≠ baseMainnetChainID then fail "chain_id != Base"
  else if decoded.tx.toAddress ≠ hotBytes then fail "to != hot_wallet"
  else if decoded.tx.value ≠ some 1 then fail "value != 1 wei"
  else if decoded.tx.data ≠ [] then fail "input not empty"
  else if txHash crypto signed ≠ returnedHash then fail "tx_hash mismatch"
  else verifySender crypto hotWallet (fun _ => "recovered sender != hot_wallet") signed

/-! ### What the checks give -/

/-- The nonce of an envelope. -/
def txNonce (signed : Bytes) : Option UInt64 :=
  match decodeSignedEIP1559 signed with
  | .ok d => some d.tx.nonce
  | .error _ => none

/-- The envelope has call data. -/
def hasCalldata (signed : Bytes) : Bool :=
  match decodeSignedEIP1559 signed with
  | .ok d => !d.tx.data.isEmpty
  | .error _ => false

section Checks
variable {crypto : Crypto} {hotWallet : String} {unsigned : EIP1559Tx} {signed : Bytes}
  {hash : String}

variable {d : Decoded} {amount nonce tip : ℤ} {t : EIP1559Tx} {addr : String}

theorem txNonce_eq (h : decodeSignedEIP1559 signed = .ok d) : txNonce signed = some d.tx.nonce := by
  simp only [txNonce, h]

theorem hasCalldata_eq (h : decodeSignedEIP1559 signed = .ok d) :
    hasCalldata signed = !d.tx.data.isEmpty := by
  simp only [hasCalldata, h]

theorem usdcTransferCalldata_ne_nil {toAddress : String} {data : Bytes}
    (h : usdcTransferCalldata crypto toAddress amount = .ok data) : data ≠ [] := by
  unfold usdcTransferCalldata at h
  split_ifs at h
  obtain ⟨addr, -, h⟩ := bind_eq_ok.mp h
  cases h
  simp [transferSelector]

theorem withRecipient_nonce {address : String} {n : UInt64}
    {tx : (b : Bytes) → b.length = 20 → EIP1559Tx} (htx : ∀ b h, (tx b h).nonce = n)
    (h : withRecipient crypto address tx = .ok t) : t.nonce = n := by
  obtain ⟨b, -, h⟩ := bind_eq_ok.mp h
  split_ifs at h with hb
  cases h
  exact htx b hb

theorem buildEIP1559_ok
    (h : buildEIP1559 crypto nonce addr amount = .ok t) : t.nonce = UInt64.ofInt nonce ∧
      ∃ data, usdcTransferCalldata crypto addr amount = .ok data := by
  obtain ⟨data, hdata, h⟩ := bind_eq_ok.mp h
  exact ⟨withRecipient_nonce (fun _ _ => rfl) h, data, hdata⟩

theorem buildCancelTx_nonce
    (h : buildCancelTx crypto hotWallet nonce tip = .ok t) : t.nonce = UInt64.ofInt nonce :=
  withRecipient_nonce (fun _ _ => rfl) h

/-- **A transfer that passes** has its nonce, and call data. -/
theorem verifySignedTx_ok
    (hbuild : buildEIP1559 crypto nonce addr amount = .ok unsigned)
    (h : verifySignedTx crypto hotWallet unsigned signed hash amount addr = .ok ()) :
    txNonce signed = some (UInt64.ofInt nonce) ∧ hasCalldata signed = true := by
  obtain ⟨hnonce, data, hdata⟩ := buildEIP1559_ok hbuild
  obtain ⟨d, hd, h⟩ := bind_eq_ok.mp h
  have hd := wrapErr_eq_ok_iff.mp hd
  rw [hdata] at h
  dsimp only [Except.toOption, Option.getD] at h
  split_ifs at h with h1 h2 h3 h4 h5 h6
  have hne : data ≠ [] := usdcTransferCalldata_ne_nil hdata
  rw [txNonce_eq hd, hasCalldata_eq hd, not_not.mp h1, not_not.mp h5, hnonce]
  refine ⟨rfl, ?_⟩
  simpa using hne

/-- **A cancel that passes** has its nonce, and no call data. -/
theorem verifyCancelEnvelope_ok
    (hbuild : buildCancelTx crypto hotWallet nonce tip = .ok unsigned)
    (h : verifyCancelEnvelope crypto hotWallet unsigned signed hash = .ok ()) :
    txNonce signed = some (UInt64.ofInt nonce) ∧ hasCalldata signed = false := by
  obtain ⟨d, hd, h⟩ := bind_eq_ok.mp h
  have hd := wrapErr_eq_ok_iff.mp hd
  dsimp only at h
  split_ifs at h with h1 h2 h3 h4 h5 h6
  rw [txNonce_eq hd, hasCalldata_eq hd, not_not.mp h1, buildCancelTx_nonce hbuild, not_not.mp h5]
  exact ⟨rfl, rfl⟩

end Checks

theorem hexDigit_cases {c : Char} (h : isHexAlphabet [c] = true) :
    hexValue c < 16 ∧ c.toLower = Nat.digitChar (hexValue c) ∧ hexValue c.toLower = hexValue c ∧
      isHexAlphabet [c.toUpper] = true ∧ isHexAlphabet [c.toLower] = true := by
  have hlt : c.toNat < 128 := by
    simp [isHexAlphabet, Char.le_def, UInt32.le_iff_toNat_le] at h
    have hc : c.toNat = c.val.toNat := rfl
    omega
  rw [← Char.ofNat_toNat c] at h ⊢
  generalize c.toNat = n at *
  revert h
  revert n
  decide +kernel

theorem hexDigit_inj {c d : Char} (hc : isHexAlphabet [c] = true) (hd : isHexAlphabet [d] = true) :
    c.toLower = d.toLower ↔ hexValue c = hexValue d := by
  constructor <;> intro h
  · rw [← (hexDigit_cases hc).2.2.1, h, (hexDigit_cases hd).2.2.1]
  · rw [(hexDigit_cases hc).2.1, h, ← (hexDigit_cases hd).2.1]

theorem canonical_digits {crypto : Crypto} {input : String} {l : List Char}
    (h : parseAndCanonicalizeEIP55 crypto input = .ok l) :
    l.length = 2 * 20 ∧ ∀ c ∈ l, isHexAlphabet [c] = true := by
  unfold parseAndCanonicalizeEIP55 at h
  split at h
  case h_2 => cases h
  case h_1 x body _ =>
    dsimp only at h
    split_ifs at h with hbad
    rw [not_or, not_or, not_not] at hbad
    cases h
    refine ⟨by simpa [applyEIP55Checksum] using hbad.1, fun c hc => ?_⟩
    obtain ⟨i, hi, rfl⟩ := List.mem_mapIdx.mp hc
    rw [List.length_map] at hi
    have hhex : isHexAlphabet body = true := by simpa using hbad.2.2
    have hbody : isHexAlphabet [body[i]] = true := by
      simpa [isHexAlphabet] using List.all_eq_true.mp hhex _ (List.getElem_mem hi)
    have hlower := (hexDigit_cases hbody).2.2.2.2
    simp only [List.getElem_map]
    split_ifs <;> first | exact hlower | exact (hexDigit_cases hlower).2.2.2.1

theorem hexDecode_inj (n : ℕ) {l l' : List Char}
    (hl : l.length = 2 * n ∧ ∀ c ∈ l, isHexAlphabet [c] = true)
    (hl' : l'.length = 2 * n ∧ ∀ c ∈ l', isHexAlphabet [c] = true) :
    hexDecode l = hexDecode l' ↔ l.map Char.toLower = l'.map Char.toLower := by
  induction n generalizing l l' with
  | zero => rw [List.length_eq_zero_iff.mp hl.1, List.length_eq_zero_iff.mp hl'.1]; simp
  | succ n ih =>
    have hpair (k : List Char) (hk : k.length = 2 * (n + 1)) : ∃ a b r, k = a :: b :: r := by
      rcases k with _ | ⟨a, _ | ⟨b, r⟩⟩ <;> simp at hk ⊢; omega
    obtain ⟨a, b, l, rfl⟩ := hpair l hl.1
    obtain ⟨a', b', l', rfl⟩ := hpair l' hl'.1
    simp only [List.forall_mem_cons, List.length_cons] at hl hl'
    obtain ⟨hn, ha, hb, hr⟩ := hl
    obtain ⟨hn', ha', hb', hr'⟩ := hl'
    have hbyte : UInt8.ofNat (16 * hexValue a + hexValue b) =
        UInt8.ofNat (16 * hexValue a' + hexValue b') ↔
          hexValue a = hexValue a' ∧ hexValue b = hexValue b' := by
      have := hexDigit_cases ha
      have := hexDigit_cases hb
      have := hexDigit_cases ha'
      have := hexDigit_cases hb'
      rw [← UInt8.toNat_inj, UInt8.toNat_ofNat', UInt8.toNat_ofNat']
      omega
    simp only [hexDecode, List.map_cons, List.cons.injEq, hbyte, hexDigit_inj ha ha',
      hexDigit_inj hb hb', ih ⟨by omega, hr⟩ ⟨by omega, hr'⟩, and_assoc]

/-- **Addresses compare as their bytes.** -/
theorem addressEqualFold_iff_bytes {crypto : Crypto} {a b : String} :
    addressEqualFold crypto a b = true ↔
      ∃ bytes, addressBytes crypto a = .ok bytes ∧ addressBytes crypto b = .ok bytes := by
  unfold addressEqualFold normalizeAddress addressBytes
  cases ha : parseAndCanonicalizeEIP55 crypto a <;> cases hb : parseAndCanonicalizeEIP55 crypto b
  case ok.ok ca cb =>
    have hinj := hexDecode_inj 20 (canonical_digits ha) (canonical_digits hb)
    simp only [ok_bind, pure, Except.pure, Except.ok.injEq, beq_iff_eq, ← hinj, exists_eq_left']
    exact eq_comm
  all_goals simp

end MacProvider.Coordinator.Evm.Transfers
