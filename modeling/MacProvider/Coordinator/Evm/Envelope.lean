import MacProvider.Coordinator.Evm.Transaction

/-! # Signed envelopes: safety, round trip, canonical form

What the decoder accepts (`decodeSignedEIP1559_eq_ok_iff`), that it panics only on a length out of
range, that what is written is read back, and when what is read is written again as it was
(`signedRLP_decoded_iff`). -/

namespace MacProvider.Coordinator.Evm.Envelope

open Lib.Rlp Lib.BigEndian Evm.Codec Evm.Grammar Evm.Transaction

variable {α : Type} {n : ℕ} {y : UInt8} {r e : Bytes} {t : EIP1559Tx}

theorem wrapErr_eq_ok_iff {pre : String} {x : Go α} {a : α} :
    wrapErr pre x = .ok a ↔ x = .ok a := by
  cases x with
  | ok b => rfl
  | error e =>
    cases e with
    | error msg => simp [wrapErr]
    | panic => rfl
    | hang => rfl

theorem map_prodMk (l : List (Bytes × Kind)) : l.map (fun x => (x.1, x.2)) = l := List.map_id l

theorem decodeSignedEIP1559_type_two {body : Bytes} (h : body ≠ []) :
    decodeSignedEIP1559 (0x02 :: body) =
      (wrapErr "DecodeSignedEIP1559: RLP decode body" (rlpDecodeListWithKinds body) >>= fun r =>
        if r.2 ≠ body.length then
          fail ("DecodeSignedEIP1559: trailing " ++ toString (body.length - r.2) ++
            " bytes after top-level list")
        else assemble r.1) := by
  cases body with
  | nil => exact absurd rfl h
  | cons x body => rfl

variable {l : List (Bytes × Kind)} {b s p : Bytes} {d : Decoded}

theorem decodeSignedEIP1559_other (h : ¬ ∃ body, b = 0x02 :: body ∧ body ≠ []) :
    ∃ msg, decodeSignedEIP1559 b = fail msg := by
  unfold decodeSignedEIP1559
  split
  · exact ⟨_, rfl⟩
  · exact ⟨_, rfl⟩
  rename_i type body hb
  by_cases ht : type = 0x02
  · exact absurd ⟨body, by rw [ht], hb⟩ h
  · rw [if_pos ht]
    exact ⟨_, rfl⟩

theorem decodeSignedEIP1559_eq_ok_iff :
    decodeSignedEIP1559 b = .ok d ↔ ∃ p e l, b = 0x02 :: e ∧ SpellsList p e ∧ e.length < 2 ^ 63 ∧
      Seq Readable l p ∧ assemble l = .ok d := by
  constructor
  · intro h
    by_cases hb : ∃ body, b = 0x02 :: body ∧ body ≠ []
    · obtain ⟨body, rfl, hne⟩ := hb
      rw [decodeSignedEIP1559_type_two hne] at h
      obtain ⟨⟨items, used⟩, hl, h⟩ := bind_eq_ok.mp h
      obtain ⟨p, e, c, l, rfl, he, hlen, hs, rfl, rfl⟩ :=
        decodeList_ok_iff.mp (wrapErr_eq_ok_iff.mp hl)
      split_ifs at h with hc
      -- Nothing follows the list.
      have hc0 : c = [] := by
        rw [List.length_append] at hc
        exact List.length_eq_zero_iff.mp (by omega)
      rw [map_prodMk] at h
      rw [hc0, List.append_nil]
      exact ⟨p, e, l, rfl, he, hlen, hs, h⟩
    · obtain ⟨msg, hm⟩ := decodeSignedEIP1559_other hb
      rw [hm] at h
      cases h
  · rintro ⟨p, e, l, rfl, he, hlen, hs, h⟩
    have hl : rlpDecodeListWithKinds e = .ok (l, (e.length : ℤ)) :=
      decodeList_ok_iff.mpr
        ⟨p, e, [], l, (List.append_nil e).symm, he, hlen, hs, (map_prodMk l).symm, rfl⟩
    rw [decodeSignedEIP1559_type_two he.ne_nil, hl, wrapErr_eq_ok_iff.mpr rfl, ok_bind,
      if_neg (by simp), h]

/-! ### Safety -/

section Returns
variable {α γ : Type}

theorem returns_fail (msg : String) : Returns (fail msg : Go α) := .inr ⟨msg, rfl⟩

theorem returns_ok (a : α) : Returns (.ok a : Go α) := .inl ⟨a, rfl⟩

variable {x : Go α}

theorem returns_bind {g : α → Go γ} (hx : Returns x) (hg : ∀ a, Returns (g a)) :
    Returns (x >>= g) := by
  obtain ⟨a, rfl⟩ | ⟨msg, rfl⟩ := hx
  · exact hg a
  · exact returns_fail msg

theorem returns_ite {c : Prop} [Decidable c] {y : Go α} (hx : Returns x) (hy : Returns y) :
    Returns (if c then x else y) := by
  split_ifs
  · exact hx
  · exact hy

theorem returns_wrapErr {pre : String} : Returns (wrapErr pre x) ↔ Returns x := by
  cases x with
  | ok a => exact ⟨fun _ => returns_ok a, fun _ => returns_ok a⟩
  | error e =>
    cases e with
    | error msg => exact ⟨fun _ => returns_fail msg, fun _ => returns_fail _⟩
    | panic => rfl
    | hang => rfl

theorem returns_rlpItemUint (b : Bytes) : Returns (rlpItemUint b) := by
  unfold rlpItemUint
  split_ifs
  · exact returns_fail _
  · exact returns_ok _

end Returns

theorem returns_assemble (l : List (Bytes × Kind)) : Returns (assemble l) := by
  unfold assemble
  split
  · refine returns_bind (returns_wrapErr.mpr (returns_rlpItemUint _)) fun chainID => ?_
    refine returns_bind (returns_wrapErr.mpr (returns_rlpItemUint _)) fun nonce => ?_
    refine returns_bind (returns_wrapErr.mpr (returns_rlpItemUint _)) fun gasLimit => ?_
    split
    · refine returns_ite (returns_fail _) (returns_ite (returns_fail _) ?_)
      refine returns_bind (returns_wrapErr.mpr (returns_rlpItemUint _)) fun parityU => ?_
      exact returns_ite (returns_fail _) (returns_ite (returns_fail _) (returns_ok _))
    · exact returns_fail _
  · exact returns_fail _

/-- The body comes to a length out of range. -/
def OversizedEnvelope (b : Bytes) : Prop := ∃ body, b = 0x02 :: body ∧ Oversized body

theorem not_oversized_nil : ¬ Oversized [] := by
  rintro (⟨l, c, h, -⟩ | ⟨p, e, c, l, q, r, h, he, -⟩)
  · cases h
  · cases he with
    | short => cases h
    | long => cases h

theorem decodeSignedEIP1559_oversized (h : OversizedEnvelope b) :
    decodeSignedEIP1559 b = .error .panic := by
  obtain ⟨body, rfl, ho⟩ := h
  have hne : body ≠ [] := by
    rintro rfl
    exact not_oversized_nil ho
  have hl : rlpDecodeListWithKinds body = .error .panic := decodeList_oversized ho
  rw [decodeSignedEIP1559_type_two hne, hl]
  rfl

theorem decodeSignedEIP1559_returns (h : ¬ OversizedEnvelope b) :
    Returns (decodeSignedEIP1559 b) := by
  by_cases hb : ∃ body, b = 0x02 :: body ∧ body ≠ []
  · obtain ⟨body, rfl, hne⟩ := hb
    have ho : ¬ Oversized body := fun ho => h ⟨body, rfl, ho⟩
    rw [decodeSignedEIP1559_type_two hne]
    refine returns_bind (returns_wrapErr.mpr (decodeList_returns ho)) fun r => ?_
    exact returns_ite (returns_fail _) (returns_assemble _)
  · exact .inr (decodeSignedEIP1559_other hb)

theorem ne_hang {x : Go α} (h : Returns x ∨ x = .error .panic) : x ≠ .error .hang := by
  rintro rfl
  obtain (⟨a, h⟩ | ⟨msg, h⟩) | h := h
  · cases h
  · cases h
  · cases h

/-- **The decoders of signed and unsigned envelopes return on every input but those with a length
out of range**, which panic. Loops end, and an item takes a byte or more inside the input. -/
theorem decodeSignedEIP1559_returns_iff (b : Bytes) :
    (Returns (decodeSignedEIP1559 b) ↔ ¬ OversizedEnvelope b) ∧
      (Returns (rlpDecodeList b) ↔ ¬ Oversized b) ∧
      (decodeSignedEIP1559 b ≠ .error .hang ∧ rlpDecodeList b ≠ .error .hang) ∧
      (∀ item used, rlpDecodeItemWithKind b = .ok (item, used) → 1 ≤ used ∧ used ≤ b.length) ∧
      ∀ item used, rlpDecodeItem b = .ok (item, used) → 1 ≤ used ∧ used ≤ b.length := by
  refine ⟨⟨?_, decodeSignedEIP1559_returns⟩, decodeList_returns_iff b,
    ⟨ne_hang ?_, ne_hang ?_⟩, fun _ _ => decodeItem_used, fun _ _ => decodeItem_used⟩
  · intro hr ho
    rw [decodeSignedEIP1559_oversized ho] at hr
    exact not_returns_panic hr
  · by_cases ho : OversizedEnvelope b
    · exact .inr (decodeSignedEIP1559_oversized ho)
    · exact .inl (decodeSignedEIP1559_returns ho)
  · by_cases ho : Oversized b
    · exact .inr (decodeList_oversized ho)
    · exact .inl (decodeList_returns ho)

/-- Eight length bytes `0xff` read as `-1`. -/
theorem decodeSignedEIP1559_panics :
    decodeSignedEIP1559 [0x02, 0xff, 0xff, 0xff, 0xff, 0xff, 0xff, 0xff, 0xff, 0xff] =
      .error .panic := by
  decide +kernel

/-! ### Round trip -/

theorem rlpItemUint_bytes (h : n < 2 ^ 64) : rlpItemUint (bytes n) = .ok (UInt64.ofNat n) := by
  have hl : (bytes n).length ≤ 8 := length_bytes_le h
  have hv : bigEndianRead (bytes n) = UInt64.ofNat n := by
    apply UInt64.toNat_inj.mp
    rw [toNat_bigEndianRead hl, value_bytes, UInt64.toNat_ofNat_of_lt' h]
  unfold rlpItemUint
  rw [if_neg (by omega), hv]

theorem rlpItemUint_toNat (v : UInt64) : rlpItemUint (bytes v.toNat) = .ok v := by
  rw [rlpItemUint_bytes v.toNat_lt, UInt64.ofNat_toNat]

theorem setBytes_bytes {v : ℤ} (h : 0 ≤ v) : setBytes (bytes v.natAbs) = some v := by
  rw [setBytes, value_bytes, Int.natAbs_of_nonneg h]

theorem leftPad32_trimLeadingZeros (h : b.length ≤ 32) :
    leftPad32 (trimLeadingZeros b) = leftPad32 b := by
  have hle : (trim b).length ≤ b.length := length_trim_le b
  have hn : 32 - (trim b).length = (32 - b.length) + (b.length - (trim b).length) := by omega
  calc List.replicate (32 - (trim b).length) 0 ++ trim b
      = List.replicate (32 - b.length) 0 ++
          (List.replicate (b.length - (trim b).length) 0 ++ trim b) := by
        rw [hn, ← List.replicate_append_replicate, List.append_assoc]
    _ = List.replicate (32 - b.length) 0 ++ b := by rw [replicate_append_trim]

theorem parity_toNat (y : UInt8) : rlpItemUint (bytes y.toNat) = .ok y.toUInt64 := by
  have h := rlpItemUint_toNat y.toUInt64
  rwa [UInt8.toNat_toUInt64] at h

/-- A signature whose two numbers are not zero. -/
structure Signature (yParity : UInt8) (r s : Bytes) : Prop extends SignatureParts yParity r s where
  r_pos : ∃ x ∈ r, x ≠ 0
  s_pos : ∃ x ∈ s, x ≠ 0

theorem length_trimLeadingZeros (h : ∃ x ∈ b, x ≠ 0) : (trimLeadingZeros b).length ≠ 0 := by
  intro hl
  obtain ⟨x, hx, hne⟩ := h
  exact hne (trim_eq_nil_iff.mp (List.length_eq_zero_iff.mp hl) x hx)

theorem assemble_fields (hv : Valid t)
    (hval : ∀ v, t.value = some v → 0 ≤ v) (hs : Signature y r s) :
    assemble (fields t ++ signatureFields y r s) = .ok ⟨t, y, leftPad32 r, leftPad32 s⟩ := by
  obtain ⟨prio, hprio, hp, fee, hfee, hf, -⟩ := hv.prio
  obtain ⟨v, hv⟩ := hv.value
  have hr : ¬ ((trimLeadingZeros r).length = 0 ∨ 32 < (trimLeadingZeros r).length ∨
      (trimLeadingZeros s).length = 0 ∨ 32 < (trimLeadingZeros s).length) := by
    have h1 : (trimLeadingZeros r).length ≤ r.length := length_trim_le r
    have h2 : (trimLeadingZeros s).length ≤ s.length := length_trim_le s
    have h3 := length_trimLeadingZeros hs.r_pos
    have h4 := length_trimLeadingZeros hs.s_pos
    have h5 := hs.r_le
    have h6 := hs.s_le
    omega
  have hy : ¬ 1 < y.toUInt64 := by
    have := hs.parity
    rw [UInt64.lt_iff_toNat_lt, UInt8.toNat_toUInt64]
    exact not_lt.mpr this
  simp only [fields, signatureFields, List.cons_append, List.nil_append, assemble,
    rlpItemUint_toNat, parity_toNat, wrapErr, ok_bind, hprio, hfee, hv, Option.getD_some,
    setBytes_bytes hp, setBytes_bytes hf, setBytes_bytes (hval v hv), dif_pos t.toAddress_length]
  rw [if_neg (by simp), if_neg (by simp), if_neg hy, if_neg hr,
    leftPad32_trimLeadingZeros hs.r_le, leftPad32_trimLeadingZeros hs.s_le]
  cases t
  simp_all

theorem seq_readable (h : Seq Spells l p) (hp : p.length < 2 ^ 63) : Seq Readable l p := by
  induction h with
  | nil => exact .nil
  | cons h _ ih =>
    rw [List.length_append] at hp
    exact .cons ⟨h, by omega⟩ (ih (by omega))

theorem length_flatten_le_rlpList (items : List Bytes) :
    items.flatten.length ≤ (rlpList items).length := by
  unfold rlpList
  dsimp only
  split_ifs with h0
  · simp [h0]
  · simp
  · simp only [List.length_cons, List.length_append]
    omega

theorem flat_fields (t : EIP1559Tx) (y : UInt8) (r s : Bytes) :
    Flat (fields t ++ signatureFields y r s) := by
  intro x hx hk
  simp only [fields, signatureFields, List.cons_append, List.nil_append, List.mem_cons,
    List.not_mem_nil, or_false] at hx
  rcases hx with rfl | rfl | rfl | rfl | rfl | rfl | rfl | rfl | rfl | rfl | rfl | rfl <;>
    first | rfl | cases hk

theorem signedRLP_minimal (h : signedRLP t y r s = .ok b) (hb : b.length ≤ 2 ^ 63) :
    ∃ p e, b = 0x02 :: e ∧ MinimalList p e ∧ Seq Minimal (fields t ++ signatureFields y r s) p ∧
      p.length ≤ e.length := by
  obtain ⟨-, -, rfl⟩ := signedRLP_eq_ok_iff.mp h
  rw [encodedFields_eq, encodedSignature_eq, ← List.map_append] at hb ⊢
  have hle := length_flatten_le_rlpList ((fields t ++ signatureFields y r s).map encodeItem)
  rw [List.length_cons] at hb
  exact ⟨_, _, rfl, minimalList_rlpList (by omega),
    seq_minimal (flat_fields t y r s) (by omega), hle⟩

/-- **Round trip** of envelopes up to `2 ^ 63 - 1` bytes. -/
theorem decodeSignedEIP1559_signedRLP {t : EIP1559Tx} {y : UInt8} {r s : Bytes}
    (hv : validate t = .ok ()) (hval : ∀ v, t.value = some v → 0 ≤ v) (hs : Signature y r s) :
    ∃ b, signedRLP t y r s = .ok b ∧ (b.length < 2 ^ 63 →
      decodeSignedEIP1559 b = .ok ⟨t, y, leftPad32 r, leftPad32 s⟩) := by
  have hv := (validate_eq_ok_iff t).mp hv
  have hb := signedRLP_eq_ok_iff.mpr ⟨hv, hs.toSignatureParts, rfl⟩
  refine ⟨_, hb, fun hlen => ?_⟩
  obtain ⟨p, e, he, hl, hseq, hp⟩ := signedRLP_minimal hb hlen.le
  rw [he] at hlen ⊢
  rw [List.length_cons] at hlen
  refine decodeSignedEIP1559_eq_ok_iff.mpr ⟨p, e, _, rfl, hl.spells, by omega, ?_,
    assemble_fields hv hval hs⟩
  exact seq_readable (hseq.mono fun _ _ _ h => h.spells) (by omega)

/-- With 68 bytes of call data. -/
theorem decodeSignedEIP1559_signedRLP_transfer : let t : EIP1559Tx :=
      { chainID := 8453, nonce := 7, maxPriorityFeePerGas := some 1000000,
        maxFeePerGas := some 30000000000, gasLimit := 65000, toAddress := List.replicate 20 0x83,
        value := some 0, data := [0xa9, 0x05, 0x9c, 0xbb] ++ List.replicate 64 0x01,
        toAddress_length := rfl }
    ∃ b, signedRLP t 1 [0, 5] (List.replicate 32 0x7f) = .ok b ∧ decodeSignedEIP1559 b =
      .ok ⟨t, 1, leftPad32 [0, 5], leftPad32 (List.replicate 32 0x7f)⟩ := by
  intro t
  have hlen : (signedRLP t 1 [0, 5] (List.replicate 32 0x7f)).map List.length = .ok 148 := by
    decide +kernel
  obtain ⟨b, hb, h⟩ := decodeSignedEIP1559_signedRLP (t := t) (y := 1) (r := [0, 5])
    (s := List.replicate 32 0x7f) rfl (by rintro v ⟨⟩; exact le_rfl)
    ⟨⟨by decide, by decide, by decide, by decide, by decide⟩, ⟨5, by decide, by decide⟩,
      ⟨0x7f, by decide, by decide⟩⟩
  refine ⟨b, hb, h ?_⟩
  rw [hb] at hlen
  have hb148 : b.length = 148 := Except.ok.inj hlen
  omega

/-! ### Canonical envelopes -/

/-- Strings in their places, the access list a list, no leading zeros. -/
def CanonicalItems (l : List (Bytes × Kind)) : Prop :=
  l.map Prod.snd = List.replicate 8 .string ++ .list :: List.replicate 3 .string ∧
    ∀ i ∈ [0, 1, 2, 3, 4, 6, 9, 10, 11], NoLeadingZero (l.getD i ([], .string)).1

/-- The shortest text of canonical items. -/
def Canonical (b : Bytes) : Prop :=
  ∃ p e l, b = 0x02 :: e ∧ MinimalList p e ∧ Seq Minimal l p ∧ CanonicalItems l

theorem canonicalItems_fields (t : EIP1559Tx) (y : UInt8) (r s : Bytes) :
    CanonicalItems (fields t ++ signatureFields y r s) := by
  refine ⟨rfl, ?_⟩
  simp only [List.forall_mem_cons, List.not_mem_nil, false_imp_iff, implies_true, and_true]
  exact ⟨noLeadingZero_bytes _, noLeadingZero_bytes _, noLeadingZero_bytes _,
    noLeadingZero_bytes _, noLeadingZero_bytes _, noLeadingZero_bytes _, noLeadingZero_bytes _,
    noLeadingZero_trim _, noLeadingZero_trim _⟩

theorem encodeItem_of_minimal {k : Kind} (h : Minimal k s e) (he : e.length < 2 ^ 64) :
    encodeItem (s, k) = e := by
  cases k with
  | string =>
    have hs : s.length ≤ e.length := by
      cases h with
      | byte => simp
      | empty => simp
      | short => simp
      | long =>
        simp only [List.length_cons, List.length_append]
        omega
    have hm : Minimal .string s (rlpBytes s) := minimal_rlpBytes (by omega)
    exact hm.unique h
  | list =>
    cases h with
    | emptyList => rfl

theorem flatten_of_seq (h : Seq Minimal l p) (hp : p.length < 2 ^ 64) :
    (l.map encodeItem).flatten = p := by
  induction h with
  | nil => rfl
  | cons h _ ih =>
    rw [List.length_append] at hp
    rw [List.map_cons, List.flatten_cons, encodeItem_of_minimal h (by omega), ih (by omega)]

theorem rlpItemUint_eq_ok_iff {v : UInt64} :
    rlpItemUint b = .ok v ↔ b.length ≤ 8 ∧ v.toNat = value b := by
  unfold rlpItemUint
  constructor
  · intro h
    split_ifs at h with hl
    cases h
    exact ⟨not_lt.mp hl, toNat_bigEndianRead (not_lt.mp hl)⟩
  · rintro ⟨hl, hv⟩
    rw [if_neg (not_lt.mpr hl)]
    congr 1
    apply UInt64.toNat_inj.mp
    rw [toNat_bigEndianRead hl, hv]

theorem trimLeadingZeros_leftPad32 (h : NoLeadingZero b) : trimLeadingZeros (leftPad32 b) = b := by
  have hv : value (trim (leftPad32 b)) = value b := by
    rw [value_trim, leftPad32, value_replicate_append]
  exact eq_of_value_eq (noLeadingZero_trim _) h hv

theorem bytes_of_value (h : NoLeadingZero b) (hn : n = value b) : bytes n = b := by
  rw [hn, bytes_value, trim_of_noLeadingZero h]

theorem length_leftPad32 (h : b.length ≤ 32) : (leftPad32 b).length = 32 := by
  rw [leftPad32, List.length_append, List.length_replicate]
  omega

theorem fields_of_assemble (hl : CanonicalItems l) (h : assemble l = .ok d) :
    fields d.tx ++ signatureFields d.yParity d.r d.s = l ∧
      SignatureParts d.yParity d.r d.s := by
  unfold assemble at h
  split at h
  · rename_i chain k0 nonce k1 prio k2 fee k3 gas k4 toAddress k5 val k6 data k7 access k8 parity k9
      r k10 s k11
    obtain ⟨hk, hz⟩ := hl
    simp only [List.map_cons, List.map_nil, List.replicate_succ, List.replicate_zero,
      List.cons_append, List.nil_append, List.cons.injEq, and_true] at hk
    obtain ⟨rfl, rfl, rfl, rfl, rfl, rfl, rfl, rfl, rfl, rfl, rfl, rfl⟩ := hk
    simp only [List.forall_mem_cons, List.not_mem_nil, false_imp_iff, implies_true, and_true,
      List.getD_cons_zero, List.getD_cons_succ] at hz
    obtain ⟨z0, z1, z2, z3, z4, z6, z9, z10, z11⟩ := hz
    obtain ⟨chainID, hc, h⟩ := bind_eq_ok.mp h
    obtain ⟨non, hn, h⟩ := bind_eq_ok.mp h
    obtain ⟨gasLimit, hg, h⟩ := bind_eq_ok.mp h
    split at h
    · have ha : access = [] := by
        by_contra ha
        rw [if_neg (by simp), if_pos (by simpa using ha)] at h
        cases h
      subst ha
      obtain ⟨parityU, hp, h⟩ := bind_eq_ok.mp h
      split_ifs at h with hy hrs
      simp only [not_or, not_lt, List.length_eq_zero_iff] at hrs
      cases h
      have hc := (rlpItemUint_eq_ok_iff.mp (wrapErr_eq_ok_iff.mp hc)).2
      have hn := (rlpItemUint_eq_ok_iff.mp (wrapErr_eq_ok_iff.mp hn)).2
      have hg := (rlpItemUint_eq_ok_iff.mp (wrapErr_eq_ok_iff.mp hg)).2
      have hp := (rlpItemUint_eq_ok_iff.mp (wrapErr_eq_ok_iff.mp hp)).2
      have hy : parityU.toNat ≤ 1 := by
        have := UInt64.not_lt.mp hy
        rwa [UInt64.le_iff_toNat_le] at this
      have hy8 : parityU.toUInt8.toNat = parityU.toNat := by
        rw [UInt64.toNat_toUInt8]
        omega
      constructor
      · simp only [fields, signatureFields, setBytes, Option.getD_some, Int.natAbs_natCast,
          List.cons_append, List.nil_append, bytes_of_value z0 hc, bytes_of_value z1 hn,
          bytes_of_value z2 rfl, bytes_of_value z3 rfl, bytes_of_value z4 hg, bytes_of_value z6 rfl,
          bytes_of_value z9 (hy8.trans hp), trimLeadingZeros_leftPad32 z10,
          trimLeadingZeros_leftPad32 z11]
      · have hr := length_leftPad32 hrs.2.1
        have hs := length_leftPad32 hrs.2.2.2
        refine ⟨?_, ?_, hr.le, ?_, hs.le⟩
        · rw [UInt8.le_iff_toNat_le, hy8]
          exact hy
        · exact List.length_pos_iff.mp (by rw [hr]; decide)
        · exact List.length_pos_iff.mp (by rw [hs]; decide)
    · cases h
  · cases h

theorem items_unique {p' : Bytes} {l' : List (Bytes × Kind)} (h : SpellsList p e)
    (h' : SpellsList p' e) (he : e.length < 2 ^ 63) (hl : Seq Readable l p)
    (hl' : Seq Readable l' p') : l = l' := by
  have h1 : rlpDecodeListWithKinds e = .ok (l, (e.length : ℤ)) :=
    decodeList_ok_iff.mpr
      ⟨p, e, [], l, (List.append_nil e).symm, h, he, hl, (map_prodMk l).symm, rfl⟩
  have h2 : rlpDecodeListWithKinds e = .ok (l', (e.length : ℤ)) :=
    decodeList_ok_iff.mpr
      ⟨p', e, [], l', (List.append_nil e).symm, h', he, hl', (map_prodMk l').symm, rfl⟩
  have h12 := h1.symm.trans h2
  cases h12
  rfl

theorem signedRLP_of_canonical (hd : decodeSignedEIP1559 b = .ok d) (hv : Valid d.tx)
    (hc : Canonical b) : signedRLP d.tx d.yParity d.r d.s = .ok b := by
  obtain ⟨p, e, l, rfl, he, hl, hc⟩ := hc
  obtain ⟨p', e', l', heq, he', hlen, hl', ha⟩ := decodeSignedEIP1559_eq_ok_iff.mp hd
  cases heq
  have hp := he.spells.length_le
  have hr : Seq Readable l p := seq_readable (hl.mono fun _ _ _ h => h.spells) (by omega)
  rw [← items_unique he.spells he' hlen hr hl'] at ha
  obtain ⟨hf, hs⟩ := fields_of_assemble hc ha
  have hflat := flatten_of_seq hl (by omega)
  have hlist : rlpList (l.map encodeItem) = e := by
    have hm : MinimalList (l.map encodeItem).flatten (rlpList (l.map encodeItem)) :=
      minimalList_rlpList (by rw [hflat]; omega)
    rw [hflat] at hm
    exact hm.unique he
  refine signedRLP_eq_ok_iff.mpr ⟨hv, hs, ?_⟩
  rw [encodedFields_eq, encodedSignature_eq, ← List.map_append, hf, hlist]

/-- **An accepted envelope is written again as it was read exactly when it is canonical.** -/
theorem signedRLP_decoded_iff {b : Bytes} {d : Decoded} (hd : decodeSignedEIP1559 b = .ok d)
    (hv : validate d.tx = .ok ()) :
    (signedRLP d.tx d.yParity d.r d.s = .ok b ↔ Canonical b) ∧
      (Canonical b → ∀ b', decodeSignedEIP1559 b' = .ok d → Canonical b' → b' = b) := by
  have hv := (validate_eq_ok_iff _).mp hv
  refine ⟨⟨fun h => ?_, signedRLP_of_canonical hd hv⟩, fun hc b' hd' hc' => ?_⟩
  · obtain ⟨-, e, -, he, -, hlen, -⟩ := decodeSignedEIP1559_eq_ok_iff.mp hd
    obtain ⟨p, e', he', hl, hseq, -⟩ := signedRLP_minimal h (by rw [he]; simp; omega)
    exact ⟨p, e', _, he', hl, hseq, canonicalItems_fields _ _ _ _⟩
  · have h := (signedRLP_of_canonical hd hv hc).symm.trans (signedRLP_of_canonical hd' hv hc')
    cases h
    rfl

/-- An envelope with this text of its nonce. -/
def envelopeWithNonce (nonce : Bytes) : Bytes :=
  0x02 :: UInt8.ofNat (0xc0 + 35 + nonce.length) :: ([0x82, 0x21, 0x05] ++ nonce ++
    [0x01, 0x02, 0x82, 0x52, 0x08] ++ 0x94 :: List.replicate 20 0x11 ++
    [0x80, 0x80, 0xc0, 0x01, 0x01, 0x01])

/-- The nonce `5` in three spellings. -/
theorem decodeSignedEIP1559_not_injective :
    ∃ d, validate d.tx = .ok () ∧ decodeSignedEIP1559 (envelopeWithNonce [0x05]) = .ok d ∧
      decodeSignedEIP1559 (envelopeWithNonce [0x81, 0x05]) = .ok d ∧
      decodeSignedEIP1559 (envelopeWithNonce [0x82, 0x00, 0x05]) = .ok d ∧
      signedRLP d.tx d.yParity d.r d.s ≠ .ok (envelopeWithNonce [0x81, 0x05]) ∧
      signedRLP d.tx d.yParity d.r d.s ≠ .ok (envelopeWithNonce [0x82, 0x00, 0x05]) := by
  refine ⟨⟨⟨8453, 5, some 1, some 2, 0x5208, List.replicate 20 0x11, some 0, [], rfl⟩, 1,
    leftPad32 [1], leftPad32 [1]⟩, ?_, ?_, ?_, ?_, ?_, ?_⟩ <;> decide +kernel

theorem signedRLP_decoded_iff_envelope :
    ∃ d, (signedRLP d.tx d.yParity d.r d.s = .ok (envelopeWithNonce [0x05]) ↔
      Canonical (envelopeWithNonce [0x05])) ∧ (Canonical (envelopeWithNonce [0x05]) → ∀ b',
        decodeSignedEIP1559 b' = .ok d → Canonical b' → b' = envelopeWithNonce [0x05]) :=
  ⟨⟨⟨8453, 5, some 1, some 2, 0x5208, List.replicate 20 0x11, some 0, [], rfl⟩, 1,
    leftPad32 [1], leftPad32 [1]⟩, signedRLP_decoded_iff (by decide +kernel) (by decide +kernel)⟩

end MacProvider.Coordinator.Evm.Envelope
