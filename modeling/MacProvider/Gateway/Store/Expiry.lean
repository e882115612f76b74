import MacProvider.Gateway.Store.Effects

/-! # Expiry in the store

Reservations and leases expire by comparing texts in SQL. On `Confusable` pairs the reaper expires a
reservation, and `AcquireConcurrency` a lease, that has still time left. -/

namespace MacProvider.Gateway.Store.Expiry

open Gateway.Time Store.Schema Store.Ops Store.Effects Lib.Tables

/-- The comparisons of expiry `u` with `t`. -/
structure ExpiryRespected (t u : Instant) : Prop where
  order : OrderAgrees t u
  /-- A reservation that `reapExpiredReservationsTx` expires has no time left. -/
  reap : ∀ {clock : Instant} {db db' : Db} {n : ℕ} {k : Key} {r r' : QuotaRow},
    reapExpiredReservationsTx clock (some t) db = .ok (db', n) →
    db.quota.find? k = some r → r.expiresAt = u → r.status ≠ .expired →
    db'.quota.find? k = some r' → r'.status = .expired → u ≤ t
  /-- A lease that `AcquireConcurrency` expires has no time left. -/
  expire : ∀ {clock : Instant} {req : ConcurrencyRequest} {fl} {db : Db} {k : Key}
    {r r' : LeaseRow},
    req.createdAt.getD clock = t →
    db.leases.find? k = some r → r.expiresAt = u → r.status ≠ .expired →
    ((acquireConcurrency clock req).run fl db).2.leases.find? k = some r' →
    r'.status = .expired → u ≤ t
  /-- An active lease that it does not count has no time left. -/
  ignore : ∀ {r : LeaseRow}, r.expiresAt = u → r.status = .active →
    leaseCounted r.key.accountID t r = false → u ≤ t

theorem le_of_text_le {t u : Instant} (h : OrderAgrees t u) (hle : encodeTime u ≤ encodeTime t) :
    u ≤ t := by
  by_contra hn
  exact absurd (h.1.mpr (not_le.mp hn)) (not_lt.mpr hle)

theorem reapable_of_expired {now : Instant} {db : Db} {k : Key} {r r' : QuotaRow}
    (h : db.quota.find? k = some r) (hs : r.status ≠ .expired)
    (h' : (reaped now db).quota.find? k = some r') (hs' : r'.status = .expired) :
    reapable now r = true := by
  unfold reaped at h'
  rw [find?_withUpdate, h, Option.map_some, Option.some.injEq] at h'
  by_contra hn
  rw [if_neg hn] at h'
  exact hs (h' ▸ hs')

theorem leaseExpired_of_expired {clock : Instant} {req : ConcurrencyRequest} {fl} {db : Db}
    {k : Key} {r r' : LeaseRow} (h : db.leases.find? k = some r) (hs : r.status ≠ .expired)
    (h' : ((acquireConcurrency clock req).run fl db).2.leases.find? k = some r')
    (hs' : r'.status = .expired) :
    leaseExpired req.key.accountID (req.createdAt.getD clock) r = true := by
  -- in the table behind the expiries
  have key : (leasesExpired req.key.accountID (req.createdAt.getD clock) db).leases.find? k =
      some r' → leaseExpired req.key.accountID (req.createdAt.getD clock) r = true := by
    intro hf
    unfold leasesExpired at hf
    rw [Table.find?_update, h, Option.map_some, Option.some.injEq] at hf
    by_contra hn
    rw [if_neg hn] at hf
    exact hs (hf ▸ hs')
  rcases acquireConcurrency_cases clock req fl db with
    ⟨_, hrun, -⟩ | ⟨_, w, hrun, ⟨-, rfl⟩ | ⟨d, e, t, -, rfl, -, -, ht⟩⟩ <;> rw [hrun] at h'
  · rw [h] at h'
    cases h'
    exact absurd hs' hs
  · exact key h'
  · rw [Table.find?_insert ht] at h'
    split_ifs at h' with hk
    · cases h'
      cases hs'
    · exact key h'

theorem expiryRespected_of_orderAgrees {t u : Instant} (h : OrderAgrees t u) :
    ExpiryRespected t u where
  order := h
  reap := by
    intro clock db db' n k r r' hreap hr hu hs hr' hs'
    cases hreap
    have hreap : reapable t r = true := reapable_of_expired hr hs hr' hs'
    simp only [reapable, Bool.and_eq_true, decide_eq_true_eq] at hreap
    exact le_of_text_le h (hu ▸ hreap.2)
  expire := by
    intro clock req fl db k r r' ht hr hu hs hr' hs'
    have hexp := leaseExpired_of_expired hr hs hr' hs'
    simp only [leaseExpired, Bool.and_eq_true, decide_eq_true_eq] at hexp
    exact le_of_text_le h (hu ▸ ht ▸ hexp.2)
  ignore := by
    intro r hu hs hc
    simp only [leaseCounted, hs, decide_true, Bool.true_and, decide_eq_false_iff_not, not_lt] at hc
    exact le_of_text_le h (hu ▸ hc)

/-- **Expiry**: in the years 1970 to 9999, the store compares as time does exactly when the two are
not confusable. -/
theorem expiryRespected_iff {t u : Instant} (ht : InRange t) (hu : InRange u) :
    ExpiryRespected t u ↔ ¬ Confusable t u := by
  rw [← orderAgrees_iff ht hu]
  exact ⟨fun h => h.order, expiryRespected_of_orderAgrees⟩

/-- One millisecond apart. -/
theorem expiryRespected_tenths :
    ExpiryRespected (seconds 1767225600 + 199000000) (seconds 1767225600 + 200000000) :=
  (expiryRespected_iff (by decide +kernel) (by decide +kernel)).mpr (by decide +kernel)

/-- Half a second is left. -/
theorem not_expiryRespected_half_second :
    ¬ ExpiryRespected (seconds 1767225600) (seconds 1767225600 + 500000000) := by
  intro h
  have hlt : ¬ encodeTime (seconds 1767225600) < encodeTime (seconds 1767225600 + 500000000) := by
    decide +kernel
  exact hlt (h.order.1.mpr (by decide))

end MacProvider.Gateway.Store.Expiry
