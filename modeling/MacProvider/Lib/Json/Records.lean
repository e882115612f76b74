import MacProvider.Lib.Json.Decode

/-! # Records by key

A record as a function on a type of keys, listed in the order of their names (`Keys`), so an object
with exactly these members is read field by field (`Keys.decode_iff`). -/

namespace MacProvider.Lib.Json

/-- Keys with names, in canonical order. -/
structure Keys (κ : Type) where
  all : List κ
  name : κ → String
  mem_all : ∀ k, k ∈ all
  ordered : (all.map name).Pairwise fun a b => units a < units b

namespace Keys

variable {κ α ν : Type} (K : Keys κ)

/-- The names in order. -/
def names : List String := K.all.map K.name

/-- The members of a record. -/
def members (f : κ → α) : List (String × α) := K.all.map fun k => (K.name k, f k)

theorem keys_members (f : κ → α) : keys (K.members f) = K.names := by
  simp [keys, members, names]

theorem ordered_members (f : κ → α) : Ordered (K.members f) := by
  rw [Ordered, keys_members]
  exact K.ordered

theorem nodup_names : K.names.Nodup :=
  K.keys_members (fun _ => ()) ▸ (K.ordered_members _).nodup

theorem mem_members (f : κ → α) (k : κ) : (K.name k, f k) ∈ K.members f :=
  List.mem_map_of_mem (K.mem_all k)

theorem get?_members (w : κ → Value) (k : κ) : get? (K.members w) (K.name k) = some (w k) :=
  get?_of_mem (K.ordered_members w).nodup (K.mem_members w k)

theorem exists_members {ms : List (String × Value)} (h : keys ms = K.names) :
    ∃ w, ms = K.members w := by
  refine ⟨fun k => (get? ms (K.name k)).getD .null, ?_⟩
  have hnodup : (keys ms).Nodup := h ▸ K.nodup_names
  calc ms = ms.map fun m => (m.1, (get? ms m.1).getD .null) := by
        refine (List.map_id ms).symm.trans (List.map_congr_left fun m hm => ?_)
        rw [get?_of_mem hnodup (v := m.2) hm]
        rfl
    _ = (keys ms).map fun key => (key, (get? ms key).getD .null) := by rw [keys, List.map_map]; rfl
    _ = K.members fun k => (get? ms (K.name k)).getD .null := by
        rw [h, names, List.map_map]
        rfl

section Decode
variable [DecidableEq κ] {C : κ → Type} (decode : ∀ k, Value → C k → Option (C k))

/-- The fields of a record, each with its own type. -/
def slots : List (Slot (∀ k, C k)) :=
  K.all.map fun k => .of (K.name k) (decode k) (· k) fun a s => Function.update s k a

variable {decode}

theorem setMember_slots (strict : Bool) (s : ∀ k, C k) (k : κ) (v : Value) :
    setMember strict (K.slots decode) s (K.name k, v) =
      (decode k v (s k)).map fun a => Function.update s k a := by
  have hnames : Json.names (K.slots decode) = K.names := by
    rw [Json.names, slots, List.map_map]
    rfl
  have hfind : findField (K.slots decode) (K.name k) = some
      (.of (K.name k) (decode k) (· k) fun a s => Function.update s k a) :=
    findField_of_mem (hnames ▸ K.nodup_names) (List.mem_map.mpr ⟨k, K.mem_all k, rfl⟩)
  rw [setMember, hfind]
  rfl

/-- **A record is read field by field.** -/
theorem decode_iff {strict : Bool} {w : κ → Value} {s₀ s : ∀ k, C k} :
    decodeRecord strict (K.slots decode) (.object (K.members w)) s₀ = some s ↔
      ∀ k, decode k (w k) (s₀ k) = some (s k) := by
  -- the induction is on a part of the keys; the fields outside keep what they have
  have hpart : ∀ (part : List κ) (s₀ : ∀ k, C k), part.Nodup →
      ((part.map fun k => (K.name k, w k)).foldlM (setMember strict (K.slots decode)) s₀ = some s ↔
        ∀ k, if k ∈ part then decode k (w k) (s₀ k) = some (s k) else s₀ k = s k) := by
    intro part
    induction part with
    | nil =>
      intro s₀ _
      simp [funext_iff]
    | cons k part ih =>
      intro s₀ hnodup
      obtain ⟨hk, hnodup⟩ := List.nodup_cons.mp hnodup
      rw [List.map_cons, List.foldlM_cons, setMember_slots]
      cases ha : decode k (w k) (s₀ k) with
      | none =>
        refine ⟨nofun, fun h => ?_⟩
        have := h k
        simp [ha] at this
      | some a =>
        refine (ih (Function.update s₀ k a) hnodup).trans (forall_congr' fun j => ?_)
        by_cases hj : j = k
        · subst hj
          simp [hk, ha]
        · simp [hj]
  refine (hpart K.all s₀ ?_).trans (forall_congr' fun k => by simp [K.mem_all k])
  exact List.Nodup.of_map K.name K.nodup_names

end Decode

section Canonical
variable {K} {normal : String → String} {number : ν → Option Number}

theorem canonical_datum {d : κ → Datum ν} {w : κ → Value}
    (h : ∀ k, canonical number normal (d k) = some (w k)) :
    canonical number normal (.object (K.members d)) = some (.object (K.members w)) := by
  have hmembers : ∀ ks : List κ, canonicalMembers number normal
      (ks.map fun k => (K.name k, d k)) = some (ks.map fun k => (K.name k, w k)) := by
    intro ks
    induction ks with
    | nil => rfl
    | cons k ks ih => rw [List.map_cons, canonicalMembers, h k, ih]; rfl
  rw [canonical, members, hmembers, Option.map_some]
  exact congrArg (some ∘ Value.object) (sortMembers_of_ordered (K.ordered_members w))

variable {number : Number → Option Number}

theorem canonical_members {w : κ → Value}
    (h : ∀ k, canonical number normal (ofValue (w k)) = some (w k)) :
    canonical number normal (ofValue (.object (K.members w))) = some (.object (K.members w)) := by
  refine canonical_of_members (K.ordered_members w) fun key v hmem => ?_
  obtain ⟨k, -, heq⟩ := List.mem_map.mp hmem
  cases heq
  exact h k

/-- **A canonical object with these keys** is a record. -/
theorem exists_of_canonical {ms : List (String × Value)}
    (hself : canonical number normal (ofValue (.object ms)) = some (.object ms))
    (hkeys : (keys (lastMembers ms)).Perm K.names) :
    ∃ w, ms = K.members w ∧ ∀ k, canonical number normal (ofValue (w k)) = some (w k) := by
  obtain ⟨hordered, hmembers⟩ := canonical_self hself
  rw [lastMembers_of_nodup hordered.nodup] at hkeys
  obtain ⟨w, rfl⟩ := K.exists_members (hordered.keys_eq K.ordered hkeys)
  exact ⟨w, rfl, fun k => hmembers _ _ (K.mem_members w k)⟩

end Canonical

end Keys

end MacProvider.Lib.Json
