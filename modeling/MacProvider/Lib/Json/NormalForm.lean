import MacProvider.Lib.Json.Canonical
import Mathlib.Data.List.Perm.Basic

/-! # The canonical form as a normal form

Two plain data are alike if they differ in the order of members and in what normalising a string
takes away. Those are the data with one canonical form (`canonical_iff_alike`). -/

namespace MacProvider.Lib.Json

section Lists
variable {α β γ : Type} {R : α → γ → Prop} {S : β → γ → Prop} {T : α → β → Prop}

theorem forall₂_iff_of_forall₂ {xs : List α} {ys : List β} {ws : List γ} (hR : List.Forall₂ R xs ws)
    (h : ∀ x ∈ xs, ∀ y ∈ ys, ∀ w, R x w → (S y w ↔ T x y)) :
    List.Forall₂ S ys ws ↔ List.Forall₂ T xs ys := by
  induction hR generalizing ys with
  | nil => simp
  | cons hxw _ ih =>
    cases ys with
    | nil => simp
    | cons y ys =>
      have htail := ih fun x hx y hy =>
        h x (List.mem_cons_of_mem _ hx) y (List.mem_cons_of_mem _ hy)
      rw [List.forall₂_cons, List.forall₂_cons, htail,
        h _ List.mem_cons_self y List.mem_cons_self _ hxw]

theorem exists_forall₂ {Q : γ → Prop} {xs : List α} (h : ∀ x ∈ xs, ∃ w, R x w ∧ Q w) :
    ∃ ws, List.Forall₂ R xs ws ∧ ∀ w ∈ ws, Q w := by
  induction xs with
  | nil => exact ⟨[], .nil, by simp⟩
  | cons x xs ih =>
    obtain ⟨w, hxw, hw⟩ := h x List.mem_cons_self
    obtain ⟨ws, hxs, hws⟩ := ih fun x hx => h x (List.mem_cons_of_mem _ hx)
    exact ⟨w :: ws, .cons hxw hxs, List.forall_mem_cons.mpr ⟨hw, hws⟩⟩

end Lists

section Forms
variable {ν : Type} {number : ν → Option Number} {normal : String → String}

theorem canonicalItems_iff {xs : List (Datum ν)} {ws : List Value} :
    canonicalItems number normal xs = some ws ↔
      List.Forall₂ (fun x w => canonical number normal x = some w) xs ws := by
  induction xs generalizing ws with
  | nil => simp [canonicalItems, eq_comm]
  | cons x xs ih =>
    simp only [canonicalItems, Option.bind_eq_some_iff, Option.map_eq_some_iff, ih,
      List.forall₂_cons_left_iff]
    exact ⟨fun ⟨w, hw, ws, hws, heq⟩ => ⟨w, ws, hw, hws, heq.symm⟩,
      fun ⟨w, ws, hw, hws, heq⟩ => ⟨w, hw, ws, hws, heq.symm⟩⟩

theorem canonicalMembers_iff {ms : List (String × Datum ν)} {ws : List (String × Value)} :
    canonicalMembers number normal ms = some ws ↔
      List.Forall₂ (fun m w => m.1 = w.1 ∧ canonical number normal m.2 = some w.2) ms ws := by
  induction ms generalizing ws with
  | nil => simp [canonicalMembers, eq_comm]
  | cons m ms ih =>
    obtain ⟨k, x⟩ := m
    simp only [canonicalMembers, Option.bind_eq_some_iff, Option.map_eq_some_iff, ih,
      List.forall₂_cons_left_iff]
    constructor
    · rintro ⟨w, hw, ws, hws, rfl⟩
      exact ⟨(k, w), ws, ⟨rfl, hw⟩, hws, rfl⟩
    · rintro ⟨⟨k', w⟩, ws, ⟨rfl, hw⟩, hws, rfl⟩
      exact ⟨w, hw, ws, hws, rfl⟩

theorem sortMembers_eq_iff {α : Type} {ms ns : List (String × α)} (h : (keys ms).Nodup) :
    sortMembers ms = sortMembers ns ↔ ms.Perm ns := by
  have hms := perm_sortMembers ms
  have hns := perm_sortMembers ns
  constructor
  · intro heq
    exact hms.symm.trans (heq ▸ hns)
  · intro hperm
    have hsorted := ordered_sortMembers h
    have hsorted' := ordered_sortMembers ((hperm.map Prod.fst).nodup_iff.mp h)
    have hsame : (sortMembers ms).Perm (sortMembers ns) := (hms.trans hperm).trans hns.symm
    exact eq_of_perm_of_keys hsame (hsorted.keys_eq hsorted' (hsame.map Prod.fst)) hsorted.nodup

theorem canonical_object_iff {ms : List (String × Datum ν)} {ws : List (String × Value)}
    (h : (keys ms).Nodup) :
    canonical number normal (.object ms) = some (.object (sortMembers ws)) ↔
      ∃ ns, ns.Perm ms ∧ canonicalMembers number normal ns = some ws := by
  -- members in another order have their canonical forms in that order
  have hswap := congrFun (congrFun (List.forall₂_comp_perm_eq_perm_comp_forall₂
    (r := fun (m : String × Datum ν) (w : String × Value) =>
      m.1 = w.1 ∧ canonical number normal m.2 = some w.2)) ms) ws
  simp only [canonical, Option.map_eq_some_iff, Value.object.injEq]
  constructor
  · rintro ⟨us, hus, heq⟩
    have hperm := (sortMembers_eq_iff (keys_canonicalMembers hus ▸ h)).mp heq
    obtain ⟨ns, hns, hcanonical⟩ := hswap.mp ⟨us, canonicalMembers_iff.mp hus, hperm⟩
    exact ⟨ns, hns.symm, canonicalMembers_iff.mpr hcanonical⟩
  · rintro ⟨ns, hns, hcanonical⟩
    obtain ⟨us, hus, hperm⟩ := hswap.mpr ⟨ns, hns.symm, canonicalMembers_iff.mp hcanonical⟩
    have hus := canonicalMembers_iff.mpr hus
    exact ⟨us, hus, (sortMembers_eq_iff (keys_canonicalMembers hus ▸ h)).mpr hperm⟩

/-- One kind of numbers, no raw strings, each key once. -/
inductive Plain (fine : ν → Prop) : Datum ν → Prop
  | null : Plain fine .null
  | bool (b : Bool) : Plain fine (.bool b)
  | number {n : ν} (hn : fine n) : Plain fine (.number n)
  | string (s : String) : Plain fine (.string s)
  | array {xs : List (Datum ν)} (hxs : ∀ x ∈ xs, Plain fine x) : Plain fine (.array xs)
  | object {ms : List (String × Datum ν)} (hkeys : (keys ms).Nodup)
      (hms : ∀ m ∈ ms, Plain fine m.2) : Plain fine (.object ms)

theorem forall₂_members {α β : Type} {T : α → β → Prop} {ms : List (String × α)}
    {ns : List (String × β)} :
    List.Forall₂ (fun m n => m.1 = n.1 ∧ T m.2 n.2) ms ns ↔
      keys ms = keys ns ∧ List.Forall₂ T (ms.map Prod.snd) (ns.map Prod.snd) := by
  induction ms generalizing ns with
  | nil => cases ns <;> simp [keys]
  | cons m ms ih =>
    cases ns with
    | nil => simp [keys]
    | cons n ns =>
      simp only [keys, List.map_cons] at ih ⊢
      rw [List.forall₂_cons, List.forall₂_cons, ih, List.cons.injEq]
      tauto

/-- **Equal up to order of members and form of strings.** -/
inductive Alike (same : ν → ν → Prop) (normal : String → String) : Datum ν → Datum ν → Prop
  | null : Alike same normal .null .null
  | bool (b : Bool) : Alike same normal (.bool b) (.bool b)
  | number {n n' : ν} (h : same n n') : Alike same normal (.number n) (.number n')
  | string {s s' : String} (h : normal s = normal s') :
      Alike same normal (.string s) (.string s')
  | array {xs ys : List (Datum ν)} (h : List.Forall₂ (Alike same normal) xs ys) :
      Alike same normal (.array xs) (.array ys)
  | object {ms ns ns' : List (String × Datum ν)} (hperm : ns'.Perm ns) (hkeys : keys ms = keys ns')
      (h : List.Forall₂ (Alike same normal) (ms.map Prod.snd) (ns'.map Prod.snd)) :
      Alike same normal (.object ms) (.object ns)

variable {fine : ν → Prop} {same : ν → ν → Prop}

/-- **One canonical form means alike.** -/
theorem canonical_iff_alike
    (hnumber : ∀ n n' k, fine n → fine n' → number n = some k → (number n' = some k ↔ same n n'))
    {v v' : Datum ν} {w : Value} (hv : Plain fine v) (hv' : Plain fine v')
    (hw : canonical number normal v = some w) :
    canonical number normal v' = some w ↔ Alike same normal v v' := by
  induction hv generalizing v' w with
  | null =>
    cases hw
    cases hv' <;> grind [canonical, Alike, Option.map_eq_some_iff]
  | bool b =>
    cases hw
    cases hv' <;> grind [canonical, Alike, Option.map_eq_some_iff]
  | string s =>
    cases hw
    cases hv' <;> grind [canonical, Alike, Option.map_eq_some_iff]
  | number hn =>
    obtain ⟨k, hk, rfl⟩ := Option.map_eq_some_iff.mp hw
    cases hv' <;> grind [canonical, Alike, Option.map_eq_some_iff]
  | array _ ih =>
    obtain ⟨ws, hws, rfl⟩ := Option.map_eq_some_iff.mp hw
    cases hv' with
    | array hys =>
      have hitems := canonicalItems_iff.trans (forall₂_iff_of_forall₂ (canonicalItems_iff.mp hws)
        fun x hx y hy w hxw => ih x hx (hys y hy) hxw)
      grind [canonical, Alike, Option.map_eq_some_iff]
    | _ => grind [canonical, Alike, Option.map_eq_some_iff]
  | @object ms _ _ ih =>
    obtain ⟨ws, hws, rfl⟩ := Option.map_eq_some_iff.mp hw
    cases hv' with
    | @object ns hkeys hns =>
      have hmembers : ∀ ns', ns'.Perm ns → (canonicalMembers number normal ns' = some ws ↔
          keys ms = keys ns' ∧
            List.Forall₂ (Alike same normal) (ms.map Prod.snd) (ns'.map Prod.snd)) := by
        intro ns' hperm
        rw [canonicalMembers_iff, ← forall₂_members]
        refine forall₂_iff_of_forall₂ (canonicalMembers_iff.mp hws) fun m hm n hn w hmw => ?_
        rw [ih m hm (hns n (hperm.mem_iff.mp hn)) hmw.2, hmw.1, eq_comm]
      rw [canonical_object_iff hkeys]
      constructor
      · rintro ⟨ns', hperm, hns'⟩
        obtain ⟨hkeys, halike⟩ := (hmembers ns' hperm).mp hns'
        exact .object hperm hkeys halike
      · rintro (_ | _ | _ | _ | _ | ⟨hperm, hkeys, halike⟩)
        exact ⟨_, hperm, (hmembers _ hperm).mpr ⟨hkeys, halike⟩⟩
    | _ => grind [canonical, Alike, Option.map_eq_some_iff]

/-- **A canonical form is its own.** -/
theorem Plain.canonical_self {reread : Number → Option Number} {v : Datum ν} (hv : Plain fine v)
    (hnormal : ∀ s, normal (normal s) = normal s)
    (hnumber : ∀ n, fine n → ∃ k, number n = some k ∧ reread k = some k) :
    ∃ w, canonical number normal v = some w ∧ canonical reread normal (ofValue w) = some w := by
  induction hv with
  | null => exact ⟨.null, rfl, rfl⟩
  | bool b => exact ⟨.bool b, rfl, rfl⟩
  | string s => exact ⟨.string (normal s), rfl, by rw [ofValue, canonical, hnormal]⟩
  | number hn =>
    obtain ⟨k, hk, hself⟩ := hnumber _ hn
    exact ⟨.number k, by rw [canonical, hk, Option.map_some],
      by rw [ofValue, canonical, hself, Option.map_some]⟩
  | array _ ih =>
    obtain ⟨ws, hxs, hws⟩ := exists_forall₂ ih
    have hself : canonicalItems reread normal (ofItems ws) = some ws := by
      clear hxs
      induction ws with
      | nil => rfl
      | cons w ws ihws =>
        obtain ⟨hw, hws⟩ := List.forall_mem_cons.mp hws
        rw [ofItems, canonicalItems, hw, ihws hws]
        rfl
    exact ⟨.array ws, by rw [canonical, canonicalItems_iff.mpr hxs, Option.map_some],
      by rw [ofValue, canonical, hself, Option.map_some]⟩
  | @object ms hkeys _ ih =>
    have hpartner : ∀ m ∈ ms, ∃ w : String × Value,
        (m.1 = w.1 ∧ canonical number normal m.2 = some w.2) ∧
          canonical reread normal (ofValue w.2) = some w.2 := by
      intro m hm
      obtain ⟨w, hw, hself⟩ := ih m hm
      exact ⟨(m.1, w), ⟨rfl, hw⟩, hself⟩
    obtain ⟨ws, hms, hws⟩ := exists_forall₂ hpartner
    have hmembers := canonicalMembers_iff.mpr hms
    have hordered := ordered_sortMembers (keys_canonicalMembers hmembers ▸ hkeys)
    refine ⟨.object (sortMembers ws), by rw [canonical, hmembers, Option.map_some],
      canonical_of_members hordered fun k w hmem => ?_⟩
    exact hws (k, w) ((perm_sortMembers ws).mem_iff.mp hmem)

end Forms

end MacProvider.Lib.Json
