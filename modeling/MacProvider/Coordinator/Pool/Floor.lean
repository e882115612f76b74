import MacProvider.Coordinator.Pool.Registry
import Mathlib.Tactic.Common

/-! # The floor under the canaries

A canary that fails often takes its provider out of service, unless no other provider serves buyers
for its model (`RecordCanaryResult`), as the WebSocket server (`canaryBuyerServing`) or the registry
says. -/

namespace MacProvider.Coordinator.Pool.Floor

open Pool.Registry

/-- What the floor reads beside `Provider`. -/
structure Seat where
  modelID : String
  maxContextTokens : ℤ

/-- What the server knows of a session. -/
structure Gates where
  /-- There is an open stored session, or an endpoint to forward to. -/
  reachable : String → Bool
  tier2WarmupExcluded : String → Bool
  versionAllowed : String → Bool

/-- The keys in the order of a range, and their entries. -/
structure Registry where
  ids : List String
  sessions : Sessions
  seats : String → Seat
  buyerServing : Option Gates

namespace Registry

-- `strings.EqualFold` compares the folded forms
variable (fold : String → String) (r : Registry)

/-- A provider serves buyers. -/
def isBuyerServing (providerID : String) (p : Provider) : Bool :=
  match r.buyerServing with
  | some g =>
    p.routingEligible && g.reachable providerID && 0 < (r.seats providerID).maxContextTokens &&
      !g.tier2WarmupExcluded providerID && g.versionAllowed providerID
  | none => p.routingEligible && 0 < (r.seats providerID).maxContextTokens

/-- It has this model. -/
def providerServesActiveModel (modelID providerID : String) : Bool :=
  fold (r.seats providerID).modelID = fold modelID

/-- Both. -/
def serves (modelID providerID : String) : Bool :=
  (r.sessions providerID).provider.any fun p =>
    r.providerServesActiveModel fold modelID providerID && r.isBuyerServing providerID p

/-- Another provider serves the model. -/
def hasOtherBuyerServingForModel (excludeID modelID : String) : Bool :=
  r.ids.any fun providerID => providerID ≠ excludeID && r.serves fold modelID providerID

/-- The provider must not be taken out. -/
def floorHeld (providerID : String) (forceFloorHeld : Bool) : Bool :=
  forceFloorHeld ||
    ((r.sessions providerID).provider.any (r.isBuyerServing providerID) &&
      !r.hasOtherBuyerServingForModel fold providerID (r.seats providerID).modelID)

/-- **`recordCanaryResult`**, of both callers. -/
def recordCanaryResult (providerID assignedID : String) (passed : Bool) (time threshold : ℤ)
    (forceFloorHeld : Bool) : Registry × Entry.CanaryResult :=
  let result := (r.sessions providerID).recordCanaryResult assignedID passed time threshold
    (r.floorHeld fold providerID forceFloorHeld)
  ({ r with sessions := Function.update r.sessions providerID result.1 }, result.2)

/-- Some provider serves the model. -/
def Served (modelID : String) : Prop := ∃ providerID, r.serves fold modelID providerID = true

end Registry

/-! ### One result -/

variable {fold : String → String} {r : Registry} {pid aid providerID assignedID modelID : String}
  {passed force : Bool} {time threshold : ℤ}

theorem eligible_of_floorHeld {e : Entry} {p : Provider} (hp : e.provider = some p)
    (h : p.routingEligible = true) :
    ∃ p', (e.recordCanaryResult aid passed time threshold true).1.provider = some p' ∧
      p'.routingEligible = true := by
  have hsame : ∃ p', e.provider = some p' ∧ p'.routingEligible = true := ⟨p, hp, h⟩
  unfold Entry.recordCanaryResult
  generalize (if threshold ≤ 0 then 3 else threshold) = threshold
  split
  · exact hsame
  · rename_i p' hcurrent
    obtain rfl : p = p' := Option.some.inj (hp.symm.trans (Option.filter_eq_some_iff.mp hcurrent).1)
    -- eligibility reads the state and nothing else that the result writes
    split_ifs
    · exact hsame
    · unfold Entry.canaryPassed
      split_ifs
      · refine ⟨{ p with state := .ready, canaryFailCount := 0, canaryLastCheckedAt := some time },
          rfl, ?_⟩
        simp only [Provider.routingEligible] at h ⊢
        split_ifs at h ⊢
        simp_all
      · exact ⟨_, rfl, h⟩
    · simp only [Entry.canaryFailed, if_true]
      split_ifs <;> exact ⟨_, rfl, h⟩

theorem eligible_of_isBuyerServing {p : Provider} (h : r.isBuyerServing pid p = true) :
    p.routingEligible = true := by
  unfold Registry.isBuyerServing at h
  split at h <;> simp_all

theorem isBuyerServing_congr {p p' : Provider} (h : p'.routingEligible = p.routingEligible) :
    r.isBuyerServing pid p' = r.isBuyerServing pid p := by
  unfold Registry.isBuyerServing
  rw [h]

theorem serves_recordCanaryResult_ne {id : String} (h : id ≠ pid) :
    (r.recordCanaryResult fold pid aid passed time threshold force).1.serves fold
      modelID id = r.serves fold modelID id := by
  simp only [Registry.recordCanaryResult, Registry.serves, Function.update_of_ne h]
  rfl

/-- **The last server stays.** -/
theorem recordCanaryResult_served (h : r.Served fold modelID) :
    (r.recordCanaryResult fold providerID assignedID passed time threshold force).1.Served fold
      modelID := by
  obtain ⟨id, hid⟩ := h
  by_cases hne : id ≠ providerID
  · exact ⟨id, (serves_recordCanaryResult_ne hne).trans hid⟩
  obtain rfl := not_not.mp hne
  rcases hp : (r.sessions id).provider with _ | p
  · simp [Registry.serves, hp] at hid
  simp only [Registry.serves, hp, Option.any_some, Bool.and_eq_true] at hid
  obtain ⟨hmodel, hserving⟩ := hid
  by_cases hfloor : r.floorHeld fold id force = true
  · -- the provider is spared
    obtain ⟨p', hp', heligible⟩ := @eligible_of_floorHeld assignedID passed time threshold _ p hp
      (eligible_of_isBuyerServing hserving)
    refine ⟨id, ?_⟩
    simp only [Registry.recordCanaryResult, Registry.serves, Function.update_self, hfloor, hp',
      Option.any_some, Bool.and_eq_true]
    refine ⟨hmodel, ?_⟩
    exact (isBuyerServing_congr
      (heligible.trans (eligible_of_isBuyerServing hserving).symm)).trans hserving
  · -- another provider serves its model, which is this one
    have hother : r.hasOtherBuyerServingForModel fold id (r.seats id).modelID = true := by
      by_contra hno
      exact hfloor (by simp [Registry.floorHeld, hp, hserving, hno])
    obtain ⟨id', -, hid'⟩ := List.any_eq_true.mp hother
    obtain ⟨hne', hserves'⟩ := Bool.and_eq_true_iff.mp hid'
    refine ⟨id', (serves_recordCanaryResult_ne (of_decide_eq_true hne')).trans ?_⟩
    have hfold : fold (r.seats id).modelID = fold modelID := of_decide_eq_true hmodel
    simpa only [Registry.serves, Registry.providerServesActiveModel, hfold] using hserves'

def demoRegistry : Registry where
  ids := ["p1"]
  sessions := fun _ => ⟨some ⟨"s1", .ready, .pinned, .bearerValidated, .other, [], false, false,
    false, false, false, 1, 1, none, 2, none, none⟩, [], none, none, none⟩
  seats := fun _ => ⟨"m", 4096⟩
  buyerServing := none

/-- The third failure leaves it in service. -/
theorem sole_provider_stays :
    demoRegistry.Served id "m" ∧
      (demoRegistry.recordCanaryResult id "p1" "s1" false 7 0 false).2.tripped = .floorHeld ∧
        (demoRegistry.recordCanaryResult id "p1" "s1" false 7 0 false).1.Served id "m" := by
  have hserved : demoRegistry.Served id "m" := ⟨"p1", by decide⟩
  exact ⟨hserved, by decide, recordCanaryResult_served hserved⟩

end MacProvider.Coordinator.Pool.Floor
