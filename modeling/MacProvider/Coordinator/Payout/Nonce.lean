import MacProvider.Coordinator.Payout.Runner

/-! # The nonce cursor

The cursor is overwritten at start-up with what the RPCs report. They do not know of attempts that
were not broadcast, so a restart can put the cursor back, and every allocation fails. -/

namespace MacProvider.Coordinator.Payout.Nonce

open Gateway.Time Lib.Runs Lib.Calls Billing.Schema Evm.Codec Payout.Addresses Payout.Attempts
open Payout.Database Payout.System Payout.Runner

/-- Above the nonces of the live attempts. -/
def AboveLive (s : AttemptTable) (n : ℤ) : Prop := ∀ a ∈ s.rows, a.live = true → a.nonce < n

/-- The cursor is, and is not negative. -/
def CursorAhead (w : World) : Prop := ∀ n ∈ w.db.nextNonce, 0 ≤ n ∧ AboveLive w.db.attempts n

/-- A step, or a start-up that stores a count. -/
inductive Move
  | act (a : Runner.Action)
  | startUp (i : ℕ) (reads stores : Choice)

/-- One move. -/
def move (cfg : Config) (p : Payouts) : Move → Payouts
  | .act a => Runner.step cfg p a
  | .startUp i f g => Runner.step cfg (Runner.step cfg p (.call i f)) (.call i g)

/-- The action is not a program that stores a count. -/
def plain (p : Payouts) : Runner.Action → Bool
  | .call i _ =>
    match p.progs i with
    | .call (.upsertNonceCursor _) _ => false
    | _ => true
  | .env _ => true

/-- **Start-ups are told of the live attempts** by one of two counts, and only they store a
count. -/
def StartsAhead (cfg : Config) (p : Payouts) : Move → Prop
  | .act a => plain p a = true
  | .startUp i f _ => (∃ cycles, p.progs i = startRunner cfg cycles) ∧
      ∀ rpcA rpcB, f.counts = some (rpcA, rpcB) →
        ∀ a ∈ p.state.rows, a.live = true → a.nonce < toInt rpcA ∨ a.nonce < toInt rpcB

/-! ### Steps -/

section Steps
variable {cfg : Config} {w w' : World}

theorem AboveLive.note {s : AttemptTable} {n : ℤ} (h : AboveLive s n) (payoutID attemptSeq : ℕ)
    (x : AttemptTable.Note) : AboveLive (s.note payoutID attemptSeq x) n := by
  intro b hb hlive
  obtain ⟨a, ha, hsame, halive, -⟩ := AttemptTable.mem_note hb
  rw [hsame.nonce]
  exact h a ha (halive ▸ hlive)

theorem cursorAhead_allocates {i payoutID : ℕ} {address : String} {amount : ℤ} {t₁ : Instant}
    {r : Allocated} {db : Db} (hw : CursorAhead w)
    (h : Allocates cfg i payoutID address amount t₁ w.db r db) :
    ∀ n ∈ db.nextNonce, 0 ≤ n ∧ AboveLive db.attempts n := by
  intro n hn
  obtain ⟨hpos, hlive⟩ := hw r.nonce h.nonce
  have hnext : n = r.nonce + 1 := Option.some.inj (hn.symm.trans h.cursor)
  refine ⟨by omega, fun a ha halive => ?_⟩
  rcases h.mem_rows ha with ha | rfl
  · have := hlive a ha halive
    omega
  · show r.nonce < n
    omega

theorem cursorAhead_abandons {req : AbandonRequest} {now : Instant} {db : Db} (hw : CursorAhead w)
    (h : Abandons req now w.db db) : ∀ n ∈ db.nextNonce, 0 ≤ n ∧ AboveLive db.attempts n := by
  intro n hn
  rw [h.cursor] at hn
  obtain ⟨hpos, hlive⟩ := hw n hn
  refine ⟨hpos, fun x hx hxlive => ?_⟩
  obtain ⟨a, ha, hun, cs, hrows, hcs, -⟩ := h.row
  rcases mem_abandoned hrows hcs hx with ⟨b, hb, rfl⟩ | hc
  · have hsame := abandonRow_of_live hxlive
    rw [hsame] at hxlive ⊢
    exact hlive b hb hxlive
  · rw [hc.nonce]
    exact hlive a ha (AttemptTable.unsettled_iff.mp hun).2.2

theorem cursorAhead_exec {i : ℕ} {c : Call} {f : Choice} (hw : CursorAhead w)
    (hok : ∀ n, c = .upsertNonceCursor n → 0 ≤ toInt n → AboveLive w.db.attempts (toInt n)) :
    CursorAhead (exec cfg i c f w).2 := by
  have hchange := exec_change cfg i c f w
  generalize (exec cfg i c f w).2 = w' at hchange ⊢
  cases hchange with
  | same | lease | accepted | claimed => exact hw
  | cursor hm hpos =>
    intro n hn
    obtain rfl := Option.some.inj hn
    exact ⟨hpos, hok _ rfl hpos⟩
  | allocated hm h => exact cursorAhead_allocates hw h
  | stamped | confirmed => exact fun n hn => ⟨(hw n hn).1, (hw n hn).2.note _ _ _⟩
  | abandoned h => exact cursorAhead_abandons hw h

theorem cursorAhead_env {e : Event} (hw : CursorAhead w) : CursorAhead (env cfg e w) := by
  cases e with
  | handleCancelReorg | markStale => exact fun n hn => ⟨(hw n hn).1, (hw n hn).2.note _ _ _⟩
  | payoutAddress req =>
    unfold env
    dsimp only
    split
    · exact hw
    · exact hw
  | _ => exact hw

theorem cursorAhead_call {p : Payouts} {i : ℕ} {f : Choice} (hp : CursorAhead p.state)
    (hok : ∀ n k, p.progs i = .call (.upsertNonceCursor n) k → 0 ≤ toInt n →
      AboveLive p.state.db.attempts (toInt n)) :
    CursorAhead (Runner.step cfg p (.call i f)).state := by
  unfold Runner.step
  rcases hprog : p.progs i with a | ⟨c, k⟩
  · rw [step_ret hprog]
    exact hp
  · rw [step_call hprog]
    refine cursorAhead_exec hp fun n hc => ?_
    subst hc
    exact hok n k hprog

/-- The count that is chosen is the larger one. -/
theorem le_chosen {a b chosen : UInt64} (h : coldStartNonceSync a b = some chosen)
    (hpos : 0 ≤ toInt chosen) : toInt a ≤ toInt chosen ∧ toInt b ≤ toInt chosen := by
  have hle : a.toNat ≤ chosen.toNat ∧ b.toNat ≤ chosen.toNat := by
    unfold coldStartNonceSync at h
    dsimp only at h
    generalize (if _ < (0 : ℤ) then _ else _ : ℤ) = diff at h
    by_cases hlt : a < b <;> simp only [hlt, if_true, if_false] at h <;>
      rw [UInt64.lt_iff_toNat_lt] at hlt <;> split_ifs at h <;> cases h <;> omega
  have hlt := chosen.toNat_lt
  unfold toInt Gateway.wrap64 at *
  omega

theorem cursorAhead_startUp {p : Payouts} {i : ℕ} {f g : Choice} (hp : CursorAhead p.state)
    (hok : StartsAhead cfg p (.startUp i f g)) :
    CursorAhead (move cfg p (.startUp i f g)).state := by
  obtain ⟨⟨cycles, hprog⟩, hcounts⟩ := hok
  obtain ⟨sync, heq, hsync⟩ := startRunner_cases cfg cycles
  rw [heq] at hprog
  have hread : Runner.step cfg p (.call i f) = ⟨Function.update p.progs i
      (match f.counts with | none => pure () | some (rpcA, rpcB) => sync rpcA rpcB), p.state⟩ :=
    step_call hprog
  dsimp only [move]
  rw [hread]
  refine cursorAhead_call hp fun n k hk hpos => ?_
  dsimp only at hk
  rw [Function.update_self] at hk
  rcases hf : f.counts with _ | ⟨rpcA, rpcB⟩ <;> rw [hf] at hk <;> dsimp only at hk
  · cases hk
  rcases hsync rpcA rpcB with h | ⟨chosen, hchosen, h⟩ <;> rw [h] at hk <;> cases hk
  intro a ha hlive
  have hle := le_chosen hchosen hpos
  have := hcounts rpcA rpcB hf a ha hlive
  omega

theorem cursorAhead_move {p : Payouts} {m : Move} (hp : CursorAhead p.state)
    (hok : StartsAhead cfg p m) : CursorAhead (move cfg p m).state := by
  rcases m with (⟨i, f⟩ | e) | ⟨i, f, g⟩
  · refine cursorAhead_call hp fun n k hk => ?_
    have hplain : plain p (.call i f) = true := hok
    simp [plain, hk] at hplain
  · exact cursorAhead_env hp
  · exact cursorAhead_startUp hp hok

end Steps

/-! ### Runs -/

/-- **The cursor** is above every live nonce, and the next nonce is free, in every run whose
start-ups are told of the live attempts. -/
theorem nextNonce_above_live_nonces {cfg : Config} {scripts : ℕ → Script} {p : Payouts}
    (ledger : Ledger) (registry : Registry) (chain : Chain) (clock : Instant)
    (h : Reaches (move cfg) (StartsAhead cfg)
      (payoutSystem cfg scripts (World.initial ledger registry chain clock)) p) :
    ∀ n, p.state.db.nextNonce = some n →
      (∀ a ∈ p.state.rows, a.live = true → a.nonce < n) ∧
      ∀ payoutID address amount now, 0 < amount →
        (∀ a ∈ p.state.rows, a.payoutID = payoutID → a.liveTransfer = false) →
        (p.state.db.attempts.insert (AttemptTable.freshTransfer payoutID
          (p.state.db.attempts.nextAttemptSeq payoutID) address amount n now)).isSome = true := by
  have hahead : CursorAhead p.state :=
    reaches_induction (I := fun p => CursorAhead p.state) h nofun fun _ _ => cursorAhead_move
  intro n hn
  obtain ⟨hpos, hlive⟩ := hahead n hn
  refine ⟨hlive, fun payoutID address amount now hamount hnone => ?_⟩
  exact AttemptTable.isSome_insert_freshTransfer hamount hpos
    (fun a ha halive => (hlive a ha halive).ne) hnone

theorem reaches_of_plain {cfg : Config} {p q : Payouts}
    (h : Reaches (Runner.step cfg) (fun p a => plain p a = true) p q) :
    Reaches (move cfg) (StartsAhead cfg) p q := by
  induction h with
  | refl => exact .refl
  | step a _ hok ih => exact @Reaches.step _ _ (move cfg) _ _ _ (.act a) ih hok

/-- A process starts and allocates the nonce 5. -/
def demoStarted : Payouts :=
  move demoConfig (payoutSystem demoConfig (fun _ => .runner 1) demoWorld)
    (.startUp 0 (demoChoice 5) (demoChoice 5))

/-- It stops before the broadcast; five minutes pass. -/
def demoStopped : Payouts :=
  run (Runner.step demoConfig) demoStarted
    (calls 0 10 (demoChoice 5) ++ [.env (.tick (minutes 5))])

/-- Another one starts, with the count `n`. -/
def demoRestart (n : UInt64) : Payouts :=
  move demoConfig demoStopped (.startUp 1 (demoChoice n) (demoChoice n))

/-- The count is 5: no transfer can be allocated. -/
theorem restart_reuses_a_live_nonce :
    let w := (demoRestart 5).state
    w.db.nextNonce = some 5 ∧ (∃ a ∈ w.rows, a.live = true ∧ a.nonce = 5) ∧
      (w.db.attempts.insert
        (AttemptTable.freshTransfer 2 1 (demoAddress '2') 90 5 w.clock)).isNone = true := by
  decide +kernel

/-- The count is 6, as behind a broadcast. -/
theorem nextNonce_above_live_nonces_synced :
    (demoRestart 6).state.db.nextNonce = some 6 ∧
      (∀ a ∈ (demoRestart 6).state.rows, a.live = true → a.nonce < 6) ∧
      ((demoRestart 6).state.db.attempts.insert (AttemptTable.freshTransfer 2
        ((demoRestart 6).state.db.attempts.nextAttemptSeq 2) (demoAddress '2') 90 6
        newYear)).isSome = true := by
  have hstarted : Reaches (move demoConfig) (StartsAhead demoConfig)
      (payoutSystem demoConfig (fun _ => .runner 1) demoWorld) demoStarted :=
    .step _ .refl ⟨⟨1, rfl⟩, fun _ _ _ _ ha => absurd ha List.not_mem_nil⟩
  have hstopped : Reaches (move demoConfig) (StartsAhead demoConfig) demoStarted demoStopped :=
    reaches_of_plain (reaches_of_allowed (by decide +kernel))
  have hrun : Reaches (move demoConfig) (StartsAhead demoConfig) _ (demoRestart 6) :=
    .step _ (hstarted.trans hstopped) ⟨⟨1, rfl⟩, fun _ _ h => by cases h; decide +kernel⟩
  have hstate : (demoRestart 6).state.db.nextNonce = some 6 ∧
      ∀ a ∈ (demoRestart 6).state.rows, a.payoutID = 2 → a.liveTransfer = false := by
    decide +kernel
  obtain ⟨hlive, hinsert⟩ := nextNonce_above_live_nonces demoLedger demoRegistry .empty newYear hrun
    6 hstate.1
  exact ⟨hstate.1, hlive, hinsert 2 (demoAddress '2') 90 newYear (by decide) hstate.2⟩

end MacProvider.Coordinator.Payout.Nonce
