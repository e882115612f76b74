import MacProvider.Gateway.Time
import MacProvider.Lib.Runs
import MacProvider.Lib.Transactions

/-! # Public issuance

`ReservePublicIssuance` counts the reservations of a surface and a client in a sliding window, by
printed times, and deletes what is printed before its start. -/

namespace MacProvider.Gateway.Store.Issuance

open Gateway.Time Lib.Runs Lib.Transactions

/-! ### The store -/

/-- A row of `public_issuance_events`. -/
structure IssuanceRow where
  surface : String
  clientIP : String
  createdAt : Instant

/-- Of `signup_events`, `demo_session_events`. -/
structure SessionRow where
  clientIP : String
  createdAt : Instant

/-- The three tables. -/
structure Tables where
  issuance : List IssuanceRow
  signups : List SessionRow
  demoSessions : List SessionRow

/-- The arguments of a call. -/
structure PublicIssuanceReservation where
  surface : String
  clientIP : String
  windowStart : Instant
  limit : ℤ
  createdAt : Instant

/-- The rows that the `DELETE` leaves. -/
def kept (r : PublicIssuanceReservation) (db : Tables) : List IssuanceRow :=
  db.issuance.filter fun e =>
    ¬ (e.surface = r.surface ∧ encodeTime e.createdAt < encodeTime r.windowStart)

/-- A reservation within the window. -/
def counted (r : PublicIssuanceReservation) (e : IssuanceRow) : Bool :=
  e.surface = r.surface ∧ e.clientIP = r.clientIP ∧
    encodeTime r.windowStart ≤ encodeTime e.createdAt

/-- Rows before the first reservation. -/
def legacyPublicIssuanceCount (r : PublicIssuanceReservation) (db : Tables) : ℕ :=
  let firstReservation := ((db.issuance.filter fun e =>
    e.surface = r.surface ∧ e.clientIP = r.clientIP).map fun e => encodeTime e.createdAt).min?
  let rows := if r.surface = "signup" then db.signups
    else if r.surface = "demo_session" then db.demoSessions else []
  rows.countP fun e => e.clientIP = r.clientIP ∧
    encodeTime r.windowStart ≤ encodeTime e.createdAt ∧
      ∀ t ∈ firstReservation, encodeTime e.createdAt < t

/-- **`ReservePublicIssuance`**; `none` is `ErrRateLimit`. -/
def reservePublicIssuance (r : PublicIssuanceReservation) (db : Tables) : Option Tables :=
  if r.limit ≤ 0 then none
  else
    let db := { db with issuance := kept r db }
    let count := db.issuance.countP (counted r) + legacyPublicIssuanceCount r db
    if r.limit ≤ count then none
    else some { db with issuance := db.issuance ++ [⟨r.surface, r.clientIP, r.createdAt⟩] }

/-! ### Runs -/

/-- What the callers ask for. -/
structure Policy where
  limit : String → String → ℤ
  window : String → ℕ

/-- The call of a caller. -/
def Policy.reservation (p : Policy) (surface clientIP : String) (now : Instant) :
    PublicIssuanceReservation :=
  ⟨surface, clientIP, now - p.window surface, p.limit surface clientIP, now⟩

/-- Tables, clock, and what succeeded. -/
structure World where
  db : Tables
  clock : Instant
  issued : List IssuanceRow

/-- What happens. -/
inductive Act
  | reserve (surface clientIP : String) (now : Instant) (m : Mishap)
  | recordSignupEvent (e : SessionRow)
  | recordDemoSessionEvent (e : SessionRow)

/-- One call. -/
def step (p : Policy) (w : World) : Act → World
  | .reserve surface clientIP now m =>
    match reservePublicIssuance (p.reservation surface clientIP now) w.db with
    | none => { w with clock := now }
    | some db =>
      let out := m.settle false (true, db) w.db
      ⟨out.2, now, if out.1 then w.issued ++ [⟨surface, clientIP, now⟩] else w.issued⟩
  | .recordSignupEvent e => { w with db := { w.db with signups := w.db.signups ++ [e] } }
  | .recordDemoSessionEvent e =>
    { w with db := { w.db with demoSessions := w.db.demoSessions ++ [e] } }

/-- The row is within the window at the time `t`. -/
def recent (p : Policy) (t : Instant) (e : IssuanceRow) : Bool :=
  t ≤ e.createdAt + p.window e.surface

/-- The clock goes on, and printed times keep the window. -/
def Permitted (p : Policy) (w : World) : Act → Prop
  | .reserve surface _ now _ => w.clock ≤ now ∧ ∀ e ∈ w.db.issuance, e.surface = surface →
    recent p now e = true → encodeTime (now - p.window surface) ≤ encodeTime e.createdAt
  | _ => True

instance (p : Policy) (w : World) (a : Act) : Decidable (Permitted p w a) := by
  unfold Permitted
  split <;> infer_instance

/-- Within the interval from `t` on. -/
def inInterval (p : Policy) (surface clientIP : String) (t : Instant) (e : IssuanceRow) : Bool :=
  e.surface = surface ∧ e.clientIP = clientIP ∧ t ≤ e.createdAt ∧
    e.createdAt ≤ t + p.window surface

/-- What is issued within the window is there. -/
structure Inv (p : Policy) (w : World) : Prop where
  stored : (w.issued.filter (recent p w.clock)).Sublist w.db.issuance
  bounded : ∀ surface clientIP t,
    (w.issued.countP (inInterval p surface clientIP t) : ℤ) ≤ p.limit surface clientIP

variable {p : Policy} {w : World} {surface clientIP : String} {now : Instant} {m : Mishap}
  {db : Tables}

theorem reservePublicIssuance_some {r : PublicIssuanceReservation} {db' : Tables}
    (h : reservePublicIssuance r db = some db') :
    db'.issuance = kept r db ++ [⟨r.surface, r.clientIP, r.createdAt⟩] ∧
      ((kept r db).countP (counted r) : ℤ) < r.limit := by
  unfold reservePublicIssuance at h
  dsimp only at h
  split_ifs at h with hlimit hcount
  refine ⟨by rw [← Option.some.inj h], ?_⟩
  omega

theorem recent_sublist (h : Inv p w) (hnow : w.clock ≤ now) :
    (w.issued.filter (recent p now)).Sublist w.db.issuance := by
  refine (List.monotone_filter_right w.issued fun e he => ?_).trans h.stored
  have hrecent : now ≤ e.createdAt + p.window e.surface := of_decide_eq_true he
  exact decide_eq_true (hnow.trans hrecent)

theorem recent_kept (h : Inv p w) (hok : Permitted p w (.reserve surface clientIP now m)) :
    (w.issued.filter (recent p now)).Sublist (kept (p.reservation surface clientIP now) w.db) := by
  have hsub := recent_sublist h hok.1
  have hfilter := hsub.filter fun e => decide (¬ (e.surface = surface ∧
    encodeTime e.createdAt < encodeTime (now - p.window surface)))
  rw [List.filter_eq_self.mpr fun e he => ?_] at hfilter
  · exact hfilter
  · have htext := hok.2 e (hsub.subset he)
    have hrecent := (List.mem_filter.mp he).2
    rw [decide_eq_true_eq, not_and, not_lt]
    exact fun hsurface => htext hsurface hrecent

theorem Inv.issue (h : Inv p w) (hok : Permitted p w (.reserve surface clientIP now m))
    (hres : reservePublicIssuance (p.reservation surface clientIP now) w.db = some db) :
    Inv p ⟨db, now, w.issued ++ [⟨surface, clientIP, now⟩]⟩ := by
  obtain ⟨hdb, hcount⟩ := reservePublicIssuance_some hres
  have hkept := recent_kept h hok
  have hnew : recent p now ⟨surface, clientIP, now⟩ = true := decide_eq_true (Nat.le_add_right _ _)
  refine ⟨?_, fun surface' clientIP' t => ?_⟩
  · rw [List.filter_append, List.filter_singleton, hnew, hdb]
    exact hkept.append (List.Sublist.refl _)
  rw [List.countP_append, List.countP_singleton]
  by_cases hin : inInterval p surface' clientIP' t ⟨surface, clientIP, now⟩ = true
  swap
  · rw [if_neg hin]
    exact h.bounded surface' clientIP' t
  simp only [inInterval, decide_eq_true_eq] at hin
  obtain ⟨rfl, rfl, hstart, hend⟩ := hin
  have hle : w.issued.countP (inInterval p surface clientIP t) ≤
      (w.issued.filter (recent p now)).countP (counted (p.reservation surface clientIP now)) := by
    rw [List.countP_filter]
    refine List.countP_mono_left fun e he hin => ?_
    simp only [inInterval, decide_eq_true_eq] at hin
    obtain ⟨hsurface, hclient, hfrom, -⟩ := hin
    have hrecent : recent p now e = true := by
      refine decide_eq_true ?_
      rw [hsurface]
      exact hend.trans (Nat.add_le_add_right hfrom _)
    have hmem := (recent_sublist h hok.1).subset (List.mem_filter.mpr ⟨he, hrecent⟩)
    have htext := hok.2 e hmem hsurface hrecent
    simp [counted, Policy.reservation, hsurface, hclient, hrecent, htext]
  have hstored := hle.trans hkept.countP_le
  have hlimit : (p.reservation surface clientIP now).limit = p.limit surface clientIP := rfl
  push_cast
  omega

theorem Inv.step (h : Inv p w) (a : Act) (hok : Permitted p w a) : Inv p (step p w a) := by
  cases a with
  | recordSignupEvent e => exact ⟨h.stored, h.bounded⟩
  | recordDemoSessionEvent e => exact ⟨h.stored, h.bounded⟩
  | reserve surface clientIP now m =>
    have hsub := recent_sublist h hok.1
    unfold Issuance.step
    dsimp only
    split
    · exact ⟨hsub, h.bounded⟩
    next db hres =>
    cases m with
    | none => exact h.issue hok hres
    | rolledBack => exact ⟨hsub, h.bounded⟩
    | unreported =>
      refine ⟨?_, h.bounded⟩
      rw [Mishap.settle, (reservePublicIssuance_some hres).1]
      exact (recent_kept h hok).trans (List.sublist_append_left _ _)

/-- **The ceiling of public issuance**, whatever the tables hold, over any calls, failures and other
rows. -/
theorem issuance_within_limit (p : Policy) (hp : ∀ surface clientIP, 0 < p.limit surface clientIP)
    (db : Tables) (w : World) (hw : Reaches (step p) (Permitted p) ⟨db, 0, []⟩ w)
    (surface clientIP : String) (t : Instant) :
    (w.issued.countP (inInterval p surface clientIP t) : ℤ) ≤ p.limit surface clientIP := by
  have hstart : Inv p ⟨db, 0, []⟩ := ⟨List.nil_sublist _, fun _ _ _ => (hp _ _).le⟩
  exact (reaches_induction hw hstart fun _ a h hok => h.step a hok).bounded surface clientIP t

/-- One demo session in an hour. -/
def demoPolicy : Policy := ⟨fun _ _ => 1, fun _ => hours 1⟩

/-- Half a second behind a full second, and an hour later. -/
def demoActs : List Act :=
  [.reserve "demo_session" "1.2.3.4" (seconds 1767225600 + 500000000) .none,
    .recordDemoSessionEvent ⟨"1.2.3.4", seconds 1767225600 + 500000000⟩,
    .reserve "demo_session" "1.2.3.4" (seconds 1767225600 + hours 1) .none]

theorem second_session_within_the_hour :
    (run (step demoPolicy) ⟨⟨[], [], []⟩, 0, []⟩ demoActs).issued.countP
      (inInterval demoPolicy "demo_session" "1.2.3.4" (seconds 1767225600 + 500000000)) = 2 := by
  decide +kernel

/-- One within the hour is refused, one behind it is issued. -/
def demoCareful : List Act :=
  demoActs.take 2 ++ [.reserve "demo_session" "1.2.3.4" (seconds 1767225602) .none,
    .reserve "demo_session" "5.6.7.8" (seconds 1767225603) .rolledBack,
    .reserve "demo_session" "1.2.3.4" (seconds 1767225601 + hours 1) .none]

theorem one_session_within_the_hour :
    (run (step demoPolicy) ⟨⟨[], [], []⟩, 0, []⟩ demoCareful).issued.length = 2 ∧
      ((run (step demoPolicy) ⟨⟨[], [], []⟩, 0, []⟩ demoCareful).issued.countP
        (inInterval demoPolicy "demo_session" "1.2.3.4" (seconds 1767225600)) : ℤ) ≤ 1 := by
  have hok : Allowed (step demoPolicy) (Permitted demoPolicy) ⟨⟨[], [], []⟩, 0, []⟩
      demoCareful := by
    decide +kernel
  exact ⟨by decide +kernel, issuance_within_limit demoPolicy (fun _ _ => one_pos) ⟨[], [], []⟩ _
    (reaches_of_allowed hok) _ _ _⟩

end MacProvider.Gateway.Store.Issuance
