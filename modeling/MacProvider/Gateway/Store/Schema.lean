import MacProvider.Gateway.Basic
import MacProvider.Gateway.Time
import MacProvider.Lib.Tables

/-! # The tables of the gateway store

Four tables, with primary keys and `CHECK`s. Sums that the code does not guard wrap (`wrap64`). A
timestamp is an instant, compared through `encodeTime` as SQLite compares texts. A `time.Time` that
may be zero is an `Option`. -/

namespace MacProvider.Gateway.Store.Schema

open Gateway.Time Lib.Tables

/-! ### Rows -/

/-- `(account_id, request_id)`. -/
structure Key where
  accountID : String
  requestID : String
deriving DecidableEq

/-- The states of a reservation. -/
inductive ReservationStatus
  | active | settled | refunded | expired | staleHeld
deriving DecidableEq

/-- A row of `quota_reservations`. -/
structure QuotaRow where
  key : Key
  windowDate : String
  reservedTokens : ℤ
  settledTokens : ℤ
  status : ReservationStatus
  settlementHold : Bool
  expiresAt : Instant
  createdAt : Instant
  settledAt : Option Instant
deriving DecidableEq

/-- A row of `usage_events`. -/
structure UsageRow where
  key : Key
  demoIdentity : String
  windowDate : String
  promptTokens : ℤ
  completionTokens : ℤ
  totalTokens : ℤ
  tokenSource : String
  outcome : String
  createdAt : Instant

/-- `(demo_token_hash, request_id)`. -/
structure DemoKey where
  demoTokenHash : String
  requestID : String
deriving DecidableEq

/-- A row of `demo_usage_events`. -/
structure DemoUsageRow where
  key : DemoKey
  clientIP : String
  windowDate : String
  totalTokens : ℤ
  createdAt : Instant

/-- The states of a lease. -/
inductive LeaseStatus
  | active | released | expired
deriving DecidableEq

/-- A row of `concurrency_reservations`. -/
structure LeaseRow where
  key : Key
  status : LeaseStatus
  expiresAt : Instant
  createdAt : Instant
  releasedAt : Option Instant
deriving DecidableEq

/-- The tables. -/
structure Db where
  quota : Table QuotaRow.key
  usage : Table UsageRow.key
  demo : Table DemoUsageRow.key
  leases : Table LeaseRow.key

/-- No rows. -/
def Db.empty : Db := ⟨Table.empty, Table.empty, Table.empty, Table.empty⟩

/-- What a statement returns instead. `sql.ErrNoRows` is `none`, or `StoreErr.noRows` where it is
returned. -/
inductive SqlErr
  | canceled
  | deadlineExceeded
  | unique
  | check
  | overflow
  | nestedTransaction
  | other (msg : String)
deriving DecidableEq

/-- The errors of the store's methods. -/
inductive StoreErr
  | quotaExceeded
  | reservationExists
  | reservationNotFound
  | reservationTerminal (requestID : String) (status : ReservationStatus)
  | usageEventConflict
  | noRows
  | invalid (msg : String)
  | sql (e : SqlErr)
deriving DecidableEq

/-- Not found, or terminal. -/
def StoreErr.isGone : StoreErr → Bool
  | reservationNotFound => true
  | reservationTerminal _ _ => true
  | _ => false

/-- Cancelled, or over the deadline. -/
def StoreErr.isContext : StoreErr → Bool
  | sql .canceled => true
  | sql .deadlineExceeded => true
  | _ => false

/-- Its two `CHECK`s. -/
def QuotaRow.check (r : QuotaRow) : Bool :=
  decide (0 ≤ r.reservedTokens) && decide (0 ≤ r.settledTokens)

/-- Where token counts come from. -/
def tokenSources : List String :=
  ["provider_reported", "gateway_estimated", "manual_fixture", "coordinator_observed"]

/-- The `CHECK` constraints of `usage_events`. -/
def UsageRow.check (u : UsageRow) : Bool :=
  decide (0 ≤ u.promptTokens) && decide (0 ≤ u.completionTokens) && decide (0 ≤ u.totalTokens) &&
    decide (u.tokenSource ∈ tokenSources)

/-- Its `CHECK` constraint. -/
def DemoUsageRow.check (d : DemoUsageRow) : Bool := decide (0 ≤ d.totalTokens)

end MacProvider.Gateway.Store.Schema
