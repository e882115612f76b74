import MacProvider.Gateway.Store.Cancel
import MacProvider.Gateway.Store.Expiry
import MacProvider.Gateway.Store.Quota
import MacProvider.Gateway.Router.Reconcile
import MacProvider.Gateway.Router.Dispatch
import MacProvider.Gateway.Settlement.Durability
import MacProvider.Gateway.Router.Redrive
import MacProvider.Coordinator.Payout.Nonce
import MacProvider.Coordinator.Payout.Voiding
import MacProvider.Coordinator.Payout.DailyCap
import MacProvider.Coordinator.Payout.Exclusive
import MacProvider.Coordinator.Payout.Owed
import MacProvider.Coordinator.Billing.Claimable
import MacProvider.Coordinator.Payout.Replay
import MacProvider.Coordinator.Billing.Replays
import MacProvider.Coordinator.Relay.Delivery
import MacProvider.Coordinator.Relay.Rekey
import MacProvider.Coordinator.Relay.ChannelSafety
import MacProvider.Coordinator.Buyer.DuplicateKeys
import MacProvider.Coordinator.Pool.Barred
import MacProvider.Coordinator.Billing.Resolutions
import MacProvider.Coordinator.Billing.Reconciliation
import MacProvider.Coordinator.Billing.Equivalence
import MacProvider.Coordinator.Billing.Stability
import MacProvider.Coordinator.Pool.ReceiptKeys
import MacProvider.Coordinator.Billing.ReceiptBinding
import MacProvider.Coordinator.Buyer.StreamUsage
import MacProvider.Coordinator.Billing.UnionFinality
import MacProvider.Coordinator.Pool.Floor
import MacProvider.Gateway.Router.ThinkBlocks
import MacProvider.Gateway.Store.Issuance
import MacProvider.Coordinator.Auth.Qualification
import MacProvider.Provider.JsonValidator
