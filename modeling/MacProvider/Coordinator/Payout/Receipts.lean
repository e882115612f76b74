import MacProvider.Coordinator.Evm.Transfers

/-! # What the two RPCs answer

Receipts, transactions and the replies to a broadcast as the runner sees them, and its checks on
them. An error and `nil` are both `none`. -/

namespace MacProvider.Coordinator.Payout.Receipts

open MacProvider.Gateway MacProvider.Lib Lib.Rlp Evm.Codec Evm.Signing Evm.Transfers

/-- A log of a receipt. -/
structure ReceiptLog where
  address : String
  topics : List String
  data : Bytes

/-- A receipt. -/
structure Receipt where
  txHash : String
  blockHash : String
  blockNumber : UInt64
  status : UInt64
  toAddress : String
  gasUsed : UInt64
  logs : List ReceiptLog

/-- A transaction, as an RPC reports it. -/
structure Transaction where
  sender : String
  toAddress : String
  input : Bytes
  value : String

/-- Reported by the node, or another. -/
inductive SendError
  | rpc (message : String)
  | other (message : String)

/-- Ignoring case. -/
def containsLower (message pattern : String) : Bool :=
  (message.toList.map Char.toLower).tails.any fun t => pattern.toList.isPrefixOf t

/-- The node knows the nonce. -/
def isNonceTooLow : Option SendError → Bool
  | some (.rpc message) =>
    containsLower message "nonce too low" || containsLower message "already known" ||
      containsLower message "replacement transaction underpriced"
  | _ => false

/-- The errors of `BroadcastBoth`. -/
structure SendReply where
  primaryErr : Option SendError
  secondaryErr : Option SendError

/-- One of the RPCs has accepted. -/
def SendReply.acceptedAny (r : SendReply) : Bool := r.primaryErr.isNone || r.secondaryErr.isNone

/-- Receipts and heads of two RPCs. -/
structure ReceiptPoll where
  recPri : Option Receipt
  recSec : Option Receipt
  headPri : Option UInt64
  headSec : Option UInt64

/-- `int64(head) - int64(block)`. -/
def depth (head block : UInt64) : ℤ := wrap64 (toInt head - toInt block)

/-- Both, of the depth `conf`. -/
def ReceiptPoll.deep (conf : ℤ) (a : ReceiptPoll) : Option (Receipt × Receipt) :=
  match a.recPri, a.recSec, a.headPri, a.headSec with
  | some recPri, some recSec, some headPri, some headSec =>
    if conf ≤ depth headPri recPri.blockNumber ∧ conf ≤ depth headSec recSec.blockNumber then
      some (recPri, recSec)
    else none
  | _, _, _, _ => none

/-- Two receipts of one transaction. -/
def receiptsAgree (a b : Receipt) : Bool :=
  a.txHash == b.txHash && a.blockHash == b.blockHash && a.blockNumber == b.blockNumber &&
    a.status == b.status && a.toAddress == b.toAddress

/-- keccak256("Transfer(address,address,uint256)"). -/
def transferEventTopic : String :=
  "0xddf252ad1be2c89b69c2b068fc378daa952ba7f163c4a11628f55a4df523b3ef"

/-- The token, as logs name it. -/
def usdcAddrLower : String := usdcContractAddressBase.toLower

/-- An address in a word of 32 bytes. -/
def padAddressTopic (crypto : Crypto) (addr : String) : Go Bytes := do
  let b ← addressBytes crypto addr
  return List.replicate 12 0 ++ b

/-- The logs of this transfer. -/
def countMatchingTransferLog (receipt : Receipt) (hotTopic toTopic : String) (amount : ℤ) : ℕ :=
  (receipt.logs.filter fun log =>
    log.address == usdcAddrLower && decide (3 ≤ log.topics.length) &&
      log.topics.take 3 == [transferEventTopic, hotTopic, toTopic] &&
      decide ((BigEndian.value log.data : ℤ) = amount)).length

/-- Steps (a), (b), (c) on both answers. -/
def verifyChainSideTransfer (crypto : Crypto) (hotWallet toAddress : String) (amount : ℤ)
    (recA recB : Receipt) (txA txB : Option Transaction) : Go Unit :=
  if recA.toAddress ≠ usdcAddrLower then
    fail ("primary receipt.to " ++ recA.toAddress ++ " != USDC " ++ usdcAddrLower)
  else if recB.toAddress ≠ usdcAddrLower then
    fail ("secondary receipt.to " ++ recB.toAddress ++ " != USDC " ++ usdcAddrLower)
  else match txA, txB with
  | none, _ => fail "eth_getTransactionByHash primary"
  | _, none => fail "eth_getTransactionByHash secondary"
  | some txA, some txB => do
    let want ← wrapErr "rebuild calldata" (usdcTransferCalldata crypto toAddress amount)
    if txA.input ≠ want then fail "primary tx.input byte-mismatch"
    else if txB.input ≠ want then fail "secondary tx.input byte-mismatch"
    else if !addressEqualFold crypto txA.sender hotWallet then
      fail ("primary tx.from " ++ txA.sender ++ " != hot_wallet")
    else if !addressEqualFold crypto txB.sender hotWallet then
      fail ("secondary tx.from " ++ txB.sender ++ " != hot_wallet")
    else if !addressEqualFold crypto txA.sender txB.sender then
      fail ("tx.from disagreement: primary=" ++ txA.sender ++ " secondary=" ++ txB.sender)
    else do
      let hot ← padAddressTopic crypto hotWallet
      let toTopic ← padAddressTopic crypto toAddress
      let cntA := countMatchingTransferLog recA (hexText hot) (hexText toTopic) amount
      let cntB := countMatchingTransferLog recB (hexText hot) (hexText toTopic) amount
      if cntA ≠ 1 then
        fail ("primary matching Transfer log count = " ++ toString cntA ++ ", want 1")
      else if cntB ≠ 1 then
        fail ("secondary matching Transfer log count = " ++ toString cntB ++ ", want 1")
      else return ()

/-- The token has logged something. -/
def hasUSDCTransferLog (receipt : Receipt) : Bool :=
  receipt.logs.any fun log => log.address == usdcAddrLower

/-- The digits behind `0x` and leading zeros. -/
def trimHex (s : String) : List Char :=
  let lower := s.toList.map Char.toLower
  let digits :=
    match lower with
    | '0' :: 'x' :: l => l
    | l => l
  digits.dropWhile (· == '0')

/-- It is a cancel of the wallet. -/
def verifyCancelTxView (crypto : Crypto) (hotWallet : String) (tx : Transaction) : Bool :=
  addressEqualFold crypto tx.toAddress hotWallet && addressEqualFold crypto tx.sender hotWallet &&
    tx.input.isEmpty && trimHex tx.value == ['1']

/-- The checks of `pollCancelOnce`. -/
def verifyCancelReceipts (crypto : Crypto) (hotWallet : String) (recA recB : Receipt)
    (txA txB : Option Transaction) : Bool :=
  receiptsAgree recA recB && recA.status == 1 &&
    addressEqualFold crypto recA.toAddress hotWallet &&
    addressEqualFold crypto recB.toAddress hotWallet &&
    !hasUSDCTransferLog recA && !hasUSDCTransferLog recB &&
    txA.any (verifyCancelTxView crypto hotWallet) && txB.any (verifyCancelTxView crypto hotWallet)

end MacProvider.Coordinator.Payout.Receipts
