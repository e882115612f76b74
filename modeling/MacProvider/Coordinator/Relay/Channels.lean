import MacProvider.Coordinator.Relay.Frames
import MacProvider.Lib.Calls

/-! # Active requests and their channels

The requests of a provider session. Goroutines look them up and remove them under `activeMu`, and
work on their channels without a lock. A lock region or a channel operation is one call (`Call`). No
operation reads `terminals`, `closes` and `remover`. What touches no channel is left out. -/

namespace MacProvider.Coordinator.Relay.Channels

open Lib.Calls Relay.Frames
open Prog (perform)

/-- A part of a response. -/
structure InferenceResponseChunk where
  requestID : Bytes
  data : Bytes

/-- The end of a response. -/
structure InferenceResponseEnd where
  requestID : Bytes
  finishReason : Bytes

/-- What a request ends with. -/
inductive RelayError
  | nakFallback
  | closed
  | aeadFailed
  | timeout
  | bufferExceeded
  | chunkBufferFull
  | duplicateRequestID
  | backpressure

/-- How a request ended. -/
inductive Terminal
  | ended (e : InferenceResponseEnd)
  | failed (err : RelayError)

/-! ### The session -/

/-- A request under way, and its history. -/
structure RelayActive where
  requestID : Bytes
  stream : Bool
  bufferedBytes : ℤ
  chunks : List InferenceResponseChunk
  chunksClosed : Bool
  done : List InferenceResponseEnd
  errs : List RelayError
  terminals : List Terminal
  closes : ℕ

/-- A request with empty channels. -/
def newActive (requestID : Bytes) (stream : Bool) : RelayActive :=
  ⟨requestID, stream, 0, [], false, [], [], [], 0⟩

/-- Capacity of `chunks`; others hold one. -/
def chunkBuffer : ℕ := 256

/-- Requests are in `heap`; the map has addresses. -/
structure World (ι : Type) where
  active : List (Bytes × ℕ)
  heap : ℕ → RelayActive
  size : ℕ
  httpOnly : Bool
  closed : Bool
  panicked : Bool
  blocked : Bool
  remover : ℕ → Option ι

/-- A session without requests. -/
def World.init (ι : Type) : World ι :=
  ⟨[], fun _ => newActive [] false, 0, false, false, false, false, fun _ => none⟩

variable {ι : Type}

/-- A change of the request at the address `o`. -/
def World.modify (w : World ι) (o : ℕ) (g : RelayActive → RelayActive) : World ι :=
  { w with heap := Function.update w.heap o (g (w.heap o)) }

/-! ### Lock regions and channel operations -/

/-- The lock regions and the channel operations. -/
inductive Call
  | addActive (requestID : Bytes) (maxConcurrency : ℤ) (stream : Bool)
  | activeFor (requestID : Bytes)
  | removeActive (requestID : Bytes)
  | takeAll
  | recentlyRetired (requestID : Bytes)
  | setHTTPOnly
  | closeOnce
  | reserveBufferedBytes (o : ℕ) (limit n : ℤ)
  | trySendChunk (o : ℕ) (chunk : InferenceResponseChunk)
  | trySendErr (o : ℕ) (err : RelayError)
  | sendErr (o : ℕ) (err : RelayError)
  | sendDone (o : ℕ) (e : InferenceResponseEnd)
  | closeChunks (o : ℕ)

/-- What a call returns. -/
abbrev Answer : Call → Type
  | .addActive .. => Except RelayError ℕ
  | .activeFor _ | .removeActive _ => Option ℕ
  | .takeAll => List ℕ
  | .recentlyRetired _ | .closeOnce | .reserveBufferedBytes .. | .trySendChunk .. => Bool
  | .setHTTPOnly | .trySendErr .. | .sendErr .. | .sendDone .. | .closeChunks _ => Unit

/-- What clock and runtime decide: recently retired, and the order of `range`. -/
structure Choice where
  retired : Bool
  order : List ℕ

/-- Its order, if it is one of them. -/
def Choice.arrange (f : Choice) (os : List ℕ) : List ℕ := if f.order.isPerm os then f.order else os

/-- A send on `errs`. -/
def pushErr (err : RelayError) (a : RelayActive) : RelayActive :=
  { a with errs := a.errs ++ [err], terminals := a.terminals ++ [.failed err] }

/-- A send on `done`. -/
def pushDone (e : InferenceResponseEnd) (a : RelayActive) : RelayActive :=
  { a with done := a.done ++ [e], terminals := a.terminals ++ [.ended e] }

/-- A send on `chunks`. -/
def pushChunk (chunk : InferenceResponseChunk) (a : RelayActive) : RelayActive :=
  { a with chunks := a.chunks ++ [chunk] }

/-- `close(chunks)`. -/
def shut (a : RelayActive) : RelayActive := { a with chunksClosed := true, closes := a.closes + 1 }

/-- Bytes that the buyer has not taken yet. -/
def reserve (n : ℤ) (a : RelayActive) : RelayActive :=
  { a with bufferedBytes := a.bufferedBytes + n }

/-- A call of goroutine `i`. -/
def exec (i : ι) : (c : Call) → Choice → World ι → Answer c × World ι
  | .addActive requestID maxConcurrency stream, _, w =>
    if w.httpOnly then (.error .nakFallback, w)
    else if (w.active.lookup requestID).isSome then (.error .duplicateRequestID, w)
    else if 0 < maxConcurrency ∧ maxConcurrency ≤ w.active.length then (.error .backpressure, w)
    else (.ok w.size, { w with
      active := (requestID, w.size) :: w.active
      heap := Function.update w.heap w.size (newActive requestID stream)
      size := w.size + 1 })
  | .activeFor requestID, _, w => (w.active.lookup requestID, w)
  | .removeActive requestID, _, w =>
    match w.active.lookup requestID with
    | none => (none, w)
    | some o => (some o, { w with
        active := w.active.filter fun e => e.1 ≠ requestID
        remover := Function.update w.remover o (some i) })
  | .takeAll, f, w =>
    (f.arrange (w.active.map Prod.snd), { w with
      active := []
      remover := fun o => if o ∈ w.active.map Prod.snd then some i else w.remover o })
  | .recentlyRetired _, f, w => (f.retired, w)
  | .setHTTPOnly, _, w => ((), { w with httpOnly := true })
  | .closeOnce, _, w => (!w.closed, { w with closed := true })
  | .reserveBufferedBytes o limit n, _, w =>
    if n ≤ 0 ∨ limit ≤ 0 then (true, w)
    else if limit < (w.heap o).bufferedBytes + n then (false, w)
    else (true, w.modify o (reserve n))
  | .trySendChunk o chunk, _, w =>
    -- a send on a closed channel is ready, and panics
    if (w.heap o).chunksClosed then (true, { w with panicked := true })
    else if (w.heap o).chunks.length < chunkBuffer then (true, w.modify o (pushChunk chunk))
    else (false, w)
  | .trySendErr o err, _, w => ((), if (w.heap o).errs = [] then w.modify o (pushErr err) else w)
  | .sendErr o err, _, w =>
    ((), if (w.heap o).errs = [] then w.modify o (pushErr err) else { w with blocked := true })
  | .sendDone o e, _, w =>
    ((), if (w.heap o).done = [] then w.modify o (pushDone e) else { w with blocked := true })
  | .closeChunks o, _, w =>
    ((), if (w.heap o).chunksClosed then { w with panicked := true } else w.modify o shut)

/-- The buyer takes elements out. -/
inductive Event
  | receiveChunk (o : ℕ)
  | releaseBufferedBytes (o : ℕ) (n : ℤ)
  | receiveDone (o : ℕ)
  | receiveErr (o : ℕ)

/-- What the buyer's side does to the request. -/
def Event.apply : Event → RelayActive → RelayActive
  | .receiveChunk _, a => { a with chunks := a.chunks.tail }
  | .releaseBufferedBytes _ n, a =>
    if n ≤ 0 then a else { a with bufferedBytes := max 0 (a.bufferedBytes - n) }
  | .receiveDone _, a => { a with done := a.done.tail }
  | .receiveErr _, a => { a with errs := a.errs.tail }

/-- The request it is about. -/
def Event.address : Event → ℕ
  | .receiveChunk o | .releaseBufferedBytes o _ | .receiveDone o | .receiveErr o => o

/-- A step of the buyer's side. -/
def env (e : Event) (w : World ι) : World ι := w.modify e.address e.apply

/-! ### Handlers -/

/-- A program without a result. -/
abbrev Run := Prog Answer Unit

/-- Configuration and library of the handlers. -/
structure Config where
  relayMaxRequestBufferBytes : ℤ
  containsControlChar : Bytes → Bool
  /-- `strings.TrimSpace` leaves nothing. -/
  isBlank : Bytes → Bool

/-- The request under the id. -/
def activeFor (requestID : Bytes) : Prog Answer (Option ℕ) := perform (Call.activeFor requestID)

/-- Take the request out of the map. -/
def removeActive (requestID : Bytes) : Prog Answer (Option ℕ) :=
  perform (Call.removeActive requestID)

/-- Whether the id was retired a short while ago. -/
def recentlyRetired (requestID : Bytes) : Prog Answer Bool :=
  perform (Call.recentlyRetired requestID)

/-- Whether the bytes fit. -/
def reserveBufferedBytes (o : ℕ) (limit n : ℤ) : Prog Answer Bool :=
  perform (Call.reserveBufferedBytes o limit n)

/-- `select` of a send and `default`. -/
def trySendChunk (o : ℕ) (chunk : InferenceResponseChunk) : Prog Answer Bool :=
  perform (Call.trySendChunk o chunk)

/-- `close(active.chunks)`. -/
def closeChunks (o : ℕ) : Run := perform (Call.closeChunks o)

/-- An error if there is room, and the end. -/
def finish (o : ℕ) (err : RelayError) : Run := do
  perform (Call.trySendErr o err)
  closeChunks o

/-- End the request with the error. -/
def failActive (requestID : Bytes) (err : RelayError) : Run := do
  match ← removeActive requestID with
  | none => pure ()
  | some o => finish o err

/-- End each of these requests. -/
def finishAll (err : RelayError) : List ℕ → Run
  | [] => pure ()
  | o :: os => do
    finish o err
    finishAll err os

/-- End all requests. -/
def failAll (err : RelayError) : Run := do
  let active ← perform Call.takeAll
  finishAll err active

/-- End the request, or all if none has the id. -/
def failActiveOrAll (cfg : Config) (requestID : Bytes) (err : RelayError) : Run := do
  if cfg.isBlank requestID then failAll err
  else match ← activeFor requestID with
    | none => failAll err
    | some _ => failActive requestID err

/-- End the request, with an error or silently. -/
def cancelActive (requestID : Bytes) (err : Option RelayError) : Run := do
  match ← removeActive requestID with
  | none => pure ()
  | some o => match err with
    | none => closeChunks o
    | some err => finish o err

/-- `providerSession.close`. -/
def close : Run := do
  if ← perform Call.closeOnce then failAll .closed else pure ()

/-- `closeProviderForTier2SessionFailure`. -/
def closeProvider (cfg : Config) (requestID : Bytes) (err : RelayError) : Run := do
  failActiveOrAll cfg requestID err
  close

/-- A decoded frame, with what opening it gives for an active or retired request. -/
inductive ResponseFrame (α : Type)
  | dropped
  | undecodable (requestID : Bytes)
  | encrypted (requestID : Bytes) (opened : Option α) (consumed : Bool)
  | unencrypted (requestID : Bytes)
  | plain (body : α)

/-- The body. A frame that cannot be opened, or nobody waits for, closes the provider. -/
def openFrame {α : Type} (cfg : Config) (unencrypted : Bytes → Bytes) :
    ResponseFrame α → Prog Answer (Option α)
  | .dropped => pure none
  | .undecodable requestID => do
    closeProvider cfg requestID .aeadFailed
    pure none
  | .encrypted requestID opened consumed => do
    if cfg.containsControlChar requestID then pure none
    else match ← activeFor requestID, opened with
      | none, _ =>
        if (← recentlyRetired requestID) && consumed then pure none
        else do
          closeProvider cfg requestID .aeadFailed
          pure none
      | some _, none => do
        closeProvider cfg requestID .aeadFailed
        pure none
      | some _, some body => pure (some body)
  | .unencrypted requestID => do
    closeProvider cfg (unencrypted requestID) .aeadFailed
    pure none
  | .plain body => pure (some body)

/-- It fails on a full buffer. -/
def deliverChunk (cfg : Config) (chunk : InferenceResponseChunk) : Run := do
  match ← activeFor chunk.requestID with
  | none => pure ()
  | some o =>
    if ← reserveBufferedBytes o cfg.relayMaxRequestBufferBytes chunk.data.length then
      if ← trySendChunk o chunk then pure ()
      else failActive chunk.requestID .chunkBufferFull
    else cancelActive chunk.requestID (some .bufferExceeded)

/-- A chunk from the provider. -/
def handleInferenceChunk (cfg : Config) (frame : ResponseFrame InferenceResponseChunk) : Run := do
  match ← openFrame cfg id frame with
  | none => pure ()
  | some chunk =>
    if cfg.containsControlChar chunk.requestID then pure () else deliverChunk cfg chunk

/-- The end for the buyer. -/
def deliverEnd (e : InferenceResponseEnd) : Run := do
  match ← removeActive e.requestID with
  | none => pure ()
  | some o =>
    perform (Call.sendDone o e)
    closeChunks o

/-- The id of an unencrypted end. -/
def orUnknown (requestID : Bytes) : Bytes := if requestID = [] then text "unknown" else requestID

/-- The end of a response from the provider. -/
def handleInferenceEnd (cfg : Config) (frame : ResponseFrame InferenceResponseEnd) : Run := do
  match ← openFrame cfg orUnknown frame with
  | none => pure ()
  | some e => if cfg.containsControlChar e.requestID then pure () else deliverEnd e

/-- Why the provider refuses a message. -/
inductive NAKCode
  | unknownMessageType
  | duplicateRequestID
  | tier2AEADDecryptFailed
  | tier2EncryptedFrameRequired
  | other

/-- No further try on this session. -/
def fallBack (inReplyTo : Bytes) : Run := do
  if inReplyTo = [] then pure ()
  else match ← removeActive inReplyTo with
    | none => pure ()
    | some o =>
      perform (Call.sendErr o .nakFallback)
      closeChunks o

/-- A refusal by the provider. -/
def handleNAK (cfg : Config) (code : NAKCode) (inReplyTo : Bytes) : Run :=
  match code with
  | .other => pure ()
  | .unknownMessageType => do
    perform Call.setHTTPOnly
    fallBack inReplyTo
  | .duplicateRequestID => fallBack inReplyTo
  | .tier2AEADDecryptFailed | .tier2EncryptedFrameRequired =>
    closeProvider cfg inReplyTo .aeadFailed

/-- What a goroutine may do with the session. -/
inductive Operation
  | addActive (requestID : Bytes) (maxConcurrency : ℤ) (stream : Bool)
  | inferenceChunk (frame : ResponseFrame InferenceResponseChunk)
  | inferenceEnd (frame : ResponseFrame InferenceResponseEnd)
  | nak (code : NAKCode) (inReplyTo : Bytes)
  | failActive (requestID : Bytes) (err : RelayError)
  | failActiveOrAll (requestID : Bytes) (err : RelayError)
  | failAll (err : RelayError)
  | cancelActive (requestID : Bytes) (err : Option RelayError)
  | close

/-- Its calls. -/
def Operation.program (cfg : Config) : Operation → Run
  | .addActive requestID maxConcurrency stream => do
    let _ ← perform (Call.addActive requestID maxConcurrency stream)
    pure ()
  | .inferenceChunk frame => handleInferenceChunk cfg frame
  | .inferenceEnd frame => handleInferenceEnd cfg frame
  | .nak code inReplyTo => handleNAK cfg code inReplyTo
  | .failActive requestID err => Channels.failActive requestID err
  | .failActiveOrAll requestID err => Channels.failActiveOrAll cfg requestID err
  | .failAll err => Channels.failAll err
  | .cancelActive requestID err => Channels.cancelActive requestID err
  | .close => Channels.close

/-- The operations one after the other. -/
def goroutine (cfg : Config) : List Operation → Run
  | [] => pure ()
  | op :: ops => do
    op.program cfg
    goroutine cfg ops

/-- No requests, and goroutines with operations. -/
def start (cfg : Config) (ops : ι → List Operation) : Pool ι Answer Unit (World ι) :=
  ⟨fun i => goroutine cfg (ops i), World.init ι⟩

end MacProvider.Coordinator.Relay.Channels
