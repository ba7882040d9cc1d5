import RaucUpdate.Model.Slot
import RaucUpdate.Library.TextFields

/-!
# The NBD server

`r_nbd_run_server` of `nbd.c` answers the block requests of the kernel with range requests to an
HTTP server. Several transfers are under way at once, and the HTTP server and libcurl decide what
comes next: bytes or a header for one of them, or its end.
-/

namespace RaucUpdate

open Library

inductive NbdCommand where
  | read | disc | configure
  | other (type : UInt32)
  deriving DecidableEq

structure NbdRequest where
  type : NbdCommand
  handle : Vector UInt8 8
  offset : UInt64
  len : UInt32
  deriving DecidableEq

/-- The dictionary behind the answer to a configure request. -/
structure NbdConfigReply where
  error : Option String := none
  errorHttpCode : Option Nat := none
  url : Option String := none
  size : Option Nat := none
  currentTime : Option Nat := none
  modifiedTime : Option Nat := none
  etag : Option String := none
  deriving DecidableEq

/-- What the server writes to the socket of the kernel. -/
inductive NbdMessage where
  | reply (error : UInt32) (handle : Vector UInt8 8)
  | body (bytes : List UInt8)
  | config (reply : NbdConfigReply)
  deriving DecidableEq

structure NbdTransfer where
  request : NbdRequest
  replyError : UInt32 := 0
  done : Bool := false
  errors : Nat := 0
  /-- The first `buffer_pos` bytes of the buffer. -/
  buffer : List UInt8 := []
  bufferSize : Nat := 0
  contentSize : Nat := 0
  currentTime : Nat := 0
  modifiedTime : Nat := 0
  etag : Option String := none
  deriving DecidableEq

inductive NbdHalt where
  | finished
  | failed (e : GError)
  | aborted (reason : String)
  deriving DecidableEq

structure NbdServer where
  dataSize : Nat := 0
  url : Option String := none
  done : Bool := false
  /-- The transfers that libcurl works on. -/
  transfers : List NbdTransfer := []
  output : List NbdMessage := []
  halted : Option NbdHalt := none
  deriving DecidableEq

def nbdEio : UInt32 := 5

def NbdServer.halt (ctx : NbdServer) (h : NbdHalt) : NbdServer := { ctx with halted := some h }

def NbdServer.write (ctx : NbdServer) (messages : List NbdMessage) : NbdServer :=
  { ctx with output := ctx.output ++ messages }

section Callbacks

/-- Bytes that do not fit are refused as a whole. -/
def writeCb (bytes : List UInt8) (xfer : NbdTransfer) : NbdTransfer :=
  if xfer.bufferSize - xfer.buffer.length < bytes.length then xfer
  else { xfer with buffer := xfer.buffer ++ bytes }

/-- A header line by its name. libcurl has read the dates. -/
inductive HttpHeader where
  | contentRange (value : String)
  | date (time : Option Nat)
  | lastModified (time : Option Nat)
  | etag (value : String)
  | other
  deriving DecidableEq

def contentRangeSize (value : String) : Option Nat :=
  match splitAtMost ' ' 2 value with
  | [_, range] =>
    match splitAtMost '/' 2 range with
    | [bounds, total] =>
      if bounds ≠ "0-3" ∨ total = "*" then none
      else if (strtoull 10 total).overflow ∨ (strtoull 10 total).rest ≠ [] then none
      else some (strtoull 10 total).value
    | _ => none
  | _ => none

def headerCb (header : HttpHeader) (xfer : NbdTransfer) : NbdTransfer :=
  match header with
  | .contentRange value =>
    { xfer with contentSize := (contentRangeSize value).getD xfer.contentSize }
  | .date time => { xfer with currentTime := time.getD xfer.currentTime }
  | .lastModified time => { xfer with modifiedTime := time.getD xfer.modifiedTime }
  | .etag value => { xfer with etag := some value }
  | .other => xfer

end Callbacks

section Requests

def startRead (ctx : NbdServer) (xfer : NbdTransfer) : NbdServer × Option NbdTransfer :=
  (ctx, some { xfer with buffer := [], bufferSize := xfer.request.len.toNat })

/-- The configuration is only read from the client on the first try; `url` is its entry of that
name. -/
def startConfigure (ctx : NbdServer) (xfer : NbdTransfer) (url : Option String) :
    NbdServer × Option NbdTransfer :=
  match ctx.url.or url with
  | none => (ctx.halt (.aborted "'ctx->url' should not be NULL"), none)
  | some known => ({ ctx with url := some known }, some { xfer with buffer := [], bufferSize := 4 })

/-- A request that needs no transfer hands none to libcurl. -/
def startRequest (ctx : NbdServer) (xfer : NbdTransfer) (url : Option String) :
    NbdServer × Option NbdTransfer :=
  match xfer.request.type with
  | .read => startRead ctx xfer
  | .disc => ({ ctx with done := true }, none)
  | .configure => startConfigure ctx xfer url
  | .other _ => (ctx.halt (.aborted "nbd server received bad request type"), none)

/-- How a transfer has ended. -/
structure CurlResult where
  ok : Bool
  responseCode : Nat
  errbuf : String := ""
  effectiveUrl : Option String := none
  deriving DecidableEq

def finishRead (ctx : NbdServer) (xfer : NbdTransfer) (result : CurlResult) : NbdServer :=
  if !xfer.done then ctx
  else
    let error := if xfer.replyError = 0 ∧ result.responseCode ≠ 206 then nbdEio else xfer.replyError
    let ctx := ctx.write [.reply error xfer.request.handle]
    if error = 0 then
      if xfer.bufferSize ≠ xfer.buffer.length then
        ctx.halt (.aborted "incomplete data received from server")
      else ctx.write [.body xfer.buffer]
    else ctx

def configureError (responseCode : Nat) : String :=
  match responseCode with
  | 0 => "server not responding"
  | 200 => "range requests not supported by server"
  | 204 => "no content"
  | 304 => "not modified"
  | code => "unexpected HTTP response code " ++ toString code

def positive (n : Nat) : Option Nat := if n = 0 then none else some n

def sendConfigReply (ctx : NbdServer) (xfer : NbdTransfer) (reply : NbdConfigReply) : NbdServer :=
  let reply := { reply with
    url := ctx.url, size := positive xfer.contentSize, currentTime := positive xfer.currentTime,
    modifiedTime := positive xfer.modifiedTime, etag := xfer.etag }
  { ctx.write [.reply xfer.replyError xfer.request.handle, .config reply] with
    dataSize := if xfer.contentSize = 0 then ctx.dataSize else xfer.contentSize }

/-- `false` shuts the server down. -/
def finishConfigure (ctx : NbdServer) (xfer : NbdTransfer) (result : CurlResult) :
    NbdServer × Bool :=
  if !xfer.done then (ctx, true)
  else if result.responseCode ≠ 206 then
    (sendConfigReply ctx xfer
      { error := some (configureError result.responseCode),
        errorHttpCode := some result.responseCode }, false)
  else if xfer.bufferSize ≠ xfer.buffer.length then
    (sendConfigReply ctx xfer { error := some "incomplete HTTP response" }, false)
  else if xfer.replyError ≠ 0 then
    (sendConfigReply ctx xfer { error := some result.errbuf }, false)
  else
    (sendConfigReply { ctx with url := result.effectiveUrl.or ctx.url } xfer {}, true)

def finishRequest (ctx : NbdServer) (xfer : NbdTransfer) (result : CurlResult) : NbdServer × Bool :=
  match xfer.request.type with
  | .read => (finishRead ctx xfer result, true)
  | .configure => finishConfigure ctx xfer result
  | .disc | .other _ => (ctx, false)

end Requests

section Loop

/-- How the end of an attempt is judged: it is retried until there have been five errors. -/
def judge (xfer : NbdTransfer) (result : CurlResult) : NbdTransfer :=
  if result.ok then { xfer with replyError := 0, done := true }
  else if result.responseCode = 404 then { xfer with replyError := nbdEio, done := true }
  else if 5 ≤ xfer.errors then { xfer with replyError := nbdEio, done := true }
  else { xfer with errors := xfer.errors + 1 }

def shutdownError : GError := ⟨.nbdShutdown, "finish_request failed, shutting down"⟩

def transferDone (ctx : NbdServer) (i : Nat) (result : CurlResult) : NbdServer :=
  match ctx.transfers[i]? with
  | none => ctx
  | some before =>
    let xfer := judge before result
    -- `finish_request` takes the transfer from libcurl
    let (ctx, goOn) := finishRequest { ctx with transfers := ctx.transfers.eraseIdx i } xfer result
    if ctx.halted.isSome then ctx
    else if !goOn then ctx.halt (.failed shutdownError)
    else if xfer.done then ctx
    else
      let (ctx, again) := startRequest ctx xfer none
      { ctx with transfers := ctx.transfers ++ again.toList }

inductive NbdEvent where
  /-- A request of the client; a configure request is followed by its configuration. -/
  | request (request : NbdRequest) (url : Option String)
  | clientGone (error : Option GError)
  | data (i : Nat) (bytes : List UInt8)
  | header (i : Nat) (header : HttpHeader)
  | completed (i : Nat) (result : CurlResult)
  /-- The loop finds `ctx.done`. -/
  | leave
  deriving DecidableEq

def newRequest (ctx : NbdServer) (request : NbdRequest) (url : Option String) : NbdServer :=
  let (ctx, xfer) := startRequest ctx { request := request } url
  { ctx with transfers := ctx.transfers ++ xfer.toList }

def clientGone (ctx : NbdServer) : Option GError → NbdServer
  | none => { ctx with done := true }.halt .finished
  | some e => ctx.halt (.failed (e.prefixed "failed to read request from client: "))

def nbdStep (ctx : NbdServer) : NbdEvent → NbdServer
  | .request request url => newRequest ctx request url
  | .clientGone error => clientGone ctx error
  | .data i bytes => { ctx with transfers := ctx.transfers.modify i (writeCb bytes) }
  | .header i header => { ctx with transfers := ctx.transfers.modify i (headerCb header) }
  | .completed i result => transferDone ctx i result
  | .leave => ctx.halt .finished

/-- libcurl only reports on transfers it works on, and sends headers only where they were asked
for. -/
def NbdEnabled (ctx : NbdServer) : NbdEvent → Prop
  | .request _ _ | .clientGone _ => ctx.halted = none ∧ ctx.done = false
  | .data i _ | .completed i _ => ctx.halted = none ∧ i < ctx.transfers.length
  | .header i _ =>
    ctx.halted = none ∧ ctx.transfers[i]?.map (fun xfer => xfer.request.type) = some .configure
  | .leave => ctx.halted = none ∧ ctx.done = true

instance (ctx : NbdServer) : (event : NbdEvent) → Decidable (NbdEnabled ctx event)
  | .request _ _ | .clientGone _ | .data _ _ | .header _ _ | .completed _ _ | .leave =>
    inferInstanceAs (Decidable (_ ∧ _))

def nbdRun (ctx : NbdServer) (events : List NbdEvent) : NbdServer := events.foldl nbdStep ctx

/-- The events can happen one after the other. -/
def NbdPossible : NbdServer → List NbdEvent → Prop
  | _, [] => True
  | ctx, event :: events => NbdEnabled ctx event ∧ NbdPossible (nbdStep ctx event) events

instance decidableNbdPossible : ∀ (ctx : NbdServer) (events : List NbdEvent), Decidable
    (NbdPossible ctx events)
  | _, [] => inferInstanceAs (Decidable True)
  | ctx, event :: events =>
    have := decidableNbdPossible (nbdStep ctx event) events
    inferInstanceAs (Decidable (_ ∧ _))

end Loop

end RaucUpdate
