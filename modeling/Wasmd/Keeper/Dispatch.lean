import Wasmd.Types.Basic
import Wasmd.Lib.GasMeter
import Mathlib.Data.List.Sort

/-!
# Dispatching submessages

`x/wasm/keeper/msg_dispatcher.go` and the default response handler of `keeper.go`: a contract
returns a list of submessages; each runs in a sandbox, and the contract may be told how it
ended.

* `World` — what a context points to.  A sandbox copies the multistore and collects events
  of its own; the gas meter and everything else behind a pointer is shared with it.
* `dispatchMsgWithGasLimit` — a message under a gas limit of its own, with the recovery from
  running out of it.
* `dispatchSubmessages`, `handle` — the loop, and the data a call returns in the end.
-/

namespace Wasmd

open ByteStore Effects Gas

/-- What an `sdk.Context` refers to.  `ms` is the multistore, copied by `CacheContext`;
`shared` is state behind pointers that no sandbox undoes. -/
structure World (μ ν : Type) where
  ms : μ
  gas : GasMeter
  events : List Event
  shared : ν
  deriving DecidableEq

/-- A call on a context. -/
abbrev CtxM (μ ν : Type) := GoM (World μ ν) GoError

variable {μ ν C : Type}

/-- The entry points through which the keeper calls into the VM. -/
inductive EntryPoint where
  | instantiate
  | execute
  | migrate
  | sudo
  | reply
  | query
  | ibcChannelOpen
  | ibcChannelConnect
  | ibcChannelClose
  | ibcPacketReceive
  | ibcPacketAck
  | ibcPacketTimeout
  | ibcSourceCallback
  | ibcDestinationCallback
  | ibc2PacketAck
  | ibc2PacketReceive
  | ibc2PacketTimeout
  | ibc2PacketSend
  deriving DecidableEq, Repr

/-- `wasmvmtypes.ReplyOn`, a text on the wire. -/
inductive ReplyOn where
  | success
  | error
  | always
  | never
  /-- Any other text. -/
  | unknown (text : String)
  deriving DecidableEq, Repr

/-- `wasmvmtypes.SubMsg`. -/
structure SubMsg (C : Type) where
  id : UInt64
  payload : Bytes
  msg : C
  gasLimit : Option UInt64
  replyOn : ReplyOn
  deriving DecidableEq

/-- What `DispatchMsg` returns beside the error. -/
structure DispatchResult where
  events : List Event
  data : List (Option Bytes)
  msgResponses : List (List MsgResponse)
  deriving DecidableEq, Repr

/-- `MessageDispatcher`: a messenger and a replyer.  `isWasm` tells the messages whose `Wasm`
field is set. -/
structure MessageDispatcher (μ ν C : Type) where
  isWasm : C → Bool
  dispatchMsg : AccAddress → String → C → CtxM μ ν DispatchResult
  reply : AccAddress → Reply → CtxM μ ν (Option Bytes)

/-! ## Events -/

/-- `filterEvents`. -/
def filterEvents (events : List Event) : List Event := events.filter fun ev => ev.type ≠ "message"

/-- The stable sort of the attributes of an event by key. -/
def sortAttributes (ev : Event) : Event :=
  { ev with attributes := ev.attributes.insertionSort fun a b => a.key ≤ b.key }

/-- The events passed on to the parent.  The source sorts the attributes of a wasm message's
events after it emitted them, but in place, so the emitted events are sorted as well. -/
def passedEvents (isWasm : Bool) (own returned : List Event) : List Event :=
  if isWasm then (filterEvents (own ++ returned)).map sortAttributes
  else filterEvents (own ++ returned)

/-! ## Errors shown to a contract -/

/-- `redactError(err).Error()`.  Only the top of the chain is looked at; a flavoured error is
not itself a system error, so it is redacted like any other. -/
def redactError : GoError → String
  | .system t => t
  | .deterministic cause => cause.text
  | e => s!"codespace: {e.abciInfo.1}, code: {e.abciInfo.2}"

namespace MessageDispatcher

variable (d : MessageDispatcher μ ν C)

/-! ## A message under its own gas limit -/

/-- The body of `dispatchMsgWithGasLimit`: the message on a meter of its own, then the charge to
the parent.  The result carries the world of the submessage and the parent's meter. -/
def limitedBody (addr : AccAddress) (ibcPort : String) (msg : C) (gasLimit : UInt64)
    (w : World μ ν) : Except (Failure GoError) DispatchResult × World μ ν × GasMeter :=
  match d.dispatchMsg addr ibcPort msg { w with gas := .newGasMeter gasLimit } with
  | (.error (.panic p), w') => (.error (.panic p), w', w.gas)
  | (r, w') =>
    match w.gas.consumeGas w'.gas.gasConsumed "From limited Sub-Message" with
    | (.ok (), parent) => (r, w', parent)
    | (.error p, parent) => (.error (.panic p), w', parent)

/-- A charge to the parent while a panic is being handled; if it panics itself, that panic
takes over. -/
def chargeThen (w' : World μ ν) (parent : GasMeter) (amount : UInt64) (descriptor : String)
    (failure : Failure GoError) : Except (Failure GoError) DispatchResult × World μ ν :=
  match parent.consumeGas amount descriptor with
  | (.ok (), parent') => (.error failure, { w' with gas := parent' })
  | (.error p, parent') => (.error (.panic p), { w' with gas := parent' })

/-- `dispatchMsgWithGasLimit`.  The deferred function also sees a panic of the last charge. -/
def dispatchMsgWithGasLimit (addr : AccAddress) (ibcPort : String) (msg : C) (gasLimit : UInt64) :
    CtxM μ ν DispatchResult := fun w =>
  match d.limitedBody addr ibcPort msg gasLimit w with
  | (.error (.panic (.outOfGas _)), w', parent) =>
    chargeThen w' parent gasLimit "Sub-Message OutOfGas panic"
      (.error (errOutOfGas.wrap "SubMsg hit gas limit"))
  | (.error (.panic p), w', parent) =>
    chargeThen w' parent w'.gas.gasConsumed "From limited Sub-Message" (.panic p)
  | (r, w', parent) => (r, { w' with gas := parent })

/-! ## The loop -/

/-- The gas left, as the source subtracts it. -/
def gasRemaining (m : GasMeter) : UInt64 := m.limit - m.gasConsumed

/-- The dispatch of one submessage, under its own limit if that is below what is left. -/
def dispatchLimited (addr : AccAddress) (ibcPort : String) (msg : SubMsg C) :
    CtxM μ ν DispatchResult := fun w =>
  match msg.gasLimit with
  | some limit =>
    if limit < gasRemaining w.gas then d.dispatchMsgWithGasLimit addr ibcPort msg.msg limit w
    else d.dispatchMsg addr ibcPort msg.msg w
  | none => d.dispatchMsg addr ibcPort msg.msg w

/-- One submessage in its sandbox, with the error of a failed one as a value.  Success commits
the multistore and passes the events on; failure and panic leave both as they were. -/
def sandbox (addr : AccAddress) (ibcPort : String) (msg : SubMsg C) :
    CtxM μ ν (Except GoError (DispatchResult × List Event)) := fun w =>
  match d.dispatchLimited addr ibcPort msg { w with events := [] } with
  | (.ok r, w') =>
    let passed := passedEvents (d.isWasm msg.msg) w'.events r.events
    (.ok (.ok (r, passed)), { w' with events := w.events ++ passed })
  | (.error (.error e), w') => (.ok (.error e), { w' with ms := w.ms, events := w.events })
  | (.error (.panic p), w') => (.error (.panic p), { w' with ms := w.ms, events := w.events })

/-- The result the contract is shown; only a wasm message's events are part of it. -/
def subMsgResult (msg : C) : Except GoError (DispatchResult × List Event) → SubMsgResult
  | .ok (r, passed) =>
    ⟨some ⟨if d.isWasm msg then passed else [], r.data.head?.join, r.msgResponses.flatten⟩, ""⟩
  | .error e => ⟨none, redactError e⟩

/-- Whether the contract is called back. -/
def wantsReply : ReplyOn → Bool → Bool
  | .success, succeeded => succeeded
  | .error, succeeded => !succeeded
  | .always, _ => true
  | _, _ => false

/-- The switch at the start of an iteration. -/
def ReplyOn.isKnown : ReplyOn → Bool
  | .unknown _ => false
  | _ => true

/-- The short-circuit after the sandbox: a failure that is not replied to ends the call. -/
def shortCircuit : ReplyOn → Except GoError (DispatchResult × List Event) →
    Except (Failure GoError) Unit
  | .success, .error e => .error (.error e)
  | .never, .error e => .error (.error e)
  | _, _ => .ok ()

/-- The loop of `DispatchSubmessages`; `rsp` is the data of the last reply that returned some. -/
def dispatchLoop (addr : AccAddress) (ibcPort : String) :
    Option Bytes → List (SubMsg C) → CtxM μ ν (Option Bytes)
  | rsp, [] => pure rsp
  | rsp, msg :: rest => do
    GoM.ensure (ReplyOn.isKnown msg.replyOn = true) (errInvalid.wrap "replyOn value")
    let outcome ← d.sandbox addr ibcPort msg
    GoM.ofExcept (shortCircuit msg.replyOn outcome)
    if wantsReply msg.replyOn outcome.toBool then do
      let rspData ← GoM.mapError (.wrapped "reply")
        (d.reply addr ⟨msg.id, d.subMsgResult msg.msg outcome, msg.payload⟩)
      dispatchLoop addr ibcPort (rspData.or rsp) rest
    else dispatchLoop addr ibcPort rsp rest

/-- `DispatchSubmessages`. -/
def dispatchSubmessages (addr : AccAddress) (ibcPort : String) (msgs : List (SubMsg C)) :
    CtxM μ ν (Option Bytes) :=
  d.dispatchLoop addr ibcPort none msgs

/-- `DefaultWasmVMContractResponseHandler.Handle`. -/
def handle (addr : AccAddress) (ibcPort : String) (msgs : List (SubMsg C))
    (origRspData : Option Bytes) : CtxM μ ν (Option Bytes) := do
  let rsp ← d.dispatchSubmessages addr ibcPort msgs
  pure (rsp.or origRspData)

end MessageDispatcher
end Wasmd
