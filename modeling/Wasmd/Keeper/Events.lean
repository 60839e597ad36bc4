import Wasmd.Keeper.EventOrigin
import Wasmd.Keeper.Recursion

/-!
# Events of contracts

What comes out of a tree of calls, submessages and replies.

* `scriptEmits_handleContractResponse` — a response is handled with genuine events.
* `msgServer_emits`, `chain_emits`, `topCall_emits` — so is every message of the module, every
  message and reply of a contract, and every call from outside.
* `contract_events_stamped` — events of contracts cannot be forged.
-/

namespace Wasmd

open ByteStore Effects Gas Text

variable {ε C α : Type}

/-! ## Entry points -/

section Scripts

variable {k : Keeper ε C} {m : Messenger ε C} (htrim : k.trimSpace = trimSpace)
include htrim

/-- **The response of a contract is handled with genuine events.** -/
theorem scriptEmits_handleContractResponse {ctx : SdkContext} {a : AccAddress} {entry : EntryPoint}
    {port : String} {wrap : GoError → GoError} {res : ContractResponse C} {data : Option Bytes}
    (hres : RespondedWith k a res) :
    ScriptEmits k (k.handleContractResponse ctx a entry port wrap res data) fun _ => True := by
  have hemit : Emits k (k.emitResponse ctx a res.attributes res.events) fun _ => True := by
    refine (emitResponse_ensures (J := fun l => ∀ e ∈ l, Genuine k e) htrim ?_ ctx).trivially
    intro l new hl hnew e he
    rcases List.mem_append.mp he with hold | hmem
    · exact hl e hold
    · exact fun _ => ⟨a, res, hres, e, hnew e hmem, rfl, .refl _⟩
  exact (Script.Ensures.lift hemit.mapError).bind fun _ _ _ => trivial

theorem scriptEmits_reply (ctx : SdkContext) (a : AccAddress) (answer : Reply) :
    ScriptEmits k (k.reply ctx a answer) fun _ => True := by
  refine (Script.Ensures.lift (emits_runContract ctx a _ _)).bind fun out hout => ?_
  refine (Script.Ensures.lift (emits_emitEvent (by decide))).bind fun _ _ => ?_
  exact scriptEmits_handleContractResponse htrim hout

theorem scriptEmits_sudoContract (ctx : SdkContext) (a : AccAddress) (msg : Bytes) :
    ScriptEmits k (k.sudoContract ctx a msg) fun _ => True := by
  refine (Script.Ensures.lift (emits_runContract ctx a _ _)).bind fun out hout => ?_
  refine (Script.Ensures.lift (emits_emitEvent (by decide))).bind fun _ _ => ?_
  exact scriptEmits_handleContractResponse htrim hout

theorem scriptEmits_basicCallback (port : ContractInfo → String) (input : VMInput)
    (ctx : SdkContext) (a : AccAddress) :
    ScriptEmits k (k.basicCallback port input ctx a) fun _ => True :=
  (Script.Ensures.lift (emits_runContract ctx a _ _)).bind fun _ hout =>
    (scriptEmits_handleContractResponse htrim hout).bind fun _ _ => trivial

theorem scriptEmits_callback (ctx : SdkContext) (a : AccAddress) (msg : IBCMsg)
    (callback : BasicCallback) : ScriptEmits k (k.callback ctx a msg callback) fun _ => True := by
  cases callback <;> exact scriptEmits_basicCallback htrim _ _ _ _

omit htrim in
theorem emits_onOpenChannel (ctx : SdkContext) (a : AccAddress) (msg : IBCMsg) :
    Emits k (k.onOpenChannel ctx a msg) fun _ => True := by
  refine (emits_contractInstance a).bind fun _ _ => ?_
  refine (((emits_prepare (R := fun _ => True) (.pure trivial)).bind fun _ _ =>
    (emits_silent (VMEnv.call_keepsEvents _ _ _)).bind fun _ _ => .pure trivial :
      Emits k (k.enter ctx _ _ _ _ _) fun _ => True)).bind fun out _ => ?_
  rcases out with ⟨_, _ | _ | err | _⟩
  · exact .failWith _
  · exact .failWith _
  · by_cases herr : err = ""
    · simp only [herr, if_true]
      exact .pure trivial
    · simp only [herr, if_false]
      exact .failWith _
  · exact .pure trivial

theorem scriptEmits_onRecvPacket (ctx : SdkContext) (a : AccAddress) (msg : IBCPacketReceiveMsg) :
    ScriptEmits k (k.onRecvPacket ctx a msg) fun _ => True := by
  refine (Script.Ensures.lift (emits_runReceive ctx a _)).bind fun out hout => ?_
  obtain ⟨info, received⟩ := out
  cases received with
  | error err => trivial
  | ok res =>
      refine (scriptEmits_handleContractResponse htrim (hout res rfl)).bind fun data _ => ?_
      cases data with
      | none => exact (Script.Ensures.lift (emits_writeStore _)).bind fun _ _ => trivial
      | some data => trivial

theorem scriptEmits_receiveIBC2Packet (ctx : SdkContext) (a : AccAddress) (msg : IBCMsg) :
    ScriptEmits k (k.receiveIBC2Packet ctx a msg) fun _ => True := by
  refine (Script.Ensures.lift (emits_runReceive ctx a _)).bind fun out hout => ?_
  obtain ⟨info, received⟩ := out
  cases received with
  | error err => trivial
  | ok res =>
      refine (scriptEmits_handleContractResponse htrim (hout res rfl)).bind fun data _ => ?_
      cases data <;> trivial

theorem scriptEmits_migrate (ctx : SdkContext) (a caller : AccAddress) (codeID : UInt64)
    (msg : Bytes) (authZ : AuthorizationPolicy) :
    ScriptEmits k (k.migrate ctx a caller codeID msg authZ) fun _ => True := by
  refine Script.Ensures.bind (Script.Ensures.lift
    (emits_migrateContract ctx a caller codeID msg authZ)) fun out hout => ?_
  obtain ⟨info, response⟩ := out
  cases response with
  | none => trivial
  | some res => exact scriptEmits_handleContractResponse htrim (hout res rfl)

variable (h : SeparateModules k m)
include h

theorem scriptEmits_execute (ctx : SdkContext) (a caller : AccAddress) (msg : Bytes)
    (coins : Coins.CoinSet) : ScriptEmits k (k.execute ctx a caller msg coins) fun _ => True :=
  (Script.Ensures.lift (emits_runExecute h ctx a caller msg coins)).bind fun _ hout =>
    scriptEmits_handleContractResponse htrim hout

theorem scriptEmits_instantiate (ctx : SdkContext) (codeID : UInt64)
    (creator admin : Option AccAddress) (initMsg : Bytes) (label : String) (deposit : Coins.CoinSet)
    (generator : AddressGenerator) (policy : AuthorizationPolicy) :
    ScriptEmits k (k.instantiate ctx codeID creator admin initMsg label deposit generator policy)
      fun _ => True :=
  Script.Ensures.bind (Script.Ensures.lift (emits_newInstance h ctx codeID creator admin initMsg
    label deposit generator policy)) fun _ hout =>
      (scriptEmits_handleContractResponse htrim hout).bind fun _ _ => trivial

end Scripts

/-! ## Messages -/

section Messages

variable {k : Keeper ε C} {m : Messenger ε C}

theorem scriptEmits_attempt (x : Except GoError α) :
    ScriptEmits k (attempt x) fun a => x = .ok a :=
  .lift emits_orError

theorem scriptEmits_guarded {operation : Operation} {policy : AuthorizationPolicy} {x : KeeperM ε α}
    (hx : Emits k x fun _ => True) : ScriptEmits k (guarded operation policy x) fun _ => True :=
  Script.Ensures.lift hx

variable (htrim : k.trimSpace = trimSpace) (h : SeparateModules k m)
include htrim h

/-- **A message of the module emits genuine events.** -/
theorem msgServer_emits (lib : MsgLib) (ctx : SdkContext) (msg : WasmMsg) :
    ScriptEmits k (k.msgServer lib ctx msg) fun _ => True := by
  cases msg with
  | storeCode sender code access =>
      refine (scriptEmits_attempt _).bind fun _ _ => (scriptEmits_attempt _).bind fun _ _ => ?_
      exact (scriptEmits_guarded (emits_create _ _ _ _ _)).bind fun _ _ => trivial
  | instantiateContract sender admin codeID label initMsg funds =>
      refine (scriptEmits_attempt _).bind fun _ _ => (scriptEmits_attempt _).bind fun _ _ => ?_
      refine (scriptEmits_attempt _).bind fun _ _ => ?_
      exact (scriptEmits_instantiate htrim h _ _ _ _ _ _ _ _ _).bind fun _ _ => trivial
  | instantiateContract2 sender admin codeID label initMsg funds salt fixMsg =>
      refine (scriptEmits_attempt _).bind fun _ _ => (scriptEmits_attempt _).bind fun _ _ => ?_
      refine (scriptEmits_attempt _).bind fun _ _ => ?_
      exact (scriptEmits_instantiate htrim h _ _ _ _ _ _ _ _ _).bind fun _ _ => trivial
  | executeContract sender contract payload funds =>
      refine (scriptEmits_attempt _).bind fun _ _ => (scriptEmits_attempt _).bind fun _ _ => ?_
      refine (scriptEmits_attempt _).bind fun _ _ => ?_
      exact (scriptEmits_execute htrim h _ _ _ _ _).bind fun _ _ => trivial
  | migrateContract sender contract codeID payload =>
      refine (scriptEmits_attempt _).bind fun _ _ => (scriptEmits_attempt _).bind fun _ _ => ?_
      refine (scriptEmits_attempt _).bind fun _ _ => ?_
      exact (scriptEmits_migrate htrim _ _ _ _ _ _).bind fun _ _ => trivial
  | updateAdmin sender newAdmin contract =>
      refine (scriptEmits_attempt _).bind fun _ _ => (scriptEmits_attempt _).bind fun _ _ => ?_
      refine (scriptEmits_attempt _).bind fun _ _ => (scriptEmits_attempt _).bind fun _ _ => ?_
      exact (scriptEmits_guarded (emits_modifyContract _ _ _ _ (by decide))).bind fun _ _ => trivial
  | clearAdmin sender contract =>
      refine (scriptEmits_attempt _).bind fun _ _ => (scriptEmits_attempt _).bind fun _ _ => ?_
      refine (scriptEmits_attempt _).bind fun _ _ => ?_
      exact (scriptEmits_guarded (emits_modifyContract _ _ _ _ (by decide))).bind fun _ _ => trivial
  | updateInstantiateConfig sender codeID access =>
      refine (scriptEmits_attempt _).bind fun _ _ => (scriptEmits_attempt _).bind fun _ _ => ?_
      refine (Script.Ensures.lift (.ofOptionPanic _ _)).bind fun config _ => ?_
      exact (scriptEmits_guarded (emits_setAccessConfig _ _ _ _)).bind fun _ _ => trivial
  | updateParams authority params =>
      refine (scriptEmits_attempt _).bind fun _ _ => (scriptEmits_attempt _).bind fun _ _ => ?_
      exact (Script.Ensures.lift (emits_writeStore _)).bind fun _ _ => trivial
  | pinCodes authority codeIDs =>
      refine (scriptEmits_attempt _).bind fun _ _ => (scriptEmits_attempt _).bind fun _ _ => ?_
      exact (Script.Ensures.lift (.forEach emits_pinCode)).bind fun _ _ => trivial
  | unpinCodes authority codeIDs =>
      refine (scriptEmits_attempt _).bind fun _ _ => (scriptEmits_attempt _).bind fun _ _ => ?_
      exact (Script.Ensures.lift (.forEach emits_unpinCode)).bind fun _ _ => trivial
  | sudoContract authority contract payload =>
      refine (scriptEmits_attempt _).bind fun _ _ => (scriptEmits_attempt _).bind fun _ _ => ?_
      refine (scriptEmits_attempt _).bind fun _ _ => ?_
      exact (scriptEmits_sudoContract htrim _ _ _).bind fun _ _ => trivial
  | storeAndInstantiateContract authority code access admin label payload funds source
      builder hash =>
      refine (scriptEmits_attempt _).bind fun _ _ => (scriptEmits_attempt _).bind fun _ _ => ?_
      refine (scriptEmits_attempt _).bind fun _ _ => ?_
      refine (scriptEmits_guarded (emits_create _ _ _ _ _)).bind fun _ _ => ?_
      exact (scriptEmits_instantiate htrim h _ _ _ _ _ _ _ _ _).bind fun _ _ => trivial
  | addCodeUploadParamsAddresses authority addresses =>
      refine (scriptEmits_attempt _).bind fun _ _ => (scriptEmits_attempt _).bind fun _ _ => ?_
      exact (Script.Ensures.lift (emits_editUploadAddresses _)).bind fun _ _ => trivial
  | removeCodeUploadParamsAddresses authority addresses =>
      refine (scriptEmits_attempt _).bind fun _ _ => (scriptEmits_attempt _).bind fun _ _ => ?_
      exact (Script.Ensures.lift (emits_editUploadAddresses _)).bind fun _ _ => trivial
  | storeAndMigrateContract authority code access contract payload =>
      refine (scriptEmits_attempt _).bind fun _ _ => (scriptEmits_attempt _).bind fun _ _ => ?_
      refine (scriptEmits_guarded (emits_create _ _ _ _ _)).bind fun _ _ => ?_
      refine (scriptEmits_attempt _).bind fun _ _ => ?_
      exact (scriptEmits_migrate htrim _ _ _ _ _ _).bind fun _ _ => trivial
  | updateContractLabel sender newLabel contract =>
      refine (scriptEmits_attempt _).bind fun _ _ => (scriptEmits_attempt _).bind fun _ _ => ?_
      refine (scriptEmits_attempt _).bind fun _ _ => ?_
      exact (scriptEmits_guarded (emits_modifyContract _ _ _ _ (by decide))).bind fun _ _ => trivial

omit htrim h in
/-- The router hands the events of a message back. -/
theorem emits_swapEvents {saved : List Event} (hsaved : ∀ e ∈ saved, Genuine k e) :
    Emits k (swapEvents saved) fun l => ∀ e ∈ l, Genuine k e := by
  refine fun w hw => ⟨hsaved, fun l hl => ?_⟩
  cases hl
  exact hw

omit htrim h in
theorem emits_takeEvents : Emits k takeEvents fun l => ∀ e ∈ l, Genuine k e := by
  refine fun w hw => ⟨fun e he => absurd he List.not_mem_nil, fun l hl => ?_⟩
  cases hl
  exact hw

/-- A call of another module emits genuine events. -/
theorem reenter_emits (ctx : SdkContext) (c : ReentrantCall) :
    ScriptEmits k (k.reenter m ctx c) fun _ => True := by
  cases c with
  | message msg => exact (msgServer_emits htrim h m.lib ctx msg).bind fun _ _ => trivial
  | openChannel a msg =>
      exact (Script.Ensures.lift (emits_onOpenChannel ctx a msg)).bind fun _ _ => trivial
  | callback callback a msg =>
      exact (scriptEmits_callback htrim ctx a msg callback).bind fun _ _ => trivial
  | recvPacket a msg =>
      refine (Script.Ensures.lift (emits_acceptPacket ctx a _)).bind fun out hout => ?_
      refine (scriptEmits_handleContractResponse htrim hout).bind fun data _ => ?_
      exact (Script.Ensures.lift (.ofOption _ _)).bind fun _ _ => trivial
  | recvIBC2Packet a msg =>
      refine (Script.Ensures.lift (emits_acceptPacket ctx a _)).bind fun out hout => ?_
      exact scriptEmits_handleContractResponse htrim hout

theorem runForeign_emits {Q : α → Prop} (ctx : SdkContext) (run : ForeignRun ε α)
    (hrun : run.Separate Q) : ScriptEmits k (k.runForeign m ctx run) Q := by
  induction run with
  | last x =>
      exact .lift fun w hw => ⟨(emits_onExt hrun.1 w hw).1, fun a ha =>
        hrun.2 _ a _ (Prod.ext ha rfl)⟩
  | step x next ih =>
    exact (Script.Ensures.lift (emits_onExt hrun.1)).bind fun b _ => ih b (hrun.2 b)
  | call c next ih => exact (reenter_emits htrim h ctx c).bind fun data _ => ih data (hrun data)

theorem handleSdkMessage_emits (ctx : SdkContext) (a : AccAddress) (msg : SdkMsg ε)
    (hother : ∀ other, msg = .other other → ∀ handler, other.handler = some handler → ∀ ctx,
      (handler ctx).Separate fun _ => True) :
    ScriptEmits k (k.handleSdkMessage m ctx a msg) (DispatchResult.AllEvents (Genuine k)) := by
  cases msg with
  | wasm msg =>
      refine (scriptEmits_attempt _).bind fun _ _ => (scriptEmits_attempt _).bind fun _ _ => ?_
      refine (Script.Ensures.lift (.ensure _ _)).bind fun _ _ => ?_
      refine (Script.Ensures.lift emits_takeEvents).bind fun saved hsaved => ?_
      refine (msgServer_emits htrim h m.lib ctx msg).bind fun rsp _ => ?_
      exact (Script.Ensures.lift (emits_swapEvents hsaved)).bind fun events hevents => hevents
  | other msg =>
      refine (scriptEmits_attempt _).bind fun _ _ => (scriptEmits_attempt _).bind fun _ _ => ?_
      refine (Script.Ensures.lift (.ensure _ _)).bind fun _ _ => ?_
      refine (Script.Ensures.lift (.ofOption _ _)).bind fun handler hhandler => ?_
      refine (Script.Ensures.lift emits_takeEvents).bind fun saved hsaved => ?_
      refine (runForeign_emits htrim h ctx _ (hother msg rfl handler hhandler ctx)).bind
        fun rsp _ => ?_
      exact (Script.Ensures.lift (emits_swapEvents hsaved)).bind fun events hevents => hevents

theorem dispatchSdkMsgs_emits (ctx : SdkContext) (a : AccAddress) (msgs : List (SdkMsg ε))
    (hother : ∀ other, .other other ∈ msgs → ∀ handler, other.handler = some handler → ∀ ctx,
      (handler ctx).Separate fun _ => True) :
    ScriptEmits k (k.dispatchSdkMsgs m ctx a msgs) (DispatchResult.AllEvents (Genuine k)) := by
  induction msgs with
  | nil => exact fun e he => absurd he List.not_mem_nil
  | cons msg rest ih =>
      have hfirst := handleSdkMessage_emits htrim h ctx a msg fun other heq =>
        hother other (heq ▸ List.mem_cons_self)
      refine hfirst.bind fun first hone => ?_
      refine (ih fun other hmem => hother other (List.mem_cons_of_mem _ hmem)).bind
        fun others hrest => ?_
      intro e he
      rcases List.mem_append.mp he with hleft | hright
      · exact hone e hleft
      · exact hrest e hright

omit htrim in
theorem dispatchIBC_emits (ctx : SdkContext) (a : AccAddress) (port : String) (msg : IBCRawMsg) :
    Emits k (Keeper.dispatchIBC m ctx a port msg) (DispatchResult.AllEvents (Genuine k)) := by
  have hnone : ∀ data rsps, DispatchResult.AllEvents (Genuine k) ⟨[], data, rsps⟩ :=
    fun _ _ e he => absurd he List.not_mem_nil
  cases msg with
  | sendPacket channelID data timeoutBlock timeoutTimestamp =>
      refine (GoM.Ensures.ensure _ _).bind fun _ _ => (GoM.Ensures.ensure _ _).bind fun _ _ => ?_
      exact (emits_onExt (h.sendPacket _ _ _ _ _ _)).mapError.bind fun _ _ => .pure (hnone _ _)
  | writeAcknowledgement channelID sequence ack =>
      refine (GoM.Ensures.ensure _ _).bind fun _ _ => (GoM.Ensures.ensure _ _).bind fun _ _ => ?_
      refine (emits_readStore _).bind fun _ _ => (GoM.Ensures.ofOption _ _).bind fun packet _ => ?_
      refine (emits_onExt (h.writeAcknowledgement _ _ _)).mapError.bind fun _ _ => ?_
      refine (emits_silent fun _ => rfl : Emits k (recordHandover _) fun _ => True).bind
        fun _ _ => ?_
      exact (emits_writeStore _).bind fun _ _ => .pure (hnone _ _)

/-- **A message of a contract emits genuine events and returns genuine events.** -/
theorem dispatchCosmosMsg_emits (ctx : SdkContext) (a : AccAddress) (port : String) (msg : C) :
    ScriptEmits k (k.dispatchCosmosMsg m ctx a port msg)
      (DispatchResult.AllEvents (Genuine k)) := by
  unfold Keeper.dispatchCosmosMsg
  refine Script.Ensures.mapError ?_
  cases hvariant : m.variant msg with
  | sdk encode =>
      have hencode : Emits k (onExt (encode ctx a port)) fun msgs => ∀ other, .other other ∈ msgs →
          ∀ handler, other.handler = some handler → ∀ ctx,
            (handler ctx).Separate fun _ => True := by
        refine fun w hw => ⟨(emits_onExt (h.encode msg encode hvariant ctx a port) w hw).1, ?_⟩
        intro msgs hmsgs
        exact h.handler msg encode hvariant ctx a port _ msgs _ (Prod.ext hmsgs rfl)
      exact (Script.Ensures.lift hencode).bind fun msgs hmsgs =>
        dispatchSdkMsgs_emits htrim h ctx a msgs hmsgs
  | ibc raw => exact .lift (dispatchIBC_emits h ctx a port raw)
  | extension handle =>
      refine (runForeign_emits htrim h ctx _ (h.extension msg handle hvariant ctx a)).mono
        fun r hr e he hcontract => ?_
      exact absurd hcontract (hr e he)
  | unknown => exact .lift (emits_orError.mono fun _ hno => by cases hno)

theorem chain_emits : (k.chain m).Emits (Genuine k) where
  onMsg := dispatchCosmosMsg_emits htrim h
  onReply := scriptEmits_reply htrim

/-- A call from outside emits genuine events, with the whole tree below it. -/
theorem topCall_emits (call : TopCall) : ScriptEmits k (call.script k m) fun _ => True := by
  cases call with
  | message ctx msg => exact (msgServer_emits htrim h m.lib ctx msg).bind fun _ _ => trivial
  | entry call =>
      cases call with
      | instantiate ctx codeID creator admin initMsg label deposit generator policy =>
          exact (scriptEmits_instantiate htrim h _ _ _ _ _ _ _ _ _).bind fun _ _ => trivial
      | execute ctx contract caller msg coins =>
          exact (scriptEmits_execute htrim h _ _ _ _ _).bind fun _ _ => trivial
      | migrate ctx contract caller codeID msg policy =>
          exact (scriptEmits_migrate htrim _ _ _ _ _ _).bind fun _ _ => trivial
      | sudoContract ctx contract msg =>
          exact (scriptEmits_sudoContract htrim _ _ _).bind fun _ _ => trivial
      | reply ctx contract answer =>
          exact (scriptEmits_reply htrim _ _ _).bind fun _ _ => trivial
      | ibcPacketReceive ctx contract msg =>
          exact (scriptEmits_onRecvPacket htrim _ _ _).bind fun _ _ => trivial
      | ibc2PacketReceive ctx contract msg =>
          exact (scriptEmits_receiveIBC2Packet htrim _ _ _).bind fun _ _ => trivial
      | _ => exact scriptEmits_basicCallback htrim _ _ _ _

end Messages

/-! ## What the stamp achieves -/

/-- Events of contracts cannot be forged. -/
structure EventsStamped (k : Keeper ε C) (m : Messenger ε C) : Prop where
  /-- What `handleContractResponse` emits for a response is stamped, whether it accepts the response
  or not. -/
  stamped : ∀ (ctx : SdkContext) (a : AccAddress) (res : ContractResponse C)
    (w w' : World (Multistore ε) Shared) (r : Except (Failure GoError) SdkContext),
    k.emitResponse ctx a res.attributes res.events w = (r, w') →
      ∃ own, w'.events = w.events ++ own ∧ ∀ e ∈ own, Stamped (k.codec.string a) res.events e
  /-- A response with a reserved key makes the call fail. -/
  forged : ∀ (ctx : SdkContext) (a : AccAddress) (entry : EntryPoint) (port : String)
    (wrap : GoError → GoError) (res : ContractResponse C) (data : Option Bytes)
    (handler : Response SdkContext C → KeeperM ε (Option Bytes))
    (w w' : World (Multistore ε) Shared) (rsp : Option Bytes), Forges res.attributes res.events →
      (k.handleContractResponse ctx a entry port wrap res data).run handler w ≠ (.ok rsp, w')
  /-- So does it make a submessage fail whose handling gets to such a response. -/
  forgedBelow : ∀ (n : ℕ) (ctx ctx' : SdkContext) (addr a : AccAddress) (port : String)
    (msg : SubMsg C) (wrap : GoError → GoError) (res : ContractResponse C)
    (w w₁ w' : World (Multistore ε) Shared) (out : DispatchResult × List Event),
    ((k.chain m).onMsg ctx addr port msg.msg).Makes ((k.chain m).handlerAt n)
      (MessageDispatcher.subWorld msg w)
      (GoM.mapError wrap (k.emitResponse ctx' a res.attributes res.events)) w₁ →
    Forges res.attributes res.events →
      ((k.chain m).dispatcherAt n ctx).sandbox addr port msg w ≠ (.ok (.ok out), w')
  /-- No event of a submessage that fails reaches the parent. -/
  dropped : ∀ (n : ℕ) (ctx : SdkContext) (addr : AccAddress) (port : String) (msg : SubMsg C)
    (w w' : World (Multistore ε) Shared)
    (r : Except (Failure GoError) (Except GoError (DispatchResult × List Event))),
    ((k.chain m).dispatcherAt n ctx).sandbox addr port msg w = (r, w') →
    (∀ out, r ≠ .ok (.ok out)) → w'.events = w.events
  /-- Whatever the tree of calls, submessages and replies: an event in the name space of contracts
  that comes out of it was returned by the contract it is stamped with, if no other module uses the
  name space. -/
  traced : SeparateModules k m → ∀ (call : TopCall) (n : ℕ) (w w' : World (Multistore ε) Shared)
    (r : Except (Failure GoError) Unit), AllEvents (Genuine k) w →
    (call.script k m).run ((k.chain m).handlerAt n) w = (r, w') → AllEvents (Genuine k) w'

/-- **Contract events cannot be forged.** -/
theorem contract_events_stamped (k : Keeper ε C) (m : Messenger ε C)
    (htrim : k.trimSpace = trimSpace) : EventsStamped k m := by
  have hrefused : ∀ (ctx : SdkContext) (a : AccAddress) (res : ContractResponse C)
      (w w' : World (Multistore ε) Shared) (ctx' : SdkContext), Forges res.attributes res.events →
      k.emitResponse ctx a res.attributes res.events w ≠ (.ok ctx', w') := by
    intro ctx a res w w' ctx' hforges hrun
    have hensures : GoM.Ensures (fun _ => True) (k.emitResponse ctx a res.attributes res.events)
        fun _ => ¬ Forges res.attributes res.events :=
      emitResponse_ensures (J := fun _ => True) htrim (fun _ _ _ _ => trivial) ctx
    exact (hensures.run trivial hrun).2 ctx' rfl hforges
  refine ⟨?_, ?_, ?_, ?_, ?_⟩
  · intro ctx a res w w' r hrun
    let J : List Event → Prop := fun l =>
      ∃ own, l = w.events ++ own ∧ ∀ e ∈ own, Stamped (k.codec.string a) res.events e
    have hJ : ∀ l new, J l → (∀ e ∈ new, Stamped (k.codec.string a) res.events e) →
        J (l ++ new) := by
      rintro _ new ⟨own, rfl, hown⟩ hnew
      refine ⟨own ++ new, List.append_assoc _ _ _, fun e he => ?_⟩
      rcases List.mem_append.mp he with hold | hmem
      · exact hown e hold
      · exact hnew e hmem
    have hstart : J w.events := ⟨[], (List.append_nil _).symm, nofun⟩
    exact ((emitResponse_ensures htrim hJ ctx).run hstart hrun).1
  · intro ctx a entry port wrap res data handler w w' rsp hforges hrun
    obtain ⟨ctx', w₁, hemit, -⟩ := GoM.bind_ok_iff.mp hrun
    exact hrefused ctx a res w w₁ ctx' hforges (GoM.mapError_ok_iff.mp hemit)
  · intro n ctx ctx' addr a port msg wrap res w w₁ w' out hmakes hforges
    refine Chain.sandbox_not_ok hmakes (fun b w₂ hemit => ?_) out
    exact hrefused ctx' a res w₁ w₂ b hforges (GoM.mapError_ok_iff.mp hemit)
  · intro n ctx addr port msg w w' r hbox hno
    exact (MessageDispatcher.sandbox_dropped hbox hno).1
  · intro h call n w w' r hw hrun
    have hhandler := (chain_emits htrim h).handlerAt fun e he => he.sortAttributes
    exact (((topCall_emits htrim h call).run (hhandler n)).run hw hrun).1

/-! ### A contract that pads its keys -/

/-- A chain whose contracts answer every call with a message to themselves, a padded attribute and a
padded event. -/
def stampKeeper : Keeper Unit Unit :=
  { plainKeeper Unit with
    trimSpace := trimSpace
    wasmVM := { plainVM Unit with
      call := fun _ _ _ _ => .ret (some (.ok
        ⟨[⟨0, [], (), none, .always⟩], [⟨" amount\n", " 5"⟩], [⟨"\tpaid ", []⟩], none⟩)) } }

theorem stampKeeper_separate : SeparateModules stampKeeper loopMessenger where
  transferCoins _ _ _ _ _ he := .inl he
  getAccount _ _ _ he := .inl he
  setNewAccount _ _ _ he := .inl he
  cleanupExistingAccount _ _ _ he := .inl he
  sendPacket _ _ _ _ _ _ _ _ he := .inl he
  writeAcknowledgement _ _ _ _ _ he := .inl he
  encode _ _ hvariant := by
    cases hvariant
    exact fun _ _ _ _ _ he => .inl he
  handler _ _ hvariant _ _ _ _ _ _ hrun other hmem := by
    cases hvariant
    cases hrun
    cases List.mem_singleton.mp hmem
  extension _ _ hvariant := by cases hvariant

/-- The padding is gone from what is emitted for the response; with a reserved key behind the
padding it would be refused. -/
theorem contract_events_stamped_padded :
    stampKeeper.trimSpace = trimSpace ∧ SeparateModules stampKeeper loopMessenger ∧
      EventsStamped stampKeeper loopMessenger ∧
      (stampKeeper.emitResponse ibcCtx ibcContract [⟨" amount\n", " 5"⟩] [⟨"\tpaid ", []⟩]
          (plainWorld .empty (.infinite 0))).2.events =
        [⟨"wasm", [⟨"_contract_address", markedText ibcContract⟩, ⟨"amount", "5"⟩]⟩,
          ⟨"wasm-paid", [⟨"_contract_address", markedText ibcContract⟩]⟩] ∧
      Forges [⟨" _contract_address", ""⟩] [] :=
  ⟨rfl, stampKeeper_separate, contract_events_stamped stampKeeper loopMessenger rfl,
    by decide +kernel, _, .inl (List.mem_singleton_self _), by decide +kernel⟩

end Wasmd
