import DlmsHdlc.Session.Alike
import DlmsHdlc.Session.Connect

/-! Sessions that were connected before and are disconnected again, compared with fresh ones. -/
namespace DlmsHdlc.HdlcSession
open Machine

/-- The limits a session starts with. -/
def Unchanged (session : HdlcSession) (options : HdlcSessionOptions) : Prop :=
  session.options=(new options).options ∧
    session.negotiatedLimits=(new options).negotiatedLimits

/-- A call that asks for a connection. -/
def AsksToConnect (operation : HdlcSessionOperation) : Prop :=
  operation=.buildConnectRequest ∨ ∃ information size,
    operation=.buildConnectRequestWith information size

/-- A fresh session can be connected without a negotiation. -/
def Connectable (options : HdlcSessionOptions) : Prop :=
  match options.role with
  | .server => ((new options).outgoing uaControl []).Fits options.limits
  | .client => ∃ operation, AsksToConnect operation ∧
    ((new options).perform operation).1.1=.ok

/-- What every run keeps, about the limits and the way they can have been changed. -/
structure Recoverable (options : HdlcSessionOptions) (session : HdlcSession) : Prop where
  configured : session.Configured options
  sequences : session.state=.disconnected → session.sendSequence=0 ∧ session.receiveSequence=0 ∧
    session.acknowledgeSequence=0
  window : session.windowSizeTransmit=session.negotiatedLimits.windowSizeTransmit
  negotiating : session.pendingNegotiation.active=true → session.connectResponsePending=true
  answering : session.connectResponsePending=true → options.role=.server
  requesting : session.state=.awaitingConnection → options.role=.client
  history : Connectable options ∨ session.connectResponsePending=true ∨
    session.Unchanged options ∧ (options.role=.client → session.state=.disconnected)

variable {options : HdlcSessionOptions} {session : HdlcSession}

theorem recoverable_new (options : HdlcSessionOptions) : Recoverable options (new options) where
  configured := rfl
  sequences _ := ⟨rfl,rfl,rfl⟩
  window := rfl
  negotiating := nofun
  answering := nofun
  requesting := nofun
  history := .inr (.inr ⟨⟨rfl,rfl⟩,fun _ => rfl⟩)

/-- Frames are built from the options alone. -/
theorem buildFrameWith_congr {session other : HdlcSession} (h : session.options=other.options) :
    session.buildFrameWith=other.buildFrameWith := by
  funext control infoField
  simp only [buildFrameWith,buildFrame,remoteAddress,localAddress,h]

/-- A connect request reads the options and the state only. -/
theorem asksToConnect_congr {session other : HdlcSession} (hoptions : session.options=other.options)
    (hstate : session.state=other.state) {operation : HdlcSessionOperation}
    (hasks : AsksToConnect operation) :
    (session.perform operation).1=(other.perform operation).1 := by
  have hinternal : ∀ includeNegotiation information size,
      (session.buildConnectRequestInternal includeNegotiation information size).1=
        (other.buildConnectRequestInternal includeNegotiation information size).1 := by
    intro includeNegotiation information size
    have hinfo : session.connectInfoField includeNegotiation information size=
        other.connectInfoField includeNegotiation information size := by
      simp only [connectInfoField,hoptions]
    simp only [buildConnectRequestInternal,hoptions,hstate,hinfo,buildFrameWith_congr hoptions]
    split
    · rfl
    split
    · rfl
    cases other.buildFrameWith kSnrmControl
      (other.connectInfoField includeNegotiation information size) <;> rfl
  obtain rfl | ⟨information,size,rfl⟩ := hasks
  · simp only [perform,builtOutput,buildConnectRequest,hinternal,hoptions]
  · simp only [perform,builtOutput,buildConnectRequestWith,hinternal]

/-- A server that has sent a UA can send one without a negotiation. -/
theorem connectable_of_response (h : session.Configured options) (role : options.role=.server)
    {infoField output : List UInt8} (hsize : infoField.length < 2^63)
    (hbuilt : session.buildFrameWith kUaControl infoField=.ok output) : Connectable options := by
  obtain ⟨hfits,_⟩ := (session.buildFrameWith_eq_ok_iff uaControl hsize output).mp hbuilt
  have hnew : (new options).Configured options := rfl
  unfold Connectable
  rw [role]
  exact hnew.fits_empty h hfits uaControl

theorem connectResponseInfoField_length (session : HdlcSession) :
    session.connectResponseInfoField.length ≤ 23 := by
  unfold connectResponseInfoField
  split
  · rw [encodeSnrmNegotiationBlock_length]
  · exact Nat.zero_le _

/-- While a call leaves limits and roles alone, and opens nothing, the history is kept. -/
theorem Recoverable.history_of_same (h : Recoverable options session) {next : HdlcSession}
    (hoptions : next.options=session.options)
    (hnegotiated : next.negotiatedLimits=session.negotiatedLimits)
    (hpending : session.connectResponsePending=true → next.connectResponsePending=true)
    (hstate : options.role=.client → session.state=.disconnected → next.state=.disconnected) :
    Connectable options ∨ next.connectResponsePending=true ∨
      next.Unchanged options ∧ (options.role=.client → next.state=.disconnected) := by
  obtain hconnectable | hwaiting | ⟨hunchanged,hdisconnected⟩ := h.history
  · exact .inl hconnectable
  · exact .inr (.inl (hpending hwaiting))
  · refine .inr (.inr ⟨⟨?_,?_⟩,fun hrole => hstate hrole (hdisconnected hrole)⟩)
    · exact hoptions.trans hunchanged.1
    · exact hnegotiated.trans hunchanged.2

theorem Recoverable.step (h : Recoverable options session) (operation : HdlcSessionOperation) :
    Recoverable options (session.perform operation).2 := by
  have hconfigured := h.configured.step operation
  have heffect := session.perform_effect operation
  have hrole := h.configured.role
  have hfresh : (session.perform operation).1.1=.ok → AsksToConnect operation →
      session.state=.disconnected → session.Unchanged options →
      ((new options).perform operation).1.1=.ok := by
    intro hok hasks hstate hunchanged
    rw [← asksToConnect_congr hunchanged.1 (by exact hstate) hasks]
    exact hok
  generalize session.perform operation=result at heffect hconfigured hfresh ⊢
  obtain ⟨output,next⟩ := result
  cases heffect with
  | refused => exact h
  | connectRequested request role state built =>
    have hclient : options.role=.client := hrole.symm.trans role
    refine ⟨hconfigured,by rintro ⟨⟩,h.window,h.negotiating,h.answering,fun _ => hclient,?_⟩
    left
    obtain hconnectable | hpending | ⟨hunchanged,_⟩ := h.history
    · exact hconnectable
    · have hserver := h.answering hpending
      rw [hclient] at hserver
      cases hserver
    · unfold Connectable
      rw [hclient]
      exact ⟨operation,request,hfresh rfl request state hunchanged⟩
  | connectResponseFailed failed role pending built =>
    change session.applyNegotiation.Configured options at hconfigured
    change Recoverable options session.applyNegotiation
    obtain hsame | ⟨limits,hsame⟩ := session.applyNegotiation_cases
    · rw [hsame]
      exact h
    · rw [hsame] at hconfigured ⊢
      exact ⟨hconfigured,h.sequences,rfl,h.negotiating,h.answering,h.requesting,
        .inr (.inl pending)⟩
  | connectResponded role pending built =>
    have hserver : options.role=.server := hrole.symm.trans role
    have hwindow : session.applyNegotiation.windowSizeTransmit=
        session.applyNegotiation.negotiatedLimits.windowSizeTransmit := by
      obtain hsame | ⟨limits,hsame⟩ := session.applyNegotiation_cases <;> rw [hsame]
      · exact h.window
      · rfl
    have happlied : session.applyNegotiation.Configured options := hconfigured
    have hlength := session.connectResponseInfoField_length
    have hconnectable := connectable_of_response happlied hserver (by omega) built
    exact ⟨hconfigured,by rintro ⟨⟩,hwindow,nofun,nofun,by rintro ⟨⟩,.inl hconnectable⟩
  | disconnectRequested request state built =>
    refine ⟨hconfigured,by rintro ⟨⟩,h.window,h.negotiating,h.answering,by rintro ⟨⟩,
      h.history_of_same rfl rfl id ?_⟩
    intro _ hdisconnected
    cases state.symm.trans hdisconnected
  | disconnectResponded pending built =>
    exact ⟨hconfigured,fun _ => ⟨rfl,rfl,rfl⟩,h.window,h.negotiating,h.answering,by rintro ⟨⟩,
      h.history_of_same rfl rfl id (fun _ _ => rfl)⟩
  | dmResponded pending built =>
    exact ⟨hconfigured,h.sequences,h.window,h.negotiating,h.answering,h.requesting,
      h.history_of_same rfl rfl id (fun _ => id)⟩
  | informationSent state canSend built =>
    exact ⟨hconfigured,fun hstate => absurd (state.symm.trans hstate) (by decide),h.window,
      h.negotiating,h.answering,h.requesting,h.history_of_same rfl rfl id (fun _ => id)⟩
  | receiveReadySent => exact h
  | informationReceived kind state =>
    exact ⟨hconfigured,fun hstate => absurd (state.symm.trans hstate) (by decide),h.window,
      h.negotiating,h.answering,h.requesting,h.history_of_same rfl rfl id (fun _ => id)⟩
  | supervisoryReceived kind state =>
    exact ⟨hconfigured,fun hstate => absurd (state.symm.trans hstate) (by decide),h.window,
      h.negotiating,h.answering,h.requesting,h.history_of_same rfl rfl id (fun _ => id)⟩
  | snrmRejected failed addresses kind role state parsed =>
    exact ⟨hconfigured,h.sequences,h.window,nofun,h.answering,h.requesting,
      h.history_of_same rfl rfl id (fun _ => id)⟩
  | snrmAccepted addresses kind role state parsed =>
    exact ⟨hconfigured,fun _ => ⟨rfl,rfl,rfl⟩,h.window,fun _ => rfl,
      fun _ => hrole.symm.trans role,h.requesting,.inr (.inl rfl)⟩
  | @uaConnected frame addresses kind state =>
    have hclient := h.requesting state
    have hconnectable : Connectable options := by
      obtain hconnectable | hpending | ⟨_,hdisconnected⟩ := h.history
      · exact hconnectable
      · cases hclient.symm.trans (h.answering hpending)
      · cases state.symm.trans (hdisconnected hclient)
    obtain hsame | ⟨_,_,_,_,hsame⟩ := session.applyUa_cases frame.information
    · rw [hsame] at hconfigured ⊢
      exact ⟨hconfigured,by rintro ⟨⟩,h.window,h.negotiating,h.answering,by rintro ⟨⟩,
        .inl hconnectable⟩
    · rw [hsame] at hconfigured ⊢
      exact ⟨hconfigured,by rintro ⟨⟩,rfl,h.negotiating,h.answering,by rintro ⟨⟩,
        .inl hconnectable⟩
  | uaDisconnected addresses kind state =>
    exact ⟨hconfigured,fun _ => ⟨rfl,rfl,rfl⟩,h.window,h.negotiating,h.answering,by rintro ⟨⟩,
      h.history_of_same rfl rfl id (fun _ _ => rfl)⟩
  | discReceived addresses kind state =>
    exact ⟨hconfigured,h.sequences,h.window,h.negotiating,h.answering,h.requesting,
      h.history_of_same rfl rfl id (fun _ => id)⟩
  | dmReceived addresses kind =>
    exact ⟨hconfigured,fun _ => ⟨rfl,rfl,rfl⟩,h.window,h.negotiating,h.answering,by rintro ⟨⟩,
      h.history_of_same rfl rfl id (fun _ _ => rfl)⟩

theorem recoverable_of_reachable (h : Reachable options session) :
    Recoverable options session := by
  obtain ⟨operations,rfl⟩ := h
  apply machine.final_invariant (Recoverable options)
  · intro session operation h
    exact h.step operation
  · exact recoverable_new options

/-- Disconnected with nothing to answer. -/
structure Idle (session : HdlcSession) : Prop where
  state : session.state=.disconnected
  connect : session.connectResponsePending=false
  disconnect : session.disconnectResponsePending=false
  dm : session.dmResponsePending=false

/-- The agreed values and the information limit are those of the options again. -/
def Restored (options : HdlcSessionOptions) (session : HdlcSession) : Prop :=
  session.negotiatedLimits=options.negotiationLimits.normalised ∧
    session.informationLimit=(new options).informationLimit

theorem Recoverable.inactive (h : Recoverable options session) (idle : session.Idle) :
    session.pendingNegotiation.active=false := by
  rw [Bool.eq_false_iff]
  intro hactive
  cases idle.connect.symm.trans (h.negotiating hactive)

/-- A restored session differs from a fresh one in what is hidden only. -/
theorem Recoverable.alike_new (h : Recoverable options session) (idle : session.Idle)
    (restored : Restored options session) : (new options).Alike session := by
  have hinactive := h.inactive idle
  obtain ⟨hlimits,hinformation⟩ := restored
  obtain ⟨hsend,hreceive,hacknowledge⟩ := h.sequences idle.state
  have hhidden : session=(new options).hide session.options.limits.maximumInformationFieldSize
      session.pendingNegotiation session.receivedUserInformation := by
    have hwindow := h.window
    rw [hlimits] at hwindow
    exact HdlcSession.ext h.configured idle.state hsend hreceive hacknowledge idle.connect
      idle.disconnect idle.dm rfl hlimits hwindow rfl
  rw [hhidden]
  apply Alike.hide
  · exact hinactive
  · rintro ⟨⟩
  · rw [← hhidden]
    exact hinformation

/-- Such a run shows what the fresh session shows. -/
theorem Restored.indistinguishable (h : Recoverable options session) (idle : session.Idle)
    (restored : Restored options session) :
    machine.Indistinguishable observe session (new options) := by
  intro operations
  exact ((h.alike_new idle restored).indistinguishable operations).symm

/-- A connect request changes neither options nor agreed values. -/
theorem asksToConnect_keeps (session : HdlcSession) {operation : HdlcSessionOperation}
    (hasks : AsksToConnect operation) :
    (session.perform operation).2.options=session.options ∧
      (session.perform operation).2.negotiatedLimits=session.negotiatedLimits ∧
      ((session.perform operation).1.1=.ok →
        (session.perform operation).2.state=.awaitingConnection) := by
  have hinternal : ∀ includeNegotiation information size,
      let result := builtOutput
        (session.buildConnectRequestInternal includeNegotiation information size)
      result.2.options=session.options ∧ result.2.negotiatedLimits=session.negotiatedLimits ∧
        (result.1.1=.ok → result.2.state=.awaitingConnection) := by
    intro includeNegotiation information size
    unfold buildConnectRequestInternal
    split
    · exact ⟨rfl,rfl,nofun⟩
    split
    · exact ⟨rfl,rfl,nofun⟩
    dsimp only
    split
    · rename_i hbuilt
      exact ⟨rfl,rfl,fun hok => absurd hok (session.buildFrame_error hbuilt)⟩
    · exact ⟨rfl,rfl,fun _ => rfl⟩
  obtain rfl | ⟨information,size,rfl⟩ := hasks
  · exact hinternal _ _ _
  · exact hinternal _ _ _

/-- A UA without a negotiation completes a connection and changes nothing else. -/
theorem receiveUa_nil (session : HdlcSession) :
    (session.receiveUa []).2.options=session.options ∧
      (session.receiveUa []).2.negotiatedLimits=session.negotiatedLimits ∧
      (session.state=.awaitingConnection → (session.receiveUa []).2.state=.connected) := by
  unfold receiveUa
  split
  · exact ⟨rfl,rfl,fun _ => rfl⟩
  · rename_i hstate
    exact ⟨rfl,rfl,fun hawaiting => by cases hstate.symm.trans hawaiting⟩
  · rename_i hawaiting _
    exact ⟨rfl,rfl,fun hstate => absurd hstate hawaiting⟩

/-- A response without a negotiation completes a connection and changes nothing else. -/
theorem buildConnectResponse_keeps (session : HdlcSession)
    (inactive : session.pendingNegotiation.active=false) :
    let result := builtOutput session.buildConnectResponse
    result.2.options=session.options ∧ result.2.negotiatedLimits=session.negotiatedLimits ∧
      (result.1.1=.ok → result.2.state=.connected) := by
  unfold buildConnectResponse
  rw [session.applyNegotiation_inactive inactive]
  split
  · exact ⟨rfl,rfl,nofun⟩
  split
  · exact ⟨rfl,rfl,nofun⟩
  dsimp only
  split
  · rename_i hbuilt
    exact ⟨rfl,rfl,fun hok => absurd hok (session.buildFrame_error hbuilt)⟩
  · exact ⟨rfl,rfl,fun _ => rfl⟩

/-- A frame from the other side. -/
def incoming (options : HdlcSessionOptions) (control : HdlcControl) (information : List UInt8) :
    HdlcFrameBuffer :=
  ⟨false,(new options).localAddress,(new options).remoteAddress,control,information⟩

theorem incoming_addresses (h : session.Configured options) (control : HdlcControl)
    (information : List UInt8) :
    session.incomingAddressesMatch (incoming options control information)=true := by
  obtain ⟨hlocal,hremote⟩ := h.addresses
  simp only [incomingAddressesMatch,incoming,hlocal,hremote,sameAddress_self,Bool.and_self]

/-- An SNRM without parameters leaves no negotiation pending. -/
theorem receive_snrm_nil (h : session.Configured options) (role : options.role=.server)
    (state : session.state=.disconnected) :
    (session.perform (.receiveFrame (incoming options snrmControl []))).2=
      session.acceptSnrm defaultSnrmParams 0 [] := by
  have hreceive := session.receiveFrame_unnumbered (incoming_addresses h snrmControl [])
    snrmControl_kind
  change (session.receiveFrame (incoming options snrmControl [])).2=_
  rw [hreceive]
  dsimp only [incoming]
  rw [session.receiveSnrm_accepted (h.role.trans role) state rfl]

theorem receive_ua_nil (h : session.Configured options) :
    (session.perform (.receiveFrame (incoming options uaControl []))).2=
      (session.receiveUa []).2 := by
  have hreceive := session.receiveFrame_unnumbered (incoming_addresses h uaControl [])
    uaControl_kind
  change (session.receiveFrame (incoming options uaControl [])).2=_
  rw [hreceive]
  rfl

/-- The run opens a fresh session, and negotiates nothing in any session at rest. -/
structure Reopens (options : HdlcSessionOptions) (operations : List HdlcSessionOperation) :
    Prop where
  connected : (machine.final (new options) operations).state=.connected
  keeps : ∀ session : HdlcSession, session.Configured options → session.state=.disconnected →
    (machine.final session operations).options=session.options ∧
      (machine.final session operations).negotiatedLimits=session.negotiatedLimits

theorem server_reopens (role : options.role=.server)
    (fits : ((new options).outgoing uaControl []).Fits options.limits) :
    Reopens options [.receiveFrame (incoming options snrmControl []),.buildConnectResponse] where
  connected := by
    have hbuilt : ((new options).acceptSnrm defaultSnrmParams 0 []).buildFrameWith kUaControl []=
        .ok ((new options).outgoing uaControl []).wire :=
      (buildFrameWith_eq_ok_iff _ uaControl (by decide) _).mpr ⟨fits,rfl⟩
    rw [Mealy.final_cons,Mealy.final_cons,Mealy.final_nil,machine_step,machine_step,
      receive_snrm_nil rfl role rfl]
    apply (buildConnectResponse_keeps _ (by rfl)).2.2
    change statusOf (buildConnectResponse _).1=_
    rw [buildConnectResponse_eq _ (by exact role) rfl,applyNegotiation_inactive _ (by rfl)]
    exact congrArg statusOf hbuilt
  keeps session hconfigured hstate := by
    rw [Mealy.final_cons,Mealy.final_cons,Mealy.final_nil,machine_step,machine_step,
      receive_snrm_nil hconfigured role hstate]
    obtain ⟨hoptions,hnegotiated,_⟩ :=
      (session.acceptSnrm defaultSnrmParams 0 []).buildConnectResponse_keeps rfl
    exact ⟨hoptions,hnegotiated⟩

theorem client_reopens {operation : HdlcSessionOperation} (hasks : AsksToConnect operation)
    (hok : ((new options).perform operation).1.1=.ok) :
    Reopens options [operation,.receiveFrame (incoming options uaControl [])] where
  connected := by
    have hconfigured : ((new options).perform operation).2.Configured options :=
      Configured.step rfl operation
    have hawaiting := ((new options).asksToConnect_keeps hasks).2.2 hok
    rw [Mealy.final_cons,Mealy.final_cons,Mealy.final_nil,machine_step,machine_step,
      receive_ua_nil hconfigured]
    exact (receiveUa_nil _).2.2 hawaiting
  keeps session hconfigured _ := by
    rw [Mealy.final_cons,Mealy.final_cons,Mealy.final_nil,machine_step,machine_step,
      receive_ua_nil (hconfigured.step operation)]
    obtain ⟨hoptions,hnegotiated,_⟩ := receiveUa_nil (session.perform operation).2
    obtain ⟨hoptions',hnegotiated',_⟩ := session.asksToConnect_keeps hasks
    exact ⟨hoptions.trans hoptions',hnegotiated.trans hnegotiated'⟩

theorem Connectable.reopens (h : Connectable options) : ∃ operations, Reopens options operations := by
  unfold Connectable at h
  split at h
  · rename_i hrole
    exact ⟨_,server_reopens hrole h⟩
  · obtain ⟨operation,hasks,hok⟩ := h
    exact ⟨_,client_reopens hasks hok⟩

/-- A receive-ready frame, built or not, changes nothing. -/
theorem buildReceiveReadyFrame_keeps (session : HdlcSession) (pollFinal : Bool) :
    (session.perform (.buildReceiveReadyFrame pollFinal)).2=session := by
  change (session.buildReceiveReadyFrame pollFinal).2=_
  unfold buildReceiveReadyFrame
  split <;> rfl

/-- What is shown of a connected session is shown at once. -/
theorem indistinguishable_connected {session other : HdlcSession}
    (h : machine.Indistinguishable observe session other) (hstate : other.state=.connected) :
    session.state=.connected ∧ session.negotiatedLimits=other.negotiatedLimits := by
  have hview := (h.step (.buildReceiveReadyFrame false)).1
  simp only [machine_step,buildReceiveReadyFrame_keeps,observe,hstate,Observation.mk.injEq] at hview
  obtain ⟨_,hsame,_,_,_,hlimits⟩ := hview
  rw [if_pos hsame] at hlimits
  simp only [↓reduceIte,Option.some.injEq,Prod.mk.injEq] at hlimits
  exact ⟨hsame,hlimits.1⟩

/-- User information of a DISC is refused as too large exactly above the information limit. -/
theorem disconnectRequest_tooLarge_iff (hstate : session.state=.connected) {size : UInt64}
    (hsize : 0 < size) :
    (session.perform (.buildDisconnectRequestWith (some (.replicate size.toNat 0)) size)).1.1=
      .informationFieldTooLarge ↔ session.informationLimit < size := by
  let frame : HdlcFrame := ⟨false,session.remoteAddress,session.localAddress,discControl,
    some (.replicate size.toNat 0),size⟩
  have hframe : session.buildFrame kDiscControl (some (.replicate size.toNat 0)) size=
      encodeFrame frame session.options.limits := rfl
  have hlarge := encodeFrame_informationFieldTooLarge_iff frame nofun session.options.limits
  change statusOf (session.buildDisconnectRequestWith _ _).1=_ ↔ _
  unfold buildDisconnectRequestWith
  rw [if_neg (not_not_intro hstate)]
  simp only [ne_eq,reduceCtorEq,not_false_eq_true,hsize,and_self,↓reduceIte,hframe]
  refine Iff.trans ?_ hlarge
  split
  · rename_i hencoded
    rw [hencoded,Except.error.injEq]
    rfl
  · rename_i hencoded
    rw [hencoded]
    exact ⟨nofun,nofun⟩

/-- Connected sessions that look alike from now on have the same information limit. -/
theorem indistinguishable_informationLimit {session other : HdlcSession}
    (h : machine.Indistinguishable observe session other) (hsession : session.state=.connected)
    (hother : other.state=.connected) : session.informationLimit=other.informationLimit := by
  have hiff : ∀ size, 0 < size → (session.informationLimit < size ↔ other.informationLimit < size) := by
    intro size hsize
    have hview := (h.step (.buildDisconnectRequestWith (some (.replicate size.toNat 0)) size)).1
    simp only [machine_step,observe,Observation.mk.injEq] at hview
    have hstatus := congrArg Prod.fst hview.1
    rw [← disconnectRequest_tooLarge_iff hsession hsize,← disconnectRequest_tooLarge_iff hother hsize,
      hstatus]
  have hpositive : ∀ {limit size : UInt64}, limit < size → 0 < size := by
    intro limit size hlt
    exact UInt64.lt_of_le_of_lt (UInt64.zero_le) hlt
  apply UInt64.le_antisymm
  · rw [← UInt64.not_lt]
    intro hlt
    exact UInt64.lt_irrefl _ ((hiff _ (hpositive hlt)).mpr hlt)
  · rw [← UInt64.not_lt]
    intro hlt
    exact UInt64.lt_irrefl _ ((hiff _ (hpositive hlt)).mp hlt)

/-- Sessions at rest that look like fresh ones have the values of fresh ones. -/
theorem Recoverable.restored (h : Recoverable options session) (idle : session.Idle)
    (same : machine.Indistinguishable observe session (new options)) : Restored options session := by
  have hhistory := h.history
  rw [idle.connect] at hhistory
  obtain hconnectable | hpending | ⟨⟨hoptions,hnegotiated⟩,_⟩ := hhistory
  · obtain ⟨operations,hreopens⟩ := hconnectable.reopens
    have hsame := same.final operations
    obtain ⟨hconnected,hlimits⟩ := indistinguishable_connected hsame hreopens.connected
    obtain ⟨hkept,hkeptLimits⟩ := hreopens.keeps session h.configured idle.state
    obtain ⟨hfresh,hfreshLimits⟩ := hreopens.keeps (new options) rfl rfl
    have hinformation := indistinguishable_informationLimit hsame hconnected hreopens.connected
    rw [informationLimit_congr hkept,informationLimit_congr hfresh] at hinformation
    rw [hkeptLimits,hfreshLimits] at hlimits
    exact ⟨hlimits,hinformation⟩
  · cases hpending
  · exact ⟨hnegotiated,informationLimit_congr hoptions⟩

/-- A session that comes to rest behaves like a fresh one for ever after exactly when the agreed
values and the information limit are back to those of its options. -/
theorem indistinguishable_new_iff (options : HdlcSessionOptions)
    (operations : List HdlcSessionOperation)
    (idle : (machine.final (new options) operations).Idle) :
    (∀ further, machine.observed observe (machine.final (new options) operations) further=
        machine.observed observe (new options) further) ↔
      Restored options (machine.final (new options) operations) := by
  have hrecoverable : Recoverable options (machine.final (new options) operations) :=
    recoverable_of_reachable ⟨operations,rfl⟩
  constructor
  · intro same
    exact hrecoverable.restored idle same
  · intro restored
    exact restored.indistinguishable hrecoverable idle

/-- A connection that agrees on sixty bytes, closed by a DISC. -/
def negotiatedConnection : List HdlcSessionOperation :=
  [.receiveFrame (sampleIncoming .server snrmControl
      [0x81,0x80,0x04,0x06,0x02,0x00,0x3c]),
    .buildConnectResponse,
    .receiveFrame (sampleIncoming .server discControl []),
    .buildDisconnectResponse]

/-- The statement for a connection that negotiates, of which neither side is true. -/
theorem indistinguishable_new_iff_negotiated :
    (∀ further, machine.observed observe
        (machine.final (new (sampleOptions .server)) negotiatedConnection) further=
          machine.observed observe (new (sampleOptions .server)) further) ↔
      Restored (sampleOptions .server)
        (machine.final (new (sampleOptions .server)) negotiatedConnection) :=
  indistinguishable_new_iff _ _ ⟨rfl,rfl,rfl,rfl⟩

/-- The next connection negotiates nothing and still shows the sixty bytes of the last one. -/
theorem negotiatedConnection_remembered :
    (machine.final (new (sampleOptions .server)) negotiatedConnection).Idle ∧
    machine.observed observe (machine.final (new (sampleOptions .server)) negotiatedConnection)
        [.receiveFrame (sampleIncoming .server snrmControl []),.buildConnectResponse]≠
      machine.observed observe (new (sampleOptions .server))
        [.receiveFrame (sampleIncoming .server snrmControl []),.buildConnectResponse] := by
  refine ⟨⟨rfl,rfl,rfl,rfl⟩,?_⟩
  decide +kernel

end DlmsHdlc.HdlcSession
