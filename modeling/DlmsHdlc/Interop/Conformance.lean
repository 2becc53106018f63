import DlmsHdlc.Interop.Peer

/-! The Go session is the C++ session without windows and negotiation, and the runs that tell the two
apart. -/
namespace DlmsHdlc
open Machine

/-- The calls that the sessions of both libraries have. -/
inductive SessionCall
  | buildConnectRequest
  | buildConnectResponse
  | buildDisconnectRequest
  | buildDisconnectResponse
  | buildInformationFrame (information : List UInt8) (pollFinal : Bool)
  | buildReceiveReadyFrame (pollFinal : Bool)
  | receiveFrame (frame : HdlcFrameBuffer)

namespace SessionCall

/-- The call of the C++ library, a buffer with its size. -/
def operation : SessionCall → HdlcSessionOperation
  | .buildConnectRequest => .buildConnectRequest
  | .buildConnectResponse => .buildConnectResponse
  | .buildDisconnectRequest => .buildDisconnectRequest
  | .buildDisconnectResponse => .buildDisconnectResponse
  | .buildInformationFrame information pollFinal =>
    .buildInformationFrame (some information) (.ofNat information.length) pollFinal
  | .buildReceiveReadyFrame pollFinal => .buildReceiveReadyFrame pollFinal
  | .receiveFrame frame => .receiveFrame frame

/-- An SNRM and a UA carry no parameters, and a buffer is not longer than memory can be. -/
def Plain : SessionCall → Prop
  | .buildInformationFrame information _ => information.length < 2^63
  | .receiveFrame frame =>
    frame.control.unnumberedKind=.ok .snrm ∨ frame.control.unnumberedKind=.ok .ua →
      ∃ params, parseSnrmInfoField frame.information=.ok (params,0)
  | _ => True

end SessionCall

namespace HdlcSession

/-- The successive common calls, as their callers see them. -/
def callMachine : Mealy HdlcSession SessionCall (HdlcStatus × List UInt8) :=
  ⟨fun session call => session.perform call.operation⟩

/-- The C++ session refuses to send beyond its window, and accepts an `N(R)` that leaves some of what
it sent unacknowledged. -/
def Apart (session : HdlcSession) : SessionCall → Prop
  | .buildInformationFrame _ _ => session.state=.connected ∧ session.canSendInformationFrame=false
  | .receiveFrame frame => session.incomingAddressesMatch frame=true ∧ session.state=.connected ∧
    (frame.control.frameKind=.information ∧ frame.control.sendSequence=session.receiveSequence ∨
      frame.control.frameKind=.supervisory) ∧
    session.acceptsReceiveSequence frame.control.receiveSequence=true ∧
    frame.control.receiveSequence≠session.sendSequence
  | _ => False

instance (session : HdlcSession) : (call : SessionCall) → Decidable (session.Apart call)
  | .buildInformationFrame _ _ =>
    inferInstanceAs (Decidable (session.state=.connected ∧ session.canSendInformationFrame=false))
  | .receiveFrame frame => inferInstanceAs (Decidable (session.incomingAddressesMatch frame=true ∧
    session.state=.connected ∧ (frame.control.frameKind=.information ∧
      frame.control.sendSequence=session.receiveSequence ∨ frame.control.frameKind=.supervisory) ∧
    session.acceptsReceiveSequence frame.control.receiveSequence=true ∧
    frame.control.receiveSequence≠session.sendSequence))
  | .buildConnectRequest => .isFalse id
  | .buildConnectResponse => .isFalse id
  | .buildDisconnectRequest => .isFalse id
  | .buildDisconnectResponse => .isFalse id
  | .buildReceiveReadyFrame _ => .isFalse id

/-- Nothing has been negotiated, and nothing will be proposed. -/
structure Unproposed (session : HdlcSession) : Prop where
  proposal : session.pendingNegotiation.active=false
  limits : session.options.role=.client →
    isDefaultNegotiationLimits session.options.negotiationLimits=true

theorem Unproposed.applyNegotiation {session : HdlcSession} (h : session.Unproposed) :
    session.applyNegotiation=session := by
  rw [HdlcSession.applyNegotiation,h.proposal]
  rfl

theorem applyUa_plain {session : HdlcSession} {information : List UInt8} {params : SnrmParams}
    (hparse : parseSnrmInfoField information=.ok (params,0)) :
    session.applyUa information=session := by
  rw [applyUa,hparse]
  exact ite_self session

end HdlcSession

namespace Go

def ofRole : HdlcSessionRole → SessionRole
  | .client => .client
  | .server => .server

def ofState : HdlcSessionState → SessionState
  | .disconnected => .disconnected
  | .awaitingConnection => .awaitingConnection
  | .connected => .connected
  | .awaitingDisconnect => .awaitingDisconnect

def ofUnnumberedKind : HdlcUnnumberedKind → UnnumberedKind
  | .snrm => .snrm
  | .ua => .ua
  | .disc => .disc
  | .dm => .dm
  | .frmr => .frmr
  | .ui => .ui

def ofSessionOptions (options : HdlcSessionOptions) : SessionOptions where
  role := ofRole options.role
  clientAddress := ofAddress options.clientAddress
  serverAddress := ofAddress options.serverAddress
  limits := ofLimits options.limits

/-- The error of a call that returns a status. -/
def ofStatus (status : HdlcStatus) : Option HdlcStatus := if status=.ok then none else some status

/-- What a Go session keeps of a C++ session. -/
def ofSession (session : HdlcSession) : Session where
  options := ofSessionOptions session.options
  state := ofState session.state
  sendSequence := session.sendSequence
  receiveSequence := session.receiveSequence
  connectResponsePending := session.connectResponsePending
  disconnectResponsePending := session.disconnectResponsePending

namespace Session

/-- A `Build` call returns no bytes with an error. -/
def builtOutput (result : Except HdlcStatus (List UInt8) × Session) :
    (HdlcStatus × List UInt8) × Session :=
  ((statusOf result.1,result.1.toOption.getD []),result.2)

def perform (s : Session) : SessionCall → (HdlcStatus × List UInt8) × Session
  | .buildConnectRequest => builtOutput s.buildConnectRequest
  | .buildConnectResponse => builtOutput s.buildConnectResponse
  | .buildDisconnectRequest => builtOutput s.buildDisconnectRequest
  | .buildDisconnectResponse => builtOutput s.buildDisconnectResponse
  | .buildInformationFrame information pollFinal =>
    builtOutput (s.buildInformationFrame information pollFinal)
  | .buildReceiveReadyFrame pollFinal => builtOutput (s.buildReceiveReadyFrame pollFinal,s)
  | .receiveFrame frame =>
    ((((s.receiveFrame (ofFrame frame)).1.getD .ok),[]),(s.receiveFrame (ofFrame frame)).2)

def callMachine : Mealy Session SessionCall (HdlcStatus × List UInt8) := ⟨perform⟩

end Session

theorem ofRole_injective : Function.Injective ofRole := by
  rintro (_|_) (_|_) h
  all_goals first | rfl | cases h

theorem ofState_injective : Function.Injective ofState := by
  rintro (_|_|_|_) (_|_|_|_) h
  all_goals first | rfl | cases h

/-! The roles and the states that the guards ask for. -/

@[simp] theorem ofRole_eq_client {role : HdlcSessionRole} : ofRole role=.client ↔ role=.client :=
  ofRole_injective.eq_iff' rfl

@[simp] theorem ofRole_eq_server {role : HdlcSessionRole} : ofRole role=.server ↔ role=.server :=
  ofRole_injective.eq_iff' rfl

@[simp] theorem ofState_eq_disconnected {state : HdlcSessionState} :
    ofState state=.disconnected ↔ state=.disconnected := ofState_injective.eq_iff' rfl

@[simp] theorem ofState_eq_awaitingConnection {state : HdlcSessionState} :
    ofState state=.awaitingConnection ↔ state=.awaitingConnection := ofState_injective.eq_iff' rfl

@[simp] theorem ofState_eq_connected {state : HdlcSessionState} :
    ofState state=.connected ↔ state=.connected := ofState_injective.eq_iff' rfl

@[simp] theorem ofState_eq_awaitingDisconnect {state : HdlcSessionState} :
    ofState state=.awaitingDisconnect ↔ state=.awaitingDisconnect := ofState_injective.eq_iff' rfl

theorem sameAddress_ofAddress (a b : HdlcAddress) :
    sameAddress (ofAddress a) (ofAddress b)=HdlcSession.sameAddress a b := by
  rw [Bool.eq_iff_iff,sameAddress_iff,ofAddress_injective.eq_iff]
  obtain ⟨rawValue,encodedSize⟩ := a
  obtain ⟨rawValue',encodedSize'⟩ := b
  rw [HdlcSession.sameAddress,Bool.and_eq_true,beq_iff_eq,beq_iff_eq,HdlcAddress.mk.injEq]

theorem ofControl_unnumberedKind (control : HdlcControl) :
    (ofControl control).unnumberedKind=control.unnumberedKind.map ofUnnumberedKind := by
  rw [Control.unnumberedKind,HdlcControl.unnumberedKind,ofControl_frameKind]
  cases control.frameKind with
  | information => rfl
  | supervisory => rfl
  | unnumbered =>
    dsimp only [ofFrameKind,ofControl,HdlcControl.encode]
    simp only [ne_eq,not_true_eq_false,↓reduceIte]
    repeat' split
    all_goals rfl

section Sessions
variable (session : HdlcSession)

@[simp] theorem ofSession_role : (ofSession session).options.role=ofRole session.options.role := rfl
@[simp] theorem ofSession_state : (ofSession session).state=ofState session.state := rfl
@[simp] theorem ofSession_sendSequence :
    (ofSession session).sendSequence=session.sendSequence := rfl
@[simp] theorem ofSession_receiveSequence :
    (ofSession session).receiveSequence=session.receiveSequence := rfl
@[simp] theorem ofSession_connectResponsePending :
    (ofSession session).connectResponsePending=session.connectResponsePending := rfl
@[simp] theorem ofSession_disconnectResponsePending :
    (ofSession session).disconnectResponsePending=session.disconnectResponsePending := rfl

@[simp] theorem ofSession_localAddress :
    (ofSession session).localAddress=ofAddress session.localAddress := by
  unfold Session.localAddress HdlcSession.localAddress
  cases hrole : session.options.role with
  | client => simp [ofSession,ofSessionOptions,hrole,ofRole]
  | server => simp [ofSession,ofSessionOptions,hrole,ofRole]

@[simp] theorem ofSession_remoteAddress :
    (ofSession session).remoteAddress=ofAddress session.remoteAddress := by
  unfold Session.remoteAddress HdlcSession.remoteAddress
  cases hrole : session.options.role with
  | client => simp [ofSession,ofSessionOptions,hrole,ofRole]
  | server => simp [ofSession,ofSessionOptions,hrole,ofRole]

theorem ofSession_incomingAddressesMatch (frame : HdlcFrameBuffer) :
    (ofSession session).incomingAddressesMatch (ofFrame frame)=
      session.incomingAddressesMatch frame := by
  rw [Session.incomingAddressesMatch,ofSession_localAddress,ofSession_remoteAddress,ofFrame]
  rw [sameAddress_ofAddress,sameAddress_ofAddress,HdlcSession.incomingAddressesMatch]

/-- Both build the same frame, or fail for the same reason. -/
theorem ofSession_buildFrame (control : HdlcControl) {information : Pointer} {size : UInt64}
    (valid : ValidPointer information size) :
    (ofSession session).buildFrame control.encode (information.read size.toNat)=
      session.buildFrame control.encode information size := by
  let frame : HdlcFrame :=
    ⟨false,session.remoteAddress,session.localAddress,control,information,size⟩
  have hwell : frame.WellFormed := ⟨valid.1,valid.2⟩
  have hlength : frame.toBuffer.information.length < 2^63 := by
    rw [HdlcFrame.toBuffer,hwell.size_eq]
    exact valid.1
  have hencode := encodeFrame_ofFrame frame.toBuffer hlength session.options.limits
  rw [Session.buildFrame,ofSession_localAddress,ofSession_remoteAddress,HdlcSession.buildFrame,
    HdlcControl.decode_encode]
  exact hencode.trans (encodeFrame_eq hwell session.options.limits).symm

theorem ofSession_buildUnnumberedFrame (control : HdlcControl) :
    (ofSession session).buildUnnumberedFrame control.encode=
      session.buildUnnumberedFrame control.encode := by
  have hvalid : ValidPointer none 0 := ⟨by decide,rfl⟩
  exact ofSession_buildFrame session control hvalid

variable {session}

/-- A client that has nothing to propose sends a bare SNRM. -/
theorem ofSession_buildConnectRequest (h : session.Unproposed) :
    (ofSession session).buildConnectRequest=session.buildConnectRequest.map id ofSession := by
  have hframe : (ofSession session).buildUnnumberedFrame ctrlSNRM=
      session.buildFrame kSnrmControl none 0 :=
    ofSession_buildUnnumberedFrame session HdlcSession.snrmControl
  simp only [Session.buildConnectRequest,HdlcSession.buildConnectRequest,
    HdlcSession.buildConnectRequestInternal,ofSession_role,ne_eq,ofRole_eq_client,ofSession_state,
    ofState_eq_disconnected,hframe]
  split
  · rfl
  · rename_i hclient
    rw [h.limits (not_not.mp hclient)]
    split
    · rfl
    · have hbare : session.buildFrameWith kSnrmControl (session.connectInfoField (!true) none 0)=
          session.buildFrame kSnrmControl none 0 := rfl
      rw [hbare]
      cases session.buildFrame kSnrmControl none 0 with
      | error status => rfl
      | ok output => rfl

/-- A server that has nothing to agree on sends a bare UA. -/
theorem ofSession_buildConnectResponse (h : session.Unproposed) :
    (ofSession session).buildConnectResponse=session.buildConnectResponse.map id ofSession := by
  have hframe : (ofSession session).buildUnnumberedFrame ctrlUA=
      session.buildFrame kUaControl none 0 :=
    ofSession_buildUnnumberedFrame session HdlcSession.uaControl
  have hbare : session.buildFrameWith kUaControl session.connectResponseInfoField=
      session.buildFrame kUaControl none 0 := by
    rw [HdlcSession.connectResponseInfoField,h.proposal]
    rfl
  simp only [Session.buildConnectResponse,HdlcSession.buildConnectResponse,ofSession_role,ne_eq,
    ofRole_eq_server,ofSession_connectResponsePending,hframe,h.applyNegotiation,hbare]
  split
  · rfl
  split
  · rfl
  cases session.buildFrame kUaControl none 0 with
  | error status => rfl
  | ok output => rfl

theorem ofSession_buildDisconnectRequest :
    (ofSession session).buildDisconnectRequest=session.buildDisconnectRequest.map id ofSession := by
  have hframe : (ofSession session).buildUnnumberedFrame ctrlDISC=
      session.buildFrame kDiscControl none 0 :=
    ofSession_buildUnnumberedFrame session HdlcSession.discControl
  simp only [Session.buildDisconnectRequest,HdlcSession.buildDisconnectRequest,
    HdlcSession.buildDisconnectRequestWith,ofSession_state,ne_eq,ofState_eq_connected,hframe,
    ite_self]
  split
  · rfl
  cases session.buildFrame kDiscControl none 0 with
  | error status => rfl
  | ok output => rfl

theorem ofSession_buildDisconnectResponse :
    (ofSession session).buildDisconnectResponse=
      session.buildDisconnectResponse.map id ofSession := by
  have hframe : (ofSession session).buildUnnumberedFrame ctrlUA=
      session.buildUnnumberedFrame kUaControl :=
    ofSession_buildUnnumberedFrame session HdlcSession.uaControl
  simp only [Session.buildDisconnectResponse,HdlcSession.buildDisconnectResponse,
    ofSession_disconnectResponsePending,hframe]
  split
  · rfl
  cases session.buildUnnumberedFrame kUaControl with
  | error status => rfl
  | ok output => rfl

theorem ofSession_buildReceiveReadyFrame (pollFinal : Bool) :
    ((ofSession session).buildReceiveReadyFrame pollFinal,ofSession session)=
      (session.buildReceiveReadyFrame pollFinal).map id ofSession := by
  have hframe : (ofSession session).buildFrame
      (makeReceiveReadyControl session.receiveSequence pollFinal) []=session.buildSupervisoryFrame
        (DlmsHdlc.makeReceiveReadyControl session.receiveSequence pollFinal) := by
    rw [makeReceiveReadyControl_eq]
    exact ofSession_buildUnnumberedFrame session
      (receiveReadyControl session.receiveSequence pollFinal)
  simp only [Session.buildReceiveReadyFrame,HdlcSession.buildReceiveReadyFrame,ofSession_state,ne_eq,
    ofState_eq_connected,ofSession_receiveSequence,hframe]
  split
  · rfl
  · rfl

/-- A buffer that is sent whole. -/
theorem ofSession_informationFrame {information : List UInt8} (hlength : information.length < 2^63)
    (pollFinal : Bool) :
    (ofSession session).buildFrame (makeInformationControl session.sendSequence
      session.receiveSequence pollFinal) information=session.buildFrame
        (DlmsHdlc.makeInformationControl session.sendSequence session.receiveSequence pollFinal)
        (some information) (.ofNat information.length) := by
  have hframe := ofSession_buildFrame session
    (informationControl session.sendSequence session.receiveSequence pollFinal)
    (HdlcSession.validPointer_some hlength)
  have hsize : (UInt64.ofNat information.length).toNat=information.length := by
    rw [UInt64.toNat_ofNat',Nat.mod_eq_of_lt (by omega)]
  rw [hsize,Pointer.read_some,List.take_length] at hframe
  rw [makeInformationControl_eq]
  exact hframe

/-- Within its window. -/
theorem ofSession_buildInformationFrame {information : List UInt8}
    (hlength : information.length < 2^63) (pollFinal : Bool)
    (within : session.state=.connected → session.canSendInformationFrame=true) :
    (ofSession session).buildInformationFrame information pollFinal=(session.buildInformationFrame
      (some information) (.ofNat information.length) pollFinal).map id ofSession := by
  have hframe := @ofSession_informationFrame session information hlength pollFinal
  simp only [Session.buildInformationFrame,HdlcSession.buildInformationFrame,ofSession_state,ne_eq,
    ofState_eq_connected,ofSession_sendSequence,ofSession_receiveSequence,hframe]
  split
  · rfl
  rename_i hconnected
  rw [within (not_not.mp hconnected),if_neg (by decide)]
  cases session.buildFrame _ (some information) (.ofNat information.length) with
  | error status => rfl
  | ok output => rfl

/-- The codec never finds a frame unsupported. -/
theorem ofSession_buildFrame_ne (control : HdlcControl) {information : Pointer} {size : UInt64}
    (valid : ValidPointer information size) :
    statusOf (session.buildFrame control.encode information size)≠.unsupportedFrame := by
  let frame : HdlcFrame :=
    ⟨false,session.remoteAddress,session.localAddress,control,information,size⟩
  have hwell : frame.WellFormed := ⟨valid.1,valid.2⟩
  rw [HdlcSession.buildFrame,HdlcControl.decode_encode]
  change statusOf (DlmsHdlc.encodeFrame frame session.options.limits)≠_
  rw [encodeFrame_eq hwell]
  repeat' split
  all_goals simp [statusOf]

/-- Beyond it: the Go session sends, or the codec refuses what it would send. -/
theorem ofSession_buildInformationFrame_ne {information : List UInt8}
    (hlength : information.length < 2^63) (pollFinal : Bool) (connected : session.state=.connected)
    (closed : session.canSendInformationFrame=false) :
    statusOf ((ofSession session).buildInformationFrame information pollFinal).1≠
      statusOf (session.buildInformationFrame (some information) (.ofNat information.length)
        pollFinal).1 := by
  have hframe := @ofSession_informationFrame session information hlength pollFinal
  have hsupported := @ofSession_buildFrame_ne session
    (informationControl session.sendSequence session.receiveSequence pollFinal) _ _
    (HdlcSession.validPointer_some hlength)
  have hrefused : (session.buildInformationFrame (some information) (.ofNat information.length)
      pollFinal).1=.error .unsupportedFrame := by
    rw [HdlcSession.buildInformationFrame,if_neg (not_not.mpr connected),closed,if_pos (by decide)]
  rw [hrefused]
  simp only [Session.buildInformationFrame,ofSession_state,ne_eq,ofState_eq_connected,connected,
    not_true_eq_false,↓reduceIte,ofSession_sendSequence,ofSession_receiveSequence,hframe]
  change statusOf (session.buildFrame (DlmsHdlc.makeInformationControl session.sendSequence
    session.receiveSequence pollFinal) _ _)≠_ at hsupported
  cases hbuilt : session.buildFrame (DlmsHdlc.makeInformationControl session.sendSequence
      session.receiveSequence pollFinal) (some information) (.ofNat information.length) with
  | error status =>
    rw [hbuilt] at hsupported
    exact hsupported
  | ok output => simp [statusOf]

/-- Everything sent may be acknowledged. -/
theorem acceptsReceiveSequence_sendSequence :
    session.acceptsReceiveSequence session.sendSequence=true := by
  rw [HdlcSession.acceptsReceiveSequence]
  exact decide_eq_true (UInt8.le_refl _)

section Receives
variable {frame : HdlcFrameBuffer}

theorem ofFrame_control : (ofFrame frame).control=ofControl frame.control := rfl

/-- The Go session wants all of its frames acknowledged, the C++ session some of them. -/
theorem acceptsReceiveSequence_iff (whole : session.acceptsReceiveSequence
    frame.control.receiveSequence=true → frame.control.receiveSequence=session.sendSequence) :
    session.acceptsReceiveSequence frame.control.receiveSequence=false ↔
      frame.control.receiveSequence≠session.sendSequence := by
  constructor
  · intro hrefused hall
    rw [hall,acceptsReceiveSequence_sendSequence] at hrefused
    cases hrefused
  · intro hall
    rw [← Bool.not_eq_true]
    exact mt whole hall

theorem ofSession_receiveInformationFrame
    (whole : session.state=.connected → frame.control.sendSequence=session.receiveSequence →
      session.acceptsReceiveSequence frame.control.receiveSequence=true →
        frame.control.receiveSequence=session.sendSequence) :
    (ofSession session).receiveInformationFrame (ofFrame frame)=
      (session.receiveInformationFrame frame).map ofStatus ofSession := by
  simp only [Session.receiveInformationFrame,HdlcSession.receiveInformationFrame,ofSession_state,
    ne_eq,ofState_eq_connected,ofFrame_control,ofControl_sendSequence,ofControl_receiveSequence,
    ofSession_sendSequence,ofSession_receiveSequence,Bool.not_eq_true']
  split
  · rfl
  rename_i hconnected
  split
  · rfl
  rename_i hexpected
  have haccepts := acceptsReceiveSequence_iff (whole (not_not.mp hconnected) (not_not.mp hexpected))
  rw [ne_eq] at haccepts
  simp only [haccepts]
  split
  · rfl
  · rfl

theorem ofSession_receiveSupervisoryFrame (supervisory : frame.control.frameKind=.supervisory)
    (whole : session.state=.connected →
      session.acceptsReceiveSequence frame.control.receiveSequence=true →
        frame.control.receiveSequence=session.sendSequence) :
    ((ofSession session).receiveSupervisoryFrame (ofFrame frame),ofSession session)=
      (session.receiveSupervisoryFrame frame).map ofStatus ofSession := by
  obtain ⟨kind,hkind⟩ := HdlcControl.supervisoryKind_isOk supervisory
  obtain ⟨kind',hkind'⟩ := ofControl_supervisoryKind _ supervisory
  simp only [Session.receiveSupervisoryFrame,HdlcSession.receiveSupervisoryFrame,ofSession_state,
    ne_eq,ofState_eq_connected,ofFrame_control,hkind,hkind',ofControl_receiveSequence,
    ofSession_sendSequence,Bool.not_eq_true']
  split
  · rfl
  rename_i hconnected
  have haccepts := acceptsReceiveSequence_iff (whole (not_not.mp hconnected))
  rw [ne_eq] at haccepts
  simp only [haccepts]
  split
  · rfl
  · rfl

/-- Without parameters. -/
theorem ofSession_receiveUnnumberedFrame (plain : (SessionCall.receiveFrame frame).Plain) :
    (ofSession session).receiveUnnumberedFrame (ofFrame frame)=
      (session.receiveUnnumberedFrame frame).map ofStatus ofSession := by
  rw [Session.receiveUnnumberedFrame,HdlcSession.receiveUnnumberedFrame,ofFrame_control,
    ofControl_unnumberedKind]
  cases hkind : frame.control.unnumberedKind with
  | error status =>
    have hstatus : ofStatus status=some status := if_neg (HdlcControl.unnumberedKind_error hkind)
    exact congrArg (·,ofSession session) hstatus.symm
  | ok kind =>
    cases kind with
    | snrm =>
      obtain ⟨params,hparse⟩ := plain (.inl hkind)
      simp only [Except.map,ofUnnumberedKind,ofSession_role,ofSession_state,ne_eq,ofRole_eq_server,
        ofState_eq_disconnected]
      by_cases hguard : session.options.role≠.server ∨ session.state≠.disconnected
      · rw [if_pos hguard,HdlcSession.receiveSnrm,if_pos hguard]
        rfl
      · rw [if_neg hguard]
        rw [not_or,not_not,not_not] at hguard
        rw [session.receiveSnrm_accepted hguard.1 hguard.2 hparse]
        rfl
    | ua =>
      obtain ⟨params,hparse⟩ := plain (.inr hkind)
      simp only [Except.map,ofUnnumberedKind,HdlcSession.receiveUa,HdlcSession.applyUa_plain hparse,
        ofSession_state,ofState_eq_awaitingConnection,ofState_eq_awaitingDisconnect]
      cases hstate : session.state with
      | disconnected => rfl
      | awaitingConnection => rfl
      | connected => rfl
      | awaitingDisconnect => rfl
    | disc =>
      simp only [Except.map,ofUnnumberedKind,HdlcSession.receiveDisc,ofSession_state,ne_eq,
        ofState_eq_connected]
      split
      · rfl
      · rfl
    | dm => rfl
    | frmr => rfl
    | ui => rfl

theorem ofFrame_frameKind :
    (ofFrame frame).control.frameKind=ofFrameKind frame.control.frameKind :=
  ofControl_frameKind frame.control

/-- The same status and the same session, unless an `N(R)` leaves something unacknowledged. -/
theorem ofSession_receiveFrame (plain : (SessionCall.receiveFrame frame).Plain)
    (alike : ¬ session.Apart (.receiveFrame frame)) :
    (ofSession session).receiveFrame (ofFrame frame)=
      (session.receiveFrame frame).map ofStatus ofSession := by
  rw [Session.receiveFrame,HdlcSession.receiveFrame,ofSession_incomingAddressesMatch,
    ofFrame_frameKind]
  split
  · rfl
  rename_i haddresses
  rw [Bool.not_eq_true,Bool.not_eq_false'] at haddresses
  cases hkind : frame.control.frameKind with
  | information =>
    refine ofSession_receiveInformationFrame fun hstate hexpected haccepts => ?_
    by_contra hall
    exact alike ⟨haddresses,hstate,.inl ⟨hkind,hexpected⟩,haccepts,hall⟩
  | supervisory =>
    refine ofSession_receiveSupervisoryFrame hkind fun hstate haccepts => ?_
    by_contra hall
    exact alike ⟨haddresses,hstate,.inr hkind,haccepts,hall⟩
  | unnumbered => exact ofSession_receiveUnnumberedFrame plain

/-- There the C++ session accepts and the Go session does not. -/
theorem ofSession_receiveFrame_ne (apart : session.Apart (.receiveFrame frame)) :
    (session.receiveFrame frame).1=.ok ∧
      ((ofSession session).receiveFrame (ofFrame frame)).1=some .invalidControlField := by
  obtain ⟨haddresses,hstate,hkind,haccepts,hall⟩ := apart
  have hmatch := (ofSession_incomingAddressesMatch session frame).trans haddresses
  rw [Session.receiveFrame,HdlcSession.receiveFrame,haddresses,hmatch,ofFrame_frameKind]
  simp only [Bool.not_true,Bool.false_eq_true,↓reduceIte]
  obtain ⟨hkind,hexpected⟩ | hkind := hkind
  · simp [hkind,ofFrameKind,HdlcSession.receiveInformationFrame,Session.receiveInformationFrame,
      hstate,hexpected,haccepts,ofFrame_control,hall]
  · obtain ⟨kind,hsupervisory⟩ := HdlcControl.supervisoryKind_isOk hkind
    obtain ⟨kind',hsupervisory'⟩ := ofControl_supervisoryKind _ hkind
    simp [hkind,ofFrameKind,HdlcSession.receiveSupervisoryFrame,Session.receiveSupervisoryFrame,
      hstate,haccepts,ofFrame_control,hall,hsupervisory,hsupervisory']

end Receives

theorem ofStatus_getD (status : HdlcStatus) : (ofStatus status).getD .ok=status := by
  rw [ofStatus]
  split
  · rename_i hok
    exact hok.symm
  · rfl

/-- The Go session does what the C++ session does. -/
theorem perform_ofSession (h : session.Unproposed) {call : SessionCall} (plain : call.Plain)
    (alike : ¬ session.Apart call) :
    (ofSession session).perform call=(session.perform call.operation).map id ofSession := by
  cases call with
  | buildConnectRequest => exact congrArg Session.builtOutput (ofSession_buildConnectRequest h)
  | buildConnectResponse => exact congrArg Session.builtOutput (ofSession_buildConnectResponse h)
  | buildDisconnectRequest => exact congrArg Session.builtOutput ofSession_buildDisconnectRequest
  | buildDisconnectResponse => exact congrArg Session.builtOutput ofSession_buildDisconnectResponse
  | buildInformationFrame information pollFinal =>
    refine congrArg Session.builtOutput (ofSession_buildInformationFrame plain pollFinal ?_)
    intro hstate
    rw [← Bool.not_eq_false]
    exact fun hclosed => alike ⟨hstate,hclosed⟩
  | buildReceiveReadyFrame pollFinal =>
    exact congrArg Session.builtOutput (ofSession_buildReceiveReadyFrame pollFinal)
  | receiveFrame frame =>
    rw [Session.perform,ofSession_receiveFrame plain alike]
    dsimp only [Prod.map]
    rw [ofStatus_getD]
    rfl

/-- Or its caller sees another status. -/
theorem perform_ofSession_ne {call : SessionCall} (plain : call.Plain) (apart : session.Apart call) :
    ((ofSession session).perform call).1≠(session.perform call.operation).1 := by
  cases call with
  | buildInformationFrame information pollFinal =>
    intro hsame
    exact ofSession_buildInformationFrame_ne plain pollFinal apart.1 apart.2
      (congrArg Prod.fst hsame)
  | receiveFrame frame =>
    obtain ⟨hcpp,hgo⟩ := ofSession_receiveFrame_ne apart
    intro hsame
    have hstatus := congrArg Prod.fst hsame
    dsimp only [Session.perform,SessionCall.operation,HdlcSession.perform] at hstatus
    rw [hgo,hcpp] at hstatus
    cases hstatus
  | _ => exact absurd apart id

end Sessions
end Go

namespace HdlcSession

/-- Without parameters from the peer there is nothing to answer them with. -/
theorem Unproposed.step {session : HdlcSession} (h : session.Unproposed) {call : SessionCall}
    (plain : call.Plain) : (session.perform call.operation).2.Unproposed := by
  have hplain : ∀ frame, call.operation=.receiveFrame frame →
      (SessionCall.receiveFrame frame).Plain := by
    intro frame hcall
    cases call with
    | receiveFrame frame' =>
      cases hcall
      exact plain
    | _ => cases hcall
  have heffect := session.perform_effect call.operation
  generalize call.operation=operation at heffect hplain
  generalize (session.perform operation).1=result,(session.perform operation).2=next at heffect
  cases heffect with
  | connectResponseFailed =>
    rw [h.applyNegotiation]
    exact h
  | connectResponded =>
    rw [h.applyNegotiation]
    exact ⟨rfl,h.limits⟩
  | snrmRejected => exact ⟨rfl,h.limits⟩
  | @snrmAccepted frame proposed consumed _ kind _ _ parsed =>
    obtain ⟨params,hparse⟩ := hplain frame rfl (.inl kind)
    rw [parsed] at hparse
    cases hparse
    exact ⟨rfl,h.limits⟩
  | @uaConnected frame _ kind _ =>
    obtain ⟨params,hparse⟩ := hplain frame rfl (.inr kind)
    rw [applyUa_plain hparse]
    exact ⟨h.proposal,h.limits⟩
  | _ => exact ⟨h.proposal,h.limits⟩

/-- Over calls with plain frames the two libraries are told apart exactly by sending beyond the
window and by an `N(R)` that leaves something unacknowledged. -/
theorem sessions_agree_iff (options : HdlcSessionOptions)
    (default : options.role=.client →
      isDefaultNegotiationLimits options.negotiationLimits.normalised=true)
    {calls : List SessionCall} (plain : ∀ call ∈ calls, call.Plain) :
    callMachine.outputs (.new options) calls=
        Go.Session.callMachine.outputs (.newSession (Go.ofSessionOptions options)) calls ↔
      callMachine.Along (fun session call => ¬ session.Apart call) (.new options) calls := by
  refine Mealy.outputs_eq_iff_along _
    (fun session s => session.Unproposed ∧ s=Go.ofSession session) ?_ ?_ ⟨⟨rfl,default⟩,rfl⟩
  · rintro session _ call hcall ⟨h,rfl⟩ alike
    have hperform := Go.perform_ofSession h (plain call hcall) alike
    exact ⟨congrArg Prod.fst hperform.symm,h.step (plain call hcall),congrArg Prod.snd hperform⟩
  · rintro session _ call hcall ⟨h,rfl⟩ same apart
    exact Go.perform_ofSession_ne (plain call hcall) apart same.symm

/-- A client that connects, sends and is acknowledged. -/
def acknowledgedCalls : List SessionCall :=
  [.buildConnectRequest,.receiveFrame (sampleIncoming .client uaControl []),
    .buildInformationFrame [0xc0,0x01] true,
    .receiveFrame (sampleIncoming .client (receiveReadyControl 1 true) [])]

theorem acknowledgedCalls_plain (pollFinal : Bool) : ∀ call ∈ acknowledgedCalls ++
    [.buildInformationFrame [] pollFinal,.buildInformationFrame [] pollFinal], call.Plain := by
  simp only [acknowledgedCalls,List.cons_append,List.nil_append,List.forall_mem_cons]
  have hempty : ([] : List UInt8).length < 2^63 := by decide
  have hpair : [(0xc0 : UInt8),0x01].length < 2^63 := by decide
  exact ⟨trivial,fun _ => ⟨_,rfl⟩,hpair,fun _ => ⟨_,rfl⟩,hempty,hempty,by simp⟩

/-- The libraries agree on them, and not on two more frames in a row. -/
theorem sessions_agree_sample :
    callMachine.outputs (.new (sampleOptions .client)) acknowledgedCalls=
        Go.Session.callMachine.outputs
          (.newSession (Go.ofSessionOptions (sampleOptions .client))) acknowledgedCalls ∧
      callMachine.outputs (.new (sampleOptions .client)) (acknowledgedCalls ++
          [.buildInformationFrame [] false,.buildInformationFrame [] false])≠
        Go.Session.callMachine.outputs (.newSession (Go.ofSessionOptions (sampleOptions .client)))
          (acknowledgedCalls ++
            [.buildInformationFrame [] false,.buildInformationFrame [] false]) := by
  have hplain := acknowledgedCalls_plain false
  constructor
  · refine (sessions_agree_iff (sampleOptions .client) (fun _ => rfl) fun call hcall => ?_).mpr
      (by decide +kernel)
    exact hplain call (List.mem_append_left _ hcall)
  · intro same
    have halong := (sessions_agree_iff (sampleOptions .client) (fun _ => rfl) hplain).mp same
    revert halong
    decide +kernel

end HdlcSession
end DlmsHdlc
