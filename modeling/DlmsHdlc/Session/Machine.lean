import DlmsHdlc.Codec.RoundTrip
import DlmsHdlc.Library.Machine
import DlmsHdlc.Session.Negotiation

/-! The session endpoint: its state, every public operation, and the machine they form. -/
namespace DlmsHdlc
open Machine

def kSnrmControl : UInt8 := 0x93
def kUaControl : UInt8 := 0x73
def kDiscControl : UInt8 := 0x53
def kDmControl : UInt8 := 0x1f
def kReceiveReadyBase : UInt8 := 0x01

inductive HdlcSessionRole
  | client
  | server
  deriving DecidableEq, Repr

inductive HdlcSessionState
  | disconnected
  | awaitingConnection
  | connected
  | awaitingDisconnect
  deriving DecidableEq, Repr

structure HdlcSessionOptions where
  role : HdlcSessionRole
  clientAddress : HdlcAddress
  serverAddress : HdlcAddress
  limits : HdlcCodecLimits
  negotiationLimits : HdlcSessionNegotiationLimits
  deriving DecidableEq, Repr

/-- Proposed parameters kept from an accepted SNRM until the response is built. -/
structure PendingNegotiation where
  active : Bool
  params : SnrmParams
  deriving DecidableEq, Repr

@[ext]
structure HdlcSession where
  options : HdlcSessionOptions
  state : HdlcSessionState
  sendSequence : UInt8
  receiveSequence : UInt8
  acknowledgeSequence : UInt8
  connectResponsePending : Bool
  disconnectResponsePending : Bool
  dmResponsePending : Bool
  pendingNegotiation : PendingNegotiation
  negotiatedLimits : HdlcSessionNegotiationLimits
  windowSizeTransmit : UInt8
  receivedUserInformation : List UInt8
  deriving DecidableEq, Repr

def nextSequence (sequence : UInt8) : UInt8 := (sequence+1) &&& 0x07

def makeInformationControl (sendSequence receiveSequence : UInt8) (pollFinal : Bool) : UInt8 :=
  ((sendSequence &&& 0x07) <<< 1) ||| (if pollFinal then (0x10 : UInt8) else 0x00) |||
    ((receiveSequence &&& 0x07) <<< 5)

def makeReceiveReadyControl (receiveSequence : UInt8) (pollFinal : Bool) : UInt8 :=
  kReceiveReadyBase ||| (if pollFinal then (0x10 : UInt8) else 0x00) ||| ((receiveSequence &&& 0x07) <<< 5)

namespace HdlcSession

/-- The constructor. -/
def new (options : HdlcSessionOptions) : HdlcSession where
  options := { options with negotiationLimits := options.negotiationLimits.normalised }
  state := .disconnected
  sendSequence := 0
  receiveSequence := 0
  acknowledgeSequence := 0
  connectResponsePending := false
  disconnectResponsePending := false
  dmResponsePending := false
  pendingNegotiation := ⟨false,defaultSnrmParams⟩
  negotiatedLimits := options.negotiationLimits.normalised
  windowSizeTransmit := options.negotiationLimits.normalised.windowSizeTransmit
  receivedUserInformation := []

variable (session : HdlcSession)

def canSendInformationFrame : Bool :=
  (session.sendSequence - session.acknowledgeSequence) &&& 0x07 < session.windowSizeTransmit

def localAddress : HdlcAddress :=
  match session.options.role with
  | .client => session.options.clientAddress
  | .server => session.options.serverAddress

def remoteAddress : HdlcAddress :=
  match session.options.role with
  | .client => session.options.serverAddress
  | .server => session.options.clientAddress

/-- The private copy of the session's source file. -/
def sameAddress (left right : HdlcAddress) : Bool :=
  left.rawValue == right.rawValue && left.encodedSize == right.encodedSize

def incomingAddressesMatch (frame : HdlcFrameBuffer) : Bool :=
  sameAddress frame.destination session.localAddress &&
    sameAddress frame.source session.remoteAddress

def buildFrame (control : UInt8) (information : Pointer) (informationSize : UInt64) :
    Except HdlcStatus (List UInt8) :=
  match HdlcControl.decode control with
  | .error status => .error status
  | .ok control =>
    encodeFrame ⟨false,session.remoteAddress,session.localAddress,control,information,
      informationSize⟩ session.options.limits

def buildUnnumberedFrame (control : UInt8) : Except HdlcStatus (List UInt8) :=
  session.buildFrame control none 0

def buildSupervisoryFrame (control : UInt8) : Except HdlcStatus (List UInt8) :=
  session.buildFrame control none 0

/-- `infoField.data()` and `infoField.size()`, null when it is empty. -/
def buildFrameWith (control : UInt8) (infoField : List UInt8) : Except HdlcStatus (List UInt8) :=
  session.buildFrame control (if infoField.isEmpty then none else some infoField)
    (.ofNat infoField.length)

def resetSequences : HdlcSession :=
  { session with sendSequence := 0, receiveSequence := 0, acknowledgeSequence := 0 }

/-- The Information field of the SNRM. -/
def connectInfoField (includeNegotiation : Bool) (userInformation : Pointer)
    (userInformationSize : UInt64) : List UInt8 :=
  let limits := session.options.negotiationLimits
  (if includeNegotiation then
    encodeSnrmNegotiationBlock ⟨limits.maxInformationFieldLengthTransmit,
      limits.maxInformationFieldLengthReceive,limits.windowSizeTransmit.toUInt32,
      limits.windowSizeReceive.toUInt32⟩
  else []) ++
  (if userInformation≠none ∧ 0 < userInformationSize then
    userInformation.read userInformationSize.toNat
  else [])

def buildConnectRequestInternal (includeNegotiation : Bool) (userInformation : Pointer)
    (userInformationSize : UInt64) : Except HdlcStatus (List UInt8) × HdlcSession :=
  if session.options.role≠.client then (.error .unsupportedFeature,session)
  else if session.state≠.disconnected then (.error .unsupportedFrame,session)
  else
    let infoField := session.connectInfoField includeNegotiation userInformation userInformationSize
    match session.buildFrameWith kSnrmControl infoField with
    | .error status => (.error status,session)
    | .ok output => (.ok output,{ session.resetSequences with state := .awaitingConnection })

/-- The overload without arguments. -/
def buildConnectRequest : Except HdlcStatus (List UInt8) × HdlcSession :=
  session.buildConnectRequestInternal
    (!isDefaultNegotiationLimits session.options.negotiationLimits) none 0

/-- The overload with user information. -/
def buildConnectRequestWith (userInformation : Pointer) (userInformationSize : UInt64) :
    Except HdlcStatus (List UInt8) × HdlcSession :=
  session.buildConnectRequestInternal true userInformation userInformationSize

/-- The values agreed with a pending negotiation. -/
def negotiated : SnrmParams :=
  negotiateParams session.pendingNegotiation.params session.options.negotiationLimits

/-- The assignments made after a negotiation: by the server for the values seen from its side, by
the client for those of the UA. -/
def adoptLimits (limits : HdlcSessionNegotiationLimits) : HdlcSession :=
  { session with
    negotiatedLimits := limits
    options := { session.options with limits := { session.options.limits with
      maximumInformationFieldSize := limits.maxInformationFieldLengthTransmit } }
    windowSizeTransmit := limits.windowSizeTransmit }

/-- The server transmits what tag 06h allows and receives what tag 05h allows. -/
def serverLimits (negotiated : SnrmParams) : HdlcSessionNegotiationLimits where
  maxInformationFieldLengthTransmit := negotiated.maxInfoRx
  maxInformationFieldLengthReceive := negotiated.maxInfoTx
  windowSizeTransmit := negotiated.windowRx.toUInt8
  windowSizeReceive := negotiated.windowTx.toUInt8

def clientLimits (uaParams : SnrmParams) : HdlcSessionNegotiationLimits where
  maxInformationFieldLengthTransmit := uaParams.maxInfoTx
  maxInformationFieldLengthReceive := uaParams.maxInfoRx
  windowSizeTransmit := uaParams.windowTx.toUInt8
  windowSizeReceive := uaParams.windowRx.toUInt8

/-- The Information field of the UA. -/
def connectResponseInfoField : List UInt8 :=
  if session.pendingNegotiation.active then encodeSnrmNegotiationBlock session.negotiated else []

/-- The updates made before the UA is built. -/
def applyNegotiation : HdlcSession :=
  if session.pendingNegotiation.active then session.adoptLimits (serverLimits session.negotiated)
  else session

def buildConnectResponse : Except HdlcStatus (List UInt8) × HdlcSession :=
  if session.options.role≠.server then (.error .unsupportedFeature,session)
  else if !session.connectResponsePending then (.error .unsupportedFrame,session)
  else
    let infoField := session.connectResponseInfoField
    let session := session.applyNegotiation
    match session.buildFrameWith kUaControl infoField with
    | .error status => (.error status,session)
    | .ok output =>
      (.ok output,{ session.resetSequences with
        state := .connected
        connectResponsePending := false
        pendingNegotiation := { session.pendingNegotiation with active := false } })

/-- The overload with user information. -/
def buildDisconnectRequestWith (userInformation : Pointer) (userInformationSize : UInt64) :
    Except HdlcStatus (List UInt8) × HdlcSession :=
  if session.state≠.connected then (.error .unsupportedFrame,session)
  else
    let hasUserInfo := userInformation≠none ∧ 0 < userInformationSize
    match session.buildFrame kDiscControl (if hasUserInfo then userInformation else none)
      (if hasUserInfo then userInformationSize else 0) with
    | .error status => (.error status,session)
    | .ok output => (.ok output,{ session with state := .awaitingDisconnect })

/-- The overload without arguments. -/
def buildDisconnectRequest : Except HdlcStatus (List UInt8) × HdlcSession :=
  session.buildDisconnectRequestWith none 0

def buildDisconnectResponse : Except HdlcStatus (List UInt8) × HdlcSession :=
  if !session.disconnectResponsePending then (.error .unsupportedFrame,session)
  else
    match session.buildUnnumberedFrame kUaControl with
    | .error status => (.error status,session)
    | .ok output => (.ok output,{ session.resetSequences with
        state := .disconnected, disconnectResponsePending := false })

def buildDmResponse : Except HdlcStatus (List UInt8) × HdlcSession :=
  if !session.dmResponsePending then (.error .unsupportedFrame,session)
  else
    match session.buildUnnumberedFrame kDmControl with
    | .error status => (.error status,session)
    | .ok output => (.ok output,{ session with dmResponsePending := false })

def buildInformationFrame (information : Pointer) (informationSize : UInt64) (pollFinal : Bool) :
    Except HdlcStatus (List UInt8) × HdlcSession :=
  if session.state≠.connected then (.error .unsupportedFrame,session)
  else if !session.canSendInformationFrame then (.error .unsupportedFrame,session)
  else
    let control := makeInformationControl session.sendSequence session.receiveSequence pollFinal
    match session.buildFrame control information informationSize with
    | .error status => (.error status,session)
    | .ok output =>
      (.ok output,{ session with sendSequence := nextSequence session.sendSequence })

def buildReceiveReadyFrame (pollFinal : Bool) : Except HdlcStatus (List UInt8) × HdlcSession :=
  if session.state≠.connected then (.error .unsupportedFrame,session)
  else
    (session.buildSupervisoryFrame (makeReceiveReadyControl session.receiveSequence pollFinal),
      session)

/-- `N(R)` is within [V(A), V(S)] modulo 8. -/
def acceptsReceiveSequence (nr : UInt8) : Bool :=
  (nr - session.acknowledgeSequence) &&& 0x07 ≤
    (session.sendSequence - session.acknowledgeSequence) &&& 0x07

def receiveInformationFrame (frame : HdlcFrameBuffer) : HdlcStatus × HdlcSession :=
  if session.state≠.connected then (.unsupportedFrame,session)
  else if frame.control.sendSequence≠session.receiveSequence then (.invalidControlField,session)
  else
    let nr := frame.control.receiveSequence
    if !session.acceptsReceiveSequence nr then (.invalidControlField,session)
    else (.ok,{ session with
      acknowledgeSequence := nr, receiveSequence := nextSequence session.receiveSequence })

def receiveSupervisoryFrame (frame : HdlcFrameBuffer) : HdlcStatus × HdlcSession :=
  if session.state≠.connected then (.unsupportedFrame,session)
  else
    match frame.control.supervisoryKind with
    | .error status => (status,session)
    | .ok _ =>
      let nr := frame.control.receiveSequence
      if !session.acceptsReceiveSequence nr then (.invalidControlField,session)
      else (.ok,{ session with acknowledgeSequence := nr })

/-- What an SNRM clears before it is parsed. -/
def clearForSnrm : HdlcSession :=
  { session with
    receivedUserInformation := []
    pendingNegotiation := { session.pendingNegotiation with active := false } }

/-- The SNRM branch of `ReceiveUnnumberedFrame`. -/
def receiveSnrm (information : List UInt8) : HdlcStatus × HdlcSession :=
  if session.options.role≠.server ∨ session.state≠.disconnected then (.unsupportedFrame,session)
  else
    let session := session.clearForSnrm
    if information≠[] then
      match parseSnrmInfoField information with
      | .error status => (status,{ session with dmResponsePending := true })
      | .ok (proposed,negotiationConsumed) =>
        (.ok,{ session.resetSequences with
          pendingNegotiation :=
            if 0 < negotiationConsumed then ⟨true,proposed⟩ else session.pendingNegotiation
          receivedUserInformation :=
            if negotiationConsumed < information.length then information.drop negotiationConsumed
            else session.receivedUserInformation
          connectResponsePending := true })
    else (.ok,{ session.resetSequences with connectResponsePending := true })

/-- The updates the client makes for the Information field of a UA. -/
def applyUa (information : List UInt8) : HdlcSession :=
  if information≠[] then
    match parseSnrmInfoField information with
    | .error _ => session
    | .ok (uaParams,consumed) =>
      if 0 < consumed then session.adoptLimits (clientLimits uaParams) else session
  else session

/-- The UA branch of `ReceiveUnnumberedFrame`. -/
def receiveUa (information : List UInt8) : HdlcStatus × HdlcSession :=
  match session.state with
  | .awaitingConnection =>
    (.ok,{ (session.applyUa information).resetSequences with state := .connected })
  | .awaitingDisconnect => (.ok,{ session.resetSequences with state := .disconnected })
  | _ => (.unsupportedFrame,session)

/-- The DISC branch of `ReceiveUnnumberedFrame`. -/
def receiveDisc (information : List UInt8) : HdlcStatus × HdlcSession :=
  if session.state≠.connected then (.unsupportedFrame,session)
  else (.ok,{ session with
    receivedUserInformation := information, disconnectResponsePending := true })

/-- The DM branch of `ReceiveUnnumberedFrame`. -/
def receiveDm : HdlcStatus × HdlcSession :=
  (.ok,{ session.resetSequences with state := .disconnected })

def receiveUnnumberedFrame (frame : HdlcFrameBuffer) : HdlcStatus × HdlcSession :=
  match frame.control.unnumberedKind with
  | .error status => (status,session)
  | .ok .snrm => session.receiveSnrm frame.information
  | .ok .ua => session.receiveUa frame.information
  | .ok .disc => session.receiveDisc frame.information
  | .ok .dm => session.receiveDm
  | .ok _ => (.unsupportedFrame,session)

def receiveFrame (frame : HdlcFrameBuffer) : HdlcStatus × HdlcSession :=
  if !session.incomingAddressesMatch frame then (.invalidAddress,session)
  else
    match frame.control.frameKind with
    | .information => session.receiveInformationFrame frame
    | .supervisory => session.receiveSupervisoryFrame frame
    | .unnumbered => session.receiveUnnumberedFrame frame

end HdlcSession

/-- The public calls that can change a session, with their arguments. -/
inductive HdlcSessionOperation
  | buildConnectRequest
  | buildConnectRequestWith (userInformation : Pointer) (userInformationSize : UInt64)
  | buildConnectResponse
  | buildDisconnectRequest
  | buildDisconnectRequestWith (userInformation : Pointer) (userInformationSize : UInt64)
  | buildDisconnectResponse
  | buildDmResponse
  | buildInformationFrame (information : Pointer) (informationSize : UInt64) (pollFinal : Bool)
  | buildReceiveReadyFrame (pollFinal : Bool)
  | receiveFrame (frame : HdlcFrameBuffer)
  deriving DecidableEq, Repr

namespace HdlcSession

/-- A `Build` call as its caller sees it: the output vector is empty on failure. -/
def builtOutput (result : Except HdlcStatus (List UInt8) × HdlcSession) :
    (HdlcStatus × List UInt8) × HdlcSession :=
  ((statusOf result.1,result.1.toOption.getD []),result.2)

/-- One call: status, output vector and the session afterwards. -/
def perform (session : HdlcSession) :
    HdlcSessionOperation → (HdlcStatus × List UInt8) × HdlcSession
  | .buildConnectRequest => builtOutput session.buildConnectRequest
  | .buildConnectRequestWith information size =>
    builtOutput (session.buildConnectRequestWith information size)
  | .buildConnectResponse => builtOutput session.buildConnectResponse
  | .buildDisconnectRequest => builtOutput session.buildDisconnectRequest
  | .buildDisconnectRequestWith information size =>
    builtOutput (session.buildDisconnectRequestWith information size)
  | .buildDisconnectResponse => builtOutput session.buildDisconnectResponse
  | .buildDmResponse => builtOutput session.buildDmResponse
  | .buildInformationFrame information size pollFinal =>
    builtOutput (session.buildInformationFrame information size pollFinal)
  | .buildReceiveReadyFrame pollFinal => builtOutput (session.buildReceiveReadyFrame pollFinal)
  | .receiveFrame frame =>
    (((session.receiveFrame frame).1,[]),(session.receiveFrame frame).2)

def machine : Mealy HdlcSession HdlcSessionOperation (HdlcStatus × List UInt8) := ⟨perform⟩

@[simp] theorem machine_step (session : HdlcSession) (operation : HdlcSessionOperation) :
    machine.step session operation=session.perform operation := rfl

/-- The states a session can be in. -/
def Reachable (options : HdlcSessionOptions) (session : HdlcSession) : Prop :=
  ∃ operations, session=machine.final (.new options) operations

end HdlcSession
end DlmsHdlc
