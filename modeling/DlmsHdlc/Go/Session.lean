import DlmsHdlc.Go.Codec

/-! The session endpoint of the Go implementation. A `nil` error is `none`. -/
namespace DlmsHdlc.Go

inductive SupervisoryKind
  | receiveReady
  | receiveNotReady
  | reject
  | selectiveReject
  deriving DecidableEq, Repr

inductive UnnumberedKind
  | snrm
  | ua
  | disc
  | dm
  | frmr
  | ui
  deriving DecidableEq, Repr

def controlFromRaw (value : UInt8) : Control := ⟨value⟩

namespace Control

def supervisoryKind (c : Control) : Except HdlcStatus SupervisoryKind :=
  if c.frameKind≠.supervisory then .error .invalidFrameType
  else
    let kind := (c.raw >>> 2) &&& 0x03
    if kind=0 then .ok .receiveReady
    else if kind=1 then .ok .receiveNotReady
    else if kind=2 then .ok .reject
    else if kind=3 then .ok .selectiveReject
    else .error .invalidControlField

def unnumberedKind (c : Control) : Except HdlcStatus UnnumberedKind :=
  if c.frameKind≠.unnumbered then .error .invalidFrameType
  else
    let kind := c.raw &&& 0xef
    if kind=0x83 then .ok .snrm
    else if kind=0x63 then .ok .ua
    else if kind=0x43 then .ok .disc
    else if kind=0x0f then .ok .dm
    else if kind=0x87 then .ok .frmr
    else if kind=0x03 then .ok .ui
    else .error .invalidControlField

def sendSequence (c : Control) : UInt8 :=
  if c.frameKind≠.information then 0 else (c.raw >>> 1) &&& 0x07

def receiveSequence (c : Control) : UInt8 :=
  if c.frameKind=.unnumbered then 0 else (c.raw >>> 5) &&& 0x07

end Control

inductive SessionRole
  | client
  | server
  deriving DecidableEq, Repr

inductive SessionState
  | disconnected
  | awaitingConnection
  | connected
  | awaitingDisconnect
  deriving DecidableEq, Repr

structure SessionOptions where
  role : SessionRole
  clientAddress : Address
  serverAddress : Address
  limits : CodecLimits
  deriving DecidableEq, Repr

def ctrlSNRM : UInt8 := 0x93
def ctrlUA : UInt8 := 0x73
def ctrlDISC : UInt8 := 0x53
def ctrlReceiveReadyBase : UInt8 := 0x01

def nextSequence (seq : UInt8) : UInt8 := (seq+1) &&& 0x07

def makeInformationControl (ns nr : UInt8) (pollFinal : Bool) : UInt8 :=
  let ctrl := ((ns &&& 0x07) <<< 1) ||| ((nr &&& 0x07) <<< 5)
  if pollFinal then ctrl ||| 0x10 else ctrl

def makeReceiveReadyControl (nr : UInt8) (pollFinal : Bool) : UInt8 :=
  let ctrl := ctrlReceiveReadyBase ||| ((nr &&& 0x07) <<< 5)
  if pollFinal then ctrl ||| 0x10 else ctrl

structure Session where
  options : SessionOptions
  state : SessionState
  sendSequence : UInt8
  receiveSequence : UInt8
  connectResponsePending : Bool
  disconnectResponsePending : Bool
  deriving DecidableEq, Repr

namespace Session

def newSession (opts : SessionOptions) : Session := ⟨opts,.disconnected,0,0,false,false⟩

variable (s : Session)

def localAddress : Address :=
  match s.options.role with
  | .client => s.options.clientAddress
  | .server => s.options.serverAddress

def remoteAddress : Address :=
  match s.options.role with
  | .client => s.options.serverAddress
  | .server => s.options.clientAddress

def incomingAddressesMatch (frame : Frame) : Bool :=
  sameAddress frame.destination s.localAddress && sameAddress frame.source s.remoteAddress

def buildFrame (ctrl : UInt8) (information : List UInt8) : Except HdlcStatus (List UInt8) :=
  encodeFrame ⟨false,s.remoteAddress,s.localAddress,controlFromRaw ctrl,information⟩
    s.options.limits

def buildUnnumberedFrame (ctrl : UInt8) : Except HdlcStatus (List UInt8) := s.buildFrame ctrl []

def buildConnectRequest : Except HdlcStatus (List UInt8) × Session :=
  if s.options.role≠.client then (.error .unsupportedFeature,s)
  else if s.state≠.disconnected then (.error .unsupportedFrame,s)
  else
    match s.buildUnnumberedFrame ctrlSNRM with
    | .error err => (.error err,s)
    | .ok out =>
      (.ok out,{ s with state := .awaitingConnection, sendSequence := 0, receiveSequence := 0 })

def buildConnectResponse : Except HdlcStatus (List UInt8) × Session :=
  if s.options.role≠.server then (.error .unsupportedFeature,s)
  else if !s.connectResponsePending then (.error .unsupportedFrame,s)
  else
    match s.buildUnnumberedFrame ctrlUA with
    | .error err => (.error err,s)
    | .ok out => (.ok out,{ s with
        state := .connected
        connectResponsePending := false
        sendSequence := 0
        receiveSequence := 0 })

def buildDisconnectRequest : Except HdlcStatus (List UInt8) × Session :=
  if s.state≠.connected then (.error .unsupportedFrame,s)
  else
    match s.buildUnnumberedFrame ctrlDISC with
    | .error err => (.error err,s)
    | .ok out => (.ok out,{ s with state := .awaitingDisconnect })

def buildDisconnectResponse : Except HdlcStatus (List UInt8) × Session :=
  if !s.disconnectResponsePending then (.error .unsupportedFrame,s)
  else
    match s.buildUnnumberedFrame ctrlUA with
    | .error err => (.error err,s)
    | .ok out => (.ok out,{ s with
        state := .disconnected
        disconnectResponsePending := false
        sendSequence := 0
        receiveSequence := 0 })

def buildInformationFrame (information : List UInt8) (pollFinal : Bool) :
    Except HdlcStatus (List UInt8) × Session :=
  if s.state≠.connected then (.error .unsupportedFrame,s)
  else
    let ctrl := makeInformationControl s.sendSequence s.receiveSequence pollFinal
    match s.buildFrame ctrl information with
    | .error err => (.error err,s)
    | .ok out => (.ok out,{ s with sendSequence := nextSequence s.sendSequence })

def buildReceiveReadyFrame (pollFinal : Bool) : Except HdlcStatus (List UInt8) :=
  if s.state≠.connected then .error .unsupportedFrame
  else s.buildFrame (makeReceiveReadyControl s.receiveSequence pollFinal) []

def receiveInformationFrame (frame : Frame) : Option HdlcStatus × Session :=
  if s.state≠.connected then (some .unsupportedFrame,s)
  else if frame.control.sendSequence≠s.receiveSequence then (some .invalidControlField,s)
  else if frame.control.receiveSequence≠s.sendSequence then (some .invalidControlField,s)
  else (none,{ s with receiveSequence := nextSequence s.receiveSequence })

def receiveSupervisoryFrame (frame : Frame) : Option HdlcStatus :=
  if s.state≠.connected then some .unsupportedFrame
  else
    match frame.control.supervisoryKind with
    | .error err => some err
    | .ok _ =>
      if frame.control.receiveSequence≠s.sendSequence then some .invalidControlField else none

def receiveUnnumberedFrame (frame : Frame) : Option HdlcStatus × Session :=
  match frame.control.unnumberedKind with
  | .error err => (some err,s)
  | .ok .snrm =>
    if s.options.role≠.server ∨ s.state≠.disconnected then (some .unsupportedFrame,s)
    else (none,{ s with connectResponsePending := true, sendSequence := 0, receiveSequence := 0 })
  | .ok .ua =>
    if s.state=.awaitingConnection then
      (none,{ s with state := .connected, sendSequence := 0, receiveSequence := 0 })
    else if s.state=.awaitingDisconnect then
      (none,{ s with state := .disconnected, sendSequence := 0, receiveSequence := 0 })
    else (some .unsupportedFrame,s)
  | .ok .disc =>
    if s.state≠.connected then (some .unsupportedFrame,s)
    else (none,{ s with disconnectResponsePending := true })
  | .ok .dm => (none,{ s with state := .disconnected, sendSequence := 0, receiveSequence := 0 })
  | .ok _ => (some .unsupportedFrame,s)

/-- The three kinds are all there are, so the last branch of the source is never taken. -/
def receiveFrame (frame : Frame) : Option HdlcStatus × Session :=
  if !s.incomingAddressesMatch frame then (some .invalidAddress,s)
  else
    match frame.control.frameKind with
    | .information => s.receiveInformationFrame frame
    | .supervisory => (s.receiveSupervisoryFrame frame,s)
    | .unnumbered => s.receiveUnnumberedFrame frame

end Session
end DlmsHdlc.Go
