import DlmsHdlc.Go.Agreement
import DlmsHdlc.Go.Session
import DlmsHdlc.Library.SlidingWindow
import DlmsHdlc.Session.Window

/-! Two connected Go sessions over lossless first-in first-out channels, and the frames between
them. -/
namespace DlmsHdlc.Go
open Machine

/-! Frames that were built, and frames that arrive. -/

theorem encodeFrame_ok {frame : HdlcFrameBuffer} (h : frame.information.length < 2^63)
    {limits : CodecLimits} {bytes : List UInt8}
    (hok : encodeFrame (ofFrame frame) limits=.ok bytes) :
    frame.formatLength ≤ 2047 ∧ bytes=frame.wire := by
  obtain ⟨size,information,reassembled⟩ := limits
  have hencode := encodeFrame_ofFrame frame h ⟨size,information,reassembled⟩
  rw [ofLimits,hok] at hencode
  split at hencode
  · cases hencode
  split at hencode
  · cases hencode
  rename_i hformat
  split at hencode
  · cases hencode
  · cases hencode
    exact ⟨Nat.not_lt.mp hformat,rfl⟩

theorem decodeFrame_ok {bytes : List UInt8} {limits : CodecLimits} {frame : Frame}
    (h : decodeFrame bytes limits=.ok frame) :
    ∃ f limits', DlmsHdlc.decodeFrame (some bytes) bytes.length limits'=.ok f ∧
      frame=ofFrame f := by
  obtain ⟨size,information,reassembled⟩ := limits
  have hdecode := decodeFrame_eq bytes ⟨size,information,reassembled⟩
  rw [ofLimits,h] at hdecode
  cases hcpp : DlmsHdlc.decodeFrame (some bytes) bytes.length ⟨size,information,reassembled⟩ with
  | error status =>
    rw [hcpp] at hdecode
    cases hdecode
  | ok f =>
    rw [hcpp] at hdecode
    cases hdecode
    exact ⟨f,_,hcpp,rfl⟩

/-- What was encoded is decoded to the same frame. -/
theorem decodeFrame_wire {f : HdlcFrameBuffer} (hformat : f.formatLength ≤ 2047)
    {limits : CodecLimits} {frame : Frame} (h : decodeFrame f.wire limits=.ok frame) :
    frame=ofFrame f := by
  obtain ⟨decoded,limits',hcpp,rfl⟩ := decodeFrame_ok h
  obtain ⟨_,rfl⟩ := (f.decodeFrame_image_eq_ok_iff limits' hformat decoded).mp hcpp
  rfl

/-- Addresses that compare equal are equal. -/
theorem sameAddress_iff {a b : Address} : sameAddress a b=true ↔ a=b := by
  obtain ⟨rawValue,encodedSize⟩ := a
  obtain ⟨rawValue',encodedSize'⟩ := b
  rw [sameAddress,Bool.and_eq_true,beq_iff_eq,beq_iff_eq,Address.mk.injEq]

/-- The Poll/Final bit may be set before `N(R)` or after it. -/
theorem or_right_comm (a b c : UInt8) : a ||| b ||| c=a ||| c ||| b := by
  rw [UInt8.or_assoc,UInt8.or_comm b c,← UInt8.or_assoc]

theorem makeInformationControl_eq (ns nr : UInt8) (pollFinal : Bool) :
    makeInformationControl ns nr pollFinal=DlmsHdlc.makeInformationControl ns nr pollFinal := by
  rw [makeInformationControl,DlmsHdlc.makeInformationControl]
  cases pollFinal with
  | false => simp
  | true => exact or_right_comm ..

theorem makeReceiveReadyControl_eq (nr : UInt8) (pollFinal : Bool) :
    makeReceiveReadyControl nr pollFinal=DlmsHdlc.makeReceiveReadyControl nr pollFinal := by
  rw [makeReceiveReadyControl,DlmsHdlc.makeReceiveReadyControl]
  cases pollFinal with
  | false => simp [ctrlReceiveReadyBase,kReceiveReadyBase]
  | true => exact or_right_comm ..

/-- The same frame kind as a Go value. -/
def ofFrameKind : HdlcFrameKind → FrameKind
  | .information => .information
  | .supervisory => .supervisory
  | .unnumbered => .unnumbered

section Controls
variable (control : HdlcControl)

@[simp] theorem ofControl_frameKind :
    (ofControl control).frameKind=ofFrameKind control.frameKind := by
  unfold Control.frameKind HdlcControl.frameKind ofControl HdlcControl.encode
  dsimp only
  repeat' split
  all_goals rfl

@[simp] theorem ofControl_sendSequence :
    (ofControl control).sendSequence=control.sendSequence := by
  rw [Control.sendSequence,HdlcControl.sendSequence,ofControl_frameKind]
  cases control.frameKind <;> rfl

@[simp] theorem ofControl_receiveSequence :
    (ofControl control).receiveSequence=control.receiveSequence := by
  rw [Control.receiveSequence,HdlcControl.receiveSequence,ofControl_frameKind]
  cases control.frameKind <;> rfl

/-- A supervisory frame has one of the four supervisory kinds. -/
theorem ofControl_supervisoryKind (h : control.frameKind=.supervisory) :
    ∃ kind, (ofControl control).supervisoryKind=.ok kind := by
  obtain ⟨kind,hkind⟩ := HdlcControl.supervisoryKind_isOk h
  rw [Control.supervisoryKind,ofControl_frameKind,h,if_neg (by decide)]
  rw [HdlcControl.supervisoryKind,if_neg (not_not_intro h)] at hkind
  dsimp only [ofControl,HdlcControl.encode] at hkind ⊢
  split_ifs at hkind ⊢
  all_goals exact ⟨_,rfl⟩

end Controls

namespace Session

/-- A frame on its way and what it stands for in unbounded numbers: its payload with its place
among those its builder had built, and how many payloads its builder had accepted by then. -/
structure Sent where
  bytes : List UInt8
  message : SlidingWindow.Message (List UInt8)

/-- A session with its outgoing channel and with what it has done on this connection: the payloads
of the I-frames it built, those it accepted, and how many of its own are acknowledged. -/
structure Endpoint where
  session : Session
  built : List (List UInt8)
  accepted : List (List UInt8)
  acknowledged : ℕ
  outbox : List Sent

/-- What a side can do: the two calls, or to take in the oldest frame of the other side, which it
decodes under some limits. -/
inductive EndpointCall
  | buildInformationFrame (information : List UInt8) (pollFinal : Bool)
  | buildReceiveReadyFrame (pollFinal : Bool)
  | deliver (limits : CodecLimits)

/-- The length of a slice is an `int`. -/
def EndpointCall.Valid : EndpointCall → Prop
  | .buildInformationFrame information _ => information.length < 2^63
  | _ => True

instance : (call : EndpointCall) → Decidable call.Valid
  | .buildInformationFrame information _ => inferInstanceAs (Decidable (information.length < 2^63))
  | .buildReceiveReadyFrame _ => .isTrue trivial
  | .deliver _ => .isTrue trivial

namespace Endpoint

def start (session : Session) : Endpoint := ⟨session,[],[],0,[]⟩

def buildInformationFrame (endpoint : Endpoint) (information : List UInt8) (pollFinal : Bool) :
    Endpoint :=
  match endpoint.session.buildInformationFrame information pollFinal with
  | (.error _,session) => { endpoint with session := session }
  | (.ok bytes,session) => { endpoint with
      session := session
      built := endpoint.built ++ [information]
      outbox := endpoint.outbox ++
        [⟨bytes,.data endpoint.built.length endpoint.accepted.length information⟩] }

def buildReceiveReadyFrame (endpoint : Endpoint) (pollFinal : Bool) : Endpoint :=
  match endpoint.session.buildReceiveReadyFrame pollFinal with
  | .error _ => endpoint
  | .ok bytes => { endpoint with
      outbox := endpoint.outbox ++ [⟨bytes,.acknowledge endpoint.accepted.length⟩] }

/-- An accepted frame acknowledges what its builder had accepted. -/
def receiveFrame (endpoint : Endpoint) (sent : Sent) (frame : Frame) :
    Option HdlcStatus × Endpoint :=
  match endpoint.session.receiveFrame frame with
  | (some err,session) => (some err,{ endpoint with session := session })
  | (none,session) => (none,{ endpoint with
      session := session
      accepted := endpoint.accepted ++
        if frame.control.frameKind=.information then [frame.information] else []
      acknowledged := sent.message.next })

/-- The oldest frame that a side has sent, if the other side can decode it, and those behind it. -/
def arrival (endpoint : Endpoint) (limits : CodecLimits) : Option (Sent × Frame × List Sent) :=
  match endpoint.outbox with
  | [] => none
  | sent::rest => (decodeFrame sent.bytes limits).toOption.map fun frame => (sent,frame,rest)

/-- The error of `ReceiveFrame` if a frame is delivered, and the two sides afterwards. -/
def call (near far : Endpoint) : EndpointCall → Option HdlcStatus × Endpoint × Endpoint
  | .buildInformationFrame information pollFinal =>
    (none,near.buildInformationFrame information pollFinal,far)
  | .buildReceiveReadyFrame pollFinal => (none,near.buildReceiveReadyFrame pollFinal,far)
  | .deliver limits =>
    match far.arrival limits with
    | none => (none,near,far)
    | some (sent,frame,rest) =>
      ((near.receiveFrame sent frame).1,(near.receiveFrame sent frame).2,
        { far with outbox := rest })

/-- At most seven I-frames are unacknowledged. -/
def Windowed (endpoint : Endpoint) : Prop := endpoint.built.length ≤ endpoint.acknowledged+7

/-- What one side has accepted, and then what is on its way to it, is what the other side built. -/
def Receives (near far : Endpoint) : Prop :=
  near.accepted ++ far.outbox.filterMap (fun sent => sent.message.item)=far.built

instance (endpoint : Endpoint) : Decidable endpoint.Windowed :=
  inferInstanceAs (Decidable (_ ≤ _))

instance (near far : Endpoint) : Decidable (near.Receives far) :=
  inferInstanceAs (Decidable (_=_))

end Endpoint

structure Link where
  client : Endpoint
  server : Endpoint

namespace Link

def start (client server : Session) : Link := ⟨.start client,.start server⟩

/-- The side that makes the call. -/
def near (link : Link) : SessionRole → Endpoint
  | .client => link.client
  | .server => link.server

def far (link : Link) : SessionRole → Endpoint
  | .client => link.server
  | .server => link.client

def step (link : Link) : SessionRole × EndpointCall → Option HdlcStatus × Link
  | (.client,call) =>
    let (err,client,server) := link.client.call link.server call
    (err,⟨client,server⟩)
  | (.server,call) =>
    let (err,server,client) := link.server.call link.client call
    (err,⟨client,server⟩)

/-- The two sides and the two channels between them. -/
def machine : Mealy Link (SessionRole × EndpointCall) (Option HdlcStatus) := ⟨step⟩

@[simp] theorem machine_step (link : Link) (move : SessionRole × EndpointCall) :
    machine.step link move=link.step move := rfl

def Windowed (link : Link) : Prop := link.client.Windowed ∧ link.server.Windowed

/-- A delivered frame is accepted, and afterwards both sides have what the other one built. -/
def Accepts (link : Link) (move : SessionRole × EndpointCall) : Prop :=
  (link.step move).1=none ∧ (link.step move).2.client.Receives (link.step move).2.server ∧
    (link.step move).2.server.Receives (link.step move).2.client

instance (link : Link) : Decidable link.Windowed := inferInstanceAs (Decidable (_ ∧ _))

instance (link : Link) (move : SessionRole × EndpointCall) : Decidable (link.Accepts move) :=
  inferInstanceAs (Decidable (_ ∧ _))

/-- When a delivered frame was built, its builder had accepted every I-frame that its receiver has
built by now: none crossed it on the way. -/
def Uncrossed (link : Link) (move : SessionRole × EndpointCall) : Prop :=
  ∀ limits sent frame rest, move.2=.deliver limits →
    (link.far move.1).arrival limits=some (sent,frame,rest) →
      sent.message.next=(link.near move.1).built.length

end Link

/-- The two sides of one association. -/
structure Mirrored (client server : Session) : Prop where
  clientAddress : client.options.clientAddress=server.options.clientAddress
  serverAddress : client.options.serverAddress=server.options.serverAddress

/-- A completed exchange: the server accepts the SNRM the client built, and the client accepts the
UA the server answered with. -/
inductive Exchange (client server : Session) : Session → Session → Prop
  | completed {snrm ua : List UInt8} {requesting requested client' server' : Session}
      {request response : Frame} {limits limits' : CodecLimits}
      (built : client.buildConnectRequest=(.ok snrm,requesting))
      (arrived : decodeFrame snrm limits=.ok request)
      (accepted : server.receiveFrame request=(none,requested))
      (answered : requested.buildConnectResponse=(.ok ua,server'))
      (returned : decodeFrame ua limits'=.ok response)
      (confirmed : requesting.receiveFrame response=(none,client')) :
      Exchange client server client' server'

end Session
end DlmsHdlc.Go
