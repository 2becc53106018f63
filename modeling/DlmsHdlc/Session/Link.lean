import DlmsHdlc.Library.SlidingWindow
import DlmsHdlc.Session.Window

/-! Two connected sessions over lossy first-in first-out channels, and the sliding-window protocol
they run. -/
namespace DlmsHdlc.HdlcSession

/-- A session with its outgoing channel and with what it has done on this connection: the payloads
of the I-frames it built, those it accepted, and how many of its own are acknowledged. -/
structure Endpoint where
  session : HdlcSession
  built : List (List UInt8)
  accepted : List (List UInt8)
  acknowledged : ℕ
  outbox : List (List UInt8)

namespace Endpoint

def start (session : HdlcSession) : Endpoint := ⟨session,[],[],0,[]⟩

/-- The session after a call; the unbounded count follows the steps of `V(A)`. -/
def advance (endpoint : Endpoint) (session : HdlcSession) : Endpoint :=
  { endpoint with
    session := session
    acknowledged := endpoint.acknowledged+
      ((session.acknowledgeSequence - endpoint.session.acknowledgeSequence) &&& 0x07).toNat }

def send (endpoint : Endpoint) (bytes : List UInt8) : Endpoint :=
  { endpoint with outbox := endpoint.outbox ++ [bytes] }

def buildInformationFrame (endpoint : Endpoint) (information : Pointer) (size : UInt64)
    (pollFinal : Bool) : Endpoint :=
  match endpoint.session.buildInformationFrame information size pollFinal with
  | (.error _,session) => endpoint.advance session
  | (.ok bytes,session) => { (endpoint.advance session).send bytes with
      built := endpoint.built ++ [information.read size.toNat] }

def buildReceiveReadyFrame (endpoint : Endpoint) (pollFinal : Bool) : Endpoint :=
  match endpoint.session.buildReceiveReadyFrame pollFinal with
  | (.error _,session) => endpoint.advance session
  | (.ok bytes,session) => (endpoint.advance session).send bytes

def receiveFrame (endpoint : Endpoint) (frame : HdlcFrameBuffer) : Endpoint :=
  { endpoint.advance (endpoint.session.receiveFrame frame).2 with
    accepted := endpoint.accepted ++
      if (endpoint.session.receiveFrame frame).1=.ok ∧ frame.control.frameKind=.information then
        [frame.information] else [] }

end Endpoint

/-- What one side can do, or what can happen to the frames it sent: calls, the loss of any frame
on its way, and the arrival of the oldest frame of the other side. -/
inductive Move (near far : Endpoint) : Endpoint → Endpoint → Prop
  | buildInformationFrame {information : Pointer} {size : UInt64}
      (valid : ValidPointer information size) (pollFinal : Bool) :
      Move near far (near.buildInformationFrame information size pollFinal) far
  | buildReceiveReadyFrame (pollFinal : Bool) :
      Move near far (near.buildReceiveReadyFrame pollFinal) far
  | drop {front back : List (List UInt8)} {bytes : List UInt8}
      (sent : near.outbox=front ++ bytes :: back) :
      Move near far { near with outbox := front ++ back } far
  | deliver {bytes : List UInt8} {rest : List (List UInt8)} {limits : HdlcCodecLimits}
      {frame : HdlcFrameBuffer} (sent : far.outbox=bytes :: rest)
      (decoded : decodeFrame (some bytes) bytes.length limits=.ok frame) :
      Move near far (near.receiveFrame frame) { far with outbox := rest }

/-- One step of the client or of the server. -/
inductive Step : Endpoint × Endpoint → Endpoint × Endpoint → Prop
  | client {client server client' server' : Endpoint} (move : Move client server client' server') :
      Step (client,server) (client',server')
  | server {client server client' server' : Endpoint} (move : Move server client server' client') :
      Step (client,server) (client',server')

/-- What holds at all times for the I-frames of one side, and for the frames it has on the way. -/
structure Delivers (near far : Endpoint) : Prop where
  accepted : far.accepted <+: near.built
  acknowledged_le : near.acknowledged ≤ far.accepted.length
  accepted_le : far.accepted.length ≤ near.built.length
  window : near.built.length ≤ near.acknowledged+near.session.windowSizeTransmit.toNat
  admitted : ∀ bytes ∈ near.outbox, ∀ limits frame,
    decodeFrame (some bytes) bytes.length limits=.ok frame →
      far.session.acceptsReceiveSequence frame.control.receiveSequence=true ∧
      ((far.session.receiveFrame frame).1=.ok ∨ frame.control.frameKind=.information ∧
        frame.control.sendSequence≠far.session.receiveSequence)

/-- The sequence variables are the unbounded counts modulo eight. -/
structure Numbers (near far : Endpoint) : Prop where
  send : near.session.sendSequence.toNat=near.built.length%8
  receive : far.session.receiveSequence.toNat=far.accepted.length%8
  acknowledge : near.session.acknowledgeSequence.toNat=near.acknowledged%8

/-- What the two sessions keep along every run that starts with nothing sent yet. -/
def Delivering (client server : HdlcSession) : Prop :=
  ∀ link, Relation.ReflTransGen Step (.start client,.start server) link →
    Delivers link.1 link.2 ∧ Delivers link.2 link.1

/-- The frame on the wire carries the message, with its counters modulo eight. -/
inductive Carries (options : HdlcSessionOptions) :
    List UInt8 → SlidingWindow.Message (List UInt8) → Prop
  | information {control : HdlcControl} {index next : ℕ} {payload : List UInt8}
      (kind : control.frameKind=.information) (send : control.sendSequence.toNat=index%8)
      (receive : control.receiveSequence.toNat=next%8)
      (format : ((new options).outgoing control payload).formatLength ≤ 2047) :
      Carries options ((new options).outgoing control payload).wire (.data index next payload)
  | receiveReady {control : HdlcControl} {next : ℕ} (kind : control.frameKind=.supervisory)
      (receive : control.receiveSequence.toNat=next%8)
      (format : ((new options).outgoing control []).formatLength ≤ 2047) :
      Carries options ((new options).outgoing control []).wire (.acknowledge next)

/-- The endpoint runs the station of the abstract protocol. -/
structure Represents (options : HdlcSessionOptions) (endpoint : Endpoint)
    (station : SlidingWindow.Station (List UInt8)) : Prop where
  configured : endpoint.session.Configured options
  state : endpoint.session.state=.connected
  window : endpoint.session.windowSizeTransmit.toNat=station.window
  send : endpoint.session.sendSequence.toNat=station.built.length%8
  receive : endpoint.session.receiveSequence.toNat=station.accepted.length%8
  acknowledge : endpoint.session.acknowledgeSequence.toNat=station.acknowledged%8
  built : endpoint.built=station.built
  accepted : endpoint.accepted=station.accepted
  acknowledged : endpoint.acknowledged=station.acknowledged
  outbox : List.Forall₂ (Carries options) endpoint.outbox station.outbox

/-- Three bits tell how far a counter is ahead of another, up to seven. -/
theorem distance_toNat {x y : UInt8} {a b : ℕ} (hx : x.toNat=a%8) (hy : y.toNat=b%8) (hle : a ≤ b)
    (hlt : b ≤ a+7) : ((y - x) &&& 0x07).toNat=b-a := by
  have hylt := y.toNat_lt
  rw [HdlcControl.and_seven_toNat,UInt8.toNat_sub,hx,hy]
  omega

theorem nextSequence_toNat {x : UInt8} {a : ℕ} (hx : x.toNat=a%8) :
    (nextSequence x).toNat=(a+1)%8 := by
  rw [nextSequence,HdlcControl.and_seven_toNat,UInt8.toNat_add,hx]
  change (a%8+1)%2^8%8=_
  omega

theorem and_seven_of_mod {x : UInt8} {a : ℕ} (hx : x.toNat=a%8) : (x &&& 0x07).toNat=a%8 := by
  rw [HdlcControl.and_seven_toNat,hx]
  omega

/-- An I-frame is built within the window only, and numbered by the sequence variables. -/
theorem buildInformationFrame_cases (session : HdlcSession) {information : Pointer} {size : UInt64}
    (valid : ValidPointer information size) (pollFinal : Bool) :
    (∃ status, session.buildInformationFrame information size pollFinal=(.error status,session)) ∨
      session.canSendInformationFrame=true ∧
        let frame := session.outgoing (informationControl session.sendSequence
          session.receiveSequence pollFinal) (information.read size.toNat)
        frame.formatLength ≤ 2047 ∧
          session.buildInformationFrame information size pollFinal=
            (.ok frame.wire,{ session with sendSequence := nextSequence session.sendSequence }) := by
  unfold buildInformationFrame
  split
  · exact .inl ⟨_,rfl⟩
  split
  · exact .inl ⟨_,rfl⟩
  rename_i hsend
  dsimp only
  split
  · exact .inl ⟨_,rfl⟩
  · rename_i hbuilt
    obtain ⟨hfits,rfl⟩ := (session.buildFrame_eq_ok_iff (informationControl session.sendSequence
      session.receiveSequence pollFinal) information size valid.1 valid.2 _).mp hbuilt
    exact .inr ⟨by simpa using hsend,hfits.format_le,rfl⟩

theorem buildReceiveReadyFrame_cases (session : HdlcSession) (pollFinal : Bool) :
    (∃ status, session.buildReceiveReadyFrame pollFinal=(.error status,session)) ∨
      let frame := session.outgoing (receiveReadyControl session.receiveSequence pollFinal) []
      frame.formatLength ≤ 2047 ∧
        session.buildReceiveReadyFrame pollFinal=(.ok frame.wire,session) := by
  unfold buildReceiveReadyFrame
  split
  · exact .inl ⟨_,rfl⟩
  cases hbuilt : session.buildSupervisoryFrame
    (makeReceiveReadyControl session.receiveSequence pollFinal) with
  | error status => exact .inl ⟨_,rfl⟩
  | ok bytes =>
    obtain ⟨hfits,rfl⟩ := (session.buildFrame_eq_ok_iff (receiveReadyControl
      session.receiveSequence pollFinal) none 0 (by decide) rfl _).mp hbuilt
    exact .inr ⟨hfits.format_le,rfl⟩

theorem Endpoint.advance_acknowledged (endpoint : Endpoint) (session : HdlcSession)
    (h : session.acknowledgeSequence=endpoint.session.acknowledgeSequence) :
    (endpoint.advance session).acknowledged=endpoint.acknowledged := by
  simp [Endpoint.advance,h]

theorem Endpoint.advance_self (endpoint : Endpoint) : endpoint.advance endpoint.session=endpoint := by
  have hacknowledged := endpoint.advance_acknowledged endpoint.session rfl
  unfold Endpoint.advance at hacknowledged ⊢
  dsimp only at hacknowledged
  rw [hacknowledged]

/-- What the flows promise to the receiver of a message. -/
structure Admissible (station : SlidingWindow.Station (List UInt8))
    (message : SlidingWindow.Message (List UInt8)) : Prop where
  acknowledged_le : station.acknowledged ≤ message.next
  next_le : message.next ≤ station.built.length
  window : station.built.length ≤ station.acknowledged+7
  index : ∀ index ∈ message.index,
    station.accepted.length ≤ index ∧ index < station.accepted.length+8

open SlidingWindow in
theorem admissible_of_flows {near far : Station (List UInt8)} (h : Flow near far)
    (h' : Flow far near) (hnear : near.window ≤ 7) (hfar : far.window ≤ 7)
    {message : Message (List UInt8)} (hmessage : message ∈ far.outbox) :
    Admissible near message where
  acknowledged_le := (h.next_le hmessage).1
  next_le := (h.next_le hmessage).2
  window := h.window.trans (Nat.add_le_add_left hnear _)
  index index hindex := by
    cases message with
    | acknowledge next => cases hindex
    | data index' next item =>
      cases hindex
      have hle := (h'.items _ _ _ hmessage).1
      obtain ⟨hlt,hwindow⟩ := h'.index_lt hmessage
      exact ⟨hle,by omega⟩

section Endpoints
variable {options peer : HdlcSessionOptions} {endpoint : Endpoint}
  {station : SlidingWindow.Station (List UInt8)} (h : Represents options endpoint station)
include h

/-- The window of the session is the room of the station. -/
theorem Represents.room (hacknowledged : station.acknowledged ≤ station.built.length)
    (hwindow : station.built.length ≤ station.acknowledged+7)
    (hsend : endpoint.session.canSendInformationFrame=true) :
    station.built.length < station.acknowledged+station.window := by
  have hdistance := distance_toNat h.acknowledge h.send hacknowledged hwindow
  have hlt := of_decide_eq_true hsend
  rw [UInt8.lt_iff_toNat_lt,hdistance,h.window] at hlt
  omega

theorem Represents.buildInformationFrame
    (hacknowledged : station.acknowledged ≤ station.built.length)
    (hwindow : station.built.length ≤ station.acknowledged+7) {information : Pointer}
    {size : UInt64} (valid : ValidPointer information size) (pollFinal : Bool) :
    Represents options (endpoint.buildInformationFrame information size pollFinal) station ∨
      station.built.length < station.acknowledged+station.window ∧
        Represents options (endpoint.buildInformationFrame information size pollFinal)
          (station.build (information.read size.toNat)) := by
  obtain ⟨status,hfailed⟩ | ⟨hsend,hformat,hbuilt⟩ :=
    endpoint.session.buildInformationFrame_cases valid pollFinal
  · left
    rw [Endpoint.buildInformationFrame,hfailed]
    dsimp only
    rw [Endpoint.advance_self]
    exact h
  · right
    refine ⟨h.room hacknowledged hwindow hsend,?_⟩
    rw [Endpoint.buildInformationFrame,hbuilt]
    have hcarries : Carries options (endpoint.session.outgoing (informationControl
        endpoint.session.sendSequence endpoint.session.receiveSequence pollFinal)
          (information.read size.toNat)).wire
        (.data station.built.length station.accepted.length (information.read size.toNat)) := by
      rw [h.configured.outgoing] at hformat ⊢
      apply Carries.information
      · simp
      · rw [informationControl_sendSequence]
        exact and_seven_of_mod h.send
      · rw [informationControl_receiveSequence]
        exact and_seven_of_mod h.receive
      · exact hformat
    exact {
      configured := h.configured
      state := h.state
      window := h.window
      send := by
        simp only [SlidingWindow.Station.build,List.length_append,List.length_singleton]
        exact nextSequence_toNat h.send
      receive := h.receive
      acknowledge := h.acknowledge
      built := congrArg (· ++ [information.read size.toNat]) h.built
      accepted := h.accepted
      acknowledged := (endpoint.advance_acknowledged _ rfl).trans h.acknowledged
      outbox := List.rel_append h.outbox (.cons hcarries .nil) }

theorem Represents.buildReceiveReadyFrame (pollFinal : Bool) :
    Represents options (endpoint.buildReceiveReadyFrame pollFinal) station ∨
      Represents options (endpoint.buildReceiveReadyFrame pollFinal) station.acknowledge := by
  obtain ⟨status,hfailed⟩ | ⟨hformat,hbuilt⟩ :=
    endpoint.session.buildReceiveReadyFrame_cases pollFinal
  · left
    rw [Endpoint.buildReceiveReadyFrame,hfailed]
    dsimp only
    rw [Endpoint.advance_self]
    exact h
  · right
    rw [Endpoint.buildReceiveReadyFrame,hbuilt]
    dsimp only
    rw [Endpoint.advance_self]
    have hcarries : Carries options (endpoint.session.outgoing (receiveReadyControl
        endpoint.session.receiveSequence pollFinal) []).wire
        (.acknowledge station.accepted.length) := by
      rw [h.configured.outgoing] at hformat ⊢
      apply Carries.receiveReady
      · simp
      · rw [receiveReadyControl_receiveSequence]
        exact and_seven_of_mod h.receive
      · exact hformat
    exact { h with outbox := List.rel_append h.outbox (.cons hcarries .nil) }

/-- An admissible acknowledgement is accepted by the three-bit comparison. -/
theorem Represents.acceptsReceiveSequence {message : SlidingWindow.Message (List UInt8)}
    (admissible : Admissible station message) {nr : UInt8} (hnr : nr.toNat=message.next%8) :
    endpoint.session.acceptsReceiveSequence nr=true := by
  have hle := admissible.acknowledged_le
  have hnext := admissible.next_le
  have hwindow := admissible.window
  have hbuilt := distance_toNat h.acknowledge h.send (hle.trans hnext) hwindow
  have hacknowledged := distance_toNat h.acknowledge hnr hle (hnext.trans hwindow)
  apply decide_eq_true
  rw [UInt8.le_iff_toNat_le,hbuilt,hacknowledged]
  omega

/-- The unbounded count follows it. -/
theorem Represents.advance {message : SlidingWindow.Message (List UInt8)}
    (admissible : Admissible station message) {session : HdlcSession}
    (hnr : session.acknowledgeSequence.toNat=message.next%8) :
    (endpoint.advance session).acknowledged=message.next := by
  have hle := admissible.acknowledged_le
  have hnext := admissible.next_le
  have hwindow := admissible.window
  have hdistance := distance_toNat h.acknowledge hnr hle (hnext.trans hwindow)
  rw [Endpoint.advance,hdistance,h.acknowledged]
  exact Nat.add_sub_of_le hle

variable (peers : (new peer).remoteAddress=(new options).localAddress ∧
  (new peer).localAddress=(new options).remoteAddress)
include peers

theorem Represents.addresses (control : HdlcControl) (payload : List UInt8) :
    endpoint.session.incomingAddressesMatch ((new peer).outgoing control payload)=true := by
  have hincoming := incoming_addresses h.configured control payload
  unfold incoming at hincoming
  rw [← peers.1,← peers.2] at hincoming
  exact hincoming

/-- An I-frame is accepted exactly when it is the next one. -/
theorem Represents.receiveFrame_information {control : HdlcControl} {index next : ℕ}
    {payload : List UInt8} (kind : control.frameKind=.information)
    (send : control.sendSequence.toNat=index%8) (receive : control.receiveSequence.toNat=next%8)
    (admissible : Admissible station (.data index next payload)) :
    endpoint.session.receiveFrame ((new peer).outgoing control payload)=
      if index=station.accepted.length then (.ok,{ endpoint.session with
        acknowledgeSequence := control.receiveSequence
        receiveSequence := nextSequence endpoint.session.receiveSequence })
      else (.invalidControlField,endpoint.session) := by
  have haddresses := h.addresses peers control payload
  have haccepts := h.acceptsReceiveSequence admissible receive
  obtain ⟨hle,hlt⟩ := admissible.index index rfl
  have hsequence : control.sendSequence=endpoint.session.receiveSequence ↔
      index=station.accepted.length := by
    rw [← UInt8.toNat_inj,send,h.receive]
    omega
  rw [endpoint.session.receiveFrame_of_information haddresses kind]
  dsimp only [receiveInformationFrame,outgoing]
  rw [if_neg (not_not_intro h.state),haccepts]
  by_cases hindex : index=station.accepted.length
  · rw [if_neg (not_not_intro (hsequence.mpr hindex)),if_pos hindex]
    rfl
  · rw [if_pos (mt hsequence.mp hindex),if_neg hindex]

/-- A receive-ready frame is always accepted. -/
theorem Represents.receiveFrame_receiveReady {control : HdlcControl} {next : ℕ}
    (kind : control.frameKind=.supervisory) (receive : control.receiveSequence.toNat=next%8)
    (admissible : Admissible station (.acknowledge next)) :
    endpoint.session.receiveFrame ((new peer).outgoing control [])=
      (.ok,{ endpoint.session with acknowledgeSequence := control.receiveSequence }) := by
  have haddresses := h.addresses peers control []
  have haccepts := h.acceptsReceiveSequence admissible receive
  obtain ⟨supervisory,hsupervisory⟩ := HdlcControl.supervisoryKind_isOk kind
  rw [endpoint.session.receiveFrame_of_supervisory haddresses kind]
  dsimp only [receiveSupervisoryFrame,outgoing]
  rw [if_neg (not_not_intro h.state),hsupervisory,haccepts]
  rfl

/-- The endpoint takes in a frame as the station takes in the message. -/
theorem Represents.deliver {bytes : List UInt8} {message : SlidingWindow.Message (List UInt8)}
    (carries : Carries peer bytes message) (admissible : Admissible station message)
    {limits : HdlcCodecLimits} {frame : HdlcFrameBuffer}
    (decoded : decodeFrame (some bytes) bytes.length limits=.ok frame) :
    Represents options (endpoint.receiveFrame frame) (station.receive message) ∧
      endpoint.session.acceptsReceiveSequence frame.control.receiveSequence=true ∧
      ((endpoint.session.receiveFrame frame).1=.ok ∨ frame.control.frameKind=.information ∧
        frame.control.sendSequence≠endpoint.session.receiveSequence) := by
  cases carries with
  | @information control index next payload kind send receive format =>
    obtain ⟨_,rfl⟩ := (HdlcFrameBuffer.decodeFrame_image_eq_ok_iff _ limits format frame).mp decoded
    have hreceived := h.receiveFrame_information peers kind send receive admissible
    have haccepts := h.acceptsReceiveSequence admissible receive
    by_cases hindex : index=station.accepted.length
    · rw [if_pos hindex] at hreceived
      refine ⟨?_,haccepts,.inl (congrArg Prod.fst hreceived)⟩
      rw [Endpoint.receiveFrame,hreceived,if_pos ⟨rfl,kind⟩,SlidingWindow.Station.receive,
        if_pos hindex]
      exact {
        configured := h.configured
        state := h.state
        window := h.window
        send := h.send
        receive := by
          simp only [List.length_append,List.length_singleton]
          exact nextSequence_toNat h.receive
        acknowledge := receive
        built := h.built
        accepted := congrArg (· ++ [payload]) h.accepted
        acknowledged := h.advance admissible receive
        outbox := h.outbox }
    · rw [if_neg hindex] at hreceived
      refine ⟨?_,haccepts,.inr ⟨kind,?_⟩⟩
      · rw [Endpoint.receiveFrame,hreceived,if_neg (by rintro ⟨⟨⟩,_⟩),Endpoint.advance_self,
          SlidingWindow.Station.receive,if_neg hindex,List.append_nil]
        exact h
      · obtain ⟨hle,hlt⟩ := admissible.index index rfl
        change control.sendSequence≠_
        rw [ne_eq,← UInt8.toNat_inj,send,h.receive]
        omega
  | @receiveReady control next kind receive format =>
    obtain ⟨_,rfl⟩ := (HdlcFrameBuffer.decodeFrame_image_eq_ok_iff _ limits format frame).mp decoded
    have hreceived := h.receiveFrame_receiveReady peers kind receive admissible
    have haccepts := h.acceptsReceiveSequence admissible receive
    have hkind : ¬ (HdlcStatus.ok=.ok ∧ control.frameKind=.information) := by
      rw [kind]
      rintro ⟨_,⟨⟩⟩
    refine ⟨?_,haccepts,.inl (congrArg Prod.fst hreceived)⟩
    rw [Endpoint.receiveFrame,hreceived,if_neg (by exact hkind),List.append_nil]
    exact { h with
      acknowledge := receive
      acknowledged := h.advance admissible receive }

end Endpoints
/-- Related lists split together. -/
theorem forall₂_append_cons {α β : Type*} {R : α → β → Prop} {front back : List α} {x : α}
    {ys : List β} (h : List.Forall₂ R (front ++ x :: back) ys) :
    ∃ front' y back', ys=front' ++ y :: back' ∧ R x y ∧ List.Forall₂ R front front' ∧
      List.Forall₂ R back back' := by
  induction front generalizing ys with
  | nil =>
    obtain _ | ⟨hxy,hback⟩ := h
    exact ⟨[],_,_,rfl,hxy,.nil,hback⟩
  | cons z front ih =>
    obtain _ | ⟨hz,hrest⟩ := h
    obtain ⟨front',y,back',rfl,hxy,hfront,hback⟩ := ih hrest
    exact ⟨_ :: front',y,back',rfl,hxy,.cons hz hfront,hback⟩

section Simulation
variable {nearOptions farOptions : HdlcSessionOptions} {near far near' far' : Endpoint}
  {n f : SlidingWindow.Station (List UInt8)}

open SlidingWindow in
/-- Every move of an endpoint is a move of its station, or changes nothing there. -/
theorem Move.simulated (move : Move near far near' far')
    (hnear : Represents nearOptions near n) (hfar : Represents farOptions far f)
    (peers : (new farOptions).remoteAddress=(new nearOptions).localAddress ∧
      (new farOptions).localAddress=(new nearOptions).remoteAddress)
    (hflow : Flow n f) (hflow' : Flow f n) (hwindow : n.window ≤ 7) (hwindow' : f.window ≤ 7) :
    ∃ n' f', ((n'=n ∧ f'=f) ∨ SlidingWindow.Move n f n' f') ∧
      Represents nearOptions near' n' ∧ Represents farOptions far' f' := by
  have hacknowledged := hflow.acknowledged.trans hflow.accepted_le
  have hroom := hflow.window.trans (Nat.add_le_add_left hwindow n.acknowledged)
  cases move with
  | buildInformationFrame valid pollFinal =>
    obtain hsame | ⟨room,hbuilt⟩ := hnear.buildInformationFrame hacknowledged hroom valid pollFinal
    · exact ⟨n,f,.inl ⟨rfl,rfl⟩,hsame,hfar⟩
    · exact ⟨_,f,.inr (.build _ room),hbuilt,hfar⟩
  | buildReceiveReadyFrame pollFinal =>
    obtain hsame | hbuilt := hnear.buildReceiveReadyFrame pollFinal
    · exact ⟨n,f,.inl ⟨rfl,rfl⟩,hsame,hfar⟩
    · exact ⟨_,f,.inr .acknowledge,hbuilt,hfar⟩
  | drop sent =>
    have houtbox := hnear.outbox
    rw [sent] at houtbox
    obtain ⟨front',message,back',hstation,_,hfront,hback⟩ := forall₂_append_cons houtbox
    exact ⟨_,f,.inr (.drop hstation),{ hnear with outbox := List.rel_append hfront hback },hfar⟩
  | deliver sent decoded =>
    have houtbox := hfar.outbox
    rw [sent] at houtbox
    generalize hstation : f.outbox=messages at houtbox
    obtain _ | ⟨carries,hrest⟩ := houtbox
    have admissible := admissible_of_flows hflow hflow' hwindow hwindow'
      (by rw [hstation]; exact List.mem_cons_self)
    exact ⟨_,_,.inr (.deliver hstation),(hnear.deliver peers carries admissible decoded).1,
      { hfar with outbox := hrest }⟩

open SlidingWindow in
/-- What the stations keep, said of the endpoints. -/
theorem Represents.delivers (hnear : Represents nearOptions near n)
    (hfar : Represents farOptions far f)
    (peers : (new nearOptions).remoteAddress=(new farOptions).localAddress ∧
      (new nearOptions).localAddress=(new farOptions).remoteAddress)
    (hflow : Flow n f) (hflow' : Flow f n) (hwindow : n.window ≤ 7) (hwindow' : f.window ≤ 7) :
    Delivers near far where
  accepted := by
    rw [hnear.built,hfar.accepted]
    exact hflow.accepted
  acknowledged_le := by
    rw [hnear.acknowledged,hfar.accepted]
    exact hflow.acknowledged
  accepted_le := by
    rw [hnear.built,hfar.accepted]
    exact hflow.accepted_le
  window := by
    rw [hnear.built,hnear.acknowledged,hnear.window]
    exact hflow.window
  admitted bytes hbytes limits frame decoded := by
    obtain ⟨front,back,hsplit⟩ := List.append_of_mem hbytes
    have houtbox := hnear.outbox
    rw [hsplit] at houtbox
    obtain ⟨front',message,back',hstation,carries,_,_⟩ := forall₂_append_cons houtbox
    have admissible := admissible_of_flows hflow' hflow hwindow' hwindow
      (by rw [hstation]; exact List.mem_append_right _ List.mem_cons_self)
    exact (hfar.deliver peers carries admissible decoded).2

theorem Represents.numbers (hnear : Represents nearOptions near n)
    (hfar : Represents farOptions far f) : Numbers near far where
  send := by
    rw [hnear.built]
    exact hnear.send
  receive := by
    rw [hfar.accepted]
    exact hfar.receive
  acknowledge := by
    rw [hnear.acknowledged]
    exact hnear.acknowledge

end Simulation
/-- A session that has just been connected is a station at its start. -/
theorem Opened.represents {options : HdlcSessionOptions} {session : HdlcSession}
    (h : session.Opened) (hconfigured : session.Configured options) :
    Represents options (.start session) (.start session.windowSizeTransmit.toNat) where
  configured := hconfigured
  state := h.state
  window := rfl
  send := by
    rw [Endpoint.start,h.send]
    rfl
  receive := by
    rw [Endpoint.start,h.receive]
    rfl
  acknowledge := by
    rw [Endpoint.start,h.acknowledge]
    rfl
  built := rfl
  accepted := rfl
  acknowledged := rfl
  outbox := .nil

variable {clientOptions serverOptions : HdlcSessionOptions}
  {client server client' server' : HdlcSession}

theorem Association.peers (h : Association clientOptions serverOptions) :
    (new clientOptions).remoteAddress=(new serverOptions).localAddress ∧
      (new clientOptions).localAddress=(new serverOptions).remoteAddress :=
  h.addresses rfl rfl

/-- Every run of two connected sessions is a run of the sliding-window protocol. -/
theorem run_simulated (association : Association clientOptions serverOptions)
    (hclient : Represents clientOptions (.start client) (.start client.windowSizeTransmit.toNat))
    (hserver : Represents serverOptions (.start server) (.start server.windowSizeTransmit.toNat))
    (hclientWindow : client.windowSizeTransmit.toNat ≤ 7)
    (hserverWindow : server.windowSizeTransmit.toNat ≤ 7) {link : Endpoint × Endpoint}
    (run : Relation.ReflTransGen Step (.start client,.start server) link) :
    ∃ stations, Relation.ReflTransGen SlidingWindow.Step
        (.start client.windowSizeTransmit.toNat,.start server.windowSizeTransmit.toNat) stations ∧
      Represents clientOptions link.1 stations.1 ∧ Represents serverOptions link.2 stations.2 := by
  obtain ⟨hremote,hlocal⟩ := association.peers
  induction run with
  | refl => exact ⟨_,.refl,hclient,hserver⟩
  | tail _ step ih =>
    obtain ⟨⟨n,f⟩,hrun,hn,hf⟩ := ih
    obtain ⟨⟨hflow,hflow'⟩,hwindow,hwindow'⟩ := SlidingWindow.flows_of_run hrun
    cases step with
    | client move =>
      obtain ⟨n',f',hmove,hn',hf'⟩ := move.simulated hn hf ⟨hlocal.symm,hremote.symm⟩ hflow hflow'
        (hwindow.trans_le hclientWindow) (hwindow'.trans_le hserverWindow)
      obtain ⟨rfl,rfl⟩ | hmove := hmove
      · exact ⟨_,hrun,hn',hf'⟩
      · exact ⟨(n',f'),hrun.tail (.left hmove),hn',hf'⟩
    | server move =>
      obtain ⟨f',n',hmove,hf',hn'⟩ := move.simulated hf hn ⟨hremote,hlocal⟩ hflow' hflow
        (hwindow'.trans_le hserverWindow) (hwindow.trans_le hclientWindow)
      obtain ⟨rfl,rfl⟩ | hmove := hmove
      · exact ⟨_,hrun,hn',hf'⟩
      · exact ⟨(n',f'),hrun.tail (.right hmove),hn',hf'⟩

section Runs
variable (association : Association clientOptions serverOptions)
  (serverWindows : serverOptions.negotiationLimits.Windows)
  (hclient : Reachable clientOptions client) (hserver : Reachable serverOptions server)
  (hexchange : Exchange client server client' server')
include association serverWindows hclient hserver hexchange

open SlidingWindow in
/-- With a window of at most seven the two sessions run the protocol. -/
theorem stations_of_run (hwindow : client'.windowSizeTransmit.toNat ≤ 7)
    {link : Endpoint × Endpoint}
    (run : Relation.ReflTransGen Step (.start client',.start server') link) :
    ∃ n f, Represents clientOptions link.1 n ∧ Represents serverOptions link.2 f ∧ Flow n f ∧
      Flow f n ∧ n.window ≤ 7 ∧ f.window ≤ 7 := by
  obtain ⟨hclientOpened,hserverOpened⟩ := hexchange.opened
  have hclient' := hexchange.client_reachable hclient hserver
  have hserver' := hexchange.server_reachable hserver
  have hserverWindow := server_window_le hserver' association.server serverWindows
  obtain ⟨⟨n,f⟩,hrun,hn,hf⟩ := run_simulated association
    (hclientOpened.represents (configured_of_reachable hclient'))
    (hserverOpened.represents (configured_of_reachable hserver')) hwindow hserverWindow run
  obtain ⟨⟨hflow,hflow'⟩,hsame,hsame'⟩ := SlidingWindow.flows_of_run hrun
  exact ⟨n,f,hn,hf,hflow,hflow',hsame.trans_le hwindow,hsame'.trans_le hserverWindow⟩

/-- Then the sequence variables never lose count. -/
theorem numbers_of_run (hwindow : client'.windowSizeTransmit.toNat ≤ 7)
    {link : Endpoint × Endpoint}
    (run : Relation.ReflTransGen Step (.start client',.start server') link) :
    Numbers link.1 link.2 ∧ Numbers link.2 link.1 := by
  obtain ⟨n,f,hn,hf,_⟩ :=
    stations_of_run association serverWindows hclient hserver hexchange hwindow run
  exact ⟨hn.numbers hf,hf.numbers hn⟩

theorem delivering_of_window (hwindow : client'.windowSizeTransmit.toNat ≤ 7) :
    Delivering client' server' := by
  intro link run
  obtain ⟨hremote,hlocal⟩ := association.peers
  obtain ⟨n,f,hn,hf,hflow,hflow',hle,hle'⟩ :=
    stations_of_run association serverWindows hclient hserver hexchange hwindow run
  exact ⟨hn.delivers hf ⟨hremote,hlocal⟩ hflow hflow' hle hle',
    hf.delivers hn ⟨hlocal.symm,hremote.symm⟩ hflow' hflow hle' hle⟩

end Runs

/-! A window above seven never closes: three bits cannot tell eight frames from none. -/

namespace Endpoint

/-- The endpoint after it was asked for an I-frame for each payload. -/
def buildAll (endpoint : Endpoint) (payloads : List (List UInt8)) : Endpoint :=
  payloads.foldl (fun endpoint payload =>
    endpoint.buildInformationFrame (some payload) (.ofNat payload.length) false) endpoint

theorem buildAll_cons (endpoint : Endpoint) (payload : List UInt8)
    (payloads : List (List UInt8)) : endpoint.buildAll (payload::payloads)=
      (endpoint.buildInformationFrame (some payload) (.ofNat payload.length) false).buildAll
        payloads := rfl

end Endpoint

theorem run_buildAll (near far : Endpoint) {payloads : List (List UInt8)}
    (short : ∀ payload ∈ payloads, payload.length < 2^63) :
    Relation.ReflTransGen Step (near,far) (near.buildAll payloads,far) := by
  induction payloads generalizing near with
  | nil => exact .refl
  | cons payload payloads ih =>
    obtain ⟨hpayload,hpayloads⟩ := List.forall_mem_cons.mp short
    exact .head (.client (.buildInformationFrame (validPointer_some hpayload) false))
      (ih _ hpayloads)

/-- All frames in front are lost. -/
theorem run_drop (near far : Endpoint) {front back : List (List UInt8)}
    (sent : near.outbox=front ++ back) :
    Relation.ReflTransGen Step (near,far) ({ near with outbox := back },far) := by
  induction front generalizing near with
  | nil =>
    rw [List.nil_append] at sent
    rw [← sent]
  | cons bytes front ih =>
    have hdrop : Move near far { near with outbox := front ++ back } far :=
      @Move.drop near far [] (front ++ back) bytes sent
    exact .head (.client hdrop) (ih { near with outbox := front ++ back } rfl)

section Overrun
variable {options peer : HdlcSessionOptions} {session : HdlcSession}

theorem canSend_of_window (hwindow : 7 < session.windowSizeTransmit.toNat) :
    session.canSendInformationFrame=true := by
  apply decide_eq_true
  rw [UInt8.lt_iff_toNat_lt]
  exact (Nat.le_of_lt_succ (HdlcControl.and_seven_lt _)).trans_lt hwindow

/-- With such a window an I-frame that fits is built, whatever is unacknowledged. -/
theorem buildInformationFrame_of_window (state : session.state=.connected)
    (hwindow : 7 < session.windowSizeTransmit.toNat) {information : Pointer} {size : UInt64}
    (valid : ValidPointer information size) {pollFinal : Bool}
    (fits : (session.outgoing (informationControl session.sendSequence session.receiveSequence
      pollFinal) (information.read size.toNat)).Fits session.options.limits) :
    session.buildInformationFrame information size pollFinal=
      (.ok (session.outgoing (informationControl session.sendSequence session.receiveSequence
        pollFinal) (information.read size.toNat)).wire,
        { session with sendSequence := nextSequence session.sendSequence }) := by
  have hbuilt := (session.buildFrame_eq_ok_iff (informationControl session.sendSequence
    session.receiveSequence pollFinal) information size valid.1 valid.2 _).mpr ⟨fits,rfl⟩
  change session.buildFrame (makeInformationControl _ _ _) _ _=_ at hbuilt
  simp only [buildInformationFrame,state,canSend_of_window hwindow,hbuilt,ne_eq,
    not_true_eq_false,Bool.not_true,Bool.false_eq_true,↓reduceIte]

theorem buildReceiveReadyFrame_of_fits (state : session.state=.connected) {pollFinal : Bool}
    (fits : (session.outgoing (receiveReadyControl session.receiveSequence pollFinal) []).Fits
      session.options.limits) : session.buildReceiveReadyFrame pollFinal=
      (.ok (session.outgoing (receiveReadyControl session.receiveSequence pollFinal) []).wire,
        session) := by
  have hbuilt := (session.buildFrame_eq_ok_iff (receiveReadyControl session.receiveSequence
    pollFinal) none 0 (by decide) rfl _).mpr ⟨fits,rfl⟩
  change session.buildSupervisoryFrame (makeReceiveReadyControl _ _)=
    .ok (session.outgoing _ []).wire at hbuilt
  simp only [buildReceiveReadyFrame,state,hbuilt,ne_eq,not_true_eq_false,↓reduceIte]

/-- One more empty I-frame. -/
theorem Endpoint.buildInformationFrame_nil {near : Endpoint} (state : near.session.state=.connected)
    (hwindow : 7 < near.session.windowSizeTransmit.toNat)
    (fits : ∀ control, (near.session.outgoing control []).Fits near.session.options.limits) :
    let next := near.buildInformationFrame (some []) (.ofNat 0) false
    next.session={ near.session with sendSequence := nextSequence near.session.sendSequence } ∧
      next.outbox=near.outbox ++ [(near.session.outgoing (informationControl
        near.session.sendSequence near.session.receiveSequence false) []).wire] := by
  have hbuilt := buildInformationFrame_of_window state hwindow
    (validPointer_some (by decide : ([] : List UInt8).length < 2^63)) (fits (informationControl
      near.session.sendSequence near.session.receiveSequence false))
  dsimp only
  rw [Endpoint.buildInformationFrame]
  change near.session.buildInformationFrame (some []) (.ofNat 0) false=_ at hbuilt
  rw [hbuilt]
  exact ⟨rfl,rfl⟩

/-- Empty I-frames are built without end, and nothing is taken back from the channel. -/
theorem Endpoint.buildAll_nil {near : Endpoint} (state : near.session.state=.connected)
    (hwindow : 7 < near.session.windowSizeTransmit.toNat)
    (fits : ∀ control, (near.session.outgoing control []).Fits near.session.options.limits)
    (count : ℕ) : (near.buildAll (.replicate count [])).session=
        { near.session with sendSequence := nextSequence^[count] near.session.sendSequence } ∧
      near.outbox <+: (near.buildAll (.replicate count [])).outbox := by
  induction count generalizing near with
  | zero => exact ⟨rfl,List.prefix_rfl⟩
  | succ count ih =>
    obtain ⟨hsession,houtbox⟩ := near.buildInformationFrame_nil state hwindow fits
    rw [List.replicate_succ,Endpoint.buildAll_cons]
    change Endpoint.session (Endpoint.buildAll
      (near.buildInformationFrame (some []) (.ofNat 0) false) _)=_ ∧
        _ <+: Endpoint.outbox (Endpoint.buildAll _ _)
    generalize near.buildInformationFrame (some []) (.ofNat 0) false=next at hsession houtbox ⊢
    obtain ⟨hsame,hbehind⟩ := @ih next (by rw [hsession]; exact state)
      (by rw [hsession]; exact hwindow) (by rw [hsession]; exact fits)
    refine ⟨?_,?_⟩
    · rw [hsame,hsession,Function.iterate_succ_apply]
    · rw [houtbox] at hbehind
      exact (List.prefix_append _ _).trans hbehind

/-- The oldest of them stays in front. -/
theorem Endpoint.buildAll_nil_oldest {near : Endpoint} (state : near.session.state=.connected)
    (hwindow : 7 < near.session.windowSizeTransmit.toNat)
    (fits : ∀ control, (near.session.outgoing control []).Fits near.session.options.limits)
    (count : ℕ) : near.outbox ++ [(near.session.outgoing (informationControl
        near.session.sendSequence near.session.receiveSequence false) []).wire] <+:
      (near.buildAll (.replicate (count+1) [])).outbox := by
  obtain ⟨hsession,houtbox⟩ := near.buildInformationFrame_nil state hwindow fits
  rw [List.replicate_succ,Endpoint.buildAll_cons,List.length_nil]
  generalize near.buildInformationFrame (some []) (.ofNat 0) false=next at hsession houtbox ⊢
  have hbehind := (@Endpoint.buildAll_nil next (by rw [hsession]; exact state)
    (by rw [hsession]; exact hwindow) (by rw [hsession]; exact fits) count).2
  rwa [houtbox] at hbehind

/-- The client of an open connection builds eight I-frames, and seems to have built none. -/
theorem Opened.overrun (h : session.Opened) (hwindow : 7 < session.windowSizeTransmit.toNat)
    (fits : ∀ control, (session.outgoing control []).Fits session.options.limits) (far : Endpoint) :
    ∃ near rest, Relation.ReflTransGen Step (.start session,far) (near,far) ∧
      near.session=session ∧
      near.outbox=(session.outgoing (informationControl 0 0 false) []).wire::rest := by
  have hrun := @run_buildAll (.start session) far (.replicate 8 []) (by
    intro payload hpayload
    rw [List.eq_of_mem_replicate hpayload]
    decide)
  have hsession := ((Endpoint.start session).buildAll_nil h.state hwindow fits 8).1
  obtain ⟨rest,houtbox⟩ := (Endpoint.start session).buildAll_nil_oldest h.state hwindow fits 7
  dsimp only [Endpoint.start] at hsession houtbox
  rw [h.send,h.receive] at houtbox
  refine ⟨_,rest,hrun,?_,houtbox.symm⟩
  rw [Endpoint.start,hsession,h.send]
  change { session with sendSequence := 0 }=session
  rw [← h.send]

/-- A session that takes in the first I-frame can acknowledge it. -/
theorem Opened.acknowledges (h : session.Opened) (hconfigured : session.Configured options)
    (fits : ∀ control, (session.outgoing control []).Fits session.options.limits)
    (peers : (new peer).remoteAddress=(new options).localAddress ∧
      (new peer).localAddress=(new options).remoteAddress)
    {bytes : List UInt8} (carries : Carries peer bytes (.data 0 0 [])) {limits : HdlcCodecLimits}
    {frame : HdlcFrameBuffer} (decoded : decodeFrame (some bytes) bytes.length limits=.ok frame) :
    let next := (Endpoint.start session).receiveFrame frame
    let answer := next.session.outgoing (receiveReadyControl 1 false) []
    answer.Fits next.session.options.limits ∧
      (next.buildReceiveReadyFrame false).outbox=[answer.wire] := by
  have hadmissible : Admissible (.start session.windowSizeTransmit.toNat) (.data 0 0 []) := by
    refine ⟨Nat.le_refl _,Nat.le_refl _,Nat.zero_le _,?_⟩
    rintro _ ⟨⟩
    exact ⟨Nat.le_refl _,Nat.succ_pos 7⟩
  have hreceived := ((h.represents hconfigured).deliver peers carries hadmissible decoded).1
  have houtbox : ((Endpoint.start session).receiveFrame frame).outbox=[] := rfl
  dsimp only
  generalize (Endpoint.start session).receiveFrame frame=next at hreceived houtbox ⊢
  have hnumber : next.session.receiveSequence=1 := by
    rw [← UInt8.toNat_inj,hreceived.receive]
    rfl
  have hfits := hreceived.configured.fits_empty hconfigured (fits (receiveReadyControl 1 false))
    (receiveReadyControl 1 false)
  have hready := @buildReceiveReadyFrame_of_fits next.session hreceived.state false
    (by rw [hnumber]; exact hfits)
  refine ⟨hfits,?_⟩
  rw [Endpoint.buildReceiveReadyFrame,hready]
  dsimp only
  rw [Endpoint.advance_self,Endpoint.send,houtbox,hnumber]
  rfl

/-- The acknowledgement of the first of eight I-frames is refused: the client seems to have built
none. -/
theorem window_of_delivering (hclient : client.Configured clientOptions)
    (hserver : server.Configured serverOptions) (clientOpened : client.Opened)
    (serverOpened : server.Opened)
    (peers : (new clientOptions).remoteAddress=(new serverOptions).localAddress ∧
      (new clientOptions).localAddress=(new serverOptions).remoteAddress)
    (clientFits : ∀ control, (client.outgoing control []).Fits client.options.limits)
    (serverFits : ∀ control, (server.outgoing control []).Fits server.options.limits)
    (delivering : Delivering client server) : client.windowSizeTransmit.toNat ≤ 7 := by
  by_contra hle
  obtain ⟨near,rest,hrun,hsession,hsent⟩ := clientOpened.overrun (by omega) clientFits (.start server)
  have hfits := clientFits (informationControl 0 0 false)
  have hdecode := (HdlcFrameBuffer.decodeFrame_image_eq_ok_iff _ client.options.limits
    hfits.format_le _).mpr ⟨hfits,rfl⟩
  have hcarries : Carries clientOptions (client.outgoing (informationControl 0 0 false) []).wire
      (.data 0 0 []) := by
    have hformat := hfits.format_le
    rw [hclient.outgoing] at hformat ⊢
    exact .information (by simp) (by simp) (by simp) hformat
  obtain ⟨hanswer,houtbox⟩ := serverOpened.acknowledges hserver serverFits peers hcarries hdecode
  have hlast := (hrun.tail (.server (.deliver hsent hdecode))).tail
    (.server (.buildReceiveReadyFrame false))
  have hdelivers := (delivering _ hlast).2
  have haccepts := (hdelivers.admitted _ (by rw [houtbox]; exact List.mem_cons_self) _ _
    ((HdlcFrameBuffer.decodeFrame_image_eq_ok_iff _ _ hanswer.format_le _).mpr ⟨hanswer,rfl⟩)).1
  dsimp only [outgoing] at haccepts
  rw [hsession,receiveReadyControl_receiveSequence,acceptsReceiveSequence,clientOpened.acknowledge,
    clientOpened.send] at haccepts
  cases haccepts

end Overrun

/-- No exchange makes a window too large: it is at most seven if it was before, -/
theorem Exchange.window_le (hexchange : Exchange client server client' server')
    (association : Association clientOptions serverOptions)
    (serverWindows : serverOptions.negotiationLimits.Windows)
    (hserver : Reachable serverOptions server) (hwindow : client.windowSizeTransmit.toNat ≤ 7) :
    client'.windowSizeTransmit.toNat ≤ 7 := by
  obtain hle | hsame := hexchange.window_cases hserver association.server serverWindows
  · exact hle
  · rw [hsame]
    exact hwindow

/-- and of a client that has heard from this server only it always is. -/
theorem Exchange.window_le_of_heardFrom (hexchange : Exchange client server client' server')
    (association : Association clientOptions serverOptions)
    (clientWindows : clientOptions.negotiationLimits.Windows)
    (serverWindows : serverOptions.negotiationLimits.Windows)
    (hclient : HeardFrom serverOptions clientOptions client)
    (hserver : Reachable serverOptions server) : client'.windowSizeTransmit.toNat ≤ 7 :=
  client_window_le (hexchange.heardFrom hclient hserver) association.server clientWindows
    serverWindows

/-- After an exchange of SNRM and UA with a server whose configured windows are at most seven,
whatever happened to the sessions before it and whatever I-frames and RRs are then built, lost and
delivered: each side has accepted a prefix of the payloads the other side built, no frame on its way
would be refused for its `N(R)`, and no side is more than its window ahead of what is acknowledged,
exactly when the exchange leaves the client a transmit window of at most seven. -/
theorem link_delivers_iff (association : Association clientOptions serverOptions)
    (serverWindows : serverOptions.negotiationLimits.Windows)
    (hclient : Reachable clientOptions client) (hserver : Reachable serverOptions server)
    (hexchange : Exchange client server client' server') :
    Delivering client' server' ↔ client'.windowSizeTransmit.toNat ≤ 7 := by
  constructor
  · obtain ⟨hclientOpened,hserverOpened⟩ := hexchange.opened
    exact window_of_delivering
      (configured_of_reachable (hexchange.client_reachable hclient hserver))
      (configured_of_reachable (hexchange.server_reachable hserver)) hclientOpened hserverOpened
      association.peers (fun control => (hexchange.fits_empty hclient hserver control).1)
      fun control => (hexchange.fits_empty hclient hserver control).2
  · exact delivering_of_window association serverWindows hclient hserver hexchange

/-- The two sides of an association with the default values, connected without a negotiation. -/
def sampleClient : HdlcSession :=
  ((new (sampleOptions .client)).buildConnectRequest.2.receiveFrame
    (sampleIncoming .client uaControl [])).2

def sampleServer : HdlcSession :=
  ((new (sampleOptions .server)).receiveFrame
    (sampleIncoming .server snrmControl [])).2.buildConnectResponse.2

theorem sample_association : Association (sampleOptions .client) (sampleOptions .server) :=
  ⟨rfl,rfl,rfl,rfl⟩

theorem sample_windows (role : HdlcSessionRole) : (sampleOptions role).negotiationLimits.Windows :=
  ⟨by simp [sampleOptions],by simp [sampleOptions]⟩

/-- An exchange without a negotiation, with a fresh server of that association. -/
theorem plain_exchange {client requesting client' : HdlcSession}
    (requested : client.perform .buildConnectRequest=
      ((.ok,(sampleIncoming .server snrmControl []).wire),requesting))
    (confirmed : requesting.receiveFrame (sampleIncoming .client uaControl [])=(.ok,client')) :
    Exchange client (new (sampleOptions .server)) client' sampleServer := by
  have hrequest : (sampleIncoming .server snrmControl []).Fits defaultHdlcCodecLimits := by decide
  have hresponse : (sampleIncoming .client uaControl []).Fits defaultHdlcCodecLimits := by decide
  refine .completed ?_ (.inl rfl) requested
    ((HdlcFrameBuffer.decodeFrame_image_eq_ok_iff _ _ hrequest.format_le _).mpr ⟨hrequest,rfl⟩) rfl
    rfl
    ((HdlcFrameBuffer.decodeFrame_image_eq_ok_iff _ _ hresponse.format_le _).mpr ⟨hresponse,rfl⟩)
    confirmed
  trivial

theorem sample_exchange : Exchange (new (sampleOptions .client)) (new (sampleOptions .server))
    sampleClient sampleServer := plain_exchange rfl rfl

/-- A client that was connected before, by a UA that gave it a transmit window of a hundred. -/
def usedClient : HdlcSession :=
  machine.final (new (sampleOptions .client)) [.buildConnectRequest,
    .receiveFrame (sampleIncoming .client uaControl [0x81,0x80,0x06,0x07,0x04,0x00,0x00,0x00,0x64]),
    .buildDisconnectRequest,.receiveFrame (sampleIncoming .client uaControl [])]

/-- It keeps that window when it is connected again without a negotiation. -/
def staleClient : HdlcSession :=
  (usedClient.buildConnectRequest.2.receiveFrame (sampleIncoming .client uaControl [])).2

theorem stale_exchange : Exchange usedClient (new (sampleOptions .server)) staleClient
    sampleServer := plain_exchange rfl rfl

/-- Of the two clients of that server the fresh one keeps the protocol. -/
theorem link_delivers_iff_sample :
    Delivering sampleClient sampleServer ∧ ¬ Delivering staleClient sampleServer := by
  have hclient : Reachable (sampleOptions .client) (new (sampleOptions .client)) := ⟨[],rfl⟩
  have hused : Reachable (sampleOptions .client) usedClient := ⟨_,rfl⟩
  have hserver : Reachable (sampleOptions .server) (new (sampleOptions .server)) := ⟨[],rfl⟩
  have hfresh := link_delivers_iff sample_association (sample_windows .server) hclient hserver
    sample_exchange
  have hstale := link_delivers_iff sample_association (sample_windows .server) hused hserver
    stale_exchange
  exact ⟨hfresh.mpr (by decide),mt hstale.mp (by decide)⟩

/-- The other one builds nine I-frames, of which eight are lost: the server accepts the ninth as
the first. -/
theorem stale_skips : Association (sampleOptions .client) (sampleOptions .server) ∧
    (∀ role, (sampleOptions role).negotiationLimits.Windows) ∧
    Reachable (sampleOptions .client) usedClient ∧
    Reachable (sampleOptions .server) (new (sampleOptions .server)) ∧
    Exchange usedClient (new (sampleOptions .server)) staleClient sampleServer ∧
    ∃ link, Relation.ReflTransGen Step (.start staleClient,.start sampleServer) link ∧
      link.1.built=[[0],[1],[2],[3],[4],[5],[6],[7],[8]] ∧ link.2.accepted=[[8]] ∧
      ¬ link.2.accepted <+: link.1.built := by
  have hframe : (sampleIncoming .server (informationControl 0 0 false) [8]).Fits
      defaultHdlcCodecLimits := by decide
  have hdecode :=
    (HdlcFrameBuffer.decodeFrame_image_eq_ok_iff _ _ hframe.format_le _).mpr ⟨hframe,rfl⟩
  have hrun := @run_buildAll (.start staleClient) (.start sampleServer)
    [[0],[1],[2],[3],[4],[5],[6],[7],[8]] (by simp)
  have hbuilt : ((Endpoint.start staleClient).buildAll
      [[0],[1],[2],[3],[4],[5],[6],[7],[8]]).built=[[0],[1],[2],[3],[4],[5],[6],[7],[8]] := by
    decide +kernel
  have hlast : ((Endpoint.start staleClient).buildAll
      [[0],[1],[2],[3],[4],[5],[6],[7],[8]]).outbox.drop 8=
        [(sampleIncoming .server (informationControl 0 0 false) [8]).wire] := by
    decide +kernel
  generalize (Endpoint.start staleClient).buildAll _=near at hrun hbuilt hlast
  have hlost := run_drop near (.start sampleServer) (List.take_append_drop 8 near.outbox).symm
  rw [hlast] at hlost
  have hdelivered : Move (.start sampleServer) { near with
      outbox := [(sampleIncoming .server (informationControl 0 0 false) [8]).wire] } _ _ :=
    .deliver rfl hdecode
  refine ⟨sample_association,sample_windows,⟨_,rfl⟩,⟨[],rfl⟩,stale_exchange,_,
    (hrun.trans hlost).tail (.server hdelivered),hbuilt,rfl,?_⟩
  change ¬ [[8]] <+: near.built
  rw [hbuilt]
  decide

end DlmsHdlc.HdlcSession
