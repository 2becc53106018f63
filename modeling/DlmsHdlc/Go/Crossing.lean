import DlmsHdlc.Go.Link
import DlmsHdlc.Session.Link

/-! A Go session takes only a frame whose `N(R)` is its own `V(S)`: it refuses a frame that one of
its I-frames crosses on the way, and no other. -/
namespace DlmsHdlc.Go.Session

/-- The frame on the wire carries the message, with its counters modulo eight. -/
inductive Carries (destination source : HdlcAddress) :
    List UInt8 → SlidingWindow.Message (List UInt8) → Prop
  | information {control : HdlcControl} {index next : ℕ} {payload : List UInt8}
      (kind : control.frameKind=.information) (send : control.sendSequence.toNat=index%8)
      (receive : control.receiveSequence.toNat=next%8)
      (format : (HdlcFrameBuffer.mk false destination source control payload).formatLength ≤ 2047) :
      Carries destination source (HdlcFrameBuffer.mk false destination source control payload).wire
        (.data index next payload)
  | receiveReady {control : HdlcControl} {next : ℕ} (kind : control.frameKind=.supervisory)
      (receive : control.receiveSequence.toNat=next%8)
      (format : (HdlcFrameBuffer.mk false destination source control []).formatLength ≤ 2047) :
      Carries destination source (HdlcFrameBuffer.mk false destination source control []).wire
        (.acknowledge next)

/-- What an accepted frame adds is the item of its message. -/
theorem Carries.items {destination source : HdlcAddress} {bytes : List UInt8}
    {message : SlidingWindow.Message (List UInt8)}
    (carries : Carries destination source bytes message) {limits : CodecLimits} {frame : Frame}
    (decoded : decodeFrame bytes limits=.ok frame) :
    (if frame.control.frameKind=.information then [frame.information] else [])=
      message.item.toList := by
  cases carries with
  | @information control index next payload kind send receive format =>
    obtain rfl := decodeFrame_wire format decoded
    exact if_pos ((ofControl_frameKind control).trans (congrArg ofFrameKind kind))
  | @receiveReady control next kind receive format =>
    obtain rfl := decodeFrame_wire format decoded
    apply if_neg
    change (ofControl control).frameKind≠.information
    rw [ofControl_frameKind,kind]
    decide

namespace Endpoint

/-- The station that the endpoint runs, for a window of seven. -/
def station (endpoint : Endpoint) : SlidingWindow.Station (List UInt8) where
  window := 7
  built := endpoint.built
  accepted := endpoint.accepted
  acknowledged := endpoint.acknowledged
  outbox := endpoint.outbox.map Sent.message

/-- The sequence variables and the frames on their way are those of the station, modulo eight. -/
structure Numbered (destination source : HdlcAddress) (endpoint : Endpoint) : Prop where
  state : endpoint.session.state=.connected
  remoteAddress : endpoint.session.remoteAddress=ofAddress destination
  localAddress : endpoint.session.localAddress=ofAddress source
  send : endpoint.session.sendSequence.toNat=endpoint.built.length%8
  receive : endpoint.session.receiveSequence.toNat=endpoint.accepted.length%8
  outbox : ∀ sent ∈ endpoint.outbox, Carries destination source sent.bytes sent.message

section Calls
variable {destination source : HdlcAddress} {endpoint : Endpoint}
  (h : endpoint.Numbered destination source)
include h

theorem Numbered.buildFrame {control : HdlcControl} {information bytes : List UInt8}
    (valid : information.length < 2^63)
    (hbuilt : endpoint.session.buildFrame control.encode information=.ok bytes) :
    (HdlcFrameBuffer.mk false destination source control information).formatLength ≤ 2047 ∧
      bytes=(HdlcFrameBuffer.mk false destination source control information).wire := by
  rw [Session.buildFrame,h.remoteAddress,h.localAddress] at hbuilt
  exact encodeFrame_ok valid hbuilt

/-- A frame is added to those on their way. -/
theorem Numbered.append {sent : Sent} (carries : Carries destination source sent.bytes sent.message) :
    ∀ sent' ∈ endpoint.outbox ++ [sent], Carries destination source sent'.bytes sent'.message := by
  intro sent' hsent
  rw [List.mem_append,List.mem_singleton] at hsent
  obtain hold | rfl := hsent
  · exact h.outbox sent' hold
  · exact carries

theorem Numbered.buildInformationFrame {information : List UInt8}
    (valid : information.length < 2^63) (pollFinal : Bool) :
    (endpoint.buildInformationFrame information pollFinal).Numbered destination source ∧
      ((endpoint.buildInformationFrame information pollFinal).station=endpoint.station ∨
        (endpoint.buildInformationFrame information pollFinal).station=
          endpoint.station.build information) := by
  rw [Endpoint.buildInformationFrame,Session.buildInformationFrame,if_neg (not_not_intro h.state)]
  dsimp only
  cases hbuilt : endpoint.session.buildFrame (makeInformationControl endpoint.session.sendSequence
    endpoint.session.receiveSequence pollFinal) information with
  | error err => exact ⟨h,.inl rfl⟩
  | ok bytes =>
    rw [makeInformationControl_eq] at hbuilt
    have hencoded : endpoint.session.buildFrame (informationControl endpoint.session.sendSequence
        endpoint.session.receiveSequence pollFinal).encode information=.ok bytes := hbuilt
    obtain ⟨hformat,rfl⟩ := h.buildFrame valid hencoded
    constructor
    · refine ⟨h.state,h.remoteAddress,h.localAddress,?_,h.receive,h.append ?_⟩
      · rw [List.length_append]
        exact HdlcSession.nextSequence_toNat h.send
      · refine .information (informationControl_frameKind ..) ?_ ?_ hformat
        · rw [informationControl_sendSequence]
          exact HdlcSession.and_seven_of_mod h.send
        · rw [informationControl_receiveSequence]
          exact HdlcSession.and_seven_of_mod h.receive
    · right
      simp only [station,SlidingWindow.Station.build,List.map_append,List.map_cons,List.map_nil]

theorem Numbered.buildReceiveReadyFrame (pollFinal : Bool) :
    (endpoint.buildReceiveReadyFrame pollFinal).Numbered destination source ∧
      ((endpoint.buildReceiveReadyFrame pollFinal).station=endpoint.station ∨
        (endpoint.buildReceiveReadyFrame pollFinal).station=endpoint.station.acknowledge) := by
  rw [Endpoint.buildReceiveReadyFrame,Session.buildReceiveReadyFrame,
    if_neg (not_not_intro h.state),makeReceiveReadyControl_eq]
  cases hbuilt : endpoint.session.buildFrame (DlmsHdlc.makeReceiveReadyControl
    endpoint.session.receiveSequence pollFinal) [] with
  | error err => exact ⟨h,.inl rfl⟩
  | ok bytes =>
    have hencoded : endpoint.session.buildFrame
        (receiveReadyControl endpoint.session.receiveSequence pollFinal).encode []=.ok bytes := hbuilt
    obtain ⟨hformat,rfl⟩ := h.buildFrame (by decide) hencoded
    constructor
    · refine ⟨h.state,h.remoteAddress,h.localAddress,h.send,h.receive,h.append ?_⟩
      refine .receiveReady (receiveReadyControl_frameKind ..) ?_ hformat
      rw [receiveReadyControl_receiveSequence]
      exact HdlcSession.and_seven_of_mod h.receive
    · right
      simp only [station,SlidingWindow.Station.acknowledge,List.map_append,List.map_cons,
        List.map_nil]

/-- Within the window three bits tell whether a frame acknowledges everything. -/
theorem Numbered.receiveSequence_iff {message : SlidingWindow.Message (List UInt8)}
    (hle : endpoint.acknowledged ≤ message.next ∧ message.next ≤ endpoint.built.length)
    (windowed : endpoint.Windowed) {nr : UInt8} (hnr : nr.toNat=message.next%8) :
    nr=endpoint.session.sendSequence ↔ message.next=endpoint.built.length := by
  rw [Windowed] at windowed
  rw [← UInt8.toNat_inj,hnr,h.send]
  omega

/-- A frame for this endpoint passes the address check. -/
theorem Numbered.incomingAddressesMatch (control : HdlcControl) (information : List UInt8) :
    endpoint.session.incomingAddressesMatch
      (ofFrame ⟨false,source,destination,control,information⟩)=true := by
  rw [Session.incomingAddressesMatch,h.localAddress,h.remoteAddress,Bool.and_eq_true,
    sameAddress_iff,sameAddress_iff]
  exact ⟨rfl,rfl⟩

theorem Numbered.receiveFrame_information {control : HdlcControl} {payload : List UInt8}
    (kind : control.frameKind=.information)
    (send : control.sendSequence=endpoint.session.receiveSequence) :
    endpoint.session.receiveFrame (ofFrame ⟨false,source,destination,control,payload⟩)=
      if control.receiveSequence=endpoint.session.sendSequence then
        (none,{ endpoint.session with
          receiveSequence := nextSequence endpoint.session.receiveSequence })
      else (some .invalidControlField,endpoint.session) := by
  have hcontrol : (ofFrame ⟨false,source,destination,control,payload⟩).control=ofControl control := rfl
  rw [Session.receiveFrame,h.incomingAddressesMatch,hcontrol,ofControl_frameKind,kind]
  change endpoint.session.receiveInformationFrame _=_
  rw [Session.receiveInformationFrame,if_neg (not_not_intro h.state),hcontrol,ofControl_sendSequence,
    if_neg (not_not_intro send),ofControl_receiveSequence]
  by_cases hnr : control.receiveSequence=endpoint.session.sendSequence
  · rw [if_neg (not_not_intro hnr),if_pos hnr]
  · rw [if_pos hnr,if_neg hnr]

theorem Numbered.receiveFrame_supervisory {control : HdlcControl}
    (kind : control.frameKind=.supervisory) :
    endpoint.session.receiveFrame (ofFrame ⟨false,source,destination,control,[]⟩)=
      (if control.receiveSequence=endpoint.session.sendSequence then none
        else some .invalidControlField,endpoint.session) := by
  have hcontrol : (ofFrame ⟨false,source,destination,control,[]⟩).control=ofControl control := rfl
  obtain ⟨supervisory,hsupervisory⟩ := ofControl_supervisoryKind control kind
  rw [Session.receiveFrame,h.incomingAddressesMatch,hcontrol,ofControl_frameKind,kind]
  change (endpoint.session.receiveSupervisoryFrame _,_)=_
  rw [Session.receiveSupervisoryFrame,if_neg (not_not_intro h.state),hcontrol,hsupervisory,
    ofControl_receiveSequence]
  by_cases hnr : control.receiveSequence=endpoint.session.sendSequence
  · rw [if_pos hnr]
    exact congrArg (·,endpoint.session) (if_neg (not_not_intro hnr))
  · rw [if_neg hnr]
    exact congrArg (·,endpoint.session) (if_pos hnr)

/-- One comparison decides on the next frame, and `V(R)` counts its payload. -/
theorem Numbered.receiveFrame_next {sent : Sent}
    (carries : Carries source destination sent.bytes sent.message) {limits : CodecLimits}
    {frame : Frame} (decoded : decodeFrame sent.bytes limits=.ok frame)
    (next : ∀ index ∈ sent.message.index, index=endpoint.accepted.length) :
    ∃ nr receiveSequence : UInt8, nr.toNat=sent.message.next%8 ∧
      receiveSequence.toNat=(endpoint.accepted ++ sent.message.item.toList).length%8 ∧
      endpoint.session.receiveFrame frame=if nr=endpoint.session.sendSequence then
        (none,{ endpoint.session with receiveSequence := receiveSequence })
      else (some .invalidControlField,endpoint.session) := by
  obtain ⟨bytes,message⟩ := sent
  dsimp only at carries decoded next ⊢
  cases carries with
  | @information control index next' payload kind send receive format =>
    obtain rfl := decodeFrame_wire format decoded
    have hns : control.sendSequence=endpoint.session.receiveSequence := by
      rw [← UInt8.toNat_inj,send,h.receive,next index rfl]
    refine ⟨_,_,receive,?_,h.receiveFrame_information kind hns⟩
    rw [List.length_append]
    exact HdlcSession.nextSequence_toNat h.receive
  | @receiveReady control next' kind receive format =>
    obtain rfl := decodeFrame_wire format decoded
    refine ⟨_,endpoint.session.receiveSequence,receive,?_,?_⟩
    · rw [SlidingWindow.Message.item,Option.toList_none,List.append_nil]
      exact h.receive
    · rw [h.receiveFrame_supervisory kind]
      split <;> rfl

/-- The next frame is accepted if and only if it acknowledges everything. -/
theorem Numbered.receiveFrame {sent : Sent}
    (carries : Carries source destination sent.bytes sent.message) {limits : CodecLimits}
    {frame : Frame} (decoded : decodeFrame sent.bytes limits=.ok frame)
    (next : ∀ index ∈ sent.message.index, index=endpoint.accepted.length)
    (hle : endpoint.acknowledged ≤ sent.message.next ∧ sent.message.next ≤ endpoint.built.length)
    (windowed : endpoint.Windowed) :
    ((endpoint.receiveFrame sent frame).1=none ↔ sent.message.next=endpoint.built.length) ∧
      ((endpoint.receiveFrame sent frame).1=none →
        (endpoint.receiveFrame sent frame).2.Numbered destination source ∧
          (endpoint.receiveFrame sent frame).2.station={ endpoint.station with
            accepted := endpoint.accepted ++ sent.message.item.toList
            acknowledged := sent.message.next }) := by
  obtain ⟨nr,receiveSequence,hnr,hreceive,hreceived⟩ := h.receiveFrame_next carries decoded next
  have hall := h.receiveSequence_iff hle windowed hnr
  have hitems := carries.items decoded
  by_cases hnext : nr=endpoint.session.sendSequence
  · rw [if_pos hnext] at hreceived
    rw [Endpoint.receiveFrame,hreceived]
    dsimp only
    rw [hitems]
    exact ⟨⟨fun _ => hall.mp hnext,fun _ => rfl⟩,fun _ =>
      ⟨⟨h.state,h.remoteAddress,h.localAddress,h.send,hreceive,h.outbox⟩,rfl⟩⟩
  · rw [if_neg hnext] at hreceived
    rw [Endpoint.receiveFrame,hreceived]
    exact ⟨⟨nofun,fun h => absurd (hall.mpr h) hnext⟩,nofun⟩

end Calls
end Endpoint

theorem Endpoint.arrival_eq_some {endpoint : Endpoint} {limits : CodecLimits} {sent : Sent}
    {frame : Frame} {rest : List Sent} (h : endpoint.arrival limits=some (sent,frame,rest)) :
    endpoint.outbox=sent :: rest ∧ decodeFrame sent.bytes limits=.ok frame := by
  rw [arrival] at h
  cases houtbox : endpoint.outbox with
  | nil =>
    rw [houtbox] at h
    cases h
  | cons oldest behind =>
    rw [houtbox] at h
    dsimp only at h
    obtain ⟨decoded,hdecoded,heq⟩ := Option.map_eq_some_iff.mp h
    cases heq
    exact ⟨rfl,toOption_eq_some_iff.mp hdecoded⟩

/-- Both flows are kept, and nothing is lost. -/
structure Joined (destination source : HdlcAddress) (near far : Endpoint) : Prop where
  numbered : near.Numbered destination source
  numbered' : far.Numbered source destination
  flow : SlidingWindow.Flow near.station far.station
  flow' : SlidingWindow.Flow far.station near.station
  lossless : SlidingWindow.Lossless near.station far.station
  lossless' : SlidingWindow.Lossless far.station near.station

namespace Joined
variable {destination source : HdlcAddress} {near far : Endpoint}
  (h : Joined destination source near far)
include h

theorem symm : Joined source destination far near :=
  ⟨h.numbered',h.numbered,h.flow',h.flow,h.lossless',h.lossless⟩

theorem receives : near.Receives far := by
  have hitems := h.lossless'.items
  have houtbox : far.station.outbox=far.outbox.map Sent.message := rfl
  rw [houtbox,List.filterMap_map] at hitems
  exact hitems

/-- A side that has called and not sent, or sent one more frame within the window. -/
theorem build {next : Endpoint} (numbered : next.Numbered destination source)
    (windowed : next.Windowed) {information : List UInt8}
    (hstation : next.station=near.station ∨ next.station=near.station.build information) :
    Joined destination source next far := by
  obtain hsame | hbuilt := hstation
  · refine ⟨numbered,h.numbered',?_,?_,?_,?_⟩
    all_goals rw [hsame]
    exacts [h.flow,h.flow',h.lossless,h.lossless']
  · have hlength : next.built.length=near.built.length+1 := by
      have hbuilt' : next.built=near.built ++ [information] := congrArg (·.built) hbuilt
      rw [hbuilt',List.length_append,List.length_singleton]
    have hacknowledged : next.acknowledged=near.acknowledged := congrArg (·.acknowledged) hbuilt
    rw [Endpoint.Windowed,hlength,hacknowledged] at windowed
    refine ⟨numbered,h.numbered',?_,?_,?_,?_⟩
    all_goals rw [hbuilt]
    · exact h.flow.build information windowed
    · exact h.flow'.answer rfl _
    · exact h.lossless.build information
    · exact h.lossless'.answer _ _ _

theorem acknowledge {next : Endpoint} (numbered : next.Numbered destination source)
    (hstation : next.station=near.station ∨ next.station=near.station.acknowledge) :
    Joined destination source next far := by
  obtain hsame | hbuilt := hstation
  · refine ⟨numbered,h.numbered',?_,?_,?_,?_⟩
    all_goals rw [hsame]
    exacts [h.flow,h.flow',h.lossless,h.lossless']
  · refine ⟨numbered,h.numbered',?_,?_,?_,?_⟩
    all_goals rw [hbuilt]
    · exact h.flow.acknowledge
    · exact h.flow'.answer rfl _
    · exact h.lossless.acknowledge
    · exact h.lossless'.answer _ _ _

/-- The oldest frame is the next one, and is accepted if nothing crossed it. -/
theorem deliver {sent : Sent} {rest : List Sent} (houtbox : far.outbox=sent :: rest)
    {limits : CodecLimits} {frame : Frame} (decoded : decodeFrame sent.bytes limits=.ok frame) :
    ((near.receiveFrame sent frame).1=none ↔ sent.message.next=near.built.length) ∧
      ((near.receiveFrame sent frame).1=none →
        Joined destination source (near.receiveFrame sent frame).2 { far with outbox := rest }) := by
  have hmem : sent ∈ far.outbox := by
    rw [houtbox]
    exact List.mem_cons_self
  have hsent : far.station.outbox=sent.message :: rest.map Sent.message := by
    change far.outbox.map Sent.message=_
    rw [houtbox,List.map_cons]
  have hmessage := SlidingWindow.Flow.oldest_mem hsent
  obtain ⟨hiff,haccepted⟩ := h.numbered.receiveFrame (h.numbered'.outbox sent hmem) decoded
    (h.lossless'.index_eq hsent) (h.flow.next_le hmessage) h.flow.window
  refine ⟨hiff,fun hnone => ?_⟩
  obtain ⟨hnumbered,htaken⟩ := haccepted hnone
  have hstation := htaken.trans (h.lossless'.receive_eq hsent).symm
  obtain ⟨hflow,hflow'⟩ := (SlidingWindow.Move.deliver hsent).flows h.flow h.flow'
  refine ⟨hnumbered,⟨h.numbered'.state,h.numbered'.remoteAddress,h.numbered'.localAddress,
    h.numbered'.send,h.numbered'.receive,?_⟩,?_,?_,?_,?_⟩
  · intro later hlater
    apply h.numbered'.outbox later
    rw [houtbox]
    exact List.mem_cons_of_mem _ hlater
  all_goals rw [hstation]
  · exact hflow
  · exact hflow'
  · exact h.lossless.receive h.lossless' hsent
  · exact h.lossless'.accept hsent

/-- One call: a delivery is refused if and only if a frame crossed, and otherwise all is kept. -/
theorem call {call : EndpointCall} (valid : call.Valid)
    (windowed : (near.call far call).2.1.Windowed) :
    ((near.call far call).1=none ↔ ∀ limits sent frame rest, call=.deliver limits →
        far.arrival limits=some (sent,frame,rest) → sent.message.next=near.built.length) ∧
      ((near.call far call).1=none →
        Joined destination source (near.call far call).2.1 (near.call far call).2.2) := by
  cases call with
  | buildInformationFrame information pollFinal =>
    obtain ⟨numbered,hstation⟩ := h.numbered.buildInformationFrame valid pollFinal
    exact ⟨⟨nofun,fun _ => rfl⟩,fun _ => h.build numbered windowed hstation⟩
  | buildReceiveReadyFrame pollFinal =>
    obtain ⟨numbered,hstation⟩ := h.numbered.buildReceiveReadyFrame pollFinal
    exact ⟨⟨nofun,fun _ => rfl⟩,fun _ => h.acknowledge numbered hstation⟩
  | deliver limits =>
    rw [Endpoint.call]
    cases harrival : far.arrival limits with
    | none =>
      refine ⟨⟨?_,fun _ => rfl⟩,fun _ => h⟩
      rintro _ limits' sent frame rest ⟨⟩ harrival'
      rw [harrival] at harrival'
      cases harrival'
    | some arrived =>
      obtain ⟨sent,frame,rest⟩ := arrived
      obtain ⟨houtbox,decoded⟩ := Endpoint.arrival_eq_some harrival
      obtain ⟨hiff,haccepted⟩ := h.deliver houtbox decoded
      refine ⟨hiff.trans ⟨?_,?_⟩,haccepted⟩
      · rintro hnext limits' sent' frame' rest' ⟨⟩ harrival'
        rw [harrival] at harrival'
        cases harrival'
        exact hnext
      · intro hall
        exact hall limits sent frame rest rfl harrival

end Joined

/-- Both sides and both channels. -/
def Link.Sound (clientAddress serverAddress : HdlcAddress) (link : Link) : Prop :=
  Joined serverAddress clientAddress link.client link.server

/-- One move of a link is accepted if and only if nothing crossed, and keeps what held. -/
theorem Link.Sound.step_accepts {clientAddress serverAddress : HdlcAddress} {link : Link}
    (h : link.Sound clientAddress serverAddress) {move : SessionRole × EndpointCall}
    (valid : move.2.Valid) (windowed : (link.step move).2.Windowed) :
    (link.Accepts move ↔ link.Uncrossed move) ∧
      (link.Accepts move → (link.step move).2.Sound clientAddress serverAddress) := by
  obtain ⟨role,call⟩ := move
  cases role with
  | client =>
    obtain ⟨hiff,hkept⟩ := Joined.call h valid windowed.1
    refine ⟨⟨?_,?_⟩,?_⟩
    · intro haccepts
      exact hiff.mp haccepts.1
    · intro huncrossed
      have hnone := hiff.mpr huncrossed
      exact ⟨hnone,(hkept hnone).receives,(hkept hnone).symm.receives⟩
    · intro haccepts
      exact hkept haccepts.1
  | server =>
    obtain ⟨hiff,hkept⟩ := Joined.call (Joined.symm h) valid windowed.2
    refine ⟨⟨?_,?_⟩,?_⟩
    · intro haccepts
      exact hiff.mp haccepts.1
    · intro huncrossed
      have hnone := hiff.mpr huncrossed
      exact ⟨hnone,(hkept hnone).symm.receives,(hkept hnone).receives⟩
    · intro haccepts
      exact (hkept haccepts.1).symm

/-- The options are fixed. -/
theorem receiveFrame_options (s : Session) (frame : Frame) :
    (s.receiveFrame frame).2.options=s.options := by
  unfold receiveFrame receiveInformationFrame receiveUnnumberedFrame
  repeat' split
  all_goals rfl

theorem receiveFrame_addresses {s : Session} {frame : Frame}
    (h : (s.receiveFrame frame).1=none) :
    frame.destination=s.localAddress ∧ frame.source=s.remoteAddress := by
  unfold receiveFrame at h
  split at h
  · cases h
  rename_i haddresses
  rw [Bool.not_eq_true',Bool.not_eq_false,incomingAddressesMatch,Bool.and_eq_true,sameAddress_iff,
    sameAddress_iff] at haddresses
  exact haddresses

theorem buildConnectRequest_ok {s requesting : Session} {bytes : List UInt8}
    (h : s.buildConnectRequest=(.ok bytes,requesting)) :
    s.options.role=.client ∧ requesting={ s with
      state := .awaitingConnection, sendSequence := 0, receiveSequence := 0 } := by
  unfold buildConnectRequest at h
  split at h
  · cases h
  rename_i hrole
  split at h
  · cases h
  split at h
  · cases h
  · cases h
    exact ⟨not_not.mp hrole,rfl⟩

theorem buildConnectResponse_ok {s connected : Session} {bytes : List UInt8}
    (h : s.buildConnectResponse=(.ok bytes,connected)) :
    s.options.role=.server ∧ s.buildUnnumberedFrame ctrlUA=.ok bytes ∧ connected={ s with
      state := .connected, connectResponsePending := false, sendSequence := 0,
      receiveSequence := 0 } := by
  unfold buildConnectResponse at h
  split at h
  · cases h
  rename_i hrole
  split at h
  · cases h
  split at h
  · cases h
  · rename_i hbuilt
    cases h
    exact ⟨not_not.mp hrole,hbuilt,rfl⟩

/-- A UA connects a client that waits for it. -/
theorem receiveFrame_ua {s connected : Session} {frame : Frame} (hcontrol : frame.control=⟨ctrlUA⟩)
    (hstate : s.state=.awaitingConnection) (h : s.receiveFrame frame=(none,connected)) :
    connected={ s with state := .connected, sendSequence := 0, receiveSequence := 0 } := by
  have hkind : frame.control.frameKind=.unnumbered := by
    rw [hcontrol]
    decide
  have hua : frame.control.unnumberedKind=.ok .ua := by
    rw [hcontrol]
    decide
  unfold receiveFrame at h
  split at h
  · cases h
  rw [hkind] at h
  dsimp only at h
  rw [receiveUnnumberedFrame,hua] at h
  dsimp only at h
  rw [if_pos hstate] at h
  cases h
  rfl

section Exchanged
variable {client server client' server' : Session} {clientAddress serverAddress : HdlcAddress}

/-- A connected side with both its addresses, and nothing sent or received yet. -/
theorem Endpoint.numbered_start {s : Session} {destination source : HdlcAddress}
    (state : s.state=.connected) (remoteAddress : s.remoteAddress=ofAddress destination)
    (localAddress : s.localAddress=ofAddress source) (send : s.sendSequence=0)
    (receive : s.receiveSequence=0) : (Endpoint.start s).Numbered destination source where
  state := state
  remoteAddress := remoteAddress
  localAddress := localAddress
  send := by
    rw [start,send]
    rfl
  receive := by
    rw [start,receive]
    rfl
  outbox := nofun

/-- Nothing is on its way, and all counters are zero. -/
theorem Link.sound_start
    (hclient : (Endpoint.start client').Numbered serverAddress clientAddress)
    (hserver : (Endpoint.start server').Numbered clientAddress serverAddress) :
    (Link.start client' server').Sound clientAddress serverAddress where
  numbered := hclient
  numbered' := hserver
  flow := SlidingWindow.flow_start 7 7
  flow' := SlidingWindow.flow_start 7 7
  lossless := SlidingWindow.lossless_start 7 7
  lossless' := SlidingWindow.lossless_start 7 7

/-- The exchange shows that both addresses are well formed, and leaves both sides connected. -/
theorem Exchange.sound (h : Exchange client server client' server')
    (mirrored : Mirrored client server) :
    ∃ clientAddress serverAddress,
      (Link.start client' server').Sound clientAddress serverAddress := by
  cases h with
  | @completed snrm ua requesting requested _ _ request response limits limits' built arrived
      accepted answered returned confirmed =>
    obtain ⟨hclient,rfl⟩ := buildConnectRequest_ok built
    obtain ⟨hserver,hua,rfl⟩ := buildConnectResponse_ok answered
    obtain ⟨f,_,_,rfl⟩ := decodeFrame_ok arrived
    obtain ⟨hdestination,hsource⟩ := receiveFrame_addresses (congrArg Prod.fst accepted)
    have hoptions : requested.options=server.options := by
      rw [← receiveFrame_options server (ofFrame f),accepted]
    have hrole : server.options.role=.server := by
      rw [← hoptions]
      exact hserver
    have hserverAddress : server.options.serverAddress=ofAddress f.destination := by
      rw [Session.localAddress,hrole] at hdestination
      exact hdestination.symm
    have hclientAddress : server.options.clientAddress=ofAddress f.source := by
      rw [Session.remoteAddress,hrole] at hsource
      exact hsource.symm
    have hlocal : requested.localAddress=ofAddress f.destination := by
      rw [Session.localAddress,hoptions,hrole]
      exact hserverAddress
    have hremote : requested.remoteAddress=ofAddress f.source := by
      rw [Session.remoteAddress,hoptions,hrole]
      exact hclientAddress
    have hclientLocal : client.localAddress=ofAddress f.source := by
      rw [Session.localAddress,hclient]
      exact mirrored.clientAddress.trans hclientAddress
    have hclientRemote : client.remoteAddress=ofAddress f.destination := by
      rw [Session.remoteAddress,hclient]
      exact mirrored.serverAddress.trans hserverAddress
    rw [Session.buildUnnumberedFrame,Session.buildFrame,hlocal,hremote] at hua
    have hencoded : encodeFrame (ofFrame ⟨false,f.source,f.destination,HdlcSession.uaControl,[]⟩)
        requested.options.limits=.ok ua := hua
    obtain ⟨hformat,rfl⟩ := encodeFrame_ok (by exact Nat.two_pow_pos 63) hencoded
    obtain rfl := decodeFrame_wire hformat returned
    obtain rfl := receiveFrame_ua rfl rfl confirmed
    exact ⟨f.source,f.destination,Link.sound_start
      (Endpoint.numbered_start rfl hclientRemote hclientLocal rfl rfl)
      (Endpoint.numbered_start rfl hremote hlocal rfl rfl)⟩

end Exchanged

/-- In every run after an exchange of SNRM and UA in which at most seven I-frames of each side are
unacknowledged, all frames that are delivered are accepted, and both sides have what the other one
built, if and only if no I-frame crosses a frame on its way. -/
theorem link_accepts_iff {client server client' server' : Session} (mirrored : Mirrored client server)
    (exchange : Exchange client server client' server') {moves : List (SessionRole × EndpointCall)}
    (valid : ∀ move ∈ moves, move.2.Valid)
    (windowed : Link.machine.Along (fun link move => (link.step move).2.Windowed)
      (.start client' server') moves) :
    Link.machine.Along Link.Accepts (.start client' server') moves ↔
      Link.machine.Along Link.Uncrossed (.start client' server') moves := by
  obtain ⟨clientAddress,serverAddress,hsound⟩ := exchange.sound mirrored
  apply Link.machine.along_congr_along (Link.Sound clientAddress serverAddress) ?_ ?_ hsound windowed
  · intro link move hmove h hwindowed
    exact (h.step_accepts (valid move hmove) hwindowed).1
  · intro link move hmove h hwindowed
    exact (h.step_accepts (valid move hmove) hwindowed).2

/-- Two sides with one-byte addresses, before and after the exchange. -/
def sampleSession (role : SessionRole) : Session :=
  .newSession ⟨role,⟨0x10,1⟩,⟨0x03,1⟩,⟨64,0,0⟩⟩

def sampleConnected (role : SessionRole) : Session :=
  { sampleSession role with state := .connected }

theorem sample_mirrored : Mirrored (sampleSession .client) (sampleSession .server) := ⟨rfl,rfl⟩

theorem sample_exchange : Exchange (sampleSession .client) (sampleSession .server)
    (sampleConnected .client) (sampleConnected .server) :=
  @Exchange.completed _ _ [0x7e,0xa0,0x07,0x07,0x21,0x93,0x6e,0x62,0x7e]
    [0x7e,0xa0,0x07,0x21,0x07,0x73,0x61,0x27,0x7e]
    { sampleSession .client with state := .awaitingConnection }
    { sampleSession .server with connectResponsePending := true } _ _
    ⟨false,⟨0x03,1⟩,⟨0x10,1⟩,⟨ctrlSNRM⟩,[]⟩ ⟨false,⟨0x10,1⟩,⟨0x03,1⟩,⟨ctrlUA⟩,[]⟩ ⟨64,0,0⟩ ⟨64,0,0⟩
    (Prod.ext (toOption_eq_some_iff.mp (by decide +kernel)) (by decide +kernel))
    (toOption_eq_some_iff.mp (by decide +kernel)) (by decide +kernel)
    (Prod.ext (toOption_eq_some_iff.mp (by decide +kernel)) (by decide +kernel))
    (toOption_eq_some_iff.mp (by decide +kernel)) (by decide +kernel)

/-- One I-frame and its acknowledgement, and then an I-frame of the other side. -/
theorem link_accepts_iff_sample :
    Link.machine.Along Link.Uncrossed (.start (sampleConnected .client) (sampleConnected .server))
      [(.client,.buildInformationFrame [1,2,3] true),(.server,.deliver ⟨64,0,0⟩),
        (.server,.buildReceiveReadyFrame true),(.client,.deliver ⟨64,0,0⟩),
        (.server,.buildInformationFrame [4] true),(.client,.deliver ⟨64,0,0⟩)] := by
  apply (link_accepts_iff sample_mirrored sample_exchange ?_ ?_).mp
  · decide +kernel
  · decide +kernel
  · decide +kernel

/-- Two I-frames that cross: the first to arrive is refused. -/
theorem crossing_refused : ¬ ∀ (client server client' server' : Session)
    (moves : List (SessionRole × EndpointCall)), Mirrored client server →
      Exchange client server client' server' → (∀ move ∈ moves, move.2.Valid) →
      Link.machine.Along (fun link move => (link.step move).2.Windowed)
        (.start client' server') moves →
      Link.machine.Along Link.Accepts (.start client' server') moves := by
  intro h
  have haccepts := h _ _ _ _ [(.client,.buildInformationFrame [1] false),
    (.server,.buildInformationFrame [2] false),(.server,.deliver ⟨64,0,0⟩)] sample_mirrored
    sample_exchange (by decide +kernel) (by decide +kernel)
  revert haccepts
  decide +kernel

end DlmsHdlc.Go.Session
