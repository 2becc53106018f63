import DlmsHdlc.Session.Link
import DlmsHdlc.Transport.Line

/-! Two connected sessions over lines of bytes. Each side sends its encoded frames, with noise
between them, and takes in what has arrived of the other line through its stream decoder. -/
namespace DlmsHdlc.HdlcSession
open Scanning
open HdlcStreamDecoder (Tolerated scanner scanner_incremental drain_wire drain_noise)

/-- A session with its stream decoder, with what it has done on this connection (the payloads of the
I-frames it built, those it accepted, and every status with which the decoder or the session refused
something), and with the bytes it sent that have not arrived. -/
structure Terminal where
  session : HdlcSession
  decoder : HdlcStreamDecoder
  built : List (List UInt8)
  accepted : List (List UInt8)
  refused : List HdlcStatus
  line : List UInt8

namespace Terminal

def start (session : HdlcSession) (options : HdlcStreamDecoderOptions) : Terminal :=
  ⟨session,.new options,[],[],[],[]⟩

def buildInformationFrame (terminal : Terminal) (information : Pointer) (size : UInt64)
    (pollFinal : Bool) : Terminal :=
  match terminal.session.buildInformationFrame information size pollFinal with
  | (.error _,session) => { terminal with session := session }
  | (.ok bytes,session) => { terminal with
      session := session
      built := terminal.built ++ [information.read size.toNat]
      line := terminal.line ++ bytes }

def buildReceiveReadyFrame (terminal : Terminal) (pollFinal : Bool) : Terminal :=
  match terminal.session.buildReceiveReadyFrame pollFinal with
  | (.error _,session) => { terminal with session := session }
  | (.ok bytes,session) => { terminal with session := session, line := terminal.line ++ bytes }

/-- A frame of the decoder goes to the session. -/
def receiveFrame (terminal : Terminal) (frame : HdlcFrameBuffer) : Terminal :=
  let (status,session) := terminal.session.receiveFrame frame
  { terminal with
    session := session
    accepted := terminal.accepted ++
      if status=.ok ∧ frame.control.frameKind=.information then [frame.information] else []
    refused := terminal.refused ++ if status=.ok then [] else [status] }

/-- A chunk of bytes arrives. -/
def receive (terminal : Terminal) (chunk : List UInt8) : Terminal :=
  let ((status,frames),decoder) := terminal.decoder.push (some chunk) chunk.length
  frames.foldl receiveFrame { terminal with
    decoder := decoder
    refused := terminal.refused ++ if status=.ok ∨ status=.needMoreData then [] else [status] }

/-- The same side with whole frames on its way. -/
def endpoint (terminal : Terminal) (acknowledged : ℕ) (frames : List HdlcFrameBuffer) : Endpoint :=
  ⟨terminal.session,terminal.built,terminal.accepted,acknowledged,frames.map HdlcFrameBuffer.wire⟩

/-- What one side can do, or what can happen on its line: calls, noise that the other decoder
tolerates, and the arrival of any number of bytes. -/
inductive Move (near far : Terminal) : Terminal → Terminal → Prop
  | buildInformationFrame {information : Pointer} {size : UInt64}
      (valid : ValidPointer information size) (pollFinal : Bool) :
      Move near far (near.buildInformationFrame information size pollFinal) far
  | buildReceiveReadyFrame (pollFinal : Bool) :
      Move near far (near.buildReceiveReadyFrame pollFinal) far
  | noise {noise : List UInt8} (tolerated : Tolerated far.decoder.options.noisePolicy noise) :
      Move near far { near with line := near.line ++ noise } far
  | receive {chunk rest : List UInt8} (sent : far.line=chunk ++ rest) :
      Move near far (near.receive chunk) { far with line := rest }

/-- One step of the client or of the server. -/
inductive Step : Terminal × Terminal → Terminal × Terminal → Prop
  | client {client server client' server' : Terminal} (move : Move client server client' server') :
      Step (client,server) (client',server')
  | server {client server client' server' : Terminal} (move : Move server client server' client') :
      Step (client,server) (client',server')

end Terminal

/-- The payloads of the I-frames among the frames. -/
def payloads (frames : List HdlcFrameBuffer) : List (List UInt8) :=
  (frames.filter fun frame => frame.control.frameKind=.information).map HdlcFrameBuffer.information

section Frames
variable (session : HdlcSession)

/-- A frame that was built is within the limits of its session. -/
theorem buildInformationFrame_fits {information : Pointer} {size : UInt64}
    (valid : ValidPointer information size) {pollFinal : Bool} {bytes : List UInt8}
    {next : HdlcSession}
    (h : session.buildInformationFrame information size pollFinal=(.ok bytes,next)) :
    ∃ frame : HdlcFrameBuffer, frame.Fits session.options.limits ∧ bytes=frame.wire := by
  unfold buildInformationFrame at h
  split at h
  · cases h
  split at h
  · cases h
  dsimp only at h
  split at h
  · cases h
  · rename_i hbuilt
    cases h
    obtain ⟨hfits,hbytes⟩ := (session.buildFrame_eq_ok_iff (informationControl session.sendSequence
      session.receiveSequence pollFinal) information size valid.1 valid.2 _).mp hbuilt
    exact ⟨_,hfits,hbytes⟩

theorem buildReceiveReadyFrame_fits {pollFinal : Bool} {bytes : List UInt8} {next : HdlcSession}
    (h : session.buildReceiveReadyFrame pollFinal=(.ok bytes,next)) :
    ∃ frame : HdlcFrameBuffer, frame.Fits session.options.limits ∧ bytes=frame.wire := by
  unfold buildReceiveReadyFrame at h
  split at h
  · cases h
  obtain ⟨hfits,hbytes⟩ := (session.buildFrame_eq_ok_iff (receiveReadyControl
    session.receiveSequence pollFinal) none 0 (by decide) rfl _).mp (congrArg Prod.fst h)
  exact ⟨_,hfits,hbytes⟩

/-- Only unnumbered frames can change the options of a session. -/
theorem receiveFrame_options {frame : HdlcFrameBuffer}
    (h : frame.control.frameKind≠.unnumbered) :
    (session.receiveFrame frame).2.options=session.options := by
  unfold receiveFrame
  split
  · rfl
  cases hkind : frame.control.frameKind with
  | unnumbered => exact absurd hkind h
  | information =>
    dsimp only
    unfold receiveInformationFrame
    dsimp only
    repeat' split
    all_goals rfl
  | supervisory =>
    dsimp only
    unfold receiveSupervisoryFrame
    dsimp only
    repeat' split
    all_goals rfl

end Frames

theorem map_wire_concat (frames : List HdlcFrameBuffer) (frame : HdlcFrameBuffer) :
    frames.map HdlcFrameBuffer.wire ++ [frame.wire]=
      (frames ++ [frame]).map HdlcFrameBuffer.wire := by
  rw [List.map_append]
  rfl

/-- An endpoint that differs from a terminal in its channel only. -/
theorem Represents.terminal {options : HdlcSessionOptions} {endpoint : Endpoint}
    {station : SlidingWindow.Station (List UInt8)} (h : Represents options endpoint station)
    {terminal : Terminal} {frames : List HdlcFrameBuffer}
    (session : endpoint.session=terminal.session) (built : endpoint.built=terminal.built)
    (accepted : endpoint.accepted=terminal.accepted)
    (outbox : endpoint.outbox=frames.map HdlcFrameBuffer.wire) :
    ∃ acknowledged, Represents options (terminal.endpoint acknowledged frames) station := by
  refine ⟨endpoint.acknowledged,?_⟩
  rw [Terminal.endpoint,← session,← built,← accepted,← outbox]
  exact h

/-- A frame of the format carries the message that its bytes carry. -/
theorem Carries.of_wire {options : HdlcSessionOptions} {frame : HdlcFrameBuffer}
    {message : SlidingWindow.Message (List UInt8)} (h : Carries options frame.wire message)
    (hformat : frame.formatLength ≤ 2047) :
    (frame.control.frameKind=.information ∧ ∃ index next,
        message=.data index next frame.information ∧
          frame.control.sendSequence.toNat=index%8) ∨
      frame.control.frameKind=.supervisory ∧ ∃ next, message=.acknowledge next := by
  generalize hbytes : frame.wire=bytes at h
  cases h with
  | @information control index next payload kind send receive format =>
    obtain rfl := HdlcFrameBuffer.wire_injective hformat format hbytes
    exact .inl ⟨kind,index,next,rfl,send⟩
  | @receiveReady control next kind receive format =>
    obtain rfl := HdlcFrameBuffer.wire_injective hformat format hbytes
    exact .inr ⟨kind,next,rfl⟩

/-- The items on the way of a station are the payloads on the way of its endpoint. -/
theorem items_eq {options : HdlcSessionOptions} {frames : List HdlcFrameBuffer}
    {messages : List (SlidingWindow.Message (List UInt8))}
    (h : List.Forall₂ (Carries options) (frames.map HdlcFrameBuffer.wire) messages)
    (hformat : ∀ frame ∈ frames, frame.formatLength ≤ 2047) :
    messages.filterMap SlidingWindow.Message.item=payloads frames := by
  induction frames generalizing messages with
  | nil =>
    cases h
    rfl
  | cons frame frames ih =>
    obtain _ | ⟨carries,hrest⟩ := h
    have hitems := ih hrest fun frame hframe => hformat frame (List.mem_cons_of_mem _ hframe)
    rw [payloads,List.filter_cons]
    obtain ⟨hkind,index,next,rfl,_⟩ | ⟨hkind,next,rfl⟩ :=
      carries.of_wire (hformat _ List.mem_cons_self)
    · rw [if_pos (decide_eq_true hkind)]
      exact congrArg (frame.information :: ·) hitems
    · rw [if_neg (by rw [hkind]; decide)]
      exact hitems

section Simulation
variable {nearOptions farOptions : HdlcSessionOptions} {near far near' far' : Terminal}
  {nearFrames farFrames : List HdlcFrameBuffer} {n f : SlidingWindow.Station (List UInt8)}

open SlidingWindow in
/-- Two sides with whole frames on their way run the stations of the protocol, and nothing is
lost. -/
structure Runs (nearOptions farOptions : HdlcSessionOptions) (near far : Terminal)
    (nearFrames farFrames : List HdlcFrameBuffer) (n f : Station (List UInt8)) : Prop where
  near : ∃ acknowledged, Represents nearOptions (near.endpoint acknowledged nearFrames) n
  far : ∃ acknowledged, Represents farOptions (far.endpoint acknowledged farFrames) f
  nearFlow : Flow n f
  farFlow : Flow f n
  nearLossless : Lossless n f
  farLossless : Lossless f n
  nearWindow : n.window ≤ 7
  farWindow : f.window ≤ 7

/-- The oldest frame of the other side is accepted. -/
theorem Runs.receiveFrame {frame : HdlcFrameBuffer}
    (h : Runs nearOptions farOptions near far nearFrames (frame::farFrames) n f)
    (peers : (new farOptions).remoteAddress=(new nearOptions).localAddress ∧
      (new farOptions).localAddress=(new nearOptions).remoteAddress)
    {limits : HdlcCodecLimits} (hfits : frame.Fits limits) :
    (near.session.receiveFrame frame).1=.ok ∧
      (near.session.receiveFrame frame).2.options=near.session.options ∧
      ∃ n' f', Runs nearOptions farOptions (near.receiveFrame frame) far nearFrames farFrames
        n' f' := by
  obtain ⟨⟨_,hnear⟩,⟨acknowledged,hfar⟩,hflow,hflow',hlossless,hlossless',hwindow,hwindow'⟩ := h
  have houtbox : List.Forall₂ (Carries farOptions)
      (frame.wire::farFrames.map HdlcFrameBuffer.wire) f.outbox := hfar.outbox
  generalize hstation : f.outbox=messages at houtbox
  cases houtbox with
  | @cons _ message _ rest carries hrest =>
    have admissible := admissible_of_flows hflow hflow' hwindow hwindow'
      (by rw [hstation]; exact List.mem_cons_self)
    have decoded := (frame.decodeFrame_image_eq_ok_iff limits hfits.format_le frame).mpr
      ⟨hfits,rfl⟩
    obtain ⟨hreceived,_,hstatus⟩ := hnear.deliver peers carries admissible decoded
    have hkinds := carries.of_wire hfits.format_le
    refine ⟨?_,?_,n.receive message,{ f with outbox := rest },?_⟩
    · obtain hok | ⟨hkind,hne⟩ := hstatus
      · exact hok
      · -- Without losses the I-frame is the next one in order.
        obtain ⟨_,index,next,rfl,hsend⟩ | ⟨hkind',_⟩ := hkinds
        · have hindex := hlossless'.index_eq hstation index rfl
          rw [hindex,← hnear.receive] at hsend
          exact absurd (UInt8.toNat_inj.mp hsend) hne
        · rw [hkind] at hkind'
          cases hkind'
    · apply receiveFrame_options
      obtain ⟨hkind,_⟩ | ⟨hkind,_⟩ := hkinds <;> rw [hkind] <;> decide
    · obtain ⟨hnearFlow,hfarFlow⟩ := (SlidingWindow.Move.deliver hstation).flows hflow hflow'
      exact {
        near := ⟨_,hreceived⟩
        far := ⟨acknowledged,{ hfar with outbox := hrest }⟩
        nearFlow := hnearFlow
        farFlow := hfarFlow
        nearLossless := hlossless.receive hlossless' hstation
        farLossless := hlossless'.accept hstation
        nearWindow := (SlidingWindow.Station.receive_window n message).trans_le hwindow
        farWindow := hwindow' }

/-- What frames do not change, when none is refused. -/
structure Terminal.Continues (near next : Terminal) : Prop where
  options : next.session.options=near.session.options
  decoder : next.decoder=near.decoder
  refused : next.refused=near.refused
  line : next.line=near.line

/-- The oldest frames of the other side are accepted one by one. -/
theorem Runs.receiveFrames {arrived others : List HdlcFrameBuffer}
    (h : Runs nearOptions farOptions near far nearFrames (arrived ++ others) n f)
    (peers : (new farOptions).remoteAddress=(new nearOptions).localAddress ∧
      (new farOptions).localAddress=(new nearOptions).remoteAddress)
    {limits : HdlcCodecLimits} (hfits : ∀ frame ∈ arrived, frame.Fits limits) :
    near.Continues (arrived.foldl Terminal.receiveFrame near) ∧
      ∃ n' f', Runs nearOptions farOptions (arrived.foldl Terminal.receiveFrame near) far
        nearFrames others n' f' := by
  induction arrived generalizing near n f with
  | nil => exact ⟨⟨rfl,rfl,rfl,rfl⟩,n,f,h⟩
  | cons frame arrived ih =>
    obtain ⟨hok,hoptions,n',f',hnext⟩ := h.receiveFrame peers (hfits _ List.mem_cons_self)
    obtain ⟨hcontinues,hrest⟩ := ih hnext fun frame hframe =>
      hfits frame (List.mem_cons_of_mem _ hframe)
    refine ⟨⟨hcontinues.options.trans hoptions,hcontinues.decoder,?_,hcontinues.line⟩,hrest⟩
    refine hcontinues.refused.trans ?_
    change near.refused ++ (if (near.session.receiveFrame frame).1=.ok then [] else _)=_
    rw [if_pos hok,List.append_nil]

/-- The bytes that one side has sent, buffered by the other decoder or on the line, are these frames,
and the other decoder takes whatever the session builds. -/
structure Terminal.Sends (near far : Terminal) (frames : List HdlcFrameBuffer) : Prop where
  transit : (scanner far.decoder.options).Transit far.decoder.buffer near.line frames
  fits : ∀ frame ∈ frames, frame.Fits far.decoder.options.limits
  allow : far.decoder.options.limits.Allow near.session.options.limits

namespace Terminal.Sends
variable {frames : List HdlcFrameBuffer}

/-- A frame is put on the line. -/
theorem frame (h : near.Sends far frames) {frame : HdlcFrameBuffer}
    (hfits : frame.Fits near.session.options.limits) (session : HdlcSession)
    (hoptions : session.options=near.session.options) (built : List (List UInt8)) :
    Sends { near with session := session, built := built, line := near.line ++ frame.wire } far
      (frames ++ [frame]) where
  transit := h.transit.extend (scanner_incremental _) (drain_wire (h.allow frame hfits))
  fits := List.forall_mem_append.mpr
    ⟨h.fits,by simpa using h.allow frame hfits⟩
  allow := by
    change far.decoder.options.limits.Allow session.options.limits
    rw [hoptions]
    exact h.allow

/-- It takes the decoder of the other side only. -/
theorem of_decoder (h : near.Sends far frames) (hdecoder : far'.decoder=far.decoder) :
    near.Sends far' frames where
  transit := by
    rw [hdecoder]
    exact h.transit
  fits := by
    rw [hdecoder]
    exact h.fits
  allow := by
    rw [hdecoder]
    exact h.allow

theorem noise (h : near.Sends far frames) {noise : List UInt8}
    (tolerated : Tolerated far.decoder.options.noisePolicy noise) :
    Sends { near with line := near.line ++ noise } far frames where
  transit := by
    have htransit := h.transit.extend (scanner_incremental _) (drain_noise tolerated)
    rwa [List.append_nil] at htransit
  fits := h.fits
  allow := h.allow

end Terminal.Sends

/-- The whole state of the link: stations, frames on their way, and bytes on their way. -/
structure Linked (nearOptions farOptions : HdlcSessionOptions) (near far : Terminal)
    (nearFrames farFrames : List HdlcFrameBuffer)
    (n f : SlidingWindow.Station (List UInt8)) : Prop where
  runs : Runs nearOptions farOptions near far nearFrames farFrames n f
  nearSends : near.Sends far nearFrames
  farSends : far.Sends near farFrames
  nearRefused : near.refused=[]
  farRefused : far.refused=[]

theorem Linked.symm (h : Linked nearOptions farOptions near far nearFrames farFrames n f) :
    Linked farOptions nearOptions far near farFrames nearFrames f n where
  runs :=
    { near := h.runs.far, far := h.runs.near, nearFlow := h.runs.farFlow,
      farFlow := h.runs.nearFlow, nearLossless := h.runs.farLossless,
      farLossless := h.runs.nearLossless, nearWindow := h.runs.farWindow,
      farWindow := h.runs.nearWindow }
  nearSends := h.farSends
  farSends := h.nearSends
  nearRefused := h.farRefused
  farRefused := h.nearRefused

/-- A chunk of the other line arrives: the decoder finds some of the frames on their way. -/
theorem Linked.receive (h : Linked nearOptions farOptions near far nearFrames farFrames n f)
    (peers : (new farOptions).remoteAddress=(new nearOptions).localAddress ∧
      (new farOptions).localAddress=(new nearOptions).remoteAddress)
    {chunk rest : List UInt8} (sent : far.line=chunk ++ rest) :
    ∃ farFrames' n' f', Linked nearOptions farOptions (near.receive chunk)
      { far with line := rest } nearFrames farFrames' n' f' := by
  obtain ⟨arrived,others,kept,hdrain,rfl,htransit⟩ :=
    h.farSends.transit.arrive (scanner_incremental _) sent
  have hread : Pointer.read (some chunk) chunk.length=chunk := by simp
  have hpush : near.decoder.push (some chunk) chunk.length=
      ((if arrived.isEmpty then .needMoreData else .ok,arrived),
        { near.decoder with buffer := kept }) := by
    rw [HdlcStreamDecoder.push,if_neg (by simp),hread,hdrain]
  have hreceive : near.receive chunk=
      arrived.foldl Terminal.receiveFrame
        { near with decoder := { near.decoder with buffer := kept } } := by
    rw [Terminal.receive,hpush]
    dsimp only
    rw [if_pos (by cases arrived <;> simp),List.append_nil]
  have hruns : Runs nearOptions farOptions
      { near with decoder := { near.decoder with buffer := kept } } { far with line := rest }
        nearFrames (arrived ++ others) n f := { h.runs with }
  obtain ⟨hcontinues,n',f',hnext⟩ := hruns.receiveFrames peers fun frame hframe =>
    h.farSends.fits frame (List.mem_append_left _ hframe)
  rw [← hreceive] at hcontinues hnext
  refine ⟨others,n',f',hnext,?_,?_,hcontinues.refused.trans h.nearRefused,h.farRefused⟩
  · constructor
    · rw [hcontinues.line]
      exact h.nearSends.transit
    · exact h.nearSends.fits
    · rw [hcontinues.options]
      exact h.nearSends.allow
  · constructor
    · rw [hcontinues.decoder]
      exact htransit
    · intro frame hframe
      rw [hcontinues.decoder]
      exact h.farSends.fits frame (List.mem_append_right _ hframe)
    · rw [hcontinues.decoder]
      exact h.farSends.allow

/-- The I-frame that a session builds is put on the line, and its station builds the item. -/
theorem Linked.buildInformationFrame
    (h : Linked nearOptions farOptions near far nearFrames farFrames n f) {information : Pointer}
    {size : UInt64} (valid : ValidPointer information size) (pollFinal : Bool) :
    ∃ nearFrames' n', Linked nearOptions farOptions
      (near.buildInformationFrame information size pollFinal) far nearFrames' farFrames n' f := by
  obtain ⟨acknowledged,hnear⟩ := h.runs.near
  obtain ⟨status,hfailed⟩ | ⟨_,_,hbuilt⟩ :=
    near.session.buildInformationFrame_cases valid pollFinal
  · refine ⟨nearFrames,n,?_⟩
    rw [Terminal.buildInformationFrame,hfailed]
    exact h
  obtain ⟨frame,hfits,hbytes⟩ := near.session.buildInformationFrame_fits valid hbuilt
  rw [hbytes] at hbuilt
  have hendpoint : (near.endpoint acknowledged nearFrames).session.buildInformationFrame information
      size pollFinal=_ := hbuilt
  have hflow := h.runs.nearFlow
  have hrepresents := hnear.buildInformationFrame (hflow.acknowledged.trans hflow.accepted_le)
    (hflow.window.trans (Nat.add_le_add_left h.runs.nearWindow n.acknowledged)) valid pollFinal
  rw [Endpoint.buildInformationFrame,hendpoint] at hrepresents
  dsimp only [Endpoint.send] at hrepresents
  rw [Terminal.buildInformationFrame,hbuilt]
  dsimp only
  obtain hsame | ⟨room,hnext⟩ := hrepresents
  · -- The built payload is one more than those of the station.
    have hlength := congrArg List.length (hsame.built.trans hnear.built.symm)
    change (near.built ++ [_]).length=near.built.length at hlength
    simp at hlength
  obtain ⟨hnearFlow,hfarFlow⟩ := (SlidingWindow.Move.build _ room).flows hflow h.runs.farFlow
  refine ⟨nearFrames ++ [frame],n.build (information.read size.toNat),?_,h.nearSends.frame hfits
    { near.session with sendSequence := nextSequence near.session.sendSequence } rfl _,
    h.farSends.of_decoder rfl,h.nearRefused,h.farRefused⟩
  exact {
    near := hnext.terminal rfl rfl rfl (map_wire_concat nearFrames frame)
    far := h.runs.far
    nearFlow := hnearFlow
    farFlow := hfarFlow
    nearLossless := h.runs.nearLossless.build _
    farLossless := h.runs.farLossless.answer _ _ _
    nearWindow := h.runs.nearWindow
    farWindow := h.runs.farWindow }

theorem Linked.buildReceiveReadyFrame
    (h : Linked nearOptions farOptions near far nearFrames farFrames n f) (pollFinal : Bool) :
    ∃ nearFrames' n', Linked nearOptions farOptions (near.buildReceiveReadyFrame pollFinal) far
      nearFrames' farFrames n' f := by
  obtain ⟨acknowledged,hnear⟩ := h.runs.near
  obtain ⟨status,hfailed⟩ | ⟨_,hbuilt⟩ := near.session.buildReceiveReadyFrame_cases pollFinal
  · refine ⟨nearFrames,n,?_⟩
    rw [Terminal.buildReceiveReadyFrame,hfailed]
    exact h
  obtain ⟨frame,hfits,hbytes⟩ := near.session.buildReceiveReadyFrame_fits hbuilt
  rw [hbytes] at hbuilt
  have hendpoint : (near.endpoint acknowledged nearFrames).session.buildReceiveReadyFrame
      pollFinal=_ := hbuilt
  have hrepresents := hnear.buildReceiveReadyFrame pollFinal
  rw [Endpoint.buildReceiveReadyFrame,hendpoint] at hrepresents
  dsimp only [Endpoint.send] at hrepresents
  rw [Terminal.buildReceiveReadyFrame,hbuilt]
  obtain hsame | hnext := hrepresents
  · -- One more frame is on its way than the station has messages.
    have hlength := hsame.outbox.length_eq.trans hnear.outbox.length_eq.symm
    change ((nearFrames.map HdlcFrameBuffer.wire) ++ [_]).length=(nearFrames.map _).length at hlength
    simp at hlength
  obtain ⟨hnearFlow,hfarFlow⟩ := SlidingWindow.Move.acknowledge.flows h.runs.nearFlow h.runs.farFlow
  refine ⟨nearFrames ++ [frame],n.acknowledge,?_,h.nearSends.frame hfits near.session rfl _,
    h.farSends.of_decoder rfl,h.nearRefused,h.farRefused⟩
  exact {
    near := hnext.terminal rfl rfl rfl (map_wire_concat nearFrames frame)
    far := h.runs.far
    nearFlow := hnearFlow
    farFlow := hfarFlow
    nearLossless := h.runs.nearLossless.acknowledge
    farLossless := h.runs.farLossless.answer _ _ _
    nearWindow := h.runs.nearWindow
    farWindow := h.runs.farWindow }

/-- Every move of a terminal keeps the link whole. -/
theorem Terminal.Move.linked (move : Terminal.Move near far near' far')
    (h : Linked nearOptions farOptions near far nearFrames farFrames n f)
    (peers : (new farOptions).remoteAddress=(new nearOptions).localAddress ∧
      (new farOptions).localAddress=(new nearOptions).remoteAddress) :
    ∃ nearFrames' farFrames' n' f',
      Linked nearOptions farOptions near' far' nearFrames' farFrames' n' f' := by
  cases move with
  | buildInformationFrame valid pollFinal =>
    obtain ⟨nearFrames',n',hnext⟩ := h.buildInformationFrame valid pollFinal
    exact ⟨nearFrames',farFrames,n',f,hnext⟩
  | buildReceiveReadyFrame pollFinal =>
    obtain ⟨nearFrames',n',hnext⟩ := h.buildReceiveReadyFrame pollFinal
    exact ⟨nearFrames',farFrames,n',f,hnext⟩
  | noise tolerated =>
    exact ⟨nearFrames,farFrames,n,f,{ h.runs with },h.nearSends.noise tolerated,
      h.farSends.of_decoder rfl,h.nearRefused,h.farRefused⟩
  | receive sent =>
    obtain ⟨farFrames',n',f',hnext⟩ := h.receive peers sent
    exact ⟨nearFrames,farFrames',n',f',hnext⟩

/-- What one side built has been accepted by the other one, or is still in its decoder or on the
line, in order and once; nothing was refused; and no more than a window is not accepted yet. -/
structure Terminal.Conveys (near far : Terminal) : Prop where
  refused : far.refused=[]
  conserved : ∃ frames, (scanner far.decoder.options).drain (far.decoder.buffer ++ near.line)=
      (frames,.ok []) ∧ far.accepted ++ payloads frames=near.built
  arrived : far.decoder.buffer ++ near.line=[] → far.accepted=near.built
  window : near.built.length ≤ far.accepted.length+near.session.windowSizeTransmit.toNat

theorem Linked.conveys (h : Linked nearOptions farOptions near far nearFrames farFrames n f) :
    near.Conveys far := by
  obtain ⟨_,hnear⟩ := h.runs.near
  obtain ⟨_,hfar⟩ := h.runs.far
  have hbuilt : near.built=n.built := hnear.built
  have haccepted : far.accepted=f.accepted := hfar.accepted
  have hitems := items_eq hnear.outbox fun frame hframe => (h.nearSends.fits frame hframe).format_le
  have hconserved : far.accepted ++ payloads nearFrames=near.built := by
    rw [← hitems,hbuilt,haccepted]
    exact h.runs.nearLossless.items
  have hdrains := h.nearSends.transit.drains
  refine ⟨h.farRefused,⟨nearFrames,hdrains,hconserved⟩,?_,?_⟩
  · intro hempty
    rw [hempty,HdlcStreamDecoder.scanner_drain_nil,Prod.mk.injEq] at hdrains
    rw [← hdrains.1] at hconserved
    exact (List.append_nil _).symm.trans hconserved
  · have hwindow : near.session.windowSizeTransmit.toNat=n.window := hnear.window
    rw [hbuilt,haccepted,hwindow]
    exact h.runs.nearFlow.window.trans (Nat.add_le_add_right h.runs.nearFlow.acknowledged _)

end Simulation

variable {clientOptions serverOptions : HdlcSessionOptions}
  {client server client' server' : HdlcSession}

/-- Over lines of bytes, after an exchange of SNRM and UA that leaves the client a transmit window of
at most seven, with a server whose configured windows are at most seven and decoders whose limits
allow what the sessions' own limits do, whatever I-frames and RRs are built, with whatever noise
that the decoders tolerate and whatever cuts into chunks: the decoders report no error and the
sessions refuse no frame, and each side has accepted, once and in order, what the other side built,
but for the payloads still in its decoder or on the line, which are at most a window. -/
theorem byteLink_conveys (association : Association clientOptions serverOptions)
    (serverWindows : serverOptions.negotiationLimits.Windows)
    (hclient : Reachable clientOptions client) (hserver : Reachable serverOptions server)
    (hexchange : Exchange client server client' server')
    (hclientWindow : client'.windowSizeTransmit.toNat ≤ 7)
    {clientDecoder serverDecoder : HdlcStreamDecoderOptions}
    (hclientDecoder : clientDecoder.limits.Allow server'.options.limits)
    (hserverDecoder : serverDecoder.limits.Allow client'.options.limits)
    {link : Terminal × Terminal} (run : Relation.ReflTransGen Terminal.Step
      (.start client' clientDecoder,.start server' serverDecoder) link) :
    link.1.Conveys link.2 ∧ link.2.Conveys link.1 := by
  obtain ⟨hclientOpened,hserverOpened⟩ := hexchange.opened
  have hclient' := hexchange.client_reachable hclient hserver
  have hserver' := hexchange.server_reachable hserver
  have hserverWindow := server_window_le hserver' association.server serverWindows
  obtain ⟨hremote,hlocal⟩ := association.peers
  have hlinked : ∃ clientFrames serverFrames c s, Linked clientOptions serverOptions link.1 link.2
      clientFrames serverFrames c s := by
    induction run with
    | refl =>
      have hstart {session far : HdlcSession} {options peer : HdlcStreamDecoderOptions}
          (hallow : peer.limits.Allow session.options.limits) :
          (Terminal.start session options).Sends (.start far peer) [] :=
        ⟨⟨HdlcStreamDecoder.scanner_drain_nil peer,HdlcStreamDecoder.scanner_drain_nil peer⟩,by simp,
          hallow⟩
      refine ⟨[],[],.start client'.windowSizeTransmit.toNat,.start server'.windowSizeTransmit.toNat,
        ?_,hstart hserverDecoder,hstart hclientDecoder,rfl,rfl⟩
      exact {
        near := ⟨0,hclientOpened.represents (configured_of_reachable hclient')⟩
        far := ⟨0,hserverOpened.represents (configured_of_reachable hserver')⟩
        nearFlow := SlidingWindow.flow_start _ _
        farFlow := SlidingWindow.flow_start _ _
        nearLossless := SlidingWindow.lossless_start _ _
        farLossless := SlidingWindow.lossless_start _ _
        nearWindow := hclientWindow
        farWindow := hserverWindow }
    | tail _ step ih =>
      obtain ⟨_,_,_,_,hlinked⟩ := ih
      cases step with
      | client move => exact move.linked hlinked ⟨hlocal.symm,hremote.symm⟩
      | server move =>
        obtain ⟨_,_,_,_,hnext⟩ := move.linked hlinked.symm ⟨hremote,hlocal⟩
        exact ⟨_,_,_,_,hnext.symm⟩
  obtain ⟨_,_,_,_,hlinked⟩ := hlinked
  exact ⟨hlinked.conveys,hlinked.symm.conveys⟩

def sampleDecoder : HdlcStreamDecoderOptions := ⟨defaultHdlcCodecLimits,.reportError⟩

/-- The client after its first I-frame. -/
def sampleSender : Terminal :=
  (Terminal.start sampleClient sampleDecoder).buildInformationFrame (some [1,2,3]) 3 false

/-- The server takes the frame in in two chunks. -/
def sampleReceiver : Terminal :=
  ((Terminal.start sampleServer sampleDecoder).receive (sampleSender.line.take 5)).receive
    (sampleSender.line.drop 5)

theorem byteLink_conveys_sample :
    Terminal.Conveys { sampleSender with line := [] } sampleReceiver ∧
      sampleReceiver.Conveys { sampleSender with line := [] } := by
  have hclient : Reachable (sampleOptions .client) (new (sampleOptions .client)) := ⟨[],rfl⟩
  have hserver : Reachable (sampleOptions .server) (new (sampleOptions .server)) := ⟨[],rfl⟩
  have hvalid : ValidPointer (some [1,2,3]) 3 := ⟨by decide,rfl⟩
  have hbuilt : Terminal.Move (.start sampleClient sampleDecoder) (.start sampleServer sampleDecoder)
      sampleSender (.start sampleServer sampleDecoder) := .buildInformationFrame hvalid false
  have hfirst : Terminal.Move (.start sampleServer sampleDecoder) sampleSender
      ((Terminal.start sampleServer sampleDecoder).receive (sampleSender.line.take 5))
      { sampleSender with line := sampleSender.line.drop 5 } :=
    .receive (List.take_append_drop 5 _).symm
  have hsecond : Terminal.Move
      ((Terminal.start sampleServer sampleDecoder).receive (sampleSender.line.take 5))
      { sampleSender with line := sampleSender.line.drop 5 } sampleReceiver
      { sampleSender with line := [] } := .receive (List.append_nil _).symm
  have hallow : sampleDecoder.limits.Allow defaultHdlcCodecLimits := fun _ h => h
  exact byteLink_conveys sample_association (sample_windows .server) hclient hserver
    sample_exchange (by decide) hallow hallow
    (((Relation.ReflTransGen.single (.client hbuilt)).tail (.server hfirst)).tail (.server hsecond))

end DlmsHdlc.HdlcSession
