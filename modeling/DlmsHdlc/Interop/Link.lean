import DlmsHdlc.Codec.ErrorDetection
import DlmsHdlc.Interop.Peer
import DlmsHdlc.Library.LossyLink

/-! Two sessions, each of either library, over channels that lose frames, flip bits in them and carry
the frames of others. -/
namespace DlmsHdlc
open SlidingWindow

/-- A session with what it has done on this connection: the payloads of the I-frames it built, those
it accepted, and how many of its own are acknowledged. -/
structure LinkSide where
  peer : Peer
  built : List (List UInt8)
  accepted : List (List UInt8)
  acknowledged : ℕ

namespace LinkSide

def start (peer : Peer) : LinkSide := ⟨peer,[],[],0⟩

/-- The frame to send, if there is one, and the side after the call. -/
def buildInformationFrame (side : LinkSide) (information : List UInt8) (pollFinal : Bool) :
    List (List UInt8) × LinkSide :=
  match side.peer.buildInformationFrame information pollFinal with
  | (.error _,peer) => ([],{ side with peer := peer })
  | (.ok bytes,peer) => ([bytes],{ side with peer := peer, built := side.built ++ [information] })

def buildReceiveReadyFrame (side : LinkSide) (pollFinal : Bool) : List (List UInt8) × LinkSide :=
  match side.peer.buildReceiveReadyFrame pollFinal with
  | (.error _,peer) => ([],{ side with peer := peer })
  | (.ok bytes,peer) => ([bytes],{ side with peer := peer })

/-- A frame that is not decoded is ignored. What a C++ session takes as acknowledged follows its
`V(A)`; a Go session accepts only frames that acknowledge all it has built. -/
def receive (side : LinkSide) (limits : HdlcCodecLimits) (bytes : List UInt8) : LinkSide :=
  match side.peer with
  | .cpp session =>
    match decodeFrame (some bytes) bytes.length limits with
    | .error _ => side
    | .ok frame =>
      let endpoint := HdlcSession.Endpoint.receiveFrame
        ⟨session,side.built,side.accepted,side.acknowledged,[]⟩ frame
      ⟨.cpp endpoint.session,endpoint.built,endpoint.accepted,endpoint.acknowledged⟩
  | .go session =>
    match Go.decodeFrame bytes (Go.ofLimits limits) with
    | .error _ => side
    | .ok frame =>
      match session.receiveFrame frame with
      | (some _,session) => { side with peer := .go session }
      | (none,session) => { side with
          peer := .go session
          accepted := side.accepted ++
            if frame.control.frameKind=.information then [frame.information] else []
          acknowledged := side.built.length }

/-- A Go session has no transmit window of its own, so its user keeps to one. -/
def Within (side : LinkSide) : Prop :=
  match side.peer with
  | .cpp _ => True
  | .go _ => side.built.length < side.acknowledged+7

/-- One call, with the frames it sends. -/
inductive Call (side : LinkSide) : List (List UInt8) → LinkSide → Prop
  | buildInformationFrame {information : List UInt8} (valid : information.length < 2^63)
      (within : side.Within) (pollFinal : Bool) :
      Call side (side.buildInformationFrame information pollFinal).1
        (side.buildInformationFrame information pollFinal).2
  | buildReceiveReadyFrame (pollFinal : Bool) :
      Call side (side.buildReceiveReadyFrame pollFinal).1 (side.buildReceiveReadyFrame pollFinal).2

def kind : Kind LinkSide (List UInt8) where
  call := Call
  arrive side bytes next := ∃ limits, next=side.receive limits bytes

/-- The side runs a station of the protocol, with the addresses its frames go to and come from. -/
inductive Plays (destination source : HdlcAddress) : LinkSide → Station (List UInt8) → Prop
  | cpp {options : HdlcSessionOptions} {session : HdlcSession} {station : Station (List UInt8)}
      (remoteAddress : (HdlcSession.new options).remoteAddress=destination)
      (localAddress : (HdlcSession.new options).localAddress=source)
      (represents : HdlcSession.Represents options
        ⟨session,station.built,station.accepted,station.acknowledged,[]⟩
        { station with outbox := [] }) :
      Plays destination source
        ⟨.cpp session,station.built,station.accepted,station.acknowledged⟩ station
  | go {session : Go.Session} {station : Station (List UInt8)} (window : station.window=7)
      (numbered : Go.Session.Endpoint.Numbered destination source
        ⟨session,station.built,station.accepted,station.acknowledged,[]⟩) :
      Plays destination source
        ⟨.go session,station.built,station.accepted,station.acknowledged⟩ station

end LinkSide

/-- A frame that no decoder takes, of either library. -/
def Undecodable (bytes : List UInt8) : Prop :=
  ∀ limits frame, decodeFrame (some bytes) bytes.length limits≠.ok frame

/-- No decoder, of either library, finds a frame from the one address to the other in it. -/
def Without (sender receiver : HdlcAddress) (bytes : List UInt8) : Prop :=
  ∀ limits frame, decodeFrame (some bytes) bytes.length limits=.ok frame →
    ¬ (frame.source=sender ∧ frame.destination=receiver)

/-- What other stations of the line send: nothing between the peer and its own peer. -/
def Stray (peer : Peer) (bytes : List UInt8) : Prop :=
  ∀ limits frame, decodeFrame (some bytes) bytes.length limits=.ok frame →
    ¬ (Go.ofAddress frame.source=peer.localAddress ∧
        Go.ofAddress frame.destination=peer.remoteAddress) ∧
      ¬ (Go.ofAddress frame.source=peer.remoteAddress ∧
        Go.ofAddress frame.destination=peer.localAddress)

/-- A frame with flipped bits between its flags: within sixteen consecutive ones, two, or an odd
number. -/
inductive BitError (bytes : List UInt8) : List UInt8 → Prop
  | flipped {error : List UInt8} {limits : HdlcCodecLimits} {frame : HdlcFrameBuffer}
      (intact : decodeFrame (some bytes) bytes.length limits=.ok frame)
      (length : error.length+2=bytes.length) (nonzero : ∃ byte ∈ error, byte≠0)
      (detectable : Detectable error) : BitError bytes (corrupt bytes error)

/-- What holds at all times for the I-frames of one side. -/
structure LinkSide.Delivers (near far : LinkSide) : Prop where
  accepted : far.accepted <+: near.built
  acknowledged_le : near.acknowledged ≤ far.accepted.length
  window : near.built.length ≤ near.acknowledged+near.peer.window

open ShiftRegister in
theorem BitError.undecodable {bytes bytes' : List UInt8} (h : BitError bytes bytes') :
    Undecodable bytes' := by
  obtain ⟨intact,hlength,hnonzero,hdetectable⟩ := h
  rename_i error limits frame
  intro limits' frame' hdecoded
  obtain ⟨interior,rfl,hshort,hrun⟩ := decodeFrame_sealed intact
  obtain ⟨other,hother,_,hotherRun⟩ := decodeFrame_sealed hdecoded
  have hsize : interior.length=error.length := by
    simp only [List.length_append,List.length_cons,List.length_nil] at hlength
    omega
  rw [corrupt_interior hsize] at hother
  have hflip : List.zipWith (· ^^^ ·) interior error=other :=
    List.append_inj_right (List.append_inj_left' hother rfl) rfl
  rw [← hflip,map_symbol_xor hsize,← hrun] at hotherRun
  have hzero := (run_corrupt _ (by simp [hsize])).mp hotherRun
  exact hdetectable.run_ne_zero (by omega) hnonzero hzero

/-- The same frames, said with the addresses of a C++ session. -/
theorem carries_iff {options : HdlcSessionOptions} {bytes : List UInt8}
    {message : Message (List UInt8)} :
    HdlcSession.Carries options bytes message ↔ Go.Session.Carries
      (HdlcSession.new options).remoteAddress (HdlcSession.new options).localAddress bytes
        message := by
  constructor
  · rintro (⟨kind,send,receive,format⟩ | ⟨kind,receive,format⟩)
    · exact .information kind send receive format
    · exact .receiveReady kind receive format
  · rintro (⟨kind,send,receive,format⟩ | ⟨kind,receive,format⟩)
    · exact .information kind send receive format
    · exact .receiveReady kind receive format

/-- The options of the other side. -/
def HdlcSessionOptions.mirrored (options : HdlcSessionOptions) : HdlcSessionOptions :=
  { options with role := match options.role with
      | .client => .server
      | .server => .client }

theorem HdlcSessionOptions.mirrored_addresses (options : HdlcSessionOptions) :
    (HdlcSession.new options.mirrored).remoteAddress=(HdlcSession.new options).localAddress ∧
      (HdlcSession.new options.mirrored).localAddress=(HdlcSession.new options).remoteAddress := by
  obtain ⟨role,clientAddress,serverAddress,limits,negotiationLimits⟩ := options
  cases role <;> exact ⟨rfl,rfl⟩

/-- A message is taken in without regard to what is on the way back. -/
theorem receive_outbox (station : Station (List UInt8)) (message : Message (List UInt8)) :
    Station.receive { station with outbox := [] } message=
      { station.receive message with outbox := [] } := by
  cases message with
  | acknowledge next => rfl
  | data index next item =>
    unfold Station.receive
    dsimp only
    split <;> rfl

namespace LinkSide
variable {destination source : HdlcAddress} {side next : LinkSide}
  {station far : Station (List UInt8)}

/-- The frame is on its way, and nothing is acknowledged. -/
theorem built_endpoint (endpoint : HdlcSession.Endpoint) {session : HdlcSession}
    {information : Pointer} {size : UInt64} {pollFinal : Bool} {bytes : List UInt8}
    (built : endpoint.session.buildInformationFrame information size pollFinal=(.ok bytes,session))
    (same : session.acknowledgeSequence=endpoint.session.acknowledgeSequence) :
    endpoint.buildInformationFrame information size pollFinal=
      ⟨session,endpoint.built ++ [information.read size.toNat],endpoint.accepted,
        endpoint.acknowledged,endpoint.outbox ++ [bytes]⟩ := by
  have hacknowledged := endpoint.advance_acknowledged session same
  rw [HdlcSession.Endpoint.buildInformationFrame,built]
  dsimp only [HdlcSession.Endpoint.send]
  rw [hacknowledged]
  rfl

theorem Plays.outbox (h : Plays destination source side station)
    (messages : List (Message (List UInt8))) :
    Plays destination source side { station with outbox := messages } := by
  cases h with
  | cpp remoteAddress localAddress represents =>
    exact @cpp _ _ _ _ { station with outbox := messages } remoteAddress localAddress represents
  | go window numbered => exact @go _ _ _ { station with outbox := messages } window numbered

/-- An I-frame is built within the window, or the call is refused. -/
theorem Plays.buildInformationFrame (h : Plays destination source side station)
    (hacknowledged : station.acknowledged ≤ station.built.length)
    (hwindow : station.built.length ≤ station.acknowledged+7) {information : List UInt8}
    (valid : information.length < 2^63) (within : side.Within) (pollFinal : Bool) :
    ((side.buildInformationFrame information pollFinal).1=[] ∧
      Plays destination source (side.buildInformationFrame information pollFinal).2 station) ∨
    ∃ bytes, (side.buildInformationFrame information pollFinal).1=[bytes] ∧
      station.built.length < station.acknowledged+station.window ∧
      Plays destination source (side.buildInformationFrame information pollFinal).2
        (station.build information) ∧
      Go.Session.Carries destination source bytes
        (.data station.built.length station.accepted.length information) := by
  cases h with
  | @cpp options session _ remoteAddress localAddress represents =>
    have hvalid := HdlcSession.validPointer_some valid
    have hread : Pointer.read (some information) (UInt64.ofNat information.length).toNat=
        information := by
      rw [UInt64.toNat_ofNat',Nat.mod_eq_of_lt (by omega),Pointer.read_some,List.take_length]
    obtain ⟨status,hfailed⟩ | ⟨_,_,hbuilt⟩ := session.buildInformationFrame_cases hvalid pollFinal
    · simp only [LinkSide.buildInformationFrame,Peer.buildInformationFrame,hfailed,Prod.map_apply,id]
      exact .inl ⟨trivial,.cpp remoteAddress localAddress represents⟩
    · have hnext := represents.buildInformationFrame hacknowledged hwindow hvalid pollFinal
      have hendpoint := built_endpoint ⟨session,station.built,station.accepted,
        station.acknowledged,[]⟩ hbuilt
      rw [hendpoint rfl,hread] at hnext
      rw [hread] at hbuilt
      simp only [LinkSide.buildInformationFrame,Peer.buildInformationFrame,hbuilt,Prod.map_apply,id]
      obtain hsame | ⟨room,hnext⟩ := hnext
      · cases hsame.outbox
      · obtain _ | ⟨carried,_⟩ := hnext.outbox
        refine .inr ⟨_,rfl,room,@cpp _ _ _ _ (station.build information) remoteAddress localAddress
          { hnext with outbox := .nil },?_⟩
        rw [← remoteAddress,← localAddress]
        exact carries_iff.mp carried
  | @go session _ window numbered =>
    have hnext := numbered.buildInformationFrame valid pollFinal
    rw [Go.Session.Endpoint.buildInformationFrame] at hnext
    simp only [LinkSide.buildInformationFrame,Peer.buildInformationFrame]
    generalize session.buildInformationFrame information pollFinal=result at hnext ⊢
    obtain ⟨⟨status⟩ | ⟨bytes⟩,session'⟩ := result
    · exact .inl ⟨rfl,.go window hnext.1⟩
    · have room : station.built.length < station.acknowledged+station.window := by
        rw [window]
        exact within
      have carried := hnext.1.outbox _ (List.mem_append_right _ List.mem_cons_self)
      exact .inr ⟨_,rfl,room,@go _ _ _ (station.build information) window
        { hnext.1 with outbox := by simp },carried⟩

theorem Plays.buildReceiveReadyFrame (h : Plays destination source side station) (pollFinal : Bool) :
    ((side.buildReceiveReadyFrame pollFinal).1=[] ∧
      Plays destination source (side.buildReceiveReadyFrame pollFinal).2 station) ∨
    ∃ bytes, (side.buildReceiveReadyFrame pollFinal).1=[bytes] ∧
      Plays destination source (side.buildReceiveReadyFrame pollFinal).2 station.acknowledge ∧
      Go.Session.Carries destination source bytes (.acknowledge station.accepted.length) := by
  cases h with
  | @cpp options session _ remoteAddress localAddress represents =>
    have hnext := represents.buildReceiveReadyFrame pollFinal
    rw [HdlcSession.Endpoint.buildReceiveReadyFrame] at hnext
    obtain ⟨status,hfailed⟩ | ⟨_,hbuilt⟩ := session.buildReceiveReadyFrame_cases pollFinal
    · simp only [LinkSide.buildReceiveReadyFrame,Peer.buildReceiveReadyFrame,hfailed,
        Prod.map_apply,id]
      exact .inl ⟨trivial,.cpp remoteAddress localAddress represents⟩
    · rw [hbuilt] at hnext
      simp only [LinkSide.buildReceiveReadyFrame,Peer.buildReceiveReadyFrame,hbuilt,
        Prod.map_apply,id]
      obtain hsame | hnext := hnext
      · cases hsame.outbox
      · obtain _ | ⟨carried,_⟩ := hnext.outbox
        refine .inr ⟨_,rfl,@cpp _ _ _ _ station.acknowledge remoteAddress localAddress represents,?_⟩
        rw [← remoteAddress,← localAddress]
        exact carries_iff.mp carried
  | @go session _ window numbered =>
    have hnext := numbered.buildReceiveReadyFrame pollFinal
    rw [Go.Session.Endpoint.buildReceiveReadyFrame] at hnext
    simp only [LinkSide.buildReceiveReadyFrame,Peer.buildReceiveReadyFrame]
    generalize session.buildReceiveReadyFrame pollFinal=result at hnext ⊢
    obtain ⟨status⟩ | ⟨bytes⟩ := result
    · exact .inl ⟨rfl,.go window numbered⟩
    · have carried := hnext.1.outbox _ (List.mem_append_right _ List.mem_cons_self)
      exact .inr ⟨_,rfl,@go _ _ _ station.acknowledge window { hnext.1 with outbox := by simp },
        carried⟩

/-- An I-frame that is not the next one is refused. -/
theorem receiveFrame_skipped {endpoint : Go.Session.Endpoint}
    (h : endpoint.Numbered destination source) {control : HdlcControl} {payload : List UInt8}
    (kind : control.frameKind=.information)
    (send : control.sendSequence≠endpoint.session.receiveSequence) :
    endpoint.session.receiveFrame (Go.ofFrame ⟨false,source,destination,control,payload⟩)=
      (some .invalidControlField,endpoint.session) := by
  have hcontrol : (Go.ofFrame ⟨false,source,destination,control,payload⟩).control=
      Go.ofControl control := rfl
  rw [Go.Session.receiveFrame,h.incomingAddressesMatch,hcontrol,Go.ofControl_frameKind,kind]
  change endpoint.session.receiveInformationFrame _=_
  rw [Go.Session.receiveInformationFrame,if_neg (not_not_intro h.state),hcontrol,
    Go.ofControl_sendSequence,if_pos send]

/-- The message is the next one, and acknowledges all that its receiver has built. -/
def Due (station : Station (List UInt8)) (message : Message (List UInt8)) : Prop :=
  message.next=station.built.length ∧ ∀ index ∈ message.index, index=station.accepted.length

/-- A Go session accepts what is due, as the station does, and refuses the rest. -/
theorem receiveFrame_cases {session : Go.Session}
    (numbered : Go.Session.Endpoint.Numbered destination source
      ⟨session,station.built,station.accepted,station.acknowledged,[]⟩)
    {message : Message (List UInt8)} (admissible : HdlcSession.Admissible station message)
    {bytes : List UInt8} (carried : Go.Session.Carries source destination bytes message)
    {limits : Go.CodecLimits} {frame : Go.Frame} (decoded : Go.decodeFrame bytes limits=.ok frame) :
    (session.receiveFrame frame=(some .invalidControlField,session) ∧ ¬ Due station message) ∨
      ∃ receiveSequence : UInt8,
        receiveSequence.toNat=(station.accepted ++ message.item.toList).length%8 ∧
        session.receiveFrame frame=(none,{ session with receiveSequence := receiveSequence }) ∧
        station.receive message={ station with
          accepted := station.accepted ++ message.item.toList
          acknowledged := station.built.length } := by
  by_cases hnext : ∀ index ∈ message.index, index=station.accepted.length
  · obtain ⟨nr,receiveSequence,hnr,hreceive,hreceived⟩ :=
      @Go.Session.Endpoint.Numbered.receiveFrame_next _ _ _ numbered ⟨bytes,message⟩ carried _ _
        decoded hnext
    have hall := numbered.receiveSequence_iff ⟨admissible.acknowledged_le,admissible.next_le⟩
      admissible.window hnr
    by_cases hequal : nr=session.sendSequence
    · right
      rw [if_pos hequal] at hreceived
      refine ⟨receiveSequence,hreceive,hreceived,?_⟩
      have hbuilt : message.next=station.built.length := hall.mp hequal
      cases message with
      | acknowledge next =>
        cases hbuilt
        simp only [Station.receive,Message.item,Option.toList_none,List.append_nil]
      | data index next item =>
        cases hbuilt
        rw [Station.receive,if_pos (hnext index rfl)]
        rfl
    · left
      rw [if_neg hequal] at hreceived
      exact ⟨hreceived,fun due => hequal (hall.mpr due.1)⟩
  · left
    refine ⟨?_,fun due => hnext due.2⟩
    cases carried with
    | @receiveReady control next kind receive format =>
      exact absurd (fun _ h => absurd h (Option.not_mem_none _)) hnext
    | @information control index next payload kind send receive format =>
      obtain rfl := Go.decodeFrame_wire format decoded
      apply receiveFrame_skipped numbered kind
      have hindex : index≠station.accepted.length := by
        intro h
        apply hnext
        rintro _ ⟨⟩
        exact h
      obtain ⟨hle,hlt⟩ := admissible.index index rfl
      rw [ne_eq,← UInt8.toNat_inj,send,numbered.receive]
      change ¬ index%8=station.accepted.length%8
      omega

/-- A frame is taken in as its message, or refused; what is due and decoded is not refused. -/
theorem Plays.receive (h : Plays destination source side station)
    {message : Message (List UInt8)} (admissible : HdlcSession.Admissible station message)
    {bytes : List UInt8} (carried : Go.Session.Carries source destination bytes message)
    (limits : HdlcCodecLimits) :
    Plays destination source (side.receive limits bytes) (station.receive message) ∨
      (Plays destination source (side.receive limits bytes) station ∧
        ∀ frame, decodeFrame (some bytes) bytes.length limits=.ok frame → ¬ Due station message) := by
  cases h with
  | @cpp options session _ remoteAddress localAddress represents =>
    simp only [receive]
    cases hdecode : decodeFrame (some bytes) bytes.length limits with
    | error status =>
      right
      exact ⟨.cpp remoteAddress localAddress represents,by rintro frame ⟨⟩⟩
    | ok frame =>
      left
      obtain ⟨hremote,hlocal⟩ := options.mirrored_addresses
      have carries : HdlcSession.Carries options.mirrored bytes message := by
        rw [carries_iff,hremote,hlocal,remoteAddress,localAddress]
        exact carried
      have hnext := (represents.deliver ⟨hremote,hlocal⟩ carries
        ⟨admissible.acknowledged_le,admissible.next_le,admissible.window,admissible.index⟩ hdecode).1
      rw [receive_outbox] at hnext
      dsimp only
      generalize HdlcSession.Endpoint.receiveFrame _ frame=endpoint at hnext ⊢
      obtain ⟨session',built,accepted,acknowledged,outbox⟩ := endpoint
      obtain rfl := hnext.built
      obtain rfl := hnext.accepted
      obtain rfl := hnext.acknowledged
      exact .cpp remoteAddress localAddress { hnext with outbox := .nil }
  | @go session _ window numbered =>
    have hdecoded := Go.decodeFrame_eq bytes limits
    simp only [receive]
    cases hdecode : Go.decodeFrame bytes (Go.ofLimits limits) with
    | error status =>
      refine .inr ⟨.go window numbered,?_⟩
      intro frame hframe
      rw [hframe,hdecode] at hdecoded
      cases hdecoded
    | ok frame =>
      have hitems := carried.items hdecode
      dsimp only
      obtain ⟨hrefused,hdue⟩ | ⟨receiveSequence,hreceive,haccepted,hstation⟩ :=
        receiveFrame_cases numbered admissible carried hdecode
      · rw [hrefused]
        exact .inr ⟨.go window numbered,fun _ _ => hdue⟩
      · rw [haccepted,hstation]
        dsimp only
        rw [hitems]
        exact .inl (@go _ _ _ { station with
            accepted := station.accepted ++ message.item.toList
            acknowledged := station.built.length } window
          ⟨numbered.state,numbered.remoteAddress,numbered.localAddress,numbered.send,hreceive,
            by simp⟩)

/-- What no decoder takes changes nothing. -/
theorem receive_undecodable {bytes : List UInt8} (h : Undecodable bytes) (limits : HdlcCodecLimits) :
    side.receive limits bytes=side := by
  obtain ⟨peer,built,accepted,acknowledged⟩ := side
  cases peer with
  | cpp session =>
    simp only [receive]
    cases hdecode : decodeFrame (some bytes) bytes.length limits with
    | error status => rfl
    | ok frame => exact absurd hdecode (h limits frame)
  | go session =>
    simp only [receive]
    cases hdecode : Go.decodeFrame bytes (Go.ofLimits limits) with
    | error status => rfl
    | ok frame =>
      obtain ⟨f,limits',hcpp,_⟩ := Go.decodeFrame_ok hdecode
      exact absurd hcpp (h limits' f)

/-- A frame for others is refused. -/
theorem Plays.receive_without (h : Plays destination source side station) {bytes : List UInt8}
    (without : Without destination source bytes) (limits : HdlcCodecLimits) :
    side.receive limits bytes=side := by
  cases h with
  | @cpp options session _ remoteAddress localAddress represents =>
    simp only [LinkSide.receive]
    cases hdecode : decodeFrame (some bytes) bytes.length limits with
    | error status => rfl
    | ok frame =>
      obtain ⟨hlocal,hremote⟩ := represents.configured.addresses
      dsimp only at hlocal hremote
      have hrefused := @HdlcSession.receiveFrame_foreign session frame (by
        rw [hlocal,hremote,localAddress,remoteAddress]
        exact without limits frame hdecode)
      simp [HdlcSession.Endpoint.receiveFrame,HdlcSession.Endpoint.advance,hrefused]
  | @go session _ window numbered =>
    simp only [LinkSide.receive]
    cases hdecode : Go.decodeFrame bytes (Go.ofLimits limits) with
    | error status => rfl
    | ok frame =>
      obtain ⟨f,limits',hcpp,rfl⟩ := Go.decodeFrame_ok hdecode
      have hrefused : session.receiveFrame (Go.ofFrame f)=(some .invalidAddress,session) :=
        Go.Session.receiveFrame_foreign numbered.remoteAddress numbered.localAddress
          (without limits' f hcpp)
      dsimp only
      rw [hrefused]

/-- Both libraries implement the protocol, and take no notice of what is not for them. -/
theorem kind_implements (destination source : HdlcAddress) {others : List UInt8 → Prop}
    (hothers : ∀ {bytes}, others bytes → Without destination source bytes) :
    kind.Implements (Plays destination source) (Go.Session.Carries destination source)
      (Go.Session.Carries source destination) others where
  outbox messages h := h.outbox messages
  call h window acknowledged built called := by
    cases called with
    | buildInformationFrame valid within pollFinal =>
      obtain ⟨hwords,hsame⟩ | ⟨bytes,hwords,room,hnext,carried⟩ := h.buildInformationFrame
        acknowledged (built.trans (Nat.add_le_add_left window _)) valid within pollFinal
      · rw [hwords]
        exact .nothing hsame
      · rw [hwords]
        exact .built _ room hnext carried
    | buildReceiveReadyFrame pollFinal =>
      obtain ⟨hwords,hsame⟩ | ⟨bytes,hwords,hnext,carried⟩ := h.buildReceiveReadyFrame pollFinal
      · rw [hwords]
        exact .nothing hsame
      · rw [hwords]
        exact .acknowledged hnext carried
  arrive h window flow flow' window' message carried arrived := by
    obtain ⟨limits,rfl⟩ := arrived
    have admissible := HdlcSession.admissible_of_flows flow flow' window window' message
    exact (h.receive admissible carried limits).imp_right And.left
  garbled h lost arrived := by
    obtain ⟨limits,rfl⟩ := arrived
    rw [h.receive_without (hothers lost)]
    exact h

/-- A side that has just been connected plays a station at its start. -/
theorem plays_start {peer : Peer} (h : peer.Opened destination source) :
    Plays destination source (.start peer) (.start peer.window) := by
  cases peer with
  | cpp session =>
    obtain ⟨hopened,options,hconfigured,remoteAddress,localAddress⟩ := h
    exact @Plays.cpp _ _ _ _ (.start session.windowSizeTransmit.toNat) remoteAddress localAddress
      (hopened.represents hconfigured)
  | go session => exact @Plays.go _ _ _ (.start 7) rfl h

/-- What the flows of the stations say of the sides. -/
theorem Plays.delivers {side' : LinkSide} {station' : Station (List UInt8)}
    (h : Plays destination source side station) (h' : Plays source destination side' station')
    (flow : Flow station station') : side.Delivers side' := by
  have hside : side.built=station.built ∧ side.acknowledged=station.acknowledged ∧
      side.peer.window=station.window := by
    cases h with
    | cpp remoteAddress localAddress represents => exact ⟨rfl,rfl,represents.window⟩
    | go window numbered => exact ⟨rfl,rfl,window.symm⟩
  have hside' : side'.accepted=station'.accepted := by
    cases h' <;> rfl
  obtain ⟨hbuilt,hacknowledged,hwindow⟩ := hside
  constructor
  · rw [hside',hbuilt]
    exact flow.accepted
  · rw [hside',hacknowledged]
    exact flow.acknowledged
  · rw [hbuilt,hacknowledged,hwindow]
    exact flow.window

end LinkSide

/-- After an exchange of SNRM and UA between two sessions of one library or of both that leaves both
a window of at most seven, whatever I-frames and RRs are built, with a Go side building I-frames only
while fewer than seven are unacknowledged, whatever frames are lost, whatever bits are flipped in
others and whatever frames of other associations share the line: each side has accepted a prefix of
the payloads the other side built, in order and without repetition, and is no more than its window
ahead of what the other side has accepted. -/
theorem interop_delivers {client server client' server' : Peer}
    (mirrored : Peer.Mirrored client server)
    (reachable : client.Reachable) (reachable' : server.Reachable)
    (exchange : Peer.Exchange client server client' server') (window : client'.window ≤ 7)
    (window' : server'.window ≤ 7)
    {link : (LinkSide × List (List UInt8)) × (LinkSide × List (List UInt8))}
    (run : Relation.ReflTransGen (LinkStep LinkSide.kind LinkSide.kind BitError (Stray client'))
      ((.start client',[]),(.start server',[])) link) :
    link.1.1.Delivers link.2.1 ∧ link.2.1.Delivers link.1.1 := by
  obtain ⟨clientAddress,serverAddress,hclient,hserver⟩ :=
    exchange.opened mirrored reachable reachable'
  obtain ⟨hremote,hlocal⟩ := hclient.addressed
  have hothers : ∀ {bytes}, Stray client' bytes → Without serverAddress clientAddress bytes ∧
      Without clientAddress serverAddress bytes := by
    intro bytes stray
    rw [Stray,hlocal,hremote] at stray
    simp only [Go.ofAddress_injective.eq_iff] at stray
    exact ⟨fun limits frame hframe => (stray limits frame hframe).2,
      fun limits frame hframe => (stray limits frame hframe).1⟩
  have hgarbled : ∀ {bytes bytes'}, BitError bytes bytes' →
      Without serverAddress clientAddress bytes' ∧ Without clientAddress serverAddress bytes' := by
    intro bytes bytes' error
    exact ⟨fun limits frame hframe => absurd hframe (error.undecodable limits frame),
      fun limits frame hframe => absurd hframe (error.undecodable limits frame)⟩
  obtain ⟨n,f,hjoint⟩ := joint_of_run (LinkSide.kind_implements serverAddress clientAddress And.left)
    (LinkSide.kind_implements clientAddress serverAddress And.right) hgarbled hothers
    ⟨LinkSide.plays_start hclient,LinkSide.plays_start hserver,.nil,.nil,flow_start _ _,
      flow_start _ _,window,window'⟩ run
  exact ⟨hjoint.nearPlays.delivers hjoint.farPlays hjoint.flow,
    hjoint.farPlays.delivers hjoint.nearPlays hjoint.flow'⟩

section Sample
open HdlcSession

/-- A Go server for the C++ client of the association with the default values. -/
def sampleGoServer : Go.Session :=
  .newSession ⟨.server,Go.ofAddress (sampleOptions .server).clientAddress,
    Go.ofAddress (sampleOptions .server).serverAddress,⟨0,0,0⟩⟩

theorem decodes_wire {frame : HdlcFrameBuffer} (h : frame.Fits defaultHdlcCodecLimits) :
    decodeFrame (some frame.wire) frame.wire.length defaultHdlcCodecLimits=.ok frame :=
  (frame.decodeFrame_image_eq_ok_iff _ h.format_le _).mpr ⟨h,rfl⟩

theorem goDecodes_wire {frame : HdlcFrameBuffer} (h : frame.Fits defaultHdlcCodecLimits) :
    Go.decodeFrame frame.wire (Go.ofLimits defaultHdlcCodecLimits)=.ok (Go.ofFrame frame) := by
  rw [Go.decodeFrame_eq,decodes_wire h]
  rfl

theorem sample_exchanged : Peer.Exchange (.cpp (new (sampleOptions .client))) (.go sampleGoServer)
    (.cpp sampleClient) (.go { sampleGoServer with state := .connected }) := by
  have hrequest : (sampleIncoming .server snrmControl []).Fits defaultHdlcCodecLimits := by decide
  have hresponse : (sampleIncoming .client uaControl []).Fits defaultHdlcCodecLimits := by decide
  refine .completed (.cpp (.inl rfl) (by rfl)) (.go (goDecodes_wire hrequest) (by rfl)) (.go ?_)
    (.cpp (decodes_wire hresponse) (by rfl))
  exact Prod.ext (toOption_eq_some_iff.mp (by decide +kernel)) (by decide +kernel)

/-- A request that arrives, and an answer that is garbled on its way. -/
theorem run_of_garbled_answer {strays : List UInt8 → Prop} {start start' near far far' : LinkSide}
    {request answer garbled : List UInt8} (requested : start.Call [request] near)
    (arrived : LinkSide.kind.arrive start' request far) (answered : far.Call [answer] far')
    (error : BitError answer garbled) :
    Relation.ReflTransGen (LinkStep LinkSide.kind LinkSide.kind BitError strays)
      ((start,[]),(start',[])) ((near,[]),(far',[])) := by
  have hignored : LinkSide.kind.arrive near garbled near :=
    ⟨defaultHdlcCodecLimits,(LinkSide.receive_undecodable error.undecodable _).symm⟩
  have hrequested : LinkMove LinkSide.kind BitError strays (start,[]) (start',[]) (near,[request])
      (start',[]) :=
    .call requested
  have hanswered : LinkMove LinkSide.kind BitError strays (far,[]) (near,[]) (far',[answer])
      (near,[]) :=
    .call answered
  have hgarbled : LinkMove LinkSide.kind BitError strays (far',[answer]) (near,[])
      (far',[garbled]) (near,[]) :=
    @LinkMove.garble _ _ _ _ _ _ _ _ [] [] _ _ rfl error
  exact ((((Relation.ReflTransGen.single (.left hrequested)).tail (.right (.arrive rfl arrived))).tail
    (.right hanswered)).tail (.right hgarbled)).tail (.left (.arrive rfl hignored))

/-- The I-frame of a C++ client reaches a Go server, but a bit of the answer is flipped. -/
theorem interop_delivers_sample :
    let client := ((LinkSide.start (.cpp sampleClient)).buildInformationFrame [1,2,3] false).2
    let received := (LinkSide.start (.go { sampleGoServer with state := .connected })).receive
      defaultHdlcCodecLimits (sampleIncoming .server (informationControl 0 0 false) [1,2,3]).wire
    let server := (received.buildReceiveReadyFrame false).2
    (client.Delivers server ∧ server.Delivers client) ∧ received.accepted=[[1,2,3]] := by
  intro client received server
  let request := (sampleIncoming .server (informationControl 0 0 false) [1,2,3]).wire
  let answer := (sampleIncoming .client (receiveReadyControl 1 false) []).wire
  have hfits : (sampleIncoming .client (receiveReadyControl 1 false) []).Fits
      defaultHdlcCodecLimits := by decide
  have hgarbled : BitError answer (corrupt answer [0,0,0,0,1,0,0]) :=
    .flipped (decodes_wire hfits) (by decide) ⟨1,by decide⟩ (.inr (.inr (by decide)))
  have hrequested : LinkSide.Call (.start (.cpp sampleClient)) [request] client := by
    have hsent : ((LinkSide.start (.cpp sampleClient)).buildInformationFrame [1,2,3] false).1=
        [request] := by decide +kernel
    have hcall : LinkSide.Call (.start (.cpp sampleClient)) _ client :=
      @LinkSide.Call.buildInformationFrame (.start (.cpp sampleClient)) [1,2,3] (by decide) trivial
        false
    rwa [hsent] at hcall
  have hanswered : LinkSide.Call received [answer] server := by
    have hsent : (received.buildReceiveReadyFrame false).1=[answer] := by decide +kernel
    have hcall : LinkSide.Call received _ server := .buildReceiveReadyFrame false
    rwa [hsent] at hcall
  have hreachable : (Peer.cpp (new (sampleOptions .client))).Reachable :=
    ⟨sampleOptions .client,[],rfl⟩
  have hreachable' : (Peer.go sampleGoServer).Reachable := trivial
  have hmirrored : Peer.Mirrored (.cpp (new (sampleOptions .client))) (.go sampleGoServer) :=
    ⟨rfl,rfl⟩
  have harrived : LinkSide.kind.arrive (.start (.go { sampleGoServer with state := .connected }))
      request
      received := ⟨defaultHdlcCodecLimits,rfl⟩
  have hrun := @run_of_garbled_answer (Stray (.cpp sampleClient)) _ _ _ _ _ _ _ _ hrequested harrived
    hanswered hgarbled
  have haccepted : received.accepted=[[1,2,3]] := by decide +kernel
  clear_value server received client
  exact ⟨interop_delivers hmirrored hreachable hreachable' sample_exchanged (by decide) (by decide)
    hrun,haccepted⟩

end Sample
end DlmsHdlc
