import DlmsHdlc.DeviceAddress
import DlmsHdlc.Interop.Conformance
import DlmsHdlc.Library.Medium
import DlmsHdlc.Session.Quiescence

/-! Any number of sessions of both libraries on one line, where each may hear whatever any other has
sent: the device addresses keep the associations apart. -/
namespace DlmsHdlc
open Machine Medium

/-- A client and a device, as their users number them. -/
structure DevicePair where
  clientAddress : UInt8
  logicalDeviceAddress : UInt16
  physicalDeviceAddress : UInt16
  client_le : clientAddress ≤ 0x7f
  logical_le : logicalDeviceAddress ≤ 0x3fff
  physical_le : physicalDeviceAddress ≤ 0x3fff
  deriving DecidableEq

/-- Each device has the address of the other one's client. -/
structure DevicePair.Crossed (pair other : DevicePair) : Prop where
  physical : pair.physicalDeviceAddress=0
  physical' : other.physicalDeviceAddress=0
  logical : pair.logicalDeviceAddress.toNat=other.clientAddress.toNat
  logical' : other.logicalDeviceAddress.toNat=pair.clientAddress.toNat

/-- The bytes of a call are no more than memory can hold. -/
def SessionCall.Sized : SessionCall → Prop
  | .buildInformationFrame information _ => information.length < 2^63
  | _ => True

/-- A call of one library. -/
inductive PeerCall
  | cpp (operation : HdlcSessionOperation) (wellFormed : operation.WellFormed)
  | go (call : SessionCall) (sized : call.Sized)

namespace Peer

/-- The session after a call, with what its caller gets. A session has no calls of the other
library. -/
def perform : Peer → PeerCall → (HdlcStatus × List UInt8) × Peer
  | cpp session,.cpp operation _ => Prod.map id cpp (session.perform operation)
  | go session,.go call _ => Prod.map id go (session.perform call)
  | peer,_ => ((.unsupportedFeature,[]),peer)

/-- A frame arrives, and is received unless the decoder refuses it. -/
def hear (limits : HdlcCodecLimits) (bytes : List UInt8) : Peer → (HdlcStatus × List UInt8) × Peer
  | cpp session =>
    match decodeFrame (some bytes) bytes.length limits with
    | .error status => ((status,[]),cpp session)
    | .ok frame => Prod.map id cpp (session.perform (.receiveFrame frame))
  | go session =>
    match Go.decodeFrame bytes (Go.ofLimits limits) with
    | .error status => ((status,[]),go session)
    | .ok frame => (((session.receiveFrame frame).1.getD .ok,[]),go (session.receiveFrame frame).2)

/-- The session of a pair of devices, in either role and after any calls, with the addresses that its
library makes for them. -/
def Serves (pair : DevicePair) : Peer → Prop
  | cpp session => ∃ options, HdlcSession.Reachable options session ∧
      DlmsHdlcAddress.makeClientAddress pair.clientAddress=.ok options.clientAddress ∧
      DlmsHdlcAddress.makeServerAddress pair.logicalDeviceAddress pair.physicalDeviceAddress=
        .ok options.serverAddress
  | go session => Go.makeClientAddress pair.clientAddress=.ok session.options.clientAddress ∧
      Go.makeServerAddress pair.logicalDeviceAddress pair.physicalDeviceAddress=
        .ok session.options.serverAddress

end Peer

/-- A session behind a frame decoder with its limits. -/
structure LineStation where
  peer : Peer
  limits : HdlcCodecLimits

/-- What a call puts out is sent. -/
def LineStation.kind : Station LineStation PeerCall (HdlcStatus × List UInt8) (List UInt8) where
  call station call :=
    let (answer,next) := station.peer.perform call
    ((answer,if answer.2.isEmpty then [] else [answer.2]),{ station with peer := next })
  hear station bytes :=
    let (answer,next) := station.peer.hear station.limits bytes
    (answer,{ station with peer := next })

/-- The sessions, before anything is sent. -/
def LineStation.line {ι : Type*} (stations : ι → LineStation) : Line ι LineStation (List UInt8) :=
  ⟨stations,fun _ => []⟩

/-- Whatever decoder finds a frame in the bytes finds it between these addresses. -/
def Sender (destination source : HdlcAddress) (bytes : List UInt8) : Prop :=
  ∀ limits frame, decodeFrame (some bytes) bytes.length limits=.ok frame →
    frame.destination=destination ∧ frame.source=source

theorem sender_wire {destination source : HdlcAddress} {control : HdlcControl}
    {information : List UInt8}
    (hformat : (HdlcFrameBuffer.mk false destination source control information).formatLength ≤
      2047) :
    Sender destination source
      (HdlcFrameBuffer.mk false destination source control information).wire := by
  intro limits frame hdecode
  obtain ⟨_,rfl⟩ := (HdlcFrameBuffer.decodeFrame_image_eq_ok_iff _ limits hformat frame).mp hdecode
  exact ⟨rfl,rfl⟩

namespace HdlcSession
variable {session : HdlcSession} {options : HdlcSessionOptions}

theorem Configured.sender (h : session.Configured options) {control : HdlcControl}
    {information : List UInt8} {limits : HdlcCodecLimits}
    (hfits : (session.outgoing control information).Fits limits) :
    Sender (new options).remoteAddress (new options).localAddress
      (session.outgoing control information).wire := by
  rw [h.outgoing] at hfits ⊢
  exact sender_wire hfits.format_le

/-- Whatever a call puts out is a frame to the remote address. -/
theorem Configured.perform_sender (h : session.Configured options)
    {operation : HdlcSessionOperation} (valid : operation.WellFormed) :
    (session.perform operation).1.2=[] ∨
      Sender (new options).remoteAddress (new options).localAddress
        (session.perform operation).1.2 := by
  have hasks := asksToConnect_built h valid
  have heffect := session.perform_effect operation
  have hnext := h.step operation
  generalize session.perform operation=result at heffect hasks hnext ⊢
  obtain ⟨output,next⟩ := result
  cases heffect with
  | connectRequested request =>
    obtain ⟨infoField,_,hlength,hbuilt⟩ := hasks request rfl
    obtain ⟨hfits,rfl⟩ := (session.buildFrameWith_eq_ok_iff snrmControl hlength _).mp hbuilt
    exact .inr (h.sender hfits)
  | connectResponded _ _ hbuilt =>
    have hlength := session.connectResponseInfoField_length
    have happlied : session.applyNegotiation.Configured options := hnext
    obtain ⟨hfits,rfl⟩ := (session.applyNegotiation.buildFrameWith_eq_ok_iff uaControl
      (by omega) _).mp hbuilt
    exact .inr (happlied.sender hfits)
  | disconnectRequested request _ hbuilt =>
    have hvalid := validPointer_disconnectRequest valid request
    obtain ⟨hfits,rfl⟩ := (session.buildFrame_eq_ok_iff discControl _ _ hvalid.1 hvalid.2 _).mp
      hbuilt
    exact .inr (h.sender hfits)
  | disconnectResponded _ hbuilt =>
    obtain ⟨hfits,rfl⟩ := (session.buildFrame_eq_ok_iff uaControl none 0 (by decide) rfl _).mp hbuilt
    exact .inr (h.sender hfits)
  | dmResponded _ hbuilt =>
    obtain ⟨hfits,rfl⟩ := (session.buildFrame_eq_ok_iff dmControl none 0 (by decide) rfl _).mp hbuilt
    exact .inr (h.sender hfits)
  | @informationSent information size pollFinal output _ _ hbuilt =>
    obtain ⟨hfits,rfl⟩ := (session.buildFrame_eq_ok_iff (informationControl _ _ _) _ _ valid.1
      valid.2 _).mp hbuilt
    exact .inr (h.sender hfits)
  | @receiveReadySent pollFinal output _ hbuilt =>
    dsimp only at h hbuilt
    obtain ⟨hfits,rfl⟩ := (buildFrame_eq_ok_iff _ (receiveReadyControl _ _) none 0 (by decide) rfl
      _).mp hbuilt
    exact .inr (h.sender hfits)
  | _ => exact .inl rfl

end HdlcSession

namespace Go.Session
variable {s : Session} {destination source : HdlcAddress}

/-- What is built goes from the local address to the remote one. -/
theorem buildFrame_sender (remoteAddress : s.remoteAddress=ofAddress destination)
    (localAddress : s.localAddress=ofAddress source) (control : HdlcControl)
    {information bytes : List UInt8} (sized : information.length < 2^63)
    (hbuilt : s.buildFrame control.encode information=.ok bytes) :
    Sender destination source bytes := by
  rw [buildFrame,remoteAddress,localAddress] at hbuilt
  have hencoded : encodeFrame (ofFrame ⟨false,destination,source,control,information⟩)
      s.options.limits=.ok bytes := hbuilt
  obtain ⟨hformat,rfl⟩ := encodeFrame_ok (by exact sized) hencoded
  exact sender_wire hformat

/-- A call that puts something out builds a frame, with the Information it was given if any. -/
theorem perform_built (s : Session) (call : SessionCall) (sized : call.Sized) :
    (s.perform call).1.2=[] ∨ ∃ (control : HdlcControl) (information : List UInt8),
      information.length < 2^63 ∧
        s.buildFrame control.encode information=.ok (s.perform call).1.2 := by
  -- An error puts out nothing; what is put out otherwise is what the last check let through.
  have hbuilds (control : HdlcControl) {information : List UInt8}
      (hlength : information.length < 2^63)
      {result : Except HdlcStatus (List UInt8) × Session}
      (h : ∀ bytes, result.1=.ok bytes → s.buildFrame control.encode information=.ok bytes) :
      (builtOutput result).1.2=[] ∨ ∃ (control : HdlcControl) (information : List UInt8),
        information.length < 2^63 ∧
          s.buildFrame control.encode information=.ok (builtOutput result).1.2 := by
    obtain ⟨_ | bytes,next⟩ := result
    · exact .inl rfl
    · exact .inr ⟨control,information,hlength,h bytes rfl⟩
  have hempty : ([] : List UInt8).length < 2^63 := by decide
  cases call with
  | buildConnectRequest =>
    refine hbuilds HdlcSession.snrmControl hempty fun bytes h => ?_
    unfold buildConnectRequest at h
    repeat' split at h
    all_goals cases h
    assumption
  | buildConnectResponse =>
    refine hbuilds HdlcSession.uaControl hempty fun bytes h => ?_
    unfold buildConnectResponse at h
    repeat' split at h
    all_goals cases h
    assumption
  | buildDisconnectRequest =>
    refine hbuilds HdlcSession.discControl hempty fun bytes h => ?_
    unfold buildDisconnectRequest at h
    repeat' split at h
    all_goals cases h
    assumption
  | buildDisconnectResponse =>
    refine hbuilds HdlcSession.uaControl hempty fun bytes h => ?_
    unfold buildDisconnectResponse at h
    repeat' split at h
    all_goals cases h
    assumption
  | buildInformationFrame information pollFinal =>
    refine hbuilds (informationControl s.sendSequence s.receiveSequence pollFinal) sized
      fun bytes h => ?_
    unfold buildInformationFrame at h
    dsimp only at h
    rw [makeInformationControl_eq] at h
    repeat' split at h
    all_goals cases h
    assumption
  | buildReceiveReadyFrame pollFinal =>
    refine hbuilds (receiveReadyControl s.receiveSequence pollFinal) hempty
      fun bytes h => ?_
    dsimp only at h
    rw [buildReceiveReadyFrame,makeReceiveReadyControl_eq] at h
    split at h
    · cases h
    · exact h
  | receiveFrame frame => exact .inl rfl

theorem perform_options (s : Session) (call : SessionCall) :
    (s.perform call).2.options=s.options := by
  cases call with
  | receiveFrame frame => exact s.receiveFrame_options _
  | _ =>
    simp only [perform,builtOutput,buildConnectRequest,buildConnectResponse,buildDisconnectRequest,
      buildDisconnectResponse,buildInformationFrame]
    repeat' split
    all_goals rfl

theorem addresses_congr {s s' : Session} (h : s'.options=s.options) :
    s'.remoteAddress=s.remoteAddress ∧ s'.localAddress=s.localAddress := by
  simp only [remoteAddress,localAddress,h,and_self]

end Go.Session

namespace Peer
variable {peer : Peer} {destination source : HdlcAddress}

/-- Where the frames of a session go to and come from, after any calls. -/
def At (destination source : HdlcAddress) : Peer → Prop
  | cpp session => ∃ options, session.Configured options ∧
      (HdlcSession.new options).remoteAddress=destination ∧
      (HdlcSession.new options).localAddress=source
  | go session => session.remoteAddress=Go.ofAddress destination ∧
      session.localAddress=Go.ofAddress source

theorem At.perform (h : peer.At destination source) (call : PeerCall) :
    (peer.perform call).2.At destination source ∧
      ((peer.perform call).1.2=[] ∨ Sender destination source (peer.perform call).1.2) := by
  cases peer with
  | cpp session =>
    cases call with
    | cpp operation wellFormed =>
      obtain ⟨options,hconfigured,rfl,rfl⟩ := h
      exact ⟨⟨options,hconfigured.step operation,rfl,rfl⟩,hconfigured.perform_sender wellFormed⟩
    | go call sized => exact ⟨h,.inl rfl⟩
  | go session =>
    cases call with
    | cpp operation wellFormed => exact ⟨h,.inl rfl⟩
    | go call sized =>
      obtain ⟨hremote,hlocal⟩ := h
      obtain ⟨hremote',hlocal'⟩ := Go.Session.addresses_congr (session.perform_options call)
      refine ⟨⟨hremote'.trans hremote,hlocal'.trans hlocal⟩,?_⟩
      obtain hnothing | ⟨control,information,hlength,hbuilt⟩ := session.perform_built call sized
      · exact .inl hnothing
      · exact .inr (Go.Session.buildFrame_sender hremote hlocal control hlength hbuilt)

theorem At.hear (h : peer.At destination source) (limits : HdlcCodecLimits) (bytes : List UInt8) :
    (peer.hear limits bytes).2.At destination source := by
  cases peer with
  | cpp session =>
    obtain ⟨options,hconfigured,hremote,hlocal⟩ := h
    rw [Peer.hear]
    split
    · exact ⟨options,hconfigured,hremote,hlocal⟩
    · rename_i frame _
      exact ⟨options,hconfigured.step (.receiveFrame frame),hremote,hlocal⟩
  | go session =>
    rw [Peer.hear]
    split
    · exact h
    · rename_i frame _
      obtain ⟨hremote,hlocal⟩ := Go.Session.addresses_congr (session.receiveFrame_options frame)
      exact ⟨hremote.trans h.1,hlocal.trans h.2⟩

/-- A frame between other addresses is not accepted, and changes nothing. -/
theorem At.hear_foreign (h : peer.At destination source) {destination' source' : HdlcAddress}
    {bytes : List UInt8} (sender : Sender destination' source' bytes)
    (hne : ¬ (source'=destination ∧ destination'=source)) (limits : HdlcCodecLimits) :
    (peer.hear limits bytes).1.1≠.ok ∧ (peer.hear limits bytes).2=peer := by
  cases peer with
  | cpp session =>
    obtain ⟨options,hconfigured,rfl,rfl⟩ := h
    obtain ⟨hlocal,hremote⟩ := hconfigured.addresses
    simp only [Peer.hear]
    cases hdecode : decodeFrame (some bytes) bytes.length limits with
    | error status =>
      rw [decodeFrame_eq_parseFrame] at hdecode
      exact ⟨parseFrame_error hdecode,rfl⟩
    | ok frame =>
      obtain ⟨rfl,rfl⟩ := sender limits frame hdecode
      rw [← hlocal,← hremote] at hne
      have hrefused : session.perform (.receiveFrame frame)=((.invalidAddress,[]),session) := by
        rw [HdlcSession.perform,HdlcSession.receiveFrame_foreign hne]
      dsimp only
      rw [hrefused]
      exact ⟨HdlcStatus.noConfusion,rfl⟩
  | go session =>
    obtain ⟨hremote,hlocal⟩ := h
    simp only [Peer.hear,Go.decodeFrame_eq]
    cases hdecode : decodeFrame (some bytes) bytes.length limits with
    | error status =>
      rw [decodeFrame_eq_parseFrame] at hdecode
      exact ⟨parseFrame_error hdecode,rfl⟩
    | ok frame =>
      obtain ⟨rfl,rfl⟩ := sender limits frame hdecode
      have hrefused := Go.Session.receiveFrame_foreign hremote hlocal hne
      dsimp only [Except.map]
      rw [hrefused]
      exact ⟨HdlcStatus.noConfusion,rfl⟩

end Peer

namespace DevicePair
variable {pair other : DevicePair} {client server : HdlcAddress}

/-- The addresses made for a pair of devices. -/
structure Addresses (pair : DevicePair) (client server : HdlcAddress) : Prop where
  client : DlmsHdlcAddress.makeClientAddress pair.clientAddress=.ok client
  server : DlmsHdlcAddress.makeServerAddress pair.logicalDeviceAddress pair.physicalDeviceAddress=
    .ok server

theorem Addresses.parts (h : pair.Addresses client server) :
    DlmsHdlcAddress.serverParts client=(pair.clientAddress.toNat,0) ∧
      DlmsHdlcAddress.serverParts server=
        (pair.logicalDeviceAddress.toNat,pair.physicalDeviceAddress.toNat) := by
  obtain ⟨address,hclient,hparts⟩ := DlmsHdlcAddress.makeClientAddress_parts pair.client_le
  obtain ⟨address',hserver,hparts'⟩ :=
    DlmsHdlcAddress.makeServerAddress_parts pair.logical_le pair.physical_le
  obtain rfl := Except.ok.inj (hclient.symm.trans h.client)
  obtain rfl := Except.ok.inj (hserver.symm.trans h.server)
  exact ⟨hparts,hparts'⟩

/-- The addresses tell pairs apart. -/
theorem Addresses.pair_eq (h : pair.Addresses client server)
    (h' : other.Addresses client server) : pair=other := by
  have hclient := h.parts.1.symm.trans h'.parts.1
  have hserver := h.parts.2.symm.trans h'.parts.2
  simp only [Prod.mk.injEq,and_true,UInt8.toNat_inj,UInt16.toNat_inj] at hclient hserver
  cases pair
  cases other
  obtain ⟨rfl,rfl,rfl⟩ := And.intro hclient hserver
  rfl

theorem Addresses.crossed (h : pair.Addresses client server)
    (h' : other.Addresses server client) : pair.Crossed other := by
  have hclient := (DlmsHdlcAddress.makeClientAddress_eq_makeServerAddress_iff pair.client_le
    other.logical_le other.physical_le).mp (h.client.trans h'.server.symm)
  have hserver := (DlmsHdlcAddress.makeClientAddress_eq_makeServerAddress_iff other.client_le
    pair.logical_le pair.physical_le).mp (h'.client.trans h.server.symm)
  exact ⟨hserver.2,hclient.2,hserver.1,hclient.1⟩

end DevicePair

/-- A session in one of the two roles. -/
theorem Peer.Serves.at {pair : DevicePair} {peer : Peer} (h : peer.Serves pair) :
    ∃ client server, pair.Addresses client server ∧
      (peer.At server client ∨ peer.At client server) := by
  cases peer with
  | cpp session =>
    obtain ⟨options,hreachable,hclient,hserver⟩ := h
    have hconfigured := HdlcSession.configured_of_reachable hreachable
    refine ⟨options.clientAddress,options.serverAddress,⟨hclient,hserver⟩,?_⟩
    cases hrole : options.role with
    | client =>
      refine .inl ⟨options,hconfigured,?_,?_⟩
      · simp [HdlcSession.new,HdlcSession.remoteAddress,hrole]
      · simp [HdlcSession.new,HdlcSession.localAddress,hrole]
    | server =>
      refine .inr ⟨options,hconfigured,?_,?_⟩
      · simp [HdlcSession.new,HdlcSession.remoteAddress,hrole]
      · simp [HdlcSession.new,HdlcSession.localAddress,hrole]
  | go session =>
    obtain ⟨hclient,hserver⟩ := h
    obtain ⟨client,hmade,_⟩ := DlmsHdlcAddress.makeClientAddress_parts pair.client_le
    obtain ⟨server,hmade',_⟩ :=
      DlmsHdlcAddress.makeServerAddress_parts pair.logical_le pair.physical_le
    rw [Go.makeClientAddress_eq,hmade] at hclient
    rw [Go.makeServerAddress_eq,hmade'] at hserver
    have hclientAddress := Except.ok.inj hclient
    have hserverAddress := Except.ok.inj hserver
    refine ⟨client,server,⟨hmade,hmade'⟩,?_⟩
    cases hrole : session.options.role with
    | client =>
      refine .inl ⟨?_,?_⟩
      · rw [Go.Session.remoteAddress,hrole,hserverAddress]
      · rw [Go.Session.localAddress,hrole,hclientAddress]
    | server =>
      refine .inr ⟨?_,?_⟩
      · rw [Go.Session.remoteAddress,hrole,hclientAddress]
      · rw [Go.Session.localAddress,hrole,hserverAddress]

namespace LineStation
variable {ι : Type*}

/-- A station keeps to its pair, and its frames do. -/
def Keeping (pair : DevicePair) (station : LineStation) : Prop :=
  ∃ client server, pair.Addresses client server ∧
    (station.peer.At server client ∨ station.peer.At client server)

def Sent (pair : DevicePair) (bytes : List UInt8) : Prop :=
  ∃ client server, pair.Addresses client server ∧
    (Sender server client bytes ∨ Sender client server bytes)

theorem kind_call (station : LineStation) (call : PeerCall) : kind.call station call=
    (((station.peer.perform call).1,if (station.peer.perform call).1.2.isEmpty then []
      else [(station.peer.perform call).1.2]),
      { station with peer := (station.peer.perform call).2 }) := rfl

theorem kind_hear (station : LineStation) (bytes : List UInt8) : kind.hear station bytes=
    ((station.peer.hear station.limits bytes).1,
      { station with peer := (station.peer.hear station.limits bytes).2 }) := rfl

theorem keeps (pair : ι → DevicePair) :
    Line.Keeps kind (fun i => Keeping (pair i)) (fun i => Sent (pair i)) where
  call := by
    rintro i station ⟨client,server,haddresses,hat⟩ call
    have hsent {destination source : HdlcAddress} {bytes : List UInt8}
        (h : bytes=[] ∨ Sender destination source bytes) :
        ∀ word ∈ (if bytes.isEmpty then [] else [bytes]), Sender destination source word := by
      intro word hword
      obtain rfl | hsender := h
      · cases hword
      · split at hword
        · cases hword
        · rwa [List.mem_singleton.mp hword]
    rw [kind_call]
    obtain hclient | hserver := hat
    · obtain ⟨hnext,hbytes⟩ := hclient.perform call
      exact ⟨⟨client,server,haddresses,.inl hnext⟩,
        fun word hword => ⟨client,server,haddresses,.inl (hsent hbytes word hword)⟩⟩
    · obtain ⟨hnext,hbytes⟩ := hserver.perform call
      exact ⟨⟨client,server,haddresses,.inr hnext⟩,
        fun word hword => ⟨client,server,haddresses,.inr (hsent hbytes word hword)⟩⟩
  hear := by
    rintro i station ⟨client,server,haddresses,hat⟩ bytes
    rw [kind_hear]
    exact ⟨client,server,haddresses,hat.imp (fun h => h.hear _ _) fun h => h.hear _ _⟩

/-- What another pair has sent is not accepted, unless the two are crossed. -/
theorem hear_foreign {pair other : DevicePair} (hne : other≠pair) (uncrossed : ¬ other.Crossed pair)
    {station : LineStation} {bytes : List UInt8} (h : Keeping pair station)
    (sent : Sent other bytes) :
    (kind.hear station bytes).1.1≠.ok ∧ (kind.hear station bytes).2=station := by
  obtain ⟨client,server,haddresses,hat⟩ := h
  obtain ⟨client',server',haddresses',hsender⟩ := sent
  have hforeign {destination source destination' source' : HdlcAddress}
      (hat : station.peer.At destination source) (hsender : Sender destination' source' bytes)
      (hne : ¬ (source'=destination ∧ destination'=source)) :
      (kind.hear station bytes).1.1≠.ok ∧ (kind.hear station bytes).2=station := by
    obtain ⟨hrefused,hsame⟩ := hat.hear_foreign hsender hne station.limits
    rw [kind_hear,hsame]
    exact ⟨hrefused,rfl⟩
  -- Sessions in the same role meet in crossed pairs only, in different roles in one pair only.
  obtain hat | hat := hat
  · obtain hsender | hsender := hsender
    · apply hforeign hat hsender
      rintro ⟨rfl,rfl⟩
      exact uncrossed (haddresses'.crossed haddresses)
    · apply hforeign hat hsender
      rintro ⟨rfl,rfl⟩
      exact hne (haddresses'.pair_eq haddresses)
  · obtain hsender | hsender := hsender
    · apply hforeign hat hsender
      rintro ⟨rfl,rfl⟩
      exact hne (haddresses'.pair_eq haddresses)
    · apply hforeign hat hsender
      rintro ⟨rfl,rfl⟩
      exact uncrossed (haddresses'.crossed haddresses)

end LineStation

/-- On a line with any number of sessions of both libraries, whatever each of them calls and hears of
all that was sent: the sessions of one pair of devices answer and end as if they were alone, and
accept no frame of another pair. The addresses of no other pair may be crossed with theirs. -/
theorem sharedLine_private {ι : Type*} [DecidableEq ι] (pair : ι → DevicePair)
    (stations : ι → LineStation) (serves : ∀ i, (stations i).peer.Serves (pair i)) (own : DevicePair)
    (uncrossed : ∀ i, pair i≠own → ¬ (pair i).Crossed own) (events : List (Event ι PeerCall)) :
    let ours : ι → Bool := fun i => pair i=own
    let machine := Line.machine LineStation.kind
    let line := LineStation.line stations
    let alone := events.filter (Event.within ours)
    machine.outputsOf (Event.within ours) line events=machine.outputs line alone ∧
      (∀ i, pair i=own →
        (machine.final line events).station i=(machine.final line alone).station i) ∧
      machine.Along (fun line event => event.Foreign ours →
        ∀ answer ∈ (line.step LineStation.kind event).1, answer.1≠.ok) line events := by
  intro ours machine line alone
  have hsound : line.Sound (fun i => LineStation.Keeping (pair i))
      fun i => LineStation.Sent (pair i) :=
    ⟨fun i => (serves i).at,fun i word hword => absurd hword List.not_mem_nil⟩
  have hforeign {i j : ι} {station : LineStation} {bytes : List UInt8} (hi : ours i=true)
      (hj : ours j=false) (h : LineStation.Keeping (pair i) station)
      (sent : LineStation.Sent (pair j) bytes) : (LineStation.kind.hear station bytes).1.1≠.ok ∧
        (LineStation.kind.hear station bytes).2=station := by
    have hown : pair i=own := of_decide_eq_true hi
    have hother : pair j≠own := of_decide_eq_false hj
    rw [hown] at h
    exact LineStation.hear_foreign hother (uncrossed j hother) h sent
  have hkeeps := LineStation.keeps pair
  obtain ⟨houtputs,hagree⟩ := Line.private_run LineStation.kind hkeeps
    (fun hi hj h sent => (hforeign hi hj h sent).2) hsound events
  exact ⟨houtputs,fun i hi => hagree.station i (decide_eq_true hi),
    Line.foreign_answers LineStation.kind hkeeps (fun hi hj h sent => (hforeign hi hj h sent).1)
      hsound events⟩

/-- The devices of the samples, and the same client with another device. -/
def samplePair : DevicePair := ⟨0x21,1,0,by decide,by decide,by decide⟩

def otherPair : DevicePair := ⟨0x21,1,17,by decide,by decide,by decide⟩

/-- A C++ client, its Go server, and a Go client of the other device. -/
def sharedStations : Fin 3 → LineStation
  | 0 => ⟨.cpp (.new (HdlcSession.sampleOptions .client)),defaultHdlcCodecLimits⟩
  | 1 => ⟨.go (.newSession ⟨.server,⟨0x21,1⟩,⟨1,1⟩,⟨0,0,0⟩⟩),defaultHdlcCodecLimits⟩
  | 2 => ⟨.go (.newSession ⟨.client,⟨0x21,1⟩,⟨145,2⟩,⟨0,0,0⟩⟩),defaultHdlcCodecLimits⟩

def sharedPair : Fin 3 → DevicePair
  | 0 => samplePair
  | 1 => samplePair
  | 2 => otherPair

/-- Both clients ask to be connected; the server hears both. -/
def sharedEvents : List (Event (Fin 3) PeerCall) :=
  [.call 2 (.go .buildConnectRequest trivial),.hear 1 2 0,
    .call 0 (.cpp .buildConnectRequest trivial),.hear 1 0 0,.hear 2 0 0,
    .call 1 (.go .buildConnectResponse trivial),.hear 2 1 0,.hear 0 1 0]

/-- The server answers its own client only. -/
theorem sharedLine_private_sample :
    ((Line.machine LineStation.kind).outputsOf (Event.within fun i => sharedPair i=samplePair)
      (LineStation.line sharedStations) sharedEvents).map (Option.map Prod.fst)=
        .replicate 4 (some .ok) := by
  have hserves : ∀ i, (sharedStations i).peer.Serves (sharedPair i) := by
    intro i
    fin_cases i
    · exact ⟨_,⟨[],rfl⟩,rfl,rfl⟩
    · exact ⟨rfl,rfl⟩
    · exact ⟨rfl,rfl⟩
  have huncrossed : ∀ i, sharedPair i≠samplePair → ¬ (sharedPair i).Crossed samplePair := by
    intro i hne crossed
    fin_cases i
    · exact hne rfl
    · exact hne rfl
    · exact absurd crossed.physical (by decide)
  rw [(sharedLine_private sharedPair sharedStations hserves samplePair huncrossed sharedEvents).1]
  decide +kernel

end DlmsHdlc
