import DlmsHdlc.Go.Crossing
import DlmsHdlc.Session.Bounds

/-! A session of either library, and the exchange of SNRM and UA that connects two of them. -/
namespace DlmsHdlc

/-- A session of either library. -/
inductive Peer
  | cpp (session : HdlcSession)
  | go (session : Go.Session)

namespace Peer

def localAddress : Peer → Go.Address
  | cpp session => Go.ofAddress session.localAddress
  | go session => session.localAddress

def remoteAddress : Peer → Go.Address
  | cpp session => Go.ofAddress session.remoteAddress
  | go session => session.remoteAddress

/-- The whole of a buffer is sent. -/
def buildInformationFrame (information : List UInt8) (pollFinal : Bool) :
    Peer → Except HdlcStatus (List UInt8) × Peer
  | cpp session => Prod.map id cpp
      (session.buildInformationFrame (some information) (.ofNat information.length) pollFinal)
  | go session => Prod.map id go (session.buildInformationFrame information pollFinal)

def buildReceiveReadyFrame (pollFinal : Bool) : Peer → Except HdlcStatus (List UInt8) × Peer
  | cpp session => Prod.map id cpp (session.buildReceiveReadyFrame pollFinal)
  | go session => (session.buildReceiveReadyFrame pollFinal,go session)

/-- A connect request that succeeds, by either overload in C++. -/
inductive Requests : Peer → List UInt8 → Peer → Prop
  | cpp {session next : HdlcSession} {operation : HdlcSessionOperation} {snrm : List UInt8}
      (asks : HdlcSession.AsksToConnect operation)
      (requested : session.perform operation=((.ok,snrm),next)) :
      Requests (.cpp session) snrm (.cpp next)
  | go {session next : Go.Session} {snrm : List UInt8}
      (requested : session.buildConnectRequest=(.ok snrm,next)) :
      Requests (.go session) snrm (.go next)

/-- A connect response that succeeds. -/
inductive Responds : Peer → List UInt8 → Peer → Prop
  | cpp {session next : HdlcSession} {ua : List UInt8}
      (responded : session.buildConnectResponse=(.ok ua,next)) :
      Responds (.cpp session) ua (.cpp next)
  | go {session next : Go.Session} {ua : List UInt8}
      (responded : session.buildConnectResponse=(.ok ua,next)) :
      Responds (.go session) ua (.go next)

/-- A frame that arrives, is decoded under some limits and is accepted. -/
inductive Accepts : Peer → List UInt8 → Peer → Prop
  | cpp {session next : HdlcSession} {bytes : List UInt8} {limits : HdlcCodecLimits}
      {frame : HdlcFrameBuffer} (decoded : decodeFrame (some bytes) bytes.length limits=.ok frame)
      (accepted : session.receiveFrame frame=(.ok,next)) : Accepts (.cpp session) bytes (.cpp next)
  | go {session next : Go.Session} {bytes : List UInt8} {limits : HdlcCodecLimits}
      {frame : Go.Frame} (decoded : Go.decodeFrame bytes (Go.ofLimits limits)=.ok frame)
      (accepted : session.receiveFrame frame=(none,next)) : Accepts (.go session) bytes (.go next)

/-- A completed exchange between two sessions, of one library or of both. -/
inductive Exchange (client server : Peer) : Peer → Peer → Prop
  | completed {snrm ua : List UInt8} {requesting requested client' server' : Peer}
      (requests : client.Requests snrm requesting) (arrived : server.Accepts snrm requested)
      (responds : requested.Responds ua server') (confirmed : requesting.Accepts ua client') :
      Exchange client server client' server'

/-- The two sides of one association. -/
structure Mirrored (client server : Peer) : Prop where
  clientAddress : client.localAddress=server.remoteAddress
  serverAddress : client.remoteAddress=server.localAddress

/-- A C++ session that some calls lead to. -/
def Reachable : Peer → Prop
  | cpp session => ∃ options, HdlcSession.Reachable options session
  | go _ => True

/-- How many I-frames may be unacknowledged. A Go session does not count them, so that three bits
are the limit. -/
def window : Peer → ℕ
  | cpp session => session.windowSizeTransmit.toNat
  | go _ => 7

/-- Connected with the peer at the other address, and nothing sent or received yet. -/
def Opened (destination source : HdlcAddress) : Peer → Prop
  | cpp session => session.Opened ∧ ∃ options, session.Configured options ∧
      (HdlcSession.new options).remoteAddress=destination ∧
      (HdlcSession.new options).localAddress=source
  | go session => (Go.Session.Endpoint.start session).Numbered destination source

/-- Both addresses of the peer are well formed. -/
structure Addressed (destination source : HdlcAddress) (peer : Peer) : Prop where
  remoteAddress : peer.remoteAddress=Go.ofAddress destination
  localAddress : peer.localAddress=Go.ofAddress source

end Peer

theorem Go.ofAddress_injective : Function.Injective Go.ofAddress := by
  intro a b h
  have hsize := congrArg (fun address : Go.Address => address.encodedSize.toNat) h
  simp only [Go.ofAddress_encodedSize] at hsize
  have hraw : a.rawValue=b.rawValue := congrArg Go.Address.rawValue h
  cases a
  cases b
  cases hraw
  cases hsize
  rfl

theorem HdlcSession.sameAddress_iff {a b : HdlcAddress} :
    HdlcSession.sameAddress a b=true ↔ a=b := by
  obtain ⟨rawValue,encodedSize⟩ := a
  obtain ⟨rawValue',encodedSize'⟩ := b
  rw [HdlcSession.sameAddress,Bool.and_eq_true,beq_iff_eq,beq_iff_eq,HdlcAddress.mk.injEq]

/-- A frame between other addresses is refused. -/
theorem HdlcSession.receiveFrame_foreign {session : HdlcSession} {frame : HdlcFrameBuffer}
    (h : ¬ (frame.source=session.remoteAddress ∧ frame.destination=session.localAddress)) :
    session.receiveFrame frame=(.invalidAddress,session) := by
  have hmatch : session.incomingAddressesMatch frame=false := by
    rw [← Bool.not_eq_true,incomingAddressesMatch,Bool.and_eq_true,sameAddress_iff,sameAddress_iff,
      and_comm]
    exact h
  rw [receiveFrame,hmatch]
  rfl

theorem Go.Session.receiveFrame_foreign {s : Session} {destination source : HdlcAddress}
    (remoteAddress : s.remoteAddress=ofAddress destination)
    (localAddress : s.localAddress=ofAddress source) {frame : HdlcFrameBuffer}
    (h : ¬ (frame.source=destination ∧ frame.destination=source)) :
    s.receiveFrame (ofFrame frame)=(some .invalidAddress,s) := by
  have hmatch : s.incomingAddressesMatch (ofFrame frame)=false := by
    rw [← Bool.not_eq_true,incomingAddressesMatch,Bool.and_eq_true,sameAddress_iff,sameAddress_iff,
      remoteAddress,localAddress,and_comm]
    rintro ⟨hsource,hdestination⟩
    exact h ⟨ofAddress_injective hsource,ofAddress_injective hdestination⟩
  rw [receiveFrame,hmatch]
  rfl

namespace Peer

/-- Any decoder that takes the bytes finds the control field of a UA in them. -/
def IsUa (bytes : List UInt8) : Prop :=
  ∀ limits frame, decodeFrame (some bytes) bytes.length limits=.ok frame →
    frame.control=HdlcSession.uaControl

section Sides
variable {peer next : Peer} {bytes : List UInt8} {destination source : HdlcAddress}

/-- A server answers with a UA and is connected. -/
theorem Responds.opened (h : peer.Responds bytes next)
    (addressed : peer.Addressed destination source) (reachable : peer.Reachable) :
    IsUa bytes ∧ next.Opened destination source := by
  cases h with
  | @cpp session next _ responded =>
    obtain ⟨hbuilt,_⟩ := HdlcSession.buildConnectResponse_ok responded
    obtain ⟨options,hreachable⟩ := reachable
    constructor
    · intro limits frame hdecode
      have hlength := session.connectResponseInfoField_length
      obtain ⟨hfits,rfl⟩ := (session.applyNegotiation.buildFrameWith_eq_ok_iff
        HdlcSession.uaControl (by omega) bytes).mp hbuilt
      rw [HdlcSession.decoded_eq_outgoing hfits hdecode]
      rfl
    · have hnext := hreachable.step .buildConnectResponse
      have hperform : session.perform .buildConnectResponse=((.ok,bytes),next) :=
        congrArg HdlcSession.builtOutput responded
      rw [hperform] at hnext
      obtain ⟨hlocal,hremote⟩ := (HdlcSession.configured_of_reachable hreachable).addresses
      refine ⟨HdlcSession.buildConnectResponse_opened responded,options,
        HdlcSession.configured_of_reachable hnext,?_,?_⟩
      · rw [← hremote]
        exact Go.ofAddress_injective addressed.remoteAddress
      · rw [← hlocal]
        exact Go.ofAddress_injective addressed.localAddress
  | @go session next _ responded =>
    obtain ⟨_,hua,rfl⟩ := Go.Session.buildConnectResponse_ok responded
    have hremote : session.remoteAddress=Go.ofAddress destination := addressed.remoteAddress
    have hlocal : session.localAddress=Go.ofAddress source := addressed.localAddress
    constructor
    · intro limits frame hdecode
      rw [Go.Session.buildUnnumberedFrame,Go.Session.buildFrame,hlocal,hremote] at hua
      have hencoded : Go.encodeFrame (Go.ofFrame ⟨false,destination,source,HdlcSession.uaControl,[]⟩)
          session.options.limits=.ok bytes := hua
      obtain ⟨hformat,rfl⟩ := Go.encodeFrame_ok (by exact Nat.two_pow_pos 63) hencoded
      rw [((HdlcFrameBuffer.decodeFrame_image_eq_ok_iff _ limits hformat frame).mp hdecode).2]
    · exact Go.Session.Endpoint.numbered_start rfl hremote hlocal rfl rfl

/-- A client that waits for a UA is connected by it. -/
theorem Requests.opened {requesting : Peer} {ua : List UInt8} (h : peer.Requests bytes requesting)
    (isUa : IsUa ua) (accepts : requesting.Accepts ua next)
    (addressed : peer.Addressed destination source) (reachable : peer.Reachable) :
    next.Opened destination source := by
  cases h with
  | @cpp session requesting operation _ asks requested =>
    obtain ⟨options,hreachable⟩ := reachable
    cases accepts with
    | @cpp _ next _ limits frame decoded accepted =>
      have hawaiting := (session.asksToConnect_keeps asks).2.2
      have hrequesting := hreachable.step operation
      rw [requested] at hawaiting hrequesting
      have hkind : frame.control.unnumberedKind=.ok .ua := by
        rw [isUa limits frame decoded]
        rfl
      have hnext := hrequesting.step (.receiveFrame frame)
      have hperform : requesting.perform (.receiveFrame frame)=((.ok,[]),next) :=
        congrArg (fun result => ((result.1,[]),result.2)) accepted
      rw [hperform] at hnext
      obtain ⟨hlocal,hremote⟩ := (HdlcSession.configured_of_reachable hreachable).addresses
      refine ⟨HdlcSession.receiveFrame_ua_opened (hawaiting rfl) hkind accepted,options,
        HdlcSession.configured_of_reachable hnext,?_,?_⟩
      · rw [← hremote]
        exact Go.ofAddress_injective addressed.remoteAddress
      · rw [← hlocal]
        exact Go.ofAddress_injective addressed.localAddress
  | @go session requesting _ requested =>
    cases accepts with
    | @go _ next _ limits frame decoded accepted =>
      obtain ⟨_,rfl⟩ := Go.Session.buildConnectRequest_ok requested
      obtain ⟨f,limits',hdecode,rfl⟩ := Go.decodeFrame_ok decoded
      have hcontrol : (Go.ofFrame f).control=⟨Go.ctrlUA⟩ := by
        change Go.ofControl f.control=_
        rw [isUa limits' f hdecode]
        rfl
      obtain rfl := Go.Session.receiveFrame_ua hcontrol rfl accepted
      exact Go.Session.Endpoint.numbered_start rfl addressed.remoteAddress addressed.localAddress
        rfl rfl

/-- The addresses of a peer that has accepted a frame are well formed, and stay. -/
theorem Accepts.addressed (h : peer.Accepts bytes next) (reachable : peer.Reachable) :
    next.Reachable ∧ ∃ destination source, peer.Addressed destination source ∧
      next.Addressed destination source := by
  cases h with
  | @cpp session next _ limits frame decoded accepted =>
    obtain ⟨options,hreachable⟩ := reachable
    have hnext := hreachable.step (.receiveFrame frame)
    have hperform : session.perform (.receiveFrame frame)=((.ok,[]),next) :=
      congrArg (fun result => ((result.1,[]),result.2)) accepted
    rw [hperform] at hnext
    obtain ⟨hlocal,hremote⟩ := (HdlcSession.configured_of_reachable hreachable).addresses
    obtain ⟨hlocal',hremote'⟩ := (HdlcSession.configured_of_reachable hnext).addresses
    exact ⟨⟨options,hnext⟩,session.remoteAddress,session.localAddress,⟨rfl,rfl⟩,
      congrArg Go.ofAddress (hremote'.trans hremote.symm),
      congrArg Go.ofAddress (hlocal'.trans hlocal.symm)⟩
  | @go session next _ limits frame decoded accepted =>
    obtain ⟨f,_,_,rfl⟩ := Go.decodeFrame_ok decoded
    obtain ⟨hdestination,hsource⟩ := Go.Session.receiveFrame_addresses (congrArg Prod.fst accepted)
    have hoptions : next.options=session.options := by
      rw [← Go.Session.receiveFrame_options session (Go.ofFrame f),accepted]
    refine ⟨trivial,f.source,f.destination,⟨hsource.symm,hdestination.symm⟩,?_,?_⟩
    · change next.remoteAddress=_
      rw [Go.Session.remoteAddress,hoptions]
      exact hsource.symm
    · change next.localAddress=_
      rw [Go.Session.localAddress,hoptions]
      exact hdestination.symm

/-- The addresses of a peer that is open. -/
theorem Opened.addressed (h : peer.Opened destination source) :
    peer.Addressed destination source := by
  cases peer with
  | cpp session =>
    obtain ⟨_,options,hconfigured,rfl,rfl⟩ := h
    obtain ⟨hlocal,hremote⟩ := hconfigured.addresses
    exact ⟨congrArg Go.ofAddress hremote,congrArg Go.ofAddress hlocal⟩
  | go session => exact ⟨h.remoteAddress,h.localAddress⟩

end Sides

/-- An exchange leaves both sides open, with the same two addresses. -/
theorem Exchange.opened {client server client' server' : Peer}
    (h : Exchange client server client' server') (mirrored : Mirrored client server)
    (reachable : client.Reachable) (reachable' : server.Reachable) :
    ∃ clientAddress serverAddress, client'.Opened serverAddress clientAddress ∧
      server'.Opened clientAddress serverAddress := by
  obtain ⟨requests,arrived,responds,confirmed⟩ := h
  obtain ⟨hrequested,clientAddress,serverAddress,haddressed,haddressed'⟩ :=
    arrived.addressed reachable'
  obtain ⟨isUa,hserver⟩ := responds.opened haddressed' hrequested
  refine ⟨clientAddress,serverAddress,requests.opened isUa confirmed ?_ reachable,hserver⟩
  exact ⟨mirrored.serverAddress.trans haddressed.localAddress,
    mirrored.clientAddress.trans haddressed.remoteAddress⟩

end Peer
end DlmsHdlc
