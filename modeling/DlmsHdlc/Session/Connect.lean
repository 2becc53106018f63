import DlmsHdlc.Session.Pending

/-! Connection set-up between the two sides: which accepted SNRM can be answered, and what both
sides agree on. -/
namespace DlmsHdlc

namespace HdlcSession
open Machine
variable {session : HdlcSession}

/-- The response to an accepted SNRM is built from these. -/
theorem acceptSnrm_response {options : HdlcSessionOptions} (h : session.Configured options)
    (proposed : SnrmParams) (consumed : ℕ) (information : List UInt8) :
    let accepted := session.acceptSnrm proposed consumed information
    accepted.connectResponseInfoField=(if 0 < consumed then
        encodeSnrmNegotiationBlock (negotiateParams proposed options.negotiationLimits.normalised)
      else []) ∧
    accepted.applyNegotiation=(if 0 < consumed then accepted.adoptLimits (serverLimits
        (negotiateParams proposed options.negotiationLimits.normalised)) else accepted) := by
  have hoptions : session.options.negotiationLimits=options.negotiationLimits.normalised := by
    rw [h]
    rfl
  by_cases hconsumed : 0 < consumed
  · simp only [connectResponseInfoField,applyNegotiation,negotiated,acceptSnrm,clearForSnrm,
      resetSequences,hconsumed,↓reduceIte,hoptions]
    exact ⟨trivial,trivial⟩
  · simp only [connectResponseInfoField,applyNegotiation,acceptSnrm,clearForSnrm,
      resetSequences,hconsumed,↓reduceIte]
    exact ⟨rfl,rfl⟩

/-- An SNRM that is accepted had good parameters, and is accepted as they say. -/
theorem receiveFrame_snrm_ok {frame : HdlcFrameBuffer}
    (kind : frame.control.unnumberedKind=.ok .snrm) (hok : (session.receiveFrame frame).1=.ok) :
    ∃ proposed consumed, parseSnrmInfoField frame.information=.ok (proposed,consumed) ∧
      session.options.role=.server ∧
      session.receiveFrame frame=
        (.ok,session.acceptSnrm proposed consumed frame.information) := by
  have haddresses := session.incomingAddressesMatch_of_ok hok
  rw [session.receiveFrame_unnumbered haddresses kind] at hok ⊢
  obtain ⟨role,state,proposed,consumed,parsed⟩ := session.receiveSnrm_ok_iff.mp hok
  exact ⟨proposed,consumed,parsed,role,session.receiveSnrm_accepted role state parsed⟩

theorem buildConnectResponse_eq (session : HdlcSession) (role : session.options.role=.server)
    (pending : session.connectResponsePending=true) :
    session.buildConnectResponse.1=
      session.applyNegotiation.buildFrameWith kUaControl session.connectResponseInfoField := by
  unfold buildConnectResponse
  rw [if_neg (not_not_intro role),if_neg (by simp [pending])]
  dsimp only
  split <;> simp_all

/-- What the client agrees on with a server, from the configured values of both. -/
def agreedLimits (client server : HdlcSessionNegotiationLimits) :
    HdlcSessionNegotiationLimits where
  maxInformationFieldLengthTransmit :=
    min client.maxInformationFieldLengthTransmit server.maxInformationFieldLengthReceive
  maxInformationFieldLengthReceive :=
    min client.maxInformationFieldLengthReceive server.maxInformationFieldLengthTransmit
  windowSizeTransmit := min client.windowSizeTransmit server.windowSizeReceive
  windowSizeReceive := min client.windowSizeReceive server.windowSizeTransmit

/-- The same values seen from the other side. -/
def mirrored (limits : HdlcSessionNegotiationLimits) : HdlcSessionNegotiationLimits where
  maxInformationFieldLengthTransmit := limits.maxInformationFieldLengthReceive
  maxInformationFieldLengthReceive := limits.maxInformationFieldLengthTransmit
  windowSizeTransmit := limits.windowSizeReceive
  windowSizeReceive := limits.windowSizeTransmit

/-- What a client proposes. -/
def proposedParams (limits : HdlcSessionNegotiationLimits) : SnrmParams where
  maxInfoTx := limits.maxInformationFieldLengthTransmit
  maxInfoRx := limits.maxInformationFieldLengthReceive
  windowTx := limits.windowSizeTransmit.toUInt32
  windowRx := limits.windowSizeReceive.toUInt32

lemma min_toUInt32_toUInt8 (a b : UInt8) : (min a.toUInt32 b.toUInt32).toUInt8=min a b := by
  have ha := a.toNat_lt
  have hb := b.toNat_lt
  rw [← UInt8.toNat_inj,UInt32.toNat_toUInt8,UInt32.toNat_min,UInt8.toNat_min,
    UInt8.toNat_toUInt32,UInt8.toNat_toUInt32]
  omega

theorem clientLimits_negotiateParams (client server : HdlcSessionNegotiationLimits) :
    clientLimits (negotiateParams (proposedParams client) server)=agreedLimits client server := by
  simp [clientLimits,negotiateParams,proposedParams,agreedLimits,min_toUInt32_toUInt8]

theorem serverLimits_negotiateParams (client server : HdlcSessionNegotiationLimits) :
    serverLimits (negotiateParams (proposedParams client) server)=
      mirrored (agreedLimits client server) := by
  simp [serverLimits,negotiateParams,proposedParams,agreedLimits,mirrored,min_toUInt32_toUInt8]

lemma window_toNat_le (window : UInt8) : window.toUInt32.toNat ≤ 255 := by
  have := window.toNat_lt
  rw [UInt8.toNat_toUInt32]
  omega

theorem normalised_transmit_le {limits : HdlcSessionNegotiationLimits}
    (h : limits.maxInformationFieldLengthTransmit.toNat ≤ 65535) :
    limits.normalised.maxInformationFieldLengthTransmit.toNat ≤ 65535 := by
  simp only [HdlcSessionNegotiationLimits.normalised]
  split
  · decide
  · exact h

theorem normalised_receive_le {limits : HdlcSessionNegotiationLimits}
    (h : limits.maxInformationFieldLengthReceive.toNat ≤ 65535) :
    limits.normalised.maxInformationFieldLengthReceive.toNat ≤ 65535 := by
  simp only [HdlcSessionNegotiationLimits.normalised]
  split
  · decide
  · exact h

/-- The block of a client survives the coding, and so do the values agreed from it. -/
theorem parse_proposed {client : HdlcSessionNegotiationLimits}
    (htransmit : client.maxInformationFieldLengthTransmit.toNat ≤ 65535)
    (hreceive : client.maxInformationFieldLengthReceive.toNat ≤ 65535)
    (server : HdlcSessionNegotiationLimits) (userInformation : List UInt8) :
    parseSnrmInfoField (encodeSnrmNegotiationBlock (proposedParams client) ++ userInformation)=
        .ok (proposedParams client,23) ∧
      parseSnrmInfoField (encodeSnrmNegotiationBlock
        (negotiateParams (proposedParams client) server))=
          .ok (negotiateParams (proposedParams client) server,23) := by
  have hwtx := window_toNat_le client.windowSizeTransmit
  have hwrx := window_toNat_le client.windowSizeReceive
  constructor
  · exact parseSnrmInfoField_encode htransmit hreceive hwtx hwrx userInformation
  · rw [← List.append_nil (encodeSnrmNegotiationBlock _)]
    apply parseSnrmInfoField_encode
    · exact (UInt64.toNat_min _ _).trans_le (Nat.le_trans (Nat.min_le_left _ _) htransmit)
    · exact (UInt64.toNat_min _ _).trans_le (Nat.le_trans (Nat.min_le_left _ _) hreceive)
    · exact (UInt32.toNat_min _ _).trans_le (Nat.le_trans (Nat.min_le_left _ _) hwtx)
    · exact (UInt32.toNat_min _ _).trans_le (Nat.le_trans (Nat.min_le_left _ _) hwrx)

/-- Two endpoints of one association. -/
structure Association (clientOptions serverOptions : HdlcSessionOptions) : Prop where
  client : clientOptions.role=.client
  server : serverOptions.role=.server
  clientAddress : clientOptions.clientAddress=serverOptions.clientAddress
  serverAddress : clientOptions.serverAddress=serverOptions.serverAddress

/-- A connect request with a negotiation block: by the second overload, whose user information
leaves room for the block in a vector, or by the first one for limits that are not the defaults. -/
def RequestsNegotiation (client client' : HdlcSession) (snrm : List UInt8) : Prop :=
  (∃ userInformation size, 23+size.toNat < 2^63 ∧
    client.buildConnectRequestWith userInformation size=(.ok snrm,client')) ∨
  (isDefaultNegotiationLimits client.options.negotiationLimits=false ∧
    client.buildConnectRequest=(.ok snrm,client'))

variable {clientOptions serverOptions : HdlcSessionOptions} {client server : HdlcSession}

theorem Association.addresses (h : Association clientOptions serverOptions)
    (hclient : client.Configured clientOptions) (hserver : server.Configured serverOptions) :
    client.remoteAddress=server.localAddress ∧ client.localAddress=server.remoteAddress := by
  obtain ⟨hclientLocal,hclientRemote⟩ := hclient.addresses
  obtain ⟨hserverLocal,hserverRemote⟩ := hserver.addresses
  rw [hclientLocal,hclientRemote,hserverLocal,hserverRemote]
  simp only [remoteAddress,localAddress,new,h.client,h.server]
  exact ⟨h.serverAddress,h.clientAddress⟩

theorem sameAddress_self (address : HdlcAddress) : sameAddress address address=true := by
  simp [sameAddress]

/-- Frames of one side are addressed to the other. -/
theorem incomingAddressesMatch_outgoing {sender receiver : HdlcSession}
    (hremote : sender.remoteAddress=receiver.localAddress)
    (hlocal : sender.localAddress=receiver.remoteAddress) (control : HdlcControl)
    (information : List UInt8) :
    receiver.incomingAddressesMatch (sender.outgoing control information)=true := by
  simp only [incomingAddressesMatch,outgoing,hremote,hlocal,sameAddress_self,Bool.and_self]

theorem buildConnectRequestInternal_ok {includeNegotiation : Bool} {information : Pointer}
    {size : UInt64} {snrm : List UInt8} {client' : HdlcSession}
    (h : client.buildConnectRequestInternal includeNegotiation information size=(.ok snrm,client')) :
    client.buildFrameWith kSnrmControl
        (client.connectInfoField includeNegotiation information size)=.ok snrm ∧
      client'={ client.resetSequences with state := .awaitingConnection } := by
  unfold buildConnectRequestInternal at h
  split at h
  · cases h
  split at h
  · cases h
  dsimp only at h
  split at h
  · cases h
  · rename_i hbuilt
    cases h
    exact ⟨hbuilt,rfl⟩

/-- Where the source has no user information there is none to read. -/
theorem read_of_not_hasUserInfo {data : Pointer} {size : UInt64}
    (h : ¬ (data≠none ∧ 0 < size)) : data.read size.toNat=[] := by
  cases data with
  | none => simp
  | some buffer =>
    have hzero : size=0 := by
      by_contra hsize
      exact h ⟨by simp,UInt64.pos_iff_ne_zero.mpr hsize⟩
    rw [hzero]
    rfl

theorem connectInfoField_read (session : HdlcSession) (data : Pointer) (size : UInt64) :
    session.connectInfoField true data size=
      encodeSnrmNegotiationBlock (proposedParams session.options.negotiationLimits) ++
        data.read size.toNat := by
  have hread : (if data≠none ∧ 0 < size then data.read size.toNat else [])=
      data.read size.toNat := by
    split
    · rfl
    · rename_i hempty
      rw [read_of_not_hasUserInfo hempty]
  rw [connectInfoField,hread]
  rfl

theorem connectInfoField_block {client : HdlcSession} (hconfigured : client.Configured clientOptions)
    (information : Pointer) (size : UInt64) :
    ∃ userInformation, client.connectInfoField true information size=
        encodeSnrmNegotiationBlock (proposedParams clientOptions.negotiationLimits.normalised) ++
          userInformation ∧ userInformation.length ≤ size.toNat := by
  have hlimits : client.options.negotiationLimits=clientOptions.negotiationLimits.normalised := by
    rw [hconfigured]
    rfl
  refine ⟨information.read size.toNat,?_,?_⟩
  · rw [connectInfoField_read,hlimits]
  · rw [Pointer.read,List.length_take]
    omega

/-- The SNRM of such a request carries the block of the configured values. -/
theorem RequestsNegotiation.snrm (hconfigured : client.Configured clientOptions)
    {client' : HdlcSession} {snrm : List UInt8} (h : RequestsNegotiation client client' snrm) :
    client'={ client.resetSequences with state := .awaitingConnection } ∧
      ∃ userInformation, let infoField := encodeSnrmNegotiationBlock (proposedParams
          clientOptions.negotiationLimits.normalised) ++ userInformation
        (client.outgoing snrmControl infoField).Fits client.options.limits ∧
          snrm=(client.outgoing snrmControl infoField).wire := by
  have hinternal : ∃ information size, 23+size.toNat < 2^63 ∧
      client.buildConnectRequestInternal true information size=(.ok snrm,client') := by
    obtain ⟨information,size,hsize,hbuilt⟩ | ⟨hdefault,hbuilt⟩ := h
    · exact ⟨information,size,hsize,hbuilt⟩
    · rw [buildConnectRequest,hdefault] at hbuilt
      exact ⟨none,0,by decide,hbuilt⟩
  obtain ⟨information,size,hsize,hbuilt⟩ := hinternal
  obtain ⟨hframe,hclient⟩ := buildConnectRequestInternal_ok hbuilt
  obtain ⟨userInformation,hinfo,hlength⟩ := connectInfoField_block hconfigured information size
  rw [hinfo] at hframe
  refine ⟨hclient,userInformation,?_⟩
  apply (client.buildFrameWith_eq_ok_iff snrmControl _ snrm).mp hframe
  rw [List.length_append,encodeSnrmNegotiationBlock_length]
  omega

/-- Both sides decode what the other side built, whatever their limits. -/
theorem decoded_eq_outgoing {sender : HdlcSession} {control : HdlcControl}
    {information : List UInt8} {limits limits' : HdlcCodecLimits} {decoded : HdlcFrameBuffer}
    (hfits : (sender.outgoing control information).Fits limits)
    (hdecode : decodeFrame (some (sender.outgoing control information).wire)
      (sender.outgoing control information).wire.length limits'=.ok decoded) :
    decoded=sender.outgoing control information := by
  have hiff := (sender.outgoing control information).decodeFrame_image_eq_ok_iff limits'
    hfits.format_le decoded
  exact (hiff.mp hdecode).2

theorem buildConnectResponse_ok {server server' : HdlcSession} {ua : List UInt8}
    (h : server.buildConnectResponse=(.ok ua,server')) :
    server.applyNegotiation.buildFrameWith kUaControl server.connectResponseInfoField=.ok ua ∧
      server'={ server.applyNegotiation.resetSequences with
        state := .connected
        connectResponsePending := false
        pendingNegotiation := { server.applyNegotiation.pendingNegotiation with
          active := false } } := by
  unfold buildConnectResponse at h
  split at h
  · cases h
  split at h
  · cases h
  dsimp only at h
  split at h
  · cases h
  · rename_i hbuilt
    cases h
    exact ⟨hbuilt,rfl⟩

/-- The server's side of a negotiation: the SNRM is accepted, and the UA that is built carries the
values the server adopts. -/
theorem server_negotiates (hconfigured : server.Configured serverOptions)
    (hrole : serverOptions.role=.server) (hstate : server.state=.disconnected)
    {frame : HdlcFrameBuffer} (haddresses : server.incomingAddressesMatch frame=true)
    (hkind : frame.control.unnumberedKind=.ok .snrm) {proposed : SnrmParams}
    (hparsed : parseSnrmInfoField frame.information=.ok (proposed,23)) {ua : List UInt8}
    {server' : HdlcSession}
    (hresponse : (server.receiveFrame frame).2.buildConnectResponse=(.ok ua,server')) :
    let negotiated := negotiateParams proposed serverOptions.negotiationLimits.normalised
    (server.receiveFrame frame).1=.ok ∧ server'.state=.connected ∧
      server'.negotiatedLimits=serverLimits negotiated ∧
      ∃ limits, (server.outgoing uaControl (encodeSnrmNegotiationBlock negotiated)).Fits limits ∧
        ua=(server.outgoing uaControl (encodeSnrmNegotiationBlock negotiated)).wire := by
  have hserver : server.options.role=.server := by
    rw [hconfigured]
    exact hrole
  have hreceive : server.receiveFrame frame=
      (.ok,server.acceptSnrm proposed 23 frame.information) := by
    rw [server.receiveFrame_unnumbered haddresses hkind]
    exact server.receiveSnrm_accepted hserver hstate hparsed
  obtain ⟨hinfo,hnegotiation⟩ := acceptSnrm_response hconfigured proposed 23 frame.information
  rw [hreceive] at hresponse ⊢
  obtain ⟨hbuilt,rfl⟩ := buildConnectResponse_ok hresponse
  simp only [Nat.zero_lt_succ,↓reduceIte] at hinfo hnegotiation
  rw [hnegotiation] at hbuilt ⊢
  rw [hinfo] at hbuilt
  have hfits := (buildFrameWith_eq_ok_iff _ uaControl
    (by rw [encodeSnrmNegotiationBlock_length]; omega) ua).mp hbuilt
  exact ⟨rfl,rfl,rfl,_,hfits⟩

/-- The client's side: a UA with a block is adopted. -/
theorem client_negotiates (hstate : client.state=.awaitingConnection) {frame : HdlcFrameBuffer}
    (haddresses : client.incomingAddressesMatch frame=true)
    (hkind : frame.control.unnumberedKind=.ok .ua) {negotiated : SnrmParams}
    (hparsed : parseSnrmInfoField frame.information=.ok (negotiated,23)) :
    (client.receiveFrame frame).1=.ok ∧ (client.receiveFrame frame).2.state=.connected ∧
      (client.receiveFrame frame).2.negotiatedLimits=clientLimits negotiated := by
  have hinformation : frame.information≠[] := by
    intro h
    rw [h] at hparsed
    cases hparsed
  have happly : client.applyUa frame.information=client.adoptLimits (clientLimits negotiated) := by
    rw [applyUa,if_pos hinformation,hparsed]
    rfl
  rw [client.receiveFrame_unnumbered haddresses hkind]
  simp only [receiveUa,hstate,happly]
  exact ⟨trivial,trivial,rfl⟩

/-- After a connection set-up with a negotiation both sides are connected and agree, each from its
own side, on the smaller of what the client proposes and the server is capable of. -/
theorem negotiation_agrees (association : Association clientOptions serverOptions)
    (htransmit : clientOptions.negotiationLimits.maxInformationFieldLengthTransmit.toNat ≤ 65535)
    (hreceive : clientOptions.negotiationLimits.maxInformationFieldLengthReceive.toNat ≤ 65535)
    (hclient : Reachable clientOptions client) (hserver : Reachable serverOptions server)
    (hserverState : server.state=.disconnected)
    {client' server' : HdlcSession} {snrm ua : List UInt8} {limits limits' : HdlcCodecLimits}
    {request response : HdlcFrameBuffer}
    (hrequest : RequestsNegotiation client client' snrm)
    (hdecodeRequest : decodeFrame (some snrm) snrm.length limits=.ok request)
    (hresponse : (server.receiveFrame request).2.buildConnectResponse=(.ok ua,server'))
    (hdecodeResponse : decodeFrame (some ua) ua.length limits'=.ok response) :
    (server.receiveFrame request).1=.ok ∧ (client'.receiveFrame response).1=.ok ∧
    server'.state=.connected ∧ (client'.receiveFrame response).2.state=.connected ∧
    (client'.receiveFrame response).2.negotiatedLimits=agreedLimits
      clientOptions.negotiationLimits.normalised serverOptions.negotiationLimits.normalised ∧
    server'.negotiatedLimits=mirrored (agreedLimits
      clientOptions.negotiationLimits.normalised serverOptions.negotiationLimits.normalised) := by
  have hclientOptions := configured_of_reachable hclient
  have hserverOptions := configured_of_reachable hserver
  obtain ⟨hremote,hlocal⟩ := association.addresses hclientOptions hserverOptions
  obtain ⟨hclient',userInformation,hfits,hsnrm⟩ := hrequest.snrm hclientOptions
  obtain ⟨hparsedRequest,hparsedResponse⟩ := parse_proposed (normalised_transmit_le htransmit)
    (normalised_receive_le hreceive) serverOptions.negotiationLimits.normalised userInformation
  rw [hsnrm] at hdecodeRequest
  obtain rfl := decoded_eq_outgoing hfits hdecodeRequest
  obtain ⟨haccepted,hconnected,hserverLimits,uaLimits,huaFits,hua⟩ := server_negotiates
    hserverOptions association.server hserverState
    (incomingAddressesMatch_outgoing hremote hlocal _ _) snrmControl_kind hparsedRequest hresponse
  rw [hua] at hdecodeResponse
  obtain rfl := decoded_eq_outgoing huaFits hdecodeResponse
  have haddresses : client'.incomingAddressesMatch (server.outgoing uaControl
      (encodeSnrmNegotiationBlock (negotiateParams
        (proposedParams clientOptions.negotiationLimits.normalised)
          serverOptions.negotiationLimits.normalised)))=true := by
    rw [hclient']
    exact incomingAddressesMatch_outgoing hlocal.symm hremote.symm _ _
  have hawaiting : client'.state=.awaitingConnection := by rw [hclient']
  obtain ⟨hok,hclientConnected,hclientLimits⟩ := client_negotiates hawaiting haddresses uaControl_kind
    hparsedResponse
  refine ⟨haccepted,hok,hconnected,hclientConnected,?_,?_⟩
  · rw [hclientLimits,clientLimits_negotiateParams]
  · rw [hserverLimits,serverLimits_negotiateParams]

/-- That association with other limits. -/
def proposingOptions (role : HdlcSessionRole) (limits : HdlcSessionNegotiationLimits) :
    HdlcSessionOptions :=
  { sampleOptions role with negotiationLimits := limits }

/-- Two fresh sessions with other limits on each side and in each direction. -/
theorem negotiation_agrees_sample :
    let server := (new (proposingOptions .server ⟨150,180,4,2⟩)).receiveFrame
      (sampleIncoming .server snrmControl (encodeSnrmNegotiationBlock ⟨200,100,3,5⟩))
    let client := ((new (proposingOptions .client ⟨200,100,3,5⟩)).buildConnectRequestWith
      none 0).2.receiveFrame
        (sampleIncoming .client uaControl (encodeSnrmNegotiationBlock ⟨180,100,2,4⟩))
    server.1=.ok ∧ client.1=.ok ∧ server.2.buildConnectResponse.2.state=.connected ∧
      client.2.state=.connected ∧ client.2.negotiatedLimits=⟨180,100,2,4⟩ ∧
      server.2.buildConnectResponse.2.negotiatedLimits=⟨100,180,4,2⟩ := by
  have association : Association (proposingOptions .client ⟨200,100,3,5⟩)
      (proposingOptions .server ⟨150,180,4,2⟩) := ⟨rfl,rfl,rfl,rfl⟩
  have hclient : Reachable (proposingOptions .client ⟨200,100,3,5⟩)
      (new (proposingOptions .client ⟨200,100,3,5⟩)) := ⟨[],rfl⟩
  have hserver : Reachable (proposingOptions .server ⟨150,180,4,2⟩)
      (new (proposingOptions .server ⟨150,180,4,2⟩)) := ⟨[],rfl⟩
  have hrequest : (sampleIncoming .server snrmControl
      (encodeSnrmNegotiationBlock ⟨200,100,3,5⟩)).Fits defaultHdlcCodecLimits := by decide
  have hresponse : (sampleIncoming .client uaControl
      (encodeSnrmNegotiationBlock ⟨180,100,2,4⟩)).Fits defaultHdlcCodecLimits := by decide
  have hdecodeRequest :=
    (HdlcFrameBuffer.decodeFrame_image_eq_ok_iff _ _ hrequest.format_le _).mpr ⟨hrequest,rfl⟩
  have hdecodeResponse :=
    (HdlcFrameBuffer.decodeFrame_image_eq_ok_iff _ _ hresponse.format_le _).mpr ⟨hresponse,rfl⟩
  exact negotiation_agrees association (by decide) (by decide) hclient hserver rfl
    (.inl ⟨none,0,by decide,rfl⟩) hdecodeRequest rfl hdecodeResponse

end HdlcSession
end DlmsHdlc
