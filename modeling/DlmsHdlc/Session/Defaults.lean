import DlmsHdlc.Session.Limits
import DlmsHdlc.Session.Link

/-! Connections whose SNRM carries no negotiation block: what both sides are left with. -/
namespace DlmsHdlc.HdlcSession
open Machine

/-- The number of unacknowledged I-frames, as `CanSendInformationFrame` counts them. -/
def outstanding (session : HdlcSession) : UInt8 :=
  (session.sendSequence - session.acknowledgeSequence) &&& 0x07

theorem outstanding_toNat (session : HdlcSession) : session.outstanding.toNat=
    (256-session.acknowledgeSequence.toNat+session.sendSequence.toNat)%8 := by
  have hlt := session.acknowledgeSequence.toNat_lt
  rw [outstanding,HdlcControl.and_seven_toNat,UInt8.toNat_sub]
  omega

theorem outstanding_of_eq {session : HdlcSession} (h : session.sendSequence=0)
    (h' : session.acknowledgeSequence=0) : session.outstanding=0 := by
  rw [outstanding,h,h']
  rfl

theorem outstanding_le_of_eq {session : HdlcSession} (h : session.sendSequence=0)
    (h' : session.acknowledgeSequence=0) :
    session.outstanding.toNat ≤ session.windowSizeTransmit.toNat := by
  rw [outstanding_of_eq h h']
  exact Nat.zero_le _

/-- One more frame is one more to acknowledge. -/
theorem outstanding_sent (session : HdlcSession) :
    ({ session with sendSequence := nextSequence session.sendSequence }).outstanding.toNat ≤
      session.outstanding.toNat+1 := by
  have hlt := session.acknowledgeSequence.toNat_lt
  rw [outstanding_toNat,outstanding_toNat]
  dsimp only
  rw [nextSequence,HdlcControl.and_seven_toNat,UInt8.toNat_add]
  change (256-_+(_+1)%2^8%8)%8 ≤ _
  omega

/-- An accepted `N(R)` acknowledges, and takes nothing back. -/
theorem outstanding_acknowledged {session : HdlcSession} {nr : UInt8}
    (accepted : session.acceptsReceiveSequence nr=true) :
    ({ session with acknowledgeSequence := nr }).outstanding.toNat ≤ session.outstanding.toNat := by
  have hlt := session.acknowledgeSequence.toNat_lt
  have hnr := nr.toNat_lt
  have haccepted : (nr - session.acknowledgeSequence) &&& 0x07 ≤ session.outstanding := by
    simpa [acceptsReceiveSequence,outstanding] using accepted
  rw [UInt8.le_iff_toNat_le,HdlcControl.and_seven_toNat,UInt8.toNat_sub,outstanding_toNat]
    at haccepted
  rw [outstanding_toNat,outstanding_toNat]
  dsimp only
  omega

/-- A connect response is pending in the disconnected state only, and the unacknowledged frames
are within the window. -/
structure InWindow (options : HdlcSessionOptions) (session : HdlcSession) : Prop where
  recoverable : Recoverable options session
  waiting : session.connectResponsePending=true → session.state=.disconnected
  outstanding_le : session.outstanding.toNat ≤ session.windowSizeTransmit.toNat

variable {options : HdlcSessionOptions} {session : HdlcSession}

theorem InWindow.step (h : InWindow options session) (operation : HdlcSessionOperation) :
    InWindow options (session.perform operation).2 := by
  have hrecoverable := h.recoverable.step operation
  have heffect := session.perform_effect operation
  generalize session.perform operation=result at heffect hrecoverable ⊢
  obtain ⟨output,next⟩ := result
  cases heffect with
  | refused => exact h
  | connectRequested request role =>
    refine ⟨hrecoverable,?_,outstanding_le_of_eq rfl rfl⟩
    intro hpending
    cases (h.recoverable.configured.role.symm.trans role).symm.trans
      (h.recoverable.answering hpending)
  | connectResponseFailed failed role pending =>
    change InWindow options session.applyNegotiation
    change Recoverable options session.applyNegotiation at hrecoverable
    have hstate := h.waiting pending
    have hkept := session.applyNegotiation_onlyLimits
    obtain ⟨hsend,_,hacknowledge⟩ := h.recoverable.sequences hstate
    exact ⟨hrecoverable,fun _ => hkept.state.trans hstate,outstanding_le_of_eq
      (hkept.sendSequence.trans hsend) (hkept.acknowledgeSequence.trans hacknowledge)⟩
  | connectResponded => exact ⟨hrecoverable,nofun,outstanding_le_of_eq rfl rfl⟩
  | disconnectRequested request state =>
    refine ⟨hrecoverable,?_,h.outstanding_le⟩
    intro hpending
    cases state.symm.trans (h.waiting hpending)
  | disconnectResponded => exact ⟨hrecoverable,fun _ => rfl,outstanding_le_of_eq rfl rfl⟩
  | dmResponded => exact ⟨hrecoverable,h.waiting,h.outstanding_le⟩
  | informationSent state canSend =>
    refine ⟨hrecoverable,h.waiting,(outstanding_sent session).trans ?_⟩
    have hfree : session.outstanding < session.windowSizeTransmit := by
      simpa [canSendInformationFrame,outstanding] using canSend
    exact UInt8.lt_iff_toNat_lt.mp hfree
  | receiveReadySent => exact h
  | informationReceived kind state expected accepted =>
    exact ⟨hrecoverable,h.waiting,(outstanding_acknowledged accepted).trans h.outstanding_le⟩
  | supervisoryReceived kind state accepted =>
    exact ⟨hrecoverable,h.waiting,(outstanding_acknowledged accepted).trans h.outstanding_le⟩
  | snrmRejected failed addresses kind role state =>
    exact ⟨hrecoverable,fun _ => state,h.outstanding_le⟩
  | snrmAccepted addresses kind role state =>
    exact ⟨hrecoverable,fun _ => state,outstanding_le_of_eq rfl rfl⟩
  | @uaConnected frame addresses kind state =>
    refine ⟨hrecoverable,?_,outstanding_le_of_eq rfl rfl⟩
    intro hpending
    have hkept := session.applyUa_onlyLimits frame.information
    cases state.symm.trans (h.waiting (hkept.connectResponsePending.symm.trans hpending))
  | uaDisconnected => exact ⟨hrecoverable,fun _ => rfl,outstanding_le_of_eq rfl rfl⟩
  | discReceived addresses kind state =>
    exact ⟨hrecoverable,h.waiting,h.outstanding_le⟩
  | dmReceived => exact ⟨hrecoverable,fun _ => rfl,outstanding_le_of_eq rfl rfl⟩

theorem inWindow_of_reachable (h : Reachable options session) : InWindow options session := by
  obtain ⟨operations,rfl⟩ := h
  apply machine.final_invariant (InWindow options)
  · intro session operation h
    exact h.step operation
  · exact ⟨recoverable_new options,nofun,outstanding_le_of_eq rfl rfl⟩

/-- A run that never leaves the connection. -/
def Staying (session : HdlcSession) (operations : List HdlcSessionOperation) : Prop :=
  machine.Along (fun session operation => (session.perform operation).2.state≠.disconnected)
    session operations

/-- Connected or about to disconnect. -/
def Established (session : HdlcSession) : Prop :=
  session.state=.connected ∨ session.state=.awaitingDisconnect

theorem Established.ne_disconnected (established : session.Established) :
    session.state≠.disconnected := by
  intro hstate
  obtain hconnected | hclosing := established
  · cases hstate.symm.trans hconnected
  · cases hstate.symm.trans hclosing

theorem Established.ne_awaitingConnection (established : session.Established) :
    session.state≠.awaitingConnection := by
  intro hstate
  obtain hconnected | hclosing := established
  · cases hstate.symm.trans hconnected
  · cases hstate.symm.trans hclosing

/-- No call puts other limits in force while the connection lasts. -/
theorem InWindow.adopted_none (h : InWindow options session) (established : session.Established)
    (operation : HdlcSessionOperation) : session.adopted operation=none := by
  cases operation with
  | buildConnectResponse =>
    apply if_neg
    intro ⟨_,hpending,_⟩
    exact established.ne_disconnected (h.waiting hpending)
  | receiveFrame frame =>
    apply if_neg
    intro ⟨_,_,hstate⟩
    exact established.ne_awaitingConnection hstate
  | _ => rfl

theorem Established.step (established : session.Established) (operation : HdlcSessionOperation)
    (stays : (session.perform operation).2.state≠.disconnected)
    (h : InWindow options session) : (session.perform operation).2.Established := by
  have heffect := session.perform_effect operation
  generalize session.perform operation=result at heffect stays ⊢
  obtain ⟨output,next⟩ := result
  cases heffect with
  | connectRequested request role state => exact absurd state established.ne_disconnected
  | connectResponseFailed failed role pending =>
    exact absurd (h.waiting pending) established.ne_disconnected
  | connectResponded role pending =>
    exact absurd (h.waiting pending) established.ne_disconnected
  | disconnectRequested => exact .inr rfl
  | disconnectResponded => exact absurd rfl stays
  | uaConnected addresses kind state => exact absurd state established.ne_awaitingConnection
  | uaDisconnected => exact absurd rfl stays
  | dmReceived => exact absurd rfl stays
  | _ => exact established

/-- The limits stay in force as long as the connection lasts. -/
theorem InWindow.staying (h : InWindow options session) (established : session.Established)
    {operations : List HdlcSessionOperation} (staying : session.Staying operations) :
    InWindow options (machine.final session operations) ∧
      (machine.final session operations).SameLimits session := by
  induction operations generalizing session with
  | nil => exact ⟨h,.refl session⟩
  | cons operation operations ih =>
    obtain ⟨stays,staying⟩ := staying
    have hsame := SameLimits.of_adopted_none session (h.adopted_none established operation)
    obtain ⟨hfinal,hlimits⟩ := ih (h.step operation) (established.step operation stays h) staying
    exact ⟨hfinal,hlimits.trans hsame⟩

/-- The protocol defaults are in force, and at most one I-frame is unacknowledged, until the
connection ends. -/
def Defaulted (session : HdlcSession) : Prop :=
  ∀ operations, session.Staying operations →
    (machine.final session operations).negotiatedLimits=defaultHdlcSessionNegotiationLimits ∧
      (machine.final session operations).outstanding.toNat ≤ 1

theorem InWindow.defaulted_iff (h : InWindow options session) (established : session.Established) :
    session.Defaulted ↔ session.negotiatedLimits=defaultHdlcSessionNegotiationLimits := by
  constructor
  · intro hdefaulted
    exact (hdefaulted [] trivial).1
  · intro hlimits operations staying
    obtain ⟨hfinal,hsame⟩ := h.staying established staying
    have hnegotiated := hsame.negotiated.trans hlimits
    have hwindow : (machine.final session operations).windowSizeTransmit=1 := by
      rw [hfinal.recoverable.window,hnegotiated]
      rfl
    have hle := hfinal.outstanding_le
    rw [hwindow] at hle
    exact ⟨hnegotiated,hle⟩

/-- A completed connection: what the SNRM carried, and both sides afterwards. Each side may be
called as often as it likes while it waits: the client before it hears the UA, the server before it
builds it. -/
inductive Connection (client server : HdlcSession) :
    List UInt8 → HdlcSession → HdlcSession → Prop
  | completed {operation : HdlcSessionOperation} {snrm ua : List UInt8}
      {requesting client' server' : HdlcSession} {request response : HdlcFrameBuffer}
      {limits limits' : HdlcCodecLimits} (waiting preparing : List HdlcSessionOperation)
      (asks : AsksToConnect operation)
      (requested : client.perform operation=((.ok,snrm),requesting))
      (waits : machine.Along (fun session operation =>
        (session.perform operation).2.state=.awaitingConnection) requesting waiting)
      (decodedRequest : decodeFrame (some snrm) snrm.length limits=.ok request)
      (kind : request.control.unnumberedKind=.ok .snrm)
      (accepted : (server.receiveFrame request).1=.ok)
      (prepares : machine.Along (fun session operation =>
        (session.perform operation).2.connectResponsePending=true ∧
          ¬ session.AcceptsSnrm operation) (server.receiveFrame request).2 preparing)
      (responded : (machine.final (server.receiveFrame request).2 preparing).buildConnectResponse=
        (.ok ua,server'))
      (decodedResponse : decodeFrame (some ua) ua.length limits'=.ok response)
      (confirmed : (machine.final requesting waiting).receiveFrame response=(.ok,client')) :
      Connection client server request.information client' server'

/-- No negotiation block: the bytes are user information only. -/
def NoBlock (information : List UInt8) : Prop :=
  ∃ proposed, parseSnrmInfoField information=.ok (proposed,0)

/-- A client that goes on waiting keeps its limits. -/
theorem waiting_limits (state : session.state=.awaitingConnection)
    {operations : List HdlcSessionOperation}
    (waits : machine.Along (fun session operation =>
      (session.perform operation).2.state=.awaitingConnection) session operations)
    (h : InWindow options session) :
    InWindow options (machine.final session operations) ∧
      (machine.final session operations).state=.awaitingConnection ∧
      (machine.final session operations).SameLimits session := by
  induction operations generalizing session with
  | nil => exact ⟨h,state,.refl session⟩
  | cons operation operations ih =>
    obtain ⟨hnext,waits⟩ := waits
    have hnone : session.adopted operation=none := by
      cases operation with
      | buildConnectResponse =>
        apply if_neg
        intro ⟨_,hpending,_⟩
        cases state.symm.trans (h.waiting hpending)
      | receiveFrame frame =>
        apply if_neg
        intro ⟨haddresses,hkind,_⟩
        rw [session.perform_ua haddresses (toOption_eq_some_iff.mp hkind) state] at hnext
        cases hnext
      | _ => rfl
    obtain ⟨hfinal,hstate,hlimits⟩ := ih hnext waits (h.step operation)
    exact ⟨hfinal,hstate,hlimits.trans (.of_adopted_none session hnone)⟩

/-- A server with no proposal to answer. -/
structure Unnegotiated (session : HdlcSession) : Prop where
  pending : session.connectResponsePending=true
  inactive : session.pendingNegotiation.active=false

theorem Unnegotiated.step (unnegotiated : session.Unnegotiated) {operation : HdlcSessionOperation}
    (pending : (session.perform operation).2.connectResponsePending=true)
    (accepts : ¬ session.AcceptsSnrm operation) (h : InWindow options session) :
    (session.perform operation).2.Unnegotiated ∧
      (session.perform operation).2.SameLimits session := by
  have hnone : session.adopted operation=none := by
    cases operation with
    | buildConnectResponse =>
      apply if_neg
      intro ⟨_,_,hactive⟩
      cases unnegotiated.inactive.symm.trans hactive
    | receiveFrame frame =>
      apply if_neg
      intro ⟨_,_,hstate⟩
      cases (h.waiting unnegotiated.pending).symm.trans hstate
    | _ => rfl
  refine ⟨⟨pending,?_⟩,.of_adopted_none session hnone⟩
  have heffect := session.perform_effect operation
  have hinactive := unnegotiated.inactive
  generalize session.perform operation=result at heffect ⊢
  obtain ⟨output,next⟩ := result
  cases heffect with
  | connectResponseFailed =>
    change session.applyNegotiation.pendingNegotiation.active=false
    rw [session.applyNegotiation_inactive hinactive]
    exact hinactive
  | connectResponded => rfl
  | snrmRejected => rfl
  | snrmAccepted addresses kind role state parsed =>
    exact absurd ⟨_,rfl,addresses,kind,role,state,_,parsed⟩ accepts
  | uaConnected addresses kind state =>
    cases (h.waiting unnegotiated.pending).symm.trans state
  | _ => exact hinactive

/-- Such a server keeps its limits until it answers. -/
theorem Unnegotiated.preparing (unnegotiated : session.Unnegotiated)
    {operations : List HdlcSessionOperation}
    (prepares : machine.Along (fun session operation =>
      (session.perform operation).2.connectResponsePending=true ∧
        ¬ session.AcceptsSnrm operation) session operations)
    (h : InWindow options session) :
    InWindow options (machine.final session operations) ∧
      (machine.final session operations).Unnegotiated ∧
      (machine.final session operations).SameLimits session := by
  induction operations generalizing session with
  | nil => exact ⟨h,unnegotiated,.refl session⟩
  | cons operation operations ih =>
    obtain ⟨⟨hpending,haccepts⟩,prepares⟩ := prepares
    obtain ⟨hnext,hsame⟩ := unnegotiated.step hpending haccepts h
    obtain ⟨hfinal,hlast,hlimits⟩ := ih hnext prepares (h.step operation)
    exact ⟨hfinal,hlast,hlimits.trans hsame⟩

theorem acceptSnrm_unnegotiated (session : HdlcSession) {proposed : SnrmParams}
    (information : List UInt8) :
    (session.acceptSnrm proposed 0 information).Unnegotiated ∧
      (session.acceptSnrm proposed 0 information).SameLimits session :=
  ⟨⟨rfl,rfl⟩,⟨rfl,rfl,rfl⟩⟩

/-- Its UA carries nothing. -/
theorem Unnegotiated.response (unnegotiated : session.Unnegotiated) {session' : HdlcSession}
    {ua : List UInt8} (h : session.buildConnectResponse=(.ok ua,session'))
    {limits : HdlcCodecLimits} {frame : HdlcFrameBuffer}
    (hdecode : decodeFrame (some ua) ua.length limits=.ok frame) : frame.information=[] := by
  obtain ⟨hbuilt,_⟩ := buildConnectResponse_ok h
  have hempty : session.connectResponseInfoField=[] := by
    rw [connectResponseInfoField,unnegotiated.inactive]
    rfl
  rw [hempty] at hbuilt
  obtain ⟨hfits,rfl⟩ := (session.applyNegotiation.buildFrameWith_eq_ok_iff uaControl (by simp)
    ua).mp hbuilt
  rw [decoded_eq_outgoing hfits hdecode]
  rfl

variable {client server client' server' : HdlcSession}
  {clientOptions serverOptions : HdlcSessionOptions}

/-- Without a negotiation block both sides keep the limits that were in force before. -/
theorem Connection.keeps {information : List UInt8}
    (connection : Connection client server information client' server')
    (noBlock : NoBlock information) (hclient : InWindow clientOptions client)
    (hserver : InWindow serverOptions server) :
    (InWindow clientOptions client' ∧ client'.Opened ∧ client'.SameLimits client) ∧
      InWindow serverOptions server' ∧ server'.Opened ∧ server'.SameLimits server := by
  obtain ⟨waiting,preparing,asks,requested,waits,decodedRequest,kind,accepted,prepares,responded,
    decodedResponse,confirmed⟩ := connection
  rename_i operation snrm ua requesting request response limits limits'
  obtain ⟨values,hvalues⟩ := noBlock
  obtain ⟨proposed,consumed,hparsed,hrole,hreceive⟩ := receiveFrame_snrm_ok kind accepted
  cases hvalues.symm.trans hparsed
  -- the server, from the SNRM to its UA
  have hreceived := hserver.step (.receiveFrame request)
  change InWindow _ (server.receiveFrame request).2 at hreceived
  rw [hreceive] at hreceived prepares responded
  obtain ⟨hunnegotiated,hsame⟩ := server.acceptSnrm_unnegotiated request.information
  obtain ⟨hprepared,hready,hkept⟩ := hunnegotiated.preparing prepares hreceived
  generalize machine.final _ preparing=prepared at responded hprepared hready hkept
  have hnegotiation : prepared.adopted .buildConnectResponse=none := by
    apply if_neg
    intro ⟨_,_,hactive⟩
    cases hready.inactive.symm.trans hactive
  have hresponse : (prepared.perform .buildConnectResponse).2=server' := by
    simp only [perform,builtOutput,responded]
  have hanswered := hprepared.step .buildConnectResponse
  have hanswer := SameLimits.of_adopted_none prepared hnegotiation
  rw [hresponse] at hanswered hanswer
  -- the client, from its SNRM to the UA
  have hrequesting := hclient.step operation
  obtain ⟨hoptions,hnegotiated,hawaiting⟩ := client.asksToConnect_keeps asks
  have hrequest : (client.perform operation).2.SameLimits client := by
    refine ⟨hoptions,hnegotiated,?_⟩
    rw [hrequesting.recoverable.window,hclient.recoverable.window,hnegotiated]
  rw [requested] at hrequesting hawaiting hrequest
  obtain ⟨hwaited,hstate,hwaitedLimits⟩ := waiting_limits (hawaiting rfl) waits hrequesting
  generalize machine.final requesting waiting=waited at confirmed hwaited hstate hwaitedLimits
  have hempty := hready.response responded decodedResponse
  have hua := decoded_response responded decodedResponse
  have hopened := receiveFrame_ua_opened hstate hua confirmed
  have hsilent : waited.adopted (.receiveFrame response)=none := by
    simp only [adopted,hempty]
    split <;> rfl
  have hconfirmed : (waited.perform (.receiveFrame response)).2=client' :=
    congrArg Prod.snd confirmed
  have hend := hwaited.step (.receiveFrame response)
  have hlast := SameLimits.of_adopted_none waited hsilent
  rw [hconfirmed] at hend hlast
  exact ⟨⟨hend,hopened,hlast.trans (hwaitedLimits.trans hrequest)⟩,hanswered,
    buildConnectResponse_opened responded,hanswer.trans (hkept.trans hsame)⟩

/-- After a connection without a negotiation block both sides have the protocol defaults, and at
most one unacknowledged I-frame, exactly when the defaults were in force on both sides before: by
the latest negotiation of each history, or by the configuration of an endpoint that never
negotiated. -/
theorem plainConnection_defaulted_iff (clientHistory serverHistory : List HdlcSessionOperation)
    {information : List UInt8}
    (connection : Connection (machine.final (new clientOptions) clientHistory)
      (machine.final (new serverOptions) serverHistory) information client' server')
    (noBlock : NoBlock information) :
    client'.Defaulted ∧ server'.Defaulted ↔
      limitsInForce clientOptions clientHistory=defaultHdlcSessionNegotiationLimits ∧
        limitsInForce serverOptions serverHistory=defaultHdlcSessionNegotiationLimits := by
  have hclient := inWindow_of_reachable (⟨clientHistory,rfl⟩ : Reachable clientOptions _)
  have hserver := inWindow_of_reachable (⟨serverHistory,rfl⟩ : Reachable serverOptions _)
  obtain ⟨⟨hclient',hclientOpened,hclientSame⟩,hserver',hserverOpened,hserverSame⟩ :=
    connection.keeps noBlock hclient hserver
  rw [hclient'.defaulted_iff (.inl hclientOpened.state),
    hserver'.defaulted_iff (.inl hserverOpened.state),hclientSame.negotiated,
    hserverSame.negotiated,negotiatedLimits_final,negotiatedLimits_final]

/-- The server of the sample association with other negotiation limits. -/
def serverWith (limits : HdlcSessionNegotiationLimits) : HdlcSession :=
  new { sampleOptions .server with negotiationLimits := limits }

/-- That server connected without a negotiation. -/
def connectedWith (limits : HdlcSessionNegotiationLimits) : HdlcSession :=
  ((serverWith limits).receiveFrame (sampleIncoming .server snrmControl [])).2.buildConnectResponse.2

theorem sample_connection (limits : HdlcSessionNegotiationLimits) :
    Connection (new (sampleOptions .client)) (serverWith limits) [] sampleClient
      (connectedWith limits) := by
  have hrequest : (sampleIncoming .server snrmControl []).Fits defaultHdlcCodecLimits := by decide
  have hresponse : (sampleIncoming .client uaControl []).Fits defaultHdlcCodecLimits := by decide
  have hresponded : ((serverWith limits).receiveFrame
      (sampleIncoming .server snrmControl [])).2.buildConnectResponse=
        (.ok (sampleIncoming .client uaControl []).wire,connectedWith limits) := by
    have hbuilt : ((serverWith limits).receiveFrame
        (sampleIncoming .server snrmControl [])).2.buildConnectResponse.1=
          .ok (sampleIncoming .client uaControl []).wire := by
      have hsize : ([] : List UInt8).length < 2^63 := by decide
      rw [buildConnectResponse_eq _ rfl rfl]
      exact (buildFrameWith_eq_ok_iff _ uaControl hsize _).mpr ⟨hresponse,rfl⟩
    rw [connectedWith,← hbuilt]
  exact .completed [] [] (.inl rfl) rfl trivial
    ((HdlcFrameBuffer.decodeFrame_image_eq_ok_iff _ _ hrequest.format_le _).mpr ⟨hrequest,rfl⟩)
    rfl rfl trivial hresponded
    ((HdlcFrameBuffer.decodeFrame_image_eq_ok_iff _ _ hresponse.format_le _).mpr ⟨hresponse,rfl⟩)
    rfl

/-- Two endpoints with the default configuration. -/
theorem plainConnection_defaulted_iff_sample :
    sampleClient.Defaulted ∧ (connectedWith ⟨0,0,0,0⟩).Defaulted ↔
      limitsInForce (sampleOptions .client) []=defaultHdlcSessionNegotiationLimits ∧
        limitsInForce (sampleOptions .server) []=defaultHdlcSessionNegotiationLimits :=
  plainConnection_defaulted_iff [] [] (sample_connection ⟨0,0,0,0⟩) ⟨_,rfl⟩

/-- A server configured for larger windows keeps them for a client that negotiated nothing. -/
theorem plainConnection_keeps_configuration :
    Connection (new (sampleOptions .client)) (serverWith ⟨256,256,3,3⟩) [] sampleClient
        (connectedWith ⟨256,256,3,3⟩) ∧ NoBlock [] ∧
      (connectedWith ⟨256,256,3,3⟩).negotiatedLimits=⟨256,256,3,3⟩ ∧
      ¬ (connectedWith ⟨256,256,3,3⟩).Defaulted := by
  refine ⟨sample_connection _,⟨_,rfl⟩,rfl,?_⟩
  intro hdefaulted
  exact absurd (hdefaulted [] trivial).1 (by decide)

end DlmsHdlc.HdlcSession
