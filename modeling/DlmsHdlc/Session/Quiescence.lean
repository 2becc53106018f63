import DlmsHdlc.Library.Handshake
import DlmsHdlc.Session.Defaults

/-! Two sessions over lossless first-in first-out channels, with every call on both sides, and the
handshake they run. The client is the initiator. -/
namespace DlmsHdlc.HdlcSession
open Machine
open Handshake (Side Phase Party Signal Configuration)

/-- A `Build` call of either side. -/
structure BuildCall where
  operation : HdlcSessionOperation
  builds : ∀ frame, operation≠.receiveFrame frame
  wellFormed : operation.WellFormed

/-- Both endpoints, and the frames on their way to each of them. -/
structure Link where
  session : Side → HdlcSession
  inbox : Side → List (List UInt8)

/-- A call, or the arrival of the oldest frame under the limits of the receiving decoder. -/
inductive LinkOperation
  | call (side : Side) (call : BuildCall)
  | deliver (side : Side) (limits : HdlcCodecLimits)

def optionsOf (clientOptions serverOptions : HdlcSessionOptions) : Side → HdlcSessionOptions
  | .initiator => clientOptions
  | .responder => serverOptions

namespace Link

/-- Two fresh sessions. -/
def start (clientOptions serverOptions : HdlcSessionOptions) : Link where
  session side := new (optionsOf clientOptions serverOptions side)
  inbox _ := []

/-- What is built joins the channel, and a frame leaves it when it is decoded and received. -/
def step (link : Link) : LinkOperation → (HdlcStatus × List UInt8) × Link
  | .call side call =>
    let result := (link.session side).perform call.operation
    (result.1,⟨Function.update link.session side result.2,
      if result.1.1=.ok then
        Function.update link.inbox side.other (link.inbox side.other ++ [result.1.2])
      else link.inbox⟩)
  | .deliver side limits =>
    match link.inbox side with
    | [] => ((.needMoreData,[]),link)
    | bytes :: rest =>
      match decodeFrame (some bytes) bytes.length limits with
      | .error status => ((status,[]),link)
      | .ok frame =>
        let result := (link.session side).perform (.receiveFrame frame)
        (result.1,⟨Function.update link.session side result.2,
          Function.update link.inbox side rest⟩)

def machine : Mealy Link LinkOperation (HdlcStatus × List UInt8) := ⟨step⟩

/-- Nothing is on its way, and no response is pending. -/
def Quiescent (link : Link) : Prop :=
  ∀ side, link.inbox side=[] ∧ (link.session side).connectResponsePending=false ∧
    (link.session side).disconnectResponsePending=false ∧
    (link.session side).dmResponsePending=false

/-- Both connected or both disconnected. -/
def Agreed (link : Link) : Prop :=
  (∀ side, (link.session side).state=.connected) ∨ ∀ side, (link.session side).state=.disconnected

/-- A DISC is on its way to this side. -/
def DiscUnderway (link : Link) (side : Side) : Prop :=
  ∃ bytes ∈ link.inbox side, ∃ limits frame,
    decodeFrame (some bytes) bytes.length limits=.ok frame ∧ frame.control.unnumberedKind=.ok .disc

/-- A side sends a DISC while one of the other side is on its way to it. -/
def Crosses (link : Link) : LinkOperation → Prop
  | .call side call => (link.session side).SendsDisc call.operation ∧ link.DiscUnderway side
  | .deliver _ _ => False

end Link

def phaseOf : HdlcSessionState → Phase
  | .disconnected => .idle
  | .awaitingConnection => .requesting
  | .connected => .established
  | .awaitingDisconnect => .releasing

/-- What a frame means to the handshake. -/
def signalOf (frame : HdlcFrameBuffer) : Option Signal :=
  match frame.control.unnumberedKind with
  | .ok .snrm => some .request
  | .ok .ua => some .confirm
  | .ok .disc => some .release
  | _ => none

/-- A frame as a session with these options builds it. -/
structure Built (options : HdlcSessionOptions) (frame : HdlcFrameBuffer) : Prop where
  outgoing : frame=(new options).outgoing frame.control frame.information
  format : frame.formatLength ≤ 2047
  snrm : frame.control.unnumberedKind=.ok .snrm →
    ∃ parsed, parseSnrmInfoField frame.information=.ok parsed
  dm : frame.control.unnumberedKind≠.ok .dm

def roleOf : Side → HdlcSessionRole
  | .initiator => .client
  | .responder => .server

theorem roleOf_injective : Function.Injective roleOf := by
  intro side other h
  cases side <;> cases other <;> first | rfl | cases h

/-- The session as a party of the handshake. -/
def partyOf (session : HdlcSession) : Party where
  phase := phaseOf session.state
  answering := session.connectResponsePending
  closing := session.disconnectResponsePending

theorem partyOf_congr {session next : HdlcSession} (same : OnlyLimits session next) :
    partyOf next=partyOf session := by
  simp only [partyOf,same.state,same.connectResponsePending,same.disconnectResponsePending]

/-- What every session of the link keeps: no SNRM of the other side is ever rejected. -/
structure Plays (options : HdlcSessionOptions) (session : HdlcSession) : Prop where
  inWindow : InWindow options session
  dm : session.dmResponsePending=false

/-- The frames in a channel carry the signals of the handshake, and others between them. -/
def Conveys (options : HdlcSessionOptions) (inbox : List (List UInt8)) (signals : List Signal) :
    Prop :=
  ∃ frames : List HdlcFrameBuffer, inbox=frames.map HdlcFrameBuffer.wire ∧
    signals=frames.filterMap signalOf ∧ ∀ frame ∈ frames, Built options frame

theorem phaseOf_injective : Function.Injective phaseOf := by
  intro state state' h
  cases state <;> cases state' <;> first | rfl | cases h

@[simp] theorem signalOf_snrm (session : HdlcSession) (information : List UInt8) :
    signalOf (session.outgoing snrmControl information)=some .request := by
  simp only [signalOf,outgoing,snrmControl_kind]
@[simp] theorem signalOf_ua (session : HdlcSession) (information : List UInt8) :
    signalOf (session.outgoing uaControl information)=some .confirm := by
  simp only [signalOf,outgoing,uaControl_kind]
@[simp] theorem signalOf_disc (session : HdlcSession) (information : List UInt8) :
    signalOf (session.outgoing discControl information)=some .release := by
  simp only [signalOf,outgoing,discControl_kind]

theorem signalOf_eq_none {frame : HdlcFrameBuffer} (h : frame.control.frameKind≠.unnumbered) :
    signalOf frame=none := by
  rw [signalOf,HdlcControl.unnumberedKind_of_ne h]

/-- A DISC is sent exactly by the step from connected to waiting for its UA. -/
theorem sendsDisc_iff (session : HdlcSession) (operation : HdlcSessionOperation) :
    session.SendsDisc operation ↔ session.state=.connected ∧
      (session.perform operation).2.state=.awaitingDisconnect := by
  constructor
  · intro sends
    refine ⟨sends.1,?_⟩
    rw [session.perform_sendsDisc sends]
  · rintro ⟨hstate,hnext⟩
    have heffect := session.perform_effect operation
    generalize session.perform operation=result at heffect hnext
    obtain ⟨output,next⟩ := result
    cases heffect with
    | connectRequested => cases hnext
    | connectResponseFailed =>
      have hsame := session.applyNegotiation_onlyLimits.state.symm.trans hnext
      cases hstate.symm.trans hsame
    | connectResponded => cases hnext
    | disconnectRequested request state built => exact ⟨state,_,_,request,_,built⟩
    | disconnectResponded => cases hnext
    | uaConnected => cases hnext
    | uaDisconnected => cases hnext
    | dmReceived => cases hnext
    | _ => cases hstate.symm.trans hnext

variable {options peer : HdlcSessionOptions} {session : HdlcSession} {side : Side}

/-- A client's SNRM is one a server can read. -/
theorem connectInfoField_parses (h : session.Configured options) {includeNegotiation : Bool}
    {information : Pointer} {size : UInt64}
    (hcall : includeNegotiation=true ∨ information=none) :
    ∃ parsed, parseSnrmInfoField
      (session.connectInfoField includeNegotiation information size)=.ok parsed := by
  cases includeNegotiation with
  | true =>
    obtain ⟨userInformation,hinfo,_⟩ := connectInfoField_block h information size
    rw [hinfo]
    exact ⟨_,parseSnrmInfoField_coded (window_toNat_le _) (window_toNat_le _) userInformation⟩
  | false =>
    obtain htrue | rfl := hcall
    · cases htrue
    · exact ⟨_,rfl⟩

/-- A connect request that is built carries such a field. -/
theorem asksToConnect_built (h : session.Configured options) {operation : HdlcSessionOperation}
    (valid : operation.WellFormed) (asks : AsksToConnect operation)
    (hok : (session.perform operation).1.1=.ok) :
    ∃ infoField, (∃ parsed, parseSnrmInfoField infoField=.ok parsed) ∧ infoField.length < 2^63 ∧
      session.buildFrameWith kSnrmControl infoField=.ok (session.perform operation).1.2 := by
  generalize hresult : session.perform operation=result at hok ⊢
  obtain ⟨⟨status,snrm⟩,requesting⟩ := result
  cases hok
  obtain ⟨_,_,_,_,hcall,hlength,hbuilt⟩ := asksToConnect_ok valid asks hresult
  exact ⟨_,connectInfoField_parses h hcall,hlength,hbuilt⟩

theorem built_outgoing (h : session.Configured options) {control : HdlcControl}
    {information : List UInt8} {limits : HdlcCodecLimits}
    (hfits : (session.outgoing control information).Fits limits)
    (snrm : control.unnumberedKind=.ok .snrm →
      ∃ parsed, parseSnrmInfoField information=.ok parsed)
    (dm : control.unnumberedKind≠.ok .dm) : Built options (session.outgoing control information) where
  outgoing := by rw [h.outgoing]; rfl
  format := hfits.format_le
  snrm := snrm
  dm := dm

/-- Of the unnumbered frames only a SNRM has to carry anything, and a DM is never built. -/
theorem built_unnumbered (h : session.Configured options) {control : HdlcControl}
    {information : List UInt8} {limits : HdlcCodecLimits} {kind : HdlcUnnumberedKind}
    (hfits : (session.outgoing control information).Fits limits)
    (hkind : control.unnumberedKind=.ok kind) (snrm : kind≠.snrm) (dm : kind≠.dm) :
    Built options (session.outgoing control information) := by
  apply built_outgoing h hfits <;> rw [hkind]
  · intro hsame
    cases hsame
    exact absurd rfl snrm
  · intro hsame
    cases hsame
    exact absurd rfl dm

theorem built_numbered (h : session.Configured options) {control : HdlcControl}
    {information : List UInt8} {limits : HdlcCodecLimits}
    (hfits : (session.outgoing control information).Fits limits)
    (hkind : control.frameKind≠.unnumbered) :
    Built options (session.outgoing control information) := by
  apply built_outgoing h hfits <;> rw [HdlcControl.unnumberedKind_of_ne hkind]
  · intro hsame
    cases hsame
  · intro hsame
    cases hsame

/-- What a `Build` call comes to: nothing, a frame without meaning to the handshake, or a call of
the party with the signal the frame carries. -/
inductive Outcome (options : HdlcSessionOptions) (side : Side) (session next : HdlcSession) :
    HdlcStatus × List UInt8 → Prop
  | failed {output : HdlcStatus × List UInt8} (failed : output.1≠.ok)
      (same : partyOf next=partyOf session) : Outcome options side session next output
  | sent {frame : HdlcFrameBuffer} (built : Built options frame) (silent : signalOf frame=none)
      (same : partyOf next=partyOf session) : Outcome options side session next (.ok,frame.wire)
  | signalled {frame : HdlcFrameBuffer} {signal : Signal} (built : Built options frame)
      (signals : signalOf frame=some signal) (call : Handshake.Call)
      (acts : (partyOf session).act side call=some (partyOf next,signal)) :
      Outcome options side session next (.ok,frame.wire)

theorem Plays.build (h : Plays options session) (role : options.role=roleOf side)
    (call : BuildCall) : Plays options (session.perform call.operation).2 ∧
      Outcome options side session (session.perform call.operation).2
        (session.perform call.operation).1 := by
  obtain ⟨operation,builds,valid⟩ := call
  have hconfigured := h.inWindow.recoverable.configured
  have hnext := h.inWindow.step operation
  have hasks := asksToConnect_built hconfigured valid
  have heffect := session.perform_effect operation
  have hdm := h.dm
  dsimp only
  generalize session.perform operation=result at heffect hasks hnext ⊢
  obtain ⟨output,next⟩ := result
  cases heffect with
  | refused failed => exact ⟨h,.failed failed rfl⟩
  | connectRequested request hclient state =>
    obtain ⟨infoField,hparsed,hlength,hbuilt⟩ := hasks request rfl
    obtain ⟨hfits,rfl⟩ := (session.buildFrameWith_eq_ok_iff snrmControl hlength _).mp hbuilt
    have hside : side=.initiator :=
      roleOf_injective (role.symm.trans (hconfigured.role.symm.trans hclient))
    have hbuiltFrame := built_outgoing hconfigured hfits (fun _ => hparsed) (by
      rw [snrmControl_kind]
      decide)
    refine ⟨⟨hnext,hdm⟩,.signalled hbuiltFrame (signalOf_snrm _ _) .request ?_⟩
    simp only [Party.act,partyOf,hside,state,phaseOf,and_self,↓reduceIte]
    rfl
  | connectResponseFailed failed =>
    have hkept := session.applyNegotiation_onlyLimits
    exact ⟨⟨hnext,hkept.dmResponsePending.trans hdm⟩,.failed failed (partyOf_congr hkept)⟩
  | connectResponded hserver pending hbuilt =>
    have hlength := session.connectResponseInfoField_length
    have happlied : session.applyNegotiation.Configured options := hnext.recoverable.configured
    obtain ⟨hfits,rfl⟩ := (session.applyNegotiation.buildFrameWith_eq_ok_iff uaControl
      (by omega) _).mp hbuilt
    have hbuiltFrame := built_unnumbered happlied hfits uaControl_kind (by decide) (by decide)
    have hkept := session.applyNegotiation_onlyLimits
    refine ⟨⟨hnext,hkept.dmResponsePending.trans hdm⟩,.signalled hbuiltFrame (signalOf_ua _ _)
      .answer ?_⟩
    simp only [Party.act,partyOf,pending,↓reduceIte,resetSequences,
      hkept.disconnectResponsePending,phaseOf]
  | disconnectRequested request state built =>
    have hvalid := validPointer_disconnectRequest valid request
    obtain ⟨hfits,rfl⟩ := (session.buildFrame_eq_ok_iff discControl _ _ hvalid.1 hvalid.2 _).mp
      built
    have hbuiltFrame := built_unnumbered hconfigured hfits discControl_kind (by decide) (by decide)
    refine ⟨⟨hnext,hdm⟩,.signalled hbuiltFrame (signalOf_disc _ _) .release ?_⟩
    simp only [Party.act,partyOf,state,phaseOf,↓reduceIte]
  | disconnectResponded pending built =>
    obtain ⟨hfits,rfl⟩ := (session.buildFrame_eq_ok_iff uaControl none 0 (by decide) rfl _).mp built
    have hbuiltFrame := built_unnumbered hconfigured hfits uaControl_kind (by decide) (by decide)
    refine ⟨⟨hnext,hdm⟩,.signalled hbuiltFrame (signalOf_ua _ _) .close ?_⟩
    simp only [Party.act,partyOf,pending,↓reduceIte,resetSequences,phaseOf]
  | dmResponded pending => cases hdm.symm.trans pending
  | @informationSent information size pollFinal output state canSend built =>
    obtain ⟨hfits,rfl⟩ := (session.buildFrame_eq_ok_iff (informationControl _ _ _) _ _ valid.1
      valid.2 _).mp built
    exact ⟨⟨hnext,hdm⟩,.sent (built_numbered hconfigured hfits (by simp))
      (signalOf_eq_none (by simp [outgoing])) rfl⟩
  | @receiveReadySent pollFinal output state built =>
    dsimp only at h hconfigured built ⊢
    obtain ⟨hfits,rfl⟩ := (buildFrame_eq_ok_iff _ (receiveReadyControl _ _) none 0 (by decide) rfl
      _).mp built
    exact ⟨h,.sent (built_numbered hconfigured hfits (by simp))
      (signalOf_eq_none (by simp [outgoing])) rfl⟩
  | _ => exact absurd rfl (builds _)

section Receiving
variable (h : Plays options session)
include h

theorem Plays.receive_snrm (information : List UInt8) (role : options.role=roleOf side)
    (parses : ∃ parsed, parseSnrmInfoField information=.ok parsed) :
    (session.receiveSnrm information).2.dmResponsePending=false ∧
      partyOf (session.receiveSnrm information).2=(partyOf session).receive side .request := by
  have hrole := h.inWindow.recoverable.configured.role.trans role
  obtain ⟨⟨proposed,consumed⟩,hparsed⟩ := parses
  by_cases hguard : session.options.role=.server ∧ session.state=.disconnected
  · obtain ⟨hserver,hstate⟩ := hguard
    have hside : side=.responder := roleOf_injective (hrole.symm.trans hserver)
    rw [session.receiveSnrm_accepted hserver hstate hparsed]
    refine ⟨h.dm,?_⟩
    simp only [Party.receive,partyOf,hside,hstate,phaseOf,and_self,↓reduceIte,acceptSnrm,
      clearForSnrm,resetSequences]
  · have hphase : ¬ (side=.responder ∧ phaseOf session.state=.idle) := by
      rintro ⟨rfl,hidle⟩
      exact hguard ⟨hrole,phaseOf_injective hidle⟩
    rw [receiveSnrm,if_pos (by rwa [not_and_or] at hguard)]
    refine ⟨h.dm,?_⟩
    simp only [Party.receive,partyOf,hphase,↓reduceIte]

theorem Plays.receive_ua (information : List UInt8) :
    (session.receiveUa information).2.dmResponsePending=false ∧
      partyOf (session.receiveUa information).2=(partyOf session).receive side .confirm := by
  obtain ⟨_,_,_,_,hconnect,hdisconnect,hdm⟩ := session.applyUa_onlyLimits information
  cases hstate : session.state with
  | awaitingConnection =>
    simp only [receiveUa,hstate,resetSequences,Party.receive,partyOf,phaseOf,hconnect,hdisconnect,
      hdm]
    exact ⟨h.dm,trivial⟩
  | awaitingDisconnect =>
    simp only [receiveUa,hstate,resetSequences,Party.receive,partyOf,phaseOf]
    exact ⟨h.dm,trivial⟩
  | _ =>
    simp only [receiveUa,hstate,Party.receive,partyOf,phaseOf]
    exact ⟨h.dm,trivial⟩

theorem Plays.receive_disc (information : List UInt8) :
    (session.receiveDisc information).2.dmResponsePending=false ∧
      partyOf (session.receiveDisc information).2=(partyOf session).receive side .release := by
  by_cases hstate : session.state=.connected
  · simp only [receiveDisc,hstate,ne_eq,not_true_eq_false,↓reduceIte,Party.receive,partyOf,phaseOf]
    exact ⟨h.dm,trivial⟩
  · have hphase : phaseOf session.state≠.established := fun hphase =>
      hstate (phaseOf_injective hphase)
    simp only [receiveDisc,hstate,ne_eq,not_false_eq_true,↓reduceIte,Party.receive,partyOf,hphase]
    exact ⟨h.dm,trivial⟩

/-- A frame the other side built is received as its signal, or changes nothing. -/
theorem Plays.receive (role : options.role=roleOf side)
    (peers : (new peer).remoteAddress=(new options).localAddress ∧
      (new peer).localAddress=(new options).remoteAddress)
    {frame : HdlcFrameBuffer} (built : Built peer frame) :
    Plays options (session.perform (.receiveFrame frame)).2 ∧
      partyOf (session.perform (.receiveFrame frame)).2=
        (signalOf frame).elim (partyOf session) ((partyOf session).receive side) := by
  have hnext := h.inWindow.step (.receiveFrame frame)
  have haddresses : session.incomingAddressesMatch frame=true := by
    have hincoming := incoming_addresses h.inWindow.recoverable.configured frame.control
      frame.information
    unfold incoming at hincoming
    rw [← peers.1,← peers.2] at hincoming
    rw [built.outgoing]
    exact hincoming
  cases hkind : frame.control.unnumberedKind with
  | error status =>
    have heffect := session.perform_effect (.receiveFrame frame)
    simp only [signalOf,hkind,Option.elim_none]
    generalize session.perform (.receiveFrame frame)=result at heffect hnext ⊢
    obtain ⟨output,next⟩ := result
    cases heffect with
    | refused => exact ⟨h,rfl⟩
    | connectRequested request => simp at request
    | disconnectRequested request => simp at request
    | informationReceived => exact ⟨⟨hnext,h.dm⟩,rfl⟩
    | supervisoryReceived => exact ⟨⟨hnext,h.dm⟩,rfl⟩
    | snrmRejected failed addresses kind => cases hkind.symm.trans kind
    | snrmAccepted addresses kind => cases hkind.symm.trans kind
    | uaConnected addresses kind => cases hkind.symm.trans kind
    | uaDisconnected addresses kind => cases hkind.symm.trans kind
    | discReceived addresses kind => cases hkind.symm.trans kind
    | dmReceived addresses kind => cases hkind.symm.trans kind
  | ok kind =>
    have hreceive := session.receiveFrame_unnumbered haddresses hkind
    simp only [perform,hreceive] at hnext ⊢
    cases kind with
    | snrm =>
      simp only [signalOf,hkind,Option.elim_some]
      obtain ⟨hdm,hparty⟩ := h.receive_snrm frame.information role (built.snrm hkind)
      exact ⟨⟨hnext,hdm⟩,hparty⟩
    | ua =>
      simp only [signalOf,hkind,Option.elim_some]
      obtain ⟨hdm,hparty⟩ := h.receive_ua frame.information
      exact ⟨⟨hnext,hdm⟩,hparty⟩
    | disc =>
      simp only [signalOf,hkind,Option.elim_some]
      obtain ⟨hdm,hparty⟩ := h.receive_disc frame.information
      exact ⟨⟨hnext,hdm⟩,hparty⟩
    | dm => exact absurd hkind built.dm
    | _ =>
      simp only [signalOf,hkind,Option.elim_none]
      exact ⟨h,trivial⟩

end Receiving

theorem conveys_append {inbox : List (List UInt8)} {signals : List Signal}
    (h : Conveys options inbox signals) {frame : HdlcFrameBuffer} (built : Built options frame) :
    Conveys options (inbox ++ [frame.wire]) (signals ++ (signalOf frame).toList) := by
  obtain ⟨frames,rfl,rfl,hbuilt⟩ := h
  refine ⟨frames ++ [frame],?_,?_,?_⟩
  · rw [List.map_append]
    rfl
  · rw [List.filterMap_append]
    cases hsignal : signalOf frame <;> simp [hsignal]
  · intro member hmember
    rw [List.mem_append,List.mem_singleton] at hmember
    obtain hold | rfl := hmember
    · exact hbuilt member hold
    · exact built

theorem conveys_cons {bytes : List UInt8} {rest : List (List UInt8)} {signals : List Signal}
    (h : Conveys options (bytes::rest) signals) :
    ∃ frame signals', bytes=frame.wire ∧ Built options frame ∧
      signals=(signalOf frame).toList ++ signals' ∧ Conveys options rest signals' := by
  obtain ⟨frames,hinbox,rfl,hbuilt⟩ := h
  cases frames with
  | nil => cases hinbox
  | cons frame frames =>
    obtain ⟨rfl,rfl⟩ := List.cons.inj hinbox
    refine ⟨frame,frames.filterMap signalOf,rfl,hbuilt frame List.mem_cons_self,?_,frames,rfl,rfl,
      fun member hmember => hbuilt member (List.mem_cons_of_mem _ hmember)⟩
    cases hsignal : signalOf frame <;> simp [hsignal]

/-- A built frame is decoded as itself, under the default limits for example. -/
theorem Built.decode {frame : HdlcFrameBuffer} (built : Built options frame) :
    decodeFrame (some frame.wire) frame.wire.length defaultHdlcCodecLimits=.ok frame := by
  have hformat := built.format
  have hlength : frame.formatLength=5+frame.destination.encodedSize+frame.source.encodedSize+
      (if frame.information=[] then 0 else 2)+frame.information.length := rfl
  have hframe : (effectiveMaximumFrameSize defaultHdlcCodecLimits).toNat=2049 := rfl
  apply (frame.decodeFrame_image_eq_ok_iff _ hformat _).mpr ⟨⟨?_,hformat,?_⟩,rfl⟩
  · rw [effectiveMaximumInformationFieldSize_toNat rfl,hframe]
    by_cases hempty : frame.information=[]
    · simp [hempty]
    · rw [if_neg hempty] at hlength
      omega
  · rw [hframe]
    omega

theorem signalOf_eq_release_iff {frame : HdlcFrameBuffer} :
    signalOf frame=some .release ↔ frame.control.unnumberedKind=.ok .disc := by
  unfold signalOf
  constructor
  · intro h
    split at h <;> first | assumption | cases h
  · intro h
    rw [h]

/-- The link shows the configuration. -/
structure Shows (options : Side → HdlcSessionOptions) (link : Link) (c : Configuration) :
    Prop where
  plays : ∀ side, Plays (options side) (link.session side)
  party : ∀ side, c.party side=partyOf (link.session side)
  inbox : ∀ side, Conveys (options side.other) (link.inbox side) (c.inbox side)

section Simulation
variable {options : Side → HdlcSessionOptions} {link : Link} {c : Configuration}

/-- Each side knows its role and the addresses of the other. -/
structure Mirrored (options : Side → HdlcSessionOptions) : Prop where
  role : ∀ side, (options side).role=roleOf side
  peers : ∀ side : Side, (new (options side.other)).remoteAddress=(new (options side)).localAddress ∧
    (new (options side.other)).localAddress=(new (options side)).remoteAddress

theorem Shows.discUnderway_iff (h : Shows options link c) (side : Side) :
    link.DiscUnderway side ↔ .release ∈ c.inbox side := by
  obtain ⟨frames,hinbox,hsignals,hbuilt⟩ := h.inbox side
  rw [Link.DiscUnderway,hinbox,hsignals]
  simp only [List.mem_map,List.mem_filterMap,signalOf_eq_release_iff]
  constructor
  · rintro ⟨_,⟨frame,hframe,rfl⟩,limits,decoded,hdecode,hkind⟩
    obtain ⟨_,rfl⟩ := (frame.decodeFrame_image_eq_ok_iff limits (hbuilt frame hframe).format
      decoded).mp hdecode
    exact ⟨decoded,hframe,hkind⟩
  · rintro ⟨frame,hframe,hkind⟩
    exact ⟨_,⟨frame,hframe,rfl⟩,_,frame,(hbuilt frame hframe).decode,hkind⟩

/-- One session and one channel change. -/
theorem Shows.update (h : Shows options link c) {side : Side} {next : HdlcSession} (target : Side)
    (plays : Plays (options side) next) {inbox : List (List UInt8)} {signals : List Signal}
    (conveys : Conveys (options target.other) inbox signals) :
    Shows options ⟨Function.update link.session side next,Function.update link.inbox target inbox⟩
      ⟨Function.update c.party side (partyOf next),Function.update c.inbox target signals⟩ where
  plays other := by
    by_cases hother : other=side
    · subst hother
      simpa using plays
    · simpa [hother] using h.plays other
  party other := by
    by_cases hother : other=side
    · subst hother
      simp
    · simpa [hother] using h.party other
  inbox other := by
    by_cases hother : other=target
    · subst hother
      simpa using conveys
    · simpa [hother] using h.inbox other

/-- A change the handshake does not see. -/
theorem Shows.unchanged (h : Shows options link c) {side : Side} {next : HdlcSession}
    (same : partyOf next=partyOf (link.session side)) (target : Side) :
    (⟨Function.update c.party side (partyOf next),
      Function.update c.inbox target (c.inbox target)⟩ : Configuration)=c := by
  rw [same,← h.party side,Function.update_eq_self,Function.update_eq_self]

/-- What a step of the link is in the handshake: nothing, or a step that crosses exactly when the
step of the link does. -/
def Simulated (options : Side → HdlcSessionOptions) (link : Link) (c : Configuration)
    (operation : LinkOperation) : Prop :=
  ∃ d, Shows options (link.step operation).2 d ∧
    (d=c ∧ ¬ link.Crosses operation ∨
      ∃ action, d ∈ c.step action ∧ (c.Crosses action ↔ link.Crosses operation))

theorem Shows.call (h : Shows options link c) (mirrored : Mirrored options) (side : Side)
    (call : BuildCall) : Simulated options link c (.call side call) := by
  obtain ⟨hplays,outcome⟩ := (h.plays side).build (mirrored.role side) call
  have hsends := (link.session side).sendsDisc_iff call.operation
  have hphases : (link.session side).SendsDisc call.operation ↔
      (c.party side).phase=.established ∧
        (partyOf ((link.session side).perform call.operation).2).phase=.releasing := by
    rw [hsends,h.party side]
    exact and_congr (phaseOf_injective.eq_iff (b := .connected)).symm
      (phaseOf_injective.eq_iff (b := .awaitingDisconnect)).symm
  have hquiet : partyOf ((link.session side).perform call.operation).2=
      partyOf (link.session side) → ¬ link.Crosses (.call side call) := by
    intro hsame ⟨hdisc,_⟩
    obtain ⟨hbefore,hafter⟩ := hphases.mp hdisc
    rw [hsame,← h.party side,hbefore] at hafter
    cases hafter
  have hstep : (link.step (.call side call)).2=
      ⟨Function.update link.session side ((link.session side).perform call.operation).2,
        if ((link.session side).perform call.operation).1.1=.ok then
          Function.update link.inbox side.other (link.inbox side.other ++
            [((link.session side).perform call.operation).1.2])
        else link.inbox⟩ := rfl
  unfold Simulated
  rw [hstep]
  generalize (link.session side).perform call.operation=result at hplays outcome hphases hquiet ⊢
  obtain ⟨output,next⟩ := result
  have hother : side.other.other=side := by cases side <;> rfl
  have hinbox := h.inbox side.other
  rw [hother] at hinbox
  cases outcome with
  | failed failed same =>
    have hupdated := h.update side hplays (h.inbox side)
    rw [h.unchanged same,Function.update_eq_self] at hupdated
    rw [if_neg failed]
    exact ⟨c,hupdated,.inl ⟨rfl,hquiet same⟩⟩
  | sent built silent same =>
    have hconveys := conveys_append hinbox built
    rw [silent,Option.toList_none,List.append_nil] at hconveys
    have hupdated := h.update side.other hplays (by rw [hother]; exact hconveys)
    rw [h.unchanged same] at hupdated
    exact ⟨c,hupdated,.inl ⟨rfl,hquiet same⟩⟩
  | @signalled frame signal built signals action acts =>
    have hconveys := conveys_append hinbox built
    rw [signals,Option.toList_some] at hconveys
    have hupdated := h.update side.other hplays (by rw [hother]; exact hconveys)
    rw [← h.party side] at acts
    refine ⟨_,hupdated,.inr ⟨.call side action,?_,?_⟩⟩
    · simp only [Configuration.step,acts,Option.map_some,Option.mem_def]
    · rw [c.crosses_call_iff,Party.act_release_iff acts,Link.Crosses,hphases,
        h.discUnderway_iff side]
      tauto

theorem deliver_error {side : Side} {bytes : List UInt8} {rest : List (List UInt8)}
    {limits : HdlcCodecLimits} {status : HdlcStatus} (hinbox : link.inbox side=bytes::rest)
    (hdecode : decodeFrame (some bytes) bytes.length limits=.error status) :
    (link.step (.deliver side limits)).2=link := by
  simp only [Link.step,hinbox,hdecode]

theorem deliver_ok {side : Side} {bytes : List UInt8} {rest : List (List UInt8)}
    {limits : HdlcCodecLimits} {frame : HdlcFrameBuffer} (hinbox : link.inbox side=bytes::rest)
    (hdecode : decodeFrame (some bytes) bytes.length limits=.ok frame) :
    (link.step (.deliver side limits)).2=
      ⟨Function.update link.session side ((link.session side).perform (.receiveFrame frame)).2,
        Function.update link.inbox side rest⟩ := by
  simp only [Link.step,hinbox,hdecode]

theorem Shows.deliver (h : Shows options link c) (mirrored : Mirrored options) (side : Side)
    (limits : HdlcCodecLimits) : Simulated options link c (.deliver side limits) := by
  have hinbox := h.inbox side
  unfold Simulated
  cases hbytes : link.inbox side with
  | nil =>
    have hstep : (link.step (.deliver side limits)).2=link := by simp only [Link.step,hbytes]
    rw [hstep]
    exact ⟨c,h,.inl ⟨rfl,id⟩⟩
  | cons bytes rest =>
    rw [hbytes] at hinbox
    obtain ⟨frame,signals,rfl,built,hsignals,hrest⟩ := conveys_cons hinbox
    cases hdecode : decodeFrame (some frame.wire) frame.wire.length limits with
    | error status =>
      rw [deliver_error hbytes hdecode]
      exact ⟨c,h,.inl ⟨rfl,id⟩⟩
    | ok decoded =>
      rw [deliver_ok hbytes hdecode]
      obtain ⟨_,rfl⟩ := (frame.decodeFrame_image_eq_ok_iff limits built.format decoded).mp hdecode
      obtain ⟨hplays,hparty⟩ := (h.plays side).receive (mirrored.role side) (mirrored.peers side)
        built
      have hupdated := h.update side hplays hrest
      refine ⟨_,hupdated,?_⟩
      cases hsignal : signalOf decoded with
      | none =>
        left
        rw [hsignal,Option.elim_none] at hparty
        rw [hsignal,Option.toList_none,List.nil_append] at hsignals
        rw [← hsignals]
        exact ⟨h.unchanged hparty side,id⟩
      | some signal =>
        right
        rw [hsignal,Option.elim_some,← h.party side] at hparty
        rw [hsignal,Option.toList_some,List.singleton_append] at hsignals
        refine ⟨.deliver side,?_,Iff.rfl⟩
        simp only [Configuration.step,hsignals,hparty,Option.mem_def]

theorem Shows.simulated (h : Shows options link c) (mirrored : Mirrored options)
    (operation : LinkOperation) : Simulated options link c operation := by
  cases operation with
  | call side call => exact h.call mirrored side call
  | deliver side limits => exact h.deliver mirrored side limits

/-- The link shows one of these configurations. -/
def ShowsOne (options : Side → HdlcSessionOptions) (configurations : List Configuration)
    (link : Link) : Prop :=
  ∃ c ∈ configurations, Shows options link c

open Classical in
theorem ShowsOne.orderly_step (h : ShowsOne options Handshake.orderly link)
    (mirrored : Mirrored options) (operation : LinkOperation) :
    ShowsOne options (if link.Crosses operation then Handshake.crossed else Handshake.orderly)
      (link.step operation).2 := by
  obtain ⟨c,hc,hshows⟩ := h
  obtain ⟨d,hd,⟨rfl,hcrosses⟩ | ⟨action,hstep,hcrosses⟩⟩ := hshows.simulated mirrored operation
  · rw [if_neg hcrosses]
    exact ⟨d,hc,hd⟩
  · have hmem := Handshake.orderly_step c hc action d hstep
    simp only [hcrosses] at hmem
    exact ⟨d,hmem,hd⟩

theorem ShowsOne.crossed_step (h : ShowsOne options Handshake.crossed link)
    (mirrored : Mirrored options) (operation : LinkOperation) :
    ShowsOne options Handshake.crossed (link.step operation).2 := by
  obtain ⟨c,hc,hshows⟩ := h
  obtain ⟨d,hd,⟨rfl,_⟩ | ⟨action,hstep,_⟩⟩ := hshows.simulated mirrored operation
  · exact ⟨d,hc,hd⟩
  · exact ⟨d,Handshake.crossed_step c hc action d hstep,hd⟩

/-- A run stays orderly until the first crossing, and is stuck from there on. -/
theorem ShowsOne.run (h : ShowsOne options Handshake.orderly link) (mirrored : Mirrored options)
    (operations : List LinkOperation) :
    (Link.machine.Along (fun link operation => ¬ link.Crosses operation) link operations →
      ShowsOne options Handshake.orderly (Link.machine.final link operations)) ∧
    (¬ Link.machine.Along (fun link operation => ¬ link.Crosses operation) link operations →
      ShowsOne options Handshake.crossed (Link.machine.final link operations)) := by
  induction operations generalizing link with
  | nil => exact ⟨fun _ => h,fun hcrosses => absurd trivial hcrosses⟩
  | cons operation operations ih =>
    have hstep := h.orderly_step mirrored operation
    by_cases hcrosses : link.Crosses operation
    · rw [if_pos hcrosses] at hstep
      refine ⟨fun halong => absurd hcrosses halong.1,fun _ => ?_⟩
      apply Link.machine.final_invariant (ShowsOne options Handshake.crossed) _ hstep
      intro link operation h
      exact h.crossed_step mirrored operation
    · rw [if_neg hcrosses] at hstep
      obtain ⟨horderly,hcrossed⟩ := ih hstep
      exact ⟨fun halong => horderly halong.2,fun halong => hcrossed fun hrest =>
        halong ⟨hcrosses,hrest⟩⟩

theorem Shows.quiescent (h : Shows options link c) (quiescent : link.Quiescent) :
    c.Quiescent := by
  intro side
  obtain ⟨hinbox,hconnect,hdisconnect,_⟩ := quiescent side
  obtain ⟨frames,hframes,hsignals,_⟩ := h.inbox side
  rw [hinbox] at hframes
  cases List.map_eq_nil_iff.mp hframes.symm
  rw [h.party side]
  exact ⟨hsignals,hconnect,hdisconnect⟩

theorem Shows.agreed_iff (h : Shows options link c) : link.Agreed ↔ c.Agreed := by
  have hphase : ∀ side state, (link.session side).state=state ↔
      (c.party side).phase=phaseOf state := by
    intro side state
    rw [h.party side]
    exact phaseOf_injective.eq_iff.symm
  simp only [Link.Agreed,Configuration.Agreed,hphase,phaseOf]

end Simulation

variable {clientOptions serverOptions : HdlcSessionOptions}

theorem Association.mirrored (association : Association clientOptions serverOptions) :
    Mirrored (optionsOf clientOptions serverOptions) where
  role
    | .initiator => association.client
    | .responder => association.server
  peers
    | .initiator => ⟨association.peers.2.symm,association.peers.1.symm⟩
    | .responder => association.peers

theorem start_showsOne (clientOptions serverOptions : HdlcSessionOptions) :
    ShowsOne (optionsOf clientOptions serverOptions) Handshake.orderly
      (.start clientOptions serverOptions) := by
  refine ⟨.of (.free .idle) (.free .idle) [] [],by decide,?_,?_,?_⟩
  · intro side
    exact ⟨inWindow_of_reachable ⟨[],rfl⟩,rfl⟩
  · intro side
    cases side <;> rfl
  · intro side
    cases side <;> exact ⟨[],rfl,rfl,nofun⟩

/-- In every quiescent state two associated sessions can reach, by whatever calls and deliveries,
they are both connected or both disconnected exactly if no two DISC crossed on the way. -/
theorem quiescent_agreed_iff (association : Association clientOptions serverOptions)
    (operations : List LinkOperation)
    (quiescent : (Link.machine.final (.start clientOptions serverOptions) operations).Quiescent) :
    (Link.machine.final (.start clientOptions serverOptions) operations).Agreed ↔
      Link.machine.Along (fun link operation => ¬ link.Crosses operation)
        (.start clientOptions serverOptions) operations := by
  obtain ⟨horderly,hcrossed⟩ := (start_showsOne clientOptions serverOptions).run
    association.mirrored operations
  constructor
  · intro agreed
    by_contra halong
    obtain ⟨c,hc,hshows⟩ := hcrossed halong
    have hreleasing := Handshake.crossed_releasing c hc .initiator
    obtain hagreed | hagreed := hshows.agreed_iff.mp agreed
    · cases hreleasing.symm.trans (hagreed .initiator)
    · cases hreleasing.symm.trans (hagreed .initiator)
  · intro halong
    obtain ⟨c,hc,hshows⟩ := horderly halong
    exact hshows.agreed_iff.mpr (Handshake.orderly_agreed c hc (hshows.quiescent quiescent))

/-- The association of the samples, on a link. -/
def sampleLink : Link := .start (sampleOptions .client) (sampleOptions .server)

/-- A connection is set up. -/
def connecting : List LinkOperation :=
  [.call .initiator ⟨.buildConnectRequest,nofun,trivial⟩,
    .deliver .responder defaultHdlcCodecLimits,
    .call .responder ⟨.buildConnectResponse,nofun,trivial⟩,
    .deliver .initiator defaultHdlcCodecLimits]

/-- Both sides release it at once. -/
def crossing : List LinkOperation :=
  [.call .initiator ⟨.buildDisconnectRequest,nofun,trivial⟩,
    .call .responder ⟨.buildDisconnectRequest,nofun,trivial⟩,
    .deliver .responder defaultHdlcCodecLimits,.deliver .initiator defaultHdlcCodecLimits]

theorem quiescent_agreed_iff_connected :
    (Link.machine.final sampleLink connecting).Agreed ↔
      Link.machine.Along (fun link operation => ¬ link.Crosses operation) sampleLink
        connecting := by
  have association : Association (sampleOptions .client) (sampleOptions .server) :=
    ⟨rfl,rfl,rfl,rfl⟩
  have quiescent : (Link.machine.final sampleLink connecting).Quiescent := by
    intro side
    cases side <;> decide +kernel
  exact quiescent_agreed_iff association connecting quiescent

/-- After a crossing both sides wait for a UA that never comes. -/
theorem crossing_leaves_waiting :
    (Link.machine.final sampleLink (connecting ++ crossing)).Quiescent ∧
      ¬ (Link.machine.final sampleLink (connecting ++ crossing)).Agreed := by
  have hwaiting : ((Link.machine.final sampleLink (connecting ++ crossing)).session
      .initiator).state=.awaitingDisconnect := by decide +kernel
  refine ⟨?_,?_⟩
  · intro side
    cases side <;> decide +kernel
  · intro hagreed
    obtain hagreed | hagreed := hagreed
    · cases hwaiting.symm.trans (hagreed .initiator)
    · cases hwaiting.symm.trans (hagreed .initiator)

end DlmsHdlc.HdlcSession
