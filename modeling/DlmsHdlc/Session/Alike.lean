import DlmsHdlc.Session.Steps

/-! Sessions that have been connected before, compared with fresh ones: what later behaviour
depends on, and what it does not. -/
namespace DlmsHdlc.HdlcSession
open Machine

/-- What is compared after each call: its result, the state and the sequence variables, and the
values of the connection while there is one. -/
structure Observation where
  output : HdlcStatus × List UInt8
  state : HdlcSessionState
  sendSequence : UInt8
  receiveSequence : UInt8
  acknowledgeSequence : UInt8
  connection : Option (HdlcSessionNegotiationLimits × Bool)
  deriving DecidableEq, Repr

def observe (output : HdlcStatus × List UInt8) (session : HdlcSession) : Observation where
  output := output
  state := session.state
  sendSequence := session.sendSequence
  receiveSequence := session.receiveSequence
  acknowledgeSequence := session.acknowledgeSequence
  connection := if session.state=.connected then
    some (session.negotiatedLimits,session.canSendInformationFrame) else none

/-- The information limit of outgoing frames. -/
def informationLimit (session : HdlcSession) : UInt64 :=
  effectiveMaximumInformationFieldSize session.remoteAddress session.localAddress
    session.options.limits

/-- The same session with other values where they are not looked at directly. -/
def hide (session : HdlcSession) (limit : UInt64) (negotiation : PendingNegotiation)
    (information : List UInt8) : HdlcSession :=
  { session with
    options := { session.options with limits := { session.options.limits with
      maximumInformationFieldSize := limit } }
    pendingNegotiation := negotiation
    receivedUserInformation := information }

/-- Two sessions that differ in the coding of one limit, in parameters of no pending negotiation
and in user information only. -/
inductive Alike (session : HdlcSession) : HdlcSession → Prop
  | hide (limit : UInt64) (negotiation : PendingNegotiation) (information : List UInt8)
      (active : negotiation.active=session.pendingNegotiation.active)
      (params : session.pendingNegotiation.active=true →
        negotiation.params=session.pendingNegotiation.params)
      (informationLimit : (session.hide limit negotiation information).informationLimit=
        session.informationLimit) :
      Alike session (session.hide limit negotiation information)

section Hide
variable (session : HdlcSession) (limit : UInt64) (negotiation : PendingNegotiation)
  (information : List UInt8)

@[simp] theorem hide_role :
    (session.hide limit negotiation information).options.role=session.options.role := rfl
@[simp] theorem hide_state :
    (session.hide limit negotiation information).state=session.state := rfl
@[simp] theorem hide_sendSequence :
    (session.hide limit negotiation information).sendSequence=session.sendSequence := rfl
@[simp] theorem hide_receiveSequence :
    (session.hide limit negotiation information).receiveSequence=session.receiveSequence := rfl
@[simp] theorem hide_connectResponsePending :
    (session.hide limit negotiation information).connectResponsePending=
      session.connectResponsePending := rfl
@[simp] theorem hide_disconnectResponsePending :
    (session.hide limit negotiation information).disconnectResponsePending=
      session.disconnectResponsePending := rfl
@[simp] theorem hide_dmResponsePending :
    (session.hide limit negotiation information).dmResponsePending=
      session.dmResponsePending := rfl
@[simp] theorem hide_canSendInformationFrame :
    (session.hide limit negotiation information).canSendInformationFrame=
      session.canSendInformationFrame := rfl
@[simp] theorem hide_connectInfoField (includeNegotiation : Bool) (userInformation : Pointer)
    (size : UInt64) :
    (session.hide limit negotiation information).connectInfoField includeNegotiation
      userInformation size=session.connectInfoField includeNegotiation userInformation size := rfl

variable {session limit negotiation information}

/-- Frames are built alike under the same information limit. -/
theorem hide_buildFrame (h : (session.hide limit negotiation information).informationLimit=
      session.informationLimit) :
    (session.hide limit negotiation information).buildFrame=session.buildFrame := by
  funext control payload size
  unfold buildFrame
  split
  · rfl
  · apply encodeFrame_congr
    · exact h
    · rfl

theorem hide_buildFrameWith (h : (session.hide limit negotiation information).informationLimit=
      session.informationLimit) :
    (session.hide limit negotiation information).buildFrameWith=session.buildFrameWith := by
  funext control infoField
  simp only [buildFrameWith,hide_buildFrame h]

end Hide

theorem informationLimit_congr {session other : HdlcSession}
    (h : session.options=other.options) : session.informationLimit=other.informationLimit := by
  simp only [informationLimit,remoteAddress,localAddress,h]

/-- Calls with the same result and alike sessions. -/
def AlikeResults {β : Type} (left right : β × HdlcSession) : Prop :=
  left.1=right.1 ∧ left.2.Alike right.2

/-- Both sides take the same branch of a guard. -/
theorem AlikeResults.ite {β : Type} {c d : Prop} [Decidable c] [Decidable d]
    {accepted accepted' refused refused' : β × HdlcSession} (h : c ↔ d)
    (hrefused : AlikeResults refused refused') (haccepted : AlikeResults accepted accepted') :
    AlikeResults (if c then refused else accepted) (if d then refused' else accepted') := by
  by_cases hc : c
  · rw [if_pos hc,if_pos (h.mp hc)]
    exact hrefused
  · rw [if_neg hc,if_neg (h.not.mp hc)]
    exact haccepted

section Step
variable {session : HdlcSession} {limit : UInt64} {negotiation : PendingNegotiation}
  {information : List UInt8}
  (active : negotiation.active=session.pendingNegotiation.active)
  (params : session.pendingNegotiation.active=true →
    negotiation.params=session.pendingNegotiation.params)
  (hlimit : (session.hide limit negotiation information).informationLimit=session.informationLimit)
include active params hlimit

theorem alike_self : session.Alike (session.hide limit negotiation information) :=
  .hide _ _ _ active params hlimit

/-- Options and negotiation decide; the rest may change alike. -/
theorem alike_update (next : HdlcSession) (hoptions : next.options=session.options)
    (hnegotiation : next.pendingNegotiation=session.pendingNegotiation)
    (userInformation : List UInt8) :
    next.Alike (next.hide limit negotiation userInformation) := by
  apply Alike.hide
  · rw [hnegotiation]
    exact active
  · rw [hnegotiation]
    exact params
  · rw [informationLimit_congr hoptions,← hlimit]
    apply informationLimit_congr
    unfold hide
    rw [hoptions]

theorem alike_buildConnectRequestInternal (includeNegotiation : Bool) (userInformation : Pointer)
    (size : UInt64) :
    AlikeResults
      (builtOutput (session.buildConnectRequestInternal includeNegotiation userInformation size))
      (builtOutput ((session.hide limit negotiation information).buildConnectRequestInternal
        includeNegotiation userInformation size)) := by
  simp only [buildConnectRequestInternal,hide_role,hide_state,hide_connectInfoField,
    hide_buildFrameWith hlimit]
  split
  · exact ⟨rfl,alike_self active params hlimit⟩
  split
  · exact ⟨rfl,alike_self active params hlimit⟩
  split
  · exact ⟨rfl,alike_self active params hlimit⟩
  · exact ⟨rfl,alike_update active params hlimit
      { session.resetSequences with state := .awaitingConnection } rfl rfl information⟩

theorem alike_buildDisconnectRequestWith (userInformation : Pointer) (size : UInt64) :
    AlikeResults (builtOutput (session.buildDisconnectRequestWith userInformation size))
      (builtOutput ((session.hide limit negotiation information).buildDisconnectRequestWith
        userInformation size)) := by
  simp only [buildDisconnectRequestWith,hide_state,hide_buildFrame hlimit]
  split
  · exact ⟨rfl,alike_self active params hlimit⟩
  split
  · exact ⟨rfl,alike_self active params hlimit⟩
  · exact ⟨rfl,alike_update active params hlimit
      { session with state := .awaitingDisconnect } rfl rfl information⟩

theorem alike_buildDisconnectResponse :
    AlikeResults (builtOutput session.buildDisconnectResponse)
      (builtOutput (session.hide limit negotiation information).buildDisconnectResponse) := by
  simp only [buildDisconnectResponse,buildUnnumberedFrame,hide_disconnectResponsePending,
    hide_buildFrame hlimit]
  split
  · exact ⟨rfl,alike_self active params hlimit⟩
  split
  · exact ⟨rfl,alike_self active params hlimit⟩
  · exact ⟨rfl,alike_update active params hlimit
      { session.resetSequences with state := .disconnected, disconnectResponsePending := false }
      rfl rfl information⟩

theorem alike_buildDmResponse :
    AlikeResults (builtOutput session.buildDmResponse)
      (builtOutput (session.hide limit negotiation information).buildDmResponse) := by
  simp only [buildDmResponse,buildUnnumberedFrame,hide_dmResponsePending,hide_buildFrame hlimit]
  split
  · exact ⟨rfl,alike_self active params hlimit⟩
  split
  · exact ⟨rfl,alike_self active params hlimit⟩
  · exact ⟨rfl,alike_update active params hlimit
      { session with dmResponsePending := false } rfl rfl information⟩

theorem alike_buildInformationFrame (payload : Pointer) (size : UInt64) (pollFinal : Bool) :
    AlikeResults (builtOutput (session.buildInformationFrame payload size pollFinal))
      (builtOutput ((session.hide limit negotiation information).buildInformationFrame payload
        size pollFinal)) := by
  simp only [buildInformationFrame,hide_state,hide_canSendInformationFrame,hide_sendSequence,
    hide_receiveSequence,hide_buildFrame hlimit]
  split
  · exact ⟨rfl,alike_self active params hlimit⟩
  split
  · exact ⟨rfl,alike_self active params hlimit⟩
  split
  · exact ⟨rfl,alike_self active params hlimit⟩
  · exact ⟨rfl,alike_update active params hlimit
      { session with sendSequence := nextSequence session.sendSequence } rfl rfl information⟩

theorem alike_buildReceiveReadyFrame (pollFinal : Bool) :
    AlikeResults (builtOutput (session.buildReceiveReadyFrame pollFinal))
      (builtOutput ((session.hide limit negotiation information).buildReceiveReadyFrame
        pollFinal)) := by
  simp only [buildReceiveReadyFrame,buildSupervisoryFrame,hide_state,hide_receiveSequence,
    hide_buildFrame hlimit]
  split
  · exact ⟨rfl,alike_self active params hlimit⟩
  · exact ⟨rfl,alike_self active params hlimit⟩

omit hlimit in
/-- What a negotiation stores replaces the limit on both sides. -/
theorem alike_adoptLimits (limits : HdlcSessionNegotiationLimits) :
    (session.adoptLimits limits).Alike
      ((session.hide limit negotiation information).adoptLimits limits) :=
  Alike.hide limits.maxInformationFieldLengthTransmit negotiation information active params rfl

theorem alike_applyNegotiation :
    session.applyNegotiation.Alike
      (session.hide limit negotiation information).applyNegotiation := by
  unfold applyNegotiation
  change Alike _ (if negotiation.active=true then _ else _)
  rw [active]
  split
  · rename_i hactive
    have hnegotiated : (session.hide limit negotiation information).negotiated=session.negotiated := by
      change negotiateParams negotiation.params _=_
      rw [params hactive]
      rfl
    rw [hnegotiated]
    exact alike_adoptLimits active params _
  · exact alike_self active params hlimit

omit hlimit in
theorem hide_connectResponseInfoField :
    (session.hide limit negotiation information).connectResponseInfoField=
      session.connectResponseInfoField := by
  unfold connectResponseInfoField
  change (if negotiation.active=true then encodeSnrmNegotiationBlock (negotiateParams
    negotiation.params _) else [])=_
  rw [active]
  split
  · rename_i hactive
    rw [params hactive]
    rfl
  · rfl

theorem alike_applyUa (information' : List UInt8) :
    (session.applyUa information').Alike
      ((session.hide limit negotiation information).applyUa information') := by
  unfold applyUa
  split
  · split
    · exact alike_self active params hlimit
    · split
      · exact alike_adoptLimits active params _
      · exact alike_self active params hlimit
  · exact alike_self active params hlimit

theorem alike_receiveSnrm (information' : List UInt8) :
    AlikeResults (session.receiveSnrm information')
      ((session.hide limit negotiation information).receiveSnrm information') := by
  by_cases hguard : session.options.role=.server ∧ session.state=.disconnected
  · obtain ⟨role,state⟩ := hguard
    cases parsed : parseSnrmInfoField information' with
    | error status =>
      rw [session.receiveSnrm_rejected role state parsed,
        (session.hide limit negotiation information).receiveSnrm_rejected role state parsed]
      refine ⟨rfl,?_⟩
      exact Alike.hide limit { negotiation with active := false } [] rfl (by rintro ⟨⟩) hlimit
    | ok values =>
      obtain ⟨proposed,consumed⟩ := values
      rw [session.receiveSnrm_accepted role state parsed,
        (session.hide limit negotiation information).receiveSnrm_accepted role state parsed]
      refine ⟨rfl,?_⟩
      apply Alike.hide limit
        (if 0 < consumed then ⟨true,proposed⟩ else { negotiation with active := false })
        (information'.drop consumed)
      · simp only [acceptSnrm]
        split <;> rfl
      · simp only [acceptSnrm]
        split
        · intro _
          rfl
        · rintro ⟨⟩
      · exact hlimit
  · rw [not_and_or] at hguard
    rw [receiveSnrm,receiveSnrm,if_pos hguard,if_pos (by exact hguard)]
    exact ⟨rfl,alike_self active params hlimit⟩

end Step

theorem Alike.buildFrameWith {session other : HdlcSession} (h : session.Alike other) :
    other.buildFrameWith=session.buildFrameWith := by
  obtain ⟨limit,negotiation,information,_,_,hlimit⟩ := h
  exact hide_buildFrameWith hlimit

theorem Alike.resetSequences {session other : HdlcSession} (h : session.Alike other)
    (state : HdlcSessionState) :
    Alike { session.resetSequences with state := state }
      { other.resetSequences with state := state } := by
  obtain ⟨limit,negotiation,information,active,params,hlimit⟩ := h
  exact Alike.hide limit negotiation information active params hlimit

theorem Alike.buildConnectResponse {session other : HdlcSession} (h : session.Alike other) :
    AlikeResults (builtOutput session.buildConnectResponse)
      (builtOutput other.buildConnectResponse) := by
  obtain ⟨limit,negotiation,information,active,params,hlimit⟩ := h
  have happly := alike_applyNegotiation active params hlimit
  simp only [HdlcSession.buildConnectResponse,hide_role,hide_connectResponsePending,
    hide_connectResponseInfoField active params,happly.buildFrameWith]
  split
  · exact ⟨rfl,alike_self active params hlimit⟩
  split
  · exact ⟨rfl,alike_self active params hlimit⟩
  split
  · exact ⟨rfl,happly⟩
  · refine ⟨rfl,?_⟩
    generalize session.applyNegotiation=applied at happly ⊢
    generalize (session.hide limit negotiation information).applyNegotiation=applied' at happly ⊢
    obtain ⟨limit',negotiation',information',_,_,hlimit'⟩ := happly
    exact Alike.hide limit' { negotiation' with active := false } information' rfl
      (by rintro ⟨⟩) hlimit'

theorem Alike.receiveUnnumberedFrame {session other : HdlcSession} (h : session.Alike other)
    (frame : HdlcFrameBuffer) :
    AlikeResults (session.receiveUnnumberedFrame frame) (other.receiveUnnumberedFrame frame) := by
  obtain ⟨limit,negotiation,information,active,params,hlimit⟩ := h
  have hself := alike_self active params hlimit
  unfold HdlcSession.receiveUnnumberedFrame
  split
  · exact ⟨rfl,hself⟩
  · exact alike_receiveSnrm active params hlimit _
  · simp only [receiveUa,hide_state]
    split
    · exact ⟨rfl,(alike_applyUa active params hlimit _).resetSequences _⟩
    · exact ⟨rfl,hself.resetSequences _⟩
    · exact ⟨rfl,hself⟩
  · unfold receiveDisc
    refine AlikeResults.ite Iff.rfl ⟨rfl,hself⟩ ?_
    exact ⟨rfl,Alike.hide limit negotiation frame.information active params hlimit⟩
  · exact ⟨rfl,hself.resetSequences _⟩
  · exact ⟨rfl,hself⟩

theorem Alike.receiveFrame {session other : HdlcSession} (h : session.Alike other)
    (frame : HdlcFrameBuffer) :
    AlikeResults (session.receiveFrame frame) (other.receiveFrame frame) := by
  have hunnumbered := h.receiveUnnumberedFrame frame
  obtain ⟨limit,negotiation,information,active,params,hlimit⟩ := h
  have hself := alike_self active params hlimit
  unfold HdlcSession.receiveFrame
  refine AlikeResults.ite Iff.rfl ⟨rfl,hself⟩ ?_
  split
  · unfold receiveInformationFrame
    refine AlikeResults.ite Iff.rfl ⟨rfl,hself⟩ ?_
    refine AlikeResults.ite Iff.rfl ⟨rfl,hself⟩ ?_
    refine AlikeResults.ite Iff.rfl ⟨rfl,hself⟩ ?_
    exact ⟨rfl,Alike.hide limit negotiation information active params hlimit⟩
  · unfold receiveSupervisoryFrame
    refine AlikeResults.ite Iff.rfl ⟨rfl,hself⟩ ?_
    split
    · exact ⟨rfl,hself⟩
    · refine AlikeResults.ite Iff.rfl ⟨rfl,hself⟩ ?_
      exact ⟨rfl,Alike.hide limit negotiation information active params hlimit⟩
  · exact hunnumbered

/-- One call does the same to alike sessions. -/
theorem Alike.perform {session other : HdlcSession} (h : session.Alike other)
    (operation : HdlcSessionOperation) :
    AlikeResults (session.perform operation) (other.perform operation) := by
  have hresponse := h.buildConnectResponse
  have hreceive := h.receiveFrame
  obtain ⟨limit,negotiation,information,active,params,hlimit⟩ := h
  cases operation with
  | buildConnectRequest => exact alike_buildConnectRequestInternal active params hlimit _ _ _
  | buildConnectRequestWith userInformation size =>
    exact alike_buildConnectRequestInternal active params hlimit _ _ _
  | buildConnectResponse => exact hresponse
  | buildDisconnectRequest => exact alike_buildDisconnectRequestWith active params hlimit _ _
  | buildDisconnectRequestWith userInformation size =>
    exact alike_buildDisconnectRequestWith active params hlimit _ _
  | buildDisconnectResponse => exact alike_buildDisconnectResponse active params hlimit
  | buildDmResponse => exact alike_buildDmResponse active params hlimit
  | buildInformationFrame payload size pollFinal =>
    exact alike_buildInformationFrame active params hlimit _ _ _
  | buildReceiveReadyFrame pollFinal =>
    exact alike_buildReceiveReadyFrame active params hlimit _
  | receiveFrame frame =>
    obtain ⟨hstatus,halike⟩ := hreceive frame
    refine ⟨?_,halike⟩
    change ((session.receiveFrame frame).1,[])=(((session.hide limit negotiation
      information).receiveFrame frame).1,[])
    rw [hstatus]

/-- What is observed does not depend on what is hidden. -/
theorem Alike.observe {session other : HdlcSession} (h : session.Alike other)
    (output : HdlcStatus × List UInt8) :
    HdlcSession.observe output session=HdlcSession.observe output other := by
  obtain ⟨limit,negotiation,information,_,_,_⟩ := h
  rfl

/-- No further run tells alike sessions apart. -/
theorem Alike.indistinguishable {session other : HdlcSession} (h : session.Alike other) :
    machine.Indistinguishable HdlcSession.observe session other := by
  intro operations
  apply Mealy.observed_eq_of_simulation machine Alike
  · intro session other operation h
    obtain ⟨houtput,hnext⟩ := h.perform operation
    refine ⟨hnext,?_⟩
    rw [machine_step,machine_step,← houtput]
    exact hnext.observe _
  · exact h

end DlmsHdlc.HdlcSession
