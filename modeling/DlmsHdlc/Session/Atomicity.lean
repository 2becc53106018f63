import DlmsHdlc.Session.Steps

/-! Calls that report a failure, and what they leave behind. -/
namespace DlmsHdlc.HdlcSession
open Machine

/-- `ReceiveFrame` of this frame rejects an SNRM for its parameters. -/
def RejectsSnrm (session : HdlcSession) (operation : HdlcSessionOperation) : Prop :=
  ∃ frame, operation=.receiveFrame frame ∧ session.incomingAddressesMatch frame=true ∧
    frame.control.unnumberedKind=.ok .snrm ∧ session.options.role=.server ∧
    session.state=.disconnected ∧ ∃ status, parseSnrmInfoField frame.information=.error status

/-- A failure changes nothing, but that a rejected SNRM asks for a DM. -/
def Atomic (session : HdlcSession) (operation : HdlcSessionOperation) : Prop :=
  (session.perform operation).1.1≠.ok →
    (session.perform operation).2=session ∨
      (session.RejectsSnrm operation ∧
        (session.perform operation).2={ session with dmResponsePending := true })

/-- The UA with the agreed parameters is within the limits that they bring about. -/
def UaFits (session : HdlcSession) : Prop :=
  (session.outgoing uaControl (encodeSnrmNegotiationBlock session.negotiated)).Fits
    { session.options.limits with maximumInformationFieldSize := session.negotiated.maxInfoRx }

/-- The session holds the agreed values before the response is built. -/
def Agreed (session : HdlcSession) : Prop :=
  session.negotiatedLimits=serverLimits session.negotiated ∧
    session.options.limits.maximumInformationFieldSize=session.negotiated.maxInfoRx ∧
    session.windowSizeTransmit=session.negotiated.windowRx.toUInt8

/-- Where a failure could leave traces: a UA that does not fit what it agrees, and user
information or a negotiation that a rejected SNRM clears. -/
def TracelessWhen (session : HdlcSession) (operation : HdlcSessionOperation) : Prop :=
  (operation=.buildConnectResponse → session.options.role=.server →
    session.connectResponsePending=true → session.pendingNegotiation.active=true →
    session.UaFits ∨ session.Agreed) ∧
  (session.RejectsSnrm operation →
    session.receivedUserInformation=[] ∧ session.pendingNegotiation.active=false)

variable (session : HdlcSession)

theorem adoptLimits_eq_iff (limits : HdlcSessionNegotiationLimits) :
    session.adoptLimits limits=session ↔ session.negotiatedLimits=limits ∧
      session.options.limits.maximumInformationFieldSize=
        limits.maxInformationFieldLengthTransmit ∧
      session.windowSizeTransmit=limits.windowSizeTransmit := by
  constructor
  · intro h
    refine ⟨?_,?_,?_⟩
    · rw [← congrArg negotiatedLimits h]
      rfl
    · rw [← congrArg (fun s => s.options.limits.maximumInformationFieldSize) h]
      rfl
    · rw [← congrArg windowSizeTransmit h]
      rfl
  · rintro ⟨hlimits,hinformation,hwindow⟩
    obtain ⟨⟨_,_,_,⟨_,_,_⟩,_⟩,_,_,_,_,_,_,_,_,_,_,_⟩ := session
    simp only at hlimits hinformation hwindow
    subst hlimits hinformation hwindow
    rfl

theorem clearForSnrm_eq_iff :
    session.clearForSnrm=session ↔
      session.receivedUserInformation=[] ∧ session.pendingNegotiation.active=false := by
  constructor
  · intro h
    refine ⟨?_,?_⟩
    · rw [← congrArg receivedUserInformation h]
      rfl
    · rw [← congrArg (fun s => s.pendingNegotiation.active) h]
      rfl
  · rintro ⟨hinformation,hactive⟩
    obtain ⟨_,_,_,_,_,_,_,_,⟨_,_⟩,_,_,_⟩ := session
    simp only at hinformation hactive
    subst hinformation hactive
    rfl

/-- The response with agreed parameters fails exactly when it does not fit them. -/
theorem uaFits_iff (active : session.pendingNegotiation.active=true) :
    (∃ output, session.applyNegotiation.buildFrameWith kUaControl
      session.connectResponseInfoField=.ok output) ↔ session.UaFits := by
  have hinfo : session.connectResponseInfoField=encodeSnrmNegotiationBlock session.negotiated :=
    if_pos active
  have hout : session.applyNegotiation.outgoing uaControl session.connectResponseInfoField=
      session.outgoing uaControl (encodeSnrmNegotiationBlock session.negotiated) := by
    rw [hinfo,applyNegotiation,if_pos active]
    rfl
  have hlimits : session.applyNegotiation.options.limits={ session.options.limits with
      maximumInformationFieldSize := session.negotiated.maxInfoRx } := by
    rw [applyNegotiation,if_pos active]
    rfl
  have hsize : session.connectResponseInfoField.length < 2^63 := by
    rw [hinfo,encodeSnrmNegotiationBlock_length]
    omega
  have hbuilt := session.applyNegotiation.buildFrameWith_eq_ok_iff uaControl hsize
  rw [hout,hlimits] at hbuilt
  constructor
  · rintro ⟨output,h⟩
    exact ((hbuilt output).mp h).1
  · intro h
    exact ⟨_,(hbuilt _).mpr ⟨h,rfl⟩⟩

/-- Without a pending negotiation a failing response changes nothing. -/
theorem applyNegotiation_inactive (inactive : session.pendingNegotiation.active=false) :
    session.applyNegotiation=session := by
  unfold applyNegotiation
  rw [inactive]
  rfl

/-- Three ways to fail: without a trace, after the negotiated values were stored, and after the
SNRM cleared what came before it. -/
theorem failed_cases {operation : HdlcSessionOperation}
    (failed : (session.perform operation).1.1≠.ok) :
    (session.perform operation).2=session ∨
    (operation=.buildConnectResponse ∧ session.options.role=.server ∧
      session.connectResponsePending=true ∧
      (session.perform operation).2=session.applyNegotiation ∧
      ∃ status, session.applyNegotiation.buildFrameWith kUaControl
        session.connectResponseInfoField=.error status) ∨
    (session.RejectsSnrm operation ∧
      (session.perform operation).2={ session.clearForSnrm with dmResponsePending := true }) := by
  have heffect := session.perform_effect operation
  generalize session.perform operation=result at heffect failed ⊢
  obtain ⟨output,next⟩ := result
  cases heffect with
  | refused => exact .inl rfl
  | connectResponseFailed _ role pending built =>
    exact .inr (.inl ⟨rfl,role,pending,rfl,_,built⟩)
  | snrmRejected _ addresses kind role state parsed =>
    exact .inr (.inr ⟨⟨_,rfl,addresses,kind,role,state,_,parsed⟩,rfl⟩)
  | _ => exact absurd rfl failed

theorem perform_rejectsSnrm {operation : HdlcSessionOperation}
    (rejects : session.RejectsSnrm operation) :
    (session.perform operation).1.1≠.ok ∧
      (session.perform operation).2={ session.clearForSnrm with dmResponsePending := true } := by
  obtain ⟨frame,rfl,addresses,kind,role,state,status,parsed⟩ := rejects
  rw [perform,session.receiveFrame_unnumbered addresses kind,
    session.receiveSnrm_rejected role state parsed]
  exact ⟨parseSnrmInfoField_error parsed,rfl⟩

theorem perform_connectResponse_failed (role : session.options.role=.server)
    (pending : session.connectResponsePending=true) {status : HdlcStatus}
    (built : session.applyNegotiation.buildFrameWith kUaControl
      session.connectResponseInfoField=.error status) :
    session.perform .buildConnectResponse=((status,[]),session.applyNegotiation) := by
  have hresponse : session.buildConnectResponse=(.error status,session.applyNegotiation) := by
    simp [buildConnectResponse,role,pending,built]
  rw [perform,hresponse]
  rfl

/-- A call is atomic exactly when its failure could not leave a trace. -/
theorem atomic_iff (operation : HdlcSessionOperation) :
    session.Atomic operation ↔ session.TracelessWhen operation := by
  constructor
  · intro hatomic
    constructor
    · rintro rfl role pending active
      by_contra hneither
      rw [not_or,← session.uaFits_iff active] at hneither
      obtain ⟨hfits,hagreed⟩ := hneither
      cases hbuilt : session.applyNegotiation.buildFrameWith kUaControl
        session.connectResponseInfoField with
      | ok output => exact hfits ⟨output,hbuilt⟩
      | error status =>
        have hperform := session.perform_connectResponse_failed role pending hbuilt
        rw [Atomic,hperform] at hatomic
        obtain hsame | ⟨⟨frame,hframe,_⟩,_⟩ :=
          hatomic (session.applyNegotiation.buildFrame_error hbuilt)
        · rw [applyNegotiation,if_pos active,adoptLimits_eq_iff] at hsame
          exact hagreed hsame
        · cases hframe
    · intro rejects
      obtain ⟨failed,hnext⟩ := session.perform_rejectsSnrm rejects
      have hsame := hatomic failed
      rw [hnext] at hsame
      obtain hsame | ⟨_,hsame⟩ := hsame
      · exact ⟨(congrArg receivedUserInformation hsame).symm,
          (congrArg (fun s => s.pendingNegotiation.active) hsame).symm⟩
      · exact ⟨(congrArg receivedUserInformation hsame).symm,
          (congrArg (fun s => s.pendingNegotiation.active) hsame).symm⟩
  · rintro ⟨hresponse,hsnrm⟩ failed
    obtain hsame | ⟨rfl,role,pending,hnext,status,hbuilt⟩ | ⟨rejects,hnext⟩ :=
      session.failed_cases failed
    · exact .inl hsame
    · left
      rw [hnext]
      cases hactive : session.pendingNegotiation.active with
      | false => exact session.applyNegotiation_inactive hactive
      | true =>
        obtain hfits | hagreed := hresponse rfl role pending hactive
        · obtain ⟨output,hok⟩ := (session.uaFits_iff hactive).mpr hfits
          cases hbuilt.symm.trans hok
        · rw [applyNegotiation,if_pos hactive,adoptLimits_eq_iff]
          exact hagreed
    · right
      refine ⟨rejects,?_⟩
      rw [hnext,(session.clearForSnrm_eq_iff).mpr (hsnrm rejects)]

/-- In every reachable state and along every run, the failures without a trace are exactly those
that have nothing to leave behind. -/
theorem failures_atomic_iff (options : HdlcSessionOptions) :
    (∀ session, Reachable options session → ∀ operation,
      session.Atomic operation ↔ session.TracelessWhen operation) ∧
    ∀ operations, machine.Along Atomic (.new options) operations ↔
      machine.Along TracelessWhen (.new options) operations := by
  constructor
  · intro session _ operation
    exact session.atomic_iff operation
  · intro operations
    apply machine.along_congr (fun _ => True)
    · intro session operation _ _
      exact session.atomic_iff operation
    · intro _ _ _ _ _
      trivial
    · trivial

/-- A default server agrees to frames of ten bytes, fails to build the UA, and keeps the limit. -/
theorem shortNegotiation_not_atomic :
    ¬ machine.Along Atomic (.new (sampleOptions .server))
      [.receiveFrame (sampleIncoming .server snrmControl shortNegotiation),
        .buildConnectResponse] := by
  rintro ⟨_,hresponse,_⟩
  obtain hsame | ⟨⟨_,hframe,_⟩,_⟩ := hresponse (by decide)
  · exact absurd (congrArg negotiatedLimits hsame) (by decide)
  · cases hframe

end DlmsHdlc.HdlcSession
