import DlmsHdlc.Session.Window

/-! The limits in force: the calls that replace them, and what a run leaves of them. -/
namespace DlmsHdlc.HdlcSession
open Machine

/-- What a UA tells a client that waits for it: nothing without a good negotiation block. -/
def uaLimits (information : List UInt8) : Option HdlcSessionNegotiationLimits :=
  match parseSnrmInfoField information with
  | .error _ => none
  | .ok (uaParams,consumed) => if 0 < consumed then some (clientLimits uaParams) else none

/-- The limits a call puts in force, whether or not the call then succeeds. -/
def adopted (session : HdlcSession) :
    HdlcSessionOperation → Option HdlcSessionNegotiationLimits
  | .buildConnectResponse =>
    if session.options.role=.server ∧ session.connectResponsePending=true ∧
        session.pendingNegotiation.active=true then some (serverLimits session.negotiated)
    else none
  | .receiveFrame frame =>
    if session.incomingAddressesMatch frame=true ∧
        frame.control.unnumberedKind.toOption=some .ua ∧ session.state=.awaitingConnection then
      uaLimits frame.information
    else none
  | _ => none

/-- The limits put in force along a run, in order. -/
def negotiations : HdlcSession → List HdlcSessionOperation → List HdlcSessionNegotiationLimits
  | _,[] => []
  | session,operation::operations =>
    (session.adopted operation).toList ++ negotiations (session.perform operation).2 operations

/-- The limits of the latest negotiation of a run, or the configured ones if there was none. -/
def limitsInForce (options : HdlcSessionOptions) (operations : List HdlcSessionOperation) :
    HdlcSessionNegotiationLimits :=
  (negotiations (new options) operations).getLast?.getD options.negotiationLimits.normalised

/-- The session with other limits in force, if there are any. -/
def adopt (session : HdlcSession) (limits : Option HdlcSessionNegotiationLimits) : HdlcSession :=
  limits.elim session session.adoptLimits

@[simp] theorem adopt_none (session : HdlcSession) : session.adopt none=session := rfl
@[simp] theorem adopt_some (session : HdlcSession) (limits : HdlcSessionNegotiationLimits) :
    session.adopt (some limits)=session.adoptLimits limits := rfl

/-- Two sessions with the same limits in force. -/
structure SameLimits (session other : HdlcSession) : Prop where
  options : session.options=other.options
  negotiated : session.negotiatedLimits=other.negotiatedLimits
  window : session.windowSizeTransmit=other.windowSizeTransmit

theorem SameLimits.refl (session : HdlcSession) : session.SameLimits session := ⟨rfl,rfl,rfl⟩

theorem SameLimits.trans {session other third : HdlcSession} (h : session.SameLimits other)
    (h' : other.SameLimits third) : session.SameLimits third :=
  ⟨h.options.trans h'.options,h.negotiated.trans h'.negotiated,h.window.trans h'.window⟩

/-- New limits replace the old ones completely. -/
theorem SameLimits.adopt {session other : HdlcSession} (h : session.SameLimits other)
    (limits : Option HdlcSessionNegotiationLimits) :
    (session.adopt limits).SameLimits (other.adopt limits) := by
  cases limits with
  | none => exact h
  | some limits =>
    refine ⟨?_,rfl,rfl⟩
    simp only [adopt_some,adoptLimits,h.options]

theorem adoptLimits_adopt (session : HdlcSession) (limits : HdlcSessionNegotiationLimits)
    (limits' : Option HdlcSessionNegotiationLimits) :
    ((session.adoptLimits limits).adopt limits').SameLimits
      (session.adopt (limits'.or (some limits))) := by
  cases limits' <;> exact ⟨rfl,rfl,rfl⟩

variable (session : HdlcSession)

theorem applyUa_eq_adopt {information : List UInt8} :
    session.applyUa information=session.adopt (uaLimits information) := by
  by_cases hempty : information=[]
  · subst hempty
    rfl
  · unfold applyUa uaLimits
    rw [if_pos hempty]
    cases parseSnrmInfoField information with
    | error status => rfl
    | ok values =>
      dsimp only
      split <;> rfl

theorem applyNegotiation_eq_adopt (role : session.options.role=.server)
    (pending : session.connectResponsePending=true) :
    session.applyNegotiation=session.adopt (session.adopted .buildConnectResponse) := by
  by_cases hactive : session.pendingNegotiation.active=true
  · simp only [applyNegotiation,adopted,role,pending,hactive,↓reduceIte,and_self,adopt_some]
  · simp only [applyNegotiation,adopted,hactive,and_false,Bool.false_eq_true,↓reduceIte,adopt_none]

/-- The UA a client waits for. -/
theorem perform_ua {frame : HdlcFrameBuffer} (addresses : session.incomingAddressesMatch frame=true)
    (kind : frame.control.unnumberedKind=.ok .ua) (state : session.state=.awaitingConnection) :
    session.perform (.receiveFrame frame)=((.ok,[]),
      { (session.applyUa frame.information).resetSequences with state := .connected }) := by
  rw [perform,session.receiveFrame_unnumbered addresses kind]
  simp only [receiveUa,state]

theorem perform_buildConnectResponse_limits :
    (session.perform .buildConnectResponse).2.SameLimits
      (session.adopt (session.adopted .buildConnectResponse)) := by
  by_cases hrole : session.options.role=.server
  · by_cases hpending : session.connectResponsePending=true
    · rw [← session.applyNegotiation_eq_adopt hrole hpending]
      simp only [perform,builtOutput,buildConnectResponse,hrole,hpending,ne_eq,not_true_eq_false,
        Bool.not_true,Bool.false_eq_true,↓reduceIte]
      split <;> exact ⟨rfl,rfl,rfl⟩
    · simp only [perform,builtOutput,buildConnectResponse,adopted,hrole,hpending,ne_eq,
        not_true_eq_false,Bool.false_eq_true,↓reduceIte,Bool.not_false,false_and,and_false,
        adopt_none]
      exact .refl session
  · simp only [perform,builtOutput,buildConnectResponse,adopted,hrole,ne_eq,not_false_eq_true,
      ↓reduceIte,false_and,adopt_none]
    exact .refl session

theorem perform_receiveFrame_limits (frame : HdlcFrameBuffer) :
    (session.perform (.receiveFrame frame)).2.SameLimits
      (session.adopt (session.adopted (.receiveFrame frame))) := by
  by_cases hua : session.incomingAddressesMatch frame=true ∧
      frame.control.unnumberedKind.toOption=some .ua ∧ session.state=.awaitingConnection
  · obtain ⟨haddresses,hkind,hstate⟩ := hua
    rw [session.perform_ua haddresses (toOption_eq_some_iff.mp hkind) hstate,
      session.applyUa_eq_adopt]
    simp only [adopted,haddresses,hkind,hstate,and_self,↓reduceIte]
    exact ⟨rfl,rfl,rfl⟩
  · simp only [adopted,hua,↓reduceIte,adopt_none]
    have heffect := session.perform_effect (.receiveFrame frame)
    generalize session.perform (.receiveFrame frame)=result at heffect ⊢
    obtain ⟨output,next⟩ := result
    cases heffect with
    | uaConnected addresses kind state =>
      exact absurd ⟨addresses,toOption_eq_some_iff.mpr kind,state⟩ hua
    | _ => exact ⟨rfl,rfl,rfl⟩

/-- One call changes the limits in force as `adopted` says. -/
theorem perform_limits (operation : HdlcSessionOperation) :
    (session.perform operation).2.SameLimits (session.adopt (session.adopted operation)) := by
  have hquiet : session.adopted operation=none → operation≠.buildConnectResponse →
      (∀ frame, operation≠.receiveFrame frame) →
      (session.perform operation).2.SameLimits (session.adopt (session.adopted operation)) := by
    intro hnone hresponse hframe
    rw [hnone]
    have heffect := session.perform_effect operation
    generalize session.perform operation=result at heffect ⊢
    obtain ⟨output,next⟩ := result
    cases heffect with
    | connectResponseFailed => exact absurd rfl hresponse
    | connectResponded => exact absurd rfl hresponse
    | uaConnected => exact absurd rfl (hframe _)
    | _ => exact ⟨rfl,rfl,rfl⟩
  cases operation with
  | buildConnectResponse => exact session.perform_buildConnectResponse_limits
  | receiveFrame frame => exact session.perform_receiveFrame_limits frame
  | _ => exact hquiet rfl nofun nofun

/-- A run leaves the limits of its latest negotiation in force. -/
theorem final_limits (operations : List HdlcSessionOperation) :
    (machine.final session operations).SameLimits
      (session.adopt (negotiations session operations).getLast?) := by
  induction operations generalizing session with
  | nil => exact .refl session
  | cons operation operations ih =>
    have hstep := (session.perform_limits operation).adopt
      (negotiations (session.perform operation).2 operations).getLast?
    refine (ih _).trans (hstep.trans ?_)
    rw [negotiations,List.getLast?_append]
    cases session.adopted operation with
    | none =>
      rw [Option.toList_none,List.getLast?_nil,Option.or_none,adopt_none]
      exact .refl _
    | some limits => exact session.adoptLimits_adopt limits _

/-- `NegotiatedLimits()` after a run. -/
theorem negotiatedLimits_final (options : HdlcSessionOptions)
    (operations : List HdlcSessionOperation) :
    (machine.final (new options) operations).negotiatedLimits=limitsInForce options operations := by
  rw [((new options).final_limits operations).negotiated,limitsInForce]
  cases (negotiations (new options) operations).getLast? <;> rfl

/-- Without a negotiation a call leaves the limits alone. -/
theorem SameLimits.of_adopted_none {operation : HdlcSessionOperation}
    (h : session.adopted operation=none) : (session.perform operation).2.SameLimits session := by
  have hlimits := session.perform_limits operation
  rwa [h,adopt_none] at hlimits

end DlmsHdlc.HdlcSession
