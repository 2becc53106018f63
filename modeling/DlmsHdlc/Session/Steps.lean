import DlmsHdlc.Session.Machine

/-! What one call can do to a session. Every invariant below is derived from this list. -/
namespace DlmsHdlc.HdlcSession
open Machine

/-- The session after an SNRM with good parameters. -/
def acceptSnrm (session : HdlcSession) (proposed : SnrmParams) (consumed : ℕ)
    (information : List UInt8) : HdlcSession :=
  { session.clearForSnrm.resetSequences with
    pendingNegotiation :=
      if 0 < consumed then ⟨true,proposed⟩ else session.clearForSnrm.pendingNegotiation
    receivedUserInformation := information.drop consumed
    connectResponsePending := true }

/-- All outcomes of a call, with the guards that let them happen. -/
inductive Effect (session : HdlcSession) :
    HdlcSessionOperation → HdlcStatus × List UInt8 → HdlcSession → Prop
  | refused {operation : HdlcSessionOperation} {status : HdlcStatus} (failed : status≠.ok) :
      Effect session operation (status,[]) session
  | connectRequested {operation : HdlcSessionOperation} {output infoField : List UInt8}
      (request : operation=.buildConnectRequest ∨
        ∃ information size, operation=.buildConnectRequestWith information size)
      (role : session.options.role=.client) (state : session.state=.disconnected)
      (built : session.buildFrameWith kSnrmControl infoField=.ok output) :
      Effect session operation (.ok,output)
        { session.resetSequences with state := .awaitingConnection }
  | connectResponseFailed {status : HdlcStatus} (failed : status≠.ok)
      (role : session.options.role=.server) (pending : session.connectResponsePending=true)
      (built : session.applyNegotiation.buildFrameWith kUaControl
        session.connectResponseInfoField=.error status) :
      Effect session .buildConnectResponse (status,[]) session.applyNegotiation
  | connectResponded {output : List UInt8}
      (role : session.options.role=.server) (pending : session.connectResponsePending=true)
      (built : session.applyNegotiation.buildFrameWith kUaControl
        session.connectResponseInfoField=.ok output) :
      Effect session .buildConnectResponse (.ok,output)
        { session.applyNegotiation.resetSequences with
          state := .connected
          connectResponsePending := false
          pendingNegotiation :=
            { session.applyNegotiation.pendingNegotiation with active := false } }
  | disconnectRequested {operation : HdlcSessionOperation} {information : Pointer}
      {size : UInt64} {output : List UInt8}
      (request : operation=.buildDisconnectRequestWith information size ∨
        operation=.buildDisconnectRequest ∧ information=none ∧ size=0)
      (state : session.state=.connected)
      (built : session.buildFrame kDiscControl
        (if information≠none ∧ 0 < size then information else none)
        (if information≠none ∧ 0 < size then size else 0)=.ok output) :
      Effect session operation (.ok,output) { session with state := .awaitingDisconnect }
  | disconnectResponded {output : List UInt8} (pending : session.disconnectResponsePending=true)
      (built : session.buildUnnumberedFrame kUaControl=.ok output) :
      Effect session .buildDisconnectResponse (.ok,output)
        { session.resetSequences with state := .disconnected, disconnectResponsePending := false }
  | dmResponded {output : List UInt8} (pending : session.dmResponsePending=true)
      (built : session.buildUnnumberedFrame kDmControl=.ok output) :
      Effect session .buildDmResponse (.ok,output) { session with dmResponsePending := false }
  | informationSent {information : Pointer} {size : UInt64} {pollFinal : Bool}
      {output : List UInt8} (state : session.state=.connected)
      (canSend : session.canSendInformationFrame=true)
      (built : session.buildFrame (makeInformationControl session.sendSequence
        session.receiveSequence pollFinal) information size=.ok output) :
      Effect session (.buildInformationFrame information size pollFinal) (.ok,output)
        { session with sendSequence := nextSequence session.sendSequence }
  | receiveReadySent {pollFinal : Bool} {output : List UInt8} (state : session.state=.connected)
      (built : session.buildSupervisoryFrame (makeReceiveReadyControl session.receiveSequence
        pollFinal)=.ok output) :
      Effect session (.buildReceiveReadyFrame pollFinal) (.ok,output) session
  | informationReceived {frame : HdlcFrameBuffer} (kind : frame.control.frameKind=.information)
      (state : session.state=.connected)
      (expected : frame.control.sendSequence=session.receiveSequence)
      (accepted : session.acceptsReceiveSequence frame.control.receiveSequence=true) :
      Effect session (.receiveFrame frame) (.ok,[])
        { session with
          acknowledgeSequence := frame.control.receiveSequence
          receiveSequence := nextSequence session.receiveSequence }
  | supervisoryReceived {frame : HdlcFrameBuffer} (kind : frame.control.frameKind=.supervisory)
      (state : session.state=.connected)
      (accepted : session.acceptsReceiveSequence frame.control.receiveSequence=true) :
      Effect session (.receiveFrame frame) (.ok,[])
        { session with acknowledgeSequence := frame.control.receiveSequence }
  | snrmRejected {frame : HdlcFrameBuffer} {status : HdlcStatus} (failed : status≠.ok)
      (addresses : session.incomingAddressesMatch frame=true)
      (kind : frame.control.unnumberedKind=.ok .snrm)
      (role : session.options.role=.server) (state : session.state=.disconnected)
      (parsed : parseSnrmInfoField frame.information=.error status) :
      Effect session (.receiveFrame frame) (status,[])
        { session.clearForSnrm with dmResponsePending := true }
  | snrmAccepted {frame : HdlcFrameBuffer} {proposed : SnrmParams} {consumed : ℕ}
      (addresses : session.incomingAddressesMatch frame=true)
      (kind : frame.control.unnumberedKind=.ok .snrm)
      (role : session.options.role=.server) (state : session.state=.disconnected)
      (parsed : parseSnrmInfoField frame.information=.ok (proposed,consumed)) :
      Effect session (.receiveFrame frame) (.ok,[])
        (session.acceptSnrm proposed consumed frame.information)
  | uaConnected {frame : HdlcFrameBuffer}
      (addresses : session.incomingAddressesMatch frame=true)
      (kind : frame.control.unnumberedKind=.ok .ua)
      (state : session.state=.awaitingConnection) :
      Effect session (.receiveFrame frame) (.ok,[])
        { (session.applyUa frame.information).resetSequences with state := .connected }
  | uaDisconnected {frame : HdlcFrameBuffer}
      (addresses : session.incomingAddressesMatch frame=true)
      (kind : frame.control.unnumberedKind=.ok .ua)
      (state : session.state=.awaitingDisconnect) :
      Effect session (.receiveFrame frame) (.ok,[])
        { session.resetSequences with state := .disconnected }
  | discReceived {frame : HdlcFrameBuffer}
      (addresses : session.incomingAddressesMatch frame=true)
      (kind : frame.control.unnumberedKind=.ok .disc)
      (state : session.state=.connected) :
      Effect session (.receiveFrame frame) (.ok,[])
        { session with
          receivedUserInformation := frame.information, disconnectResponsePending := true }
  | dmReceived {frame : HdlcFrameBuffer}
      (addresses : session.incomingAddressesMatch frame=true)
      (kind : frame.control.unnumberedKind=.ok .dm) :
      Effect session (.receiveFrame frame) (.ok,[])
        { session.resetSequences with state := .disconnected }

variable (session : HdlcSession)

theorem buildFrame_error {control : UInt8} {information : Pointer} {size : UInt64}
    {status : HdlcStatus} (h : session.buildFrame control information size=.error status) :
    status≠.ok := by
  unfold buildFrame at h
  split at h
  · rename_i hcontrol
    cases h
    rw [HdlcControl.decode_error hcontrol]
    decide
  · exact encodeFrame_error h

theorem refused_effect {operation : HdlcSessionOperation} {status : HdlcStatus}
    (failed : status≠.ok) :
    Effect session operation (builtOutput (.error status,session)).1
      (builtOutput (.error status,session)).2 :=
  .refused failed

theorem ignored_effect {operation : HdlcSessionOperation} {status : HdlcStatus}
    (failed : status≠.ok) : Effect session operation ((status,session).1,[]) (status,session).2 :=
  .refused failed

theorem buildConnectRequestInternal_effect (includeNegotiation : Bool) (information : Pointer)
    (size : UInt64) {operation : HdlcSessionOperation}
    (request : operation=.buildConnectRequest ∨
      ∃ information size, operation=.buildConnectRequestWith information size) :
    Effect session operation
      (builtOutput (session.buildConnectRequestInternal includeNegotiation information size)).1
      (builtOutput (session.buildConnectRequestInternal includeNegotiation information size)).2 := by
  unfold buildConnectRequestInternal
  split
  · exact session.refused_effect (by decide)
  rename_i hrole
  split
  · exact session.refused_effect (by decide)
  rename_i hstate
  dsimp only
  split
  · rename_i hbuilt
    exact session.refused_effect (session.buildFrame_error hbuilt)
  · rename_i hbuilt
    exact .connectRequested request (not_not.mp hrole) (not_not.mp hstate) hbuilt

theorem buildConnectResponse_effect : Effect session .buildConnectResponse
    (builtOutput session.buildConnectResponse).1 (builtOutput session.buildConnectResponse).2 := by
  unfold buildConnectResponse
  split
  · exact session.refused_effect (by decide)
  rename_i hrole
  split
  · exact session.refused_effect (by decide)
  rename_i hpending
  dsimp only
  have hpending : session.connectResponsePending=true := by simpa using hpending
  split
  · rename_i hbuilt
    exact .connectResponseFailed (session.applyNegotiation.buildFrame_error hbuilt)
      (not_not.mp hrole) hpending hbuilt
  · rename_i hbuilt
    exact .connectResponded (not_not.mp hrole) hpending hbuilt

theorem buildDisconnectRequest_effect (information : Pointer) (size : UInt64)
    {operation : HdlcSessionOperation}
    (request : operation=.buildDisconnectRequestWith information size ∨
      operation=.buildDisconnectRequest ∧ information=none ∧ size=0) :
    Effect session operation
      (builtOutput (session.buildDisconnectRequestWith information size)).1
      (builtOutput (session.buildDisconnectRequestWith information size)).2 := by
  unfold buildDisconnectRequestWith
  split
  · exact session.refused_effect (by decide)
  rename_i hstate
  dsimp only
  split
  · rename_i hbuilt
    exact session.refused_effect (session.buildFrame_error hbuilt)
  · rename_i hbuilt
    exact .disconnectRequested request (not_not.mp hstate) hbuilt

theorem buildDisconnectResponse_effect : Effect session .buildDisconnectResponse
    (builtOutput session.buildDisconnectResponse).1
    (builtOutput session.buildDisconnectResponse).2 := by
  unfold buildDisconnectResponse
  split
  · exact session.refused_effect (by decide)
  rename_i hpending
  split
  · rename_i hbuilt
    exact session.refused_effect (session.buildFrame_error hbuilt)
  · rename_i hbuilt
    exact .disconnectResponded (by simpa using hpending) hbuilt

theorem buildDmResponse_effect : Effect session .buildDmResponse
    (builtOutput session.buildDmResponse).1 (builtOutput session.buildDmResponse).2 := by
  unfold buildDmResponse
  split
  · exact session.refused_effect (by decide)
  rename_i hpending
  split
  · rename_i hbuilt
    exact session.refused_effect (session.buildFrame_error hbuilt)
  · rename_i hbuilt
    exact .dmResponded (by simpa using hpending) hbuilt

theorem buildInformationFrame_effect (information : Pointer) (size : UInt64) (pollFinal : Bool) :
    Effect session (.buildInformationFrame information size pollFinal)
      (builtOutput (session.buildInformationFrame information size pollFinal)).1
      (builtOutput (session.buildInformationFrame information size pollFinal)).2 := by
  unfold buildInformationFrame
  split
  · exact session.refused_effect (by decide)
  rename_i hstate
  split
  · exact session.refused_effect (by decide)
  rename_i hsend
  dsimp only
  split
  · rename_i hbuilt
    exact session.refused_effect (session.buildFrame_error hbuilt)
  · rename_i hbuilt
    exact .informationSent (not_not.mp hstate) (by simpa using hsend) hbuilt

theorem buildReceiveReadyFrame_effect (pollFinal : Bool) :
    Effect session (.buildReceiveReadyFrame pollFinal)
      (builtOutput (session.buildReceiveReadyFrame pollFinal)).1
      (builtOutput (session.buildReceiveReadyFrame pollFinal)).2 := by
  unfold buildReceiveReadyFrame
  split
  · exact session.refused_effect (by decide)
  rename_i hstate
  cases hbuilt : session.buildSupervisoryFrame
    (makeReceiveReadyControl session.receiveSequence pollFinal) with
  | error status => exact session.refused_effect (session.buildFrame_error hbuilt)
  | ok output => exact .receiveReadySent (not_not.mp hstate) hbuilt

theorem receiveInformationFrame_effect {frame : HdlcFrameBuffer}
    (kind : frame.control.frameKind=.information) :
    Effect session (.receiveFrame frame) ((session.receiveInformationFrame frame).1,[])
      (session.receiveInformationFrame frame).2 := by
  unfold receiveInformationFrame
  split
  · exact session.ignored_effect (by decide)
  rename_i hstate
  split
  · exact session.ignored_effect (by decide)
  rename_i hsequence
  dsimp only
  split
  · exact session.ignored_effect (by decide)
  · rename_i hacknowledge
    exact .informationReceived kind (not_not.mp hstate) (not_not.mp hsequence)
      (by simpa using hacknowledge)

theorem receiveSupervisoryFrame_effect {frame : HdlcFrameBuffer}
    (kind : frame.control.frameKind=.supervisory) :
    Effect session (.receiveFrame frame) ((session.receiveSupervisoryFrame frame).1,[])
      (session.receiveSupervisoryFrame frame).2 := by
  obtain ⟨supervisory,hkind⟩ := HdlcControl.supervisoryKind_isOk kind
  unfold receiveSupervisoryFrame
  rw [hkind]
  split
  · exact session.ignored_effect (by decide)
  rename_i hstate
  dsimp only
  split
  · exact session.ignored_effect (by decide)
  · rename_i hacknowledge
    exact .supervisoryReceived kind (not_not.mp hstate) (by simpa using hacknowledge)

theorem receiveSnrm_accepted {information : List UInt8} {proposed : SnrmParams} {consumed : ℕ}
    (role : session.options.role=.server) (state : session.state=.disconnected)
    (parsed : parseSnrmInfoField information=.ok (proposed,consumed)) :
    session.receiveSnrm information=(.ok,session.acceptSnrm proposed consumed information) := by
  unfold receiveSnrm
  rw [if_neg (by simp [role,state])]
  by_cases hempty : information=[]
  · subst hempty
    cases parsed
    rfl
  · have hinformation : (if consumed < information.length then information.drop consumed
        else session.clearForSnrm.receivedUserInformation)=information.drop consumed := by
      split
      · rfl
      · rw [List.drop_eq_nil_of_le (by omega)]
        rfl
    dsimp only
    rw [if_pos hempty,parsed]
    dsimp only
    rw [hinformation]
    rfl

theorem receiveSnrm_rejected {information : List UInt8} {status : HdlcStatus}
    (role : session.options.role=.server) (state : session.state=.disconnected)
    (parsed : parseSnrmInfoField information=.error status) :
    session.receiveSnrm information=
      (status,{ session.clearForSnrm with dmResponsePending := true }) := by
  have hinformation : information≠[] := by
    rintro rfl
    cases parsed
  unfold receiveSnrm
  rw [if_neg (by simp [role,state])]
  dsimp only
  rw [if_pos hinformation,parsed]

/-- An SNRM is accepted by a disconnected server, for good parameters only. -/
theorem receiveSnrm_ok_iff {information : List UInt8} :
    (session.receiveSnrm information).1=.ok ↔
      session.options.role=.server ∧ session.state=.disconnected ∧
        ∃ proposed consumed, parseSnrmInfoField information=.ok (proposed,consumed) := by
  constructor
  · intro h
    by_cases hguard : session.options.role=.server ∧ session.state=.disconnected
    · obtain ⟨role,state⟩ := hguard
      cases parsed : parseSnrmInfoField information with
      | error status =>
        rw [session.receiveSnrm_rejected role state parsed] at h
        exact absurd h (parseSnrmInfoField_error parsed)
      | ok values => exact ⟨role,state,values.1,values.2,rfl⟩
    · rw [receiveSnrm,if_pos (by rwa [not_and_or] at hguard)] at h
      cases h
  · rintro ⟨role,state,proposed,consumed,parsed⟩
    rw [session.receiveSnrm_accepted role state parsed]

theorem receiveSnrm_effect {frame : HdlcFrameBuffer}
    (addresses : session.incomingAddressesMatch frame=true)
    (kind : frame.control.unnumberedKind=.ok .snrm) :
    Effect session (.receiveFrame frame) ((session.receiveSnrm frame.information).1,[])
      (session.receiveSnrm frame.information).2 := by
  by_cases hguard : session.options.role=.server ∧ session.state=.disconnected
  · obtain ⟨role,state⟩ := hguard
    cases parsed : parseSnrmInfoField frame.information with
    | error status =>
      rw [session.receiveSnrm_rejected role state parsed]
      exact .snrmRejected (parseSnrmInfoField_error parsed) addresses kind role state parsed
    | ok values =>
      rw [session.receiveSnrm_accepted role state parsed]
      exact .snrmAccepted addresses kind role state parsed
  · unfold receiveSnrm
    rw [if_pos (by rwa [not_and_or] at hguard)]
    exact session.ignored_effect (by decide)

theorem receiveUnnumberedFrame_effect {frame : HdlcFrameBuffer}
    (addresses : session.incomingAddressesMatch frame=true) :
    Effect session (.receiveFrame frame) ((session.receiveUnnumberedFrame frame).1,[])
      (session.receiveUnnumberedFrame frame).2 := by
  unfold receiveUnnumberedFrame
  split
  · rename_i hkind
    exact .refused (HdlcControl.unnumberedKind_error hkind)
  · rename_i hkind
    exact session.receiveSnrm_effect addresses hkind
  · rename_i hkind
    unfold receiveUa
    split
    · rename_i hstate
      exact .uaConnected addresses hkind hstate
    · rename_i hstate
      exact .uaDisconnected addresses hkind hstate
    · exact session.ignored_effect (by decide)
  · rename_i hkind
    unfold receiveDisc
    split
    · exact session.ignored_effect (by decide)
    · rename_i hstate
      exact .discReceived addresses hkind (not_not.mp hstate)
  · rename_i hkind
    exact .dmReceived addresses hkind
  · exact session.ignored_effect (by decide)

/-- Every call has one of the listed effects. -/
theorem perform_effect (operation : HdlcSessionOperation) :
    Effect session operation (session.perform operation).1 (session.perform operation).2 := by
  cases operation with
  | buildConnectRequest =>
    exact session.buildConnectRequestInternal_effect _ _ _ (.inl rfl)
  | buildConnectRequestWith information size =>
    exact session.buildConnectRequestInternal_effect _ _ _ (.inr ⟨information,size,rfl⟩)
  | buildConnectResponse => exact session.buildConnectResponse_effect
  | buildDisconnectRequest =>
    exact session.buildDisconnectRequest_effect _ _ (.inr ⟨rfl,rfl,rfl⟩)
  | buildDisconnectRequestWith information size =>
    exact session.buildDisconnectRequest_effect _ _ (.inl rfl)
  | buildDisconnectResponse => exact session.buildDisconnectResponse_effect
  | buildDmResponse => exact session.buildDmResponse_effect
  | buildInformationFrame information size pollFinal =>
    exact session.buildInformationFrame_effect information size pollFinal
  | buildReceiveReadyFrame pollFinal => exact session.buildReceiveReadyFrame_effect pollFinal
  | receiveFrame frame =>
    change Effect session (.receiveFrame frame) ((session.receiveFrame frame).1,[])
      (session.receiveFrame frame).2
    unfold receiveFrame
    split
    · exact session.ignored_effect (by decide)
    rename_i haddresses
    have haddresses : session.incomingAddressesMatch frame=true := by simpa using haddresses
    split
    · rename_i hkind
      exact session.receiveInformationFrame_effect hkind
    · rename_i hkind
      exact session.receiveSupervisoryFrame_effect hkind
    · exact session.receiveUnnumberedFrame_effect haddresses

/-- A response changes the limits only, and by one adoption. -/
theorem applyNegotiation_cases : session.applyNegotiation=session ∨
    ∃ limits, session.applyNegotiation=session.adoptLimits limits := by
  unfold applyNegotiation
  split
  · exact .inr ⟨_,rfl⟩
  · exact .inl rfl

/-- So does a UA, for the values it carries. -/
theorem applyUa_cases (information : List UInt8) : session.applyUa information=session ∨
    ∃ uaParams consumed, parseSnrmInfoField information=.ok (uaParams,consumed) ∧
      0 < consumed ∧ session.applyUa information=session.adoptLimits (clientLimits uaParams) := by
  unfold applyUa
  split
  · split
    · exact .inl rfl
    · rename_i hparsed
      split
      · rename_i hconsumed
        exact .inr ⟨_,_,hparsed,hconsumed,rfl⟩
      · exact .inl rfl
  · exact .inl rfl

/-- The same session but for the limits. -/
structure OnlyLimits (session next : HdlcSession) : Prop where
  role : next.options.role=session.options.role
  state : next.state=session.state
  sendSequence : next.sendSequence=session.sendSequence
  acknowledgeSequence : next.acknowledgeSequence=session.acknowledgeSequence
  connectResponsePending : next.connectResponsePending=session.connectResponsePending
  disconnectResponsePending : next.disconnectResponsePending=session.disconnectResponsePending
  dmResponsePending : next.dmResponsePending=session.dmResponsePending

theorem OnlyLimits.refl : OnlyLimits session session := ⟨rfl,rfl,rfl,rfl,rfl,rfl,rfl⟩

theorem adoptLimits_onlyLimits (limits : HdlcSessionNegotiationLimits) :
    OnlyLimits session (session.adoptLimits limits) := ⟨rfl,rfl,rfl,rfl,rfl,rfl,rfl⟩

theorem applyNegotiation_onlyLimits : OnlyLimits session session.applyNegotiation := by
  obtain hsame | ⟨limits,hsame⟩ := session.applyNegotiation_cases <;> rw [hsame]
  · exact .refl session
  · exact session.adoptLimits_onlyLimits limits

theorem applyUa_onlyLimits (information : List UInt8) :
    OnlyLimits session (session.applyUa information) := by
  obtain hsame | ⟨_,_,_,_,hsame⟩ := session.applyUa_cases information <;> rw [hsame]
  · exact .refl session
  · exact session.adoptLimits_onlyLimits _

/-- A frame with the right addresses reaches the handler of its kind. -/
theorem receiveFrame_of_information {frame : HdlcFrameBuffer}
    (addresses : session.incomingAddressesMatch frame=true)
    (kind : frame.control.frameKind=.information) :
    session.receiveFrame frame=session.receiveInformationFrame frame := by
  simp only [receiveFrame,addresses,Bool.not_true,Bool.false_eq_true,↓reduceIte,kind]

theorem receiveFrame_of_supervisory {frame : HdlcFrameBuffer}
    (addresses : session.incomingAddressesMatch frame=true)
    (kind : frame.control.frameKind=.supervisory) :
    session.receiveFrame frame=session.receiveSupervisoryFrame frame := by
  simp only [receiveFrame,addresses,Bool.not_true,Bool.false_eq_true,↓reduceIte,kind]

/-- A frame that is taken in is addressed to the session. -/
theorem incomingAddressesMatch_of_ok {frame : HdlcFrameBuffer}
    (h : (session.receiveFrame frame).1=.ok) : session.incomingAddressesMatch frame=true := by
  cases haddresses : session.incomingAddressesMatch frame with
  | false =>
    rw [receiveFrame,haddresses] at h
    cases h
  | true => rfl

/-- An unnumbered command reaches the branch of its own kind. -/
theorem receiveFrame_unnumbered {frame : HdlcFrameBuffer} {kind : HdlcUnnumberedKind}
    (addresses : session.incomingAddressesMatch frame=true)
    (hkind : frame.control.unnumberedKind=.ok kind) :
    session.receiveFrame frame=
      match kind with
      | .snrm => session.receiveSnrm frame.information
      | .ua => session.receiveUa frame.information
      | .disc => session.receiveDisc frame.information
      | .dm => session.receiveDm
      | _ => (.unsupportedFrame,session) := by
  simp only [receiveFrame,addresses,Bool.not_true,Bool.false_eq_true,↓reduceIte,
    HdlcControl.frameKind_of_unnumberedKind hkind,receiveUnnumberedFrame,hkind]
  cases kind <;> rfl

/-- The options of a session, of which a negotiation replaces one limit only. -/
def Configured (session : HdlcSession) (options : HdlcSessionOptions) : Prop :=
  session.options={ (new options).options with limits := { options.limits with
    maximumInformationFieldSize := session.options.limits.maximumInformationFieldSize } }

variable {session} in
theorem Configured.adoptLimits {options : HdlcSessionOptions} (h : session.Configured options)
    (limits : HdlcSessionNegotiationLimits) : (session.adoptLimits limits).Configured options := by
  unfold Configured at h ⊢
  unfold HdlcSession.adoptLimits
  rw [h]

variable {session} in
theorem Configured.step {options : HdlcSessionOptions} (h : session.Configured options)
    (operation : HdlcSessionOperation) : (session.perform operation).2.Configured options := by
  have heffect := session.perform_effect operation
  have hnegotiation : session.applyNegotiation.Configured options := by
    obtain hsame | ⟨limits,hsame⟩ := session.applyNegotiation_cases <;> rw [hsame]
    · exact h
    · exact h.adoptLimits limits
  have hua : ∀ information, (session.applyUa information).Configured options := by
    intro information
    obtain hsame | ⟨_,_,_,_,hsame⟩ := session.applyUa_cases information <;> rw [hsame]
    · exact h
    · exact h.adoptLimits _
  generalize session.perform operation=result at heffect ⊢
  obtain ⟨output,next⟩ := result
  cases heffect with
  | connectResponseFailed => exact hnegotiation
  | connectResponded => exact hnegotiation
  | @uaConnected frame => exact hua frame.information
  | _ => exact h

variable {session} in
theorem configured_of_reachable {options : HdlcSessionOptions}
    (h : Reachable options session) : session.Configured options := by
  obtain ⟨operations,rfl⟩ := h
  apply machine.final_invariant (fun session => session.Configured options)
  · intro session operation h
    exact h.step operation
  · rfl

variable {session} in
theorem Configured.role {options : HdlcSessionOptions} (h : session.Configured options) :
    session.options.role=options.role := by
  rw [h]
  rfl

variable {session} in
/-- Negotiations never touch the addresses. -/
theorem Configured.addresses {options : HdlcSessionOptions} (h : session.Configured options) :
    session.localAddress=(new options).localAddress ∧
      session.remoteAddress=(new options).remoteAddress := by
  unfold localAddress remoteAddress
  rw [h]
  exact ⟨rfl,rfl⟩

/-- The frame a `Build` call encodes. -/
def outgoing (control : HdlcControl) (information : List UInt8) : HdlcFrameBuffer :=
  ⟨false,session.remoteAddress,session.localAddress,control,information⟩

variable {session} in
theorem Configured.outgoing {options : HdlcSessionOptions} (h : session.Configured options) :
    session.outgoing=(new options).outgoing := by
  funext control information
  obtain ⟨hlocal,hremote⟩ := h.addresses
  simp only [HdlcSession.outgoing,hlocal,hremote]

variable {session} in
/-- Whoever has built a frame can build any frame without Information: no negotiation touches the
limit on frames. -/
theorem Configured.fits_empty {options : HdlcSessionOptions} (h : session.Configured options)
    {other : HdlcSession} (h' : other.Configured options) {control : HdlcControl}
    {information : List UInt8} (fits : (other.outgoing control information).Fits other.options.limits)
    (control' : HdlcControl) : (session.outgoing control' []).Fits session.options.limits := by
  have hshorter : (session.outgoing control' []).formatLength ≤
      (other.outgoing control information).formatLength := by
    rw [h.outgoing,h'.outgoing]
    simp only [HdlcSession.outgoing,HdlcFrameBuffer.formatLength,List.length_nil,↓reduceIte]
    omega
  have hframe : effectiveMaximumFrameSize session.options.limits=
      effectiveMaximumFrameSize other.options.limits := by
    unfold effectiveMaximumFrameSize
    rw [h,h']
  refine ⟨Nat.zero_le _,hshorter.trans fits.format_le,?_⟩
  rw [hframe]
  exact (Nat.add_le_add_right hshorter 2).trans fits.frame_le

/-- Building succeeds exactly for the frames within the session's limits. -/
theorem buildFrame_eq_ok_iff (control : HdlcControl) (information : Pointer) (size : UInt64)
    (hsize : size.toNat < 2^63) (hread : (information.read size.toNat).length=size.toNat)
    (output : List UInt8) :
    session.buildFrame control.encode information size=.ok output ↔
      (session.outgoing control (information.read size.toNat)).Fits session.options.limits ∧
        output=(session.outgoing control (information.read size.toNat)).wire := by
  unfold buildFrame
  rw [HdlcControl.decode_encode]
  apply encodeFrame_eq_ok_iff
  exact ⟨hsize,hread⟩

theorem buildFrameWith_eq_ok_iff (control : HdlcControl) {infoField : List UInt8}
    (hsize : infoField.length < 2^63) (output : List UInt8) :
    session.buildFrameWith control.encode infoField=.ok output ↔
      (session.outgoing control infoField).Fits session.options.limits ∧
        output=(session.outgoing control infoField).wire := by
  have hlength : (UInt64.ofNat infoField.length).toNat=infoField.length := by
    rw [UInt64.toNat_ofNat',Nat.mod_eq_of_lt (by omega)]
  have hread : Pointer.read (if infoField.isEmpty then none else some infoField)
      infoField.length=infoField := by
    cases infoField <;> simp
  unfold buildFrameWith
  have hbuilt := session.buildFrame_eq_ok_iff control
    (if infoField.isEmpty then none else some infoField) (.ofNat infoField.length) (by omega)
    (by rw [hlength,hread]) output
  rw [hlength,hread] at hbuilt
  exact hbuilt

variable {session} in
/-- What can be built at all is short. -/
theorem buildFrameWith_ok_length (control : HdlcControl) {infoField output : List UInt8}
    (hbuilt : session.buildFrameWith control.encode infoField=.ok output)
    (hsize : infoField.length < 2^64-64) : infoField.length ≤ 2047 := by
  have hnat : (UInt64.ofNat infoField.length).toNat=infoField.length := by
    rw [UInt64.toNat_ofNat',Nat.mod_eq_of_lt (by omega)]
  rw [buildFrameWith,buildFrame,HdlcControl.decode_encode] at hbuilt
  have hshort := encodeFrame_ok_size hbuilt (by
    dsimp only
    omega)
  dsimp only at hshort
  omega

/-- An association with the default limits, for runs on fixed inputs. -/
def sampleOptions (role : HdlcSessionRole) : HdlcSessionOptions where
  role := role
  clientAddress := .ofByte 0x21 (by decide)
  serverAddress := .ofByte 0x01 (by decide)
  limits := defaultHdlcCodecLimits
  negotiationLimits := ⟨0,0,0,0⟩

/-- What the other side of that association sends. -/
def sampleIncoming (role : HdlcSessionRole) (control : HdlcControl) (information : List UInt8) :
    HdlcFrameBuffer :=
  ⟨false,(new (sampleOptions role)).localAddress,(new (sampleOptions role)).remoteAddress,control,
    information⟩

def snrmControl : HdlcControl := ⟨kSnrmControl,by decide⟩
def uaControl : HdlcControl := ⟨kUaControl,by decide⟩
def discControl : HdlcControl := ⟨kDiscControl,by decide⟩
def dmControl : HdlcControl := ⟨kDmControl,by decide⟩

theorem snrmControl_kind : snrmControl.unnumberedKind=.ok .snrm := rfl
theorem uaControl_kind : uaControl.unnumberedKind=.ok .ua := rfl
theorem discControl_kind : discControl.unnumberedKind=.ok .disc := rfl
theorem dmControl_kind : dmControl.unnumberedKind=.ok .dm := rfl

/-- A negotiation block whose only parameter is a length of ten for the server's frames. -/
def shortNegotiation : List UInt8 := [0x81,0x80,0x04,0x06,0x02,0x00,0x0a]

end DlmsHdlc.HdlcSession
