import DlmsHdlc.Session.Defaults

/-! What the limits in force bound: the payloads of I-frames, and the limits themselves. -/
namespace DlmsHdlc.HdlcSession
open Machine

variable {options : HdlcSessionOptions} {session : HdlcSession}

/-- The longest Information field the codec limits of the session let through. -/
def informationCapacity (session : HdlcSession) : ℕ :=
  let addresses := session.remoteAddress.encodedSize+session.localAddress.encodedSize
  min (effectiveMaximumInformationFieldSize session.remoteAddress session.localAddress
      session.options.limits).toNat
    (min (2047-(7+addresses)) ((effectiveMaximumFrameSize session.options.limits).toNat-
      (9+addresses)))

theorem outgoing_fits_iff_capacity (session : HdlcSession) (control : HdlcControl)
    {information : List UInt8} (h : information≠[]) :
    (session.outgoing control information).Fits session.options.limits ↔
      information.length ≤ session.informationCapacity := by
  have hpos := List.length_pos_of_ne_nil h
  have hlength : (session.outgoing control information).formatLength=
      5+session.remoteAddress.encodedSize+session.localAddress.encodedSize+2+
        information.length := by
    simp only [HdlcFrameBuffer.formatLength,outgoing,h,↓reduceIte]
  constructor
  · intro hfits
    have hinformation := hfits.information_le
    have hformat := hfits.format_le
    have hframe := hfits.frame_le
    rw [hlength] at hformat hframe
    refine Nat.le_min.mpr ⟨hinformation,Nat.le_min.mpr ⟨?_,?_⟩⟩
    · omega
    · omega
  · intro hle
    obtain ⟨hinformation,hrest⟩ := Nat.le_min.mp hle
    obtain ⟨hformat,hframe⟩ := Nat.le_min.mp hrest
    refine ⟨hinformation,?_,?_⟩
    · rw [hlength]
      omega
    · rw [hlength]
      omega

/-- A built I-frame carries no more than the negotiated length. -/
def InformationWithin (session : HdlcSession) (operation : HdlcSessionOperation) : Prop :=
  ∀ information size pollFinal, operation=.buildInformationFrame information size pollFinal →
    (session.perform operation).1.1=.ok → (Pointer.read information size.toNat).length ≤
      session.negotiatedLimits.maxInformationFieldLengthTransmit.toNat

/-- The negotiated length is the one in force in the codec: by the latest negotiation of the run, if
it was not of a zero, which the codec takes for no limit; without one by the configuration. -/
def LengthEnforced (options : HdlcSessionOptions) (operations : List HdlcSessionOperation) : Prop :=
  match (negotiations (new options) operations).getLast? with
  | some limits => limits.maxInformationFieldLengthTransmit≠0 ∨
    ((new options).adoptLimits limits).informationCapacity=0
  | none => (new options).informationCapacity ≤
    options.negotiationLimits.normalised.maxInformationFieldLengthTransmit.toNat

/-- An I-frame could be sent now. -/
def Sending (session : HdlcSession) : Prop :=
  session.state=.connected ∧ session.canSendInformationFrame=true

/-- `BuildInformationFrame` succeeds in the connected state, within the window and the limits. -/
theorem buildInformationFrame_ok_iff (session : HdlcSession) {information : Pointer}
    {size : UInt64} (valid : ValidPointer information size) (pollFinal : Bool) :
    (session.perform (.buildInformationFrame information size pollFinal)).1.1=.ok ↔
      session.state=.connected ∧ session.canSendInformationFrame=true ∧
        (session.outgoing (informationControl session.sendSequence session.receiveSequence
          pollFinal) (information.read size.toNat)).Fits session.options.limits := by
  have hbuilt := session.buildFrame_eq_ok_iff (informationControl session.sendSequence
    session.receiveSequence pollFinal) information size valid.1 valid.2
  change ∀ output, session.buildFrame (makeInformationControl _ _ _) _ _=_ ↔ _ at hbuilt
  constructor
  · intro hok
    have heffect := session.perform_effect (.buildInformationFrame information size pollFinal)
    generalize session.perform (.buildInformationFrame information size pollFinal)=result
      at heffect hok
    obtain ⟨output,next⟩ := result
    cases heffect with
    | refused failed => exact absurd hok failed
    | connectRequested request => simp at request
    | disconnectRequested request => simp at request
    | informationSent state canSend built => exact ⟨state,canSend,((hbuilt _).mp built).1⟩
  · intro ⟨hstate,hsend,hfits⟩
    have hframe := (hbuilt _).mpr ⟨hfits,rfl⟩
    simp only [perform,builtOutput,buildInformationFrame,hstate,hsend,hframe,ne_eq,
      not_true_eq_false,Bool.not_true,Bool.false_eq_true,↓reduceIte,statusOf_ok]

/-- Addresses and limits are all the capacity depends on. -/
theorem SameLimits.informationCapacity {session other : HdlcSession} (h : session.SameLimits other) :
    session.informationCapacity=other.informationCapacity := by
  unfold HdlcSession.informationCapacity remoteAddress localAddress
  rw [h.options]

/-- After a run the codec lets no more through than was negotiated exactly if that is enforced. -/
theorem informationCapacity_le_iff (options : HdlcSessionOptions)
    (operations : List HdlcSessionOperation) :
    let session := machine.final (new options) operations
    session.informationCapacity ≤ session.negotiatedLimits.maxInformationFieldLengthTransmit.toNat ↔
      LengthEnforced options operations := by
  have hlimits := (new options).final_limits operations
  dsimp only
  unfold LengthEnforced
  rw [hlimits.informationCapacity,hlimits.negotiated]
  cases (negotiations (new options) operations).getLast? with
  | none => exact Iff.rfl
  | some limits =>
    dsimp only [adopt_some]
    have hnegotiated : ((new options).adoptLimits limits).negotiatedLimits=limits := rfl
    rw [hnegotiated]
    by_cases hzero : limits.maxInformationFieldLengthTransmit=0
    · simp [hzero]
    · have hcapacity : ((new options).adoptLimits limits).informationCapacity ≤
          limits.maxInformationFieldLengthTransmit.toNat := by
        refine (Nat.min_le_left _ _).trans ?_
        rw [effectiveMaximumInformationFieldSize]
        exact Nat.le_of_eq (congrArg UInt64.toNat (if_pos hzero))
      exact iff_of_true hcapacity (.inl hzero)

/-- A session that can send builds I-frames up to the capacity of its codec, and no longer ones. -/
theorem informationWithin_iff (session : HdlcSession) :
    (∀ operation : HdlcSessionOperation, operation.WellFormed → session.InformationWithin operation) ↔
      (session.Sending → session.informationCapacity ≤
        session.negotiatedLimits.maxInformationFieldLengthTransmit.toNat) := by
  constructor
  · intro hwithin ⟨hstate,hsend⟩
    obtain hzero | hpos := Nat.eq_zero_or_pos session.informationCapacity
    · rw [hzero]
      exact Nat.zero_le _
    -- the longest Information the codec lets through
    let information := List.replicate session.informationCapacity (0 : UInt8)
    have hlength : information.length=session.informationCapacity := List.length_replicate
    have hle : session.informationCapacity ≤ 2047 :=
      (Nat.min_le_right _ _).trans ((Nat.min_le_left _ _).trans (Nat.sub_le _ _))
    have hshort : information.length < 2^63 := by omega
    have hvalid := validPointer_some hshort
    have hread : Pointer.read (some information) (UInt64.ofNat information.length).toNat=
        information := by
      rw [UInt64.toNat_ofNat',Nat.mod_eq_of_lt (by omega),Pointer.read_some,List.take_length]
    have hfits := (session.outgoing_fits_iff_capacity (informationControl session.sendSequence
      session.receiveSequence false) (List.ne_nil_of_length_pos (by omega))).mpr
        (Nat.le_of_eq hlength)
    have hbuilt := (session.buildInformationFrame_ok_iff hvalid false).mpr
      ⟨hstate,hsend,by rw [hread]; exact hfits⟩
    have hwithin := hwithin (.buildInformationFrame (some information) (.ofNat information.length)
      false) hvalid _ _ _ rfl hbuilt
    rwa [hread,hlength] at hwithin
  · rintro hcapacity operation hvalid information size pollFinal rfl hbuilt
    obtain ⟨hstate,hsend,hfits⟩ := (session.buildInformationFrame_ok_iff hvalid pollFinal).mp hbuilt
    by_cases hempty : information.read size.toNat=[]
    · rw [hempty]
      exact Nat.zero_le _
    · exact ((session.outgoing_fits_iff_capacity _ hempty).mp hfits).trans
        (hcapacity ⟨hstate,hsend⟩)

/-- Along every run: the I-frames that are built, and those that could be built instead, respect the
negotiated length exactly if that length is enforced whenever an I-frame can be sent. -/
theorem informationWithin_along_iff (options : HdlcSessionOptions)
    (operations : List HdlcSessionOperation) :
    (∀ history, history <+: operations → ∀ operation : HdlcSessionOperation,
      operation.WellFormed → (machine.final (new options) history).InformationWithin operation) ↔
    ∀ history, history <+: operations → (machine.final (new options) history).Sending →
      LengthEnforced options history := by
  refine forall₂_congr ?_
  intro history _
  rw [informationWithin_iff]
  exact imp_congr_right fun _ => informationCapacity_le_iff options history

/-- The run of a client that connects without a negotiation and sends one payload. -/
def unnegotiatedRun (payload : List UInt8) : List HdlcSessionOperation :=
  [.buildConnectRequest,.receiveFrame (sampleIncoming .client uaControl []),
    .buildInformationFrame (some payload) (.ofNat payload.length) false]

/-- It sends one byte more than the default length that is in force. -/
theorem unnegotiated_exceeds : ¬ machine.Along InformationWithin (new (sampleOptions .client))
    (unnegotiatedRun (.replicate 129 0)) := by
  intro ⟨_,_,hwithin,_⟩
  have hvalid := validPointer_some (by simp : (List.replicate 129 (0 : UInt8)).length < 2^63)
  have hlength : (Pointer.read (some (List.replicate 129 (0 : UInt8)))
      (UInt64.ofNat (List.replicate 129 (0 : UInt8)).length).toNat).length=129 := by simp
  have hfits := (sampleClient.outgoing_fits_iff_capacity (informationControl 0 0 false)
    (List.ne_nil_of_length_pos (by omega))).mpr (hlength.trans_le (by decide))
  have hbuilt := (sampleClient.buildInformationFrame_ok_iff hvalid false).mpr ⟨rfl,rfl,hfits⟩
  have hle := hwithin _ _ _ rfl hbuilt
  rw [hlength] at hle
  exact absurd hle (by decide)

/-- A negotiated value within the documented range and the endpoint's own configuration. -/
structure Allowed (value maximum configured : ℕ) : Prop where
  positive : 1 ≤ value
  le_maximum : value ≤ maximum
  le_configured : value ≤ configured

/-- The limits a connection may use, for an endpoint with the given configuration. -/
structure InRange (configured limits : HdlcSessionNegotiationLimits) : Prop where
  lengthTransmit : Allowed limits.maxInformationFieldLengthTransmit.toNat 2030
    configured.maxInformationFieldLengthTransmit.toNat
  lengthReceive : Allowed limits.maxInformationFieldLengthReceive.toNat 2030
    configured.maxInformationFieldLengthReceive.toNat
  windowTransmit : Allowed limits.windowSizeTransmit.toNat 7 configured.windowSizeTransmit.toNat
  windowReceive : Allowed limits.windowSizeReceive.toNat 7 configured.windowSizeReceive.toNat

/-- A configuration in the documented ranges, where zero means the default. -/
structure Documented (limits : HdlcSessionNegotiationLimits) : Prop where
  windows : limits.Windows
  lengthTransmit : limits.maxInformationFieldLengthTransmit.toNat ≤ 2030
  lengthReceive : limits.maxInformationFieldLengthReceive.toNat ≤ 2030

theorem allowed_self {value maximum : ℕ} (hpos : 1 ≤ value) (hle : value ≤ maximum) :
    Allowed value maximum value := ⟨hpos,hle,Nat.le_refl _⟩

theorem normalised_length {value : UInt64} (h : value.toNat ≤ 2030) :
    1 ≤ (if value=0 then kDefaultMaxInfoFieldLength else value).toNat ∧
      (if value=0 then kDefaultMaxInfoFieldLength else value).toNat ≤ 2030 := by
  split
  · decide
  · rename_i hzero
    rw [← UInt64.toNat_inj] at hzero
    exact ⟨Nat.pos_of_ne_zero hzero,h⟩

theorem normalised_window {value : UInt8} (h : value.toNat ≤ 7) :
    1 ≤ (if value=0 then kDefaultWindowSize else value).toNat ∧
      (if value=0 then kDefaultWindowSize else value).toNat ≤ 7 := by
  split
  · decide
  · rename_i hzero
    rw [← UInt8.toNat_inj] at hzero
    exact ⟨Nat.pos_of_ne_zero hzero,h⟩

/-- The configured limits are in range for themselves. -/
theorem Documented.normalised {limits : HdlcSessionNegotiationLimits} (h : Documented limits) :
    InRange limits.normalised limits.normalised where
  lengthTransmit := allowed_self (normalised_length h.lengthTransmit).1
    (normalised_length h.lengthTransmit).2
  lengthReceive := allowed_self (normalised_length h.lengthReceive).1
    (normalised_length h.lengthReceive).2
  windowTransmit := allowed_self (normalised_window h.windows.transmit).1
    (normalised_window h.windows.transmit).2
  windowReceive := allowed_self (normalised_window h.windows.receive).1
    (normalised_window h.windows.receive).2

/-- The minimum with the configured value fails on zero only. -/
theorem allowed_min_iff {proposed maximum configured : ℕ} (h : Allowed configured maximum configured) :
    Allowed (min proposed configured) maximum configured ↔ 1 ≤ proposed := by
  constructor
  · intro hallowed
    exact hallowed.positive.trans (Nat.min_le_left _ _)
  · intro hproposed
    exact ⟨Nat.le_min.mpr ⟨hproposed,h.positive⟩,(Nat.min_le_right _ _).trans h.le_maximum,
      Nat.min_le_right _ _⟩

theorem allowed_min_length {proposed configured : UInt64}
    (h : Allowed configured.toNat 2030 configured.toNat) :
    Allowed (min proposed configured).toNat 2030 configured.toNat ↔ proposed≠0 := by
  have hzero : proposed≠0 ↔ 1 ≤ proposed.toNat := by
    rw [Nat.one_le_iff_ne_zero,ne_eq,ne_eq,← UInt64.toNat_inj]
    rfl
  rw [hzero,UInt64.toNat_min]
  exact allowed_min_iff h

theorem allowed_min_window {proposed : UInt32} {configured : UInt8}
    (h : Allowed configured.toNat 7 configured.toNat) :
    Allowed (min proposed configured.toUInt32).toUInt8.toNat 7 configured.toNat ↔ proposed≠0 := by
  have hle := h.le_maximum
  have hzero : proposed≠0 ↔ 1 ≤ proposed.toNat := by
    rw [Nat.one_le_iff_ne_zero,ne_eq,ne_eq,← UInt32.toNat_inj]
    rfl
  have hmin : (min proposed configured.toUInt32).toUInt8.toNat=
      min proposed.toNat configured.toNat := by
    rw [UInt32.toNat_toUInt8,UInt32.toNat_min,UInt8.toNat_toUInt32]
    omega
  rw [hzero,hmin]
  exact allowed_min_iff h

/-- No parameter of the proposal is zero. -/
structure ProposesPositive (params : SnrmParams) : Prop where
  maxInfoTx : params.maxInfoTx≠0
  maxInfoRx : params.maxInfoRx≠0
  windowTx : params.windowTx≠0
  windowRx : params.windowRx≠0

/-- What a server agrees to is in range for every proposal without zeros. -/
theorem inRange_serverLimits_iff {configured : HdlcSessionNegotiationLimits}
    (h : InRange configured configured) (proposed : SnrmParams) :
    InRange configured (serverLimits (negotiateParams proposed configured)) ↔
      ProposesPositive proposed := by
  constructor
  · intro hrange
    exact ⟨(allowed_min_length h.lengthReceive).mp hrange.lengthReceive,
      (allowed_min_length h.lengthTransmit).mp hrange.lengthTransmit,
      (allowed_min_window h.windowReceive).mp hrange.windowReceive,
      (allowed_min_window h.windowTransmit).mp hrange.windowTransmit⟩
  · intro hpositive
    exact ⟨(allowed_min_length h.lengthTransmit).mpr hpositive.maxInfoRx,
      (allowed_min_length h.lengthReceive).mpr hpositive.maxInfoTx,
      (allowed_min_window h.windowTransmit).mpr hpositive.windowRx,
      (allowed_min_window h.windowReceive).mpr hpositive.windowTx⟩

/-- The UA the server is about to send is within its limits. -/
def ResponseFits (session : HdlcSession) : Prop :=
  (session.applyNegotiation.outgoing uaControl session.connectResponseInfoField).Fits
    session.applyNegotiation.options.limits

/-- A call that completes a connection does so with proper values: a server answers a proposal
without zeros, a client hears values in range, and without a negotiation block the values in force
are in range already. -/
def CompletesInRange (configured : HdlcSessionNegotiationLimits) (session : HdlcSession) :
    HdlcSessionOperation → Prop
  | .buildConnectResponse =>
    session.options.role=.server → session.connectResponsePending=true → session.ResponseFits →
      if session.pendingNegotiation.active=true then
        ProposesPositive session.pendingNegotiation.params
      else InRange configured session.negotiatedLimits
  | .receiveFrame frame =>
    session.incomingAddressesMatch frame=true → frame.control.unnumberedKind=.ok .ua →
      session.state=.awaitingConnection →
        InRange configured ((uaLimits frame.information).getD session.negotiatedLimits)
  | _ => True

theorem buildConnectResponse_connected (role : session.options.role=.server)
    (pending : session.connectResponsePending=true) (fits : session.ResponseFits) :
    (session.perform .buildConnectResponse).2.state=.connected := by
  have hlength := session.connectResponseInfoField_length
  have hbuilt := (session.applyNegotiation.buildFrameWith_eq_ok_iff uaControl
    (by omega : session.connectResponseInfoField.length < 2^63) _).mpr ⟨fits,rfl⟩
  change session.applyNegotiation.buildFrameWith kUaControl _=_ at hbuilt
  simp only [perform,builtOutput,buildConnectResponse,role,pending,hbuilt,ne_eq,
    not_true_eq_false,Bool.not_true,Bool.false_eq_true,↓reduceIte]

/-- A session is connected after a call that kept the connection or completed one. -/
theorem connected_cases (h : InWindow options session) {operation : HdlcSessionOperation}
    (hconnected : (session.perform operation).2.state=.connected) :
    session.state=.connected ∨
      (operation=.buildConnectResponse ∧ session.options.role=.server ∧
        session.connectResponsePending=true ∧ session.ResponseFits) ∨
      ∃ frame, operation=.receiveFrame frame ∧ session.incomingAddressesMatch frame=true ∧
        frame.control.unnumberedKind=.ok .ua ∧ session.state=.awaitingConnection := by
  have heffect := session.perform_effect operation
  generalize session.perform operation=result at heffect hconnected
  obtain ⟨output,next⟩ := result
  cases heffect with
  | connectRequested => cases hconnected
  | connectResponseFailed failed role pending =>
    exact .inl (session.applyNegotiation_onlyLimits.state.symm.trans hconnected)
  | connectResponded role pending built =>
    have hlength := session.connectResponseInfoField_length
    have hfits := (session.applyNegotiation.buildFrameWith_eq_ok_iff uaControl (by omega) _).mp
      built
    exact .inr (.inl ⟨rfl,role,pending,hfits.1⟩)
  | disconnectRequested => cases hconnected
  | disconnectResponded => cases hconnected
  | snrmAccepted addresses kind role state => cases state.symm.trans hconnected
  | uaConnected addresses kind state => exact .inr (.inr ⟨_,rfl,addresses,kind,state⟩)
  | uaDisconnected => cases hconnected
  | dmReceived => cases hconnected
  | _ => exact .inl hconnected

/-- The values a connection starts with. -/
theorem inRange_adopted_iff (h : InWindow options session)
    (hrange : InRange options.negotiationLimits.normalised options.negotiationLimits.normalised)
    (role : session.options.role=.server) (pending : session.connectResponsePending=true) :
    InRange options.negotiationLimits.normalised
        (session.perform .buildConnectResponse).2.negotiatedLimits ↔
      if session.pendingNegotiation.active=true then
        ProposesPositive session.pendingNegotiation.params
      else InRange options.negotiationLimits.normalised session.negotiatedLimits := by
  have hoptions : session.options.negotiationLimits=options.negotiationLimits.normalised := by
    rw [h.recoverable.configured]
    rfl
  rw [(session.perform_limits .buildConnectResponse).negotiated]
  by_cases hactive : session.pendingNegotiation.active=true
  · simp only [adopted,role,pending,hactive,and_self,↓reduceIte,adopt_some,adoptLimits,negotiated,
      hoptions]
    exact inRange_serverLimits_iff hrange _
  · simp only [adopted,hactive,and_false,Bool.false_eq_true,↓reduceIte,adopt_none]

theorem inRange_ua (session : HdlcSession) {frame : HdlcFrameBuffer}
    (addresses : session.incomingAddressesMatch frame=true)
    (kind : frame.control.unnumberedKind=.ok .ua) (state : session.state=.awaitingConnection) :
    (session.perform (.receiveFrame frame)).2.negotiatedLimits=
      (uaLimits frame.information).getD session.negotiatedLimits := by
  rw [(session.perform_limits (.receiveFrame frame)).negotiated]
  simp only [adopted,addresses,toOption_eq_some_iff.mpr kind,state,and_self,↓reduceIte]
  cases uaLimits frame.information <;> rfl

/-- The limits of a connection are in range. -/
def ConnectedInRange (configured : HdlcSessionNegotiationLimits) (session : HdlcSession) : Prop :=
  session.state=.connected → InRange configured session.negotiatedLimits

theorem connectedInRange_step_iff (h : InWindow options session)
    (hrange : InRange options.negotiationLimits.normalised options.negotiationLimits.normalised)
    (hsession : ConnectedInRange options.negotiationLimits.normalised session)
    (operation : HdlcSessionOperation) :
    ConnectedInRange options.negotiationLimits.normalised (session.perform operation).2 ↔
      session.CompletesInRange options.negotiationLimits.normalised operation := by
  constructor
  · intro hnext
    cases operation with
    | buildConnectResponse =>
      intro role pending fits
      exact (inRange_adopted_iff h hrange role pending).mp
        (hnext (buildConnectResponse_connected role pending fits))
    | receiveFrame frame =>
      intro addresses kind state
      rw [← session.inRange_ua addresses kind state]
      apply hnext
      rw [session.perform_ua addresses kind state]
    | _ => trivial
  · intro hcompletes hconnected
    obtain hstate | ⟨rfl,role,pending,fits⟩ | ⟨frame,rfl,addresses,kind,state⟩ :=
      connected_cases h hconnected
    · rw [(SameLimits.of_adopted_none session (h.adopted_none (.inl hstate) operation)).negotiated]
      exact hsession hstate
    · exact (inRange_adopted_iff h hrange role pending).mpr (hcompletes role pending fits)
    · rw [session.inRange_ua addresses kind state]
      exact hcompletes addresses kind state

/-- Along every run of an endpoint with a documented configuration, the limits of every connected
state are in range exactly as long as every call that completes a connection does so with proper
values. -/
theorem connectedInRange_along_iff (documented : Documented options.negotiationLimits)
    (operations : List HdlcSessionOperation) :
    machine.Along (fun session operation =>
        ConnectedInRange options.negotiationLimits.normalised (session.perform operation).2)
        (new options) operations ↔
      machine.Along (CompletesInRange options.negotiationLimits.normalised) (new options)
        operations := by
  apply machine.along_congr (fun session => InWindow options session ∧
    ConnectedInRange options.negotiationLimits.normalised session)
  · intro session operation _ ⟨h,hsession⟩
    exact connectedInRange_step_iff h documented.normalised hsession operation
  · intro session operation _ ⟨h,_⟩ hnext
    exact ⟨h.step operation,hnext⟩
  · exact ⟨inWindow_of_reachable ⟨[],rfl⟩,nofun⟩

/-- A negotiation block that proposes a window of zero for the frames of the client. -/
def zeroWindowNegotiation : List UInt8 := [0x81,0x80,0x06,0x07,0x04,0x00,0x00,0x00,0x00]

/-- The run of a server that is asked for it. -/
def zeroWindowRun : List HdlcSessionOperation :=
  [.receiveFrame (sampleIncoming .server snrmControl zeroWindowNegotiation),.buildConnectResponse]

theorem sampleOptions_documented (role : HdlcSessionRole) :
    Documented (sampleOptions role).negotiationLimits :=
  ⟨⟨Nat.zero_le 7,Nat.zero_le 7⟩,Nat.zero_le 2030,Nat.zero_le 2030⟩

theorem connectedInRange_along_iff_zeroWindow :
    machine.Along (fun session operation =>
        ConnectedInRange (sampleOptions .server).negotiationLimits.normalised
          (session.perform operation).2) (new (sampleOptions .server)) zeroWindowRun ↔
      machine.Along (CompletesInRange (sampleOptions .server).negotiationLimits.normalised)
        (new (sampleOptions .server)) zeroWindowRun :=
  connectedInRange_along_iff (sampleOptions_documented .server) zeroWindowRun

/-- A server connects with a window of zero. -/
theorem zeroWindow_connects : ¬ machine.Along (fun session operation =>
    ConnectedInRange (sampleOptions .server).negotiationLimits.normalised
      (session.perform operation).2) (new (sampleOptions .server)) zeroWindowRun := by
  intro ⟨_,hconnected,_⟩
  exact absurd (hconnected rfl).windowReceive.positive (by decide)

end DlmsHdlc.HdlcSession
