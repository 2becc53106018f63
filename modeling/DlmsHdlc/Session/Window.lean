import DlmsHdlc.Session.Reconnect

/-! Transmit windows of sessions that hear from one peer only, and what an exchange of SNRM and UA
between two such sessions leaves behind. -/
namespace DlmsHdlc
open Machine

theorem and_seven_cases (value : UInt8) : ∃ i : Fin 8, value &&& 0x07=UInt8.ofNat i := by
  refine ⟨⟨(value &&& 0x07).toNat,HdlcControl.and_seven_lt value⟩,?_⟩
  rw [UInt8.ofNat_toNat]

/-- The two sequence numbers and the Poll/Final bit do not overlap. -/
theorem makeInformationControl_bits (sendSequence receiveSequence : UInt8) (pollFinal : Bool) :
    let control := makeInformationControl sendSequence receiveSequence pollFinal
    control &&& 0x01=0 ∧ (control >>> 1) &&& 0x07=sendSequence &&& 0x07 ∧
      (control >>> 5) &&& 0x07=receiveSequence &&& 0x07 := by
  obtain ⟨i,hi⟩ := and_seven_cases sendSequence
  obtain ⟨j,hj⟩ := and_seven_cases receiveSequence
  unfold makeInformationControl
  rw [hi,hj]
  clear hi hj
  revert i j pollFinal
  decide +kernel

theorem makeReceiveReadyControl_bits (receiveSequence : UInt8) (pollFinal : Bool) :
    let control := makeReceiveReadyControl receiveSequence pollFinal
    control &&& 0x01≠0 ∧ control &&& 0x03=0x01 ∧
      (control >>> 5) &&& 0x07=receiveSequence &&& 0x07 := by
  obtain ⟨i,hi⟩ := and_seven_cases receiveSequence
  unfold makeReceiveReadyControl
  rw [hi]
  clear hi
  revert i pollFinal
  decide +kernel

/-- The control field of a built I-frame. -/
def informationControl (sendSequence receiveSequence : UInt8) (pollFinal : Bool) : HdlcControl where
  rawValue := makeInformationControl sendSequence receiveSequence pollFinal
  supported := by
    simp [isSupportedControl,(makeInformationControl_bits sendSequence receiveSequence pollFinal).1]

/-- The control field of a built receive-ready frame. -/
def receiveReadyControl (receiveSequence : UInt8) (pollFinal : Bool) : HdlcControl where
  rawValue := makeReceiveReadyControl receiveSequence pollFinal
  supported := by
    simp [isSupportedControl,(makeReceiveReadyControl_bits receiveSequence pollFinal).2.1]

section Controls
variable (sendSequence receiveSequence : UInt8) (pollFinal : Bool)

@[simp] theorem informationControl_frameKind :
    (informationControl sendSequence receiveSequence pollFinal).frameKind=.information :=
  if_pos (makeInformationControl_bits sendSequence receiveSequence pollFinal).1

@[simp] theorem informationControl_sendSequence :
    (informationControl sendSequence receiveSequence pollFinal).sendSequence=
      sendSequence &&& 0x07 := by
  rw [HdlcControl.sendSequence,if_neg (by simp)]
  exact (makeInformationControl_bits sendSequence receiveSequence pollFinal).2.1

@[simp] theorem informationControl_receiveSequence :
    (informationControl sendSequence receiveSequence pollFinal).receiveSequence=
      receiveSequence &&& 0x07 := by
  rw [HdlcControl.receiveSequence,if_neg (by simp)]
  exact (makeInformationControl_bits sendSequence receiveSequence pollFinal).2.2

@[simp] theorem receiveReadyControl_frameKind :
    (receiveReadyControl receiveSequence pollFinal).frameKind=.supervisory := by
  obtain ⟨hinformation,hsupervisory,_⟩ := makeReceiveReadyControl_bits receiveSequence pollFinal
  exact (if_neg hinformation).trans (if_pos hsupervisory)

@[simp] theorem receiveReadyControl_receiveSequence :
    (receiveReadyControl receiveSequence pollFinal).receiveSequence=receiveSequence &&& 0x07 := by
  rw [HdlcControl.receiveSequence,if_neg (by simp)]
  exact (makeReceiveReadyControl_bits receiveSequence pollFinal).2.2

end Controls

/-- The contract of a pointer argument, as for `HdlcFrame.WellFormed`. -/
def ValidPointer (data : Pointer) (size : UInt64) : Prop :=
  size.toNat < 2^63 ∧ (data.read size.toNat).length=size.toNat

/-- The pointer arguments of a call keep their contract. -/
def HdlcSessionOperation.WellFormed : HdlcSessionOperation → Prop
  | .buildConnectRequestWith information size => ValidPointer information size
  | .buildDisconnectRequestWith information size => ValidPointer information size
  | .buildInformationFrame information size _ => ValidPointer information size
  | _ => True

/-- Both configured windows fit three-bit sequence numbers; a zero means the default of one. -/
structure HdlcSessionNegotiationLimits.Windows (limits : HdlcSessionNegotiationLimits) : Prop where
  transmit : limits.windowSizeTransmit.toNat ≤ 7
  receive : limits.windowSizeReceive.toNat ≤ 7

theorem HdlcSessionNegotiationLimits.Windows.normalised {limits : HdlcSessionNegotiationLimits}
    (h : limits.Windows) : limits.normalised.Windows := by
  constructor
  · simp only [HdlcSessionNegotiationLimits.normalised]
    split
    · decide
    · exact h.transmit
  · simp only [HdlcSessionNegotiationLimits.normalised]
    split
    · decide
    · exact h.receive

namespace HdlcSession

/-- A frame that a session with these options can have built, whatever happened to it before. -/
inductive Sent (options : HdlcSessionOptions) : HdlcFrameBuffer → Prop
  | decoded {session : HdlcSession} {operation : HdlcSessionOperation} {bytes : List UInt8}
      {limits : HdlcCodecLimits} {frame : HdlcFrameBuffer} (reachable : Reachable options session)
      (wellFormed : operation.WellFormed) (built : (session.perform operation).1=(.ok,bytes))
      (decoded : decodeFrame (some bytes) bytes.length limits=.ok frame) : Sent options frame

/-- A session that has received frames of one peer only. -/
def HeardFrom (peer options : HdlcSessionOptions) (session : HdlcSession) : Prop :=
  ∃ operations, (∀ frame, .receiveFrame frame ∈ operations → Sent peer frame) ∧
    session=machine.final (new options) operations

variable {options peer : HdlcSessionOptions} {session : HdlcSession}

theorem Reachable.step (h : Reachable options session) (operation : HdlcSessionOperation) :
    Reachable options (session.perform operation).2 := by
  obtain ⟨operations,rfl⟩ := h
  refine ⟨operations ++ [operation],?_⟩
  rw [Mealy.final_append]
  rfl

theorem decodeFrame_nil (limits : HdlcCodecLimits) (frame : HdlcFrameBuffer) :
    decodeFrame (some []) 0 limits≠.ok frame := by
  rw [decodeFrame_eq_parseFrame]
  exact nofun

/-- What is decoded from a built frame is that frame. -/
theorem decoded_of_built (control : HdlcControl) {information : Pointer} {size : UInt64}
    {bytes : List UInt8} (valid : ValidPointer information size)
    (hbuilt : session.buildFrame control.encode information size=.ok bytes)
    {limits : HdlcCodecLimits} {frame : HdlcFrameBuffer}
    (hdecode : decodeFrame (some bytes) bytes.length limits=.ok frame) :
    frame=session.outgoing control (information.read size.toNat) := by
  obtain ⟨hfits,rfl⟩ := (session.buildFrame_eq_ok_iff control information size valid.1 valid.2
    bytes).mp hbuilt
  exact decoded_eq_outgoing hfits hdecode

theorem validPointer_none : ValidPointer none 0 := ⟨by decide,rfl⟩

theorem validPointer_some {payload : List UInt8} (h : payload.length < 2^63) :
    ValidPointer (some payload) (.ofNat payload.length) := by
  have hsize : (UInt64.ofNat payload.length).toNat=payload.length := by
    rw [UInt64.toNat_ofNat',Nat.mod_eq_of_lt (by omega)]
  rw [ValidPointer,hsize,Pointer.read_some,List.take_length]
  exact ⟨h,rfl⟩

theorem validPointer_disconnect {information : Pointer} {size : UInt64}
    (h : ValidPointer information size) :
    ValidPointer (if information≠none ∧ 0 < size then information else none)
      (if information≠none ∧ 0 < size then size else 0) := by
  split
  · exact h
  · exact validPointer_none

theorem connectInfoField_length (session : HdlcSession) (includeNegotiation : Bool)
    (information : Pointer) (size : UInt64) :
    (session.connectInfoField includeNegotiation information size).length ≤ 23+size.toNat := by
  rw [connectInfoField,List.length_append]
  refine Nat.add_le_add ?_ ?_
  · split
    · exact Nat.le_refl 23
    · exact Nat.zero_le 23
  · split
    · rw [Pointer.read,List.length_take]
      exact Nat.min_le_left _ _
    · exact Nat.zero_le _

theorem buildConnectRequestInternal_error {includeNegotiation : Bool} {information : Pointer}
    {size : UInt64} {status : HdlcStatus} {next : HdlcSession}
    (h : session.buildConnectRequestInternal includeNegotiation information size=
      (.error status,next)) : status≠.ok := by
  unfold buildConnectRequestInternal at h
  split at h
  · cases h
    decide
  split at h
  · cases h
    decide
  dsimp only at h
  split at h
  · rename_i hbuilt
    cases h
    exact session.buildFrame_error hbuilt
  · cases h

/-- What either overload of the connect request hands to the encoder, when it succeeds. -/
theorem asksToConnect_ok {operation : HdlcSessionOperation} (valid : operation.WellFormed)
    (asks : AsksToConnect operation) {snrm : List UInt8} {requesting : HdlcSession}
    (h : session.perform operation=((.ok,snrm),requesting)) :
    requesting={ session.resetSequences with state := .awaitingConnection } ∧
      ∃ includeNegotiation information size, (includeNegotiation=true ∨ information=none) ∧
        let infoField := session.connectInfoField includeNegotiation information size
        infoField.length < 2^63 ∧ session.buildFrameWith kSnrmControl infoField=.ok snrm := by
  have hinternal : ∀ includeNegotiation information size, size.toNat < 2^63 →
      (includeNegotiation=true ∨ information=none) →
      builtOutput (session.buildConnectRequestInternal includeNegotiation information size)=
        ((.ok,snrm),requesting) →
      requesting={ session.resetSequences with state := .awaitingConnection } ∧
        ∃ includeNegotiation information size, (includeNegotiation=true ∨ information=none) ∧
          let infoField := session.connectInfoField includeNegotiation information size
          infoField.length < 2^63 ∧ session.buildFrameWith kSnrmControl infoField=.ok snrm := by
    intro includeNegotiation information size hsize hcall hok
    have hlength := session.connectInfoField_length includeNegotiation information size
    generalize hresult :
      session.buildConnectRequestInternal includeNegotiation information size=result at hok
    obtain ⟨built,next⟩ := result
    cases built with
    | error status => exact absurd (congrArg (·.1.1) hok) (buildConnectRequestInternal_error hresult)
    | ok output =>
      cases hok
      obtain ⟨hbuilt,hnext⟩ := buildConnectRequestInternal_ok hresult
      have hshort := buildFrameWith_ok_length snrmControl hbuilt (by omega)
      exact ⟨hnext,_,_,_,hcall,by omega,hbuilt⟩
  obtain rfl | ⟨information,size,rfl⟩ := asks
  · exact hinternal _ _ _ (by decide) (.inr rfl) h
  · exact hinternal _ _ _ valid.1 (.inl rfl) h

/-- What either overload of the disconnect request hands to the encoder. -/
theorem validPointer_disconnectRequest {operation : HdlcSessionOperation} {information : Pointer}
    {size : UInt64} (wellFormed : operation.WellFormed)
    (request : operation=.buildDisconnectRequestWith information size ∨
      operation=.buildDisconnectRequest ∧ information=none ∧ size=0) :
    ValidPointer (if information≠none ∧ 0 < size then information else none)
      (if information≠none ∧ 0 < size then size else 0) := by
  apply validPointer_disconnect
  obtain rfl | ⟨_,rfl,rfl⟩ := request
  · exact wellFormed
  · exact validPointer_none

/-- A server answers with nothing or with values its own receive window allows. -/
theorem connectResponseInfoField_cases (session : HdlcSession) :
    session.connectResponseInfoField=[] ∨
      session.connectResponseInfoField=encodeSnrmNegotiationBlock session.negotiated := by
  unfold connectResponseInfoField
  split
  · exact .inr rfl
  · exact .inl rfl

theorem negotiated_window_le (session : HdlcSession) :
    session.negotiated.windowTx.toNat ≤ session.options.negotiationLimits.windowSizeReceive.toNat ∧
      session.negotiated.windowRx.toNat ≤
        session.options.negotiationLimits.windowSizeTransmit.toNat := by
  constructor
  · refine (UInt32.toNat_min _ _).trans_le (Nat.le_trans (Nat.min_le_right _ _) ?_)
    rw [UInt8.toNat_toUInt32]
  · refine (UInt32.toNat_min _ _).trans_le (Nat.le_trans (Nat.min_le_right _ _) ?_)
    rw [UInt8.toNat_toUInt32]

theorem Configured.windows (h : session.Configured options)
    (windows : options.negotiationLimits.Windows) : session.options.negotiationLimits.Windows := by
  rw [h]
  exact windows.normalised

/-- The windows of a UA of a server respect the server's own windows. -/
theorem sent_ua_window (role : peer.role=.server) (windows : peer.negotiationLimits.Windows)
    {frame : HdlcFrameBuffer} (sent : Sent peer frame)
    (kind : frame.control.unnumberedKind=.ok .ua) {uaParams : SnrmParams} {consumed : ℕ}
    (hparsed : parseSnrmInfoField frame.information=.ok (uaParams,consumed))
    (hconsumed : 0 < consumed) : uaParams.windowTx.toNat ≤ 7 := by
  obtain ⟨reachable,wellFormed,built,hdecode⟩ := sent
  rename_i session operation bytes limits
  have hconfigured := configured_of_reachable reachable
  have heffect := session.perform_effect operation
  have hnone : parseSnrmInfoField []=.ok (defaultSnrmParams,0) := rfl
  generalize session.perform operation=result at heffect built
  obtain ⟨output,next⟩ := result
  subst built
  cases heffect with
  | refused failed => exact absurd rfl failed
  | connectRequested request role' => cases (hconfigured.role.trans role).symm.trans role'
  | connectResponded role' pending built =>
    have happlied := session.connectResponseInfoField_length
    obtain ⟨hfits,rfl⟩ := (session.applyNegotiation.buildFrameWith_eq_ok_iff uaControl (by omega)
      bytes).mp built
    cases decoded_eq_outgoing hfits hdecode
    obtain hempty | hblock := session.connectResponseInfoField_cases
    · rw [outgoing,hempty] at hparsed
      cases hparsed.symm.trans hnone
      cases hconsumed
    · have hown := hconfigured.windows windows
      obtain ⟨hwindowTx,hwindowRx⟩ := session.negotiated_window_le
      have hcoded := parseSnrmInfoField_coded (hwindowTx.trans (hown.receive.trans (by decide)))
        (hwindowRx.trans (hown.transmit.trans (by decide))) []
      rw [List.append_nil,← hblock] at hcoded
      cases hparsed.symm.trans hcoded
      exact hwindowTx.trans hown.receive
  | disconnectRequested request state built =>
    have hvalid := validPointer_disconnectRequest wellFormed request
    cases decoded_of_built discControl hvalid built hdecode
    cases discControl_kind.symm.trans kind
  | disconnectResponded pending built =>
    cases decoded_of_built uaControl validPointer_none built hdecode
    cases hparsed.symm.trans hnone
    cases hconsumed
  | dmResponded pending built =>
    cases decoded_of_built dmControl validPointer_none built hdecode
    cases dmControl_kind.symm.trans kind
  | informationSent state canSend built =>
    cases decoded_of_built (informationControl _ _ _) wellFormed built hdecode
    rw [HdlcControl.unnumberedKind_of_ne (by simp [outgoing])] at kind
    cases kind
  | receiveReadySent state built =>
    cases decoded_of_built (receiveReadyControl _ _) validPointer_none built hdecode
    rw [HdlcControl.unnumberedKind_of_ne (by simp [outgoing])] at kind
    cases kind
  | snrmRejected failed => exact absurd rfl failed
  | _ => exact absurd hdecode (decodeFrame_nil _ _)

/-- One call keeps the window below eight, if the UAs a client receives respect it. -/
theorem window_step (h : Recoverable options session) (windows : options.negotiationLimits.Windows)
    (hwindow : session.windowSizeTransmit.toNat ≤ 7) (operation : HdlcSessionOperation)
    (hua : options.role=.client → ∀ frame, operation=.receiveFrame frame →
      frame.control.unnumberedKind=.ok .ua → ∀ uaParams consumed,
      parseSnrmInfoField frame.information=.ok (uaParams,consumed) → 0 < consumed →
        uaParams.windowTx.toNat ≤ 7) :
    (session.perform operation).2.windowSizeTransmit.toNat ≤ 7 := by
  have happly : session.applyNegotiation.windowSizeTransmit.toNat ≤ 7 := by
    have hown := (session.negotiated_window_le.2).trans (h.configured.windows windows).transmit
    unfold applyNegotiation
    split
    · change session.negotiated.windowRx.toUInt8.toNat ≤ 7
      rw [UInt32.toNat_toUInt8]
      exact (Nat.mod_le _ _).trans hown
    · exact hwindow
  have heffect := session.perform_effect operation
  generalize session.perform operation=result at heffect ⊢
  obtain ⟨output,next⟩ := result
  cases heffect with
  | connectResponseFailed => exact happly
  | connectResponded => exact happly
  | @uaConnected frame addresses kind state =>
    obtain hsame | ⟨uaParams,consumed,hparsed,hconsumed,hsame⟩ :=
      session.applyUa_cases frame.information <;> rw [hsame]
    · exact hwindow
    · have hle := hua (h.requesting state) frame rfl kind uaParams consumed hparsed hconsumed
      change uaParams.windowTx.toUInt8.toNat ≤ 7
      rw [UInt32.toNat_toUInt8]
      exact (Nat.mod_le _ _).trans hle
  | _ => exact hwindow

/-- A server's window stays below eight, whatever the server receives. -/
theorem server_window_le (h : Reachable options session) (role : options.role=.server)
    (windows : options.negotiationLimits.Windows) : session.windowSizeTransmit.toNat ≤ 7 := by
  obtain ⟨operations,rfl⟩ := h
  apply And.right (a := Recoverable options (machine.final (new options) operations))
  apply machine.final_invariant
    (fun session => Recoverable options session ∧ session.windowSizeTransmit.toNat ≤ 7)
  · rintro session operation ⟨h,hwindow⟩
    refine ⟨h.step operation,window_step h windows hwindow operation ?_⟩
    intro hclient
    cases role.symm.trans hclient
  · exact ⟨recoverable_new options,windows.normalised.transmit⟩

/-- So does the window of a client that hears from such a server only. -/
theorem client_window_le (h : HeardFrom peer options session) (role : peer.role=.server)
    (windows : options.negotiationLimits.Windows) (peerWindows : peer.negotiationLimits.Windows) :
    session.windowSizeTransmit.toNat ≤ 7 := by
  obtain ⟨operations,hsent,rfl⟩ := h
  apply And.right (a := Recoverable options (machine.final (new options) operations))
  apply machine.final_invariant_mem
    (fun session => Recoverable options session ∧ session.windowSizeTransmit.toNat ≤ 7)
  · rintro session operation hoperation ⟨h,hwindow⟩
    refine ⟨h.step operation,window_step h windows hwindow operation ?_⟩
    rintro _ frame rfl kind uaParams consumed hparsed hconsumed
    exact sent_ua_window role peerWindows (hsent frame hoperation) kind hparsed hconsumed
  · exact ⟨recoverable_new options,windows.normalised.transmit⟩

/-- A completed exchange: the server accepts the SNRM the client built, and the client accepts the
UA the server answered with. User information of the SNRM keeps the contract of pointers. -/
inductive Exchange (client server : HdlcSession) : HdlcSession → HdlcSession → Prop
  | completed {operation : HdlcSessionOperation} {snrm ua : List UInt8}
      {requesting client' server' : HdlcSession} {request response : HdlcFrameBuffer}
      {limits limits' : HdlcCodecLimits} (valid : operation.WellFormed)
      (asks : AsksToConnect operation)
      (requested : client.perform operation=((.ok,snrm),requesting))
      (decodedRequest : decodeFrame (some snrm) snrm.length limits=.ok request)
      (accepted : (server.receiveFrame request).1=.ok)
      (responded : (server.receiveFrame request).2.buildConnectResponse=(.ok ua,server'))
      (decodedResponse : decodeFrame (some ua) ua.length limits'=.ok response)
      (confirmed : requesting.receiveFrame response=(.ok,client')) :
      Exchange client server client' server'

/-- Connected, and nothing sent or received yet. -/
structure Opened (session : HdlcSession) : Prop where
  state : session.state=.connected
  send : session.sendSequence=0
  receive : session.receiveSequence=0
  acknowledge : session.acknowledgeSequence=0

theorem buildConnectResponse_opened {session' : HdlcSession} {ua : List UInt8}
    (h : session.buildConnectResponse=(.ok ua,session')) : session'.Opened := by
  rw [(buildConnectResponse_ok h).2]
  exact ⟨rfl,rfl,rfl,rfl⟩

theorem receiveUa_opened (hstate : session.state=.awaitingConnection) (information : List UInt8) :
    (session.receiveUa information).2.Opened := by
  rw [receiveUa,hstate]
  exact ⟨rfl,rfl,rfl,rfl⟩

variable {client server client' server' : HdlcSession}
  {clientOptions serverOptions : HdlcSessionOptions}

/-- A client that takes in the UA it waited for is connected. -/
theorem receiveFrame_ua_opened (hstate : session.state=.awaitingConnection)
    {frame : HdlcFrameBuffer} (kind : frame.control.unnumberedKind=.ok .ua)
    {session' : HdlcSession} (h : session.receiveFrame frame=(.ok,session')) : session'.Opened := by
  have hopened := receiveUa_opened hstate frame.information
  have haddresses := session.incomingAddressesMatch_of_ok (congrArg Prod.fst h)
  rw [session.receiveFrame_unnumbered haddresses kind] at h
  dsimp only at h
  rw [h] at hopened
  exact hopened

/-- The UA of a server is decoded as one. -/
theorem decoded_response {session' : HdlcSession} {ua : List UInt8}
    (h : session.buildConnectResponse=(.ok ua,session')) {limits : HdlcCodecLimits}
    {frame : HdlcFrameBuffer} (hdecode : decodeFrame (some ua) ua.length limits=.ok frame) :
    frame.control.unnumberedKind=.ok .ua := by
  obtain ⟨hbuilt,_⟩ := buildConnectResponse_ok h
  have hlength := session.connectResponseInfoField_length
  obtain ⟨hfits,rfl⟩ := (session.applyNegotiation.buildFrameWith_eq_ok_iff uaControl (by omega)
    ua).mp hbuilt
  cases decoded_eq_outgoing hfits hdecode
  exact uaControl_kind

/-- Both sides of an exchange are open. -/
theorem Exchange.opened (h : Exchange client server client' server') :
    client'.Opened ∧ server'.Opened := by
  obtain ⟨valid,asks,requested,decodedRequest,accepted,responded,decodedResponse,confirmed⟩ := h
  obtain ⟨rfl,_⟩ := asksToConnect_ok valid asks requested
  exact ⟨receiveFrame_ua_opened rfl (decoded_response responded decodedResponse) confirmed,
    buildConnectResponse_opened responded⟩

/-- The two calls of the client of an exchange: the UA it takes in is one the server has sent. -/
theorem Exchange.client_calls (h : Exchange client server client' server')
    (hserver : Reachable serverOptions server) :
    ∃ operation response, ∃ requesting : HdlcSession, AsksToConnect operation ∧
      Sent serverOptions response ∧ response.control.unnumberedKind=.ok .ua ∧
      client'=machine.final client [operation,.receiveFrame response] ∧
      requesting.windowSizeTransmit=client.windowSizeTransmit ∧
      client'={ (requesting.applyUa response.information).resetSequences with
        state := .connected } := by
  obtain ⟨valid,asks,requested,decodedRequest,accepted,responded,decodedResponse,confirmed⟩ := h
  rename_i operation snrm ua requesting request response limits limits'
  have hresponded : (server.receiveFrame request).2.perform .buildConnectResponse=
      ((.ok,ua),server') := congrArg builtOutput responded
  have hsent : Sent serverOptions response := by
    refine Sent.decoded (hserver.step (.receiveFrame request)) ?_ (congrArg Prod.fst hresponded)
      decodedResponse
    trivial
  have hkind := decoded_response responded decodedResponse
  have haddresses := requesting.incomingAddressesMatch_of_ok (congrArg Prod.fst confirmed)
  obtain ⟨hrequesting,_⟩ := asksToConnect_ok valid asks requested
  have hconfirmed := confirmed
  rw [requesting.receiveFrame_unnumbered haddresses hkind] at hconfirmed
  refine ⟨operation,response,requesting,asks,hsent,hkind,?_,?_,?_⟩
  · rw [Mealy.final,Mealy.final,Mealy.final]
    change client'=((client.perform operation).2.receiveFrame response).2
    rw [requested,confirmed]
  · rw [hrequesting]
    rfl
  · rw [hrequesting] at hconfirmed ⊢
    exact (congrArg Prod.snd hconfirmed).symm

theorem Exchange.client_reachable (h : Exchange client server client' server')
    (hclient : Reachable clientOptions client) (hserver : Reachable serverOptions server) :
    Reachable clientOptions client' := by
  obtain ⟨operations,rfl⟩ := hclient
  obtain ⟨operation,response,_,_,_,_,rfl,_⟩ := h.client_calls hserver
  exact ⟨operations ++ [operation,.receiveFrame response],(Mealy.final_append ..).symm⟩

theorem Exchange.server_reachable (h : Exchange client server client' server')
    (hserver : Reachable serverOptions server) : Reachable serverOptions server' := by
  obtain ⟨valid,asks,requested,decodedRequest,accepted,responded,decodedResponse,confirmed⟩ := h
  rename_i operation snrm ua requesting request response limits limits'
  have hresponded := (hserver.step (.receiveFrame request)).step .buildConnectResponse
  change Reachable _ (builtOutput (server.receiveFrame request).2.buildConnectResponse).2
    at hresponded
  rwa [responded] at hresponded

/-- Both sides of an exchange can build any frame without Information. -/
theorem Exchange.fits_empty (h : Exchange client server client' server')
    (hclient : Reachable clientOptions client) (hserver : Reachable serverOptions server)
    (control : HdlcControl) : (client'.outgoing control []).Fits client'.options.limits ∧
      (server'.outgoing control []).Fits server'.options.limits := by
  have hclient' := configured_of_reachable (h.client_reachable hclient hserver)
  have hserver' := configured_of_reachable (h.server_reachable hserver)
  obtain ⟨valid,asks,requested,decodedRequest,accepted,responded,decodedResponse,confirmed⟩ := h
  rename_i operation snrm ua requesting request response limits limits'
  constructor
  · obtain ⟨_,_,_,_,_,hlength,hbuilt⟩ := asksToConnect_ok valid asks requested
    obtain ⟨hfits,_⟩ := (client.buildFrameWith_eq_ok_iff snrmControl hlength snrm).mp hbuilt
    exact hclient'.fits_empty (configured_of_reachable hclient) hfits control
  · have hreceived := configured_of_reachable (hserver.step (.receiveFrame request))
    have happlied : (server.receiveFrame request).2.applyNegotiation.Configured serverOptions := by
      obtain hsame | ⟨negotiated,hsame⟩ :=
        (server.receiveFrame request).2.applyNegotiation_cases <;> rw [hsame]
      · exact hreceived
      · exact hreceived.adoptLimits negotiated
    have hlength := (server.receiveFrame request).2.connectResponseInfoField_length
    obtain ⟨hfits,_⟩ := (HdlcSession.buildFrameWith_eq_ok_iff _ uaControl (by omega) ua).mp
      (buildConnectResponse_ok responded).1
    exact hserver'.fits_empty happlied hfits control

/-- The client still hears from the server only. -/
theorem Exchange.heardFrom (h : Exchange client server client' server')
    (hclient : HeardFrom serverOptions clientOptions client)
    (hserver : Reachable serverOptions server) : HeardFrom serverOptions clientOptions client' := by
  obtain ⟨operations,hsent,rfl⟩ := hclient
  obtain ⟨operation,response,_,asks,hresponse,_,rfl,_⟩ := h.client_calls hserver
  refine ⟨operations ++ [operation,.receiveFrame response],?_,(Mealy.final_append ..).symm⟩
  intro frame hframe
  simp only [List.mem_append,List.mem_cons,List.not_mem_nil,or_false] at hframe
  obtain hold | rfl | hframe := hframe
  · exact hsent frame hold
  · obtain hasks | ⟨_,_,hasks⟩ := asks <;> cases hasks
  · cases hframe
    exact hresponse

/-- A window above seven is one the client had before the exchange: its UA carried no block. -/
theorem Exchange.window_cases (h : Exchange client server client' server')
    (hserver : Reachable serverOptions server) (role : serverOptions.role=.server)
    (windows : serverOptions.negotiationLimits.Windows) :
    client'.windowSizeTransmit.toNat ≤ 7 ∨
      client'.windowSizeTransmit=client.windowSizeTransmit := by
  obtain ⟨_,response,requesting,_,hsent,hkind,_,hwindow,hclient'⟩ := h.client_calls hserver
  rw [hclient']
  obtain hsame | ⟨uaParams,consumed,hparsed,hconsumed,hsame⟩ :=
    requesting.applyUa_cases response.information
  · right
    rw [hsame]
    exact hwindow
  · left
    rw [hsame]
    change uaParams.windowTx.toUInt8.toNat ≤ 7
    rw [UInt32.toNat_toUInt8]
    exact (Nat.mod_le _ _).trans (sent_ua_window role windows hsent hkind hparsed hconsumed)

end HdlcSession
end DlmsHdlc
