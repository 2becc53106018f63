import DlmsHdlc.Session.Alike
import DlmsHdlc.Session.Window

/-! User information behind the negotiation block of an SNRM and in a DISC: opaque to the encoder,
the decoder, the parser of the block and all that is answered later. -/
namespace DlmsHdlc
namespace HdlcSession
open Machine

/-- The two commands that carry user information. -/
inductive UserCommand
  | connect
  | disconnect
  deriving DecidableEq, Repr

variable {sender receiver receiver' session : HdlcSession} {command : UserCommand}
  {userInformation : List UInt8}

/-- The overload of the command with user information. -/
def buildCommand (session : HdlcSession) :
    UserCommand → Pointer → UInt64 → Except HdlcStatus (List UInt8) × HdlcSession
  | .connect => session.buildConnectRequestWith
  | .disconnect => session.buildDisconnectRequestWith

/-- The command is built, decoded under any limits, and taken in by the peer. -/
inductive Delivered (sender receiver : HdlcSession) (command : UserCommand)
    (userInformation : List UInt8) (receiver' : HdlcSession) : Prop
  | delivered {data : Pointer} {size : UInt64} {bytes : List UInt8} {sender' : HdlcSession}
      {limits : HdlcCodecLimits} {frame : HdlcFrameBuffer} (valid : ValidPointer data size)
      (reads : data.read size.toNat=userInformation)
      (built : sender.buildCommand command data size=(.ok bytes,sender'))
      (decoded : decodeFrame (some bytes) bytes.length limits=.ok frame)
      (received : receiver.receiveFrame frame=(.ok,receiver'))

/-- A client that can build one SNRM can build every other one whose frame is encoded. -/
theorem buildConnectRequestWith_replaced {data data' : Pointer} {size size' : UInt64}
    {bytes bytes' : List UInt8} {sender' : HdlcSession}
    (hbuilt : sender.buildConnectRequestWith data size=(.ok bytes,sender'))
    (hframe : sender.buildFrameWith kSnrmControl (sender.connectInfoField true data' size')=
      .ok bytes') : sender.buildConnectRequestWith data' size'=(.ok bytes',sender') := by
  obtain ⟨_,rfl⟩ := buildConnectRequestInternal_ok hbuilt
  unfold buildConnectRequestWith buildConnectRequestInternal at hbuilt ⊢
  by_cases hrole : sender.options.role≠.client
  · rw [if_pos hrole] at hbuilt
    cases hbuilt
  by_cases hstate : sender.state≠.disconnected
  · rw [if_neg hrole,if_pos hstate] at hbuilt
    cases hbuilt
  · rw [if_neg hrole,if_neg hstate]
    dsimp only
    rw [hframe]

/-- The SNRM of a client is the block of its own values with the user information behind it. -/
theorem buildConnectRequestWith_decoded {data : Pointer} {size : UInt64} {bytes : List UInt8}
    {sender' : HdlcSession} {limits : HdlcCodecLimits} {frame : HdlcFrameBuffer}
    (valid : ValidPointer data size)
    (hbuilt : sender.buildConnectRequestWith data size=(.ok bytes,sender'))
    (hdecode : decodeFrame (some bytes) bytes.length limits=.ok frame) :
    let outgoing := sender.outgoing snrmControl (encodeSnrmNegotiationBlock
      (proposedParams sender.options.negotiationLimits) ++ data.read size.toNat)
    frame=outgoing ∧ outgoing.Fits sender.options.limits ∧ outgoing.Fits limits := by
  obtain ⟨hsnrm,_⟩ := buildConnectRequestInternal_ok hbuilt
  obtain ⟨hsize,hread⟩ := valid
  rw [connectInfoField_read] at hsnrm
  -- block and user information may add up beyond 2^63 before the encoder refuses them
  have hlength := buildFrameWith_ok_length snrmControl hsnrm
    (by rw [List.length_append,encodeSnrmNegotiationBlock_length]; omega)
  obtain ⟨hfits,rfl⟩ := (sender.buildFrameWith_eq_ok_iff snrmControl
    (Nat.lt_of_le_of_lt hlength (by decide)) bytes).mp hsnrm
  obtain ⟨hdecoder,rfl⟩ := (HdlcFrameBuffer.decodeFrame_image_eq_ok_iff _ _ hfits.format_le
    frame).mp hdecode
  exact ⟨rfl,hfits,hdecoder⟩

/-- The server has taken in what stands behind the 23 bytes of the block, and remembers nothing
else of it. -/
theorem receiveFrame_snrm_block {params : SnrmParams} (hwtx : params.windowTx.toNat ≤ 255)
    (hwrx : params.windowRx.toNat ≤ 255)
    (hreceived : receiver.receiveFrame (sender.outgoing snrmControl
      (encodeSnrmNegotiationBlock params ++ userInformation))=(.ok,receiver')) :
    receiver'={ receiver.acceptSnrm params.coded 23 [] with
      receivedUserInformation := userInformation } := by
  obtain ⟨proposed,consumed,hparsed,_,haccept⟩ := receiveFrame_snrm_ok snrmControl_kind
    (congrArg Prod.fst hreceived)
  have hblock := parseSnrmInfoField_coded hwtx hwrx userInformation
  cases hparsed.symm.trans hblock
  rw [hreceived] at haccept
  have hdrop : (encodeSnrmNegotiationBlock params ++ userInformation).drop 23=userInformation :=
    List.drop_left' (encodeSnrmNegotiationBlock_length params)
  obtain ⟨_,rfl⟩ := Prod.mk.inj haccept
  simp only [acceptSnrm,outgoing,hdrop]

/-- Whether it accepts the SNRM does not depend on the user information. -/
theorem receiveFrame_snrm_block_ok {params : SnrmParams} (hwtx : params.windowTx.toNat ≤ 255)
    (hwrx : params.windowRx.toNat ≤ 255)
    (hok : (receiver.receiveFrame (sender.outgoing snrmControl
      (encodeSnrmNegotiationBlock params ++ userInformation))).1=.ok) (other : List UInt8) :
    (receiver.receiveFrame (sender.outgoing snrmControl
      (encodeSnrmNegotiationBlock params ++ other))).1=.ok := by
  have haddresses := receiver.incomingAddressesMatch_of_ok hok
  have hother : receiver.incomingAddressesMatch (sender.outgoing snrmControl
      (encodeSnrmNegotiationBlock params ++ other))=true := haddresses
  rw [receiver.receiveFrame_unnumbered haddresses snrmControl_kind] at hok
  rw [receiver.receiveFrame_unnumbered hother snrmControl_kind]
  obtain ⟨role,state,_⟩ := receiver.receiveSnrm_ok_iff.mp hok
  exact receiver.receiveSnrm_ok_iff.mpr
    ⟨role,state,_,_,parseSnrmInfoField_coded hwtx hwrx other⟩

/-- Without the user information a frame is within the same limits. -/
theorem fits_block {control : HdlcControl} {block : List UInt8} {limits : HdlcCodecLimits}
    (hblock : block≠[]) (h : (sender.outgoing control (block ++ userInformation)).Fits limits) :
    (sender.outgoing control block).Fits limits := by
  obtain ⟨hinformation,hformat,hframe⟩ := h
  have hlength : (sender.outgoing control block).formatLength ≤
      (sender.outgoing control (block ++ userInformation)).formatLength := by
    simp only [HdlcFrameBuffer.formatLength,outgoing,List.append_eq_nil_iff,hblock,false_and,
      ↓reduceIte,List.length_append]
    omega
  refine ⟨?_,by omega,by omega⟩
  simp only [outgoing,List.length_append] at hinformation
  exact Nat.le_trans (Nat.le_add_right _ _) hinformation

/-- A DISC carries its user information alone. -/
theorem buildDisconnectRequestWith_decoded {data : Pointer} {size : UInt64} {bytes : List UInt8}
    {sender' : HdlcSession} {limits : HdlcCodecLimits} {frame : HdlcFrameBuffer}
    (valid : ValidPointer data size)
    (hbuilt : sender.buildDisconnectRequestWith data size=(.ok bytes,sender'))
    (hdecode : decodeFrame (some bytes) bytes.length limits=.ok frame) :
    frame=sender.outgoing discControl (data.read size.toNat) := by
  have hframe : sender.buildFrame discControl.encode
      (if data≠none ∧ 0 < size then data else none)
      (if data≠none ∧ 0 < size then size else 0)=.ok bytes := by
    rw [buildDisconnectRequestWith] at hbuilt
    split at hbuilt
    · cases hbuilt
    dsimp only at hbuilt
    split at hbuilt
    · cases hbuilt
    · rename_i hdisc
      cases hbuilt
      exact hdisc
  rw [decoded_of_built discControl (validPointer_disconnect valid) hframe hdecode]
  by_cases hempty : data≠none ∧ 0 < size
  · rw [if_pos hempty,if_pos hempty]
  · rw [if_neg hempty,if_neg hempty,read_of_not_hasUserInfo hempty]
    rfl

theorem receiveFrame_disc_ok {frame : HdlcFrameBuffer}
    (kind : frame.control.unnumberedKind=.ok .disc)
    (hreceived : receiver.receiveFrame frame=(.ok,receiver')) :
    receiver'={ receiver with
      receivedUserInformation := frame.information, disconnectResponsePending := true } := by
  have haddresses := receiver.incomingAddressesMatch_of_ok (congrArg Prod.fst hreceived)
  rw [receiver.receiveFrame_unnumbered haddresses kind] at hreceived
  dsimp only at hreceived
  rw [receiveDisc] at hreceived
  split at hreceived
  · cases hreceived
  · exact (Prod.mk.inj hreceived).2.symm

/-- A delivered SNRM leaves the server in a state that shows the user information and otherwise
only what the client proposes. -/
theorem Delivered.connected (h : Delivered sender receiver .connect userInformation receiver') :
    receiver'={ receiver.acceptSnrm
        (proposedParams sender.options.negotiationLimits).coded 23 [] with
      receivedUserInformation := userInformation } := by
  obtain ⟨valid,rfl,built,decoded,received⟩ := h
  obtain ⟨rfl,_⟩ := buildConnectRequestWith_decoded valid built decoded
  exact receiveFrame_snrm_block (window_toNat_le _) (window_toNat_le _) received

/-- The same client can then deliver an SNRM without user information as well. -/
theorem Delivered.withoutInformation
    (h : Delivered sender receiver .connect userInformation receiver') :
    ∃ receiver'', Delivered sender receiver .connect [] receiver'' := by
  obtain ⟨valid,rfl,built,decoded,received⟩ := h
  rename_i data size bytes sender' limits frame
  obtain ⟨rfl,hencoder,hdecoder⟩ := buildConnectRequestWith_decoded valid built decoded
  have hblock : encodeSnrmNegotiationBlock (proposedParams sender.options.negotiationLimits)≠[] :=
    List.cons_ne_nil _ _
  have hshort := fits_block hblock hencoder
  have hreceived := receiveFrame_snrm_block_ok (window_toNat_le _) (window_toNat_le _)
    (congrArg Prod.fst received) []
  rw [List.append_nil] at hreceived
  have hdecoded := (HdlcFrameBuffer.decodeFrame_image_eq_ok_iff _ limits hshort.format_le _).mpr
    ⟨fits_block hblock hdecoder,rfl⟩
  have hframe : sender.buildFrameWith kSnrmControl (sender.connectInfoField true none 0)=
      .ok (sender.outgoing snrmControl (encodeSnrmNegotiationBlock
        (proposedParams sender.options.negotiationLimits))).wire := by
    rw [connectInfoField_read,Pointer.read_none,List.append_nil]
    exact (sender.buildFrameWith_eq_ok_iff snrmControl (by simp) _).mpr ⟨hshort,rfl⟩
  exact ⟨_,.delivered validPointer_none rfl (buildConnectRequestWith_replaced built hframe)
    hdecoded (Prod.ext hreceived rfl)⟩

/-- User information alone tells no sessions apart. -/
theorem alike_receivedUserInformation (session : HdlcSession)
    (information information' : List UInt8) :
    Alike { session with receivedUserInformation := information }
      { session with receivedUserInformation := information' } :=
  .hide _ _ information' rfl (fun _ => rfl) rfl

/-- Alike sessions answer every later call alike. -/
theorem Alike.outputs {session other : HdlcSession} (h : session.Alike other)
    (operations : List HdlcSessionOperation) :
    machine.outputs session operations=machine.outputs other operations ∧
      (machine.final session operations).Alike (machine.final other operations) := by
  constructor
  · apply machine.outputs_eq_of_along Alike _ h (machine.along_of_forall (fun _ _ => trivial) _ _)
    intro session other operation _ h _
    exact h.perform operation
  · apply machine.final_of_simulation Alike _ h
    intro session other operation _ h
    exact (h.perform operation).2

/-- Whatever the user information is, the peer shows exactly it. A server that got it with the SNRM
answers every later call, and so builds the UA, as if there had been none, which the same client
could have sent. -/
theorem userInformation_delivered
    (h : Delivered sender receiver command userInformation receiver') :
    receiver'.receivedUserInformation=userInformation ∧
      (command=.connect → (∃ receiver'', Delivered sender receiver .connect [] receiver'') ∧
        ∀ receiver'', Delivered sender receiver .connect [] receiver'' → ∀ operations,
          machine.outputs receiver' operations=machine.outputs receiver'' operations ∧
          ((machine.final receiver' operations).perform .buildConnectResponse).1=
            ((machine.final receiver'' operations).perform .buildConnectResponse).1) := by
  cases command with
  | connect =>
    have hconnected := h.connected
    refine ⟨by rw [hconnected],fun _ => ⟨h.withoutInformation,?_⟩⟩
    intro receiver'' hempty operations
    have halike : receiver'.Alike receiver'' := by
      rw [hconnected,hempty.connected]
      exact alike_receivedUserInformation _ _ _
    obtain ⟨houtputs,hfinal⟩ := halike.outputs operations
    exact ⟨houtputs,(hfinal.perform .buildConnectResponse).1⟩
  | disconnect =>
    refine ⟨?_,by rintro ⟨⟩⟩
    obtain ⟨valid,rfl,built,decoded,received⟩ := h
    have hframe := buildDisconnectRequestWith_decoded valid built decoded
    rw [hframe] at received
    rw [receiveFrame_disc_ok discControl_kind received]
    rfl

/-- User information that looks like a negotiation block and holds a flag, in the SNRM of two fresh
sessions. -/
theorem userInformation_delivered_sample :
    let received := (new (sampleOptions .server)).receiveFrame (sampleIncoming .server snrmControl
      (encodeSnrmNegotiationBlock defaultSnrmParams ++ [0x81,0x80,0x7e]))
    received.2.receivedUserInformation=[0x81,0x80,0x7e] := by
  have hfits : (sampleIncoming .server snrmControl (encodeSnrmNegotiationBlock defaultSnrmParams ++
      [0x81,0x80,0x7e])).Fits defaultHdlcCodecLimits := by decide
  have hdecode := (HdlcFrameBuffer.decodeFrame_image_eq_ok_iff _ defaultHdlcCodecLimits
    hfits.format_le _).mpr ⟨hfits,rfl⟩
  have hdelivered : Delivered (new (sampleOptions .client)) (new (sampleOptions .server)) .connect
      [0x81,0x80,0x7e] ((new (sampleOptions .server)).receiveFrame (sampleIncoming .server
        snrmControl (encodeSnrmNegotiationBlock defaultSnrmParams ++ [0x81,0x80,0x7e]))).2 := by
    have hvalid : ValidPointer (some [0x81,0x80,0x7e]) 3 := ⟨by decide,rfl⟩
    exact .delivered hvalid rfl rfl hdecode rfl
  exact (userInformation_delivered hdelivered).1

end HdlcSession
end DlmsHdlc
