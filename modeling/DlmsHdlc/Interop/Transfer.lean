import DlmsHdlc.Interop.Link
import DlmsHdlc.Session.ByteLink

/-! Payloads go one after the other between two connected sessions of any library, each with its
acknowledgement: none is ever refused, however often the sequence numbers wrap around. -/
namespace DlmsHdlc
open SlidingWindow

/-- The limits the session encodes with. -/
def Peer.limits : Peer → HdlcCodecLimits
  | cpp session => session.options.limits
  | go session => ⟨session.options.limits.maximumFrameSize,
    session.options.limits.maximumInformationFieldSize,
    session.options.limits.maximumReassembledInformationSize⟩

/-- A frame with that payload between the two addresses is within the limits. -/
def Carriable (destination source : HdlcAddress) (payload : List UInt8) (limits : HdlcCodecLimits) :
    Prop :=
  ∀ control, (HdlcFrameBuffer.mk false destination source control payload).Fits limits

instance (destination source : HdlcAddress) (payload : List UInt8) (limits : HdlcCodecLimits) :
    Decidable (Carriable destination source payload limits) :=
  decidable_of_iff ((HdlcFrameBuffer.mk false destination source (receiveReadyControl 0 false)
    payload).Fits limits) ⟨fun h _ => ⟨h.1,h.2,h.3⟩,fun h => h _⟩

namespace LinkSide

/-- One side sends a payload; the other side takes it in and acknowledges it. -/
def transfer (limits limits' : HdlcCodecLimits) (near far : LinkSide) (payload : List UInt8) :
    LinkSide × LinkSide :=
  let (words,near) := near.buildInformationFrame payload false
  let far := words.foldl (fun far bytes => far.receive limits' bytes) far
  let (words,far) := far.buildReceiveReadyFrame false
  (words.foldl (fun near bytes => near.receive limits bytes) near,far)

/-- The client or the server sends; each side decodes under its own limits. -/
def turn (clientLimits serverLimits : HdlcCodecLimits) (link : LinkSide × LinkSide)
    (sent : HdlcSessionRole × List UInt8) : LinkSide × LinkSide :=
  match sent.1 with
  | .client => link.1.transfer clientLimits serverLimits link.2 sent.2
  | .server => (link.2.transfer serverLimits clientLimits link.1 sent.2).swap

variable {destination source : HdlcAddress} {side next : LinkSide} {station : Station (List UInt8)}

/-- Within the window and the limits an I-frame is built. -/
theorem Plays.sends_information (h : Plays destination source side station)
    (hacknowledged : station.acknowledged ≤ station.built.length)
    (room : station.built.length < station.acknowledged+station.window)
    (hwindow : station.built.length ≤ station.acknowledged+7) {payload : List UInt8}
    (valid : payload.length < 2^63)
    (fits : Carriable destination source payload side.peer.limits) (pollFinal : Bool) :
    (side.buildInformationFrame payload pollFinal).1≠[] := by
  cases h with
  | @cpp options session _ remoteAddress localAddress represents =>
    have hstate : session.state=.connected := represents.state
    have hvalid := HdlcSession.validPointer_some valid
    have hread : Pointer.read (some payload) (UInt64.ofNat payload.length).toNat=payload := by
      rw [UInt64.toNat_ofNat',Nat.mod_eq_of_lt (by omega),Pointer.read_some,List.take_length]
    have hdistance := HdlcSession.distance_toNat represents.acknowledge represents.send
      hacknowledged hwindow
    have hsend : session.canSendInformationFrame=true := by
      apply decide_eq_true
      rw [UInt8.lt_iff_toNat_lt,hdistance,represents.window]
      dsimp only
      omega
    have hbuilt := (session.buildFrame_eq_ok_iff (informationControl session.sendSequence
      session.receiveSequence pollFinal) (some payload) (.ofNat payload.length) hvalid.1 hvalid.2
      _).mpr ⟨by
        rw [hread,represents.configured.outgoing]
        subst remoteAddress localAddress
        exact fits _,rfl⟩
    change session.buildFrame (makeInformationControl _ _ _) _ _=_ at hbuilt
    simp only [LinkSide.buildInformationFrame,Peer.buildInformationFrame,
      HdlcSession.buildInformationFrame,hstate,hsend,hbuilt,Prod.map_apply,id,ne_eq,
      not_true_eq_false,Bool.not_true,Bool.false_eq_true,↓reduceIte,List.cons_ne_nil,
      not_false_eq_true]
  | @go session _ window numbered =>
    have hstate : session.state=.connected := numbered.state
    have hencoded := Go.encodeFrame_ofFrame ⟨false,destination,source,informationControl
      session.sendSequence session.receiveSequence pollFinal,payload⟩ valid (Peer.go session).limits
    have hfits := fits (informationControl session.sendSequence session.receiveSequence pollFinal)
    rw [if_neg (Nat.not_lt.mpr hfits.information_le),if_neg (Nat.not_lt.mpr hfits.format_le),
      if_neg (Nat.not_lt.mpr hfits.frame_le)] at hencoded
    have hbuilt : session.buildFrame (Go.makeInformationControl session.sendSequence
        session.receiveSequence pollFinal) payload=.ok (HdlcFrameBuffer.mk false
          destination source (informationControl session.sendSequence session.receiveSequence
            pollFinal) payload).wire := by
      rw [Go.Session.buildFrame,numbered.remoteAddress,numbered.localAddress,
        Go.makeInformationControl_eq]
      exact hencoded
    simp only [LinkSide.buildInformationFrame,Peer.buildInformationFrame,
      Go.Session.buildInformationFrame,hstate,hbuilt,Prod.map_apply,id,ne_eq,
      not_true_eq_false,↓reduceIte,List.cons_ne_nil,not_false_eq_true]

/-- A receive-ready frame within the limits is always built. -/
theorem Plays.sends_receiveReady (h : Plays destination source side station)
    (fits : Carriable destination source [] side.peer.limits) (pollFinal : Bool) :
    (side.buildReceiveReadyFrame pollFinal).1≠[] := by
  cases h with
  | @cpp options session _ remoteAddress localAddress represents =>
    have hstate : session.state=.connected := represents.state
    have hbuilt := (session.buildFrame_eq_ok_iff (receiveReadyControl session.receiveSequence
      pollFinal) none 0 (by decide) rfl _).mpr ⟨by
        rw [represents.configured.outgoing]
        subst remoteAddress localAddress
        exact fits _,rfl⟩
    change session.buildSupervisoryFrame (makeReceiveReadyControl _ _)=_ at hbuilt
    simp only [LinkSide.buildReceiveReadyFrame,Peer.buildReceiveReadyFrame,
      HdlcSession.buildReceiveReadyFrame,hstate,hbuilt,Prod.map_apply,id,ne_eq,not_true_eq_false,
      ↓reduceIte,List.cons_ne_nil,not_false_eq_true]
  | @go session _ window numbered =>
    have hstate : session.state=.connected := numbered.state
    have hencoded := Go.encodeFrame_ofFrame ⟨false,destination,source,receiveReadyControl
      session.receiveSequence pollFinal,[]⟩ (Nat.two_pow_pos 63) (Peer.go session).limits
    have hfits := fits (receiveReadyControl session.receiveSequence pollFinal)
    rw [if_neg (Nat.not_lt.mpr hfits.information_le),if_neg (Nat.not_lt.mpr hfits.format_le),
      if_neg (Nat.not_lt.mpr hfits.frame_le)] at hencoded
    have hbuilt : session.buildFrame (Go.makeReceiveReadyControl session.receiveSequence pollFinal)
        []=.ok (HdlcFrameBuffer.mk false destination source (receiveReadyControl
          session.receiveSequence pollFinal) []).wire := by
      rw [Go.Session.buildFrame,numbered.remoteAddress,numbered.localAddress,
        Go.makeReceiveReadyControl_eq]
      exact hencoded
    simp only [LinkSide.buildReceiveReadyFrame,Peer.buildReceiveReadyFrame,
      Go.Session.buildReceiveReadyFrame,hstate,hbuilt,ne_eq,not_true_eq_false,↓reduceIte,
      List.cons_ne_nil,not_false_eq_true]

/-- Within the limits of its receiver a frame is decoded. -/
theorem decodes_carried {bytes : List UInt8} {message : Message (List UInt8)}
    (carried : Go.Session.Carries destination source bytes message) {limits : HdlcCodecLimits}
    (fits : Carriable destination source (message.item.getD []) limits) :
    ∃ frame, decodeFrame (some bytes) bytes.length limits=.ok frame := by
  cases carried with
  | information kind send receive format =>
    exact ⟨_,(HdlcFrameBuffer.decodeFrame_image_eq_ok_iff _ _ format _).mpr ⟨fits _,rfl⟩⟩
  | receiveReady kind receive format =>
    exact ⟨_,(HdlcFrameBuffer.decodeFrame_image_eq_ok_iff _ _ format _).mpr ⟨fits _,rfl⟩⟩

/-! Neither a call nor an arrival changes the limits. -/

theorem buildInformationFrame_limits (side : LinkSide) (information : List UInt8)
    (pollFinal : Bool) :
    (side.buildInformationFrame information pollFinal).2.peer.limits=side.peer.limits := by
  have hpeer : (side.buildInformationFrame information pollFinal).2.peer=
      (side.peer.buildInformationFrame information pollFinal).2 := by
    unfold buildInformationFrame
    split
    all_goals rename_i hresult
    all_goals rw [hresult]
  rw [hpeer]
  cases side.peer with
  | cpp session =>
    change (session.buildInformationFrame _ _ _).2.options.limits=_
    unfold HdlcSession.buildInformationFrame
    dsimp only
    repeat' split
    all_goals rfl
  | go session =>
    have hoptions : (session.buildInformationFrame information pollFinal).2.options=
        session.options := by
      unfold Go.Session.buildInformationFrame
      dsimp only
      repeat' split
      all_goals rfl
    simp only [Peer.buildInformationFrame,Prod.map_snd,Peer.limits,hoptions]

theorem buildReceiveReadyFrame_limits (side : LinkSide) (pollFinal : Bool) :
    (side.buildReceiveReadyFrame pollFinal).2.peer.limits=side.peer.limits := by
  have hpeer : (side.buildReceiveReadyFrame pollFinal).2.peer=
      (side.peer.buildReceiveReadyFrame pollFinal).2 := by
    unfold buildReceiveReadyFrame
    split
    all_goals rename_i hresult
    all_goals rw [hresult]
  rw [hpeer]
  cases side.peer with
  | cpp session =>
    exact congrArg (·.options.limits) (session.buildReceiveReadyFrame_keeps pollFinal)
  | go session => rfl

theorem receive_limits (side : LinkSide) {bytes : List UInt8} {message : Message (List UInt8)}
    (carried : Go.Session.Carries destination source bytes message) (limits : HdlcCodecLimits) :
    (side.receive limits bytes).peer.limits=side.peer.limits := by
  obtain ⟨session | session,built,accepted,acknowledged⟩ := side
  · simp only [receive]
    cases hdecode : decodeFrame (some bytes) bytes.length limits with
    | error status => rfl
    | ok frame =>
      have hkind : frame.control.frameKind≠.unnumbered := by
        cases carried with
        | information kind send receive format =>
          rw [((HdlcFrameBuffer.decodeFrame_image_eq_ok_iff _ _ format _).mp hdecode).2,kind]
          decide
        | receiveReady kind receive format =>
          rw [((HdlcFrameBuffer.decodeFrame_image_eq_ok_iff _ _ format _).mp hdecode).2,kind]
          decide
      exact congrArg HdlcSessionOptions.limits (session.receiveFrame_options hkind)
  · simp only [receive]
    cases hdecode : Go.decodeFrame bytes (Go.ofLimits limits) with
    | error status => rfl
    | ok frame =>
      have hoptions := session.receiveFrame_options frame
      dsimp only
      generalize session.receiveFrame frame=result at hoptions ⊢
      obtain ⟨status | _,session'⟩ := result
      all_goals
        dsimp only at hoptions ⊢
        simp only [Peer.limits,hoptions]

/-- Nothing is on its way, and all that was built is accepted and acknowledged. -/
structure Quiet (destination source : HdlcAddress) (near far : LinkSide)
    (n f : Station (List UInt8)) : Prop where
  plays : Plays destination source near n
  plays' : Plays source destination far f
  accepted : f.accepted=n.built
  acknowledged : n.acknowledged=n.built.length
  accepted' : n.accepted=f.built
  acknowledged' : f.acknowledged=f.built.length
  window : 0 < n.window
  window' : 0 < f.window

theorem Quiet.symm {near far : LinkSide} {n f : Station (List UInt8)}
    (h : Quiet destination source near far n f) : Quiet source destination far near f n :=
  ⟨h.plays',h.plays,h.accepted',h.acknowledged',h.accepted,h.acknowledged,h.window',h.window⟩

section Turns
variable {near far : LinkSide} {n f : Station (List UInt8)} {limits limits' : HdlcCodecLimits}

theorem Plays.within (h : Plays destination source near n)
    (room : n.built.length < n.acknowledged+n.window) : near.Within := by
  cases h with
  | cpp => exact trivial
  | go window numbered =>
    rw [window] at room
    exact room

/-- What is due and within the limits is accepted. -/
theorem Plays.accepts (h : Plays destination source near n) {message : Message (List UInt8)}
    (due : Due n message) (acknowledged : n.acknowledged ≤ n.built.length)
    (window : n.built.length ≤ n.acknowledged+7) {bytes : List UInt8}
    (carried : Go.Session.Carries source destination bytes message)
    (fits : Carriable source destination (message.item.getD []) limits) :
    Plays destination source (near.receive limits bytes) (n.receive message) := by
  have admissible : HdlcSession.Admissible n message :=
    { acknowledged_le := by rwa [due.1]
      next_le := due.1.le
      window := window
      index := fun index hindex => by
        rw [due.2 index hindex]
        omega }
  obtain ⟨frame,hdecode⟩ := decodes_carried carried fits
  obtain haccepted | ⟨_,hrefused⟩ := h.receive admissible carried limits
  · exact haccepted
  · exact absurd due (hrefused frame hdecode)

/-- The payload is accepted, and all is quiet again. -/
theorem Quiet.transfer (h : Quiet destination source near far n f) {payload : List UInt8}
    (valid : payload.length < 2^63) (sends : Carriable destination source payload near.peer.limits)
    (arrives : Carriable destination source payload limits')
    (answers : Carriable source destination [] far.peer.limits)
    (returns : Carriable source destination [] limits) :
    Quiet destination source (near.transfer limits limits' far payload).1
        (near.transfer limits limits' far payload).2
        { n with built := n.built ++ [payload], acknowledged := n.built.length+1 }
        { f with accepted := f.accepted ++ [payload] } ∧
      (near.transfer limits limits' far payload).1.peer.limits=near.peer.limits ∧
      (near.transfer limits limits' far payload).2.peer.limits=far.peer.limits := by
  obtain ⟨hplays,hplays',haccepted,hacknowledged,haccepted',hacknowledged',hwindow,hwindow'⟩ := h
  have room : n.built.length < n.acknowledged+n.window := by omega
  have hlimits := near.buildInformationFrame_limits payload false
  have hsent := hplays.sends_information hacknowledged.le room (by omega) valid sends false
  obtain ⟨hnone,_⟩ | ⟨bytes,hbytes,_,hbuilt,carried⟩ :=
    hplays.buildInformationFrame hacknowledged.le (by omega) valid (hplays.within room) false
  · exact absurd hnone hsent
  -- The payload arrives.
  have hdue : Due f (.data n.built.length n.accepted.length payload) := by
    refine ⟨congrArg List.length haccepted',?_⟩
    rintro _ ⟨⟩
    rw [haccepted]
  have hreceived := hplays'.accepts hdue hacknowledged'.le (by omega) carried arrives
  have hreceivedLimits := far.receive_limits carried limits'
  have hnext : n.accepted.length=f.acknowledged := by rw [haccepted',hacknowledged']
  rw [Station.receive,if_pos (by rw [haccepted]),hnext] at hreceived
  -- Its acknowledgement is built and comes back.
  have hanswer := hreceived.sends_receiveReady (by rw [hreceivedLimits]; exact answers) false
  have hanswerLimits := (far.receive limits' bytes).buildReceiveReadyFrame_limits false
  obtain ⟨hnone,_⟩ | ⟨bytes',hbytes',hanswered,carried'⟩ := hreceived.buildReceiveReadyFrame false
  · exact absurd hnone hanswer
  have hdue' : Due (n.build payload) (.acknowledge (f.accepted ++ [payload]).length) := by
    refine ⟨?_,fun _ h => absurd h (Option.not_mem_none _)⟩
    rw [haccepted]
    rfl
  have hlength : (n.build payload).built.length=n.built.length+1 := List.length_append
  have hacknowledges : (n.build payload).acknowledged=n.built.length := hacknowledged
  have hreturned := hbuilt.accepts hdue' (by omega) (by omega) carried' returns
  have hreturnedLimits :=
    (near.buildInformationFrame payload false).2.receive_limits carried' limits
  have hrequest : near.buildInformationFrame payload false=
      ([bytes],(near.buildInformationFrame payload false).2) := Prod.ext hbytes rfl
  have hresponse : (far.receive limits' bytes).buildReceiveReadyFrame false=
      ([bytes'],((far.receive limits' bytes).buildReceiveReadyFrame false).2) := Prod.ext hbytes' rfl
  have htransfer : near.transfer limits limits' far payload=
      ((near.buildInformationFrame payload false).2.receive limits bytes',
        ((far.receive limits' bytes).buildReceiveReadyFrame false).2) := by
    rw [LinkSide.transfer,hrequest]
    dsimp only [List.foldl_cons,List.foldl_nil]
    rw [hresponse]
    rfl
  rw [htransfer]
  refine ⟨{
    plays := ?_
    plays' := hanswered.outbox f.outbox
    accepted := ?_
    acknowledged := hlength.symm
    accepted' := haccepted'
    acknowledged' := hacknowledged'
    window := hwindow
    window' := hwindow' },hreturnedLimits.trans hlimits,hanswerLimits.trans hreceivedLimits⟩
  · have hfinal := hreturned.outbox n.outbox
    rw [haccepted,List.length_append] at hfinal
    exact hfinal
  · exact congrArg (· ++ [payload]) haccepted

end Turns

/-- The payloads that one role sends. -/
def sentBy (role : HdlcSessionRole) (turns : List (HdlcSessionRole × List UInt8)) :
    List (List UInt8) :=
  (turns.filter fun sent => sent.1=role).map Prod.snd

/-- All that two sides have exchanged is accepted and acknowledged. -/
structure Exchanged (near far : LinkSide) (payloads payloads' : List (List UInt8)) : Prop where
  built : near.built=payloads
  accepted : near.accepted=payloads'
  acknowledged : near.acknowledged=payloads.length
  built' : far.built=payloads'
  accepted' : far.accepted=payloads
  acknowledged' : far.acknowledged=payloads'.length

theorem Quiet.exchanged {near far : LinkSide} {n f : Station (List UInt8)}
    (h : Quiet destination source near far n f) : Exchanged near far n.built f.built := by
  obtain ⟨hplays,hplays',haccepted,hacknowledged,haccepted',hacknowledged',_,_⟩ := h
  have hnear : near.built=n.built ∧ near.accepted=n.accepted ∧ near.acknowledged=n.acknowledged := by
    cases hplays <;> exact ⟨rfl,rfl,rfl⟩
  have hfar : far.built=f.built ∧ far.accepted=f.accepted ∧ far.acknowledged=f.acknowledged := by
    cases hplays' <;> exact ⟨rfl,rfl,rfl⟩
  exact ⟨hnear.1,hnear.2.1.trans haccepted',hnear.2.2.trans hacknowledged,hfar.1,
    hfar.2.1.trans haccepted,hfar.2.2.trans hacknowledged'⟩

/-- What one side encodes under its limits, the other side decodes under its own. -/
def Passes (destination source : HdlcAddress) (encoding decoding : HdlcCodecLimits)
    (payload : List UInt8) : Prop :=
  Carriable destination source payload encoding ∧ Carriable destination source payload decoding

instance (destination source : HdlcAddress) (encoding decoding : HdlcCodecLimits)
    (payload : List UInt8) : Decidable (Passes destination source encoding decoding payload) :=
  inferInstanceAs (Decidable (_ ∧ _))

theorem length_of_carriable {payload : List UInt8} {limits : HdlcCodecLimits}
    (h : Carriable destination source payload limits) : payload.length < 2^63 := by
  have hformat := (h (receiveReadyControl 0 false)).format_le
  simp only [HdlcFrameBuffer.formatLength] at hformat
  omega

/-- Turn by turn all stays quiet. -/
theorem quiet_of_turns {clientAddress serverAddress : HdlcAddress} {limits limits' : HdlcCodecLimits}
    {encoding encoding' : HdlcCodecLimits} (turns : List (HdlcSessionRole × List UInt8))
    (requests : ∀ payload ∈ sentBy .client turns,
      Passes serverAddress clientAddress encoding limits' payload)
    (responses : ∀ payload ∈ sentBy .server turns,
      Passes clientAddress serverAddress encoding' limits payload)
    (answers : Passes clientAddress serverAddress encoding' limits [])
    (answers' : Passes serverAddress clientAddress encoding limits' [])
    {link : LinkSide × LinkSide} {n f : Station (List UInt8)}
    (h : Quiet serverAddress clientAddress link.1 link.2 n f) (hlimits : link.1.peer.limits=encoding)
    (hlimits' : link.2.peer.limits=encoding') :
    ∃ n' f', Quiet serverAddress clientAddress (turns.foldl (turn limits limits') link).1
        (turns.foldl (turn limits limits') link).2 n' f' ∧
      n'.built=n.built ++ sentBy .client turns ∧ f'.built=f.built ++ sentBy .server turns := by
  induction turns generalizing link n f with
  | nil => exact ⟨n,f,h,(List.append_nil _).symm,(List.append_nil _).symm⟩
  | cons sent turns ih =>
    obtain ⟨role,payload⟩ := sent
    rw [List.foldl_cons]
    cases role with
    | client =>
      have hpasses := requests payload List.mem_cons_self
      obtain ⟨hquiet,hnear,hfar⟩ := h.transfer (length_of_carriable hpasses.1)
        (by rw [hlimits]; exact hpasses.1) hpasses.2 (by rw [hlimits']; exact answers.1) answers.2
      obtain ⟨n',f',hfinal,hbuilt,hbuilt'⟩ := ih (fun later hlater => requests later
        (List.mem_cons_of_mem _ hlater)) responses hquiet (hnear.trans hlimits)
        (hfar.trans hlimits')
      exact ⟨n',f',hfinal,hbuilt.trans (List.append_assoc ..),hbuilt'⟩
    | server =>
      have hpasses := responses payload List.mem_cons_self
      obtain ⟨hquiet,hnear,hfar⟩ := h.symm.transfer (length_of_carriable hpasses.1)
        (by rw [hlimits']; exact hpasses.1) hpasses.2 (by rw [hlimits]; exact answers'.1) answers'.2
      obtain ⟨n',f',hfinal,hbuilt,hbuilt'⟩ := @ih requests (fun later hlater => responses later
        (List.mem_cons_of_mem _ hlater)) (turn limits limits' link (.server,payload)) _ _ hquiet.symm
        (hfar.trans hlimits) (hnear.trans hlimits')
      exact ⟨n',f',hfinal,hbuilt,hbuilt'.trans (List.append_assoc ..)⟩

end LinkSide

/-- Between two connected sessions of any library, each with some transmit window, payloads that both
sides' limits allow go in any order and number, turn by turn: none is refused, and at the end each
side has accepted exactly what the other side sent, and has it all acknowledged. -/
theorem interop_exchanges {client server : Peer} {clientAddress serverAddress : HdlcAddress}
    (opened : client.Opened serverAddress clientAddress)
    (opened' : server.Opened clientAddress serverAddress)
    (window : 0 < client.window) (window' : 0 < server.window) {limits limits' : HdlcCodecLimits}
    {turns : List (HdlcSessionRole × List UInt8)}
    (requests : ∀ payload ∈ LinkSide.sentBy .client turns,
      LinkSide.Passes serverAddress clientAddress client.limits limits' payload)
    (responses : ∀ payload ∈ LinkSide.sentBy .server turns,
      LinkSide.Passes clientAddress serverAddress server.limits limits payload)
    (answers : LinkSide.Passes clientAddress serverAddress server.limits limits [])
    (answers' : LinkSide.Passes serverAddress clientAddress client.limits limits' []) :
    let link := turns.foldl (LinkSide.turn limits limits') (.start client,.start server)
    LinkSide.Exchanged link.1 link.2 (LinkSide.sentBy .client turns)
      (LinkSide.sentBy .server turns) := by
  have hquiet : LinkSide.Quiet serverAddress clientAddress (.start client) (.start server)
      (.start client.window) (.start server.window) :=
    ⟨LinkSide.plays_start opened,LinkSide.plays_start opened',rfl,rfl,rfl,rfl,window,window'⟩
  obtain ⟨n,f,hfinal,hbuilt,hbuilt'⟩ := @LinkSide.quiet_of_turns _ _ limits limits' _ _ turns
    requests responses answers answers' (.start client,.start server) _ _ hquiet rfl rfl
  have hexchanged := hfinal.exchanged
  rw [hbuilt,hbuilt'] at hexchanged
  exact hexchanged

/-- Ten payloads of a C++ client, with the answer of a Go server after the first: the sequence
numbers of the client wrap around. -/
theorem interop_exchanges_sample :
    let turns := (.client,[1]) :: (.server,[2,3]) :: .replicate 9 (HdlcSessionRole.client,[4])
    let link := turns.foldl (LinkSide.turn defaultHdlcCodecLimits defaultHdlcCodecLimits)
      (.start (.cpp HdlcSession.sampleClient),
        .start (.go { sampleGoServer with state := .connected }))
    LinkSide.Exchanged link.1 link.2 ([1] :: .replicate 9 [4]) [[2,3]] := by
  let options := HdlcSession.sampleOptions .client
  have hclient : (Peer.cpp HdlcSession.sampleClient).Opened options.serverAddress
      options.clientAddress :=
    ⟨⟨rfl,rfl,rfl,rfl⟩,options,HdlcSession.configured_of_reachable
      ⟨[.buildConnectRequest,.receiveFrame (HdlcSession.sampleIncoming .client HdlcSession.uaControl
        [])],rfl⟩,rfl,rfl⟩
  have hserver : (Peer.go { sampleGoServer with state := .connected }).Opened options.clientAddress
      options.serverAddress := Go.Session.Endpoint.numbered_start rfl rfl rfl rfl rfl
  exact interop_exchanges hclient hserver (by decide) (by decide) (by decide) (by decide)
    (by decide) (by decide)

end DlmsHdlc
