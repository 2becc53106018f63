import DlmsHdlc.Session.Defaults

/-! The three-bit sequence variables against the true numbers of I-frames of a connection. -/
namespace DlmsHdlc
open Machine

/-- How many I-frames of the current connection were built, acknowledged by the peer, and accepted
from the peer. -/
structure Traffic where
  built : ℕ
  acknowledged : ℕ
  accepted : ℕ
  deriving DecidableEq, Repr

namespace Traffic

def start : Traffic := ⟨0,0,0⟩

def unacknowledged (traffic : Traffic) : ℕ := traffic.built-traffic.acknowledged

/-- The number of the first frame, from the first unacknowledged one on, with the three bits of an
`N(R)`: the peer expects this frame and has got those before it. -/
def confirmedBy (traffic : Traffic) (nr : UInt8) : ℕ :=
  traffic.acknowledged+(nr.toNat+8-traffic.acknowledged%8)%8

/-- What a successful call inside a connection adds. -/
def add (traffic : Traffic) : HdlcSessionOperation → Traffic
  | .buildInformationFrame _ _ _ => { traffic with built := traffic.built+1 }
  | .receiveFrame frame =>
    let nr := frame.control.receiveSequence
    match frame.control.frameKind with
    | .information => { traffic with
        acknowledged := traffic.confirmedBy nr, accepted := traffic.accepted+1 }
    | .supervisory => { traffic with acknowledged := traffic.confirmedBy nr }
    | .unnumbered => traffic
  | _ => traffic

/-- A connection begins where a session gets connected; without one there are no frames. -/
def next (traffic : Traffic) (session : HdlcSession) (operation : HdlcSessionOperation) : Traffic :=
  let ((status,_),after) := session.perform operation
  if after.state=.disconnected ∨ after.state=.awaitingConnection ∨
    session.state≠.connected ∧ after.state=.connected then start
  else if status=.ok then traffic.add operation
  else traffic

/-- The numbers after a run. -/
def after (traffic : Traffic) : HdlcSession → List HdlcSessionOperation → Traffic
  | _,[] => traffic
  | session,operation::operations =>
    (traffic.next session operation).after (session.perform operation).2 operations

end Traffic

namespace HdlcSession

/-- The variables are the true numbers modulo 8, and these are apart by less than the modulus. -/
structure Numbered (traffic : Traffic) (session : HdlcSession) : Prop where
  send : session.sendSequence.toNat=traffic.built%8
  receive : session.receiveSequence.toNat=traffic.accepted%8
  acknowledge : session.acknowledgeSequence.toNat=traffic.acknowledged%8
  sent : traffic.acknowledged ≤ traffic.built
  window : traffic.unacknowledged ≤ session.windowSizeTransmit.toNat
  small : traffic.unacknowledged ≤ 7
  idle : session.state=.disconnected ∨ session.state=.awaitingConnection → traffic=.start

/-- Nothing has happened in a connection that has just begun, or is over. -/
theorem numbered_start {session : HdlcSession} (send : session.sendSequence=0)
    (receive : session.receiveSequence=0) (acknowledge : session.acknowledgeSequence=0) :
    Numbered .start session := by
  constructor
  · rw [send]
    rfl
  · rw [receive]
    rfl
  · rw [acknowledge]
    rfl
  · exact le_rfl
  · exact Nat.zero_le _
  · exact Nat.zero_le _
  · exact fun _ => rfl

variable {options : HdlcSessionOptions} {session : HdlcSession} {traffic : Traffic}

theorem Numbered.outstanding (h : Numbered traffic session) :
    session.outstanding.toNat=traffic.unacknowledged := by
  have hsent := h.sent
  have hsmall := h.small
  rw [outstanding_toNat,h.send,h.acknowledge]
  unfold Traffic.unacknowledged at hsmall ⊢
  omega

/-- An accepted `N(R)` confirms frames that were built, and not fewer than before. -/
theorem Numbered.confirmed (h : Numbered traffic session) {nr : UInt8}
    (accepted : session.acceptsReceiveSequence nr=true) (hnr : nr.toNat < 8) :
    traffic.acknowledged ≤ traffic.confirmedBy nr ∧ traffic.confirmedBy nr ≤ traffic.built ∧
      traffic.confirmedBy nr%8=nr.toNat := by
  have hsent := h.sent
  have hsmall := h.small
  have hlt := session.acknowledgeSequence.toNat_lt
  have haccepted : (nr - session.acknowledgeSequence) &&& 0x07 ≤ session.outstanding := by
    simpa [acceptsReceiveSequence,HdlcSession.outstanding] using accepted
  rw [UInt8.le_iff_toNat_le,HdlcControl.and_seven_toNat,UInt8.toNat_sub,h.outstanding,
    h.acknowledge] at haccepted
  unfold Traffic.confirmedBy
  unfold Traffic.unacknowledged at haccepted hsmall
  omega

/-- The numbers do not depend on anything else of the session. -/
theorem Numbered.congr (h : Numbered traffic session) {next : HdlcSession}
    (send : next.sendSequence=session.sendSequence)
    (receive : next.receiveSequence=session.receiveSequence)
    (acknowledge : next.acknowledgeSequence=session.acknowledgeSequence)
    (window : next.windowSizeTransmit=session.windowSizeTransmit)
    (state : next.state=.disconnected ∨ next.state=.awaitingConnection → traffic=.start) :
    Numbered traffic next := by
  constructor
  · rw [send]
    exact h.send
  · rw [receive]
    exact h.receive
  · rw [acknowledge]
    exact h.acknowledge
  · exact h.sent
  · rw [window]
    exact h.window
  · exact h.small
  · exact state

/-- A call that changes neither the state nor the variables. -/
theorem Numbered.kept (h : Numbered traffic session) {next : HdlcSession}
    (send : next.sendSequence=session.sendSequence)
    (receive : next.receiveSequence=session.receiveSequence)
    (acknowledge : next.acknowledgeSequence=session.acknowledgeSequence)
    (window : next.windowSizeTransmit=session.windowSizeTransmit)
    (state : next.state=session.state) :
    Numbered (if next.state=.disconnected ∨ next.state=.awaitingConnection ∨
      session.state≠.connected ∧ next.state=.connected then .start else traffic) next := by
  have hidle : next.state=.disconnected ∨ next.state=.awaitingConnection → traffic=.start := by
    rw [state]
    exact h.idle
  have hkept := h.congr send receive acknowledge window hidle
  split
  · rename_i hcase
    obtain hstate | hstate | ⟨hne,hstate⟩ := hcase
    · rwa [hidle (.inl hstate)] at hkept
    · rwa [hidle (.inr hstate)] at hkept
    · exact absurd (state.symm.trans hstate) hne
  · exact hkept

theorem receiveSequence_lt (control : HdlcControl) : control.receiveSequence.toNat < 8 := by
  unfold HdlcControl.receiveSequence
  split
  · decide
  · exact HdlcControl.and_seven_lt _

/-- Without a connection there is nothing to count. -/
theorem numbered_disconnected (recoverable : Recoverable options session)
    (state : session.state=.disconnected) {p : Prop} [Decidable p] (counted : Traffic) :
    Numbered (if session.state=.disconnected ∨ p then .start else counted) session := by
  obtain ⟨hsend,hreceive,hacknowledge⟩ := recoverable.sequences state
  rw [if_pos (.inl state)]
  exact numbered_start hsend hreceive hacknowledge

/-- Inside a connection the frames are counted. -/
theorem next_connected {state state' : HdlcSessionState} (connected : state=.connected)
    (after : state'=.connected ∨ state'=.awaitingDisconnect) (counted : Traffic) :
    (if state'=.disconnected ∨ state'=.awaitingConnection ∨ state≠.connected ∧ state'=.connected
      then Traffic.start else counted)=counted := by
  rw [if_neg]
  obtain rfl | rfl := after <;> simp [connected]

/-- What an accepted `N(R)` does to the numbers. -/
theorem Numbered.acknowledges (h : Numbered traffic session) (connected : session.state=.connected)
    {nr : UInt8} (accepted : session.acceptsReceiveSequence nr=true) (hnr : nr.toNat < 8) :
    Numbered { traffic with acknowledged := traffic.confirmedBy nr }
      { session with acknowledgeSequence := nr } := by
  obtain ⟨hle,hge,hmod⟩ := h.confirmed accepted hnr
  have hwindow := h.window
  have hsmall := h.small
  unfold Traffic.unacknowledged at hwindow hsmall
  refine ⟨h.send,h.receive,hmod.symm,hge,?_,?_,by simp [connected]⟩
  · change traffic.built-traffic.confirmedBy nr ≤ session.windowSizeTransmit.toNat
    omega
  · change traffic.built-traffic.confirmedBy nr ≤ 7
    omega

theorem add_unnumbered {frame : HdlcFrameBuffer} {kind : HdlcUnnumberedKind}
    (h : frame.control.unnumberedKind=.ok kind) :
    traffic.add (.receiveFrame frame)=traffic := by
  simp only [Traffic.add,HdlcControl.frameKind_of_unnumberedKind h]

/-- One call keeps the numbers, as long as the window in force is at most 7. -/
theorem Numbered.step (h : Numbered traffic session) (hin : InWindow options session)
    (window : session.windowSizeTransmit.toNat ≤ 7) (operation : HdlcSessionOperation) :
    Numbered (traffic.next session operation) (session.perform operation).2 := by
  have heffect := session.perform_effect operation
  have hrecoverable := hin.recoverable.step operation
  unfold Traffic.next
  generalize session.perform operation=result at heffect hrecoverable ⊢
  obtain ⟨⟨status,output⟩,after⟩ := result
  dsimp only
  cases heffect with
  | refused failed =>
    rw [if_neg failed]
    exact h.kept rfl rfl rfl rfl rfl
  | connectRequested =>
    rw [if_pos (.inr (.inl rfl))]
    exact numbered_start rfl rfl rfl
  | connectResponseFailed failed role pending =>
    have hstate := hin.waiting pending
    exact numbered_disconnected hrecoverable
      (session.applyNegotiation_onlyLimits.state.trans hstate) _
  | connectResponded role pending =>
    have hstate : session.state≠.connected := by simp [hin.waiting pending]
    rw [if_pos (.inr (.inr ⟨hstate,rfl⟩))]
    exact numbered_start rfl rfl rfl
  | disconnectRequested request state =>
    have hadd : traffic.add operation=traffic := by
      obtain rfl | ⟨rfl,_⟩ := request <;> rfl
    rw [next_connected state (.inr rfl),if_pos rfl,hadd]
    exact h.congr rfl rfl rfl rfl (by simp)
  | disconnectResponded => exact numbered_disconnected hrecoverable rfl _
  | dmResponded => exact h.kept rfl rfl rfl rfl rfl
  | informationSent state canSend =>
    have hfree : session.outstanding < session.windowSizeTransmit := by
      simpa [canSendInformationFrame,HdlcSession.outstanding] using canSend
    rw [UInt8.lt_iff_toNat_lt,h.outstanding] at hfree
    rw [next_connected state (.inl state),if_pos rfl]
    have hsent := h.sent
    unfold Traffic.unacknowledged at hfree
    refine ⟨nextSequence_toNat h.send,h.receive,h.acknowledge,?_,?_,?_,by simp [state]⟩
    · exact hsent.trans (Nat.le_succ _)
    · change traffic.built+1-traffic.acknowledged ≤ _
      dsimp only
      omega
    · change traffic.built+1-traffic.acknowledged ≤ 7
      omega
  | receiveReadySent => exact h.kept rfl rfl rfl rfl rfl
  | @informationReceived frame kind state expected accepted =>
    have hadd : traffic.add (.receiveFrame frame)=⟨traffic.built,
        traffic.confirmedBy frame.control.receiveSequence,traffic.accepted+1⟩ := by
      simp only [Traffic.add,kind]
    have hnumbered := h.acknowledges state accepted (receiveSequence_lt frame.control)
    rw [next_connected state (.inl state),if_pos rfl,hadd]
    exact ⟨hnumbered.send,nextSequence_toNat h.receive,hnumbered.acknowledge,hnumbered.sent,
      hnumbered.window,hnumbered.small,by simp [state]⟩
  | @supervisoryReceived frame kind state accepted =>
    have hadd : traffic.add (.receiveFrame frame)={ traffic with
        acknowledged := traffic.confirmedBy frame.control.receiveSequence } := by
      simp only [Traffic.add,kind]
    rw [next_connected state (.inl state),if_pos rfl,hadd]
    exact h.acknowledges state accepted (receiveSequence_lt frame.control)
  | snrmRejected failed addresses kind role state => exact numbered_disconnected hrecoverable state _
  | snrmAccepted addresses kind role state => exact numbered_disconnected hrecoverable state _
  | uaConnected addresses kind state =>
    have hstate : session.state≠.connected := by simp [state]
    rw [if_pos (.inr (.inr ⟨hstate,rfl⟩))]
    exact numbered_start rfl rfl rfl
  | uaDisconnected => exact numbered_disconnected hrecoverable rfl _
  | discReceived addresses kind state =>
    rw [if_pos rfl,add_unnumbered kind]
    exact h.kept rfl rfl rfl rfl rfl
  | dmReceived => exact numbered_disconnected hrecoverable rfl _

/-- The run lemma. -/
theorem Numbered.run (h : Numbered traffic session) (hin : InWindow options session)
    {operations : List HdlcSessionOperation}
    (window : machine.Along (fun session _ => session.windowSizeTransmit.toNat ≤ 7) session
      operations) :
    Numbered (traffic.after session operations) (machine.final session operations) := by
  induction operations generalizing traffic session with
  | nil => exact h
  | cons operation operations ih =>
    obtain ⟨hwindow,hrest⟩ := window
    exact ih (h.step hin hwindow operation) (hin.step operation) hrest

/-- The call accepts an I-frame. -/
def AcceptsInformation (session : HdlcSession) (operation : HdlcSessionOperation) : Prop :=
  ∃ frame, operation=.receiveFrame frame ∧ frame.control.frameKind=.information ∧
    (session.receiveFrame frame).1=.ok

/-- An accepted numbered frame has passed the test of its `N(R)`, and an I-frame is counted once. -/
theorem receiveFrame_numbered {frame : HdlcFrameBuffer}
    (numbered : frame.control.frameKind≠.unnumbered)
    (accepted : (session.receiveFrame frame).1=.ok) :
    session.acceptsReceiveSequence frame.control.receiveSequence=true ∧
      (frame.control.frameKind=.information → (session.receiveFrame frame).2.receiveSequence=
        nextSequence session.receiveSequence) := by
  have heffect : Effect session (.receiveFrame frame) ((session.receiveFrame frame).1,[])
      (session.receiveFrame frame).2 := session.perform_effect (.receiveFrame frame)
  rw [accepted] at heffect
  generalize (session.receiveFrame frame).2=after at heffect ⊢
  cases heffect with
  | refused failed => exact absurd rfl failed
  | connectRequested request => simp at request
  | disconnectRequested request => simp at request
  | informationReceived kind state expected accepts => exact ⟨accepts,fun _ => rfl⟩
  | supervisoryReceived kind state accepts =>
    refine ⟨accepts,?_⟩
    intro hinformation
    cases hinformation.symm.trans kind
  | snrmRejected failed => exact absurd rfl failed
  | snrmAccepted addresses kind =>
    exact absurd (HdlcControl.frameKind_of_unnumberedKind kind) numbered
  | uaConnected addresses kind =>
    exact absurd (HdlcControl.frameKind_of_unnumberedKind kind) numbered
  | uaDisconnected addresses kind =>
    exact absurd (HdlcControl.frameKind_of_unnumberedKind kind) numbered
  | discReceived addresses kind =>
    exact absurd (HdlcControl.frameKind_of_unnumberedKind kind) numbered
  | dmReceived addresses kind =>
    exact absurd (HdlcControl.frameKind_of_unnumberedKind kind) numbered

theorem applyNegotiation_receiveSequence (session : HdlcSession) :
    session.applyNegotiation.receiveSequence=session.receiveSequence := by
  obtain hsame | ⟨limits,hsame⟩ := session.applyNegotiation_cases <;> rw [hsame]
  rfl

/-- `V(R)` advances with each accepted I-frame, and otherwise stays or is reset. -/
theorem receiveSequence_step (session : HdlcSession) (operation : HdlcSessionOperation) :
    (session.AcceptsInformation operation → (session.perform operation).2.receiveSequence=
      nextSequence session.receiveSequence) ∧
    (¬ session.AcceptsInformation operation →
      (session.perform operation).2.receiveSequence=session.receiveSequence ∨
        (session.perform operation).2.receiveSequence=0) := by
  constructor
  · rintro ⟨frame,rfl,hkind,hok⟩
    exact (receiveFrame_numbered (by simp [hkind]) hok).2 hkind
  · intro hrefused
    have heffect := session.perform_effect operation
    generalize hresult : session.perform operation=result at heffect ⊢
    obtain ⟨output,next⟩ := result
    cases heffect with
    | connectResponseFailed => exact .inl session.applyNegotiation_receiveSequence
    | @informationReceived frame kind =>
      have hok : (session.receiveFrame frame).1=.ok := congrArg (fun result => result.1.1) hresult
      exact absurd ⟨frame,rfl,kind,hok⟩ hrefused
    | connectRequested => exact .inr rfl
    | connectResponded => exact .inr rfl
    | disconnectResponded => exact .inr rfl
    | snrmAccepted => exact .inr rfl
    | uaConnected => exact .inr rfl
    | uaDisconnected => exact .inr rfl
    | dmReceived => exact .inr rfl
    | _ => exact .inl rfl

/-- With transmit windows of at most 7, and whatever is received: the variables tell the true number
of unacknowledged I-frames, which is within the window; nothing is acknowledged that was not sent,
and every accepted I-frame is counted once. -/
theorem sequences_numbered (options : HdlcSessionOptions) (operations : List HdlcSessionOperation)
    (window : machine.Along (fun session _ => session.windowSizeTransmit.toNat ≤ 7) (new options)
      operations) :
    let session := machine.final (new options) operations
    let traffic := Traffic.start.after (new options) operations
    (traffic.built-traffic.acknowledged=
        (session.sendSequence - session.acknowledgeSequence).toNat%8 ∧
      traffic.built-traffic.acknowledged ≤ session.windowSizeTransmit.toNat) ∧
    (session.sendSequence.toNat ≤ 7 ∧ session.receiveSequence.toNat ≤ 7 ∧
      session.acknowledgeSequence.toNat ≤ 7) ∧
    (session.state=.disconnected ∨ session.state=.awaitingConnection →
      session.sendSequence=0 ∧ session.receiveSequence=0 ∧ session.acknowledgeSequence=0) ∧
    (∀ frame : HdlcFrameBuffer, frame.control.frameKind≠.unnumbered →
      (session.receiveFrame frame).1=.ok →
        traffic.confirmedBy frame.control.receiveSequence ≤ traffic.built) ∧
    ∀ operation,
      (session.AcceptsInformation operation → (session.perform operation).2.receiveSequence.toNat=
        (session.receiveSequence.toNat+1)%8) ∧
      (¬ session.AcceptsInformation operation →
        (session.perform operation).2.receiveSequence=session.receiveSequence ∨
          (session.perform operation).2.receiveSequence=0) := by
  intro session traffic
  have hstart : Numbered .start (new options) := numbered_start rfl rfl rfl
  have h : Numbered traffic session := hstart.run (inWindow_of_reachable ⟨[],rfl⟩) window
  have hlt := h.send
  have hlt' := h.receive
  have hlt'' := h.acknowledge
  refine ⟨⟨?_,h.window⟩,⟨by omega,by omega,by omega⟩,?_,?_,?_⟩
  · rw [← HdlcControl.and_seven_toNat]
    exact h.outstanding.symm
  · intro hidle
    have hzero := h.idle hidle
    have hsend := h.send
    have hreceive := h.receive
    have hacknowledge := h.acknowledge
    rw [hzero] at hsend hreceive hacknowledge
    exact ⟨UInt8.toNat_inj.mp hsend,UInt8.toNat_inj.mp hreceive,UInt8.toNat_inj.mp hacknowledge⟩
  · intro frame hnumbered haccepted
    have haccepts := (receiveFrame_numbered hnumbered haccepted).1
    exact (h.confirmed haccepts (receiveSequence_lt frame.control)).2.1
  · intro operation
    obtain ⟨haccepts,hrefuses⟩ := session.receiveSequence_step operation
    refine ⟨?_,hrefuses⟩
    intro haccepted
    rw [haccepts haccepted,nextSequence_toNat h.receive,h.receive]
    omega

/-- A client that has sent one I-frame and hears of a second one that it has not sent. -/
def hostileRun : List HdlcSessionOperation :=
  [.buildConnectRequest,.receiveFrame (sampleIncoming .client uaControl []),
    .buildInformationFrame (some [1]) 1 false,
    .receiveFrame (sampleIncoming .client (receiveReadyControl 2 false) [])]

theorem sequences_numbered_hostile :
    let session := machine.final (new (sampleOptions .client)) hostileRun
    (Traffic.start.after (new (sampleOptions .client)) hostileRun).built-
        (Traffic.start.after (new (sampleOptions .client)) hostileRun).acknowledged=
      (session.sendSequence - session.acknowledgeSequence).toNat%8 ∧
      session.sendSequence.toNat=1 ∧ session.acknowledgeSequence.toNat=0 :=
  ⟨(sequences_numbered (sampleOptions .client) hostileRun
      ⟨by decide +kernel,by decide +kernel,by decide +kernel,by decide +kernel,trivial⟩).1.1,
    by decide +kernel,by decide +kernel⟩

end HdlcSession
end DlmsHdlc
