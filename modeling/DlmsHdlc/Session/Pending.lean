import DlmsHdlc.Session.Atomicity

/-! The three response flags, and the commands that the responses answer. -/
namespace DlmsHdlc.HdlcSession
open Machine

/-- At most one response is pending, in the state that it belongs to. -/
structure PendingInvariant (session : HdlcSession) : Prop where
  connect_disconnect : ¬ (session.connectResponsePending=true ∧
    session.disconnectResponsePending=true)
  connect_dm : ¬ (session.connectResponsePending=true ∧ session.dmResponsePending=true)
  disconnect_dm : ¬ (session.disconnectResponsePending=true ∧ session.dmResponsePending=true)
  connect_state : session.connectResponsePending=true → session.state=.disconnected
  dm_state : session.dmResponsePending=true → session.state=.disconnected
  disconnect_state : session.disconnectResponsePending=true → session.state=.connected

theorem PendingInvariant.congr {session next : HdlcSession} (h : session.PendingInvariant)
    (same : OnlyLimits session next) : next.PendingInvariant := by
  obtain ⟨_,hstate,_,_,hconnect,hdisconnect,hdm⟩ := same
  constructor <;> simp only [hstate,hconnect,hdisconnect,hdm]
  · exact h.connect_disconnect
  · exact h.connect_dm
  · exact h.disconnect_dm
  · exact h.connect_state
  · exact h.dm_state
  · exact h.disconnect_state

theorem pendingInvariant_of_none {session : HdlcSession}
    (connect : session.connectResponsePending=false)
    (disconnect : session.disconnectResponsePending=false)
    (dm : session.dmResponsePending=false) : session.PendingInvariant := by
  constructor <;> simp [connect,disconnect,dm]

theorem pendingInvariant_of_disconnected {session : HdlcSession}
    (state : session.state=.disconnected) (disconnect : session.disconnectResponsePending=false)
    (connect_dm : ¬ (session.connectResponsePending=true ∧ session.dmResponsePending=true)) :
    session.PendingInvariant :=
  ⟨by simp [disconnect],connect_dm,by simp [disconnect],fun _ => state,fun _ => state,
    by simp [disconnect]⟩

theorem pendingInvariant_of_connected {session : HdlcSession} (state : session.state=.connected)
    (connect : session.connectResponsePending=false) (dm : session.dmResponsePending=false) :
    session.PendingInvariant :=
  ⟨by simp [connect],by simp [connect],by simp [dm],by simp [connect],by simp [dm],fun _ => state⟩

namespace PendingInvariant
variable {session : HdlcSession} (h : session.PendingInvariant)
include h

theorem of_ne_disconnected (state : session.state≠.disconnected) :
    session.connectResponsePending=false ∧ session.dmResponsePending=false :=
  ⟨Bool.eq_false_iff.mpr fun pending => state (h.connect_state pending),
    Bool.eq_false_iff.mpr fun pending => state (h.dm_state pending)⟩

theorem of_ne_connected (state : session.state≠.connected) :
    session.disconnectResponsePending=false :=
  Bool.eq_false_iff.mpr fun pending => state (h.disconnect_state pending)

/-- A pending response is the only one. -/
theorem only_connect (pending : session.connectResponsePending=true) :
    session.disconnectResponsePending=false ∧ session.dmResponsePending=false :=
  ⟨Bool.eq_false_iff.mpr fun disconnect => h.connect_disconnect ⟨pending,disconnect⟩,
    Bool.eq_false_iff.mpr fun dm => h.connect_dm ⟨pending,dm⟩⟩

theorem only_disconnect (pending : session.disconnectResponsePending=true) :
    session.connectResponsePending=false ∧ session.dmResponsePending=false :=
  ⟨Bool.eq_false_iff.mpr fun connect => h.connect_disconnect ⟨connect,pending⟩,
    Bool.eq_false_iff.mpr fun dm => h.disconnect_dm ⟨pending,dm⟩⟩

theorem only_dm (pending : session.dmResponsePending=true) :
    session.connectResponsePending=false ∧ session.disconnectResponsePending=false :=
  ⟨Bool.eq_false_iff.mpr fun connect => h.connect_dm ⟨connect,pending⟩,
    Bool.eq_false_iff.mpr fun disconnect => h.disconnect_dm ⟨disconnect,pending⟩⟩

end PendingInvariant

/-- `ReceiveFrame` of this frame accepts an SNRM. -/
def AcceptsSnrm (session : HdlcSession) (operation : HdlcSessionOperation) : Prop :=
  ∃ frame, operation=.receiveFrame frame ∧ session.incomingAddressesMatch frame=true ∧
    frame.control.unnumberedKind=.ok .snrm ∧ session.options.role=.server ∧
    session.state=.disconnected ∧ ∃ parsed, parseSnrmInfoField frame.information=.ok parsed

def ReceivesDm (session : HdlcSession) (operation : HdlcSessionOperation) : Prop :=
  ∃ frame, operation=.receiveFrame frame ∧ session.incomingAddressesMatch frame=true ∧
    frame.control.unnumberedKind=.ok .dm

/-- A disconnect request that can be encoded, in the state that allows it. -/
def SendsDisc (session : HdlcSession) (operation : HdlcSessionOperation) : Prop :=
  session.state=.connected ∧
  ∃ information size, (operation=.buildDisconnectRequestWith information size ∨
      operation=.buildDisconnectRequest ∧ information=none ∧ size=0) ∧
    ∃ output, session.buildFrame kDiscControl
      (if information≠none ∧ 0 < size then information else none)
      (if information≠none ∧ 0 < size then size else 0)=.ok output

/-- No call overtakes a response that is pending for something else. -/
structure AnswersInOrder (session : HdlcSession) (operation : HdlcSessionOperation) : Prop where
  accepted : session.AcceptsSnrm operation → session.dmResponsePending=false
  rejected : session.RejectsSnrm operation → session.connectResponsePending=false
  dm : session.ReceivesDm operation → session.disconnectResponsePending=false
  disc : session.SendsDisc operation → session.disconnectResponsePending=false

/-- The latest command of the other side that has not been answered. -/
inductive Command
  | snrm
  | badSnrm
  | disc
  deriving DecidableEq, Repr

/-- What a successful call makes of the unanswered command: commands replace it, answers and the
end or the start of a connection remove it. -/
def commandAfter (session : HdlcSession) (command : Option Command) :
    HdlcSessionOperation → Option Command
  | .buildConnectResponse => none
  | .buildDisconnectResponse => none
  | .buildDmResponse => none
  | .receiveFrame frame =>
    match frame.control.unnumberedKind with
    | .ok .snrm => some .snrm
    | .ok .disc => some .disc
    | .ok .ua => none
    | .ok .dm => if session.state=.disconnected then command else none
    | _ => command
  | _ => command

theorem commandAfter_numbered (session : HdlcSession) (command : Option Command)
    {frame : HdlcFrameBuffer} (h : frame.control.frameKind≠.unnumbered) :
    session.commandAfter command (.receiveFrame frame)=command := by
  simp only [commandAfter,HdlcControl.unnumberedKind_of_ne h]

open Classical in
/-- A rejected SNRM is a command as well; other failures change nothing. -/
noncomputable def nextCommand (session : HdlcSession) (operation : HdlcSessionOperation)
    (command : Option Command) : Option Command :=
  if session.RejectsSnrm operation then some .badSnrm
  else if (session.perform operation).1.1=.ok then session.commandAfter command operation
  else command

/-- The session together with the unanswered command. -/
noncomputable def monitor :
    Mealy (HdlcSession × Option Command) HdlcSessionOperation (HdlcStatus × List UInt8) :=
  ⟨fun state operation => ((state.1.perform operation).1,
    ((state.1.perform operation).2,state.1.nextCommand operation state.2))⟩

/-- A response that is built answers the unanswered command, with the frame that answers it. -/
def Answers (session : HdlcSession) (command : Option Command)
    (operation : HdlcSessionOperation) : Prop :=
  (session.perform operation).1.1=.ok →
    (operation=.buildConnectResponse → command=some .snrm) ∧
    (operation=.buildDisconnectResponse → command=some .disc) ∧
    (operation=.buildDmResponse → command=some .badSnrm)

/-- The flags remember the unanswered command; only a server is asked to connect. -/
structure Remembers (session : HdlcSession) (command : Option Command) : Prop where
  connect : session.connectResponsePending=true → command=some .snrm
  dm : session.dmResponsePending=true → command=some .badSnrm
  disconnect : session.disconnectResponsePending=true → command=some .disc
  role : session.connectResponsePending=true ∨ session.dmResponsePending=true →
    session.options.role=.server

theorem Remembers.congr {session next : HdlcSession} {command : Option Command}
    (h : session.Remembers command) (same : OnlyLimits session next) : next.Remembers command := by
  obtain ⟨hrole,_,_,_,hconnect,hdisconnect,hdm⟩ := same
  constructor <;> simp only [hrole,hconnect,hdisconnect,hdm]
  · exact h.connect
  · exact h.dm
  · exact h.disconnect
  · exact h.role

theorem remembers_of_none {session : HdlcSession} {command : Option Command}
    (connect : session.connectResponsePending=false)
    (disconnect : session.disconnectResponsePending=false)
    (dm : session.dmResponsePending=false) : session.Remembers command := by
  constructor <;> simp [connect,disconnect,dm]

/-- A client is never asked to connect. -/
theorem Remembers.client {session : HdlcSession} {command : Option Command}
    (h : session.Remembers command) (role : session.options.role=.client) :
    session.connectResponsePending=false ∧ session.dmResponsePending=false := by
  constructor
  · refine Bool.eq_false_iff.mpr fun connect => ?_
    cases role.symm.trans (h.role (.inl connect))
  · refine Bool.eq_false_iff.mpr fun dm => ?_
    cases role.symm.trans (h.role (.inr dm))

variable (session : HdlcSession)

theorem perform_acceptsSnrm {operation : HdlcSessionOperation}
    (accepts : session.AcceptsSnrm operation) :
    (session.perform operation).2.connectResponsePending=true ∧
      (session.perform operation).2.dmResponsePending=session.dmResponsePending := by
  obtain ⟨frame,rfl,addresses,kind,role,state,⟨proposed,consumed⟩,parsed⟩ := accepts
  rw [perform,session.receiveFrame_unnumbered addresses kind]
  dsimp only
  rw [session.receiveSnrm_accepted role state parsed]
  exact ⟨rfl,rfl⟩

theorem perform_receivesDm {operation : HdlcSessionOperation}
    (receives : session.ReceivesDm operation) :
    (session.perform operation).2={ session.resetSequences with state := .disconnected } := by
  obtain ⟨frame,rfl,addresses,kind⟩ := receives
  rw [perform,session.receiveFrame_unnumbered addresses kind]
  rfl

theorem perform_sendsDisc {operation : HdlcSessionOperation}
    (sends : session.SendsDisc operation) :
    (session.perform operation).2={ session with state := .awaitingDisconnect } := by
  obtain ⟨hstate,information,size,hoperation,output,built⟩ := sends
  have hrequest : session.buildDisconnectRequestWith information size=
      (.ok output,{ session with state := .awaitingDisconnect }) := by
    simp only [buildDisconnectRequestWith,hstate,ne_eq,not_true_eq_false,↓reduceIte,built]
  obtain rfl | ⟨rfl,rfl,rfl⟩ := hoperation
  · rw [perform,hrequest]
    rfl
  · rw [perform,buildDisconnectRequest,hrequest]
    rfl

variable {session} {command : Option Command} {operation : HdlcSessionOperation}

/-- A call that overtakes no pending response keeps the flags in order. -/
theorem PendingInvariant.step (h : session.PendingInvariant) (remembers : session.Remembers command)
    (ordered : session.AnswersInOrder operation) :
    (session.perform operation).2.PendingInvariant := by
  have heffect := session.perform_effect operation
  generalize session.perform operation=result at heffect ⊢
  obtain ⟨output,next⟩ := result
  cases heffect with
  | refused => exact h
  | connectRequested request role state =>
    obtain ⟨hconnect,hdm⟩ := remembers.client role
    have hdisconnect := h.of_ne_connected (by rw [state]; decide)
    exact pendingInvariant_of_none hconnect hdisconnect hdm
  | connectResponseFailed => exact h.congr session.applyNegotiation_onlyLimits
  | connectResponded role pending =>
    obtain ⟨hdisconnect,hdm⟩ := h.only_connect pending
    have hkept := session.applyNegotiation_onlyLimits
    exact pendingInvariant_of_none rfl (hkept.disconnectResponsePending.trans hdisconnect)
      (hkept.dmResponsePending.trans hdm)
  | disconnectRequested request state built =>
    have hdisconnect := ordered.disc ⟨state,_,_,request,_,built⟩
    obtain ⟨hconnect,hdm⟩ := h.of_ne_disconnected (by rw [state]; decide)
    exact pendingInvariant_of_none hconnect hdisconnect hdm
  | disconnectResponded pending =>
    obtain ⟨hconnect,hdm⟩ := h.only_disconnect pending
    exact pendingInvariant_of_none hconnect rfl hdm
  | dmResponded pending =>
    obtain ⟨hconnect,hdisconnect⟩ := h.only_dm pending
    exact pendingInvariant_of_none hconnect hdisconnect rfl
  | informationSent => exact { h with }
  | receiveReadySent => exact h
  | informationReceived => exact { h with }
  | supervisoryReceived => exact { h with }
  | snrmRejected failed addresses kind role state parsed =>
    have hconnect := ordered.rejected ⟨_,rfl,addresses,kind,role,state,_,parsed⟩
    have hdisconnect := h.of_ne_connected (by rw [state]; decide)
    refine pendingInvariant_of_disconnected state hdisconnect ?_
    rintro ⟨connect,_⟩
    cases hconnect.symm.trans connect
  | snrmAccepted addresses kind role state parsed =>
    have hdm := ordered.accepted ⟨_,rfl,addresses,kind,role,state,_,parsed⟩
    have hdisconnect := h.of_ne_connected (by rw [state]; decide)
    refine pendingInvariant_of_disconnected state hdisconnect ?_
    rintro ⟨_,dm⟩
    cases hdm.symm.trans dm
  | @uaConnected frame addresses kind state =>
    obtain ⟨hconnect,hdm⟩ := h.of_ne_disconnected (by rw [state]; decide)
    have hdisconnect := h.of_ne_connected (by rw [state]; decide)
    have hkept := session.applyUa_onlyLimits frame.information
    exact pendingInvariant_of_none (hkept.connectResponsePending.trans hconnect)
      (hkept.disconnectResponsePending.trans hdisconnect) (hkept.dmResponsePending.trans hdm)
  | uaDisconnected addresses kind state =>
    obtain ⟨hconnect,hdm⟩ := h.of_ne_disconnected (by rw [state]; decide)
    have hdisconnect := h.of_ne_connected (by rw [state]; decide)
    exact pendingInvariant_of_none hconnect hdisconnect hdm
  | discReceived addresses kind state =>
    obtain ⟨hconnect,hdm⟩ := h.of_ne_disconnected (by rw [state]; decide)
    exact pendingInvariant_of_connected state hconnect hdm
  | dmReceived addresses kind =>
    have hdisconnect := ordered.dm ⟨_,rfl,addresses,kind⟩
    exact pendingInvariant_of_disconnected rfl hdisconnect h.connect_dm

/-- A call that leaves the flags in order overtook no pending response. -/
theorem PendingInvariant.answersInOrder
    (next : (session.perform operation).2.PendingInvariant) : session.AnswersInOrder operation := by
  constructor
  · intro accepts
    obtain ⟨hconnect,hdm⟩ := session.perform_acceptsSnrm accepts
    have hnot := next.connect_dm
    simpa [hconnect,hdm] using hnot
  · intro rejects
    have hnot := next.connect_dm
    rw [(session.perform_rejectsSnrm rejects).2] at hnot
    simpa [clearForSnrm] using hnot
  · intro receives
    have hstate := next.disconnect_state
    rw [session.perform_receivesDm receives] at hstate
    simpa [resetSequences] using hstate
  · intro sends
    have hstate := next.disconnect_state
    rw [session.perform_sendsDisc sends] at hstate
    simpa using hstate

theorem Remembers.answers (remembers : session.Remembers command) :
    session.Answers command operation := by
  intro hok
  have heffect := session.perform_effect operation
  generalize session.perform operation=result at heffect hok
  obtain ⟨output,next⟩ := result
  cases heffect with
  | refused failed => exact absurd hok failed
  | connectResponseFailed failed => exact absurd hok failed
  | snrmRejected failed => exact absurd hok failed
  | connectRequested request =>
    obtain rfl | ⟨_,_,rfl⟩ := request <;> simp
  | disconnectRequested request =>
    obtain rfl | ⟨rfl,_⟩ := request <;> simp
  | connectResponded role pending => exact ⟨fun _ => remembers.connect pending,by simp,by simp⟩
  | disconnectResponded pending => exact ⟨by simp,fun _ => remembers.disconnect pending,by simp⟩
  | dmResponded pending => exact ⟨by simp,by simp,fun _ => remembers.dm pending⟩
  | _ => exact ⟨by simp,by simp,by simp⟩

theorem remembers_rejected (rejects : session.RejectsSnrm operation)
    (next : (session.perform operation).2.PendingInvariant) :
    (session.perform operation).2.Remembers (some .badSnrm) := by
  have hrole : session.options.role=.server := by
    obtain ⟨_,_,_,_,role,_⟩ := rejects
    exact role
  rw [(session.perform_rejectsSnrm rejects).2] at next ⊢
  refine ⟨?_,fun _ => rfl,?_,fun _ => hrole⟩
  · intro hconnect
    exact absurd ⟨hconnect,rfl⟩ next.connect_dm
  · intro hdisconnect
    exact absurd ⟨hdisconnect,rfl⟩ next.disconnect_dm

theorem Remembers.step_ok (remembers : session.Remembers command) (h : session.PendingInvariant)
    (hok : (session.perform operation).1.1=.ok)
    (next : (session.perform operation).2.PendingInvariant) :
    (session.perform operation).2.Remembers (session.commandAfter command operation) := by
  have heffect := session.perform_effect operation
  generalize session.perform operation=result at heffect hok next ⊢
  obtain ⟨output,after⟩ := result
  cases heffect with
  | refused failed => exact absurd hok failed
  | connectResponseFailed failed => exact absurd hok failed
  | snrmRejected failed => exact absurd hok failed
  | connectRequested request =>
    obtain rfl | ⟨_,_,rfl⟩ := request <;> exact { remembers with }
  | disconnectRequested request =>
    obtain rfl | ⟨rfl,_⟩ := request <;> exact { remembers with }
  | connectResponded role pending =>
    obtain ⟨hdisconnect,hdm⟩ := h.only_connect pending
    have hkept := session.applyNegotiation_onlyLimits
    exact remembers_of_none rfl (hkept.disconnectResponsePending.trans hdisconnect)
      (hkept.dmResponsePending.trans hdm)
  | disconnectResponded pending =>
    obtain ⟨hconnect,hdm⟩ := h.only_disconnect pending
    exact remembers_of_none hconnect rfl hdm
  | dmResponded pending =>
    obtain ⟨hconnect,hdisconnect⟩ := h.only_dm pending
    exact remembers_of_none hconnect hdisconnect rfl
  | informationSent => exact { remembers with }
  | receiveReadySent => exact remembers
  | informationReceived kind =>
    rw [session.commandAfter_numbered command (by rw [kind]; decide)]
    exact { remembers with }
  | supervisoryReceived kind =>
    rw [session.commandAfter_numbered command (by rw [kind]; decide)]
    exact { remembers with }
  | snrmAccepted addresses kind role state parsed =>
    -- The accepted request is pending now, and nothing else is.
    obtain ⟨hdisconnect,hdm⟩ := next.only_connect rfl
    simp only [commandAfter,kind]
    refine ⟨fun _ => rfl,?_,?_,fun _ => role⟩
    · intro dm
      cases hdm.symm.trans dm
    · intro disconnect
      cases hdisconnect.symm.trans disconnect
  | @uaConnected frame addresses kind state =>
    obtain ⟨hconnect,hdm⟩ := next.of_ne_disconnected (by rintro ⟨⟩)
    have hdisconnect := h.of_ne_connected (by rw [state]; decide)
    have hkept := session.applyUa_onlyLimits frame.information
    simp only [commandAfter,kind]
    exact remembers_of_none hconnect (hkept.disconnectResponsePending.trans hdisconnect) hdm
  | uaDisconnected addresses kind state =>
    obtain ⟨hconnect,hdm⟩ := h.of_ne_disconnected (by rw [state]; decide)
    have hdisconnect := h.of_ne_connected (by rw [state]; decide)
    simp only [commandAfter,kind]
    exact remembers_of_none hconnect hdisconnect hdm
  | discReceived addresses kind state =>
    obtain ⟨hconnect,hdm⟩ := h.of_ne_disconnected (by rw [state]; decide)
    simp only [commandAfter,kind]
    refine ⟨?_,?_,fun _ => rfl,?_⟩
    · intro connect
      cases hconnect.symm.trans connect
    · intro dm
      cases hdm.symm.trans dm
    · rintro (connect | dm)
      · cases hconnect.symm.trans connect
      · cases hdm.symm.trans dm
  | dmReceived addresses kind =>
    simp only [commandAfter,kind]
    by_cases hstate : session.state=.disconnected
    · rw [if_pos hstate]
      exact { remembers with }
    · rw [if_neg hstate]
      obtain ⟨hconnect,hdm⟩ := h.of_ne_disconnected hstate
      have hdisconnect := next.of_ne_connected (by rintro ⟨⟩)
      exact remembers_of_none hconnect hdisconnect hdm

/-- As long as the flags stay in order, they remember the unanswered command. -/
theorem Remembers.step (remembers : session.Remembers command) (h : session.PendingInvariant)
    (next : (session.perform operation).2.PendingInvariant) :
    (session.perform operation).2.Remembers (session.nextCommand operation command) := by
  unfold nextCommand
  split
  · rename_i rejects
    exact remembers_rejected rejects next
  rename_i rejects
  split
  · rename_i hok
    exact remembers.step_ok h hok next
  rename_i failed
  obtain hsame | ⟨_,_,_,hsame,_⟩ | ⟨hrejects,_⟩ := session.failed_cases failed
  · rw [hsame]
    exact remembers
  · rw [hsame]
    exact remembers.congr session.applyNegotiation_onlyLimits
  · exact absurd hrejects rejects

/-- The flags stay in order along a run, and every UA and DM answers the latest unanswered
command of the connection, exactly as long as no call overtakes a pending response. -/
theorem pendingInvariant_along_iff (options : HdlcSessionOptions)
    (operations : List HdlcSessionOperation) :
    monitor.Along (fun state operation =>
        (state.1.perform operation).2.PendingInvariant ∧ state.1.Answers state.2 operation)
        (.new options,none) operations ↔
      machine.Along AnswersInOrder (.new options) operations := by
  have hmap := monitor.along_map (N := machine) (P := AnswersInOrder) Prod.fst (fun _ _ => rfl)
    (.new options,none) operations
  rw [← hmap]
  apply monitor.along_congr (fun state => state.1.PendingInvariant ∧ state.1.Remembers state.2)
  · rintro ⟨session,command⟩ operation _ ⟨h,remembers⟩
    constructor
    · rintro ⟨hnext,_⟩
      exact hnext.answersInOrder
    · intro ordered
      exact ⟨h.step remembers ordered,remembers.answers⟩
  · rintro ⟨session,command⟩ operation _ ⟨h,remembers⟩ ⟨hnext,_⟩
    exact ⟨hnext,remembers.step h hnext⟩
  · constructor
    · constructor <;> simp [new]
    · constructor <;> simp [new]

/-- A rejected SNRM followed by a good one leaves both responses pending. -/
theorem rejectedSnrm_leaves_dm_pending :
    ¬ monitor.Along (fun state operation =>
        (state.1.perform operation).2.PendingInvariant ∧ state.1.Answers state.2 operation)
      (.new (sampleOptions .server),none)
      [.receiveFrame (sampleIncoming .server snrmControl [0x81,0x80,0x05]),
        .receiveFrame (sampleIncoming .server snrmControl [])] := by
  rintro ⟨_,⟨hflags,_⟩,_⟩
  exact hflags.connect_dm ⟨by decide,by decide⟩

end DlmsHdlc.HdlcSession
