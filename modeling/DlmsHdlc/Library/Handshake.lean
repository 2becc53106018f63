import Mathlib

/-! A connection handshake of two parties over lossless first-in first-out channels: one party
requests, the other answers, either releases, and a confirmation ends both exchanges. The
configurations it can reach are few as long as no two releases cross. -/
namespace Handshake

inductive Phase
  | idle
  | requesting
  | established
  | releasing
  deriving DecidableEq, Repr

inductive Signal
  | request
  | confirm
  | release
  deriving DecidableEq, Repr

/-- One party: its phase, and whether it owes a confirmation to a request or to a release. -/
structure Party where
  phase : Phase
  answering : Bool
  closing : Bool
  deriving DecidableEq, Repr

inductive Call
  | request
  | answer
  | release
  | close
  deriving DecidableEq, Repr

inductive Side
  | initiator
  | responder
  deriving DecidableEq, Repr

instance : Fintype Call where
  elems := {.request,.answer,.release,.close}
  complete call := by cases call <;> decide

instance : Fintype Side where
  elems := {.initiator,.responder}
  complete side := by cases side <;> decide

/-- A call and the signal it sends, where it is allowed. -/
def Party.act (party : Party) (side : Side) : Call → Option (Party × Signal)
  | .request =>
    if side=.initiator ∧ party.phase=.idle then some ({ party with phase := .requesting },.request)
    else none
  | .answer =>
    if party.answering=true then
      some ({ party with phase := .established, answering := false },.confirm)
    else none
  | .release =>
    if party.phase=.established then some ({ party with phase := .releasing },.release) else none
  | .close =>
    if party.closing=true then some ({ party with phase := .idle, closing := false },.confirm)
    else none

/-- Signals that do not fit the phase are ignored. -/
def Party.receive (party : Party) (side : Side) : Signal → Party
  | .request =>
    if side=.responder ∧ party.phase=.idle then { party with answering := true } else party
  | .confirm =>
    match party.phase with
    | .requesting => { party with phase := .established }
    | .releasing => { party with phase := .idle }
    | _ => party
  | .release => if party.phase=.established then { party with closing := true } else party

/-- Both parties, and the signals on their way to each of them. -/
structure Configuration where
  party : Side → Party
  inbox : Side → List Signal

@[ext]
theorem Configuration.ext {c d : Configuration} (hparty : ∀ side, c.party side=d.party side)
    (hinbox : ∀ side, c.inbox side=d.inbox side) : c=d := by
  cases c
  cases d
  rw [Configuration.mk.injEq]
  exact ⟨funext hparty,funext hinbox⟩

def Side.other : Side → Side
  | initiator => responder
  | responder => initiator

inductive Action
  | call (side : Side) (call : Call)
  | deliver (side : Side)
  deriving DecidableEq, Repr, Fintype

namespace Configuration

/-- A configuration from the view of the initiator. -/
def of (initiator responder : Party) (toInitiator toResponder : List Signal) : Configuration where
  party
    | .initiator => initiator
    | .responder => responder
  inbox
    | .initiator => toInitiator
    | .responder => toResponder

instance : DecidableEq Configuration := fun c d =>
  decidable_of_iff ((∀ side, c.party side=d.party side) ∧ ∀ side, c.inbox side=d.inbox side)
    ⟨fun h => Configuration.ext h.1 h.2,fun h => by subst h; exact ⟨fun _ => rfl,fun _ => rfl⟩⟩

/-- One step, where it is possible. -/
def step (c : Configuration) : Action → Option Configuration
  | .call side call =>
    ((c.party side).act side call).map fun result =>
      ⟨Function.update c.party side result.1,
        Function.update c.inbox side.other (c.inbox side.other ++ [result.2])⟩
  | .deliver side =>
    match c.inbox side with
    | [] => none
    | signal :: rest =>
      some ⟨Function.update c.party side ((c.party side).receive side signal),
        Function.update c.inbox side rest⟩

/-- A release that crosses one on its way from the other party. -/
def Crosses (c : Configuration) : Action → Prop
  | .call side .release => (c.party side).phase=.established ∧ .release ∈ c.inbox side
  | _ => False

instance (c : Configuration) (action : Action) : Decidable (c.Crosses action) :=
  match action with
  | .call side .release =>
    inferInstanceAs (Decidable ((c.party side).phase=.established ∧ .release ∈ c.inbox side))
  | .call _ .request => isFalse id
  | .call _ .answer => isFalse id
  | .call _ .close => isFalse id
  | .deliver _ => isFalse id

/-- Nothing is on its way and nothing is owed. -/
def Quiescent (c : Configuration) : Prop :=
  ∀ side, c.inbox side=[] ∧ (c.party side).answering=false ∧ (c.party side).closing=false

instance (c : Configuration) : Decidable c.Quiescent :=
  inferInstanceAs (Decidable (∀ side, c.inbox side=[] ∧ (c.party side).answering=false ∧
    (c.party side).closing=false))

/-- Both parties agree whether there is a connection. -/
def Agreed (c : Configuration) : Prop :=
  (∀ side, (c.party side).phase=.established) ∨ ∀ side, (c.party side).phase=.idle

instance (c : Configuration) : Decidable c.Agreed :=
  inferInstanceAs (Decidable (_ ∨ _))

end Configuration

/-- A party that owes nothing. -/
def Party.free (phase : Phase) : Party := ⟨phase,false,false⟩

/-- The configurations in which no releases have crossed: a connection is set up, it is released
by the initiator, it is released by the responder. -/
def orderly : List Configuration :=
  [.of (.free .idle) (.free .idle) [] [],
    .of (.free .requesting) (.free .idle) [] [.request],
    .of (.free .requesting) ⟨.idle,true,false⟩ [] [],
    .of (.free .requesting) (.free .established) [.confirm] [],
    .of (.free .requesting) (.free .releasing) [.confirm,.release] [],
    .of (.free .established) (.free .established) [] [],
    .of (.free .releasing) (.free .established) [] [.release],
    .of (.free .releasing) ⟨.established,false,true⟩ [] [],
    .of (.free .releasing) ⟨.releasing,false,true⟩ [.release] [],
    .of (.free .releasing) ⟨.releasing,false,true⟩ [] [],
    .of (.free .releasing) (.free .idle) [.confirm] [],
    .of (.free .releasing) (.free .idle) [.release,.confirm] [],
    .of (.free .established) (.free .releasing) [.release] [],
    .of ⟨.established,false,true⟩ (.free .releasing) [] [],
    .of ⟨.releasing,false,true⟩ (.free .releasing) [] [.release],
    .of ⟨.releasing,false,true⟩ (.free .releasing) [] [],
    .of (.free .idle) (.free .releasing) [] [.confirm],
    .of (.free .idle) (.free .releasing) [] [.release,.confirm],
    .of (.free .requesting) (.free .releasing) [] [.confirm,.request],
    .of (.free .requesting) (.free .releasing) [] [.release,.confirm,.request]]

/-- Those after a crossing: each party waits for a confirmation that nobody owes. -/
def crossed : List Configuration :=
  [.of (.free .releasing) (.free .releasing) [.release] [.release],
    .of (.free .releasing) (.free .releasing) [.release] [],
    .of (.free .releasing) (.free .releasing) [] [.release],
    .of (.free .releasing) (.free .releasing) [] []]

theorem orderly_step : ∀ c ∈ orderly, ∀ action, ∀ d ∈ c.step action,
    d ∈ if c.Crosses action then crossed else orderly := by decide +kernel

/-- Nothing leads out of a crossing. -/
theorem crossed_step : ∀ c ∈ crossed, ∀ action, ∀ d ∈ c.step action, d ∈ crossed := by
  decide +kernel

theorem orderly_agreed : ∀ c ∈ orderly, c.Quiescent → c.Agreed := by decide +kernel

theorem crossed_releasing : ∀ c ∈ crossed, ∀ side, (c.party side).phase=.releasing := by
  decide +kernel

/-- Only a release leads from established to releasing. -/
theorem Party.act_release_iff {party party' : Party} {side : Side} {call : Call} {signal : Signal}
    (h : party.act side call=some (party',signal)) :
    call=.release ↔ party.phase=.established ∧ party'.phase=.releasing := by
  cases call with
  | request =>
    simp only [Party.act,Option.ite_none_right_eq_some,Option.some.injEq,Prod.mk.injEq] at h
    obtain ⟨_,rfl,_⟩ := h
    simp
  | answer =>
    simp only [Party.act,Option.ite_none_right_eq_some,Option.some.injEq,Prod.mk.injEq] at h
    obtain ⟨_,rfl,_⟩ := h
    simp
  | release =>
    simp only [Party.act,Option.ite_none_right_eq_some,Option.some.injEq,Prod.mk.injEq] at h
    obtain ⟨hphase,rfl,_⟩ := h
    simp [hphase]
  | close =>
    simp only [Party.act,Option.ite_none_right_eq_some,Option.some.injEq,Prod.mk.injEq] at h
    obtain ⟨_,rfl,_⟩ := h
    simp

theorem Configuration.crosses_call_iff (c : Configuration) (side : Side) (call : Call) :
    c.Crosses (.call side call) ↔
      call=.release ∧ (c.party side).phase=.established ∧ .release ∈ c.inbox side := by
  cases call <;> simp [Configuration.Crosses]

end Handshake
