import DlmsHdlc.Library.Machine

/-! Stations on a shared medium, where any of them may hear what any other has sent: late, in any
order, again, or never. Stations that ignore each other are as good as on media of their own. -/
namespace Medium
open Machine

/-- How a station answers a call, which may send messages, and a message that it hears. -/
structure Station (σ α β ω : Type*) where
  call : σ → α → (β × List ω) × σ
  hear : σ → ω → β × σ

/-- All stations, with all that each of them has sent. -/
structure Line (ι σ ω : Type*) where
  station : ι → σ
  sent : ι → List ω

/-- A call, or a station hears the message of this number from another one. -/
inductive Event (ι α : Type*)
  | call (i : ι) (x : α)
  | hear (receiver sender : ι) (number : ℕ)

variable {ι σ α β ω : Type*}

/-- Only these stations take part. -/
def Event.within (own : ι → Bool) : Event ι α → Bool
  | .call i _ => own i
  | .hear receiver sender _ => own receiver && own sender

/-- One of them hears another one. -/
def Event.Foreign (own : ι → Bool) : Event ι α → Prop
  | .call _ _ => False
  | .hear receiver sender _ => own receiver=true ∧ own sender=false

namespace Line
variable [DecidableEq ι] (kind : Station σ α β ω)

/-- A message that has not been sent yet is not heard. -/
def step (line : Line ι σ ω) : Event ι α → Option β × Line ι σ ω
  | .call i x =>
    let ((answer,words),next) := kind.call (line.station i) x
    (some answer,⟨Function.update line.station i next,
      Function.update line.sent i (line.sent i ++ words)⟩)
  | .hear receiver sender number =>
    match (line.sent sender)[number]? with
    | none => (none,line)
    | some word =>
      let (answer,next) := kind.hear (line.station receiver) word
      (some answer,{ line with station := Function.update line.station receiver next })

def machine : Mealy (Line ι σ ω) (Event ι α) (Option β) := ⟨step kind⟩

theorem step_call (line : Line ι σ ω) (i : ι) (x : α) : line.step kind (.call i x)=
    (some (kind.call (line.station i) x).1.1,
      ⟨Function.update line.station i (kind.call (line.station i) x).2,
        Function.update line.sent i (line.sent i ++ (kind.call (line.station i) x).1.2)⟩) := rfl

theorem step_hear_none {line : Line ι σ ω} {sender : ι} {number : ℕ}
    (h : (line.sent sender)[number]?=none) (receiver : ι) :
    line.step kind (.hear receiver sender number)=(none,line) := by
  simp only [step,h]

theorem step_hear_some {line : Line ι σ ω} {sender : ι} {number : ℕ} {word : ω}
    (h : (line.sent sender)[number]?=some word) (receiver : ι) :
    line.step kind (.hear receiver sender number)=
      (some (kind.hear (line.station receiver) word).1,{ line with
        station := Function.update line.station receiver
          (kind.hear (line.station receiver) word).2 }) := by
  simp only [step,h]

/-- What each station stays, and what its messages are. -/
structure Keeps (P : ι → σ → Prop) (From : ι → ω → Prop) : Prop where
  call : ∀ {i s}, P i s → ∀ x, P i (kind.call s x).2 ∧ ∀ word ∈ (kind.call s x).1.2, From i word
  hear : ∀ {i s}, P i s → ∀ word, P i (kind.hear s word).2

/-- Every station is what it should be, and so is all that was sent. -/
structure Sound (P : ι → σ → Prop) (From : ι → ω → Prop) (line : Line ι σ ω) : Prop where
  station : ∀ i, P i (line.station i)
  sent : ∀ i, ∀ word ∈ line.sent i, From i word

section Private
variable {kind} {P : ι → σ → Prop} {From : ι → ω → Prop} {line : Line ι σ ω}

theorem Sound.step (h : line.Sound P From) (keeps : Keeps kind P From) (event : Event ι α) :
    (line.step kind event).2.Sound P From := by
  cases event with
  | call i x =>
    obtain ⟨hnext,hwords⟩ := keeps.call (h.station i) x
    have hsent : ∀ word ∈ line.sent i ++ (kind.call (line.station i) x).1.2, From i word := by
      intro word hword
      exact (List.mem_append.mp hword).elim (h.sent i word) (hwords word)
    rw [step_call]
    exact ⟨(Function.forall_update_iff line.station P).mpr ⟨hnext,fun j _ => h.station j⟩,
      (Function.forall_update_iff line.sent fun j words => ∀ word ∈ words, From j word).mpr
        ⟨hsent,fun j _ => h.sent j⟩⟩
  | hear receiver sender number =>
    cases hword : (line.sent sender)[number]? with
    | none =>
      rw [step_hear_none kind hword]
      exact h
    | some word =>
      have hnext := keeps.hear (h.station receiver) word
      rw [step_hear_some kind hword]
      exact ⟨(Function.forall_update_iff line.station P).mpr ⟨hnext,fun j _ => h.station j⟩,h.sent⟩

/-- The same stations have sent the same. -/
structure Agree (own : ι → Bool) (line line' : Line ι σ ω) : Prop where
  station : ∀ i, own i=true → line.station i=line'.station i
  sent : ∀ i, own i=true → line.sent i=line'.sent i

theorem Agree.step {own : ι → Bool} {line' : Line ι σ ω} (h : Agree own line line')
    {event : Event ι α} (hown : event.within own=true) :
    (line.step kind event).1=(line'.step kind event).1 ∧
      Agree own (line.step kind event).2 (line'.step kind event).2 := by
  cases event with
  | call i x =>
    have hstation := h.station i hown
    rw [step_call,step_call,← hstation,← h.sent i hown]
    refine ⟨rfl,fun j hj => ?_,fun j hj => ?_⟩
    · dsimp only [Function.update]
      split
      · rfl
      · exact h.station j hj
    · dsimp only [Function.update]
      split
      · rfl
      · exact h.sent j hj
  | hear receiver sender number =>
    obtain ⟨hreceiver,hsender⟩ := Bool.and_eq_true_iff.mp hown
    have hsent := h.sent sender hsender
    cases hword : (line.sent sender)[number]? with
    | none =>
      rw [step_hear_none kind hword,step_hear_none kind (hsent ▸ hword)]
      exact ⟨rfl,h⟩
    | some word =>
      rw [step_hear_some kind hword,step_hear_some kind (hsent ▸ hword),
        ← h.station receiver hreceiver]
      refine ⟨rfl,fun j hj => ?_,h.sent⟩
      dsimp only [Function.update]
      split
      · rfl
      · exact h.station j hj

/-- What others do leaves them as they are. -/
theorem Agree.others {own : ι → Bool} {line' : Line ι σ ω} (h : Agree own line line')
    (sound : line.Sound P From)
    (ignores : ∀ {i j s word}, own i=true → own j=false → P i s → From j word →
      (kind.hear s word).2=s)
    {event : Event ι α} (hown : event.within own=false) :
    Agree own (line.step kind event).2 line' := by
  have hne {i j : ι} (hi : own i=false) (hj : own j=true) : j≠i := by
    rintro rfl
    rw [hj] at hi
    cases hi
  cases event with
  | call i x =>
    rw [step_call]
    exact ⟨fun j hj => (Function.update_of_ne (hne hown hj) _ _).trans (h.station j hj),
      fun j hj => (Function.update_of_ne (hne hown hj) _ _).trans (h.sent j hj)⟩
  | hear receiver sender number =>
    cases hword : (line.sent sender)[number]? with
    | none =>
      rw [step_hear_none kind hword]
      exact h
    | some word =>
      rw [step_hear_some kind hword]
      refine ⟨fun j hj => ?_,h.sent⟩
      cases hreceiver : own receiver with
      | false => exact (Function.update_of_ne (hne hreceiver hj) _ _).trans (h.station j hj)
      | true =>
        -- One of them hears another one, which it ignores.
        have hsender : own sender=false := by
          rw [Event.within,hreceiver,Bool.true_and] at hown
          exact hown
        have hfrom := sound.sent sender word (List.mem_of_getElem? hword)
        rw [ignores hreceiver hsender (sound.station receiver) hfrom,Function.update_eq_self]
        exact h.station j hj

variable (kind)

/-- Stations that ignore all others answer, in any run, as if the others did not exist. -/
theorem private_run (keeps : Keeps kind P From) {own : ι → Bool}
    (ignores : ∀ {i j s word}, own i=true → own j=false → P i s → From j word →
      (kind.hear s word).2=s)
    (sound : line.Sound P From) (events : List (Event ι α)) :
    (machine kind).outputsOf (Event.within own) line events=
        (machine kind).outputs line (events.filter (Event.within own)) ∧
      Agree own ((machine kind).final line events)
        ((machine kind).final line (events.filter (Event.within own))) := by
  have hsame : line.Sound P From ∧ Agree own line line := ⟨sound,fun _ _ => rfl,fun _ _ => rfl⟩
  have hrun := @Mealy.outputsOf_eq _ _ _ _ (machine kind) (machine kind) (Event.within own)
    (fun full alone => full.Sound P From ∧ Agree own full alone) ?_ ?_ line line hsame events
  · exact ⟨hrun.1,hrun.2.2⟩
  · rintro full alone event hown ⟨hsound,hagree⟩
    obtain ⟨hanswer,hnext⟩ := hagree.step hown
    exact ⟨hanswer,hsound.step keeps event,hnext⟩
  · rintro full alone event hown ⟨hsound,hagree⟩
    exact ⟨hsound.step keeps event,hagree.others hsound ignores hown⟩

/-- What they answer to the messages of others is what they answer to messages they ignore. -/
theorem foreign_answers (keeps : Keeps kind P From) {own : ι → Bool} {Q : β → Prop}
    (refuses : ∀ {i j s word}, own i=true → own j=false → P i s → From j word →
      Q (kind.hear s word).1)
    (sound : line.Sound P From) (events : List (Event ι α)) :
    (machine kind).Along (fun line event => event.Foreign own →
      ∀ answer ∈ (line.step kind event).1, Q answer) line events := by
  refine (machine kind).along_of_invariant (Sound P From) ?_
    (fun _ event hsound => hsound.step keeps event) sound events
  intro line event hsound hforeign answer hanswer
  cases event with
  | call i x => exact hforeign.elim
  | hear receiver sender number =>
    cases hword : (line.sent sender)[number]? with
    | none =>
      rw [step_hear_none kind hword] at hanswer
      cases hanswer
    | some word =>
      rw [step_hear_some kind hword] at hanswer
      cases hanswer
      exact refuses hforeign.1 hforeign.2 (hsound.station receiver)
        (hsound.sent sender word (List.mem_of_getElem? hword))

end Private
end Line
end Medium
