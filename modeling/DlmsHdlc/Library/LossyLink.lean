import DlmsHdlc.Library.SlidingWindow

/-! Implementations of the sliding-window protocol over channels that lose and garble frames and
carry stray ones. Two of them, of one kind or of two, run the protocol together when each alone plays
a station. -/
namespace SlidingWindow

/-- A kind of endpoint: its calls with the frames they send, and the arrival of a frame. -/
structure Kind (σ ω : Type*) where
  call : σ → List ω → σ → Prop
  arrive : σ → ω → σ → Prop

/-- The frames on a channel, oldest first, carry the messages of a station, but for those that mean
nothing to its peer. -/
inductive Channel {α ω : Type*} (carries : ω → Message α → Prop) (garbled : ω → Prop) :
    List ω → List (Message α) → Prop
  | nil : Channel carries garbled [] []
  | frame {word : ω} {message : Message α} {words : List ω} {messages : List (Message α)}
      (carried : carries word message) (rest : Channel carries garbled words messages) :
      Channel carries garbled (word::words) (message::messages)
  | garbled {word : ω} {words : List ω} {messages : List (Message α)} (lost : garbled word)
      (rest : Channel carries garbled words messages) :
      Channel carries garbled (word::words) messages

variable {α ω σ τ : Type*}

namespace Channel
variable {carries : ω → Message α → Prop} {garbled : ω → Prop} {words : List ω}
  {messages : List (Message α)}

theorem concat (h : Channel carries garbled words messages) {word : ω} {message : Message α}
    (carried : carries word message) :
    Channel carries garbled (words ++ [word]) (messages ++ [message]) := by
  induction h with
  | nil => exact .frame carried .nil
  | frame carried' _ ih => exact .frame carried' ih
  | garbled lost _ ih => exact .garbled lost ih

/-- A frame in the middle is garbled already, or stands for a message in the middle. -/
theorem split {front back : List ω} {word : ω}
    (h : Channel carries garbled (front ++ word::back) messages) :
    ∃ front' back', Channel carries garbled front front' ∧ Channel carries garbled back back' ∧
      ((garbled word ∧ messages=front' ++ back') ∨
        ∃ message, carries word message ∧ messages=front' ++ message::back') := by
  induction front generalizing messages with
  | nil =>
    cases h with
    | frame carried rest => exact ⟨[],_,.nil,rest,.inr ⟨_,carried,rfl⟩⟩
    | garbled lost rest => exact ⟨[],_,.nil,rest,.inl ⟨lost,rfl⟩⟩
  | cons first front ih =>
    cases h with
    | frame carried rest =>
      obtain ⟨front',back',hfront,hback,hword⟩ := ih rest
      refine ⟨_::front',back',.frame carried hfront,hback,?_⟩
      obtain ⟨hgarbled,rfl⟩ | ⟨message,hcarried,rfl⟩ := hword
      · exact .inl ⟨hgarbled,rfl⟩
      · exact .inr ⟨message,hcarried,rfl⟩
    | garbled lost rest =>
      obtain ⟨front',back',hfront,hback,hword⟩ := ih rest
      exact ⟨front',back',.garbled lost hfront,hback,hword⟩

/-- Between two frames. -/
theorem cut {front back : List ω} (h : Channel carries garbled (front ++ back) messages) :
    ∃ front' back', Channel carries garbled front front' ∧ Channel carries garbled back back' ∧
      messages=front' ++ back' := by
  induction front generalizing messages with
  | nil => exact ⟨[],messages,.nil,h,rfl⟩
  | cons first front ih =>
    cases h with
    | frame carried rest =>
      obtain ⟨front',back',hfront,hback,rfl⟩ := ih rest
      exact ⟨_::front',back',.frame carried hfront,hback,rfl⟩
    | garbled lost rest =>
      obtain ⟨front',back',hfront,hback,rfl⟩ := ih rest
      exact ⟨front',back',.garbled lost hfront,hback,rfl⟩

theorem append {words' : List ω} {messages' : List (Message α)}
    (h : Channel carries garbled words messages) (h' : Channel carries garbled words' messages') :
    Channel carries garbled (words ++ words') (messages ++ messages') := by
  induction h with
  | nil => exact h'
  | frame carried _ ih => exact .frame carried ih
  | garbled lost _ ih => exact .garbled lost ih

end Channel

/-- What one call may do to a station: nothing, an item within the window, or an acknowledgement;
the frame it sends carries the message. -/
inductive Called (plays : σ → Station α → Prop) (carries : ω → Message α → Prop)
    (station : Station α) : List ω → σ → Prop
  | nothing {state : σ} (h : plays state station) : Called plays carries station [] state
  | built {state : σ} {word : ω} (item : α)
      (room : station.built.length < station.acknowledged+station.window)
      (h : plays state (station.build item))
      (carried : carries word (.data station.built.length station.accepted.length item)) :
      Called plays carries station [word] state
  | acknowledged {state : σ} {word : ω} (h : plays state station.acknowledge)
      (carried : carries word (.acknowledge station.accepted.length)) :
      Called plays carries station [word] state

/-- A kind of endpoint plays stations: its calls are theirs, it takes in a message as they do or
refuses it, and it ignores garbled frames. -/
structure Kind.Implements (kind : Kind σ ω) (plays : σ → Station α → Prop)
    (sends takes : ω → Message α → Prop) (garbled : ω → Prop) : Prop where
  outbox : ∀ {state station} (messages : List (Message α)), plays state station →
    plays state { station with outbox := messages }
  call : ∀ {state words next station}, plays state station → station.window ≤ 7 →
    station.acknowledged ≤ station.built.length →
    station.built.length ≤ station.acknowledged+station.window →
    kind.call state words next → Called plays sends station words next
  arrive : ∀ {state word next station far message}, plays state station → station.window ≤ 7 →
    Flow station far → Flow far station → far.window ≤ 7 → message ∈ far.outbox →
    takes word message → kind.arrive state word next →
      plays next (station.receive message) ∨ plays next station
  garbled : ∀ {state word next station}, plays state station → garbled word →
    kind.arrive state word next → plays next station

/-- What happens at one side or to the frames it sent. -/
inductive LinkMove (kind : Kind σ ω) (garbles : ω → ω → Prop) (strays : ω → Prop)
    (near : σ × List ω) (far : τ × List ω) : σ × List ω → τ × List ω → Prop
  | call {words : List ω} {next : σ} (called : kind.call near.1 words next) :
      LinkMove kind garbles strays near far (next,near.2 ++ words) far
  | lose {front back : List ω} {word : ω} (sent : near.2=front ++ word::back) :
      LinkMove kind garbles strays near far (near.1,front ++ back) far
  | garble {front back : List ω} {word word' : ω} (sent : near.2=front ++ word::back)
      (garbled : garbles word word') :
      LinkMove kind garbles strays near far (near.1,front ++ word'::back) far
  | stray {front back : List ω} {word : ω} (sent : near.2=front ++ back) (stray : strays word) :
      LinkMove kind garbles strays near far (near.1,front ++ word::back) far
  | arrive {word : ω} {rest : List ω} {next : σ} (sent : far.2=word::rest)
      (arrived : kind.arrive near.1 word next) :
      LinkMove kind garbles strays near far (next,near.2) (far.1,rest)

/-- Either side. -/
inductive LinkStep (kind : Kind σ ω) (kind' : Kind τ ω) (garbles : ω → ω → Prop)
    (strays : ω → Prop) :
    (σ × List ω) × (τ × List ω) → (σ × List ω) × (τ × List ω) → Prop
  | left {near near' : σ × List ω} {far far' : τ × List ω}
      (move : LinkMove kind garbles strays near far near' far') :
      LinkStep kind kind' garbles strays (near,far) (near',far')
  | right {near near' : σ × List ω} {far far' : τ × List ω}
      (move : LinkMove kind' garbles strays far near far' near') :
      LinkStep kind kind' garbles strays (near,far) (near',far')

/-- Two endpoints with their channels run two stations of the protocol. -/
structure Joint (plays : σ → Station α → Prop) (plays' : τ → Station α → Prop)
    (sends sends' : ω → Message α → Prop) (garbled : ω → Prop) (near : σ × List ω)
    (far : τ × List ω) (n f : Station α) : Prop where
  nearPlays : plays near.1 n
  farPlays : plays' far.1 f
  sent : Channel sends garbled near.2 n.outbox
  sent' : Channel sends' garbled far.2 f.outbox
  flow : Flow n f
  flow' : Flow f n
  window : n.window ≤ 7
  window' : f.window ≤ 7

section Simulation
variable {kind : Kind σ ω} {kind' : Kind τ ω} {plays : σ → Station α → Prop}
  {plays' : τ → Station α → Prop} {sends sends' : ω → Message α → Prop} {garbled : ω → Prop}
  {garbles : ω → ω → Prop} {strays : ω → Prop} {near near' : σ × List ω} {far far' : τ × List ω}
  {n f : Station α}

theorem Joint.symm (h : Joint plays plays' sends sends' garbled near far n f) :
    Joint plays' plays sends' sends garbled far near f n :=
  ⟨h.farPlays,h.nearPlays,h.sent',h.sent,h.flow',h.flow,h.window',h.window⟩

/-- Every move is a move of the stations, or changes nothing there. -/
theorem LinkMove.joint (move : LinkMove kind garbles strays near far near' far')
    (implements : kind.Implements plays sends sends' garbled)
    (implements' : kind'.Implements plays' sends' sends garbled)
    (hgarbles : ∀ {word word'}, garbles word word' → garbled word')
    (hstrays : ∀ {word}, strays word → garbled word)
    (h : Joint plays plays' sends sends' garbled near far n f) :
    ∃ n' f', Joint plays plays' sends sends' garbled near' far' n' f' := by
  cases move with
  | call called =>
    have hacknowledged := h.flow.acknowledged.trans h.flow.accepted_le
    cases implements.call h.nearPlays h.window hacknowledged h.flow.window called with
    | nothing hnext =>
      rw [List.append_nil]
      exact ⟨n,f,{ h with nearPlays := hnext }⟩
    | built item room hnext carried =>
      obtain ⟨hflow,hflow'⟩ := (Move.build item room).flows h.flow h.flow'
      exact ⟨n.build item,f,hnext,h.farPlays,h.sent.concat carried,h.sent',hflow,hflow',h.window,
        h.window'⟩
    | acknowledged hnext carried =>
      obtain ⟨hflow,hflow'⟩ := Move.acknowledge.flows h.flow h.flow'
      exact ⟨n.acknowledge,f,hnext,h.farPlays,h.sent.concat carried,h.sent',hflow,hflow',h.window,
        h.window'⟩
  | lose sent =>
    have hsent := h.sent
    rw [sent] at hsent
    obtain ⟨front',back',hfront,hback,⟨_,hmessages⟩ | ⟨message,_,hmessages⟩⟩ := hsent.split
    · refine ⟨n,f,{ h with sent := ?_ }⟩
      rw [hmessages]
      exact hfront.append hback
    · obtain ⟨hflow,hflow'⟩ := (Move.drop hmessages).flows h.flow h.flow'
      exact ⟨_,f,implements.outbox _ h.nearPlays,h.farPlays,hfront.append hback,h.sent',hflow,hflow',
        h.window,h.window'⟩
  | garble sent hgarbled =>
    have hsent := h.sent
    rw [sent] at hsent
    have hword' := hgarbles hgarbled
    obtain ⟨front',back',hfront,hback,⟨_,hmessages⟩ | ⟨message,_,hmessages⟩⟩ := hsent.split
    · refine ⟨n,f,{ h with sent := ?_ }⟩
      rw [hmessages]
      exact hfront.append (.garbled hword' hback)
    · -- To the stations the message is lost when its frame is garbled.
      obtain ⟨hflow,hflow'⟩ := (Move.drop hmessages).flows h.flow h.flow'
      exact ⟨_,f,implements.outbox _ h.nearPlays,h.farPlays,hfront.append (.garbled hword' hback),
        h.sent',hflow,hflow',h.window,h.window'⟩
  | stray sent stray =>
    have hsent := h.sent
    rw [sent] at hsent
    obtain ⟨front',back',hfront,hback,hmessages⟩ := hsent.cut
    refine ⟨n,f,{ h with sent := ?_ }⟩
    rw [hmessages]
    exact hfront.append (.garbled (hstrays stray) hback)
  | arrive sent arrived =>
    have hsent := h.sent'
    rw [sent] at hsent
    generalize hmessages : f.outbox=messages at hsent
    cases hsent with
    | garbled lost hrest =>
      refine ⟨n,f,implements.garbled h.nearPlays lost arrived,h.farPlays,h.sent,?_,h.flow,h.flow',
        h.window,h.window'⟩
      rw [hmessages]
      exact hrest
    | @frame _ message _ rest carried hrest =>
      have hmessage := Flow.oldest_mem hmessages
      obtain hnext | hnext :=
        implements.arrive h.nearPlays h.window h.flow h.flow' h.window' hmessage carried arrived
      · obtain ⟨hflow,hflow'⟩ := (Move.deliver hmessages).flows h.flow h.flow'
        refine ⟨n.receive message,{ f with outbox := rest },hnext,
          implements'.outbox rest h.farPlays,?_,hrest,hflow,hflow',?_,h.window'⟩
        · have hsame : (n.receive message).outbox=n.outbox := by
            cases message with
            | data index next item =>
              unfold Station.receive
              dsimp only
              split <;> rfl
            | acknowledge next => rfl
          rw [hsame]
          exact h.sent
        · rw [Station.receive_window]
          exact h.window
      · -- A refused frame is a lost one.
        have hdrop : f.outbox=[] ++ message::rest := hmessages
        obtain ⟨hflow',hflow⟩ := (Move.drop hdrop).flows h.flow' h.flow
        exact ⟨n,_,hnext,implements'.outbox rest h.farPlays,h.sent,hrest,hflow,hflow',h.window,
          h.window'⟩

/-- In every run both endpoints play stations whose flows are kept. -/
theorem joint_of_run (implements : kind.Implements plays sends sends' garbled)
    (implements' : kind'.Implements plays' sends' sends garbled)
    (hgarbles : ∀ {word word'}, garbles word word' → garbled word')
    (hstrays : ∀ {word}, strays word → garbled word)
    {start link : (σ × List ω) × (τ × List ω)}
    (h : Joint plays plays' sends sends' garbled start.1 start.2 n f)
    (run : Relation.ReflTransGen (LinkStep kind kind' garbles strays) start link) :
    ∃ n' f', Joint plays plays' sends sends' garbled link.1 link.2 n' f' := by
  induction run with
  | refl => exact ⟨n,f,h⟩
  | tail _ step ih =>
    obtain ⟨n',f',hjoint⟩ := ih
    cases step with
    | left move => exact move.joint implements implements' hgarbles hstrays hjoint
    | right move =>
      obtain ⟨f'',n'',hnext⟩ := move.joint implements' implements hgarbles hstrays hjoint.symm
      exact ⟨n'',f'',hnext.symm⟩

end Simulation
end SlidingWindow
