import Mathlib

/-! A sliding-window protocol between two stations over lossy first-in first-out channels, with
unbounded counters. What it keeps in every run is what makes bounded sequence numbers faithful. -/
namespace SlidingWindow

/-- An item with its index, or an acknowledgement alone; both tell how many items their sender has
accepted. -/
inductive Message (α : Type*)
  | data (index next : ℕ) (item : α)
  | acknowledge (next : ℕ)

namespace Message
variable {α : Type*}

def next : Message α → ℕ
  | data _ next _ => next
  | acknowledge next => next

def index : Message α → Option ℕ
  | data index _ _ => some index
  | acknowledge _ => none

def item : Message α → Option α
  | data _ _ item => some item
  | acknowledge _ => none

end Message

/-- One side: what it has built and accepted so far, how much of it is acknowledged, and what is
on its way to the other side. -/
structure Station (α : Type*) where
  window : ℕ
  built : List α
  accepted : List α
  acknowledged : ℕ
  outbox : List (Message α)

variable {α : Type*}

namespace Station

def start (window : ℕ) : Station α := ⟨window,[],[],0,[]⟩

def build (station : Station α) (item : α) : Station α :=
  { station with
    built := station.built ++ [item]
    outbox := station.outbox ++ [.data station.built.length station.accepted.length item] }

def acknowledge (station : Station α) : Station α :=
  { station with outbox := station.outbox ++ [.acknowledge station.accepted.length] }

/-- Only the next item in order is accepted, and only then its acknowledgement is used. -/
def receive (station : Station α) : Message α → Station α
  | .data index next item =>
    if index=station.accepted.length then
      { station with accepted := station.accepted ++ [item], acknowledged := next }
    else station
  | .acknowledge next => { station with acknowledged := next }

@[simp] theorem receive_window (station : Station α) (message : Message α) :
    (station.receive message).window=station.window := by
  cases message with
  | data index next item =>
    unfold receive
    dsimp only
    split <;> rfl
  | acknowledge next => rfl

end Station

/-- What one side can do, or what can happen to the messages it sent. -/
inductive Move (near far : Station α) : Station α → Station α → Prop
  | build (item : α) (room : near.built.length < near.acknowledged+near.window) :
      Move near far (near.build item) far
  | acknowledge : Move near far near.acknowledge far
  | drop {front back : List (Message α)} {message : Message α}
      (sent : near.outbox=front ++ message :: back) :
      Move near far { near with outbox := front ++ back } far
  | deliver {message : Message α} {rest : List (Message α)} (sent : far.outbox=message :: rest) :
      Move near far (near.receive message) { far with outbox := rest }

/-- The flow of items from one side to the other, and of acknowledgements back. -/
structure Flow (near far : Station α) : Prop where
  window : near.built.length ≤ near.acknowledged+near.window
  acknowledged : near.acknowledged ≤ far.accepted.length
  accepted : far.accepted <+: near.built
  items : ∀ index next item, .data index next item ∈ near.outbox →
    far.accepted.length ≤ index ∧ near.built[index]?=some item
  itemOrder : near.outbox.Pairwise fun first second =>
    ∀ index ∈ first.index, ∀ index' ∈ second.index, index < index'
  nexts : ∀ message ∈ far.outbox,
    near.acknowledged ≤ message.next ∧ message.next ≤ far.accepted.length
  nextOrder : far.outbox.Pairwise fun first second => first.next ≤ second.next

variable {near far near' far' : Station α}

theorem flow_start (window window' : ℕ) :
    Flow (.start window : Station α) (.start window') where
  window := Nat.zero_le _
  acknowledged := le_rfl
  accepted := List.prefix_rfl
  items := nofun
  itemOrder := .nil
  nexts := nofun
  nextOrder := .nil

namespace Flow

theorem accepted_le (h : Flow near far) : far.accepted.length ≤ near.built.length :=
  h.accepted.length_le

/-- Items in flight are at most a window ahead of the receiver. -/
theorem index_lt (h : Flow near far) {index next : ℕ} {item : α}
    (hitem : .data index next item ∈ near.outbox) :
    index < near.built.length ∧ near.built.length ≤ far.accepted.length+near.window := by
  obtain ⟨_,hbuilt⟩ := h.items index next item hitem
  have hwindow := h.window
  have hacknowledged := h.acknowledged
  have hlt := (List.getElem?_eq_some_iff.mp hbuilt).1
  omega

/-- Acknowledgements in flight are between the last one and what was built. -/
theorem next_le (h : Flow near far) {message : Message α} (hmessage : message ∈ far.outbox) :
    near.acknowledged ≤ message.next ∧ message.next ≤ near.built.length := by
  obtain ⟨hle,hge⟩ := h.nexts message hmessage
  exact ⟨hle,hge.trans h.accepted_le⟩

section Oldest
variable {message : Message α} {rest : List (Message α)}

theorem oldest_mem {outbox : List (Message α)} (sent : outbox=message :: rest) :
    message ∈ outbox := by
  rw [sent]
  exact List.mem_cons_self

/-- The oldest item comes before the others, and the oldest acknowledgement is the smallest. -/
theorem itemOrder_cons (h : Flow near far) (sent : near.outbox=message :: rest) :
    (∀ later ∈ rest, ∀ index ∈ message.index, ∀ index' ∈ later.index, index < index') ∧
      rest.Pairwise fun first second =>
        ∀ index ∈ first.index, ∀ index' ∈ second.index, index < index' := by
  have horder := h.itemOrder
  rw [sent] at horder
  exact List.pairwise_cons.mp horder

theorem nextOrder_cons (h : Flow near far) (sent : far.outbox=message :: rest) :
    (∀ later ∈ rest, message.next ≤ later.next) ∧
      rest.Pairwise fun first second => first.next ≤ second.next := by
  have horder := h.nextOrder
  rw [sent] at horder
  exact List.pairwise_cons.mp horder

end Oldest

theorem build (h : Flow near far) (item : α)
    (room : near.built.length < near.acknowledged+near.window) : Flow (near.build item) far where
  window := by
    simp only [Station.build,List.length_append,List.length_cons,List.length_nil]
    omega
  acknowledged := h.acknowledged
  accepted := h.accepted.trans (List.prefix_append _ _)
  items index next item' hitem := by
    simp only [Station.build,List.mem_append,List.mem_singleton] at hitem ⊢
    obtain hold | hnew := hitem
    · obtain ⟨hle,hbuilt⟩ := h.items index next item' hold
      refine ⟨hle,?_⟩
      rw [List.getElem?_append_left (List.getElem?_eq_some_iff.mp hbuilt).1]
      exact hbuilt
    · cases hnew
      exact ⟨h.accepted_le,List.getElem?_concat_length⟩
  itemOrder := by
    apply List.pairwise_append.mpr
    refine ⟨h.itemOrder,List.pairwise_singleton _ _,?_⟩
    intro first hfirst second hsecond index hindex index' hindex'
    rw [List.mem_singleton] at hsecond
    subst hsecond
    cases hindex'
    cases first with
    | acknowledge => cases hindex
    | data first next item' =>
      cases hindex
      exact (h.index_lt hfirst).1
  nexts := h.nexts
  nextOrder := h.nextOrder

theorem acknowledge (h : Flow near far) : Flow near.acknowledge far where
  window := h.window
  acknowledged := h.acknowledged
  accepted := h.accepted
  items index next item hitem := by
    simp only [Station.acknowledge,List.mem_append,List.mem_singleton,reduceCtorEq,or_false] at hitem
    exact h.items index next item hitem
  itemOrder := by
    apply List.pairwise_append.mpr
    refine ⟨h.itemOrder,List.pairwise_singleton _ _,?_⟩
    intro first _ second hsecond index _ index' hindex'
    rw [List.mem_singleton] at hsecond
    subst hsecond
    cases hindex'
  nexts := h.nexts
  nextOrder := h.nextOrder

theorem drop (h : Flow near far) {outbox : List (Message α)}
    (sublist : outbox.Sublist near.outbox) : Flow { near with outbox := outbox } far where
  window := h.window
  acknowledged := h.acknowledged
  accepted := h.accepted
  items index next item hitem := h.items index next item (sublist.subset hitem)
  itemOrder := h.itemOrder.sublist sublist
  nexts := h.nexts
  nextOrder := h.nextOrder

/-- What the other side sends carries the number of items it has accepted. -/
theorem answer (h : Flow near far) {message : Message α} (hnext : message.next=far.accepted.length)
    (built : List α) :
    Flow near { far with built := built, outbox := far.outbox ++ [message] } where
  window := h.window
  acknowledged := h.acknowledged
  accepted := h.accepted
  items := h.items
  itemOrder := h.itemOrder
  nexts message' hmessage := by
    rw [List.mem_append,List.mem_singleton] at hmessage
    obtain hold | rfl := hmessage
    · exact h.nexts message' hold
    · rw [hnext]
      exact ⟨h.acknowledged,le_rfl⟩
  nextOrder := by
    apply List.pairwise_append.mpr
    refine ⟨h.nextOrder,List.pairwise_singleton _ _,?_⟩
    intro first hfirst second hsecond
    rw [List.mem_singleton] at hsecond
    rw [hsecond,hnext]
    exact (h.nexts first hfirst).2

theorem lose (h : Flow near far) {outbox : List (Message α)}
    (sublist : outbox.Sublist far.outbox) : Flow near { far with outbox := outbox } where
  window := h.window
  acknowledged := h.acknowledged
  accepted := h.accepted
  items := h.items
  itemOrder := h.itemOrder
  nexts message hmessage := h.nexts message (sublist.subset hmessage)
  nextOrder := h.nextOrder.sublist sublist

/-- The sender of the items takes over the acknowledgement of the oldest message. -/
theorem advance (h : Flow near far) {message : Message α} {rest : List (Message α)}
    (sent : far.outbox=message :: rest) (accepted : List α) :
    Flow { near with accepted := accepted, acknowledged := message.next }
      { far with outbox := rest } where
  window := by
    have hwindow := h.window
    have hnext := h.nexts message (oldest_mem sent)
    change near.built.length ≤ message.next+near.window
    omega
  acknowledged := (h.nexts message (oldest_mem sent)).2
  accepted := h.accepted
  items := h.items
  itemOrder := h.itemOrder
  nexts later hlater := by
    have hmem : later ∈ far.outbox := by
      rw [sent]
      exact List.mem_cons_of_mem _ hlater
    exact ⟨(h.nextOrder_cons sent).1 later hlater,(h.nexts later hmem).2⟩
  nextOrder := (h.nextOrder_cons sent).2

/-- The receiver of the items accepts the oldest message, which is the next one in order. -/
theorem accept (h : Flow near far) {next : ℕ} {item : α} {rest : List (Message α)}
    (sent : near.outbox=.data far.accepted.length next item :: rest) (acknowledged : ℕ) :
    Flow { near with outbox := rest }
      { far with accepted := far.accepted ++ [item], acknowledged := acknowledged } where
  window := h.window
  acknowledged := by
    have hacknowledged := h.acknowledged
    change near.acknowledged ≤ (far.accepted ++ [item]).length
    rw [List.length_append]
    omega
  accepted := by
    have hbuilt := (h.items far.accepted.length next item (oldest_mem sent)).2
    obtain ⟨tail,htail⟩ := h.accepted
    change far.accepted ++ [item] <+: near.built
    rw [← htail,List.getElem?_append_right le_rfl,Nat.sub_self] at hbuilt
    cases tail with
    | nil => cases hbuilt
    | cons first tail =>
      cases hbuilt
      exact ⟨tail,by rw [← htail,List.append_assoc]; rfl⟩
  items index next' item' hitem := by
    have hlt := (h.itemOrder_cons sent).1 _ hitem far.accepted.length rfl index rfl
    have hmem : .data index next' item' ∈ near.outbox := by
      rw [sent]
      exact List.mem_cons_of_mem _ hitem
    refine ⟨?_,(h.items index next' item' hmem).2⟩
    change (far.accepted ++ [item]).length ≤ index
    rw [List.length_append]
    exact hlt
  itemOrder := (h.itemOrder_cons sent).2
  nexts message hmessage := by
    obtain ⟨hle,hge⟩ := h.nexts message hmessage
    refine ⟨hle,?_⟩
    change message.next ≤ (far.accepted ++ [item]).length
    rw [List.length_append]
    omega
  nextOrder := h.nextOrder

/-- Its own acknowledgement may change with the message it takes in. -/
theorem acknowledgement (h : Flow near far) (acknowledged : ℕ) :
    Flow near { far with acknowledged := acknowledged } where
  window := h.window
  acknowledged := h.acknowledged
  accepted := h.accepted
  items := h.items
  itemOrder := h.itemOrder
  nexts := h.nexts
  nextOrder := h.nextOrder

end Flow

/-- One move keeps both flows. -/
theorem Move.flows (move : Move near far near' far') (h : Flow near far) (h' : Flow far near) :
    Flow near' far' ∧ Flow far' near' := by
  cases move with
  | build item room => exact ⟨h.build item room,h'.answer rfl _⟩
  | acknowledge => exact ⟨h.acknowledge,h'.answer rfl near.built⟩
  | @drop front back message sent =>
    have sublist : (front ++ back).Sublist near.outbox := by
      rw [sent]
      exact List.Sublist.append_left (List.sublist_cons_self _ _) _
    exact ⟨h.drop sublist,h'.lose sublist⟩
  | @deliver message rest sent =>
    have sublist : rest.Sublist far.outbox := by
      rw [sent]
      exact List.sublist_cons_self _ _
    cases message with
    | data index next item =>
      by_cases hindex : index=near.accepted.length
      · rw [Station.receive,if_pos hindex]
        subst hindex
        exact ⟨h.advance sent _,h'.accept sent _⟩
      · rw [Station.receive,if_neg hindex]
        exact ⟨h.lose sublist,h'.drop sublist⟩
    | acknowledge next => exact ⟨h.advance sent near.accepted,(h'.drop sublist).acknowledgement _⟩

/-- Windows never change. -/
theorem Move.windows (move : Move near far near' far') :
    near'.window=near.window ∧ far'.window=far.window := by
  cases move with
  | deliver sent => exact ⟨Station.receive_window _ _,rfl⟩
  | _ => exact ⟨rfl,rfl⟩

/-- Either side moves. -/
inductive Step : Station α × Station α → Station α × Station α → Prop
  | left {near far near' far' : Station α} (move : Move near far near' far') :
      Step (near,far) (near',far')
  | right {near far near' far' : Station α} (move : Move near far near' far') :
      Step (far,near) (far',near')

/-- In every run from the start both flows are kept, and the windows stay what they were. -/
theorem flows_of_run {window window' : ℕ} {stations : Station α × Station α}
    (run : Relation.ReflTransGen Step (.start window,.start window') stations) :
    (Flow stations.1 stations.2 ∧ Flow stations.2 stations.1) ∧
      stations.1.window=window ∧ stations.2.window=window' := by
  induction run with
  | refl => exact ⟨⟨flow_start _ _,flow_start _ _⟩,rfl,rfl⟩
  | tail _ step ih =>
    obtain ⟨⟨hleft,hright⟩,hwindow,hwindow'⟩ := ih
    cases step with
    | left move =>
      obtain ⟨hnear,hfar⟩ := move.windows
      exact ⟨move.flows hleft hright,hnear.trans hwindow,hfar.trans hwindow'⟩
    | right move =>
      obtain ⟨hnear,hfar⟩ := move.windows
      exact ⟨(move.flows hright hleft).symm,hfar.trans hwindow,hnear.trans hwindow'⟩

/-- Without losses the items that are accepted and those on the way are the ones built, and the ones
on the way are numbered one after the other. -/
structure Lossless (near far : Station α) : Prop where
  items : far.accepted ++ near.outbox.filterMap Message.item=near.built
  indices : near.outbox.filterMap Message.index=
    List.range' far.accepted.length (near.outbox.filterMap Message.item).length

theorem lossless_start (window window' : ℕ) :
    Lossless (.start window : Station α) (.start window') := ⟨rfl,rfl⟩

namespace Lossless

theorem length_eq (h : Lossless near far) :
    near.built.length=far.accepted.length+(near.outbox.filterMap Message.item).length := by
  rw [← h.items,List.length_append]

theorem build (h : Lossless near far) (item : α) : Lossless (near.build item) far where
  items := by
    simp only [Station.build,List.filterMap_append,List.filterMap_cons,List.filterMap_nil,
      Message.item]
    rw [← List.append_assoc,h.items]
  indices := by
    simp only [Station.build,List.filterMap_append,List.filterMap_cons,List.filterMap_nil,
      Message.item,Message.index,List.length_append,List.length_singleton]
    rw [h.indices,List.range'_concat,h.length_eq,Nat.one_mul]

theorem acknowledge (h : Lossless near far) : Lossless near.acknowledge far where
  items := by
    simp only [Station.acknowledge,List.filterMap_append,List.filterMap_cons,List.filterMap_nil,
      Message.item,List.append_nil]
    exact h.items
  indices := by
    simp only [Station.acknowledge,List.filterMap_append,List.filterMap_cons,List.filterMap_nil,
      Message.item,Message.index,List.append_nil]
    exact h.indices

/-- What the receiver of the items builds does not matter to them. -/
theorem answer (h : Lossless near far) (built : List α) (acknowledged : ℕ)
    (outbox : List (Message α)) :
    Lossless near { far with built := built, acknowledged := acknowledged, outbox := outbox } :=
  ⟨h.items,h.indices⟩

section Oldest
variable {message : Message α} {rest : List (Message α)}

/-- The oldest item is the next one. -/
theorem index_eq (h : Lossless near far) (sent : near.outbox=message :: rest) :
    ∀ index ∈ message.index, index=far.accepted.length := by
  intro index hindex
  cases message with
  | acknowledge next => cases hindex
  | data index' next item =>
    cases hindex
    have hindices := h.indices
    rw [sent] at hindices
    simp only [List.filterMap_cons,Message.index,Message.item,List.length_cons,
      List.range'_succ,List.cons.injEq] at hindices
    exact hindices.1

/-- So it is accepted, and its acknowledgement is used. -/
theorem receive_eq (h : Lossless far near) (sent : far.outbox=message :: rest) :
    near.receive message={ near with
      accepted := near.accepted ++ message.item.toList, acknowledged := message.next } := by
  cases message with
  | acknowledge next =>
    rw [Station.receive]
    simp only [Message.item,Option.toList_none,List.append_nil,Message.next]
  | data index next item =>
    rw [Station.receive,if_pos (h.index_eq sent index rfl)]
    rfl

/-- It moves from those on the way to those accepted. -/
theorem accept (h : Lossless near far) (sent : near.outbox=message :: rest) :
    Lossless { near with outbox := rest } (far.receive message) := by
  rw [h.receive_eq sent]
  obtain ⟨hitems,hindices⟩ := h
  rw [sent] at hitems hindices
  cases message with
  | acknowledge next =>
    simp only [List.filterMap_cons,Message.item,Message.index] at hitems hindices
    constructor
    · simp only [Message.item,Option.toList_none,List.append_nil]
      exact hitems
    · simp only [Message.item,Option.toList_none,List.append_nil]
      exact hindices
  | data index next item =>
    simp only [List.filterMap_cons,Message.item,Message.index,List.length_cons,
      List.range'_succ,List.cons.injEq] at hitems hindices
    constructor
    · simp only [Message.item,Option.toList_some]
      rw [List.append_assoc]
      exact hitems
    · simp only [Message.item,Option.toList_some,List.length_append,List.length_singleton]
      exact hindices.2

theorem receive (h : Lossless near far) (h' : Lossless far near)
    (sent : far.outbox=message :: rest) :
    Lossless (near.receive message) { far with outbox := rest } := by
  rw [h'.receive_eq sent]
  exact ⟨h.items,h.indices⟩

end Oldest
end Lossless

end SlidingWindow
