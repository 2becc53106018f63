import DlmsHdlc.Library.Outlet

/-! Items that stand in a word one behind the other, in pieces that do not overlap, and scanners
that find no others. -/

/-- The items stand in the word in their order, each in a piece of its own that is an image of it.
In front of the pieces and behind them anything may stand. -/
inductive Placed {α β : Type*} (Image : List α → β → Prop) : List α → List β → Prop
  | nothing {word : List α} : Placed Image word []
  | skip {symbol : α} {word : List α} {items : List β} (rest : Placed Image word items) :
      Placed Image (symbol::word) items
  | item {piece word : List α} {value : β} {items : List β} (image : Image piece value)
      (rest : Placed Image word items) : Placed Image (piece ++ word) (value::items)

namespace Placed
variable {α β γ : Type*} {Image : List α → β → Prop} {word more : List α} {items others : List β}

theorem behind (h : Placed Image word items) (front : List α) :
    Placed Image (front ++ word) items := by
  induction front with
  | nil => exact h
  | cons symbol front ih => exact .skip ih

theorem append (h : Placed Image word items) (h' : Placed Image more others) :
    Placed Image (word ++ more) (items ++ others) := by
  induction h with
  | nothing => exact h'.behind _
  | skip _ ih => exact .skip ih
  | item image _ ih =>
    rw [List.append_assoc]
    exact .item image ih

theorem extend (h : Placed Image word items) (more : List α) : Placed Image (word ++ more) items := by
  rw [← List.append_nil items]
  exact h.append .nothing

/-- Items may be left out. -/
theorem sublist (h : Placed Image word items) (fewer : others.Sublist items) :
    Placed Image word others := by
  induction h generalizing others with
  | nothing =>
    rw [List.sublist_nil.mp fewer]
    exact .nothing
  | skip _ ih => exact .skip (ih fewer)
  | item image _ ih =>
    cases fewer with
    | cons _ fewer => exact (ih fewer).behind _
    | cons_cons _ fewer => exact .item image (ih fewer)

theorem map {Image' : List α → γ → Prop} {f : β → γ} (h : Placed Image word items)
    (image : ∀ piece value, Image piece value → Image' piece (f value)) :
    Placed Image' word (items.map f) := by
  induction h with
  | nothing => exact .nothing
  | skip _ ih => exact .skip ih
  | item himage _ ih => exact .item (image _ _ himage) ih

/-- The pieces take no more room than there is. -/
theorem sum_le {size : β → ℕ} (h : Placed Image word items)
    (large : ∀ piece value, Image piece value → size value ≤ piece.length) :
    (items.map size).sum ≤ word.length := by
  induction h with
  | nothing => exact Nat.zero_le _
  | skip _ ih => exact ih.trans (Nat.le_succ _)
  | @item piece word value items image _ ih =>
    have hpiece := large piece value image
    simp only [List.map_cons,List.sum_cons,List.length_append]
    omega

end Placed

namespace Scanning
variable {α β ε : Type*}

/-- Every item is found in an image of it, somewhere behind what is skipped, and what is kept is the
end of the input. -/
structure Scanner.Images (S : Scanner α β ε) (Image : List α → β → Prop) : Prop where
  item : ∀ {input value rest}, S.scan input=.item value rest →
    ∃ skipped piece, input=skipped ++ (piece ++ rest) ∧ Image piece value
  kept : ∀ {input kept}, S.scan input=.wait kept → kept <:+ input

variable {S : Scanner α β ε} {Image : List α → β → Prop} (hS : S.Images Image)
include hS

/-- Draining finds items where they stand; without an error, in front of what is kept. -/
theorem Scanner.Images.drain {input : List α} {values : List β} {outcome : Except ε (List α)}
    (h : S.drain input=(values,outcome)) :
    ∃ front behind, input=front ++ behind ∧ Placed Image front values ∧
      ∀ kept, outcome=.ok kept → behind=kept := by
  induction hn : input.length using Nat.strong_induction_on generalizing input values with
  | _ n ih =>
    subst hn
    cases hs : S.scan input with
    | wait kept =>
      rw [drain_wait hs] at h
      cases h
      obtain ⟨front,rfl⟩ := hS.kept hs
      exact ⟨front,kept,rfl,.nothing,fun _ hkept => Except.ok.inj hkept⟩
    | fail error =>
      rw [drain_fail hs] at h
      cases h
      exact ⟨input,[],(List.append_nil _).symm,.nothing,nofun⟩
    | item value rest =>
      rw [drain_item hs] at h
      obtain ⟨rfl,houtcome⟩ := Prod.mk.inj h
      obtain ⟨skipped,piece,rfl,himage⟩ := hS.item hs
      obtain ⟨front,behind,rfl,hplaced,hkept⟩ := ih _ (S.progress hs) (Prod.ext rfl houtcome) rfl
      refine ⟨skipped ++ (piece ++ front),behind,?_,(Placed.item himage hplaced).behind skipped,hkept⟩
      simp only [List.append_assoc]

/-- One more piece of input: the items of the buffer and of the piece are found, and the rest of
what has arrived is kept or given up. -/
theorem Scanner.Images.drain_placed {consumed buffer piece : List α} {found values : List β}
    (placed : Placed Image consumed found) {outcome : Except ε (List α)}
    (h : S.drain (buffer ++ piece)=(values,outcome)) :
    ∃ front behind, consumed ++ buffer ++ piece=front ++ behind ∧
      Placed Image front (found ++ values) ∧ ∀ kept, outcome=.ok kept → behind=kept := by
  obtain ⟨front,behind,hinput,hplaced,hkept⟩ := hS.drain h
  refine ⟨consumed ++ front,behind,?_,placed.append hplaced,hkept⟩
  rw [List.append_assoc,hinput,List.append_assoc]

end Scanning

namespace Scanning.Outlet
variable {α β ε μ : Type*} {O : Outlet α β ε μ} {Image : List α → β → Prop}
  (hS : O.scanner.Images Image)

/-- What has been taken from the queue, and what waits in it, stands in the bytes fed so far, in
front of those that are still buffered. -/
def Placing (Image : List α → β → Prop) (state : State α β) (fed : List α) (taken : List β) : Prop :=
  ∃ front, fed=front ++ state.buffer ∧ Placed Image front (taken ++ state.pending)

theorem placing_start : Placing Image .start ([] : List α) ([] : List β) := ⟨[],rfl,.nothing⟩

/-- A reset gives up what is buffered and what waits. -/
theorem Placing.restart {state : State α β} {fed : List α} {taken : List β}
    (h : Placing Image state fed taken) : Placing Image .start fed taken := by
  obtain ⟨front,rfl,hplaced⟩ := h
  refine ⟨front ++ state.buffer,(List.append_nil _).symm,?_⟩
  exact (hplaced.sublist (List.sublist_append_left _ _)).extend _ |>.sublist
    (by rw [State.start,List.append_nil])

include hS in
theorem Placing.feed {state : State α β} {fed : List α} {taken : List β}
    (h : Placing Image state fed taken) (chunk : List α) :
    Placing Image (O.feed state chunk).2 (fed ++ chunk) taken := by
  by_cases hempty : chunk=[]
  · rw [hempty,feed_nil,List.append_nil]
    exact h
  obtain ⟨front,rfl,hplaced⟩ := h
  rcases hdrain : O.scanner.drain (state.buffer ++ chunk) with ⟨values,error | kept⟩
  · obtain ⟨front',behind,hinput,hplaced',_⟩ := hS.drain_placed hplaced hdrain
    have hall : Placed Image (front ++ state.buffer ++ chunk)
        (taken ++ (state.pending ++ values)) := by
      rw [hinput,← List.append_assoc]
      exact hplaced'.extend behind
    refine ⟨front ++ state.buffer ++ chunk,?_,?_⟩
    · rw [feed_error hempty hdrain]
      split <;> exact (List.append_nil _).symm
    · rw [feed_error hempty hdrain]
      split
      · refine hall.sublist ((List.Sublist.refl taken).append ((List.Sublist.refl _).append ?_))
        unfold rescued
        split
        · exact .refl values
        · exact List.nil_sublist values
      · exact hall.sublist ((List.Sublist.refl taken).append (List.sublist_append_left _ _))
  · obtain ⟨front',behind,hinput,hplaced',hkept⟩ := hS.drain_placed hplaced hdrain
    obtain rfl := hkept kept rfl
    rw [feed_ok hempty hdrain]
    refine ⟨front',hinput,?_⟩
    rw [← List.append_assoc]
    exact hplaced'

theorem Placing.take {state : State α β} {fed : List α} {taken : List β}
    (h : Placing Image state fed taken) (room : μ) :
    Placing Image (O.take state room).2 fed (taken ++ (O.take state room).1.value?.toList) := by
  obtain ⟨front,hfed,hplaced⟩ := h
  obtain ⟨hpending,hbuffer⟩ := O.take_conserves state room
  refine ⟨front,by rw [hbuffer,hfed],?_⟩
  rw [List.append_assoc,← hpending]
  exact hplaced

include hS in
/-- One call keeps everything in its place. -/
theorem Placing.push {state : State α β} {fed : List α} {taken : List β}
    (h : Placing Image state fed taken) (chunk : List α) (room : μ) :
    Placing Image (O.push state chunk room).2 (fed ++ chunk)
      (taken ++ (O.push state chunk room).1.value?.toList) := by
  have hfed := h.feed hS chunk
  rw [Outlet.push]
  rcases hfeed : O.feed state chunk with ⟨_ | error,next⟩ <;> rw [hfeed] at hfed <;> dsimp only
  · exact hfed.take room
  · have hnone : (Answer.failed error : Answer β ε).value?=none := rfl
    rw [hnone,Option.toList_none,List.append_nil]
    exact hfed

/-- A call that fails has failed to feed. -/
theorem feed_of_push {state : State α β} {chunk : List α} {room : μ} {error : ε}
    (h : (O.push state chunk room).1=.failed error) : ∃ fed, O.feed state chunk=(some error,fed) := by
  rw [Outlet.push] at h
  rcases hfeed : O.feed state chunk with ⟨_ | fault,fed⟩ <;> rw [hfeed] at h <;> dsimp only at h
  · exact absurd h (O.take_ne_failed fed room error)
  · cases h
    exact ⟨fed,rfl⟩

end Scanning.Outlet
