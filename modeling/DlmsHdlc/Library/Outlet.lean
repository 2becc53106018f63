import DlmsHdlc.Library.Machine
import DlmsHdlc.Library.Scanner

/-! A queue behind a scanner: one call feeds input and hands out at most one of the items found so
far, if the caller has room for it. -/
namespace Scanning
open Machine

/-- What a call reports. -/
inductive Answer (β ε : Type*)
  | failed (error : ε)
  | empty
  | small
  | item (value : β)

/-- The item handed out, if there is one. -/
def Answer.value? {β ε : Type*} : Answer β ε → Option β
  | .item value => some value
  | _ => none

/-- Errors are reported, or silent; in front of a silent one, the items found may be kept. -/
structure Outlet (α β ε μ : Type*) where
  scanner : Scanner α β ε
  silent : ε → Bool
  keeps : Bool
  fits : β → μ → Bool

namespace Outlet

@[ext]
structure State (α β : Type*) where
  buffer : List α
  pending : List β

def State.start {α β : Type*} : State α β := ⟨[],[]⟩

variable {α β ε μ : Type*} (O : Outlet α β ε μ)

/-- What is left of the items in front of a silent error. -/
def rescued (values : List β) : List β := if O.keeps then values else []

/-- Scan the buffered input with the new piece behind it; an error empties the buffer. -/
def feed (state : State α β) (chunk : List α) : Option ε × State α β :=
  if chunk.isEmpty then (none,state)
  else
    match O.scanner.drain (state.buffer ++ chunk) with
    | (values,.ok kept) => (none,⟨kept,state.pending ++ values⟩)
    | (values,.error error) =>
      if O.silent error then (none,⟨[],state.pending ++ O.rescued values⟩)
      else (some error,⟨[],state.pending⟩)

/-- Hand out the first item. -/
def take (state : State α β) (room : μ) : Answer β ε × State α β :=
  match state.pending with
  | [] => (.empty,state)
  | value::rest => if O.fits value room then (.item value,{ state with pending := rest })
    else (.small,state)

def push (state : State α β) (chunk : List α) (room : μ) : Answer β ε × State α β :=
  match O.feed state chunk with
  | (some error,state) => (.failed error,state)
  | (none,state) => O.take state room

/-- Successive calls. -/
def machine : Mealy (State α β) (List α × μ) (Answer β ε) :=
  ⟨fun state call => O.push state call.1 call.2⟩

@[simp] theorem machine_step (state : State α β) (call : List α × μ) :
    O.machine.step state call=O.push state call.1 call.2 := rfl

@[simp] theorem feed_nil (state : State α β) : O.feed state []=(none,state) := rfl

@[simp] theorem push_nil (state : State α β) (room : μ) :
    O.push state [] room=O.take state room := rfl

/-- The call meets no error. -/
def Quiet (state : State α β) (chunk : List α) : Prop :=
  ∃ values kept, O.scanner.drain (state.buffer ++ chunk)=(values,.ok kept)

variable {O}

theorem feed_ok {state : State α β} {chunk kept : List α} {values : List β} (nonempty : chunk≠[])
    (h : O.scanner.drain (state.buffer ++ chunk)=(values,.ok kept)) :
    O.feed state chunk=(none,⟨kept,state.pending ++ values⟩) := by
  rw [feed,if_neg (by simpa using nonempty),h]

theorem feed_error {state : State α β} {chunk : List α} {values : List β} {error : ε}
    (nonempty : chunk≠[]) (h : O.scanner.drain (state.buffer ++ chunk)=(values,.error error)) :
    O.feed state chunk=
      if O.silent error then (none,⟨[],state.pending ++ O.rescued values⟩)
      else (some error,⟨[],state.pending⟩) := by
  rw [feed,if_neg (by simpa using nonempty),h]

/-- A reported error is one of the scanner, and not a silent one. -/
theorem error_of_feed {state fed : State α β} {chunk : List α} {error : ε}
    (h : O.feed state chunk=(some error,fed)) :
    ∃ values, O.scanner.drain (state.buffer ++ chunk)=(values,.error error) ∧
      ¬ O.silent error=true ∧ fed=⟨[],state.pending⟩ := by
  by_cases hempty : chunk=[]
  · rw [hempty,feed_nil] at h
    cases h
  rcases hdrain : O.scanner.drain (state.buffer ++ chunk) with ⟨values,fault | kept⟩
  · rw [feed_error hempty hdrain] at h
    split at h
    · cases h
    · rename_i hreported
      cases h
      exact ⟨values,rfl,hreported,rfl⟩
  · rw [feed_ok hempty hdrain] at h
    cases h

/-- What is in the queue was there, or has been found in the input. -/
theorem mem_of_feed {state fed : State α β} {chunk : List α} (h : O.feed state chunk=(none,fed))
    {value : β} (hmem : value ∈ fed.pending) :
    value ∈ state.pending ∨ value ∈ (O.scanner.drain (state.buffer ++ chunk)).1 := by
  by_cases hempty : chunk=[]
  · rw [hempty,feed_nil] at h
    cases h
    exact Or.inl hmem
  rcases hdrain : O.scanner.drain (state.buffer ++ chunk) with ⟨values,fault | kept⟩
  · rw [feed_error hempty hdrain] at h
    split at h
    · cases h
      refine (List.mem_append.mp hmem).imp_right fun hvalue => ?_
      unfold rescued at hvalue
      split at hvalue
      · exact hvalue
      · cases hvalue
    · cases h
  · rw [feed_ok hempty hdrain] at h
    cases h
    exact List.mem_append.mp hmem

theorem take_nil {state : State α β} (h : state.pending=[]) (room : μ) :
    O.take state room=(.empty,state) := by
  rw [take,h]

theorem take_fits {state : State α β} {value : β} {rest : List β}
    (h : state.pending=value::rest) {room : μ} (fits : O.fits value room=true) :
    O.take state room=(.item value,{ state with pending := rest }) := by
  rw [take,h]
  exact if_pos fits

theorem take_small {state : State α β} {value : β} {rest : List β}
    (h : state.pending=value::rest) {room : μ} (fits : O.fits value room=false) :
    O.take state room=(.small,state) := by
  rw [take,h]
  exact if_neg (by simp [fits])

/-- What is handed out leaves the queue, at its front. -/
theorem take_conserves (state : State α β) (room : μ) :
    state.pending=(O.take state room).1.value?.toList ++ (O.take state room).2.pending ∧
      (O.take state room).2.buffer=state.buffer := by
  cases hpending : state.pending with
  | nil =>
    rw [take_nil hpending]
    exact ⟨hpending.symm,rfl⟩
  | cons value rest =>
    cases hfits : O.fits value room with
    | true =>
      rw [take_fits hpending hfits]
      exact ⟨rfl,rfl⟩
    | false =>
      rw [take_small hpending hfits]
      exact ⟨hpending.symm,rfl⟩

/-- Nothing is handed out exactly when nothing is there. -/
theorem take_empty_iff (state : State α β) (room : μ) :
    (O.take state room).1=.empty ↔ state.pending=[] := by
  cases hpending : state.pending with
  | nil => simp [take_nil hpending]
  | cons value rest => cases hfits : O.fits value room <;> simp [take,hpending,hfits]

/-- An answer without new input is no error. -/
theorem take_ne_failed (state : State α β) (room : μ) (error : ε) :
    (O.take state room).1≠.failed error := by
  unfold take
  repeat' split
  all_goals exact nofun

section Quiet
variable (hS : O.scanner.Incremental)
include hS

/-- A quiet call adds the items found to the queue. -/
theorem feed_quiet {state : State α β} {chunk : List α}
    (stable : O.scanner.drain state.buffer=([],.ok state.buffer)) (quiet : O.Quiet state chunk) :
    ∃ values kept, O.scanner.drain (state.buffer ++ chunk)=(values,.ok kept) ∧
      O.feed state chunk=(none,⟨kept,state.pending ++ values⟩) ∧
      O.scanner.drain kept=([],.ok kept) := by
  obtain ⟨values,kept,hdrain⟩ := quiet
  refine ⟨values,kept,hdrain,?_,hS.drain_kept hdrain⟩
  by_cases hempty : chunk=[]
  · rw [hempty,List.append_nil,stable] at hdrain
    cases hdrain
    rw [hempty,feed_nil,List.append_nil]
  · exact feed_ok hempty hdrain

/-- The input so far has drained into what was handed out, the queue and the buffer. -/
def Conserved (O : Outlet α β ε μ) (state : State α β) (input : List α) (given : List β) : Prop :=
  O.scanner.drain input=(given ++ state.pending,.ok state.buffer)

/-- A quiet call passes items on and loses none. -/
theorem push_conserved {state : State α β} {chunk input : List α} {given : List β} {room : μ}
    (h : O.Conserved state input given) (quiet : O.Quiet state chunk) :
    O.Conserved (O.push state chunk room).2 (input ++ chunk)
      (given ++ (O.push state chunk room).1.value?.toList) := by
  obtain ⟨values,kept,hdrain,hfeed,_⟩ := feed_quiet hS (hS.drain_kept h) quiet
  obtain ⟨hpending,hbuffer⟩ := O.take_conserves (⟨kept,state.pending ++ values⟩ : State α β) room
  dsimp only at hpending hbuffer
  unfold Conserved
  rw [push,hfeed,hS.drain_append,h]
  simp only [hdrain,hbuffer,List.append_assoc,← hpending]

end Quiet

variable (O) in
/-- Feed the pieces one by one and take everything after each, up to the first reported error. -/
def deliver : List α → List (List α) → List β
  | _,[] => []
  | buffer,piece::pieces =>
    match O.feed ⟨buffer,[]⟩ piece with
    | (some _,_) => []
    | (none,state) => state.pending ++ deliver state.buffer pieces

section Rounds
variable {buffer : List α} (stable : O.scanner.drain buffer=([],.ok buffer)) (piece : List α)
  (pieces : List (List α)) {values : List β}
include stable

/-- A piece goes on from what the pieces before it have left. -/
theorem deliver_next {kept : List α} (h : O.scanner.drain (buffer ++ piece)=(values,.ok kept)) :
    O.deliver buffer (piece::pieces)=values ++ O.deliver kept pieces := by
  by_cases hempty : piece=[]
  · rw [hempty,List.append_nil,stable] at h
    cases h
    rw [hempty,deliver,feed_nil]
  · rw [deliver,feed_ok hempty h]
    rfl

/-- An error comes with new input only. -/
theorem nonempty_of_error {error : ε} (h : O.scanner.drain (buffer ++ piece)=(values,.error error)) :
    piece≠[] := by
  rintro rfl
  rw [List.append_nil,stable] at h
  cases h

theorem deliver_skip {error : ε} (h : O.scanner.drain (buffer ++ piece)=(values,.error error))
    (silent : O.silent error=true) :
    O.deliver buffer (piece::pieces)=O.rescued values ++ O.deliver [] pieces := by
  rw [deliver,feed_error (nonempty_of_error stable piece h) h,if_pos silent]
  rfl

theorem deliver_stop {error : ε} (h : O.scanner.drain (buffer ++ piece)=(values,.error error))
    (reported : O.silent error=false) : O.deliver buffer (piece::pieces)=[] := by
  rw [deliver,feed_error (nonempty_of_error stable piece h) h,if_neg (by simp [reported])]

end Rounds

/-- In one piece, the input delivers what a silent error leaves. -/
theorem deliver_whole (hP : O.scanner.Prompt) {input : List α} {values : List β} {error : ε}
    (h : O.scanner.drain input=(values,.error error)) :
    O.deliver [] [input]=if O.silent error then O.rescued values else [] := by
  cases hsilent : O.silent error with
  | true =>
    rw [deliver_skip hP.drain_nil input [] h hsilent,deliver,List.append_nil,if_pos rfl]
  | false =>
    rw [deliver_stop hP.drain_nil input [] h hsilent]
    rfl

section Deliver
variable (hS : O.scanner.Incremental) {buffer : List α}
include hS

/-- Without an error everything arrives. -/
theorem deliver_ok (stable : O.scanner.drain buffer=([],.ok buffer)) {pieces : List (List α)}
    {values : List β} {kept : List α}
    (h : O.scanner.drain (buffer ++ pieces.flatten)=(values,.ok kept)) :
    O.deliver buffer pieces=values := by
  induction pieces generalizing buffer values with
  | nil =>
    rw [List.flatten_nil,List.append_nil,stable] at h
    exact (Prod.mk.inj h).1
  | cons piece pieces ih =>
    rw [List.flatten_cons,← List.append_assoc] at h
    obtain ⟨items,next,hnext⟩ := hS.drain_ok_front h
    rw [hS.drain_append,hnext] at h
    obtain ⟨rfl,hkept⟩ := Prod.mk.inj h
    rw [deliver_next stable _ pieces hnext,ih (hS.drain_kept hnext) (Prod.ext rfl hkept)]

/-- Without an item in front of a reported error nothing arrives. -/
theorem deliver_nothing (stable : O.scanner.drain buffer=([],.ok buffer)) {pieces : List (List α)}
    {error : ε} (h : O.scanner.drain (buffer ++ pieces.flatten)=([],.error error))
    (reported : O.silent error=false) : O.deliver buffer pieces=[] := by
  induction pieces generalizing buffer with
  | nil => rfl
  | cons piece pieces ih =>
    rw [List.flatten_cons,← List.append_assoc,hS.drain_append] at h
    rcases hnext : O.scanner.drain (buffer ++ piece) with ⟨items,fault | next⟩ <;>
      rw [hnext] at h
    · obtain ⟨_,hfault⟩ := Prod.mk.inj h
      cases hfault
      exact deliver_stop stable _ pieces hnext reported
    · obtain ⟨hitems,hrest⟩ := Prod.mk.inj h
      obtain ⟨rfl,hvalues⟩ := List.append_eq_nil_iff.mp hitems
      rw [deliver_next stable _ pieces hnext,List.nil_append]
      exact ih (hS.drain_kept hnext) (Prod.ext hvalues hrest)

/-- Nothing arrives of input without items. -/
theorem deliver_barren (hP : O.scanner.Prompt) (stable : O.scanner.drain buffer=([],.ok buffer))
    {pieces : List (List α)} (h : O.scanner.Barren (buffer ++ pieces.flatten)) :
    O.deliver buffer pieces=[] := by
  induction pieces generalizing buffer with
  | nil => rfl
  | cons piece pieces ih =>
    rw [List.flatten_cons,← List.append_assoc] at h
    have hpiece := h.part (List.prefix_append (buffer ++ piece) pieces.flatten).isInfix
    obtain ⟨error,hdrain⟩ | ⟨kept,hdrain,hkept⟩ := hP.drain_barren hpiece
    · have hrest := h.part (List.suffix_append (buffer ++ piece) pieces.flatten).isInfix
      cases hsilent : O.silent error with
      | false => exact deliver_stop stable _ pieces hdrain hsilent
      | true =>
        have hnone : O.rescued []=[] := by simp [rescued]
        rw [deliver_skip stable _ pieces hdrain hsilent,hnone]
        exact ih hP.drain_nil hrest
    · rw [deliver_next stable _ pieces hdrain,List.nil_append]
      obtain ⟨front,hfront⟩ := hkept
      have hrest : kept ++ pieces.flatten <:+: buffer ++ piece ++ pieces.flatten :=
        ⟨front,[],by rw [← hfront]; simp⟩
      exact ih (hS.drain_kept hdrain) (h.part hrest)

/-- In front of a silent error everything arrives where it is kept, and nothing behind it if
nothing is there. -/
theorem deliver_silent (hP : O.scanner.Prompt) (stable : O.scanner.drain buffer=([],.ok buffer))
    {pieces : List (List α)} {input rest : List α} {values : List β} {error : ε}
    (h : buffer ++ pieces.flatten=input ++ rest) (fails : O.scanner.FailsAt input values error)
    (silent : O.silent error=true) (kept : O.rescued values=values)
    (barren : O.scanner.Barren rest) : O.deliver buffer pieces=values := by
  induction pieces generalizing buffer input values with
  | nil =>
    rw [List.flatten_nil,List.append_nil] at h
    rw [h,hS.drain_error_append fails.drained] at stable
    cases stable
  | cons piece pieces ih =>
    rw [List.flatten_cons,← List.append_assoc] at h
    rcases hnext : O.scanner.drain (buffer ++ piece) with ⟨items,fault | next⟩
    · -- The error is in this piece, at the latest where the shortest failing front ends.
      obtain ⟨behind,hbehind⟩ : input <+: buffer ++ piece := by
        rcases List.prefix_or_prefix_of_prefix (List.prefix_append input rest)
          (h ▸ List.prefix_append (buffer ++ piece) pieces.flatten) with hfront | hfront
        · exact hfront
        · by_cases hsame : buffer ++ piece=input
          · exact hsame ▸ List.prefix_rfl
          · obtain ⟨_,_,hok⟩ := fails.shortest _ hfront hsame
            rw [hnext] at hok
            cases hok
      have hsame := hS.drain_error_append fails.drained behind
      rw [hbehind,hnext] at hsame
      cases hsame
      have hrest : behind ++ pieces.flatten=rest := by
        rw [← hbehind,List.append_assoc] at h
        exact List.append_cancel_left h
      have hnothing : O.deliver [] pieces=[] := by
        apply deliver_barren hS hP hP.drain_nil
        exact barren.part (hrest ▸ (List.suffix_append behind pieces.flatten).isInfix)
      rw [deliver_skip stable _ pieces hnext silent,kept,hnothing,List.append_nil]
    · -- The error is still to come: the kept bytes continue to a shortest failing front.
      obtain ⟨tail,rfl⟩ : buffer ++ piece <+: input := by
        rcases List.prefix_or_prefix_of_prefix (List.prefix_append input rest)
          (h ▸ List.prefix_append (buffer ++ piece) pieces.flatten) with hfront | hfront
        · obtain ⟨behind,hbehind⟩ := hfront
          rw [← hbehind,hS.drain_error_append fails.drained] at hnext
          cases hnext
        · exact hfront
      obtain ⟨more,rfl,hmore⟩ := fails.behind hS hnext
      have hrest : next ++ pieces.flatten=next ++ tail ++ rest := by
        rw [List.append_assoc (buffer ++ piece)] at h
        rw [List.append_assoc,List.append_cancel_left h]
      have hall : O.rescued more=more := by
        unfold rescued at kept ⊢
        split at kept
        · rename_i hkeeps
          rw [if_pos hkeeps]
        · rw [(List.append_eq_nil_iff.mp kept.symm).2,ite_self]
      rw [deliver_next stable _ pieces hnext,ih (hS.drain_kept hnext) hrest hmore hall]

/-- The three ways in which a cut can make a difference do not occur. -/
def Unaffected (O : Outlet α β ε μ) (rest : List α) (values : List β) (error : ε) : Prop :=
  if O.silent error then O.rescued values=values ∧ O.scanner.Barren rest else values=[]

/-- Every cut then delivers what stands in front of the error. -/
theorem deliver_unaffected (hP : O.scanner.Prompt) {front rest : List α} {values : List β}
    {error : ε} (fails : O.scanner.FailsAt front values error)
    (unaffected : O.Unaffected rest values error) {cut : List (List α)}
    (hcut : cut.flatten=front ++ rest) : O.deliver [] cut=values := by
  unfold Unaffected at unaffected
  cases hsilent : O.silent error with
  | true =>
    rw [if_pos hsilent] at unaffected
    exact deliver_silent hS hP hP.drain_nil hcut fails hsilent unaffected.1 unaffected.2
  | false =>
    obtain rfl : values=[] := by simpa [hsilent] using unaffected
    refine deliver_nothing hS hP.drain_nil ?_ hsilent
    rw [List.nil_append,hcut]
    exact hS.drain_error_append fails.drained rest

/-- Cut in front of the error, the input delivers what stands there. -/
theorem deliver_fine (hP : O.scanner.Prompt) {front : List α} {values : List β} {error : ε}
    (fails : O.scanner.FailsAt front values error) :
    ∃ before behind, front=before ++ behind ∧ ∀ more pieces,
      O.deliver [] (before::(behind ++ more)::pieces)=
        values ++ if O.silent error then O.deliver [] pieces else [] := by
  obtain ⟨before,behind,rfl,hbefore,hbehind⟩ := hP.split hS fails.drained
  refine ⟨before,behind,rfl,fun more pieces => ?_⟩
  have hmore := hS.drain_error_append hbehind more
  rw [deliver_next hP.drain_nil before _ hbefore]
  cases hsilent : O.silent error with
  | true =>
    have hnone : O.rescued []=[] := by simp [rescued]
    rw [deliver_skip hP.drain_nil (behind ++ more) _ hmore hsilent,hnone]
    rfl
  | false =>
    rw [deliver_stop hP.drain_nil (behind ++ more) _ hmore hsilent]
    rfl

/-- An item behind a silent error arrives in the cut around it. -/
theorem deliver_behind (hP : O.scanner.Prompt) {front piece : List α} {values : List β}
    {value : β} {error : ε} (fails : O.scanner.FailsAt front values error)
    (silent : O.silent error=true) (hitem : O.scanner.scan piece=.item value [])
    (left right : List α) :
    ∃ cut tail, cut.flatten=front ++ (left ++ (piece ++ right)) ∧
      O.deliver [] cut=values ++ value::tail := by
  obtain ⟨before,behind,rfl,hfine⟩ := deliver_fine hS hP fails
  have hpiece : O.scanner.drain piece=([value],.ok []) := by
    rw [Scanner.drain_item hitem,hP.drain_nil]
  refine ⟨[before,behind ++ left,piece,right],O.deliver [] [right],by simp,?_⟩
  rw [hfine,if_pos silent,deliver_next hP.drain_nil piece _ hpiece]
  rfl

/-- Cuts make no difference exactly when nothing stands in front of a reported error, and what
stands in front of a silent one is kept with nothing behind it. -/
theorem deliver_alike_iff (hP : O.scanner.Prompt) (input : List α) :
    (∀ cut other : List (List α), cut.flatten=input → other.flatten=input →
      O.deliver [] cut=O.deliver [] other) ↔
    ∀ front rest values error, input=front ++ rest → O.scanner.FailsAt front values error →
      O.Unaffected rest values error := by
  constructor
  · rintro alike front rest values error rfl fails
    obtain ⟨before,behind,rfl,hfine⟩ := deliver_fine hS hP fails
    have hsame := alike [before ++ behind ++ rest] [before,behind ++ rest] (by simp) (by simp)
    rw [hfine,deliver_whole hP (hS.drain_error_append fails.drained rest)] at hsame
    unfold Unaffected
    cases hsilent : O.silent error with
    | false =>
      rw [hsilent] at hsame
      simpa using hsame.symm
    | true =>
      rw [hsilent] at hsame
      have hkept : O.rescued values=values := by simpa [deliver] using hsame
      refine ⟨hkept,fun piece hpiece value more hscan => ?_⟩
      obtain ⟨piece,rfl,hitem⟩ := hP.piece hscan
      obtain ⟨left,right,rfl⟩ := hpiece
      obtain ⟨cut,tail,hcut,hdeliver⟩ := deliver_behind hS hP fails hsilent hitem left
        (more ++ right)
      have hrest : left ++ (piece ++ more) ++ right=left ++ (piece ++ (more ++ right)) := by simp
      rw [hrest] at alike
      have hfewer := alike [_] cut (List.append_nil _) hcut
      rw [deliver_whole hP (hS.drain_error_append fails.drained _),if_pos hsilent,hkept,
        hdeliver] at hfewer
      simpa using congrArg List.length hfewer
  · intro unaffected cut other hcut hother
    rcases hdrain : O.scanner.drain input with ⟨values,error | kept⟩
    · obtain ⟨front,rest,rfl,fails⟩ := Scanner.exists_failsAt hS hdrain
      have hnone := unaffected front rest values error rfl fails
      rw [deliver_unaffected hS hP fails hnone hcut,deliver_unaffected hS hP fails hnone hother]
    · have hall (cut : List (List α)) (hcut : cut.flatten=input) : O.deliver [] cut=values := by
        rw [← hcut] at hdrain
        exact deliver_ok hS hP.drain_nil hdrain
      rw [hall cut hcut,hall other hother]

end Deliver
end Outlet
end Scanning
