import DlmsHdlc.CApi.Completion
import DlmsHdlc.CApi.Delivery

/-! Repeating a reassembler call that found its buffer too small. -/
namespace DlmsHdlc
open Machine

/-- The calls on one reassembler handle. -/
inductive ReassemblerCall
  | push (inputFrame : Option DlmsHdlcFrame) (output : CompletedMemory)
  | reset

namespace HdlcReassembler
variable {reassembler : HdlcReassembler} {frame completed : HdlcFrameBuffer}

/-- The frame alone completes like the frame behind what is pending. -/
def Replays (reassembler : HdlcReassembler) (frame : HdlcFrameBuffer) : Prop :=
  reassembler.hasPending=false ∨ reassembler.pendingFrame.information=[] ∧
    reassembler.pendingFrame.control=frame.control ∧
      ¬ effectiveMaximumReassembledInformationSize reassembler.limits <
        .ofNat frame.information.length

theorem pushFrame_ne_small (reassembler : HdlcReassembler) (frame : HdlcFrameBuffer) :
    (reassembler.pushFrame frame).1.1≠.outputBufferTooSmall := by
  unfold pushFrame
  dsimp only
  repeat' split
  all_goals exact nofun

/-- Completing drops what was pending, so the same frame once more stands alone. -/
theorem replays_iff (h : reassembler.Completes frame completed) :
    ((reassembler.pushFrame frame).2.pushFrame frame).1=(.ok,some completed) ↔
      reassembler.Replays frame := by
  cases h with
  | alone idle unsegmented fits =>
    have hnext : (reassembler.pushFrame frame).2=reassembler := by
      simp [pushFrame,idle,unsegmented,fits]
    rw [hnext]
    exact iff_of_true (pushFrame_completes (.alone idle unsegmented fits)) (Or.inl idle)
  | behind pending continues unsegmented fits =>
    have hnext : (reassembler.pushFrame frame).2=reassembler.reset := by
      simp [pushFrame,pending,continues,unsegmented,fits]
    have hsame := continues
    rw [HdlcReassembler.continues,Bool.and_eq_true,Bool.and_eq_true] at hsame
    have hdestination := sameAddress_eq hsame.1.1
    have hsource := sameAddress_eq hsame.1.2
    rw [hnext,Replays,or_iff_right (by simp [pending])]
    by_cases hover : effectiveMaximumReassembledInformationSize reassembler.limits <
        .ofNat frame.information.length
    · refine iff_of_false (fun h => ?_) fun h => h.2.2 hover
      have hpush : (reassembler.reset.pushFrame frame).1=(.segmentationOverflow,none) := by
        simp [pushFrame,reset,hover]
      rw [hpush] at h
      cases h
    · have hpush : (reassembler.reset.pushFrame frame).1=(.ok,some frame) :=
        pushFrame_completes (.alone rfl unsegmented hover)
      rw [hpush,Prod.mk.injEq,Option.some.injEq]
      constructor
      · rintro ⟨_,h⟩
        have hcontrol := congrArg HdlcFrameBuffer.control h
        have hinformation := congrArg HdlcFrameBuffer.information h
        exact ⟨List.self_eq_append_left.mp hinformation,hcontrol.symm,hover⟩
      · rintro ⟨hempty,hcontrol,_⟩
        refine ⟨rfl,?_⟩
        rw [hempty,List.nil_append]
        dsimp only
        rw [hcontrol,hdestination,hsource,← unsegmented]

end HdlcReassembler
/-- A caller with pointers for everything and an Information buffer. -/
structure CompletedMemory.Usable (output : CompletedMemory) : Prop where
  memory : output.memory.Usable
  hasCompletedFrame : output.hasCompletedFrame≠none

theorem CompletedMemory.Usable.present {output : CompletedMemory} (h : output.Usable) :
    output.Present :=
  ⟨h.memory.toPresent,h.hasCompletedFrame⟩

/-- Room for a completed frame with that many bytes of Information. -/
def completedRoomFor (size : ℕ) : CompletedMemory := ⟨roomFor size,some 0⟩

theorem completedRoomFor_usable (size : ℕ) : (completedRoomFor size).Usable :=
  ⟨roomFor_usable size,nofun⟩

namespace DlmsHdlcReassembler

/-- Successive calls on a handle, a reset without a result. -/
def machine : Mealy DlmsHdlcReassembler ReassemblerCall (Option (HdlcStatus × CompletedMemory)) where
  step handle
    | .push inputFrame output => (handle.pushFrame inputFrame output).map some id
    | .reset => (none,handle.reset)

/-- Where the buffer is too small, the same call with any buffer that would have been large enough
gives, behind it, the frame that it would have given. -/
def Repeatable (handle : DlmsHdlcReassembler) : ReassemblerCall → Prop
  | .push inputFrame output => (handle.pushFrame inputFrame output).1.1=.outputBufferTooSmall →
    ∀ large result, large.Usable → (handle.pushFrame inputFrame large).1=(.ok,result) →
      result.hasCompletedFrame=some 1 ∧
        ((handle.pushFrame inputFrame output).2.pushFrame inputFrame large).1=(.ok,result)
  | .reset => True

/-- The frame is too large for the buffer and completes a sequence that it cannot replay. -/
def LosesFrame (handle : DlmsHdlcReassembler) : ReassemblerCall → Prop
  | .push inputFrame output => output.Present ∧ ∃ frame view f, inputFrame=some frame ∧
    toCppFrame frame=.ok view ∧ handle.reassembler.Completes (ownedFrame view) f ∧
      output.memory.informationBufferSize.toNat < f.information.length ∧
      f.information.length < 2^64 ∧ ¬ handle.reassembler.Replays (ownedFrame view)
  | .reset => False

theorem pushFrame_view (handle : DlmsHdlcReassembler) {frame : DlmsHdlcFrame} {view : HdlcFrame}
    (hview : toCppFrame frame=.ok view) {output : CompletedMemory} (present : output.Present) :
    handle.pushFrame (some frame) output=
      (complete (handle.reassembler.pushFrame (ownedFrame view)).1.1
        (handle.reassembler.pushFrame (ownedFrame view)).1.2 output.cleared,
        ⟨(handle.reassembler.pushFrame (ownedFrame view)).2⟩) := by
  rw [pushFrame_present handle frame present,hview]

/-- A small buffer is reported of a completed frame alone. -/
theorem complete_eq_small {status : HdlcStatus} {completed : Option HdlcFrameBuffer}
    {output : CompletedMemory} (h : (complete status completed output.cleared).1=.outputBufferTooSmall)
    (notSmall : status≠.outputBufferTooSmall) :
    ∃ f, completed=some f ∧ output.memory.informationBufferSize.toNat < f.information.length := by
  unfold complete at h
  split at h
  · exact absurd h notSmall
  split at h
  · cases h
  split at h
  · rename_i hsmall
    exact ⟨_,rfl,hsmall⟩
  · cases h

theorem complete_eq_ok {status : HdlcStatus} {completed : Option HdlcFrameBuffer}
    {output result : CompletedMemory} (h : complete status completed output.cleared=(.ok,result)) :
    ∃ f, completed=some f ∧ f.information.length ≤ output.memory.informationBufferSize.toNat ∧
      result=⟨output.memory.cleared.handOut f,some 1⟩ := by
  unfold complete at h
  split at h
  · rename_i hstatus
    exact absurd (congrArg Prod.fst h) hstatus.1
  split at h
  · cases h
  split at h
  · cases h
  · rename_i hfits
    cases h
    exact ⟨_,rfl,Nat.not_lt.mp hfits,rfl⟩

/-- The call is repeatable unless the sequence that it completes is dropped with the frame. -/
theorem repeatable_iff (handle : DlmsHdlcReassembler) (call : ReassemblerCall) :
    handle.Repeatable call ↔ ¬ handle.LosesFrame call := by
  cases call with
  | reset => exact iff_of_true trivial id
  | push inputFrame output =>
    constructor
    · rintro hrepeat ⟨hpresent,frame,view,f,rfl,hview,hcompletes,hsmall,hsize,hreplays⟩
      have hlarge := completedRoomFor_usable f.information.length
      have hfits : f.information.length ≤
          (completedRoomFor f.information.length).memory.informationBufferSize.toNat := by
        change _ ≤ (UInt64.ofNat f.information.length).toNat
        rw [UInt64.toNat_ofNat',Nat.mod_eq_of_lt hsize]
      have hpush := HdlcReassembler.pushFrame_completes hcompletes
      have hfirst : (handle.pushFrame (some frame) output).1.1=.outputBufferTooSmall := by
        rw [pushFrame_view handle hview hpresent,hpush,complete_small hsmall]
      have hroom : (handle.pushFrame (some frame) (completedRoomFor f.information.length)).1=
          (.ok,⟨(completedRoomFor f.information.length).memory.cleared.handOut f,some 1⟩) := by
        rw [pushFrame_view handle hview hlarge.present,hpush,complete_fits hfits]
      obtain ⟨_,hagain⟩ := hrepeat hfirst _ _ hlarge hroom
      rw [pushFrame_view _ hview hlarge.present,pushFrame_view handle hview hpresent] at hagain
      obtain ⟨g,hg,hfitsg,hresult⟩ := complete_eq_ok hagain
      have hreceived := congrArg (fun result => result.memory.received) hresult
      dsimp only at hreceived
      rw [FrameMemory.received_handOut hlarge.memory hfits,
        FrameMemory.received_handOut hlarge.memory hfitsg,Option.some.injEq] at hreceived
      obtain rfl := HdlcFrameBuffer.received_injective hreceived
      have hcompleted := HdlcReassembler.pushFrame_completes
        (HdlcReassembler.pushFrame_eq_some_iff.mp hg)
      exact hreplays ((HdlcReassembler.replays_iff hcompletes).mp hcompleted)
    · intro hkeeps hstatus large result hlarge hresult
      by_cases hinvalid : inputFrame=none ∨ ¬ output.Present
      · rw [pushFrame_invalid handle hinvalid] at hstatus
        cases hstatus
      rw [not_or,not_not] at hinvalid
      obtain ⟨frame,rfl⟩ := Option.ne_none_iff_exists'.mp hinvalid.1
      cases hview : toCppFrame frame with
      | error status =>
        rw [pushFrame_present handle frame hinvalid.2,hview] at hstatus
        exact absurd hstatus (toCppFrame_error hview).2
      | ok view =>
        rw [pushFrame_view handle hview hinvalid.2] at hstatus
        rw [pushFrame_view handle hview hlarge.present] at hresult
        obtain ⟨f,hf,hsmall⟩ := complete_eq_small hstatus (HdlcReassembler.pushFrame_ne_small _ _)
        obtain ⟨g,hg,hfits,rfl⟩ := complete_eq_ok hresult
        obtain rfl := Option.some.inj (hf.symm.trans hg)
        have hcompletes := HdlcReassembler.pushFrame_eq_some_iff.mp hf
        have hreplays : handle.reassembler.Replays (ownedFrame view) := by
          by_contra hnone
          have hlt := large.memory.informationBufferSize.toNat_lt
          exact hkeeps ⟨hinvalid.2,frame,view,f,rfl,hview,hcompletes,hsmall,by omega,hnone⟩
        refine ⟨rfl,?_⟩
        rw [pushFrame_view _ hview hlarge.present,pushFrame_view handle hview hinvalid.2,
          (HdlcReassembler.replays_iff hcompletes).mpr hreplays,complete_fits hfits]

end DlmsHdlcReassembler
namespace Go

theorem sameAddress_ext {a b : Address} (h : sameAddress a b=true) : a=b := by
  rw [sameAddress,Bool.and_eq_true,beq_iff_eq,beq_iff_eq] at h
  cases a
  cases b
  obtain ⟨rfl,rfl⟩ := h
  rfl

/-- A caller with a buffer sees the whole frame. -/
theorem handOut_injective {memory : FrameMemory} (usable : memory.Usable) {f g : Frame}
    (hf : f.information.length < 2^64) (hg : g.information.length < 2^64)
    (h : handOut memory.cleared f=handOut memory.cleared g) : f=g := by
  obtain ⟨bytes,hbytes,_⟩ := usable.buffer
  have hpresent (information : List UInt8) :
      memory.cleared.informationBuffer≠none ∨ information=[] := by
    left
    rw [FrameMemory.cleared,hbytes]
    intro hnull
    cases hnull
  have hsize := Option.some.inj (congrArg FrameMemory.informationSize h)
  have hlength := congrArg UInt64.toNat hsize
  rw [UInt64.toNat_ofNat',UInt64.toNat_ofNat',Nat.mod_eq_of_lt hf,Nat.mod_eq_of_lt hg] at hlength
  have hinformation : f.information=g.information := by
    have hread (k : Frame) : (handOut memory.cleared k).informationBuffer.read k.information.length=
      k.information := read_overwrite (hpresent k.information)
    rw [← hread f,← hread g,h,hlength]
  have hframe : fillCFrame f _ _=fillCFrame g _ _ :=
    Option.some.inj (congrArg FrameMemory.frame h)
  obtain ⟨fs,⟨_,_⟩,⟨_,_⟩,⟨_⟩,_⟩ := f
  obtain ⟨gs,⟨_,_⟩,⟨_,_⟩,⟨_⟩,_⟩ := g
  simp only [fillCFrame,DlmsHdlcFrame.mk.injEq,Control.encode] at hframe hinformation
  obtain ⟨hsegmented,rfl,rfl,rfl,rfl,rfl,_⟩ := hframe
  subst hinformation
  cases fs <;> cases gs <;> first | rfl | cases hsegmented

namespace Reassembler

/-- The frame completes: alone, or as the last one of the pending sequence. -/
inductive Completes (r : Reassembler) (frame : Frame) : Frame → Prop
  | alone (idle : r.hasPending=false) (unsegmented : frame.segmented=false)
      (fits : ¬ effectiveMaximumReassembledInformationSize r.limits <
        .ofNat frame.information.length) : Completes r frame frame
  | behind (pending : r.hasPending=true) (continues : r.continues frame=true)
      (unsegmented : frame.segmented=false)
      (fits : ¬ effectiveMaximumReassembledInformationSize r.limits -
        .ofNat frame.information.length < .ofNat r.pending.information.length) :
      Completes r frame { r.pending with
        segmented := false
        information := r.pending.information ++ frame.information }

variable {r : Reassembler} {frame completed : Frame}

theorem push_completes (h : r.Completes frame completed) : (r.push frame).1=.ok completed := by
  cases h with
  | alone idle unsegmented fits => simp [push,idle,unsegmented,fits]
  | behind pending continues unsegmented fits => simp [push,pending,continues,unsegmented,fits]

theorem push_eq_ok_iff : (r.push frame).1=.ok completed ↔ r.Completes frame completed := by
  refine ⟨fun h => ?_,push_completes⟩
  unfold push at h
  dsimp only at h
  repeat' split at h
  all_goals cases h
  · rename_i hidle hfits hsegmented
    exact .alone (by simpa using hidle) (by simpa using hsegmented) hfits
  · rename_i hpending hcontinues hfits hsegmented
    exact .behind (by simpa using hpending) (by simpa using hcontinues) (by simpa using hsegmented)
      hfits

/-- The frame alone completes like the frame behind what is pending. -/
def Replays (r : Reassembler) (frame : Frame) : Prop :=
  r.hasPending=false ∨ r.pending.information=[] ∧ r.pending.control=frame.control ∧
    ¬ effectiveMaximumReassembledInformationSize r.limits < .ofNat frame.information.length

/-- Completing drops what was pending here, too. -/
theorem replays_iff (h : r.Completes frame completed) :
    ((r.push frame).2.push frame).1=.ok completed ↔ r.Replays frame := by
  cases h with
  | alone idle unsegmented fits =>
    have hnext : (r.push frame).2=r := by
      simp [push,idle,unsegmented,fits]
    rw [hnext]
    exact iff_of_true (push_completes (.alone idle unsegmented fits)) (Or.inl idle)
  | behind pending continues unsegmented fits =>
    have hnext : (r.push frame).2=r.reset := by
      simp [push,pending,continues,unsegmented,fits]
    have hsame := continues
    rw [Reassembler.continues,Bool.and_eq_true,Bool.and_eq_true] at hsame
    have hdestination := sameAddress_ext hsame.1.1
    have hsource := sameAddress_ext hsame.1.2
    rw [hnext,Replays,or_iff_right (by simp [pending])]
    by_cases hover : effectiveMaximumReassembledInformationSize r.limits <
        .ofNat frame.information.length
    · refine iff_of_false (fun h => ?_) fun h => h.2.2 hover
      have hpush : (r.reset.push frame).1=.error .segmentationOverflow := by
        simp [push,reset,hover]
      rw [hpush] at h
      cases h
    · have hpush : (r.reset.push frame).1=.ok frame :=
        push_completes (.alone rfl unsegmented hover)
      rw [hpush,Except.ok.injEq]
      constructor
      · intro h
        have hcontrol := congrArg Frame.control h
        have hinformation := congrArg Frame.information h
        exact ⟨List.self_eq_append_left.mp hinformation,hcontrol.symm,hover⟩
      · rintro ⟨hempty,hcontrol,_⟩
        rw [hempty,List.nil_append]
        dsimp only
        rw [hcontrol,hdestination,hsource,← unsegmented]

/-- Successive calls on a handle, a reset without a result. The process ends with a call that
panics. -/
def handleMachine :
    Mealy (Option Reassembler) ReassemblerCall (Option (HdlcStatus × CompletedMemory)) where
  step
    | none,_ => (none,none)
    | some r,.push inputFrame output =>
      match r.pushFrame inputFrame output with
      | none => (none,none)
      | some (result,next) => (some result,some next)
    | some r,.reset => (none,some r.reset)

/-- Where the buffer is too small, the same call with any buffer that would have been large enough
gives, behind it, the frame that it would have given. -/
def Repeatable (r : Reassembler) : ReassemblerCall → Prop
  | .push inputFrame output => ∀ result next, r.pushFrame inputFrame output=some (result,next) →
    result.1=.outputBufferTooSmall → ∀ large completed after, large.Usable →
      r.pushFrame inputFrame large=some ((.ok,completed),after) →
        completed.hasCompletedFrame=some 1 ∧
          ∃ last, next.pushFrame inputFrame large=some ((.ok,completed),last)
  | .reset => True

/-- The frame is too large for the buffer and completes a sequence that it cannot replay. -/
def LosesFrame (r : Reassembler) : ReassemblerCall → Prop
  | .push inputFrame output => output.Present ∧ ∃ cframe frame f, inputFrame=some cframe ∧
    goFrame cframe=.ok (some frame) ∧ r.Completes frame f ∧ f.information≠[] ∧
      (output.memory.informationBuffer=none ∨
        output.memory.informationBufferSize.toNat < f.information.length) ∧
      f.information.length < 2^64 ∧ ¬ r.Replays frame
  | .reset => False

theorem pushFrame_frame (r : Reassembler) {cframe : DlmsHdlcFrame} {frame : Frame}
    (hframe : goFrame cframe=.ok (some frame)) {output : CompletedMemory} (present : output.Present) :
    r.pushFrame (some cframe) output=
      some (complete (r.push frame).1 output.cleared,(r.push frame).2) := by
  rw [pushFrame_present r cframe present,hframe]

theorem complete_fits {f : Frame} {output : CompletedMemory} (usable : output.Usable)
    (fits : f.information.length ≤ output.memory.informationBufferSize.toNat) :
    complete (.ok f) output.cleared=(.ok,⟨handOut output.memory.cleared f,some 1⟩) := by
  obtain ⟨bytes,hbytes,_⟩ := usable.memory.buffer
  rw [complete,if_neg]
  · rfl
  · rintro ⟨_,hnull | hsmall⟩
    · cases hnull.symm.trans hbytes
    · exact absurd hsmall (Nat.not_lt.mpr fits)

theorem complete_eq_small {result : Except HdlcStatus Frame} {output : CompletedMemory}
    (h : (complete result output.cleared).1=.outputBufferTooSmall)
    (notSmall : ∀ err, result=.error err → err≠.outputBufferTooSmall) :
    ∃ f, result=.ok f ∧ f.information≠[] ∧ (output.memory.informationBuffer=none ∨
      output.memory.informationBufferSize.toNat < f.information.length) := by
  unfold complete at h
  split at h
  · split at h
    · exact absurd h (notSmall _ rfl)
    · cases h
  · split at h
    · rename_i hsmall
      exact ⟨_,rfl,List.ne_nil_of_length_pos hsmall.1,hsmall.2⟩
    · cases h

theorem complete_eq_ok {result : Except HdlcStatus Frame} {output completed : CompletedMemory}
    (h : complete result output.cleared=(.ok,completed))
    (notOk : ∀ err, result=.error err → err≠.ok) :
    ∃ f, result=.ok f ∧ f.information.length ≤ output.memory.informationBufferSize.toNat ∧
      completed=⟨handOut output.memory.cleared f,some 1⟩ := by
  unfold complete at h
  split at h
  · split at h
    · exact absurd (congrArg Prod.fst h) (notOk _ rfl)
    · cases h
  · split at h
    · cases h
    · rename_i hroom
      cases h
      refine ⟨_,rfl,?_,rfl⟩
      by_contra hless
      have hless := Nat.not_le.mp hless
      exact hroom ⟨Nat.zero_lt_of_lt hless,Or.inr hless⟩

/-- The same holds of the Go handle. -/
theorem repeatable_iff (r : Reassembler) (call : ReassemblerCall) :
    r.Repeatable call ↔ ¬ r.LosesFrame call := by
  cases call with
  | reset => exact iff_of_true trivial id
  | push inputFrame output =>
    constructor
    · rintro hrepeat ⟨hpresent,cframe,frame,f,rfl,hframe,hcompletes,hnonempty,hsmall,hsize,hreplays⟩
      have hlarge := completedRoomFor_usable f.information.length
      have hfits : f.information.length ≤
          (completedRoomFor f.information.length).memory.informationBufferSize.toNat := by
        change _ ≤ (UInt64.ofNat f.information.length).toNat
        rw [UInt64.toNat_ofNat',Nat.mod_eq_of_lt hsize]
      have hpush := push_completes hcompletes
      have hfirst := pushFrame_frame r hframe hpresent
      have hstatus : (complete (r.push frame).1 output.cleared).1=.outputBufferTooSmall := by
        rw [hpush,complete]
        exact congrArg Prod.fst (if_pos ⟨List.length_pos_of_ne_nil hnonempty,hsmall⟩)
      have hroom := pushFrame_frame r hframe hlarge.present
      rw [hpush,complete_fits hlarge hfits] at hroom
      obtain ⟨_,last,hagain⟩ := hrepeat _ _ hfirst hstatus _ _ _ hlarge hroom
      rw [pushFrame_frame _ hframe hlarge.present] at hagain
      obtain ⟨g,hg,hfitsg,hresult⟩ := complete_eq_ok (congrArg Prod.fst (Option.some.inj hagain))
        fun err herr => (push_error herr).1
      have hlt := (completedRoomFor f.information.length).memory.informationBufferSize.toNat_lt
      obtain rfl := handOut_injective hlarge.memory hsize (by omega)
        (congrArg CompletedMemory.memory hresult)
      exact hreplays ((replays_iff hcompletes).mp hg)
    · intro hkeeps result next hresult hstatus large completed after hlarge hcompleted
      by_cases hinvalid : inputFrame=none ∨ ¬ output.Present
      · rw [pushFrame_invalid r hinvalid] at hresult
        cases hresult
        cases hstatus
      rw [not_or,not_not] at hinvalid
      obtain ⟨cframe,rfl⟩ := Option.ne_none_iff_exists'.mp hinvalid.1
      rcases hframe : goFrame cframe with err | _ | frame
      · rw [pushFrame_present r cframe hinvalid.2,hframe] at hresult
        cases hresult
        exact absurd hstatus (goFrame_error hframe).2
      · rw [pushFrame_present r cframe hinvalid.2,hframe] at hresult
        cases hresult
      · rw [pushFrame_frame r hframe hinvalid.2] at hresult
        cases hresult
        rw [pushFrame_frame r hframe hlarge.present] at hcompleted
        obtain ⟨f,hf,hnonempty,hsmall⟩ := complete_eq_small hstatus
          fun err herr => (push_error herr).2
        obtain ⟨g,hg,hfits,rfl⟩ := complete_eq_ok (congrArg Prod.fst (Option.some.inj hcompleted))
          fun err herr => (push_error herr).1
        obtain rfl := Except.ok.inj (hf.symm.trans hg)
        have hcompletes := push_eq_ok_iff.mp hf
        have hreplays : r.Replays frame := by
          by_contra hnone
          have hlt := large.memory.informationBufferSize.toNat_lt
          exact hkeeps
            ⟨hinvalid.2,cframe,frame,f,rfl,hframe,hcompletes,hnonempty,hsmall,by omega,hnone⟩
        refine ⟨rfl,((r.push frame).2.push frame).2,?_⟩
        rw [pushFrame_frame _ hframe hlarge.present,(replays_iff hcompletes).mpr hreplays,
          complete_fits hlarge hfits]

end Reassembler
end Go

/-- In a run of calls on one handle, a call with a small buffer can be repeated exactly where the
frame that it completes replays: with nothing pending, or behind a sequence without Information so
far whose control byte is that of the frame. -/
theorem reassembler_repeats_iff (limits : Option DlmsHdlcLimits) (calls : List ReassemblerCall) :
    (DlmsHdlcReassembler.machine.Along DlmsHdlcReassembler.Repeatable (.new limits) calls ↔
      DlmsHdlcReassembler.machine.Along (fun handle call => ¬ handle.LosesFrame call) (.new limits)
        calls) ∧
    (Go.Reassembler.handleMachine.Along (fun process call => ∀ r, process=some r → r.Repeatable call)
        (some (.newReassembler (Go.toLimits limits))) calls ↔
      Go.Reassembler.handleMachine.Along (fun process call => ∀ r, process=some r → ¬ r.LosesFrame call)
        (some (.newReassembler (Go.toLimits limits))) calls) := by
  constructor
  · apply Mealy.along_congr _ (fun _ => True)
    · rintro handle call _ _
      exact handle.repeatable_iff call
    · exact fun _ _ _ _ _ => trivial
    · trivial
  · apply Mealy.along_congr _ (fun _ => True)
    · rintro process call _ _
      exact forall₂_congr fun r _ => r.repeatable_iff call
    · exact fun _ _ _ _ _ => trivial
    · trivial

/-- Two segments, with room for one byte where they complete to three: the first one is lost. -/
theorem twoSegments_lost :
    ¬ DlmsHdlcReassembler.machine.Along DlmsHdlcReassembler.Repeatable (.new none)
        [.push (some ⟨1,3,1,0x10,1,0x10,some [0x01,0x02],2⟩) (completedRoomFor 3),
          .push (some ⟨0,3,1,0x10,1,0x10,some [0x03],1⟩) (completedRoomFor 1)] ∧
      ¬ Go.Reassembler.handleMachine.Along
        (fun process call => ∀ r, process=some r → r.Repeatable call)
        (some (.newReassembler (Go.toLimits none)))
        [.push (some ⟨1,3,1,0x10,1,0x10,some [0x01,0x02],2⟩) (completedRoomFor 3),
          .push (some ⟨0,3,1,0x10,1,0x10,some [0x03],1⟩) (completedRoomFor 1)] := by
  constructor
  · rintro ⟨_,hrepeat,_⟩
    refine (DlmsHdlcReassembler.repeatable_iff _ _).mp hrepeat ?_
    refine ⟨(completedRoomFor_usable 1).present,_,⟨false,.ofByte 3 (by decide),
      .ofByte 0x10 (by decide),⟨0x10,by decide⟩,some [0x03],1⟩,_,rfl,
      toOption_eq_some_iff.mp (by decide +kernel),.behind rfl rfl rfl (by decide +kernel),
      by decide +kernel,by decide +kernel,?_⟩
    rintro (hidle | ⟨hempty,_⟩)
    · cases hidle
    · cases hempty
  · rintro ⟨_,hrepeat,_⟩
    have hpending := hrepeat ⟨Go.toLimits none,true,⟨true,⟨3,1⟩,⟨0x10,1⟩,⟨0x10⟩,[0x01,0x02]⟩⟩
      (by decide +kernel)
    refine (Go.Reassembler.repeatable_iff _ _).mp hpending ?_
    refine ⟨(completedRoomFor_usable 1).present,_,⟨false,⟨3,1⟩,⟨0x10,1⟩,⟨0x10⟩,[0x03]⟩,_,rfl,
      toOption_eq_some_iff.mp (by decide +kernel),.behind rfl (by decide) rfl (by decide +kernel),
      by decide,Or.inr (by decide +kernel),by decide,?_⟩
    rintro (hidle | ⟨hempty,_⟩)
    · cases hidle
    · cases hempty

end DlmsHdlc
