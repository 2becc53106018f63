import DlmsHdlc.Library.Grouping
import DlmsHdlc.Segmentation.Reassembler

/-! What a fresh reassembler answers to any frames: it cuts them into groups, completes the good
ones and forgets the broken ones. -/
namespace DlmsHdlc
open Machine
open Grouping hiding Group

theorem sameAddress_iff {left right : HdlcAddress} :
    sameAddress left right=true ↔ left=right := by
  constructor
  · exact sameAddress_eq
  · rintro rfl
    exact sameAddress_self left

namespace HdlcFrameBuffer

/-- Equal destination, equal source and equal frame kind. -/
def Joins (left right : HdlcFrameBuffer) : Prop :=
  left.destination=right.destination ∧ left.source=right.source ∧
    left.control.frameKind=right.control.frameKind

instance (left right : HdlcFrameBuffer) : Decidable (left.Joins right) :=
  inferInstanceAs (Decidable (_ ∧ _ ∧ _))

theorem Joins.rfl (frame : HdlcFrameBuffer) : frame.Joins frame := ⟨Eq.refl _,Eq.refl _,Eq.refl _⟩

theorem Joins.symm {left right : HdlcFrameBuffer} (h : left.Joins right) : right.Joins left :=
  ⟨h.1.symm,h.2.1.symm,h.2.2.symm⟩

theorem Joins.trans {left middle right : HdlcFrameBuffer} (h : left.Joins middle)
    (h' : middle.Joins right) : left.Joins right :=
  ⟨h.1.trans h'.1,h.2.1.trans h'.2.1,h.2.2.trans h'.2.2⟩

/-- Addresses and control of the first frame, the Information of all of them. -/
def joined : List HdlcFrameBuffer → HdlcFrameBuffer
  | [] => default
  | first::rest => { first with
      segmented := false, information := (first::rest).flatMap information }

end HdlcFrameBuffer

namespace HdlcReassembler
variable {limits : HdlcCodecLimits} {maximum : ℕ} {held : List HdlcFrameBuffer}
  {first frame : HdlcFrameBuffer}

/-- Frames of one group join each other and hold at most `maximum` Information bytes together. -/
def groupRule (maximum : ℕ) : Rule HdlcFrameBuffer where
  more := HdlcFrameBuffer.segmented
  Fits frames := (∀ left ∈ frames, ∀ right ∈ frames, left.Joins right) ∧
    (frames.flatMap HdlcFrameBuffer.information).length ≤ maximum
  fits_nil := by simp
  fits_left := by
    intro xs ys h
    obtain ⟨hjoins,hlength⟩ := h
    rw [List.flatMap_append,List.length_append] at hlength
    constructor
    · intro left hleft right hright
      exact hjoins left (List.mem_append_left ys hleft) right (List.mem_append_left ys hright)
    · omega

/-- The rule for the effective limit. -/
def reference (limits : HdlcCodecLimits) : Rule HdlcFrameBuffer :=
  groupRule (effectiveMaximumReassembledInformationSize limits).toNat

/-- The answers of a group: its frames together, or why the last one breaks it. -/
def groupAnswers : Answers HdlcFrameBuffer (HdlcStatus × Option HdlcFrameBuffer) where
  wait := (.segmentationIncomplete,none)
  complete frames := (.ok,some (.joined frames))
  fail segments breaker :=
    (if ∀ frame ∈ segments, frame.Joins breaker then .segmentationOverflow
      else .segmentationError,none)

/-- A reassembler that holds these frames. -/
def holding (limits : HdlcCodecLimits) : List HdlcFrameBuffer → HdlcReassembler
  | [] => .new limits
  | first::rest => ⟨limits,true,{ first with
      information := (first::rest).flatMap HdlcFrameBuffer.information }⟩

theorem continues_iff (reassembler : HdlcReassembler) (frame : HdlcFrameBuffer) :
    reassembler.continues frame=true ↔ reassembler.pendingFrame.Joins frame := by
  rw [continues,Bool.and_eq_true,Bool.and_eq_true,sameAddress_iff,sameAddress_iff,
    compatibleFrameType,beq_iff_eq,and_assoc]
  rfl

/-- One frame fits a group alone when it is within the limit. -/
theorem fits_singleton (hlength : frame.information.length ≤ maximum) :
    (groupRule maximum).Fits [frame] := by
  constructor
  · intro left hleft right hright
    rw [List.mem_singleton.mp hleft,List.mem_singleton.mp hright]
    exact .rfl frame
  · simpa using hlength

/-- A frame fits behind held ones exactly when it joins the first and the sum stays within. -/
theorem fits_append_iff (hheld : (groupRule maximum).Fits (first::held)) :
    (groupRule maximum).Fits (first::held ++ [frame]) ↔ first.Joins frame ∧
      ((first::held).flatMap HdlcFrameBuffer.information).length+frame.information.length ≤
        maximum := by
  obtain ⟨hjoins,_⟩ := hheld
  have hlength : ((first::held ++ [frame]).flatMap HdlcFrameBuffer.information).length=
      ((first::held).flatMap HdlcFrameBuffer.information).length+frame.information.length := by
    rw [List.flatMap_append,List.length_append,List.flatMap_singleton]
  constructor
  · rintro ⟨hall,htotal⟩
    rw [hlength] at htotal
    exact ⟨hall first (by simp) frame (by simp),htotal⟩
  · rintro ⟨hfirst,htotal⟩
    refine ⟨?_,hlength.trans_le htotal⟩
    have hframe : ∀ x ∈ first::held ++ [frame], x.Joins frame := by
      intro x hx
      rw [List.mem_append,List.mem_singleton] at hx
      obtain hx | rfl := hx
      · exact (hjoins x hx first List.mem_cons_self).trans hfirst
      · exact .rfl x
    intro left hleft right hright
    exact (hframe left hleft).trans (hframe right hright).symm

/-- All held frames join a frame when the first does. -/
theorem forall_joins_iff (hheld : (groupRule maximum).Fits (first::held)) :
    (∀ x ∈ first::held, x.Joins frame) ↔ first.Joins frame := by
  constructor
  · intro h
    exact h first List.mem_cons_self
  · intro h x hx
    exact (hheld.1 x hx first List.mem_cons_self).trans h

theorem pushFrame_mismatch (reassembler : HdlcReassembler) (frame : HdlcFrameBuffer)
    (hpending : reassembler.hasPending=true) (hcontinues : reassembler.continues frame=false) :
    reassembler.pushFrame frame=((.segmentationError,none),reassembler.reset) := by
  simp only [pushFrame,hpending,hcontinues,Bool.not_true,Bool.not_false,Bool.false_eq_true,
    ↓reduceIte]

/-- A frame within the limit that continues the pending ones beyond it. -/
theorem pushFrame_overflow (reassembler : HdlcReassembler) (frame : HdlcFrameBuffer)
    (hpending : reassembler.hasPending=true) (hcontinues : reassembler.continues frame=true)
    (hheld : reassembler.pendingFrame.information.length ≤
      (effectiveMaximumReassembledInformationSize reassembler.limits).toNat)
    (hlength : frame.information.length ≤
      (effectiveMaximumReassembledInformationSize reassembler.limits).toNat)
    (hover : (effectiveMaximumReassembledInformationSize reassembler.limits).toNat <
      reassembler.pendingFrame.information.length+frame.information.length) :
    reassembler.pushFrame frame=((.segmentationOverflow,none),reassembler.reset) := by
  have hsize := (effectiveMaximumReassembledInformationSize reassembler.limits).toNat_lt
  have hwrapped := (wrappedOverflow_iff _ hheld
    (by omega : frame.information.length < 2^64)).mpr ⟨hlength,hover⟩
  simp only [pushFrame,hpending,hcontinues,hwrapped,Bool.not_true,Bool.false_eq_true,↓reduceIte]

/-- With nothing held a push is a step of the reference. -/
theorem pushFrame_holding_nil
    (hmaximum : maximum=(effectiveMaximumReassembledInformationSize limits).toNat)
    (hlength : frame.information.length ≤ maximum) :
    (holding limits []).pushFrame frame=
      let next := ((groupRule maximum).machine groupAnswers).step [] frame
      (next.1,holding limits next.2) := by
  have hfits := fits_singleton hlength
  rw [hmaximum] at hlength
  rw [pushFrame_idle (holding limits []) frame rfl hlength]
  obtain ⟨segmented,destination,source,control,information⟩ := frame
  simp only [Rule.machine,List.nil_append,if_pos hfits]
  cases segmented with
  | true => simp [groupRule,groupAnswers,holding,new]
  | false => simp [groupRule,groupAnswers,holding,HdlcFrameBuffer.joined]

/-- Behind held frames it is one as well, at each of the three exits. -/
theorem pushFrame_holding_cons
    (hmaximum : maximum=(effectiveMaximumReassembledInformationSize limits).toNat)
    (hheld : (groupRule maximum).Fits (first::held))
    (hlength : frame.information.length ≤ maximum) :
    (holding limits (first::held)).pushFrame frame=
      let next := ((groupRule maximum).machine groupAnswers).step (first::held) frame
      (next.1,holding limits next.2) := by
  have hpending : (holding limits (first::held)).hasPending=true := rfl
  have hinformation : (holding limits (first::held)).pendingFrame.information=
      (first::held).flatMap HdlcFrameBuffer.information := rfl
  have hcontinues : (holding limits (first::held)).continues frame=true ↔ first.Joins frame :=
    continues_iff (holding limits (first::held)) frame
  have hfits := @fits_append_iff maximum held first frame hheld
  have hall := @forall_joins_iff maximum held first frame hheld
  have htotal := hheld.2
  rw [hmaximum] at hlength htotal
  by_cases hfirst : first.Joins frame
  · by_cases hover : (effectiveMaximumReassembledInformationSize limits).toNat <
        ((first::held).flatMap HdlcFrameBuffer.information).length+frame.information.length
    · have hbroken : ¬ (groupRule maximum).Fits (first::held ++ [frame]) := by
        rw [hfits,hmaximum]
        omega
      rw [pushFrame_overflow (holding limits (first::held)) frame hpending
        (hcontinues.mpr hfirst) htotal hlength hover]
      simp only [Rule.machine,if_neg hbroken,groupAnswers,if_pos (hall.mpr hfirst)]
      rfl
    · have hnext : (groupRule maximum).Fits (first::held ++ [frame]) := by
        rw [hfits,hmaximum]
        exact ⟨hfirst,Nat.le_of_not_lt hover⟩
      rw [pushFrame_continue (holding limits (first::held)) frame hpending
        (hcontinues.mpr hfirst) (Nat.le_of_not_lt hover)]
      simp only [Rule.machine,if_pos hnext]
      cases hsegmented : frame.segmented with
      | true => simp [groupRule,groupAnswers,hsegmented,holding]
      | false =>
        simp [groupRule,groupAnswers,hsegmented,holding,HdlcFrameBuffer.joined,reset,new]
  · have hbroken : ¬ (groupRule maximum).Fits (first::held ++ [frame]) := by
      rw [hfits]
      exact fun h => hfirst h.1
    rw [pushFrame_mismatch (holding limits (first::held)) frame hpending
      (eq_false_of_ne_true (mt hcontinues.mp hfirst))]
    simp only [Rule.machine,if_neg hbroken,groupAnswers,if_neg (mt hall.mp hfirst)]
    rfl

theorem pushFrame_holding
    (hmaximum : maximum=(effectiveMaximumReassembledInformationSize limits).toNat)
    (hheld : (groupRule maximum).Fits held) (hlength : frame.information.length ≤ maximum) :
    (holding limits held).pushFrame frame=
      let next := ((groupRule maximum).machine groupAnswers).step held frame
      (next.1,holding limits next.2) := by
  cases held with
  | nil => exact pushFrame_holding_nil hmaximum hlength
  | cons first held => exact pushFrame_holding_cons hmaximum hheld hlength

/-- The reassembler and the reference hold the same frames. -/
def Holds (limits : HdlcCodecLimits) (reassembler : HdlcReassembler)
    (held : List HdlcFrameBuffer) : Prop :=
  reassembler=holding limits held ∧ (reference limits).Fits held

theorem Holds.new (limits : HdlcCodecLimits) : Holds limits (.new limits) [] :=
  ⟨rfl,(reference _).fits_nil⟩

/-- Every push is a step of the reference, and both hold the same frames after it. -/
theorem Holds.step {reassembler : HdlcReassembler} (h : Holds limits reassembler held)
    (hlength : frame.information.length ≤
      (effectiveMaximumReassembledInformationSize limits).toNat) :
    let next := ((reference limits).machine groupAnswers).step held frame
    (machine.step reassembler frame).1=next.1 ∧
      Holds limits (machine.step reassembler frame).2 next.2 := by
  obtain ⟨rfl,hfits⟩ := h
  have hpush := pushFrame_holding rfl hfits hlength
  rw [machine_step,hpush]
  exact ⟨rfl,rfl,Rule.machine_fits _ groupAnswers held frame⟩

/-- At most the last answer of a group carries a frame. -/
theorem length_completed_le (group : Grouping.Group HdlcFrameBuffer) :
    ((group.results groupAnswers).filterMap Prod.snd).length ≤ 1 := by
  have hwait : ∀ count, (List.replicate count groupAnswers.wait).filterMap Prod.snd=[] := by
    intro count
    rw [List.filterMap_eq_nil_iff]
    intro result hresult
    rw [List.eq_of_mem_replicate hresult]
    rfl
  cases group with
  | completed segments last =>
    rw [Grouping.Group.results,List.filterMap_append,hwait]
    exact List.length_filterMap_le _ _
  | broken segments breaker =>
    rw [Grouping.Group.results,List.filterMap_append,hwait]
    exact List.length_filterMap_le _ _
  | unfinished segments => simp [Grouping.Group.results,hwait]

/-- The frames pushed into a fresh reassembler fall into groups in exactly one way, and it
answers them group by group: the segments of a group are incomplete, its last frame completes
the concatenation or reports what broke the group, and after it the reassembler is as new. -/
theorem machine_groups (limits : HdlcCodecLimits) (frames : List HdlcFrameBuffer)
    (hlength : ∀ frame ∈ frames, frame.information.length ≤
      (effectiveMaximumReassembledInformationSize limits).toNat) :
    ∃ groups, (reference limits).Groups frames groups ∧
      (∀ others, (reference limits).Groups frames others → others=groups) ∧
      machine.outputs (.new limits) frames=groups.flatMap (Grouping.Group.results groupAnswers) ∧
      (∀ closed rest, groups=closed ++ rest → (∀ group ∈ closed, group.Finished) →
        machine.final (.new limits) (closed.flatMap Grouping.Group.elements)=.new limits) ∧
      groups.flatMap Grouping.Group.elements=frames ∧
      ∀ group ∈ groups, (group.results groupAnswers).length=group.elements.length ∧
        ((group.results groupAnswers).filterMap Prod.snd).length ≤ 1 := by
  have hgroups := (reference limits).groups_split [] frames (by simp) (reference limits).fits_nil
  rw [List.nil_append] at hgroups
  refine ⟨_,hgroups,fun others hothers => hothers.eq_split,?_,?_,hgroups.flatMap_elements,?_⟩
  · have hreference := (reference limits).outputs_split groupAnswers [] frames
    rw [List.length_nil,List.replicate_zero,List.nil_append] at hreference
    rw [← hreference]
    apply machine.outputs_eq_of_along (Holds limits) _ (.new limits)
      (machine.along_of_forall (fun _ _ => trivial) _ _)
    intro reassembler held frame hframe h _
    exact h.step (hlength frame hframe)
  · intro closed rest hclosed hfinished
    have hheld := hgroups.final_finished _ groupAnswers hclosed hfinished
    have hfinal : Holds limits
        (machine.final (.new limits) (closed.flatMap Grouping.Group.elements))
        (((reference limits).machine groupAnswers).final []
          (closed.flatMap Grouping.Group.elements)) := by
      apply machine.final_of_simulation (Holds limits) _ (.new limits)
      intro reassembler held frame hframe h
      have hmem : frame ∈ frames := by
        rw [← hgroups.flatMap_elements,hclosed,List.flatMap_append]
        exact List.mem_append_left _ hframe
      exact (h.step (hlength frame hmem)).2
    rw [hheld] at hfinal
    exact hfinal.1
  · intro group _
    exact ⟨group.length_results groupAnswers,length_completed_le group⟩

/-- Two segments that join, one that breaks their group, a group too long, a pair that completes
and a segment left over. -/
theorem machine_groups_sample :
    let frames : List HdlcFrameBuffer :=
      [⟨true,default,default,default,[1]⟩,⟨true,default,default,default,[2]⟩,
        ⟨true,default,default,⟨0x73,by decide⟩,[3]⟩,⟨true,default,default,default,[4,5]⟩,
        ⟨false,default,default,default,[6,7]⟩,⟨true,default,default,default,[8]⟩,
        ⟨false,default,default,default,[9]⟩,⟨true,default,default,default,[10]⟩]
    ∃ groups, (reference ⟨0,0,3⟩).Groups frames groups ∧
      machine.outputs (.new ⟨0,0,3⟩) frames=
        groups.flatMap (Grouping.Group.results groupAnswers) := by
  intro frames
  have hlength : ∀ frame ∈ frames, frame.information.length ≤
      (effectiveMaximumReassembledInformationSize ⟨0,0,3⟩).toNat := by decide
  obtain ⟨groups,hgroups,_,houtputs,_⟩ := machine_groups ⟨0,0,3⟩ frames hlength
  exact ⟨groups,hgroups,houtputs⟩

end HdlcReassembler
end DlmsHdlc
