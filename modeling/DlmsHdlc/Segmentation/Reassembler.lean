import DlmsHdlc.Library.Machine
import DlmsHdlc.Segmentation.Segmenter

/-! The reassembler as a machine over pushed frames, and its run on the segments of a payload. -/
namespace DlmsHdlc
open Machine

def effectiveMaximumReassembledInformationSize (limits : HdlcCodecLimits) : UInt64 :=
  if limits.maximumReassembledInformationSize=0 then 65535
  else limits.maximumReassembledInformationSize

def sameAddress (left right : HdlcAddress) : Bool :=
  left.rawValue == right.rawValue && left.encodedSize == right.encodedSize

theorem sameAddress_eq {left right : HdlcAddress} (h : sameAddress left right=true) :
    left=right := by
  rw [sameAddress,Bool.and_eq_true,beq_iff_eq,beq_iff_eq] at h
  obtain ⟨_,_,_,_⟩ := left
  obtain ⟨_,_,_,_⟩ := right
  obtain ⟨hraw,hsize⟩ := h
  dsimp only at hraw hsize
  subst hraw hsize
  rfl

theorem sameAddress_self (address : HdlcAddress) : sameAddress address address=true := by
  simp [sameAddress]

def compatibleFrameType (left right : HdlcControl) : Bool :=
  left.frameKind == right.frameKind

structure HdlcReassembler where
  limits : HdlcCodecLimits
  hasPending : Bool
  pendingFrame : HdlcFrameBuffer
  deriving DecidableEq, Repr

namespace HdlcReassembler

/-- The constructor. -/
def new (limits : HdlcCodecLimits) : HdlcReassembler := ⟨limits,false,default⟩

def reset (reassembler : HdlcReassembler) : HdlcReassembler :=
  { reassembler with hasPending := false, pendingFrame := default }

/-- Same addresses and frame kind as the pending sequence. -/
def continues (reassembler : HdlcReassembler) (frame : HdlcFrameBuffer) : Bool :=
  sameAddress reassembler.pendingFrame.destination frame.destination &&
    sameAddress reassembler.pendingFrame.source frame.source &&
    compatibleFrameType reassembler.pendingFrame.control frame.control

/-- Status, `completedFrame` where `hasCompletedFrame` is set, and the reassembler after the call.
Allocation succeeds, with no more Information than a vector can hold, and `InternalError` is left
out. -/
def pushFrame (reassembler : HdlcReassembler) (frame : HdlcFrameBuffer) :
    (HdlcStatus × Option HdlcFrameBuffer) × HdlcReassembler :=
  let maximum := effectiveMaximumReassembledInformationSize reassembler.limits
  if !reassembler.hasPending then
    if maximum < .ofNat frame.information.length then
      ((.segmentationOverflow,none),reassembler)
    else if !frame.segmented then ((.ok,some frame),reassembler)
    else
      ((.segmentationIncomplete,none),
        { reassembler with hasPending := true, pendingFrame := frame })
  else if !reassembler.continues frame then ((.segmentationError,none),reassembler.reset)
  else if maximum - .ofNat frame.information.length <
      .ofNat reassembler.pendingFrame.information.length then
    ((.segmentationOverflow,none),reassembler.reset)
  else
    let pendingFrame := { reassembler.pendingFrame with
      information := reassembler.pendingFrame.information ++ frame.information }
    if frame.segmented then
      ((.segmentationIncomplete,none),{ reassembler with pendingFrame := pendingFrame })
    else ((.ok,some { pendingFrame with segmented := false }),reassembler.reset)

/-- Successive `PushFrame` calls. -/
def machine : Mealy HdlcReassembler HdlcFrameBuffer (HdlcStatus × Option HdlcFrameBuffer) :=
  ⟨pushFrame⟩

@[simp] theorem machine_step (reassembler : HdlcReassembler) (frame : HdlcFrameBuffer) :
    machine.step reassembler frame=reassembler.pushFrame frame := rfl

@[simp] theorem pushFrame_limits (reassembler : HdlcReassembler) (frame : HdlcFrameBuffer) :
    (reassembler.pushFrame frame).2.limits=reassembler.limits := by
  unfold pushFrame
  dsimp only
  repeat' split
  all_goals rfl

end HdlcReassembler

/-- The unsigned subtraction of the overflow test is exact for a frame within the limit, and
lets every longer one pass. -/
theorem wrappedOverflow_iff (limit : UInt64) {held size : ℕ} (hheld : held ≤ limit.toNat)
    (hsize : size < 2^64) :
    limit - .ofNat size < .ofNat held ↔ size ≤ limit.toNat ∧ limit.toNat < held+size := by
  have hlimit := limit.toNat_lt
  rw [UInt64.lt_iff_toNat_lt,UInt64.toNat_sub,UInt64.toNat_ofNat',UInt64.toNat_ofNat',
    Nat.mod_eq_of_lt hsize,Nat.mod_eq_of_lt (by omega : held < 2^64)]
  omega

theorem lengthOverflow_iff (limit : UInt64) {size : ℕ} (hsize : size < 2^64) :
    limit < .ofNat size ↔ limit.toNat < size := by
  rw [UInt64.lt_iff_toNat_lt,UInt64.toNat_ofNat',Nat.mod_eq_of_lt hsize]

namespace HdlcReassembler
variable {baseFrame : HdlcFrame} {maximum : ℕ} {payload : List UInt8}
  {frames : List HdlcFrameBuffer}

/-- With nothing pending a frame within the limit completes, or starts a sequence. -/
theorem pushFrame_idle (reassembler : HdlcReassembler) (frame : HdlcFrameBuffer)
    (hidle : reassembler.hasPending=false) (hlimit : frame.information.length ≤
      (effectiveMaximumReassembledInformationSize reassembler.limits).toNat) :
    reassembler.pushFrame frame=
      if frame.segmented then ((.segmentationIncomplete,none),⟨reassembler.limits,true,frame⟩)
      else ((.ok,some frame),reassembler) := by
  have hsize := (effectiveMaximumReassembledInformationSize reassembler.limits).toNat_lt
  have hfits := mt (lengthOverflow_iff
    (effectiveMaximumReassembledInformationSize reassembler.limits)
    (by omega : frame.information.length < 2^64)).mp (by omega)
  simp only [pushFrame,hidle,hfits,Bool.not_false,↓reduceIte]
  cases frame.segmented <;> rfl

/-- A frame that continues the pending sequence within the limit is appended to it. -/
theorem pushFrame_continue (reassembler : HdlcReassembler) (frame : HdlcFrameBuffer)
    (hpending : reassembler.hasPending=true) (hcontinues : reassembler.continues frame=true)
    (hlimit : reassembler.pendingFrame.information.length+frame.information.length ≤
      (effectiveMaximumReassembledInformationSize reassembler.limits).toNat) :
    reassembler.pushFrame frame=
      let information := reassembler.pendingFrame.information ++ frame.information
      if frame.segmented then
        ((.segmentationIncomplete,none),{ reassembler with
          pendingFrame := { reassembler.pendingFrame with information := information } })
      else
        ((.ok,some { reassembler.pendingFrame with
          segmented := false, information := information }),reassembler.reset) := by
  have hsize := (effectiveMaximumReassembledInformationSize reassembler.limits).toNat_lt
  have hheld : reassembler.pendingFrame.information.length ≤
      (effectiveMaximumReassembledInformationSize reassembler.limits).toNat := by omega
  have hfits := mt (wrappedOverflow_iff _ hheld
    (by omega : frame.information.length < 2^64)).mp (by omega)
  simp only [pushFrame,hpending,hcontinues,hfits,Bool.not_true,Bool.false_eq_true,↓reduceIte]

/-- The frame completes: alone, or as the last one of the pending sequence. -/
inductive Completes (reassembler : HdlcReassembler) (frame : HdlcFrameBuffer) :
    HdlcFrameBuffer → Prop
  | alone (idle : reassembler.hasPending=false) (unsegmented : frame.segmented=false)
      (fits : ¬ effectiveMaximumReassembledInformationSize reassembler.limits <
        .ofNat frame.information.length) : Completes reassembler frame frame
  | behind (pending : reassembler.hasPending=true) (continues : reassembler.continues frame=true)
      (unsegmented : frame.segmented=false)
      (fits : ¬ effectiveMaximumReassembledInformationSize reassembler.limits -
        .ofNat frame.information.length < .ofNat reassembler.pendingFrame.information.length) :
      Completes reassembler frame { reassembler.pendingFrame with
        segmented := false
        information := reassembler.pendingFrame.information ++ frame.information }

theorem pushFrame_completes {reassembler : HdlcReassembler} {frame completed : HdlcFrameBuffer}
    (h : reassembler.Completes frame completed) :
    (reassembler.pushFrame frame).1=(.ok,some completed) := by
  cases h with
  | alone idle unsegmented fits => simp [pushFrame,idle,unsegmented,fits]
  | behind pending continues unsegmented fits =>
    simp [pushFrame,pending,continues,unsegmented,fits]

/-- A push gives a frame exactly when one completes. -/
theorem pushFrame_eq_some_iff {reassembler : HdlcReassembler} {frame completed : HdlcFrameBuffer} :
    (reassembler.pushFrame frame).1.2=some completed ↔ reassembler.Completes frame completed := by
  constructor
  · intro h
    unfold pushFrame at h
    dsimp only at h
    repeat' split at h
    all_goals cases h
    · rename_i hidle hfits hsegmented
      exact .alone (by simpa using hidle) (by simpa using hsegmented) hfits
    · rename_i hpending hcontinues hfits hsegmented
      exact .behind (by simpa using hpending) (by simpa using hcontinues) (by simpa using hsegmented)
        hfits
  · intro h
    rw [pushFrame_completes h]

/-- An incomplete segment in front of a run that completes once, with its last frame. -/
theorem machine_incomplete {reassembler next : HdlcReassembler} {frame : HdlcFrameBuffer}
    {completed : HdlcStatus × Option HdlcFrameBuffer} (hframes : frames≠[])
    (hpush : reassembler.pushFrame frame=((.segmentationIncomplete,none),next))
    (hrun : machine.outputs next frames=
        List.replicate (frames.length-1) (HdlcStatus.segmentationIncomplete,none) ++ [completed] ∧
      (machine.final next frames).hasPending=false) :
    machine.outputs reassembler (frame::frames)=
        List.replicate frames.length (HdlcStatus.segmentationIncomplete,none) ++ [completed] ∧
      (machine.final reassembler (frame::frames)).hasPending=false := by
  obtain ⟨houtputs,hfinal⟩ := hrun
  rw [Mealy.outputs_cons,Mealy.final_cons,machine_step,hpush]
  refine ⟨?_,hfinal⟩
  rw [houtputs]
  obtain ⟨frame,frames,rfl⟩ := List.exists_cons_of_ne_nil hframes
  simp [List.replicate_succ]

/-- The run on the segments that follow a pending first part. -/
theorem machine_segments_pending (limits : HdlcCodecLimits)
    (h : Segments baseFrame maximum payload frames) (held : List UInt8)
    (hlimit : held.length+payload.length ≤
      (effectiveMaximumReassembledInformationSize limits).toNat) :
    let pending := HdlcReassembler.mk limits true
      ⟨true,baseFrame.destination,baseFrame.source,baseFrame.control,held⟩
    machine.outputs pending frames=
        List.replicate (frames.length-1) (HdlcStatus.segmentationIncomplete,none) ++
          [(.ok,some ⟨false,baseFrame.destination,baseFrame.source,baseFrame.control,
            held ++ payload⟩)] ∧
      (machine.final pending frames).hasPending=false := by
  induction h generalizing held with
  | last le =>
    have hpush := pushFrame_continue ⟨limits,true,⟨true,baseFrame.destination,
      baseFrame.source,baseFrame.control,held⟩⟩ ⟨false,baseFrame.destination,
      baseFrame.source,baseFrame.control,_⟩ rfl
      (by simp [continues,sameAddress,compatibleFrameType]) hlimit
    simp [hpush,reset]
  | @more chunk rest frames full nonempty tail ih =>
    rw [List.length_append] at hlimit
    have hpush := pushFrame_continue ⟨limits,true,⟨true,baseFrame.destination,
      baseFrame.source,baseFrame.control,held⟩⟩ ⟨true,baseFrame.destination,
      baseFrame.source,baseFrame.control,chunk⟩ rfl
      (by simp [continues,sameAddress,compatibleFrameType])
      (by dsimp only; omega)
    have hrun := ih (held ++ chunk) (by rw [List.length_append]; omega)
    rw [List.append_assoc] at hrun
    exact machine_incomplete tail.ne_nil hpush hrun

/-- Nothing pending before the segments of a payload, nothing pending after them. -/
theorem machine_segments {reassembler : HdlcReassembler} (hidle : reassembler.hasPending=false)
    (h : Segments baseFrame maximum payload frames)
    (hlimit : payload.length ≤
      (effectiveMaximumReassembledInformationSize reassembler.limits).toNat) :
    machine.outputs reassembler frames=
        List.replicate (frames.length-1) (HdlcStatus.segmentationIncomplete,none) ++
          [(.ok,some ⟨false,baseFrame.destination,baseFrame.source,baseFrame.control,payload⟩)] ∧
      (machine.final reassembler frames).hasPending=false := by
  cases h with
  | last le =>
    have hpush := pushFrame_idle reassembler ⟨false,baseFrame.destination,baseFrame.source,
      baseFrame.control,payload⟩ hidle hlimit
    simp [hpush,hidle]
  | @more chunk rest frames full nonempty tail =>
    have hlength := hlimit
    rw [List.length_append] at hlength
    have hpush := pushFrame_idle reassembler ⟨true,baseFrame.destination,baseFrame.source,
      baseFrame.control,chunk⟩ hidle (by dsimp only; omega)
    have hrun := machine_segments_pending reassembler.limits tail chunk hlength
    exact machine_incomplete tail.ne_nil hpush hrun

end HdlcReassembler

/-- Segmenting a payload and reassembling the segments: the chunk loop and the accumulating
state machine agree at every payload length and every limit. -/
theorem segmentInformation_reassembled (limits : HdlcCodecLimits) (baseFrame : HdlcFrame)
    (information : Pointer) (informationSize : ℕ)
    (hinformation : (information.read informationSize).length=informationSize)
    (hlimit : informationSize ≤ (effectiveMaximumReassembledInformationSize limits).toNat) :
    ∃ frames, (HdlcSegmenter.mk ⟨limits⟩).segmentInformation baseFrame information
        informationSize=.ok frames ∧ frames≠[] ∧
      (∀ frame ∈ frames, frame.destination=baseFrame.destination ∧
        frame.source=baseFrame.source ∧ frame.control=baseFrame.control) ∧
      frames.flatMap HdlcFrameBuffer.information=information.read informationSize ∧
      (∀ frame ∈ frames, frame.information.length ≤
        (HdlcSegmenter.effectiveMaximumInformationFieldSize limits).toNat) ∧
      (∀ frame ∈ frames.dropLast, frame.segmented=true ∧ frame.information.length=
        (HdlcSegmenter.effectiveMaximumInformationFieldSize limits).toNat) ∧
      (∀ frame ∈ frames.getLast?, frame.segmented=false ∧
        (frame.information=[] → information.read informationSize=[])) ∧
      ∀ reassembler : HdlcReassembler, reassembler.limits=limits →
        reassembler.hasPending=false →
        HdlcReassembler.machine.outputs reassembler frames=
            List.replicate (frames.length-1) (.segmentationIncomplete,none) ++
              [(.ok,some ⟨false,baseFrame.destination,baseFrame.source,baseFrame.control,
                information.read informationSize⟩)] ∧
          (HdlcReassembler.machine.final reassembler frames).hasPending=false := by
  obtain ⟨frames,hframes,hsegments⟩ :=
    HdlcSegmenter.segmentInformation_segments ⟨⟨limits⟩⟩ baseFrame hinformation
  refine ⟨frames,hframes,hsegments.ne_nil,hsegments.metadata,hsegments.flatMap_information,
    hsegments.information_length_le,hsegments.dropLast_full,hsegments.getLast_final,?_⟩
  rintro reassembler rfl hidle
  apply HdlcReassembler.machine_segments hidle hsegments
  rw [hinformation]
  exact hlimit

/-- Five bytes in segments of two fill a reassembler whose limit is five. -/
theorem segmentInformation_reassembled_five :
    ∃ frames, (HdlcSegmenter.mk ⟨⟨0,2,5⟩⟩).segmentInformation default (some [1,2,3,4,5]) 5=
        .ok frames ∧
      frames.flatMap HdlcFrameBuffer.information=[1,2,3,4,5] ∧
      HdlcReassembler.machine.outputs (.new ⟨0,2,5⟩) frames=
        List.replicate (frames.length-1) (.segmentationIncomplete,none) ++
          [(.ok,some ⟨false,default,default,default,[1,2,3,4,5]⟩)] := by
  obtain ⟨frames,hframes,_,_,hconcat,_,_,_,hrun⟩ := segmentInformation_reassembled ⟨0,2,5⟩ default
    (some [1,2,3,4,5]) 5 rfl (by decide)
  exact ⟨frames,hframes,hconcat,(hrun (.new ⟨0,2,5⟩) rfl rfl).1⟩

end DlmsHdlc
