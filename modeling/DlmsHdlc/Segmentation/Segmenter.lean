import DlmsHdlc.Frame

/-! Encoder-side segmentation of an Information payload, and the shape of what it produces. -/
namespace DlmsHdlc

structure HdlcSegmentationOptions where
  limits : HdlcCodecLimits
  deriving DecidableEq, Repr

structure HdlcSegmenter where
  options : HdlcSegmentationOptions
  deriving DecidableEq, Repr

/-- A frame with the metadata of `baseFrame` and the first `informationSize` bytes. -/
def makeFrameBuffer (baseFrame : HdlcFrame) (segmented : Bool) (information : List UInt8)
    (informationSize : ℕ) : HdlcFrameBuffer where
  segmented := segmented
  destination := baseFrame.destination
  source := baseFrame.source
  control := baseFrame.control
  information := if informationSize≠0 then information.take informationSize else []

namespace HdlcSegmenter

/-- Unlike the codec's, this default does not look at the addresses. -/
def effectiveMaximumInformationFieldSize (limits : HdlcCodecLimits) : UInt64 :=
  if limits.maximumInformationFieldSize=0 then 2030 else limits.maximumInformationFieldSize

/-- The chunk loop, from `offset` on. -/
def segmentLoop (baseFrame : HdlcFrame) (information : List UInt8) (informationSize : ℕ)
    (maximum : ℕ) (hmaximum : 0 < maximum) (offset : ℕ) : List HdlcFrameBuffer :=
  if offset < informationSize then
    let remaining := informationSize - offset
    let chunkSize := min maximum remaining
    let hasMore := decide (offset+chunkSize < informationSize)
    makeFrameBuffer baseFrame hasMore (information.drop offset) chunkSize ::
      segmentLoop baseFrame information informationSize maximum hmaximum (offset+chunkSize)
  else []
termination_by informationSize - offset

/-- The output vector, empty on failure. Allocation succeeds, with no more segments and bytes than
vectors can hold, and `InternalError` is left out. -/
def segmentInformation (segmenter : HdlcSegmenter) (baseFrame : HdlcFrame)
    (information : Pointer) (informationSize : ℕ) : Except HdlcStatus (List HdlcFrameBuffer) :=
  if information=none ∧ informationSize≠0 then .error .invalidArgument
  else
    let maximum := (effectiveMaximumInformationFieldSize segmenter.options.limits).toNat
    if h : maximum=0 then .error .invalidArgument
    else if informationSize ≤ maximum then
      .ok [makeFrameBuffer baseFrame false (information.getD []) informationSize]
    else
      .ok (segmentLoop baseFrame (information.getD []) informationSize maximum
        (Nat.pos_of_ne_zero h) 0)

theorem effectiveMaximumInformationFieldSize_pos (limits : HdlcCodecLimits) :
    0 < (effectiveMaximumInformationFieldSize limits).toNat := by
  apply Nat.pos_of_ne_zero
  rw [ne_eq,← UInt64.toNat_zero,UInt64.toNat_inj,effectiveMaximumInformationFieldSize]
  split
  · decide
  · assumption

end HdlcSegmenter

/-- The segments of a payload: full ones that announce more, and a last one that does not and is
empty for the empty payload only. -/
inductive Segments (baseFrame : HdlcFrame) (maximum : ℕ) :
    List UInt8 → List HdlcFrameBuffer → Prop
  | last {chunk : List UInt8} (le : chunk.length ≤ maximum) :
      Segments baseFrame maximum chunk [⟨false,baseFrame.destination,baseFrame.source,
        baseFrame.control,chunk⟩]
  | more {chunk rest : List UInt8} {frames : List HdlcFrameBuffer}
      (full : chunk.length=maximum) (nonempty : rest≠[])
      (tail : Segments baseFrame maximum rest frames) :
      Segments baseFrame maximum (chunk ++ rest) (⟨true,baseFrame.destination,baseFrame.source,
        baseFrame.control,chunk⟩::frames)

theorem makeFrameBuffer_take (baseFrame : HdlcFrame) (segmented : Bool)
    (information : List UInt8) (informationSize : ℕ) :
    makeFrameBuffer baseFrame segmented information informationSize=
      ⟨segmented,baseFrame.destination,baseFrame.source,baseFrame.control,
        information.take informationSize⟩ := by
  unfold makeFrameBuffer
  split
  · rfl
  · rename_i h
    rw [not_ne_iff.mp h,List.take_zero]

namespace Segments
variable {baseFrame : HdlcFrame} {maximum : ℕ} {payload : List UInt8}
  {frames : List HdlcFrameBuffer}

theorem ne_nil (h : Segments baseFrame maximum payload frames) : frames≠[] := by
  cases h <;> simp

theorem metadata (h : Segments baseFrame maximum payload frames) :
    ∀ frame ∈ frames, frame.destination=baseFrame.destination ∧
      frame.source=baseFrame.source ∧ frame.control=baseFrame.control := by
  induction h with
  | last => simp
  | more full nonempty tail ih => simpa using ih

theorem flatMap_information (h : Segments baseFrame maximum payload frames) :
    frames.flatMap HdlcFrameBuffer.information=payload := by
  induction h with
  | last => simp
  | more full nonempty tail ih => simp [ih]

theorem information_length_le (h : Segments baseFrame maximum payload frames) :
    ∀ frame ∈ frames, frame.information.length ≤ maximum := by
  induction h with
  | last le => simpa using le
  | more full nonempty tail ih => simpa [full] using ih

theorem dropLast_full (h : Segments baseFrame maximum payload frames) :
    ∀ frame ∈ frames.dropLast, frame.segmented=true ∧ frame.information.length=maximum := by
  induction h with
  | last => simp
  | more full nonempty tail ih =>
    intro frame hframe
    rw [List.dropLast_cons_of_ne_nil tail.ne_nil,List.mem_cons] at hframe
    obtain rfl | hframe := hframe
    · exact ⟨rfl,full⟩
    · exact ih frame hframe

theorem getLast_final (h : Segments baseFrame maximum payload frames) :
    ∀ frame ∈ frames.getLast?, frame.segmented=false ∧
      (frame.information=[] → payload=[]) := by
  induction h with
  | last => simp
  | more full nonempty tail ih =>
    intro frame hframe
    rw [List.getLast?_cons_of_ne_nil tail.ne_nil] at hframe
    obtain ⟨hsegmented,hempty⟩ := ih frame hframe
    exact ⟨hsegmented,fun hi => absurd (hempty hi) nonempty⟩

end Segments

namespace HdlcSegmenter

/-- From an offset inside the payload the loop produces the segments of what is left. -/
theorem segmentLoop_segments (baseFrame : HdlcFrame) {information : List UInt8}
    {informationSize maximum : ℕ} (hsize : informationSize ≤ information.length)
    (hmaximum : 0 < maximum) (offset : ℕ) (h : offset < informationSize) :
    Segments baseFrame maximum ((information.drop offset).take (informationSize-offset))
      (segmentLoop baseFrame information informationSize maximum hmaximum offset) := by
  rw [segmentLoop,if_pos h]
  dsimp only
  rw [makeFrameBuffer_take]
  by_cases hmore : offset+min maximum (informationSize-offset) < informationSize
  · have hmin : min maximum (informationSize-offset)=maximum := by omega
    rw [hmin] at hmore ⊢
    have hrest := segmentLoop_segments baseFrame hsize hmaximum (offset+maximum) hmore
    have hsplit : (information.drop offset).take (informationSize-offset)=
        (information.drop offset).take maximum ++
          (information.drop (offset+maximum)).take (informationSize-(offset+maximum)) := by
      rw [← List.drop_drop,← List.take_add]
      congr 1
      omega
    rw [decide_eq_true hmore,hsplit]
    refine .more ?_ ?_ hrest
    · rw [List.length_take,List.length_drop]
      omega
    · apply List.ne_nil_of_length_pos
      rw [List.length_take,List.length_drop]
      omega
  · have hmin : min maximum (informationSize-offset)=informationSize-offset := by omega
    rw [decide_eq_false hmore,segmentLoop,if_neg hmore,hmin]
    apply Segments.last
    rw [List.length_take]
    omega
termination_by informationSize-offset

/-- A payload behind a good pointer is always segmented. -/
theorem segmentInformation_segments (segmenter : HdlcSegmenter) (baseFrame : HdlcFrame)
    {information : Pointer} {informationSize : ℕ}
    (h : (information.read informationSize).length=informationSize) :
    ∃ frames, segmenter.segmentInformation baseFrame information informationSize=.ok frames ∧
      Segments baseFrame (effectiveMaximumInformationFieldSize segmenter.options.limits).toNat
        (information.read informationSize) frames := by
  have hpos := effectiveMaximumInformationFieldSize_pos segmenter.options.limits
  have hnull : ¬ (information=none ∧ informationSize≠0) := by
    rintro ⟨rfl,hsize⟩
    apply hsize
    rw [← h,Pointer.read_none,List.length_nil]
  unfold segmentInformation
  rw [if_neg hnull]
  dsimp only
  rw [dif_neg (Nat.ne_of_gt hpos)]
  by_cases hle : informationSize ≤
    (effectiveMaximumInformationFieldSize segmenter.options.limits).toNat
  · rw [if_pos hle]
    refine ⟨_,rfl,?_⟩
    rw [makeFrameBuffer_take]
    apply Segments.last
    exact h.trans_le hle
  · rw [if_neg hle]
    refine ⟨_,rfl,?_⟩
    have hsize : informationSize ≤ (information.getD []).length := by
      rw [Pointer.read,List.length_take] at h
      omega
    exact segmentLoop_segments baseFrame hsize hpos 0 (by omega)

end HdlcSegmenter
end DlmsHdlc
