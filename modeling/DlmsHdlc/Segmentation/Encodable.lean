import DlmsHdlc.Codec.RoundTrip
import DlmsHdlc.Segmentation.Segmenter

/-! Which segments the encoder takes under the limits they were cut for. -/
namespace DlmsHdlc
namespace HdlcFrameBuffer

theorem encodeFrame_view_ok_iff {frame : HdlcFrameBuffer} (h : frame.information.length < 2^63)
    (limits : HdlcCodecLimits) :
    (∃ bytes, encodeFrame frame.view limits=.ok bytes) ↔ frame.Fits limits := by
  simp only [encodeFrame_eq_ok_iff (view_wellFormed h),toBuffer_view (Nat.lt_trans h (by decide)),
    exists_and_left,exists_eq,and_true]

/-- A shorter frame between the same addresses fits as well. -/
theorem Fits.shorter {frame other : HdlcFrameBuffer} {limits : HdlcCodecLimits}
    (h : frame.Fits limits) (destination : other.destination=frame.destination)
    (source : other.source=frame.source)
    (le : other.information.length ≤ frame.information.length) : other.Fits limits := by
  have hlength : other.formatLength ≤ frame.formatLength := by
    have hpad : (if other.information=[] then 0 else 2) ≤
        if frame.information=[] then 0 else 2 := by
      split
      · exact Nat.zero_le _
      · rename_i hother
        have hpos := List.length_pos_of_ne_nil hother
        rw [if_neg (List.ne_nil_of_length_pos (by omega))]
    simp only [formatLength,destination,source]
    omega
  refine ⟨?_,hlength.trans h.format_le,(Nat.add_le_add_right hlength 2).trans h.frame_le⟩
  rw [destination,source]
  exact le.trans h.information_le

end HdlcFrameBuffer

/-- The Information length of the longest segment. -/
def longestSegment (limits : HdlcCodecLimits) (informationSize : ℕ) : ℕ :=
  min (HdlcSegmenter.effectiveMaximumInformationFieldSize limits).toNat informationSize

/-- The frame of the longest segment is within the Format Field and the frame size. -/
def LongestSegmentFits (baseFrame : HdlcFrame) (limits : HdlcCodecLimits)
    (informationSize : ℕ) : Prop :=
  let length := 5+baseFrame.destination.encodedSize+baseFrame.source.encodedSize+
    (if longestSegment limits informationSize=0 then 0 else 2)+
      longestSegment limits informationSize
  length ≤ 2047 ∧ length+2 ≤ (effectiveMaximumFrameSize limits).toNat

/-- The information limit of the encoder never refuses what the segmenter's own limit and the frame
size allow. -/
theorem longestSegment_le {limits : HdlcCodecLimits} {destination source : HdlcAddress}
    {informationSize : ℕ}
    (hframe : longestSegment limits informationSize≠0 →
      9+destination.encodedSize+source.encodedSize+longestSegment limits informationSize ≤
        (effectiveMaximumFrameSize limits).toNat) :
    longestSegment limits informationSize ≤
      (effectiveMaximumInformationFieldSize destination source limits).toNat := by
  by_cases hzero : limits.maximumInformationFieldSize=0
  · rw [effectiveMaximumInformationFieldSize_toNat hzero]
    by_cases hempty : longestSegment limits informationSize=0
    · omega
    · have hle := hframe hempty
      omega
  · refine (Nat.min_le_left _ _).trans ?_
    rw [HdlcSegmenter.effectiveMaximumInformationFieldSize,effectiveMaximumInformationFieldSize,
      if_neg hzero,if_pos hzero]

theorem fits_longestSegment_iff {baseFrame : HdlcFrame} {limits : HdlcCodecLimits}
    {informationSize : ℕ} {frame : HdlcFrameBuffer}
    (destination : frame.destination=baseFrame.destination)
    (source : frame.source=baseFrame.source)
    (length : frame.information.length=longestSegment limits informationSize) :
    frame.Fits limits ↔ LongestSegmentFits baseFrame limits informationSize := by
  have hempty : frame.information=[] ↔ longestSegment limits informationSize=0 := by
    rw [← length,List.length_eq_zero_iff]
  have hformat : frame.formatLength=5+baseFrame.destination.encodedSize+
      baseFrame.source.encodedSize+
      (if longestSegment limits informationSize=0 then 0 else 2)+
        longestSegment limits informationSize := by
    simp only [HdlcFrameBuffer.formatLength,destination,source,length,hempty]
  constructor
  · intro hfits
    unfold LongestSegmentFits
    rw [← hformat]
    exact ⟨hfits.format_le,hfits.frame_le⟩
  · rintro ⟨hle,hframe⟩
    rw [← hformat] at hle hframe
    refine ⟨?_,hle,hframe⟩
    rw [length,destination,source]
    apply longestSegment_le
    intro hpos
    rw [hformat,if_neg hpos] at hframe
    omega

/-- The first segment is a longest one. -/
theorem Segments.head {baseFrame : HdlcFrame} {maximum : ℕ} {payload : List UInt8}
    {frames : List HdlcFrameBuffer} (h : Segments baseFrame maximum payload frames) :
    ∃ frame ∈ frames, frame.information.length=min maximum payload.length := by
  cases h with
  | last le => exact ⟨_,List.mem_cons_self,(Nat.min_eq_right le).symm⟩
  | more full nonempty tail =>
    refine ⟨_,List.mem_cons_self,?_⟩
    rw [List.length_append,full,Nat.min_eq_left (Nat.le_add_right _ _)]

theorem Segments.length_le {baseFrame : HdlcFrame} {maximum : ℕ} {payload : List UInt8}
    {frames : List HdlcFrameBuffer} (h : Segments baseFrame maximum payload frames) :
    ∀ frame ∈ frames, frame.information.length ≤ min maximum payload.length := by
  induction h with
  | last le =>
    intro frame hframe
    cases List.mem_singleton.mp hframe
    exact Nat.le_min.mpr ⟨le,Nat.le_refl _⟩
  | more full nonempty tail ih =>
    intro frame hframe
    rw [List.length_append]
    obtain rfl | hframe := List.mem_cons.mp hframe
    · dsimp only
      omega
    · have hle := ih frame hframe
      omega

/-- Every frame the segmenter produces can be encoded under the limits of the segmenter exactly
when the frame of the longest segment is within the Format Field and the frame size. -/
theorem segments_encodable_iff {segmenter : HdlcSegmenter} {baseFrame : HdlcFrame}
    {information : Pointer} {informationSize : ℕ} (hsize : informationSize < 2^63)
    (hread : (information.read informationSize).length=informationSize)
    {frames : List HdlcFrameBuffer}
    (segmented : segmenter.segmentInformation baseFrame information informationSize=.ok frames) :
    (∀ frame ∈ frames, ∃ bytes, encodeFrame frame.view segmenter.options.limits=.ok bytes) ↔
      LongestSegmentFits baseFrame segmenter.options.limits informationSize := by
  obtain ⟨frames',hframes,hsegments⟩ := segmenter.segmentInformation_segments baseFrame hread
  cases segmented.symm.trans hframes
  have hle := hsegments.length_le
  have hmetadata := hsegments.metadata
  obtain ⟨first,hfirst,hlongest⟩ := hsegments.head
  rw [hread] at hlongest hle
  change _=longestSegment segmenter.options.limits informationSize at hlongest
  obtain ⟨hdestination,hsource,_⟩ := hmetadata first hfirst
  have hfits := fits_longestSegment_iff hdestination hsource hlongest
  have hencode : ∀ frame ∈ frames, (∃ bytes, encodeFrame frame.view segmenter.options.limits=
      .ok bytes) ↔ frame.Fits segmenter.options.limits := by
    intro frame hframe
    apply HdlcFrameBuffer.encodeFrame_view_ok_iff
    exact (hle frame hframe).trans_lt ((Nat.min_le_right _ _).trans_lt hsize)
  constructor
  · intro hall
    exact hfits.mp ((hencode first hfirst).mp (hall first hfirst))
  · intro hlongestFits frame hframe
    obtain ⟨hdestination',hsource',_⟩ := hmetadata frame hframe
    apply (hencode frame hframe).mpr
    apply (hfits.mpr hlongestFits).shorter
    · rw [hdestination',hdestination]
    · rw [hsource',hsource]
    · rw [hlongest]
      exact hle frame hframe

/-- A segmenter with a frame size only. -/
def frameSizeSegmenter (maximumFrameSize : UInt64) : HdlcSegmenter := ⟨⟨⟨maximumFrameSize,0,0⟩⟩⟩

/-- A base frame between one-byte addresses. -/
def sampleBase : HdlcFrame :=
  { sampleFrame with informationData := none, informationSize := 0 }

def sampleSegment (information : List UInt8) : HdlcFrameBuffer :=
  ⟨false,sampleBase.destination,sampleBase.source,sampleBase.control,information⟩

theorem segments_encodable_iff_sample :
    (∀ frame ∈ [sampleSegment [1,2,3]], ∃ bytes,
        encodeFrame frame.view (frameSizeSegmenter 16).options.limits=.ok bytes) ↔
      LongestSegmentFits sampleBase (frameSizeSegmenter 16).options.limits 3 := by
  have segmented : (frameSizeSegmenter 16).segmentInformation sampleBase (some [1,2,3]) 3=
      .ok [sampleSegment [1,2,3]] := rfl
  exact segments_encodable_iff (by decide) rfl segmented

/-- Under a frame size of 16 the segmenter leaves eight bytes in one frame, of which the encoder
takes five. -/
theorem frameSize_refuses_segment :
    (frameSizeSegmenter 16).segmentInformation sampleBase (some [1,2,3,4,5,6,7,8]) 8=
        .ok [sampleSegment [1,2,3,4,5,6,7,8]] ∧
      ¬ ∃ bytes, encodeFrame (sampleSegment [1,2,3,4,5,6,7,8]).view
        (frameSizeSegmenter 16).options.limits=.ok bytes := by
  refine ⟨rfl,?_⟩
  have hsize : (sampleSegment [1,2,3,4,5,6,7,8]).information.length < 2^63 := by decide
  rw [HdlcFrameBuffer.encodeFrame_view_ok_iff hsize]
  intro hfits
  exact absurd hfits.frame_le (by decide)

end DlmsHdlc
