import DlmsHdlc.Go.Agreement
import DlmsHdlc.Segmentation.Segmenter

/-! The Go segmenter. It cuts a payload as the C++ one does. -/
namespace DlmsHdlc.Go

structure SegmentationOptions where
  limits : CodecLimits
  deriving DecidableEq, Repr

structure Segmenter where
  options : SegmentationOptions
  deriving DecidableEq, Repr

namespace Segmenter

def newSegmenter (opts : SegmentationOptions) : Segmenter := ⟨opts⟩

def effectiveMaxInfo (s : Segmenter) : UInt64 :=
  if s.options.limits.maximumInformationFieldSize=0 then 2030
  else s.options.limits.maximumInformationFieldSize

/-- The chunk loop, from `offset` on. It runs for slices longer than `maxInfo` only, so that
`int(maxInfo)` is exact. -/
def segmentLoop (baseFrame : Frame) (information : List UInt8) (maxInfo : ℕ) (h : 0 < maxInfo)
    (offset : ℕ) : List Frame :=
  if offset < information.length then
    let remaining := information.length - offset
    let chunkSize := if remaining < maxInfo then remaining else maxInfo
    let hasMore := decide (offset+chunkSize < information.length)
    let chunk := (information.take (offset+chunkSize)).drop offset
    { baseFrame with segmented := hasMore, information := chunk } ::
      segmentLoop baseFrame information maxInfo h (offset+chunkSize)
  else []
termination_by information.length - offset
decreasing_by split <;> omega

/-- The output slice, or the error. -/
def segment (s : Segmenter) (baseFrame : Frame) (information : List UInt8) :
    Except HdlcStatus (List Frame) :=
  let maxInfo := s.effectiveMaxInfo
  if h : maxInfo.toNat=0 then .error .invalidArgument
  else if .ofNat information.length ≤ maxInfo then
    .ok [{ baseFrame with segmented := false, information := information }]
  else .ok (segmentLoop baseFrame information maxInfo.toNat (Nat.pos_of_ne_zero h) 0)

theorem effectiveMaxInfo_eq (limits : HdlcCodecLimits) :
    (newSegmenter ⟨ofLimits limits⟩).effectiveMaxInfo=
      HdlcSegmenter.effectiveMaximumInformationFieldSize limits := rfl

/-- The two loops cut alike: this one has the bytes in a slice, the other one behind a pointer. -/
theorem segmentLoop_eq (baseFrame : HdlcFrame) {information : List UInt8} {informationSize : ℕ}
    (hsize : informationSize ≤ information.length) {maximum : ℕ} (hmaximum : 0 < maximum)
    (offset : ℕ) :
    segmentLoop (ofFrame baseFrame.toBuffer) (information.take informationSize) maximum hmaximum
        offset=
      (HdlcSegmenter.segmentLoop baseFrame information informationSize maximum hmaximum offset).map
        ofFrame := by
  have hlength : (information.take informationSize).length=informationSize := by
    rw [List.length_take,Nat.min_eq_left hsize]
  rw [segmentLoop,HdlcSegmenter.segmentLoop,hlength]
  by_cases hoffset : offset < informationSize
  · rw [if_pos hoffset,if_pos hoffset]
    dsimp only
    have hchunk : (if informationSize-offset < maximum then informationSize-offset else maximum)=
        min maximum (informationSize-offset) := by
      split <;> omega
    rw [hchunk,List.map_cons,makeFrameBuffer_take,
      segmentLoop_eq baseFrame hsize hmaximum (offset+min maximum (informationSize-offset))]
    have hbytes : ((information.take informationSize).take
          (offset+min maximum (informationSize-offset))).drop offset=
        (information.drop offset).take (min maximum (informationSize-offset)) := by
      rw [List.take_take,Nat.min_eq_left (by omega),List.drop_take,Nat.add_sub_cancel_left]
    rw [hbytes]
    rfl
  · rw [if_neg hoffset,if_neg hoffset]
    rfl
termination_by informationSize-offset

/-- Every payload behind a good pointer is segmented alike by both libraries. -/
theorem segment_eq (limits : HdlcCodecLimits) (baseFrame : HdlcFrame) {information : Pointer}
    {informationSize : ℕ} (hsize : informationSize < 2^63)
    (hread : (information.read informationSize).length=informationSize) :
    (newSegmenter ⟨ofLimits limits⟩).segment (ofFrame baseFrame.toBuffer)
        (information.read informationSize)=
      ((HdlcSegmenter.mk ⟨limits⟩).segmentInformation baseFrame information informationSize).map
        (List.map ofFrame) := by
  have hpos := HdlcSegmenter.effectiveMaximumInformationFieldSize_pos limits
  have hnull : ¬ (information=none ∧ informationSize≠0) := by
    rintro ⟨rfl,hne⟩
    apply hne
    rw [← hread,Pointer.read_none,List.length_nil]
  have hle : UInt64.ofNat informationSize ≤
      (newSegmenter ⟨ofLimits limits⟩).effectiveMaxInfo ↔
      informationSize ≤ (HdlcSegmenter.effectiveMaximumInformationFieldSize limits).toNat := by
    rw [UInt64.le_iff_toNat_le,UInt64.toNat_ofNat',Nat.mod_eq_of_lt (by omega),effectiveMaxInfo_eq]
  have hbytes : information.read informationSize=(information.getD []).take informationSize := rfl
  have hroom : informationSize ≤ (information.getD []).length := by
    rw [hbytes,List.length_take] at hread
    omega
  have hnonzero : (newSegmenter ⟨ofLimits limits⟩).effectiveMaxInfo.toNat≠0 := hpos.ne'
  unfold segment HdlcSegmenter.segmentInformation
  rw [if_neg hnull]
  dsimp only
  rw [dif_neg hnonzero,dif_neg hpos.ne',hread]
  by_cases hfits : informationSize ≤
      (HdlcSegmenter.effectiveMaximumInformationFieldSize limits).toNat
  · rw [if_pos hfits,if_pos (hle.mpr hfits),makeFrameBuffer_take]
    rfl
  · have hloop := segmentLoop_eq baseFrame hroom hpos 0
    rw [if_neg hfits,if_neg (mt hle.mp hfits)]
    exact congrArg Except.ok hloop

end Segmenter
end DlmsHdlc.Go
