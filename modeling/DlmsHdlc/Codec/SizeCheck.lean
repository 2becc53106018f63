import DlmsHdlc.Codec.RoundTrip

/-! The size checks of the encoder, on sizes that may wrap modulo 2^64. -/
namespace DlmsHdlc

/-- The length of the frame as an unbounded number: flags, format, addresses, control, both check
sequences and Information. -/
def exactFrameSize (frame : HdlcFrame) : ℕ :=
  7 + frame.destination.encodedSize + frame.source.encodedSize +
    (if frame.informationSize≠0 then 2 else 0) + frame.informationSize.toNat

/-- `EncodeFrameToBuffer` gets behind its checks, to its first write. -/
def StartsWriting (frame : HdlcFrame) (limits : HdlcCodecLimits) (output : Pointer)
    (outputSize : ℕ) : Prop :=
  output≠none ∧ ¬ (frame.informationData=none ∧ frame.informationSize≠0) ∧
    ∃ formatFieldLength, checkFrameSize frame limits outputSize=.ok formatFieldLength

theorem checkFrameSize_error {frame : HdlcFrame} {limits : HdlcCodecLimits} {outputSize : ℕ}
    {status : HdlcStatus} (h : checkFrameSize frame limits outputSize=.error status) :
    status≠.ok := by
  simp only [checkFrameSize] at h
  repeat' split at h
  all_goals cases h
  all_goals decide

/-- Where it does not, nothing is written. -/
theorem encodeFrameToBuffer_of_not_startsWriting {frame : HdlcFrame} {limits : HdlcCodecLimits}
    {output : Pointer} {outputSize : ℕ} (h : ¬ StartsWriting frame limits output outputSize) :
    ∃ status, status≠.ok ∧
      encodeFrameToBuffer frame limits output outputSize=(status,output,0) := by
  cases output with
  | none => exact ⟨.invalidArgument,by decide,rfl⟩
  | some buffer =>
    by_cases hnull : frame.informationData=none ∧ frame.informationSize≠0
    · refine ⟨.invalidArgument,by decide,?_⟩
      simp only [encodeFrameToBuffer]
      rw [if_pos hnull]
    cases hcheck : checkFrameSize frame limits outputSize with
    | ok formatFieldLength => exact absurd ⟨by simp,hnull,_,hcheck⟩ h
    | error status =>
      refine ⟨status,checkFrameSize_error hcheck,?_⟩
      simp only [encodeFrameToBuffer]
      rw [if_neg hnull,hcheck]

/-- The sum that the encoder compares. -/
theorem fullFrameSize_toNat (frame : HdlcFrame) :
    (headerSize frame.destination frame.source + (if frame.informationSize≠0 then 2 else 0) +
      frame.informationSize + 2).toNat=(exactFrameSize frame-2)%2^64 := by
  have hd := frame.destination.encodedSize_cases
  have hs := frame.source.encodedSize_cases
  rw [UInt64.toNat_add,UInt64.toNat_add,UInt64.toNat_add,headerSize_toNat,exactFrameSize]
  split
  · change (((_+2)%2^64+_)%2^64+2)%2^64=_
    omega
  · change (((_+0)%2^64+_)%2^64+2)%2^64=_
    omega

/-- The sum has wrapped to a small number, which passes the checks, and the configured limit on the
Information lets its size pass. -/
structure Wraps (frame : HdlcFrame) (limits : HdlcCodecLimits) (output : Pointer)
    (outputSize : ℕ) : Prop where
  output_nonnull : output≠none
  data_nonnull : frame.informationData≠none
  wrapped : 2^64+2 ≤ exactFrameSize frame
  information_le : frame.informationSize ≤ limits.maximumInformationFieldSize
  frame_le : exactFrameSize frame-2^64 ≤ (effectiveMaximumFrameSize limits).toNat
  output_le : exactFrameSize frame-2^64 ≤ outputSize

variable {frame : HdlcFrame} {limits : HdlcCodecLimits} {output : Pointer} {outputSize : ℕ}

/-- The checks on wrapped sums. -/
theorem checkFrameSize_ok_iff :
    (∃ formatFieldLength, checkFrameSize frame limits outputSize=.ok formatFieldLength) ↔
      frame.informationSize ≤
        effectiveMaximumInformationFieldSize frame.destination frame.source limits ∧
      (exactFrameSize frame-2)%2^64 ≤ 2047 ∧
      (exactFrameSize frame-2)%2^64+2 ≤ (effectiveMaximumFrameSize limits).toNat ∧
      (exactFrameSize frame-2)%2^64+2 ≤ outputSize := by
  have hmax : kMaximumFormatFieldLength.toNat=2047 := rfl
  have hlength := fullFrameSize_toNat frame
  simp only [checkFrameSize]
  generalize headerSize frame.destination frame.source +
    (if frame.informationSize≠0 then 2 else 0) + frame.informationSize + 2=length at hlength ⊢
  simp only [ite_error_eq_ok,Except.ok.injEq,UInt64.not_lt,Nat.not_lt,UInt64.le_iff_toNat_le,hmax,
    hlength]
  have hfull (h : (exactFrameSize frame-2)%2^64 ≤ 2047) :
      (length+2).toNat=(exactFrameSize frame-2)%2^64+2 := by
    rw [UInt64.toNat_add,hlength]
    change (_+2)%2^64=_
    omega
  constructor
  · rintro ⟨_,hinformation,hformat,hframe,houtput,_⟩
    rw [hfull hformat] at hframe houtput
    exact ⟨hinformation,hformat,hframe,houtput⟩
  · rintro ⟨hinformation,hformat,hframe,houtput⟩
    refine ⟨length,hinformation,hformat,?_,?_,rfl⟩
    · rwa [hfull hformat]
    · rwa [hfull hformat]

/-- Without an explicit limit the Information is too large before anything wraps. -/
theorem le_maximumInformationFieldSize (hwrapped : 2^64 ≤ exactFrameSize frame) :
    frame.informationSize ≤
        effectiveMaximumInformationFieldSize frame.destination frame.source limits ↔
      frame.informationSize ≤ limits.maximumInformationFieldSize := by
  have hd := frame.destination.encodedSize_cases
  have hs := frame.source.encodedSize_cases
  have hlarge : 2^64 ≤ 9+frame.destination.encodedSize+frame.source.encodedSize+
      frame.informationSize.toNat := by
    unfold exactFrameSize at hwrapped
    split at hwrapped <;> omega
  by_cases hzero : limits.maximumInformationFieldSize=0
  · have hlt := (effectiveMaximumFrameSize limits).toNat_lt
    rw [UInt64.le_iff_toNat_le,UInt64.le_iff_toNat_le,
      effectiveMaximumInformationFieldSize_toNat hzero,hzero,UInt64.toNat_zero]
    omega
  · unfold effectiveMaximumInformationFieldSize
    rw [if_pos hzero]

/-- Behind the checks the frame is as long as they have seen it, or longer by 2^64. -/
theorem startsWriting_cases (h : StartsWriting frame limits output outputSize) :
    exactFrameSize frame ≤ 2049 ∧
        exactFrameSize frame ≤ (effectiveMaximumFrameSize limits).toNat ∧
        exactFrameSize frame ≤ outputSize ∨
      Wraps frame limits output outputSize := by
  obtain ⟨hnonnull,hdata,hcheck⟩ := h
  obtain ⟨hinformation,hformat,hframe,houtput⟩ := checkFrameSize_ok_iff.mp hcheck
  have hd := frame.destination.encodedSize_cases
  have hs := frame.source.encodedSize_cases
  have hlt := frame.informationSize.toNat_lt
  have hleast : 9 ≤ exactFrameSize frame := by
    unfold exactFrameSize
    omega
  have hmost : exactFrameSize frame < 2^64+17 := by
    unfold exactFrameSize
    split <;> omega
  by_cases hwrapped : 2^64+2 ≤ exactFrameSize frame
  · right
    have hmodulo : (exactFrameSize frame-2)%2^64+2=exactFrameSize frame-2^64 := by omega
    rw [hmodulo] at hframe houtput
    refine ⟨hnonnull,fun hnull => hdata ⟨hnull,?_⟩,hwrapped,
      (le_maximumInformationFieldSize (by omega)).mp hinformation,hframe,houtput⟩
    rintro hzero
    unfold exactFrameSize at hwrapped
    rw [hzero] at hwrapped
    change 2^64+2 ≤ 7+_+_+0+0 at hwrapped
    omega
  · left
    omega

theorem Wraps.startsWriting (h : Wraps frame limits output outputSize) :
    StartsWriting frame limits output outputSize := by
  obtain ⟨hnonnull,hdata,hwrapped,hinformation,hframe,houtput⟩ := h
  have hd := frame.destination.encodedSize_cases
  have hs := frame.source.encodedSize_cases
  have hlt := frame.informationSize.toNat_lt
  have hmost : exactFrameSize frame < 2^64+17 := by
    unfold exactFrameSize
    split <;> omega
  refine ⟨hnonnull,fun hnull => hdata hnull.1,checkFrameSize_ok_iff.mpr ⟨?_,by omega,by omega,
    by omega⟩⟩
  exact (le_maximumInformationFieldSize (by omega)).mpr hinformation

/-- The checks bound the exact length, except where the sum wraps within what the caller's limits
let pass. -/
theorem startsWriting_bounded_iff (frame : HdlcFrame) (limits : HdlcCodecLimits)
    (output : Pointer) (outputSize : ℕ) :
    (StartsWriting frame limits output outputSize →
      exactFrameSize frame ≤ 2049 ∧
      exactFrameSize frame ≤ (effectiveMaximumFrameSize limits).toNat ∧
      exactFrameSize frame ≤ outputSize) ↔ ¬ Wraps frame limits output outputSize := by
  constructor
  · intro h hwraps
    have hwrapped := hwraps.wrapped
    have hbounded := (h hwraps.startsWriting).1
    omega
  · intro hwraps hstarts
    exact (startsWriting_cases hstarts).resolve_right hwraps

/-- A frame of one-byte addresses that claims 2^64-1 bytes of Information, which the configured
limit allows: its length is 2^64+10, and ten bytes of output are found enough. -/
def wrappingFrame : HdlcFrame :=
  { sampleFrame with informationSize := 0xffffffffffffffff }

theorem wrappingFrame_starts :
    StartsWriting wrappingFrame ⟨2049,0xffffffffffffffff,0⟩ (some (List.replicate 10 0)) 10 ∧
      exactFrameSize wrappingFrame=2^64+10 := by
  have hexact : exactFrameSize wrappingFrame=2^64+10 := by decide +kernel
  refine ⟨Wraps.startsWriting ⟨by simp,by decide +kernel,?_,by decide +kernel,?_,?_⟩,hexact⟩
  · rw [hexact]
    decide
  · rw [hexact]
    decide
  · rw [hexact]
    decide

end DlmsHdlc
