import DlmsHdlc.CApi.GoCalls
import DlmsHdlc.CApi.Outlets
import DlmsHdlc.Go.Reassembly

/-! What a reassembler call of either library does with its arguments. -/
namespace DlmsHdlc

/-- The pointers of a reassembler call are not null. -/
structure CompletedMemory.Present (output : CompletedMemory) : Prop where
  memory : output.memory.Present
  hasCompletedFrame : output.hasCompletedFrame≠none

theorem CompletedMemory.not_present_iff {output : CompletedMemory} :
    output.cleared.memory.frame=none ∨ output.cleared.memory.informationSize=none ∨
      output.cleared.hasCompletedFrame=none ↔ ¬ output.Present := by
  have hflag : output.cleared.hasCompletedFrame=none ↔ output.hasCompletedFrame=none :=
    Option.map_eq_none_iff
  rw [hflag,← or_assoc]
  change (output.memory.cleared.frame=none ∨ output.memory.cleared.informationSize=none) ∨ _ ↔ _
  rw [FrameMemory.not_present_iff]
  constructor
  · rintro (h | h) hpresent
    · exact h hpresent.memory
    · exact hpresent.hasCompletedFrame h
  · intro h
    by_contra hnone
    rw [not_or,not_not] at hnone
    exact h ⟨hnone.1,hnone.2⟩

theorem HdlcAddress.fromRaw_error {rawValue : UInt32} {encodedSize : ℕ} {status : HdlcStatus}
    (h : fromRaw rawValue encodedSize=.error status) :
    status≠.ok ∧ status≠.outputBufferTooSmall := by
  unfold fromRaw at h
  repeat' split at h
  all_goals cases h
  all_goals decide

/-- A frame that cannot be converted is reported as such. -/
theorem toCppFrame_error {frame : DlmsHdlcFrame} {status : HdlcStatus}
    (h : toCppFrame frame=.error status) : status≠.ok ∧ status≠.outputBufferTooSmall := by
  unfold toCppFrame at h
  split at h
  · cases h
    decide
  split at h
  · rename_i hd
    cases h
    exact HdlcAddress.fromRaw_error hd
  split at h
  · rename_i hs
    cases h
    exact HdlcAddress.fromRaw_error hs
  split at h
  · rename_i hc
    cases h
    rw [HdlcControl.decode_error hc]
    decide
  · cases h

namespace DlmsHdlcReassembler

theorem pushFrame_invalid (handle : DlmsHdlcReassembler) {inputFrame : Option DlmsHdlcFrame}
    {output : CompletedMemory} (h : inputFrame=none ∨ ¬ output.Present) :
    handle.pushFrame inputFrame output=((.invalidArgument,output.cleared),handle) := by
  cases inputFrame with
  | none => rfl
  | some frame =>
    rw [pushFrame]
    exact if_pos (CompletedMemory.not_present_iff.mpr (h.resolve_left nofun))

theorem pushFrame_present (handle : DlmsHdlcReassembler) (frame : DlmsHdlcFrame)
    {output : CompletedMemory} (present : output.Present) :
    handle.pushFrame (some frame) output=
      match toCppFrame frame with
      | .error status => ((status,output.cleared),handle)
      | .ok view =>
        let pushed := handle.reassembler.pushFrame (ownedFrame view)
        (complete pushed.1.1 pushed.1.2 output.cleared,⟨pushed.2⟩) := by
  rw [pushFrame]
  exact if_neg (mt CompletedMemory.not_present_iff.mp (not_not.mpr present))

theorem complete_fits {f : HdlcFrameBuffer} {output : CompletedMemory}
    (fits : f.information.length ≤ output.memory.informationBufferSize.toNat) :
    complete .ok (some f) output.cleared=(.ok,⟨output.memory.cleared.handOut f,some 1⟩) := by
  rw [complete,if_neg (by simp)]
  exact if_neg (Nat.not_lt.mpr fits)

theorem complete_small {f : HdlcFrameBuffer} {output : CompletedMemory}
    (small : output.memory.informationBufferSize.toNat < f.information.length) :
    complete .ok (some f) output.cleared=(.outputBufferTooSmall,output.cleared) := by
  rw [complete,if_neg (by simp)]
  exact if_pos small

end DlmsHdlcReassembler
namespace Go

theorem isSupportedEncodedSize_toNat (encodedSize : UInt64) :
    isSupportedEncodedSize encodedSize=DlmsHdlc.isSupportedEncodedSize encodedSize.toNat := by
  have hone (n : ℕ) (h : n < 2^64) : (encodedSize == .ofNat n)=(encodedSize.toNat == n) := by
    rw [Bool.eq_iff_iff,beq_iff_eq,beq_iff_eq,← UInt64.toNat_inj,UInt64.toNat_ofNat',
      Nat.mod_eq_of_lt h]
  have h1 := hone 1 (by decide)
  have h2 := hone 2 (by decide)
  have h4 := hone 4 (by decide)
  exact congr (congrArg (· || ·) (congr (congrArg (· || ·) h1) h2)) h4

theorem addressFromRaw_eq (rawValue : UInt32) (encodedSize : UInt64) :
    addressFromRaw rawValue encodedSize=
      (HdlcAddress.fromRaw rawValue encodedSize.toNat).map ofAddress := by
  rw [addressFromRaw,HdlcAddress.fromRaw,isSupportedEncodedSize_toNat]
  by_cases hsupported : DlmsHdlc.isSupportedEncodedSize encodedSize.toNat=true
  · have hmaximum : maximumRawValue encodedSize=DlmsHdlc.maximumRawValue encodedSize.toNat := by
      have hsize : encodedSize=.ofNat encodedSize.toNat := UInt64.ofNat_toNat.symm
      have hcases : encodedSize.toNat=1 ∨ encodedSize.toNat=2 ∨ encodedSize.toNat=4 := by
        simpa [DlmsHdlc.isSupportedEncodedSize,or_assoc] using hsupported
      obtain h | h | h := hcases <;> rw [hsize,h] <;> rfl
    rw [hmaximum,dif_pos hsupported,if_neg (by simp [hsupported])]
    by_cases hrange : rawValue ≤ DlmsHdlc.maximumRawValue encodedSize.toNat
    · rw [dif_pos hrange,if_neg (UInt32.not_lt.mpr hrange)]
      simp only [Except.map,ofAddress,UInt64.ofNat_toNat]
    · rw [dif_neg hrange,if_pos (UInt32.not_le.mp hrange)]
      rfl
  · rw [dif_neg hsupported,if_pos (by simp [hsupported])]
    rfl

/-- The two conversions of a frame differ in the copy of the Information alone. -/
theorem goFrame_eq (cf : DlmsHdlcFrame) :
    goFrame cf=(toCppFrame cf).map fun view =>
      (if 0 < cf.informationSize then goBytes cf.informationData cf.informationSize
        else some []).map fun info =>
          ofFrame ⟨view.segmented,view.destination,view.source,view.control,info⟩ := by
  rw [goFrame,toCppFrame,addressFromRaw_eq,addressFromRaw_eq,controlFromByte_eq]
  split
  · rfl
  cases HdlcAddress.fromRaw cf.destinationAddressRaw cf.destinationAddressSize.toNat with
  | error status => rfl
  | ok destination =>
    cases HdlcAddress.fromRaw cf.sourceAddressRaw cf.sourceAddressSize.toNat with
    | error status => rfl
    | ok source =>
      cases HdlcControl.decode cf.control <;> rfl

theorem goFrame_error {frame : DlmsHdlcFrame} {err : HdlcStatus} (h : goFrame frame=.error err) :
    err≠.ok ∧ err≠.outputBufferTooSmall := by
  rw [goFrame_eq] at h
  cases hview : toCppFrame frame with
  | error status =>
    rw [hview] at h
    cases h
    exact toCppFrame_error hview
  | ok view =>
    rw [hview] at h
    cases h

namespace Reassembler

theorem push_error {r : Reassembler} {frame : Frame} {err : HdlcStatus}
    (h : (r.push frame).1=.error err) : err≠.ok ∧ err≠.outputBufferTooSmall := by
  unfold push at h
  dsimp only at h
  repeat' split at h
  all_goals cases h
  all_goals decide

theorem pushFrame_invalid (r : Reassembler) {inputFrame : Option DlmsHdlcFrame}
    {output : CompletedMemory} (h : inputFrame=none ∨ ¬ output.Present) :
    r.pushFrame inputFrame output=some ((.invalidArgument,output.cleared),r) := by
  cases inputFrame with
  | none => rfl
  | some frame =>
    rw [pushFrame]
    exact if_pos (CompletedMemory.not_present_iff.mpr (h.resolve_left nofun))

theorem pushFrame_present (r : Reassembler) (frame : DlmsHdlcFrame) {output : CompletedMemory}
    (present : output.Present) :
    r.pushFrame (some frame) output=
      match goFrame frame with
      | .error err => some ((err,output.cleared),r)
      | .ok none => none
      | .ok (some frame) => some (complete (r.push frame).1 output.cleared,(r.push frame).2) := by
  rw [pushFrame]
  exact if_neg (mt CompletedMemory.not_present_iff.mp (not_not.mpr present))

end Reassembler
end Go
end DlmsHdlc
