import DlmsHdlc.Go.Agreement
import DlmsHdlc.Segmentation.Reassembler

/-! The C++ reassembler and the Go reassembler are one machine, up to the two sets of types. -/
namespace DlmsHdlc.Go

theorem sameAddress_eq (left right : HdlcAddress) :
    sameAddress (ofAddress left) (ofAddress right)=DlmsHdlc.sameAddress left right := by
  have hl := left.encodedSize_cases
  have hr := right.encodedSize_cases
  have hsize : (UInt64.ofNat left.encodedSize == UInt64.ofNat right.encodedSize)=
      (left.encodedSize == right.encodedSize) := by
    obtain h | h | h := hl <;> obtain h' | h' | h' := hr <;> rw [h,h'] <;> rfl
  exact congrArg (left.rawValue == right.rawValue && ·) hsize

theorem frameKind_eq (left right : HdlcControl) :
    ((ofControl left).frameKind == (ofControl right).frameKind)=compatibleFrameType left right := by
  rw [compatibleFrameType]
  unfold Control.frameKind HdlcControl.frameKind ofControl HdlcControl.encode
  dsimp only
  repeat' split
  all_goals rfl

/-- The same limits, and the same pending frame if there is one; they start with different ones. -/
structure Reassembler.Matches (r : Reassembler) (reassembler : HdlcReassembler) : Prop where
  limits : r.limits=ofLimits reassembler.limits
  hasPending : r.hasPending=reassembler.hasPending
  pending : reassembler.hasPending=true → r.pending=ofFrame reassembler.pendingFrame

/-- A completed frame, or the status of a call without one. -/
def ofCompleted : HdlcStatus × Option HdlcFrameBuffer → Except HdlcStatus Frame
  | (_,some completed) => .ok (ofFrame completed)
  | (status,none) => .error status

namespace Reassembler
variable {r : Reassembler} {reassembler : HdlcReassembler}

theorem matches_new (limits : HdlcCodecLimits) :
    Matches (newReassembler (ofLimits limits)) (.new limits) :=
  ⟨rfl,rfl,nofun⟩

theorem Matches.reset (h : r.Matches reassembler) : r.reset.Matches reassembler.reset :=
  ⟨h.limits,rfl,nofun⟩

theorem Matches.continues (h : r.Matches reassembler) (pending : reassembler.hasPending=true)
    (frame : HdlcFrameBuffer) : r.continues (ofFrame frame)=reassembler.continues frame := by
  have hframe : ∀ f : HdlcFrameBuffer, (ofFrame f).destination=ofAddress f.destination ∧
      (ofFrame f).source=ofAddress f.source ∧ (ofFrame f).control=ofControl f.control :=
    fun _ => ⟨rfl,rfl,rfl⟩
  rw [Reassembler.continues,HdlcReassembler.continues,h.pending pending]
  simp only [hframe,sameAddress_eq,frameKind_eq]

/-- Every push has the same result and leaves matching reassemblers. -/
theorem Matches.push (h : r.Matches reassembler) (frame : HdlcFrameBuffer) :
    (r.push (ofFrame frame)).1=ofCompleted (reassembler.pushFrame frame).1 ∧
      (r.push (ofFrame frame)).2.Matches (reassembler.pushFrame frame).2 := by
  have hmaximum : effectiveMaximumReassembledInformationSize r.limits=
      DlmsHdlc.effectiveMaximumReassembledInformationSize reassembler.limits := by
    rw [h.limits]
    rfl
  have hinformation : (ofFrame frame).information=frame.information := rfl
  have hsegmented : (ofFrame frame).segmented=frame.segmented := rfl
  rw [Reassembler.push,HdlcReassembler.pushFrame]
  dsimp only
  rw [hmaximum,h.hasPending,hinformation,hsegmented]
  cases hpending : reassembler.hasPending with
  | false =>
    simp only [Bool.not_false,↓reduceIte]
    split
    · exact ⟨rfl,h⟩
    · split
      · exact ⟨rfl,h⟩
      · exact ⟨rfl,h.limits,rfl,fun _ => rfl⟩
  | true =>
    have hheld : r.pending.information=reassembler.pendingFrame.information := by
      rw [h.pending hpending]
      rfl
    simp only [Bool.not_true,Bool.false_eq_true,↓reduceIte,h.continues hpending,hheld]
    split
    · exact ⟨rfl,h.reset⟩
    split
    · exact ⟨rfl,h.reset⟩
    split
    · refine ⟨rfl,h.limits,rfl,fun _ => ?_⟩
      rw [h.pending hpending]
      rfl
    · refine ⟨?_,h.reset⟩
      rw [h.pending hpending]
      rfl

end Reassembler
end DlmsHdlc.Go
