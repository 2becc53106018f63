import DlmsHdlc.Segmentation.GoReassembler
import DlmsHdlc.Segmentation.Reassembler

/-! The reassembly limit. Both implementations make the same decisions about the same sizes, and
these keep the limit until a pending sequence is continued by a frame that is itself too long. -/
namespace DlmsHdlc
open Machine

/-- What the decisions of one push are about. -/
structure Push where
  limit : UInt64
  held : Option ℕ
  size : ℕ
  segmented : Bool
  continues : Bool

namespace Push
variable (push : Push)

/-- Status, size of the completed frame, size of the sequence pending afterwards. -/
def result : HdlcStatus × Option ℕ × Option ℕ :=
  match push.held with
  | none =>
    if push.limit < .ofNat push.size then (.segmentationOverflow,none,none)
    else if push.segmented then (.segmentationIncomplete,none,some push.size)
    else (.ok,some push.size,none)
  | some held =>
    if !push.continues then (.segmentationError,none,none)
    else if push.limit - .ofNat push.size < .ofNat held then (.segmentationOverflow,none,none)
    else if push.segmented then (.segmentationIncomplete,none,some (held+push.size))
    else (.ok,some (held+push.size),none)

/-- The Information would grow beyond the limit. -/
def Exceeds : Prop :=
  match push.held with
  | none => push.limit.toNat < push.size
  | some held => push.continues=true ∧ push.limit.toNat < held+push.size

/-- The result is within the limit, and an overflow where it could not be. -/
structure Bounded : Prop where
  completed_le : ∀ size ∈ push.result.2.1, size ≤ push.limit.toNat
  pending_le : ∀ size ∈ push.result.2.2, size ≤ push.limit.toNat
  overflow : push.Exceeds → push.result.1=.segmentationOverflow

variable {push}

/-- With a sequence pending, the test is right exactly for the frames within the limit. -/
theorem bounded_iff (hheld : ∀ held ∈ push.held, held ≤ push.limit.toNat)
    (hsize : push.size < 2^64) :
    push.Bounded ↔
      (push.held.isSome=true → push.continues=true → push.size ≤ push.limit.toNat) := by
  obtain ⟨limit,held,size,segmented,continues⟩ := push
  have hidle := lengthOverflow_iff limit hsize
  cases held with
  | none =>
    refine iff_of_true ?_ (by simp)
    by_cases h : limit.toNat < size
    · have hover : limit < UInt64.ofNat size := hidle.mpr h
      constructor <;> simp [result,hover]
    · have hover : ¬ limit < UInt64.ofNat size := mt hidle.mp h
      constructor <;> cases segmented <;> simp [result,hover,Exceeds] <;> omega
  | some held =>
    have hwrap := wrappedOverflow_iff limit (hheld held rfl) hsize
    cases continues with
    | false =>
      refine iff_of_true ?_ (by simp)
      constructor <;> simp [result,Exceeds]
    | true =>
      by_cases h : size ≤ limit.toNat ∧ limit.toNat < held+size
      · have hover := hwrap.mpr h
        refine iff_of_true ?_ (fun _ _ => h.1)
        constructor <;> simp [result,hover]
      · have hover := mt hwrap.mp h
        constructor
        · intro hbounded _ _
          by_contra hsize
          have hstatus := hbounded.overflow ⟨rfl,by dsimp only at hsize ⊢; omega⟩
          cases segmented <;> simp [result,hover] at hstatus
        · intro hle
          have hle := hle rfl rfl
          dsimp only at hle
          constructor <;> cases segmented <;> simp [result,hover,Exceeds] <;> omega

end Push

namespace HdlcReassembler

def pendingSize (reassembler : HdlcReassembler) : Option ℕ :=
  if reassembler.hasPending then some reassembler.pendingFrame.information.length else none

/-- The sizes of a `PushFrame` call. -/
def toPush (reassembler : HdlcReassembler) (frame : HdlcFrameBuffer) : Push where
  limit := effectiveMaximumReassembledInformationSize reassembler.limits
  held := reassembler.pendingSize
  size := frame.information.length
  segmented := frame.segmented
  continues := reassembler.continues frame

theorem pendingSize_le_iff (reassembler : HdlcReassembler) (limit : ℕ) :
    (∀ held ∈ reassembler.pendingSize, held ≤ limit) ↔
      (reassembler.hasPending=true → reassembler.pendingFrame.information.length ≤ limit) := by
  unfold pendingSize
  cases reassembler.hasPending <;> simp

theorem toPush_result (reassembler : HdlcReassembler) (frame : HdlcFrameBuffer) :
    (reassembler.toPush frame).result=((reassembler.pushFrame frame).1.1,
      (reassembler.pushFrame frame).1.2.map (fun completed => completed.information.length),
      (reassembler.pushFrame frame).2.pendingSize) := by
  obtain ⟨limits,hasPending,pendingFrame⟩ := reassembler
  cases hasPending with
  | false =>
    simp only [Push.result,toPush,pendingSize,pushFrame,Bool.not_false,Bool.false_eq_true,
      ↓reduceIte]
    split
    · rfl
    · cases frame.segmented <;> rfl
  | true =>
    simp only [Push.result,toPush,pendingSize,pushFrame,Bool.not_true,Bool.false_eq_true,
      ↓reduceIte]
    split
    · rfl
    split
    · rfl
    · cases frame.segmented <;> simp [reset]

/-- The Information would grow beyond the limit. -/
def WouldExceed (limit : ℕ) (reassembler : HdlcReassembler) (frame : HdlcFrameBuffer) : Prop :=
  if reassembler.hasPending then reassembler.continues frame=true ∧
    limit < reassembler.pendingFrame.information.length+frame.information.length
  else limit < frame.information.length

/-- What is completed and what stays pending is within the limit, and a push that would exceed
it says so. -/
structure KeepsLimit (limit : ℕ) (reassembler : HdlcReassembler) (frame : HdlcFrameBuffer) :
    Prop where
  completed_le : ∀ completed, (reassembler.pushFrame frame).1.2=some completed →
    completed.information.length ≤ limit
  pending_le : (reassembler.pushFrame frame).2.hasPending=true →
    (reassembler.pushFrame frame).2.pendingFrame.information.length ≤ limit
  overflow : reassembler.WouldExceed limit frame →
    (reassembler.pushFrame frame).1.1=.segmentationOverflow

/-- No pending sequence is continued by a frame that is longer than the limit by itself. -/
def ContinuedWithin (limit : ℕ) (reassembler : HdlcReassembler) (frame : HdlcFrameBuffer) :
    Prop :=
  reassembler.hasPending=true → reassembler.continues frame=true →
    frame.information.length ≤ limit

theorem keepsLimit_iff_bounded {limit : ℕ} {reassembler : HdlcReassembler}
    (hlimit : (effectiveMaximumReassembledInformationSize reassembler.limits).toNat=limit)
    (frame : HdlcFrameBuffer) :
    reassembler.KeepsLimit limit frame ↔ (reassembler.toPush frame).Bounded := by
  subst hlimit
  have hexceeds : (reassembler.toPush frame).Exceeds ↔ reassembler.WouldExceed
      (effectiveMaximumReassembledInformationSize reassembler.limits).toNat frame := by
    simp only [Push.Exceeds,WouldExceed,toPush,pendingSize]
    cases reassembler.hasPending <;> simp
  constructor
  · rintro ⟨hcompleted,hpending,hoverflow⟩
    constructor
    · rw [toPush_result]
      simpa [toPush] using hcompleted
    · rw [toPush_result]
      exact (pendingSize_le_iff _ _).mpr hpending
    · simpa [toPush_result,hexceeds] using hoverflow
  · rintro ⟨hcompleted,hpending,hoverflow⟩
    rw [toPush_result] at hcompleted hpending hoverflow
    constructor
    · simpa [toPush] using hcompleted
    · exact (pendingSize_le_iff _ _).mp hpending
    · simpa [hexceeds] using hoverflow

/-- Along any run, the limit is kept exactly by the pushes that the unsigned test gets right. -/
theorem along_keepsLimit_iff (limits : HdlcCodecLimits) {frames : List HdlcFrameBuffer}
    (hsize : ∀ frame ∈ frames, frame.information.length < 2^64) :
    machine.Along (KeepsLimit (effectiveMaximumReassembledInformationSize limits).toNat)
        (.new limits) frames ↔
      machine.Along (ContinuedWithin (effectiveMaximumReassembledInformationSize limits).toNat)
        (.new limits) frames := by
  apply machine.along_congr (fun reassembler => reassembler.limits=limits ∧
    ∀ held ∈ reassembler.pendingSize,
      held ≤ (effectiveMaximumReassembledInformationSize limits).toNat)
  · rintro reassembler frame hframe ⟨rfl,hheld⟩
    rw [keepsLimit_iff_bounded rfl,Push.bounded_iff hheld (hsize frame hframe)]
    simp only [toPush,pendingSize,ContinuedWithin]
    cases reassembler.hasPending <;> simp
  · rintro reassembler frame _ ⟨rfl,_⟩ hkeeps
    exact ⟨pushFrame_limits reassembler frame,(pendingSize_le_iff _ _).mpr hkeeps.pending_le⟩
  · exact ⟨rfl,by simp [pendingSize,new]⟩

end HdlcReassembler

namespace Go.Reassembler

def pendingSize (r : Reassembler) : Option ℕ :=
  if r.hasPending then some r.pending.information.length else none

/-- The sizes of a `Push` call. -/
def toPush (r : Reassembler) (frame : Frame) : Push where
  limit := effectiveMaximumReassembledInformationSize r.limits
  held := r.pendingSize
  size := frame.information.length
  segmented := frame.segmented
  continues := r.continues frame

theorem pendingSize_le_iff (r : Reassembler) (limit : ℕ) :
    (∀ held ∈ r.pendingSize, held ≤ limit) ↔
      (r.hasPending=true → r.pending.information.length ≤ limit) := by
  unfold pendingSize
  cases r.hasPending <;> simp

theorem toPush_result (r : Reassembler) (frame : Frame) :
    (r.toPush frame).result=(statusOf (r.push frame).1,
      (r.push frame).1.toOption.map (fun completed => completed.information.length),
      (r.push frame).2.pendingSize) := by
  obtain ⟨limits,hasPending,pending⟩ := r
  cases hasPending with
  | false =>
    simp only [Push.result,toPush,pendingSize,push,Bool.not_false,Bool.false_eq_true,↓reduceIte]
    split
    · rfl
    · cases frame.segmented <;> rfl
  | true =>
    simp only [Push.result,toPush,pendingSize,push,Bool.not_true,Bool.false_eq_true,↓reduceIte]
    split
    · rfl
    split
    · rfl
    · cases frame.segmented <;> simp [reset,Except.toOption]

theorem push_limits (r : Reassembler) (frame : Frame) : (r.push frame).2.limits=r.limits := by
  unfold push
  dsimp only
  repeat' split
  all_goals rfl

/-- The Information would grow beyond the limit. -/
def WouldExceed (limit : ℕ) (r : Reassembler) (frame : Frame) : Prop :=
  if r.hasPending then r.continues frame=true ∧
    limit < r.pending.information.length+frame.information.length
  else limit < frame.information.length

/-- As for the C++ reassembler. -/
structure KeepsLimit (limit : ℕ) (r : Reassembler) (frame : Frame) : Prop where
  completed_le : ∀ completed, (r.push frame).1=.ok completed →
    completed.information.length ≤ limit
  pending_le : (r.push frame).2.hasPending=true → (r.push frame).2.pending.information.length ≤ limit
  overflow : r.WouldExceed limit frame → (r.push frame).1=.error .segmentationOverflow

def ContinuedWithin (limit : ℕ) (r : Reassembler) (frame : Frame) : Prop :=
  r.hasPending=true → r.continues frame=true → frame.information.length ≤ limit

theorem keepsLimit_iff_bounded {limit : ℕ} {r : Reassembler}
    (hlimit : (effectiveMaximumReassembledInformationSize r.limits).toNat=limit) (frame : Frame) :
    r.KeepsLimit limit frame ↔ (r.toPush frame).Bounded := by
  subst hlimit
  have hexceeds : (r.toPush frame).Exceeds ↔ r.WouldExceed
      (effectiveMaximumReassembledInformationSize r.limits).toNat frame := by
    simp only [Push.Exceeds,WouldExceed,toPush,pendingSize]
    cases r.hasPending <;> simp
  have hstatus : statusOf (r.push frame).1=.segmentationOverflow ↔
      (r.push frame).1=.error .segmentationOverflow := by
    cases (r.push frame).1 <;> simp
  have hcompleted : (∀ size ∈ (r.push frame).1.toOption.map (fun completed =>
        completed.information.length),
          size ≤ (effectiveMaximumReassembledInformationSize r.limits).toNat) ↔
      ∀ completed, (r.push frame).1=.ok completed → completed.information.length ≤
        (effectiveMaximumReassembledInformationSize r.limits).toNat := by
    cases (r.push frame).1 <;> simp [Except.toOption]
  constructor
  · rintro ⟨hc,hpending,hoverflow⟩
    constructor
    · rw [toPush_result]
      exact hcompleted.mpr hc
    · rw [toPush_result]
      exact (pendingSize_le_iff _ _).mpr hpending
    · simpa [toPush_result,hexceeds,hstatus] using hoverflow
  · rintro ⟨hc,hpending,hoverflow⟩
    rw [toPush_result] at hc hpending hoverflow
    constructor
    · exact hcompleted.mp hc
    · exact (pendingSize_le_iff _ _).mp hpending
    · simpa [hexceeds,hstatus] using hoverflow

theorem along_keepsLimit_iff (limits : CodecLimits) {frames : List Frame}
    (hsize : ∀ frame ∈ frames, frame.information.length < 2^64) :
    machine.Along (KeepsLimit (effectiveMaximumReassembledInformationSize limits).toNat)
        (newReassembler limits) frames ↔
      machine.Along (ContinuedWithin (effectiveMaximumReassembledInformationSize limits).toNat)
        (newReassembler limits) frames := by
  apply machine.along_congr (fun r => r.limits=limits ∧ ∀ held ∈ r.pendingSize,
    held ≤ (effectiveMaximumReassembledInformationSize limits).toNat)
  · rintro r frame hframe ⟨rfl,hheld⟩
    rw [keepsLimit_iff_bounded rfl,Push.bounded_iff hheld (hsize frame hframe)]
    simp only [toPush,pendingSize,ContinuedWithin]
    cases r.hasPending <;> simp
  · rintro r frame _ ⟨rfl,_⟩ hkeeps
    exact ⟨push_limits r frame,(pendingSize_le_iff _ _).mpr hkeeps.pending_le⟩
  · exact ⟨rfl,by simp [pendingSize,newReassembler]⟩

end Go.Reassembler
/-- The reassembly limit is kept, in either implementation and along every run, exactly when no
pending sequence is continued by a frame that is longer than the whole limit. -/
theorem reassembly_keepsLimit_iff (limits : HdlcCodecLimits) (frames : List HdlcFrameBuffer)
    (hframes : ∀ frame ∈ frames, frame.information.length < 2^64)
    (goLimits : Go.CodecLimits) (goFrames : List Go.Frame)
    (hgoFrames : ∀ frame ∈ goFrames, frame.information.length < 2^64) :
    (HdlcReassembler.machine.Along (HdlcReassembler.KeepsLimit
        (effectiveMaximumReassembledInformationSize limits).toNat) (.new limits) frames ↔
      HdlcReassembler.machine.Along (HdlcReassembler.ContinuedWithin
        (effectiveMaximumReassembledInformationSize limits).toNat) (.new limits) frames) ∧
    (Go.Reassembler.machine.Along (Go.Reassembler.KeepsLimit
        (Go.effectiveMaximumReassembledInformationSize goLimits).toNat)
        (.newReassembler goLimits) goFrames ↔
      Go.Reassembler.machine.Along (Go.Reassembler.ContinuedWithin
        (Go.effectiveMaximumReassembledInformationSize goLimits).toNat)
        (.newReassembler goLimits) goFrames) :=
  ⟨HdlcReassembler.along_keepsLimit_iff limits hframes,
    Go.Reassembler.along_keepsLimit_iff goLimits hgoFrames⟩

/-- A first segment of one byte and a last one of six, under a limit of five. -/
def oversizedSegments : List HdlcFrameBuffer :=
  [{ (default : HdlcFrameBuffer) with segmented := true, information := [1] },
    { (default : HdlcFrameBuffer) with information := [2,3,4,5,6,7] }]

def goOversizedSegments : List Go.Frame :=
  [{ (default : Go.Frame) with segmented := true, information := [1] },
    { (default : Go.Frame) with information := [2,3,4,5,6,7] }]

theorem reassembly_keepsLimit_iff_oversized :
    (HdlcReassembler.machine.Along (HdlcReassembler.KeepsLimit 5) (.new ⟨0,0,5⟩)
        oversizedSegments ↔
      HdlcReassembler.machine.Along (HdlcReassembler.ContinuedWithin 5) (.new ⟨0,0,5⟩)
        oversizedSegments) ∧
    (Go.Reassembler.machine.Along (Go.Reassembler.KeepsLimit 5) (.newReassembler ⟨0,0,5⟩)
        goOversizedSegments ↔
      Go.Reassembler.machine.Along (Go.Reassembler.ContinuedWithin 5) (.newReassembler ⟨0,0,5⟩)
        goOversizedSegments) :=
  reassembly_keepsLimit_iff ⟨0,0,5⟩ oversizedSegments (by decide) ⟨0,0,5⟩ goOversizedSegments
    (by decide)

/-- Both reassemblers complete seven bytes under that limit. -/
theorem oversizedSegments_exceed_limit :
    ¬ HdlcReassembler.machine.Along (HdlcReassembler.KeepsLimit 5) (.new ⟨0,0,5⟩)
        oversizedSegments ∧
    ¬ Go.Reassembler.machine.Along (Go.Reassembler.KeepsLimit 5) (.newReassembler ⟨0,0,5⟩)
        goOversizedSegments := by
  constructor
  · rintro ⟨_,hsecond,_⟩
    exact absurd (hsecond.completed_le _ rfl) (by decide)
  · rintro ⟨_,hsecond,_⟩
    exact absurd (hsecond.completed_le _ rfl) (by decide)

end DlmsHdlc
