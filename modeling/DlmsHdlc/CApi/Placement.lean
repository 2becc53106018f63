import DlmsHdlc.CApi.Delivery
import DlmsHdlc.Transport.Placement

/-! Where the frames that a stream decoder handle hands out stand in the bytes fed to it, over every
run of calls: whatever the bytes, the sizes and the memory of the caller. -/
namespace DlmsHdlc
open Machine Scanning
open HdlcStreamDecoder (ignoring)

/-- The bytes that a call hands to the decoder; without its pointers it hands over none. -/
def StreamCall.consumed : StreamCall → List UInt8
  | .push data dataSize memory =>
    if memory.frame≠none ∧ memory.informationSize≠none ∧ ¬ (data=none ∧ dataSize≠0) then
      data.read dataSize
    else []
  | .reset => []

/-- The frames that the calls hand out, each in the memory of its call. No other call reports
`Ok`. -/
inductive HandsOut :
    List StreamCall → List (Option (HdlcStatus × FrameMemory)) → List HdlcFrameBuffer → Prop
  | done : HandsOut [] [] []
  | frame {data : Pointer} {dataSize : ℕ} {memory : FrameMemory} {calls : List StreamCall}
      {outputs : List (Option (HdlcStatus × FrameMemory))} {f : HdlcFrameBuffer}
      {frames : List HdlcFrameBuffer} (rest : HandsOut calls outputs frames) :
      HandsOut (.push data dataSize memory::calls) (some (.ok,memory.cleared.handOut f)::outputs)
        (f::frames)
  | other {call : StreamCall} {calls : List StreamCall}
      {output : Option (HdlcStatus × FrameMemory)}
      {outputs : List (Option (HdlcStatus × FrameMemory))} {frames : List HdlcFrameBuffer}
      (failed : ∀ memory, output≠some (.ok,memory)) (rest : HandsOut calls outputs frames) :
      HandsOut (call::calls) (output::outputs) frames

namespace Serves
variable {σ : Type*} {push : σ → Pointer → ℕ → FrameMemory → (HdlcStatus × FrameMemory) × σ}
  {reset : σ → σ} {limits : HdlcCodecLimits}
  {O : Outlet UInt8 HdlcFrameBuffer HdlcStatus FrameMemory}
  {Holds : σ → Outlet.State UInt8 HdlcFrameBuffer → Prop} (hO : Serves push limits O Holds)
include hO

/-- A call with its pointers hands out the frame that the queue gives, or none. -/
theorem handsOut_push {handle : σ} {state : Outlet.State UInt8 HdlcFrameBuffer}
    (h : Holds handle state) {data : Pointer} {dataSize : ℕ} {memory : FrameMemory}
    (present : memory.Present) (readable : ¬ (data=none ∧ dataSize≠0)) {calls : List StreamCall}
    {outputs : List (Option (HdlcStatus × FrameMemory))} {frames : List HdlcFrameBuffer}
    (rest : HandsOut calls outputs frames) :
    HandsOut (.push data dataSize memory::calls) (some (push handle data dataSize memory).1::outputs)
      ((O.push state (data.read dataSize) memory.cleared).1.value?.toList ++ frames) := by
  rw [(hO.answers h present readable).1]
  cases hpush : (O.push state (data.read dataSize) memory.cleared).1 with
  | failed error =>
    obtain ⟨fed,hfeed⟩ := Outlet.feed_of_push hpush
    have hne := (hO.isDecodeError hfeed).1.ne_ok
    refine .other ?_ rest
    rintro memory' hok
    exact hne (congrArg Prod.fst (Option.some.inj hok))
  | empty => exact .other (by rintro memory' ⟨⟩) rest
  | small => exact .other (by rintro memory' ⟨⟩) rest
  | item f => exact .frame rest

/-- The frames handed out in a run stand in the bytes fed, and behind them those that wait. -/
theorem handsOut (hreset : ∀ {handle state}, Holds handle state → Holds (reset handle) .start)
    {handle : σ} {state : Outlet.State UInt8 HdlcFrameBuffer} (h : Holds handle state)
    {fed : List UInt8} {taken : List HdlcFrameBuffer}
    (placing : Outlet.Placing (Accepted limits) state fed taken) (calls : List StreamCall) :
    ∃ frames next, HandsOut calls ((streamMachine push reset).outputs handle calls) frames ∧
      Holds ((streamMachine push reset).final handle calls) next ∧
      Outlet.Placing (Accepted limits) next (fed ++ calls.flatMap StreamCall.consumed)
        (taken ++ frames) := by
  have himages : O.scanner.Images (Accepted limits) :=
    hO.scanner ▸ HdlcStreamDecoder.scanner_images (ignoring limits)
  induction calls generalizing handle state fed taken with
  | nil =>
    refine ⟨[],state,.done,h,?_⟩
    rw [List.flatMap_nil,List.append_nil,List.append_nil]
    exact placing
  | cons call calls ih =>
    rw [List.flatMap_cons,← List.append_assoc]
    cases call with
    | reset =>
      obtain ⟨frames,next,hhands,hholds,hplacing⟩ := ih (hreset h) placing.restart
      refine ⟨frames,next,.other (by rintro memory ⟨⟩) hhands,hholds,?_⟩
      rw [show StreamCall.consumed .reset=[] from rfl,List.append_nil]
      exact hplacing
    | push data dataSize memory =>
      by_cases hvalid : memory.Present ∧ ¬ (data=none ∧ dataSize≠0)
      · obtain ⟨frames,next,hhands,hholds,hplacing⟩ :=
          ih (hO.answers h hvalid.1 hvalid.2).2
            (placing.push himages (data.read dataSize) memory.cleared)
        refine ⟨_,next,hO.handsOut_push h hvalid.1 hvalid.2 hhands,hholds,?_⟩
        rw [StreamCall.consumed,if_pos ⟨hvalid.1.frame,hvalid.1.informationSize,hvalid.2⟩,
          ← List.append_assoc]
        exact hplacing
      · have hrejected := hO.rejects handle ((not_and_or.mp hvalid).imp_right not_not.mp)
        have hfed : StreamCall.consumed (.push data dataSize memory)=[] :=
          if_neg fun h => hvalid ⟨⟨h.1,h.2.1⟩,h.2.2⟩
        have hstep : (streamMachine push reset).step handle (.push data dataSize memory)=
            (some (.invalidArgument,memory.cleared),handle) :=
          congrArg (fun result => result.map some id) hrejected
        obtain ⟨frames,next,hhands,hholds,hplacing⟩ := ih h placing
        rw [Mealy.outputs_cons,Mealy.final_cons,hstep,hfed,List.append_nil]
        exact ⟨frames,next,.other (by rintro memory' ⟨⟩) hhands,hholds,hplacing⟩

end Serves

theorem located_of_placing {limits : HdlcCodecLimits} {state : Outlet.State UInt8 HdlcFrameBuffer}
    {fed : List UInt8} {taken : List HdlcFrameBuffer}
    (h : Outlet.Placing (Accepted limits) state fed taken) :
    Located (fun bytes frame => decodeFrame (some bytes) bytes.length limits=.ok frame)
      HdlcFrameBuffer.information fed state.buffer (taken ++ state.pending) := by
  obtain ⟨front,rfl,hplaced⟩ := h
  refine ⟨⟨front,rfl,hplaced⟩,?_⟩
  have hroom := hplaced.sum_le fun _ _ haccepted => haccepted.length_le
  rw [List.length_append]
  exact hroom.trans (Nat.le_add_right _ _)

/-- In every run of calls on a fresh handle of either library, with whatever chunks, memory,
errors, refused frames and resets, the frames handed out, and behind them those that wait, are
located in the bytes fed by the calls: no frame is made up, repeated or moved. -/
theorem streamDecoderHandles_locate (limits : Option DlmsHdlcLimits) (calls : List StreamCall) :
    (∃ frames, HandsOut calls (DlmsHdlcStreamDecoder.machine.outputs (.new limits) calls) frames ∧
      Located (fun bytes frame => decodeFrame (some bytes) bytes.length (toCppLimits limits)=.ok frame)
        HdlcFrameBuffer.information (calls.flatMap StreamCall.consumed)
        (DlmsHdlcStreamDecoder.machine.final (.new limits) calls).decoder.buffer
        (frames ++ (DlmsHdlcStreamDecoder.machine.final (.new limits) calls).pending)) ∧
    ∃ frames waiting,
      HandsOut calls (Go.StreamDecoderState.machine.outputs (.new limits) calls) frames ∧
      (Go.StreamDecoderState.machine.final (.new limits) calls).pendingFrames=
        waiting.map Go.ofFrame ∧
      Located (fun bytes frame => decodeFrame (some bytes) bytes.length (toCppLimits limits)=.ok frame)
        HdlcFrameBuffer.information (calls.flatMap StreamCall.consumed)
        (Go.StreamDecoderState.machine.final (.new limits) calls).decoder.buffer
        (frames ++ waiting) := by
  constructor
  · have hserves := DlmsHdlcStreamDecoder.serves (toCppLimits limits)
    have hreset {handle state} (h : DlmsHdlcStreamDecoder.Holds (toCppLimits limits) handle state) :=
      h.reset
    obtain ⟨frames,next,hhands,hholds,hplacing⟩ := hserves.handsOut hreset
      (DlmsHdlcStreamDecoder.holds_new limits) Outlet.placing_start calls
    refine ⟨frames,hhands,?_⟩
    have hlocated := located_of_placing hplacing
    rw [← hholds.buffer,← hholds.pending] at hlocated
    exact hlocated
  · have hserves := Go.StreamDecoderState.serves (toCppLimits limits)
    have hreset {handle state} (h : Go.StreamDecoderState.Holds (toCppLimits limits) handle state) :=
      h.reset
    obtain ⟨frames,next,hhands,hholds,hplacing⟩ := hserves.handsOut hreset
      (Go.StreamDecoderState.holds_new limits) Outlet.placing_start calls
    refine ⟨frames,next.pending,hhands,hholds.pending,?_⟩
    have hlocated := located_of_placing hplacing
    rw [← hholds.buffer] at hlocated
    exact hlocated

end DlmsHdlc
