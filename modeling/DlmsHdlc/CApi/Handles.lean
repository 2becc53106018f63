import DlmsHdlc.CApi.Delivery

/-! Runs of calls on one stream decoder handle: what is returned of the bytes fed so far, and what a
decode error leaves. -/
namespace DlmsHdlc
open Machine Scanning
open HdlcStreamDecoder (ignoring Reads)

/-- After a decode error, no later calls tell the handle from the fresh one. -/
def ResetBehind {σ : Type*} (M : Mealy σ StreamCall (Option (HdlcStatus × FrameMemory))) (fresh : σ)
    (handle : σ) (call : StreamCall) : Prop :=
  ∀ status memory, (M.step handle call).1=some (status,memory) → status.IsDecodeError →
    M.Indistinguishable (fun output _ => output) (M.step handle call).2 fresh

/-- The call is complete, and reads a fault that is reported. -/
def MeetsFault (limits : HdlcCodecLimits) (buffer : List UInt8) : StreamCall → Prop
  | .push data dataSize memory => memory.Present ∧ ¬ (data=none ∧ dataSize≠0) ∧
      ∃ frames status rest, Reads limits (buffer ++ data.read dataSize) frames (some (status,rest)) ∧
        status≠.needMoreData
  | .reset => False

namespace Serves
variable {σ : Type*} {push : σ → Pointer → ℕ → FrameMemory → (HdlcStatus × FrameMemory) × σ}
  {reset : σ → σ} {limits : HdlcCodecLimits}
  {O : Outlet UInt8 HdlcFrameBuffer HdlcStatus FrameMemory}
  {Holds : σ → Outlet.State UInt8 HdlcFrameBuffer → Prop} (hO : Serves push limits O Holds)
  (hreset : ∀ {handle state}, Holds handle state → Holds (reset handle) .start)
include hO hreset

/-- Handles that hold the same queue give the same answer and hold the same queue again. -/
theorem step_alike {handle other : σ} {state : Outlet.State UInt8 HdlcFrameBuffer}
    (h : Holds handle state) (hother : Holds other state) (call : StreamCall) :
    (∃ next, Holds ((streamMachine push reset).step handle call).2 next ∧
      Holds ((streamMachine push reset).step other call).2 next) ∧
    ((streamMachine push reset).step handle call).1=
      ((streamMachine push reset).step other call).1 := by
  cases call with
  | push data dataSize memory =>
    by_cases hvalid : ¬ memory.Present ∨ data=none ∧ dataSize≠0
    · have hleft := hO.rejects handle hvalid
      have hright := hO.rejects other hvalid
      simp only [streamMachine,hleft,hright]
      exact ⟨⟨state,h,hother⟩,rfl⟩
    · rw [not_or,not_not] at hvalid
      obtain ⟨hanswer,hholds⟩ := hO.answers h hvalid.1 hvalid.2
      obtain ⟨hanswer',hholds'⟩ := hO.answers hother hvalid.1 hvalid.2
      exact ⟨⟨_,hholds,hholds'⟩,congrArg some (hanswer.trans hanswer'.symm)⟩
  | reset => exact ⟨⟨_,hreset h,hreset hother⟩,rfl⟩

theorem indistinguishable {handle other : σ} {state : Outlet.State UInt8 HdlcFrameBuffer}
    (h : Holds handle state) (hother : Holds other state) :
    (streamMachine push reset).Indistinguishable (fun output _ => output) handle other := by
  intro calls
  apply Mealy.observed_eq_of_simulation _ (fun left right => ∃ state, Holds left state ∧ Holds right state)
  · rintro left right call ⟨state,hleft,hright⟩
    exact hO.step_alike hreset hleft hright call
  · exact ⟨state,h,hother⟩

omit hreset in
/-- A fault is reported, and keeps the frames that wait. -/
theorem error_of_fault {handle : σ} {state : Outlet.State UInt8 HdlcFrameBuffer}
    (h : Holds handle state) {call : StreamCall} (fault : MeetsFault limits state.buffer call) :
    ∃ status memory, ((streamMachine push reset).step handle call).1=some (status,memory) ∧
      status.IsDecodeError ∧
      Holds ((streamMachine push reset).step handle call).2 ⟨[],state.pending⟩ := by
  have hS : O.scanner.Incremental := hO.scanner ▸ HdlcStreamDecoder.scanner_incremental _
  cases call with
  | reset => exact absurd fault id
  | push data dataSize memory =>
    obtain ⟨hpresent,hreadable,frames,status,rest,hreads,hmore⟩ := fault
    obtain ⟨front,hbytes,hfails⟩ := HdlcStreamDecoder.reads_some_iff.mp hreads
    rw [← hO.scanner] at hfails
    have hdrain := hS.drain_error_append hfails.drained rest
    rw [← hbytes] at hdrain
    have hnonempty := Outlet.nonempty_of_error (hO.stable h) _ hdrain
    have hfeed := Outlet.feed_error hnonempty hdrain
    rw [if_neg (by rw [hO.silent]; exact hmore)] at hfeed
    obtain ⟨hanswer,hholds⟩ := hO.answers h hpresent hreadable
    rw [Outlet.push,hfeed] at hanswer hholds
    exact ⟨status,memory.cleared,congrArg some hanswer,hO.isDecodeError hfeed,hholds⟩

omit hreset in
/-- Nothing else is reported as a decode error. -/
theorem fault_of_error {handle : σ} {state : Outlet.State UInt8 HdlcFrameBuffer}
    (h : Holds handle state) {call : StreamCall} {status : HdlcStatus} {memory : FrameMemory}
    (step : ((streamMachine push reset).step handle call).1=some (status,memory))
    (error : status.IsDecodeError) : MeetsFault limits state.buffer call := by
  cases call with
  | reset => cases step
  | push data dataSize memory' =>
    by_cases hvalid : ¬ memory'.Present ∨ data=none ∧ dataSize≠0
    · have hinvalid := congrArg Prod.fst (hO.rejects handle hvalid)
      cases step.symm.trans (congrArg some hinvalid)
      exact absurd rfl error.1.ne_invalid
    rw [not_or,not_not] at hvalid
    obtain ⟨hanswer,_⟩ := hO.answers h hvalid.1 hvalid.2
    have hreply := (Option.some.inj step).symm.trans hanswer
    rw [Outlet.push] at hreply
    rcases hfeed : O.feed state (data.read dataSize) with ⟨_ | fault,fed⟩ <;>
      rw [hfeed] at hreply <;> dsimp only at hreply
    · -- Without a reported fault the status is one of the other three.
      cases htake : (O.take fed memory'.cleared).1 with
      | failed fault => exact absurd htake (O.take_ne_failed fed _ fault)
      | empty =>
        rw [htake] at hreply
        cases hreply
        exact absurd rfl error.2
      | small =>
        rw [htake] at hreply
        cases hreply
        exact absurd rfl error.1.ne_small
      | item f =>
        rw [htake] at hreply
        cases hreply
        exact absurd rfl error.1.ne_ok
    · obtain ⟨values,hdrain,hreported,_⟩ := Outlet.error_of_feed hfeed
      rw [hO.silent] at hreported
      rw [hO.scanner] at hdrain
      obtain ⟨front,rest,hbytes,hfails⟩ := Scanner.exists_failsAt
        (HdlcStreamDecoder.scanner_incremental (ignoring limits)) hdrain
      exact ⟨hvalid.1,hvalid.2,values,fault,rest,
        HdlcStreamDecoder.reads_some_iff.mpr ⟨front,hbytes,hfails⟩,hreported⟩

omit hreset in
/-- A caller that asks for a frame tells an empty queue from another. -/
theorem distinguished {handle fresh : σ} {buffer : List UInt8} {pending : List HdlcFrameBuffer}
    (h : Holds handle ⟨buffer,pending⟩) (hfresh : Holds fresh .start) (hpending : pending≠[]) :
    ¬ (streamMachine push reset).Indistinguishable (fun output _ => output) handle fresh := by
  intro hsame
  have husable := roomFor_usable 0
  have hreadable := Pointer.zero_readable none
  obtain ⟨hanswer,_⟩ := hO.answers h husable.toPresent hreadable
  obtain ⟨hanswer',_⟩ := hO.answers hfresh husable.toPresent hreadable
  have hview := (hsame.step (.push none 0 (roomFor 0))).1
  have hequal : (push handle none 0 (roomFor 0)).1=(push fresh none 0 (roomFor 0)).1 :=
    Option.some.inj hview
  have hempty := O.take_nil (show (Outlet.State.start : Outlet.State UInt8 HdlcFrameBuffer).pending=[]
    from rfl) (roomFor 0).cleared
  rw [hanswer,hanswer',Pointer.read_zero,Outlet.push_nil,Outlet.push_nil,hempty] at hequal
  cases htake : (O.take ⟨buffer,pending⟩ (roomFor 0).cleared).1 with
  | failed fault => exact O.take_ne_failed _ _ fault htake
  | empty => exact hpending ((Outlet.take_empty_iff _ _).mp htake)
  | small =>
    rw [htake] at hequal
    cases hequal
  | item f =>
    rw [htake] at hequal
    cases hequal

/-- The handle is reset behind a decode error exactly when no frames were waiting. -/
theorem resetBehind_iff {handle fresh : σ} {state : Outlet.State UInt8 HdlcFrameBuffer}
    (h : Holds handle state) (hfresh : Holds fresh .start) (call : StreamCall) :
    ResetBehind (streamMachine push reset) fresh handle call ↔
      ¬ (MeetsFault limits state.buffer call ∧ state.pending≠[]) := by
  constructor
  · rintro hbehind ⟨hfault,hpending⟩
    obtain ⟨status,memory,hstep,herror,hholds⟩ := hO.error_of_fault h hfault
    exact hO.distinguished hholds hfresh hpending (hbehind status memory hstep herror)
  · intro hnone status memory hstep herror
    have hfault := hO.fault_of_error h hstep herror
    have hpending : state.pending=[] := by
      by_contra hpending
      exact hnone ⟨hfault,hpending⟩
    have hafter : ∃ status memory, ((streamMachine push reset).step handle call).1=
        some (status,memory) ∧ status.IsDecodeError ∧ Holds _ ⟨[],state.pending⟩ :=
      hO.error_of_fault h hfault
    obtain ⟨_,_,_,_,hholds⟩ := hafter
    rw [hpending] at hholds
    exact hO.indistinguishable hreset hholds hfresh

/-- A run of calls on a fresh handle holds a queue at its end. -/
theorem step_holds {handle : σ} {state : Outlet.State UInt8 HdlcFrameBuffer}
    (h : Holds handle state) (call : StreamCall) :
    ∃ next, Holds ((streamMachine push reset).step handle call).2 next := by
  obtain ⟨⟨next,hnext,_⟩,_⟩ := hO.step_alike hreset h h call
  exact ⟨next,hnext⟩

end Serves

/-- A decode error leaves the handle reset, in both libraries, exactly when no frames of earlier
calls wait to be drained: the queue is not cleared with the decoder. -/
theorem streamDecoder_resets_iff (limits : Option DlmsHdlcLimits) (calls : List StreamCall) :
    (DlmsHdlcStreamDecoder.machine.Along
        (ResetBehind DlmsHdlcStreamDecoder.machine (.new limits)) (.new limits) calls ↔
      DlmsHdlcStreamDecoder.machine.Along (fun handle call =>
        ¬ (MeetsFault (toCppLimits limits) handle.decoder.buffer call ∧ handle.pending≠[]))
        (.new limits) calls) ∧
    (Go.StreamDecoderState.machine.Along
        (ResetBehind Go.StreamDecoderState.machine (.new limits)) (.new limits) calls ↔
      Go.StreamDecoderState.machine.Along (fun handle call =>
        ¬ (MeetsFault (toCppLimits limits) handle.decoder.buffer call ∧ handle.pendingFrames≠[]))
        (.new limits) calls) := by
  constructor
  · have hserves := DlmsHdlcStreamDecoder.serves (toCppLimits limits)
    have hreset {handle state} (h : DlmsHdlcStreamDecoder.Holds (toCppLimits limits) handle state) :=
      h.reset
    have hnew := DlmsHdlcStreamDecoder.holds_new limits
    apply Mealy.along_congr _ (fun handle =>
      ∃ state, DlmsHdlcStreamDecoder.Holds (toCppLimits limits) handle state)
    · rintro handle call _ ⟨state,h⟩
      rw [h.buffer,h.pending]
      exact hserves.resetBehind_iff hreset h hnew call
    · rintro handle call _ ⟨state,h⟩ _
      exact hserves.step_holds hreset h call
    · exact ⟨_,hnew⟩
  · have hserves := Go.StreamDecoderState.serves (toCppLimits limits)
    have hreset {handle state} (h : Go.StreamDecoderState.Holds (toCppLimits limits) handle state) :=
      h.reset
    have hnew := Go.StreamDecoderState.holds_new limits
    apply Mealy.along_congr _ (fun handle =>
      ∃ state, Go.StreamDecoderState.Holds (toCppLimits limits) handle state)
    · rintro handle call _ ⟨state,h⟩
      rw [h.buffer,h.pending,ne_eq,List.map_eq_nil_iff]
      exact hserves.resetBehind_iff hreset h hnew call
    · rintro handle call _ ⟨state,h⟩ _
      exact hserves.step_holds hreset h call
    · exact ⟨_,hnew⟩

/-- A whole frame in front is read first. -/
theorem drain_decoded {options : HdlcStreamDecoderOptions} {bytes : List UInt8}
    {frame : HdlcFrameBuffer} (decoded : decodeFrame (some bytes) bytes.length options.limits=.ok frame)
    {more kept : List UInt8} {frames : List HdlcFrameBuffer}
    (drained : (HdlcStreamDecoder.scanner options).drain more=(frames,.ok kept)) :
    (HdlcStreamDecoder.scanner options).drain (bytes ++ more)=(frame::frames,.ok kept) := by
  rw [Scanner.drain_item (HdlcStreamDecoder.scan_accepted decoded more),drained]

/-- Two Receive Ready frames are read from one chunk. -/
theorem receiveReadyPair_drains :
    (HdlcStreamDecoder.scanner (ignoring defaultHdlcCodecLimits)).drain
        [0x7e,0xa0,0x07,0x07,0x21,0x11,0x74,0xc5,0x7e,0x7e,0xa0,0x07,0x07,0x21,0x11,0x74,0xc5,0x7e]=
      ([receiveReadyFrame,receiveReadyFrame],.ok []) := by
  have hdecodes : decodeFrame (some [0x7e,0xa0,0x07,0x07,0x21,0x11,0x74,0xc5,0x7e])
      ([0x7e,0xa0,0x07,0x07,0x21,0x11,0x74,0xc5,0x7e] : List UInt8).length
      (ignoring defaultHdlcCodecLimits).limits=.ok receiveReadyFrame := receiveReadyFrame_decodes
  exact drain_decoded hdecodes (drain_decoded hdecodes (HdlcStreamDecoder.scanner_drain_nil _))

/-- Two Receive Ready frames in one call: the first is handed out and the second one waits. -/
theorem Serves.holds_second {σ : Type*}
    {push : σ → Pointer → ℕ → FrameMemory → (HdlcStatus × FrameMemory) × σ}
    {O : Outlet UInt8 HdlcFrameBuffer HdlcStatus FrameMemory}
    {Holds : σ → Outlet.State UInt8 HdlcFrameBuffer → Prop}
    (hO : Serves push defaultHdlcCodecLimits O Holds) {fresh : σ} (h : Holds fresh .start) :
    Holds (push fresh (some [0x7e,0xa0,0x07,0x07,0x21,0x11,0x74,0xc5,0x7e,
      0x7e,0xa0,0x07,0x07,0x21,0x11,0x74,0xc5,0x7e]) 18 (roomFor 0)).2 ⟨[],[receiveReadyFrame]⟩ := by
  have hdrain := receiveReadyPair_drains
  rw [← hO.scanner] at hdrain
  have husable := roomFor_usable 0
  have hfits : O.fits receiveReadyFrame (roomFor 0).cleared=true :=
    (hO.fits receiveReadyFrame (roomFor 0) husable).mpr (Nat.zero_le _)
  have hfeed : O.feed .start _=_ := Outlet.feed_ok (List.cons_ne_nil _ _) hdrain
  have hholds := (hO.answers h husable.toPresent (Pointer.some_readable
    [0x7e,0xa0,0x07,0x07,0x21,0x11,0x74,0xc5,0x7e,0x7e,0xa0,0x07,0x07,0x21,0x11,0x74,0xc5,0x7e] 18)).2
  rw [Pointer.read_some,List.take_of_length_le (Nat.le_refl 18),Outlet.push,hfeed] at hholds
  dsimp only at hholds
  rw [Outlet.take_fits rfl hfits] at hholds
  exact hholds

/-- A corrupt frame behind them is reported, and the one that waits stays. -/
theorem corruptFrame_leavesQueue :
    ¬ DlmsHdlcStreamDecoder.machine.Along
        (ResetBehind DlmsHdlcStreamDecoder.machine (.new none)) (.new none)
        [.push (some [0x7e,0xa0,0x07,0x07,0x21,0x11,0x74,0xc5,0x7e,
          0x7e,0xa0,0x07,0x07,0x21,0x11,0x74,0xc5,0x7e]) 18 (roomFor 0),
          .push (some [0x7e,0xa0,0x07,0x07,0x21,0x11,0x74,0xc4,0x7e]) 9 (roomFor 0)] ∧
      ¬ Go.StreamDecoderState.machine.Along
        (ResetBehind Go.StreamDecoderState.machine (.new none)) (.new none)
        [.push (some [0x7e,0xa0,0x07,0x07,0x21,0x11,0x74,0xc5,0x7e,
          0x7e,0xa0,0x07,0x07,0x21,0x11,0x74,0xc5,0x7e]) 18 (roomFor 0),
          .push (some [0x7e,0xa0,0x07,0x07,0x21,0x11,0x74,0xc4,0x7e]) 9 (roomFor 0)] := by
  have hfault : MeetsFault defaultHdlcCodecLimits []
      (.push (some [0x7e,0xa0,0x07,0x07,0x21,0x11,0x74,0xc4,0x7e]) 9 (roomFor 0)) := by
    refine ⟨(roomFor_usable 0).toPresent,Pointer.some_readable _ _,[],.invalidFrameChecksum,[],?_,
      by decide⟩
    exact @Reads.refused _ [] _ [] _ (by simp) corruptFrame_refused
  constructor
  · rintro ⟨_,hbehind,_⟩
    have hserves := DlmsHdlcStreamDecoder.serves (toCppLimits none)
    have hnew := DlmsHdlcStreamDecoder.holds_new none
    exact (hserves.resetBehind_iff (fun h => h.reset) (hserves.holds_second hnew) hnew _).mp hbehind
      ⟨hfault,List.cons_ne_nil _ _⟩
  · rintro ⟨_,hbehind,_⟩
    have hserves := Go.StreamDecoderState.serves (toCppLimits none)
    have hnew := Go.StreamDecoderState.holds_new none
    exact (hserves.resetBehind_iff (fun h => h.reset) (hserves.holds_second hnew) hnew _).mp hbehind
      ⟨hfault,List.cons_ne_nil _ _⟩

/-! Runs without a reset. -/

/-- The bytes that a call feeds. -/
def StreamCall.fed : StreamCall → List UInt8
  | .push data dataSize _ => data.read dataSize
  | .reset => []

/-- The frames returned with `OK`, as the caller finds them. -/
def returned (outputs : List (Option (HdlcStatus × FrameMemory))) : List ReceivedFrame :=
  outputs.filterMap fun
    | some (.ok,memory) => memory.received
    | _ => none

/-- A call without data. -/
def StreamCall.drain (memory : FrameMemory) : StreamCall := .push none 0 memory

namespace DlmsHdlcStreamDecoder

/-- A push of a readable chunk that takes no `Reset()` path, with a buffer of any size. -/
def Undisturbed (handle : DlmsHdlcStreamDecoder) : StreamCall → Prop
  | .push data dataSize memory => (data.read dataSize).length=dataSize ∧ memory.Usable ∧
      (0 < dataSize → handle.decoder.resetBy (data,dataSize)=none)
  | .reset => False

/-- What the calls have returned of the frames in the bytes they have fed. -/
structure ExactlyOnce (limits : Option DlmsHdlcLimits) (calls : List StreamCall)
    (frames : List HdlcFrameBuffer) : Prop where
  reads : Reads (toCppLimits limits) (calls.flatMap StreamCall.fed) frames none
  inOrder : returned (machine.outputs (.new limits) calls) <+: frames.map HdlcFrameBuffer.received
  needMoreData : ∀ {history call status memory}, calls=history ++ [call] →
    (machine.step (machine.final (.new limits) history) call).1=some (status,memory) →
    (status=.needMoreData ↔ returned (machine.outputs (.new limits) history)=
      frames.map HdlcFrameBuffer.received)
  tooSmall : ∀ {history data dataSize memory memory'},
    calls=history ++ [.push data dataSize memory] →
    (machine.step (machine.final (.new limits) history) (.push data dataSize memory)).1=
      some (.outputBufferTooSmall,memory') →
    ∃ f, (frames.drop (returned (machine.outputs (.new limits) calls)).length).head?=some f ∧
      memory.informationBufferSize.toNat < f.information.length
  drained : ∀ {next rooms},
    next <+: frames.drop (returned (machine.outputs (.new limits) calls)).length →
    List.Forall₂ (fun (f : HdlcFrameBuffer) (room : FrameMemory) => room.Usable ∧
      f.information.length ≤ room.informationBufferSize.toNat) next rooms →
    returned (machine.outputs (.new limits) (calls ++ rooms.map StreamCall.drain))=
      returned (machine.outputs (.new limits) calls) ++ next.map HdlcFrameBuffer.received

theorem returned_append (outputs others : List (Option (HdlcStatus × FrameMemory))) :
    returned (outputs ++ others)=returned outputs ++ returned others :=
  List.filterMap_append

variable {limits : HdlcCodecLimits} {handle : DlmsHdlcStreamDecoder}
  {state : Outlet.State UInt8 HdlcFrameBuffer}

theorem Holds.unique {other : Outlet.State UInt8 HdlcFrameBuffer} (h : Holds limits handle state)
    (hother : Holds limits handle other) : state=other := by
  apply Outlet.State.ext
  · exact h.buffer.symm.trans hother.buffer
  · exact h.pending.symm.trans hother.pending

/-- An undisturbed call is quiet. -/
theorem quiet_of_undisturbed (h : Holds limits handle state) {data : Pointer} {dataSize : ℕ}
    {memory : FrameMemory} (undisturbed : handle.Undisturbed (.push data dataSize memory)) :
    (outlet limits).Quiet state (data.read dataSize) := by
  obtain ⟨_,_,hreset⟩ := undisturbed
  rcases Nat.eq_zero_or_pos dataSize with rfl | hpos
  · rw [Pointer.read_zero]
    exact ⟨[],state.buffer,by rw [List.append_nil]; exact h.stable⟩
  · have hnone := hreset hpos
    rw [HdlcStreamDecoder.resetBy,h.options,h.buffer] at hnone
    dsimp only at hnone
    rcases hdrain : (HdlcStreamDecoder.scanner (ignoring limits)).drain
      (state.buffer ++ data.read dataSize) with ⟨frames,status | kept⟩
    · rw [hdrain] at hnone
      cases hnone
    · exact ⟨frames,kept,hdrain⟩

/-- What an undisturbed call reports: no frame, one that does not fit, or the first one. -/
inductive Turn (memory : FrameMemory) :
    HdlcStatus → List HdlcFrameBuffer → Outlet.State UInt8 HdlcFrameBuffer → Prop
  | empty {next : Outlet.State UInt8 HdlcFrameBuffer} (pending : next.pending=[]) :
      Turn memory .needMoreData [] next
  | small {next : Outlet.State UInt8 HdlcFrameBuffer} {f : HdlcFrameBuffer}
      (head : next.pending.head?=some f)
      (large : memory.informationBufferSize.toNat < f.information.length) :
      Turn memory .outputBufferTooSmall [] next
  | item (next : Outlet.State UInt8 HdlcFrameBuffer) (f : HdlcFrameBuffer) :
      Turn memory .ok [f] next

/-- One undisturbed call passes on what it reads. -/
theorem step_turn {input : List UInt8} {given : List HdlcFrameBuffer}
    (h : Holds limits handle state) (conserved : (outlet limits).Conserved state input given)
    {data : Pointer} {dataSize : ℕ} {memory : FrameMemory}
    (undisturbed : handle.Undisturbed (.push data dataSize memory)) :
    ∃ status memory' more next,
      (machine.step handle (.push data dataSize memory)).1=some (status,memory') ∧
      Holds limits (machine.step handle (.push data dataSize memory)).2 next ∧
      (outlet limits).Conserved next (input ++ data.read dataSize) (given ++ more) ∧
      returned [some (status,memory')]=more.map HdlcFrameBuffer.received ∧
      Turn memory status more next := by
  have hquiet := quiet_of_undisturbed h undisturbed
  obtain ⟨hsize,husable,_⟩ := undisturbed
  have hreadable : ¬ (data=none ∧ dataSize≠0) :=
    @HdlcStreamDecoder.readable_nonnull (data,dataSize) hsize
  obtain ⟨status,memory',after,next,hcall,hreply,hholds⟩ :=
    (serves limits).exists_reply h husable hreadable
  have hstep : machine.step handle (.push data dataSize memory)=(some (status,memory'),after) := by
    change (handle.push data dataSize memory).map some id=_
    rw [hcall]
    rfl
  have hnext : ((outlet limits).push state (data.read dataSize) memory.cleared).2=next :=
    Holds.unique ((h.push husable.toPresent hreadable).2) (by rw [hcall]; exact hholds)
  have hpass : (outlet limits).Conserved ((outlet limits).push state (data.read dataSize)
      memory.cleared).2 _ _ :=
    Outlet.push_conserved (HdlcStreamDecoder.scanner_incremental _) conserved hquiet
  rw [hnext] at hpass
  rw [hstep]
  obtain ⟨values,kept,_,hfeed,_⟩ := Outlet.feed_quiet (O := outlet limits)
    (HdlcStreamDecoder.scanner_incremental _) h.stable hquiet
  cases hreply with
  | failed feed =>
    rw [hfeed] at feed
    cases feed
  | empty feed pending =>
    rw [Outlet.push,feed] at hpass
    dsimp only at hpass
    rw [Outlet.take_nil pending] at hpass
    exact ⟨_,_,[],next,rfl,hholds,hpass,rfl,.empty pending⟩
  | small feed pending large =>
    rw [Outlet.push,feed] at hpass
    dsimp only at hpass
    rw [Outlet.take_small pending (decide_eq_false (Nat.not_le.mpr large))] at hpass
    exact ⟨_,_,[],next,rfl,hholds,hpass,rfl,.small (by rw [pending]; rfl) large⟩
  | @item fed f rest feed pending fits =>
    rw [Outlet.push,feed] at hpass
    dsimp only at hpass
    rw [Outlet.take_fits pending (decide_eq_true fits)] at hpass
    have hreceived := FrameMemory.received_handOut husable fits
    refine ⟨_,_,[f],_,rfl,hholds,hpass,?_,.item _ f⟩
    simp [returned,hreceived]

/-- So does a run of undisturbed calls. -/
theorem run_conserved {input : List UInt8} {given : List HdlcFrameBuffer} {calls : List StreamCall}
    (h : Holds limits handle state) (conserved : (outlet limits).Conserved state input given)
    (undisturbed : machine.Along Undisturbed handle calls) :
    ∃ more next, Holds limits (machine.final handle calls) next ∧
      (outlet limits).Conserved next (input ++ calls.flatMap StreamCall.fed) (given ++ more) ∧
      returned (machine.outputs handle calls)=more.map HdlcFrameBuffer.received := by
  induction calls generalizing handle state input given with
  | nil =>
    refine ⟨[],state,h,?_,rfl⟩
    simpa using conserved
  | cons call calls ih =>
    obtain ⟨hcall,hrest⟩ := undisturbed
    cases call with
    | reset => exact absurd hcall id
    | push data dataSize memory =>
      obtain ⟨status,memory',first,middle,hstep,hmiddle,hpass,hfirst,_⟩ :=
        step_turn h conserved hcall
      obtain ⟨more,next,hnext,hlater,hmore⟩ := ih hmiddle hpass hrest
      refine ⟨first ++ more,next,hnext,?_,?_⟩
      · rw [List.flatMap_cons,← List.append_assoc,← List.append_assoc]
        exact hlater
      · rw [Mealy.outputs_cons,hstep,← List.singleton_append,returned_append,hfirst,hmore,
          List.map_append]

/-- Calls without data hand out the frames that wait. -/
theorem drain_returns {frames rest : List HdlcFrameBuffer} {rooms : List FrameMemory}
    {buffer : List UInt8} (h : Holds limits handle ⟨buffer,frames ++ rest⟩)
    (fits : List.Forall₂ (fun (f : HdlcFrameBuffer) (room : FrameMemory) => room.Usable ∧
      f.information.length ≤ room.informationBufferSize.toNat) frames rooms) :
    returned (machine.outputs handle (rooms.map StreamCall.drain))=
      frames.map HdlcFrameBuffer.received := by
  induction fits generalizing handle with
  | nil => rfl
  | @cons f room frames rooms hroom _ ih =>
    obtain ⟨husable,hfits⟩ := hroom
    obtain ⟨status,memory',after,next,hcall,hreply,hholds⟩ :=
      (serves limits).exists_reply h husable (Pointer.zero_readable none)
    have hstep : machine.step handle (StreamCall.drain room)=(some (status,memory'),after) := by
      change (handle.push none 0 room).map some id=_
      rw [hcall]
      rfl
    rw [Pointer.read_zero] at hreply
    rw [List.map_cons,Mealy.outputs_cons,hstep,← List.singleton_append,returned_append]
    cases hreply with
    | failed feed => cases feed
    | empty feed pending =>
      cases feed
      cases pending
    | small feed pending large =>
      cases feed
      obtain ⟨rfl,_⟩ := List.cons.inj pending
      exact absurd large (Nat.not_lt.mpr hfits)
    | item feed pending fits =>
      cases feed
      obtain ⟨rfl,rfl⟩ := List.cons.inj pending
      have hreceived := FrameMemory.received_handOut husable fits
      rw [ih hholds,List.map_cons,← List.singleton_append]
      simp [returned,hreceived]

/-- The last call of a run, with what has been returned before it. -/
theorem last_turn {limits : Option DlmsHdlcLimits} {history : List StreamCall}
    {data : Pointer} {dataSize : ℕ} {memory : FrameMemory}
    (undisturbed : machine.Along Undisturbed (.new limits)
      (history ++ [.push data dataSize memory])) :
    ∃ given status memory' more next,
      (machine.step (machine.final (.new limits) history) (.push data dataSize memory)).1=
        some (status,memory') ∧
      Holds (toCppLimits limits)
        (machine.final (.new limits) (history ++ [.push data dataSize memory])) next ∧
      returned (machine.outputs (.new limits) history)=given.map HdlcFrameBuffer.received ∧
      returned (machine.outputs (.new limits) (history ++ [.push data dataSize memory]))=
        (given ++ more).map HdlcFrameBuffer.received ∧
      Turn memory status more next := by
  rw [Mealy.along_append] at undisturbed
  obtain ⟨hhistory,hcall,_⟩ := undisturbed
  have hstart : (outlet (toCppLimits limits)).Conserved .start [] [] :=
    HdlcStreamDecoder.scanner_drain_nil _
  obtain ⟨given,state,hstate,hpass,hgiven⟩ := run_conserved (holds_new limits) hstart hhistory
  obtain ⟨status,memory',more,next,hstep,hnext,_,hmore,hturn⟩ := step_turn hstate hpass hcall
  refine ⟨given,status,memory',more,next,hstep,?_,hgiven,?_,hturn⟩
  · rw [Mealy.final_append]
    exact hnext
  · rw [Mealy.outputs_append,returned_append,hgiven,Mealy.outputs_cons,hstep,Mealy.outputs_nil,hmore,
      List.map_append]

/-- In a run that takes no reset path, every frame of the bytes fed so far is returned once and in
order: a small buffer takes nothing away, more data is asked for only when all has been returned,
and calls without data return the rest. -/
theorem returns_exactlyOnce {limits : Option DlmsHdlcLimits} {calls : List StreamCall}
    (undisturbed : machine.Along Undisturbed (.new limits) calls) :
    ∃ frames, ExactlyOnce limits calls frames := by
  have hstart : (outlet (toCppLimits limits)).Conserved .start [] [] :=
    HdlcStreamDecoder.scanner_drain_nil _
  obtain ⟨given,next,hnext,hpass,hreturned⟩ := run_conserved (holds_new limits) hstart undisturbed
  rw [List.nil_append,List.nil_append] at hpass
  have hrest : (given ++ next.pending).drop (returned (machine.outputs (.new limits) calls)).length=
      next.pending := by
    rw [hreturned,List.length_map,List.drop_left]
  refine ⟨given ++ next.pending,HdlcStreamDecoder.reads_none_iff.mpr ⟨_,hpass⟩,?_,?_,?_,?_⟩
  · rw [hreturned,List.map_append]
    exact List.prefix_append _ _
  · rintro history call status memory rfl hstep
    cases call with
    | reset => cases hstep
    | push data dataSize room =>
      obtain ⟨before,status',memory',more,last,hlast,hholds,hbefore,hafter,hturn⟩ :=
        last_turn undisturbed
      cases hlast.symm.trans hstep
      obtain rfl := hnext.unique hholds
      obtain rfl := HdlcFrameBuffer.received_injective.list_map (hreturned.symm.trans hafter)
      rw [hbefore,List.append_assoc,
        HdlcFrameBuffer.received_injective.list_map.eq_iff,List.self_eq_append_right,
        List.append_eq_nil_iff]
      cases hturn with
      | empty pending => exact iff_of_true rfl ⟨rfl,pending⟩
      | small head =>
        refine iff_of_false (by decide) fun hnone => ?_
        rw [hnone.2] at head
        cases head
      | item => exact iff_of_false (by decide) fun hnone => List.cons_ne_nil _ _ hnone.1
  · rintro history data dataSize memory memory' rfl hstep
    obtain ⟨before,status',room,more,last,hlast,hholds,_,_,hturn⟩ := last_turn undisturbed
    cases hlast.symm.trans hstep
    obtain rfl := hnext.unique hholds
    rw [hrest]
    cases hturn with
    | small head large => exact ⟨_,head,large⟩
  · intro frames rooms hprefix hfits
    rw [hrest] at hprefix
    obtain ⟨rest,hrest⟩ := hprefix
    have hholds : Holds (toCppLimits limits) (machine.final (.new limits) calls)
        ⟨next.buffer,frames ++ rest⟩ := by
      rw [hrest]
      exact hnext
    rw [Mealy.outputs_append,returned_append,drain_returns hholds hfits]

/-- A frame with three bytes of Information and a Receive Ready frame, from one chunk: the buffer is
too small twice. -/
theorem smallBuffer_exactlyOnce :
    let chunk := sampleFrame.toBuffer.wire ++ [0x7e,0xa0,0x07,0x07,0x21,0x11,0x74,0xc5,0x7e]
    ∃ frames, ExactlyOnce none [.push (some chunk) 23 (roomFor 2),.drain (roomFor 0),
      .drain (roomFor 3),.drain (roomFor 0),.drain (roomFor 0)] frames := by
  intro chunk
  apply returns_exactlyOnce
  have hdrain (handle : DlmsHdlcStreamDecoder) (size : ℕ) :
      handle.Undisturbed (.drain (roomFor size)) :=
    ⟨rfl,roomFor_usable size,fun hpos => absurd hpos (Nat.lt_irrefl 0)⟩
  have hquiet : (DlmsHdlcStreamDecoder.new none).decoder.resetBy (some chunk,23)=none := by
    have hfits : sampleFrame.toBuffer.Fits (ignoring defaultHdlcCodecLimits).limits := by decide
    have hfirst := (HdlcFrameBuffer.decodeFrame_image_eq_ok_iff _ _ hfits.format_le _).mpr
      ⟨hfits,rfl⟩
    have hsecond : decodeFrame (some [0x7e,0xa0,0x07,0x07,0x21,0x11,0x74,0xc5,0x7e])
        ([0x7e,0xa0,0x07,0x07,0x21,0x11,0x74,0xc5,0x7e] : List UInt8).length
        (ignoring defaultHdlcCodecLimits).limits=.ok receiveReadyFrame := receiveReadyFrame_decodes
    have hdrain := drain_decoded hfirst
      (drain_decoded hsecond (HdlcStreamDecoder.scanner_drain_nil _))
    rw [List.append_nil] at hdrain
    apply HdlcStreamDecoder.resetBy_of_drain
    exact hdrain
  exact ⟨⟨rfl,roomFor_usable 2,fun _ => hquiet⟩,hdrain _ 0,hdrain _ 3,hdrain _ 0,hdrain _ 0,trivial⟩

end DlmsHdlcStreamDecoder
end DlmsHdlc
