import DlmsHdlc.CApi.GoCalls
import DlmsHdlc.Library.Outlet

/-! The stream decoder handles of both libraries are queues behind one scanner. They differ in what a
truncated address inside a complete frame leaves, and in which null buffers have room. -/
namespace DlmsHdlc
open Machine Scanning Buffer

/-- The statuses of input that is refused: not those of success, of a small buffer or of an argument
that is not valid. -/
structure HdlcStatus.IsFault (status : HdlcStatus) : Prop where
  ne_ok : status≠.ok
  ne_small : status≠.outputBufferTooSmall
  ne_invalid : status≠.invalidArgument

instance (status : HdlcStatus) : Decidable status.IsFault :=
  decidable_of_iff (status≠.ok ∧ status≠.outputBufferTooSmall ∧ status≠.invalidArgument)
    ⟨fun h => ⟨h.1,h.2.1,h.2.2⟩,fun h => ⟨h.1,h.2,h.3⟩⟩

/-- A decode error: any status other than `OK`, `NEED_MORE_DATA`, `OUTPUT_BUFFER_TOO_SMALL` and
`INVALID_ARGUMENT`. -/
def HdlcStatus.IsDecodeError (status : HdlcStatus) : Prop :=
  status.IsFault ∧ status≠.needMoreData

theorem HdlcAddress.fromBytesLoop_fault {rawValue : UInt32} {index : ℕ} {bytes : List UInt8}
    {status : HdlcStatus} (h : fromBytesLoop rawValue index bytes=.error status) :
    status.IsFault := by
  induction bytes generalizing rawValue index with
  | nil =>
    simp only [fromBytesLoop,Except.error.injEq] at h
    subst h
    split <;> decide
  | cons byte rest ih =>
    rw [fromBytesLoop] at h
    repeat' split at h
    all_goals first | exact ih h | (cases h; decide) | cases h

theorem HdlcAddress.fromBytes_fault {data : List UInt8} {status : HdlcStatus}
    (h : fromBytes (some data)=.error status) : status.IsFault := by
  simp only [fromBytes] at h
  split at h
  · rename_i hl
    cases h
    exact fromBytesLoop_fault hl
  · cases h

theorem checkFormat_fault {input : List UInt8} {inputSize : ℕ} {limits : HdlcCodecLimits}
    {status : HdlcStatus} (h : checkFormat input inputSize limits=.error status) :
    status.IsFault := by
  unfold checkFormat at h
  dsimp only at h
  repeat' split at h
  all_goals cases h
  all_goals decide

theorem decodeHeader_fault {input : List UInt8} {fullFrameSize : ℕ} {status : HdlcStatus}
    (h : decodeHeader input fullFrameSize=.error status) : status.IsFault := by
  unfold decodeHeader at h
  dsimp only at h
  split at h
  · rename_i hd
    cases h
    exact HdlcAddress.fromBytes_fault hd
  split at h
  · rename_i hs
    cases h
    exact HdlcAddress.fromBytes_fault hs
  split at h
  · cases h
    decide
  split at h
  · rename_i hc
    cases h
    rw [HdlcControl.decode_error hc]
    decide
  · cases h

theorem checkSequences_fault {input : List UInt8} {formatFieldLength offset : ℕ}
    {status : HdlcStatus} (h : checkSequences input formatFieldLength offset=.error status) :
    status.IsFault := by
  unfold checkSequences at h
  dsimp only at h
  repeat' split at h
  all_goals cases h
  all_goals decide

/-- The owning decoder has room for every frame. -/
theorem decodeFrame_fault {input : List UInt8} {size : ℕ} (hsize : size ≤ input.length)
    {limits : HdlcCodecLimits} {status : HdlcStatus}
    (h : decodeFrame (some input) size limits=.error status) : status.IsFault := by
  obtain ⟨front,hfront,hlength⟩ : ∃ front, front=input.take size ∧ front.length=size :=
    ⟨_,rfl,List.length_take_of_le hsize⟩
  rw [decodeFrame_eq_parseFrame,← hfront,← hlength,parseFrame] at h
  split at h
  · rename_i hformat
    cases h
    exact checkFormat_fault hformat
  rename_i hformat
  dsimp only at h
  split at h
  · rename_i hheader
    cases h
    exact decodeHeader_fault hheader
  rename_i hheader
  split at h
  · rename_i hsequences
    cases h
    exact checkSequences_fault hsequences
  rename_i hsequences
  have hroom := Go.information_length_le hformat hheader hsequences
  rw [if_neg (Nat.not_lt.mpr hroom)] at h
  split at h <;> cases h
  decide

namespace HdlcStreamDecoder

theorem scan_fail_fault {options : HdlcStreamDecoderOptions} {buffer : List UInt8}
    {status : HdlcStatus} (h : scan options buffer=.fail status) : status.IsFault := by
  unfold scan scanFrame at h
  dsimp only at h
  repeat' split at h
  all_goals cases h
  all_goals first | decide | skip
  rename_i hfull _ hdecode
  exact decodeFrame_fault (Nat.not_lt.mp hfull) hdecode

/-- No fault has the status of success. -/
theorem drain_error_fault {options : HdlcStreamDecoderOptions} {buffer : List UInt8}
    {frames : List HdlcFrameBuffer} {status : HdlcStatus}
    (h : (scanner options).drain buffer=(frames,.error status)) : status.IsFault := by
  induction hn : buffer.length using Nat.strong_induction_on generalizing buffer frames with
  | _ n ih =>
    subst hn
    cases hscan : (scanner options).scan buffer with
    | wait kept => simp [Scanner.drain_wait hscan] at h
    | fail error =>
      rw [Scanner.drain_fail hscan,Prod.mk.injEq,Except.error.injEq] at h
      rw [← h.2]
      exact scan_fail_fault hscan
    | item frame rest =>
      rw [Scanner.drain_item hscan,Prod.mk.injEq] at h
      exact ih _ ((scanner options).progress hscan) (Prod.ext rfl h.2) rfl

end HdlcStreamDecoder

@[simp] theorem Pointer.read_zero (data : Pointer) : data.read 0=[] := by simp [Pointer.read]

/-- What has been copied into a buffer is its front. -/
theorem read_overwrite {buffer : Pointer} {information : List UInt8}
    (present : buffer≠none ∨ information=[]) :
    Pointer.read (if 0 < information.length then
      buffer.map fun bytes => overwrite bytes 0 information else buffer) information.length=
        information := by
  rcases List.eq_nil_or_concat information with rfl | ⟨_,_,hcons⟩
  · exact Pointer.read_zero _
  · have hpos : 0 < information.length := by simp [hcons]
    obtain ⟨bytes,rfl⟩ := Option.ne_none_iff_exists'.mp
      (present.resolve_right (List.ne_nil_of_length_pos hpos))
    simp only [hpos,↓reduceIte,Option.map_some,Pointer.read_some,overwrite]
    simp

/-- What a call reports of the answer of a queue, and where. -/
def FrameMemory.answered (memory : FrameMemory) :
    Answer HdlcFrameBuffer HdlcStatus → HdlcStatus × FrameMemory
  | .failed status => (status,memory)
  | .empty => (.needMoreData,memory)
  | .small => (.outputBufferTooSmall,memory)
  | .item f => (.ok,memory.handOut f)

/-- The pointers to the frame and to the size of its Information are not null. -/
structure FrameMemory.Present (memory : FrameMemory) : Prop where
  frame : memory.frame≠none
  informationSize : memory.informationSize≠none

theorem FrameMemory.not_present_iff {memory : FrameMemory} :
    memory.cleared.frame=none ∨ memory.cleared.informationSize=none ↔ ¬ memory.Present := by
  have hsize : memory.cleared.informationSize=none ↔ memory.informationSize=none :=
    Option.map_eq_none_iff
  rw [hsize]
  constructor
  · rintro (h | h) hpresent
    · exact hpresent.frame h
    · exact hpresent.informationSize h
  · intro h
    by_contra hnone
    rw [not_or] at hnone
    exact h ⟨hnone.1,hnone.2⟩

/-- The calls on one stream decoder handle. -/
inductive StreamCall
  | push (data : Pointer) (dataSize : ℕ) (memory : FrameMemory)
  | reset

/-- Successive calls on a handle of either library, a reset without a result. -/
def streamMachine {σ : Type*}
    (push : σ → Pointer → ℕ → FrameMemory → (HdlcStatus × FrameMemory) × σ) (reset : σ → σ) :
    Mealy σ StreamCall (Option (HdlcStatus × FrameMemory)) where
  step handle
    | .push data dataSize memory => (push handle data dataSize memory).map some id
    | .reset => (none,reset handle)

namespace DlmsHdlcStreamDecoder
open HdlcStreamDecoder

/-- Successive calls on a handle. -/
def machine : Mealy DlmsHdlcStreamDecoder StreamCall (Option (HdlcStatus × FrameMemory)) :=
  streamMachine push reset

/-- Frames in front of a truncated address are kept, and the size alone says what fits. -/
def outlet (limits : HdlcCodecLimits) : Outlet UInt8 HdlcFrameBuffer HdlcStatus FrameMemory where
  scanner := scanner (ignoring limits)
  silent status := status == .needMoreData
  keeps := true
  fits f memory := f.information.length ≤ memory.informationBufferSize.toNat

/-- The handle holds what the queue holds. -/
structure Holds (limits : HdlcCodecLimits) (handle : DlmsHdlcStreamDecoder)
    (state : Outlet.State UInt8 HdlcFrameBuffer) : Prop where
  options : handle.decoder.options=ignoring limits
  buffer : handle.decoder.buffer=state.buffer
  pending : handle.pending=state.pending
  stable : (scanner (ignoring limits)).drain state.buffer=([],.ok state.buffer)

theorem holds_new (limits : Option DlmsHdlcLimits) :
    Holds (toCppLimits limits) (.new limits) .start where
  options := rfl
  buffer := rfl
  pending := rfl
  stable := scanner_drain_nil _

namespace Holds
variable {limits : HdlcCodecLimits} {handle : DlmsHdlcStreamDecoder}
  {state : Outlet.State UInt8 HdlcFrameBuffer} (h : Holds limits handle state)
include h

theorem reset : Holds limits handle.reset .start where
  options := h.options
  buffer := rfl
  pending := rfl
  stable := scanner_drain_nil _

/-- Feeding the handle is feeding the queue. -/
theorem feed {data : Pointer} {dataSize : ℕ} (readable : ¬ (data=none ∧ dataSize≠0)) :
    (handle.feed data dataSize).1=((outlet limits).feed state (data.read dataSize)).1 ∧
      Holds limits (handle.feed data dataSize).2
        ((outlet limits).feed state (data.read dataSize)).2 := by
  rcases Nat.eq_zero_or_pos dataSize with rfl | hpos
  · have hnone : data.read 0=[] := by simp [Pointer.read]
    rw [hnone]
    exact ⟨rfl,h⟩
  rcases hdrain : (scanner (ignoring limits)).drain (state.buffer ++ data.read dataSize)
    with ⟨frames,status | kept⟩
  · have hnonempty := Outlet.nonempty_of_error (O := outlet limits) h.stable _ hdrain
    have hpush : handle.decoder.push data dataSize=((status,frames),handle.decoder.reset) := by
      rw [HdlcStreamDecoder.push,if_neg readable,h.options,h.buffer,hdrain]
    rw [Outlet.feed_error hnonempty hdrain,DlmsHdlcStreamDecoder.feed,if_pos hpos,hpush]
    by_cases hmore : status=.needMoreData
    · rw [hmore,if_pos (by rfl)]
      refine ⟨rfl,h.options,rfl,?_,scanner_drain_nil _⟩
      exact congrArg (· ++ frames) h.pending
    · have hsilent : ¬ (outlet limits).silent status=true := by simpa [outlet] using hmore
      have herror : status≠.ok ∧ status≠.needMoreData := ⟨(drain_error_fault hdrain).ne_ok,hmore⟩
      dsimp only
      rw [if_pos herror,if_neg hsilent]
      exact ⟨rfl,h.options,rfl,h.pending,scanner_drain_nil _⟩
  · have hpush : handle.decoder.push data dataSize=((if frames.isEmpty then .needMoreData else .ok,
        frames),{ handle.decoder with buffer := kept }) := by
      rw [HdlcStreamDecoder.push,if_neg readable]
      simp only [h.options,h.buffer,hdrain]
    have hfeed : handle.feed data dataSize=
        (none,⟨{ handle.decoder with buffer := kept },handle.pending ++ frames⟩) := by
      rw [DlmsHdlcStreamDecoder.feed,if_pos hpos,hpush]
      exact if_neg (by cases frames <;> simp)
    have hkept := (scanner_incremental (ignoring limits)).drain_kept hdrain
    obtain ⟨values,kept',hquiet,hqueue,_⟩ := Outlet.feed_quiet (O := outlet limits)
      (scanner_incremental _) h.stable ⟨frames,kept,hdrain⟩
    cases hdrain.symm.trans hquiet
    rw [hfeed,hqueue]
    exact ⟨rfl,h.options,rfl,congrArg (· ++ frames) h.pending,hkept⟩

/-- The rest of the call is an answer of the queue. -/
theorem front (memory : FrameMemory) :
    (handle.front memory).1=memory.answered ((outlet limits).take state memory).1 ∧
      Holds limits (handle.front memory).2 ((outlet limits).take state memory).2 := by
  unfold DlmsHdlcStreamDecoder.front
  rw [h.pending]
  cases hpending : state.pending with
  | nil =>
    rw [Outlet.take_nil hpending]
    exact ⟨rfl,h⟩
  | cons f pending =>
    dsimp only
    split
    · rename_i hless
      rw [Outlet.take_small hpending (by simpa [outlet] using hless)]
      exact ⟨rfl,h⟩
    · rename_i hfits
      rw [Outlet.take_fits hpending (by simpa [outlet] using hfits)]
      exact ⟨rfl,h.options,h.buffer,rfl,h.stable⟩

/-- A call with its pointers is an answer of the queue. -/
theorem push {data : Pointer} {dataSize : ℕ} {memory : FrameMemory} (present : memory.Present)
    (readable : ¬ (data=none ∧ dataSize≠0)) :
    (handle.push data dataSize memory).1=memory.cleared.answered
        ((outlet limits).push state (data.read dataSize) memory.cleared).1 ∧
      Holds limits (handle.push data dataSize memory).2
        ((outlet limits).push state (data.read dataSize) memory.cleared).2 := by
  have hpush : handle.push data dataSize memory=
      handle.advance data dataSize memory.cleared := by
    rw [DlmsHdlcStreamDecoder.push,if_neg (mt FrameMemory.not_present_iff.mp (not_not.mpr present)),
      if_neg readable]
  obtain ⟨hstatus,hholds⟩ := h.feed readable
  rw [hpush,DlmsHdlcStreamDecoder.advance,Outlet.push]
  rcases hfeed : handle.feed data dataSize with ⟨status,fed⟩
  rcases hqueue : (outlet limits).feed state (data.read dataSize) with ⟨error,next⟩
  rw [hfeed,hqueue] at hstatus hholds
  cases hstatus
  cases status with
  | some status => exact ⟨rfl,hholds⟩
  | none => exact hholds.front memory.cleared

end Holds

/-- A call without them changes nothing. -/
theorem push_invalid (handle : DlmsHdlcStreamDecoder) {data : Pointer} {dataSize : ℕ}
    {memory : FrameMemory} (h : ¬ memory.Present ∨ data=none ∧ dataSize≠0) :
    handle.push data dataSize memory=((.invalidArgument,memory.cleared),handle) := by
  rw [push]
  by_cases hpresent : memory.Present
  · rw [if_neg (mt FrameMemory.not_present_iff.mp (not_not.mpr hpresent)),
      if_pos (h.resolve_left (not_not.mpr hpresent))]
  · rw [if_pos (FrameMemory.not_present_iff.mpr hpresent)]

end DlmsHdlcStreamDecoder
namespace Go

namespace StreamDecoderState
open HdlcStreamDecoder (ignoring scanner scanner_incremental scanner_drain_nil)

/-- Successive calls on a handle. -/
def machine : Mealy StreamDecoderState StreamCall (Option (HdlcStatus × FrameMemory)) :=
  streamMachine push reset

/-- Frames in front of a truncated address are dropped, and Information needs a buffer. -/
def outlet (limits : HdlcCodecLimits) : Outlet UInt8 HdlcFrameBuffer HdlcStatus FrameMemory where
  scanner := scanner (ignoring limits)
  silent status := status == .needMoreData
  keeps := false
  fits f memory := ¬ (0 < f.information.length ∧
    (infoSlice memory).all (fun ibuf => ibuf.length < f.information.length))

/-- The handle holds what the queue holds. -/
structure Holds (limits : HdlcCodecLimits) (handle : StreamDecoderState)
    (state : Outlet.State UInt8 HdlcFrameBuffer) : Prop where
  options : handle.decoder.options=ofOptions (ignoring limits)
  buffer : handle.decoder.buffer=state.buffer
  pending : handle.pendingFrames=state.pending.map ofFrame
  stable : (scanner (ignoring limits)).drain state.buffer=([],.ok state.buffer)

theorem toLimits_eq (climits : Option DlmsHdlcLimits) :
    toLimits climits=ofLimits (toCppLimits climits) := by
  cases climits <;> rfl

theorem holds_new (climits : Option DlmsHdlcLimits) :
    Holds (toCppLimits climits) (.new climits) .start where
  options := by
    rw [new,toLimits_eq]
    rfl
  buffer := rfl
  pending := rfl
  stable := scanner_drain_nil _

namespace Holds
variable {limits : HdlcCodecLimits} {handle : StreamDecoderState}
  {state : Outlet.State UInt8 HdlcFrameBuffer} (h : Holds limits handle state)
include h

theorem reset : Holds limits handle.reset .start where
  options := h.options
  buffer := rfl
  pending := rfl
  stable := scanner_drain_nil _

theorem decoder_push (chunk : List UInt8) :
    handle.decoder.push chunk=
      let drained := (scanner (ignoring limits)).drain (state.buffer ++ chunk)
      ((StreamDecoder.afterDrain [] drained).1,
        { handle.decoder with buffer := (StreamDecoder.afterDrain [] drained).2 }) := by
  rw [StreamDecoder.push,h.options,h.buffer,StreamDecoder.pushLoop_eq,← h.options]

/-- Feeding the handle is feeding the queue. -/
theorem feed {data : Pointer} {dataSize : ℕ} (readable : ¬ (data=none ∧ dataSize≠0)) :
    (handle.feed data dataSize).1=((outlet limits).feed state (data.read dataSize)).1 ∧
      Holds limits (handle.feed data dataSize).2
        ((outlet limits).feed state (data.read dataSize)).2 := by
  rcases Nat.eq_zero_or_pos dataSize with rfl | hpos
  · have hnone : data.read 0=[] := by simp [Pointer.read]
    rw [hnone]
    exact ⟨rfl,h⟩
  obtain ⟨bytes,rfl⟩ : ∃ bytes, data=some bytes :=
    Option.ne_none_iff_exists'.mp fun hnone => readable ⟨hnone,by omega⟩
  rw [Pointer.read_some]
  rcases hdrain : (scanner (ignoring limits)).drain (state.buffer ++ bytes.take dataSize)
    with ⟨frames,status | kept⟩
  · have hnonempty := Outlet.nonempty_of_error (O := outlet limits) h.stable _ hdrain
    have hpush : handle.decoder.push (bytes.take dataSize)=
        (([],status),{ handle.decoder with buffer := [] }) := by
      rw [h.decoder_push,hdrain]
      rfl
    rw [Outlet.feed_error hnonempty hdrain,StreamDecoderState.feed,if_pos hpos]
    dsimp only
    rw [hpush]
    by_cases hmore : status=.needMoreData
    · rw [hmore,if_neg (by simp),if_pos (by rfl)]
      refine ⟨rfl,h.options,rfl,?_,scanner_drain_nil _⟩
      change handle.pendingFrames ++ []=List.map ofFrame (state.pending ++ [])
      rw [List.append_nil,List.append_nil,h.pending]
    · have hsilent : ¬ (outlet limits).silent status=true := by simpa [outlet] using hmore
      have herror : status≠.ok ∧ status≠.needMoreData :=
        ⟨(HdlcStreamDecoder.drain_error_fault hdrain).ne_ok,hmore⟩
      dsimp only
      rw [if_pos herror,if_neg hsilent]
      exact ⟨rfl,h.options,rfl,h.pending,scanner_drain_nil _⟩
  · have hpush : handle.decoder.push (bytes.take dataSize)=
        ((frames.map ofFrame,if frames.isEmpty then .needMoreData else .ok),
          { handle.decoder with buffer := kept }) := by
      rw [h.decoder_push,hdrain]
      cases frames <;> rfl
    have hfeed : handle.feed (some bytes) dataSize=
        (none,⟨{ handle.decoder with buffer := kept },handle.pendingFrames ++ frames.map ofFrame⟩) := by
      rw [StreamDecoderState.feed,if_pos hpos]
      dsimp only
      rw [hpush]
      exact if_neg (by cases frames <;> simp)
    have hkept := (scanner_incremental (ignoring limits)).drain_kept hdrain
    obtain ⟨values,kept',hquiet,hqueue,_⟩ := Outlet.feed_quiet (O := outlet limits)
      (scanner_incremental _) h.stable ⟨frames,kept,hdrain⟩
    cases hdrain.symm.trans hquiet
    rw [hfeed,hqueue]
    refine ⟨rfl,h.options,rfl,?_,hkept⟩
    rw [List.map_append,← h.pending]

/-- The rest of the call is an answer of the queue. -/
theorem front (memory : FrameMemory) :
    (handle.front memory).1=memory.answered ((outlet limits).take state memory).1 ∧
      Holds limits (handle.front memory).2 ((outlet limits).take state memory).2 := by
  unfold StreamDecoderState.front
  rw [h.pending]
  cases hpending : state.pending with
  | nil =>
    rw [Outlet.take_nil hpending]
    exact ⟨rfl,h⟩
  | cons f pending =>
    rw [List.map_cons]
    dsimp only
    split
    · rename_i hless
      rw [Outlet.take_small hpending (decide_eq_false (not_not.mpr hless))]
      refine ⟨rfl,h.options,h.buffer,?_,h.stable⟩
      rw [hpending]
      rfl
    · rename_i hfits
      rw [Outlet.take_fits hpending (decide_eq_true hfits)]
      exact ⟨rfl,h.options,h.buffer,rfl,h.stable⟩

/-- A call with its pointers is an answer of the queue. -/
theorem push {data : Pointer} {dataSize : ℕ} {memory : FrameMemory} (present : memory.Present)
    (readable : ¬ (data=none ∧ dataSize≠0)) :
    (handle.push data dataSize memory).1=memory.cleared.answered
        ((outlet limits).push state (data.read dataSize) memory.cleared).1 ∧
      Holds limits (handle.push data dataSize memory).2
        ((outlet limits).push state (data.read dataSize) memory.cleared).2 := by
  have hpush : handle.push data dataSize memory=
      handle.advance data dataSize memory.cleared := by
    rw [StreamDecoderState.push,
      if_neg (mt FrameMemory.not_present_iff.mp (not_not.mpr present))]
  obtain ⟨hstatus,hholds⟩ := h.feed readable
  rw [hpush,StreamDecoderState.advance,Outlet.push]
  rcases hfeed : handle.feed data dataSize with ⟨status,fed⟩
  rcases hqueue : (outlet limits).feed state (data.read dataSize) with ⟨error,next⟩
  rw [hfeed,hqueue] at hstatus hholds
  cases hstatus
  cases status with
  | some status => exact ⟨rfl,hholds⟩
  | none => exact hholds.front memory.cleared

end Holds

/-- A call without them changes nothing. -/
theorem push_invalid (handle : StreamDecoderState) {data : Pointer} {dataSize : ℕ}
    {memory : FrameMemory} (h : ¬ memory.Present ∨ data=none ∧ dataSize≠0) :
    handle.push data dataSize memory=((.invalidArgument,memory.cleared),handle) := by
  rw [push]
  by_cases hpresent : memory.Present
  · obtain ⟨rfl,hsize⟩ := h.resolve_left (not_not.mpr hpresent)
    rw [if_neg (mt FrameMemory.not_present_iff.mp (not_not.mpr hpresent)),advance,feed,
      if_pos (Nat.pos_of_ne_zero hsize)]
  · rw [if_pos (FrameMemory.not_present_iff.mpr hpresent)]

end StreamDecoderState
end Go
end DlmsHdlc
