import DlmsHdlc.CApi.Agreement
import DlmsHdlc.CApi.Repetition

/-! The two libraries behind one header, as machines over the calls of a program, and the programs
that cannot tell which of them is linked. The pointer arguments of one call point into memory that
does not overlap. -/
namespace DlmsHdlc
open Machine

/-- The calls of a program. A handle is a null pointer or the number of the object it stands for. -/
inductive AbiCall
  | encodeFrame (frame : Option DlmsHdlcFrame) (limits : Option DlmsHdlcLimits) (output : Pointer)
      (outputSize : ℕ) (writtenSize : Option UInt64)
  | decodeFrame (input : Pointer) (inputSize : ℕ) (limits : Option DlmsHdlcLimits)
      (memory : FrameMemory)
  | streamDecoderCreate (limits : Option DlmsHdlcLimits) (hasOutput : Bool)
  | streamDecoderDestroy (decoder : Option ℕ)
  | streamDecoderReset (decoder : Option ℕ)
  | streamDecoderPush (decoder : Option ℕ) (data : Pointer) (dataSize : ℕ) (memory : FrameMemory)
  | reassemblerCreate (limits : Option DlmsHdlcLimits) (hasOutput : Bool)
  | reassemblerDestroy (reassembler : Option ℕ)
  | reassemblerReset (reassembler : Option ℕ)
  | reassemblerPushFrame (reassembler : Option ℕ) (inputFrame : Option DlmsHdlcFrame)
      (output : CompletedMemory)

/-- What a call returns and leaves in the caller's memory. -/
inductive AbiResult
  | nothing
  | panicked
  | created (status : HdlcStatus) (handle : Option ℕ)
  | encoded (result : HdlcStatus × Pointer × Option UInt64)
  | frame (result : HdlcStatus × FrameMemory)
  | completed (result : HdlcStatus × CompletedMemory)
  deriving DecidableEq, Repr

/-- The functions of a library, with the objects behind its two kinds of handles. -/
structure Library (δ ρ : Type*) where
  encodeFrame : Option DlmsHdlcFrame → Option DlmsHdlcLimits → Pointer → ℕ → Option UInt64 →
    Option (HdlcStatus × Pointer × Option UInt64)
  decodeFrame : Pointer → ℕ → Option DlmsHdlcLimits → FrameMemory → HdlcStatus × FrameMemory
  newDecoder : Option DlmsHdlcLimits → δ
  resetDecoder : δ → δ
  pushDecoder : Option δ → Pointer → ℕ → FrameMemory → (HdlcStatus × FrameMemory) × Option δ
  newReassembler : Option DlmsHdlcLimits → ρ
  resetReassembler : ρ → ρ
  pushReassembler : Option ρ → Option DlmsHdlcFrame → CompletedMemory →
    Option ((HdlcStatus × CompletedMemory) × Option ρ)

def cppLibrary : Library DlmsHdlcStreamDecoder DlmsHdlcReassembler where
  encodeFrame frame limits output outputSize writtenSize :=
    some (dlmsHdlcEncodeFrame frame limits output outputSize writtenSize)
  decodeFrame := dlmsHdlcDecodeFrame
  newDecoder := .new
  resetDecoder := .reset
  pushDecoder := dlmsHdlcStreamDecoderPush
  newReassembler := .new
  resetReassembler := .reset
  pushReassembler reassembler inputFrame output :=
    some (dlmsHdlcReassemblerPushFrame reassembler inputFrame output)

def goLibrary : Library Go.StreamDecoderState Go.Reassembler where
  encodeFrame := Go.dlmsHdlcEncodeFrame
  decodeFrame := Go.dlmsHdlcDecodeFrame
  newDecoder := .new
  resetDecoder := .reset
  pushDecoder := Go.dlmsHdlcStreamDecoderPush
  newReassembler limits := .newReassembler (Go.toLimits limits)
  resetReassembler := .reset
  pushReassembler := Go.dlmsHdlcReassemblerPushFrame

/-- The objects that live, and the number of the next one. -/
structure LibraryState (δ ρ : Type*) where
  decoders : ℕ → Option δ
  reassemblers : ℕ → Option ρ
  next : ℕ

namespace LibraryState
variable {δ ρ : Type*}

def start : LibraryState δ ρ := ⟨fun _ => none,fun _ => none,0⟩

def setDecoder (state : LibraryState δ ρ) (handle : Option ℕ) (object : Option δ) :
    LibraryState δ ρ :=
  match handle with
  | none => state
  | some id => { state with decoders := Function.update state.decoders id object }

def setReassembler (state : LibraryState δ ρ) (handle : Option ℕ) (object : Option ρ) :
    LibraryState δ ρ :=
  match handle with
  | none => state
  | some id => { state with reassemblers := Function.update state.reassemblers id object }

end LibraryState

namespace Library
variable {δ ρ : Type*} (library : Library δ ρ)

/-- One call. A program does not use a handle that it has destroyed; such a call is taken for one
with a null pointer. -/
def step (state : LibraryState δ ρ) : AbiCall → AbiResult × LibraryState δ ρ
  | .encodeFrame frame limits output outputSize writtenSize =>
    match library.encodeFrame frame limits output outputSize writtenSize with
    | none => (.panicked,state)
    | some result => (.encoded result,state)
  | .decodeFrame input inputSize limits memory =>
    (.frame (library.decodeFrame input inputSize limits memory),state)
  | .streamDecoderCreate limits hasOutput =>
    if hasOutput then
      (.created .ok (some state.next),
        { state.setDecoder (some state.next) (some (library.newDecoder limits)) with
          next := state.next+1 })
    else (.created .invalidArgument none,state)
  | .streamDecoderDestroy decoder => (.nothing,state.setDecoder decoder none)
  | .streamDecoderReset decoder =>
    (.nothing,state.setDecoder decoder ((decoder.bind state.decoders).map library.resetDecoder))
  | .streamDecoderPush decoder data dataSize memory =>
    let (result,object) := library.pushDecoder (decoder.bind state.decoders) data dataSize memory
    (.frame result,state.setDecoder decoder object)
  | .reassemblerCreate limits hasOutput =>
    if hasOutput then
      (.created .ok (some state.next),
        { state.setReassembler (some state.next) (some (library.newReassembler limits)) with
          next := state.next+1 })
    else (.created .invalidArgument none,state)
  | .reassemblerDestroy reassembler => (.nothing,state.setReassembler reassembler none)
  | .reassemblerReset reassembler =>
    (.nothing,state.setReassembler reassembler
      ((reassembler.bind state.reassemblers).map library.resetReassembler))
  | .reassemblerPushFrame reassembler inputFrame output =>
    match library.pushReassembler (reassembler.bind state.reassemblers) inputFrame output with
    | none => (.panicked,state)
    | some (result,object) => (.completed result,state.setReassembler reassembler object)

/-- The successive calls of a program. -/
def machine : Mealy (LibraryState δ ρ) AbiCall AbiResult := ⟨library.step⟩

end Library

/-- The pointers are null or valid for the stated sizes, which are below 2^31. -/
def AbiCall.Valid : AbiCall → Prop
  | .encodeFrame frame _ output outputSize _ =>
    (∀ cframe, frame=some cframe → cframe.Valid) ∧ output.Valid outputSize ∧ outputSize < 2^31
  | .decodeFrame input inputSize _ memory => input.Valid inputSize ∧ inputSize < 2^31 ∧
    memory.Valid ∧ memory.informationBufferSize.toNat < 2^31
  | .streamDecoderPush _ data dataSize memory => data.Valid dataSize ∧ dataSize < 2^31 ∧
    memory.Valid ∧ memory.informationBufferSize.toNat < 2^31
  | .reassemblerPushFrame _ inputFrame output =>
    (∀ cframe, inputFrame=some cframe → cframe.Valid) ∧ output.memory.Valid ∧
      output.memory.informationBufferSize.toNat < 2^31
  | _ => True

/-- The calls on which the libraries part. -/
def LibraryState.Apart (state : LibraryState DlmsHdlcStreamDecoder DlmsHdlcReassembler) :
    AbiCall → Prop
  | .decodeFrame input inputSize limits memory =>
    DecodesApart (toCppLimits limits) input inputSize memory
  | .streamDecoderPush decoder data dataSize memory => ∃ handle,
    decoder.bind state.decoders=some handle ∧
      handle.PushesApart handle.decoder.options.limits data dataSize memory
  | .reassemblerPushFrame reassembler inputFrame output => ∃ handle,
    reassembler.bind state.reassemblers=some handle ∧ handle.HandsUnbuffered inputFrame output
  | _ => False

section Tables
variable {α β : Type*} {R : α → β → Prop} {objects : ℕ → Option α} {others : ℕ → Option β}
  (h : ∀ id, Option.Rel R (objects id) (others id))
include h

theorem rel_bind (handle : Option ℕ) :
    Option.Rel R (handle.bind objects) (handle.bind others) := by
  cases handle with
  | none => exact .none
  | some id => exact h id

theorem rel_update (id : ℕ) {object : Option α} {other : Option β} (hobject : Option.Rel R object other)
    (slot : ℕ) :
    Option.Rel R (Function.update objects id object slot) (Function.update others id other slot) := by
  by_cases hslot : slot=id
  · rw [hslot,Function.update_self,Function.update_self]
    exact hobject
  · rw [Function.update_of_ne hslot,Function.update_of_ne hslot]
    exact h slot

end Tables

theorem rel_map {α β : Type*} {R : α → β → Prop} {object : Option α} {other : Option β} {f : α → α}
    {g : β → β} (h : Option.Rel R object other) (hmap : ∀ {a b}, R a b → R (f a) (g b)) :
    Option.Rel R (object.map f) (other.map g) := by
  cases h with
  | none => exact .none
  | some hab => exact .some (hmap hab)

/-- The stream decoders hold the same queue under the same limits. -/
def SameQueue (handle : DlmsHdlcStreamDecoder) (state : Go.StreamDecoderState) : Prop :=
  ∃ limits queue, handle.Holds limits queue ∧ state.Holds limits queue

/-- The reassemblers are one. -/
def SamePending (handle : DlmsHdlcReassembler) (r : Go.Reassembler) : Prop :=
  r.Matches handle.reassembler

theorem pushDecoder_agrees {object : Option DlmsHdlcStreamDecoder}
    {other : Option Go.StreamDecoderState} (h : Option.Rel SameQueue object other) {data : Pointer}
    {dataSize : ℕ} {memory : FrameMemory} (valid : memory.Valid)
    (alike : ∀ handle, object=some handle →
      ¬ handle.PushesApart handle.decoder.options.limits data dataSize memory) :
    (dlmsHdlcStreamDecoderPush object data dataSize memory).1=
        (Go.dlmsHdlcStreamDecoderPush other data dataSize memory).1 ∧
      Option.Rel SameQueue (dlmsHdlcStreamDecoderPush object data dataSize memory).2
        (Go.dlmsHdlcStreamDecoderPush other data dataSize memory).2 := by
  cases h with
  | none => exact ⟨rfl,.none⟩
  | @some handle state hsame =>
    obtain ⟨limits,queue,hcpp,hgo⟩ := hsame
    have hlimits : handle.decoder.options.limits=limits := by
      rw [hcpp.options]
      rfl
    have halike := alike handle rfl
    rw [hlimits] at halike
    obtain ⟨hresult,next,hcpp',hgo'⟩ := push_agrees hcpp hgo valid halike
    exact ⟨hresult,.some ⟨limits,next,hcpp',hgo'⟩⟩

theorem pushReassembler_agrees {object : Option DlmsHdlcReassembler} {other : Option Go.Reassembler}
    (h : Option.Rel SamePending object other) {inputFrame : Option DlmsHdlcFrame}
    (valid : ∀ cframe, inputFrame=some cframe → cframe.Valid) {output : CompletedMemory}
    (alike : ∀ handle, object=some handle → ¬ handle.HandsUnbuffered inputFrame output) :
    ∃ next, Go.dlmsHdlcReassemblerPushFrame other inputFrame output=
        some ((dlmsHdlcReassemblerPushFrame object inputFrame output).1,next) ∧
      Option.Rel SamePending (dlmsHdlcReassemblerPushFrame object inputFrame output).2 next := by
  cases h with
  | none => exact ⟨none,rfl,.none⟩
  | @some handle r hsame =>
    obtain ⟨next,hpush,hnext⟩ := pushFrame_agrees hsame valid (alike handle rfl)
    refine ⟨some next,?_,.some hnext⟩
    rw [Go.dlmsHdlcReassemblerPushFrame,hpush]
    rfl

/-- The handles of the two libraries stand for objects that hold the same. -/
structure Corresponds (state : LibraryState DlmsHdlcStreamDecoder DlmsHdlcReassembler)
    (other : LibraryState Go.StreamDecoderState Go.Reassembler) : Prop where
  next : state.next=other.next
  decoders : ∀ id, Option.Rel SameQueue (state.decoders id) (other.decoders id)
  reassemblers : ∀ id, Option.Rel SamePending (state.reassemblers id) (other.reassemblers id)

namespace Corresponds
variable {state : LibraryState DlmsHdlcStreamDecoder DlmsHdlcReassembler}
  {other : LibraryState Go.StreamDecoderState Go.Reassembler} (h : Corresponds state other)

theorem start : Corresponds .start .start := ⟨rfl,fun _ => .none,fun _ => .none⟩

include h

theorem setDecoder (handle : Option ℕ) {object : Option DlmsHdlcStreamDecoder}
    {goObject : Option Go.StreamDecoderState} (hobject : Option.Rel SameQueue object goObject) :
    Corresponds (state.setDecoder handle object) (other.setDecoder handle goObject) := by
  cases handle with
  | none => exact h
  | some id => exact ⟨h.next,rel_update h.decoders id hobject,h.reassemblers⟩

theorem setReassembler (handle : Option ℕ) {object : Option DlmsHdlcReassembler}
    {goObject : Option Go.Reassembler} (hobject : Option.Rel SamePending object goObject) :
    Corresponds (state.setReassembler handle object) (other.setReassembler handle goObject) := by
  cases handle with
  | none => exact h
  | some id => exact ⟨h.next,h.decoders,rel_update h.reassemblers id hobject⟩

/-- One call has the same result, and leaves objects that hold the same. -/
theorem step {call : AbiCall} (valid : call.Valid) (alike : ¬ state.Apart call) :
    (cppLibrary.step state call).1=(goLibrary.step other call).1 ∧
      Corresponds (cppLibrary.step state call).2 (goLibrary.step other call).2 := by
  cases call with
  | encodeFrame frame limits output outputSize writtenSize =>
    have hencode := Go.dlmsHdlcEncodeFrame_eq valid.1 limits valid.2.1 writtenSize
    rw [Library.step,Library.step]
    dsimp only [cppLibrary,goLibrary]
    rw [hencode]
    exact ⟨rfl,h⟩
  | decodeFrame input inputSize limits memory =>
    have hdecode := Go.dlmsHdlcDecodeFrame_agrees valid.1 valid.2.2.1 alike
    exact ⟨congrArg AbiResult.frame hdecode.symm,h⟩
  | streamDecoderCreate limits hasOutput =>
    cases hasOutput with
    | false => exact ⟨rfl,h⟩
    | true =>
      rw [Library.step,Library.step,← h.next]
      have hnew : SameQueue (.new limits) (.new limits) :=
        ⟨_,_,DlmsHdlcStreamDecoder.holds_new limits,Go.StreamDecoderState.holds_new limits⟩
      exact ⟨rfl,rfl,rel_update h.decoders state.next (.some hnew),h.reassemblers⟩
  | streamDecoderDestroy decoder => exact ⟨rfl,h.setDecoder decoder .none⟩
  | streamDecoderReset decoder =>
    refine ⟨rfl,h.setDecoder decoder (rel_map (rel_bind h.decoders decoder) ?_)⟩
    rintro handle state ⟨limits,queue,hcpp,hgo⟩
    exact ⟨limits,_,hcpp.reset,hgo.reset⟩
  | streamDecoderPush decoder data dataSize memory =>
    have hobject := rel_bind h.decoders decoder
    obtain ⟨hresult,hnext⟩ := pushDecoder_agrees hobject valid.2.2.1
      fun handle hhandle hapart => alike ⟨handle,hhandle,hapart⟩
    exact ⟨congrArg AbiResult.frame hresult,h.setDecoder decoder hnext⟩
  | reassemblerCreate limits hasOutput =>
    cases hasOutput with
    | false => exact ⟨rfl,h⟩
    | true =>
      rw [Library.step,Library.step,← h.next]
      have hnew : SamePending (.new limits) (.newReassembler (Go.toLimits limits)) := by
        rw [Go.StreamDecoderState.toLimits_eq]
        exact Go.Reassembler.matches_new _
      exact ⟨rfl,rfl,h.decoders,rel_update h.reassemblers state.next (.some hnew)⟩
  | reassemblerDestroy reassembler => exact ⟨rfl,h.setReassembler reassembler .none⟩
  | reassemblerReset reassembler =>
    refine ⟨rfl,h.setReassembler reassembler (rel_map (rel_bind h.reassemblers reassembler) ?_)⟩
    intro handle r hsame
    exact hsame.reset
  | reassemblerPushFrame reassembler inputFrame output =>
    have hobject := rel_bind h.reassemblers reassembler
    obtain ⟨next,hpush,hnext⟩ := pushReassembler_agrees hobject valid.1
      fun handle hhandle hhands => alike ⟨handle,hhandle,hhands⟩
    rw [Library.step,Library.step]
    dsimp only [cppLibrary,goLibrary]
    rw [hpush]
    exact ⟨rfl,h.setReassembler reassembler hnext⟩

end Corresponds

/-- A program whose calls avoid the places where the libraries part has the same results with
either. -/
theorem libraries_agree {calls : List AbiCall} (valid : ∀ call ∈ calls, call.Valid)
    (alike : cppLibrary.machine.Along (fun state call => ¬ state.Apart call) .start calls) :
    cppLibrary.machine.outputs .start calls=goLibrary.machine.outputs .start calls :=
  Mealy.outputs_eq_of_along _ Corresponds
    (fun _ _ call hmem h halike => h.step (valid call hmem) halike) .start alike

/-- A drained decoder with a buffer for the frame does not part from the other one. -/
theorem DlmsHdlcStreamDecoder.not_pushesApart {limits : HdlcCodecLimits}
    {handle : DlmsHdlcStreamDecoder} {data : Pointer} {dataSize : ℕ} {memory : FrameMemory}
    {frames : List HdlcFrameBuffer} {kept : List UInt8}
    (drained : (HdlcStreamDecoder.scanner (HdlcStreamDecoder.ignoring limits)).drain
      (handle.decoder.buffer ++ data.read dataSize)=(frames,.ok kept))
    (buffered : memory.informationBuffer≠none) :
    ¬ handle.PushesApart limits data dataSize memory := by
  rintro (⟨_,_,values,rest,hreads,_⟩ | ⟨_,_,hnull,_⟩)
  · obtain ⟨front,hbytes,hfails⟩ := HdlcStreamDecoder.reads_some_iff.mp hreads
    have hdrain := (HdlcStreamDecoder.scanner_incremental _).drain_error_append hfails.drained rest
    rw [← hbytes,drained] at hdrain
    cases hdrain
  · exact buffered hnull

/-- Nothing is read where no bytes wait and none come. -/
theorem DlmsHdlcStreamDecoder.Holds.not_pushesApart {limits : HdlcCodecLimits}
    {handle : DlmsHdlcStreamDecoder} {pending : List HdlcFrameBuffer}
    (h : Holds limits handle ⟨[],pending⟩) {memory : FrameMemory}
    (buffered : memory.informationBuffer≠none) (other : HdlcCodecLimits) :
    ¬ handle.PushesApart other none 0 memory := by
  apply @DlmsHdlcStreamDecoder.not_pushesApart _ _ _ _ _ [] [] ?_ buffered
  rw [h.buffer]
  exact HdlcStreamDecoder.scanner_drain_nil _

theorem roomFor_valid (size : ℕ) : (roomFor size).Valid := by
  intro bytes hbytes
  obtain ⟨memory,hmemory,hsize⟩ := (roomFor_usable size).buffer
  rw [hbytes] at hmemory
  cases hmemory
  exact hsize

theorem DlmsHdlcFrame.valid_of_some {frame : DlmsHdlcFrame} {bytes : List UInt8}
    (hdata : frame.informationData=some bytes)
    (hsize : frame.informationSize.toNat ≤ bytes.length) (hlt : bytes.length < 2^31) :
    frame.Valid := by
  refine ⟨?_,hsize.trans_lt hlt⟩
  intro memory hmemory
  rw [hdata] at hmemory
  cases hmemory
  exact hsize

/-- Two Receive Ready frames through a decoder and two segments through a reassembler. -/
theorem libraries_agree_sample :
    cppLibrary.machine.outputs .start [.streamDecoderCreate none true,
        .streamDecoderPush (some 0) (some [0x7e,0xa0,0x07,0x07,0x21,0x11,0x74,0xc5,0x7e,
          0x7e,0xa0,0x07,0x07,0x21,0x11,0x74,0xc5,0x7e]) 18 (roomFor 0),
        .streamDecoderPush (some 0) none 0 (roomFor 0),.reassemblerCreate none true,
        .reassemblerPushFrame (some 1) (some ⟨1,3,1,0x10,1,0x10,some [0x01,0x02],2⟩)
          (completedRoomFor 3),
        .reassemblerPushFrame (some 1) (some ⟨0,3,1,0x10,1,0x10,some [0x03],1⟩)
          (completedRoomFor 3)]=
      goLibrary.machine.outputs .start [.streamDecoderCreate none true,
        .streamDecoderPush (some 0) (some [0x7e,0xa0,0x07,0x07,0x21,0x11,0x74,0xc5,0x7e,
          0x7e,0xa0,0x07,0x07,0x21,0x11,0x74,0xc5,0x7e]) 18 (roomFor 0),
        .streamDecoderPush (some 0) none 0 (roomFor 0),.reassemblerCreate none true,
        .reassemblerPushFrame (some 1) (some ⟨1,3,1,0x10,1,0x10,some [0x01,0x02],2⟩)
          (completedRoomFor 3),
        .reassemblerPushFrame (some 1) (some ⟨0,3,1,0x10,1,0x10,some [0x03],1⟩)
          (completedRoomFor 3)] := by
  have hbuffer (size : ℕ) : (roomFor size).informationBuffer≠none := nofun
  apply libraries_agree
  · simp only [List.forall_mem_cons]
    refine ⟨trivial,⟨?_,by decide,roomFor_valid 0,by decide⟩,
      ⟨nofun,by decide,roomFor_valid 0,by decide⟩,trivial,
      ⟨?_,roomFor_valid 3,by decide⟩,⟨?_,roomFor_valid 3,by decide⟩,nofun⟩
    · rintro bytes ⟨⟩
      exact Nat.le_refl 18
    · rintro cframe ⟨⟩
      exact DlmsHdlcFrame.valid_of_some rfl (by decide) (by decide)
    · rintro cframe ⟨⟩
      exact DlmsHdlcFrame.valid_of_some rfl (by decide) (by decide)
  · refine ⟨id,?_,?_,id,?_,?_,trivial⟩
    · rintro ⟨handle,hhandle,hapart⟩
      cases hhandle
      exact DlmsHdlcStreamDecoder.not_pushesApart receiveReadyPair_drains (hbuffer 0) hapart
    · rintro ⟨handle,hhandle,hapart⟩
      cases hhandle
      have hholds := (DlmsHdlcStreamDecoder.serves _).holds_second
        (DlmsHdlcStreamDecoder.holds_new none)
      exact hholds.not_pushesApart (hbuffer 0) _ hapart
    · rintro ⟨handle,_,hhands⟩
      exact hbuffer 3 hhands.2.1
    · rintro ⟨handle,_,hhands⟩
      exact hbuffer 3 hhands.2.1

/-- A frame with Information and no buffer at all: the C++ library reports the buffer as too small,
the Go library decodes. -/
theorem sampleFrame_tellsApart :
    ¬ ∀ calls : List AbiCall, (∀ call ∈ calls, call.Valid) →
      cppLibrary.machine.outputs .start calls=goLibrary.machine.outputs .start calls := by
  intro hagree
  have hvalid : AbiCall.Valid (.decodeFrame (some [0x7e,0xa0,0x0c,0x07,0x21,0x10,0xe8,0x14,0x01,0x7e,
      0x03,0xe4,0xcd,0x7e]) 14 none ⟨some default,none,0,some 0⟩) := by
    refine ⟨?_,by decide,nofun,by decide⟩
    rintro bytes ⟨⟩
    exact Nat.le_refl 14
  have hcalls := hagree [_] (List.forall_mem_singleton.mpr hvalid)
  revert hcalls
  decide +kernel

end DlmsHdlc
