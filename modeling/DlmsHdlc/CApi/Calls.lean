import DlmsHdlc.StreamGrammar
import DlmsHdlc.Segmentation.Reassembler

/-! The C ABI of the C++ library. A pointer argument is `none` when it is null and otherwise what it
points at; a call returns its status and what it leaves in the caller's memory. The pointer
arguments of one call point into memory that does not overlap. The C statuses are those of
`HdlcStatus`, with the same values, and allocation succeeds, so no frame limit is above what a
vector can hold. -/
namespace DlmsHdlc
open Buffer

/-- `dlms_hdlc_limits_t` -/
structure DlmsHdlcLimits where
  maximumFrameSize : UInt64
  maximumInformationFieldSize : UInt64
  maximumReassembledInformationSize : UInt64
  deriving DecidableEq, Repr

/-- `dlms_hdlc_frame_t` -/
structure DlmsHdlcFrame where
  segmented : UInt8
  destinationAddressRaw : UInt32
  destinationAddressSize : UInt64
  sourceAddressRaw : UInt32
  sourceAddressSize : UInt64
  control : UInt8
  informationData : Pointer
  informationSize : UInt64
  deriving DecidableEq, Repr, Inhabited

/-- The caller's memory for a frame: `frame`, `information_buffer`, `information_buffer_size` and
`information_size`. -/
structure FrameMemory where
  frame : Option DlmsHdlcFrame
  informationBuffer : Pointer
  informationBufferSize : UInt64
  informationSize : Option UInt64
  deriving DecidableEq, Repr

namespace FrameMemory

/-- The first statement of every call: `*information_size = 0u`. -/
def cleared (memory : FrameMemory) : FrameMemory :=
  { memory with informationSize := memory.informationSize.map fun _ => 0 }

end FrameMemory

def toCppLimits : Option DlmsHdlcLimits → HdlcCodecLimits
  | none => defaultHdlcCodecLimits
  | some limits => ⟨limits.maximumFrameSize,limits.maximumInformationFieldSize,
      limits.maximumReassembledInformationSize⟩

def toCppFrame (frame : DlmsHdlcFrame) : Except HdlcStatus HdlcFrame :=
  if frame.informationData=none ∧ frame.informationSize≠0 then .error .invalidArgument
  else
    match HdlcAddress.fromRaw frame.destinationAddressRaw frame.destinationAddressSize.toNat with
    | .error status => .error status
    | .ok destination =>
      match HdlcAddress.fromRaw frame.sourceAddressRaw frame.sourceAddressSize.toNat with
      | .error status => .error status
      | .ok source =>
        match HdlcControl.decode frame.control with
        | .error status => .error status
        | .ok control => .ok ⟨frame.segmented != 0,destination,source,control,
            frame.informationData,frame.informationSize⟩

/-- The whole frame is written; `Encode` of the control field always succeeds. -/
def fromCppFrame (cppFrame : HdlcFrame) (decodedInformationSize : ℕ)
    (informationBuffer : Pointer) : DlmsHdlcFrame where
  segmented := if cppFrame.segmented then 1 else 0
  destinationAddressRaw := cppFrame.destination.rawValue
  destinationAddressSize := .ofNat cppFrame.destination.encodedSize
  sourceAddressRaw := cppFrame.source.rawValue
  sourceAddressSize := .ofNat cppFrame.source.encodedSize
  control := cppFrame.control.encode
  informationData := informationBuffer
  informationSize := .ofNat decodedInformationSize

/-- Status, `output` and `*written_size`. -/
def dlmsHdlcEncodeFrame (frame : Option DlmsHdlcFrame) (limits : Option DlmsHdlcLimits)
    (output : Pointer) (outputSize : ℕ) (writtenSize : Option UInt64) :
    HdlcStatus × Pointer × Option UInt64 :=
  let writtenSize := writtenSize.map fun _ => 0
  match frame with
  | none => (.invalidArgument,output,writtenSize)
  | some frame =>
    if output=none ∨ writtenSize=none then (.invalidArgument,output,writtenSize)
    else
      match toCppFrame frame with
      | .error status => (status,output,writtenSize)
      | .ok cppFrame =>
        let (status,output,cppWrittenSize) :=
          encodeFrameToBuffer cppFrame (toCppLimits limits) output outputSize
        (status,output,some (.ofNat cppWrittenSize))

def dlmsHdlcDecodeFrame (input : Pointer) (inputSize : ℕ) (limits : Option DlmsHdlcLimits)
    (memory : FrameMemory) : HdlcStatus × FrameMemory :=
  let memory := memory.cleared
  if input=none ∨ memory.frame=none ∨ memory.informationSize=none then (.invalidArgument,memory)
  else
    let (status,cppFrame,informationBuffer,cppInformationSize) :=
      decodeFrameFromBuffer input inputSize (toCppLimits limits) default memory.informationBuffer
        memory.informationBufferSize.toNat
    let memory := { memory with informationBuffer := informationBuffer }
    if status≠.ok then (status,memory)
    else (.ok,{ memory with
      frame := some (fromCppFrame cppFrame cppInformationSize informationBuffer)
      informationSize := some (.ofNat cppInformationSize) })

/-- The writes of a call that hands out an owned frame whose Information fits: the Information is
copied unless the buffer is null. -/
def FrameMemory.handOut (memory : FrameMemory) (f : HdlcFrameBuffer) : FrameMemory :=
  let infoSize := f.information.length
  let informationBuffer :=
    if 0 < infoSize then memory.informationBuffer.map fun buffer => overwrite buffer 0 f.information
    else memory.informationBuffer
  let view : HdlcFrame := ⟨f.segmented,f.destination,f.source,f.control,
    if 0 < infoSize then informationBuffer else none,.ofNat infoSize⟩
  { memory with
    frame := some (fromCppFrame view infoSize informationBuffer)
    informationBuffer := informationBuffer
    informationSize := some (.ofNat infoSize) }

/-- `dlms_hdlc_stream_decoder_t` -/
structure DlmsHdlcStreamDecoder where
  decoder : HdlcStreamDecoder
  pending : List HdlcFrameBuffer
  deriving DecidableEq, Repr

namespace DlmsHdlcStreamDecoder

/-- The constructor, with the options that `dlms_hdlc_stream_decoder_create` sets. -/
def new (limits : Option DlmsHdlcLimits) : DlmsHdlcStreamDecoder :=
  ⟨.new ⟨toCppLimits limits,.ignoreUntilOpeningFlag⟩,[]⟩

def reset (handle : DlmsHdlcStreamDecoder) : DlmsHdlcStreamDecoder := ⟨handle.decoder.reset,[]⟩

/-- The part of a push that feeds new data: the status it returns early, if it does. -/
def feed (handle : DlmsHdlcStreamDecoder) (data : Pointer) (dataSize : ℕ) :
    Option HdlcStatus × DlmsHdlcStreamDecoder :=
  if 0 < dataSize then
    let ((status,decoded),decoder) := handle.decoder.push data dataSize
    if status≠.ok ∧ status≠.needMoreData then (some status,{ handle with decoder := decoder })
    else (none,⟨decoder,handle.pending ++ decoded⟩)
  else (none,handle)

/-- The rest of it: the first frame waiting. -/
def front (handle : DlmsHdlcStreamDecoder) (memory : FrameMemory) :
    (HdlcStatus × FrameMemory) × DlmsHdlcStreamDecoder :=
  match handle.pending with
  | [] => ((.needMoreData,memory),handle)
  | f::pending =>
    if memory.informationBufferSize.toNat < f.information.length then
      ((.outputBufferTooSmall,memory),handle)
    else ((.ok,memory.handOut f),{ handle with pending := pending })

def advance (handle : DlmsHdlcStreamDecoder) (data : Pointer) (dataSize : ℕ)
    (memory : FrameMemory) : (HdlcStatus × FrameMemory) × DlmsHdlcStreamDecoder :=
  match handle.feed data dataSize with
  | (some status,handle) => ((status,memory),handle)
  | (none,handle) => handle.front memory

/-- `dlms_hdlc_stream_decoder_push` with a handle that is not null. -/
def push (handle : DlmsHdlcStreamDecoder) (data : Pointer) (dataSize : ℕ) (memory : FrameMemory) :
    (HdlcStatus × FrameMemory) × DlmsHdlcStreamDecoder :=
  let memory := memory.cleared
  if memory.frame=none ∨ memory.informationSize=none then ((.invalidArgument,memory),handle)
  else if data=none ∧ dataSize≠0 then ((.invalidArgument,memory),handle)
  else handle.advance data dataSize memory

end DlmsHdlcStreamDecoder

/-- The second component is what the handle points at after the call. -/
def dlmsHdlcStreamDecoderPush (decoder : Option DlmsHdlcStreamDecoder) (data : Pointer)
    (dataSize : ℕ) (memory : FrameMemory) :
    (HdlcStatus × FrameMemory) × Option DlmsHdlcStreamDecoder :=
  match decoder with
  | none => ((.invalidArgument,memory.cleared),none)
  | some handle => (handle.push data dataSize memory).map id some

/-- The input frame with its own copy of the Information. -/
def ownedFrame (view : HdlcFrame) : HdlcFrameBuffer where
  segmented := view.segmented
  destination := view.destination
  source := view.source
  control := view.control
  information := if view.informationSize≠0 ∧ view.informationData≠none then
    view.informationData.read view.informationSize.toNat else []

/-- The caller's memory for a completed frame: that of a frame and `has_completed_frame`. -/
structure CompletedMemory where
  memory : FrameMemory
  hasCompletedFrame : Option ℕ
  deriving DecidableEq, Repr

namespace CompletedMemory

/-- The first two statements of the call. -/
def cleared (output : CompletedMemory) : CompletedMemory where
  memory := output.memory.cleared
  hasCompletedFrame := output.hasCompletedFrame.map fun _ => 0

end CompletedMemory

/-- `dlms_hdlc_reassembler_t`, a reassembler as its only member -/
structure DlmsHdlcReassembler where
  reassembler : HdlcReassembler
  deriving DecidableEq, Repr

namespace DlmsHdlcReassembler

def new (limits : Option DlmsHdlcLimits) : DlmsHdlcReassembler := ⟨.new (toCppLimits limits)⟩

def reset (handle : DlmsHdlcReassembler) : DlmsHdlcReassembler := ⟨handle.reassembler.reset⟩

/-- The part of a call that gives its result back, behind the reassembler. -/
def complete (status : HdlcStatus) (completed : Option HdlcFrameBuffer) (output : CompletedMemory) :
    HdlcStatus × CompletedMemory :=
  if status≠.ok ∧ status≠.segmentationIncomplete then (status,output)
  else
    match completed with
    | none => (.segmentationIncomplete,output)
    | some completed =>
      if output.memory.informationBufferSize.toNat < completed.information.length then
        (.outputBufferTooSmall,output)
      else (.ok,⟨output.memory.handOut completed,some 1⟩)

/-- `dlms_hdlc_reassembler_push_frame` with a handle that is not null. -/
def pushFrame (handle : DlmsHdlcReassembler) (inputFrame : Option DlmsHdlcFrame)
    (output : CompletedMemory) : (HdlcStatus × CompletedMemory) × DlmsHdlcReassembler :=
  let output := output.cleared
  match inputFrame with
  | none => ((.invalidArgument,output),handle)
  | some frame =>
    if output.memory.frame=none ∨ output.memory.informationSize=none ∨
        output.hasCompletedFrame=none then ((.invalidArgument,output),handle)
    else
      match toCppFrame frame with
      | .error status => ((status,output),handle)
      | .ok view =>
        let ((status,completed),reassembler) := handle.reassembler.pushFrame (ownedFrame view)
        (complete status completed output,⟨reassembler⟩)

end DlmsHdlcReassembler

def dlmsHdlcReassemblerPushFrame (reassembler : Option DlmsHdlcReassembler)
    (inputFrame : Option DlmsHdlcFrame) (output : CompletedMemory) :
    (HdlcStatus × CompletedMemory) × Option DlmsHdlcReassembler :=
  match reassembler with
  | none => ((.invalidArgument,output.cleared),none)
  | some handle => (handle.pushFrame inputFrame output).map id some

end DlmsHdlc
