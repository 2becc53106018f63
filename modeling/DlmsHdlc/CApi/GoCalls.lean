import DlmsHdlc.CApi.Calls
import DlmsHdlc.Go.StreamDecoder

/-! The C ABI of the Go library, over the same C types. The registry behind the handles is not
modelled: a live handle is the object it stands for. A call that panics has no result. The Go `int`
of a buffer's size is exact for every size that memory can have; the C `int` of an Information size
is not, and keeps its low 32 bits, with sign (`goBytes`). The pointer arguments of one call point
into memory that does not overlap. -/
namespace DlmsHdlc.Go
open Buffer

def defaultCodecLimits : CodecLimits := ⟨2049,0,65535⟩

def toLimits : Option DlmsHdlcLimits → CodecLimits
  | none => defaultCodecLimits
  | some p => ⟨p.maximumFrameSize,p.maximumInformationFieldSize,
      p.maximumReassembledInformationSize⟩

def maximumRawValue (encodedSize : UInt64) : UInt32 :=
  (1 <<< (encodedSize*7).toUInt32) - 1

def addressFromRaw (rawValue : UInt32) (encodedSize : UInt64) : Except HdlcStatus Address :=
  if !isSupportedEncodedSize encodedSize then .error .unsupportedAddress
  else if maximumRawValue encodedSize < rawValue then .error .invalidAddress
  else .ok ⟨rawValue,encodedSize⟩

/-- `C.GoBytes`: the size is converted to a C `int`, and a negative one panics. -/
def goBytes (data : Pointer) (size : UInt64) : Option (List UInt8) :=
  let n := size.toUInt32.toInt32
  if n < 0 then none else some (data.read n.toNatClampNeg)

/-- An error, or the frame unless the copy of its Information panics. -/
def goFrame (cf : DlmsHdlcFrame) : Except HdlcStatus (Option Frame) :=
  if cf.informationData=none ∧ cf.informationSize≠0 then .error .invalidArgument
  else
    match addressFromRaw cf.destinationAddressRaw cf.destinationAddressSize with
    | .error err => .error err
    | .ok dst =>
      match addressFromRaw cf.sourceAddressRaw cf.sourceAddressSize with
      | .error err => .error err
      | .ok src =>
        match controlFromByte cf.control with
        | .error err => .error err
        | .ok ctrl =>
          let info := if 0 < cf.informationSize then
            goBytes cf.informationData cf.informationSize else some []
          .ok (info.map fun info => ⟨cf.segmented != 0,dst,src,ctrl,info⟩)

/-- Every field is written. -/
def fillCFrame (frame : Frame) (infoBuf : Pointer) (infoSize : ℕ) : DlmsHdlcFrame where
  segmented := if frame.segmented then 1 else 0
  destinationAddressRaw := frame.destination.rawValue
  destinationAddressSize := frame.destination.encodedSize
  sourceAddressRaw := frame.source.rawValue
  sourceAddressSize := frame.source.encodedSize
  control := frame.control.encode
  informationData := infoBuf
  informationSize := .ofNat infoSize

/-- What a pointer points at once the slice of its first bytes has been written to. -/
def writeBack (data : Pointer) (slice : List UInt8) : Pointer :=
  data.map fun bytes => slice ++ bytes.drop slice.length

/-- Status, `output` and `*writtenSize`. -/
def dlmsHdlcEncodeFrame (cframe : Option DlmsHdlcFrame) (climits : Option DlmsHdlcLimits)
    (output : Pointer) (outputSize : ℕ) (writtenSize : Option UInt64) :
    Option (HdlcStatus × Pointer × Option UInt64) :=
  let writtenSize := writtenSize.map fun _ => 0
  match cframe,output with
  | some cframe,some bytes =>
    if writtenSize=none then some (.invalidArgument,output,writtenSize)
    else
      match goFrame cframe with
      | .error err => some (err,output,writtenSize)
      | .ok none => none
      | .ok (some frame) =>
        let buf := bytes.take outputSize
        match encodeFrameToBuffer frame (toLimits climits) buf with
        | .error err => some (err,output,writtenSize)
        | .ok (buf,n) => some (.ok,writeBack output buf,some (.ofNat n))
  | _,_ => some (.invalidArgument,output,writtenSize)

/-- `ibuf`: nothing without a buffer, and nothing for an empty one. -/
def infoSlice (memory : FrameMemory) : Option (List UInt8) :=
  if 0 < memory.informationBufferSize then
    memory.informationBuffer.map fun buffer => buffer.take memory.informationBufferSize.toNat
  else none

def dlmsHdlcDecodeFrame (input : Pointer) (inputSize : ℕ) (climits : Option DlmsHdlcLimits)
    (memory : FrameMemory) : HdlcStatus × FrameMemory :=
  let memory := memory.cleared
  match input with
  | none => (.invalidArgument,memory)
  | some bytes =>
    if memory.frame=none ∨ memory.informationSize=none then (.invalidArgument,memory)
    else
      match decodeFrameFromBuffer (bytes.take inputSize) (toLimits climits) (infoSlice memory) with
      | .error err => (err,memory)
      | .ok (frame,written,ibuf) =>
        let infoBuf := match ibuf with
          | none => memory.informationBuffer
          | some slice => writeBack memory.informationBuffer slice
        (.ok,{ memory with
          frame := some (fillCFrame frame infoBuf written)
          informationBuffer := infoBuf
          informationSize := some (.ofNat written) })

/-- The writes of a call that hands out a frame, whose Information has been checked to fit. -/
def handOut (memory : FrameMemory) (frame : Frame) : FrameMemory :=
  let infoLen := frame.information.length
  let infoBuf := if 0 < infoLen then
    memory.informationBuffer.map fun buffer => overwrite buffer 0 frame.information
  else memory.informationBuffer
  { memory with
    frame := some (fillCFrame frame infoBuf infoLen)
    informationBuffer := infoBuf
    informationSize := some (.ofNat infoLen) }

structure StreamDecoderState where
  decoder : StreamDecoder
  pendingFrames : List Frame
  deriving DecidableEq, Repr

namespace StreamDecoderState

/-- The object that `dlms_hdlc_stream_decoder_create` makes. -/
def new (climits : Option DlmsHdlcLimits) : StreamDecoderState :=
  ⟨.newStreamDecoder ⟨toLimits climits,.ignore⟩,[]⟩

def reset (state : StreamDecoderState) : StreamDecoderState := ⟨state.decoder.reset,[]⟩

/-- The part of a push that feeds new bytes: the error it returns, if it does. -/
def feed (state : StreamDecoderState) (data : Pointer) (dataSize : ℕ) :
    Option HdlcStatus × StreamDecoderState :=
  if 0 < dataSize then
    match data with
    | none => (some .invalidArgument,state)
    | some bytes =>
      let ((frames,err),decoder) := state.decoder.push (bytes.take dataSize)
      if err≠.ok ∧ err≠.needMoreData then (some err,{ state with decoder := decoder })
      else (none,⟨decoder,state.pendingFrames ++ frames⟩)
  else (none,state)

/-- The rest of it: a frame that does not fit is put back. -/
def front (state : StreamDecoderState) (memory : FrameMemory) :
    (HdlcStatus × FrameMemory) × StreamDecoderState :=
  match state.pendingFrames with
  | [] => ((.needMoreData,memory),state)
  | frame::rest =>
    if 0 < frame.information.length ∧
        (infoSlice memory).all (fun ibuf => ibuf.length < frame.information.length) then
      ((.outputBufferTooSmall,memory),{ state with pendingFrames := [frame] ++ rest })
    else ((.ok,handOut memory frame),{ state with pendingFrames := rest })

def advance (state : StreamDecoderState) (data : Pointer) (dataSize : ℕ) (memory : FrameMemory) :
    (HdlcStatus × FrameMemory) × StreamDecoderState :=
  match state.feed data dataSize with
  | (some err,state) => ((err,memory),state)
  | (none,state) => state.front memory

/-- `dlms_hdlc_stream_decoder_push` with a handle that is not null. -/
def push (state : StreamDecoderState) (data : Pointer) (dataSize : ℕ) (memory : FrameMemory) :
    (HdlcStatus × FrameMemory) × StreamDecoderState :=
  let memory := memory.cleared
  if memory.frame=none ∨ memory.informationSize=none then ((.invalidArgument,memory),state)
  else state.advance data dataSize memory

end StreamDecoderState

def dlmsHdlcStreamDecoderPush (decoder : Option StreamDecoderState) (data : Pointer)
    (dataSize : ℕ) (memory : FrameMemory) :
    (HdlcStatus × FrameMemory) × Option StreamDecoderState :=
  match decoder with
  | none => ((.invalidArgument,memory.cleared),none)
  | some state => (state.push data dataSize memory).map id some

namespace Reassembler

/-- The part of a call that gives its result back, behind the reassembler. -/
def complete (result : Except HdlcStatus Frame) (output : CompletedMemory) :
    HdlcStatus × CompletedMemory :=
  match result with
  | .error err => if err≠.segmentationIncomplete then (err,output) else (.segmentationIncomplete,output)
  | .ok completed =>
    if 0 < completed.information.length ∧ (output.memory.informationBuffer=none ∨
        output.memory.informationBufferSize.toNat < completed.information.length) then
      (.outputBufferTooSmall,output)
    else (.ok,⟨handOut output.memory completed,some 1⟩)

/-- `dlms_hdlc_reassembler_push_frame` with a handle that is not null. -/
def pushFrame (r : Reassembler) (inputFrame : Option DlmsHdlcFrame) (output : CompletedMemory) :
    Option ((HdlcStatus × CompletedMemory) × Reassembler) :=
  let output := output.cleared
  match inputFrame with
  | none => some ((.invalidArgument,output),r)
  | some inputFrame =>
    if output.memory.frame=none ∨ output.memory.informationSize=none ∨
        output.hasCompletedFrame=none then some ((.invalidArgument,output),r)
    else
      match goFrame inputFrame with
      | .error err => some ((err,output),r)
      | .ok none => none
      | .ok (some frame) =>
        let (result,r) := r.push frame
        some (complete result output,r)

end Reassembler

def dlmsHdlcReassemblerPushFrame (reassembler : Option Reassembler)
    (inputFrame : Option DlmsHdlcFrame) (output : CompletedMemory) :
    Option ((HdlcStatus × CompletedMemory) × Option Reassembler) :=
  match reassembler with
  | none => some ((.invalidArgument,output.cleared),none)
  | some r => (r.pushFrame inputFrame output).map fun result => (result.1,some result.2)

end DlmsHdlc.Go
