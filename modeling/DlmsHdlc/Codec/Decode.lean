import DlmsHdlc.Codec.Encode

/-! The strict frame decoder, in the order of its checks. -/
namespace DlmsHdlc
open Buffer

def readUint16LowByteFirst (input : List UInt8) : UInt16 :=
  (input.getD 0 0).toUInt16 ||| ((input.getD 1 0).toUInt16 <<< 8)

def readUint16HighByteFirst (input : List UInt8) : UInt16 :=
  ((input.getD 0 0).toUInt16 <<< 8) ||| (input.getD 1 0).toUInt16

/-- Flags, frame format and length; the result is the Frame Format field. -/
def checkFormat (input : List UInt8) (inputSize : ℕ) (limits : HdlcCodecLimits) :
    Except HdlcStatus UInt16 :=
  if inputSize < 4 then .error .needMoreData
  else if input.getD 0 0≠kHdlcFlag then .error .invalidFlag
  else
    let frameFormat := readUint16HighByteFirst (input.drop 1)
    if frameFormat &&& 0xf000≠kFrameFormatType3 then .error .invalidFrameFormat
    else
      let formatFieldLength := (frameFormat &&& 0x07ff).toNat
      let fullFrameSize := formatFieldLength+2
      if formatFieldLength < 6 then .error .invalidFrameLength
      else if kMaximumFormatFieldLength.toNat < formatFieldLength then .error .invalidFrameLength
      else if (effectiveMaximumFrameSize limits).toNat < fullFrameSize then .error .frameTooLarge
      else if inputSize < fullFrameSize then .error .needMoreData
      else if inputSize≠fullFrameSize then .error .invalidFrameLength
      else if input.getD (fullFrameSize-1) 0≠kHdlcFlag then .error .invalidFlag
      else .ok frameFormat

/-- Addresses and control; the last component is the offset behind the control byte. -/
def decodeHeader (input : List UInt8) (fullFrameSize : ℕ) :
    Except HdlcStatus (HdlcAddress × HdlcAddress × HdlcControl × ℕ) :=
  let offset := 3
  match HdlcAddress.fromBytes (some ((input.drop offset).take (fullFrameSize-1-offset))) with
  | .error status => .error status
  | .ok (destination,consumed) =>
    let offset := offset+consumed
    match HdlcAddress.fromBytes (some ((input.drop offset).take (fullFrameSize-1-offset))) with
    | .error status => .error status
    | .ok (source,consumed) =>
      let offset := offset+consumed
      if fullFrameSize-3 ≤ offset then .error .invalidFrameLength
      else
        match HdlcControl.decode (input.getD offset 0) with
        | .error status => .error status
        | .ok control => .ok (destination,source,control,offset+1)

/-- Header and frame check sequences; the result is the Information field. -/
def checkSequences (input : List UInt8) (formatFieldLength offset : ℕ) :
    Except HdlcStatus (List UInt8) :=
  let fullFrameSize := formatFieldLength+2
  let headerSize := offset-1
  let bytesBeforeFcs := fullFrameSize-3-offset
  if bytesBeforeFcs=1 then .error .invalidFrameLength
  else if bytesBeforeFcs≠0 ∧ calculateHdlcCrc (some ((input.drop 1).take headerSize))≠
      readUint16LowByteFirst (input.drop offset) then .error .invalidHeaderChecksum
  else
    let offset := if bytesBeforeFcs≠0 then offset+2 else offset
    if calculateHdlcCrc (some ((input.drop 1).take (formatFieldLength-2)))≠
        readUint16LowByteFirst (input.drop (fullFrameSize-3)) then .error .invalidFrameChecksum
    else
      let decodedInformationSize := if bytesBeforeFcs≠0 then fullFrameSize-3-offset else 0
      .ok ((input.drop offset).take decodedInformationSize)

/-- Everything the decoder checks before it writes to the caller's memory. -/
def parseFrame (input : List UInt8) (inputSize : ℕ) (limits : HdlcCodecLimits)
    (informationBufferSize : ℕ) : Except HdlcStatus HdlcFrameBuffer :=
  match checkFormat input inputSize limits with
  | .error status => .error status
  | .ok frameFormat =>
    let segmented := frameFormat &&& kSegmentationBit != 0
    let formatFieldLength := (frameFormat &&& 0x07ff).toNat
    match decodeHeader input (formatFieldLength+2) with
    | .error status => .error status
    | .ok (destination,source,control,offset) =>
      match checkSequences input formatFieldLength offset with
      | .error status => .error status
      | .ok information =>
        if informationBufferSize < information.length then .error .outputBufferTooSmall
        else if (effectiveMaximumInformationFieldSize destination source limits).toNat <
          information.length then .error .informationFieldTooLarge
        else .ok ⟨segmented,destination,source,control,information⟩

/-- Decode with caller-provided storage: status, frame view, information buffer and
`informationSize`. The view points into the information buffer. -/
def decodeFrameFromBuffer (input : Pointer) (inputSize : ℕ) (limits : HdlcCodecLimits)
    (frame : HdlcFrame) (informationBuffer : Pointer) (informationBufferSize : ℕ) :
    HdlcStatus × HdlcFrame × Pointer × ℕ :=
  let frame := { frame with informationData := informationBuffer, informationSize := 0 }
  match input with
  | none => (.invalidArgument,frame,informationBuffer,0)
  | some data =>
    if informationBuffer=none ∧ informationBufferSize≠0 then
      (.invalidArgument,frame,informationBuffer,0)
    else
      match parseFrame (data.take inputSize) inputSize limits informationBufferSize with
      | .error status => (status,frame,informationBuffer,0)
      | .ok decoded =>
        let informationBuffer :=
          if decoded.information=[] then informationBuffer
          else informationBuffer.map (fun buffer => overwrite buffer 0 decoded.information)
        (.ok,⟨decoded.segmented,decoded.destination,decoded.source,decoded.control,
          informationBuffer,.ofNat decoded.information.length⟩,informationBuffer,
          decoded.information.length)

/-- Decode into an owning frame, whose Information is cleared on failure. Allocation succeeds: a
frame limit above `max_size()`, for which `assign` throws, is left out, and so is `InternalError`. -/
def decodeFrame (input : Pointer) (inputSize : ℕ) (limits : HdlcCodecLimits) :
    Except HdlcStatus HdlcFrameBuffer :=
  let maximumFrameSize := (effectiveMaximumFrameSize limits).toNat
  let (status,decoded,information,informationSize) := decodeFrameFromBuffer input inputSize limits
    default (if maximumFrameSize=0 then none else some (List.replicate maximumFrameSize 0))
    maximumFrameSize
  if status=.ok then
    .ok ⟨decoded.segmented,decoded.destination,decoded.source,decoded.control,
      information.read informationSize⟩
  else .error status

/-! No check fails with the status of success. -/

theorem HdlcAddress.fromBytesLoop_error {rawValue : UInt32} {index : ℕ} {bytes : List UInt8}
    {status : HdlcStatus} (h : fromBytesLoop rawValue index bytes=.error status) :
    status≠.ok := by
  induction bytes generalizing rawValue index with
  | nil =>
    simp only [fromBytesLoop,Except.error.injEq] at h
    subst h
    split <;> simp
  | cons byte rest ih =>
    rw [fromBytesLoop] at h
    repeat' split at h
    all_goals first | exact ih h | (cases h; decide) | cases h

theorem HdlcAddress.fromBytes_error {data : List UInt8} {status : HdlcStatus}
    (h : fromBytes (some data)=.error status) : status≠.ok := by
  simp only [fromBytes] at h
  split at h
  · rename_i hl
    cases h
    exact fromBytesLoop_error hl
  · cases h

theorem checkFormat_error {input : List UInt8} {inputSize : ℕ} {limits : HdlcCodecLimits}
    {status : HdlcStatus} (h : checkFormat input inputSize limits=.error status) :
    status≠.ok := by
  unfold checkFormat at h
  dsimp only at h
  repeat' split at h
  all_goals cases h
  all_goals decide

theorem decodeHeader_error {input : List UInt8} {fullFrameSize : ℕ} {status : HdlcStatus}
    (h : decodeHeader input fullFrameSize=.error status) : status≠.ok := by
  unfold decodeHeader at h
  dsimp only at h
  split at h
  · rename_i hd
    cases h
    exact HdlcAddress.fromBytes_error hd
  split at h
  · rename_i hs
    cases h
    exact HdlcAddress.fromBytes_error hs
  split at h
  · cases h
    decide
  split at h
  · rename_i hc
    cases h
    rw [HdlcControl.decode_error hc]
    decide
  · cases h

theorem checkSequences_error {input : List UInt8} {formatFieldLength offset : ℕ}
    {status : HdlcStatus} (h : checkSequences input formatFieldLength offset=.error status) :
    status≠.ok := by
  unfold checkSequences at h
  dsimp only at h
  repeat' split at h
  all_goals cases h
  all_goals decide

theorem parseFrame_error {input : List UInt8} {inputSize : ℕ} {limits : HdlcCodecLimits}
    {informationBufferSize : ℕ} {status : HdlcStatus}
    (h : parseFrame input inputSize limits informationBufferSize=.error status) :
    status≠.ok := by
  unfold parseFrame at h
  dsimp only at h
  split at h
  · rename_i hf
    cases h
    exact checkFormat_error hf
  split at h
  · rename_i hh
    cases h
    exact decodeHeader_error hh
  split at h
  · rename_i hs
    cases h
    exact checkSequences_error hs
  repeat' split at h
  all_goals cases h
  all_goals decide

/-- The convenience decoder is the checks of the strict one, with an information buffer of the
size of the largest frame. -/
theorem decodeFrame_eq_parseFrame (data : List UInt8) (inputSize : ℕ) (limits : HdlcCodecLimits) :
    decodeFrame (some data) inputSize limits=
      parseFrame (data.take inputSize) inputSize limits
        (effectiveMaximumFrameSize limits).toNat := by
  have hpos : (effectiveMaximumFrameSize limits).toNat≠0 := by
    rw [ne_eq,← UInt64.toNat_zero,UInt64.toNat_inj]
    exact effectiveMaximumFrameSize_ne_zero limits
  simp only [decodeFrame,decodeFrameFromBuffer,hpos,↓reduceIte,reduceCtorEq,false_and]
  cases hp : parseFrame (data.take inputSize) inputSize limits
    (effectiveMaximumFrameSize limits).toNat with
  | error status => simp [parseFrame_error hp]
  | ok frame =>
    by_cases hi : frame.information=[]
    · simp only [hi,↓reduceIte,List.length_nil,Pointer.read_some,List.take_zero]
      rw [← hi]
    · simp [hi,overwrite]

/-- The decoder reads no byte behind the size it is given. -/
theorem decodeFrame_take (data : List UInt8) (size : ℕ) (limits : HdlcCodecLimits) :
    decodeFrame (some (data.take size)) size limits=decodeFrame (some data) size limits := by
  rw [decodeFrame_eq_parseFrame,decodeFrame_eq_parseFrame,List.take_take,min_self]

end DlmsHdlc
