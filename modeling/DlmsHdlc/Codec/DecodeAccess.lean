import DlmsHdlc.Codec.Completeness
import DlmsHdlc.Library.Checked

/-! The strict decoder with its indices: a run that fails at a read outside the input, a write
outside the information buffer, or a difference of sizes below zero. -/
namespace DlmsHdlc
open Checked

def readUint16LowByteFirstAt (input : List UInt8) (pos : ℕ) : Option UInt16 := do
  let low ← input[pos]?
  let high ← input[pos+1]?
  return low.toUInt16 ||| (high.toUInt16 <<< 8)

def readUint16HighByteFirstAt (input : List UInt8) (pos : ℕ) : Option UInt16 := do
  let high ← input[pos]?
  let low ← input[pos+1]?
  return (high.toUInt16 <<< 8) ||| low.toUInt16

def calculateHdlcCrcAt (input : List UInt8) (pos size : ℕ) : Option UInt16 := do
  let crc ← fold updateCrc input pos size kInitialFcs
  return crc ^^^ 0xffff

namespace HdlcAddress

/-- The loop of `FromBytes` with `remaining` bytes left from `pos` on. -/
def fromBytesLoopAt (input : List UInt8) :
    ℕ → ℕ → UInt32 → ℕ → Option (Except HdlcStatus (UInt32 × ℕ))
  | _,0,_,index => some (.error (if index < 4 then .needMoreData else .invalidAddress))
  | pos,remaining+1,rawValue,index =>
    if index < 4 then do
      let byte ← input[pos]?
      if byte &&& 0x01 ≠ 0 then
        if isSupportedEncodedSize (index+1) then return .ok (appendGroup rawValue byte,index+1)
        else return .error .unsupportedAddress
      else fromBytesLoopAt input (pos+1) remaining (appendGroup rawValue byte) (index+1)
    else some (.error .invalidAddress)

/-- `FromBytes` on the `size` bytes from `pos` on. -/
def fromBytesAt (input : List UInt8) (pos size : ℕ) :
    Option (Except HdlcStatus (HdlcAddress × ℕ)) := do
  match ← fromBytesLoopAt input pos size 0 0 with
  | .error status => return .error status
  | .ok (rawValue,consumed) =>
    return (fromRaw rawValue consumed).map fun address => (address,consumed)

end HdlcAddress

/-- The source passes the frame, of which only the two addresses are read. -/
def effectiveMaximumInformationFieldSizeAt (destination source : HdlcAddress)
    (limits : HdlcCodecLimits) : Option ℕ :=
  if limits.maximumInformationFieldSize≠0 then some limits.maximumInformationFieldSize.toNat
  else
    let headerSize := 2 + destination.encodedSize + source.encodedSize + 1
    let maximumFrameSize := (effectiveMaximumFrameSize limits).toNat
    if maximumFrameSize < 2 + headerSize + 2 + 2 then some 0
    else do
      let size ← sub maximumFrameSize 2
      let size ← sub size headerSize
      let size ← sub size 2
      sub size 2

/-- Flags, frame format and length; the result is the Frame Format field. -/
def checkFormatAt (input : List UInt8) (inputSize : ℕ) (limits : HdlcCodecLimits) :
    Option (Except HdlcStatus UInt16) :=
  if inputSize < 4 then some (.error .needMoreData)
  else do
    let flag ← input[0]?
    if flag≠kHdlcFlag then return .error .invalidFlag
    else
      let frameFormat ← readUint16HighByteFirstAt input 1
      if frameFormat &&& 0xf000≠kFrameFormatType3 then return .error .invalidFrameFormat
      else
        let formatFieldLength := (frameFormat &&& 0x07ff).toNat
        let fullFrameSize := formatFieldLength+2
        if formatFieldLength < 6 then return .error .invalidFrameLength
        else if kMaximumFormatFieldLength.toNat < formatFieldLength then
          return .error .invalidFrameLength
        else if (effectiveMaximumFrameSize limits).toNat < fullFrameSize then
          return .error .frameTooLarge
        else if inputSize < fullFrameSize then return .error .needMoreData
        else if inputSize≠fullFrameSize then return .error .invalidFrameLength
        else
          let last ← sub fullFrameSize 1
          let closing ← input[last]?
          if closing≠kHdlcFlag then return .error .invalidFlag
          else return .ok frameFormat

/-- Addresses and control; the last component is the offset behind the control byte. -/
def decodeHeaderAt (input : List UInt8) (fullFrameSize : ℕ) :
    Option (Except HdlcStatus (HdlcAddress × HdlcAddress × HdlcControl × ℕ)) := do
  let offset := 3
  let size ← sub fullFrameSize 1
  let size ← sub size offset
  match ← HdlcAddress.fromBytesAt input offset size with
  | .error status => return .error status
  | .ok (destination,consumed) =>
    let offset := offset+consumed
    let size ← sub fullFrameSize 1
    let size ← sub size offset
    match ← HdlcAddress.fromBytesAt input offset size with
    | .error status => return .error status
    | .ok (source,consumed) =>
      let offset := offset+consumed
      let stop ← sub fullFrameSize 3
      if stop ≤ offset then return .error .invalidFrameLength
      else
        let byte ← input[offset]?
        return (HdlcControl.decode byte).map fun control => (destination,source,control,offset+1)

/-- Header and frame check sequences; the result is the place and the size of the Information. -/
def checkSequencesAt (input : List UInt8) (formatFieldLength offset : ℕ) :
    Option (Except HdlcStatus (ℕ × ℕ)) := do
  let fullFrameSize := formatFieldLength+2
  let headerSize ← sub offset 1
  let stop ← sub fullFrameSize 3
  let bytesBeforeFcs ← sub stop offset
  if bytesBeforeFcs=1 then return .error .invalidFrameLength
  else
    let foreign ←
      if bytesBeforeFcs≠0 then do
        let expectedHcs ← readUint16LowByteFirstAt input offset
        let hcs ← calculateHdlcCrcAt input 1 headerSize
        pure (decide (hcs≠expectedHcs))
      else pure false
    if foreign then return .error .invalidHeaderChecksum
    else
      let offset := if bytesBeforeFcs≠0 then offset+2 else offset
      let fcsField ← sub fullFrameSize 3
      let expectedFcs ← readUint16LowByteFirstAt input fcsField
      let covered ← sub formatFieldLength 2
      let fcs ← calculateHdlcCrcAt input 1 covered
      if fcs≠expectedFcs then return .error .invalidFrameChecksum
      else
        let decodedInformationSize ← if bytesBeforeFcs≠0 then sub stop offset else pure 0
        return .ok (offset,decodedInformationSize)

/-- The last checks and the copy. A failing run has no result. -/
def deliverAt (input : List UInt8) (limits : HdlcCodecLimits) (frame decoded : HdlcFrame)
    (place decodedInformationSize : ℕ) (informationBuffer : Pointer) (informationBufferSize : ℕ) :
    Option (HdlcStatus × HdlcFrame × Pointer × ℕ) :=
  if informationBufferSize < decodedInformationSize then
    some (.outputBufferTooSmall,frame,informationBuffer,0)
  else do
    let maximum ← effectiveMaximumInformationFieldSizeAt decoded.destination decoded.source limits
    if maximum < decodedInformationSize then
      return (.informationFieldTooLarge,frame,informationBuffer,0)
    else
      let informationBuffer ←
        if decodedInformationSize≠0 then do
          let buffer ← informationBuffer
          let buffer ← copy input informationBufferSize place 0 decodedInformationSize buffer
          pure (some buffer)
        else pure informationBuffer
      return (.ok,{ decoded with informationData := informationBuffer },informationBuffer,
        decodedInformationSize)

/-- `DecodeFrameFromBuffer` with its indices. The readable bytes are the first `inputSize`. -/
def decodeFrameFromBufferAt (input : Pointer) (inputSize : ℕ) (limits : HdlcCodecLimits)
    (frame : HdlcFrame) (informationBuffer : Pointer) (informationBufferSize : ℕ) :
    Option (HdlcStatus × HdlcFrame × Pointer × ℕ) :=
  let frame := { frame with informationData := informationBuffer, informationSize := 0 }
  match input with
  | none => some (.invalidArgument,frame,informationBuffer,0)
  | some data =>
    if informationBuffer=none ∧ informationBufferSize≠0 then
      some (.invalidArgument,frame,informationBuffer,0)
    else do
      let input := data.take inputSize
      match ← checkFormatAt input inputSize limits with
      | .error status => return (status,frame,informationBuffer,0)
      | .ok frameFormat =>
        let segmented := frameFormat &&& kSegmentationBit != 0
        let formatFieldLength := (frameFormat &&& 0x07ff).toNat
        match ← decodeHeaderAt input (formatFieldLength+2) with
        | .error status => return (status,frame,informationBuffer,0)
        | .ok (destination,source,control,offset) =>
          match ← checkSequencesAt input formatFieldLength offset with
          | .error status => return (status,frame,informationBuffer,0)
          | .ok (place,decodedInformationSize) =>
            deliverAt input limits frame ⟨segmented,destination,source,control,informationBuffer,
                .ofNat decodedInformationSize⟩ place decodedInformationSize informationBuffer
              informationBufferSize

/-! Each part stays in its range, and does what the decoder does. -/

theorem readUint16LowByteFirstAt_eq {input : List UInt8} {pos : ℕ} (h : pos+2 ≤ input.length) :
    readUint16LowByteFirstAt input pos=some (readUint16LowByteFirst (input.drop pos)) := by
  have hlow : pos < input.length := by omega
  have hhigh : pos+1 < input.length := by omega
  rw [readUint16LowByteFirstAt,List.getElem?_eq_getElem hlow,List.getElem?_eq_getElem hhigh,
    List.drop_eq_getElem_cons hlow,List.drop_eq_getElem_cons hhigh]
  rfl

theorem readUint16HighByteFirstAt_eq {input : List UInt8} {pos : ℕ} (h : pos+2 ≤ input.length) :
    readUint16HighByteFirstAt input pos=some (readUint16HighByteFirst (input.drop pos)) := by
  have hhigh : pos < input.length := by omega
  have hlow : pos+1 < input.length := by omega
  rw [readUint16HighByteFirstAt,List.getElem?_eq_getElem hhigh,List.getElem?_eq_getElem hlow,
    List.drop_eq_getElem_cons hhigh,List.drop_eq_getElem_cons hlow]
  rfl

theorem calculateHdlcCrcAt_eq {input : List UInt8} {pos size : ℕ} (h : pos+size ≤ input.length) :
    calculateHdlcCrcAt input pos size=
      some (calculateHdlcCrc (some ((input.drop pos).take size))) := by
  rw [calculateHdlcCrcAt,fold_eq h]
  rfl

theorem getElem?_eq_getD {input : List UInt8} {pos : ℕ} (h : pos < input.length) :
    input[pos]?=some (input.getD pos 0) := by
  rw [List.getD_eq_getElem _ _ h,List.getElem?_eq_getElem h]

namespace HdlcAddress

theorem fromBytesLoopAt_eq {input : List UInt8} {pos remaining : ℕ}
    (h : pos+remaining ≤ input.length) (rawValue : UInt32) (index : ℕ) :
    fromBytesLoopAt input pos remaining rawValue index=
      some (fromBytesLoop rawValue index ((input.drop pos).take remaining)) := by
  induction remaining generalizing pos rawValue index with
  | zero =>
    rw [List.take_zero]
    rfl
  | succ remaining ih =>
    have hpos : pos < input.length := by omega
    rw [fromBytesLoopAt,List.drop_eq_getElem_cons hpos,List.take_succ_cons,fromBytesLoop]
    split
    case isFalse => rfl
    rw [List.getElem?_eq_getElem hpos,Option.bind_eq_bind,Option.bind_some]
    split
    case isFalse => exact ih (by omega) _ _
    split <;> rfl

theorem fromBytes_of_loop {bytes : List UInt8} {rawValue : UInt32} {consumed : ℕ}
    (h : fromBytesLoop 0 0 bytes=.ok (rawValue,consumed)) :
    fromBytes (some bytes)=(fromRaw rawValue consumed).map fun address => (address,consumed) := by
  obtain ⟨hsupported,hrange⟩ := fromBytesLoop_valid (by decide) h
  rw [fromRaw,dif_pos hsupported,dif_pos hrange]
  simp only [fromBytes]
  split
  · rename_i herror
    rw [h] at herror
    cases herror
  · rename_i hok
    rw [h] at hok
    cases hok
    rfl

theorem fromBytesAt_eq {input : List UInt8} {pos size : ℕ} (h : pos+size ≤ input.length) :
    fromBytesAt input pos size=some (fromBytes (some ((input.drop pos).take size))) := by
  rw [fromBytesAt,fromBytesLoopAt_eq h,Option.bind_eq_bind,Option.bind_some]
  cases hloop : fromBytesLoop 0 0 ((input.drop pos).take size) with
  | error status => rw [fromBytes_error_iff.mpr hloop]; rfl
  | ok read =>
    obtain ⟨rawValue,consumed⟩ := read
    rw [fromBytes_of_loop hloop]
    rfl

end HdlcAddress

theorem effectiveMaximumInformationFieldSizeAt_eq (destination source : HdlcAddress)
    (limits : HdlcCodecLimits) :
    effectiveMaximumInformationFieldSizeAt destination source limits=
      some (effectiveMaximumInformationFieldSize destination source limits).toNat := by
  by_cases hzero : limits.maximumInformationFieldSize=0
  · rw [effectiveMaximumInformationFieldSize_toNat hzero,effectiveMaximumInformationFieldSizeAt,
      if_neg (not_not.mpr hzero)]
    dsimp only
    split
    · congr 1
      omega
    · rw [sub_of_le (by omega),Option.bind_eq_bind,Option.bind_some,sub_of_le (by omega),
        Option.bind_some,sub_of_le (by omega),Option.bind_some,sub_of_le (by omega)]
      congr 1
      omega
  · rw [effectiveMaximumInformationFieldSizeAt,effectiveMaximumInformationFieldSize,if_pos hzero,
      if_pos hzero]

theorem checkFormatAt_eq (input : List UInt8) (limits : HdlcCodecLimits) :
    checkFormatAt input input.length limits=some (checkFormat input input.length limits) := by
  unfold checkFormatAt checkFormat
  split
  · rfl
  rw [getElem?_eq_getD (by omega),Option.bind_eq_bind,Option.bind_some]
  split
  · rfl
  rw [readUint16HighByteFirstAt_eq (by omega)]
  dsimp only [Option.bind_eq_bind,Option.bind_some]
  generalize readUint16HighByteFirst (input.drop 1)=frameFormat
  generalize (frameFormat &&& 0x07ff).toNat=length
  split
  · rfl
  split
  · rfl
  split
  · rfl
  split
  · rfl
  split
  · rfl
  split
  · rfl
  rename_i hsize
  rw [ne_eq,not_not] at hsize
  rw [sub_of_le (by omega),Option.bind_some,getElem?_eq_getD (by omega),Option.bind_some]
  split <;> rfl

/-- Up to the closing flag there is something to read. -/
theorem HdlcAddress.fromBytesAt_field {input : List UInt8} {offset : ℕ}
    (h : offset < input.length) :
    fromBytesAt input offset (input.length-1-offset)=
      some (fromBytes (some ((input.drop offset).take (input.length-1-offset)))) :=
  fromBytesAt_eq (by omega)

theorem decodeHeaderAt_eq {input : List UInt8} (h : 8 ≤ input.length) :
    decodeHeaderAt input input.length=some (decodeHeader input input.length) := by
  have hone : sub input.length 1=some (input.length-1) := sub_of_le (by omega)
  have hthree : sub (input.length-1) 3=some (input.length-1-3) := sub_of_le (by omega)
  have hstop : sub input.length 3=some (input.length-3) := sub_of_le (by omega)
  have hfirst : 3 < input.length := by omega
  unfold decodeHeaderAt decodeHeader
  simp only [hone,hthree,hstop,HdlcAddress.fromBytesAt_field hfirst,Option.bind_eq_bind,
    Option.bind_some]
  cases hdestination : HdlcAddress.fromBytes
      (some ((input.drop 3).take (input.length-1-3))) with
  | error status => rfl
  | ok read =>
    obtain ⟨destination,consumed⟩ := read
    obtain ⟨_,hsupported,_⟩ := HdlcAddress.fromBytes_ok_iff_fieldSize.mp ⟨_,hdestination⟩
    have hfour := HdlcAddress.le_four_of_supported hsupported
    have hleft : sub (input.length-1) (3+consumed)=some (input.length-1-(3+consumed)) :=
      sub_of_le (by omega)
    have hsecond : 3+consumed < input.length := by omega
    simp only [hleft,HdlcAddress.fromBytesAt_field hsecond,Option.bind_some]
    cases hsource : HdlcAddress.fromBytes
        (some ((input.drop (3+consumed)).take (input.length-1-(3+consumed)))) with
    | error status => rfl
    | ok read =>
      obtain ⟨source,consumed'⟩ := read
      dsimp only
      split
      · rfl
      rw [getElem?_eq_getD (by omega),Option.bind_some]
      cases HdlcControl.decode (input.getD (3+consumed+consumed') 0) <;> rfl

/-- Where the Information stands and how long it is, for every outcome of the checks. -/
theorem checkSequencesAt_eq {input : List UInt8} {length offset : ℕ}
    (hsize : input.length=length+2) (hlow : 1 ≤ offset) (hhigh : offset+1 ≤ length) :
    ∃ result, checkSequencesAt input length offset=some result ∧
      checkSequences input length offset=
        result.map (fun place => (input.drop place.1).take place.2) ∧
      ∀ place, result=.ok place → place.1+place.2+3 ≤ input.length := by
  have hheader : sub offset 1=some (offset-1) := sub_of_le hlow
  have hstop : sub (length+2) 3=some (length+2-3) := sub_of_le (by omega)
  have hbefore : sub (length+2-3) offset=some (length+2-3-offset) := sub_of_le (by omega)
  have hcovered : sub length 2=some (length-2) := sub_of_le (by omega)
  have hfcsField := @readUint16LowByteFirstAt_eq input (length+2-3) (by omega)
  have hfcs := @calculateHdlcCrcAt_eq input 1 (length-2) (by omega)
  have hhcs := @calculateHdlcCrcAt_eq input 1 (offset-1) (by omega)
  unfold checkSequencesAt checkSequences
  simp only [hheader,hstop,hbefore,hcovered,hfcsField,hfcs,hhcs,Option.bind_eq_bind,
    Option.bind_some]
  by_cases hone : length+2-3-offset=1
  · refine ⟨_,if_pos hone,?_,?_⟩
    · rw [if_pos hone]
      rfl
    · rintro place ⟨⟩
  rw [if_neg hone,if_neg hone]
  by_cases hbare : length+2-3-offset=0
  · simp only [hbare,ne_eq,not_true_eq_false,↓reduceIte,false_and,Option.pure_def,Option.bind_some,
      Bool.false_eq_true]
    split
    · refine ⟨_,rfl,rfl,?_⟩
      rintro place ⟨⟩
    · refine ⟨_,rfl,rfl,?_⟩
      rintro place ⟨⟩
      dsimp only
      omega
  · have hexpected := @readUint16LowByteFirstAt_eq input offset (by omega)
    have hleft : sub (length+2-3) (offset+2)=some (length+2-3-(offset+2)) := sub_of_le (by omega)
    simp only [hbare,ne_eq,not_false_eq_true,↓reduceIte,true_and,hexpected,hleft,Option.pure_def,
      Option.bind_some,decide_eq_true_eq]
    split
    · refine ⟨_,rfl,rfl,?_⟩
      rintro place ⟨⟩
    split
    · refine ⟨_,rfl,rfl,?_⟩
      rintro place ⟨⟩
    · refine ⟨_,rfl,rfl,?_⟩
      rintro place ⟨⟩
      dsimp only
      omega

/-- The copy stays in both memories, because the size has been compared with the buffer. -/
theorem deliverAt_eq {input : List UInt8} {limits : HdlcCodecLimits} {frame decoded : HdlcFrame}
    {place size : ℕ} {informationBuffer : Pointer} {informationBufferSize : ℕ}
    (hread : place+size ≤ input.length) (hvalid : informationBuffer.Valid informationBufferSize)
    (hnull : ¬ (informationBuffer=none ∧ informationBufferSize≠0)) :
    deliverAt input limits frame decoded place size informationBuffer informationBufferSize=
      some (if informationBufferSize < size then (.outputBufferTooSmall,frame,informationBuffer,0)
        else if (effectiveMaximumInformationFieldSize decoded.destination decoded.source
          limits).toNat < size then (.informationFieldTooLarge,frame,informationBuffer,0)
        else
          let informationBuffer := if (input.drop place).take size=[] then informationBuffer
            else informationBuffer.map fun buffer =>
              Buffer.overwrite buffer 0 ((input.drop place).take size)
          (.ok,{ decoded with informationData := informationBuffer },informationBuffer,size)) := by
  have hlength : ((input.drop place).take size).length=size := by
    rw [List.length_take,List.length_drop]
    omega
  unfold deliverAt
  split
  · rfl
  rename_i hroom
  rw [effectiveMaximumInformationFieldSizeAt_eq,Option.bind_eq_bind,Option.bind_some]
  split
  · rfl
  by_cases hzero : size=0
  · subst hzero
    simp
  have hne : (input.drop place).take size≠[] := by
    intro hempty
    rw [hempty] at hlength
    exact hzero hlength.symm
  cases informationBuffer with
  | none => exact absurd ⟨rfl,by omega⟩ hnull
  | some buffer =>
    have hcopy := @copy_eq _ input buffer informationBufferSize place 0 size hread (by omega)
      (hvalid buffer rfl)
    simp only [ne_eq,hzero,not_false_eq_true,↓reduceIte,hne,hcopy,Option.bind_some,Option.pure_def,
      Option.bind_eq_bind,Option.map_some]

/-- No read leaves the input, no write the information buffer, and no size falls below zero. -/
theorem decodeFrameFromBuffer_inBounds {input : Pointer} {inputSize : ℕ} (hinput : input.Valid inputSize)
    (limits : HdlcCodecLimits) (frame : HdlcFrame) {informationBuffer : Pointer}
    {informationBufferSize : ℕ} (hbuffer : informationBuffer.Valid informationBufferSize) :
    decodeFrameFromBufferAt input inputSize limits frame informationBuffer informationBufferSize=
      some (decodeFrameFromBuffer input inputSize limits frame informationBuffer
        informationBufferSize) := by
  unfold decodeFrameFromBufferAt decodeFrameFromBuffer
  cases input with
  | none => rfl
  | some data =>
    dsimp only
    split
    · rfl
    rename_i hnull
    obtain ⟨bytes,hbytes⟩ : ∃ bytes, data.take inputSize=bytes := ⟨_,rfl⟩
    obtain rfl : bytes.length=inputSize := by
      rw [← hbytes,List.length_take_of_le (hinput data rfl)]
    rw [hbytes,checkFormatAt_eq,Option.bind_eq_bind,Option.bind_some,parseFrame]
    cases hformat : checkFormat bytes bytes.length limits with
    | error status => rfl
    | ok format =>
      obtain ⟨hlength,hsix,_⟩ := checkFormat_eq_ok hformat
      dsimp only
      rw [← hlength,decodeHeaderAt_eq (by omega),Option.bind_eq_bind,Option.bind_some]
      cases hheader : decodeHeader bytes bytes.length with
      | error status => rfl
      | ok header =>
        obtain ⟨destination,source,control,offset⟩ := header
        obtain ⟨hoffset,hbehind,_⟩ := decodeHeader_eq_ok le_rfl hheader
        obtain ⟨result,hat,hchecked,hplace⟩ :=
          @checkSequencesAt_eq bytes _ offset hlength (by omega) (by omega)
        dsimp only
        rw [hat,Option.bind_eq_bind,Option.bind_some,hchecked]
        cases result with
        | error status => rfl
        | ok place =>
          obtain ⟨place,size⟩ := place
          have hread : place+size+3 ≤ bytes.length := hplace _ rfl
          dsimp only [Except.map]
          rw [deliverAt_eq (by omega) hbuffer hnull]
          have hsize : ((bytes.drop place).take size).length=size := by
            rw [List.length_take,List.length_drop]
            omega
          rw [hsize]
          split
          · rfl
          split
          · rfl
          · dsimp only
            rw [hsize]

/-- The shortest frame that the length check lets through, with nowhere to put Information. -/
theorem decodeFrameFromBuffer_inBounds_sample :
    decodeFrameFromBufferAt (some [0x7e,0xa0,0x06,0x02,0x04,0x06,0x07,0x7e]) 8
        defaultHdlcCodecLimits default none 0=
      some (decodeFrameFromBuffer (some [0x7e,0xa0,0x06,0x02,0x04,0x06,0x07,0x7e]) 8
        defaultHdlcCodecLimits default none 0) :=
  decodeFrameFromBuffer_inBounds (by rintro bytes ⟨⟩; decide) _ _ (by rintro bytes ⟨⟩)

end DlmsHdlc
