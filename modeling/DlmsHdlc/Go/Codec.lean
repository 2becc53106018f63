import DlmsHdlc.Library.Buffer
import DlmsHdlc.Segmentation.GoReassembler

/-! The frame codec of the Go implementation. The sums of the encoder are 64-bit `int` values, which
may wrap; the numbers of the decoder stay below 2051. -/
namespace DlmsHdlc.Go
open Buffer

def hdlcFlag : UInt8 := 0x7e
def frameFormatType3 : UInt16 := 0xa000
def frameFormatTypeMask : UInt16 := 0xf000
def segmentationBit : UInt16 := 0x0800
def maxFormatFieldLength : UInt64 := 2047

def crcInitial : UInt16 := 0xffff
def crcPolynomial : UInt16 := 0x8408

/-- One turn of the bit loop. -/
def shiftCRC (crc : UInt16) : UInt16 :=
  if crc &&& 0x0001 ≠ 0 then (crc >>> 1) ^^^ crcPolynomial else crc >>> 1

def updateCRC (crc : UInt16) (value : UInt8) : UInt16 :=
  Nat.repeat shiftCRC 8 (crc ^^^ value.toUInt16)

def calculateHdlcCRC (data : List UInt8) : UInt16 := data.foldl updateCRC crcInitial ^^^ 0xffff

/-! The two byte orders of `encoding/binary`. -/

def bigEndianPutUint16 (v : UInt16) : List UInt8 := [(v >>> 8).toUInt8,v.toUInt8]
def littleEndianPutUint16 (v : UInt16) : List UInt8 := [v.toUInt8,(v >>> 8).toUInt8]

def bigEndianUint16 (b : List UInt8) : UInt16 :=
  (b.getD 1 0).toUInt16 ||| ((b.getD 0 0).toUInt16 <<< 8)

def littleEndianUint16 (b : List UInt8) : UInt16 :=
  (b.getD 0 0).toUInt16 ||| ((b.getD 1 0).toUInt16 <<< 8)

def isSupportedEncodedSize (n : UInt64) : Bool := n == 1 || n == 2 || n == 4

/-- The loop of `AddressFromBytes` over what is left of the `length` bytes. -/
def addressFromBytesLoop (length : ℕ) (rawValue : UInt32) (i : ℕ) :
    List UInt8 → Except HdlcStatus (Address × ℕ)
  | [] => .error (if length < 4 then .needMoreData else .invalidAddress)
  | byte::rest =>
    if i < 4 then
      let rawValue := (rawValue <<< 7) ||| ((byte >>> 1) &&& 0x7f).toUInt32
      let consumed : UInt64 := .ofNat (i+1)
      if byte &&& 0x01 ≠ 0 then
        if !isSupportedEncodedSize consumed then .error .unsupportedAddress
        else .ok (⟨rawValue,consumed⟩,i+1)
      else addressFromBytesLoop length rawValue (i+1) rest
    else .error (if length < 4 then .needMoreData else .invalidAddress)

def addressFromBytes (data : List UInt8) : Except HdlcStatus (Address × ℕ) :=
  addressFromBytesLoop data.length 0 0 data

/-- A shift count of 32 or more gives zero, as in Go. -/
def Address.encode (a : Address) : List UInt8 :=
  (List.range a.encodedSize.toNat).map fun i =>
    let shift := (a.encodedSize.toNat - i - 1)*7
    let val : UInt8 := .ofNat ((a.rawValue.toNat >>> shift) &&& 0x7f)
    if i+1=a.encodedSize.toNat then (val <<< 1) ||| 0x01 else val <<< 1

def isSupportedUnnumbered (value : UInt8) : Bool :=
  [0x83,0x63,0x43,0x0f,0x87,0x03].contains (value &&& 0xef)

def controlFromByte (value : UInt8) : Except HdlcStatus Control :=
  if value &&& 0x01=0 then .ok ⟨value⟩
  else if value &&& 0x03=0x01 then .ok ⟨value⟩
  else if isSupportedUnnumbered value then .ok ⟨value⟩
  else .error .invalidControlField

def Control.encode (c : Control) : UInt8 := c.raw

def effectiveMaximumFrameSize (limits : CodecLimits) : UInt64 :=
  if limits.maximumFrameSize=0 then 2049 else limits.maximumFrameSize

def effectiveMaximumInformationFieldSize (destSize srcSize : UInt64) (limits : CodecLimits) :
    UInt64 :=
  if limits.maximumInformationFieldSize≠0 then limits.maximumInformationFieldSize
  else
    let headerSize := 2 + destSize + srcSize + 1
    let maxFrame := effectiveMaximumFrameSize limits
    let overhead := 2 + headerSize + 2 + 2
    if maxFrame ≤ overhead then 0 else maxFrame - overhead

/-- HCS and Information when there is any, FCS, closing flag: the output and the final offset. -/
def writeFrameTail (frame : Frame) (output : List UInt8) (offset : ℕ) : List UInt8 × ℕ :=
  let (output,offset) :=
    if 0 < frame.information.length then
      let hcs := calculateHdlcCRC ((output.take offset).drop 1)
      let output := overwrite output offset (littleEndianPutUint16 hcs)
      let output := overwrite output (offset+2) frame.information
      (output,offset+2+frame.information.length)
    else (output,offset)
  let fcs := calculateHdlcCRC ((output.take offset).drop 1)
  let output := overwrite output offset (littleEndianPutUint16 fcs)
  let output := overwrite output (offset+2) [hdlcFlag]
  (output,offset+3)

def writeFrame (frame : Frame) (formatFieldLength : Int64) (output : List UInt8) :
    List UInt8 × ℕ :=
  let destEnc := frame.destination.encode
  let srcEnc := frame.source.encode
  let seg := if frame.segmented then segmentationBit else 0
  let output := overwrite output 0 [hdlcFlag]
  let output := overwrite output 1
    (bigEndianPutUint16 (frameFormatType3 ||| seg ||| formatFieldLength.toUInt64.toUInt16))
  let output := overwrite output 3 destEnc
  let output := overwrite output (3+destEnc.length) srcEnc
  let offset := 3+destEnc.length+srcEnc.length
  let output := overwrite output offset [frame.control.encode]
  writeFrameTail frame output (offset+1)

/-- The output slice and the number of bytes written, or an error before the first write. -/
def encodeFrameToBuffer (frame : Frame) (limits : CodecLimits) (output : List UInt8) :
    Except HdlcStatus (List UInt8 × ℕ) :=
  let destEnc := frame.destination.encode
  let srcEnc := frame.source.encode
  let maxInfo := effectiveMaximumInformationFieldSize frame.destination.encodedSize
    frame.source.encodedSize limits
  if maxInfo < .ofNat frame.information.length then .error .informationFieldTooLarge
  else
    let headerSize : Int64 := 2 + .ofNat destEnc.length + .ofNat srcEnc.length + 1
    let hcsSize : Int64 := if 0 < frame.information.length then 2 else 0
    let formatFieldLength := headerSize + hcsSize + .ofNat frame.information.length + 2
    let fullFrameSize := formatFieldLength + 2
    if maxFormatFieldLength < formatFieldLength.toUInt64 then .error .invalidFrameLength
    else if effectiveMaximumFrameSize limits < fullFrameSize.toUInt64 then .error .frameTooLarge
    else if output.length < fullFrameSize.toInt then .error .outputBufferTooSmall
    else .ok (writeFrame frame formatFieldLength output)

def encodeFrame (frame : Frame) (limits : CodecLimits) : Except HdlcStatus (List UInt8) :=
  let buf := List.replicate (effectiveMaximumFrameSize limits).toNat 0
  match encodeFrameToBuffer frame limits buf with
  | .error err => .error err
  | .ok (buf,n) => .ok (buf.take n)

/-- Flags, frame format and length; the result is the Frame Format field. -/
def checkFormat (input : List UInt8) (limits : CodecLimits) : Except HdlcStatus UInt16 :=
  if input.length < 4 then .error .needMoreData
  else if input.getD 0 0≠hdlcFlag then .error .invalidFlag
  else
    let ff := bigEndianUint16 (input.drop 1)
    if ff &&& frameFormatTypeMask≠frameFormatType3 then .error .invalidFrameFormat
    else
      let formatFieldLength := (ff &&& 0x07ff).toNat
      let fullFrameSize := formatFieldLength+2
      if formatFieldLength < 6 then .error .invalidFrameLength
      else if maxFormatFieldLength.toNat < formatFieldLength then .error .invalidFrameLength
      else if (effectiveMaximumFrameSize limits).toNat < fullFrameSize then .error .frameTooLarge
      else if input.length < fullFrameSize then .error .needMoreData
      else if input.length≠fullFrameSize then .error .invalidFrameLength
      else if input.getD (fullFrameSize-1) 0≠hdlcFlag then .error .invalidFlag
      else .ok ff

/-- Addresses and control; the last component is `headerSize`, the offset of the control byte. -/
def decodeHeader (input : List UInt8) (fullFrameSize : ℕ) :
    Except HdlcStatus (Address × Address × Control × ℕ) :=
  let offset := 3
  match addressFromBytes ((input.take (fullFrameSize-1)).drop offset) with
  | .error err => .error err
  | .ok (dst,consumed) =>
    let offset := offset+consumed
    match addressFromBytes ((input.take (fullFrameSize-1)).drop offset) with
    | .error err => .error err
    | .ok (src,consumed) =>
      let offset := offset+consumed
      if fullFrameSize-3 ≤ offset then .error .invalidFrameLength
      else
        match controlFromByte (input.getD offset 0) with
        | .error err => .error err
        | .ok ctrl => .ok (dst,src,ctrl,offset)

/-- Header and frame check sequences; the result is the part of the input that is Information. -/
def checkSequences (input : List UInt8) (fullFrameSize headerSize : ℕ) :
    Except HdlcStatus (List UInt8) :=
  let offset := headerSize+1
  let bytesBeforeFCS := fullFrameSize-3-offset
  if bytesBeforeFCS=1 then .error .invalidFrameLength
  else if bytesBeforeFCS≠0 ∧ calculateHdlcCRC ((input.take (1+headerSize)).drop 1)≠
      littleEndianUint16 (input.drop offset) then .error .invalidHeaderChecksum
  else
    let offset := if bytesBeforeFCS≠0 then offset+2 else offset
    if calculateHdlcCRC ((input.take (fullFrameSize-3)).drop 1)≠
        littleEndianUint16 (input.drop (fullFrameSize-3)) then .error .invalidFrameChecksum
    else
      let infoSize := if bytesBeforeFCS≠0 then fullFrameSize-3-offset else 0
      .ok ((input.take (offset+infoSize)).drop offset)

/-- The frame, the Information size and the caller's slice; `none` is the `nil` slice, for which the
Information is allocated. -/
def decodeFrameFromBuffer (input : List UInt8) (limits : CodecLimits)
    (infoBuf : Option (List UInt8)) :
    Except HdlcStatus (Frame × ℕ × Option (List UInt8)) :=
  match checkFormat input limits with
  | .error err => .error err
  | .ok ff =>
    let segmented := ff &&& segmentationBit != 0
    let fullFrameSize := (ff &&& 0x07ff).toNat+2
    match decodeHeader input fullFrameSize with
    | .error err => .error err
    | .ok (dst,src,ctrl,headerSize) =>
      match checkSequences input fullFrameSize headerSize with
      | .error err => .error err
      | .ok info =>
        let maxInfo := effectiveMaximumInformationFieldSize dst.encodedSize src.encodedSize limits
        if maxInfo.toNat < info.length then .error .informationFieldTooLarge
        else if info.length≠0 ∧ infoBuf.any (fun buf => buf.length < info.length) then
          .error .outputBufferTooSmall
        else .ok (⟨segmented,dst,src,ctrl,info⟩,info.length,
          infoBuf.map (fun buf => overwrite buf 0 info))

def decodeFrame (input : List UInt8) (limits : CodecLimits) : Except HdlcStatus Frame :=
  (decodeFrameFromBuffer input limits none).map Prod.fst

end DlmsHdlc.Go
