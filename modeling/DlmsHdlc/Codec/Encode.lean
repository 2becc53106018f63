import DlmsHdlc.Crc
import DlmsHdlc.Frame
import DlmsHdlc.Library.Buffer

/-! The frame encoder, in two layers: the piecewise writer of the source, and the frame image it
is proved to produce. Sizes before the checks are `std::size_t` values modulo 2^64. -/
namespace DlmsHdlc
open Buffer

def kHdlcFlag : UInt8 := 0x7e
def kFrameFormatType3 : UInt16 := 0xa000
def kSegmentationBit : UInt16 := 0x0800
def kMaximumFormatFieldLength : UInt64 := 2047

def headerSize (destination source : HdlcAddress) : UInt64 :=
  2 + .ofNat destination.encodedSize + .ofNat source.encodedSize + 1

/-- The source passes the frame, of which only the two addresses are read. -/
def effectiveMaximumInformationFieldSize (destination source : HdlcAddress)
    (limits : HdlcCodecLimits) : UInt64 :=
  if limits.maximumInformationFieldSize≠0 then limits.maximumInformationFieldSize
  else
    let headerSize := headerSize destination source
    let maximumFrameSize := effectiveMaximumFrameSize limits
    if maximumFrameSize < 2 + headerSize + 2 + 2 then 0
    else maximumFrameSize - 2 - headerSize - 2 - 2

def writeUint16LowByteFirst (value : UInt16) : List UInt8 :=
  [(value &&& 0xff).toUInt8,((value >>> 8) &&& 0xff).toUInt8]

def writeUint16HighByteFirst (value : UInt16) : List UInt8 :=
  [((value >>> 8) &&& 0xff).toUInt8,(value &&& 0xff).toUInt8]

/-- The Frame Format field: type, segmentation bit and length. -/
def frameFormat (segmented : Bool) (formatFieldLength : UInt64) : UInt16 :=
  kFrameFormatType3 ||| (if segmented then kSegmentationBit else 0) ||| formatFieldLength.toUInt16

/-- The size checks made before the first write; the result is `formatFieldLength`. -/
def checkFrameSize (frame : HdlcFrame) (limits : HdlcCodecLimits) (outputSize : ℕ) :
    Except HdlcStatus UInt64 :=
  if effectiveMaximumInformationFieldSize frame.destination frame.source limits <
      frame.informationSize then .error .informationFieldTooLarge
  else
    let formatFieldLength := headerSize frame.destination frame.source +
      (if frame.informationSize≠0 then 2 else 0) + frame.informationSize + 2
    let fullFrameSize := formatFieldLength + 2
    if kMaximumFormatFieldLength < formatFieldLength then .error .invalidFrameLength
    else if effectiveMaximumFrameSize limits < fullFrameSize then .error .frameTooLarge
    else if outputSize < fullFrameSize.toNat then .error .outputBufferTooSmall
    else .ok formatFieldLength

/-- The part after the header: HCS and Information when there is any, FCS, closing flag. -/
def writeFrameTail (frame : HdlcFrame) (formatFieldLength : UInt64) (output : List UInt8)
    (offset : ℕ) : HdlcStatus × List UInt8 × ℕ :=
  let headerSize := (headerSize frame.destination frame.source).toNat
  let (output,offset) :=
    if frame.informationSize≠0 then
      let hcs := calculateHdlcCrc (some ((output.drop 1).take headerSize))
      let output := overwrite output offset (writeUint16LowByteFirst hcs)
      let output := overwrite output (offset+2) frame.information
      (output,offset+2+frame.informationSize.toNat)
    else (output,offset)
  let fcs := calculateHdlcCrc (some ((output.drop 1).take (formatFieldLength - 2).toNat))
  let output := overwrite output offset (writeUint16LowByteFirst fcs)
  let output := overwrite output (offset+2) [kHdlcFlag]
  (.ok,output,offset+3)

/-- The writes of `EncodeFrameToBuffer`: status, output buffer, `writtenSize`. -/
def writeFrame (frame : HdlcFrame) (formatFieldLength : UInt64) (output : List UInt8)
    (outputSize : ℕ) : HdlcStatus × List UInt8 × ℕ :=
  let output := overwrite output 0 [kHdlcFlag]
  let output := overwrite output 1
    (writeUint16HighByteFirst (frameFormat frame.segmented formatFieldLength))
  match frame.destination.encode (some (output.drop 3)) (outputSize-3) with
  | .error status => (status,output,0)
  | .ok written =>
    let output := output.take 3 ++ written
    let offset := 3+frame.destination.encodedSize
    match frame.source.encode (some (output.drop offset)) (outputSize-offset) with
    | .error status => (status,output,0)
    | .ok written =>
      let output := output.take offset ++ written
      let offset := offset+frame.source.encodedSize
      let output := overwrite output offset [frame.control.encode]
      writeFrameTail frame formatFieldLength output (offset+1)

/-- Encode into caller-provided storage: status, output buffer, `writtenSize`. -/
def encodeFrameToBuffer (frame : HdlcFrame) (limits : HdlcCodecLimits) (output : Pointer)
    (outputSize : ℕ) : HdlcStatus × Pointer × ℕ :=
  match output with
  | none => (.invalidArgument,none,0)
  | some buffer =>
    if frame.informationData=none ∧ frame.informationSize≠0 then
      (.invalidArgument,some buffer,0)
    else
      match checkFrameSize frame limits outputSize with
      | .error status => (status,some buffer,0)
      | .ok formatFieldLength =>
        let (status,buffer,writtenSize) := writeFrame frame formatFieldLength buffer outputSize
        (status,some buffer,writtenSize)

/-- Encode into a vector, which is cleared on every failure. Allocation succeeds: a frame limit
above `max_size()`, for which `assign` throws, is left out, and so is `InternalError`. -/
def encodeFrame (frame : HdlcFrame) (limits : HdlcCodecLimits) :
    Except HdlcStatus (List UInt8) :=
  let maximumFrameSize := (effectiveMaximumFrameSize limits).toNat
  let (status,output,writtenSize) := encodeFrameToBuffer frame limits
    (if maximumFrameSize=0 then none else some (List.replicate maximumFrameSize 0)) maximumFrameSize
  if status=.ok then .ok (output.read writtenSize) else .error status

theorem encodeFrame_error {frame : HdlcFrame} {limits : HdlcCodecLimits} {status : HdlcStatus}
    (h : encodeFrame frame limits=.error status) : status≠.ok := by
  simp only [encodeFrame] at h
  generalize encodeFrameToBuffer frame limits (if (effectiveMaximumFrameSize limits).toNat=0 then
    none else some (List.replicate (effectiveMaximumFrameSize limits).toNat 0))
      (effectiveMaximumFrameSize limits).toNat=result at h
  split at h
  · cases h
  · rename_i hstatus
    cases h
    exact hstatus

/-- The writes never report an Information field that is too large. -/
theorem writeFrame_status (frame : HdlcFrame) (formatFieldLength : UInt64) (output : List UInt8)
    (outputSize : ℕ) :
    (writeFrame frame formatFieldLength output outputSize).1≠.informationFieldTooLarge := by
  unfold writeFrame
  dsimp only
  split
  · rename_i hdestination
    exact HdlcAddress.encode_error hdestination
  split
  · rename_i hsource
    exact HdlcAddress.encode_error hsource
  · unfold writeFrameTail
    exact nofun

/-- That report is a comparison with the effective limit, for every size. -/
theorem encodeFrame_informationFieldTooLarge_iff (frame : HdlcFrame)
    (hdata : frame.informationData≠none) (limits : HdlcCodecLimits) :
    encodeFrame frame limits=.error .informationFieldTooLarge ↔
      effectiveMaximumInformationFieldSize frame.destination frame.source limits <
        frame.informationSize := by
  have hpos : (effectiveMaximumFrameSize limits).toNat≠0 := by
    rw [ne_eq,← UInt64.toNat_zero,UInt64.toNat_inj]
    exact effectiveMaximumFrameSize_ne_zero limits
  simp only [encodeFrame,hpos,↓reduceIte,encodeFrameToBuffer,hdata,false_and]
  by_cases hlarge : effectiveMaximumInformationFieldSize frame.destination frame.source limits <
      frame.informationSize
  · simp [checkFrameSize,hlarge]
  · simp only [hlarge,iff_false]
    intro h
    cases hcheck : checkFrameSize frame limits (effectiveMaximumFrameSize limits).toNat with
    | error status =>
      rw [hcheck] at h
      dsimp only at h
      have hstatus : status=.informationFieldTooLarge := by
        split at h
        · cases h
        · injection h
      simp only [checkFrameSize,hlarge,↓reduceIte,hstatus] at hcheck
      repeat' split at hcheck
      all_goals cases hcheck
    | ok formatFieldLength =>
      rw [hcheck] at h
      dsimp only at h
      split at h
      · cases h
      · injection h with h
        exact writeFrame_status _ _ _ _ h

/-- Limits matter through their two effective values only. -/
theorem encodeFrame_congr {frame : HdlcFrame} {limits limits' : HdlcCodecLimits}
    (hinformation :
      effectiveMaximumInformationFieldSize frame.destination frame.source limits=
        effectiveMaximumInformationFieldSize frame.destination frame.source limits')
    (hframe : limits.maximumFrameSize=limits'.maximumFrameSize) :
    encodeFrame frame limits=encodeFrame frame limits' := by
  have hsize : effectiveMaximumFrameSize limits=effectiveMaximumFrameSize limits' := by
    simp only [effectiveMaximumFrameSize,hframe]
  have hcheck : checkFrameSize frame limits=checkFrameSize frame limits' := by
    funext outputSize
    simp only [checkFrameSize,hinformation,hsize]
  simp only [encodeFrame,encodeFrameToBuffer,hcheck,hsize]

/-! The image of a frame on the line, and the sizes the checks are about. -/
namespace HdlcFrameBuffer

/-- The Format Field length of a frame, as an unbounded number. -/
def formatLength (frame : HdlcFrameBuffer) : ℕ :=
  5 + frame.destination.encodedSize + frame.source.encodedSize +
    (if frame.information=[] then 0 else 2) + frame.information.length

/-- Format field, addresses and control: what the HCS covers. -/
def header (frame : HdlcFrameBuffer) : List UInt8 :=
  writeUint16HighByteFirst (frameFormat frame.segmented (.ofNat frame.formatLength)) ++
    frame.destination.wire ++ frame.source.wire ++ [frame.control.encode]

/-- Header check sequence and Information bytes, both absent when there is no Information. -/
def payload (frame : HdlcFrameBuffer) : List UInt8 :=
  if frame.information=[] then []
  else writeUint16LowByteFirst (calculateHdlcCrc (some frame.header)) ++ frame.information

/-- What the FCS covers. -/
def body (frame : HdlcFrameBuffer) : List UInt8 := frame.header ++ frame.payload

/-- The whole frame between and with its flags. -/
def wire (frame : HdlcFrameBuffer) : List UInt8 :=
  [kHdlcFlag] ++ frame.body ++
    writeUint16LowByteFirst (calculateHdlcCrc (some frame.body)) ++ [kHdlcFlag]

/-- The frame is within the format and within the limits. -/
structure Fits (frame : HdlcFrameBuffer) (limits : HdlcCodecLimits) : Prop where
  information_le : frame.information.length ≤
    (effectiveMaximumInformationFieldSize frame.destination frame.source limits).toNat
  format_le : frame.formatLength ≤ 2047
  frame_le : frame.formatLength+2 ≤ (effectiveMaximumFrameSize limits).toNat

instance (frame : HdlcFrameBuffer) (limits : HdlcCodecLimits) : Decidable (frame.Fits limits) :=
  decidable_of_iff (frame.information.length ≤
      (effectiveMaximumInformationFieldSize frame.destination frame.source limits).toNat ∧
    frame.formatLength ≤ 2047 ∧ frame.formatLength+2 ≤ (effectiveMaximumFrameSize limits).toNat)
    ⟨fun h => ⟨h.1,h.2.1,h.2.2⟩,fun h => ⟨h.1,h.2,h.3⟩⟩

@[simp] theorem header_length (frame : HdlcFrameBuffer) :
    frame.header.length=3+frame.destination.encodedSize+frame.source.encodedSize := by
  simp only [header,writeUint16HighByteFirst,List.length_append,List.length_cons,List.length_nil,
    HdlcAddress.wire_length]
  omega

theorem payload_length (frame : HdlcFrameBuffer) :
    frame.payload.length=(if frame.information=[] then 0 else 2)+frame.information.length := by
  unfold payload
  split
  · simp_all
  · simp only [writeUint16LowByteFirst,List.length_append,List.length_cons,List.length_nil]

@[simp] theorem body_length (frame : HdlcFrameBuffer) :
    frame.body.length+2=frame.formatLength := by
  simp only [body,List.length_append,header_length,payload_length,formatLength]
  omega

@[simp] theorem wire_length (frame : HdlcFrameBuffer) :
    frame.wire.length=frame.formatLength+2 := by
  have := frame.body_length
  simp only [wire,writeUint16LowByteFirst,List.length_append,List.length_cons,List.length_nil]
  omega

end HdlcFrameBuffer

theorem headerSize_toNat (destination source : HdlcAddress) :
    (headerSize destination source).toNat=3+destination.encodedSize+source.encodedSize := by
  have hd := destination.encodedSize_cases
  have hs := source.encodedSize_cases
  simp only [headerSize,UInt64.toNat_add,UInt64.toNat_ofNat']
  change (((2+_)%2^64+_)%2^64+1)%2^64=_
  omega

/-- Without an explicit limit the frame size is left for the Information but for flags, header and
both check sequences. -/
theorem effectiveMaximumInformationFieldSize_toNat {limits : HdlcCodecLimits}
    (hzero : limits.maximumInformationFieldSize=0) (destination source : HdlcAddress) :
    (effectiveMaximumInformationFieldSize destination source limits).toNat=
      (effectiveMaximumFrameSize limits).toNat-
        (9+destination.encodedSize+source.encodedSize) := by
  have hd := destination.encodedSize_cases
  have hs := source.encodedSize_cases
  have hheader := headerSize_toNat destination source
  have hlt := (effectiveMaximumFrameSize limits).toNat_lt
  have hoverhead : (2+headerSize destination source+2+2).toNat=
      9+destination.encodedSize+source.encodedSize := by
    simp only [UInt64.toNat_add,hheader]
    change (((2+_)%2^64+2)%2^64+2)%2^64=_
    omega
  unfold effectiveMaximumInformationFieldSize
  rw [if_neg (by simp [hzero])]
  dsimp only
  split
  · rename_i hsmall
    rw [UInt64.lt_iff_toNat_lt,hoverhead] at hsmall
    rw [UInt64.toNat_zero]
    omega
  · rename_i hlarge
    rw [UInt64.lt_iff_toNat_lt,hoverhead] at hlarge
    simp only [UInt64.toNat_sub,hheader]
    change (2^64-2+(2^64-2+(2^64-_+(2^64-2+_)%2^64)%2^64)%2^64)%2^64=_
    omega

/-- Whatever the limits, no size above the Format Field length is encoded, unless it wraps. -/
theorem encodeFrame_ok_size {frame : HdlcFrame} {limits : HdlcCodecLimits} {bytes : List UInt8}
    (h : encodeFrame frame limits=.ok bytes) (hsize : frame.informationSize.toNat < 2^64-64) :
    frame.informationSize.toNat ≤ 2047 := by
  have hcheck : ∃ outputSize length, checkFrameSize frame limits outputSize=.ok length := by
    refine ⟨(effectiveMaximumFrameSize limits).toNat,?_⟩
    cases hcheck : checkFrameSize frame limits (effectiveMaximumFrameSize limits).toNat with
    | ok length => exact ⟨length,rfl⟩
    | error status =>
      have hstatus : status≠.ok := by
        rintro rfl
        simp only [checkFrameSize] at hcheck
        repeat' split at hcheck
        all_goals cases hcheck
      simp only [encodeFrame,encodeFrameToBuffer,hcheck] at h
      repeat' split at h
      all_goals simp_all
  obtain ⟨outputSize,length,hcheck⟩ := hcheck
  have hd := frame.destination.encodedSize_cases
  have hs := frame.source.encodedSize_cases
  by_contra hlarge
  have hlength : kMaximumFormatFieldLength < headerSize frame.destination frame.source +
      (if frame.informationSize≠0 then 2 else 0) + frame.informationSize + 2 := by
    have hpad : (if frame.informationSize≠0 then (2 : UInt64) else 0).toNat ≤ 2 := by
      split <;> decide
    rw [UInt64.lt_iff_toNat_lt]
    simp only [UInt64.toNat_add,headerSize_toNat]
    change 2047 < (((_+_)%2^64+_)%2^64+2)%2^64
    omega
  simp only [checkFrameSize,hlength,↓reduceIte] at hcheck
  split at hcheck <;> cases hcheck

namespace HdlcFrame

theorem informationSize_eq_zero_iff {frame : HdlcFrame} (h : frame.WellFormed) :
    frame.informationSize=0 ↔ frame.information=[] := by
  rw [← List.length_eq_zero_iff,h.size_eq,← UInt64.toNat_inj]
  rfl

/-- Information below 2^63 bytes keeps the `std::size_t` sum of the encoder exact. -/
theorem formatFieldLength_toNat {frame : HdlcFrame} (h : frame.WellFormed) :
    (headerSize frame.destination frame.source + (if frame.informationSize≠0 then 2 else 0) +
      frame.informationSize + 2).toNat=frame.toBuffer.formatLength := by
  have hd := frame.destination.encodedSize_cases
  have hs := frame.source.encodedSize_cases
  have hn := h.size_lt
  have hi := informationSize_eq_zero_iff h
  have hsize := h.size_eq
  change _=5+frame.destination.encodedSize+frame.source.encodedSize+
    (if frame.information=[] then 0 else 2)+frame.information.length
  rw [UInt64.toNat_add,UInt64.toNat_add,UInt64.toNat_add,headerSize_toNat]
  by_cases hz : frame.informationSize=0
  · rw [if_neg (by simpa using hz),if_pos (hi.mp hz)]
    change (((_+0)%2^64+_)%2^64+2)%2^64=_
    omega
  · rw [if_pos hz,if_neg (mt hi.mpr hz)]
    change (((_+2)%2^64+_)%2^64+2)%2^64=_
    omega

end HdlcFrame

/-- The size checks compare the unbounded sizes, in this order. -/
theorem checkFrameSize_eq {frame : HdlcFrame} (h : frame.WellFormed) (limits : HdlcCodecLimits)
    (outputSize : ℕ) :
    checkFrameSize frame limits outputSize=
      if (effectiveMaximumInformationFieldSize frame.destination frame.source limits).toNat <
          frame.information.length then .error .informationFieldTooLarge
      else if 2047 < frame.toBuffer.formatLength then .error .invalidFrameLength
      else if (effectiveMaximumFrameSize limits).toNat < frame.toBuffer.formatLength+2 then
        .error .frameTooLarge
      else if outputSize < frame.toBuffer.formatLength+2 then .error .outputBufferTooSmall
      else .ok (.ofNat frame.toBuffer.formatLength) := by
  have hlen := HdlcFrame.formatFieldLength_toNat h
  unfold checkFrameSize
  simp only [UInt64.lt_iff_toNat_lt,h.size_eq]
  generalize headerSize frame.destination frame.source +
    (if frame.informationSize≠0 then 2 else 0) + frame.informationSize + 2=n at hlen ⊢
  have hmax : kMaximumFormatFieldLength.toNat=2047 := rfl
  rw [hmax,hlen]
  split
  · rfl
  split
  · rfl
  rename_i hshort
  have hfull : (n+2).toNat=frame.toBuffer.formatLength+2 := by
    rw [UInt64.toNat_add,hlen]
    change (_+2)%2^64=_
    omega
  rw [hfull,← hlen,UInt64.ofNat_toNat]

/-- FCS and closing flag go after the body, over which the FCS runs. -/
theorem writeFrameEnd_eq (body output : List UInt8) :
    overwrite (overwrite (filled output ([kHdlcFlag] ++ body)) (body.length+1)
        (writeUint16LowByteFirst (calculateHdlcCrc (some (((filled output
          ([kHdlcFlag] ++ body)).drop 1).take body.length)))))
      (body.length+1+2) [kHdlcFlag]=
    filled output ([kHdlcFlag] ++ body ++
      writeUint16LowByteFirst (calculateHdlcCrc (some body)) ++ [kHdlcFlag]) := by
  have hslice : ((filled output ([kHdlcFlag] ++ body)).drop 1).take body.length=body :=
    slice_filled output [kHdlcFlag] body
  rw [hslice]
  have hone : body.length+1=([kHdlcFlag] ++ body).length := by simp
  rw [hone,overwrite_filled]
  have htwo : ([kHdlcFlag] ++ body).length+2=
      ([kHdlcFlag] ++ body ++ writeUint16LowByteFirst (calculateHdlcCrc (some body))).length := by
    simp [writeUint16LowByteFirst]
  rw [htwo,overwrite_filled]

theorem writeFrameTail_eq {frame : HdlcFrame} (h : frame.WellFormed)
    (hfits : frame.toBuffer.formatLength ≤ 2047) (output : List UInt8) :
    writeFrameTail frame (.ofNat frame.toBuffer.formatLength)
        (filled output ([kHdlcFlag] ++ frame.toBuffer.header))
        (frame.toBuffer.header.length+1)=
      (.ok,filled output frame.toBuffer.wire,frame.toBuffer.wire.length) := by
  have hbody := frame.toBuffer.body_length
  have hcover : (UInt64.ofNat frame.toBuffer.formatLength - 2).toNat=frame.toBuffer.body.length := by
    rw [UInt64.toNat_sub,UInt64.toNat_ofNat']
    change (2^64-2+_)%2^64=_
    omega
  have hheader : (headerSize frame.destination frame.source).toNat=frame.toBuffer.header.length := by
    rw [headerSize_toNat,HdlcFrameBuffer.header_length]
    rfl
  have hwire : frame.toBuffer.wire.length=frame.toBuffer.body.length+4 := by
    rw [HdlcFrameBuffer.wire_length]
    omega
  unfold writeFrameTail
  by_cases hz : frame.informationSize=0
  · have hi : frame.toBuffer.information=[] := (HdlcFrame.informationSize_eq_zero_iff h).mp hz
    have hb : frame.toBuffer.body=frame.toBuffer.header := by
      simp [HdlcFrameBuffer.body,HdlcFrameBuffer.payload,hi]
    simp only [hz,ne_eq,not_true_eq_false,↓reduceIte]
    rw [hcover,← hb,writeFrameEnd_eq,hwire]
    rfl
  · have hi : frame.toBuffer.information≠[] := mt (HdlcFrame.informationSize_eq_zero_iff h).mpr hz
    have hp : frame.toBuffer.payload=writeUint16LowByteFirst
        (calculateHdlcCrc (some frame.toBuffer.header)) ++ frame.information := if_neg hi
    have hslice : ((filled output ([kHdlcFlag] ++ frame.toBuffer.header)).drop 1).take
        frame.toBuffer.header.length=frame.toBuffer.header :=
      slice_filled output [kHdlcFlag] frame.toBuffer.header
    have hone : frame.toBuffer.header.length+1=([kHdlcFlag] ++ frame.toBuffer.header).length := by
      simp
    have htwo : ([kHdlcFlag] ++ frame.toBuffer.header).length+2=([kHdlcFlag] ++
        frame.toBuffer.header ++ writeUint16LowByteFirst
          (calculateHdlcCrc (some frame.toBuffer.header))).length := by
      simp [writeUint16LowByteFirst]
    have hfront : [kHdlcFlag] ++ frame.toBuffer.header ++ writeUint16LowByteFirst
        (calculateHdlcCrc (some frame.toBuffer.header)) ++ frame.information=
          [kHdlcFlag] ++ frame.toBuffer.body := by
      simp [HdlcFrameBuffer.body,hp]
    have hoffset : frame.toBuffer.header.length+1+2+frame.informationSize.toNat=
        frame.toBuffer.body.length+1 := by
      rw [← h.size_eq,HdlcFrameBuffer.body,hp]
      simp [writeUint16LowByteFirst]
      omega
    simp only [hz,ne_eq,not_false_eq_true,↓reduceIte]
    rw [hcover,hheader,hslice,hoffset,hone,overwrite_filled,htwo,overwrite_filled,hfront,
      writeFrameEnd_eq,hwire]
    rfl

/-- An address goes behind the filled front whenever the size that is left allows it. -/
theorem encode_filled (address : HdlcAddress) (output front : List UInt8) (outputSize : ℕ)
    (h : address.encodedSize ≤ outputSize-front.length) :
    ∃ written, address.encode (some ((filled output front).drop front.length))
        (outputSize-front.length)=.ok written ∧
      (filled output front).take front.length ++ written=filled output (front ++ address.wire) := by
  refine ⟨_,HdlcAddress.encode_of_le h _,?_⟩
  rw [take_filled,drop_filled,filled]
  simp

/-- The writes fill the front of the buffer with the frame image; the error returns after the
first write are not reached once the size checks have passed. -/
theorem writeFrame_eq {frame : HdlcFrame} (h : frame.WellFormed)
    (hfits : frame.toBuffer.formatLength ≤ 2047) (output : List UInt8) (outputSize : ℕ)
    (hout : frame.toBuffer.formatLength+2 ≤ outputSize) :
    writeFrame frame (.ofNat frame.toBuffer.formatLength) output outputSize=
      (.ok,filled output frame.toBuffer.wire,frame.toBuffer.wire.length) := by
  have hsize : 5+frame.destination.encodedSize+frame.source.encodedSize ≤
      frame.toBuffer.formatLength := by
    change _ ≤ 5+frame.destination.encodedSize+frame.source.encodedSize+_+_
    omega
  let format := writeUint16HighByteFirst
    (frameFormat frame.segmented (.ofNat frame.toBuffer.formatLength))
  have hflag : overwrite output 0 [kHdlcFlag]=filled output [kHdlcFlag] :=
    overwrite_filled output [] [kHdlcFlag]
  have hformat : overwrite (filled output [kHdlcFlag]) 1 format=
      filled output ([kHdlcFlag] ++ format) := overwrite_filled output [kHdlcFlag] format
  obtain ⟨destination,hd,hdest⟩ := encode_filled frame.destination output
    ([kHdlcFlag] ++ format) outputSize (by change _ ≤ _-3; omega)
  have hthree : ([kHdlcFlag] ++ format ++ frame.destination.wire).length=
      3+frame.destination.encodedSize := by
    simp only [format,writeUint16HighByteFirst,List.length_append,List.length_cons,
      List.length_nil,HdlcAddress.wire_length]
  obtain ⟨source,hs,hsource⟩ := encode_filled frame.source output
    ([kHdlcFlag] ++ format ++ frame.destination.wire) outputSize (by rw [hthree]; omega)
  have hfour : ([kHdlcFlag] ++ format ++ frame.destination.wire ++ frame.source.wire).length=
      3+frame.destination.encodedSize+frame.source.encodedSize := by
    rw [List.length_append,hthree,HdlcAddress.wire_length]
  have hcontrol : overwrite (filled output ([kHdlcFlag] ++ format ++ frame.destination.wire ++
      frame.source.wire)) (3+frame.destination.encodedSize+frame.source.encodedSize)
        [frame.control.encode]=filled output ([kHdlcFlag] ++ frame.toBuffer.header) := by
    rw [← hfour,overwrite_filled]
    simp [HdlcFrameBuffer.header,format,HdlcFrame.toBuffer]
  rw [hthree] at hs hsource
  change frame.destination.encode (some ((filled output ([kHdlcFlag] ++ format)).drop 3))
    (outputSize-3)=_ at hd
  change (filled output ([kHdlcFlag] ++ format)).take 3 ++ destination=_ at hdest
  have htail := writeFrameTail_eq h hfits output
  rw [HdlcFrameBuffer.header_length] at htail
  unfold writeFrame
  simp only [hflag]
  rw [hformat]
  simp only [hd,hdest,hs,hsource,hcontrol]
  exact htail

/-- The strict encoder either fails before its first write or stores the whole image. -/
theorem encodeFrameToBuffer_eq {frame : HdlcFrame} (h : frame.WellFormed)
    (limits : HdlcCodecLimits) (buffer : List UInt8) (outputSize : ℕ) :
    encodeFrameToBuffer frame limits (some buffer) outputSize=
      match checkFrameSize frame limits outputSize with
      | .error status => (status,some buffer,0)
      | .ok _ => (.ok,some (filled buffer frame.toBuffer.wire),frame.toBuffer.wire.length) := by
  have hnull : ¬ (frame.informationData=none ∧ frame.informationSize≠0) := by
    rintro ⟨hd,hn⟩
    apply hn
    rw [HdlcFrame.informationSize_eq_zero_iff h,HdlcFrame.information,hd,Pointer.read_none]
  simp only [encodeFrameToBuffer,hnull,↓reduceIte]
  cases hc : checkFrameSize frame limits outputSize with
  | error status => rfl
  | ok formatFieldLength =>
    rw [checkFrameSize_eq h] at hc
    repeat' split at hc
    all_goals cases hc
    have hw := writeFrame_eq h (by omega) buffer outputSize (by omega)
    simp only [hw]

/-- The whole outcome of `EncodeFrame`, by the order in which the limits are checked. -/
theorem encodeFrame_eq {frame : HdlcFrame} (h : frame.WellFormed) (limits : HdlcCodecLimits) :
    encodeFrame frame limits=
      if (effectiveMaximumInformationFieldSize frame.destination frame.source limits).toNat <
          frame.information.length then .error .informationFieldTooLarge
      else if 2047 < frame.toBuffer.formatLength then .error .invalidFrameLength
      else if (effectiveMaximumFrameSize limits).toNat < frame.toBuffer.formatLength+2 then
        .error .frameTooLarge
      else .ok frame.toBuffer.wire := by
  have hpos : (effectiveMaximumFrameSize limits).toNat≠0 := by
    rw [ne_eq,← UInt64.toNat_zero,UInt64.toNat_inj]
    exact effectiveMaximumFrameSize_ne_zero limits
  simp only [encodeFrame,hpos,↓reduceIte,encodeFrameToBuffer_eq h,checkFrameSize_eq h]
  by_cases hi : (effectiveMaximumInformationFieldSize frame.destination frame.source limits).toNat <
    frame.information.length
  · simp [hi]
  by_cases hf : 2047 < frame.toBuffer.formatLength
  · simp [hi,hf]
  by_cases hs : (effectiveMaximumFrameSize limits).toNat < frame.toBuffer.formatLength+2
  · simp [hi,hf,hs]
  · simp [hi,hf,hs,filled]

/-- `EncodeFrame` succeeds exactly on the frames within the limits, with the frame image. -/
theorem encodeFrame_eq_ok_iff {frame : HdlcFrame} (h : frame.WellFormed)
    (limits : HdlcCodecLimits) (bytes : List UInt8) :
    encodeFrame frame limits=.ok bytes ↔
      frame.toBuffer.Fits limits ∧ bytes=frame.toBuffer.wire := by
  rw [encodeFrame_eq h]
  split
  · rename_i hi
    exact ⟨fun hb => (by cases hb),fun hb => absurd hb.1.information_le (Nat.not_le.mpr hi)⟩
  split
  · rename_i hf
    exact ⟨fun hb => (by cases hb),fun hb => absurd hb.1.format_le (Nat.not_le.mpr hf)⟩
  split
  · rename_i hs
    exact ⟨fun hb => (by cases hb),fun hb => absurd hb.1.frame_le (Nat.not_le.mpr hs)⟩
  · rename_i hi hf hs
    rw [Except.ok.injEq,eq_comm]
    exact ⟨fun hb => ⟨⟨Nat.not_lt.mp hi,Nat.not_lt.mp hf,Nat.not_lt.mp hs⟩,hb⟩,fun hb => hb.2⟩

end DlmsHdlc
