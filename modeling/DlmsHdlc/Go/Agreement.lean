import DlmsHdlc.Codec.Canonical
import DlmsHdlc.Go.Codec

/-! The C++ codec and the Go codec are one function, up to the two sets of types. -/
namespace DlmsHdlc.Go
open Buffer

def ofLimits (limits : HdlcCodecLimits) : CodecLimits where
  maximumFrameSize := limits.maximumFrameSize
  maximumInformationFieldSize := limits.maximumInformationFieldSize
  maximumReassembledInformationSize := limits.maximumReassembledInformationSize

def ofAddress (address : HdlcAddress) : Address where
  rawValue := address.rawValue
  encodedSize := .ofNat address.encodedSize

def ofControl (control : HdlcControl) : Control := ⟨control.encode⟩

/-- The same frame as a Go value. -/
def ofFrame (frame : HdlcFrameBuffer) : Frame where
  segmented := frame.segmented
  destination := ofAddress frame.destination
  source := ofAddress frame.source
  control := ofControl frame.control
  information := frame.information

@[simp] theorem effectiveMaximumFrameSize_eq (limits : HdlcCodecLimits) :
    effectiveMaximumFrameSize (ofLimits limits)=DlmsHdlc.effectiveMaximumFrameSize limits := rfl

@[simp] theorem calculateHdlcCRC_eq (data : List UInt8) :
    calculateHdlcCRC data=calculateHdlcCrc (some data) := rfl

theorem bigEndianUint16_eq (b : List UInt8) : bigEndianUint16 b=readUint16HighByteFirst b :=
  UInt16.or_comm _ _

theorem littleEndianUint16_eq (b : List UInt8) : littleEndianUint16 b=readUint16LowByteFirst b := rfl

theorem toUInt8_eq (v : UInt16) :
    v.toUInt8=(v &&& 0xff).toUInt8 ∧ (v >>> 8).toUInt8=((v >>> 8) &&& 0xff).toUInt8 := by
  have hand : ∀ w : UInt16, w.toUInt8=(w &&& 0xff).toUInt8 := by
    intro w
    rw [← UInt8.toNat_inj,UInt16.toNat_toUInt8,UInt16.toNat_toUInt8,UInt16.toNat_and]
    change w.toNat%256=(w.toNat &&& 2^8-1)%256
    rw [Nat.and_two_pow_sub_one_eq_mod]
    omega
  exact ⟨hand v,hand (v >>> 8)⟩

theorem bigEndianPutUint16_eq (v : UInt16) : bigEndianPutUint16 v=writeUint16HighByteFirst v := by
  rw [bigEndianPutUint16,writeUint16HighByteFirst,(toUInt8_eq v).1,(toUInt8_eq v).2]

theorem littleEndianPutUint16_eq (v : UInt16) :
    littleEndianPutUint16 v=writeUint16LowByteFirst v := by
  rw [littleEndianPutUint16,writeUint16LowByteFirst,(toUInt8_eq v).1,(toUInt8_eq v).2]

@[simp] theorem ofAddress_encodedSize (address : HdlcAddress) :
    (ofAddress address).encodedSize.toNat=address.encodedSize := by
  have h := address.encodedSize_cases
  change (UInt64.ofNat address.encodedSize).toNat=_
  rw [UInt64.toNat_ofNat']
  omega

theorem encode_ofAddress (address : HdlcAddress) : (ofAddress address).encode=address.wire := by
  have hsize := address.encodedSize_cases
  rw [Address.encode,HdlcAddress.wire,ofAddress_encodedSize]
  apply List.map_congr_left
  intro i hi
  rw [List.mem_range] at hi
  have hshift : (UInt32.ofNat ((address.encodedSize-i-1)*7)).toNat%32=
      (address.encodedSize-i-1)*7 := by
    rw [UInt32.toNat_ofNat']
    omega
  have hval : UInt8.ofNat ((address.rawValue.toNat >>> ((address.encodedSize-i-1)*7)) &&& 0x7f)=
      ((address.rawValue >>> UInt32.ofNat ((address.encodedSize-i-1)*7)) &&& 0x7f).toUInt8 := by
    rw [← UInt8.toNat_inj,UInt8.toNat_ofNat',UInt32.toNat_toUInt8,UInt32.toNat_and,
      UInt32.toNat_shiftRight,hshift]
    rfl
  simp only [HdlcAddress.groupByte,ofAddress,hval]

/-- The two limits are derived with `≤` here and with `<` there, and agree where these differ. -/
theorem effectiveMaximumInformationFieldSize_eq (destination source : HdlcAddress)
    (limits : HdlcCodecLimits) :
    effectiveMaximumInformationFieldSize (ofAddress destination).encodedSize
        (ofAddress source).encodedSize (ofLimits limits)=
      DlmsHdlc.effectiveMaximumInformationFieldSize destination source limits := by
  have hheader : 2+(ofAddress destination).encodedSize+(ofAddress source).encodedSize+1=
      headerSize destination source := rfl
  have hlimit : (ofLimits limits).maximumInformationFieldSize=limits.maximumInformationFieldSize :=
    rfl
  unfold effectiveMaximumInformationFieldSize DlmsHdlc.effectiveMaximumInformationFieldSize
  simp only [hlimit,hheader,effectiveMaximumFrameSize_eq]
  split
  · rfl
  generalize DlmsHdlc.effectiveMaximumFrameSize limits=maxFrame
  generalize headerSize destination source=header
  have hsub : maxFrame-2-header-2-2=maxFrame-(2+header+2+2) := by
    simp only [UInt64.sub_eq_add_neg,UInt64.neg_add]
    ac_rfl
  rw [hsub]
  generalize 2+header+2+2=overhead
  by_cases hlt : maxFrame < overhead
  · rw [if_pos (UInt64.le_of_lt hlt),if_pos hlt]
  by_cases heq : maxFrame=overhead
  · simp [heq]
  · rw [if_neg hlt,if_neg]
    rw [UInt64.le_iff_toNat_le]
    rw [UInt64.lt_iff_toNat_lt] at hlt
    rw [← UInt64.toNat_inj] at heq
    omega

/-! The encoder. -/

theorem toInt_of_small {n : Int64} (h : n.toUInt64.toNat < 2^63) : n.toInt=n.toUInt64.toNat :=
  BitVec.toInt_eq_toNat_of_lt (by rw [Int64.toNat_toBitVec]; omega)

/-- Information below 2^63 bytes keeps the `int` sum exact as an unsigned number. -/
theorem formatFieldLength_toNat (frame : HdlcFrameBuffer) (h : frame.information.length < 2^63) :
    ((2 + Int64.ofNat frame.destination.encodedSize + .ofNat frame.source.encodedSize + 1) +
      (if 0 < frame.information.length then 2 else 0) + .ofNat frame.information.length +
        2).toUInt64.toNat=frame.formatLength := by
  have hd := frame.destination.encodedSize_cases
  have hs := frame.source.encodedSize_cases
  have hpad : (if 0 < frame.information.length then (2 : Int64) else 0).toUInt64.toNat=
      if frame.information=[] then 0 else 2 := by
    by_cases hi : frame.information=[]
    · rw [hi]
      rfl
    · rw [if_pos (List.length_pos_of_ne_nil hi),if_neg hi]
      rfl
  have hle : (if frame.information=[] then 0 else 2) ≤ 2 := by split <;> decide
  rw [HdlcFrameBuffer.formatLength]
  simp only [Int64.toUInt64_add,Int64.toUInt64_ofNat',UInt64.toNat_add,hpad,UInt64.toNat_ofNat']
  change ((((((2+_%2^64)%2^64+_%2^64)%2^64+1)%2^64+_)%2^64+_%2^64)%2^64+2)%2^64=_
  omega

/-- A write right behind what has been written. -/
theorem overwrite_behind (output front values : List UInt8) {offset : ℕ}
    (h : offset=front.length) :
    overwrite (filled output front) offset values=filled output (front ++ values) := by
  subst h
  exact overwrite_filled output front values

theorem writeFrameTail_eq (frame : HdlcFrameBuffer) (output : List UInt8) :
    writeFrameTail (ofFrame frame) (filled output ([hdlcFlag] ++ frame.header))
        (frame.header.length+1)=(filled output frame.wire,frame.wire.length) := by
  have hslice : ∀ body : List UInt8,
      ((filled output ([hdlcFlag] ++ body)).take (body.length+1)).drop 1=body := by
    intro body
    have hfront := take_filled output ([hdlcFlag] ++ body)
    rw [List.length_append,List.length_singleton,Nat.add_comm] at hfront
    rw [hfront]
    rfl
  have hbody := frame.body_length
  have hwire := frame.wire_length
  have hend : ∀ offset, offset=frame.body.length+1 →
      overwrite (overwrite (filled output ([hdlcFlag] ++ frame.body)) offset
        (littleEndianPutUint16 (calculateHdlcCRC (((filled output
          ([hdlcFlag] ++ frame.body)).take offset).drop 1)))) (offset+2) [hdlcFlag]=
        filled output frame.wire := by
    rintro _ rfl
    rw [hslice,overwrite_behind _ _ _ (by simp),overwrite_behind _ _ _
      (by simp [littleEndianPutUint16]),littleEndianPutUint16_eq,calculateHdlcCRC_eq]
    rfl
  have hinfo : (ofFrame frame).information=frame.information := rfl
  unfold writeFrameTail
  by_cases hi : frame.information=[]
  · have hbare : frame.body=frame.header := by
      simp [HdlcFrameBuffer.body,HdlcFrameBuffer.payload,hi]
    have hempty : ¬ 0 < frame.information.length := by simp [hi]
    simp only [hinfo,hempty,↓reduceIte]
    rw [← hbare,hend _ rfl,Prod.mk.injEq]
    exact ⟨rfl,by omega⟩
  · have hpayload : frame.payload=writeUint16LowByteFirst (calculateHdlcCrc (some frame.header)) ++
        frame.information := if_neg hi
    have hfull : 0 < frame.information.length := List.length_pos_of_ne_nil hi
    have hlength : frame.header.length+1+2+frame.information.length=frame.body.length+1 := by
      rw [HdlcFrameBuffer.body,hpayload]
      simp [writeUint16LowByteFirst]
      omega
    have hfront : [hdlcFlag] ++ frame.header ++ writeUint16LowByteFirst
        (calculateHdlcCrc (some frame.header)) ++ frame.information=[hdlcFlag] ++ frame.body := by
      simp [HdlcFrameBuffer.body,hpayload]
    simp only [hinfo,hfull,↓reduceIte,hslice]
    rw [overwrite_behind _ _ _ (by simp),overwrite_behind _ _ _
      (by simp [littleEndianPutUint16]),littleEndianPutUint16_eq,calculateHdlcCRC_eq,hfront,
      hlength,hend _ rfl,Prod.mk.injEq]
    exact ⟨rfl,by omega⟩

theorem writeFrame_eq (frame : HdlcFrameBuffer) {formatFieldLength : Int64}
    (h : formatFieldLength.toUInt64=.ofNat frame.formatLength) (output : List UInt8) :
    writeFrame (ofFrame frame) formatFieldLength output=
      (filled output frame.wire,frame.wire.length) := by
  have hflag : overwrite output 0 [hdlcFlag]=filled output [hdlcFlag] :=
    overwrite_filled output [] [hdlcFlag]
  have hformat : bigEndianPutUint16 (frameFormatType3 |||
      (if frame.segmented then segmentationBit else 0) ||| formatFieldLength.toUInt64.toUInt16)=
        writeUint16HighByteFirst (frameFormat frame.segmented (.ofNat frame.formatLength)) := by
    rw [bigEndianPutUint16_eq,h]
    rfl
  have htail := writeFrameTail_eq frame output
  have hheader : [hdlcFlag] ++ writeUint16HighByteFirst
      (frameFormat frame.segmented (.ofNat frame.formatLength)) ++ frame.destination.wire ++
        frame.source.wire ++ [frame.control.encode]=[hdlcFlag] ++ frame.header := by
    simp [HdlcFrameBuffer.header]
  have hdestination : (ofFrame frame).destination.encode=frame.destination.wire :=
    encode_ofAddress frame.destination
  have hsource : (ofFrame frame).source.encode=frame.source.wire := encode_ofAddress frame.source
  have hcontrol : (ofFrame frame).control.encode=frame.control.encode := rfl
  have hsegmented : (ofFrame frame).segmented=frame.segmented := rfl
  unfold writeFrame
  simp only [hdestination,hsource,hcontrol,hsegmented,hformat,hflag]
  rw [overwrite_behind _ _ _ (by rfl),overwrite_behind _ _ _ (by rfl),
    overwrite_behind _ _ _ (by simp [writeUint16HighByteFirst]; omega),
    overwrite_behind _ _ _ (by simp [writeUint16HighByteFirst]; omega),hheader]
  rw [frame.header_length] at htail
  simpa only [HdlcAddress.wire_length] using htail

/-- The whole outcome, in the order of the checks. -/
theorem encodeFrameToBuffer_ofFrame (frame : HdlcFrameBuffer) (h : frame.information.length < 2^63)
    (limits : HdlcCodecLimits) (output : List UInt8) :
    encodeFrameToBuffer (ofFrame frame) (ofLimits limits) output=
      if (DlmsHdlc.effectiveMaximumInformationFieldSize frame.destination frame.source
          limits).toNat < frame.information.length then .error .informationFieldTooLarge
      else if 2047 < frame.formatLength then .error .invalidFrameLength
      else if (DlmsHdlc.effectiveMaximumFrameSize limits).toNat < frame.formatLength+2 then
        .error .frameTooLarge
      else if output.length < frame.formatLength+2 then .error .outputBufferTooSmall
      else .ok (filled output frame.wire,frame.wire.length) := by
  have hlength := formatFieldLength_toNat frame h
  have hinformation : (UInt64.ofNat frame.information.length).toNat=frame.information.length := by
    rw [UInt64.toNat_ofNat']
    omega
  have hmax : maxFormatFieldLength.toNat=2047 := rfl
  have hinfo : (ofFrame frame).information=frame.information := rfl
  have hdestination : (ofFrame frame).destination=ofAddress frame.destination := rfl
  have hsource : (ofFrame frame).source=ofAddress frame.source := rfl
  unfold encodeFrameToBuffer
  simp only [hinfo,hdestination,hsource,effectiveMaximumInformationFieldSize_eq,
    effectiveMaximumFrameSize_eq,encode_ofAddress,HdlcAddress.wire_length,
    UInt64.lt_iff_toNat_lt,hinformation,hmax]
  generalize (2 + Int64.ofNat frame.destination.encodedSize +
    .ofNat frame.source.encodedSize + 1) + (if 0 < frame.information.length then 2 else 0) +
      .ofNat frame.information.length + 2=formatFieldLength at hlength ⊢
  simp only [hlength]
  by_cases hlarge : (DlmsHdlc.effectiveMaximumInformationFieldSize frame.destination frame.source
      limits).toNat < frame.information.length
  · simp only [hlarge,↓reduceIte]
  by_cases hlong : 2047 < frame.formatLength
  · simp only [hlarge,hlong,↓reduceIte]
  have hfull : (formatFieldLength+2).toUInt64.toNat=frame.formatLength+2 := by
    rw [Int64.toUInt64_add,UInt64.toNat_add,hlength]
    change (_+2)%2^64=_
    omega
  by_cases hframe : (DlmsHdlc.effectiveMaximumFrameSize limits).toNat < frame.formatLength+2
  · simp only [hlarge,hlong,hfull,hframe,↓reduceIte]
  have hint : (formatFieldLength+2).toInt=((frame.formatLength+2 : ℕ) : ℤ) := by
    rw [toInt_of_small (by omega),hfull]
  have hwritten := writeFrame_eq frame
    (by rw [← UInt64.toNat_inj,hlength,UInt64.toNat_ofNat']; omega) output
  simp only [hlarge,hlong,hfull,hframe,hint,hwritten,Int.ofNat_lt,↓reduceIte]

/-- The buffer that `EncodeFrame` allocates is as large as the largest frame, and never too small. -/
theorem encodeFrame_ofFrame (frame : HdlcFrameBuffer) (h : frame.information.length < 2^63)
    (limits : HdlcCodecLimits) :
    encodeFrame (ofFrame frame) (ofLimits limits)=
      if (DlmsHdlc.effectiveMaximumInformationFieldSize frame.destination frame.source
          limits).toNat < frame.information.length then .error .informationFieldTooLarge
      else if 2047 < frame.formatLength then .error .invalidFrameLength
      else if (DlmsHdlc.effectiveMaximumFrameSize limits).toNat < frame.formatLength+2 then
        .error .frameTooLarge
      else .ok frame.wire := by
  rw [encodeFrame,effectiveMaximumFrameSize_eq,encodeFrameToBuffer_ofFrame frame h,
    List.length_replicate]
  by_cases hlarge : (DlmsHdlc.effectiveMaximumInformationFieldSize frame.destination frame.source
      limits).toNat < frame.information.length
  · simp only [hlarge,↓reduceIte]
  by_cases hlong : 2047 < frame.formatLength
  · simp only [hlarge,hlong,↓reduceIte]
  by_cases hframe : (DlmsHdlc.effectiveMaximumFrameSize limits).toNat < frame.formatLength+2
  · simp only [hlarge,hlong,hframe,↓reduceIte]
  · simp [hlarge,hlong,hframe,filled]

/-! The decoder. -/

theorem isSupportedEncodedSize_eq {consumed : ℕ} (h : consumed ≤ 4) :
    isSupportedEncodedSize (.ofNat consumed)=DlmsHdlc.isSupportedEncodedSize consumed := by
  interval_cases consumed <;> rfl

/-- One counts the bytes that are there, the other one those that are consumed. -/
theorem addressFromBytesLoop_eq (rawValue : UInt32) {index : ℕ} (h : index ≤ 4)
    (bytes : List UInt8) :
    addressFromBytesLoop (index+bytes.length) rawValue index bytes=
      (HdlcAddress.fromBytesLoop rawValue index bytes).map
        (fun read => (⟨read.1,.ofNat read.2⟩,read.2)) := by
  induction bytes generalizing rawValue index with
  | nil => rfl
  | cons byte bytes ih =>
    rw [addressFromBytesLoop,HdlcAddress.fromBytesLoop]
    by_cases hindex : index < 4
    · rw [if_pos hindex,if_pos hindex]
      by_cases hlast : byte &&& 0x01 ≠ 0
      · rw [if_pos hlast,if_pos hlast]
        rw [isSupportedEncodedSize_eq (by omega : index+1 ≤ 4)]
        cases DlmsHdlc.isSupportedEncodedSize (index+1) <;> rfl
      · have hrest := ih (HdlcAddress.appendGroup rawValue byte) (by omega : index+1 ≤ 4)
        rw [if_neg hlast,if_neg hlast,← hrest,List.length_cons,
          show index+(bytes.length+1)=index+1+bytes.length by omega]
        rfl
    · rw [if_neg hindex,if_neg hindex,if_neg (by rw [List.length_cons]; omega)]
      rfl

theorem addressFromBytes_eq (data : List UInt8) :
    addressFromBytes data=
      (HdlcAddress.fromBytes (some data)).map (fun read => (ofAddress read.1,read.2)) := by
  have hloop := addressFromBytesLoop_eq 0 (Nat.zero_le 4) data
  rw [Nat.zero_add] at hloop
  rw [addressFromBytes,hloop]
  simp only [HdlcAddress.fromBytes]
  split
  · rename_i heq
    simp only [heq,Except.map]
  · rename_i heq
    simp only [heq,Except.map,ofAddress]

theorem controlFromByte_eq (value : UInt8) :
    controlFromByte value=(HdlcControl.decode value).map ofControl := by
  have hsupported : isSupportedControl value=(value &&& 0x01 == 0 || value &&& 0x03 == 0x01 ||
    isSupportedUnnumbered value) := rfl
  unfold controlFromByte HdlcControl.decode
  by_cases hi : value &&& 0x01=0
  · rw [if_pos hi,dif_pos (by simp [hsupported,hi])]
    rfl
  by_cases hs : value &&& 0x03=0x01
  · rw [if_neg hi,if_pos hs,dif_pos (by simp [hsupported,hs])]
    rfl
  by_cases hu : isSupportedUnnumbered value=true
  · rw [if_neg hi,if_neg hs,if_pos hu,dif_pos (by simp [hsupported,hu])]
    rfl
  · rw [if_neg hi,if_neg hs,if_neg hu,dif_neg (by simp [hsupported,hi,hs,hu])]
    rfl

theorem checkFormat_eq (input : List UInt8) (limits : HdlcCodecLimits) :
    checkFormat input (ofLimits limits)=DlmsHdlc.checkFormat input input.length limits := by
  simp only [checkFormat,DlmsHdlc.checkFormat,bigEndianUint16_eq,effectiveMaximumFrameSize_eq]
  rfl

theorem decodeHeader_eq (input : List UInt8) (fullFrameSize : ℕ) :
    decodeHeader input fullFrameSize=
      (DlmsHdlc.decodeHeader input fullFrameSize).map
        (fun read => (ofAddress read.1,ofAddress read.2.1,ofControl read.2.2.1,read.2.2.2-1)) := by
  simp only [decodeHeader,DlmsHdlc.decodeHeader,addressFromBytes_eq,controlFromByte_eq,
    List.drop_take]
  cases HdlcAddress.fromBytes (some ((input.drop 3).take (fullFrameSize-1-3))) with
  | error status => rfl
  | ok destination =>
    obtain ⟨destination,consumed⟩ := destination
    simp only [Except.map]
    cases HdlcAddress.fromBytes
      (some ((input.drop (3+consumed)).take (fullFrameSize-1-(3+consumed)))) with
    | error status => rfl
    | ok source =>
      obtain ⟨source,more⟩ := source
      simp only
      split
      · rfl
      · cases HdlcControl.decode (input.getD (3+consumed+more) 0) <;> rfl

theorem checkSequences_eq (input : List UInt8) (formatFieldLength headerSize : ℕ) :
    checkSequences input (formatFieldLength+2) headerSize=
      DlmsHdlc.checkSequences input formatFieldLength (headerSize+1) := by
  simp only [checkSequences,DlmsHdlc.checkSequences,calculateHdlcCRC_eq,littleEndianUint16_eq,
    List.drop_take,Nat.add_sub_cancel_left,Nat.add_sub_cancel,
    show formatFieldLength+2-3-1=formatFieldLength-2 by omega]

/-- The buffer of the C++ convenience decoder has room for the Information of every frame that
passes its checks. -/
theorem information_length_le {input information : List UInt8} {limits : HdlcCodecLimits}
    {format : UInt16} {destination source : HdlcAddress} {control : HdlcControl} {offset : ℕ}
    (hformat : DlmsHdlc.checkFormat input input.length limits=.ok format)
    (hheader : DlmsHdlc.decodeHeader input ((format &&& 0x07ff).toNat+2)=
      .ok (destination,source,control,offset))
    (hsequences : DlmsHdlc.checkSequences input (format &&& 0x07ff).toNat offset=.ok information) :
    information.length ≤ (DlmsHdlc.effectiveMaximumFrameSize limits).toNat := by
  obtain ⟨hlength,_,_,hframe,_⟩ := checkFormat_eq_ok hformat
  obtain ⟨_,hless,_⟩ := decodeHeader_eq_ok hlength.ge hheader
  obtain ⟨_,⟨_,rfl⟩ | hmiddle⟩ := checkSequences_eq_ok hlength (by omega) hsequences
  · exact Nat.zero_le _
  · have hle := congrArg List.length hmiddle
    rw [List.length_append,List.length_take] at hle
    omega

/-- Every check, its place and its status are the same. -/
theorem decodeFrame_eq (input : List UInt8) (limits : HdlcCodecLimits) :
    decodeFrame input (ofLimits limits)=
      (DlmsHdlc.decodeFrame (some input) input.length limits).map ofFrame := by
  rw [decodeFrame_eq_parseFrame,List.take_length,parseFrame,decodeFrame,decodeFrameFromBuffer,
    checkFormat_eq]
  cases hformat : DlmsHdlc.checkFormat input input.length limits with
  | error status => rfl
  | ok format =>
    dsimp only
    rw [decodeHeader_eq]
    cases hheader : DlmsHdlc.decodeHeader input ((format &&& 0x07ff).toNat+2) with
    | error status => rfl
    | ok header =>
      obtain ⟨destination,source,control,offset⟩ := header
      have hoffset : offset-1+1=offset := by
        obtain ⟨hlength,_⟩ := checkFormat_eq_ok hformat
        have := (decodeHeader_eq_ok hlength.ge hheader).1
        omega
      dsimp only [Except.map]
      rw [checkSequences_eq,hoffset]
      cases hsequences : DlmsHdlc.checkSequences input (format &&& 0x07ff).toNat offset with
      | error status => rfl
      | ok information =>
        have hroom := information_length_le hformat hheader hsequences
        dsimp only
        rw [effectiveMaximumInformationFieldSize_eq,if_neg (Nat.not_lt.mpr hroom)]
        by_cases hlarge : (DlmsHdlc.effectiveMaximumInformationFieldSize destination source
            limits).toNat < information.length
        · simp only [hlarge,↓reduceIte]
        · simp only [hlarge,Option.any_none,Bool.false_eq_true,and_false,↓reduceIte]
          rfl

/-- The two codecs give the same bytes and the same frames, or the same error, on every input. -/
theorem codecs_agree (limits : HdlcCodecLimits) :
    (∀ frame : HdlcFrame, frame.WellFormed →
      encodeFrame (ofFrame frame.toBuffer) (ofLimits limits)=DlmsHdlc.encodeFrame frame limits) ∧
    ∀ input : List UInt8, decodeFrame input (ofLimits limits)=
      (DlmsHdlc.decodeFrame (some input) input.length limits).map ofFrame := by
  refine ⟨fun frame hframe => ?_,fun input => decodeFrame_eq input limits⟩
  have hlength : frame.toBuffer.information.length < 2^63 := by
    change frame.information.length < 2^63
    rw [hframe.size_eq]
    exact hframe.size_lt
  rw [encodeFrame_ofFrame _ hlength,encodeFrame_eq hframe]
  rfl

/-- The sample frame under a limit that it exceeds, and its image cut short. -/
theorem codecs_agree_sample :
    encodeFrame (ofFrame sampleFrame.toBuffer) (ofLimits ⟨13,3,0⟩)=
        DlmsHdlc.encodeFrame sampleFrame ⟨13,3,0⟩ ∧
      decodeFrame (sampleFrame.toBuffer.wire.take 9) (ofLimits defaultHdlcCodecLimits)=
        (DlmsHdlc.decodeFrame (some (sampleFrame.toBuffer.wire.take 9))
          (sampleFrame.toBuffer.wire.take 9).length defaultHdlcCodecLimits).map ofFrame :=
  ⟨(codecs_agree ⟨13,3,0⟩).1 sampleFrame sampleFrame_wellFormed,
    (codecs_agree defaultHdlcCodecLimits).2 (sampleFrame.toBuffer.wire.take 9)⟩

end DlmsHdlc.Go
