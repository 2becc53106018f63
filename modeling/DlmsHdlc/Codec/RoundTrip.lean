import DlmsHdlc.Codec.Decode

/-! The decoder on the image of a frame: it gives the frame back whenever the limits allow it,
and otherwise the status of the limit that does not. -/
namespace DlmsHdlc

lemma uint16_bytes_toNat (value : UInt16) :
    ((value >>> 8) &&& 0xff).toUInt8.toNat=value.toNat/256 ∧
    (value &&& 0xff).toUInt8.toNat=value.toNat%256 := by
  have hv := value.toNat_lt
  have hand : ∀ n : ℕ, n &&& 255=n%256 := fun n => Nat.and_two_pow_sub_one_eq_mod n 8
  constructor
  · rw [UInt16.toNat_toUInt8,UInt16.toNat_and,UInt16.toNat_shiftRight]
    change (value.toNat >>> 8 &&& 255)%256=_
    rw [hand,Nat.shiftRight_eq_div_pow]
    omega
  · rw [UInt16.toNat_toUInt8,UInt16.toNat_and]
    change (value.toNat &&& 255)%256=_
    rw [hand]
    omega

lemma uint16_join (high low : UInt8) (value : UInt16) (hh : high.toNat=value.toNat/256)
    (hl : low.toNat=value.toNat%256) : (high.toUInt16 <<< 8) ||| low.toUInt16=value := by
  have hv := value.toNat_lt
  rw [← UInt16.toNat_inj,UInt16.toNat_or,UInt16.toNat_shiftLeft,UInt8.toNat_toUInt16,
    UInt8.toNat_toUInt16,hh,hl]
  change (value.toNat/256) <<< 8 % 2^16 ||| _=_
  rw [Nat.mod_eq_of_lt (by rw [Nat.shiftLeft_eq]; omega),
    ← Nat.shiftLeft_add_eq_or_of_lt (by omega),Nat.shiftLeft_eq]
  omega

@[simp] theorem readUint16HighByteFirst_write (value : UInt16) (tail : List UInt8) :
    readUint16HighByteFirst (writeUint16HighByteFirst value ++ tail)=value :=
  uint16_join _ _ value (uint16_bytes_toNat value).1 (uint16_bytes_toNat value).2

@[simp] theorem readUint16LowByteFirst_write (value : UInt16) (tail : List UInt8) :
    readUint16LowByteFirst (writeUint16LowByteFirst value ++ tail)=value := by
  change _ ||| _=_
  rw [UInt16.or_comm]
  exact uint16_join _ _ value (uint16_bytes_toNat value).1 (uint16_bytes_toNat value).2

/-- The length occupies the eleven low bits, below the segmentation bit and the type. -/
theorem frameFormat_toNat (segmented : Bool) {n : ℕ} (h : n < 2048) :
    (frameFormat segmented (.ofNat n)).toNat=(if segmented then 21 else 20)*2048+n := by
  have hn : (UInt64.ofNat n).toUInt16.toNat=n := by
    rw [UInt64.toNat_toUInt16,UInt64.toNat_ofNat']
    omega
  have hor : ∀ k : ℕ, k*2048 ||| n=k*2048+n := by
    intro k
    rw [show k*2048=k <<< 11 from (Nat.shiftLeft_eq k 11).symm]
    exact (Nat.shiftLeft_add_eq_or_of_lt h k).symm
  rw [frameFormat,UInt16.toNat_or,hn]
  cases segmented
  · exact hor 20
  · exact hor 21

/-- The length field of a format is its low eleven bits. -/
theorem format_length (format : UInt16) : (format &&& 0x07ff).toNat=format.toNat%2048 := by
  rw [UInt16.toNat_and]
  exact Nat.and_two_pow_sub_one_eq_mod format.toNat 11

theorem frameFormat_length (segmented : Bool) {n : ℕ} (h : n < 2048) :
    (frameFormat segmented (.ofNat n) &&& 0x07ff).toNat=n := by
  rw [format_length,frameFormat_toNat segmented h]
  omega

/-- A mask with zeros in its low bits sees the quotient only. -/
lemma and_mul_two_pow (n k m : ℕ) : n &&& m*2^k=(n/2^k &&& m)*2^k := by
  have hp : 0 < 2^k := Nat.two_pow_pos k
  have hd : (n &&& m*2^k)/2^k=(n/2^k &&& m) := by
    rw [Nat.and_div_two_pow,Nat.mul_div_cancel _ hp]
  have hm : (n &&& m*2^k)%2^k=0 := by
    rw [Nat.and_mod_two_pow,Nat.mul_mod_left,Nat.and_zero]
  rw [← hd,Nat.div_mul_cancel (Nat.dvd_of_mod_eq_zero hm)]

theorem frameFormat_type (segmented : Bool) {n : ℕ} (h : n < 2048) :
    frameFormat segmented (.ofNat n) &&& 0xf000=kFrameFormatType3 := by
  rw [← UInt16.toNat_inj,UInt16.toNat_and,frameFormat_toNat segmented h]
  change _ &&& 15*2^12=_
  rw [and_mul_two_pow,show ((if segmented then 21 else 20)*2048+n)/2^12=10 by split <;> omega]
  rfl

theorem frameFormat_segmented (segmented : Bool) {n : ℕ} (h : n < 2048) :
    (frameFormat segmented (.ofNat n) &&& kSegmentationBit != 0)=segmented := by
  have hbit : (frameFormat segmented (.ofNat n) &&& kSegmentationBit).toNat=
      if segmented then 2048 else 0 := by
    rw [UInt16.toNat_and,frameFormat_toNat segmented h]
    change _ &&& 1*2^11=_
    rw [and_mul_two_pow,show ((if segmented then 21 else 20)*2048+n)/2^11=
      if segmented then 21 else 20 by split <;> omega]
    cases segmented <;> rfl
  rw [Bool.eq_iff_iff,bne_iff_ne,ne_eq,← UInt16.toNat_inj,hbit]
  cases segmented <;> decide

namespace HdlcFrameBuffer
variable (frame : HdlcFrameBuffer)

/-- The frame check sequence and the closing flag. -/
def trailer : List UInt8 :=
  writeUint16LowByteFirst (calculateHdlcCrc (some frame.body)) ++ [kHdlcFlag]

theorem wire_eq : frame.wire=kHdlcFlag::(frame.body ++ frame.trailer) := by
  simp [wire,trailer]

@[simp] theorem trailer_length : frame.trailer.length=3 := rfl

theorem wire_head : frame.wire.getD 0 0=kHdlcFlag := by simp [wire_eq]

theorem wire_last : frame.wire.getD (frame.formatLength+1) 0=kHdlcFlag := by
  have hb := frame.body_length
  rw [wire_eq,← hb,List.getD_eq_getElem?_getD,List.getElem?_cons_succ,
    List.getElem?_append_right (by omega),Nat.add_sub_cancel_left]
  rfl

theorem wire_format : readUint16HighByteFirst (frame.wire.drop 1)=
    frameFormat frame.segmented (.ofNat frame.formatLength) := by
  simp [wire_eq,body,header]

theorem wire_body : (frame.wire.drop 1).take (frame.formatLength-2)=frame.body := by
  rw [wire_eq,List.drop_one,List.tail_cons,← frame.body_length,Nat.add_sub_cancel,List.take_left']
  rfl

theorem wire_fcs : readUint16LowByteFirst (frame.wire.drop (frame.formatLength-1))=
    calculateHdlcCrc (some frame.body) := by
  rw [wire_eq,show frame.formatLength-1=frame.body.length+1 by have := frame.body_length; omega,
    List.drop_succ_cons,List.drop_left',trailer]
  · simp
  · rfl

theorem wire_header : (frame.wire.drop 1).take frame.header.length=frame.header := by
  rw [wire_eq,List.drop_one,List.tail_cons,body,List.append_assoc,List.take_left']
  rfl

theorem wire_behind_header : frame.wire.drop (frame.header.length+1)=
    frame.payload ++ frame.trailer := by
  rw [wire_eq,List.drop_succ_cons,body,List.append_assoc,List.drop_left']
  rfl

theorem wire_destination : frame.wire.drop 3=frame.destination.wire ++ (frame.source.wire ++
    (frame.control.encode::(frame.payload ++ frame.trailer))) := by
  simp [wire_eq,body,header,writeUint16HighByteFirst]

theorem wire_source : frame.wire.drop (3+frame.destination.encodedSize)=
    frame.source.wire ++ (frame.control.encode::(frame.payload ++ frame.trailer)) := by
  rw [← List.drop_drop,wire_destination,List.drop_left']
  exact frame.destination.wire_length

theorem wire_control : frame.wire.getD (3+frame.destination.encodedSize+frame.source.encodedSize) 0=
    frame.control.encode := by
  have h : frame.wire.drop (3+frame.destination.encodedSize+frame.source.encodedSize)=
      frame.control.encode::(frame.payload ++ frame.trailer) := by
    rw [← List.drop_drop,wire_source,List.drop_left']
    exact frame.source.wire_length
  rw [← Nat.add_zero (3+frame.destination.encodedSize+frame.source.encodedSize),
    List.getD_eq_getElem?_getD,← List.getElem?_drop,h]
  rfl

theorem formatLength_ge : 7 ≤ frame.formatLength := by
  have hd := frame.destination.encodedSize_cases
  have hs := frame.source.encodedSize_cases
  unfold formatLength
  omega

theorem checkFormat_wire (limits : HdlcCodecLimits) (h : frame.formatLength ≤ 2047) :
    checkFormat frame.wire frame.wire.length limits=
      if (effectiveMaximumFrameSize limits).toNat < frame.formatLength+2 then
        .error .frameTooLarge
      else .ok (frameFormat frame.segmented (.ofNat frame.formatLength)) := by
  have hlt : frame.formatLength < 2048 := by omega
  have hge := frame.formatLength_ge
  have hmax : kMaximumFormatFieldLength.toNat=2047 := rfl
  unfold checkFormat
  simp only [wire_head,wire_format,frameFormat_type _ hlt,frameFormat_length _ hlt,wire_length,
    ne_eq,not_true_eq_false,↓reduceIte,hmax]
  rw [if_neg (by omega),if_neg (by omega),if_neg (by omega),
    show frame.formatLength+2-1=frame.formatLength+1 from rfl,wire_last]
  simp

theorem decodeHeader_wire :
    decodeHeader frame.wire (frame.formatLength+2)=
      .ok (frame.destination,frame.source,frame.control,frame.header.length+1) := by
  have hlen : frame.formatLength=5+frame.destination.encodedSize+frame.source.encodedSize+
      frame.payload.length := by
    rw [formatLength,payload_length]
    omega
  have hdestination : (frame.wire.drop 3).take (frame.formatLength+2-1-3)=
      frame.destination.wire ++ (frame.source.wire ++
        (frame.control.encode::(frame.payload ++ frame.trailer))).take
          (frame.formatLength+2-1-3-frame.destination.encodedSize) := by
    rw [wire_destination,List.take_append,HdlcAddress.wire_length,
      List.take_of_length_le (by rw [HdlcAddress.wire_length]; omega)]
  have hsource : (frame.wire.drop (3+frame.destination.encodedSize)).take
      (frame.formatLength+2-1-(3+frame.destination.encodedSize))=
      frame.source.wire ++ (frame.control.encode::(frame.payload ++ frame.trailer)).take
        (frame.formatLength+2-1-(3+frame.destination.encodedSize)-frame.source.encodedSize) := by
    rw [wire_source,List.take_append,HdlcAddress.wire_length,
      List.take_of_length_le (by rw [HdlcAddress.wire_length]; omega)]
  unfold decodeHeader
  simp only [hdestination,HdlcAddress.fromBytes_wire,hsource,wire_control]
  rw [if_neg (by omega),HdlcControl.decode_encode,header_length]

theorem checkSequences_wire :
    checkSequences frame.wire frame.formatLength (frame.header.length+1)=.ok frame.information := by
  have hpay := frame.payload_length
  have hbytes : frame.formatLength+2-3-(frame.header.length+1)=frame.payload.length := by
    have := frame.header_length
    rw [formatLength,hpay]
    omega
  have hfcs : frame.formatLength+2-3=frame.formatLength-1 := by omega
  unfold checkSequences
  dsimp only
  by_cases hi : frame.information=[]
  · have hz : frame.payload.length=0 := by simp [hpay,hi]
    rw [hbytes,hz,hfcs,wire_body,wire_fcs]
    simp [hi]
  · have hp : frame.payload=writeUint16LowByteFirst (calculateHdlcCrc (some frame.header)) ++
        frame.information := if_neg hi
    have hlen : frame.payload.length=2+frame.information.length := by rw [hpay,if_neg hi]
    have hpos : frame.information.length≠0 := by simpa using hi
    have hslice : (frame.wire.drop (frame.header.length+1+2)).take
        (frame.formatLength+2-3-(frame.header.length+1+2))=frame.information := by
      have hlow : (writeUint16LowByteFirst (calculateHdlcCrc (some frame.header))).length=2 := rfl
      rw [← List.drop_drop,wire_behind_header,hp,List.append_assoc,List.drop_left' hlow,
        List.take_left' (by omega)]
    rw [hbytes,if_neg (by omega),if_pos (by omega : frame.payload.length≠0),
      if_pos (by omega : frame.payload.length≠0),hslice,hfcs,wire_body,wire_fcs,
      Nat.add_sub_cancel,wire_header,wire_behind_header,hp,List.append_assoc,
      readUint16LowByteFirst_write]
    simp

/-- Decoding the image of a frame: only the two limits can stand in the way. -/
theorem decodeFrame_wire (limits : HdlcCodecLimits) (h : frame.formatLength ≤ 2047)
    (tail : List UInt8) :
    decodeFrame (some (frame.wire ++ tail)) frame.wire.length limits=
      if (effectiveMaximumFrameSize limits).toNat < frame.formatLength+2 then
        .error .frameTooLarge
      else if (effectiveMaximumInformationFieldSize frame.destination frame.source limits).toNat <
          frame.information.length then .error .informationFieldTooLarge
      else .ok frame := by
  have hlt : frame.formatLength < 2048 := by omega
  have hinfo : frame.information.length ≤ frame.formatLength := by
    unfold formatLength
    omega
  rw [decodeFrame_eq_parseFrame,List.take_left' rfl,parseFrame,checkFormat_wire frame limits h]
  by_cases hs : (effectiveMaximumFrameSize limits).toNat < frame.formatLength+2
  · simp [hs]
  · simp only [hs,↓reduceIte,frameFormat_length _ hlt,decodeHeader_wire,checkSequences_wire,
      frameFormat_segmented _ hlt]
    rw [if_neg (by omega)]

/-- The decoder accepts the image exactly when the frame is within its limits. -/
theorem decodeFrame_wire_eq_ok_iff (limits : HdlcCodecLimits) (h : frame.formatLength ≤ 2047)
    (tail : List UInt8) (decoded : HdlcFrameBuffer) :
    decodeFrame (some (frame.wire ++ tail)) frame.wire.length limits=.ok decoded ↔
      frame.Fits limits ∧ decoded=frame := by
  rw [decodeFrame_wire frame limits h tail]
  split
  · rename_i hs
    exact ⟨fun hb => (by cases hb),fun hb => absurd hb.1.frame_le (Nat.not_le.mpr hs)⟩
  split
  · rename_i hi
    exact ⟨fun hb => (by cases hb),fun hb => absurd hb.1.information_le (Nat.not_le.mpr hi)⟩
  · rename_i hs hi
    rw [Except.ok.injEq,eq_comm]
    exact ⟨fun hb => ⟨⟨Nat.not_lt.mp hi,h,Nat.not_lt.mp hs⟩,hb⟩,fun hb => hb.2⟩

/-- The same without anything behind the frame. -/
theorem decodeFrame_image_eq_ok_iff (limits : HdlcCodecLimits) (h : frame.formatLength ≤ 2047)
    (decoded : HdlcFrameBuffer) :
    decodeFrame (some frame.wire) frame.wire.length limits=.ok decoded ↔
      frame.Fits limits ∧ decoded=frame := by
  have hdecode := frame.decodeFrame_wire_eq_ok_iff limits h [] decoded
  rwa [List.append_nil] at hdecode

end HdlcFrameBuffer

/-- What one side encodes under its limits the other side decodes under its own limits exactly
when it would have encoded the frame itself, and it gets every field back. -/
theorem decodeFrame_encodeFrame {frame : HdlcFrame} (hframe : frame.WellFormed)
    (encoderLimits decoderLimits : HdlcCodecLimits) {bytes : List UInt8}
    (h : encodeFrame frame encoderLimits=.ok bytes) :
    ((∃ decoded, decodeFrame (some bytes) bytes.length decoderLimits=.ok decoded) ↔
      ∃ again, encodeFrame frame decoderLimits=.ok again) ∧
    ∀ decoded, decodeFrame (some bytes) bytes.length decoderLimits=.ok decoded →
      decoded.segmented=frame.segmented ∧ decoded.destination=frame.destination ∧
      decoded.source=frame.source ∧ decoded.control.encode=frame.control.encode ∧
      decoded.information=frame.information := by
  obtain ⟨hfits,rfl⟩ := (encodeFrame_eq_ok_iff hframe _ _).mp h
  have hdecode := frame.toBuffer.decodeFrame_image_eq_ok_iff decoderLimits hfits.format_le
  constructor
  · simp only [hdecode,encodeFrame_eq_ok_iff hframe]
    exact ⟨fun ⟨_,hd,_⟩ => ⟨_,hd,rfl⟩,fun ⟨_,hd,_⟩ => ⟨_,hd,rfl⟩⟩
  · intro decoded hd
    obtain ⟨_,rfl⟩ := (hdecode decoded).mp hd
    exact ⟨rfl,rfl,rfl,rfl,rfl⟩

/-- An I-frame with three Information bytes between one-byte addresses. -/
def sampleFrame : HdlcFrame where
  segmented := false
  destination := .ofByte 0x03 (by decide)
  source := .ofByte 0x10 (by decide)
  control := ⟨0x10,by decide⟩
  informationData := some [0x01,0x7e,0x03]
  informationSize := 3

theorem sampleFrame_wellFormed : sampleFrame.WellFormed := ⟨by decide,rfl⟩

/-- Thirteen bytes are one too few for the frame, fourteen are enough. -/
theorem decodeFrame_encodeFrame_sample :
    ((∃ decoded, decodeFrame (some sampleFrame.toBuffer.wire) sampleFrame.toBuffer.wire.length
        ⟨13,3,0⟩=.ok decoded) ↔ ∃ again, encodeFrame sampleFrame ⟨13,3,0⟩=.ok again) ∧
    ((∃ decoded, decodeFrame (some sampleFrame.toBuffer.wire) sampleFrame.toBuffer.wire.length
        ⟨14,3,0⟩=.ok decoded) ↔ ∃ again, encodeFrame sampleFrame ⟨14,3,0⟩=.ok again) :=
  ⟨(decodeFrame_encodeFrame sampleFrame_wellFormed defaultHdlcCodecLimits ⟨13,3,0⟩ rfl).1,
    (decodeFrame_encodeFrame sampleFrame_wellFormed defaultHdlcCodecLimits ⟨14,3,0⟩ rfl).1⟩

end DlmsHdlc
