import DlmsHdlc.Codec.RoundTrip

/-! Which byte strings the decoder accepts: frame images, and frame images with a header check
sequence in front of no Information. -/
namespace DlmsHdlc
namespace HdlcAddress

/-- The size of the address field at the front, up to its first extension bit. -/
def fieldSize (bytes : List UInt8) : ℕ :=
  bytes.findIdx (fun byte => byte &&& 0x01 != 0) + 1

theorem fieldSize_cons (byte : UInt8) (bytes : List UInt8) :
    fieldSize (byte::bytes)=if byte &&& 0x01 ≠ 0 then 1 else fieldSize bytes+1 := by
  by_cases hbyte : byte &&& 0x01=0
  · simp [fieldSize,List.findIdx_cons,hbyte]
  · have hb : (byte &&& 0x01 != 0)=true := by simpa using hbyte
    simp [fieldSize,List.findIdx_cons,hb,hbyte]

/-- A byte with the right seven bits and the right extension bit is the one `Encode` stores. -/
lemma eq_groupByte {rawValue : UInt32} (acc : UInt32) {byte : UInt8} {encodedSize index : ℕ}
    (hsize : encodedSize ≤ 4) (hindex : index < encodedSize)
    (hvalue : rawValue.toNat/2^(7*(encodedSize-index-1))=acc.toNat*128+byte.toNat/2)
    (hlast : byte &&& 0x01 ≠ 0 ↔ index+1=encodedSize) :
    byte=groupByte rawValue encodedSize index := by
  have hbit : byte.toNat%2=if index+1=encodedSize then 1 else 0 := by
    have hmod : (byte &&& 0x01).toNat=byte.toNat%2 := by
      rw [UInt8.toNat_and]
      exact Nat.and_one_is_mod _
    rw [ne_eq,← UInt8.toNat_inj,hmod] at hlast
    change ¬ byte.toNat%2=0 ↔ _ at hlast
    split <;> omega
  have hbyte := byte.toNat_lt
  rw [← UInt8.toNat_inj,groupByte_toNat hsize hindex,hvalue]
  split at hbit <;> split <;> omega

/-- The loop accepts nothing but groups that `Encode` stores, and consumes them to the first
extension bit. -/
theorem fromBytesLoop_eq_ok {rawValue : UInt32} {index : ℕ} {bytes : List UInt8}
    {value : UInt32} {consumed : ℕ} (hraw : rawValue.toNat < 2^(7*index))
    (h : fromBytesLoop rawValue index bytes=.ok (value,consumed)) :
    consumed=index+fieldSize bytes ∧ consumed ≤ 4 ∧
      rawValue.toNat=value.toNat/2^(7*fieldSize bytes) ∧
      bytes.take (fieldSize bytes)=
        (List.range' index (fieldSize bytes)).map (groupByte value consumed) := by
  induction bytes generalizing rawValue index with
  | nil => simp [fromBytesLoop] at h
  | cons byte bytes ih =>
    rw [fromBytesLoop] at h
    split at h
    case isFalse => simp at h
    case isTrue hi =>
    have hbyte := byte.toNat_lt
    have hp : 2^(7*index) ≤ 2^21 := Nat.pow_le_pow_right (by decide) (by omega)
    have happend := appendGroup_toNat rawValue byte (by omega)
    split at h
    · rename_i hlast
      have hone : fieldSize (byte::bytes)=1 := by rw [fieldSize_cons,if_pos hlast]
      split at h
      · simp only [Except.ok.injEq,Prod.mk.injEq] at h
        obtain ⟨rfl,rfl⟩ := h
        have hgroup : byte=groupByte (appendGroup rawValue byte) (index+1) index :=
          eq_groupByte rawValue (by omega) (Nat.lt_succ_self index) (by rw [happend]; simp)
            (by simp [hlast])
        rw [hone,happend]
        refine ⟨rfl,hi,by omega,?_⟩
        simpa using hgroup
      · simp at h
    · rename_i hlast
      have hmore : fieldSize (byte::bytes)=fieldSize bytes+1 := by rw [fieldSize_cons,if_neg hlast]
      have hpos : 0 < fieldSize bytes := Nat.succ_pos _
      have hnext : (appendGroup rawValue byte).toNat < 2^(7*(index+1)) := by
        rw [happend,pow_group]
        omega
      obtain ⟨hconsumed,hle,hvalue,htake⟩ := ih hnext h
      have hgroup : byte=groupByte value consumed index := by
        apply eq_groupByte rawValue hle (by omega)
        · rw [show consumed-index-1=fieldSize bytes by omega,← hvalue,happend]
        · simp only [hlast,false_iff]
          omega
      rw [hmore]
      refine ⟨by omega,hle,?_,?_⟩
      · rw [pow_group,← Nat.div_div_eq_div_mul,← hvalue,happend]
        omega
      · rw [List.take_succ_cons,htake,List.range'_succ,List.map_cons,← hgroup]

/-- The bytes an address was read from are the bytes it is written to. -/
theorem fromBytes_eq_ok {bytes : List UInt8} {address : HdlcAddress} {consumed : ℕ}
    (h : fromBytes (some bytes)=.ok (address,consumed)) :
    consumed=address.encodedSize ∧ address.encodedSize=fieldSize bytes ∧
      bytes.take address.encodedSize=address.wire := by
  simp only [fromBytes] at h
  split at h
  · cases h
  · rename_i hloop
    cases h
    obtain ⟨hconsumed,_,_,htake⟩ := fromBytesLoop_eq_ok (by decide) hloop
    rw [Nat.zero_add] at hconsumed
    rw [← hconsumed,← List.range_eq_range'] at htake
    exact ⟨rfl,hconsumed,htake⟩

theorem fieldSize_wire (address : HdlcAddress) (tail : List UInt8) :
    fieldSize (address.wire ++ tail)=address.encodedSize :=
  (fromBytes_eq_ok (address.fromBytes_wire tail)).2.1.symm

end HdlcAddress

lemma uint16_split (high low : UInt8) :
    ((((high.toUInt16 <<< 8) ||| low.toUInt16) >>> 8) &&& 0xff).toUInt8=high ∧
    (((high.toUInt16 <<< 8) ||| low.toUInt16) &&& 0xff).toUInt8=low := by
  have hh := high.toNat_lt
  have hl := low.toNat_lt
  have hjoin : ((high.toUInt16 <<< 8) ||| low.toUInt16).toNat=high.toNat*256+low.toNat := by
    rw [UInt16.toNat_or,UInt16.toNat_shiftLeft,UInt8.toNat_toUInt16,UInt8.toNat_toUInt16]
    change high.toNat <<< 8 % 2^16 ||| _=_
    rw [Nat.mod_eq_of_lt (by rw [Nat.shiftLeft_eq]; omega),← Nat.shiftLeft_add_eq_or_of_lt hl,
      Nat.shiftLeft_eq]
  obtain ⟨hhigh,hlow⟩ := uint16_bytes_toNat ((high.toUInt16 <<< 8) ||| low.toUInt16)
  rw [hjoin] at hhigh hlow
  rw [← UInt8.toNat_inj,← UInt8.toNat_inj,hhigh,hlow]
  omega

theorem writeUint16HighByteFirst_read {input : List UInt8} (h : 2 ≤ input.length) :
    writeUint16HighByteFirst (readUint16HighByteFirst input)=input.take 2 := by
  obtain _ | ⟨high,_ | ⟨low,input⟩⟩ := input
  · simp at h
  · simp at h
  · have hsplit := uint16_split high low
    simp [writeUint16HighByteFirst,readUint16HighByteFirst,hsplit]

theorem writeUint16LowByteFirst_read {input : List UInt8} (h : 2 ≤ input.length) :
    writeUint16LowByteFirst (readUint16LowByteFirst input)=input.take 2 := by
  obtain _ | ⟨low,_ | ⟨high,input⟩⟩ := input
  · simp at h
  · simp at h
  · have hsplit := uint16_split high low
    rw [UInt16.or_comm] at hsplit
    simp [writeUint16LowByteFirst,readUint16LowByteFirst,hsplit]

/-- The three fields of the format cover its sixteen bits. -/
theorem eq_frameFormat {format : UInt16} (h : format &&& 0xf000=kFrameFormatType3) :
    format=frameFormat (format &&& kSegmentationBit != 0) (.ofNat (format &&& 0x07ff).toNat) := by
  have hlt := format.toNat_lt
  have htype : format.toNat/2^12%16=10 := by
    rw [← UInt16.toNat_inj,UInt16.toNat_and] at h
    change format.toNat &&& 15*2^12=10*2^12 at h
    rw [and_mul_two_pow,show 15=2^4-1 from rfl,Nat.and_two_pow_sub_one_eq_mod] at h
    omega
  have hsegmented : (format &&& kSegmentationBit != 0)=decide (format.toNat/2^11%2=1) := by
    have hbit : (format &&& kSegmentationBit).toNat=format.toNat/2^11%2*2^11 := by
      rw [UInt16.toNat_and]
      change format.toNat &&& 1*2^11=_
      rw [and_mul_two_pow,Nat.and_one_is_mod]
    rw [Bool.eq_iff_iff,bne_iff_ne,ne_eq,← UInt16.toNat_inj,hbit,decide_eq_true_iff]
    change ¬ _=0 ↔ _
    omega
  rw [← UInt16.toNat_inj,format_length,frameFormat_toNat _ (Nat.mod_lt _ (by decide)),hsegmented]
  simp only [decide_eq_true_eq]
  split <;> omega

/-- Flags and frame check sequence around a body. -/
def enclose (body : List UInt8) : List UInt8 :=
  [kHdlcFlag] ++ body ++ writeUint16LowByteFirst (calculateHdlcCrc (some body)) ++ [kHdlcFlag]

@[simp] theorem enclose_length (body : List UInt8) : (enclose body).length=body.length+4 := by
  simp [enclose,writeUint16LowByteFirst]

namespace HdlcFrameBuffer

/-- Format field, addresses and control, with any length in the format field. -/
def headerOf (frame : HdlcFrameBuffer) (formatFieldLength : ℕ) : List UInt8 :=
  writeUint16HighByteFirst (frameFormat frame.segmented (.ofNat formatFieldLength)) ++
    frame.destination.wire ++ frame.source.wire ++ [frame.control.encode]

/-- A frame without Information, but with a header check sequence. -/
def bareWire (frame : HdlcFrameBuffer) : List UInt8 :=
  let header := frame.headerOf (frame.formatLength+2)
  enclose (header ++ writeUint16LowByteFirst (calculateHdlcCrc (some header)))

theorem header_eq (frame : HdlcFrameBuffer) : frame.header=frame.headerOf frame.formatLength := rfl

theorem wire_eq_enclose (frame : HdlcFrameBuffer) : frame.wire=enclose frame.body := rfl

@[simp] theorem headerOf_length (frame : HdlcFrameBuffer) (formatFieldLength : ℕ) :
    (frame.headerOf formatFieldLength).length=
      3+frame.destination.encodedSize+frame.source.encodedSize := by
  simp only [headerOf,writeUint16HighByteFirst,List.length_append,List.length_cons,
    List.length_nil,HdlcAddress.wire_length]
  omega

end HdlcFrameBuffer

/-- What the first group of checks lets through: a format field between two flags, with the number
of bytes it announces. -/
theorem checkFormat_eq_ok {input : List UInt8} {limits : HdlcCodecLimits} {format : UInt16}
    (h : checkFormat input input.length limits=.ok format) :
    let length := (format &&& 0x07ff).toNat
    input.length=length+2 ∧ 6 ≤ length ∧ length ≤ 2047 ∧
      length+2 ≤ (effectiveMaximumFrameSize limits).toNat ∧
      format=frameFormat (format &&& kSegmentationBit != 0) (.ofNat length) ∧
      input.take 3=kHdlcFlag::writeUint16HighByteFirst format ∧
      input.drop (length+1)=[kHdlcFlag] := by
  have hmax : kMaximumFormatFieldLength.toNat=2047 := rfl
  simp only [checkFormat,ite_error_eq_ok,Except.ok.injEq] at h
  obtain ⟨hfour,hflag,htype,hsix,hlength,hframe,hshort,hsize,hclosing,rfl⟩ := h
  rw [hmax] at hlength
  have hopen : input=kHdlcFlag::input.drop 1 := by
    obtain _ | ⟨byte,input⟩ := input
    · simp at hfour
    · simpa using hflag
  have hformat : writeUint16HighByteFirst (readUint16HighByteFirst (input.drop 1))=
      (input.drop 1).take 2 := by
    apply writeUint16HighByteFirst_read
    rw [List.length_drop]
    omega
  refine ⟨by omega,by omega,by omega,by omega,eq_frameFormat (by simpa using htype),?_,?_⟩
  · rw [hformat]
    conv_lhs => rw [hopen]
    rfl
  · generalize (readUint16HighByteFirst (input.drop 1) &&& 0x07ff).toNat=length at *
    have hlast : length+1 < input.length := by omega
    rw [show length+2-1=length+1 from rfl,List.getD_eq_getElem _ _ hlast] at hclosing
    rw [List.drop_eq_getElem_cons hlast,List.drop_eq_nil_of_le (by omega)]
    simpa using hclosing

/-- The header check accepts what an address, another one and a control byte are written to. -/
theorem decodeHeader_eq_ok {input : List UInt8} {fullFrameSize : ℕ} {destination source : HdlcAddress}
    {control : HdlcControl} {offset : ℕ} (hsize : fullFrameSize ≤ input.length)
    (h : decodeHeader input fullFrameSize=.ok (destination,source,control,offset)) :
    offset=4+destination.encodedSize+source.encodedSize ∧ offset+3 ≤ fullFrameSize ∧
      (input.drop 3).take (offset-3)=
        destination.wire ++ source.wire ++ [control.encode] := by
  unfold decodeHeader at h
  dsimp only at h
  split at h
  · cases h
  rename_i hd
  split at h
  · cases h
  rename_i hs
  split at h
  · cases h
  rename_i hroom
  split at h
  · cases h
  rename_i hc
  cases h
  obtain ⟨rfl,_,hdestination⟩ := HdlcAddress.fromBytes_eq_ok hd
  obtain ⟨rfl,_,hsource⟩ := HdlcAddress.fromBytes_eq_ok hs
  have hcontrol : input.getD (3+destination.encodedSize+source.encodedSize) 0=control.encode := by
    unfold HdlcControl.decode at hc
    split at hc
    · cases hc
      rfl
    · cases hc
  rw [List.take_take,min_eq_left (by omega)] at hdestination hsource
  refine ⟨by omega,by omega,?_⟩
  rw [show 3+destination.encodedSize+source.encodedSize+1-3=
      destination.encodedSize+(source.encodedSize+1) by omega,List.take_add,hdestination,
    List.drop_drop,List.take_add,hsource,List.drop_drop,List.append_assoc]
  have hlt : 3+destination.encodedSize+source.encodedSize < input.length := by omega
  rw [List.getD_eq_getElem _ _ hlt] at hcontrol
  rw [List.drop_eq_getElem_cons hlt,hcontrol]
  rfl

/-- Between the header and the FCS stands nothing, or the header check sequence and Information,
which may be empty. -/
theorem checkSequences_eq_ok {input information : List UInt8} {length offset : ℕ}
    (hsize : input.length=length+2) (hoffset : offset+1 ≤ length)
    (h : checkSequences input length offset=.ok information) :
    (input.drop (length-1)).take 2=
        writeUint16LowByteFirst (calculateHdlcCrc (some ((input.drop 1).take (length-2)))) ∧
      ((input.drop offset).take (length-1-offset)=[] ∧ information=[] ∨
        (input.drop offset).take (length-1-offset)=writeUint16LowByteFirst
          (calculateHdlcCrc (some ((input.drop 1).take (offset-1)))) ++ information) := by
  simp only [checkSequences,ite_error_eq_ok,show length+2-3=length-1 by omega] at h
  obtain ⟨hone,hhcs,hfcs,h⟩ := h
  rw [ne_eq,not_not] at hfcs
  have hread : writeUint16LowByteFirst (readUint16LowByteFirst (input.drop (length-1)))=
      (input.drop (length-1)).take 2 := by
    apply writeUint16LowByteFirst_read
    rw [List.length_drop]
    omega
  refine ⟨by rw [hfcs,hread],?_⟩
  by_cases hbare : length-1-offset=0
  · left
    simp only [hbare,ne_eq,not_true_eq_false,↓reduceIte,List.take_zero,Except.ok.injEq] at h
    exact ⟨by rw [hbare,List.take_zero],h.symm⟩
  · right
    simp only [ne_eq,hbare,not_false_eq_true,true_and,not_not,↓reduceIte,
      Except.ok.injEq] at hhcs h
    have hread : writeUint16LowByteFirst (readUint16LowByteFirst (input.drop offset))=
        (input.drop offset).take 2 := by
      apply writeUint16LowByteFirst_read
      rw [List.length_drop]
      omega
    rw [hhcs,hread,← h,← List.drop_drop,show length-1-(offset+2)=length-1-offset-2 by omega,
      ← List.take_add,show 2+(length-1-offset-2)=length-1-offset by omega]

/-- What the decoder accepts: the format field announces what is there, the FCS is right, and
between the header and the FCS stands nothing or a right HCS with the Information. -/
theorem decodeFrame_eq_ok {input : List UInt8} {limits : HdlcCodecLimits} {frame : HdlcFrameBuffer}
    (h : decodeFrame (some input) input.length limits=.ok frame) :
    ∃ length middle, length ≤ 2047 ∧ length+2 ≤ (effectiveMaximumFrameSize limits).toNat ∧
      frame.information.length ≤
        (effectiveMaximumInformationFieldSize frame.destination frame.source limits).toNat ∧
      5+frame.destination.encodedSize+frame.source.encodedSize+middle.length=length ∧
      input=enclose (frame.headerOf length ++ middle) ∧
      (middle=[] ∧ frame.information=[] ∨ middle=writeUint16LowByteFirst
        (calculateHdlcCrc (some (frame.headerOf length))) ++ frame.information) := by
  rw [decodeFrame_eq_parseFrame,List.take_length,parseFrame] at h
  split at h
  · cases h
  rename_i format hformat
  dsimp only at h
  split at h
  · cases h
  rename_i destination source control offset hheader
  split at h
  · cases h
  rename_i information hsequences
  simp only [ite_error_eq_ok,Except.ok.injEq] at h
  obtain ⟨hroom,hinformation,rfl⟩ := h
  obtain ⟨hlength,hsix,hle,hframe,hbits,hfront,hback⟩ := checkFormat_eq_ok hformat
  generalize (format &&& 0x07ff).toNat=length at *
  obtain ⟨hoffset,hless,hfields⟩ := decodeHeader_eq_ok (by omega) hheader
  obtain ⟨hfcs,hmiddle⟩ := checkSequences_eq_ok hlength (by omega) hsequences
  have htwo : (input.drop 1).take 2=writeUint16HighByteFirst format := by
    have hdrop := congrArg (List.drop 1) hfront
    rwa [List.drop_take] at hdrop
  have hcovered : (input.drop 1).take (offset-1)=HdlcFrameBuffer.headerOf
      ⟨format &&& kSegmentationBit != 0,destination,source,control,information⟩ length := by
    rw [show offset-1=2+(offset-3) by omega,List.take_add,List.drop_drop,htwo,hfields,
      HdlcFrameBuffer.headerOf,← hbits]
    simp [List.append_assoc]
  have hbody : (input.drop 1).take (length-2)=HdlcFrameBuffer.headerOf
      ⟨format &&& kSegmentationBit != 0,destination,source,control,information⟩ length ++
        (input.drop offset).take (length-1-offset) := by
    rw [show length-2=(offset-1)+(length-1-offset) by omega,List.take_add,hcovered,List.drop_drop,
      show 1+(offset-1)=offset by omega]
  have hopen : input.take 1=[kHdlcFlag] := by
    rw [show input.take 1=(input.take 3).take 1 by rw [List.take_take]; rfl,hfront]
    rfl
  refine ⟨length,(input.drop offset).take (length-1-offset),hle,hframe,Nat.not_lt.mp hinformation,
    ?_,?_,?_⟩
  · rw [List.length_take,List.length_drop]
    dsimp only
    omega
  · rw [enclose,← hbody,← hfcs]
    nth_rewrite 1 [← hopen]
    rw [← hback,← List.take_add,show 1+(length-2)=length-1 by omega,← List.take_add,
      show length-1+2=length+1 by omega,List.take_append_drop]
  · rw [hcovered] at hmiddle
    exact hmiddle

/-- Exactly two bytes stand between the control byte and the frame check sequence. -/
def BareHeaderCheck (input : List UInt8) : Prop :=
  let destinationSize := HdlcAddress.fieldSize (input.drop 3)
  let sourceSize := HdlcAddress.fieldSize (input.drop (3+destinationSize))
  input.length=3+destinationSize+sourceSize+1+2+3

instance (input : List UInt8) : Decidable (BareHeaderCheck input) :=
  inferInstanceAs (Decidable (_ = _))

namespace HdlcFrameBuffer
variable (frame : HdlcFrameBuffer)

theorem bareHeaderCheck_enclose (formatFieldLength : ℕ) (middle : List UInt8) :
    BareHeaderCheck (enclose (frame.headerOf formatFieldLength ++ middle)) ↔ middle.length=2 := by
  have hdestination : (enclose (frame.headerOf formatFieldLength ++ middle)).drop 3=
      frame.destination.wire ++ (frame.source.wire ++ (frame.control.encode::(middle ++
        writeUint16LowByteFirst (calculateHdlcCrc (some (frame.headerOf formatFieldLength ++
          middle))) ++ [kHdlcFlag]))) := by
    simp [enclose,headerOf,writeUint16HighByteFirst]
  have hsource := congrArg (List.drop frame.destination.encodedSize) hdestination
  rw [List.drop_drop,List.drop_left' frame.destination.wire_length] at hsource
  unfold BareHeaderCheck
  dsimp only
  rw [hdestination,HdlcAddress.fieldSize_wire,hsource,HdlcAddress.fieldSize_wire,enclose_length,
    List.length_append,headerOf_length]
  omega

theorem not_bareHeaderCheck_wire : ¬ BareHeaderCheck frame.wire := by
  rw [wire_eq_enclose,body,header_eq,bareHeaderCheck_enclose,payload_length]
  split
  · rename_i hempty
    simp [hempty]
  · rename_i hinformation
    have hpos := List.length_pos_of_ne_nil hinformation
    omega

theorem bareHeaderCheck_bareWire : BareHeaderCheck frame.bareWire :=
  (frame.bareHeaderCheck_enclose _ _).mpr rfl

end HdlcFrameBuffer

/-- An accepted string is the image of its frame, or the frame has no Information and the string
carries a header check sequence nevertheless. -/
theorem decodeFrame_ok_cases {input : List UInt8} {limits : HdlcCodecLimits}
    {frame : HdlcFrameBuffer} (h : decodeFrame (some input) input.length limits=.ok frame) :
    frame.Fits limits ∧ (input=frame.wire ∨ frame.information=[] ∧ input=frame.bareWire) := by
  obtain ⟨length,middle,hlength,hframe,hinformation,hsum,rfl,hmiddle⟩ := decodeFrame_eq_ok h
  have hformat : frame.formatLength=5+frame.destination.encodedSize+frame.source.encodedSize+
    (if frame.information=[] then 0 else 2)+frame.information.length := rfl
  obtain ⟨rfl,hempty⟩ | rfl := hmiddle
  · simp only [hempty,List.length_nil,↓reduceIte] at hformat hsum
    obtain rfl : length=frame.formatLength := by omega
    refine ⟨⟨hinformation,hlength,hframe⟩,Or.inl ?_⟩
    rw [HdlcFrameBuffer.wire_eq_enclose,HdlcFrameBuffer.body,HdlcFrameBuffer.payload,if_pos hempty]
    rfl
  by_cases hempty : frame.information=[]
  · simp only [hempty,List.append_nil,List.length_nil,↓reduceIte,writeUint16LowByteFirst,
      List.length_cons] at hformat hsum
    obtain rfl : length=frame.formatLength+2 := by omega
    refine ⟨⟨hinformation,by omega,by omega⟩,Or.inr ⟨hempty,?_⟩⟩
    rw [hempty,List.append_nil]
    rfl
  · rw [if_neg hempty] at hformat
    simp only [writeUint16LowByteFirst,List.length_append,List.length_cons,
      List.length_nil] at hsum
    obtain rfl : length=frame.formatLength := by omega
    refine ⟨⟨hinformation,hlength,hframe⟩,Or.inl ?_⟩
    rw [HdlcFrameBuffer.wire_eq_enclose,HdlcFrameBuffer.body,HdlcFrameBuffer.payload,if_neg hempty]
    rfl

/-- The decoder inverts the encoder on the strings without a bare header check sequence: encoding
the decoded frame gives the string back, and no second string of the kind decodes alike. -/
theorem decodeFrame_canonical_iff {input : List UInt8} {limits : HdlcCodecLimits}
    {frame : HdlcFrameBuffer} (h : decodeFrame (some input) input.length limits=.ok frame) :
    (encodeFrame frame.view limits=.ok input ↔ ¬ BareHeaderCheck input) ∧
    ∀ (other : List UInt8) (otherLimits : HdlcCodecLimits),
      decodeFrame (some other) other.length otherLimits=.ok frame →
        (other=input ↔ (BareHeaderCheck other ↔ BareHeaderCheck input)) := by
  obtain ⟨hfits,hinput⟩ := decodeFrame_ok_cases h
  have hsize : frame.information.length < 2^63 := by
    have hlength : frame.information.length ≤ frame.formatLength := by
      unfold HdlcFrameBuffer.formatLength
      omega
    have := hfits.format_le
    omega
  have hbuffer := HdlcFrameBuffer.toBuffer_view (Nat.lt_trans hsize (by decide))
  constructor
  · rw [encodeFrame_eq_ok_iff (HdlcFrameBuffer.view_wellFormed hsize),hbuffer]
    obtain rfl | ⟨_,rfl⟩ := hinput
    · exact ⟨fun _ => frame.not_bareHeaderCheck_wire,fun _ => ⟨hfits,rfl⟩⟩
    · refine ⟨fun ⟨_,heq⟩ => ?_,fun hbare => absurd frame.bareHeaderCheck_bareWire hbare⟩
      rw [heq]
      exact frame.not_bareHeaderCheck_wire
  · intro other otherLimits hother
    have hwire := frame.not_bareHeaderCheck_wire
    have hbare := frame.bareHeaderCheck_bareWire
    refine ⟨fun heq => by rw [heq],fun hiff => ?_⟩
    obtain rfl | ⟨_,rfl⟩ := hinput <;>
      obtain rfl | ⟨_,rfl⟩ := (decodeFrame_ok_cases hother).2
    · rfl
    · exact absurd (hiff.mp hbare) hwire
    · exact absurd (hiff.mpr hbare) hwire
    · rfl

/-- A Receive Ready frame between the addresses of the sample. -/
def receiveReadyFrame : HdlcFrameBuffer where
  segmented := false
  destination := sampleFrame.destination
  source := sampleFrame.source
  control := ⟨0x11,by decide⟩
  information := []

theorem receiveReadyFrame_decodes :
    decodeFrame (some [0x7e,0xa0,0x07,0x07,0x21,0x11,0x74,0xc5,0x7e]) 9
      defaultHdlcCodecLimits=.ok receiveReadyFrame :=
  toOption_eq_some_iff.mp (by decide +kernel)

/-- Its image is canonical. -/
theorem decodeFrame_canonical_iff_sample :
    (encodeFrame receiveReadyFrame.view defaultHdlcCodecLimits=
        .ok [0x7e,0xa0,0x07,0x07,0x21,0x11,0x74,0xc5,0x7e] ↔
      ¬ BareHeaderCheck [0x7e,0xa0,0x07,0x07,0x21,0x11,0x74,0xc5,0x7e]) ∧
    ∀ (other : List UInt8) (otherLimits : HdlcCodecLimits),
      decodeFrame (some other) other.length otherLimits=.ok receiveReadyFrame →
        (other=[0x7e,0xa0,0x07,0x07,0x21,0x11,0x74,0xc5,0x7e] ↔
          (BareHeaderCheck other ↔
            BareHeaderCheck [0x7e,0xa0,0x07,0x07,0x21,0x11,0x74,0xc5,0x7e])) :=
  decodeFrame_canonical_iff receiveReadyFrame_decodes

/-- The same frame with its length raised by two and a header check sequence is accepted as well,
and is not what the encoder makes of it. -/
theorem bareHeaderCheck_accepted :
    decodeFrame (some [0x7e,0xa0,0x09,0x07,0x21,0x11,0x36,0x6b,0x47,0x0f,0x7e]) 11
        defaultHdlcCodecLimits=.ok receiveReadyFrame ∧
      decodeFrame (some [0x7e,0xa0,0x07,0x07,0x21,0x11,0x74,0xc5,0x7e]) 9
        defaultHdlcCodecLimits=.ok receiveReadyFrame ∧
      encodeFrame receiveReadyFrame.view defaultHdlcCodecLimits≠
        .ok [0x7e,0xa0,0x09,0x07,0x21,0x11,0x36,0x6b,0x47,0x0f,0x7e] := by
  refine ⟨toOption_eq_some_iff.mp (by decide +kernel),receiveReadyFrame_decodes,?_⟩
  rw [ne_eq,encodeFrame_eq_ok_iff (HdlcFrameBuffer.view_wellFormed (by decide))]
  decide

end DlmsHdlc
