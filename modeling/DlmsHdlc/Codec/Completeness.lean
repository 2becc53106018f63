import DlmsHdlc.Codec.Canonical

/-! When the decoder asks for more data. -/
namespace DlmsHdlc
namespace HdlcAddress

/-- The loop runs out of bytes when there are few of them and none has the extension bit. -/
theorem fromBytesLoop_needMoreData_iff {rawValue : UInt32} {index : ℕ} {bytes : List UInt8} :
    fromBytesLoop rawValue index bytes=.error .needMoreData ↔
      index+bytes.length < 4 ∧ ∀ byte ∈ bytes, byte &&& 0x01=0 := by
  induction bytes generalizing rawValue index with
  | nil => by_cases hindex : index < 4 <;> simp [fromBytesLoop,hindex]
  | cons byte rest ih =>
    rw [fromBytesLoop]
    split
    case isFalse hindex =>
      simp only [Except.error.injEq,reduceCtorEq,List.length_cons,false_iff,not_and]
      omega
    split
    case isTrue hlast =>
      have hnot : ¬ ∀ b ∈ byte::rest, b &&& 0x01=0 := fun h => hlast (h byte List.mem_cons_self)
      simp only [hnot,and_false,iff_false]
      split <;> simp
    case isFalse hlast =>
      rw [ne_eq,not_not] at hlast
      simp only [ih,List.length_cons,List.mem_cons,forall_eq_or_imp,hlast,true_and]
      rw [show index+1+rest.length=index+(rest.length+1) by omega]

theorem fromBytes_error_iff {bytes : List UInt8} {status : HdlcStatus} :
    fromBytes (some bytes)=.error status ↔ fromBytesLoop 0 0 bytes=.error status := by
  simp only [fromBytes]
  split
  · rename_i h
    rw [h,Except.error.injEq,Except.error.injEq]
  · rename_i h
    simp [h]

theorem fromBytes_needMoreData_iff {bytes : List UInt8} :
    fromBytes (some bytes)=.error .needMoreData ↔
      bytes.length < 4 ∧ ∀ byte ∈ bytes, byte &&& 0x01=0 := by
  rw [fromBytes_error_iff,fromBytesLoop_needMoreData_iff,Nat.zero_add]

theorem le_four_of_supported {encodedSize : ℕ} (h : isSupportedEncodedSize encodedSize=true) :
    encodedSize ≤ 4 := by
  have hcases : encodedSize=1 ∨ encodedSize=2 ∨ encodedSize=4 := by
    simpa [isSupportedEncodedSize,or_assoc] using h
  omega

/-- The loop accepts a field of a supported size. -/
theorem fromBytesLoop_of_fieldSize {rawValue : UInt32} {index : ℕ} {bytes : List UInt8}
    (hsupported : isSupportedEncodedSize (index+fieldSize bytes)=true)
    (hroom : fieldSize bytes ≤ bytes.length) :
    ∃ value, fromBytesLoop rawValue index bytes=.ok (value,index+fieldSize bytes) := by
  induction bytes generalizing rawValue index with
  | nil => exact absurd hroom (by decide)
  | cons byte rest ih =>
    have hsize := le_four_of_supported hsupported
    rw [fieldSize_cons] at hsupported hroom hsize ⊢
    rw [fromBytesLoop]
    split at hsupported
    case isTrue hlast =>
      rw [if_pos hlast] at hsize ⊢
      rw [if_pos (by omega),if_pos hlast,if_pos hsupported]
      exact ⟨_,rfl⟩
    case isFalse hlast =>
      rw [if_neg hlast] at hsize hroom ⊢
      rw [if_pos (by omega),if_neg hlast]
      have hnext : index+(fieldSize rest+1)=index+1+fieldSize rest := by omega
      rw [hnext] at hsupported ⊢
      exact ih hsupported (by simpa using hroom)

/-- An address is read exactly when its field is there and has a supported size. -/
theorem fromBytes_ok_iff_fieldSize {bytes : List UInt8} {consumed : ℕ} :
    (∃ address, fromBytes (some bytes)=.ok (address,consumed)) ↔
      consumed=fieldSize bytes ∧ isSupportedEncodedSize consumed=true ∧
        consumed ≤ bytes.length := by
  constructor
  · rintro ⟨address,h⟩
    obtain ⟨hconsumed,hfield,htake⟩ := fromBytes_eq_ok h
    have hlength := congrArg List.length htake
    rw [List.length_take,wire_length] at hlength
    exact ⟨hconsumed.trans hfield,hconsumed ▸ address.supported,by omega⟩
  · rintro ⟨rfl,hsupported,hroom⟩
    obtain ⟨value,hloop⟩ := @fromBytesLoop_of_fieldSize 0 0 bytes (by rwa [Nat.zero_add]) hroom
    rw [Nat.zero_add] at hloop
    simp only [fromBytes]
    split
    · rename_i h
      rw [hloop] at h
      cases h
    · rename_i h
      rw [hloop] at h
      cases h
      exact ⟨_,rfl⟩

end HdlcAddress

/-- The size that the format field announces, flags included. -/
def announcedSize (bytes : List UInt8) : ℕ :=
  (readUint16HighByteFirst (bytes.drop 1) &&& 0x07ff).toNat+2

/-- An opening flag and a format that a frame within the limit may have. -/
def AnnouncesFrame (limits : HdlcCodecLimits) (bytes : List UInt8) : Prop :=
  bytes.getD 0 0=kHdlcFlag ∧
    readUint16HighByteFirst (bytes.drop 1) &&& 0xf000=kFrameFormatType3 ∧
    6+2 ≤ announcedSize bytes ∧ announcedSize bytes ≤ (effectiveMaximumFrameSize limits).toNat

/-- More bytes are needed to tell whether this is a frame. -/
def NeedsMore (limits : HdlcCodecLimits) (bytes : List UInt8) : Prop :=
  bytes.length < 4 ∨ AnnouncesFrame limits bytes ∧ bytes.length < announcedSize bytes

/-- The whole of an announced frame, up to the closing flag. -/
def CompleteFrame (limits : HdlcCodecLimits) (bytes : List UInt8) : Prop :=
  AnnouncesFrame limits bytes ∧ bytes.length=announcedSize bytes ∧
    bytes.getD (bytes.length-1) 0=kHdlcFlag

/-- Behind the destination address fewer than four bytes are left before the closing flag, and no
extension bit in them. -/
def TruncatedSource (bytes : List UInt8) : Prop :=
  let fields := (bytes.drop 3).take (bytes.length-4)
  let destinationSize := HdlcAddress.fieldSize fields
  isSupportedEncodedSize destinationSize=true ∧ (fields.drop destinationSize).length < 4 ∧
    ∀ byte ∈ fields.drop destinationSize, byte &&& 0x01=0

instance (limits : HdlcCodecLimits) (bytes : List UInt8) : Decidable (AnnouncesFrame limits bytes) :=
  inferInstanceAs (Decidable (_ ∧ _))
instance (limits : HdlcCodecLimits) (bytes : List UInt8) : Decidable (NeedsMore limits bytes) :=
  inferInstanceAs (Decidable (_ ∨ _))
instance (limits : HdlcCodecLimits) (bytes : List UInt8) : Decidable (CompleteFrame limits bytes) :=
  inferInstanceAs (Decidable (_ ∧ _))
instance (bytes : List UInt8) : Decidable (TruncatedSource bytes) :=
  inferInstanceAs (Decidable (_ ∧ _))

theorem announcedSize_le (bytes : List UInt8) : announcedSize bytes ≤ 2049 := by
  rw [announcedSize,format_length]
  omega

variable {bytes : List UInt8} {limits : HdlcCodecLimits}

/-- Behind an announcement the format check compares sizes, and looks at the closing flag. -/
theorem checkFormat_of_announces (hfour : 4 ≤ bytes.length) (h : AnnouncesFrame limits bytes) :
    checkFormat bytes bytes.length limits=
      if bytes.length < announcedSize bytes then .error .needMoreData
      else if bytes.length≠announcedSize bytes then .error .invalidFrameLength
      else if bytes.getD (announcedSize bytes-1) 0≠kHdlcFlag then .error .invalidFlag
      else .ok (readUint16HighByteFirst (bytes.drop 1)) := by
  obtain ⟨hflag,htype,hleast,hlimit⟩ := h
  have hmost := announcedSize_le bytes
  have hmaximum : kMaximumFormatFieldLength.toNat=2047 := rfl
  unfold checkFormat
  unfold announcedSize at hleast hlimit hmost ⊢
  rw [if_neg (by omega),if_neg (not_not.mpr hflag)]
  dsimp only
  rw [if_neg (not_not.mpr htype),if_neg (by omega),if_neg (by omega),if_neg (by omega)]

/-- Without one it fails, and not for lack of data. -/
theorem checkFormat_of_not_announces (hfour : 4 ≤ bytes.length)
    (h : ¬ AnnouncesFrame limits bytes) :
    ∃ status, status≠.needMoreData ∧ checkFormat bytes bytes.length limits=.error status := by
  unfold checkFormat
  rw [if_neg (by omega)]
  by_cases hflag : bytes.getD 0 0=kHdlcFlag
  case neg => exact ⟨_,by decide,if_pos hflag⟩
  rw [if_neg (not_not.mpr hflag)]
  dsimp only
  by_cases htype : readUint16HighByteFirst (bytes.drop 1) &&& 0xf000=kFrameFormatType3
  case neg => exact ⟨_,by decide,if_pos htype⟩
  rw [if_neg (not_not.mpr htype)]
  by_cases hless : (readUint16HighByteFirst (bytes.drop 1) &&& 0x07ff).toNat < 6
  case pos => exact ⟨_,by decide,if_pos hless⟩
  rw [if_neg hless]
  by_cases hlong : kMaximumFormatFieldLength.toNat <
      (readUint16HighByteFirst (bytes.drop 1) &&& 0x07ff).toNat
  case pos => exact ⟨_,by decide,if_pos hlong⟩
  rw [if_neg hlong]
  have hlarge : (effectiveMaximumFrameSize limits).toNat <
      (readUint16HighByteFirst (bytes.drop 1) &&& 0x07ff).toNat+2 := by
    by_contra hfits
    exact h ⟨hflag,htype,by unfold announcedSize; omega,Nat.not_lt.mp hfits⟩
  exact ⟨_,by decide,if_pos hlarge⟩

theorem checkFormat_needMoreData_iff :
    checkFormat bytes bytes.length limits=.error .needMoreData ↔ NeedsMore limits bytes := by
  by_cases hfour : bytes.length < 4
  · unfold checkFormat
    rw [if_pos hfour]
    exact iff_of_true rfl (Or.inl hfour)
  have hneeds : NeedsMore limits bytes ↔
      AnnouncesFrame limits bytes ∧ bytes.length < announcedSize bytes :=
    or_iff_right hfour
  rw [hneeds]
  by_cases hannounces : AnnouncesFrame limits bytes
  · rw [checkFormat_of_announces (by omega) hannounces]
    split
    · rename_i hless
      exact iff_of_true rfl ⟨hannounces,hless⟩
    · rename_i hless
      simp only [hless,and_false,iff_false]
      split
      · simp
      split <;> simp
  · obtain ⟨status,hstatus,herror⟩ := checkFormat_of_not_announces (by omega) hannounces
    rw [herror]
    simp [hannounces,hstatus]

theorem checkFormat_ok_iff {format : UInt16} :
    checkFormat bytes bytes.length limits=.ok format ↔
      CompleteFrame limits bytes ∧ readUint16HighByteFirst (bytes.drop 1)=format := by
  constructor
  · intro h
    by_cases hfour : bytes.length < 4
    · unfold checkFormat at h
      rw [if_pos hfour] at h
      cases h
    by_cases hannounces : AnnouncesFrame limits bytes
    · rw [checkFormat_of_announces (by omega) hannounces] at h
      simp only [ite_error_eq_ok,ne_eq,not_not,Except.ok.injEq] at h
      obtain ⟨_,hsize,hflag,hformat⟩ := h
      exact ⟨⟨hannounces,hsize,by rwa [hsize]⟩,hformat⟩
    · obtain ⟨status,_,herror⟩ := checkFormat_of_not_announces (by omega) hannounces
      rw [herror] at h
      cases h
  · rintro ⟨⟨hannounces,hsize,hflag⟩,rfl⟩
    have hleast := hannounces.2.2.1
    rw [checkFormat_of_announces (by omega) hannounces,if_neg (by omega),
      if_neg (not_not.mpr hsize),← hsize,if_neg (not_not.mpr hflag)]

theorem not_completeFrame_of_needsMore (h : NeedsMore limits bytes) :
    ¬ CompleteFrame limits bytes := by
  rintro ⟨hannounces,hsize,_⟩
  have hleast := hannounces.2.2.1
  obtain hfour | ⟨_,hless⟩ := h <;> omega

/-- Inside a complete frame only the source address can run out of bytes: four of them at least
stand behind the format field, which is enough for the destination address. -/
theorem decodeHeader_needMoreData_iff (h : 8 ≤ bytes.length) :
    decodeHeader bytes bytes.length=.error .needMoreData ↔ TruncatedSource bytes := by
  have hfields : ((bytes.drop 3).take (bytes.length-4)).length=bytes.length-4 := by
    rw [List.length_take,List.length_drop]
    omega
  unfold decodeHeader TruncatedSource
  simp only [show bytes.length-1-3=bytes.length-4 by omega]
  cases hdestination : HdlcAddress.fromBytes (some ((bytes.drop 3).take (bytes.length-4))) with
  | error status =>
    have hunsupported : ¬ isSupportedEncodedSize
        (HdlcAddress.fieldSize ((bytes.drop 3).take (bytes.length-4)))=true := by
      intro hsupported
      have hsize := HdlcAddress.le_four_of_supported hsupported
      obtain ⟨address,hok⟩ := HdlcAddress.fromBytes_ok_iff_fieldSize.mpr
        ⟨rfl,hsupported,by omega⟩
      rw [hok] at hdestination
      cases hdestination
    have hstatus : status≠.needMoreData := by
      rintro rfl
      have := (HdlcAddress.fromBytes_needMoreData_iff.mp hdestination).1
      omega
    simp [hunsupported,hstatus]
  | ok read =>
    obtain ⟨destination,consumed⟩ := read
    obtain ⟨rfl,hsupported,hroom⟩ :=
      HdlcAddress.fromBytes_ok_iff_fieldSize.mp ⟨destination,hdestination⟩
    generalize hconsumed : HdlcAddress.fieldSize ((bytes.drop 3).take (bytes.length-4))=consumed at *
    have hslice : (bytes.drop (3+consumed)).take (bytes.length-1-(3+consumed))=
        ((bytes.drop 3).take (bytes.length-4)).drop consumed := by
      rw [List.drop_take,List.drop_drop,show bytes.length-1-(3+consumed)=
        bytes.length-4-consumed by omega]
    dsimp only
    rw [hslice,← HdlcAddress.fromBytes_needMoreData_iff,and_iff_right hsupported]
    cases hsource : HdlcAddress.fromBytes
        (some (((bytes.drop 3).take (bytes.length-4)).drop consumed)) with
    | error status => simp
    | ok read =>
      simp only [reduceCtorEq,iff_false]
      split
      · simp
      split
      · rename_i hcontrol
        simp [HdlcControl.decode_error hcontrol]
      · simp

theorem checkSequences_ne_needMoreData {input : List UInt8} {length offset : ℕ} :
    checkSequences input length offset≠.error .needMoreData := by
  unfold checkSequences
  dsimp only
  repeat' split
  all_goals simp

/-- The decoder asks for more data where more is needed, and on a complete frame whose source
address is truncated. -/
theorem decodeFrame_needMoreData_iff :
    decodeFrame (some bytes) bytes.length limits=.error .needMoreData ↔
      NeedsMore limits bytes ∨ CompleteFrame limits bytes ∧ TruncatedSource bytes := by
  rw [decodeFrame_eq_parseFrame,List.take_length,parseFrame]
  cases hformat : checkFormat bytes bytes.length limits with
  | error status =>
    have hincomplete : ¬ CompleteFrame limits bytes := by
      intro hcomplete
      rw [checkFormat_ok_iff.mpr ⟨hcomplete,rfl⟩] at hformat
      cases hformat
    rw [← checkFormat_needMoreData_iff,hformat]
    simp [hincomplete]
  | ok format =>
    obtain ⟨hcomplete,rfl⟩ := checkFormat_ok_iff.mp hformat
    have hneeds : ¬ NeedsMore limits bytes := fun h => not_completeFrame_of_needsMore h hcomplete
    have hsize := hcomplete.2.1
    have hleast := hcomplete.1.2.2.1
    have hheader := @decodeHeader_needMoreData_iff bytes (by omega)
    rw [or_iff_right hneeds,and_iff_right hcomplete,← hheader]
    have hannounced : (readUint16HighByteFirst (bytes.drop 1) &&& 0x07ff).toNat+2=bytes.length :=
      hsize.symm
    dsimp only
    rw [hannounced]
    cases decodeHeader bytes bytes.length with
    | error status => simp
    | ok header =>
      simp only [reduceCtorEq,iff_false]
      split
      · rename_i hsequences
        rintro ⟨⟩
        exact checkSequences_ne_needMoreData hsequences
      split
      · simp
      split <;> simp

/-- The status says that more data is needed exactly when it is, unless a complete frame stops
inside its source address. -/
theorem decodeFrame_asks_iff (bytes : List UInt8) (limits : HdlcCodecLimits) :
    (decodeFrame (some bytes) bytes.length limits=.error .needMoreData ↔ NeedsMore limits bytes) ↔
      ¬ (CompleteFrame limits bytes ∧ TruncatedSource bytes) := by
  rw [decodeFrame_needMoreData_iff]
  constructor
  · rintro hiff ⟨hcomplete,htruncated⟩
    exact not_completeFrame_of_needsMore (hiff.mp (Or.inr ⟨hcomplete,htruncated⟩)) hcomplete
  · intro h
    rw [or_iff_left h]

/-- Eight bytes with both flags, as announced: a one-byte destination address and then three bytes
without an extension bit. -/
theorem decodeFrame_asks_for_nothing :
    CompleteFrame defaultHdlcCodecLimits [0x7e,0xa0,0x06,0x03,0x00,0x00,0x00,0x7e] ∧
      ¬ NeedsMore defaultHdlcCodecLimits [0x7e,0xa0,0x06,0x03,0x00,0x00,0x00,0x7e] ∧
      decodeFrame (some [0x7e,0xa0,0x06,0x03,0x00,0x00,0x00,0x7e]) 8 defaultHdlcCodecLimits=
        .error .needMoreData := by
  have hcomplete : CompleteFrame defaultHdlcCodecLimits
      [0x7e,0xa0,0x06,0x03,0x00,0x00,0x00,0x7e] := by decide +kernel
  have htruncated : TruncatedSource [0x7e,0xa0,0x06,0x03,0x00,0x00,0x00,0x7e] := by decide +kernel
  exact ⟨hcomplete,fun h => not_completeFrame_of_needsMore h hcomplete,
    decodeFrame_needMoreData_iff.mpr (Or.inr ⟨hcomplete,htruncated⟩)⟩

end DlmsHdlc
