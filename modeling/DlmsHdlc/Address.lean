import DlmsHdlc.Types

/-! HDLC addresses: seven-bit groups, most significant first, with the extension bit set in
the last byte only. -/
namespace DlmsHdlc

def isSupportedEncodedSize (encodedSize : ℕ) : Bool :=
  encodedSize == 1 || encodedSize == 2 || encodedSize == 4

def maximumRawValue (encodedSize : ℕ) : UInt32 :=
  (1 <<< UInt32.ofNat (encodedSize*7)) - 1

/-- The fields are private in the source: every value is one that `FromRaw`, `FromBytes` or
the default constructor produced. -/
structure HdlcAddress where
  rawValue : UInt32
  encodedSize : ℕ
  supported : isSupportedEncodedSize encodedSize=true
  inRange : rawValue ≤ maximumRawValue encodedSize
  deriving DecidableEq, Repr

namespace HdlcAddress

/-- A one-byte address. -/
def ofByte (rawValue : UInt32) (h : rawValue ≤ maximumRawValue 1) : HdlcAddress :=
  ⟨rawValue,1,rfl,h⟩

/-- The default constructor. -/
instance : Inhabited HdlcAddress := ⟨ofByte 0 (by decide)⟩

def fromRaw (rawValue : UInt32) (encodedSize : ℕ) : Except HdlcStatus HdlcAddress :=
  if hs : isSupportedEncodedSize encodedSize=true then
    if hr : rawValue ≤ maximumRawValue encodedSize then .ok ⟨rawValue,encodedSize,hs,hr⟩
    else .error .invalidAddress
  else .error .unsupportedAddress

def appendGroup (rawValue : UInt32) (byte : UInt8) : UInt32 :=
  (rawValue <<< 7) ||| ((byte >>> 1) &&& 0x7f).toUInt32

/-- The loop of `FromBytes`, entered with `index` bytes consumed: the raw value and the
consumed size, or the status. -/
def fromBytesLoop (rawValue : UInt32) (index : ℕ) : List UInt8 → Except HdlcStatus (UInt32 × ℕ)
  | [] => .error (if index < 4 then .needMoreData else .invalidAddress)
  | byte::rest =>
    if index < 4 then
      if byte &&& 0x01 ≠ 0 then
        if isSupportedEncodedSize (index+1) then .ok (appendGroup rawValue byte,index+1)
        else .error .unsupportedAddress
      else fromBytesLoop (appendGroup rawValue byte) (index+1) rest
    else .error .invalidAddress

lemma pow_group (n : ℕ) : 2^(7*(n+1))=2^(7*n)*128 := by
  rw [Nat.mul_succ,Nat.pow_add]

theorem appendGroup_toNat (rawValue : UInt32) (byte : UInt8) (h : rawValue.toNat < 2^25) :
    (appendGroup rawValue byte).toNat=rawValue.toNat*128 + byte.toNat/2 := by
  have hb := byte.toNat_lt
  have hg : byte.toNat >>> 1 &&& 127=byte.toNat/2 := by
    rw [Nat.shiftRight_eq_div_pow,show 127=2^7-1 from rfl,Nat.and_two_pow_sub_one_eq_mod]
    omega
  have hs : rawValue.toNat <<< 7 % 2^32=rawValue.toNat <<< 7 := by
    rw [Nat.shiftLeft_eq]
    omega
  simp only [appendGroup,UInt32.toNat_or,UInt32.toNat_shiftLeft,UInt8.toNat_toUInt32,
    UInt8.toNat_and,UInt8.toNat_shiftRight]
  change (rawValue.toNat <<< 7 % 2^32 ||| byte.toNat >>> 1 &&& 127)=_
  rw [hg,hs]
  rw [← Nat.shiftLeft_add_eq_or_of_lt (by omega : byte.toNat/2 < 2^7),Nat.shiftLeft_eq]

theorem le_maximumRawValue_iff {rawValue : UInt32} {encodedSize : ℕ}
    (h : isSupportedEncodedSize encodedSize=true) :
    rawValue ≤ maximumRawValue encodedSize ↔ rawValue.toNat < 2^(7*encodedSize) := by
  have hs : encodedSize=1 ∨ encodedSize=2 ∨ encodedSize=4 := by
    simpa [isSupportedEncodedSize,or_assoc] using h
  rw [UInt32.le_iff_toNat_le]
  rcases hs with rfl | rfl | rfl
  · change rawValue.toNat ≤ 127 ↔ _
    omega
  · change rawValue.toNat ≤ 16383 ↔ _
    omega
  · change rawValue.toNat ≤ 268435455 ↔ _
    omega

theorem encodedSize_cases (address : HdlcAddress) :
    address.encodedSize=1 ∨ address.encodedSize=2 ∨ address.encodedSize=4 := by
  simpa [isSupportedEncodedSize,or_assoc] using address.supported

theorem rawValue_lt (address : HdlcAddress) :
    address.rawValue.toNat < 2^(7*address.encodedSize) :=
  (le_maximumRawValue_iff address.supported).mp address.inRange

/-- What the loop returns is a value `FromRaw` accepts: seven bits arrive with each byte. -/
theorem fromBytesLoop_valid {rawValue : UInt32} {index : ℕ} {bytes : List UInt8}
    {value : UInt32} {consumed : ℕ} (hraw : rawValue.toNat < 2^(7*index))
    (h : fromBytesLoop rawValue index bytes=.ok (value,consumed)) :
    isSupportedEncodedSize consumed=true ∧ value ≤ maximumRawValue consumed := by
  induction bytes generalizing rawValue index with
  | nil => simp [fromBytesLoop] at h
  | cons byte rest ih =>
    rw [fromBytesLoop] at h
    split at h
    case isFalse => simp at h
    case isTrue hi =>
    have hnext : (appendGroup rawValue byte).toNat < 2^(7*(index+1)) := by
      have hb := byte.toNat_lt
      have hp : 2^(7*index) ≤ 2^21 := Nat.pow_le_pow_right (by decide) (by omega)
      rw [appendGroup_toNat rawValue byte (by omega),pow_group]
      omega
    split at h
    · split at h
      · rename_i hs
        simp only [Except.ok.injEq,Prod.mk.injEq] at h
        obtain ⟨rfl,rfl⟩ := h
        exact ⟨hs,(le_maximumRawValue_iff hs).mpr hnext⟩
      · simp at h
    · exact ih hnext h

/-- Read an address from the front of the bytes; the second component is `consumedSize`. -/
def fromBytes : Pointer → Except HdlcStatus (HdlcAddress × ℕ)
  | none => .error .invalidArgument
  | some data =>
    match h : fromBytesLoop 0 0 data with
    | .error status => .error status
    | .ok (rawValue,consumed) =>
      .ok (⟨rawValue,consumed,(fromBytesLoop_valid (by decide) h).1,
        (fromBytesLoop_valid (by decide) h).2⟩,consumed)

def groupByte (rawValue : UInt32) (encodedSize index : ℕ) : UInt8 :=
  let shift := (encodedSize - index - 1)*7
  let value := ((rawValue >>> UInt32.ofNat shift) &&& 0x7f).toUInt8
  if index+1=encodedSize then (value <<< 1) ||| 0x01 else value <<< 1

/-- The bytes the loop of `Encode` stores. -/
def wire (address : HdlcAddress) : List UInt8 :=
  (List.range address.encodedSize).map (groupByte address.rawValue address.encodedSize)

/-- The output buffer after a successful call, whose `writtenSize` is `encodedSize`. -/
def encode (address : HdlcAddress) (output : Pointer) (outputSize : ℕ) :
    Except HdlcStatus (List UInt8) :=
  match output with
  | none => .error .invalidArgument
  | some buffer =>
    if outputSize < address.encodedSize then .error .outputBufferTooSmall
    else .ok (address.wire ++ buffer.drop address.encodedSize)

theorem encode_error {address : HdlcAddress} {output : Pointer} {outputSize : ℕ}
    {status : HdlcStatus} (h : address.encode output outputSize=.error status) :
    status≠.informationFieldTooLarge := by
  unfold encode at h
  repeat' split at h
  all_goals cases h
  · decide
  · decide

@[simp] theorem wire_length (address : HdlcAddress) :
    address.wire.length=address.encodedSize := by simp [wire]

theorem encode_of_le {address : HdlcAddress} {outputSize : ℕ}
    (h : address.encodedSize ≤ outputSize) (buffer : List UInt8) :
    address.encode (some buffer) outputSize=
      .ok (address.wire ++ buffer.drop address.encodedSize) := by
  simp [encode,Nat.not_lt.mpr h]

theorem groupByte_toNat {rawValue : UInt32} {encodedSize index : ℕ}
    (hsize : encodedSize ≤ 4) (hindex : index < encodedSize) :
    (groupByte rawValue encodedSize index).toNat=
      rawValue.toNat/2^(7*(encodedSize-index-1))%128*2 +
        if index+1=encodedSize then 1 else 0 := by
  have hshift : (UInt32.ofNat ((encodedSize-index-1)*7)).toNat%32=7*(encodedSize-index-1) := by
    rw [UInt32.toNat_ofNat']
    omega
  have hand : ∀ n : ℕ, n &&& 127=n%128 := fun n => Nat.and_two_pow_sub_one_eq_mod n 7
  have hvalue : ((rawValue >>> UInt32.ofNat ((encodedSize-index-1)*7)) &&& 0x7f).toUInt8.toNat=
      rawValue.toNat/2^(7*(encodedSize-index-1))%128 := by
    rw [UInt32.toNat_toUInt8,UInt32.toNat_and,UInt32.toNat_shiftRight,hshift,
      Nat.shiftRight_eq_div_pow]
    change ((_ &&& 127)%256)=_
    rw [hand]
    omega
  have hdouble : (((rawValue >>> UInt32.ofNat ((encodedSize-index-1)*7)) &&& 0x7f).toUInt8
      <<< 1).toNat=rawValue.toNat/2^(7*(encodedSize-index-1))%128*2 := by
    rw [UInt8.toNat_shiftLeft,hvalue]
    change (_ <<< 1)%256=_
    rw [Nat.shiftLeft_eq]
    omega
  unfold groupByte
  split
  · rw [UInt8.toNat_or,hdouble]
    change (_ ||| 1)=_
    rw [show ∀ n : ℕ, n*2=n <<< 1 from fun n => (Nat.shiftLeft_eq n 1).symm,
      ← Nat.shiftLeft_add_eq_or_of_lt (by decide : 1 < 2^1)]
  · exact hdouble

theorem groupByte_last (rawValue : UInt32) {encodedSize index : ℕ}
    (hsize : encodedSize ≤ 4) (hindex : index < encodedSize) :
    groupByte rawValue encodedSize index &&& 0x01 ≠ 0 ↔ index+1=encodedSize := by
  have hbit : (groupByte rawValue encodedSize index &&& 0x01).toNat=
      if index+1=encodedSize then 1 else 0 := by
    rw [UInt8.toNat_and]
    change (_ &&& 1)=_
    rw [Nat.and_one_is_mod,groupByte_toNat hsize hindex]
    split <;> omega
  rw [ne_eq,← UInt8.toNat_inj,hbit]
  split <;> simp_all

/-- The accumulator holds the groups before `index`; one more byte brings in the next one. -/
theorem appendGroup_groupByte {rawValue acc : UInt32} {encodedSize count index : ℕ}
    (hsize : encodedSize ≤ 4) (hraw : rawValue.toNat < 2^(7*encodedSize))
    (hindex : index+(count+1)=encodedSize) (hacc : acc.toNat=rawValue.toNat/2^(7*(count+1))) :
    (appendGroup acc (groupByte rawValue encodedSize index)).toNat=rawValue.toNat/2^(7*count) := by
  have hbound : acc.toNat < 2^21 := by
    rw [hacc]
    apply Nat.div_lt_of_lt_mul
    rw [← Nat.pow_add]
    have he : 7*encodedSize ≤ 7*(count+1)+21 := by omega
    exact Nat.lt_of_lt_of_le hraw (Nat.pow_le_pow_right Nat.two_pos he)
  rw [appendGroup_toNat _ _ (by omega),groupByte_toNat hsize (by omega),hacc,
    show encodedSize-index-1=count by omega,pow_group,← Nat.div_div_eq_div_mul]
  split <;> omega

theorem fromBytesLoop_wire {rawValue : UInt32} {encodedSize : ℕ} (tail : List UInt8)
    (hs : isSupportedEncodedSize encodedSize=true) (hsize : encodedSize ≤ 4)
    (hraw : rawValue.toNat < 2^(7*encodedSize)) (count : ℕ) (acc : UInt32) (index : ℕ)
    (hindex : index+(count+1)=encodedSize) (hacc : acc.toNat=rawValue.toNat/2^(7*(count+1))) :
    fromBytesLoop acc index
      ((List.range' index (count+1)).map (groupByte rawValue encodedSize) ++ tail)=
        .ok (rawValue,encodedSize) := by
  have hlast := groupByte_last rawValue hsize (by omega : index < encodedSize)
  have hnext := appendGroup_groupByte hsize hraw hindex hacc
  rw [List.range'_succ,List.map_cons,List.cons_append,fromBytesLoop,if_pos (by omega)]
  cases count with
  | zero =>
    have hfull : appendGroup acc (groupByte rawValue encodedSize index)=rawValue := by
      rw [← UInt32.toNat_inj,hnext]
      simp
    have he : index+1=encodedSize := by omega
    rw [if_pos (hlast.mpr he),he,if_pos hs,hfull]
  | succ count =>
    rw [if_neg (fun h => by have := hlast.mp h; omega)]
    exact fromBytesLoop_wire tail hs hsize hraw count _ _ (by omega) hnext

/-- `FromBytes` reads back what `Encode` stored, whatever follows. -/
theorem fromBytes_wire (address : HdlcAddress) (tail : List UInt8) :
    fromBytes (some (address.wire ++ tail))=.ok (address,address.encodedSize) := by
  have hsize : address.encodedSize ≤ 4 := by have := address.encodedSize_cases; omega
  obtain ⟨count,hcount⟩ : ∃ count, address.encodedSize=count+1 :=
    ⟨address.encodedSize-1,by have := address.encodedSize_cases; omega⟩
  have hloop := fromBytesLoop_wire tail address.supported hsize address.rawValue_lt count 0 0
    (by omega) (by
      rw [← hcount,Nat.div_eq_of_lt address.rawValue_lt]
      rfl)
  rw [← hcount,← List.range_eq_range'] at hloop
  simp only [fromBytes,wire]
  split
  · rename_i h
    rw [hloop] at h
    cases h
  · rename_i h
    rw [hloop] at h
    cases h
    rfl

end HdlcAddress
end DlmsHdlc
