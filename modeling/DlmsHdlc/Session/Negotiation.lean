import DlmsHdlc.Types

/-! The parameters of SNRM and UA: their TLV block, its parser, and the negotiation rule. -/
namespace DlmsHdlc

def kDefaultMaxInfoFieldLength : UInt64 := 128
def kDefaultWindowSize : UInt8 := 1

/-- Local capabilities before, agreed values after a negotiation. -/
structure HdlcSessionNegotiationLimits where
  maxInformationFieldLengthTransmit : UInt64
  maxInformationFieldLengthReceive : UInt64
  windowSizeTransmit : UInt8
  windowSizeReceive : UInt8
  deriving DecidableEq, Repr

def defaultHdlcSessionNegotiationLimits : HdlcSessionNegotiationLimits where
  maxInformationFieldLengthTransmit := kDefaultMaxInfoFieldLength
  maxInformationFieldLengthReceive := kDefaultMaxInfoFieldLength
  windowSizeTransmit := kDefaultWindowSize
  windowSizeReceive := kDefaultWindowSize

def isDefaultNegotiationLimits (l : HdlcSessionNegotiationLimits) : Bool :=
  l == defaultHdlcSessionNegotiationLimits

/-- The constructor of a session replaces zero fields by the protocol defaults. -/
def HdlcSessionNegotiationLimits.normalised (l : HdlcSessionNegotiationLimits) :
    HdlcSessionNegotiationLimits where
  maxInformationFieldLengthTransmit := if l.maxInformationFieldLengthTransmit=0 then
    kDefaultMaxInfoFieldLength else l.maxInformationFieldLengthTransmit
  maxInformationFieldLengthReceive := if l.maxInformationFieldLengthReceive=0 then
    kDefaultMaxInfoFieldLength else l.maxInformationFieldLengthReceive
  windowSizeTransmit := if l.windowSizeTransmit=0 then kDefaultWindowSize else l.windowSizeTransmit
  windowSizeReceive := if l.windowSizeReceive=0 then kDefaultWindowSize else l.windowSizeReceive

/-- Tags 05h to 08h, all from the view of the primary. -/
structure SnrmParams where
  maxInfoTx : UInt64
  maxInfoRx : UInt64
  windowTx : UInt32
  windowRx : UInt32
  deriving DecidableEq, Repr

def defaultSnrmParams : SnrmParams where
  maxInfoTx := kDefaultMaxInfoFieldLength
  maxInfoRx := kDefaultMaxInfoFieldLength
  windowTx := kDefaultWindowSize.toUInt32
  windowRx := kDefaultWindowSize.toUInt32

def parseBeValue (data : List UInt8) : UInt32 :=
  data.foldl (fun result byte => (result <<< 8) ||| byte.toUInt32) 0

/-- The `switch` over the tag. -/
def SnrmParams.set (params : SnrmParams) (tag : UInt8) (value : UInt32) : Option SnrmParams :=
  if tag=0x05 then some { params with maxInfoTx := value.toUInt64 }
  else if tag=0x06 then some { params with maxInfoRx := value.toUInt64 }
  else if tag=0x07 then some { params with windowTx := value }
  else if tag=0x08 then some { params with windowRx := value }
  else none

/-- The `while` loop over the group; the first `skip` bytes belong to the value just read. -/
def parseParameters (params : SnrmParams) : ℕ → List UInt8 → Except HdlcStatus SnrmParams
  | _,[] => .ok params
  | skip+1,_::rest => parseParameters params skip rest
  | 0,[_] => .error .invalidFrameFormat
  | 0,tag::valLen::rest =>
    if valLen.toNat=0 ∨ 4 < valLen.toNat ∨ rest.length < valLen.toNat then
      .error .invalidFrameFormat
    else
      match params.set tag (parseBeValue (rest.take valLen.toNat)) with
      | none => .error .unsupportedFeature
      | some params => parseParameters params valLen.toNat rest

/-- The parameters and `negotiationConsumed`, the size of the negotiation block. -/
def parseSnrmInfoField (data : List UInt8) : Except HdlcStatus (SnrmParams × ℕ) :=
  if data.length=0 then .ok (defaultSnrmParams,0)
  else if data.length < 3 ∨ data.getD 0 0≠0x81 ∨ data.getD 1 0≠0x80 then .ok (defaultSnrmParams,0)
  else
    let groupLen := (data.getD 2 0).toNat
    if data.length < 3+groupLen then .error .invalidFrameFormat
    else
      match parseParameters defaultSnrmParams 0 ((data.drop 3).take groupLen) with
      | .error status => .error status
      | .ok params => .ok (params,3+groupLen)

/-- Always 23 bytes: two-byte lengths, and windows of which only the last of four bytes is used. -/
def encodeSnrmNegotiationBlock (params : SnrmParams) : List UInt8 :=
  [0x81,0x80,0x14,
    0x05,0x02,((params.maxInfoTx >>> 8) &&& 0xff).toUInt8,(params.maxInfoTx &&& 0xff).toUInt8,
    0x06,0x02,((params.maxInfoRx >>> 8) &&& 0xff).toUInt8,(params.maxInfoRx &&& 0xff).toUInt8,
    0x07,0x04,0x00,0x00,0x00,(params.windowTx &&& 0xff).toUInt8,
    0x08,0x04,0x00,0x00,0x00,(params.windowRx &&& 0xff).toUInt8]

/-- What the primary transmits is bounded by the local receive capability, and vice versa. -/
def negotiateParams (proposed : SnrmParams) (limits : HdlcSessionNegotiationLimits) :
    SnrmParams where
  maxInfoTx := min proposed.maxInfoTx limits.maxInformationFieldLengthReceive
  maxInfoRx := min proposed.maxInfoRx limits.maxInformationFieldLengthTransmit
  windowTx := min proposed.windowTx limits.windowSizeReceive.toUInt32
  windowRx := min proposed.windowRx limits.windowSizeTransmit.toUInt32

@[simp] theorem encodeSnrmNegotiationBlock_length (params : SnrmParams) :
    (encodeSnrmNegotiationBlock params).length=23 := rfl

lemma or_byte_toNat {result : UInt32} {byte : UInt8} (h : result.toNat < 2^24) :
    ((result <<< 8) ||| byte.toUInt32).toNat=result.toNat*256+byte.toNat := by
  have hb := byte.toNat_lt
  rw [UInt32.toNat_or,UInt32.toNat_shiftLeft,UInt8.toNat_toUInt32]
  change (result.toNat <<< 8 % 2^32 ||| _)=_
  rw [Nat.mod_eq_of_lt (by rw [Nat.shiftLeft_eq]; omega),
    ← Nat.shiftLeft_add_eq_or_of_lt (by omega),Nat.shiftLeft_eq]

theorem parseBeValue_two (high low : UInt8) :
    (parseBeValue [high,low]).toNat=high.toNat*256+low.toNat := by
  have hh := high.toNat_lt
  have hone : ((0 : UInt32) <<< 8 ||| high.toUInt32).toNat=high.toNat := by
    rw [or_byte_toNat (by decide)]
    change 0*256+_=_
    omega
  change (((0 : UInt32) <<< 8 ||| high.toUInt32) <<< 8 ||| low.toUInt32).toNat=_
  rw [or_byte_toNat (by omega),hone]

theorem parseBeValue_last (low : UInt8) : parseBeValue [0,0,0,low]=low.toUInt32 := by
  rw [← UInt32.toNat_inj]
  change ((0 : UInt32) <<< 8 ||| low.toUInt32).toNat=_
  rw [or_byte_toNat (by decide),UInt8.toNat_toUInt32]
  change 0*256+_=_
  omega

lemma uint64_bytes_toNat (value : UInt64) :
    ((value >>> 8) &&& 0xff).toUInt8.toNat=value.toNat/256%256 ∧
    (value &&& 0xff).toUInt8.toNat=value.toNat%256 := by
  have hand : ∀ n : ℕ, n &&& 255=n%256 := fun n => Nat.and_two_pow_sub_one_eq_mod n 8
  constructor
  · rw [UInt64.toNat_toUInt8,UInt64.toNat_and,UInt64.toNat_shiftRight]
    change (value.toNat >>> 8 &&& 255)%256=_
    rw [hand,Nat.shiftRight_eq_div_pow]
    omega
  · rw [UInt64.toNat_toUInt8,UInt64.toNat_and]
    change (value.toNat &&& 255)%256=_
    rw [hand]
    omega

/-- The two-byte coding keeps the low half of a length. -/
theorem parseBeValue_length (value : UInt64) :
    (parseBeValue [((value >>> 8) &&& 0xff).toUInt8,(value &&& 0xff).toUInt8]).toUInt64=
      value%65536 := by
  obtain ⟨hhigh,hlow⟩ := uint64_bytes_toNat value
  rw [← UInt64.toNat_inj,UInt32.toNat_toUInt64,parseBeValue_two,hhigh,hlow,UInt64.toNat_mod]
  change _=value.toNat%65536
  omega

theorem parseBeValue_window {value : UInt32} (h : value.toNat ≤ 255) :
    parseBeValue [0,0,0,(value &&& 0xff).toUInt8]=value := by
  rw [parseBeValue_last,← UInt32.toNat_inj,UInt8.toNat_toUInt32,UInt32.toNat_toUInt8,
    UInt32.toNat_and]
  change (value.toNat &&& 2^8-1)%256=_
  rw [Nat.and_two_pow_sub_one_eq_mod]
  omega

/-- What is left of parameters in the block. -/
def SnrmParams.coded (params : SnrmParams) : SnrmParams :=
  { params with maxInfoTx := params.maxInfoTx%65536, maxInfoRx := params.maxInfoRx%65536 }

/-- The block is read back up to the coding, whatever user information follows it. -/
theorem parseSnrmInfoField_coded {params : SnrmParams} (hwtx : params.windowTx.toNat ≤ 255)
    (hwrx : params.windowRx.toNat ≤ 255) (userInformation : List UInt8) :
    parseSnrmInfoField (encodeSnrmNegotiationBlock params ++ userInformation)=
      .ok (params.coded,23) := by
  have hloop : parseParameters defaultSnrmParams 0 ((encodeSnrmNegotiationBlock params).drop 3)=
      .ok params.coded := by
    change Except.ok (SnrmParams.mk
      (parseBeValue [((params.maxInfoTx >>> 8) &&& 0xff).toUInt8,
        (params.maxInfoTx &&& 0xff).toUInt8]).toUInt64
      (parseBeValue [((params.maxInfoRx >>> 8) &&& 0xff).toUInt8,
        (params.maxInfoRx &&& 0xff).toUInt8]).toUInt64
      (parseBeValue [0,0,0,(params.windowTx &&& 0xff).toUInt8])
      (parseBeValue [0,0,0,(params.windowRx &&& 0xff).toUInt8]))=_
    rw [parseBeValue_length,parseBeValue_length,parseBeValue_window hwtx,parseBeValue_window hwrx]
    rfl
  have hgroup : ((encodeSnrmNegotiationBlock params ++ userInformation).drop 3).take 20=
      (encodeSnrmNegotiationBlock params).drop 3 := by
    rw [List.drop_append_of_le_length (by rw [encodeSnrmNegotiationBlock_length]; omega),
      List.take_left']
    rfl
  have hlength : (encodeSnrmNegotiationBlock params ++ userInformation).length=
      23+userInformation.length := by
    rw [List.length_append,encodeSnrmNegotiationBlock_length]
  have htwenty : (((encodeSnrmNegotiationBlock params ++ userInformation).getD 2 0)).toNat=20 := rfl
  unfold parseSnrmInfoField
  rw [if_neg (by omega),if_neg]
  · dsimp only
    rw [htwenty,if_neg (by omega),hgroup,hloop]
  · rw [hlength]
    rintro (h | h | h)
    · omega
    · exact h rfl
    · exact h rfl

/-- A length up to 65535 survives. -/
theorem coded_length {value : UInt64} (h : value.toNat ≤ 65535) : value%65536=value := by
  rw [← UInt64.toNat_inj,UInt64.toNat_mod]
  exact Nat.mod_eq_of_lt (Nat.lt_succ_of_le h)

/-- Then the block is read back exactly. -/
theorem parseSnrmInfoField_encode {params : SnrmParams} (htx : params.maxInfoTx.toNat ≤ 65535)
    (hrx : params.maxInfoRx.toNat ≤ 65535) (hwtx : params.windowTx.toNat ≤ 255)
    (hwrx : params.windowRx.toNat ≤ 255) (userInformation : List UInt8) :
    parseSnrmInfoField (encodeSnrmNegotiationBlock params ++ userInformation)=.ok (params,23) := by
  have hcoded : params.coded=params := by
    rw [SnrmParams.coded,coded_length htx,coded_length hrx]
  rw [parseSnrmInfoField_coded hwtx hwrx,hcoded]

theorem parseParameters_error {params : SnrmParams} {skip : ℕ} {group : List UInt8}
    {status : HdlcStatus} (h : parseParameters params skip group=.error status) : status≠.ok := by
  fun_induction parseParameters params skip group with
  | case1 => cases h
  | case2 params skip byte rest ih => exact ih h
  | case3 =>
    cases h
    decide
  | case4 =>
    cases h
    decide
  | case5 =>
    cases h
    decide
  | case6 params tag valLen rest hlength next hset ih => exact ih h

theorem parseSnrmInfoField_error {data : List UInt8} {status : HdlcStatus}
    (h : parseSnrmInfoField data=.error status) : status≠.ok := by
  unfold parseSnrmInfoField at h
  dsimp only at h
  repeat' split at h
  all_goals cases h
  · decide
  · rename_i hparsed
    exact parseParameters_error hparsed

end DlmsHdlc
