import DlmsHdlc.AddressCode
import DlmsHdlc.CApi.Completion

/-! The addresses of DLMS clients, and the server addresses of DLMS devices: a logical and a physical
device address in one of three packings. -/
namespace DlmsHdlc
namespace DlmsHdlcAddress

def makeClientAddress (clientAddress : UInt8) : Except HdlcStatus HdlcAddress :=
  if 0x7f < clientAddress then .error .invalidAddress
  else HdlcAddress.fromRaw clientAddress.toUInt32 1

def makeServerAddress (logicalDeviceAddress physicalDeviceAddress : UInt16) :
    Except HdlcStatus HdlcAddress :=
  if 0x3fff < logicalDeviceAddress ∨ 0x3fff < physicalDeviceAddress then .error .invalidAddress
  else if physicalDeviceAddress=0 ∧ logicalDeviceAddress ≤ 0x7f then
    HdlcAddress.fromRaw logicalDeviceAddress.toUInt32 1
  else if logicalDeviceAddress ≤ 0x7f ∧ physicalDeviceAddress ≤ 0x7f then
    let rawValue := (logicalDeviceAddress.toUInt32 <<< 7) ||| physicalDeviceAddress.toUInt32
    HdlcAddress.fromRaw rawValue 2
  else
    let rawValue := (logicalDeviceAddress.toUInt32 <<< 14) ||| physicalDeviceAddress.toUInt32
    HdlcAddress.fromRaw rawValue 4

/-- The raw value of two fields side by side, the lower one `width` bits wide. -/
theorem pack_toNat {logical physical : UInt16} (width : ℕ) (hwidth : width ≤ 14)
    (hlogical : logical.toNat < 2^14) (hphysical : physical.toNat < 2^width) :
    ((logical.toUInt32 <<< UInt32.ofNat width) ||| physical.toUInt32).toNat=
      logical.toNat*2^width+physical.toNat := by
  have hshift : (UInt32.ofNat width).toNat%32=width := by
    rw [UInt32.toNat_ofNat']
    omega
  have hfit : logical.toNat*2^width < 2^32 := by
    calc logical.toNat*2^width < 2^14*2^width := Nat.mul_lt_mul_of_pos_right hlogical (by positivity)
      _ ≤ 2^14*2^14 := Nat.mul_le_mul_left _ (Nat.pow_le_pow_right (by decide) hwidth)
      _ ≤ 2^32 := by decide
  rw [UInt32.toNat_or,UInt32.toNat_shiftLeft,UInt16.toNat_toUInt32,UInt16.toNat_toUInt32,hshift,
    Nat.mod_eq_of_lt (by rwa [Nat.shiftLeft_eq]),← Nat.shiftLeft_add_eq_or_of_lt hphysical,
    Nat.shiftLeft_eq]

/-- The pair an address stands for: the size tells how the bits are shared out. -/
def serverParts (address : HdlcAddress) : ℕ × ℕ :=
  if address.encodedSize=1 then (address.rawValue.toNat,0)
  else if address.encodedSize=2 then (address.rawValue.toNat/2^7,address.rawValue.toNat%2^7)
  else (address.rawValue.toNat/2^14,address.rawValue.toNat%2^14)

theorem fromRaw_of_lt (rawValue : UInt32) (encodedSize : ℕ)
    (hs : isSupportedEncodedSize encodedSize=true) (hr : rawValue.toNat < 2^(7*encodedSize)) :
    ∃ address, HdlcAddress.fromRaw rawValue encodedSize=.ok address ∧
      address.rawValue=rawValue ∧ address.encodedSize=encodedSize := by
  have hle := (HdlcAddress.le_maximumRawValue_iff hs).mpr hr
  refine ⟨⟨rawValue,encodedSize,hs,hle⟩,?_,rfl,rfl⟩
  rw [HdlcAddress.fromRaw,dif_pos hs,dif_pos hle]

/-- Every pair in range gets an address, which gives the pair back. -/
theorem makeServerAddress_parts {logical physical : UInt16} (hlogical : logical ≤ 0x3fff)
    (hphysical : physical ≤ 0x3fff) :
    ∃ address, makeServerAddress logical physical=.ok address ∧
      serverParts address=(logical.toNat,physical.toNat) := by
  have hl : logical.toNat < 2^14 := Nat.lt_succ_of_le hlogical
  have hp : physical.toNat < 2^14 := Nat.lt_succ_of_le hphysical
  rw [makeServerAddress,if_neg (not_or.mpr ⟨UInt16.not_lt.mpr hlogical,UInt16.not_lt.mpr hphysical⟩)]
  split
  case isTrue hone =>
    obtain ⟨hzero,hsmall⟩ := hone
    have hsmall : logical.toNat < 2^7 := Nat.lt_succ_of_le hsmall
    obtain ⟨address,hraw,hvalue,hsize⟩ := fromRaw_of_lt logical.toUInt32 1 rfl
      (by rwa [UInt16.toNat_toUInt32])
    refine ⟨address,hraw,?_⟩
    rw [serverParts,if_pos hsize,hvalue,UInt16.toNat_toUInt32,hzero]
    rfl
  split
  case isTrue htwo =>
    have hsmall : logical.toNat < 2^7 := Nat.lt_succ_of_le htwo.1
    have hlow : physical.toNat < 2^7 := Nat.lt_succ_of_le htwo.2
    have hpack := pack_toNat 7 (by decide) hl hlow
    obtain ⟨address,hraw,hvalue,hsize⟩ := fromRaw_of_lt _ 2 rfl (by
      rw [hpack]
      omega)
    refine ⟨address,hraw,?_⟩
    rw [serverParts,if_neg (by omega),if_pos hsize,hvalue,hpack]
    ext <;> dsimp only <;> omega
  case isFalse =>
    have hpack := pack_toNat 14 le_rfl hl hp
    obtain ⟨address,hraw,hvalue,hsize⟩ := fromRaw_of_lt _ 4 rfl (by
      rw [hpack]
      omega)
    refine ⟨address,hraw,?_⟩
    rw [serverParts,if_neg (by omega),if_neg (by omega),hvalue,hpack]
    ext <;> dsimp only <;> omega

theorem makeClientAddress_parts {client : UInt8} (hclient : client ≤ 0x7f) :
    ∃ address, makeClientAddress client=.ok address ∧ serverParts address=(client.toNat,0) := by
  have hsmall : client.toNat < 2^7 := Nat.lt_succ_of_le hclient
  obtain ⟨address,hraw,hvalue,hsize⟩ := fromRaw_of_lt client.toUInt32 1 rfl
    (by rwa [UInt8.toNat_toUInt32])
  refine ⟨address,?_,?_⟩
  · rw [makeClientAddress,if_neg (UInt8.not_lt.mpr hclient),hraw]
  · rw [serverParts,if_pos hsize,hvalue,UInt8.toNat_toUInt32]

/-- A client has the address of a device without a physical address. -/
theorem makeClientAddress_eq_makeServerAddress_iff {client : UInt8} {logical physical : UInt16}
    (hclient : client ≤ 0x7f) (hlogical : logical ≤ 0x3fff) (hphysical : physical ≤ 0x3fff) :
    makeClientAddress client=makeServerAddress logical physical ↔
      logical.toNat=client.toNat ∧ physical=0 := by
  obtain ⟨address,hmake,hparts⟩ := makeClientAddress_parts hclient
  obtain ⟨address',hmake',hparts'⟩ := makeServerAddress_parts hlogical hphysical
  constructor
  · intro h
    rw [hmake,hmake',Except.ok.injEq] at h
    rw [h,hparts',Prod.mk.injEq] at hparts
    exact ⟨hparts.1,UInt16.toNat_inj.mp hparts.2⟩
  · rintro ⟨hsame,rfl⟩
    have hsmall : logical ≤ 0x7f := by
      rw [UInt16.le_iff_toNat_le,hsame]
      exact hclient
    have hvalue : client.toUInt32=logical.toUInt32 := by
      rw [← UInt32.toNat_inj,UInt8.toNat_toUInt32,UInt16.toNat_toUInt32,hsame]
    rw [makeClientAddress,if_neg (UInt8.not_lt.mpr hclient),makeServerAddress,
      if_neg (not_or.mpr ⟨UInt16.not_lt.mpr hlogical,UInt16.not_lt.mpr hphysical⟩),
      if_pos ⟨rfl,hsmall⟩,hvalue]

end DlmsHdlcAddress
namespace Go

def makeClientAddress (clientAddr : UInt8) : Except HdlcStatus Address :=
  if 0x7f < clientAddr then .error .invalidAddress else addressFromRaw clientAddr.toUInt32 1

theorem makeClientAddress_eq (client : UInt8) :
    makeClientAddress client=(DlmsHdlcAddress.makeClientAddress client).map ofAddress := by
  rw [makeClientAddress,DlmsHdlcAddress.makeClientAddress]
  split
  · rfl
  · exact addressFromRaw_eq _ 1

def makeServerAddress (logicalAddr physicalAddr : UInt16) : Except HdlcStatus Address :=
  if 0x3fff < logicalAddr ∨ 0x3fff < physicalAddr then .error .invalidAddress
  else if physicalAddr=0 ∧ logicalAddr ≤ 0x7f then addressFromRaw logicalAddr.toUInt32 1
  else if logicalAddr ≤ 0x7f ∧ physicalAddr ≤ 0x7f then
    let raw := (logicalAddr.toUInt32 <<< 7) ||| physicalAddr.toUInt32
    addressFromRaw raw 2
  else
    let raw := (logicalAddr.toUInt32 <<< 14) ||| physicalAddr.toUInt32
    addressFromRaw raw 4

theorem makeServerAddress_eq (logical physical : UInt16) :
    makeServerAddress logical physical=
      (DlmsHdlcAddress.makeServerAddress logical physical).map ofAddress := by
  rw [makeServerAddress,DlmsHdlcAddress.makeServerAddress]
  split
  · rfl
  split
  · exact addressFromRaw_eq _ 1
  split
  · exact addressFromRaw_eq _ 2
  · exact addressFromRaw_eq _ 4

end Go
namespace DlmsHdlcAddress

/-- The pair can be read off the line, whatever follows the address on it: no two pairs share an
address, in either implementation. -/
theorem makeServerAddress_unique {logical physical logical' physical' : UInt16}
    (hlogical : logical ≤ 0x3fff) (hphysical : physical ≤ 0x3fff)
    (hlogical' : logical' ≤ 0x3fff) (hphysical' : physical' ≤ 0x3fff) (tail tail' : List UInt8) :
    ∃ address address',
      makeServerAddress logical physical=.ok address ∧
      makeServerAddress logical' physical'=.ok address' ∧
      Go.makeServerAddress logical physical=.ok (Go.ofAddress address) ∧
      HdlcAddress.fromBytes (some (address.wire ++ tail))=.ok (address,address.encodedSize) ∧
      HdlcAddress.fromBytes (some (address'.wire ++ tail'))=.ok (address',address'.encodedSize) ∧
      (address=address' ↔ logical=logical' ∧ physical=physical') ∧
      (address.wire ++ tail=address'.wire ++ tail' →
        logical=logical' ∧ physical=physical' ∧ tail=tail') := by
  obtain ⟨address,hmake,hparts⟩ := makeServerAddress_parts hlogical hphysical
  obtain ⟨address',hmake',hparts'⟩ := makeServerAddress_parts hlogical' hphysical'
  have hpair (h : address=address') : logical=logical' ∧ physical=physical' := by
    rw [h,hparts'] at hparts
    injection hparts with hl hp
    exact ⟨UInt16.toNat_inj.mp hl.symm,UInt16.toNat_inj.mp hp.symm⟩
  refine ⟨address,address',hmake,hmake',?_,address.fromBytes_wire tail,
    address'.fromBytes_wire tail',⟨hpair,?_⟩,?_⟩
  · rw [Go.makeServerAddress_eq,hmake]
    rfl
  · rintro ⟨rfl,rfl⟩
    rw [hmake] at hmake'
    injection hmake'
  · intro hline
    obtain ⟨haddress,htail⟩ := HdlcAddress.code.encode_append hline
    obtain ⟨hl,hp⟩ := hpair haddress
    exact ⟨hl,hp,htail⟩

/-- Device 1 without a physical address and device 1 with the physical address 2. -/
theorem makeServerAddress_unique_sample : ∃ address address',
    makeServerAddress 1 0=.ok address ∧ makeServerAddress 1 2=.ok address' ∧ address≠address' := by
  obtain ⟨address,address',hmake,hmake',_,_,_,hiff,_⟩ := @makeServerAddress_unique 1 0 1 2 (by decide)
    (by decide) (by decide) (by decide) [] []
  refine ⟨address,address',hmake,hmake',fun h => ?_⟩
  exact absurd (hiff.mp h).2 (by decide)

end DlmsHdlcAddress
end DlmsHdlc
