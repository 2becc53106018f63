import DlmsHdlc.Types

/-! The control byte: frame kinds, commands and three-bit sequence numbers. -/
namespace DlmsHdlc

inductive HdlcFrameKind
  | information
  | supervisory
  | unnumbered
  deriving DecidableEq, Repr

inductive HdlcSupervisoryKind
  | receiveReady
  | receiveNotReady
  | reject
  | selectiveReject
  deriving DecidableEq, Repr

inductive HdlcUnnumberedKind
  | snrm
  | ua
  | disc
  | dm
  | frmr
  | ui
  deriving DecidableEq, Repr

/-- The commands and responses are compared with the Poll/Final bit masked out. -/
def isSupportedUnnumbered (value : UInt8) : Bool :=
  [0x83,0x63,0x43,0x0f,0x87,0x03].contains (value &&& 0xef)

/-- The bytes `HdlcControl::Decode` accepts. -/
def isSupportedControl (value : UInt8) : Bool :=
  value &&& 0x01 == 0 || value &&& 0x03 == 0x01 || isSupportedUnnumbered value

/-- The raw byte is private in the source: only `Decode` and the default constructor set it. -/
structure HdlcControl where
  rawValue : UInt8
  supported : isSupportedControl rawValue=true
  deriving DecidableEq, Repr

namespace HdlcControl

instance : Inhabited HdlcControl := ⟨⟨0,by decide⟩⟩

def decode (value : UInt8) : Except HdlcStatus HdlcControl :=
  if h : isSupportedControl value=true then .ok ⟨value,h⟩ else .error .invalidControlField

/-- `Encode` always succeeds. -/
def encode (control : HdlcControl) : UInt8 := control.rawValue

def frameKind (control : HdlcControl) : HdlcFrameKind :=
  if control.rawValue &&& 0x01=0 then .information
  else if control.rawValue &&& 0x03=0x01 then .supervisory
  else .unnumbered

def pollFinal (control : HdlcControl) : Bool := control.rawValue &&& 0x10 != 0

def supervisoryKind (control : HdlcControl) : Except HdlcStatus HdlcSupervisoryKind :=
  if control.frameKind≠.supervisory then .error .invalidFrameType
  else
    let kind := (control.rawValue >>> 2) &&& 0x03
    if kind=0 then .ok .receiveReady
    else if kind=1 then .ok .receiveNotReady
    else if kind=2 then .ok .reject
    else if kind=3 then .ok .selectiveReject
    else .error .invalidControlField

def unnumberedKind (control : HdlcControl) : Except HdlcStatus HdlcUnnumberedKind :=
  if control.frameKind≠.unnumbered then .error .invalidFrameType
  else
    let kind := control.rawValue &&& 0xef
    if kind=0x83 then .ok .snrm
    else if kind=0x63 then .ok .ua
    else if kind=0x43 then .ok .disc
    else if kind=0x0f then .ok .dm
    else if kind=0x87 then .ok .frmr
    else if kind=0x03 then .ok .ui
    else .error .invalidControlField

/-- `N(S)`, zero for the kinds without it. -/
def sendSequence (control : HdlcControl) : UInt8 :=
  if control.frameKind≠.information then 0 else (control.rawValue >>> 1) &&& 0x07

/-- `N(R)`, zero for the kind without it. -/
def receiveSequence (control : HdlcControl) : UInt8 :=
  if control.frameKind=.unnumbered then 0 else (control.rawValue >>> 5) &&& 0x07

@[simp] theorem decode_encode (control : HdlcControl) : decode control.encode=.ok control := by
  simp [decode,encode,control.supported]

theorem decode_error {value : UInt8} {status : HdlcStatus} (h : decode value=.error status) :
    status=.invalidControlField := by
  unfold decode at h
  split at h <;> cases h
  rfl

theorem frameKind_of_unnumberedKind {control : HdlcControl} {kind : HdlcUnnumberedKind}
    (h : control.unnumberedKind=.ok kind) : control.frameKind=.unnumbered := by
  by_contra hkind
  rw [unnumberedKind,if_pos hkind] at h
  cases h

theorem unnumberedKind_of_ne {control : HdlcControl} (h : control.frameKind≠.unnumbered) :
    control.unnumberedKind=.error .invalidFrameType := by
  rw [unnumberedKind,if_pos h]

theorem unnumberedKind_error {control : HdlcControl} {status : HdlcStatus}
    (h : control.unnumberedKind=.error status) : status≠.ok := by
  unfold unnumberedKind at h
  dsimp only at h
  repeat' split at h
  all_goals cases h
  all_goals decide

lemma and_seven_toNat (value : UInt8) : (value &&& 0x07).toNat=value.toNat%8 := by
  rw [UInt8.toNat_and]
  exact Nat.and_two_pow_sub_one_eq_mod value.toNat 3

lemma and_seven_lt (value : UInt8) : (value &&& 0x07).toNat < 8 := by
  rw [and_seven_toNat]
  exact Nat.mod_lt _ (by decide)

/-- `supervisoryKind` covers the two-bit field, so it fails for the other kinds only. -/
theorem supervisoryKind_isOk {control : HdlcControl} (h : control.frameKind=.supervisory) :
    ∃ kind, control.supervisoryKind=.ok kind := by
  have hlt : ((control.rawValue >>> 2) &&& 0x03).toNat < 4 := by
    rw [UInt8.toNat_and]
    exact Nat.lt_of_le_of_lt Nat.and_le_right (by decide)
  unfold supervisoryKind
  rw [if_neg (by simp [h])]
  simp only [← UInt8.toNat_inj]
  generalize ((control.rawValue >>> 2) &&& 0x03).toNat=n at hlt
  match n,hlt with
  | 0,_ => exact ⟨_,rfl⟩
  | 1,_ => exact ⟨_,rfl⟩
  | 2,_ => exact ⟨_,rfl⟩
  | 3,_ => exact ⟨_,rfl⟩

end HdlcControl
end DlmsHdlc
