import Mathlib

/-! Status codes, codec limits and pointer arguments shared by every public call. -/
namespace DlmsHdlc

/-- Result code of all public calls; the order is that of the stable numeric values. -/
inductive HdlcStatus
  | ok
  | needMoreData
  | outputBufferTooSmall
  | invalidArgument
  | invalidFlag
  | invalidFrameFormat
  | invalidFrameType
  | invalidFrameLength
  | invalidAddress
  | invalidControlField
  | invalidHeaderChecksum
  | invalidFrameChecksum
  | frameTooLarge
  | informationFieldTooLarge
  | segmentationError
  | segmentationIncomplete
  | segmentationOverflow
  | unsupportedFrame
  | unsupportedAddress
  | unsupportedFeature
  | internalError
  deriving DecidableEq, Repr

/-- Runtime limits; a zero field means the codec default. `std::size_t` is 64 bits wide. -/
structure HdlcCodecLimits where
  maximumFrameSize : UInt64
  maximumInformationFieldSize : UInt64
  maximumReassembledInformationSize : UInt64
  deriving DecidableEq, Repr

def defaultHdlcCodecLimits : HdlcCodecLimits where
  maximumFrameSize := 2049
  maximumInformationFieldSize := 0
  maximumReassembledInformationSize := 65535

/-- The codec and the stream decoder each hold a private copy of this function. -/
def effectiveMaximumFrameSize (limits : HdlcCodecLimits) : UInt64 :=
  if limits.maximumFrameSize = 0 then 2049 else limits.maximumFrameSize

/-- A `const std::uint8_t*` argument: `none` is the null pointer, `some bytes` points at
`bytes`. The size that goes with it is a separate argument, as in the source. -/
abbrev Pointer := Option (List UInt8)

/-- The first `size` bytes behind a pointer. -/
def Pointer.read (data : Pointer) (size : ℕ) : List UInt8 := (data.getD []).take size

/-- Null, or good for that many bytes. -/
def Pointer.Valid (data : Pointer) (size : ℕ) : Prop := ∀ bytes, data=some bytes → size ≤ bytes.length

@[simp] theorem Pointer.read_none (size : ℕ) : Pointer.read none size=[] := by
  simp [Pointer.read]

@[simp] theorem Pointer.read_some (bytes : List UInt8) (size : ℕ) :
    Pointer.read (some bytes) size=bytes.take size := rfl

/-- The status a fallible call reports. -/
def statusOf {α : Type*} : Except HdlcStatus α → HdlcStatus
  | .ok _ => .ok
  | .error status => status

@[simp] theorem statusOf_ok {α : Type*} (a : α) : statusOf (.ok a)=.ok := rfl
@[simp] theorem statusOf_error {α : Type*} (status : HdlcStatus) :
    statusOf (.error status : Except HdlcStatus α)=status := rfl

theorem toOption_eq_some_iff {α : Type*} {result : Except HdlcStatus α} {a : α} :
    result.toOption=some a ↔ result=.ok a := by
  cases result <;> simp [Except.toOption]

/-- A check that reports an error has let a successful call through. -/
theorem ite_error_eq_ok {α : Type*} {p : Prop} [Decidable p] {status : HdlcStatus}
    {rest : Except HdlcStatus α} {a : α} :
    (if p then .error status else rest)=.ok a ↔ ¬p ∧ rest=.ok a := by
  by_cases hp : p <;> simp [hp]

theorem effectiveMaximumFrameSize_ne_zero (limits : HdlcCodecLimits) :
    effectiveMaximumFrameSize limits≠0 := by
  unfold effectiveMaximumFrameSize
  split
  · decide
  · assumption

end DlmsHdlc
