import DlmsHdlc.Library.Machine
import DlmsHdlc.Types

/-! The reassembler of the Go implementation, over its own frame type. Go's `uint` is 64 bits wide,
its statuses are those of the C++ library, and `nil` is the error of a completed frame. -/
namespace DlmsHdlc.Go
open Machine

structure Address where
  rawValue : UInt32
  encodedSize : UInt64
  deriving DecidableEq, Repr, Inhabited

/-- `ControlFromRaw` builds a control from any byte. -/
structure Control where
  raw : UInt8
  deriving DecidableEq, Repr, Inhabited

inductive FrameKind
  | information
  | supervisory
  | unnumbered
  deriving DecidableEq, Repr

def Control.frameKind (c : Control) : FrameKind :=
  if c.raw &&& 0x01=0 then .information
  else if c.raw &&& 0x03=0x01 then .supervisory
  else .unnumbered

/-- A `nil` Information slice and an empty one are both the empty list. -/
structure Frame where
  segmented : Bool
  destination : Address
  source : Address
  control : Control
  information : List UInt8
  deriving DecidableEq, Repr, Inhabited

structure CodecLimits where
  maximumFrameSize : UInt64
  maximumInformationFieldSize : UInt64
  maximumReassembledInformationSize : UInt64
  deriving DecidableEq, Repr

def effectiveMaximumReassembledInformationSize (limits : CodecLimits) : UInt64 :=
  if limits.maximumReassembledInformationSize=0 then 65535
  else limits.maximumReassembledInformationSize

def sameAddress (a b : Address) : Bool :=
  a.rawValue == b.rawValue && a.encodedSize == b.encodedSize

structure Reassembler where
  limits : CodecLimits
  hasPending : Bool
  pending : Frame
  deriving DecidableEq, Repr

namespace Reassembler

def newReassembler (limits : CodecLimits) : Reassembler := ⟨limits,false,default⟩

def reset (r : Reassembler) : Reassembler := { r with hasPending := false, pending := default }

/-- Same addresses and frame kind as the pending sequence. -/
def continues (r : Reassembler) (frame : Frame) : Bool :=
  sameAddress r.pending.destination frame.destination &&
    sameAddress r.pending.source frame.source &&
    r.pending.control.frameKind == frame.control.frameKind

/-- The three results of the source are a completed frame without error, or an error. -/
def push (r : Reassembler) (frame : Frame) : Except HdlcStatus Frame × Reassembler :=
  let maxReassembled := effectiveMaximumReassembledInformationSize r.limits
  if !r.hasPending then
    if maxReassembled < .ofNat frame.information.length then (.error .segmentationOverflow,r)
    else if !frame.segmented then (.ok frame,r)
    else (.error .segmentationIncomplete,{ r with pending := frame, hasPending := true })
  else if !r.continues frame then (.error .segmentationError,r.reset)
  else if maxReassembled - .ofNat frame.information.length < .ofNat r.pending.information.length then
    (.error .segmentationOverflow,r.reset)
  else
    let pending := { r.pending with information := r.pending.information ++ frame.information }
    if frame.segmented then (.error .segmentationIncomplete,{ r with pending := pending })
    else (.ok { pending with segmented := false },r.reset)

/-- Successive `Push` calls. -/
def machine : Mealy Reassembler Frame (Except HdlcStatus Frame) := ⟨push⟩

@[simp] theorem machine_step (r : Reassembler) (frame : Frame) :
    machine.step r frame=r.push frame := rfl

end Reassembler
end DlmsHdlc.Go
