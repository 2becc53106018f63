import DlmsHdlc.Address
import DlmsHdlc.Control

/-! The two frame types: a view of caller-owned Information bytes and an owning container. -/
namespace DlmsHdlc

/-- Non-owning frame view, as the encoder and the strict decoder take it. -/
structure HdlcFrame where
  segmented : Bool
  destination : HdlcAddress
  source : HdlcAddress
  control : HdlcControl
  informationData : Pointer
  informationSize : UInt64
  deriving DecidableEq, Repr, Inhabited

/-- Owning frame container, as the stream decoder and the reassembler produce it. -/
structure HdlcFrameBuffer where
  segmented : Bool
  destination : HdlcAddress
  source : HdlcAddress
  control : HdlcControl
  information : List UInt8
  deriving DecidableEq, Repr, Inhabited

namespace HdlcFrame

/-- The Information bytes a frame view describes. -/
def information (frame : HdlcFrame) : List UInt8 :=
  frame.informationData.read frame.informationSize.toNat

/-- The contract of the type: the pointer is null with size zero or good for the whole size,
and no object is larger than `PTRDIFF_MAX`. -/
structure WellFormed (frame : HdlcFrame) : Prop where
  size_lt : frame.informationSize.toNat < 2^63
  size_eq : frame.information.length=frame.informationSize.toNat

/-- The owning frame with the same fields and Information bytes. -/
def toBuffer (frame : HdlcFrame) : HdlcFrameBuffer where
  segmented := frame.segmented
  destination := frame.destination
  source := frame.source
  control := frame.control
  information := frame.information

end HdlcFrame

namespace HdlcFrameBuffer

/-- The view of an owning frame: `information.data()` and `information.size()`. -/
def view (frame : HdlcFrameBuffer) : HdlcFrame where
  segmented := frame.segmented
  destination := frame.destination
  source := frame.source
  control := frame.control
  informationData := if frame.information.isEmpty then none else some frame.information
  informationSize := .ofNat frame.information.length

lemma view_information (frame : HdlcFrameBuffer) (h : frame.information.length < 2^64) :
    frame.view.information=frame.information := by
  unfold HdlcFrame.information view
  rw [UInt64.toNat_ofNat',Nat.mod_eq_of_lt h]
  split
  · simp_all
  · simp

theorem view_wellFormed {frame : HdlcFrameBuffer} (h : frame.information.length < 2^63) :
    frame.view.WellFormed where
  size_lt := by
    change (UInt64.ofNat frame.information.length).toNat < 2^63
    rwa [UInt64.toNat_ofNat',Nat.mod_eq_of_lt (by omega)]
  size_eq := by
    rw [frame.view_information (by omega)]
    change _=(UInt64.ofNat frame.information.length).toNat
    rw [UInt64.toNat_ofNat',Nat.mod_eq_of_lt (by omega)]

theorem toBuffer_view {frame : HdlcFrameBuffer} (h : frame.information.length < 2^64) :
    frame.view.toBuffer=frame := by
  unfold HdlcFrame.toBuffer
  rw [frame.view_information h]
  rfl

end HdlcFrameBuffer
end DlmsHdlc
