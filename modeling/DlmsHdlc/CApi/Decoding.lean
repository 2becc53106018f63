import DlmsHdlc.CApi.Outlets
import DlmsHdlc.Codec.Canonical

/-! The decoding calls of both libraries, with every buffer they may be given. -/
namespace DlmsHdlc
open Buffer

def FrameMemory.Valid (memory : FrameMemory) : Prop :=
  memory.informationBuffer.Valid memory.informationBufferSize.toNat

/-! Both decoding calls make the checks of one decoder, which leaves the size of the Information
open, and then the two on that size. -/

/-- The limits without the one on the Information. -/
def anyInformation (limits : HdlcCodecLimits) : HdlcCodecLimits :=
  { limits with maximumInformationFieldSize := 0xffffffffffffffff }

/-- Information above the limit of the frame. -/
def Oversized (limits : HdlcCodecLimits) (f : HdlcFrameBuffer) : Prop :=
  (effectiveMaximumInformationFieldSize f.destination f.source limits).toNat < f.information.length

instance (limits : HdlcCodecLimits) (f : HdlcFrameBuffer) : Decidable (Oversized limits f) :=
  Nat.decLt _ _

theorem not_oversized_anyInformation {limits : HdlcCodecLimits} {destination source : HdlcAddress}
    {information : List UInt8} (h : information.length ≤ (effectiveMaximumFrameSize limits).toNat) :
    ¬ (effectiveMaximumInformationFieldSize destination source (anyInformation limits)).toNat <
      information.length := by
  have hlt := (effectiveMaximumFrameSize limits).toNat_lt
  change ¬ 0xffffffffffffffff < information.length
  omega

/-- The checks on the size come last. -/
theorem parseFrame_eq {data : List UInt8} {size : ℕ} (hsize : size ≤ data.length)
    (limits : HdlcCodecLimits) (bufferSize : ℕ) :
    parseFrame (data.take size) size limits bufferSize=
      match decodeFrame (some data) size (anyInformation limits) with
      | .error status => .error status
      | .ok f => if bufferSize < f.information.length then .error .outputBufferTooSmall
        else if Oversized limits f then .error .informationFieldTooLarge else .ok f := by
  obtain ⟨input,hinput,hlength⟩ : ∃ input, input=data.take size ∧ input.length=size :=
    ⟨_,rfl,List.length_take_of_le hsize⟩
  have hformat : checkFormat input size (anyInformation limits)=checkFormat input size limits := rfl
  rw [decodeFrame_eq_parseFrame,← hinput,parseFrame,parseFrame,hformat]
  cases hchecked : checkFormat input size limits with
  | error status => rfl
  | ok format =>
    dsimp only
    cases hheader : decodeHeader input ((format &&& 0x07ff).toNat+2) with
    | error status => rfl
    | ok header =>
      obtain ⟨destination,source,control,offset⟩ := header
      dsimp only
      cases hsequences : checkSequences input (format &&& 0x07ff).toNat offset with
      | error status => rfl
      | ok information =>
        rw [← hlength] at hchecked
        have hroom := Go.information_length_le hchecked hheader hsequences
        have hany := @not_oversized_anyInformation _ destination source _ hroom
        have heff : effectiveMaximumFrameSize (anyInformation limits)=
          effectiveMaximumFrameSize limits := rfl
        dsimp only
        rw [heff,if_neg (Nat.not_lt.mpr hroom),if_neg hany]
        rfl

theorem parseFrame_room {input : List UInt8} {size bufferSize : ℕ} {limits : HdlcCodecLimits}
    {f : HdlcFrameBuffer} (h : parseFrame input size limits bufferSize=.ok f) :
    f.information.length ≤ bufferSize := by
  unfold parseFrame at h
  dsimp only at h
  repeat' split at h
  all_goals cases h
  rename_i hroom _
  exact Nat.not_lt.mp hroom

theorem decodeFrame_eq_ok_any {data : List UInt8} {size : ℕ} (hsize : size ≤ data.length)
    {limits : HdlcCodecLimits} {f : HdlcFrameBuffer} :
    decodeFrame (some data) size limits=.ok f ↔
      decodeFrame (some data) size (anyInformation limits)=.ok f ∧ ¬ Oversized limits f := by
  rw [decodeFrame_eq_parseFrame data size limits,parseFrame_eq hsize]
  cases hany : decodeFrame (some data) size (anyInformation limits) with
  | error status => simp
  | ok g =>
    have hroom : ¬ (effectiveMaximumFrameSize limits).toNat < g.information.length := by
      rw [decodeFrame_eq_parseFrame] at hany
      exact Nat.not_lt.mpr (parseFrame_room hany)
    dsimp only
    rw [if_neg hroom,Except.ok.injEq]
    by_cases hlarge : Oversized limits g
    · rw [if_pos hlarge]
      exact ⟨nofun,fun h => absurd (h.1 ▸ hlarge) h.2⟩
    · rw [if_neg hlarge,Except.ok.injEq]
      exact ⟨fun h => ⟨h,h ▸ hlarge⟩,And.left⟩

/-- The strict decoder fails in front of every write, or writes what it reports. -/
theorem decodeFrameFromBuffer_eq {data : List UInt8} {size : ℕ} {limits : HdlcCodecLimits}
    {frame : HdlcFrame} {buffer : Pointer} {bufferSize : ℕ}
    (present : ¬ (buffer=none ∧ bufferSize≠0)) :
    (∀ status, parseFrame (data.take size) size limits bufferSize=.error status →
      decodeFrameFromBuffer (some data) size limits frame buffer bufferSize=
        (status,{ frame with informationData := buffer, informationSize := 0 },buffer,0)) ∧
    ∀ f, parseFrame (data.take size) size limits bufferSize=.ok f →
      decodeFrameFromBuffer (some data) size limits frame buffer bufferSize=
        let written := if f.information=[] then buffer
          else buffer.map fun bytes => overwrite bytes 0 f.information
        (.ok,⟨f.segmented,f.destination,f.source,f.control,written,.ofNat f.information.length⟩,
          written,f.information.length) := by
  constructor <;> intro _ hparse <;> simp only [decodeFrameFromBuffer,if_neg present,hparse]

theorem dlmsHdlcDecodeFrame_eq {data : List UInt8} {size : ℕ} (hsize : size ≤ data.length)
    (limits : Option DlmsHdlcLimits) {memory : FrameMemory} (present : memory.Present) :
    dlmsHdlcDecodeFrame (some data) size limits memory=
      if memory.informationBuffer=none ∧ memory.informationBufferSize≠0 then
        (.invalidArgument,memory.cleared)
      else
        match decodeFrame (some data) size (anyInformation (toCppLimits limits)) with
        | .error status => (status,memory.cleared)
        | .ok f => if memory.informationBufferSize.toNat < f.information.length then
            (.outputBufferTooSmall,memory.cleared)
          else if Oversized (toCppLimits limits) f then (.informationFieldTooLarge,memory.cleared)
          else (.ok,memory.cleared.handOut f) := by
  have hpresent := mt FrameMemory.not_present_iff.mp (not_not.mpr present)
  have hzero : memory.informationBufferSize.toNat≠0 ↔ memory.informationBufferSize≠0 := by
    rw [ne_eq,ne_eq,← UInt64.toNat_inj]
    rfl
  have hbuffer : memory.cleared.informationBuffer=memory.informationBuffer := rfl
  have hgiven : memory.cleared.informationBufferSize=memory.informationBufferSize := rfl
  have hinput : ¬ ((some data : Pointer)=none ∨ memory.cleared.frame=none ∨
      memory.cleared.informationSize=none) := by simpa using hpresent
  rw [dlmsHdlcDecodeFrame,if_neg hinput,hbuffer,hgiven]
  by_cases hnull : memory.informationBuffer=none ∧ memory.informationBufferSize≠0
  · rw [if_pos hnull]
    rw [← hzero] at hnull
    simp only [decodeFrameFromBuffer,if_pos hnull]
    rfl
  rw [if_neg hnull]
  rw [← hzero] at hnull
  obtain ⟨herror,hok⟩ := @decodeFrameFromBuffer_eq data size (toCppLimits limits) default _ _ hnull
  have hparse := parseFrame_eq hsize (toCppLimits limits) memory.informationBufferSize.toNat
  cases hdecode : decodeFrame (some data) size (anyInformation (toCppLimits limits)) with
  | error status =>
    rw [hdecode] at hparse
    rw [herror status hparse]
    exact if_pos (parseFrame_error hparse)
  | ok f =>
    rw [hdecode] at hparse
    dsimp only at hparse ⊢
    split at hparse
    · rename_i hsmall
      rw [herror _ hparse,if_pos hsmall]
      rfl
    rename_i hroom
    rw [if_neg hroom]
    split at hparse
    · rename_i hlarge
      rw [herror _ hparse,if_pos hlarge]
      rfl
    rename_i hinformation
    rw [hok f hparse,if_neg hinformation]
    have hwritten : (if f.information=[] then memory.informationBuffer else
        memory.informationBuffer.map fun bytes => overwrite bytes 0 f.information)=
        if 0 < f.information.length then
          memory.informationBuffer.map fun bytes => overwrite bytes 0 f.information
        else memory.informationBuffer := by
      cases f.information <;> simp
    dsimp only
    rw [hwritten]
    rfl

namespace Go

/-- Here the limit on the Information is checked in front of the size of the buffer. -/
theorem decodeFrameFromBuffer_eq (input : List UInt8) (limits : HdlcCodecLimits)
    (infoBuf : Option (List UInt8)) :
    decodeFrameFromBuffer input (ofLimits limits) infoBuf=
      match DlmsHdlc.decodeFrame (some input) input.length (anyInformation limits) with
      | .error status => .error status
      | .ok f => if Oversized limits f then .error .informationFieldTooLarge
        else if f.information.length≠0 ∧ infoBuf.any (fun buf => buf.length < f.information.length)
          then .error .outputBufferTooSmall
        else .ok (ofFrame f,f.information.length,
          infoBuf.map fun buf => overwrite buf 0 f.information) := by
  have hformat : DlmsHdlc.checkFormat input input.length (anyInformation limits)=
    DlmsHdlc.checkFormat input input.length limits := rfl
  rw [decodeFrame_eq_parseFrame,List.take_length,parseFrame,decodeFrameFromBuffer,checkFormat_eq,
    hformat]
  cases hchecked : DlmsHdlc.checkFormat input input.length limits with
  | error status => rfl
  | ok format =>
    dsimp only
    rw [decodeHeader_eq]
    cases hheader : DlmsHdlc.decodeHeader input ((format &&& 0x07ff).toNat+2) with
    | error status => rfl
    | ok header =>
      obtain ⟨destination,source,control,offset⟩ := header
      have hoffset : offset-1+1=offset := by
        obtain ⟨hlength,_⟩ := checkFormat_eq_ok hchecked
        have := (decodeHeader_eq_ok hlength.ge hheader).1
        omega
      dsimp only [Except.map]
      rw [checkSequences_eq,hoffset]
      cases hsequences : DlmsHdlc.checkSequences input (format &&& 0x07ff).toNat offset with
      | error status => rfl
      | ok information =>
        have hroom := information_length_le hchecked hheader hsequences
        have hany := @not_oversized_anyInformation _ destination source _ hroom
        have heff : DlmsHdlc.effectiveMaximumFrameSize (anyInformation limits)=
          DlmsHdlc.effectiveMaximumFrameSize limits := rfl
        dsimp only
        rw [effectiveMaximumInformationFieldSize_eq,heff,if_neg (Nat.not_lt.mpr hroom),if_neg hany]
        rfl

/-- The fields of a frame whose Information is not copied. -/
def pointOut (memory : FrameMemory) (f : HdlcFrameBuffer) : FrameMemory :=
  { memory with
    frame := some (fillCFrame (ofFrame f) memory.informationBuffer f.information.length)
    informationSize := some (.ofNat f.information.length) }

theorem infoSlice_none {memory : FrameMemory}
    (h : memory.informationBuffer=none ∨ memory.informationBufferSize=0) :
    infoSlice memory.cleared=none := by
  change (if 0 < memory.informationBufferSize then memory.informationBuffer.map _ else none)=none
  obtain hnull | hzero := h
  · rw [hnull]
    exact ite_self _
  · rw [hzero]
    rfl

theorem infoSlice_some {memory : FrameMemory} {bytes : List UInt8}
    (hbuffer : memory.informationBuffer=some bytes) (hsize : memory.informationBufferSize≠0) :
    infoSlice memory.cleared=some (bytes.take memory.informationBufferSize.toNat) := by
  have hpos : 0 < memory.informationBufferSize := UInt64.pos_iff_ne_zero.mpr hsize
  change (if 0 < memory.informationBufferSize then memory.informationBuffer.map _ else none)=_
  rw [if_pos hpos,hbuffer]
  rfl

theorem writeBack_overwrite {bytes information : List UInt8} {size : ℕ} (hsize : size ≤ bytes.length)
    (hroom : information.length ≤ size) :
    writeBack (some bytes) (overwrite (bytes.take size) 0 information)=
      some (overwrite bytes 0 information) := by
  have hwritten : (overwrite (bytes.take size) 0 information).length=size := by
    simp [overwrite]
    omega
  rw [writeBack,Option.map_some,hwritten]
  simp only [overwrite,List.take_zero,List.nil_append,Nat.zero_add,List.append_assoc]
  have hrest : (bytes.take size).drop information.length ++ bytes.drop size=
      bytes.drop information.length := by
    have hdrop : bytes.drop size=(bytes.drop information.length).drop (size-information.length) := by
      rw [List.drop_drop,Nat.add_sub_cancel' hroom]
    rw [List.drop_take,hdrop,List.take_append_drop]
  rw [hrest]

/-- Without a slice of the buffer nothing is checked against it, and nothing copied. -/
theorem dlmsHdlcDecodeFrame_eq {data : List UInt8} {size : ℕ} (hsize : size ≤ data.length)
    (limits : Option DlmsHdlcLimits) {memory : FrameMemory} (present : memory.Present)
    (valid : memory.Valid) :
    dlmsHdlcDecodeFrame (some data) size limits memory=
      match DlmsHdlc.decodeFrame (some data) size (anyInformation (toCppLimits limits)) with
      | .error status => (status,memory.cleared)
      | .ok f => if Oversized (toCppLimits limits) f then (.informationFieldTooLarge,memory.cleared)
        else if memory.informationBuffer=none ∨ memory.informationBufferSize=0 then
          (.ok,pointOut memory.cleared f)
        else if memory.informationBufferSize.toNat < f.information.length then
          (.outputBufferTooSmall,memory.cleared)
        else (.ok,memory.cleared.handOut f) := by
  have hpresent := mt FrameMemory.not_present_iff.mp (not_not.mpr present)
  have hlength : (data.take size).length=size := List.length_take_of_le hsize
  have hdecoded := decodeFrameFromBuffer_eq (data.take size) (toCppLimits limits)
    (infoSlice memory.cleared)
  rw [hlength,decodeFrame_take] at hdecoded
  rw [dlmsHdlcDecodeFrame]
  dsimp only
  rw [if_neg hpresent,StreamDecoderState.toLimits_eq,hdecoded]
  cases hdecode : DlmsHdlc.decodeFrame (some data) size (anyInformation (toCppLimits limits)) with
  | error status => rfl
  | ok f =>
    dsimp only
    by_cases hlarge : Oversized (toCppLimits limits) f
    · rw [if_pos hlarge,if_pos hlarge]
    rw [if_neg hlarge,if_neg hlarge]
    by_cases hnone : memory.informationBuffer=none ∨ memory.informationBufferSize=0
    · rw [if_pos hnone,infoSlice_none hnone]
      simp only [Option.any_none,Bool.false_eq_true,and_false,↓reduceIte,Option.map_none]
      rfl
    rw [if_neg hnone]
    rw [not_or] at hnone
    obtain ⟨bytes,hbuffer⟩ := Option.ne_none_iff_exists'.mp hnone.1
    have hbytes := valid bytes hbuffer
    have hslice : (bytes.take memory.informationBufferSize.toNat).length=
      memory.informationBufferSize.toNat := List.length_take_of_le hbytes
    rw [infoSlice_some hbuffer hnone.2]
    simp only [Option.any_some,decide_eq_true_eq,hslice]
    by_cases hsmall : memory.informationBufferSize.toNat < f.information.length
    · rw [if_pos hsmall,if_pos ⟨by omega,hsmall⟩]
    rw [if_neg hsmall,if_neg fun h => hsmall h.2]
    have hwritten := writeBack_overwrite hbytes (Nat.not_lt.mp hsmall)
    have hbuffer' : memory.cleared.informationBuffer=some bytes := hbuffer
    simp only [Option.map_some,hbuffer',hwritten]
    have hcopied : (if 0 < f.information.length then
        (some bytes).map fun buffer => overwrite buffer 0 f.information else some bytes)=
          some (overwrite bytes 0 f.information) := by
      cases f.information <;> simp [overwrite]
    rw [FrameMemory.handOut,hbuffer',hcopied]
    rfl

end Go

theorem dlmsHdlcDecodeFrame_invalid {input : Pointer} {size : ℕ} {limits : Option DlmsHdlcLimits}
    {memory : FrameMemory} (h : input=none ∨ ¬ memory.Present) :
    dlmsHdlcDecodeFrame input size limits memory=(.invalidArgument,memory.cleared) := by
  rw [← FrameMemory.not_present_iff] at h
  rw [dlmsHdlcDecodeFrame,if_pos h]

theorem Go.dlmsHdlcDecodeFrame_invalid {input : Pointer} {size : ℕ}
    {limits : Option DlmsHdlcLimits} {memory : FrameMemory} (h : input=none ∨ ¬ memory.Present) :
    dlmsHdlcDecodeFrame input size limits memory=(.invalidArgument,memory.cleared) := by
  cases input with
  | none => rfl
  | some data =>
    have hpresent := FrameMemory.not_present_iff.mpr (h.resolve_left nofun)
    rw [dlmsHdlcDecodeFrame]
    exact if_pos hpresent

end DlmsHdlc
