import DlmsHdlc.Library.FlaggedCode
import DlmsHdlc.Segmentation.Encodable
import DlmsHdlc.StreamDecoder

/-! Encoded frames on a line, with noise between them: how the line reads, and that it reads in one
way only. -/
namespace DlmsHdlc
open Machine Scanning

namespace HdlcFrameBuffer

/-- Unset limits allow every frame that the Format Field can announce. -/
theorem fits_unset {frame : HdlcFrameBuffer} (h : frame.formatLength ≤ 2047)
    (reassembled : UInt64) : frame.Fits ⟨0,0,reassembled⟩ where
  information_le := by
    have hsize : (effectiveMaximumFrameSize ⟨0,0,reassembled⟩).toNat=2049 := rfl
    rw [effectiveMaximumInformationFieldSize_toNat rfl,hsize]
    by_cases hempty : frame.information=[]
    · rw [hempty]
      exact Nat.zero_le _
    · rw [formatLength,if_neg hempty] at h
      omega
  format_le := h
  frame_le := Nat.add_le_add_right h 2

/-- A frame is delimited by its length, and closed frames read alike are equal. -/
theorem wire_delimited {frame other : HdlcFrameBuffer} {tail rest : List UInt8}
    (h : frame.formatLength ≤ 2047) (hother : other.formatLength ≤ 2047)
    (same : frame.wire ++ tail=other.wire ++ rest) : frame=other ∧ tail=rest := by
  have hscan : HdlcStreamDecoder.scan ⟨⟨0,0,0⟩,.ignoreUntilOpeningFlag⟩ (frame.wire ++ tail)=
      .item frame tail := HdlcStreamDecoder.scan_wire (fits_unset h 0) tail
  rw [same,HdlcStreamDecoder.scan_wire (fits_unset hother 0) rest,Found.item.injEq] at hscan
  exact ⟨hscan.1.symm,hscan.2.symm⟩

theorem wire_injective {frame other : HdlcFrameBuffer} (h : frame.formatLength ≤ 2047)
    (hother : other.formatLength ≤ 2047) (same : frame.wire=other.wire) : frame=other :=
  (wire_delimited h hother (congrArg (· ++ []) same)).1

end HdlcFrameBuffer

/-- Every frame within the one limits is within the other ones. -/
def HdlcCodecLimits.Allow (limits sender : HdlcCodecLimits) : Prop :=
  ∀ frame : HdlcFrameBuffer, frame.Fits sender → frame.Fits limits

/-- Frames on a line: each starts with the flag and announces its length. -/
def frameCode : FlaggedCode HdlcFrameBuffer UInt8 where
  valid frame := frame.formatLength ≤ 2047
  encode := HdlcFrameBuffer.wire
  flag := kHdlcFlag
  starts frame := ⟨_,frame.wire_eq⟩
  delimited := HdlcFrameBuffer.wire_delimited

namespace HdlcStreamDecoder
variable {options : HdlcStreamDecoderOptions} {limits : HdlcCodecLimits}

/-- The stream of encoded frames is the line of their bytes. -/
theorem stream_eq_line {items : List (List UInt8 × HdlcFrame)} {last : List UInt8}
    (hframes : ∀ item ∈ items, item.2.WellFormed ∧ ∃ bytes, encodeFrame item.2 limits=.ok bytes) :
    stream limits items last=
      frameCode.line (items.map fun item => (item.1,item.2.toBuffer)) last := by
  induction items with
  | nil => rfl
  | cons item items ih =>
    obtain ⟨noise,frame⟩ := item
    obtain ⟨hwellFormed,bytes,hbytes⟩ := hframes _ List.mem_cons_self
    have hwire := ((encodeFrame_eq_ok_iff hwellFormed limits bytes).mp hbytes).2
    rw [stream,hbytes,ih fun item hitem => hframes item (List.mem_cons_of_mem _ hitem),
      List.map_cons,FlaggedCode.line_cons,List.append_assoc,hwire]
    rfl

/-- Encoded frames behind noise without a flag are proper items. -/
theorem stream_proper {items : List (List UInt8 × HdlcFrame)} {last : List UInt8}
    (hframes : ∀ item ∈ items, item.2.WellFormed ∧ ∃ bytes, encodeFrame item.2 limits=.ok bytes)
    (hnoise : ∀ noise ∈ last::items.map Prod.fst, kHdlcFlag ∉ noise) :
    frameCode.Proper (items.map fun item => (item.1,item.2.toBuffer)) last := by
  refine ⟨?_,hnoise last List.mem_cons_self⟩
  intro item' hitem'
  obtain ⟨item,hitem,rfl⟩ := List.mem_map.mp hitem'
  obtain ⟨hwellFormed,bytes,hbytes⟩ := hframes item hitem
  refine ⟨hnoise _ (List.mem_cons_of_mem _ (List.mem_map_of_mem hitem)),?_⟩
  exact ((encodeFrame_eq_ok_iff hwellFormed limits bytes).mp hbytes).1.format_le

theorem tolerated_nil (policy : HdlcNoisePolicy) : Tolerated policy [] :=
  ⟨List.not_mem_nil,fun _ => rfl⟩

/-- What the rounds of the decoder find on a line of frames that fit. -/
theorem drain_line (items : List (List UInt8 × HdlcFrameBuffer)) {last : List UInt8}
    (hframes : ∀ item ∈ items, Tolerated options.noisePolicy item.1 ∧ item.2.Fits options.limits)
    (hlast : Tolerated options.noisePolicy last) :
    (scanner options).drain (frameCode.line items last)=(items.map Prod.snd,.ok []) := by
  induction items with
  | nil =>
    apply Scanner.drain_wait
    change scan options last=_
    rw [← List.append_nil last,scan_noise hlast,scan_nil]
  | cons item items ih =>
    obtain ⟨noise,frame⟩ := item
    obtain ⟨htolerated,hfits⟩ := hframes _ List.mem_cons_self
    have hscan : (scanner options).scan (frameCode.line ((noise,frame)::items) last)=
        .item frame (frameCode.line items last) := by
      change scan options (noise ++ (frame.wire ++ frameCode.line items last))=_
      rw [scan_noise htolerated,scan_wire hfits]
    rw [Scanner.drain_item hscan,ih fun item hitem => hframes item (List.mem_cons_of_mem _ hitem)]
    rfl

theorem drain_wire {frame : HdlcFrameBuffer} (h : frame.Fits options.limits) :
    (scanner options).drain frame.wire=([frame],.ok []) := by
  have hnil := tolerated_nil options.noisePolicy
  have hline := drain_line [([],frame)] (by simpa using ⟨hnil,h⟩) hnil
  rwa [FlaggedCode.line_cons,FlaggedCode.line_nil,List.nil_append,List.append_nil] at hline

theorem drain_noise {noise : List UInt8} (h : Tolerated options.noisePolicy noise) :
    (scanner options).drain noise=([],.ok []) :=
  drain_line [] (by simp) h

end HdlcStreamDecoder

/-- A line of encoded frames with noise between them can be read in one way only: whatever the
limits of the two encoders, equal bytes mean the same noise, the same frames and the same bytes at
the end, although the flag may occur inside a frame and is not escaped there. -/
theorem stream_readsOnce (limits otherLimits : HdlcCodecLimits)
    (items others : List (List UInt8 × HdlcFrame)) (last other : List UInt8)
    (hframes : ∀ item ∈ items, item.2.WellFormed ∧ ∃ bytes, encodeFrame item.2 limits=.ok bytes)
    (hothers : ∀ item ∈ others, item.2.WellFormed ∧
      ∃ bytes, encodeFrame item.2 otherLimits=.ok bytes)
    (hnoise : ∀ noise ∈ last::items.map Prod.fst, kHdlcFlag ∉ noise)
    (hotherNoise : ∀ noise ∈ other::others.map Prod.fst, kHdlcFlag ∉ noise) :
    HdlcStreamDecoder.stream limits items last=HdlcStreamDecoder.stream otherLimits others other ↔
      items.map (fun item => (item.1,item.2.toBuffer))=
          others.map (fun item => (item.1,item.2.toBuffer)) ∧
        last=other := by
  rw [HdlcStreamDecoder.stream_eq_line hframes,HdlcStreamDecoder.stream_eq_line hothers]
  constructor
  · exact FlaggedCode.line_injective (HdlcStreamDecoder.stream_proper hframes hnoise)
      (HdlcStreamDecoder.stream_proper hothers hotherNoise)
  · rintro ⟨hitems,rfl⟩
    rw [hitems]

theorem stream_readsOnce_sample :
    HdlcStreamDecoder.stream defaultHdlcCodecLimits [([0x00],sampleFrame)] [0x01]=
        HdlcStreamDecoder.stream ⟨0,0,0⟩ [([],sampleFrame),([0x00],sampleFrame)] [] ↔
      [([0x00],sampleFrame)].map (fun item : List UInt8 × HdlcFrame => (item.1,item.2.toBuffer))=
          [([],sampleFrame),([0x00],sampleFrame)].map (fun item => (item.1,item.2.toBuffer)) ∧
        [(0x01 : UInt8)]=[] :=
  stream_readsOnce defaultHdlcCodecLimits ⟨0,0,0⟩ [([0x00],sampleFrame)]
    [([],sampleFrame),([0x00],sampleFrame)] [0x01] []
    (by simpa using ⟨sampleFrame_wellFormed,_,rfl⟩) (by simpa using ⟨sampleFrame_wellFormed,_,rfl⟩)
    (by simp [kHdlcFlag]) (by simp [kHdlcFlag])

end DlmsHdlc
