import DlmsHdlc.CApi.Contract

/-! Where one call of the two libraries has the same result. -/
namespace DlmsHdlc
open Machine Scanning Buffer
open HdlcStreamDecoder (ignoring Reads)

/-- The frame points at its Information, of less than 2^31 bytes, or at nothing. -/
structure DlmsHdlcFrame.Valid (frame : DlmsHdlcFrame) : Prop where
  data : frame.informationData.Valid frame.informationSize.toNat
  size_lt : frame.informationSize.toNat < 2^31

theorem toCppFrame_view {frame : DlmsHdlcFrame} {view : HdlcFrame} (h : toCppFrame frame=.ok view) :
    view.informationData=frame.informationData ∧ view.informationSize=frame.informationSize ∧
      ¬ (frame.informationData=none ∧ frame.informationSize≠0) := by
  unfold toCppFrame at h
  split at h
  · cases h
  rename_i hpresent
  repeat' split at h
  all_goals cases h
  exact ⟨rfl,rfl,hpresent⟩

theorem ownedFrame_eq (view : HdlcFrame) : ownedFrame view=view.toBuffer := by
  have hinformation : (if view.informationSize≠0 ∧ view.informationData≠none then
      view.informationData.read view.informationSize.toNat else [])=view.information := by
    split
    · rfl
    · rename_i hnone
      rw [not_and_or,not_not,not_not] at hnone
      obtain hzero | hnull := hnone
      · rw [HdlcFrame.information,hzero]
        exact (Pointer.read_zero _).symm
      · rw [HdlcFrame.information,hnull,Pointer.read_none]
  rw [ownedFrame,hinformation]
  rfl

theorem toCppFrame_wellFormed {frame : DlmsHdlcFrame} (valid : frame.Valid) {view : HdlcFrame}
    (h : toCppFrame frame=.ok view) : view.WellFormed := by
  obtain ⟨hdata,hsize,hpresent⟩ := toCppFrame_view h
  have hlt := valid.size_lt
  refine ⟨by rw [hsize]; omega,?_⟩
  rw [HdlcFrame.information,hdata,hsize]
  cases hbytes : frame.informationData with
  | none =>
    have hzero : frame.informationSize=0 := by
      by_contra hne
      exact hpresent ⟨hbytes,hne⟩
    rw [hzero]
    rfl
  | some bytes => exact List.length_take_of_le (valid.data bytes hbytes)

namespace Go

theorem goBytes_eq {data : Pointer} {size : UInt64} (h : size.toNat < 2^31) :
    (if 0 < size then goBytes data size else some [])=some (data.read size.toNat) := by
  by_cases hpos : 0 < size
  · have hint : size.toUInt32.toInt32=.ofNat size.toNat := by
      rw [← UInt32.toInt32_ofNat',← UInt64.toUInt32_ofNat',UInt64.ofNat_toNat]
    have hsize := Int32.toInt_ofNat_of_lt h
    have hpositive : ¬ Int32.ofNat size.toNat < 0 := by
      rw [Int32.lt_iff_toInt_lt,hsize]
      exact not_lt.mpr (Int.natCast_nonneg _)
    rw [if_pos hpos,goBytes,hint,Int32.toNatClampNeg_ofNat_of_lt h]
    exact if_neg hpositive
  · have hzero : size=0 := by
      by_contra hne
      exact hpos (UInt64.pos_iff_ne_zero.mpr hne)
    rw [if_neg hpos,hzero]
    exact congrArg some (Pointer.read_zero data).symm

/-- Below 2^31 bytes the two conversions of a frame are one. -/
theorem goFrame_valid {frame : DlmsHdlcFrame} (valid : frame.Valid) :
    goFrame frame=(toCppFrame frame).map fun view => some (ofFrame view.toBuffer) := by
  rw [goFrame_eq,goBytes_eq valid.size_lt]
  cases hview : toCppFrame frame with
  | error status => rfl
  | ok view =>
    obtain ⟨hdata,hsize,_⟩ := toCppFrame_view hview
    have hinformation : view.information=frame.informationData.read frame.informationSize.toNat := by
      rw [HdlcFrame.information,hdata,hsize]
    rw [Except.map,Except.map,← hinformation]
    rfl

theorem writeBack_filled {bytes front : List UInt8} {size : ℕ} (hsize : size ≤ bytes.length)
    (hroom : front.length ≤ size) :
    writeBack (some bytes) (filled (bytes.take size) front)=some (filled bytes front) := by
  have hoverwrite := writeBack_overwrite hsize hroom
  simpa only [overwrite,filled,List.take_zero,List.nil_append,Nat.zero_add] using hoverwrite

/-- The size checks of the two encoders are the same. -/
theorem encodeFrameToBuffer_toBuffer {view : HdlcFrame} (h : view.WellFormed)
    (limits : HdlcCodecLimits) (output : List UInt8) :
    encodeFrameToBuffer (ofFrame view.toBuffer) (ofLimits limits) output=
      (checkFrameSize view limits output.length).map fun _ =>
        (filled output view.toBuffer.wire,view.toBuffer.wire.length) := by
  have hinformation : view.toBuffer.information=view.information := rfl
  have hdestination : view.toBuffer.destination=view.destination := rfl
  have hsource : view.toBuffer.source=view.source := rfl
  have hlength : view.toBuffer.information.length < 2^63 := by
    rw [hinformation,h.size_eq]
    exact h.size_lt
  rw [encodeFrameToBuffer_ofFrame _ hlength,checkFrameSize_eq h,hinformation,hdestination,hsource]
  split
  · rfl
  split
  · rfl
  split
  · rfl
  split <;> rfl

/-- The encoding calls agree on every frame, limit and buffer. -/
theorem dlmsHdlcEncodeFrame_eq {frame : Option DlmsHdlcFrame}
    (valid : ∀ cframe, frame=some cframe → cframe.Valid) (limits : Option DlmsHdlcLimits)
    {output : Pointer} {outputSize : ℕ} (writable : output.Valid outputSize)
    (writtenSize : Option UInt64) :
    dlmsHdlcEncodeFrame frame limits output outputSize writtenSize=
      some (DlmsHdlc.dlmsHdlcEncodeFrame frame limits output outputSize writtenSize) := by
  cases frame with
  | none => rfl
  | some cframe =>
    cases output with
    | none => rfl
    | some bytes =>
      have hbytes := writable bytes rfl
      have hlength : (bytes.take outputSize).length=outputSize := List.length_take_of_le hbytes
      cases writtenSize with
      | none => rfl
      | some written =>
        rw [dlmsHdlcEncodeFrame,DlmsHdlc.dlmsHdlcEncodeFrame]
        dsimp only [Option.map_some]
        rw [if_neg nofun,if_neg (by simp),goFrame_valid (valid cframe rfl)]
        cases hview : toCppFrame cframe with
        | error status => rfl
        | ok view =>
          have hwell := toCppFrame_wellFormed (valid cframe rfl) hview
          dsimp only [Except.map]
          rw [StreamDecoderState.toLimits_eq,encodeFrameToBuffer_toBuffer hwell,hlength,
            encodeFrameToBuffer_eq hwell]
          cases hchecked : checkFrameSize view (toCppLimits limits) outputSize with
          | error status => rfl
          | ok formatFieldLength =>
            have hroom : view.toBuffer.wire.length ≤ outputSize := by
              rw [checkFrameSize_eq hwell] at hchecked
              repeat' split at hchecked
              all_goals cases hchecked
              rw [HdlcFrameBuffer.wire_length]
              omega
            have hwritten := writeBack_filled hbytes hroom
            dsimp only [Except.map]
            rw [hwritten]

end Go
/-- A null buffer with a size, or a frame with more Information than the buffer holds, and no buffer
at all or more Information than the limit allows. -/
def DecodesApart (limits : HdlcCodecLimits) (input : Pointer) (inputSize : ℕ)
    (memory : FrameMemory) : Prop :=
  input≠none ∧ memory.Present ∧
    (memory.informationBuffer=none ∧ memory.informationBufferSize≠0 ∨
      ∃ f : HdlcFrameBuffer, f.Fits (anyInformation limits) ∧ input.read inputSize=f.wire ∧
        memory.informationBufferSize.toNat < f.information.length ∧
          (memory.informationBufferSize=0 ∨ Oversized limits f))

/-- Elsewhere the decoding calls agree. -/
theorem Go.dlmsHdlcDecodeFrame_agrees {input : Pointer} {inputSize : ℕ}
    (readable : input.Valid inputSize) {limits : Option DlmsHdlcLimits} {memory : FrameMemory}
    (valid : memory.Valid) (h : ¬ DecodesApart (toCppLimits limits) input inputSize memory) :
    dlmsHdlcDecodeFrame input inputSize limits memory=
      DlmsHdlc.dlmsHdlcDecodeFrame input inputSize limits memory := by
  by_cases hinvalid : input=none ∨ ¬ memory.Present
  · rw [dlmsHdlcDecodeFrame_invalid hinvalid,DlmsHdlc.dlmsHdlcDecodeFrame_invalid hinvalid]
  rw [not_or,not_not] at hinvalid
  obtain ⟨data,rfl⟩ := Option.ne_none_iff_exists'.mp hinvalid.1
  have hsize := readable data rfl
  have hnull : ¬ (memory.informationBuffer=none ∧ memory.informationBufferSize≠0) :=
    fun hnull => h ⟨hinvalid.1,hinvalid.2,Or.inl hnull⟩
  rw [dlmsHdlcDecodeFrame_eq hsize limits hinvalid.2 valid,
    DlmsHdlc.dlmsHdlcDecodeFrame_eq hsize limits hinvalid.2,if_neg hnull]
  cases hdecode : DlmsHdlc.decodeFrame (some data) inputSize
    (anyInformation (toCppLimits limits)) with
  | error status => rfl
  | ok f =>
    dsimp only
    by_cases hsmall : memory.informationBufferSize.toNat < f.information.length
    · have hnonempty : f.information≠[] := List.ne_nil_of_length_pos (by omega)
      have htake : DlmsHdlc.decodeFrame (some (data.take inputSize)) (data.take inputSize).length
          (anyInformation (toCppLimits limits))=.ok f := by
        rw [List.length_take_of_le hsize,decodeFrame_take]
        exact hdecode
      obtain ⟨hfits,hwire⟩ := decodeFrame_ok_cases htake
      have hwire := hwire.resolve_right fun hbare => hnonempty hbare.1
      have hapart : ¬ (memory.informationBufferSize=0 ∨ Oversized (toCppLimits limits) f) :=
        fun hapart => h ⟨hinvalid.1,hinvalid.2,Or.inr ⟨f,hfits,hwire,hsmall,hapart⟩⟩
      rw [not_or] at hapart
      have hbuffer : ¬ (memory.informationBuffer=none ∨ memory.informationBufferSize=0) := by
        rintro (hbuffer | hzero)
        · exact hnull ⟨hbuffer,hapart.1⟩
        · exact hapart.1 hzero
      rw [if_neg hapart.2,if_neg hbuffer,if_pos hsmall,if_pos hsmall]
    · rw [if_neg hsmall,if_neg hsmall]
      by_cases hlarge : Oversized (toCppLimits limits) f
      · rw [if_pos hlarge,if_pos hlarge]
      rw [if_neg hlarge,if_neg hlarge]
      split
      · rename_i hunchecked
        have hempty : f.information=[] := by
          have hzero : memory.informationBufferSize=0 := by
            by_contra hne
            exact hunchecked.elim (fun hbuffer => hnull ⟨hbuffer,hne⟩) hne
          rw [hzero] at hsmall
          exact List.eq_nil_of_length_eq_zero (Nat.eq_zero_of_not_pos hsmall)
        rw [pointOut,FrameMemory.handOut,hempty]
        rfl
      · rfl

/-- Frames in front of a truncated address in a complete frame, or a frame handed out without a
buffer. -/
def DlmsHdlcStreamDecoder.PushesApart (limits : HdlcCodecLimits) (handle : DlmsHdlcStreamDecoder)
    (data : Pointer) (dataSize : ℕ) (memory : FrameMemory) : Prop :=
  memory.Present ∧ ¬ (data=none ∧ dataSize≠0) ∧
      (∃ frames rest, Reads limits (handle.decoder.buffer ++ data.read dataSize) frames
        (some (.needMoreData,rest)) ∧ frames≠[]) ∨
    handle.HandsUnbuffered limits data dataSize memory

section Push
variable {limits : HdlcCodecLimits} {queue : Outlet.State UInt8 HdlcFrameBuffer}

/-- The two queues are fed alike if nothing is dropped in front of a silent fault. -/
theorem feed_agrees {bytes : List UInt8}
    (kept : ∀ frames rest, Reads limits (queue.buffer ++ bytes) frames (some (.needMoreData,rest)) →
      frames=[]) :
    (Go.StreamDecoderState.outlet limits).feed queue bytes=
      (DlmsHdlcStreamDecoder.outlet limits).feed queue bytes := by
  by_cases hempty : bytes=[]
  · rw [hempty]
    rfl
  rcases hdrain : (HdlcStreamDecoder.scanner (ignoring limits)).drain (queue.buffer ++ bytes)
    with ⟨frames,status | rest⟩
  · have hgo := Outlet.feed_error (O := Go.StreamDecoderState.outlet limits) hempty hdrain
    have hcpp := Outlet.feed_error (O := DlmsHdlcStreamDecoder.outlet limits) hempty hdrain
    rw [hgo,hcpp]
    by_cases hmore : status=.needMoreData
    · obtain ⟨front,rest,hbytes,hfails⟩ := Scanner.exists_failsAt
        (HdlcStreamDecoder.scanner_incremental (ignoring limits)) hdrain
      rw [hmore] at hfails
      obtain rfl := kept frames rest (HdlcStreamDecoder.reads_some_iff.mpr ⟨front,hbytes,hfails⟩)
      rfl
    · have hreported : (status == HdlcStatus.needMoreData)=false := beq_eq_false_iff_ne.mpr hmore
      change (if (status == HdlcStatus.needMoreData)=true then _ else _)=
        (if (status == HdlcStatus.needMoreData)=true then _ else _)
      rw [hreported]
      rfl
  · have hgo := Outlet.feed_ok (O := Go.StreamDecoderState.outlet limits) hempty hdrain
    have hcpp := Outlet.feed_ok (O := DlmsHdlcStreamDecoder.outlet limits) hempty hdrain
    rw [hgo,hcpp]

/-- The room that the two ask for is the same, unless the buffer is missing. -/
theorem fits_agrees {f : HdlcFrameBuffer} {memory : FrameMemory} (valid : memory.Valid)
    (buffered : memory.informationBuffer=none → f.information≠[] →
      ¬ f.information.length ≤ memory.informationBufferSize.toNat) :
    (Go.StreamDecoderState.outlet limits).fits f memory.cleared=
      (DlmsHdlcStreamDecoder.outlet limits).fits f memory.cleared := by
  rw [Bool.eq_iff_iff]
  refine ⟨fun h => decide_eq_true (Go.StreamDecoderState.room_of_fits valid h).1,fun h => ?_⟩
  have hroom : f.information.length ≤ memory.informationBufferSize.toNat := of_decide_eq_true h
  refine decide_eq_true ?_
  rintro ⟨hpos,hall⟩
  have hnonempty := List.ne_nil_of_length_pos hpos
  have hsize : memory.informationBufferSize≠0 := by
    intro hzero
    rw [hzero] at hroom
    exact hnonempty (List.eq_nil_of_length_eq_zero (Nat.le_zero.mp hroom))
  have hpresent : memory.informationBuffer≠none :=
    fun hnull => buffered hnull hnonempty hroom
  obtain ⟨bytes,hbuffer⟩ := Option.ne_none_iff_exists'.mp hpresent
  rw [Go.infoSlice_some hbuffer hsize,Option.all_some,
    List.length_take_of_le (valid bytes hbuffer)] at hall
  exact absurd (of_decide_eq_true hall) (Nat.not_lt.mpr hroom)

theorem push_agrees {handle : DlmsHdlcStreamDecoder} {state : Go.StreamDecoderState}
    (h : handle.Holds limits queue) (h' : state.Holds limits queue) {data : Pointer}
    {dataSize : ℕ} {memory : FrameMemory} (valid : memory.Valid)
    (alike : ¬ handle.PushesApart limits data dataSize memory) :
    (handle.push data dataSize memory).1=(state.push data dataSize memory).1 ∧
      ∃ next, (handle.push data dataSize memory).2.Holds limits next ∧
        (state.push data dataSize memory).2.Holds limits next := by
  by_cases hinvalid : ¬ memory.Present ∨ data=none ∧ dataSize≠0
  · rw [DlmsHdlcStreamDecoder.push_invalid handle hinvalid,
      Go.StreamDecoderState.push_invalid state hinvalid]
    exact ⟨rfl,queue,h,h'⟩
  rw [not_or,not_not] at hinvalid
  obtain ⟨hpresent,hreadable⟩ := hinvalid
  have hqueue : (Go.StreamDecoderState.outlet limits).push queue (data.read dataSize) memory.cleared=
      (DlmsHdlcStreamDecoder.outlet limits).push queue (data.read dataSize) memory.cleared := by
    have hfed : (Go.StreamDecoderState.outlet limits).feed queue (data.read dataSize)=
        (DlmsHdlcStreamDecoder.outlet limits).feed queue (data.read dataSize) := by
      apply feed_agrees
      intro frames rest hreads
      by_contra hnonempty
      rw [← h.buffer] at hreads
      exact alike (Or.inl ⟨hpresent,hreadable,frames,rest,hreads,hnonempty⟩)
    rw [Outlet.push,Outlet.push,hfed]
    rcases hfeed : (DlmsHdlcStreamDecoder.outlet limits).feed queue (data.read dataSize)
      with ⟨_ | fault,fed⟩ <;> dsimp only
    cases hpending : fed.pending with
    | nil => rw [Outlet.take_nil hpending,Outlet.take_nil hpending]
    | cons f rest =>
      have hnext := next_of_feed (O := DlmsHdlcStreamDecoder.outlet limits) rfl
        (fun status => beq_iff_eq) h.stable hfeed hpending
      have hfits := @fits_agrees limits f _ valid fun hnull hnonempty hroom => by
        rw [← h.buffer,← h.pending] at hnext
        exact alike (Or.inr ⟨hpresent,hreadable,hnull,_,hnext,hnonempty,hroom⟩)
      rw [Outlet.take,Outlet.take,hpending]
      dsimp only
      rw [hfits]
  obtain ⟨hcpp,hnext⟩ := h.push hpresent hreadable
  obtain ⟨hgo,hnext'⟩ := h'.push hpresent hreadable
  rw [hqueue] at hgo hnext'
  exact ⟨hcpp.trans hgo.symm,_,hnext,hnext'⟩

end Push
theorem HdlcReassembler.pushFrame_none {reassembler : HdlcReassembler} {frame : HdlcFrameBuffer}
    (h : (reassembler.pushFrame frame).1.2=none) : (reassembler.pushFrame frame).1.1≠.ok := by
  obtain ⟨result,hresult⟩ : ∃ result, reassembler.pushFrame frame=result := ⟨_,rfl⟩
  rw [hresult] at h ⊢
  unfold pushFrame at hresult
  dsimp only at hresult
  repeat' split at hresult
  all_goals subst hresult
  all_goals simp at h ⊢

theorem Go.ofCompleted_none {result : HdlcStatus × Option HdlcFrameBuffer} (h : result.2=none) :
    ofCompleted result=.error result.1 := by
  obtain ⟨status,completed⟩ := result
  cases h
  rfl

/-- The calls on matching reassemblers agree, unless a frame is handed out without a buffer. -/
theorem pushFrame_agrees {handle : DlmsHdlcReassembler} {r : Go.Reassembler}
    (h : r.Matches handle.reassembler) {inputFrame : Option DlmsHdlcFrame}
    (valid : ∀ cframe, inputFrame=some cframe → cframe.Valid) {output : CompletedMemory}
    (alike : ¬ handle.HandsUnbuffered inputFrame output) :
    ∃ next, r.pushFrame inputFrame output=some ((handle.pushFrame inputFrame output).1,next) ∧
      next.Matches (handle.pushFrame inputFrame output).2.reassembler := by
  by_cases hinvalid : inputFrame=none ∨ ¬ output.Present
  · rw [Go.Reassembler.pushFrame_invalid r hinvalid,
      DlmsHdlcReassembler.pushFrame_invalid handle hinvalid]
    exact ⟨r,rfl,h⟩
  rw [not_or,not_not] at hinvalid
  obtain ⟨frame,rfl⟩ := Option.ne_none_iff_exists'.mp hinvalid.1
  have hpresent := hinvalid.2
  rw [Go.Reassembler.pushFrame_present r frame hpresent,
    DlmsHdlcReassembler.pushFrame_present handle frame hpresent,Go.goFrame_valid (valid frame rfl)]
  cases hview : toCppFrame frame with
  | error status => exact ⟨r,rfl,h⟩
  | ok view =>
    obtain ⟨hresult,hnext⟩ := h.push view.toBuffer
    rw [← ownedFrame_eq] at hresult hnext
    dsimp only [Except.map]
    rw [← ownedFrame_eq]
    refine ⟨_,congrArg some (Prod.ext ?_ rfl),hnext⟩
    dsimp only
    rw [hresult]
    cases hcompleted : (handle.reassembler.pushFrame (ownedFrame view)).1.2 with
    | none =>
      have hstatus := HdlcReassembler.pushFrame_none hcompleted
      rw [Go.ofCompleted_none hcompleted,DlmsHdlcReassembler.complete,Go.Reassembler.complete]
      by_cases hmore : (handle.reassembler.pushFrame (ownedFrame view)).1.1=.segmentationIncomplete
      · rw [if_neg (not_not.mpr hmore),if_neg fun h => h.2 hmore]
      · rw [if_pos hmore,if_pos ⟨hstatus,hmore⟩]
    | some f =>
      have hcompletes := HdlcReassembler.pushFrame_eq_some_iff.mp hcompleted
      rw [HdlcReassembler.pushFrame_completes hcompletes]
      by_cases hroom : f.information.length ≤ output.memory.informationBufferSize.toNat
      · rw [DlmsHdlcReassembler.complete_fits hroom]
        refine if_neg ?_
        rintro ⟨hpos,hnull | hsmall⟩
        · exact alike ⟨hpresent,hnull,frame,view,f,rfl,hview,hcompletes,
            List.ne_nil_of_length_pos hpos,hroom⟩
        · exact absurd hsmall (Nat.not_lt.mpr hroom)
      · have hsmall := Nat.not_le.mp hroom
        rw [DlmsHdlcReassembler.complete_small hsmall]
        exact if_pos ⟨Nat.zero_lt_of_lt hsmall,Or.inr hsmall⟩

end DlmsHdlc
