import DlmsHdlc.Codec.SizeCheck

/-! What the strict codec calls do to the caller's memory: everything or nothing. -/
namespace DlmsHdlc
open Buffer

/-- A view that is valid and not null with a size describes as many bytes as it says. -/
theorem HdlcFrame.wellFormed_of_valid {frame : HdlcFrame}
    (hvalid : frame.informationData.Valid frame.informationSize.toNat)
    (hsize : frame.informationSize.toNat < 2^63)
    (hnull : ¬ (frame.informationData=none ∧ frame.informationSize≠0)) : frame.WellFormed where
  size_lt := hsize
  size_eq := by
    unfold HdlcFrame.information
    cases hdata : frame.informationData with
    | none =>
      have hzero : frame.informationSize=0 := by
        by_contra hne
        exact hnull ⟨hdata,hne⟩
      rw [Pointer.read_none,hzero]
      rfl
    | some bytes =>
      rw [Pointer.read_some,List.length_take_of_le (hvalid bytes hdata)]

theorem checkFrameSize_ok_le {frame : HdlcFrame} (h : frame.WellFormed)
    {limits : HdlcCodecLimits} {outputSize : ℕ} {formatFieldLength : UInt64}
    (hcheck : checkFrameSize frame limits outputSize=.ok formatFieldLength) :
    frame.toBuffer.wire.length ≤ outputSize := by
  rw [checkFrameSize_eq h] at hcheck
  simp only [ite_error_eq_ok] at hcheck
  rw [HdlcFrameBuffer.wire_length]
  omega

/-- The strict encoder leaves the output alone, or puts the image of the frame into the front of it
and leaves the rest alone. -/
theorem encodeFrameToBuffer_effect {frame : HdlcFrame}
    (hvalid : frame.informationData.Valid frame.informationSize.toNat)
    (hsize : frame.informationSize.toNat < 2^63) (limits : HdlcCodecLimits) (output : Pointer)
    (outputSize : ℕ) :
    ∃ status written writtenSize,
      encodeFrameToBuffer frame limits output outputSize=(status,written,writtenSize) ∧
      (status≠.ok → written=output ∧ writtenSize=0) ∧
      (status=.ok → writtenSize ≤ outputSize ∧ frame.toBuffer.wire.length=writtenSize ∧
        ∃ buffer, output=some buffer ∧
          written=some (frame.toBuffer.wire ++ buffer.drop writtenSize)) := by
  by_cases hstarts : StartsWriting frame limits output outputSize
  · obtain ⟨hnonnull,hnull,formatFieldLength,hcheck⟩ := hstarts
    obtain ⟨buffer,rfl⟩ := Option.ne_none_iff_exists'.mp hnonnull
    have hwell := HdlcFrame.wellFormed_of_valid hvalid hsize hnull
    have hencode := encodeFrameToBuffer_eq hwell limits buffer outputSize
    rw [hcheck] at hencode
    refine ⟨_,_,_,hencode,fun hstatus => absurd rfl hstatus,fun _ => ?_⟩
    exact ⟨checkFrameSize_ok_le hwell hcheck,rfl,buffer,rfl,rfl⟩
  · obtain ⟨status,hstatus,hencode⟩ := encodeFrameToBuffer_of_not_startsWriting hstarts
    exact ⟨_,_,_,hencode,fun _ => ⟨rfl,rfl⟩,fun hok => absurd hok hstatus⟩

theorem parseFrame_ok_le {input : List UInt8} {inputSize : ℕ} {limits : HdlcCodecLimits}
    {informationBufferSize : ℕ} {decoded : HdlcFrameBuffer}
    (h : parseFrame input inputSize limits informationBufferSize=.ok decoded) :
    decoded.information.length ≤ informationBufferSize := by
  unfold parseFrame at h
  dsimp only at h
  split at h
  · cases h
  split at h
  · cases h
  split at h
  · cases h
  · simp only [ite_error_eq_ok,Except.ok.injEq] at h
    obtain ⟨hroom,_,rfl⟩ := h
    exact Nat.not_lt.mp hroom

/-- The strict decoder leaves the information buffer and the fields of the frame alone, or puts the
Information into the front of the buffer and leaves the rest of it alone. -/
theorem decodeFrameFromBuffer_effect (input : Pointer) (inputSize : ℕ) (limits : HdlcCodecLimits)
    (frame : HdlcFrame) (informationBuffer : Pointer) (informationBufferSize : ℕ) :
    ∃ status decoded written informationSize,
      decodeFrameFromBuffer input inputSize limits frame informationBuffer informationBufferSize=
        (status,decoded,written,informationSize) ∧
      (status≠.ok → written=informationBuffer ∧ informationSize=0 ∧
        decoded={ frame with informationData := informationBuffer, informationSize := 0 }) ∧
      (status=.ok → informationSize ≤ informationBufferSize ∧
        ∀ buffer, informationBuffer=some buffer →
          ∃ information, information.length=informationSize ∧
            written=some (information ++ buffer.drop informationSize)) := by
  unfold decodeFrameFromBuffer
  cases input with
  | none => exact ⟨_,_,_,_,rfl,fun _ => ⟨rfl,rfl,rfl⟩,fun hok => absurd hok (by decide)⟩
  | some data =>
    dsimp only
    split
    · exact ⟨_,_,_,_,rfl,fun _ => ⟨rfl,rfl,rfl⟩,fun hok => absurd hok (by decide)⟩
    cases hparse : parseFrame (data.take inputSize) inputSize limits informationBufferSize with
    | error status =>
      exact ⟨_,_,_,_,rfl,fun _ => ⟨rfl,rfl,rfl⟩,fun hok => absurd hok (parseFrame_error hparse)⟩
    | ok decoded =>
      refine ⟨_,_,_,_,rfl,fun hstatus => absurd rfl hstatus,fun _ => ⟨parseFrame_ok_le hparse,?_⟩⟩
      rintro buffer rfl
      refine ⟨decoded.information,rfl,?_⟩
      split
      · rename_i hempty
        rw [hempty]
        rfl
      · simp [overwrite]

/-- Both strict calls are all or nothing on the caller's memory. -/
theorem strictCodec_allOrNothing {frame : HdlcFrame}
    (hvalid : frame.informationData.Valid frame.informationSize.toNat)
    (hsize : frame.informationSize.toNat < 2^63) (limits : HdlcCodecLimits) (output : Pointer)
    (outputSize : ℕ) (input : Pointer) (inputSize : ℕ) (view : HdlcFrame)
    (informationBuffer : Pointer) (informationBufferSize : ℕ) :
    (∃ status written writtenSize,
      encodeFrameToBuffer frame limits output outputSize=(status,written,writtenSize) ∧
      (status≠.ok → written=output ∧ writtenSize=0) ∧
      (status=.ok → writtenSize ≤ outputSize ∧ frame.toBuffer.wire.length=writtenSize ∧
        ∃ buffer, output=some buffer ∧
          written=some (frame.toBuffer.wire ++ buffer.drop writtenSize))) ∧
    ∃ status decoded written informationSize,
      decodeFrameFromBuffer input inputSize limits view informationBuffer informationBufferSize=
        (status,decoded,written,informationSize) ∧
      (status≠.ok → written=informationBuffer ∧ informationSize=0 ∧
        decoded={ view with informationData := informationBuffer, informationSize := 0 }) ∧
      (status=.ok → informationSize ≤ informationBufferSize ∧
        ∀ buffer, informationBuffer=some buffer →
          ∃ information, information.length=informationSize ∧
            written=some (information ++ buffer.drop informationSize)) :=
  ⟨encodeFrameToBuffer_effect hvalid hsize limits output outputSize,
    decodeFrameFromBuffer_effect input inputSize limits view informationBuffer
      informationBufferSize⟩

/-- The sample frame does not go into ten bytes, which keep what they hold. -/
theorem strictCodec_allOrNothing_sample : ∃ status written writtenSize,
    encodeFrameToBuffer sampleFrame defaultHdlcCodecLimits (some (List.replicate 10 1)) 10=
      (status,written,writtenSize) ∧
    (status≠.ok → written=some (List.replicate 10 1) ∧ writtenSize=0) := by
  have hvalid : sampleFrame.informationData.Valid sampleFrame.informationSize.toNat := by
    rintro bytes ⟨⟩
    decide
  obtain ⟨⟨status,written,writtenSize,hencode,hfailed,_⟩,_⟩ := strictCodec_allOrNothing hvalid
    sampleFrame_wellFormed.size_lt defaultHdlcCodecLimits (some (List.replicate 10 1)) 10 none 0
    sampleFrame none 0
  exact ⟨status,written,writtenSize,hencode,hfailed⟩

end DlmsHdlc
