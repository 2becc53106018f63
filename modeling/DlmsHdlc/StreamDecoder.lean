import DlmsHdlc.Codec.Canonical
import DlmsHdlc.Library.Machine
import DlmsHdlc.Library.Scanner

/-! The incremental stream decoder: a scanner over the buffered bytes, pushed chunk by chunk. -/
namespace DlmsHdlc
open Machine Scanning

inductive HdlcNoisePolicy
  | ignoreUntilOpeningFlag
  | reportError
  deriving DecidableEq, Repr

structure HdlcStreamDecoderOptions where
  limits : HdlcCodecLimits
  noisePolicy : HdlcNoisePolicy
  deriving DecidableEq, Repr

structure HdlcStreamDecoder where
  options : HdlcStreamDecoderOptions
  buffer : List UInt8
  deriving DecidableEq, Repr

namespace HdlcStreamDecoder

/-- The loop body once the buffer starts with a flag. -/
def scanFrame (limits : HdlcCodecLimits) (buffer : List UInt8) :
    Found UInt8 HdlcFrameBuffer HdlcStatus :=
  if buffer.length < 3 then .wait buffer
  else
    let frameFormat := readUint16HighByteFirst (buffer.drop 1)
    if frameFormat &&& 0xf000≠kFrameFormatType3 then .fail .invalidFrameFormat
    else
      let formatFieldLength := (frameFormat &&& 0x07ff).toNat
      let fullFrameSize := formatFieldLength+2
      if formatFieldLength < 6 then .fail .invalidFrameLength
      else if (effectiveMaximumFrameSize limits).toNat < fullFrameSize then .fail .frameTooLarge
      else if buffer.length < fullFrameSize then .wait buffer
      else
        match decodeFrame (some buffer) fullFrameSize limits with
        | .error status => .fail status
        | .ok frame => .item frame (buffer.drop fullFrameSize)

/-- One round of the loop in `Push`: to the next opening flag, and one frame from there. -/
def scan (options : HdlcStreamDecoderOptions) (buffer : List UInt8) :
    Found UInt8 HdlcFrameBuffer HdlcStatus :=
  let fromFlag := buffer.dropWhile (· != kHdlcFlag)
  if fromFlag=[] then
    if buffer≠[] ∧ options.noisePolicy=.reportError then .fail .invalidFlag else .wait []
  else if fromFlag≠buffer ∧ options.noisePolicy=.reportError then .fail .invalidFlag
  else scanFrame options.limits fromFlag

theorem scanFrame_progress {limits : HdlcCodecLimits} {buffer rest : List UInt8}
    {frame : HdlcFrameBuffer} (h : scanFrame limits buffer=.item frame rest) :
    rest.length < buffer.length := by
  unfold scanFrame at h
  dsimp only at h
  repeat' split at h
  all_goals cases h
  rw [List.length_drop]
  omega

theorem scan_progress {options : HdlcStreamDecoderOptions} {buffer rest : List UInt8}
    {frame : HdlcFrameBuffer} (h : scan options buffer=.item frame rest) :
    rest.length < buffer.length := by
  unfold scan at h
  dsimp only at h
  split at h
  · split at h <;> cases h
  split at h
  · cases h
  · exact (scanFrame_progress h).trans_le (List.dropWhile_suffix _).length_le

def scanner (options : HdlcStreamDecoderOptions) : Scanner UInt8 HdlcFrameBuffer HdlcStatus :=
  ⟨scan options,scan_progress⟩

/-- The constructor. -/
def new (options : HdlcStreamDecoderOptions) : HdlcStreamDecoder := ⟨options,[]⟩

def reset (decoder : HdlcStreamDecoder) : HdlcStreamDecoder := { decoder with buffer := [] }

/-- Status, the output vector `frames`, and the decoder after the call. Allocation succeeds: no
frame limit is above the `max_size()` of a vector (see `decodeFrame`), and `InternalError` is left
out. -/
def push (decoder : HdlcStreamDecoder) (data : Pointer) (size : ℕ) :
    (HdlcStatus × List HdlcFrameBuffer) × HdlcStreamDecoder :=
  if data=none ∧ size≠0 then ((.invalidArgument,[]),decoder)
  else
    match (scanner decoder.options).drain (decoder.buffer ++ data.read size) with
    | (frames,.error status) => ((status,frames),decoder.reset)
    | (frames,.ok buffer) =>
      ((if frames.isEmpty then .needMoreData else .ok,frames),{ decoder with buffer := buffer })

/-- Successive `Push` calls. -/
def machine : Mealy HdlcStreamDecoder (Pointer × ℕ) (HdlcStatus × List HdlcFrameBuffer) :=
  ⟨fun decoder chunk => decoder.push chunk.1 chunk.2⟩

/-- The status with which the call takes one of its `Reset()` paths. The status alone does not tell:
a truncated address inside a complete frame is reported as `NeedMoreData`, too. -/
def resetBy (decoder : HdlcStreamDecoder) (chunk : Pointer × ℕ) : Option HdlcStatus :=
  match ((scanner decoder.options).drain (decoder.buffer ++ chunk.1.read chunk.2)).2 with
  | .error status => some status
  | .ok _ => none

theorem resetBy_of_drain {decoder : HdlcStreamDecoder} {chunk : Pointer × ℕ}
    {frames : List HdlcFrameBuffer} {kept : List UInt8}
    (h : (scanner decoder.options).drain (decoder.buffer ++ chunk.1.read chunk.2)=(frames,.ok kept)) :
    decoder.resetBy chunk=none := by
  rw [resetBy,h]

/-- Push the chunks one by one, up to the first call that resets: all frames delivered, the status
of that call if there is one, and the final buffer. -/
def pushAll (decoder : HdlcStreamDecoder) : List (Pointer × ℕ) →
    List HdlcFrameBuffer × Option HdlcStatus × List UInt8
  | [] => ([],none,decoder.buffer)
  | chunk::chunks =>
    let ((status,frames),next) := decoder.push chunk.1 chunk.2
    if (decoder.resetBy chunk).isSome then (frames,some status,next.buffer)
    else (frames ++ (next.pushAll chunks).1,(next.pushAll chunks).2)

@[simp] theorem scan_nil (options : HdlcStreamDecoderOptions) : scan options []=.wait [] := by
  simp [scan]

/-- The search for the opening flag, byte by byte. -/
theorem scan_cons (options : HdlcStreamDecoderOptions) (byte : UInt8) (buffer : List UInt8) :
    scan options (byte::buffer)=
      if byte=kHdlcFlag then scanFrame options.limits (byte::buffer)
      else if options.noisePolicy=.reportError then .fail .invalidFlag
      else scan options buffer := by
  by_cases hbyte : byte=kHdlcFlag
  · simp [scan,hbyte]
  · have hdrop : (byte::buffer).dropWhile (· != kHdlcFlag)=buffer.dropWhile (· != kHdlcFlag) := by
      simp [hbyte]
    have hshorter : buffer.dropWhile (· != kHdlcFlag)≠byte::buffer := by
      intro h
      have hlength := (List.dropWhile_suffix (l := buffer) (· != kHdlcFlag)).length_le
      rw [h,List.length_cons] at hlength
      omega
    cases hpolicy : options.noisePolicy <;> simp [scan,hdrop,hbyte,hshorter,hpolicy]

end HdlcStreamDecoder

theorem readUint16HighByteFirst_append {input : List UInt8} (h : 2 ≤ input.length)
    (more : List UInt8) :
    readUint16HighByteFirst (input ++ more)=readUint16HighByteFirst input := by
  obtain _ | ⟨high,_ | ⟨low,input⟩⟩ := input
  · simp at h
  · simp at h
  · rfl

/-- The decoder reads nothing behind the size it is given. -/
theorem decodeFrame_append {data : List UInt8} {size : ℕ} (h : size ≤ data.length)
    (more : List UInt8) (limits : HdlcCodecLimits) :
    decodeFrame (some (data ++ more)) size limits=decodeFrame (some data) size limits := by
  rw [← decodeFrame_take,List.take_append_of_le_length h,decodeFrame_take]

namespace HdlcStreamDecoder

theorem scanFrame_wait {limits : HdlcCodecLimits} {buffer kept : List UInt8}
    (h : scanFrame limits buffer=.wait kept) : kept=buffer := by
  unfold scanFrame at h
  dsimp only at h
  repeat' split at h
  all_goals cases h
  all_goals rfl

/-- The size of a frame is found in its first three bytes, and decides what is read. -/
theorem scanFrame_append {limits : HdlcCodecLimits} {buffer : List UInt8} (more : List UInt8)
    (h : ∀ kept, scanFrame limits buffer≠.wait kept) :
    scanFrame limits (buffer ++ more)=(scanFrame limits buffer).append more := by
  unfold scanFrame at h ⊢
  by_cases hshort : buffer.length < 3
  · simp [hshort] at h
  · have hread : readUint16HighByteFirst ((buffer ++ more).drop 1)=
        readUint16HighByteFirst (buffer.drop 1) := by
      rw [List.drop_append_of_le_length (by omega)]
      apply readUint16HighByteFirst_append
      rw [List.length_drop]
      omega
    have hlonger : ¬ (buffer ++ more).length < 3 := by
      rw [List.length_append]
      omega
    simp only [hshort,hlonger,hread,↓reduceIte] at h ⊢
    generalize readUint16HighByteFirst (buffer.drop 1)=frameFormat at h ⊢
    split
    · rfl
    split
    · rfl
    split
    · rfl
    rename_i hformat hlength hlarge
    simp only [hformat,hlength,hlarge,↓reduceIte] at h
    split at h
    · simp at h
    rename_i hfull
    rw [if_neg (by rw [List.length_append]; omega),if_neg hfull,
      decodeFrame_append (by omega) more,List.drop_append_of_le_length (by omega)]
    cases decodeFrame (some buffer) ((frameFormat &&& 0x07ff).toNat+2) limits <;> rfl

/-- Chunk boundaries do not matter to the scan. -/
theorem scanner_incremental (options : HdlcStreamDecoderOptions) :
    (scanner options).Incremental := by
  constructor
  · intro buffer more h
    change ∀ kept, scan options buffer≠.wait kept at h
    change scan options (buffer ++ more)=(scan options buffer).append more
    induction buffer with
    | nil => simp at h
    | cons byte buffer ih =>
      rw [scan_cons] at h ⊢
      rw [List.cons_append,scan_cons]
      by_cases hflag : byte=kHdlcFlag
      · simp only [hflag,↓reduceIte] at h ⊢
        exact scanFrame_append more h
      by_cases hpolicy : options.noisePolicy=.reportError
      · simp only [hflag,hpolicy,↓reduceIte]
        rfl
      · simp only [hflag,hpolicy,↓reduceIte] at h ⊢
        exact ih h
  · intro buffer kept more h
    change scan options buffer=_ at h
    change scan options (buffer ++ more)=scan options (kept ++ more)
    induction buffer with
    | nil =>
      rw [scan_nil,Found.wait.injEq] at h
      rw [h]
    | cons byte buffer ih =>
      rw [scan_cons] at h
      split at h
      · rw [scanFrame_wait h]
      split at h
      · cases h
      · rename_i hflag hpolicy
        rw [List.cons_append,scan_cons,if_neg hflag,if_neg hpolicy,ih h]

/-- Noise that the policy tolerates. -/
def Tolerated (policy : HdlcNoisePolicy) (noise : List UInt8) : Prop :=
  kHdlcFlag ∉ noise ∧ (policy=.reportError → noise=[])

theorem scan_noise {options : HdlcStreamDecoderOptions} {noise : List UInt8}
    (h : Tolerated options.noisePolicy noise) (buffer : List UInt8) :
    scan options (noise ++ buffer)=scan options buffer := by
  induction noise with
  | nil => rfl
  | cons byte noise ih =>
    obtain ⟨hflag,hpolicy⟩ := h
    rw [List.mem_cons,not_or] at hflag
    have hignore : options.noisePolicy≠.reportError := by
      intro hp
      cases hpolicy hp
    rw [List.cons_append,scan_cons,if_neg (Ne.symm hflag.1),if_neg hignore]
    exact ih ⟨hflag.2,fun hp => absurd hp hignore⟩

/-- What the frame decoder accepts is one item, whatever follows it. -/
theorem scan_accepted {options : HdlcStreamDecoderOptions} {bytes : List UInt8}
    {frame : HdlcFrameBuffer} (h : decodeFrame (some bytes) bytes.length options.limits=.ok frame)
    (more : List UInt8) : scan options (bytes ++ more)=.item frame more := by
  obtain ⟨length,middle,hlength,hframe,_,hsum,hbytes,_⟩ := decodeFrame_eq_ok h
  have hd := frame.destination.encodedSize_cases
  have hlt : length < 2048 := by omega
  have hsize : bytes.length=length+2 := by
    rw [hbytes,enclose_length,List.length_append,HdlcFrameBuffer.headerOf_length]
    omega
  have hread : readUint16HighByteFirst ((bytes ++ more).drop 1)=
      frameFormat frame.segmented (.ofNat length) := by
    rw [hbytes]
    simp [enclose,HdlcFrameBuffer.headerOf]
  have hscan : scan options (bytes ++ more)=scanFrame options.limits (bytes ++ more) := by
    rw [hbytes,enclose,List.append_assoc,List.append_assoc,List.append_assoc,List.singleton_append,
      scan_cons,if_pos rfl]
  have hdecode : decodeFrame (some (bytes ++ more)) (length+2) options.limits=.ok frame := by
    rw [← hsize,decodeFrame_append le_rfl,h]
  rw [hscan]
  unfold scanFrame
  simp only [hread,frameFormat_type _ hlt,frameFormat_length _ hlt,List.length_append,hsize]
  rw [if_neg (by omega),if_neg (by simp),if_neg (by omega),if_neg (by omega),if_neg (by omega),
    hdecode]
  dsimp only
  rw [← hsize,List.drop_left]

/-- The image of a frame within the limits is one item, whatever follows it. -/
theorem scan_wire {options : HdlcStreamDecoderOptions} {frame : HdlcFrameBuffer}
    (h : frame.Fits options.limits) (more : List UInt8) :
    scan options (frame.wire ++ more)=.item frame more := by
  apply scan_accepted
  exact (frame.decodeFrame_image_eq_ok_iff options.limits h.format_le frame).mpr ⟨h,rfl⟩

/-- What the sender puts on the line: each frame behind its noise. -/
def stream (limits : HdlcCodecLimits) : List (List UInt8 × HdlcFrame) → List UInt8 → List UInt8
  | [],last => last
  | (noise,frame)::items,last =>
    noise ++ (encodeFrame frame limits).toOption.getD [] ++ stream limits items last

/-- The whole stream drains into exactly its frames. -/
theorem drain_stream (options : HdlcStreamDecoderOptions) (items : List (List UInt8 × HdlcFrame))
    (last : List UInt8)
    (hframes : ∀ item ∈ items, item.2.WellFormed ∧
      ∃ bytes, encodeFrame item.2 options.limits=.ok bytes)
    (hnoise : ∀ item ∈ items, Tolerated options.noisePolicy item.1)
    (hlast : Tolerated options.noisePolicy last) :
    (scanner options).drain (stream options.limits items last)=
      (items.map (fun item => item.2.toBuffer),.ok []) := by
  induction items with
  | nil =>
    apply Scanner.drain_wait
    change scan options last=_
    rw [← List.append_nil last,scan_noise hlast,scan_nil]
  | cons item items ih =>
    obtain ⟨noise,frame⟩ := item
    obtain ⟨hwell,bytes,hbytes⟩ := hframes _ List.mem_cons_self
    obtain ⟨hfits,rfl⟩ := (encodeFrame_eq_ok_iff hwell _ _).mp hbytes
    have hrest := ih (fun item h => hframes item (List.mem_cons_of_mem _ h))
      (fun item h => hnoise item (List.mem_cons_of_mem _ h))
    have hscan : (scanner options).scan (stream options.limits ((noise,frame)::items) last)=
        .item frame.toBuffer (stream options.limits items last) := by
      change scan options (noise ++ (encodeFrame frame options.limits).toOption.getD [] ++ _)=_
      rw [hbytes,List.append_assoc,scan_noise (hnoise _ List.mem_cons_self)]
      exact scan_wire hfits _
    rw [Scanner.drain_item hscan,hrest]
    rfl

theorem scanner_drain_nil (options : HdlcStreamDecoderOptions) :
    (scanner options).drain []=([],.ok []) := by
  apply Scanner.drain_wait
  exact scan_nil options

theorem readable_nonnull {chunk : Pointer × ℕ} (h : (chunk.1.read chunk.2).length=chunk.2) :
    ¬ (chunk.1=none ∧ chunk.2≠0) := by
  rintro ⟨hdata,hsize⟩
  apply hsize
  rw [← h,hdata,Pointer.read_none,List.length_nil]

/-- A run of calls without errors is the scanner draining the pieces. -/
theorem machine_of_drainPieces (decoder : HdlcStreamDecoder) (chunks : List (Pointer × ℕ))
    (hchunks : ∀ chunk ∈ chunks, (chunk.1.read chunk.2).length=chunk.2)
    {parts : List (List HdlcFrameBuffer)} {kept : List UInt8}
    (h : (scanner decoder.options).drainPieces decoder.buffer
      (chunks.map (fun chunk => chunk.1.read chunk.2))=some (parts,kept)) :
    machine.outputs decoder chunks=
        parts.map (fun frames => (if frames.isEmpty then .needMoreData else .ok,frames)) ∧
      (machine.final decoder chunks).buffer=kept := by
  induction chunks generalizing decoder parts with
  | nil =>
    obtain ⟨rfl,rfl⟩ : [] = parts ∧ decoder.buffer = kept := by
      simpa [Scanner.drainPieces] using h
    exact ⟨rfl,rfl⟩
  | cons chunk chunks ih =>
    have hnull := readable_nonnull (hchunks chunk List.mem_cons_self)
    rw [List.map_cons,Scanner.drainPieces] at h
    rcases hd : (scanner decoder.options).drain (decoder.buffer ++ chunk.1.read chunk.2)
      with ⟨frames,status | buffer⟩
    · simp [hd] at h
    · rw [hd] at h
      obtain ⟨⟨rest,kept'⟩,hrest,hrun⟩ := Option.map_eq_some_iff.mp h
      obtain ⟨rfl,rfl⟩ := Prod.mk.inj hrun
      have hstep : machine.step decoder chunk=
          ((if frames.isEmpty then .needMoreData else .ok,frames),
            { decoder with buffer := buffer }) := by
        change decoder.push chunk.1 chunk.2=_
        rw [push,if_neg hnull,hd]
      obtain ⟨houtputs,hfinal⟩ := ih { decoder with buffer := buffer }
        (fun chunk h => hchunks chunk (List.mem_cons_of_mem _ h)) hrest
      rw [Mealy.outputs_cons,Mealy.final_cons,hstep]
      refine ⟨?_,hfinal⟩
      rw [houtputs]
      rfl

/-- The outcome of a drained stream: an error empties the buffer. -/
def outcome : Except HdlcStatus (List UInt8) → Option HdlcStatus × List UInt8
  | .error status => (some status,[])
  | .ok buffer => (none,buffer)

/-- Pushing up to the first error is draining up to the first error. -/
theorem pushAll_eq (decoder : HdlcStreamDecoder) (chunks : List (Pointer × ℕ))
    (hchunks : ∀ chunk ∈ chunks, (chunk.1.read chunk.2).length=chunk.2) :
    let drained := (scanner decoder.options).drainUntilError decoder.buffer
      (chunks.map (fun chunk => chunk.1.read chunk.2))
    decoder.pushAll chunks=(drained.1,outcome drained.2) := by
  induction chunks generalizing decoder with
  | nil => rfl
  | cons chunk chunks ih =>
    have hnull := readable_nonnull (hchunks chunk List.mem_cons_self)
    rw [pushAll,resetBy,push,if_neg hnull,List.map_cons,Scanner.drainUntilError]
    rcases (scanner decoder.options).drain (decoder.buffer ++ chunk.1.read chunk.2)
      with ⟨frames,status | buffer⟩
    · rfl
    · have hrest := ih { decoder with buffer := buffer }
        (fun chunk h => hchunks chunk (List.mem_cons_of_mem _ h))
      simp only [Option.isSome_none,Bool.false_eq_true,↓reduceIte,hrest]

end HdlcStreamDecoder

/-- Every cut of the stream into chunks delivers exactly the frames that were sent, in order and
each once, with `Ok` for the calls that deliver and `NeedMoreData` for the others. -/
theorem streamDecoder_delivers (options : HdlcStreamDecoderOptions)
    (items : List (List UInt8 × HdlcFrame)) (last : List UInt8)
    (hframes : ∀ item ∈ items, item.2.WellFormed ∧
      ∃ bytes, encodeFrame item.2 options.limits=.ok bytes)
    (hnoise : ∀ noise ∈ last::items.map Prod.fst,
      HdlcStreamDecoder.Tolerated options.noisePolicy noise)
    (chunks : List (Pointer × ℕ))
    (hchunks : ∀ chunk ∈ chunks, (chunk.1.read chunk.2).length=chunk.2)
    (hstream : chunks.flatMap (fun chunk => chunk.1.read chunk.2)=
      HdlcStreamDecoder.stream options.limits items last) :
    (∀ output ∈ HdlcStreamDecoder.machine.outputs (.new options) chunks,
      output.1=if output.2=[] then .needMoreData else .ok) ∧
    (HdlcStreamDecoder.machine.outputs (.new options) chunks).flatMap Prod.snd=
      items.map (fun item => item.2.toBuffer) ∧
    (HdlcStreamDecoder.machine.final (.new options) chunks).buffer=[] := by
  have hdrain := HdlcStreamDecoder.drain_stream options items last hframes
    (fun item h => hnoise item.1 (List.mem_cons_of_mem _ (List.mem_map_of_mem h)))
    (hnoise last List.mem_cons_self)
  rw [← hstream,List.flatMap_def,← List.nil_append (List.flatten _)] at hdrain
  have hempty := HdlcStreamDecoder.scanner_drain_nil options
  obtain ⟨parts,hparts,hflatten⟩ :=
    (HdlcStreamDecoder.scanner_incremental options).drainPieces_flatten hempty _ hdrain
  obtain ⟨houtputs,hfinal⟩ := HdlcStreamDecoder.machine_of_drainPieces (.new options) chunks
    hchunks hparts
  rw [houtputs]
  refine ⟨?_,?_,hfinal⟩
  · simp
  · rw [List.flatMap_map,← hflatten]
    simp

/-- The sample frame behind a byte of noise, cut inside its Frame Format field and with an empty
chunk at the cut. -/
theorem streamDecoder_delivers_sample :
    let chunks : List (Pointer × ℕ) := [(some [0x00,0x7e,0xa0],3),(none,0),
      (some (sampleFrame.toBuffer.wire.drop 2 ++ [0x01]),13)]
    let options := HdlcStreamDecoderOptions.mk defaultHdlcCodecLimits .ignoreUntilOpeningFlag
    (∀ output ∈ HdlcStreamDecoder.machine.outputs (.new options) chunks,
      output.1=if output.2=[] then .needMoreData else .ok) ∧
    (HdlcStreamDecoder.machine.outputs (.new options) chunks).flatMap Prod.snd=
      [sampleFrame.toBuffer] ∧
    (HdlcStreamDecoder.machine.final (.new options) chunks).buffer=[] :=
  streamDecoder_delivers ⟨defaultHdlcCodecLimits,.ignoreUntilOpeningFlag⟩ [([0x00],sampleFrame)]
    [0x01] (by simpa using ⟨sampleFrame_wellFormed,_,rfl⟩)
    (by simp [HdlcStreamDecoder.Tolerated,kHdlcFlag]) _
    (by simpa [Pointer.read] using (by decide : 12 ≤ sampleFrame.toBuffer.formatLength)) rfl

/-- The cut does not matter, whatever the stream is: the same frames arrive up to the first error,
the error is the same, and without one the same bytes stay in the buffer. -/
theorem streamDecoder_chunking (options : HdlcStreamDecoderOptions)
    (chunks otherChunks : List (Pointer × ℕ))
    (hchunks : ∀ chunk ∈ chunks ++ otherChunks, (chunk.1.read chunk.2).length=chunk.2)
    (hstream : chunks.flatMap (fun chunk => chunk.1.read chunk.2)=
      otherChunks.flatMap (fun chunk => chunk.1.read chunk.2)) :
    (HdlcStreamDecoder.new options).pushAll chunks=
      (HdlcStreamDecoder.new options).pushAll otherChunks := by
  rw [HdlcStreamDecoder.pushAll_eq _ _ fun chunk h => hchunks chunk (List.mem_append_left _ h),
    HdlcStreamDecoder.pushAll_eq _ _ fun chunk h => hchunks chunk (List.mem_append_right _ h)]
  have hdrain := (HdlcStreamDecoder.scanner_incremental options).drainUntilError_eq
    (HdlcStreamDecoder.scanner_drain_nil options)
  simp only [HdlcStreamDecoder.new,hdrain,← List.flatMap_def,hstream]

/-- A frame and a foreign format identifier, whole and cut inside both. -/
theorem streamDecoder_chunking_sample :
    let options := HdlcStreamDecoderOptions.mk defaultHdlcCodecLimits .reportError
    (HdlcStreamDecoder.new options).pushAll
        [(some (sampleFrame.toBuffer.wire ++ [0x7e,0x00,0x00]),17)]=
      (HdlcStreamDecoder.new options).pushAll [(some (sampleFrame.toBuffer.wire.take 5),5),
        (none,0),(some (sampleFrame.toBuffer.wire.drop 5 ++ [0x7e]),10),(some [0x00,0x00],2)] :=
  streamDecoder_chunking ⟨defaultHdlcCodecLimits,.reportError⟩ _ _ (by decide +kernel)
    (by decide +kernel)

end DlmsHdlc
