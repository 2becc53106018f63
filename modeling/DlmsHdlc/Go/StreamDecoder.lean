import DlmsHdlc.Go.Agreement
import DlmsHdlc.StreamFault

/-! The stream decoder of the Go implementation, against the C++ one: they read the same frames, but
the Go decoder drops those that it has read in a call that ends in an error. -/
namespace DlmsHdlc.Go
open Machine Scanning

inductive NoisePolicy
  | ignore
  | reportError
  deriving DecidableEq, Repr

structure StreamDecoderOptions where
  limits : CodecLimits
  noisePolicy : NoisePolicy
  deriving DecidableEq, Repr

structure StreamDecoder where
  options : StreamDecoderOptions
  buffer : List UInt8
  deriving DecidableEq, Repr

namespace StreamDecoder

def newStreamDecoder (options : StreamDecoderOptions) : StreamDecoder := ⟨options,[]⟩

def reset (d : StreamDecoder) : StreamDecoder := { d with buffer := [] }

/-- The return statement of a call without an error; `ok` is the `nil` error. -/
def extracted (frames : List Frame) : List Frame × HdlcStatus :=
  if frames.length=0 then ([],.needMoreData) else (frames,.ok)

/-- The loop of `Push`: the frames and the error it returns, and the bytes it leaves. -/
def pushLoop (options : StreamDecoderOptions) (frames : List Frame) (buffer : List UInt8) :
    (List Frame × HdlcStatus) × List UInt8 :=
  match buffer.findIdx? (· == hdlcFlag) with
  | none =>
    if 0 < buffer.length ∧ options.noisePolicy=.reportError then (([],.invalidFlag),[])
    else (extracted frames,[])
  | some flagIdx =>
    if 0 < flagIdx ∧ options.noisePolicy=.reportError then (([],.invalidFlag),[])
    else
      let fromFlag := buffer.drop flagIdx
      if fromFlag.length < 3 then (extracted frames,fromFlag)
      else
        let ff := bigEndianUint16 (fromFlag.drop 1)
        if ff &&& frameFormatTypeMask≠frameFormatType3 then (([],.invalidFrameFormat),[])
        else
          let formatFieldLength := (ff &&& 0x07ff).toNat
          let fullFrameSize := formatFieldLength+2
          if formatFieldLength < 6 then (([],.invalidFrameLength),[])
          else if (effectiveMaximumFrameSize options.limits).toNat < fullFrameSize then
            (([],.frameTooLarge),[])
          else if fromFlag.length < fullFrameSize then (extracted frames,fromFlag)
          else
            match decodeFrameFromBuffer (fromFlag.take fullFrameSize) options.limits none with
            | .error err => (([],err),[])
            | .ok (frame,_) =>
              pushLoop options (frames ++ [frame]) (fromFlag.drop fullFrameSize)
termination_by buffer.length
decreasing_by
  have hlength : fromFlag.length=buffer.length-flagIdx := List.length_drop
  change (fromFlag.drop fullFrameSize).length < buffer.length
  rw [List.length_drop]
  omega

def push (d : StreamDecoder) (data : List UInt8) : (List Frame × HdlcStatus) × StreamDecoder :=
  let (result,buffer) := pushLoop d.options [] (d.buffer ++ data)
  (result,{ d with buffer := buffer })

end StreamDecoder

def ofPolicy : HdlcNoisePolicy → NoisePolicy
  | .ignoreUntilOpeningFlag => .ignore
  | .reportError => .reportError

def ofOptions (options : HdlcStreamDecoderOptions) : StreamDecoderOptions where
  limits := ofLimits options.limits
  noisePolicy := ofPolicy options.noisePolicy

namespace StreamDecoder

@[simp] theorem ofOptions_reportError (options : HdlcStreamDecoderOptions) :
    (ofOptions options).noisePolicy=.reportError ↔ options.noisePolicy=.reportError := by
  change ofPolicy options.noisePolicy=_ ↔ _
  cases options.noisePolicy <;> simp [ofPolicy]

/-- The index of the first flag and the suffix that starts with it. -/
theorem findFlag_cases (buffer : List UInt8) :
    (buffer.findIdx? (· == hdlcFlag)=none ∧ buffer.dropWhile (· != kHdlcFlag)=[]) ∨
    ∃ flagIdx, buffer.findIdx? (· == hdlcFlag)=some flagIdx ∧
      buffer.dropWhile (· != kHdlcFlag)=buffer.drop flagIdx ∧ buffer.drop flagIdx≠[] ∧
      (buffer.drop flagIdx≠buffer ↔ 0 < flagIdx) := by
  induction buffer with
  | nil => exact Or.inl ⟨rfl,rfl⟩
  | cons byte buffer ih =>
    have hflag : hdlcFlag=kHdlcFlag := rfl
    by_cases hbyte : byte=kHdlcFlag
    · right
      refine ⟨0,?_,?_,by simp,by simp⟩
      · simp [List.findIdx?_cons,hbyte,hflag]
      · simp [hbyte]
    obtain ⟨hnone,hdrop⟩ | ⟨flagIdx,hsome,hdrop,hne,_⟩ := ih
    · left
      constructor
      · simp [List.findIdx?_cons,hbyte,hflag] at hnone ⊢
        exact hnone
      · simp only [List.dropWhile_cons,bne_iff_ne,ne_eq,hbyte,not_false_eq_true,↓reduceIte,hdrop]
    · right
      refine ⟨flagIdx+1,?_,?_,hne,?_⟩
      · rw [List.findIdx?_cons,hsome]
        simp [hbyte,hflag]
      · simp only [List.dropWhile_cons,bne_iff_ne,ne_eq,hbyte,not_false_eq_true,↓reduceIte,hdrop,
          List.drop_succ_cons]
      · refine ⟨fun _ => Nat.succ_pos _,fun _ hsame => ?_⟩
        have hlength := congrArg List.length hsame
        rw [List.length_drop,List.length_cons] at hlength
        omega

/-- The Go decoder on the front of the buffer, and the C++ decoder with the size of that front. -/
theorem decodeFrameFromBuffer_take {buffer : List UInt8} {size : ℕ} (h : size ≤ buffer.length)
    (limits : HdlcCodecLimits) :
    (decodeFrameFromBuffer (buffer.take size) (ofLimits limits) none).map Prod.fst=
      (DlmsHdlc.decodeFrame (some buffer) size limits).map ofFrame := by
  have hdecode := decodeFrame_eq (buffer.take size) limits
  rw [List.length_take,min_eq_left h,decodeFrame_take] at hdecode
  exact hdecode

/-- The decoder inside the loop reports what the C++ decoder reports. -/
theorem decodeFrameFromBuffer_cases {buffer : List UInt8} {size : ℕ} (h : size ≤ buffer.length)
    (limits : HdlcCodecLimits) :
    (∃ status, DlmsHdlc.decodeFrame (some buffer) size limits=.error status ∧
      decodeFrameFromBuffer (buffer.take size) (ofLimits limits) none=.error status) ∨
    ∃ frame read, DlmsHdlc.decodeFrame (some buffer) size limits=.ok frame ∧
      decodeFrameFromBuffer (buffer.take size) (ofLimits limits) none=.ok (ofFrame frame,read) := by
  have hdecode := decodeFrameFromBuffer_take h limits
  cases hread : decodeFrameFromBuffer (buffer.take size) (ofLimits limits) none <;>
    cases hframe : DlmsHdlc.decodeFrame (some buffer) size limits <;> rw [hread,hframe] at hdecode
  · left
    exact ⟨_,rfl,congrArg Except.error (Except.error.inj hdecode)⟩
  · cases hdecode
  · cases hdecode
  · right
    rename_i read frame
    refine ⟨frame,read.2,rfl,congrArg Except.ok ?_⟩
    exact Prod.ext (Except.ok.inj hdecode) rfl

/-- What one round of the loop does with what the C++ decoder finds. -/
def afterRound (options : HdlcStreamDecoderOptions) (frames : List Frame) :
    Found UInt8 HdlcFrameBuffer HdlcStatus → (List Frame × HdlcStatus) × List UInt8
  | .wait kept => (extracted frames,kept)
  | .fail status => (([],status),[])
  | .item frame rest => pushLoop (ofOptions options) (frames ++ [ofFrame frame]) rest

theorem afterRound_ite (options : HdlcStreamDecoderOptions) (frames : List Frame) {p : Prop}
    [Decidable p] (found other : Found UInt8 HdlcFrameBuffer HdlcStatus) :
    afterRound options frames (if p then found else other)=
      if p then afterRound options frames found else afterRound options frames other :=
  apply_ite _ _ _ _

/-- The rounds of the two loops look at the same bytes in the same order. -/
theorem pushLoop_scan (options : HdlcStreamDecoderOptions) (frames : List Frame)
    (buffer : List UInt8) :
    pushLoop (ofOptions options) frames buffer=
      afterRound options frames (HdlcStreamDecoder.scan options buffer) := by
  rw [pushLoop]
  obtain ⟨hnone,hdrop⟩ | ⟨flagIdx,hsome,hdrop,hne,hpos⟩ := findFlag_cases buffer
  · have hscan : HdlcStreamDecoder.scan options buffer=
        if buffer≠[] ∧ options.noisePolicy=.reportError then .fail .invalidFlag
        else .wait [] := by simp [HdlcStreamDecoder.scan,hdrop]
    simp only [hnone,ofOptions_reportError,List.length_pos_iff,hscan,afterRound_ite]
    rfl
  have hscan : HdlcStreamDecoder.scan options buffer=
      if 0 < flagIdx ∧ options.noisePolicy=.reportError then .fail .invalidFlag
      else HdlcStreamDecoder.scanFrame options.limits (buffer.drop flagIdx) := by
    simp only [HdlcStreamDecoder.scan,hdrop,hne,hpos,↓reduceIte]
  simp only [hsome,ofOptions_reportError,hscan,afterRound_ite]
  refine ite_congr rfl (fun _ => rfl) fun _ => ?_
  generalize buffer.drop flagIdx=fromFlag
  have hlimits : (ofOptions options).limits=ofLimits options.limits := rfl
  have htypes : frameFormatTypeMask=0xf000 ∧ frameFormatType3=kFrameFormatType3 := ⟨rfl,rfl⟩
  simp only [HdlcStreamDecoder.scanFrame,hlimits,htypes,bigEndianUint16_eq,
    effectiveMaximumFrameSize_eq,afterRound_ite]
  -- The five conditions in front of the frame decoder are literally the same.
  refine ite_congr rfl (fun _ => rfl) fun hthree => ?_
  generalize readUint16HighByteFirst (fromFlag.drop 1)=format
  refine ite_congr rfl (fun _ => rfl) fun htype => ?_
  refine ite_congr rfl (fun _ => rfl) fun hsix => ?_
  refine ite_congr rfl (fun _ => rfl) fun hlarge => ?_
  refine ite_congr rfl (fun _ => rfl) fun hfull => ?_
  obtain ⟨status,hframe,hread⟩ | ⟨frame,read,hframe,hread⟩ :=
    decodeFrameFromBuffer_cases (Nat.not_lt.mp hfull) options.limits
  · simp only [hframe,hread]
    rfl
  · simp only [hframe,hread]
    rfl

/-- What `Push` makes of the drained buffer. -/
def afterDrain (frames : List Frame) :
    List HdlcFrameBuffer × Except HdlcStatus (List UInt8) → (List Frame × HdlcStatus) × List UInt8
  | (_,.error status) => (([],status),[])
  | (more,.ok kept) => (extracted (frames ++ more.map ofFrame),kept)

theorem afterDrain_item (frames : List Frame) (frame : HdlcFrameBuffer)
    (drained : List HdlcFrameBuffer × Except HdlcStatus (List UInt8)) :
    afterDrain frames (frame::drained.1,drained.2)=
      afterDrain (frames ++ [ofFrame frame]) drained := by
  obtain ⟨more,status | kept⟩ := drained
  · rfl
  · simp [afterDrain]

/-- The loop drains the buffer with the scanner of the C++ decoder. -/
theorem pushLoop_eq (options : HdlcStreamDecoderOptions) (frames : List Frame)
    (buffer : List UInt8) :
    pushLoop (ofOptions options) frames buffer=
      afterDrain frames ((HdlcStreamDecoder.scanner options).drain buffer) := by
  induction hn : buffer.length using Nat.strong_induction_on generalizing frames buffer with
  | _ n ih =>
    subst hn
    rw [pushLoop_scan]
    cases hscan : HdlcStreamDecoder.scan options buffer with
    | wait kept =>
      have hdrain : (HdlcStreamDecoder.scanner options).drain buffer=([],.ok kept) :=
        Scanner.drain_wait hscan
      rw [hdrain]
      simp [afterRound,afterDrain]
    | fail status =>
      have hdrain : (HdlcStreamDecoder.scanner options).drain buffer=([],.error status) :=
        Scanner.drain_fail hscan
      rw [hdrain]
      rfl
    | item frame rest =>
      have hdrain : (HdlcStreamDecoder.scanner options).drain buffer=_ := Scanner.drain_item hscan
      rw [hdrain,afterDrain_item,← ih _ (HdlcStreamDecoder.scan_progress hscan) _ _ rfl]
      rfl

end StreamDecoder

/-- Both decoders, pushed the same chunks. -/
def bothDecoders : Mealy (HdlcStreamDecoder × StreamDecoder) (List UInt8)
    ((HdlcStatus × List HdlcFrameBuffer) × (List Frame × HdlcStatus)) where
  step pair data :=
    let (output,decoder) := pair.1.push (some data) data.length
    let (goOutput,goDecoder) := pair.2.push data
    ((output,goOutput),(decoder,goDecoder))

/-- The two calls return the same and leave the same bytes. -/
structure SamePush (pair : HdlcStreamDecoder × StreamDecoder) (data : List UInt8) : Prop where
  frames : (pair.2.push data).1.1=(pair.1.push (some data) data.length).1.2.map ofFrame
  status : (pair.2.push data).1.2=(pair.1.push (some data) data.length).1.1
  buffer : (pair.2.push data).2.buffer=(pair.1.push (some data) data.length).2.buffer

/-- Both decoders hold the same options and the same bytes. -/
structure Paired (pair : HdlcStreamDecoder × StreamDecoder) : Prop where
  options : pair.2.options=ofOptions pair.1.options
  buffer : pair.2.buffer=pair.1.buffer

namespace Paired
variable {pair : HdlcStreamDecoder × StreamDecoder} (h : Paired pair)
include h

theorem push_eq (data : List UInt8) :
    pair.2.push data=
      let drained := (HdlcStreamDecoder.scanner pair.1.options).drain (pair.1.buffer ++ data)
      ((StreamDecoder.afterDrain [] drained).1,
        { pair.2 with buffer := (StreamDecoder.afterDrain [] drained).2 }) := by
  rw [StreamDecoder.push,h.options,h.buffer,StreamDecoder.pushLoop_eq,← h.options]

/-- Frames and errors do not mix in the Go decoder: it agrees unless a call has both. -/
theorem samePush_iff (data : List UInt8) :
    SamePush pair data ↔
      ¬ HdlcStreamDecoder.FrameBeforeFault pair.1.options (pair.1.buffer ++ data) := by
  have hread : Pointer.read (some data) data.length=data := by simp
  rw [HdlcStreamDecoder.frameBeforeFault_iff]
  rcases hdrain : (HdlcStreamDecoder.scanner pair.1.options).drain (pair.1.buffer ++ data)
    with ⟨frames,status | kept⟩
  · have hcpp : pair.1.push (some data) data.length=((status,frames),pair.1.reset) := by
      simp [HdlcStreamDecoder.push,hread,hdrain]
    have hgo : pair.2.push data=(([],status),{ pair.2 with buffer := [] }) := by
      rw [h.push_eq,hdrain]
      rfl
    constructor
    · rintro hsame ⟨_,_,hframes,hequal⟩
      have hempty := hsame.frames
      rw [hcpp,hgo] at hempty
      apply hframes
      rw [← (Prod.mk.inj hequal).1]
      exact List.map_eq_nil_iff.mp hempty.symm
    · intro hnone
      have hempty : frames=[] := by
        by_contra hframes
        exact hnone ⟨frames,status,hframes,rfl⟩
      refine ⟨?_,?_,?_⟩ <;> rw [hcpp,hgo]
      · simp [hempty]
      · rfl
  · have hcpp : pair.1.push (some data) data.length=
        ((if frames.isEmpty then .needMoreData else .ok,frames),
          { pair.1 with buffer := kept }) := by
      simp [HdlcStreamDecoder.push,hread,hdrain]
    have hgo : pair.2.push data=
        (StreamDecoder.extracted (frames.map ofFrame),{ pair.2 with buffer := kept }) := by
      rw [h.push_eq,hdrain]
      rfl
    refine ⟨fun _ => by simp,fun _ => ⟨?_,?_,?_⟩⟩ <;> rw [hcpp,hgo]
    · cases frames <;> rfl
    · cases frames <;> rfl

/-- Even a call with both leaves the same bytes, so that one divergence brings no other. -/
theorem step (data : List UInt8) : Paired (bothDecoders.step pair data).2 := by
  have hread : Pointer.read (some data) data.length=data := by simp
  change Paired ((pair.1.push (some data) data.length).2,(pair.2.push data).2)
  rw [h.push_eq,HdlcStreamDecoder.push,if_neg (by simp),hread]
  rcases (HdlcStreamDecoder.scanner pair.1.options).drain (pair.1.buffer ++ data)
    with ⟨frames,status | kept⟩ <;> exact ⟨h.options,rfl⟩

end Paired

/-- The two stream decoders agree along a run exactly when no call reads a frame and meets a fault
behind it. -/
theorem streamDecoders_agree_iff (options : HdlcStreamDecoderOptions)
    (chunks : List (List UInt8)) :
    bothDecoders.Along SamePush (.new options,.newStreamDecoder (ofOptions options)) chunks ↔
      bothDecoders.Along (fun pair data =>
        ¬ HdlcStreamDecoder.FrameBeforeFault pair.1.options (pair.1.buffer ++ data))
        (.new options,.newStreamDecoder (ofOptions options)) chunks := by
  apply bothDecoders.along_congr Paired
  · intro pair data _ hpaired
    exact hpaired.samePush_iff data
  · intro pair data _ hpaired _
    exact hpaired.step data
  · exact ⟨rfl,rfl⟩

/-- A Receive Ready frame and a byte of noise in one chunk: the Go decoder drops the frame. -/
theorem frameBeforeNoise_dropped :
    ¬ bothDecoders.Along SamePush
      (.new ⟨defaultHdlcCodecLimits,.reportError⟩,
        .newStreamDecoder (ofOptions ⟨defaultHdlcCodecLimits,.reportError⟩))
      [[0x7e,0xa0,0x07,0x07,0x21,0x11,0x74,0xc5,0x7e,0x00]] := by
  rintro ⟨hsame,_⟩
  have hpaired : Paired (.new ⟨defaultHdlcCodecLimits,.reportError⟩,
      .newStreamDecoder (ofOptions ⟨defaultHdlcCodecLimits,.reportError⟩)) := ⟨rfl,rfl⟩
  apply (hpaired.samePush_iff _).mp hsame
  exact ⟨[],_,receiveReadyFrame,[0x00],⟨by simp,fun _ => rfl⟩,receiveReadyFrame_decodes,
    .noise rfl (by decide),rfl⟩

end DlmsHdlc.Go
