import DlmsHdlc.Go.Reassembly
import DlmsHdlc.Go.StreamDecoder
import DlmsHdlc.Segmentation.GoSegmenter
import DlmsHdlc.Transport.Line
import DlmsHdlc.Transport.Placement

/-! From payloads to a line of bytes and back: segmenter and encoder on one side, stream decoder and
reassembler on the other one, each side from either library. -/
namespace DlmsHdlc
open Machine Scanning

theorem mapM_eq_ok_iff {α β ε : Type*} {f : α → Except ε β} {xs : List α} {ys : List β} :
    xs.mapM f=.ok ys ↔ List.Forall₂ (fun x y => f x=.ok y) xs ys := by
  induction xs generalizing ys with
  | nil =>
    rw [List.forall₂_nil_left_iff,List.mapM_nil]
    constructor
    · rintro ⟨⟩
      rfl
    · rintro rfl
      rfl
  | cons x xs ih =>
    rw [List.mapM_cons,List.forall₂_cons_left_iff]
    cases hx : f x with
    | error error =>
      constructor
      · rintro ⟨⟩
      · rintro ⟨y,_,hy,_⟩
        cases hy
    | ok y =>
      constructor
      · intro h
        cases hxs : xs.mapM f with
        | error error =>
          rw [hxs] at h
          cases h
        | ok values =>
          rw [hxs] at h
          cases h
          exact ⟨y,values,rfl,ih.mp hxs,rfl⟩
      · rintro ⟨_,values,⟨⟩,hvalues,rfl⟩
        rw [ih.mpr hvalues]
        rfl

/-- A payload, and the frame that its segments shall be like. -/
structure Message where
  baseFrame : HdlcFrame
  information : Pointer
  informationSize : ℕ
  deriving DecidableEq, Repr

namespace Message

def payload (message : Message) : List UInt8 := message.information.read message.informationSize

/-- The pointer is good for the whole size, and no object is larger than `PTRDIFF_MAX`. -/
structure WellFormed (message : Message) : Prop where
  size_lt : message.informationSize < 2^63
  size_eq : message.payload.length=message.informationSize

/-- The one frame that the segments stand for. -/
def whole (message : Message) : HdlcFrameBuffer where
  segmented := false
  destination := message.baseFrame.destination
  source := message.baseFrame.source
  control := message.baseFrame.control
  information := message.payload

/-- The payload is segmented, and every segment encoded. -/
def words (limits : HdlcCodecLimits) (message : Message) : Except HdlcStatus (List (List UInt8)) :=
  ((HdlcSegmenter.mk ⟨limits⟩).segmentInformation message.baseFrame message.information
    message.informationSize).bind fun frames =>
      frames.mapM fun frame => encodeFrame frame.view limits

/-- The same in Go. -/
def goWords (limits : HdlcCodecLimits) (message : Message) :
    Except HdlcStatus (List (List UInt8)) :=
  ((Go.Segmenter.newSegmenter ⟨Go.ofLimits limits⟩).segment (Go.ofFrame message.baseFrame.toBuffer)
    message.payload).bind fun frames =>
      frames.mapM fun frame => Go.encodeFrame frame (Go.ofLimits limits)

variable {limits : HdlcCodecLimits} {message : Message} {words : List (List UInt8)}

/-- A well-formed message is segmented into frames shorter than any object. -/
theorem WellFormed.segmented (h : message.WellFormed) (limits : HdlcCodecLimits) :
    ∃ frames, (HdlcSegmenter.mk ⟨limits⟩).segmentInformation message.baseFrame message.information
        message.informationSize=.ok frames ∧
      Segments message.baseFrame (HdlcSegmenter.effectiveMaximumInformationFieldSize limits).toNat
        message.payload frames ∧
      ∀ frame ∈ frames, frame.information.length < 2^63 := by
  obtain ⟨frames,hframes,hsegments⟩ :=
    HdlcSegmenter.segmentInformation_segments ⟨⟨limits⟩⟩ message.baseFrame h.size_eq
  refine ⟨frames,hframes,hsegments,?_⟩
  intro frame hframe
  have hle := (hsegments.length_le frame hframe).trans (Nat.min_le_right _ _)
  have hsize : (message.information.read message.informationSize).length < 2^63 :=
    h.size_eq.trans_lt h.size_lt
  exact hle.trans_lt hsize

/-- What is sent are the images of the segments, each within the limits. -/
theorem WellFormed.words_segments (h : message.WellFormed) (sent : message.words limits=.ok words) :
    ∃ frames, Segments message.baseFrame
        (HdlcSegmenter.effectiveMaximumInformationFieldSize limits).toNat message.payload frames ∧
      (∀ frame ∈ frames, frame.Fits limits) ∧ words=frames.map HdlcFrameBuffer.wire := by
  obtain ⟨frames,hframes,hsegments,hshort⟩ := h.segmented limits
  rw [Message.words,hframes] at sent
  have hencoded := mapM_eq_ok_iff.mp sent
  refine ⟨frames,hsegments,?_⟩
  clear hsegments hframes sent
  induction hencoded with
  | nil => exact ⟨by simp,rfl⟩
  | @cons frame word frames words hword _ ih =>
    obtain ⟨hfits,rfl⟩ := ih fun frame hframe => hshort frame (List.mem_cons_of_mem _ hframe)
    have hlength := hshort frame List.mem_cons_self
    obtain ⟨hframe,rfl⟩ := (encodeFrame_eq_ok_iff (HdlcFrameBuffer.view_wellFormed hlength)
      limits word).mp hword
    rw [HdlcFrameBuffer.toBuffer_view (Nat.lt_trans hlength (by decide))] at hframe ⊢
    exact ⟨List.forall_mem_cons.mpr ⟨hframe,hfits⟩,rfl⟩

/-- Both libraries send the same bytes for a message, or refuse it with the same status. -/
theorem WellFormed.goWords_eq (h : message.WellFormed) (limits : HdlcCodecLimits) :
    message.goWords limits=message.words limits := by
  obtain ⟨frames,hframes,hsegments,hshort⟩ := h.segmented limits
  have hsegment := Go.Segmenter.segment_eq limits message.baseFrame h.size_lt h.size_eq
  rw [hframes] at hsegment
  rw [goWords,Message.words,hframes]
  change (Go.Segmenter.segment _ _ (message.information.read message.informationSize)).bind _=_
  rw [hsegment]
  change (frames.map Go.ofFrame).mapM _=frames.mapM _
  clear hframes hsegments hsegment
  induction frames with
  | nil => rfl
  | cons frame frames ih =>
    have hlength := hshort frame List.mem_cons_self
    have hword : Go.encodeFrame (Go.ofFrame frame) (Go.ofLimits limits)=
        encodeFrame frame.view limits := by
      rw [Go.encodeFrame_ofFrame frame hlength,
        encodeFrame_eq (HdlcFrameBuffer.view_wellFormed hlength),
        HdlcFrameBuffer.toBuffer_view (Nat.lt_trans hlength (by decide)),
        frame.view_information (Nat.lt_trans hlength (by decide))]
      rfl
    rw [List.map_cons,List.mapM_cons,List.mapM_cons,hword,
      ih fun frame hframe => hshort frame (List.mem_cons_of_mem _ hframe)]

end Message

namespace HdlcStreamDecoder

/-- However a line of frames is cut, its frames come out and nothing stays. -/
theorem machine_line (options : HdlcStreamDecoderOptions)
    (items : List (List UInt8 × HdlcFrameBuffer)) {last : List UInt8}
    (hframes : ∀ item ∈ items, Tolerated options.noisePolicy item.1 ∧ item.2.Fits options.limits)
    (hlast : Tolerated options.noisePolicy last) {chunks : List (Pointer × ℕ)}
    (hchunks : ∀ chunk ∈ chunks, (chunk.1.read chunk.2).length=chunk.2)
    (hline : chunks.flatMap (fun chunk => chunk.1.read chunk.2)=frameCode.line items last) :
    (machine.outputs (.new options) chunks).flatMap Prod.snd=items.map Prod.snd ∧
      (machine.final (.new options) chunks).buffer=[] := by
  have hdrain := drain_line items hframes hlast
  rw [← hline,List.flatMap_def,← List.nil_append (List.flatten _)] at hdrain
  obtain ⟨parts,hparts,hflatten⟩ :=
    (scanner_incremental options).drainPieces_flatten (scanner_drain_nil options) _ hdrain
  obtain ⟨houtputs,hfinal⟩ := machine_of_drainPieces (.new options) chunks hchunks hparts
  rw [houtputs,List.flatMap_map,← hflatten]
  exact ⟨List.flatMap_id,hfinal⟩

end HdlcStreamDecoder

namespace Go.StreamDecoder

/-- Successive `Push` calls. -/
def machine : Mealy StreamDecoder (List UInt8) (List Frame × HdlcStatus) := ⟨push⟩

/-- Without errors the Go decoder is the same scanner draining the pieces. -/
theorem machine_of_drainPieces {options : HdlcStreamDecoderOptions} {d : StreamDecoder}
    (hoptions : d.options=ofOptions options) (chunks : List (List UInt8))
    {parts : List (List HdlcFrameBuffer)} {kept : List UInt8}
    (h : (HdlcStreamDecoder.scanner options).drainPieces d.buffer chunks=some (parts,kept)) :
    (machine.outputs d chunks).flatMap Prod.fst=parts.flatten.map ofFrame ∧
      (machine.final d chunks).buffer=kept := by
  induction chunks generalizing d parts with
  | nil =>
    cases h
    exact ⟨rfl,rfl⟩
  | cons chunk chunks ih =>
    rw [Scanner.drainPieces] at h
    rcases hdrain : (HdlcStreamDecoder.scanner options).drain (d.buffer ++ chunk)
      with ⟨frames,status | buffer⟩
    · simp [hdrain] at h
    · rw [hdrain] at h
      obtain ⟨⟨rest,kept'⟩,hrest,hrun⟩ := Option.map_eq_some_iff.mp h
      obtain ⟨rfl,rfl⟩ := Prod.mk.inj hrun
      have hpush : d.push chunk=
          (extracted (frames.map ofFrame),{ d with buffer := buffer }) := by
        rw [push,hoptions,pushLoop_eq,hdrain]
        rfl
      obtain ⟨houtputs,hfinal⟩ := ih (d := { d with buffer := buffer }) hoptions hrest
      rw [Mealy.outputs_cons,Mealy.final_cons]
      change (_::machine.outputs (d.push chunk).2 chunks).flatMap Prod.fst=_ ∧
        (machine.final (d.push chunk).2 chunks).buffer=_
      rw [hpush,List.flatMap_cons,List.flatten_cons,List.map_append,houtputs]
      refine ⟨?_,hfinal⟩
      exact congrArg (· ++ _) ((congrArg Prod.fst (congrArg Prod.fst hpush)).trans
        (extracted_fst _))

/-- The same for the Go decoder. -/
theorem machine_line (options : HdlcStreamDecoderOptions)
    (items : List (List UInt8 × HdlcFrameBuffer)) {last : List UInt8}
    (hframes : ∀ item ∈ items, HdlcStreamDecoder.Tolerated options.noisePolicy item.1 ∧
      item.2.Fits options.limits)
    (hlast : HdlcStreamDecoder.Tolerated options.noisePolicy last) {chunks : List (List UInt8)}
    (hline : chunks.flatten=frameCode.line items last) :
    (machine.outputs (newStreamDecoder (ofOptions options)) chunks).flatMap Prod.fst=
        (items.map Prod.snd).map ofFrame ∧
      (machine.final (newStreamDecoder (ofOptions options)) chunks).buffer=[] := by
  have hdrain := HdlcStreamDecoder.drain_line items hframes hlast
  rw [← hline,← List.nil_append (List.flatten _)] at hdrain
  obtain ⟨parts,hparts,hflatten⟩ := (HdlcStreamDecoder.scanner_incremental options)
    |>.drainPieces_flatten (HdlcStreamDecoder.scanner_drain_nil options) _ hdrain
  rw [← hflatten]
  exact machine_of_drainPieces rfl chunks hparts

end Go.StreamDecoder

namespace HdlcReassembler

/-- The segments of a sequence of messages complete the messages, one by one. -/
theorem machine_messages {reassembler : HdlcReassembler} (hidle : reassembler.hasPending=false)
    {maximum : ℕ} {messages : List Message} {segments : List (List HdlcFrameBuffer)}
    (hsegments : List.Forall₂ (fun message frames =>
      Segments message.baseFrame maximum message.payload frames) messages segments)
    (hfits : ∀ message ∈ messages, message.payload.length ≤
      (effectiveMaximumReassembledInformationSize reassembler.limits).toNat) :
    (machine.outputs reassembler segments.flatten).filterMap Prod.snd=messages.map Message.whole ∧
      (machine.final reassembler segments.flatten).hasPending=false := by
  induction hsegments generalizing reassembler with
  | nil => exact ⟨rfl,hidle⟩
  | @cons message frames messages segments hframes _ ih =>
    obtain ⟨houtputs,hnext⟩ := machine_segments hidle hframes (hfits _ List.mem_cons_self)
    have hlimits : (machine.final reassembler frames).limits=reassembler.limits :=
      machine.final_invariant (fun next => next.limits=reassembler.limits)
        (fun next frame h => (next.pushFrame_limits frame).trans h) rfl frames
    obtain ⟨hrest,hfinal⟩ := ih hnext fun message hmessage => by
      rw [hlimits]
      exact hfits message (List.mem_cons_of_mem _ hmessage)
    rw [List.flatten_cons,Mealy.outputs_append,Mealy.final_append,List.filterMap_append,houtputs,
      hrest]
    refine ⟨?_,hfinal⟩
    have hincomplete : (List.replicate (frames.length-1)
        (HdlcStatus.segmentationIncomplete,(none : Option HdlcFrameBuffer))).filterMap Prod.snd=
          [] := by
      rw [List.filterMap_replicate]
    rw [List.filterMap_append,hincomplete]
    rfl

end HdlcReassembler

namespace Go.Reassembler

/-- Over any frames the Go reassembler completes what the C++ one does. -/
theorem Matches.run {r : Reassembler} {reassembler : HdlcReassembler} (h : r.Matches reassembler)
    (frames : List HdlcFrameBuffer) :
    (machine.outputs r (frames.map ofFrame)).filterMap Except.toOption=
        ((HdlcReassembler.machine.outputs reassembler frames).filterMap Prod.snd).map ofFrame ∧
      (machine.final r (frames.map ofFrame)).Matches
        (HdlcReassembler.machine.final reassembler frames) := by
  induction frames generalizing r reassembler with
  | nil => exact ⟨rfl,h⟩
  | cons frame frames ih =>
    obtain ⟨houtput,hnext⟩ := h.push frame
    obtain ⟨hrest,hfinal⟩ := ih hnext
    refine ⟨?_,hfinal⟩
    rw [List.map_cons,Mealy.outputs_cons,Mealy.outputs_cons,machine_step,
      HdlcReassembler.machine_step,List.filterMap_cons,List.filterMap_cons,hrest,houtput]
    rcases (reassembler.pushFrame frame).1 with ⟨status,_ | completed⟩ <;> rfl

end Go.Reassembler

/-- The frames of a decoder go to a reassembler, one by one. -/
def HdlcReassembler.receiver : Mealy (HdlcStreamDecoder × HdlcReassembler) (Pointer × ℕ)
    ((HdlcStatus × List HdlcFrameBuffer) × List (HdlcStatus × Option HdlcFrameBuffer)) :=
  HdlcStreamDecoder.machine.cascade Prod.snd HdlcReassembler.machine

/-- The same in Go. -/
def Go.Reassembler.receiver : Mealy (Go.StreamDecoder × Go.Reassembler) (List UInt8)
    ((List Go.Frame × HdlcStatus) × List (Except HdlcStatus Go.Frame)) :=
  Go.StreamDecoder.machine.cascade Prod.fst Go.Reassembler.machine

/-- The line that carries the words, each behind its noise. -/
def lineOf (items : List (List UInt8 × List UInt8)) (last : List UInt8) : List UInt8 :=
  items.flatMap (fun item => item.1 ++ item.2) ++ last

/-- Words that are images of frames make a line of these frames. -/
theorem lineOf_images {items : List (List UInt8 × List UInt8)} {frames : List HdlcFrameBuffer}
    (hitems : items.map Prod.snd=frames.map HdlcFrameBuffer.wire) (last : List UInt8) :
    lineOf items last=frameCode.line ((items.map Prod.fst).zip frames) last ∧
      ((items.map Prod.fst).zip frames).map Prod.snd=frames := by
  induction items generalizing frames with
  | nil =>
    obtain rfl := List.map_eq_nil_iff.mp hitems.symm
    exact ⟨rfl,rfl⟩
  | cons item items ih =>
    obtain ⟨frame,frames,rfl⟩ : ∃ frame more, frames=frame::more := by
      cases frames with
      | nil => cases hitems
      | cons frame frames => exact ⟨frame,frames,rfl⟩
    obtain ⟨hword,hitems⟩ := List.cons.inj hitems
    obtain ⟨hline,hframes⟩ := ih hitems
    constructor
    · rw [lineOf,List.flatMap_cons,List.append_assoc,List.append_assoc,hword]
      exact congrArg (fun line => item.1 ++ (frame.wire ++ line)) hline
    · exact congrArg (frame :: ·) hframes

/-- Messages segmented and encoded by either library, sent with tolerated noise between the frames
and cut into any chunks, come out of decoder and reassembler of either library: each of them whole,
once and in order, with nothing left in a buffer. -/
theorem messages_delivered (limits receiverLimits : HdlcCodecLimits) (policy : HdlcNoisePolicy)
    (allow : receiverLimits.Allow limits) (messages : List Message)
    (hmessages : ∀ message ∈ messages, message.WellFormed ∧ message.informationSize ≤
      (effectiveMaximumReassembledInformationSize receiverLimits).toNat)
    (words : List (List (List UInt8))) (sent : messages.mapM (Message.words limits)=.ok words)
    (items : List (List UInt8 × List UInt8)) (hitems : items.map Prod.snd=words.flatten)
    (last : List UInt8)
    (hnoise : ∀ noise ∈ last::items.map Prod.fst, HdlcStreamDecoder.Tolerated policy noise)
    (chunks : List (Pointer × ℕ))
    (hchunks : ∀ chunk ∈ chunks, (chunk.1.read chunk.2).length=chunk.2)
    (hline : chunks.flatMap (fun chunk => chunk.1.read chunk.2)=lineOf items last)
    (goChunks : List (List UInt8)) (hgoLine : goChunks.flatten=lineOf items last) :
    messages.mapM (Message.goWords limits)=.ok words ∧
    (((HdlcReassembler.receiver.outputs (.new ⟨receiverLimits,policy⟩,.new receiverLimits)
        chunks).flatMap Prod.snd).filterMap Prod.snd=messages.map Message.whole ∧
      (HdlcReassembler.receiver.final (.new ⟨receiverLimits,policy⟩,.new receiverLimits)
        chunks).1.buffer=[] ∧
      (HdlcReassembler.receiver.final (.new ⟨receiverLimits,policy⟩,.new receiverLimits)
        chunks).2.hasPending=false) ∧
    (((Go.Reassembler.receiver.outputs (.newStreamDecoder (Go.ofOptions ⟨receiverLimits,policy⟩),
        .newReassembler (Go.ofLimits receiverLimits)) goChunks).flatMap Prod.snd).filterMap
          Except.toOption=(messages.map Message.whole).map Go.ofFrame ∧
      (Go.Reassembler.receiver.final (.newStreamDecoder (Go.ofOptions ⟨receiverLimits,policy⟩),
        .newReassembler (Go.ofLimits receiverLimits)) goChunks).1.buffer=[] ∧
      (Go.Reassembler.receiver.final (.newStreamDecoder (Go.ofOptions ⟨receiverLimits,policy⟩),
        .newReassembler (Go.ofLimits receiverLimits)) goChunks).2.hasPending=false) := by
  have hsent := mapM_eq_ok_iff.mp sent
  -- The words are the images of the segments, message by message.
  obtain ⟨segments,hsegments,hfits,hwords⟩ : ∃ segments, List.Forall₂ (fun message frames =>
      Segments message.baseFrame (HdlcSegmenter.effectiveMaximumInformationFieldSize limits).toNat
        message.payload frames) messages segments ∧
      (∀ frame ∈ segments.flatten, frame.Fits limits) ∧
      words.flatten=segments.flatten.map HdlcFrameBuffer.wire := by
    clear sent hitems
    induction hsent with
    | nil => exact ⟨[],.nil,by simp,rfl⟩
    | @cons message frameWords messages words hword _ ih =>
      obtain ⟨segments,hsegments,hfits,hwords⟩ :=
        ih fun message hmessage => hmessages message (List.mem_cons_of_mem _ hmessage)
      obtain ⟨frames,hframes,hfit,rfl⟩ := (hmessages _ List.mem_cons_self).1.words_segments hword
      refine ⟨frames::segments,.cons hframes hsegments,?_,?_⟩
      · rw [List.flatten_cons]
        exact List.forall_mem_append.mpr ⟨hfit,hfits⟩
      · rw [List.flatten_cons,List.flatten_cons,hwords,List.map_append]
  obtain ⟨hwire,hframes⟩ := lineOf_images (hitems.trans hwords) last
  have hvalid : ∀ item ∈ (items.map Prod.fst).zip segments.flatten,
      HdlcStreamDecoder.Tolerated policy item.1 ∧ item.2.Fits receiverLimits := by
    rintro ⟨noise,frame⟩ hitem
    obtain ⟨hleft,hright⟩ := List.of_mem_zip hitem
    exact ⟨hnoise noise (List.mem_cons_of_mem _ hleft),allow frame (hfits frame hright)⟩
  have hroom : ∀ message ∈ messages, message.payload.length ≤
      (effectiveMaximumReassembledInformationSize receiverLimits).toNat := by
    intro message hmessage
    rw [(hmessages message hmessage).1.size_eq]
    exact (hmessages message hmessage).2
  have hcompleted := HdlcReassembler.machine_messages
    (show (HdlcReassembler.new receiverLimits).hasPending=false from rfl) hsegments hroom
  refine ⟨?_,?_,?_⟩
  · rw [← sent]
    clear sent hsent hsegments hwords hitems hroom hcompleted
    induction messages with
    | nil => rfl
    | cons message messages ih =>
      rw [List.mapM_cons,List.mapM_cons,(hmessages _ List.mem_cons_self).1.goWords_eq,
        ih fun message hmessage => hmessages message (List.mem_cons_of_mem _ hmessage)]
  · obtain ⟨houtputs,hbuffer⟩ := HdlcStreamDecoder.machine_line
      ⟨receiverLimits,policy⟩ _ hvalid (hnoise last List.mem_cons_self) hchunks
      (hline.trans hwire)
    rw [hframes] at houtputs
    obtain ⟨_,hcascade,hfinal⟩ := HdlcStreamDecoder.machine.cascade_run HdlcReassembler.machine
      Prod.snd (.new ⟨receiverLimits,policy⟩) (.new receiverLimits) chunks
    rw [houtputs] at hcascade hfinal
    rw [HdlcReassembler.receiver,hcascade,hfinal]
    exact ⟨hcompleted.1,hbuffer,hcompleted.2⟩
  · obtain ⟨houtputs,hbuffer⟩ := Go.StreamDecoder.machine_line
      ⟨receiverLimits,policy⟩ _ hvalid (hnoise last List.mem_cons_self)
      (hgoLine.trans hwire)
    rw [hframes] at houtputs
    obtain ⟨_,hcascade,hfinal⟩ := Go.StreamDecoder.machine.cascade_run Go.Reassembler.machine
      Prod.fst (.newStreamDecoder (Go.ofOptions ⟨receiverLimits,policy⟩))
      (.newReassembler (Go.ofLimits receiverLimits)) goChunks
    obtain ⟨hgo,hmatches⟩ := (Go.Reassembler.matches_new receiverLimits).run segments.flatten
    rw [houtputs] at hcascade hfinal
    rw [Go.Reassembler.receiver,hcascade,hfinal,hgo,hcompleted.1]
    exact ⟨rfl,hbuffer,hmatches.hasPending.trans hcompleted.2⟩

/-- A sender that puts two bytes into a frame. -/
def sampleLimits : HdlcCodecLimits := { defaultHdlcCodecLimits with maximumInformationFieldSize := 2 }

/-- Five bytes, one of them a flag, and two bytes. -/
def sampleMessages : List Message :=
  [⟨sampleFrame,some [0x01,0x7e,0x03,0x04,0x05],5⟩,⟨sampleFrame,some [0x06,0x07],2⟩]

def sentSegment (segmented : Bool) (information : List UInt8) : List UInt8 :=
  { sampleFrame.toBuffer with segmented := segmented, information := information }.wire

/-- Three segments and one frame, with noise in front of two of them. -/
def sampleItems : List (List UInt8 × List UInt8) :=
  [([0x00],sentSegment true [0x01,0x7e]),([],sentSegment true [0x03,0x04]),
    ([0x02,0x01],sentSegment false [0x05]),([],sentSegment false [0x06,0x07])]

theorem messages_delivered_sample :
    let line := lineOf sampleItems [0x01]
    let words := [[sentSegment true [0x01,0x7e],sentSegment true [0x03,0x04],
      sentSegment false [0x05]],[sentSegment false [0x06,0x07]]]
    sampleMessages.mapM (Message.goWords sampleLimits)=.ok words ∧
    ((HdlcReassembler.receiver.outputs
        (.new ⟨defaultHdlcCodecLimits,.ignoreUntilOpeningFlag⟩,.new defaultHdlcCodecLimits)
        [(some (line.take 7),(line.take 7).length),(some (line.drop 7),(line.drop 7).length)]).flatMap
          Prod.snd).filterMap Prod.snd=sampleMessages.map Message.whole := by
  intro line words
  have hnoise : ∀ noise ∈ [0x01]::sampleItems.map Prod.fst,
      HdlcStreamDecoder.Tolerated .ignoreUntilOpeningFlag noise := by
    simp [sampleItems,HdlcStreamDecoder.Tolerated,kHdlcFlag]
  have hmessages : ∀ message ∈ sampleMessages, message.WellFormed ∧
      message.informationSize ≤
        (effectiveMaximumReassembledInformationSize defaultHdlcCodecLimits).toNat := by
    have hlong : (Message.mk sampleFrame (some [0x01,0x7e,0x03,0x04,0x05]) 5).WellFormed :=
      ⟨by decide,rfl⟩
    have hshort : (Message.mk sampleFrame (some [0x06,0x07]) 2).WellFormed := ⟨by decide,rfl⟩
    simpa [sampleMessages] using ⟨⟨hlong,by decide⟩,⟨hshort,by decide⟩⟩
  have hallow : defaultHdlcCodecLimits.Allow sampleLimits := by
    intro frame hfits
    have hd := frame.destination.encodedSize_cases
    have hs := frame.source.encodedSize_cases
    have hle : frame.information.length ≤ 2 := hfits.information_le
    have hsize : (effectiveMaximumFrameSize defaultHdlcCodecLimits).toNat=2049 := rfl
    refine ⟨?_,hfits.format_le,hfits.frame_le⟩
    rw [effectiveMaximumInformationFieldSize_toNat rfl,hsize]
    omega
  have hdelivered := messages_delivered sampleLimits defaultHdlcCodecLimits
    .ignoreUntilOpeningFlag hallow sampleMessages hmessages words
    (toOption_eq_some_iff.mp (by decide +kernel)) sampleItems rfl [0x01] hnoise
    [(some (line.take 7),(line.take 7).length),(some (line.drop 7),(line.drop 7).length)]
    (by simp [Pointer.read])
    (by simp only [List.flatMap_cons,List.flatMap_nil,Pointer.read_some,List.take_length,
      List.append_nil,List.take_append_drop,line]) [line] (by simp [line])
  exact ⟨hdelivered.1,hdelivered.2.1.1⟩

end DlmsHdlc
