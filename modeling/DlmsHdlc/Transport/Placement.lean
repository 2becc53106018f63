import DlmsHdlc.Go.StreamDecoder
import DlmsHdlc.Library.Placement
import DlmsHdlc.StreamBound

/-! Where the frames that a stream decoder delivers stand in the bytes pushed into it, whatever these
bytes are and however often the decoder is reset. -/
namespace DlmsHdlc
open Machine Scanning

/-- The frame decoder takes the whole string for the frame. -/
def Accepted (limits : HdlcCodecLimits) (bytes : List UInt8) (frame : HdlcFrameBuffer) : Prop :=
  decodeFrame (some bytes) bytes.length limits=.ok frame

namespace HdlcStreamDecoder
variable {options : HdlcStreamDecoderOptions}

/-- A round that waits keeps the end of the buffer. -/
theorem scan_wait_suffix {buffer kept : List UInt8} (h : scan options buffer=.wait kept) :
    kept <:+ buffer := by
  induction buffer with
  | nil =>
    rw [scan_nil,Found.wait.injEq] at h
    rw [h]
  | cons byte buffer ih =>
    rw [scan_cons] at h
    split at h
    · rw [scanFrame_wait h]
    split at h
    · cases h
    · exact (ih h).trans (List.suffix_cons byte buffer)

theorem scanner_images (options : HdlcStreamDecoderOptions) :
    (scanner options).Images (Accepted options.limits) where
  item := by
    intro buffer frame rest h
    obtain ⟨noise,bytes,_,haccepted,hbuffer⟩ := scan_item_split h
    exact ⟨noise,bytes,hbuffer,haccepted⟩
  kept := scan_wait_suffix

/-- The bytes that a call hands over. -/
def Call.bytes : Call → List UInt8
  | .push data size => data.read size
  | .reset => []

/-- The frames in the result of a call, those in front of an error included. -/
def delivered (output : Option (HdlcStatus × List HdlcFrameBuffer)) : List HdlcFrameBuffer :=
  (output.map Prod.snd).getD []

/-- The frames delivered so far stand in the bytes pushed so far, in front of the buffered ones. -/
def Placing (decoder : HdlcStreamDecoder) (pushed : List UInt8) (frames : List HdlcFrameBuffer) :
    Prop :=
  ∃ front, pushed=front ++ decoder.buffer ∧ Placed (Accepted decoder.options.limits) front frames

theorem Placing.step {decoder : HdlcStreamDecoder} {pushed : List UInt8}
    {frames : List HdlcFrameBuffer} (h : Placing decoder pushed frames) (call : Call) :
    Placing (calls.step decoder call).2 (pushed ++ call.bytes)
      (frames ++ delivered (calls.step decoder call).1) := by
  obtain ⟨front,rfl,hplaced⟩ := h
  cases call with
  | reset =>
    refine ⟨front ++ decoder.buffer,rfl,?_⟩
    rw [show delivered (calls.step decoder .reset).1=[] from rfl,List.append_nil]
    exact hplaced.extend _
  | push data size =>
    change Placing (decoder.push data size).2 _ (frames ++ (decoder.push data size).1.2)
    rw [push]
    split
    · rename_i hnull
      rw [Call.bytes,hnull.1,Pointer.read_none,List.append_nil,List.append_nil]
      exact ⟨front,rfl,hplaced⟩
    rcases hdrain : (scanner decoder.options).drain (decoder.buffer ++ data.read size)
      with ⟨values,status | kept⟩
    · obtain ⟨front',behind,hinput,hplaced',_⟩ :=
        (scanner_images decoder.options).drain_placed hplaced hdrain
      refine ⟨front ++ decoder.buffer ++ data.read size,(List.append_nil _).symm,?_⟩
      rw [hinput]
      exact hplaced'.extend behind
    · obtain ⟨front',behind,hinput,hplaced',hkept⟩ :=
        (scanner_images decoder.options).drain_placed hplaced hdrain
      obtain rfl := hkept kept rfl
      exact ⟨front',hinput,hplaced'⟩

end HdlcStreamDecoder
namespace Go.StreamDecoder

/-- The two calls that change a decoder. -/
inductive Call
  | push (data : List UInt8)
  | reset
  deriving DecidableEq, Repr

/-- Any history of calls; only `Push` has a result. -/
def calls : Mealy StreamDecoder Call (Option (List Frame × HdlcStatus)) where
  step d
    | .push data => (some (d.push data).1,(d.push data).2)
    | .reset => (none,d.reset)

def Call.bytes : Call → List UInt8
  | .push data => data
  | .reset => []

def delivered (output : Option (List Frame × HdlcStatus)) : List Frame :=
  (output.map Prod.fst).getD []

/-- The same for the Go decoder, which delivers nothing in front of an error. -/
def Placing (options : HdlcStreamDecoderOptions) (d : StreamDecoder) (pushed : List UInt8)
    (frames : List Frame) : Prop :=
  d.options=ofOptions options ∧ ∃ front values, pushed=front ++ d.buffer ∧
    frames=values.map ofFrame ∧ Placed (Accepted options.limits) front values

theorem extracted_fst (frames : List Frame) : (extracted frames).1=frames := by
  cases frames <;> rfl

theorem Placing.step {options : HdlcStreamDecoderOptions} {d : StreamDecoder}
    {pushed : List UInt8} {frames : List Frame} (h : Placing options d pushed frames)
    (call : Call) :
    Placing options (calls.step d call).2 (pushed ++ call.bytes)
      (frames ++ delivered (calls.step d call).1) := by
  obtain ⟨hoptions,front,values,rfl,rfl,hplaced⟩ := h
  cases call with
  | reset =>
    refine ⟨hoptions,front ++ d.buffer,values,rfl,?_,hplaced.extend _⟩
    exact List.append_nil _
  | push data =>
    have hpush : d.push data=
        let drained := (HdlcStreamDecoder.scanner options).drain (d.buffer ++ data)
        ((afterDrain [] drained).1,{ d with buffer := (afterDrain [] drained).2 }) := by
      rw [push,hoptions,pushLoop_eq,← hoptions]
    change Placing options (d.push data).2 _ (_ ++ (d.push data).1.1)
    rw [hpush]
    have himages := HdlcStreamDecoder.scanner_images options
    rcases hdrain : (HdlcStreamDecoder.scanner options).drain (d.buffer ++ data)
      with ⟨more,status | kept⟩
    · obtain ⟨front',behind,hinput,_,_⟩ := himages.drain_placed hplaced hdrain
      refine ⟨hoptions,front ++ d.buffer ++ data,values,(List.append_nil _).symm,
        List.append_nil _,?_⟩
      rw [List.append_assoc]
      exact hplaced.extend _
    · obtain ⟨front',behind,hinput,hplaced',hkept⟩ := himages.drain_placed hplaced hdrain
      obtain rfl := hkept kept rfl
      refine ⟨hoptions,front',values ++ more,hinput,?_,hplaced'⟩
      rw [List.map_append]
      exact congrArg _ (extracted_fst _)

end Go.StreamDecoder

/-- A frame takes nine bytes besides its Information. -/
theorem Accepted.length_le {limits : HdlcCodecLimits} {bytes : List UInt8} {frame : HdlcFrameBuffer}
    (h : Accepted limits bytes frame) : frame.information.length+9 ≤ bytes.length := by
  obtain ⟨length,middle,_,_,_,_,rfl,hmiddle⟩ := decodeFrame_eq_ok h
  have hd := frame.destination.encodedSize_cases
  have hs := frame.source.encodedSize_cases
  have hinformation : frame.information.length ≤ middle.length := by
    obtain ⟨_,hnone⟩ | rfl := hmiddle
    · rw [hnone]
      exact Nat.zero_le _
    · rw [List.length_append]
      exact Nat.le_add_left _ _
  rw [enclose_length,List.length_append,HdlcFrameBuffer.headerOf_length]
  omega

/-- Go options are the C++ ones under other names. -/
theorem Go.exists_ofOptions (options : Go.StreamDecoderOptions) :
    ∃ cpp, Go.ofOptions cpp=options := by
  obtain ⟨⟨size,information,reassembled⟩,policy⟩ := options
  cases policy with
  | ignore => exact ⟨⟨⟨size,information,reassembled⟩,.ignoreUntilOpeningFlag⟩,rfl⟩
  | reportError => exact ⟨⟨⟨size,information,reassembled⟩,.reportError⟩,rfl⟩

/-- The frames stand in the pushed bytes in this order, each in a piece of its own that is an image
of it, in front of the bytes still buffered. With nine bytes besides its Information for each of
them they take no more room than there is. -/
structure Located {φ : Type*} (Image : List UInt8 → φ → Prop) (information : φ → List UInt8)
    (pushed buffer : List UInt8) (frames : List φ) : Prop where
  placed : ∃ front, pushed=front ++ buffer ∧ Placed Image front frames
  room : (frames.map fun frame => (information frame).length+9).sum ≤ pushed.length

/-- Whatever is pushed into a decoder, in whatever chunks and with whatever resets and errors
between them, the frames it delivers are located in the pushed bytes, as what the frame decoder
accepts there: none is made up, repeated or moved. -/
theorem streamDecoders_locate (options : HdlcStreamDecoderOptions)
    (history : List HdlcStreamDecoder.Call) (goOptions : Go.StreamDecoderOptions)
    (goHistory : List Go.StreamDecoder.Call) :
    Located (fun bytes frame => decodeFrame (some bytes) bytes.length options.limits=.ok frame)
        HdlcFrameBuffer.information (history.flatMap HdlcStreamDecoder.Call.bytes)
        (HdlcStreamDecoder.calls.final (.new options) history).buffer
        ((HdlcStreamDecoder.calls.outputs (.new options) history).flatMap
          HdlcStreamDecoder.delivered) ∧
      Located (fun bytes frame => Go.decodeFrame bytes goOptions.limits=.ok frame)
        Go.Frame.information (goHistory.flatMap Go.StreamDecoder.Call.bytes)
        (Go.StreamDecoder.calls.final (.newStreamDecoder goOptions) goHistory).buffer
        ((Go.StreamDecoder.calls.outputs (.newStreamDecoder goOptions) goHistory).flatMap
          Go.StreamDecoder.delivered) := by
  constructor
  · have hstart : HdlcStreamDecoder.Placing (.new options) [] [] := ⟨[],rfl,.nothing⟩
    obtain ⟨front,hpushed,hplaced⟩ := HdlcStreamDecoder.calls.final_accumulates
      HdlcStreamDecoder.Placing (fun _ call _ _ h => h.step call) hstart history
    rw [List.nil_append] at hpushed hplaced
    rw [(HdlcStreamDecoder.retains_final options history).options_eq] at hplaced
    refine ⟨⟨front,hpushed,hplaced⟩,?_⟩
    have hroom := hplaced.sum_le fun _ _ haccepted => haccepted.length_le
    rw [hpushed,List.length_append]
    exact hroom.trans (Nat.le_add_right _ _)
  · obtain ⟨cpp,rfl⟩ := Go.exists_ofOptions goOptions
    have hstart : Go.StreamDecoder.Placing cpp (.newStreamDecoder (Go.ofOptions cpp)) [] [] :=
      ⟨rfl,[],[],rfl,rfl,.nothing⟩
    obtain ⟨_,front,values,hpushed,hframes,hplaced⟩ := Go.StreamDecoder.calls.final_accumulates
      (Go.StreamDecoder.Placing cpp) (fun _ call _ _ h => h.step call) hstart goHistory
    rw [List.nil_append] at hpushed hframes
    rw [hframes]
    constructor
    · refine ⟨front,hpushed,hplaced.map fun bytes frame haccepted => ?_⟩
      have hdecode := Go.decodeFrame_eq bytes cpp.limits
      rw [show decodeFrame (some bytes) bytes.length cpp.limits=.ok frame from haccepted] at hdecode
      exact hdecode
    · have hroom := hplaced.sum_le fun _ _ haccepted => haccepted.length_le
      rw [hpushed,List.length_append,List.map_map]
      exact hroom.trans (Nat.le_add_right _ _)

end DlmsHdlc
