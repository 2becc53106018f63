import DlmsHdlc.CApi.Completion
import DlmsHdlc.CApi.Decoding
import DlmsHdlc.CApi.Handles

/-! What the calls that report a frame leave in the caller's Information buffer, whatever pointer and
size they are given. -/
namespace DlmsHdlc
open Machine Scanning Buffer
open HdlcStreamDecoder (ignoring Reads)

/-- The Information fits the buffer that was given and is its front, and the frame points at it
unless it is empty. -/
structure Reported (given : FrameMemory) (information : List UInt8) (memory : FrameMemory)
    (frame : DlmsHdlcFrame) (size : UInt64) : Prop where
  frame_eq : memory.frame=some frame
  size_eq : memory.informationSize=some size
  fits : size ≤ given.informationBufferSize
  length : size.toNat=information.length
  bytes : memory.informationBuffer.read size.toNat=information
  data : size≠0 → frame.informationData≠none

/-- A call with that result keeps the contract: a frame that it reports is one that belongs there. -/
def Honours (given : FrameMemory) (belongs : List UInt8 → Prop) (result : HdlcStatus × FrameMemory) :
    Prop :=
  result.1=.ok → ∃ information frame size, belongs information ∧
    Reported given information result.2 frame size

section Writes
variable {given memory : FrameMemory} {information : List UInt8} {frame : DlmsHdlcFrame}

theorem reported_of_read (hframe : memory.frame=some frame)
    (hdata : frame.informationData=memory.informationBuffer)
    (hsize : memory.informationSize=some (.ofNat information.length))
    (fits : information.length ≤ given.informationBufferSize.toNat)
    (bytes : memory.informationBuffer.read information.length=information) :
    Reported given information memory frame (.ofNat information.length) := by
  have hlt := given.informationBufferSize.toNat_lt
  have hlength : (UInt64.ofNat information.length).toNat=information.length := by
    rw [UInt64.toNat_ofNat',Nat.mod_eq_of_lt (by omega)]
  refine ⟨hframe,hsize,?_,hlength,by rw [hlength]; exact bytes,fun hne hnull => hne ?_⟩
  · rw [UInt64.le_iff_toNat_le,hlength]
    exact fits
  · rw [hdata] at hnull
    rw [hnull,Pointer.read_none] at bytes
    rw [← bytes]
    rfl

/-- Without a buffer no Information is reported. -/
theorem Reported.information_nil {size : UInt64} (h : Reported given information memory frame size)
    (hnull : memory.informationBuffer=none) : information=[] := by
  rw [← h.bytes,hnull,Pointer.read_none]

end Writes

section HandOut
variable {memory : FrameMemory} {f : HdlcFrameBuffer}
  (fits : f.information.length ≤ memory.informationBufferSize.toNat)
include fits

/-- A frame that is handed out into a buffer with room for it is reported. -/
theorem reported_handOut (present : memory.informationBuffer≠none ∨ f.information=[]) :
    ∃ frame size, Reported memory f.information (memory.cleared.handOut f) frame size :=
  ⟨_,_,reported_of_read rfl rfl rfl fits (read_overwrite present)⟩

/-- Into a null buffer it is not. -/
theorem not_reported_handOut (null : memory.informationBuffer=none) (nonempty : f.information≠[])
    {information : List UInt8} {frame : DlmsHdlcFrame} {size : UInt64} :
    ¬ Reported memory information (memory.cleared.handOut f) frame size := by
  intro h
  have hnull : (memory.cleared.handOut f).informationBuffer=none := by
    have hcleared : memory.cleared.informationBuffer=none := null
    rw [FrameMemory.handOut,hcleared]
    exact ite_self _
  have hlt := memory.informationBufferSize.toNat_lt
  have hpos := List.length_pos_of_ne_nil nonempty
  have hsize : some (UInt64.ofNat f.information.length)=some size := h.size_eq
  have hlength := h.length
  rw [h.information_nil hnull,← Option.some.inj hsize,UInt64.toNat_ofNat',
    Nat.mod_eq_of_lt (by omega),List.length_nil] at hlength
  omega

end HandOut

/-- The Information of the frame that is decoded. -/
def DecodesTo (limits : HdlcCodecLimits) (input : Pointer) (inputSize : ℕ)
    (information : List UInt8) : Prop :=
  ∃ f, decodeFrame input inputSize limits=.ok f ∧ f.information=information

theorem dlmsHdlcDecodeFrame_honours {input : Pointer} {inputSize : ℕ} (readable : input.Valid inputSize)
    (limits : Option DlmsHdlcLimits) (memory : FrameMemory) :
    Honours memory (DecodesTo (toCppLimits limits) input inputSize)
      (dlmsHdlcDecodeFrame input inputSize limits memory) := by
  by_cases hinvalid : input=none ∨ ¬ memory.Present
  · rw [dlmsHdlcDecodeFrame_invalid hinvalid]
    exact nofun
  rw [not_or,not_not] at hinvalid
  obtain ⟨data,rfl⟩ := Option.ne_none_iff_exists'.mp hinvalid.1
  have hsize := readable data rfl
  rw [dlmsHdlcDecodeFrame_eq hsize limits hinvalid.2]
  by_cases hnull : memory.informationBuffer=none ∧ memory.informationBufferSize≠0
  · rw [if_pos hnull]
    exact nofun
  rw [if_neg hnull]
  cases hdecode : decodeFrame (some data) inputSize (anyInformation (toCppLimits limits)) with
  | error status =>
    rintro rfl
    exact absurd rfl (decodeFrame_fault hsize hdecode).ne_ok
  | ok f =>
    dsimp only
    by_cases hsmall : memory.informationBufferSize.toNat < f.information.length
    · rw [if_pos hsmall]
      exact nofun
    by_cases hlarge : Oversized (toCppLimits limits) f
    · rw [if_neg hsmall,if_pos hlarge]
      exact nofun
    rw [if_neg hsmall,if_neg hlarge]
    intro _
    have hroom := Nat.not_lt.mp hsmall
    have hpresent : memory.informationBuffer≠none ∨ f.information=[] := by
      by_contra hnone
      rw [not_or,not_not] at hnone
      have hzero : memory.informationBufferSize=0 := by
        by_contra hne
        exact hnull ⟨hnone.1,hne⟩
      rw [hzero] at hroom
      exact hnone.2 (List.eq_nil_of_length_eq_zero (Nat.le_zero.mp hroom))
    obtain ⟨frame,size,hreported⟩ := reported_handOut hroom hpresent
    exact ⟨f.information,frame,size,⟨f,(decodeFrame_eq_ok_any hsize).mpr ⟨hdecode,hlarge⟩,rfl⟩,
      hreported⟩

/-- A frame with Information is decoded without a buffer, or with one of size zero. -/
def Go.DecodesUnchecked (limits : HdlcCodecLimits) (input : Pointer) (inputSize : ℕ)
    (memory : FrameMemory) : Prop :=
  memory.Present ∧ (memory.informationBuffer=none ∨ memory.informationBufferSize=0) ∧
    ∃ f : HdlcFrameBuffer, f.Fits limits ∧ f.information≠[] ∧ input.read inputSize=f.wire

theorem HdlcFrameBuffer.wire_ne_nil (f : HdlcFrameBuffer) : f.wire≠[] := by
  rw [f.wire_eq]
  exact List.cons_ne_nil _ _

theorem Go.not_reported_pointOut {memory : FrameMemory} {f : HdlcFrameBuffer}
    (unchecked : memory.informationBuffer=none ∨ memory.informationBufferSize=0)
    (format : f.formatLength ≤ 2047) (nonempty : f.information≠[]) {information : List UInt8}
    {frame : DlmsHdlcFrame} {size : UInt64} :
    ¬ Reported memory information (pointOut memory.cleared f) frame size := by
  intro h
  have hpos := List.length_pos_of_ne_nil nonempty
  have hle : f.information.length ≤ f.formatLength := by
    unfold HdlcFrameBuffer.formatLength
    omega
  have hsize : some (UInt64.ofNat f.information.length)=some size := h.size_eq
  have hlength : size.toNat=f.information.length := by
    rw [← Option.some.inj hsize,UInt64.toNat_ofNat',Nat.mod_eq_of_lt (by omega)]
  obtain hnull | hzero := unchecked
  · have hnone := congrArg List.length (h.information_nil hnull)
    rw [← h.length,hlength] at hnone
    exact absurd hnone hpos.ne'
  · have hfits := h.fits
    rw [hzero,UInt64.le_iff_toNat_le,hlength] at hfits
    exact absurd hfits (Nat.not_le.mpr hpos)

/-- The Go library checks the size of the buffer only where it makes a slice of it. -/
theorem Go.dlmsHdlcDecodeFrame_honours_iff {input : Pointer} {inputSize : ℕ}
    (readable : input.Valid inputSize) (limits : Option DlmsHdlcLimits) {memory : FrameMemory}
    (valid : memory.Valid) :
    Honours memory (DecodesTo (toCppLimits limits) input inputSize)
        (dlmsHdlcDecodeFrame input inputSize limits memory) ↔
      ¬ DecodesUnchecked (toCppLimits limits) input inputSize memory := by
  by_cases hinvalid : input=none ∨ ¬ memory.Present
  · rw [dlmsHdlcDecodeFrame_invalid hinvalid]
    refine iff_of_true nofun fun ⟨hpresent,_,f,_,_,hwire⟩ => ?_
    rw [hinvalid.resolve_right (not_not.mpr hpresent),Pointer.read_none] at hwire
    exact f.wire_ne_nil hwire.symm
  rw [not_or,not_not] at hinvalid
  obtain ⟨data,rfl⟩ := Option.ne_none_iff_exists'.mp hinvalid.1
  have hsize := readable data rfl
  have hdecodes {f : HdlcFrameBuffer} (hfits : f.Fits (toCppLimits limits))
      (hwire : Pointer.read (some data) inputSize=f.wire) :
      DlmsHdlc.decodeFrame (some data) inputSize (toCppLimits limits)=.ok f := by
    rw [Pointer.read_some] at hwire
    have hlength : f.wire.length=inputSize := by
      rw [← hwire,List.length_take_of_le hsize]
    have himage := (f.decodeFrame_image_eq_ok_iff (toCppLimits limits) hfits.format_le f).mpr
      ⟨hfits,rfl⟩
    rwa [hlength,← hwire,decodeFrame_take] at himage
  rw [dlmsHdlcDecodeFrame_eq hsize limits hinvalid.2 valid]
  cases hdecode : DlmsHdlc.decodeFrame (some data) inputSize (anyInformation (toCppLimits limits)) with
  | error status =>
    refine iff_of_true ?_ fun ⟨_,_,f,hfits,_,hwire⟩ => ?_
    · rintro rfl
      exact absurd rfl (decodeFrame_fault hsize hdecode).ne_ok
    · have hany := ((decodeFrame_eq_ok_any hsize).mp (hdecodes hfits hwire)).1
      rw [hdecode] at hany
      cases hany
  | ok f =>
    dsimp only
    have hsame {g : HdlcFrameBuffer} (hfits : g.Fits (toCppLimits limits))
        (hwire : Pointer.read (some data) inputSize=g.wire) :
        g=f ∧ ¬ Oversized (toCppLimits limits) f := by
      obtain ⟨hany,hlarge⟩ := (decodeFrame_eq_ok_any hsize).mp (hdecodes hfits hwire)
      rw [hdecode,Except.ok.injEq] at hany
      exact ⟨hany.symm,hany ▸ hlarge⟩
    by_cases hlarge : Oversized (toCppLimits limits) f
    · rw [if_pos hlarge]
      exact iff_of_true nofun fun ⟨_,_,_,hfits,_,hwire⟩ => (hsame hfits hwire).2 hlarge
    rw [if_neg hlarge]
    have haccepted := (decodeFrame_eq_ok_any hsize).mpr ⟨hdecode,hlarge⟩
    by_cases hunchecked : memory.informationBuffer=none ∨ memory.informationBufferSize=0
    · rw [if_pos hunchecked]
      by_cases hempty : f.information=[]
      · refine iff_of_true (fun _ => ?_) fun ⟨_,_,g,hfits,hnonempty,hwire⟩ => ?_
        · have hreported : Reported memory f.information (pointOut memory.cleared f) _ _ :=
            reported_of_read rfl rfl rfl (by simp [hempty]) (by simp [hempty])
          exact ⟨_,_,_,⟨f,haccepted,rfl⟩,hreported⟩
        · exact hnonempty ((hsame hfits hwire).1 ▸ hempty)
      · have htake : DlmsHdlc.decodeFrame (some (data.take inputSize)) (data.take inputSize).length
            (toCppLimits limits)=.ok f := by
          rw [List.length_take_of_le hsize,decodeFrame_take]
          exact haccepted
        obtain ⟨hfits,hwire⟩ := decodeFrame_ok_cases htake
        refine iff_of_false (fun h => ?_) (not_not.mpr ⟨hinvalid.2,hunchecked,f,hfits,hempty,?_⟩)
        · obtain ⟨_,_,_,_,hreported⟩ := h rfl
          exact not_reported_pointOut hunchecked hfits.format_le hempty hreported
        · exact hwire.resolve_right fun hbare => hempty hbare.1
    · rw [if_neg hunchecked]
      refine iff_of_true ?_ fun h => hunchecked h.2.1
      by_cases hsmall : memory.informationBufferSize.toNat < f.information.length
      · rw [if_pos hsmall]
        exact nofun
      rw [if_neg hsmall]
      intro _
      rw [not_or] at hunchecked
      obtain ⟨frame,size,hreported⟩ := reported_handOut (Nat.not_lt.mp hsmall) (.inl hunchecked.1)
      exact ⟨f.information,frame,size,⟨f,haccepted,rfl⟩,hreported⟩

/-! The handles of the stream decoders. -/

/-- The Information of the frame that waits first once the bytes have been read. -/
def NextInformation (limits : HdlcCodecLimits) (buffer : List UInt8) (pending : List (List UInt8))
    (bytes information : List UInt8) : Prop :=
  ∃ frames fault, Reads limits (buffer ++ bytes) frames fault ∧
    (∀ status rest, fault=some (status,rest) → status=.needMoreData) ∧
    (pending ++ frames.map HdlcFrameBuffer.information).head?=some information

section Next
variable {limits : HdlcCodecLimits} {O : Outlet UInt8 HdlcFrameBuffer HdlcStatus FrameMemory}
  (hscanner : O.scanner=HdlcStreamDecoder.scanner (ignoring limits))
  (hsilent : ∀ status, O.silent status=true ↔ status=.needMoreData)
  {state : Outlet.State UInt8 HdlcFrameBuffer} {bytes : List UInt8}
  (stable : O.scanner.drain state.buffer=([],.ok state.buffer))
include hscanner hsilent stable

/-- A call that goes on to the queue finds that frame at its head. -/
theorem next_of_feed {fed : Outlet.State UInt8 HdlcFrameBuffer} {f : HdlcFrameBuffer}
    {rest : List HdlcFrameBuffer} (feed : O.feed state bytes=(none,fed))
    (pending : fed.pending=f::rest) :
    NextInformation limits state.buffer (state.pending.map HdlcFrameBuffer.information) bytes
      f.information := by
  have hhead {frames rest : List HdlcFrameBuffer} (h : state.pending ++ frames=f::rest) :
      (state.pending.map HdlcFrameBuffer.information ++
        frames.map HdlcFrameBuffer.information).head?=some f.information := by
    rw [← List.map_append,h]
    rfl
  by_cases hempty : bytes=[]
  · rw [hempty,Outlet.feed_nil] at feed
    cases feed
    rw [hscanner] at stable
    refine ⟨[],none,HdlcStreamDecoder.reads_none_iff.mpr ⟨state.buffer,?_⟩,nofun,?_⟩
    · rw [hempty,List.append_nil]
      exact stable
    · apply @hhead [] rest
      rw [List.append_nil]
      exact pending
  rcases hdrain : O.scanner.drain (state.buffer ++ bytes) with ⟨frames,status | kept⟩
  · rw [Outlet.feed_error hempty hdrain] at feed
    split at feed
    · rename_i hmore
      cases feed
      rw [hscanner] at hdrain
      obtain ⟨front,behind,hbytes,hfails⟩ := Scanner.exists_failsAt
        (HdlcStreamDecoder.scanner_incremental (ignoring limits)) hdrain
      refine ⟨frames,some (status,behind),HdlcStreamDecoder.reads_some_iff.mpr ⟨front,hbytes,hfails⟩,
        ?_,?_⟩
      · rintro _ _ ⟨⟩
        exact (hsilent status).mp hmore
      · change state.pending ++ O.rescued frames=_ at pending
        unfold Outlet.rescued at pending
        split at pending
        · exact hhead pending
        · rw [List.append_nil] at pending
          exact hhead (congrArg (· ++ frames) pending)
    · cases feed
  · rw [Outlet.feed_ok hempty hdrain] at feed
    cases feed
    rw [hscanner] at hdrain
    exact ⟨frames,none,HdlcStreamDecoder.reads_none_iff.mpr ⟨kept,hdrain⟩,nofun,hhead pending⟩

/-- Where the frames in front of a silent fault are kept, it is there. -/
theorem feed_of_next (keeps : O.keeps=true) {information : List UInt8}
    (next : NextInformation limits state.buffer (state.pending.map HdlcFrameBuffer.information) bytes
      information) :
    ∃ fed f rest, O.feed state bytes=(none,fed) ∧ fed.pending=f::rest ∧
      f.information=information := by
  obtain ⟨frames,fault,hreads,hmore,hhead⟩ := next
  rw [← List.map_append,List.head?_map,Option.map_eq_some_iff] at hhead
  obtain ⟨f,hf,rfl⟩ := hhead
  obtain ⟨rest,hpending⟩ := List.head?_eq_some_iff.mp hf
  suffices hfeed : ∃ kept, O.feed state bytes=(none,⟨kept,state.pending ++ frames⟩) by
    obtain ⟨kept,hfeed⟩ := hfeed
    exact ⟨_,f,rest,hfeed,hpending,rfl⟩
  cases fault with
  | none =>
    obtain ⟨kept,hdrain⟩ := HdlcStreamDecoder.reads_none_iff.mp hreads
    rw [← hscanner] at hdrain
    have hS : O.scanner.Incremental := hscanner ▸ HdlcStreamDecoder.scanner_incremental _
    obtain ⟨values,kept',hquiet,hfeed,_⟩ := Outlet.feed_quiet hS stable ⟨frames,kept,hdrain⟩
    cases hdrain.symm.trans hquiet
    exact ⟨kept,hfeed⟩
  | some fault =>
    obtain ⟨status,behind⟩ := fault
    obtain ⟨front,hbytes,hfails⟩ := HdlcStreamDecoder.reads_some_iff.mp hreads
    have hdrain := (HdlcStreamDecoder.scanner_incremental (ignoring limits)).drain_error_append
      hfails.drained behind
    rw [← hbytes,← hscanner] at hdrain
    have hnonempty := Outlet.nonempty_of_error stable _ hdrain
    refine ⟨[],?_⟩
    rw [Outlet.feed_error hnonempty hdrain,if_pos ((hsilent status).mpr (hmore _ _ rfl)),
      Outlet.rescued,if_pos keeps]

end Next

/-- A handle keeps the contract where it finds room only for what has its buffer. -/
theorem Serves.push_honours {σ : Type*}
    {push : σ → Pointer → ℕ → FrameMemory → (HdlcStatus × FrameMemory) × σ}
    {limits : HdlcCodecLimits} {O : Outlet UInt8 HdlcFrameBuffer HdlcStatus FrameMemory}
    {Holds : σ → Outlet.State UInt8 HdlcFrameBuffer → Prop} (hO : Serves push limits O Holds)
    {handle : σ} {state : Outlet.State UInt8 HdlcFrameBuffer} (h : Holds handle state)
    {data : Pointer} {dataSize : ℕ} {memory : FrameMemory}
    (hroom : memory.Present → ¬ (data=none ∧ dataSize≠0) → ∀ f : HdlcFrameBuffer,
      NextInformation limits state.buffer (state.pending.map HdlcFrameBuffer.information)
        (data.read dataSize) f.information → O.fits f memory.cleared=true →
      f.information.length ≤ memory.informationBufferSize.toNat ∧
        (memory.informationBuffer≠none ∨ f.information=[])) :
    Honours memory (NextInformation limits state.buffer
      (state.pending.map HdlcFrameBuffer.information) (data.read dataSize))
      (push handle data dataSize memory).1 := by
  by_cases hinvalid : ¬ memory.Present ∨ data=none ∧ dataSize≠0
  · rw [hO.rejects handle hinvalid]
    intro hok
    cases hok
  rw [not_or,not_not] at hinvalid
  rw [(hO.answers h hinvalid.1 hinvalid.2).1,Outlet.push]
  rcases hfeed : O.feed state (data.read dataSize) with ⟨_ | fault,fed⟩ <;> dsimp only
  · cases hpending : fed.pending with
    | nil =>
      rw [Outlet.take_nil hpending]
      intro hok
      cases hok
    | cons f rest =>
      have hnext := next_of_feed hO.scanner hO.silent (hO.stable h) hfeed hpending
      cases hfits : O.fits f memory.cleared with
      | true =>
        rw [Outlet.take_fits hpending hfits]
        intro _
        obtain ⟨hlength,hpresent⟩ := hroom hinvalid.1 hinvalid.2 f hnext hfits
        obtain ⟨frame,size,hreported⟩ := reported_handOut hlength hpresent
        exact ⟨_,frame,size,hnext,hreported⟩
      | false =>
        rw [Outlet.take_small hpending hfits]
        intro hok
        cases hok
  · intro hok
    exact absurd hok (hO.isDecodeError hfeed).1.ne_ok

/-- A frame with Information is handed out without a buffer. -/
def DlmsHdlcStreamDecoder.HandsUnbuffered (limits : HdlcCodecLimits) (handle : DlmsHdlcStreamDecoder)
    (data : Pointer) (dataSize : ℕ) (memory : FrameMemory) : Prop :=
  memory.Present ∧ ¬ (data=none ∧ dataSize≠0) ∧ memory.informationBuffer=none ∧
    ∃ information, NextInformation limits handle.decoder.buffer
      (handle.pending.map HdlcFrameBuffer.information) (data.read dataSize) information ∧
      information≠[] ∧ information.length ≤ memory.informationBufferSize.toNat

/-- The C++ handle compares the size with that of the buffer and does not ask whether it is there. -/
theorem DlmsHdlcStreamDecoder.push_honours_iff {limits : HdlcCodecLimits}
    {handle : DlmsHdlcStreamDecoder} {state : Outlet.State UInt8 HdlcFrameBuffer}
    (h : Holds limits handle state) (data : Pointer) (dataSize : ℕ) (memory : FrameMemory) :
    Honours memory (NextInformation limits handle.decoder.buffer
        (handle.pending.map HdlcFrameBuffer.information) (data.read dataSize))
        (handle.push data dataSize memory).1 ↔
      ¬ handle.HandsUnbuffered limits data dataSize memory := by
  rw [HandsUnbuffered,h.buffer,h.pending]
  have hsilent (status : HdlcStatus) : (outlet limits).silent status=true ↔ status=.needMoreData :=
    beq_iff_eq
  constructor
  · rintro hhonours ⟨hpresent,hreadable,hnull,_,hnext,hnonempty,hroom⟩
    obtain ⟨fed,f,rest,hfeed,hpending,rfl⟩ :=
      feed_of_next (O := outlet limits) rfl hsilent h.stable rfl hnext
    have hanswer := (h.push hpresent hreadable).1
    rw [Outlet.push,hfeed] at hanswer
    dsimp only at hanswer
    rw [Outlet.take_fits hpending (decide_eq_true hroom)] at hanswer
    rw [hanswer] at hhonours
    obtain ⟨_,_,_,_,hreported⟩ := hhonours rfl
    exact not_reported_handOut hroom hnull hnonempty hreported
  · intro hbuffered
    apply (serves limits).push_honours h
    intro hpresent hreadable f hnext hfits
    have hroom : f.information.length ≤ memory.informationBufferSize.toNat :=
      of_decide_eq_true hfits
    refine ⟨hroom,?_⟩
    by_contra hnone
    rw [not_or,not_not] at hnone
    exact hbuffered ⟨hpresent,hreadable,hnone.1,_,hnext,hnone.2,hroom⟩

/-- Information that the Go handle finds room for has its buffer. -/
theorem Go.StreamDecoderState.room_of_fits {limits : HdlcCodecLimits} {f : HdlcFrameBuffer}
    {memory : FrameMemory} (valid : memory.Valid)
    (fits : (outlet limits).fits f memory.cleared=true) :
    f.information.length ≤ memory.informationBufferSize.toNat ∧
      (memory.informationBuffer≠none ∨ f.information=[]) := by
  have hroom := of_decide_eq_true fits
  by_cases hempty : f.information=[]
  · rw [hempty]
    exact ⟨Nat.zero_le _,.inr rfl⟩
  have hpos := List.length_pos_of_ne_nil hempty
  by_cases hnone : memory.informationBuffer=none ∨ memory.informationBufferSize=0
  · rw [infoSlice_none hnone] at hroom
    exact absurd ⟨hpos,rfl⟩ hroom
  rw [not_or] at hnone
  obtain ⟨bytes,hbuffer⟩ := Option.ne_none_iff_exists'.mp hnone.1
  rw [infoSlice_some hbuffer hnone.2,Option.all_some,
    List.length_take_of_le (valid bytes hbuffer)] at hroom
  refine ⟨?_,.inl hnone.1⟩
  by_contra hless
  exact hroom ⟨hpos,decide_eq_true (Nat.not_le.mp hless)⟩

/-- The Go handle does. -/
theorem Go.StreamDecoderState.push_honours {limits : HdlcCodecLimits} {handle : StreamDecoderState}
    {state : Outlet.State UInt8 HdlcFrameBuffer} (h : Holds limits handle state) (data : Pointer)
    (dataSize : ℕ) {memory : FrameMemory} (valid : memory.Valid) :
    Honours memory (NextInformation limits handle.decoder.buffer
      (handle.pendingFrames.map Frame.information) (data.read dataSize))
      (handle.push data dataSize memory).1 := by
  have hpendings : (state.pending.map ofFrame).map Frame.information=
      state.pending.map HdlcFrameBuffer.information := by
    rw [List.map_map]
    rfl
  rw [h.buffer,h.pending,hpendings]
  apply (serves limits).push_honours h
  intro _ _ f _ hfits
  exact room_of_fits valid hfits

/-! The handles of the reassemblers. -/

/-- A call that reports a completed frame keeps the contract. -/
def HonoursCompleted (given : CompletedMemory) (belongs : List UInt8 → Prop)
    (result : HdlcStatus × CompletedMemory) : Prop :=
  result.2.hasCompletedFrame=some 1 → Honours given.memory belongs (result.1,result.2.memory)

namespace DlmsHdlcReassembler

/-- The Information of the frame that the reassembler inside completes. -/
def CompletesTo (handle : DlmsHdlcReassembler) (inputFrame : Option DlmsHdlcFrame)
    (information : List UInt8) : Prop :=
  ∃ frame view f, inputFrame=some frame ∧ toCppFrame frame=.ok view ∧
    (handle.reassembler.pushFrame (ownedFrame view)).1=(.ok,some f) ∧ f.information=information

/-- A frame with Information completes without a buffer. -/
def HandsUnbuffered (handle : DlmsHdlcReassembler) (inputFrame : Option DlmsHdlcFrame)
    (output : CompletedMemory) : Prop :=
  output.Present ∧ output.memory.informationBuffer=none ∧
    ∃ frame view f, inputFrame=some frame ∧ toCppFrame frame=.ok view ∧
      handle.reassembler.Completes (ownedFrame view) f ∧ f.information≠[] ∧
      f.information.length ≤ output.memory.informationBufferSize.toNat

/-- The C++ handle compares the size with that of the buffer and does not ask whether it is there. -/
theorem pushFrame_honours_iff (handle : DlmsHdlcReassembler) (inputFrame : Option DlmsHdlcFrame)
    (output : CompletedMemory) :
    HonoursCompleted output (handle.CompletesTo inputFrame) (handle.pushFrame inputFrame output).1 ↔
      ¬ handle.HandsUnbuffered inputFrame output := by
  constructor
  · rintro hhonours ⟨hpresent,hnull,frame,view,f,rfl,hview,hcompletes,hnonempty,hroom⟩
    have hpush := HdlcReassembler.pushFrame_completes hcompletes
    rw [pushFrame_present handle frame hpresent,hview] at hhonours
    dsimp only at hhonours
    rw [hpush,complete_fits hroom] at hhonours
    obtain ⟨_,_,_,_,hreported⟩ := hhonours rfl rfl
    exact not_reported_handOut hroom hnull hnonempty hreported
  · intro hbuffered _
    by_cases hinvalid : inputFrame=none ∨ ¬ output.Present
    · rw [pushFrame_invalid handle hinvalid]
      intro hok
      cases hok
    rw [not_or,not_not] at hinvalid
    obtain ⟨frame,rfl⟩ := Option.ne_none_iff_exists'.mp hinvalid.1
    rw [pushFrame_present handle frame hinvalid.2]
    cases hview : toCppFrame frame with
    | error status =>
      intro hok
      exact absurd hok (toCppFrame_error hview).1
    | ok view =>
      dsimp only
      cases hcompleted : (handle.reassembler.pushFrame (ownedFrame view)).1.2 with
      | none =>
        rw [complete]
        split
        · rename_i hstatus
          intro hok
          exact absurd hok hstatus.1
        · intro hok
          cases hok
      | some f =>
        have hcompletes := HdlcReassembler.pushFrame_eq_some_iff.mp hcompleted
        have hpush := HdlcReassembler.pushFrame_completes hcompletes
        rw [hpush]
        by_cases hroom : f.information.length ≤ output.memory.informationBufferSize.toNat
        · rw [complete_fits hroom]
          intro _
          have hpresent : output.memory.informationBuffer≠none ∨ f.information=[] := by
            by_contra hnone
            rw [not_or,not_not] at hnone
            exact hbuffered ⟨hinvalid.2,hnone.1,frame,view,f,rfl,hview,hcompletes,hnone.2,hroom⟩
          obtain ⟨reported,size,hreported⟩ := reported_handOut hroom hpresent
          exact ⟨_,reported,size,⟨frame,view,f,rfl,hview,hpush,rfl⟩,hreported⟩
        · rw [complete_small (Nat.not_le.mp hroom)]
          intro hok
          cases hok

end DlmsHdlcReassembler
namespace Go.Reassembler

/-- The Information of the frame that is completed. -/
def CompletesTo (r : Reassembler) (inputFrame : Option DlmsHdlcFrame) (information : List UInt8) :
    Prop :=
  ∃ cframe frame completed, inputFrame=some cframe ∧ goFrame cframe=.ok (some frame) ∧
    (r.push frame).1=.ok completed ∧ completed.information=information

/-- The Go handle does. -/
theorem pushFrame_honours (r : Reassembler) (inputFrame : Option DlmsHdlcFrame)
    (output : CompletedMemory) {result : HdlcStatus × CompletedMemory} {next : Reassembler}
    (h : r.pushFrame inputFrame output=some (result,next)) :
    HonoursCompleted output (r.CompletesTo inputFrame) result := by
  intro _
  by_cases hinvalid : inputFrame=none ∨ ¬ output.Present
  · rw [pushFrame_invalid r hinvalid] at h
    cases h
    intro hok
    cases hok
  rw [not_or,not_not] at hinvalid
  obtain ⟨cframe,rfl⟩ := Option.ne_none_iff_exists'.mp hinvalid.1
  rw [pushFrame_present r cframe hinvalid.2] at h
  rcases hframe : goFrame cframe with err | _ | frame <;> rw [hframe] at h <;> dsimp only at h
  · cases h
    intro hok
    exact absurd hok (goFrame_error hframe).1
  · cases h
  cases h
  cases hpush : (r.push frame).1 with
  | error err =>
    rw [complete]
    split
    · intro hok
      exact absurd hok (push_error hpush).1
    · intro hok
      cases hok
  | ok completed =>
    rw [complete]
    split
    · intro hok
      cases hok
    rename_i hroom
    intro _
    rw [not_and_or,not_or] at hroom
    have hpresent : output.memory.informationBuffer≠none ∨ completed.information=[] := by
      refine (hroom.imp_left fun hzero => ?_).symm.imp And.left id
      exact List.eq_nil_of_length_eq_zero (Nat.eq_zero_of_not_pos hzero)
    have hfits : completed.information.length ≤ output.memory.informationBufferSize.toNat := by
      obtain hzero | ⟨_,hroom⟩ := hroom
      · rw [Nat.eq_zero_of_not_pos hzero]
        exact Nat.zero_le _
      · exact Nat.not_lt.mp hroom
    exact ⟨_,_,_,⟨cframe,frame,completed,rfl,hframe,hpush,rfl⟩,
      reported_of_read rfl rfl rfl hfits (read_overwrite hpresent)⟩

end Go.Reassembler
/-- A handle of a run holds a queue. -/
theorem DlmsHdlcStreamDecoder.holds_final (limits : Option DlmsHdlcLimits) (history : List StreamCall) :
    ∃ state, Holds (toCppLimits limits) (machine.final (.new limits) history) state := by
  apply Mealy.final_invariant machine fun handle =>
    ∃ state, Holds (toCppLimits limits) handle state
  · rintro handle call ⟨state,h⟩
    exact (serves (toCppLimits limits)).step_holds Holds.reset h call
  · exact ⟨_,holds_new limits⟩

theorem Go.StreamDecoderState.holds_final (limits : Option DlmsHdlcLimits)
    (history : List StreamCall) :
    ∃ state, Holds (toCppLimits limits) (machine.final (.new limits) history) state := by
  apply Mealy.final_invariant machine fun handle =>
    ∃ state, Holds (toCppLimits limits) handle state
  · rintro handle call ⟨state,h⟩
    exact (serves (toCppLimits limits)).step_holds Holds.reset h call
  · exact ⟨_,holds_new limits⟩

/-- Three of the six calls keep the contract with any buffer. The two C++ handles fail it where they
report a frame with Information without a buffer, and the Go decoder where it decodes one without a
buffer or with one of size zero. -/
theorem calls_honour_contract (limits : Option DlmsHdlcLimits) :
    (∀ input inputSize memory, input.Valid inputSize → memory.Valid →
      Honours memory (DecodesTo (toCppLimits limits) input inputSize)
          (dlmsHdlcDecodeFrame input inputSize limits memory) ∧
        (Honours memory (DecodesTo (toCppLimits limits) input inputSize)
            (Go.dlmsHdlcDecodeFrame input inputSize limits memory) ↔
          ¬ Go.DecodesUnchecked (toCppLimits limits) input inputSize memory)) ∧
    (∀ history data dataSize memory, memory.Valid →
      (Honours memory (NextInformation (toCppLimits limits)
          (DlmsHdlcStreamDecoder.machine.final (.new limits) history).decoder.buffer
          ((DlmsHdlcStreamDecoder.machine.final (.new limits) history).pending.map
            HdlcFrameBuffer.information) (data.read dataSize))
          (dlmsHdlcStreamDecoderPush (some (DlmsHdlcStreamDecoder.machine.final (.new limits)
            history)) data dataSize memory).1 ↔
        ¬ (DlmsHdlcStreamDecoder.machine.final (.new limits) history).HandsUnbuffered
          (toCppLimits limits) data dataSize memory) ∧
      Honours memory (NextInformation (toCppLimits limits)
        (Go.StreamDecoderState.machine.final (.new limits) history).decoder.buffer
        ((Go.StreamDecoderState.machine.final (.new limits) history).pendingFrames.map
          Go.Frame.information) (data.read dataSize))
        (Go.dlmsHdlcStreamDecoderPush (some (Go.StreamDecoderState.machine.final (.new limits)
          history)) data dataSize memory).1) ∧
    (∀ (handle : DlmsHdlcReassembler) inputFrame output,
      HonoursCompleted output (handle.CompletesTo inputFrame)
          (dlmsHdlcReassemblerPushFrame (some handle) inputFrame output).1 ↔
        ¬ handle.HandsUnbuffered inputFrame output) ∧
    ∀ (r : Go.Reassembler) inputFrame output result next,
      Go.dlmsHdlcReassemblerPushFrame (some r) inputFrame output=some (result,next) →
        HonoursCompleted output (r.CompletesTo inputFrame) result := by
  refine ⟨fun input inputSize memory hinput hmemory => ⟨?_,?_⟩,
    fun history data dataSize memory hmemory => ⟨?_,?_⟩,fun handle inputFrame output => ?_,
    fun r inputFrame output result next h => ?_⟩
  · exact dlmsHdlcDecodeFrame_honours hinput limits memory
  · exact Go.dlmsHdlcDecodeFrame_honours_iff hinput limits hmemory
  · obtain ⟨_,hholds⟩ := DlmsHdlcStreamDecoder.holds_final limits history
    exact DlmsHdlcStreamDecoder.push_honours_iff hholds data dataSize memory
  · obtain ⟨_,hholds⟩ := Go.StreamDecoderState.holds_final limits history
    exact Go.StreamDecoderState.push_honours hholds data dataSize hmemory
  · exact handle.pushFrame_honours_iff inputFrame output
  · rw [Go.dlmsHdlcReassemblerPushFrame,Option.map_eq_some_iff] at h
    obtain ⟨⟨result,state⟩,hpush,hresult⟩ := h
    cases hresult
    exact r.pushFrame_honours inputFrame output hpush

theorem sampleFrame_decodes :
    decodeFrame (some [0x7e,0xa0,0x0c,0x07,0x21,0x10,0xe8,0x14,0x01,0x7e,0x03,0xe4,0xcd,0x7e]) 14
      defaultHdlcCodecLimits=.ok sampleFrame.toBuffer :=
  toOption_eq_some_iff.mp (by decide +kernel)

/-- The frame of the sample, with a null buffer for its three bytes, or with one of size zero. -/
theorem sampleFrame_unbuffered :
    ¬ Honours ⟨some default,none,0,some 0⟩
        (DecodesTo (toCppLimits none)
          (some [0x7e,0xa0,0x0c,0x07,0x21,0x10,0xe8,0x14,0x01,0x7e,0x03,0xe4,0xcd,0x7e]) 14)
        (Go.dlmsHdlcDecodeFrame
          (some [0x7e,0xa0,0x0c,0x07,0x21,0x10,0xe8,0x14,0x01,0x7e,0x03,0xe4,0xcd,0x7e]) 14 none
          ⟨some default,none,0,some 0⟩) ∧
      ¬ Honours ⟨some default,none,3,some 0⟩
        (NextInformation (toCppLimits none) [] []
          [0x7e,0xa0,0x0c,0x07,0x21,0x10,0xe8,0x14,0x01,0x7e,0x03,0xe4,0xcd,0x7e])
        (dlmsHdlcStreamDecoderPush (some (.new none))
          (some [0x7e,0xa0,0x0c,0x07,0x21,0x10,0xe8,0x14,0x01,0x7e,0x03,0xe4,0xcd,0x7e]) 14
          ⟨some default,none,3,some 0⟩).1 ∧
      ¬ HonoursCompleted ⟨⟨some default,none,3,some 0⟩,some 0⟩
        ((DlmsHdlcReassembler.new none).CompletesTo
          (some ⟨0,3,1,0x10,1,0x10,some [0x01,0x7e,0x03],3⟩))
        (dlmsHdlcReassemblerPushFrame (some (.new none))
          (some ⟨0,3,1,0x10,1,0x10,some [0x01,0x7e,0x03],3⟩)
          ⟨⟨some default,none,3,some 0⟩,some 0⟩).1 := by
  have hnext : NextInformation defaultHdlcCodecLimits [] []
      [0x7e,0xa0,0x0c,0x07,0x21,0x10,0xe8,0x14,0x01,0x7e,0x03,0xe4,0xcd,0x7e] [0x01,0x7e,0x03] :=
    ⟨[sampleFrame.toBuffer],none,@Reads.frame _ [] _ [] _ _ _ (by simp) sampleFrame_decodes
      (@Reads.incomplete _ [] [] (by simp) .nothing),nofun,rfl⟩
  refine ⟨fun h => ?_,fun h => ?_,fun h => ?_⟩
  · have hreadable : Pointer.Valid (some [0x7e,0xa0,0x0c,0x07,0x21,0x10,0xe8,0x14,0x01,0x7e,0x03,
        0xe4,0xcd,0x7e]) 14 := by
      rintro _ ⟨⟩
      decide
    have hvalid : FrameMemory.Valid ⟨some default,none,0,some 0⟩ := by
      rintro _ ⟨⟩
    exact (Go.dlmsHdlcDecodeFrame_honours_iff hreadable none hvalid).mp h
      ⟨⟨nofun,nofun⟩,.inl rfl,sampleFrame.toBuffer,by decide,by decide,by decide +kernel⟩
  · have hbuffered := (DlmsHdlcStreamDecoder.push_honours_iff (DlmsHdlcStreamDecoder.holds_new none)
      (some [0x7e,0xa0,0x0c,0x07,0x21,0x10,0xe8,0x14,0x01,0x7e,0x03,0xe4,0xcd,0x7e]) 14
      ⟨some default,none,3,some 0⟩).mp h
    apply hbuffered
    exact ⟨⟨nofun,nofun⟩,Pointer.some_readable _ _,rfl,[0x01,0x7e,0x03],hnext,by decide,by decide⟩
  · have hcompletes : (DlmsHdlcReassembler.new none).reassembler.Completes
        sampleFrame.toBuffer sampleFrame.toBuffer := .alone rfl rfl (by decide)
    exact (DlmsHdlcReassembler.pushFrame_honours_iff _ _ _).mp h
      ⟨⟨⟨nofun,nofun⟩,nofun⟩,rfl,_,sampleFrame,_,rfl,toOption_eq_some_iff.mp (by decide +kernel),
        hcompletes,by decide,by decide⟩

end DlmsHdlc
