import DlmsHdlc.CApi.Outlets

/-! What a caller receives of the bytes that it pushes into a stream decoder handle. -/
namespace DlmsHdlc
open Machine Scanning
open HdlcStreamDecoder (ignoring Reads Frameless)

theorem error_of_statusOf {α : Type*} {result : Except HdlcStatus α} {status : HdlcStatus}
    (h : statusOf result=status) (ne : status≠.ok) : result=.error status := by
  cases result with
  | error other => exact congrArg Except.error h
  | ok value => exact absurd h.symm ne

/-- A frame as the caller finds it in its memory: the fields, and the Information bytes. -/
@[ext]
structure ReceivedFrame where
  segmented : UInt8
  destinationAddressRaw : UInt32
  destinationAddressSize : UInt64
  sourceAddressRaw : UInt32
  sourceAddressSize : UInt64
  control : UInt8
  information : List UInt8
  deriving DecidableEq, Repr

/-- The frame in the memory, with as many bytes of the buffer as `*information_size` says. -/
def FrameMemory.received (memory : FrameMemory) : Option ReceivedFrame :=
  memory.frame.map fun frame => ⟨frame.segmented,frame.destinationAddressRaw,
    frame.destinationAddressSize,frame.sourceAddressRaw,frame.sourceAddressSize,frame.control,
    memory.informationBuffer.read (memory.informationSize.getD 0).toNat⟩

/-- The frame as a caller has to find it. -/
def HdlcFrameBuffer.received (f : HdlcFrameBuffer) : ReceivedFrame where
  segmented := if f.segmented then 1 else 0
  destinationAddressRaw := f.destination.rawValue
  destinationAddressSize := .ofNat f.destination.encodedSize
  sourceAddressRaw := f.source.rawValue
  sourceAddressSize := .ofNat f.source.encodedSize
  control := f.control.encode
  information := f.information

theorem HdlcAddress.eq_of_received {left right : HdlcAddress} (hraw : left.rawValue=right.rawValue)
    (hsize : UInt64.ofNat left.encodedSize=.ofNat right.encodedSize) : left=right := by
  have hl := left.encodedSize_cases
  have hr := right.encodedSize_cases
  have hnat := congrArg UInt64.toNat hsize
  rw [UInt64.toNat_ofNat',UInt64.toNat_ofNat'] at hnat
  obtain ⟨_,_,_,_⟩ := left
  obtain ⟨_,_,_,_⟩ := right
  dsimp only at *
  obtain rfl := hraw
  congr
  omega

/-- The caller sees everything of a frame. -/
theorem HdlcFrameBuffer.received_injective : Function.Injective HdlcFrameBuffer.received := by
  intro left right h
  obtain ⟨ls,ld,lsrc,⟨lc,_⟩,li⟩ := left
  obtain ⟨rs,rd,rsrc,⟨rc,_⟩,ri⟩ := right
  simp only [received,ReceivedFrame.mk.injEq,HdlcControl.encode] at h
  obtain ⟨hsegmented,hdraw,hdsize,hsraw,hssize,rfl,rfl⟩ := h
  obtain rfl := HdlcAddress.eq_of_received hdraw hdsize
  obtain rfl := HdlcAddress.eq_of_received hsraw hssize
  have hs : ls=rs := by cases ls <;> cases rs <;> simp_all
  rw [hs]

/-- Memory of a caller that wants the Information: no pointer is null, and the buffer is good for
the size that is given. -/
structure FrameMemory.Usable (memory : FrameMemory) : Prop extends memory.Present where
  buffer : ∃ bytes, memory.informationBuffer=some bytes ∧
    memory.informationBufferSize.toNat ≤ bytes.length

/-- What has been handed out is received. -/
theorem FrameMemory.received_handOut {memory : FrameMemory} (usable : memory.Usable)
    {f : HdlcFrameBuffer} (fits : f.information.length ≤ memory.informationBufferSize.toNat) :
    (memory.cleared.handOut f).received=some f.received := by
  obtain ⟨bytes,hbytes,hlength⟩ := usable.buffer
  have hlt := memory.informationBufferSize.toNat_lt
  have hread : (memory.cleared.handOut f).informationBuffer.read f.information.length=
      f.information := read_overwrite (Or.inl (by rw [cleared,hbytes]; exact nofun))
  have hsize : ((memory.cleared.handOut f).informationSize.getD 0).toNat=f.information.length := by
    change (UInt64.ofNat f.information.length).toNat=_
    rw [UInt64.toNat_ofNat',Nat.mod_eq_of_lt (by omega)]
  rw [received,hsize,hread]
  rfl

theorem Pointer.some_readable (bytes : List UInt8) (size : ℕ) :
    ¬ ((some bytes : Pointer)=none ∧ size≠0) := by simp

theorem Pointer.zero_readable (data : Pointer) : ¬ (data=none ∧ 0≠0) := by simp

section Caller
variable {σ : Type*} (push : σ → Pointer → ℕ → FrameMemory → (HdlcStatus × FrameMemory) × σ)

/-- Calls without data, until one asks for more. -/
inductive Drains : σ → List ReceivedFrame → σ → Prop
  | done {handle next : σ} {data : Pointer} {memory memory' : FrameMemory} (usable : memory.Usable)
      (call : push handle data 0 memory=((.needMoreData,memory'),next)) : Drains handle [] next
  | frame {handle next last : σ} {data : Pointer} {memory memory' : FrameMemory}
      {frame : ReceivedFrame} {frames : List ReceivedFrame} (usable : memory.Usable)
      (call : push handle data 0 memory=((.ok,memory'),next))
      (received : memory'.received=some frame) (rest : Drains next frames last) :
      Drains handle (frame::frames) last

/-- Push each chunk and drain the handle behind it, up to the first error status. -/
inductive Delivers : σ → List (List UInt8) → List ReceivedFrame → Prop
  | done {handle : σ} : Delivers handle [] []
  | failed {handle next : σ} {chunk : List UInt8} {chunks : List (List UInt8)}
      {memory memory' : FrameMemory} {status : HdlcStatus} (usable : memory.Usable)
      (call : push handle (some chunk) chunk.length memory=((status,memory'),next))
      (error : status.IsDecodeError) : Delivers handle (chunk::chunks) []
  | nothing {handle next last : σ} {chunk : List UInt8} {chunks : List (List UInt8)}
      {memory memory' : FrameMemory} {frames more : List ReceivedFrame} (usable : memory.Usable)
      (call : push handle (some chunk) chunk.length memory=((.needMoreData,memory'),next))
      (drains : Drains push next frames last) (rest : Delivers last chunks more) :
      Delivers handle (chunk::chunks) (frames ++ more)
  | frame {handle next last : σ} {chunk : List UInt8} {chunks : List (List UInt8)}
      {memory memory' : FrameMemory} {frame : ReceivedFrame} {frames more : List ReceivedFrame}
      (usable : memory.Usable)
      (call : push handle (some chunk) chunk.length memory=((.ok,memory'),next))
      (received : memory'.received=some frame) (drains : Drains push next frames last)
      (rest : Delivers last chunks more) : Delivers handle (chunk::chunks) (frame::frames ++ more)

/-- Two cuts of the stream deliver the same. -/
def CutIndependent (start : σ) (stream : List UInt8) : Prop :=
  ∀ cut other frames others, cut.flatten=stream → other.flatten=stream →
    Delivers push start cut frames → Delivers push start other others → frames=others

/-- What stands in front of the first fault is delivered. -/
def NoneLost (limits : HdlcCodecLimits) (start : σ) (stream : List UInt8) : Prop :=
  ∀ cut frames valid fault, cut.flatten=stream → Delivers push start cut frames →
    Reads limits stream valid fault → valid.map HdlcFrameBuffer.received <+: frames

/-- No accepted frame has more Information than the Format field can count. -/
theorem HdlcStreamDecoder.information_le {options : HdlcStreamDecoderOptions} {bytes : List UInt8}
    {f : HdlcFrameBuffer} (h : f ∈ ((scanner options).drain bytes).1) :
    f.information.length ≤ 2047 := by
  induction hn : bytes.length using Nat.strong_induction_on generalizing bytes with
  | _ n ih =>
    subst hn
    cases hscan : (scanner options).scan bytes with
    | wait kept => simp [Scanner.drain_wait hscan] at h
    | fail error => simp [Scanner.drain_fail hscan] at h
    | item frame rest =>
      rw [Scanner.drain_item hscan,List.mem_cons] at h
      obtain rfl | hrest := h
      · obtain ⟨_,part,_,haccepted,_⟩ := scan_item_split hscan
        obtain ⟨length,middle,hlength,_,_,hsum,_,hmiddle⟩ := decodeFrame_eq_ok haccepted
        obtain ⟨_,hnone⟩ | rfl := hmiddle
        · simp [hnone]
        · rw [List.length_append] at hsum
          omega
      · exact ih _ ((scanner options).progress hscan) hrest rfl

/-- The calls on a handle are answers of a queue behind the scanner of the stream decoder. A call
without its pointers changes nothing. -/
structure Serves (limits : HdlcCodecLimits) (O : Outlet UInt8 HdlcFrameBuffer HdlcStatus FrameMemory)
    (Holds : σ → Outlet.State UInt8 HdlcFrameBuffer → Prop) : Prop where
  scanner : O.scanner=HdlcStreamDecoder.scanner (ignoring limits)
  silent : ∀ status, O.silent status=true ↔ status=.needMoreData
  fits : ∀ (f : HdlcFrameBuffer) (memory : FrameMemory), memory.Usable → (O.fits f memory.cleared=true ↔
    f.information.length ≤ memory.informationBufferSize.toNat)
  answers : ∀ {handle : σ} {state : Outlet.State UInt8 HdlcFrameBuffer} {data : Pointer}
    {dataSize : ℕ} {memory : FrameMemory}, Holds handle state → memory.Present →
    ¬ (data=none ∧ dataSize≠0) →
    (push handle data dataSize memory).1=memory.cleared.answered
        (O.push state (data.read dataSize) memory.cleared).1 ∧
      Holds (push handle data dataSize memory).2 (O.push state (data.read dataSize) memory.cleared).2
  stable : ∀ {handle : σ} {state : Outlet.State UInt8 HdlcFrameBuffer}, Holds handle state →
    O.scanner.drain state.buffer=([],.ok state.buffer)
  rejects : ∀ (handle : σ) {data : Pointer} {dataSize : ℕ} {memory : FrameMemory},
    ¬ memory.Present ∨ data=none ∧ dataSize≠0 →
    push handle data dataSize memory=((.invalidArgument,memory.cleared),handle)

/-- What a call on a queue can report: the status, the memory and the queue behind it. -/
inductive Reply (O : Outlet UInt8 HdlcFrameBuffer HdlcStatus FrameMemory)
    (state : Outlet.State UInt8 HdlcFrameBuffer) (chunk : List UInt8) (memory : FrameMemory) :
    HdlcStatus → FrameMemory → Outlet.State UInt8 HdlcFrameBuffer → Prop
  | failed {error : HdlcStatus} {fed : Outlet.State UInt8 HdlcFrameBuffer}
      (feed : O.feed state chunk=(some error,fed)) : Reply O state chunk memory error memory.cleared fed
  | empty {fed : Outlet.State UInt8 HdlcFrameBuffer} (feed : O.feed state chunk=(none,fed))
      (pending : fed.pending=[]) : Reply O state chunk memory .needMoreData memory.cleared fed
  | small {fed : Outlet.State UInt8 HdlcFrameBuffer} {f : HdlcFrameBuffer}
      {rest : List HdlcFrameBuffer} (feed : O.feed state chunk=(none,fed))
      (pending : fed.pending=f::rest)
      (large : memory.informationBufferSize.toNat < f.information.length) :
      Reply O state chunk memory .outputBufferTooSmall memory.cleared fed
  | item {fed : Outlet.State UInt8 HdlcFrameBuffer} {f : HdlcFrameBuffer}
      {rest : List HdlcFrameBuffer} (feed : O.feed state chunk=(none,fed))
      (pending : fed.pending=f::rest)
      (fits : f.information.length ≤ memory.informationBufferSize.toNat) :
      Reply O state chunk memory .ok (memory.cleared.handOut f) { fed with pending := rest }

/-- Memory with room for that many bytes of Information. -/
def roomFor (size : ℕ) : FrameMemory :=
  ⟨some default,some (List.replicate size 0),.ofNat size,some 0⟩

theorem roomFor_usable (size : ℕ) : (roomFor size).Usable where
  frame := nofun
  informationSize := nofun
  buffer := by
    refine ⟨_,rfl,?_⟩
    rw [List.length_replicate]
    exact (UInt64.toNat_ofNat' ..).trans_le (Nat.mod_le _ _)

namespace Serves
variable {push} {limits : HdlcCodecLimits} {O : Outlet UInt8 HdlcFrameBuffer HdlcStatus FrameMemory}
  {Holds : σ → Outlet.State UInt8 HdlcFrameBuffer → Prop} (hO : Serves push limits O Holds)
  {handle next : σ} {state : Outlet.State UInt8 HdlcFrameBuffer} {data : Pointer} {dataSize : ℕ}
  {memory memory' : FrameMemory}
include hO

/-- Every call is one of the four kinds. -/
theorem reply (h : Holds handle state) (usable : memory.Usable)
    (readable : ¬ (data=none ∧ dataSize≠0)) {status : HdlcStatus}
    (call : push handle data dataSize memory=((status,memory'),next)) :
    ∃ state', Reply O state (data.read dataSize) memory status memory' state' ∧
      Holds next state' := by
  obtain ⟨hanswer,hholds⟩ := hO.answers h usable.toPresent readable
  rw [call,Outlet.push] at hanswer hholds
  rcases hfeed : O.feed state (data.read dataSize) with ⟨error | error,fed⟩ <;>
    rw [hfeed] at hanswer hholds <;> dsimp only at hanswer hholds
  · cases hpending : fed.pending with
    | nil =>
      rw [Outlet.take_nil hpending] at hanswer hholds
      cases hanswer
      exact ⟨fed,.empty hfeed hpending,hholds⟩
    | cons f rest =>
      have hroom := hO.fits f memory usable
      cases hfits : O.fits f memory.cleared with
      | true =>
        rw [Outlet.take_fits hpending hfits] at hanswer hholds
        cases hanswer
        exact ⟨_,.item hfeed hpending (hroom.mp hfits),hholds⟩
      | false =>
        rw [Outlet.take_small hpending hfits] at hanswer hholds
        cases hanswer
        refine ⟨fed,.small hfeed hpending ?_,hholds⟩
        rw [hfits] at hroom
        simpa using hroom
  · cases hanswer
    exact ⟨fed,.failed hfeed,hholds⟩

/-- What is reported as an error is one. -/
theorem isDecodeError {chunk : List UInt8} {error : HdlcStatus}
    {fed : Outlet.State UInt8 HdlcFrameBuffer} (feed : O.feed state chunk=(some error,fed)) :
    error.IsDecodeError := by
  obtain ⟨values,hdrain,hreported,_⟩ := Outlet.error_of_feed feed
  rw [hO.scanner] at hdrain
  exact ⟨HdlcStreamDecoder.drain_error_fault hdrain,
    fun hmore => hreported ((hO.silent error).mpr hmore)⟩

/-- Draining hands out the queue. -/
theorem drains_eq {last : σ} {frames : List ReceivedFrame} (h : Holds handle state)
    (drains : Drains push handle frames last) :
    frames=state.pending.map HdlcFrameBuffer.received ∧ Holds last ⟨state.buffer,[]⟩ := by
  induction drains generalizing state with
  | done usable call =>
    obtain ⟨state',hreply,hholds⟩ := hO.reply h usable (Pointer.zero_readable _) call
    rw [Pointer.read_zero] at hreply
    cases hreply with
    | failed feed => cases feed
    | empty feed pending =>
      cases feed
      rw [pending]
      exact ⟨rfl,pending ▸ hholds⟩
  | frame usable call received _ ih =>
    obtain ⟨state',hreply,hholds⟩ := hO.reply h usable (Pointer.zero_readable _) call
    rw [Pointer.read_zero] at hreply
    cases hreply with
    | failed feed => cases feed
    | item feed pending fits =>
      cases feed
      obtain ⟨rfl,hlast⟩ := ih hholds
      rw [FrameMemory.received_handOut usable fits] at received
      cases received
      rw [pending]
      exact ⟨rfl,hlast⟩

/-- Every call with its pointers has a result. -/
theorem exists_reply (h : Holds handle state) (usable : memory.Usable)
    (readable : ¬ (data=none ∧ dataSize≠0)) :
    ∃ status memory' next state', push handle data dataSize memory=((status,memory'),next) ∧
      Reply O state (data.read dataSize) memory status memory' state' ∧ Holds next state' := by
  obtain ⟨state',hreply,hholds⟩ := hO.reply h usable readable rfl
  exact ⟨_,_,_,state',rfl,hreply,hholds⟩

/-- A queue of frames that fit can be drained. -/
theorem exists_drains (h : Holds handle state) (usable : memory.Usable)
    (fits : ∀ f ∈ state.pending, f.information.length ≤ memory.informationBufferSize.toNat) :
    ∃ frames last, Drains push handle frames last := by
  induction hpending : state.pending generalizing handle state with
  | nil =>
    obtain ⟨status,memory',next,state',hcall,hreply,_⟩ :=
      hO.exists_reply h usable (Pointer.zero_readable none)
    rw [Pointer.read_zero] at hreply
    cases hreply with
    | failed feed => cases feed
    | empty => exact ⟨[],next,.done usable hcall⟩
    | small feed pending =>
      cases feed
      rw [hpending] at pending
      cases pending
    | item feed pending =>
      cases feed
      rw [hpending] at pending
      cases pending
  | cons f rest ih =>
    obtain ⟨status,memory',next,state',hcall,hreply,hholds⟩ :=
      hO.exists_reply h usable (Pointer.zero_readable none)
    rw [Pointer.read_zero] at hreply
    cases hreply with
    | failed feed => cases feed
    | empty feed pending =>
      cases feed
      rw [hpending] at pending
      cases pending
    | small feed pending large =>
      cases feed
      rw [pending] at fits
      exact absurd large (Nat.not_lt.mpr (fits _ List.mem_cons_self))
    | item feed pending hroom =>
      cases feed
      obtain ⟨rfl,rfl⟩ := List.cons.inj (pending.symm.trans hpending)
      obtain ⟨frames,last,hdrains⟩ := ih hholds
        (fun g hg => fits g (by rw [pending]; exact List.mem_cons_of_mem _ hg)) rfl
      exact ⟨_,last,.frame usable hcall (FrameMemory.received_handOut usable hroom) hdrains⟩

/-- What arrives is what the queue delivers. -/
theorem delivers_eq {cut : List (List UInt8)} {frames : List ReceivedFrame} {buffer : List UInt8}
    (h : Holds handle ⟨buffer,[]⟩) (delivers : Delivers push handle cut frames) :
    frames=(O.deliver buffer cut).map HdlcFrameBuffer.received := by
  induction delivers generalizing buffer with
  | done => rfl
  | failed usable call error =>
    obtain ⟨state',hreply,_⟩ := hO.reply h usable (Pointer.some_readable _ _) call
    rw [Pointer.read_some,List.take_length] at hreply
    cases hreply with
    | failed feed => rw [Outlet.deliver,feed]; rfl
    | empty => exact absurd rfl error.2
    | small => exact absurd rfl error.1.ne_small
    | item => exact absurd rfl error.1.ne_ok
  | nothing usable call drains _ ih =>
    obtain ⟨state',hreply,hholds⟩ := hO.reply h usable (Pointer.some_readable _ _) call
    rw [Pointer.read_some,List.take_length] at hreply
    cases hreply with
    | failed feed => exact absurd rfl (hO.isDecodeError feed).2
    | empty feed pending =>
      obtain ⟨rfl,hlast⟩ := hO.drains_eq hholds drains
      rw [Outlet.deliver,feed,ih hlast,List.map_append]
  | frame usable call received drains _ ih =>
    obtain ⟨state',hreply,hholds⟩ := hO.reply h usable (Pointer.some_readable _ _) call
    rw [Pointer.read_some,List.take_length] at hreply
    cases hreply with
    | failed feed => exact absurd rfl (hO.isDecodeError feed).1.ne_ok
    | item feed pending fits =>
      obtain ⟨rfl,hlast⟩ := hO.drains_eq hholds drains
      rw [FrameMemory.received_handOut usable fits] at received
      cases received
      rw [Outlet.deliver,feed,ih hlast]
      dsimp only
      rw [pending,List.map_append]
      rfl

/-- Every cut can be delivered. -/
theorem exists_delivers {buffer : List UInt8} (h : Holds handle ⟨buffer,[]⟩)
    (cut : List (List UInt8)) : ∃ frames, Delivers push handle cut frames := by
  induction cut generalizing handle buffer with
  | nil => exact ⟨[],.done⟩
  | cons chunk cut ih =>
    have husable := roomFor_usable 2047
    obtain ⟨status,memory',next,state',hcall,hreply,hholds⟩ :=
      hO.exists_reply h husable (Pointer.some_readable chunk chunk.length)
    rw [Pointer.read_some,List.take_length] at hreply
    have hfits : ∀ fed, O.feed ⟨buffer,[]⟩ chunk=(none,fed) → ∀ f ∈ fed.pending,
        f.information.length ≤ (roomFor 2047).informationBufferSize.toNat := by
      intro fed hfeed f hf
      have hfound := (Outlet.mem_of_feed hfeed hf).resolve_left (List.not_mem_nil)
      rw [hO.scanner] at hfound
      exact HdlcStreamDecoder.information_le hfound
    cases hreply with
    | failed feed => exact ⟨[],.failed husable hcall (hO.isDecodeError feed)⟩
    | empty feed pending =>
      obtain ⟨frames,last,hdrains⟩ := hO.exists_drains hholds husable (hfits _ feed)
      obtain ⟨_,hlast⟩ := hO.drains_eq hholds hdrains
      obtain ⟨more,hmore⟩ := ih hlast
      exact ⟨_,.nothing husable hcall hdrains hmore⟩
    | small feed pending large =>
      have hroom := hfits _ feed _ (by rw [pending]; exact List.mem_cons_self)
      exact absurd large (Nat.not_lt.mpr hroom)
    | item feed pending fits =>
      obtain ⟨frames,last,hdrains⟩ := hO.exists_drains hholds husable
        (fun g hg => hfits _ feed g (by rw [pending]; exact List.mem_cons_of_mem _ hg))
      obtain ⟨_,hlast⟩ := hO.drains_eq hholds hdrains
      obtain ⟨more,hmore⟩ := ih hlast
      exact ⟨_,.frame husable hcall (FrameMemory.received_handOut husable fits) hdrains hmore⟩

/-- The caller's view of two cuts is that of the queue. -/
theorem cutIndependent_iff {start : σ} (h : Holds start .start) (stream : List UInt8) :
    CutIndependent push start stream ↔
      ∀ cut other : List (List UInt8), cut.flatten=stream → other.flatten=stream →
        O.deliver [] cut=O.deliver [] other := by
  constructor
  · intro hsame cut other hcut hother
    obtain ⟨frames,hframes⟩ := hO.exists_delivers h cut
    obtain ⟨others,hothers⟩ := hO.exists_delivers h other
    have hequal := hsame cut other frames others hcut hother hframes hothers
    rw [hO.delivers_eq h hframes,hO.delivers_eq h hothers] at hequal
    exact HdlcFrameBuffer.received_injective.list_map hequal
  · intro hsame cut other frames others hcut hother hframes hothers
    rw [hO.delivers_eq h hframes,hO.delivers_eq h hothers,hsame cut other hcut hother]

/-- The faults of the stream are the shortest failing inputs of the queue. -/
theorem unaffected_iff (stream : List UInt8) :
    (∀ front rest values error, stream=front ++ rest → O.scanner.FailsAt front values error →
      O.Unaffected rest values error) ↔
    ∀ frames status rest, Reads limits stream frames (some (status,rest)) →
      if status=.needMoreData then O.rescued frames=frames ∧ Frameless limits rest
      else frames=[] := by
  have hone (frames : List HdlcFrameBuffer) (status : HdlcStatus) (rest : List UInt8) :
      O.Unaffected rest frames status ↔
        if status=.needMoreData then O.rescued frames=frames ∧ Frameless limits rest
        else frames=[] := by
    rw [Outlet.Unaffected,hO.scanner,HdlcStreamDecoder.barren_iff]
    simp only [hO.silent]
  constructor
  · intro h frames status rest hreads
    obtain ⟨front,hstream,hfails⟩ := HdlcStreamDecoder.reads_some_iff.mp hreads
    exact (hone frames status rest).mp
      (h front rest frames status hstream (hO.scanner.symm ▸ hfails))
  · intro h front rest values error hstream hfails
    exact (hone values error rest).mpr (h values error rest
      (HdlcStreamDecoder.reads_some_iff.mpr ⟨front,hstream,hO.scanner ▸ hfails⟩))

/-- The caller is independent of the cut exactly when no fault of the stream takes a frame with it:
one in front of a reported fault, one that is not kept, or one behind a silent fault. -/
theorem cutIndependent_iff_faults {start : σ} (h : Holds start .start) (stream : List UInt8) :
    CutIndependent push start stream ↔
      ∀ frames status rest, Reads limits stream frames (some (status,rest)) →
        if status=.needMoreData then O.rescued frames=frames ∧ Frameless limits rest
        else frames=[] := by
  have hS : O.scanner.Incremental := hO.scanner ▸ HdlcStreamDecoder.scanner_incremental _
  have hP : O.scanner.Prompt := hO.scanner ▸ HdlcStreamDecoder.scanner_prompt limits
  rw [hO.cutIndependent_iff h,Outlet.deliver_alike_iff hS hP,hO.unaffected_iff]

/-- Then every cut delivers what stands in front of the fault. -/
theorem noneLost {start : σ} (h : Holds start .start) {stream : List UInt8}
    (independent : CutIndependent push start stream) : NoneLost push limits start stream := by
  have hS : O.scanner.Incremental := hO.scanner ▸ HdlcStreamDecoder.scanner_incremental _
  have hP : O.scanner.Prompt := hO.scanner ▸ HdlcStreamDecoder.scanner_prompt limits
  intro cut frames valid fault hcut hdelivers hreads
  rw [hO.delivers_eq h hdelivers]
  suffices hdeliver : O.deliver [] cut=valid by rw [hdeliver]
  cases fault with
  | none =>
    obtain ⟨kept,hdrain⟩ := HdlcStreamDecoder.reads_none_iff.mp hreads
    rw [← hcut,← hO.scanner] at hdrain
    exact Outlet.deliver_ok hS hP.drain_nil hdrain
  | some fault =>
    obtain ⟨status,rest⟩ := fault
    obtain ⟨front,hstream,hfails⟩ := HdlcStreamDecoder.reads_some_iff.mp hreads
    rw [← hO.scanner] at hfails
    have hfaults := (hO.cutIndependent_iff_faults h stream).mp independent
    have hunaffected := (hO.unaffected_iff stream).mpr hfaults front rest valid status hstream hfails
    exact Outlet.deliver_unaffected hS hP hfails hunaffected (hcut.trans hstream)

end Serves
end Caller

theorem DlmsHdlcStreamDecoder.serves (limits : HdlcCodecLimits) :
    Serves DlmsHdlcStreamDecoder.push limits (outlet limits) (Holds limits) where
  scanner := rfl
  silent _ := beq_iff_eq
  fits _ _ _ := decide_eq_true_iff
  answers h := h.push
  stable h := h.stable
  rejects handle := handle.push_invalid

theorem Go.StreamDecoderState.serves (limits : HdlcCodecLimits) :
    Serves Go.StreamDecoderState.push limits (outlet limits) (Holds limits) where
  scanner := rfl
  silent _ := beq_iff_eq
  fits f memory usable := by
    obtain ⟨bytes,hbytes,hlength⟩ := usable.buffer
    have hslice : infoSlice memory.cleared=if 0 < memory.informationBufferSize then
        some (bytes.take memory.informationBufferSize.toNat) else none := by
      change (if _ then memory.informationBuffer.map _ else none)=_
      rw [hbytes]
      rfl
    refine decide_eq_true_iff.trans ?_
    rw [hslice]
    split
    · simp only [Option.all_some,List.length_take,min_eq_left hlength,decide_eq_true_eq]
      omega
    · rename_i hzero
      rw [UInt64.lt_iff_toNat_lt,UInt64.toNat_zero] at hzero
      simp only [Option.all_none,and_true]
      omega
  answers h := h.push
  stable h := h.stable
  rejects handle := handle.push_invalid

/-- The cut of a stream makes a difference exactly where a fault takes a frame with it. Both
libraries drop the frames that the call with a reported fault has read; behind a truncated address in
a complete frame a call drops all further bytes, and the Go library the frames in front of it, too. -/
theorem streamDecoder_cuts_iff (limits : Option DlmsHdlcLimits) (stream : List UInt8) :
    (CutIndependent DlmsHdlcStreamDecoder.push (.new limits) stream ∧
        NoneLost DlmsHdlcStreamDecoder.push (toCppLimits limits) (.new limits) stream ↔
      ∀ frames status rest, Reads (toCppLimits limits) stream frames (some (status,rest)) →
        if status=.needMoreData then Frameless (toCppLimits limits) rest else frames=[]) ∧
    (CutIndependent Go.StreamDecoderState.push (.new limits) stream ∧
        NoneLost Go.StreamDecoderState.push (toCppLimits limits) (.new limits) stream ↔
      ∀ frames status rest, Reads (toCppLimits limits) stream frames (some (status,rest)) →
        frames=[] ∧ (status=.needMoreData → Frameless (toCppLimits limits) rest)) := by
  constructor
  · have hserves := DlmsHdlcStreamDecoder.serves (toCppLimits limits)
    have hnew := DlmsHdlcStreamDecoder.holds_new limits
    have hfaults := hserves.cutIndependent_iff_faults hnew stream
    have hkeeps (frames : List HdlcFrameBuffer) :
        (DlmsHdlcStreamDecoder.outlet (toCppLimits limits)).rescued frames=frames := rfl
    simp only [hkeeps,true_and] at hfaults
    rw [← hfaults]
    exact and_iff_left_of_imp (hserves.noneLost hnew)
  · have hserves := Go.StreamDecoderState.serves (toCppLimits limits)
    have hnew := Go.StreamDecoderState.holds_new limits
    have hfaults := hserves.cutIndependent_iff_faults hnew stream
    have hdrops (frames : List HdlcFrameBuffer) :
        (Go.StreamDecoderState.outlet (toCppLimits limits)).rescued frames=frames ↔ frames=[] :=
      eq_comm
    rw [and_iff_left_of_imp (hserves.noneLost hnew),hfaults]
    refine forall₄_congr fun frames status rest _ => ?_
    rw [hdrops]
    by_cases hmore : status=.needMoreData <;> simp [hmore]

/-- A Receive Ready frame with a bit of its check sequence flipped. -/
theorem corruptFrame_refused :
    Refused defaultHdlcCodecLimits [0x7e,0xa0,0x07,0x07,0x21,0x11,0x74,0xc4,0x7e]
      .invalidFrameChecksum := by
  apply Refused.frame
  · exact Announced.size (by decide) (by decide) (by decide)
  · exact error_of_statusOf (by decide +kernel) (by decide)

/-- Behind the frame itself, in one chunk, it lets nothing arrive; in two the first frame does. -/
theorem corruptFrame_takesOther :
    ¬ CutIndependent DlmsHdlcStreamDecoder.push (.new none)
        [0x7e,0xa0,0x07,0x07,0x21,0x11,0x74,0xc5,0x7e,0x7e,0xa0,0x07,0x07,0x21,0x11,0x74,0xc4,0x7e] ∧
      ¬ CutIndependent Go.StreamDecoderState.push (.new none)
        [0x7e,0xa0,0x07,0x07,0x21,0x11,0x74,0xc5,0x7e,0x7e,0xa0,0x07,0x07,0x21,0x11,0x74,0xc4,0x7e] := by
  have hreads : Reads (toCppLimits none)
      [0x7e,0xa0,0x07,0x07,0x21,0x11,0x74,0xc5,0x7e,0x7e,0xa0,0x07,0x07,0x21,0x11,0x74,0xc4,0x7e]
      [receiveReadyFrame] (some (.invalidFrameChecksum,[])) :=
    @Reads.frame _ [] _ _ _ _ _ (by simp) receiveReadyFrame_decodes
      (@Reads.refused _ [] _ [] _ (by simp) corruptFrame_refused)
  constructor
  · rw [(DlmsHdlcStreamDecoder.serves _).cutIndependent_iff_faults
      (DlmsHdlcStreamDecoder.holds_new none)]
    intro h
    have hnone := h _ _ _ hreads
    rw [if_neg (by decide)] at hnone
    cases hnone
  · rw [(Go.StreamDecoderState.serves _).cutIndependent_iff_faults
      (Go.StreamDecoderState.holds_new none)]
    intro h
    have hnone := h _ _ _ hreads
    rw [if_neg (by decide)] at hnone
    cases hnone

end DlmsHdlc
