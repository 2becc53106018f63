import DlmsHdlc.StreamGrammar

/-! What the stream decoder keeps between calls: the beginning of one admissible frame. -/
namespace DlmsHdlc
open Machine Scanning
namespace HdlcStreamDecoder

/-- The two calls that change a decoder. -/
inductive Call
  | push (data : Pointer) (size : ℕ)
  | reset
  deriving DecidableEq, Repr

/-- Any history of calls; only `Push` has a result. -/
def calls : Mealy HdlcStreamDecoder Call (Option (HdlcStatus × List HdlcFrameBuffer)) where
  step decoder
    | .push data size => (some (decoder.push data size).1,(decoder.push data size).2)
    | .reset => (none,decoder.reset)

/-- `Push` with a bound on the rounds of its loop; nothing when they run out. -/
def pushWithin (rounds : ℕ) (decoder : HdlcStreamDecoder) (data : Pointer) (size : ℕ) :
    Option ((HdlcStatus × List HdlcFrameBuffer) × HdlcStreamDecoder) :=
  if data=none ∧ size≠0 then some ((.invalidArgument,[]),decoder)
  else
    match (scanner decoder.options).drainWithin rounds (decoder.buffer ++ data.read size) with
    | none => none
    | some (frames,.error status) => some ((status,frames),decoder.reset)
    | some (frames,.ok buffer) =>
      some ((if frames.isEmpty then .needMoreData else .ok,frames),{ decoder with buffer := buffer })

/-- Every round that does not end the call takes a frame from the buffer. -/
theorem pushWithin_eq {rounds : ℕ} {decoder : HdlcStreamDecoder} {data : Pointer} {size : ℕ}
    (h : decoder.buffer.length+size < rounds) :
    pushWithin rounds decoder data size=some (decoder.push data size) := by
  have hread : (data.read size).length ≤ size := List.length_take_le _ _
  rw [pushWithin,push]
  split
  · rfl
  rw [Scanner.drainWithin_eq (by rw [List.length_append]; omega)]
  rcases (scanner decoder.options).drain (decoder.buffer ++ data.read size)
    with ⟨frames,status | buffer⟩ <;> rfl

variable {options : HdlcStreamDecoderOptions}

/-- The loop is left with nothing, or with bytes from a flag on. -/
theorem incomplete_of_scan {buffer kept : List UInt8} (h : scan options buffer=.wait kept) :
    Incomplete options.limits kept := by
  induction buffer with
  | nil =>
    rw [scan_nil,Found.wait.injEq] at h
    exact h ▸ .nothing
  | cons byte buffer ih =>
    rw [scan_cons] at h
    split at h
    · rename_i hflag
      subst hflag
      obtain rfl := scanFrame_wait h
      exact incomplete_of_wait h
    split at h
    · cases h
    · exact ih h

theorem incomplete_push {decoder : HdlcStreamDecoder} (data : Pointer) (size : ℕ)
    (h : Incomplete decoder.options.limits decoder.buffer) :
    Incomplete decoder.options.limits (decoder.push data size).2.buffer := by
  rw [push]
  split
  · exact h
  cases hdrain : (scanner decoder.options).drain (decoder.buffer ++ data.read size) with
  | mk frames result =>
    cases result with
    | error status => exact .nothing
    | ok kept =>
      obtain ⟨last,hlast⟩ := Scanner.exists_wait_of_drain hdrain
      exact incomplete_of_scan hlast

theorem push_options (decoder : HdlcStreamDecoder) (data : Pointer) (size : ℕ) :
    (decoder.push data size).2.options=decoder.options := by
  rw [push]
  split
  · rfl
  rcases (scanner decoder.options).drain (decoder.buffer ++ data.read size)
    with ⟨frames,status | buffer⟩ <;> rfl

/-- The invariant of a decoder made with these options. -/
structure Retains (options : HdlcStreamDecoderOptions) (decoder : HdlcStreamDecoder) : Prop where
  options_eq : decoder.options=options
  incomplete : Incomplete options.limits decoder.buffer

theorem retains_new (options : HdlcStreamDecoderOptions) : Retains options (new options) :=
  ⟨rfl,.nothing⟩

theorem retains_step (decoder : HdlcStreamDecoder) (call : Call) (h : Retains options decoder) :
    Retains options (calls.step decoder call).2 := by
  obtain ⟨rfl,hincomplete⟩ := h
  cases call with
  | push data size => exact ⟨push_options decoder data size,incomplete_push data size hincomplete⟩
  | reset => exact ⟨rfl,.nothing⟩

theorem retains_final (options : HdlcStreamDecoderOptions) (history : List Call) :
    Retains options (calls.final (new options) history) :=
  calls.final_invariant (Retains options) retains_step (retains_new options) history

end HdlcStreamDecoder

theorem Announced.size_le {limits : HdlcCodecLimits} {format : UInt16} {size : ℕ}
    (h : Announced limits format (.ok size)) : size ≤ 2049 := by
  cases h
  rw [format_length]
  omega

theorem Incomplete.length_le {limits : HdlcCodecLimits} {bytes : List UInt8}
    (h : Incomplete limits bytes) : bytes.length ≤ 2048 := by
  cases h with
  | nothing => exact Nat.zero_le _
  | flag => simp
  | high => simp
  | frame announced less =>
    have := announced.size_le
    simp only [List.length_cons]
    omega

/-- The beginning of a frame, read off its bytes. -/
theorem incomplete_iff {limits : HdlcCodecLimits} {bytes : List UInt8} :
    Incomplete limits bytes ↔ bytes=[] ∨ bytes.head?=some kHdlcFlag ∧ (bytes.length < 3 ∨
      let format := readUint16HighByteFirst (bytes.drop 1)
      let length := (format &&& 0x07ff).toNat
      format &&& 0xf000=kFrameFormatType3 ∧ 6 ≤ length ∧
        length+2 ≤ (effectiveMaximumFrameSize limits).toNat ∧ bytes.length < length+2) := by
  constructor
  · intro h
    cases h with
    | nothing => exact Or.inl rfl
    | flag => exact Or.inr ⟨rfl,Or.inl (by simp)⟩
    | high => exact Or.inr ⟨rfl,Or.inl (by simp)⟩
    | frame announced less =>
      cases announced with
      | size type enough fits => exact Or.inr ⟨rfl,Or.inr ⟨type,enough,fits,less⟩⟩
  · rintro (rfl | ⟨hflag,hrest⟩)
    · exact .nothing
    obtain _ | ⟨flag,_ | ⟨high,_ | ⟨low,rest⟩⟩⟩ := bytes
    · exact .nothing
    · obtain rfl : flag=kHdlcFlag := by simpa using hflag
      exact .flag
    · obtain rfl : flag=kHdlcFlag := by simpa using hflag
      exact .high
    · obtain rfl : flag=kHdlcFlag := by simpa using hflag
      obtain hshort | ⟨htype,henough,hfits,hless⟩ := hrest
      · simp only [List.length_cons] at hshort
        omega
      · exact .frame (.size htype henough hfits) hless

/-- Whatever is fed to a decoder, each `Push` ends, and between calls the decoder retains nothing
but the beginning of one admissible frame: 2048 bytes at most. -/
theorem streamDecoder_retains (options : HdlcStreamDecoderOptions)
    (history : List HdlcStreamDecoder.Call) :
    let decoder := HdlcStreamDecoder.calls.final (.new options) history
    let format := readUint16HighByteFirst (decoder.buffer.drop 1)
    let length := (format &&& 0x07ff).toNat
    (decoder.buffer=[] ∨ decoder.buffer.head?=some kHdlcFlag ∧ (decoder.buffer.length < 3 ∨
      format &&& 0xf000=kFrameFormatType3 ∧ 6 ≤ length ∧
        length+2 ≤ (effectiveMaximumFrameSize options.limits).toNat ∧
        decoder.buffer.length < length+2)) ∧
    decoder.buffer.length ≤ 2048 ∧
    ∀ data size, HdlcStreamDecoder.pushWithin (decoder.buffer.length+size+1) decoder data size=
      some (decoder.push data size) := by
  have hretains := HdlcStreamDecoder.retains_final options history
  refine ⟨incomplete_iff.mp hretains.incomplete,hretains.incomplete.length_le,fun data size => ?_⟩
  exact HdlcStreamDecoder.pushWithin_eq (Nat.lt_succ_self _)

end DlmsHdlc
