import DlmsHdlc.StreamDecoder

/-! Which byte streams the stream decoder cannot get through: a grammar of its errors. -/
namespace DlmsHdlc
open Scanning

/-- An opening flag with a format field that no frame starts with, or in front of a complete frame
that the frame decoder refuses. -/
def Malformed (limits : HdlcCodecLimits) (buffer : List UInt8) : Prop :=
  ∃ rest, buffer=kHdlcFlag::rest ∧ 2 ≤ rest.length ∧
    let format := readUint16HighByteFirst rest
    let length := (format &&& 0x07ff).toNat
    (format &&& 0xf000≠kFrameFormatType3 ∨ length < 6 ∨
      (effectiveMaximumFrameSize limits).toNat < length+2 ∨
      length+2 ≤ buffer.length ∧
        ∃ status, decodeFrame (some (buffer.take (length+2))) (length+2) limits=.error status)

namespace HdlcStreamDecoder

/-- Accepted frames behind tolerated noise, and then forbidden noise or something malformed. -/
inductive EndsInFault (options : HdlcStreamDecoderOptions) : List UInt8 → Prop
  | noise {byte : UInt8} {rest : List UInt8} (policy : options.noisePolicy=.reportError)
      (foreign : byte≠kHdlcFlag) : EndsInFault options (byte::rest)
  | malformed {noise buffer : List UInt8} (tolerated : Tolerated options.noisePolicy noise)
      (malformed : Malformed options.limits buffer) : EndsInFault options (noise ++ buffer)
  | frame {noise bytes rest : List UInt8} {frame : HdlcFrameBuffer}
      (tolerated : Tolerated options.noisePolicy noise)
      (accepted : decodeFrame (some bytes) bytes.length options.limits=.ok frame)
      (fault : EndsInFault options rest) : EndsInFault options (noise ++ (bytes ++ rest))

/-- At least one accepted frame stands in front of the fault. -/
def FrameBeforeFault (options : HdlcStreamDecoderOptions) (buffer : List UInt8) : Prop :=
  ∃ noise bytes frame rest, Tolerated options.noisePolicy noise ∧
    decodeFrame (some bytes) bytes.length options.limits=.ok frame ∧
    EndsInFault options rest ∧ buffer=noise ++ (bytes ++ rest)

/-- The buffer behind the noise that the policy tolerates. -/
theorem split_noise (policy : HdlcNoisePolicy) (buffer : List UInt8) :
    ∃ noise tail, Tolerated policy noise ∧ buffer=noise ++ tail ∧
      (tail=[] ∨ (∃ rest, tail=kHdlcFlag::rest) ∨
        policy=.reportError ∧ ∃ byte rest, byte≠kHdlcFlag ∧ tail=byte::rest) := by
  induction buffer with
  | nil => exact ⟨[],[],⟨by simp,fun _ => rfl⟩,rfl,Or.inl rfl⟩
  | cons byte buffer ih =>
    by_cases hbyte : byte=kHdlcFlag
    · exact ⟨[],_,⟨by simp,fun _ => rfl⟩,rfl,Or.inr (Or.inl ⟨buffer,by rw [hbyte]⟩)⟩
    cases policy with
    | reportError =>
      exact ⟨[],_,⟨by simp,fun _ => rfl⟩,rfl,Or.inr (Or.inr ⟨rfl,byte,buffer,hbyte,rfl⟩)⟩
    | ignoreUntilOpeningFlag =>
      obtain ⟨noise,tail,htolerated,hsplit,htail⟩ := ih
      refine ⟨byte::noise,tail,⟨?_,nofun⟩,by rw [hsplit]; rfl,htail⟩
      rw [List.mem_cons,not_or]
      exact ⟨Ne.symm hbyte,htolerated.1⟩

theorem scanFrame_fail_iff {limits : HdlcCodecLimits} {rest : List UInt8} :
    (∃ status, scanFrame limits (kHdlcFlag::rest)=.fail status) ↔
      Malformed limits (kHdlcFlag::rest) := by
  have hread : (kHdlcFlag::rest).drop 1=rest := rfl
  unfold scanFrame
  simp only [hread]
  constructor
  · rintro ⟨status,h⟩
    split at h
    · cases h
    rename_i hthree
    refine ⟨rest,rfl,by rw [List.length_cons] at hthree; omega,?_⟩
    dsimp only
    split at h
    · rename_i htype
      exact Or.inl htype
    split at h
    · rename_i hsix
      exact Or.inr (Or.inl hsix)
    split at h
    · rename_i hlarge
      exact Or.inr (Or.inr (Or.inl hlarge))
    split at h
    · cases h
    rename_i hfull
    split at h
    · rename_i hdecode
      rw [← decodeFrame_take] at hdecode
      exact Or.inr (Or.inr (Or.inr ⟨Nat.not_lt.mp hfull,_,hdecode⟩))
    · cases h
  · rintro ⟨_,hrest,htwo,hfault⟩
    obtain rfl := (List.cons.inj hrest).2
    dsimp only at hfault
    rw [if_neg (by rw [List.length_cons]; omega)]
    split
    · exact ⟨_,rfl⟩
    split
    · exact ⟨_,rfl⟩
    split
    · exact ⟨_,rfl⟩
    rename_i htype hsix hlarge
    obtain hne | hlt | hgt | ⟨hfull,status,hdecode⟩ := hfault
    · exact absurd hne htype
    · exact absurd hlt hsix
    · exact absurd hgt hlarge
    · rw [decodeFrame_take] at hdecode
      rw [if_neg (Nat.not_lt.mpr hfull),hdecode]
      exact ⟨_,rfl⟩

/-- A round that fails meets a fault. -/
theorem endsInFault_of_scan {options : HdlcStreamDecoderOptions} {buffer : List UInt8}
    {status : HdlcStatus} (h : scan options buffer=.fail status) : EndsInFault options buffer := by
  obtain ⟨noise,tail,htolerated,rfl,rfl | ⟨rest,rfl⟩ | ⟨hpolicy,byte,rest,hbyte,rfl⟩⟩ :=
    split_noise options.noisePolicy buffer
  · rw [scan_noise htolerated,scan_nil] at h
    cases h
  · rw [scan_noise htolerated,scan_cons,if_pos rfl] at h
    exact .malformed htolerated (scanFrame_fail_iff.mp ⟨status,h⟩)
  · rw [htolerated.2 hpolicy]
    exact .noise hpolicy hbyte

/-- A round that finds a frame has taken accepted bytes from the buffer. -/
theorem scan_item_split {options : HdlcStreamDecoderOptions} {buffer rest : List UInt8}
    {frame : HdlcFrameBuffer} (h : scan options buffer=.item frame rest) :
    ∃ noise bytes, Tolerated options.noisePolicy noise ∧
      decodeFrame (some bytes) bytes.length options.limits=.ok frame ∧
      buffer=noise ++ (bytes ++ rest) := by
  obtain ⟨noise,tail,htolerated,rfl,rfl | ⟨more,rfl⟩ | ⟨hpolicy,byte,more,hbyte,rfl⟩⟩ :=
    split_noise options.noisePolicy buffer
  · rw [scan_noise htolerated,scan_nil] at h
    cases h
  · rw [scan_noise htolerated,scan_cons,if_pos rfl] at h
    unfold scanFrame at h
    dsimp only at h
    repeat' split at h
    all_goals cases h
    rename_i hfull _ hdecode
    generalize (readUint16HighByteFirst ((kHdlcFlag::more).drop 1) &&& 0x07ff).toNat+2=size at *
    refine ⟨noise,(kHdlcFlag::more).take size,htolerated,?_,by rw [List.take_append_drop]⟩
    rw [List.length_take,min_eq_left (Nat.not_lt.mp hfull),decodeFrame_take,hdecode]
  · rw [scan_noise htolerated,scan_cons,if_neg hbyte,if_pos hpolicy] at h
    cases h

theorem scanner_scan_item {options : HdlcStreamDecoderOptions} {noise bytes : List UInt8}
    {frame : HdlcFrameBuffer} (tolerated : Tolerated options.noisePolicy noise)
    (accepted : decodeFrame (some bytes) bytes.length options.limits=.ok frame)
    (rest : List UInt8) : (scanner options).scan (noise ++ (bytes ++ rest))=.item frame rest := by
  change scan options _=_
  rw [scan_noise tolerated,scan_accepted accepted]

/-- The grammar describes the streams that drain into an error. -/
theorem endsInFault_iff {options : HdlcStreamDecoderOptions} {buffer : List UInt8} :
    EndsInFault options buffer ↔
      ∃ frames status, (scanner options).drain buffer=(frames,.error status) := by
  constructor
  · intro h
    induction h with
    | noise policy foreign =>
      refine ⟨[],.invalidFlag,Scanner.drain_fail ?_⟩
      change scan options _=_
      rw [scan_cons,if_neg foreign,if_pos policy]
    | malformed tolerated malformed =>
      have hfails := malformed
      obtain ⟨rest,rfl,_⟩ := malformed
      obtain ⟨status,hstatus⟩ := scanFrame_fail_iff.mpr hfails
      refine ⟨[],status,Scanner.drain_fail ?_⟩
      change scan options _=_
      rw [scan_noise tolerated,scan_cons,if_pos rfl,hstatus]
    | @frame noise bytes rest frame tolerated accepted _ ih =>
      obtain ⟨frames,status,hdrain⟩ := ih
      have hscan := scanner_scan_item tolerated accepted rest
      exact ⟨frame::frames,status,by rw [Scanner.drain_item hscan,hdrain]⟩
  · rintro ⟨frames,status,h⟩
    induction hn : buffer.length using Nat.strong_induction_on generalizing buffer frames with
    | _ n ih =>
      subst hn
      cases hscan : (scanner options).scan buffer with
      | wait kept => simp [Scanner.drain_wait hscan] at h
      | fail error => exact endsInFault_of_scan hscan
      | item frame rest =>
        rw [Scanner.drain_item hscan,Prod.mk.injEq] at h
        have hrest := ih _ ((scanner options).progress hscan) ((scanner options).drain rest).1
          (Prod.ext rfl h.2) rfl
        obtain ⟨noise,bytes,htolerated,haccepted,rfl⟩ := scan_item_split hscan
        exact .frame htolerated haccepted hrest

theorem frameBeforeFault_iff {options : HdlcStreamDecoderOptions} {buffer : List UInt8} :
    FrameBeforeFault options buffer ↔
      ∃ frames status, frames≠[] ∧ (scanner options).drain buffer=(frames,.error status) := by
  constructor
  · rintro ⟨noise,bytes,frame,rest,htolerated,haccepted,hfault,rfl⟩
    obtain ⟨frames,status,hdrain⟩ := endsInFault_iff.mp hfault
    have hscan := scanner_scan_item htolerated haccepted rest
    exact ⟨frame::frames,status,nofun,by rw [Scanner.drain_item hscan,hdrain]⟩
  · rintro ⟨frames,status,hframes,h⟩
    cases hscan : (scanner options).scan buffer with
    | wait kept => simp [Scanner.drain_wait hscan] at h
    | fail error =>
      rw [Scanner.drain_fail hscan,Prod.mk.injEq] at h
      exact absurd h.1.symm hframes
    | item frame rest =>
      rw [Scanner.drain_item hscan,Prod.mk.injEq] at h
      obtain ⟨noise,bytes,htolerated,haccepted,rfl⟩ := scan_item_split hscan
      exact ⟨noise,bytes,frame,rest,htolerated,haccepted,
        endsInFault_iff.mpr ⟨_,status,Prod.ext rfl h.2⟩,rfl⟩

end HdlcStreamDecoder
end DlmsHdlc
