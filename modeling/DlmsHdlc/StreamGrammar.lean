import DlmsHdlc.StreamFault

/-! What the stream decoder reads, as a grammar of the pushed bytes: the frames, and the first fault
with its status and the bytes behind it. -/
namespace DlmsHdlc
open Scanning

/-- What `Frame Format` announces, and whether a frame may start with it. -/
inductive Announced (limits : HdlcCodecLimits) (format : UInt16) : Except HdlcStatus ℕ → Prop
  | type (foreign : format &&& 0xf000≠kFrameFormatType3) :
      Announced limits format (.error .invalidFrameFormat)
  | short (type : format &&& 0xf000=kFrameFormatType3) (less : (format &&& 0x07ff).toNat < 6) :
      Announced limits format (.error .invalidFrameLength)
  | large (type : format &&& 0xf000=kFrameFormatType3) (enough : 6 ≤ (format &&& 0x07ff).toNat)
      (more : (effectiveMaximumFrameSize limits).toNat < (format &&& 0x07ff).toNat+2) :
      Announced limits format (.error .frameTooLarge)
  | size (type : format &&& 0xf000=kFrameFormatType3) (enough : 6 ≤ (format &&& 0x07ff).toNat)
      (fits : (format &&& 0x07ff).toNat+2 ≤ (effectiveMaximumFrameSize limits).toNat) :
      Announced limits format (.ok ((format &&& 0x07ff).toNat+2))

/-- The bytes from an opening flag to where the decoder refuses them: three bytes with a format
that no frame has, or a whole frame. -/
inductive Refused (limits : HdlcCodecLimits) : List UInt8 → HdlcStatus → Prop
  | format {high low : UInt8} {status : HdlcStatus}
      (announced : Announced limits (readUint16HighByteFirst [high,low]) (.error status)) :
      Refused limits [kHdlcFlag,high,low] status
  | frame {high low : UInt8} {rest : List UInt8} {status : HdlcStatus}
      (announced : Announced limits (readUint16HighByteFirst [high,low]) (.ok (rest.length+3)))
      (refused : decodeFrame (some (kHdlcFlag::high::low::rest)) (rest.length+3) limits=
        .error status) :
      Refused limits (kHdlcFlag::high::low::rest) status

/-- The beginning of a frame, or nothing. -/
inductive Incomplete (limits : HdlcCodecLimits) : List UInt8 → Prop
  | nothing : Incomplete limits []
  | flag : Incomplete limits [kHdlcFlag]
  | high {high : UInt8} : Incomplete limits [kHdlcFlag,high]
  | frame {high low : UInt8} {rest : List UInt8} {size : ℕ}
      (announced : Announced limits (readUint16HighByteFirst [high,low]) (.ok size))
      (less : rest.length+3 < size) : Incomplete limits (kHdlcFlag::high::low::rest)

namespace HdlcStreamDecoder

/-- The bytes are frames behind noise, and then the beginning of a frame, or a fault with its status
and the bytes behind it. Noise is ignored up to the next flag. -/
inductive Reads (limits : HdlcCodecLimits) :
    List UInt8 → List HdlcFrameBuffer → Option (HdlcStatus × List UInt8) → Prop
  | incomplete {noise bytes : List UInt8} (ignored : kHdlcFlag ∉ noise)
      (incomplete : Incomplete limits bytes) : Reads limits (noise ++ bytes) [] none
  | refused {noise bytes rest : List UInt8} {status : HdlcStatus} (ignored : kHdlcFlag ∉ noise)
      (refused : Refused limits bytes status) :
      Reads limits (noise ++ (bytes ++ rest)) [] (some (status,rest))
  | frame {noise bytes rest : List UInt8} {frame : HdlcFrameBuffer} {frames : List HdlcFrameBuffer}
      {fault : Option (HdlcStatus × List UInt8)} (ignored : kHdlcFlag ∉ noise)
      (accepted : decodeFrame (some bytes) bytes.length limits=.ok frame)
      (reads : Reads limits rest frames fault) :
      Reads limits (noise ++ (bytes ++ rest)) (frame::frames) fault

end HdlcStreamDecoder

theorem exists_announced (limits : HdlcCodecLimits) (format : UInt16) :
    ∃ announced, Announced limits format announced := by
  by_cases htype : format &&& 0xf000=kFrameFormatType3
  · rcases Nat.lt_or_ge (format &&& 0x07ff).toNat 6 with hless | henough
    · exact ⟨_,.short htype hless⟩
    rcases Nat.lt_or_ge (effectiveMaximumFrameSize limits).toNat ((format &&& 0x07ff).toNat+2)
      with hmore | hfits
    · exact ⟨_,.large htype henough hmore⟩
    · exact ⟨_,.size htype henough hfits⟩
  · exact ⟨_,.type htype⟩

namespace HdlcStreamDecoder
variable {limits : HdlcCodecLimits} {high low : UInt8} {rest : List UInt8}

/-- The loop body, from the announcement on. -/
theorem scanFrame_announced {announced : Except HdlcStatus ℕ}
    (h : Announced limits (readUint16HighByteFirst [high,low]) announced) :
    scanFrame limits (kHdlcFlag::high::low::rest)=
      match announced with
      | .error status => .fail status
      | .ok size =>
        if rest.length+3 < size then .wait (kHdlcFlag::high::low::rest)
        else
          match decodeFrame (some (kHdlcFlag::high::low::rest)) size limits with
          | .error status => .fail status
          | .ok frame => .item frame ((kHdlcFlag::high::low::rest).drop size) := by
  have hread : readUint16HighByteFirst ((kHdlcFlag::high::low::rest).drop 1)=
      readUint16HighByteFirst [high,low] := rfl
  unfold scanFrame
  rw [if_neg (by simp)]
  simp only [hread]
  cases h with
  | type foreign => rw [if_pos foreign]
  | short type less => rw [if_neg (by simpa using type),if_pos less]
  | large type enough more =>
    rw [if_neg (by simpa using type),if_neg (Nat.not_lt.mpr enough),if_pos more]
  | size type enough fits =>
    rw [if_neg (by simpa using type),if_neg (Nat.not_lt.mpr enough),if_neg (Nat.not_lt.mpr fits)]
    rfl

/-- Refused bytes fail whatever follows. -/
theorem scanFrame_refused {bytes : List UInt8} {status : HdlcStatus}
    (h : Refused limits bytes status) (rest : List UInt8) :
    scanFrame limits (bytes ++ rest)=.fail status := by
  cases h with
  | format announced => exact scanFrame_announced announced
  | @frame high low more _ announced refused =>
    have hdecode : decodeFrame (some (kHdlcFlag::high::low::(more ++ rest))) (more.length+3) limits=
        .error status := by
      rw [← refused]
      have hlength : more.length+3 ≤ (kHdlcFlag::high::low::more).length := le_rfl
      exact decodeFrame_append hlength rest limits
    have hscan : scanFrame limits (kHdlcFlag::high::low::(more ++ rest))=_ :=
      scanFrame_announced announced
    dsimp only at hscan
    rw [if_neg (by rw [List.length_append]; omega),hdecode] at hscan
    exact hscan

/-- The beginning of a frame is kept whole. -/
theorem scanFrame_incomplete {bytes : List UInt8} (h : Incomplete limits bytes) :
    scanFrame limits bytes=.wait bytes := by
  cases h with
  | nothing => rfl
  | flag => rfl
  | high => rfl
  | @frame high low rest size announced less =>
    have hscan : scanFrame limits (kHdlcFlag::high::low::rest)=_ := scanFrame_announced announced
    dsimp only at hscan
    rw [hscan,if_pos less]

/-- Bytes from a flag on that are neither an accepted frame nor refused are the beginning of one. -/
theorem incomplete_of_wait {rest : List UInt8}
    (h : scanFrame limits (kHdlcFlag::rest)=.wait (kHdlcFlag::rest)) :
    Incomplete limits (kHdlcFlag::rest) := by
  obtain _ | ⟨high,_ | ⟨low,rest⟩⟩ := rest
  · exact .flag
  · exact .high
  obtain ⟨announced,hannounced⟩ := exists_announced limits (readUint16HighByteFirst [high,low])
  rw [scanFrame_announced hannounced] at h
  cases announced with
  | error status => cases h
  | ok size =>
    dsimp only at h
    split at h
    · rename_i hless
      exact .frame hannounced hless
    · split at h <;> cases h

/-- The options of the C ABI: noise is ignored. -/
def ignoring (limits : HdlcCodecLimits) : HdlcStreamDecoderOptions :=
  ⟨limits,.ignoreUntilOpeningFlag⟩

theorem tolerated_ignoring {noise : List UInt8} :
    Tolerated (ignoring limits).noisePolicy noise ↔ kHdlcFlag ∉ noise :=
  ⟨And.left,fun h => ⟨h,nofun⟩⟩

/-- The bytes behind the noise are empty or start with a flag. -/
theorem split_ignoring (bytes : List UInt8) :
    ∃ noise tail, kHdlcFlag ∉ noise ∧ bytes=noise ++ tail ∧
      (tail=[] ∨ ∃ rest, tail=kHdlcFlag::rest) := by
  obtain ⟨noise,tail,htolerated,hbytes,htail⟩ :=
    split_noise HdlcNoisePolicy.ignoreUntilOpeningFlag bytes
  refine ⟨noise,tail,htolerated.1,hbytes,?_⟩
  obtain rfl | hflag | ⟨hpolicy,_⟩ := htail
  · exact Or.inl rfl
  · exact Or.inr hflag
  · cases hpolicy

theorem scan_ignoring {noise : List UInt8} (ignored : kHdlcFlag ∉ noise) (bytes : List UInt8) :
    scan (ignoring limits) (noise ++ bytes)=scan (ignoring limits) bytes :=
  scan_noise (tolerated_ignoring.mpr ignored) bytes

@[simp] theorem scan_flag (bytes : List UInt8) :
    scan (ignoring limits) (kHdlcFlag::bytes)=scanFrame limits (kHdlcFlag::bytes) := by
  rw [scan_cons,if_pos rfl]
  rfl

theorem scan_incomplete {bytes : List UInt8} (h : Incomplete limits bytes) :
    scan (ignoring limits) bytes=.wait bytes := by
  rw [← scanFrame_incomplete h]
  cases h with
  | nothing => exact scan_nil _
  | flag => exact scan_flag _
  | high => exact scan_flag _
  | frame => exact scan_flag _

theorem scan_refused {bytes : List UInt8} {status : HdlcStatus} (h : Refused limits bytes status)
    (rest : List UInt8) : scan (ignoring limits) (bytes ++ rest)=.fail status := by
  rw [← scanFrame_refused h rest]
  cases h with
  | format => exact scan_flag _
  | frame => exact scan_flag _

theorem scanner_prompt (limits : HdlcCodecLimits) : (scanner (ignoring limits)).Prompt where
  empty := scan_nil (ignoring limits)
  piece := by
    intro input frame rest h
    obtain ⟨noise,bytes,htolerated,haccepted,rfl⟩ := scan_item_split h
    refine ⟨noise ++ bytes,by rw [List.append_assoc],?_⟩
    have hscan := scanner_scan_item htolerated haccepted []
    rwa [List.append_nil] at hscan
  kept := by
    intro input kept h
    change scan (ignoring limits) input=_ at h
    obtain ⟨noise,tail,hignored,rfl,rfl | ⟨rest,rfl⟩⟩ := split_ignoring input
    · rw [scan_ignoring hignored,scan_nil] at h
      cases h
      exact List.nil_suffix
    · rw [scan_ignoring hignored,scan_flag] at h
      rw [scanFrame_wait h]
      exact List.suffix_append noise _

/-- The fronts of a frame whose format has arrived. -/
theorem front_cases {front : List UInt8} (h : front <+: kHdlcFlag::high::low::rest) :
    Incomplete limits front ∨ ∃ more, more <+: rest ∧ front=kHdlcFlag::high::low::more := by
  obtain rfl | ⟨_,rfl,hfirst⟩ := List.prefix_cons_iff.mp h
  · exact Or.inl .nothing
  obtain rfl | ⟨_,rfl,hsecond⟩ := List.prefix_cons_iff.mp hfirst
  · exact Or.inl .flag
  obtain rfl | ⟨more,rfl,hthird⟩ := List.prefix_cons_iff.mp hsecond
  · exact Or.inl .high
  · exact Or.inr ⟨more,hthird,rfl⟩

/-- Before its last byte, what will be refused is the beginning of a frame. -/
theorem incomplete_of_refused {bytes front : List UInt8} {status : HdlcStatus}
    (h : Refused limits bytes status) (hfront : front <+: bytes) (hne : front≠bytes) :
    Incomplete limits front := by
  cases h with
  | format announced =>
    obtain hincomplete | ⟨more,hmore,rfl⟩ := front_cases hfront
    · exact hincomplete
    · rw [List.prefix_nil.mp hmore] at hne
      exact absurd rfl hne
  | frame announced refused =>
    obtain hincomplete | ⟨more,hmore,rfl⟩ := front_cases hfront
    · exact hincomplete
    · have hlength := lt_of_le_of_ne hmore.length_le
        (fun hsame => hne (by rw [hmore.eq_of_length hsame]))
      exact .frame announced (by omega)

/-- Ignored noise and refused bytes are a shortest failing input. -/
theorem failsAt_refused {noise bytes : List UInt8} {status : HdlcStatus}
    (ignored : kHdlcFlag ∉ noise) (h : Refused limits bytes status) :
    (scanner (ignoring limits)).FailsAt (noise ++ bytes) [] status := by
  constructor
  · apply Scanner.drain_fail
    change scan (ignoring limits) _=_
    rw [scan_ignoring ignored,← List.append_nil bytes,scan_refused h]
  · intro front hfront hne
    obtain ⟨more,hmore⟩ | ⟨front',rfl⟩ := List.prefix_or_prefix_of_prefix hfront
      (List.prefix_append noise bytes)
    · have hignored : kHdlcFlag ∉ front := by
        intro hmem
        exact ignored (hmore ▸ List.mem_append_left more hmem)
      refine ⟨[],[],Scanner.drain_wait ?_⟩
      change scan (ignoring limits) _=_
      rw [← List.append_nil front,scan_ignoring hignored,scan_nil]
    · have hincomplete := incomplete_of_refused h ((List.prefix_append_right_inj noise).mp hfront)
        (fun hsame => hne (by rw [hsame]))
      refine ⟨[],front',Scanner.drain_wait ?_⟩
      change scan (ignoring limits) _=_
      rw [scan_ignoring ignored,scan_incomplete hincomplete]

/-- A failing round refuses bytes behind noise. -/
theorem refused_of_failsAt {bytes : List UInt8} {status : HdlcStatus}
    (h : (scanner (ignoring limits)).FailsAt bytes [] status) :
    ∃ noise tail, kHdlcFlag ∉ noise ∧ bytes=noise ++ tail ∧ Refused limits tail status := by
  have hfail : scan (ignoring limits) bytes=.fail status := by
    have hdrained := h.drained
    cases hscan : (scanner (ignoring limits)).scan bytes with
    | wait kept => simp [Scanner.drain_wait hscan] at hdrained
    | fail error =>
      rw [Scanner.drain_fail hscan,Prod.mk.injEq,Except.error.injEq] at hdrained
      rw [← hdrained.2]
      exact hscan
    | item frame rest => simp [Scanner.drain_item hscan] at hdrained
  obtain ⟨noise,tail,hignored,rfl,rfl | ⟨rest,rfl⟩⟩ := split_ignoring bytes
  · rw [scan_ignoring hignored,scan_nil] at hfail
    cases hfail
  rw [scan_ignoring hignored,scan_flag] at hfail
  -- A refused front of the bytes is all of them, or a shorter input would fail.
  have hwhole : ∀ front behind status', kHdlcFlag::rest=front ++ behind →
      Refused limits front status' → front=kHdlcFlag::rest := by
    intro front behind status' hsplit hrefused
    by_contra hne
    have hfront : noise ++ front <+: noise ++ kHdlcFlag::rest :=
      (List.prefix_append_right_inj noise).mpr ⟨behind,hsplit.symm⟩
    obtain ⟨_,_,hok⟩ := h.shortest _ hfront (fun hsame => hne (List.append_cancel_left hsame))
    rw [(failsAt_refused hignored hrefused).drained] at hok
    cases hok
  refine ⟨noise,_,hignored,rfl,?_⟩
  obtain _ | ⟨high,_ | ⟨low,rest⟩⟩ := rest
  · cases hfail
  · cases hfail
  obtain ⟨announced,hannounced⟩ := exists_announced limits (readUint16HighByteFirst [high,low])
  rw [scanFrame_announced hannounced] at hfail
  cases announced with
  | error status' =>
    cases hfail
    have hformat := Refused.format hannounced
    rw [← hwhole [kHdlcFlag,high,low] rest status rfl hformat]
    exact hformat
  | ok size =>
    dsimp only at hfail
    split at hfail
    · cases hfail
    rename_i hfull
    split at hfail
    · rename_i hdecode
      cases hfail
      have hsize : (rest.take (size-3)).length+3=size := by
        rw [List.length_take]
        have hsix : 8 ≤ size := by cases hannounced; omega
        omega
      have htake : (kHdlcFlag::high::low::rest).take size=
          kHdlcFlag::high::low::rest.take (size-3) := by
        obtain ⟨n,rfl⟩ := Nat.exists_eq_add_of_le' (show 3 ≤ size by omega)
        rfl
      have hframe : Refused limits (kHdlcFlag::high::low::rest.take (size-3)) status := by
        apply Refused.frame
        · rwa [hsize]
        · rw [hsize,← htake,decodeFrame_take,hdecode]
      rw [← hwhole _ (rest.drop (size-3)) status (by simp) hframe]
      exact hframe
    · cases hfail

theorem reads_some_iff {bytes rest : List UInt8} {frames : List HdlcFrameBuffer}
    {status : HdlcStatus} :
    Reads limits bytes frames (some (status,rest)) ↔
      ∃ front, bytes=front ++ rest ∧ (scanner (ignoring limits)).FailsAt front frames status := by
  constructor
  · intro h
    generalize hfault : some (status,rest)=fault at h
    induction h with
    | incomplete => cases hfault
    | @refused noise bytes rest status ignored refused =>
      cases hfault
      exact ⟨noise ++ bytes,by rw [List.append_assoc],failsAt_refused ignored refused⟩
    | @frame noise bytes _ _ _ _ ignored accepted _ ih =>
      obtain ⟨front,rfl,hfails⟩ := ih hfault
      have hpiece := scanner_scan_item (tolerated_ignoring.mpr ignored) accepted []
      rw [List.append_nil] at hpiece
      refine ⟨noise ++ bytes ++ front,by simp only [List.append_assoc],?_⟩
      exact (scanner_prompt limits).failsAt_item (scanner_incremental _) hpiece hfails
  · rintro ⟨front,rfl,hfails⟩
    induction hn : front.length using Nat.strong_induction_on generalizing front frames with
    | _ n ih =>
      subst hn
      have hdrained := hfails.drained
      cases hscan : (scanner (ignoring limits)).scan front with
      | wait kept => simp [Scanner.drain_wait hscan] at hdrained
      | fail error =>
        rw [Scanner.drain_fail hscan] at hdrained
        obtain ⟨rfl,_⟩ := Prod.mk.inj hdrained
        obtain ⟨noise,tail,hignored,rfl,hrefused⟩ := refused_of_failsAt hfails
        rw [List.append_assoc]
        exact .refused hignored hrefused
      | item frame more =>
        obtain ⟨noise,bytes,htolerated,haccepted,rfl⟩ := scan_item_split hscan
        have hpiece := scanner_scan_item htolerated haccepted []
        rw [List.append_nil] at hpiece
        rw [← List.append_assoc] at hfails
        obtain ⟨frames,rfl,hmore⟩ :=
          (scanner_prompt limits).failsAt_rest (scanner_incremental _) hpiece hfails
        have hrest := ih _ ((scanner (ignoring limits)).progress hscan) more hmore rfl
        rw [List.append_assoc,List.append_assoc]
        exact .frame htolerated.1 haccepted hrest

theorem reads_none_iff {bytes : List UInt8} {frames : List HdlcFrameBuffer} :
    Reads limits bytes frames none ↔
      ∃ kept, (scanner (ignoring limits)).drain bytes=(frames,.ok kept) := by
  constructor
  · intro h
    generalize hfault : none=fault at h
    induction h with
    | @incomplete noise bytes ignored incomplete =>
      refine ⟨bytes,Scanner.drain_wait ?_⟩
      change scan (ignoring limits) _=_
      rw [scan_ignoring ignored,scan_incomplete incomplete]
    | refused => cases hfault
    | @frame noise bytes rest _ _ _ ignored accepted _ ih =>
      obtain ⟨kept,hdrain⟩ := ih hfault
      have hscan := scanner_scan_item (tolerated_ignoring.mpr ignored) accepted rest
      exact ⟨kept,by rw [Scanner.drain_item hscan,hdrain]⟩
  · rintro ⟨kept,hdrain⟩
    induction hn : bytes.length using Nat.strong_induction_on generalizing bytes frames with
    | _ n ih =>
      subst hn
      cases hscan : (scanner (ignoring limits)).scan bytes with
      | wait kept' =>
        rw [Scanner.drain_wait hscan] at hdrain
        obtain ⟨rfl,_⟩ := Prod.mk.inj hdrain
        change scan (ignoring limits) bytes=_ at hscan
        obtain ⟨noise,tail,hignored,rfl,rfl | ⟨rest,rfl⟩⟩ := split_ignoring bytes
        · exact .incomplete hignored .nothing
        · rw [scan_ignoring hignored,scan_flag] at hscan
          have hkept := scanFrame_wait hscan
          exact .incomplete hignored (incomplete_of_wait (hkept ▸ hscan))
      | fail error => simp [Scanner.drain_fail hscan] at hdrain
      | item frame more =>
        rw [Scanner.drain_item hscan] at hdrain
        obtain ⟨rfl,hok⟩ := Prod.mk.inj hdrain
        obtain ⟨noise,bytes,htolerated,haccepted,rfl⟩ := scan_item_split hscan
        have hrest := ih _ ((scanner (ignoring limits)).progress hscan) (Prod.ext rfl hok) rfl
        exact .frame htolerated.1 haccepted hrest

/-- No part of the bytes is an accepted frame. -/
def Frameless (limits : HdlcCodecLimits) (bytes : List UInt8) : Prop :=
  ∀ part frame, part <:+: bytes → decodeFrame (some part) part.length limits≠.ok frame

theorem barren_iff {bytes : List UInt8} :
    (scanner (ignoring limits)).Barren bytes ↔ Frameless limits bytes := by
  constructor
  · intro hbarren part frame hpart haccepted
    have hscan : (scanner (ignoring limits)).scan part=.item frame [] := by
      rw [← List.append_nil part]
      exact scan_accepted haccepted []
    exact hbarren part hpart frame [] hscan
  · intro hframeless piece hpiece frame rest hscan
    obtain ⟨noise,part,_,haccepted,rfl⟩ := scan_item_split hscan
    have hpart : part <:+: noise ++ (part ++ rest) := ⟨noise,rest,by rw [List.append_assoc]⟩
    exact hframeless part frame (hpart.trans hpiece) haccepted

end HdlcStreamDecoder
end DlmsHdlc
