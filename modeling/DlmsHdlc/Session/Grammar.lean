import DlmsHdlc.Library.Tlv
import DlmsHdlc.Session.Connect

/-! The grammar of the Information field of SNRM and UA, which its parser decides with reads inside
the field only, and what the negotiation block keeps of the parameters written to it. -/
namespace DlmsHdlc
open Tlv

/-- `ParseBeValue` from the index `pos`, failing at a read outside `data`. -/
def parseBeValueAt (data : List UInt8) (pos : ℕ) : ℕ → UInt32 → Option UInt32
  | 0,result => some result
  | len+1,result =>
    match data[pos]? with
    | none => none
    | some byte => parseBeValueAt data (pos+1) len ((result <<< 8) ||| byte.toUInt32)

/-- The `while` loop with its indices, failing at a read outside `data`. -/
def parseParametersAt (data : List UInt8) (stop : ℕ) (params : SnrmParams) (pos : ℕ) :
    Option (Except HdlcStatus SnrmParams) :=
  if pos < stop then
    if stop < pos+2 then some (.error .invalidFrameFormat)
    else
      match data[pos]?,data[pos+1]? with
      | some tag,some valLen =>
        if valLen.toNat=0 ∨ 4 < valLen.toNat ∨ stop < pos+2+valLen.toNat then
          some (.error .invalidFrameFormat)
        else
          match parseBeValueAt data (pos+2) valLen.toNat 0 with
          | none => none
          | some value =>
            match params.set tag value with
            | none => some (.error .unsupportedFeature)
            | some params => parseParametersAt data stop params (pos+2+valLen.toNat)
      | _,_ => none
  else some (.ok params)
termination_by stop-pos

/-- `ParseSnrmInfoField` with its indices, failing at a read outside `data`. -/
def parseSnrmInfoFieldAt (data : List UInt8) : Option (Except HdlcStatus (SnrmParams × ℕ)) :=
  if data.length=0 then some (.ok (defaultSnrmParams,0))
  else if data.length < 3 then some (.ok (defaultSnrmParams,0))
  else
    match data[0]?,data[1]? with
    | some format,some group =>
      if format≠0x81 ∨ group≠0x80 then some (.ok (defaultSnrmParams,0))
      else
        match data[2]? with
        | none => none
        | some groupLen =>
          if data.length < 3+groupLen.toNat then some (.error .invalidFrameFormat)
          else (parseParametersAt data (3+groupLen.toNat) defaultSnrmParams 3).map
            (fun parsed => parsed.map (fun params => (params,3+groupLen.toNat)))
    | _,_ => none

theorem parseBeValueAt_eq {data : List UInt8} {pos len : ℕ} (h : pos+len ≤ data.length)
    (result : UInt32) :
    parseBeValueAt data pos len result=some (((data.drop pos).take len).foldl
      (fun (result : UInt32) byte => (result <<< 8) ||| byte.toUInt32) result) := by
  induction len generalizing pos result with
  | zero => simp [parseBeValueAt]
  | succ len ih =>
    have hpos : pos < data.length := by omega
    rw [parseBeValueAt,List.getElem?_eq_getElem hpos]
    dsimp only
    rw [ih (by omega),List.drop_eq_getElem_cons hpos,List.take_succ_cons,List.foldl_cons]

/-- The bytes of a value are passed over. -/
theorem parseParameters_skip (params : SnrmParams) {skip : ℕ} {group : List UInt8}
    (h : skip ≤ group.length) :
    parseParameters params skip group=parseParameters params 0 (group.drop skip) := by
  induction skip generalizing group with
  | zero => rfl
  | succ skip ih =>
    obtain _ | ⟨byte,rest⟩ := group
    · simp at h
    · rw [parseParameters,ih (by rw [List.length_cons] at h; omega)]
      rfl

/-- The index loop never reads outside the group, and does what the loop over the group does. -/
theorem parseParametersAt_eq {data : List UInt8} {stop : ℕ} (hstop : stop ≤ data.length)
    (params : SnrmParams) {pos : ℕ} (hpos : pos ≤ stop) :
    parseParametersAt data stop params pos=
      some (parseParameters params 0 ((data.take stop).drop pos)) := by
  induction hn : stop-pos using Nat.strong_induction_on generalizing params pos with
  | _ n ih =>
    subst hn
    have hlength : ((data.take stop).drop pos).length=stop-pos := by
      rw [List.length_drop,List.length_take,min_eq_left hstop]
    rw [parseParametersAt]
    by_cases hend : pos < stop
    · rw [if_pos hend]
      have htake : (data.take stop).drop pos=data[pos]::(data.take stop).drop (pos+1) := by
        rw [List.drop_eq_getElem_cons (by rw [List.length_take]; omega),List.getElem_take]
      by_cases htwo : stop < pos+2
      · have hempty : (data.take stop).drop (pos+1)=[] := by
          rw [List.drop_eq_nil_iff,List.length_take]
          omega
        rw [if_pos htwo,htake,hempty]
        rfl
      have hnext : (data.take stop).drop (pos+1)=data[pos+1]::(data.take stop).drop (pos+2) := by
        rw [List.drop_eq_getElem_cons (by rw [List.length_take]; omega),List.getElem_take]
      have hrest : ((data.take stop).drop (pos+2)).length=stop-(pos+2) := by
        rw [List.length_drop,List.length_take,min_eq_left hstop]
      rw [if_neg htwo,List.getElem?_eq_getElem (by omega),List.getElem?_eq_getElem (by omega),
        htake,hnext,parseParameters,hrest]
      dsimp only
      generalize data[pos+1].toNat=valLen
      by_cases hbad : valLen=0 ∨ 4 < valLen ∨ stop < pos+2+valLen
      · rw [if_pos hbad,if_pos (by omega)]
      have hvalue : ((data.take stop).drop (pos+2)).take valLen=(data.drop (pos+2)).take valLen := by
        rw [List.drop_take,List.take_take,min_eq_left (by omega)]
      rw [if_neg hbad,if_neg (by omega),parseBeValueAt_eq (by omega),hvalue]
      dsimp only
      rw [← parseBeValue]
      cases params.set data[pos] (parseBeValue ((data.drop (pos+2)).take valLen)) with
      | none => rfl
      | some next =>
        have hfits : valLen ≤ ((data.take stop).drop (pos+2)).length := by omega
        dsimp only
        rw [ih _ (by omega) next (by omega) rfl,parseParameters_skip next hfits,List.drop_drop]
    · have hempty : (data.take stop).drop pos=[] := by
        rw [← List.length_eq_zero_iff]
        omega
      rw [if_neg hend,hempty]
      rfl

/-- Every read is inside the field. -/
theorem parseSnrmInfoFieldAt_eq (data : List UInt8) :
    parseSnrmInfoFieldAt data=some (parseSnrmInfoField data) := by
  unfold parseSnrmInfoFieldAt parseSnrmInfoField
  split
  · rfl
  by_cases hshort : data.length < 3
  · rw [if_pos hshort,if_pos (Or.inl hshort)]
  obtain ⟨format,group,groupLen,rest,rfl⟩ : ∃ format group groupLen rest,
      data=format::group::groupLen::rest := by
    obtain _ | ⟨format,_ | ⟨group,_ | ⟨groupLen,rest⟩⟩⟩ := data
    · simp at hshort
    · simp at hshort
    · simp at hshort
    · exact ⟨_,_,_,_,rfl⟩
  rw [if_neg hshort]
  simp only [List.getElem?_cons_zero,List.getElem?_cons_succ,List.getD_cons_zero,
    List.getD_cons_succ,hshort,false_or]
  split
  · rfl
  split
  · rfl
  rename_i hfull
  rw [parseParametersAt_eq (Nat.not_lt.mp hfull) _ (by omega),Option.map_some,List.drop_take,
    Nat.add_sub_cancel_left]
  cases parseParameters defaultSnrmParams 0
    (((format::group::groupLen::rest).drop 3).take groupLen.toNat) <;> rfl

/-- The tags of the four parameters. -/
def KnownTag (tag : UInt8) : Prop := 0x05 ≤ tag ∧ tag ≤ 0x08

/-- Every parameter has the value of its last entry, or the default. -/
structure Carries (entries : List Entry) (params : SnrmParams) : Prop where
  maxInfoTx : params.maxInfoTx.toNat=given 128 0x05 entries
  maxInfoRx : params.maxInfoRx.toNat=given 128 0x06 entries
  windowTx : params.windowTx.toNat=given 1 0x07 entries
  windowRx : params.windowRx.toNat=given 1 0x08 entries

/-- The parameter group: only known entries, or one that is unknown or malformed behind them. -/
inductive ParameterGroup : List UInt8 → Except HdlcStatus SnrmParams → Prop
  | complete {entries : List Entry} {params : SnrmParams}
      (known : ∀ entry ∈ entries, entry.Within 4 ∧ KnownTag entry.tag)
      (carried : Carries entries params) :
      ParameterGroup (entries.flatMap Entry.coded) (.ok params)
  | unknown {entries : List Entry} {entry : Entry} {more : List UInt8}
      (known : ∀ entry ∈ entries, entry.Within 4 ∧ KnownTag entry.tag)
      (within : entry.Within 4) (foreign : ¬ KnownTag entry.tag) :
      ParameterGroup (entries.flatMap Entry.coded ++ (entry.coded ++ more))
        (.error .unsupportedFeature)
  | malformed {entries : List Entry} {rest : List UInt8}
      (known : ∀ entry ∈ entries, entry.Within 4 ∧ KnownTag entry.tag)
      (malformed : Malformed 4 rest) :
      ParameterGroup (entries.flatMap Entry.coded ++ rest) (.error .invalidFrameFormat)

/-- The Information field: user information alone, or a group of the announced length before it. -/
inductive SnrmInfoField : List UInt8 → Except HdlcStatus (SnrmParams × ℕ) → Prop
  | absent {data : List UInt8} (absent : ∀ groupLen rest, data≠0x81::0x80::groupLen::rest) :
      SnrmInfoField data (.ok (defaultSnrmParams,0))
  | truncated {groupLen : UInt8} {rest : List UInt8} (short : rest.length < groupLen.toNat) :
      SnrmInfoField (0x81::0x80::groupLen::rest) (.error .invalidFrameFormat)
  | accepted {groupLen : UInt8} {group userInformation : List UInt8} {params : SnrmParams}
      (length : group.length=groupLen.toNat) (parameters : ParameterGroup group (.ok params)) :
      SnrmInfoField (0x81::0x80::groupLen::(group ++ userInformation))
        (.ok (params,3+groupLen.toNat))
  | refused {groupLen : UInt8} {group userInformation : List UInt8} {status : HdlcStatus}
      (length : group.length=groupLen.toNat) (parameters : ParameterGroup group (.error status)) :
      SnrmInfoField (0x81::0x80::groupLen::(group ++ userInformation)) (.error status)

/-- No overflow in up to four bytes. -/
theorem parseBeValue_toNat {value : List UInt8} (h : value.length ≤ 4) :
    (parseBeValue value).toNat=bigEndian value := by
  have hfold : ∀ (value : List UInt8) (result : UInt32), result.toNat < 256^(4-value.length) →
      value.length ≤ 4 →
      (value.foldl (fun (result : UInt32) byte => (result <<< 8) ||| byte.toUInt32) result).toNat=
        value.foldl (fun number byte => number*256+byte.toNat) result.toNat := by
    intro value
    induction value with
    | nil => exact fun result _ _ => rfl
    | cons byte value ih =>
      intro result hresult hlength
      rw [List.length_cons] at hresult hlength
      have hpow : 256^(4-value.length)=256^(4-(value.length+1))*256 := by
        rw [← Nat.pow_succ]
        congr 1
        omega
      have hsmall : result.toNat < 2^24 := by
        have hle : 256^(4-(value.length+1)) ≤ 256^3 := Nat.pow_le_pow_right (by decide) (by omega)
        omega
      have hbyte := byte.toNat_lt
      rw [List.foldl_cons,List.foldl_cons,ih _ (by rw [or_byte_toNat hsmall]; omega) (by omega),
        or_byte_toNat hsmall]
  exact hfold value 0 (Nat.pow_pos (by decide)) h

theorem set_eq_none_iff (params : SnrmParams) (tag : UInt8) (value : UInt32) :
    params.set tag value=none ↔ ¬ KnownTag tag := by
  have hknown : KnownTag tag ↔ tag=0x05 ∨ tag=0x06 ∨ tag=0x07 ∨ tag=0x08 := by
    simp only [KnownTag,UInt8.le_iff_toNat_le,← UInt8.toNat_inj]
    change 5 ≤ _ ∧ _ ≤ 8 ↔ _=5 ∨ _=6 ∨ _=7 ∨ _=8
    omega
  rw [hknown]
  unfold SnrmParams.set
  repeat' split
  all_goals simp_all

/-- One turn of the loop. -/
theorem parseParameters_coded (params : SnrmParams) {entry : Entry} (within : entry.Within 4)
    (rest : List UInt8) :
    parseParameters params 0 (entry.coded ++ rest)=
      match params.set entry.tag (parseBeValue entry.value) with
      | none => .error .unsupportedFeature
      | some params => parseParameters params 0 rest := by
  obtain ⟨hpos,hle⟩ := within
  have hlength : (UInt8.ofNat entry.value.length).toNat=entry.value.length := by
    rw [UInt8.toNat_ofNat']
    omega
  have happend : entry.coded ++ rest=
      entry.tag::UInt8.ofNat entry.value.length::(entry.value ++ rest) := rfl
  rw [happend,parseParameters,hlength,if_neg (by rw [List.length_append]; omega),List.take_left]
  cases params.set entry.tag (parseBeValue entry.value) with
  | none => rfl
  | some next =>
    dsimp only
    rw [parseParameters_skip next (by rw [List.length_append]; omega),List.drop_left]

/-- The loop stops where no entry starts. -/
theorem parseParameters_malformed (params : SnrmParams) {rest : List UInt8}
    (malformed : Malformed 4 rest) : parseParameters params 0 rest=.error .invalidFrameFormat := by
  have hread := (read_eq_none_iff (by decide)).mpr (Or.inr malformed)
  obtain _ | ⟨tag,_ | ⟨length,rest⟩⟩ := rest
  · exact absurd rfl malformed.1
  · rfl
  · rw [parseParameters]
    rw [Tlv.read] at hread
    split at hread
    · rename_i hbad
      rw [if_pos hbad]
    · cases hread

/-- What the entries set, starting from the values given before them. -/
theorem parseParameters_entries {entries : List Entry}
    (known : ∀ entry ∈ entries, entry.Within 4 ∧ KnownTag entry.tag) (params : SnrmParams)
    (rest : List UInt8) :
    ∃ next, parseParameters params 0 (entries.flatMap Entry.coded ++ rest)=
        parseParameters next 0 rest ∧
      next.maxInfoTx.toNat=given params.maxInfoTx.toNat 0x05 entries ∧
      next.maxInfoRx.toNat=given params.maxInfoRx.toNat 0x06 entries ∧
      next.windowTx.toNat=given params.windowTx.toNat 0x07 entries ∧
      next.windowRx.toNat=given params.windowRx.toNat 0x08 entries := by
  induction entries generalizing params with
  | nil => exact ⟨params,rfl,rfl,rfl,rfl,rfl⟩
  | cons entry entries ih =>
    obtain ⟨hwithin,hknown⟩ := known entry List.mem_cons_self
    have hvalue := parseBeValue_toNat hwithin.2
    cases hset : params.set entry.tag (parseBeValue entry.value) with
    | none => exact absurd hknown ((set_eq_none_iff _ _ _).mp hset)
    | some changed =>
      obtain ⟨next,hnext,htx,hrx,hwtx,hwrx⟩ :=
        ih (fun entry h => known entry (List.mem_cons_of_mem _ h)) changed
      refine ⟨next,?_,?_⟩
      · rw [List.flatMap_cons,List.append_assoc,parseParameters_coded params hwithin,hset,← hnext]
      · simp only [given_cons,← hvalue]
        rw [htx,hrx,hwtx,hwrx]
        unfold SnrmParams.set at hset
        repeat' split at hset
        all_goals cases hset
        all_goals simp_all

/-- The loop decides the grammar of the group. -/
theorem parseParameters_eq_iff (group : List UInt8) (result : Except HdlcStatus SnrmParams) :
    parseParameters defaultSnrmParams 0 group=result ↔ ParameterGroup group result := by
  have hsound : ∀ {group result}, ParameterGroup group result →
      parseParameters defaultSnrmParams 0 group=result := by
    intro group result h
    cases h with
    | complete known carried =>
      obtain ⟨next,hnext,htx,hrx,hwtx,hwrx⟩ :=
        parseParameters_entries known defaultSnrmParams []
      rw [List.append_nil] at hnext
      rw [hnext,parseParameters,Except.ok.injEq,SnrmParams.mk.injEq]
      refine ⟨?_,?_,?_,?_⟩
      · exact UInt64.toNat_inj.mp (htx.trans carried.maxInfoTx.symm)
      · exact UInt64.toNat_inj.mp (hrx.trans carried.maxInfoRx.symm)
      · exact UInt32.toNat_inj.mp (hwtx.trans carried.windowTx.symm)
      · exact UInt32.toNat_inj.mp (hwrx.trans carried.windowRx.symm)
    | @unknown entries entry more known within foreign =>
      obtain ⟨next,hnext,_⟩ :=
        parseParameters_entries known defaultSnrmParams (entry.coded ++ more)
      rw [hnext,parseParameters_coded next within,(set_eq_none_iff _ _ _).mpr foreign]
    | malformed known malformed =>
      obtain ⟨next,hnext,_⟩ := parseParameters_entries known defaultSnrmParams _
      rw [hnext,parseParameters_malformed next malformed]
  refine ⟨?_,hsound⟩
  rintro rfl
  obtain ⟨entries,rest,hknown,rfl,rfl | ⟨entry,more,hwithin,hforeign,rfl⟩ | hmalformed⟩ :=
    Tlv.split (by decide : 4 ≤ 255) KnownTag group
  · obtain ⟨params,hparams,htx,hrx,hwtx,hwrx⟩ :=
      parseParameters_entries hknown defaultSnrmParams []
    rw [hparams,List.append_nil]
    exact .complete hknown ⟨htx,hrx,hwtx,hwrx⟩
  · rw [hsound (.unknown hknown hwithin hforeign)]
    exact .unknown hknown hwithin hforeign
  · rw [hsound (.malformed hknown hmalformed)]
    exact .malformed hknown hmalformed

/-- Behind the header of a block, the group alone decides. -/
theorem parseSnrmInfoField_block (groupLen : UInt8) (rest : List UInt8) :
    parseSnrmInfoField (0x81::0x80::groupLen::rest)=
      if rest.length < groupLen.toNat then .error .invalidFrameFormat
      else (parseParameters defaultSnrmParams 0 (rest.take groupLen.toNat)).map
        (fun params => (params,3+groupLen.toNat)) := by
  have hlength : (0x81::0x80::groupLen::rest).length=3+rest.length := by
    simp only [List.length_cons]
    omega
  have hgroup : ((0x81::0x80::groupLen::rest).drop 3).take groupLen.toNat=
      rest.take groupLen.toNat := rfl
  unfold parseSnrmInfoField
  simp only [hlength,hgroup,List.getD_cons_zero,List.getD_cons_succ]
  rw [if_neg (by omega),if_neg (by simp)]
  by_cases hshort : rest.length < groupLen.toNat
  · rw [if_pos (by omega),if_pos hshort]
  · rw [if_neg (by omega),if_neg hshort]
    cases parseParameters defaultSnrmParams 0 (rest.take groupLen.toNat) <;> rfl

/-- Without the header all bytes are user information. -/
theorem parseSnrmInfoField_absent {data : List UInt8}
    (absent : ∀ groupLen rest, data≠0x81::0x80::groupLen::rest) :
    parseSnrmInfoField data=.ok (defaultSnrmParams,0) := by
  unfold parseSnrmInfoField
  split
  · rfl
  rw [if_pos]
  obtain _ | ⟨format,_ | ⟨group,_ | ⟨groupLen,rest⟩⟩⟩ := data
  · simp
  · simp
  · simp
  · by_contra hheader
    simp only [List.getD_cons_zero,List.getD_cons_succ,not_or,not_not] at hheader
    exact absent groupLen rest (by rw [hheader.2.1,hheader.2.2])

/-- The parser reads inside the field only and decides its grammar: every field has exactly one
result, and it is this one. -/
theorem parseSnrmInfoField_grammar (data : List UInt8) :
    parseSnrmInfoFieldAt data=some (parseSnrmInfoField data) ∧
      ∀ result, parseSnrmInfoField data=result ↔ SnrmInfoField data result := by
  refine ⟨parseSnrmInfoFieldAt_eq data,fun result => ⟨?_,?_⟩⟩
  · rintro rfl
    by_cases hblock : ∃ groupLen rest, data=0x81::0x80::groupLen::rest
    · obtain ⟨groupLen,rest,rfl⟩ := hblock
      rw [parseSnrmInfoField_block]
      by_cases hshort : rest.length < groupLen.toNat
      · rw [if_pos hshort]
        exact .truncated hshort
      obtain ⟨group,userInformation,rfl,hlength⟩ : ∃ group userInformation,
          rest=group ++ userInformation ∧ group.length=groupLen.toNat :=
        ⟨rest.take groupLen.toNat,rest.drop groupLen.toNat,(List.take_append_drop _ _).symm,
          by rw [List.length_take]; omega⟩
      rw [if_neg hshort,List.take_left' hlength]
      cases hparsed : parseParameters defaultSnrmParams 0 group with
      | error status => exact .refused hlength ((parseParameters_eq_iff _ _).mp hparsed)
      | ok params => exact .accepted hlength ((parseParameters_eq_iff _ _).mp hparsed)
    · rw [parseSnrmInfoField_absent fun groupLen rest h => hblock ⟨_,_,h⟩]
      exact .absent fun groupLen rest h => hblock ⟨_,_,h⟩
  · intro h
    cases h with
    | absent absent => exact parseSnrmInfoField_absent absent
    | truncated short => rw [parseSnrmInfoField_block,if_pos short]
    | accepted length parameters =>
      rw [parseSnrmInfoField_block,if_neg (by rw [List.length_append]; omega),← length,
        List.take_left,(parseParameters_eq_iff _ _).mpr parameters]
      rfl
    | refused length parameters =>
      rw [parseSnrmInfoField_block,if_neg (by rw [List.length_append]; omega),← length,
        List.take_left,(parseParameters_eq_iff _ _).mpr parameters]
      rfl

/-- The block is read back with the parameters that were written to it, and what is left behind it
is the user information. -/
def Survives (params : SnrmParams) (userInformation : List UInt8) : Prop :=
  parseSnrmInfoField (encodeSnrmNegotiationBlock params ++ userInformation)=
    .ok (params,(encodeSnrmNegotiationBlock params).length)

/-- Only the size of the two lengths decides. -/
theorem survives_iff {params : SnrmParams} (hwtx : params.windowTx.toNat ≤ 255)
    (hwrx : params.windowRx.toNat ≤ 255) (userInformation : List UInt8) :
    Survives params userInformation ↔
      params.maxInfoTx.toNat ≤ 65535 ∧ params.maxInfoRx.toNat ≤ 65535 := by
  have hmod : ∀ value : UInt64, value%65536=value → value.toNat ≤ 65535 := by
    intro value h
    have hlt : (value%65536).toNat < 65536 := by
      rw [UInt64.toNat_mod]
      exact Nat.mod_lt _ (by decide)
    rw [h] at hlt
    omega
  rw [Survives,encodeSnrmNegotiationBlock_length]
  constructor
  · intro h
    rw [parseSnrmInfoField_coded hwtx hwrx userInformation,Except.ok.injEq,Prod.mk.injEq,
      SnrmParams.coded,SnrmParams.mk.injEq] at h
    exact ⟨hmod _ h.1.1,hmod _ h.1.2.1⟩
  · rintro ⟨htx,hrx⟩
    exact parseSnrmInfoField_encode htx hrx hwtx hwrx userInformation

namespace HdlcSession

/-- A request survives when the configured lengths fit into two bytes; a response, when for each
direction the proposed or the configured length does. The windows always do. -/
theorem negotiationBlock_survives_iff (session : HdlcSession) (userInformation : List UInt8) :
    let limits := session.options.negotiationLimits
    let proposed := session.pendingNegotiation.params
    (Survives (proposedParams limits) userInformation ↔
      limits.maxInformationFieldLengthTransmit.toNat ≤ 65535 ∧
        limits.maxInformationFieldLengthReceive.toNat ≤ 65535) ∧
    (Survives session.negotiated userInformation ↔
      (proposed.maxInfoTx.toNat ≤ 65535 ∨
        limits.maxInformationFieldLengthReceive.toNat ≤ 65535) ∧
      (proposed.maxInfoRx.toNat ≤ 65535 ∨
        limits.maxInformationFieldLengthTransmit.toNat ≤ 65535)) := by
  intro limits proposed
  constructor
  · exact survives_iff (window_toNat_le _) (window_toNat_le _) userInformation
  · have hmin : ∀ a b : UInt64, (min a b).toNat ≤ 65535 ↔ a.toNat ≤ 65535 ∨ b.toNat ≤ 65535 := by
      intro a b
      rw [UInt64.toNat_min]
      omega
    refine (survives_iff ?_ ?_ userInformation).trans (and_congr (hmin _ _) (hmin _ _))
    · exact (UInt32.toNat_min _ _).trans_le ((Nat.min_le_right _ _).trans (window_toNat_le _))
    · exact (UInt32.toNat_min _ _).trans_le ((Nat.min_le_right _ _).trans (window_toNat_le _))

/-- A client configured for lengths of 65664 bytes announces 128. -/
theorem longLengths_truncated :
    let session := new { sampleOptions .client with negotiationLimits := ⟨65664,65664,1,1⟩ }
    ¬ Survives (proposedParams session.options.negotiationLimits) [] ∧
      parseSnrmInfoField (session.connectInfoField true none 0)=.ok (⟨128,128,1,1⟩,23) := by
  constructor
  · rw [((negotiationBlock_survives_iff _ []).1)]
    decide +kernel
  · exact toOption_eq_some_iff.mp (by decide +kernel)

end HdlcSession
end DlmsHdlc
