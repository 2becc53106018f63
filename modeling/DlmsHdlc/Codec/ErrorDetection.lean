import DlmsHdlc.Codec.Canonical
import DlmsHdlc.Library.ShiftRegister

/-! The checksum as a shift register over the bits on the line, and the transmission errors that
the decoder cannot miss. -/
namespace DlmsHdlc
open ShiftRegister

/-- The bits of a byte in transmission order. -/
def bits (byte : UInt8) : List Bool := (List.range 8).map byte.toNat.testBit

def transmitted (bytes : List UInt8) : List Bool := bytes.flatMap bits

/-- A bit as an element of the field with two elements. -/
def symbol (bit : Bool) : ZMod 2 := if bit then 1 else 0

/-- The checksum register as cells, the lowest bit first. -/
def cells (crc : UInt16) : Fin 16 → ZMod 2 := fun i => symbol (crc.toNat.testBit i)

/-- The taps of the register. -/
def taps : Fin 16 → ZMod 2 := cells kPolynomial

@[simp] theorem symbol_false : symbol false=0 := rfl

@[simp] theorem symbol_true : symbol true=1 := rfl

@[simp] theorem symbol_xor (a b : Bool) : symbol (a ^^ b)=symbol a+symbol b := by
  cases a <;> cases b <;> rfl

theorem symbol_injective : Function.Injective symbol := by
  intro a b
  cases a <;> cases b <;> decide

@[simp] theorem bits_length (byte : UInt8) : (bits byte).length=8 := by simp [bits]

@[simp] theorem transmitted_nil : transmitted []=[] := rfl

@[simp] theorem transmitted_cons (byte : UInt8) (bytes : List UInt8) :
    transmitted (byte::bytes)=bits byte ++ transmitted bytes := rfl

theorem transmitted_append (bytes more : List UInt8) :
    transmitted (bytes ++ more)=transmitted bytes ++ transmitted more := List.flatMap_append

@[simp] theorem transmitted_length (bytes : List UInt8) :
    (transmitted bytes).length=8*bytes.length := by
  induction bytes with
  | nil => rfl
  | cons byte bytes ih =>
    simp only [transmitted_cons,List.length_append,bits_length,ih,List.length_cons]
    omega

@[simp] theorem cells_xor (a b : UInt16) : cells (a ^^^ b)=cells a+cells b := by
  ext i
  simp [cells]

theorem cells_injective : Function.Injective cells := by
  intro a b h
  rw [← UInt16.toNat_inj]
  apply Nat.eq_of_testBit_eq
  intro i
  by_cases hi : i < 16
  · exact symbol_injective (congrFun h ⟨i,hi⟩)
  · have hp : 2^16 ≤ 2^i := Nat.pow_le_pow_right (by decide) (by omega)
    rw [Nat.testBit_lt_two_pow (a.toNat_lt.trans_le hp),
      Nat.testBit_lt_two_pow (b.toNat_lt.trans_le hp)]

theorem taps_last : taps (Fin.last 15)=1 := by decide

theorem taps_sum : ∑ i, taps i=1 := by decide

lemma and_one_ne_zero (crc : UInt16) : crc &&& 0x0001 ≠ 0 ↔ crc.toNat.testBit 0=true := by
  have hbit : (crc &&& 0x0001).toNat=crc.toNat%2 := by
    rw [UInt16.toNat_and]
    exact Nat.and_one_is_mod _
  rw [ne_eq,← UInt16.toNat_inj,hbit,Nat.testBit_zero,decide_eq_true_iff]
  change ¬ _=0 ↔ _
  omega

/-- One turn of the bit loop is one turn of the register. -/
theorem cells_shiftCrc (crc : UInt16) : cells (shiftCrc crc)=turn taps (cells crc) := by
  have hshift : cells (crc >>> 1)=(Fin.snoc (Fin.tail (cells crc)) 0 : Fin 16 → ZMod 2) := by
    ext i
    induction i using Fin.lastCases with
    | last =>
      have hlt : crc.toNat < 2^(1+15) := crc.toNat_lt
      rw [Fin.snoc_last]
      simp [cells,Nat.testBit_lt_two_pow hlt]
    | cast i =>
      rw [Fin.snoc_castSucc]
      simp [cells,Fin.tail,Nat.add_comm]
  have hturn : turn taps (cells crc)=cells (crc >>> 1)+cells crc 0 • taps := by
    rw [hshift]
    rfl
  have hlow : cells crc 0=symbol (crc.toNat.testBit 0) := rfl
  unfold shiftCrc
  rw [hturn,hlow]
  split
  · rename_i hodd
    rw [(and_one_ne_zero crc).mp hodd,cells_xor,symbol_true,one_smul]
    rfl
  · rename_i heven
    rw [Bool.eq_false_iff.mpr (mt (and_one_ne_zero crc).mpr heven),symbol_false,zero_smul,add_zero]

theorem cells_repeat (count : ℕ) (crc : UInt16) :
    cells (Nat.repeat shiftCrc count crc)=(turn taps)^[count] (cells crc) := by
  induction count with
  | zero => rfl
  | succ count ih => rw [Nat.repeat,cells_shiftCrc,ih,Function.iterate_succ_apply']

theorem getD_bits (byte : UInt8) (i : ℕ) :
    ((bits byte).map symbol).getD i 0=symbol (byte.toNat.testBit i) := by
  by_cases hi : i < 8
  · simp [bits,List.getD_eq_getElem?_getD,hi]
  · have hp : 2^8 ≤ 2^i := Nat.pow_le_pow_right (by decide) (by omega)
    rw [List.getD_eq_default _ _ (by simpa using Nat.not_lt.mp hi),
      Nat.testBit_lt_two_pow (byte.toNat_lt.trans_le hp),symbol_false]

/-- A byte enters the register bit by bit. -/
theorem cells_updateCrc (crc : UInt16) (value : UInt8) :
    cells (updateCrc crc value)=run taps (cells crc) ((bits value).map symbol) := by
  have hload : load ((bits value).map symbol)=cells value.toUInt16 := by
    ext i
    rw [load,getD_bits,cells,UInt8.toNat_toUInt16]
  rw [run_eq_iterate _ (by simp),hload,← cells_xor,List.length_map,bits_length,updateCrc,
    cells_repeat]

theorem cells_foldl (crc : UInt16) (data : List UInt8) :
    cells (data.foldl updateCrc crc)=run taps (cells crc) ((transmitted data).map symbol) := by
  induction data generalizing crc with
  | nil => rfl
  | cons byte data ih =>
    rw [List.foldl_cons,ih,cells_updateCrc,transmitted_cons,List.map_append,run_append]

/-- The two bytes of a word enter the register as the word itself. -/
theorem load_writeUint16LowByteFirst (value : UInt16) :
    load ((transmitted (writeUint16LowByteFirst value)).map symbol)=cells value := by
  obtain ⟨hhigh,hlow⟩ := uint16_bytes_toNat value
  ext i
  simp only [load,writeUint16LowByteFirst,transmitted_cons,transmitted_nil,List.append_nil,
    List.map_append]
  by_cases hi : i.val < 8
  · rw [List.getD_append _ _ _ _ (by simpa using hi),getD_bits,hlow,
      show 256=2^8 from rfl,Nat.testBit_mod_two_pow,decide_eq_true hi,Bool.true_and,cells]
  · rw [List.getD_append_right _ _ _ _ (by simpa using Nat.not_lt.mp hi),getD_bits,hhigh,
      List.length_map,bits_length,show 256=2^8 from rfl,Nat.testBit_div_two_pow,cells,
      Nat.sub_add_cancel (Nat.not_lt.mp hi)]

/-- What every body followed by its frame check sequence leaves in the register. -/
theorem cells_sealed (body : List UInt8) :
    run taps (cells kInitialFcs) ((transmitted (body ++
      writeUint16LowByteFirst (calculateHdlcCrc (some body)))).map symbol)=
        (turn taps)^[16] (cells 0xffff) := by
  rw [transmitted_append,List.map_append,run_append,← cells_foldl,
    run_eq_iterate _ (by simp [writeUint16LowByteFirst]),
    load_writeUint16LowByteFirst,calculateHdlcCrc,cells_xor,← add_assoc,ZModModule.add_self,
    zero_add]
  rfl

theorem map_symbol_xor {word error : List UInt8} (h : word.length=error.length) :
    (transmitted (List.zipWith (· ^^^ ·) word error)).map symbol=
      List.zipWith (· + ·) ((transmitted word).map symbol) ((transmitted error).map symbol) := by
  induction word generalizing error with
  | nil =>
    obtain rfl := List.length_eq_zero_iff.mp h.symm
    rfl
  | cons a word ih =>
    cases error with
    | nil => simp at h
    | cons b error =>
      have hbyte : (bits (a ^^^ b)).map symbol=
          List.zipWith (· + ·) ((bits a).map symbol) ((bits b).map symbol) := by
        simp [bits,List.zipWith_map]
      simp only [List.zipWith_cons_cons,transmitted_cons,List.map_append]
      rw [List.zipWith_append (by simp),← hbyte,ih (by simpa using h)]

/-! A single bit does not come back to the lowest cell before the longest frame is over. -/

/-- The bit loop on numbers. -/
def shiftNat (crc : ℕ) : ℕ := if crc%2=1 then (crc/2) ^^^ 0x8408 else crc/2

/-- None of the next turns ends at one. -/
def staysAway : ℕ → ℕ → Bool
  | 0,_ => true
  | count+1,crc =>
    match shiftNat crc with
    | 0 => false
    | next+1 => next != 0 && staysAway count (next+1)

theorem shiftCrc_toNat (crc : UInt16) : (shiftCrc crc).toNat=shiftNat crc.toNat := by
  have hodd := and_one_ne_zero crc
  rw [Nat.testBit_zero,decide_eq_true_iff] at hodd
  unfold shiftCrc shiftNat
  by_cases h : crc.toNat%2=1
  · rw [if_pos (hodd.mpr h),if_pos h,UInt16.toNat_xor]
    rfl
  · rw [if_neg (mt hodd.mp h),if_neg h]
    rfl

theorem staysAway_spec {count crc : ℕ} (h : staysAway count crc=true) (turns : ℕ)
    (hturns : turns < count) : shiftNat^[turns+1] crc≠1 := by
  induction count generalizing crc turns with
  | zero => omega
  | succ count ih =>
    rw [staysAway] at h
    split at h
    · cases h
    · rename_i next hnext
      rw [Bool.and_eq_true,bne_iff_ne] at h
      cases turns with
      | zero =>
        rw [Function.iterate_one,hnext]
        omega
      | succ turns =>
        rw [Function.iterate_succ_apply,hnext]
        exact ih h.2 turns (by omega)

theorem staysAway_longest : staysAway 16383 1=true := by decide +kernel

theorem turn_period (count : ℕ) (hpos : 0 < count) (hcount : count < 2^14) :
    (turn taps)^[count] (Pi.single 0 1)≠Pi.single 0 1 := by
  have hone : cells 1=Pi.single 0 1 := by decide
  have hnat : ∀ turns, (Nat.repeat shiftCrc turns 1).toNat=shiftNat^[turns] 1 := by
    intro turns
    induction turns with
    | zero => rfl
    | succ turns ih => rw [Nat.repeat,shiftCrc_toNat,ih,Function.iterate_succ_apply']
  rw [← hone,← cells_repeat]
  intro h
  have hstay := staysAway_spec staysAway_longest (count-1) (by omega)
  rw [Nat.sub_add_cancel hpos,← hnat,cells_injective h] at hstay
  exact hstay rfl

/-- Flip the bits of an error between the two flags. -/
def corrupt (input error : List UInt8) : List UInt8 :=
  List.zipWith (· ^^^ ·) input ([0] ++ error ++ [0])

theorem corrupt_interior {interior error : List UInt8} (h : interior.length=error.length) :
    corrupt ([kHdlcFlag] ++ interior ++ [kHdlcFlag]) error=
      [kHdlcFlag] ++ List.zipWith (· ^^^ ·) interior error ++ [kHdlcFlag] := by
  rw [corrupt,List.zipWith_append (by simp [h])]
  rfl

/-- Bits within sixteen consecutive positions, two bits, or an odd number of bits. -/
def Detectable (error : List UInt8) : Prop :=
  (∃ start, ∀ i, (transmitted error).getD i false=true → start ≤ i ∧ i < start+16) ∨
    (transmitted error).count true=2 ∨ Odd ((transmitted error).count true)

theorem exists_bit_of_ne_zero {error : List UInt8} (h : ∃ byte ∈ error, byte≠0) :
    ∃ bit ∈ (transmitted error).map symbol, bit≠0 := by
  obtain ⟨byte,hmem,hbyte⟩ := h
  obtain ⟨i,hi⟩ : ∃ i, byte.toNat.testBit i=true := by
    by_contra hnone
    apply hbyte
    rw [← UInt8.toNat_inj]
    apply Nat.eq_of_testBit_eq
    intro i
    simpa using fun hi => hnone ⟨i,hi⟩
  have hlt : i < 8 := by
    by_contra hge
    have hp : 2^8 ≤ 2^i := Nat.pow_le_pow_right (by decide) (Nat.not_lt.mp hge)
    rw [Nat.testBit_lt_two_pow (byte.toNat_lt.trans_le hp)] at hi
    cases hi
  refine ⟨symbol true,List.mem_map_of_mem ?_,one_ne_zero⟩
  exact List.mem_flatMap.mpr ⟨byte,hmem,List.mem_map.mpr ⟨i,List.mem_range.mpr hlt,hi⟩⟩

theorem count_symbol (word : List Bool) : (word.map symbol).count 1=word.count true := by
  have hone : (1 : ZMod 2)=symbol true := rfl
  rw [hone]
  exact List.count_map_of_injective word symbol symbol_injective true

theorem sum_symbol (word : List Bool) : (word.map symbol).sum=(word.count true : ZMod 2) := by
  induction word with
  | nil => rfl
  | cons bit word ih =>
    cases bit
    · simp [ih]
    · simp [ih,add_comm]

/-- The register sees each of the three kinds, in anything up to the longest frame. -/
theorem Detectable.run_ne_zero {error : List UInt8} (hlength : error.length < 2048)
    (hnonzero : ∃ byte ∈ error, byte≠0) (h : Detectable error) :
    run taps 0 ((transmitted error).map symbol)≠0 := by
  have hunit : IsUnit (taps (Fin.last 15)) := taps_last ▸ isUnit_one
  obtain ⟨start,hburst⟩ | htwo | hodd := h
  · refine run_ne_zero_of_burst hunit ⟨start,fun i hi => hburst i ?_⟩
      (exists_bit_of_ne_zero hnonzero)
    rw [← symbol_false,List.getD_map] at hi
    exact Bool.not_eq_false _ |>.mp fun hfalse => hi (congrArg symbol hfalse)
  · refine run_ne_zero_of_two hunit ((count_symbol _).trans htwo) fun count hpos hcount => ?_
    rw [List.length_map,transmitted_length] at hcount
    exact turn_period count hpos (by omega)
  · apply run_ne_zero_of_sum taps_sum
    rw [sum_symbol,(ZMod.natCast_eq_one_iff_odd).mpr hodd]
    exact one_ne_zero

/-- What stands between the flags: a body and the frame check sequence over it. -/
theorem decodeFrame_sealed {input : List UInt8} {limits : HdlcCodecLimits}
    {frame : HdlcFrameBuffer} (h : decodeFrame (some input) input.length limits=.ok frame) :
    ∃ interior, input=[kHdlcFlag] ++ interior ++ [kHdlcFlag] ∧ interior.length < 2048 ∧
      run taps (cells kInitialFcs) ((transmitted interior).map symbol)=
        (turn taps)^[16] (cells 0xffff) := by
  obtain ⟨length,middle,hlength,_,_,hsum,hinput,_⟩ := decodeFrame_eq_ok h
  refine ⟨_,by rw [hinput,enclose,List.append_assoc [kHdlcFlag]],?_,cells_sealed _⟩
  simp only [List.length_append,HdlcFrameBuffer.headerOf_length,writeUint16LowByteFirst,
    List.length_cons,List.length_nil]
  omega

/-- No accepted string is turned into another accepted one by an error burst of up to sixteen bits,
by two flipped bits, or by an odd number of them. -/
theorem corrupted_rejected {input error : List UInt8} {limits : HdlcCodecLimits}
    {frame : HdlcFrameBuffer} (haccepted : decodeFrame (some input) input.length limits=.ok frame)
    (hlength : error.length+2=input.length) (hnonzero : ∃ byte ∈ error, byte≠0)
    (hdetectable : Detectable error) :
    statusOf (decodeFrame (some (corrupt input error)) (corrupt input error).length limits)≠.ok := by
  cases hcorrupted : decodeFrame (some (corrupt input error)) (corrupt input error).length limits with
  | error status =>
    rw [decodeFrame_eq_parseFrame] at hcorrupted
    exact parseFrame_error hcorrupted
  | ok decoded =>
    exfalso
    obtain ⟨interior,rfl,hshort,hrun⟩ := decodeFrame_sealed haccepted
    obtain ⟨other,hother,_,hotherRun⟩ := decodeFrame_sealed hcorrupted
    have hsize : interior.length=error.length := by
      simp only [List.length_append,List.length_cons,List.length_nil] at hlength
      omega
    -- The flags stay, so that both strings are checked over the same bytes.
    rw [corrupt_interior hsize] at hother
    have hflip : List.zipWith (· ^^^ ·) interior error=other :=
      List.append_inj_right (List.append_inj_left' hother rfl) rfl
    rw [← hflip,map_symbol_xor hsize,← hrun] at hotherRun
    have hzero := (run_corrupt _ (by simp [hsize])).mp hotherRun
    exact hdetectable.run_ne_zero (by omega) hnonzero hzero

/-- Two flipped bits of the sample, one in the length and one in its checksum. -/
theorem corrupted_rejected_sample :
    statusOf (decodeFrame
      (some (corrupt [0x7e,0xa0,0x07,0x07,0x21,0x11,0x74,0xc5,0x7e] [0,0x02,0,0,0,0x80,0]))
      (corrupt [0x7e,0xa0,0x07,0x07,0x21,0x11,0x74,0xc5,0x7e] [0,0x02,0,0,0,0x80,0]).length
      defaultHdlcCodecLimits)≠.ok :=
  corrupted_rejected receiveReadyFrame_decodes rfl ⟨0x02,by decide⟩ (Or.inr (Or.inl (by decide)))

end DlmsHdlc
