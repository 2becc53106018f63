import DlmsHdlc.Codec.PolynomialCrc

/-! The validation of a checksum, and the corruptions that it misses: those whose polynomial the
generator divides, of two bits only those a whole period apart. -/
namespace DlmsHdlc
open ShiftRegister Polynomial

def validateHdlcCrc (data : Pointer) (size : ℕ) (expected : UInt16) : HdlcStatus :=
  if data=none ∧ size≠0 then .invalidArgument
  else if calculateHdlcCrc (data.map fun bytes => bytes.take size)≠expected then
    .invalidFrameChecksum
  else .ok

namespace Go

def validateHdlcCRC (data : List UInt8) (expected : UInt16) : Option HdlcStatus :=
  if calculateHdlcCRC data≠expected then some .invalidFrameChecksum else none

end Go

theorem validateHdlcCrc_eq_ok_iff (data : List UInt8) (expected : UInt16) :
    validateHdlcCrc (some data) data.length expected=.ok ↔
      expected=calculateHdlcCrc (some data) := by
  unfold validateHdlcCrc
  rw [if_neg (fun h => Option.some_ne_none _ h.1),Option.map_some,List.take_length]
  split
  · rename_i hne
    exact ⟨nofun,fun h => absurd h.symm hne⟩
  · rename_i heq
    exact ⟨fun _ => (not_not.mp heq).symm,fun _ => rfl⟩

theorem Go.validateHdlcCRC_eq_none_iff (data : List UInt8) (expected : UInt16) :
    validateHdlcCRC data expected=none ↔ expected=calculateHdlcCrc (some data) := by
  unfold validateHdlcCRC
  rw [calculateHdlcCRC_eq]
  split
  · rename_i hne
    exact ⟨nofun,fun h => absurd h.symm hne⟩
  · rename_i heq
    exact ⟨fun _ => (not_not.mp heq).symm,fun _ => rfl⟩

/-- Only the checksum of the data leaves in the register what every checksum leaves. -/
theorem cells_sealed_iff (data : List UInt8) (expected : UInt16) :
    run taps (cells kInitialFcs)
        ((transmitted (data ++ writeUint16LowByteFirst expected)).map symbol)=
          (turn taps)^[16] (cells 0xffff) ↔
      expected=calculateHdlcCrc (some data) := by
  have hunit : IsUnit (taps (Fin.last 15)) := taps_last ▸ isUnit_one
  rw [transmitted_append,List.map_append,run_append,← cells_foldl,
    run_eq_iterate _ (by simp [writeUint16LowByteFirst]),load_writeUint16LowByteFirst]
  change (turn taps)^[16] _=_ ↔ _
  rw [((turn_injective hunit).iterate 16).eq_iff,← cells_xor,cells_injective.eq_iff,calculateHdlcCrc]
  constructor
  · intro h
    rw [← h,← UInt16.xor_assoc,UInt16.xor_self,UInt16.zero_xor]
  · rintro rfl
    rw [← UInt16.xor_assoc,UInt16.xor_self,UInt16.zero_xor]

/-- Both bytes of the checksum are flipped with it. -/
theorem writeUint16LowByteFirst_xor (value error : UInt16) :
    writeUint16LowByteFirst (value ^^^ error)=List.zipWith (· ^^^ ·)
      (writeUint16LowByteFirst value) (writeUint16LowByteFirst error) := by
  have hlow : ∀ v : UInt16, (v &&& 0xff).toUInt8=v.toUInt8 := fun v => (Go.toUInt8_eq v).1.symm
  simp only [writeUint16LowByteFirst,hlow,UInt16.shiftRight_xor,UInt16.toUInt8_xor,
    List.zipWith_cons_cons,List.zipWith_nil_left]

/-- The bits that are flipped, those of the checksum last. -/
def flipped (dataError : List UInt8) (checksumError : UInt16) : List Bool :=
  transmitted (dataError ++ writeUint16LowByteFirst checksumError)

/-- A corruption is missed if the register does not see it. -/
theorem corrupted_checksum_iff {data dataError : List UInt8} (h : data.length=dataError.length)
    (checksumError : UInt16) :
    calculateHdlcCrc (some data) ^^^ checksumError=
        calculateHdlcCrc (some (List.zipWith (· ^^^ ·) data dataError)) ↔
      run taps 0 ((flipped dataError checksumError).map symbol)=0 := by
  have hword : List.zipWith (· ^^^ ·) data dataError ++
      writeUint16LowByteFirst (calculateHdlcCrc (some data) ^^^ checksumError)=
        List.zipWith (· ^^^ ·) (data ++ writeUint16LowByteFirst (calculateHdlcCrc (some data)))
          (dataError ++ writeUint16LowByteFirst checksumError) := by
    rw [writeUint16LowByteFirst_xor,List.zipWith_append h]
  have hlength : (data ++ writeUint16LowByteFirst (calculateHdlcCrc (some data))).length=
      (dataError ++ writeUint16LowByteFirst checksumError).length := by
    simp [writeUint16LowByteFirst,h]
  rw [← cells_sealed_iff,hword,map_symbol_xor hlength,← cells_sealed data,
    run_corrupt _ (by simp [hlength]),flipped]

/-- The validation of data with their checksum misses a corruption exactly when the generator
divides its polynomial, in both libraries. -/
theorem validateHdlcCrc_misses_iff {data dataError : List UInt8} {expected : UInt16}
    (h : data.length=dataError.length)
    (valid : validateHdlcCrc (some data) data.length expected=.ok) (checksumError : UInt16) :
    let corrupted := List.zipWith (· ^^^ ·) data dataError
    let missed := crcGenerator ∣ wordPolynomial ((flipped dataError checksumError).map symbol)
    (validateHdlcCrc (some corrupted) corrupted.length (expected ^^^ checksumError)=.ok ↔ missed) ∧
      (Go.validateHdlcCRC corrupted (expected ^^^ checksumError)=none ↔ missed) := by
  have hlast : taps (Fin.last 15)≠0 := by decide
  rw [validateHdlcCrc_eq_ok_iff] at valid
  intro corrupted missed
  have hmissed : expected ^^^ checksumError=calculateHdlcCrc (some corrupted) ↔ missed := by
    rw [valid,corrupted_checksum_iff h,run_eq_zero_iff_dvd hlast,generator_taps]
  rw [validateHdlcCrc_eq_ok_iff,Go.validateHdlcCRC_eq_none_iff,and_self]
  exact hmissed

/-- The check sequence of the standard. -/
def checkSequence : List UInt8 := [0x31,0x32,0x33,0x34,0x35,0x36,0x37,0x38,0x39]

theorem checkSequence_valid :
    validateHdlcCrc (some checkSequence) checkSequence.length 0x906e=.ok := by
  decide +kernel

/-- The generator itself, in the first bits. -/
theorem validateHdlcCrc_misses_sample :
    crcGenerator ∣ wordPolynomial ((flipped [0x11,0x08,0x01,0,0,0,0,0,0] 0).map symbol) := by
  have hlength : checkSequence.length=[0x11,0x08,0x01,0,0,0,0,0,(0 : UInt8)].length := rfl
  refine (validateHdlcCrc_misses_iff hlength checkSequence_valid 0).1.mp ?_
  decide +kernel

/-! A single bit comes back to the lowest cell after 32767 turns. -/

/-- The number after some turns. -/
def turnsTo : ℕ → ℕ → ℕ
  | 0,crc => crc
  | count+1,crc =>
    match shiftNat crc with
    | 0 => 0
    | next+1 => turnsTo count (next+1)

theorem turnsTo_eq (count : ℕ) {crc : ℕ} : turnsTo count crc=shiftNat^[count] crc := by
  induction count generalizing crc with
  | zero => rfl
  | succ count ih =>
    rw [turnsTo,Function.iterate_succ_apply]
    split
    · rename_i hzero
      rw [hzero]
      exact (Function.iterate_fixed rfl count).symm
    · rename_i next hnext
      rw [hnext,ih]

theorem isPeriodicPt_turn_iff (count : ℕ) :
    Function.IsPeriodicPt (turn taps) count (Pi.single 0 1) ↔ shiftNat^[count] 1=1 := by
  have hone : cells 1=Pi.single 0 1 := by decide
  have hnat : ∀ turns, (Nat.repeat shiftCrc turns 1).toNat=shiftNat^[turns] 1 := by
    intro turns
    induction turns with
    | zero => rfl
    | succ turns ih => rw [Nat.repeat,shiftCrc_toNat,ih,Function.iterate_succ_apply']
  rw [Function.IsPeriodicPt,Function.IsFixedPt,← hone,← cells_repeat,cells_injective.eq_iff,← hnat,
    ← UInt16.toNat_inj]
  rfl

theorem staysAway_period : staysAway 32766 1=true := by decide +kernel

theorem turnsTo_period : turnsTo 32767 1=1 := by decide +kernel

theorem minimalPeriod_turn : Function.minimalPeriod (turn taps) (Pi.single 0 1)=32767 := by
  have hback : Function.IsPeriodicPt (turn taps) 32767 (Pi.single 0 1) := by
    rw [isPeriodicPt_turn_iff,← turnsTo_eq]
    exact turnsTo_period
  have hpos := hback.minimalPeriod_pos (by decide)
  have hle := hback.minimalPeriod_le (by decide)
  by_contra hne
  have hperiod := (isPeriodicPt_turn_iff _).mp
    (Function.isPeriodicPt_minimalPeriod (turn taps) (Pi.single 0 1))
  obtain ⟨turns,hturns⟩ := Nat.exists_eq_succ_of_ne_zero hpos.ne'
  rw [hturns] at hperiod
  exact staysAway_spec staysAway_period turns (by omega) hperiod

/-- Two flipped bits are missed exactly when they are a multiple of 32767 bits apart. -/
theorem validateHdlcCrc_missesPair_iff {data dataError : List UInt8} {expected : UInt16}
    (h : data.length=dataError.length)
    (valid : validateHdlcCrc (some data) data.length expected=.ok) {checksumError : UInt16}
    {i j : ℕ} (hij : i < j)
    (pair : ∀ k, (flipped dataError checksumError).getD k false=true ↔ k=i ∨ k=j) :
    let corrupted := List.zipWith (· ^^^ ·) data dataError
    (validateHdlcCrc (some corrupted) corrupted.length (expected ^^^ checksumError)=.ok ↔
        32767 ∣ j-i) ∧
      (Go.validateHdlcCRC corrupted (expected ^^^ checksumError)=none ↔ 32767 ∣ j-i) := by
  have hunit : IsUnit (taps (Fin.last 15)) := taps_last ▸ isUnit_one
  rw [validateHdlcCrc_eq_ok_iff] at valid
  intro corrupted
  have hmissed : expected ^^^ checksumError=calculateHdlcCrc (some corrupted) ↔ 32767 ∣ j-i := by
    have hsymbols : ∀ k, ((flipped dataError checksumError).map symbol).getD k 0=1 ↔ k=i ∨ k=j := by
      intro k
      rw [← pair,← symbol_false,List.getD_map]
      exact symbol_injective.eq_iff' rfl
    obtain ⟨after,hword⟩ := eq_pair hij hsymbols
    rw [valid,corrupted_checksum_iff h,hword,run_pair_eq_zero_iff hunit,
      Function.isPeriodicPt_iff_minimalPeriod_dvd,minimalPeriod_turn,show j-i-1+1=j-i by omega]
  rw [validateHdlcCrc_eq_ok_iff,Go.validateHdlcCRC_eq_none_iff,and_self]
  exact hmissed

/-- The first bit of the data and the first of the checksum. -/
theorem validateHdlcCrc_missesPair_sample :
    validateHdlcCrc (some (List.zipWith (· ^^^ ·) checkSequence [0x01,0,0,0,0,0,0,0,0]))
      (List.zipWith (· ^^^ ·) checkSequence [0x01,0,0,0,0,0,0,0,0]).length
      (0x906e ^^^ 0x0001)≠.ok := by
  have hlength : checkSequence.length=[0x01,0,0,0,0,0,0,0,(0 : UInt8)].length := rfl
  have hpair : ∀ k, (flipped [0x01,0,0,0,0,0,0,0,0] 0x0001).getD k false=true ↔ k=0 ∨ k=72 := by
    intro k
    by_cases hk : k < 88
    · revert k
      decide +kernel
    · rw [List.getD_eq_default _ _ (by simpa [flipped,writeUint16LowByteFirst] using hk)]
      constructor
      · exact fun h => absurd h Bool.false_ne_true
      · omega
  intro hok
  have hdvd :=
    (validateHdlcCrc_missesPair_iff hlength checkSequence_valid (by decide) hpair).1.mp hok
  revert hdvd
  decide

end DlmsHdlc
