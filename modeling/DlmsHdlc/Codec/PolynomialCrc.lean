import DlmsHdlc.Codec.ErrorDetection
import DlmsHdlc.Go.Agreement
import DlmsHdlc.Library.CyclicCode

/-! The checksum by its definition: a division of polynomials over the field with two elements. -/
namespace DlmsHdlc
open ShiftRegister Polynomial

def complementFront (count : ℕ) (word : List Bool) : List Bool :=
  (word.take count).map not ++ word.drop count

/-- The generator polynomial. -/
noncomputable def crcGenerator : (ZMod 2)[X] := X^16 + X^12 + X^5 + 1

/-- The message, with the least significant bit of each byte first, extended by sixteen zeros and
with its first sixteen bits complemented. -/
noncomputable def crcDividend (message : List UInt8) : (ZMod 2)[X] :=
  wordPolynomial
    ((complementFront 16 (transmitted message ++ List.replicate 16 false)).map symbol)

/-- The complement of the remainder, with the coefficient of the highest degree in bit zero. -/
noncomputable def polynomialCrc (message : List UInt8) : UInt16 :=
  .ofNat (Nat.ofBits fun i : Fin 16 =>
    !decide ((crcDividend message %ₘ crcGenerator).coeff (15-i.val)=1))

theorem ofFn_taps : List.ofFn taps=[0,0,0,1,0,0,0,0,0,0,1,0,0,0,0,1] := by decide

/-- The constant 0x8408 of the source is the generator read from its other end. -/
theorem generator_taps : generator taps=crcGenerator := by
  have htaps : cellPolynomial taps=X^12+(X^5+1) := by
    rw [← wordPolynomial_ofFn,ofFn_taps]
    simp
  rw [generator,htaps,crcGenerator,CharTwo.sub_eq_add]
  ring

theorem symbol_not (bit : Bool) : symbol (!bit)=symbol bit+1 := by
  cases bit <;> rfl

theorem zipWith_add_zero (word : List (ZMod 2)) :
    List.zipWith (· + ·) word (List.replicate word.length 0)=word := by
  induction word with
  | nil => rfl
  | cons symbol word ih => rw [List.length_cons,List.replicate_succ,List.zipWith_cons_cons,ih,add_zero]

/-- Complementing the front adds ones to it. -/
theorem map_symbol_complementFront {count : ℕ} {word : List Bool} (h : count ≤ word.length) :
    (complementFront count word).map symbol=List.zipWith (· + ·) (word.map symbol)
      (List.replicate count 1 ++ List.replicate (word.length-count) 0) := by
  have hfront : ((word.take count).map not).map symbol=
      List.zipWith (· + ·) ((word.take count).map symbol) (List.replicate count 1) := by
    apply List.ext_getElem
    · simp [h]
    · intro i hi hi'
      simp [symbol_not]
  have hback : List.zipWith (· + ·) ((word.drop count).map symbol)
      (List.replicate (word.length-count) 0)=(word.drop count).map symbol := by
    have hzero := zipWith_add_zero ((word.drop count).map symbol)
    rwa [List.length_map,List.length_drop] at hzero
  have hsplit : word.map symbol=(word.take count).map symbol ++ (word.drop count).map symbol := by
    rw [← List.map_append,List.take_append_drop]
  rw [complementFront,List.map_append,hfront,hsplit,List.zipWith_append (by simp [h]),hback]

theorem ofFn_cells_kInitialFcs : List.ofFn (cells kInitialFcs)=List.replicate 16 1 := by decide

/-- What is left in the register after a message is the remainder. -/
theorem cellPolynomial_register (message : List UInt8) :
    cellPolynomial (cells (message.foldl updateCrc kInitialFcs))=
      crcDividend message %ₘ crcGenerator := by
  have hextended : (transmitted message ++ List.replicate 16 false).map symbol=
      (transmitted message).map symbol ++ List.replicate 16 0 := by
    rw [List.map_append,List.map_replicate,symbol_false]
  have hlength : (transmitted message ++ List.replicate 16 false).length-16=
      ((transmitted message).map symbol).length := by simp
  rw [cells_foldl,cellPolynomial_run,generator_taps,ofFn_cells_kInitialFcs,crcDividend,
    map_symbol_complementFront (by simp),hextended,hlength]

theorem cells_polynomialCrc (message : List UInt8) (i : Fin 16) :
    cells (polynomialCrc message) i=
      symbol (!decide ((crcDividend message %ₘ crcGenerator).coeff (15-i.val)=1)) := by
  have hlt := Nat.ofBits_lt_two_pow fun i : Fin 16 =>
    !decide ((crcDividend message %ₘ crcGenerator).coeff (15-i.val)=1)
  rw [cells,polynomialCrc,UInt16.toNat_ofNat_of_lt' hlt,Nat.testBit_ofBits_lt _ _ i.isLt]

/-- The loop over the bytes computes the checksum that the division defines. -/
theorem calculateHdlcCrc_eq_polynomialCrc (message : List UInt8) :
    calculateHdlcCrc (some message)=polynomialCrc message := by
  apply cells_injective
  ext i
  have hcell : (crcDividend message %ₘ crcGenerator).coeff (15-i.val)=
      cells (message.foldl updateCrc kInitialFcs) i := by
    rw [← cellPolynomial_register]
    exact coeff_cellPolynomial (n := 15) _ i
  have hones : ∀ j, cells 0xffff j=1 := by decide
  have hflip : ∀ a : ZMod 2, symbol (!decide (a=1))=a+1 := by decide
  rw [cells_polynomialCrc,hcell,hflip,calculateHdlcCrc,cells_xor,Pi.add_apply,hones]

/-- A message with its checksum behind it leaves the same in the register as every other one. -/
theorem calculateHdlcCrc_sealed (message : List UInt8) :
    calculateHdlcCrc (some (message ++
      writeUint16LowByteFirst (calculateHdlcCrc (some message))))=0x0f47 := by
  apply cells_injective
  have hresidue : (turn taps)^[16] (cells 0xffff)=cells 0xf0b8 := by
    rw [← cells_repeat]
    exact congrArg cells (by decide +kernel : Nat.repeat shiftCrc 16 0xffff=0xf0b8)
  rw [calculateHdlcCrc,cells_xor,cells_foldl,cells_sealed,hresidue,← cells_xor]
  rfl

/-- Both implementations compute the checksum of the standard, and a message sealed with it has one
fixed checksum. -/
theorem calculateHdlcCrc_is_polynomialCrc (message : List UInt8) :
    calculateHdlcCrc (some message)=polynomialCrc message ∧
    Go.calculateHdlcCRC message=polynomialCrc message ∧
    calculateHdlcCrc (some (message ++
      writeUint16LowByteFirst (calculateHdlcCrc (some message))))=0x0f47 :=
  ⟨calculateHdlcCrc_eq_polynomialCrc message,
    (Go.calculateHdlcCRC_eq message).trans (calculateHdlcCrc_eq_polynomialCrc message),
    calculateHdlcCrc_sealed message⟩

/-- The check value of the standard. -/
example : calculateHdlcCrc (some [0x31,0x32,0x33,0x34,0x35,0x36,0x37,0x38,0x39])=0x906e := by
  decide +kernel

end DlmsHdlc
