import DlmsHdlc.Library.PrefixCode
import DlmsHdlc.Codec.Canonical

/-! Addresses on the wire are a code that delimits itself. -/
namespace DlmsHdlc
namespace HdlcAddress

theorem toOption_fromBytes_wire (address : HdlcAddress) (tail : List UInt8) :
    (fromBytes (some (address.wire ++ tail))).toOption=some (address,address.wire.length) := by
  rw [fromBytes_wire,wire_length]
  rfl

def code : PrefixCode HdlcAddress UInt8 where
  encode := wire
  decode input := (fromBytes (some input)).toOption
  decode_encode := toOption_fromBytes_wire
  encode_decode input address consumed h := by
    obtain ⟨hconsumed,_,htake⟩ := fromBytes_eq_ok (toOption_eq_some_iff.mp h)
    subst hconsumed
    exact ⟨address.wire_length.symm,htake⟩

/-- `FromBytes` accepts an input exactly when it starts with what `Encode` stores. -/
theorem fromBytes_iff (input : List UInt8) (address : HdlcAddress) (consumed : ℕ) :
    fromBytes (some input)=.ok (address,consumed) ↔
      consumed=address.encodedSize ∧ input.take consumed=address.wire := by
  rw [← toOption_eq_some_iff,← wire_length]
  exact code.decode_iff input address consumed

/-- The bytes that a successful `Encode` reports as written. -/
theorem encode_take {address : HdlcAddress} {outputSize : ℕ} (buffer : List UInt8)
    (h : address.encodedSize ≤ outputSize) :
    ∃ output, address.encode (some buffer) outputSize=.ok output ∧
      output.take address.encodedSize=address.wire := by
  refine ⟨_,encode_of_le h buffer,?_⟩
  rw [List.take_append_of_le_length (wire_length address).ge,← wire_length,List.take_length]

/-- Each of the two calls undoes the other, and a reader stops where the writer stopped. -/
theorem encode_fromBytes_inverse (tail input : List UInt8) :
    (∀ (address : HdlcAddress) (buffer : List UInt8) (outputSize : ℕ),
      address.encodedSize ≤ outputSize →
      ∃ output, address.encode (some buffer) outputSize=.ok output ∧
        fromBytes (some (output.take address.encodedSize ++ tail))=
          .ok (address,address.encodedSize)) ∧
    ∀ (address : HdlcAddress) (consumed : ℕ) (buffer : List UInt8) (outputSize : ℕ),
      fromBytes (some input)=.ok (address,consumed) → consumed ≤ outputSize →
      consumed=address.encodedSize ∧ consumed ≤ input.length ∧
      ∃ output, address.encode (some buffer) outputSize=.ok output ∧
        output.take address.encodedSize=input.take consumed := by
  constructor
  · intro address buffer outputSize hsize
    obtain ⟨output,hencode,htake⟩ := encode_take buffer hsize
    refine ⟨output,hencode,?_⟩
    rw [htake]
    exact fromBytes_wire address tail
  · intro address consumed buffer outputSize hread hsize
    obtain ⟨hconsumed,hwire⟩ := (fromBytes_iff input address consumed).mp hread
    subst hconsumed
    obtain ⟨output,hencode,htake⟩ := encode_take buffer hsize
    have hlength := congrArg List.length hwire
    rw [List.length_take,wire_length] at hlength
    exact ⟨rfl,by omega,output,hencode,htake.trans hwire.symm⟩

/-- The two-byte address 0x91 in a buffer of three bytes, and read from an input of three. -/
theorem encode_fromBytes_inverse_sample :
    (∃ output, HdlcAddress.encode ⟨0x91,2,by decide,by decide⟩ (some [9,9,9]) 3=.ok output ∧
      fromBytes (some (output.take 2 ++ [7]))=.ok (⟨0x91,2,by decide,by decide⟩,2)) ∧
    2 ≤ [0x02,0x23,(0x7e : UInt8)].length :=
  ⟨(encode_fromBytes_inverse [7] [0x02,0x23,0x7e]).1 _ [9,9,9] 3 (by decide),
    ((encode_fromBytes_inverse [7] [0x02,0x23,0x7e]).2 ⟨0x91,2,by decide,by decide⟩ 2 [9,9,9] 3
      (toOption_eq_some_iff.mp (by decide +kernel)) (by decide)).2.1⟩

end HdlcAddress
end DlmsHdlc
