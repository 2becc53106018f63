import Mathlib

/-! Codes that delimit themselves: a decoder finds the end of a codeword whatever follows it, and
accepts nothing but codewords. -/

structure PrefixCode (α σ : Type*) where
  encode : α → List σ
  /-- The value at the front of the input and the number of symbols it takes. -/
  decode : List σ → Option (α × ℕ)
  decode_encode : ∀ a tail, decode (encode a ++ tail)=some (a,(encode a).length)
  encode_decode : ∀ input a consumed, decode input=some (a,consumed) →
    consumed=(encode a).length ∧ input.take consumed=encode a

namespace PrefixCode
variable {α σ : Type*} (code : PrefixCode α σ)

/-- The decoder is determined by the codewords. -/
theorem decode_iff (input : List σ) (a : α) (consumed : ℕ) :
    code.decode input=some (a,consumed) ↔
      consumed=(code.encode a).length ∧ input.take consumed=code.encode a := by
  constructor
  · exact code.encode_decode input a consumed
  · rintro ⟨hconsumed,htake⟩
    have h := code.decode_encode a (input.drop consumed)
    rwa [← htake,List.take_append_drop,htake,← hconsumed] at h

/-- What follows a codeword is left alone, and the codeword is known from what it starts. -/
theorem encode_append {a b : α} {tail rest : List σ}
    (h : code.encode a ++ tail=code.encode b ++ rest) : a=b ∧ tail=rest := by
  have ha := code.decode_encode a tail
  have hb := code.decode_encode b rest
  rw [h,hb] at ha
  have hab : b=a := by
    injection ha with hpair
    exact congrArg Prod.fst hpair
  subst hab
  exact ⟨rfl,List.append_cancel_left h⟩

end PrefixCode
