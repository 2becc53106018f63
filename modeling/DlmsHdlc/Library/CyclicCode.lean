import DlmsHdlc.Library.ShiftRegister

/-! A shift register divides: its cells are the remainder of the word's polynomial. -/
namespace ShiftRegister
open Polynomial
variable {K : Type*} [CommRing K] {n : ℕ}

/-- The polynomial of a word, whose first symbol has the highest degree. -/
noncomputable def wordPolynomial : List K → K[X]
  | [] => 0
  | symbol::word => C symbol*X^word.length + wordPolynomial word

/-- The polynomial in the cells, with the highest degree in the lowest cell. -/
noncomputable def cellPolynomial (v : Fin (n+1) → K) : K[X] := ∑ i, C (v i)*X^(n-i.val)

/-- What is fed back makes up the divisor. -/
noncomputable def generator (taps : Fin (n+1) → K) : K[X] := X^(n+1) - cellPolynomial taps

@[simp] theorem wordPolynomial_nil : wordPolynomial ([] : List K)=0 := rfl

@[simp] theorem wordPolynomial_cons (symbol : K) (word : List K) :
    wordPolynomial (symbol::word)=C symbol*X^word.length + wordPolynomial word := rfl

theorem wordPolynomial_append (word more : List K) :
    wordPolynomial (word ++ more)=wordPolynomial word*X^more.length + wordPolynomial more := by
  induction word with
  | nil => simp
  | cons symbol word ih =>
    rw [List.cons_append,wordPolynomial_cons,wordPolynomial_cons,ih,List.length_append,pow_add]
    ring

theorem wordPolynomial_replicate_zero (count : ℕ) :
    wordPolynomial (List.replicate count (0 : K))=0 := by
  induction count with
  | zero => rfl
  | succ count ih => rw [List.replicate_succ,wordPolynomial_cons,ih,C_0,zero_mul,zero_add]

theorem wordPolynomial_zipWith_add {word other : List K} (h : word.length=other.length) :
    wordPolynomial (List.zipWith (· + ·) word other)=wordPolynomial word+wordPolynomial other := by
  induction word generalizing other with
  | nil =>
    obtain rfl := List.length_eq_zero_iff.mp h.symm
    simp
  | cons a word ih =>
    cases other with
    | nil => simp at h
    | cons b other =>
      have hlength : word.length=other.length := by simpa using h
      rw [List.zipWith_cons_cons,wordPolynomial_cons,wordPolynomial_cons,wordPolynomial_cons,
        ih hlength,List.length_zipWith,hlength,min_self,C_add]
      ring

/-- The cells as a word. -/
theorem wordPolynomial_ofFn (v : Fin (n+1) → K) :
    wordPolynomial (List.ofFn v)=cellPolynomial v := by
  have hword : ∀ (m : ℕ) (w : Fin m → K),
      wordPolynomial (List.ofFn w)=∑ i, C (w i)*X^(m-1-i.val) := by
    intro m
    induction m with
    | zero =>
      intro w
      simp
    | succ m ih =>
      intro w
      rw [List.ofFn_succ,wordPolynomial_cons,List.length_ofFn,ih,Fin.sum_univ_succ]
      congr 1
      apply Finset.sum_congr rfl
      intro i _
      rw [Fin.val_succ,show m+1-1-(i.val+1)=m-1-i.val by omega]
  exact hword (n+1) v

theorem cellPolynomial_add (v w : Fin (n+1) → K) :
    cellPolynomial (v+w)=cellPolynomial v+cellPolynomial w := by
  simp only [cellPolynomial,Pi.add_apply,C_add,add_mul,Finset.sum_add_distrib]

theorem cellPolynomial_smul (a : K) (v : Fin (n+1) → K) :
    cellPolynomial (a • v)=C a*cellPolynomial v := by
  simp only [cellPolynomial,Pi.smul_apply,smul_eq_mul,C_mul,Finset.mul_sum,mul_assoc]

theorem cellPolynomial_single_zero (a : K) :
    cellPolynomial (Pi.single 0 a : Fin (n+1) → K)=C a*X^n := by
  rw [cellPolynomial,Fin.sum_univ_succ]
  simp

theorem coeff_cellPolynomial (v : Fin (n+1) → K) (i : Fin (n+1)) :
    (cellPolynomial v).coeff (n-i.val)=v i := by
  have hcell : ∀ j, (C (v j)*X^(n-j.val)).coeff (n-i.val)=if j=i then v j else 0 := by
    intro j
    rw [coeff_C_mul_X_pow]
    congr 1
    rw [eq_iff_iff,← Fin.val_inj]
    omega
  rw [cellPolynomial,finsetSum_coeff,Finset.sum_congr rfl fun j _ => hcell j]
  simp

theorem degree_cellPolynomial_lt (v : Fin (n+1) → K) :
    (cellPolynomial v).degree < ((n+1 : ℕ) : WithBot ℕ) := by
  rw [cellPolynomial]
  apply (degree_sum_le _ _).trans_lt
  rw [Finset.sup_lt_iff (WithBot.bot_lt_coe _)]
  intro i _
  apply (degree_C_mul_X_pow_le _ _).trans_lt
  exact WithBot.coe_lt_coe.mpr (Nat.lt_succ_of_le (Nat.sub_le n i.val))

theorem monic_generator (taps : Fin (n+1) → K) : (generator taps).Monic :=
  monic_X_pow_sub (degree_cellPolynomial_lt taps)

theorem degree_generator [Nontrivial K] (taps : Fin (n+1) → K) :
    (generator taps).degree=((n+1 : ℕ) : WithBot ℕ) := by
  rw [generator,degree_sub_eq_left_of_degree_lt,degree_X_pow]
  rw [degree_X_pow]
  exact degree_cellPolynomial_lt taps

variable (taps : Fin (n+1) → K)

/-- A turn multiplies by `X` and takes the divisor off. -/
theorem X_mul_cellPolynomial (v : Fin (n+1) → K) :
    X*cellPolynomial v=cellPolynomial (turn taps v)+C (v 0)*generator taps := by
  have hturn : turn taps v=(Fin.snoc (Fin.tail v) 0 : Fin (n+1) → K)+v 0 • taps := rfl
  have hmoved : cellPolynomial (Fin.snoc (Fin.tail v) 0 : Fin (n+1) → K)=
      ∑ i : Fin n, C (v i.succ)*X^(n-i.val) := by
    rw [cellPolynomial,Fin.sum_univ_castSucc]
    simp [Fin.tail]
  have hshifted : X*cellPolynomial v=C (v 0)*X^(n+1)+∑ i : Fin n, C (v i.succ)*X^(n-i.val) := by
    rw [cellPolynomial,Fin.sum_univ_succ,mul_add,Finset.mul_sum]
    congr 1
    · rw [Fin.val_zero,Nat.sub_zero,pow_succ]
      ring
    · apply Finset.sum_congr rfl
      intro i _
      rw [Fin.val_succ,show n-i.val=n-(i.val+1)+1 by omega,pow_succ]
      ring
  rw [hturn,cellPolynomial_add,cellPolynomial_smul,hmoved,hshifted,generator]
  ring

theorem cellPolynomial_feed (v : Fin (n+1) → K) (symbol : K) :
    X*cellPolynomial v+C symbol*X^(n+1)=
      cellPolynomial (feed taps v symbol)+C (v 0+symbol)*generator taps := by
  have hentered := X_mul_cellPolynomial taps (v+Pi.single 0 symbol)
  rw [cellPolynomial_add,cellPolynomial_single_zero,Pi.add_apply,Pi.single_eq_same] at hentered
  rw [feed,← hentered,pow_succ]
  ring

/-- The division, symbol by symbol. -/
theorem exists_quotient (v : Fin (n+1) → K) (word : List K) :
    ∃ quotient, X^word.length*cellPolynomial v+X^(n+1)*wordPolynomial word=
      cellPolynomial (run taps v word)+generator taps*quotient := by
  induction word generalizing v with
  | nil => exact ⟨0,by simp⟩
  | cons symbol word ih =>
    obtain ⟨quotient,hquotient⟩ := ih (feed taps v symbol)
    refine ⟨quotient+X^word.length*C (v 0+symbol),?_⟩
    rw [run_cons,mul_add,← add_assoc,← hquotient,wordPolynomial_cons,List.length_cons]
    calc X^(word.length+1)*cellPolynomial v+X^(n+1)*(C symbol*X^word.length+wordPolynomial word)
        = X^word.length*(X*cellPolynomial v+C symbol*X^(n+1))+X^(n+1)*wordPolynomial word := by
          ring
      _ = X^word.length*(cellPolynomial (feed taps v symbol)+C (v 0+symbol)*generator taps)+
          X^(n+1)*wordPolynomial word := by rw [cellPolynomial_feed]
      _ = _ := by ring

/-- The register ends with the remainder of the word, extended by as many zeros as there are cells,
with the first cells added to the front of it. -/
theorem cellPolynomial_run [Nontrivial K] (v : Fin (n+1) → K) (word : List K) :
    cellPolynomial (run taps v word)=
      wordPolynomial (List.zipWith (· + ·) (word ++ List.replicate (n+1) 0)
        (List.ofFn v ++ List.replicate word.length 0)) %ₘ generator taps := by
  obtain ⟨quotient,hquotient⟩ := exists_quotient taps v word
  have hdividend : wordPolynomial (List.zipWith (· + ·) (word ++ List.replicate (n+1) 0)
      (List.ofFn v ++ List.replicate word.length 0))=
        cellPolynomial (run taps v word)+generator taps*quotient := by
    have hlength : (word ++ List.replicate (n+1) 0).length=
        (List.ofFn v ++ List.replicate word.length 0).length := by
      simp only [List.length_append,List.length_replicate,List.length_ofFn]
      omega
    rw [← hquotient,wordPolynomial_zipWith_add hlength,wordPolynomial_append,
      wordPolynomial_append,wordPolynomial_replicate_zero,wordPolynomial_replicate_zero,
      wordPolynomial_ofFn,List.length_replicate,List.length_replicate]
    ring
  have hdegree : (cellPolynomial (run taps v word)).degree < (generator taps).degree := by
    rw [degree_generator]
    exact degree_cellPolynomial_lt _
  rw [hdividend]
  exact ((div_modByMonic_unique quotient _ (monic_generator taps) ⟨rfl,hdegree⟩).2).symm

theorem cellPolynomial_eq_zero_iff {v : Fin (n+1) → K} : cellPolynomial v=0 ↔ v=0 := by
  constructor
  · intro h
    ext i
    rw [← coeff_cellPolynomial v i,h,coeff_zero,Pi.zero_apply]
  · rintro rfl
    simp [cellPolynomial]

/-- Symbols go in at the lowest cell, so that no power of `X` divides the divisor. -/
theorem isCoprime_generator_X_pow {K : Type*} [Field K] {n : ℕ} {taps : Fin (n+1) → K}
    (htaps : taps (Fin.last n)≠0) (count : ℕ) : IsCoprime (generator taps) (X^count) := by
  refine IsCoprime.pow_right (IsCoprime.symm ?_)
  rw [irreducible_X.coprime_iff_not_dvd,X_dvd_iff,generator,coeff_sub,coeff_X_pow,
    if_neg (Nat.succ_ne_zero n).symm,zero_sub,neg_eq_zero]
  have hlast := coeff_cellPolynomial taps (Fin.last n)
  rw [Fin.val_last,Nat.sub_self] at hlast
  rwa [hlast]

/-- A register that starts empty is empty again exactly after a multiple of the divisor. -/
theorem run_eq_zero_iff_dvd {K : Type*} [Field K] {n : ℕ} {taps : Fin (n+1) → K}
    (htaps : taps (Fin.last n)≠0) (word : List K) :
    run taps 0 word=0 ↔ generator taps ∣ wordPolynomial word := by
  obtain ⟨quotient,hquotient⟩ := exists_quotient taps 0 word
  rw [cellPolynomial_eq_zero_iff.mpr rfl,mul_zero,zero_add] at hquotient
  constructor
  · intro hrun
    rw [hrun,cellPolynomial_eq_zero_iff.mpr rfl,zero_add] at hquotient
    exact (isCoprime_generator_X_pow htaps (n+1)).dvd_of_dvd_mul_left ⟨quotient,hquotient⟩
  · intro hdvd
    have hcells : generator taps ∣ cellPolynomial (run taps 0 word) := by
      rw [← dvd_add_left (dvd_mul_right (generator taps) quotient),← hquotient]
      exact hdvd.mul_left _
    rw [← cellPolynomial_eq_zero_iff]
    apply eq_zero_of_dvd_of_degree_lt hcells
    rw [degree_generator]
    exact degree_cellPolynomial_lt _

end ShiftRegister
