import Mathlib

/-! Linear feedback shift registers over a commutative ring: the remainder of a cyclic code, and
the error patterns that it never leaves at zero. -/
namespace ShiftRegister
variable {K : Type*} [CommRing K] {n : ℕ}

/-- One turn: every cell moves down by one, and what leaves the lowest cell is fed back. -/
def turn (taps : Fin (n+1) → K) : (Fin (n+1) → K) →ₗ[K] (Fin (n+1) → K) where
  toFun v := (Fin.snoc (Fin.tail v) 0 : Fin (n+1) → K) + v 0 • taps
  map_add' v w := by
    ext i
    induction i using Fin.lastCases with
    | last => simp; ring
    | cast i => simp [Fin.tail]; ring
  map_smul' c v := by
    ext i
    induction i using Fin.lastCases with
    | last => simp; ring
    | cast i => simp [Fin.tail]; ring

@[simp] theorem turn_last (taps v : Fin (n+1) → K) :
    turn taps v (Fin.last n)=v 0*taps (Fin.last n) := by
  simp [turn]

@[simp] theorem turn_castSucc (taps v : Fin (n+1) → K) (i : Fin n) :
    turn taps v i.castSucc=v i.succ+v 0*taps i.castSucc := by
  simp [turn,Fin.tail]

/-- A symbol enters at the lowest cell. -/
def feed (taps : Fin (n+1) → K) (v : Fin (n+1) → K) (symbol : K) : Fin (n+1) → K :=
  turn taps (v + Pi.single 0 symbol)

def run (taps : Fin (n+1) → K) (v : Fin (n+1) → K) (word : List K) : Fin (n+1) → K :=
  word.foldl (feed taps) v

variable {taps : Fin (n+1) → K}

@[simp] theorem run_nil (v : Fin (n+1) → K) : run taps v []=v := rfl

@[simp] theorem run_cons (v : Fin (n+1) → K) (symbol : K) (word : List K) :
    run taps v (symbol::word)=run taps (feed taps v symbol) word := rfl

theorem run_append (v : Fin (n+1) → K) (word more : List K) :
    run taps v (word ++ more)=run taps (run taps v word) more := List.foldl_append

theorem feed_add (v w : Fin (n+1) → K) (a b : K) :
    feed taps (v+w) (a+b)=feed taps v a+feed taps w b := by
  simp only [feed,Pi.single_add,← map_add]
  congr 1
  abel

/-- An error adds to the remainder what it leaves of itself. -/
theorem run_add (v w : Fin (n+1) → K) {word error : List K} (h : word.length=error.length) :
    run taps (v+w) (List.zipWith (· + ·) word error)=run taps v word+run taps w error := by
  induction word generalizing v w error with
  | nil =>
    obtain rfl := List.length_eq_zero_iff.mp h.symm
    rfl
  | cons a word ih =>
    cases error with
    | nil => simp at h
    | cons b error =>
      rw [List.zipWith_cons_cons,run_cons,run_cons,run_cons,feed_add,ih _ _ (by simpa using h)]

theorem run_corrupt (v : Fin (n+1) → K) {word error : List K} (h : word.length=error.length) :
    run taps v (List.zipWith (· + ·) word error)=run taps v word ↔ run taps 0 error=0 := by
  have hadd : run taps (v+0) (List.zipWith (· + ·) word error)=_ := run_add v 0 h
  rw [add_zero] at hadd
  rw [hadd]
  exact add_eq_left

theorem run_replicate_zero (v : Fin (n+1) → K) (count : ℕ) :
    run taps v (List.replicate count 0)=(turn taps)^[count] v := by
  induction count generalizing v with
  | zero => rfl
  | succ count ih => simp [List.replicate_succ,feed,ih]

/-! The sum of the cells, when the taps sum up to one: the code has the factor `x - 1`. -/

theorem sum_turn (htaps : ∑ i, taps i=1) (v : Fin (n+1) → K) : ∑ i, turn taps v i=∑ i, v i := by
  rw [Fin.sum_univ_castSucc] at htaps ⊢
  simp only [turn_castSucc,turn_last,Finset.sum_add_distrib,← Finset.mul_sum]
  rw [Fin.sum_univ_succ v,add_assoc,← mul_add,htaps]
  ring

theorem sum_run (htaps : ∑ i, taps i=1) (v : Fin (n+1) → K) (word : List K) :
    ∑ i, run taps v word i=∑ i, v i+word.sum := by
  induction word generalizing v with
  | nil => simp
  | cons symbol word ih =>
    rw [run_cons,ih,feed,sum_turn htaps]
    simp [Finset.sum_add_distrib,add_assoc]

/-- A word whose symbols do not cancel out leaves something behind. -/
theorem run_ne_zero_of_sum (htaps : ∑ i, taps i=1) {error : List K} (h : error.sum≠0) :
    run taps 0 error≠0 := by
  intro hrun
  have hsum := sum_run htaps 0 error
  rw [hrun] at hsum
  exact h (by simpa using hsum.symm)

/-! The feedback into the highest cell makes the turn injective. -/

theorem turn_injective (htaps : IsUnit (taps (Fin.last n))) :
    Function.Injective (turn taps) := by
  rw [← LinearMap.ker_eq_bot,LinearMap.ker_eq_bot']
  intro v hv
  have hzero : v 0=0 := by
    have hlast := congrFun hv (Fin.last n)
    rw [turn_last,Pi.zero_apply] at hlast
    exact (IsUnit.mul_left_eq_zero htaps).mp hlast
  ext i
  induction i using Fin.cases with
  | zero => exact hzero
  | succ i =>
    have hi := congrFun hv i.castSucc
    simpa [hzero] using hi

theorem iterate_turn_eq_zero (htaps : IsUnit (taps (Fin.last n))) (count : ℕ)
    {v : Fin (n+1) → K} : (turn taps)^[count] v=0 ↔ v=0 := by
  constructor
  · intro h
    apply (turn_injective htaps).iterate count
    rw [h]
    simp
  · rintro rfl
    simp

/-- Symbols in the cells, the first one in the lowest cell. -/
def load (word : List K) : Fin (n+1) → K := fun i => word.getD i 0

theorem turn_load {word : List K} (h : word.length ≤ n) :
    turn taps (load (0::word))=(load word : Fin (n+1) → K) := by
  ext i
  induction i using Fin.lastCases with
  | last => simp [load,h]
  | cast i => simp [load]

theorem load_cons (symbol : K) (word : List K) :
    (load (symbol::word) : Fin (n+1) → K)=Pi.single 0 symbol+load (0::word) := by
  ext i
  induction i using Fin.cases with
  | zero => simp [load]
  | succ i => simp [load]

/-- Feeding a short word is loading it into the cells first and turning afterwards. -/
theorem run_eq_iterate (v : Fin (n+1) → K) {word : List K} (h : word.length ≤ n+1) :
    run taps v word=(turn taps)^[word.length] (v+load word) := by
  induction word generalizing v with
  | nil =>
    have hload : (load [] : Fin (n+1) → K)=0 := by
      ext i
      simp [load]
    simp [hload]
  | cons symbol word ih =>
    rw [List.length_cons] at h
    rw [run_cons,ih _ (by omega),List.length_cons,Function.iterate_succ_apply,load_cons,
      ← add_assoc,map_add,turn_load (by omega)]
    rfl

/-- The symbols that differ from zero lie within `width` consecutive positions. -/
def Burst (width : ℕ) (error : List K) : Prop :=
  ∃ start, ∀ i, error.getD i 0≠0 → start ≤ i ∧ i < start+width

theorem eq_replicate_zero {word : List K} (h : ∀ i, word.getD i 0=0) :
    word=List.replicate word.length 0 := by
  apply List.eq_replicate_iff.mpr
  refine ⟨rfl,fun symbol hmem => ?_⟩
  obtain ⟨i,hi,rfl⟩ := List.getElem_of_mem hmem
  rw [← List.getD_eq_getElem word 0 hi]
  exact h i

theorem Burst.split {width : ℕ} {error : List K} (h : Burst width error) :
    ∃ before middle after, middle.length ≤ width ∧
      error=List.replicate before 0 ++ middle ++ List.replicate after 0 := by
  obtain ⟨start,hstart⟩ := h
  have hbefore : error.take start=List.replicate (error.take start).length 0 := by
    apply eq_replicate_zero
    intro i
    by_contra hi
    have hlt : i < start := by
      by_contra hge
      exact hi (List.getD_eq_default _ _ ((List.length_take_le _ _).trans (Nat.not_lt.mp hge)))
    have hsame : (error.take start).getD i 0=error.getD i 0 := by
      simp [List.getElem?_take_of_lt hlt]
    exact absurd (hstart i (hsame ▸ hi)).1 (Nat.not_le.mpr hlt)
  have hafter : error.drop (start+width)=List.replicate (error.drop (start+width)).length 0 := by
    apply eq_replicate_zero
    intro i
    by_contra hi
    have hsame : (error.drop (start+width)).getD i 0=error.getD (start+width+i) 0 := by
      simp [List.getElem?_drop]
    have hlt := (hstart _ (hsame ▸ hi)).2
    omega
  refine ⟨(error.take start).length,(error.drop start).take width,
    (error.drop (start+width)).length,List.length_take_le _ _,?_⟩
  rw [← hbefore,← hafter,← List.drop_drop,List.append_assoc,List.take_append_drop,
    List.take_append_drop]

/-- A burst no longer than the register leaves something behind. -/
theorem run_ne_zero_of_burst (htaps : IsUnit (taps (Fin.last n))) {error : List K}
    (hburst : Burst (n+1) error) (hne : ∃ symbol ∈ error, symbol≠0) : run taps 0 error≠0 := by
  obtain ⟨before,middle,after,hlength,rfl⟩ := hburst.split
  intro hrun
  rw [run_append,run_append,run_replicate_zero,run_replicate_zero,
    iterate_turn_eq_zero htaps,run_eq_iterate _ hlength,iterate_turn_eq_zero htaps,
    (iterate_turn_eq_zero htaps before).mpr rfl,zero_add] at hrun
  obtain ⟨symbol,hmem,hsymbol⟩ := hne
  simp only [List.mem_append,List.mem_replicate] at hmem
  obtain (⟨_,hzero⟩ | hmiddle) | ⟨_,hzero⟩ := hmem
  · exact hsymbol hzero
  · obtain ⟨i,hi,rfl⟩ := List.getElem_of_mem hmiddle
    have hcell := congrFun hrun ⟨i,by omega⟩
    rw [load,List.getD_eq_getElem middle 0 hi] at hcell
    exact hsymbol hcell
  · exact hsymbol hzero

/-! Two flipped bits, over the field with two elements. -/

theorem eq_zero_or_one (symbol : ZMod 2) : symbol=0 ∨ symbol=1 := by
  revert symbol
  decide

/-- The first one in a word. -/
theorem split_one {word : List (ZMod 2)} {count : ℕ} (h : word.count 1=count+1) :
    ∃ before rest, word=List.replicate before 0 ++ 1::rest ∧ rest.count 1=count := by
  induction word with
  | nil => simp at h
  | cons symbol word ih =>
    obtain rfl | rfl := eq_zero_or_one symbol
    · obtain ⟨before,rest,rfl,hrest⟩ := ih (by simpa using h)
      exact ⟨before+1,rest,rfl,hrest⟩
    · exact ⟨0,word,rfl,by simpa using h⟩

theorem eq_replicate_of_count {word : List (ZMod 2)} (h : word.count 1=0) :
    word=List.replicate word.length 0 := by
  apply List.eq_replicate_iff.mpr
  refine ⟨rfl,fun symbol hmem => ?_⟩
  obtain rfl | rfl := eq_zero_or_one symbol
  · rfl
  · exact absurd hmem (List.count_eq_zero.mp h)

/-- Two ones cancel out only when a single one comes back to the lowest cell between them. -/
theorem run_ne_zero_of_two {taps : Fin (n+1) → ZMod 2} (htaps : IsUnit (taps (Fin.last n)))
    {error : List (ZMod 2)} (htwo : error.count 1=2)
    (hperiod : ∀ count, 0 < count → count < error.length →
      (turn taps)^[count] (Pi.single 0 1)≠Pi.single 0 1) :
    run taps 0 error≠0 := by
  obtain ⟨before,_,rfl,hone⟩ := split_one htwo
  obtain ⟨between,after,rfl,hnone⟩ := split_one hone
  intro hrun
  rw [eq_replicate_of_count hnone,run_append,run_replicate_zero,
    (iterate_turn_eq_zero htaps before).mpr rfl,run_cons,run_append,run_replicate_zero,run_cons,
    run_replicate_zero,iterate_turn_eq_zero htaps,feed,feed,zero_add,
    ← Function.iterate_succ_apply,← map_zero (turn taps)] at hrun
  have hback := (turn_injective htaps).eq_iff.mp hrun
  refine hperiod (between+1) (Nat.succ_pos _) ?_ ?_
  · simp only [List.length_append,List.length_cons,List.length_replicate]
    omega
  · rwa [← ZModModule.sub_eq_add,sub_eq_zero] at hback

/-- And they do cancel out then. -/
theorem run_pair_eq_zero_iff {taps : Fin (n+1) → ZMod 2} (htaps : IsUnit (taps (Fin.last n)))
    (before between after : ℕ) :
    run taps 0 (List.replicate before 0 ++ 1::(List.replicate between 0 ++
      1::List.replicate after 0))=0 ↔
        Function.IsPeriodicPt (turn taps) (between+1) (Pi.single 0 1) := by
  rw [run_append,run_replicate_zero,(iterate_turn_eq_zero htaps before).mpr rfl,run_cons,run_append,
    run_replicate_zero,run_cons,run_replicate_zero,iterate_turn_eq_zero htaps,feed,feed,zero_add,
    ← Function.iterate_succ_apply,← map_zero (turn taps),(turn_injective htaps).eq_iff,
    ← ZModModule.sub_eq_add,sub_eq_zero]
  rfl

/-- A word with a one at one position only. -/
theorem eq_single {word : List (ZMod 2)} {j : ℕ} (h : ∀ k, word.getD k 0=1 ↔ k=j) :
    ∃ after, word=List.replicate j 0 ++ 1::List.replicate after 0 := by
  induction j generalizing word with
  | zero =>
    cases word with
    | nil => exact absurd ((h 0).mpr rfl) zero_ne_one
    | cons symbol word =>
      obtain rfl : symbol=1 := (h 0).mpr rfl
      refine ⟨word.length,congrArg _ (eq_replicate_zero fun k => ?_)⟩
      exact (eq_zero_or_one _).resolve_right fun hone => Nat.succ_ne_zero k ((h (k+1)).mp hone)
  | succ j ih =>
    cases word with
    | nil => exact absurd ((h (j+1)).mpr rfl) zero_ne_one
    | cons symbol word =>
      have hzero : symbol=0 := (eq_zero_or_one _).resolve_right fun hone =>
        (Nat.succ_ne_zero j ((h 0).mp hone).symm)
      obtain ⟨after,rfl⟩ := ih fun k => (h (k+1)).trans Nat.succ_inj
      rw [hzero]
      exact ⟨after,rfl⟩

/-- A word with ones at two positions only. -/
theorem eq_pair {word : List (ZMod 2)} {i j : ℕ} (hij : i < j)
    (h : ∀ k, word.getD k 0=1 ↔ k=i ∨ k=j) : ∃ after, word=List.replicate i 0 ++
      1::(List.replicate (j-i-1) 0 ++ 1::List.replicate after 0) := by
  induction i generalizing word j with
  | zero =>
    cases word with
    | nil => exact absurd ((h 0).mpr (.inl rfl)) zero_ne_one
    | cons symbol word =>
      obtain rfl : symbol=1 := (h 0).mpr (.inl rfl)
      obtain ⟨after,hafter⟩ := @eq_single word (j-1) fun k => (h (k+1)).trans (by omega)
      exact ⟨after,congrArg _ hafter⟩
  | succ i ih =>
    cases word with
    | nil => exact absurd ((h (i+1)).mpr (.inl rfl)) zero_ne_one
    | cons symbol word =>
      have hzero : symbol=0 := (eq_zero_or_one _).resolve_right fun hone => by
        have hfirst := (h 0).mp hone
        omega
      obtain ⟨after,hafter⟩ := @ih word (j-1) (by omega) fun k => (h (k+1)).trans (by omega)
      refine ⟨after,?_⟩
      rw [hzero,hafter,List.replicate_succ,List.cons_append,show j-1-i-1=j-(i+1)-1 by omega]

end ShiftRegister
