import Mathlib

/-! Deterministic machines that answer every input, their runs, and the two rules used on
them: a property carried by every step of a run, and a simulation seen through an observation. -/
namespace Machine

/-- A machine in a state answers an input with an output and moves to the next state. -/
structure Mealy (σ ι ο : Type*) where
  step : σ → ι → ο × σ

namespace Mealy
variable {σ τ ι ο ω : Type*} (M : Mealy σ ι ο)

/-- The state a list of inputs leads to. -/
def final : σ → List ι → σ
  | s,[] => s
  | s,x::xs => final (M.step s x).2 xs

/-- The outputs of a run, in order. -/
def outputs : σ → List ι → List ο
  | _,[] => []
  | s,x::xs => (M.step s x).1 :: outputs (M.step s x).2 xs

/-- Every step of the run, taken from the state it starts in, satisfies `P`. -/
def Along (P : σ → ι → Prop) : σ → List ι → Prop
  | _,[] => True
  | s,x::xs => P s x ∧ Along P (M.step s x).2 xs

instance decidableAlong (P : σ → ι → Prop) [∀ s x, Decidable (P s x)] :
    (s : σ) → (xs : List ι) → Decidable (M.Along P s xs)
  | _,[] => .isTrue trivial
  | s,x::xs =>
    have := decidableAlong P (M.step s x).2 xs
    inferInstanceAs (Decidable (P s x ∧ M.Along P (M.step s x).2 xs))

/-- The outputs for some of the inputs of a run. -/
def outputsOf (keep : ι → Bool) : σ → List ι → List ο
  | _,[] => []
  | s,x::xs =>
    if keep x then (M.step s x).1 :: outputsOf keep (M.step s x).2 xs
    else outputsOf keep (M.step s x).2 xs

/-- What an observer sees of each step of a run. -/
def observed (view : ο → σ → ω) : σ → List ι → List ω
  | _,[] => []
  | s,x::xs => view (M.step s x).1 (M.step s x).2 :: observed view (M.step s x).2 xs

@[simp] theorem final_nil (s : σ) : M.final s []=s := rfl
@[simp] theorem final_cons (s : σ) (x : ι) (xs : List ι) :
    M.final s (x::xs)=M.final (M.step s x).2 xs := rfl
@[simp] theorem outputs_nil (s : σ) : M.outputs s []=[] := rfl
@[simp] theorem outputs_cons (s : σ) (x : ι) (xs : List ι) :
    M.outputs s (x::xs)=(M.step s x).1 :: M.outputs (M.step s x).2 xs := rfl
@[simp] theorem observed_nil (view : ο → σ → ω) (s : σ) : M.observed view s []=[] := rfl
@[simp] theorem observed_cons (view : ο → σ → ω) (s : σ) (x : ι) (xs : List ι) :
    M.observed view s (x::xs)=
      view (M.step s x).1 (M.step s x).2 :: M.observed view (M.step s x).2 xs := rfl
@[simp] theorem along_nil (P : σ → ι → Prop) (s : σ) : M.Along P s [] := trivial
@[simp] theorem along_cons (P : σ → ι → Prop) (s : σ) (x : ι) (xs : List ι) :
    M.Along P s (x::xs) ↔ P s x ∧ M.Along P (M.step s x).2 xs := Iff.rfl

theorem final_append (s : σ) (xs ys : List ι) :
    M.final s (xs ++ ys)=M.final (M.final s xs) ys := by
  induction xs generalizing s with
  | nil => rfl
  | cons x xs ih => exact ih _

theorem outputs_append (s : σ) (xs ys : List ι) :
    M.outputs s (xs ++ ys)=M.outputs s xs ++ M.outputs (M.final s xs) ys := by
  induction xs generalizing s with
  | nil => rfl
  | cons x xs ih => exact congrArg _ (ih _)

theorem along_append (P : σ → ι → Prop) (s : σ) (xs ys : List ι) :
    M.Along P s (xs ++ ys) ↔ M.Along P s xs ∧ M.Along P (M.final s xs) ys := by
  induction xs generalizing s with
  | nil => simp
  | cons x xs ih => rw [List.cons_append,along_cons,along_cons,ih,final_cons,and_assoc]

/-- An invariant that every step keeps holds after every run. -/
theorem final_invariant (I : σ → Prop) (step : ∀ s x, I s → I (M.step s x).2)
    {s : σ} (h : I s) (xs : List ι) : I (M.final s xs) := by
  induction xs generalizing s with
  | nil => exact h
  | cons x xs ih => exact ih (step s x h)

/-- It is enough that the inputs of the run keep it. -/
theorem final_invariant_mem (I : σ → Prop) {xs : List ι}
    (step : ∀ s, ∀ x ∈ xs, I s → I (M.step s x).2) {s : σ} (h : I s) : I (M.final s xs) := by
  induction xs generalizing s with
  | nil => exact h
  | cons x xs ih =>
    apply ih
    · intro s y hy
      exact step s y (List.mem_cons_of_mem x hy)
    · exact step s x List.mem_cons_self h

/-- What each step adds to what has gone in and come out is added up over the run. -/
theorem final_accumulates {α β : Type*} (R : σ → List α → List β → Prop) {taken : ι → List α}
    {given : ο → List β} (step : ∀ s x ins outs, R s ins outs →
      R (M.step s x).2 (ins ++ taken x) (outs ++ given (M.step s x).1))
    {s : σ} {ins : List α} {outs : List β} (h : R s ins outs) (xs : List ι) :
    R (M.final s xs) (ins ++ xs.flatMap taken) (outs ++ (M.outputs s xs).flatMap given) := by
  induction xs generalizing s ins outs with
  | nil => simpa using h
  | cons x xs ih =>
    have hnext := ih (step s x ins outs h)
    rw [List.append_assoc,List.append_assoc] at hnext
    exact hnext

theorem along_of_forall {P : σ → ι → Prop} (h : ∀ s x, P s x) (s : σ) (xs : List ι) :
    M.Along P s xs := by
  induction xs generalizing s with
  | nil => trivial
  | cons x xs ih => exact ⟨h s x,ih _⟩

/-- What an invariant gives for every input holds along every run. -/
theorem along_of_invariant (I : σ → Prop) {P : σ → ι → Prop} (holds : ∀ s x, I s → P s x)
    (step : ∀ s x, I s → I (M.step s x).2) {s : σ} (h : I s) (xs : List ι) : M.Along P s xs := by
  induction xs generalizing s with
  | nil => trivial
  | cons x xs ih => exact ⟨holds s x h,ih (step s x h)⟩

/-- Along a run that a third property describes, two step properties that agree wherever the
invariant holds, the first of them keeping the invariant, hold together. -/
theorem along_congr_along (I : σ → Prop) {P Q R : σ → ι → Prop} {xs : List ι}
    (agree : ∀ s, ∀ x ∈ xs, I s → R s x → (P s x ↔ Q s x))
    (step : ∀ s, ∀ x ∈ xs, I s → R s x → P s x → I (M.step s x).2)
    {s : σ} (h : I s) (along : M.Along R s xs) : M.Along P s xs ↔ M.Along Q s xs := by
  induction xs generalizing s with
  | nil => simp
  | cons x xs ih =>
    have hx : x ∈ x::xs := List.mem_cons_self
    simp only [along_cons,← agree s x hx h along.1]
    apply and_congr_right
    intro hp
    apply ih
    · intro s y hy
      exact agree s y (List.mem_cons_of_mem x hy)
    · intro s y hy
      exact step s y (List.mem_cons_of_mem x hy)
    · exact step s x hx h along.1 hp
    · exact along.2

/-- The same along any run. -/
theorem along_congr (I : σ → Prop) {P Q : σ → ι → Prop} {xs : List ι}
    (agree : ∀ s, ∀ x ∈ xs, I s → (P s x ↔ Q s x))
    (step : ∀ s, ∀ x ∈ xs, I s → P s x → I (M.step s x).2)
    {s : σ} (h : I s) : M.Along P s xs ↔ M.Along Q s xs :=
  M.along_congr_along I (fun s x hx hs _ => agree s x hx hs)
    (fun s x hx hs _ => step s x hx hs) h (M.along_of_forall (fun _ _ => trivial) s xs)

/-- A property seen through a projection that commutes with the steps. -/
theorem along_map {N : Mealy τ ι ο} (f : σ → τ) {P : τ → ι → Prop}
    (step : ∀ s x, f (M.step s x).2=(N.step (f s) x).2) (s : σ) (xs : List ι) :
    M.Along (fun s x => P (f s) x) s xs ↔ N.Along P (f s) xs := by
  induction xs generalizing s with
  | nil => simp
  | cons x xs ih =>
    rw [along_cons,along_cons,← step,ih]

/-- Related states of two machines that show the same view after every input stay so. -/
theorem observed_eq_of_simulation {N : Mealy τ ι ο} (R : σ → τ → Prop)
    {view : ο → σ → ω} {view' : ο → τ → ω}
    (step : ∀ s t x, R s t → R (M.step s x).2 (N.step t x).2 ∧
      view (M.step s x).1 (M.step s x).2=view' (N.step t x).1 (N.step t x).2)
    {s : σ} {t : τ} (h : R s t) (xs : List ι) :
    M.observed view s xs=N.observed view' t xs := by
  induction xs generalizing s t with
  | nil => rfl
  | cons x xs ih =>
    obtain ⟨hr,hv⟩ := step s t x h
    rw [observed_cons,observed_cons,hv,ih hr]

/-- Steps that keep two machines related keep them so over the run. -/
theorem final_of_simulation {N : Mealy τ ι ω} (R : σ → τ → Prop) {xs : List ι}
    (step : ∀ s t, ∀ x ∈ xs, R s t → R (M.step s x).2 (N.step t x).2)
    {s : σ} {t : τ} (h : R s t) : R (M.final s xs) (N.final t xs) := by
  induction xs generalizing s t with
  | nil => exact h
  | cons x xs ih =>
    apply ih
    · intro s t y hy
      exact step s t y (List.mem_cons_of_mem x hy)
    · exact step s t x List.mem_cons_self h

/-- Related states give the same outputs along a run whose steps keep them related. -/
theorem outputs_eq_of_along {N : Mealy τ ι ο} (R : σ → τ → Prop) {P : σ → ι → Prop} {xs : List ι}
    (step : ∀ s t, ∀ x ∈ xs, R s t → P s x →
      (M.step s x).1=(N.step t x).1 ∧ R (M.step s x).2 (N.step t x).2)
    {s : σ} {t : τ} (h : R s t) (along : M.Along P s xs) : M.outputs s xs=N.outputs t xs := by
  induction xs generalizing s t with
  | nil => rfl
  | cons x xs ih =>
    obtain ⟨hx,hxs⟩ := along
    obtain ⟨houtput,hnext⟩ := step s t x List.mem_cons_self h hx
    have hrest := ih (fun s t y hy => step s t y (List.mem_cons_of_mem x hy)) hnext hxs
    rw [outputs_cons,outputs_cons,houtput,hrest]

/-- If such a step is also needed to see the same, then the outputs agree along no other run. -/
theorem outputs_eq_iff_along {N : Mealy τ ι ο} (R : σ → τ → Prop) {P : σ → ι → Prop} {xs : List ι}
    (step : ∀ s t, ∀ x ∈ xs, R s t → P s x →
      (M.step s x).1=(N.step t x).1 ∧ R (M.step s x).2 (N.step t x).2)
    (needed : ∀ s t, ∀ x ∈ xs, R s t → (M.step s x).1=(N.step t x).1 → P s x)
    {s : σ} {t : τ} (h : R s t) : M.outputs s xs=N.outputs t xs ↔ M.Along P s xs := by
  refine ⟨fun same => ?_,M.outputs_eq_of_along R step h⟩
  induction xs generalizing s t with
  | nil => trivial
  | cons x xs ih =>
    have hx : x ∈ x::xs := List.mem_cons_self
    rw [outputs_cons,outputs_cons,List.cons.injEq] at same
    have hp := needed s t x hx h same.1
    have hnext := (step s t x hx h hp).2
    refine ⟨hp,ih ?_ ?_ hnext same.2⟩
    · intro s t y hy
      exact step s t y (List.mem_cons_of_mem x hy)
    · intro s t y hy
      exact needed s t y (List.mem_cons_of_mem x hy)

/-- Inputs that the machine `N` does not see make no difference: what `M` answers to the others is
what `N` answers. -/
theorem outputsOf_eq {N : Mealy τ ι ο} {keep : ι → Bool} (R : σ → τ → Prop)
    (kept : ∀ s t x, keep x=true → R s t →
      (M.step s x).1=(N.step t x).1 ∧ R (M.step s x).2 (N.step t x).2)
    (dropped : ∀ s t x, keep x=false → R s t → R (M.step s x).2 t)
    {s : σ} {t : τ} (h : R s t) (xs : List ι) :
    M.outputsOf keep s xs=N.outputs t (xs.filter keep) ∧
      R (M.final s xs) (N.final t (xs.filter keep)) := by
  induction xs generalizing s t with
  | nil => exact ⟨rfl,h⟩
  | cons x xs ih =>
    rw [outputsOf,final_cons]
    cases hx : keep x with
    | true =>
      obtain ⟨houtput,hnext⟩ := kept s t x hx h
      obtain ⟨houtputs,hfinal⟩ := ih hnext
      rw [List.filter_cons_of_pos hx,if_pos rfl,outputs_cons,final_cons,houtput,houtputs]
      exact ⟨rfl,hfinal⟩
    | false =>
      obtain ⟨houtputs,hfinal⟩ := ih (dropped s t x hx h)
      rw [List.filter_cons_of_neg (by rw [hx]; decide),if_neg Bool.false_ne_true]
      exact ⟨houtputs,hfinal⟩

/-- What comes out of `M` goes into `N`, piece by piece. -/
def cascade (pieces : ο → List ω) {κ : Type*} (N : Mealy τ ω κ) : Mealy (σ × τ) ι (ο × List κ) where
  step state x :=
    let (output,next) := M.step state.1 x
    ((output,N.outputs state.2 (pieces output)),(next,N.final state.2 (pieces output)))

/-- `N` sees all that `M` puts out, wherever its outputs end. -/
theorem cascade_run {κ : Type*} (N : Mealy τ ω κ) (pieces : ο → List ω) (s : σ) (t : τ)
    (xs : List ι) :
    ((M.cascade pieces N).outputs (s,t) xs).map Prod.fst=M.outputs s xs ∧
      ((M.cascade pieces N).outputs (s,t) xs).flatMap Prod.snd=
        N.outputs t ((M.outputs s xs).flatMap pieces) ∧
      (M.cascade pieces N).final (s,t) xs=
        (M.final s xs,N.final t ((M.outputs s xs).flatMap pieces)) := by
  induction xs generalizing s t with
  | nil => exact ⟨rfl,rfl,rfl⟩
  | cons x xs ih =>
    obtain ⟨houtputs,hpieces,hfinal⟩ := ih (M.step s x).2 (N.final t (pieces (M.step s x).1))
    rw [outputs_cons,outputs_cons,List.flatMap_cons,List.flatMap_cons,outputs_append,final_cons,
      final_append,final_cons]
    exact ⟨congrArg _ houtputs,congrArg _ hpieces,hfinal⟩

variable {M}

/-- No sequence of inputs tells the two states apart. -/
def Indistinguishable (M : Mealy σ ι ο) (view : ο → σ → ω) (s t : σ) : Prop :=
  ∀ xs, M.observed view s xs=M.observed view t xs

/-- Indistinguishable states show the same after an input, and go to indistinguishable states. -/
theorem Indistinguishable.step {view : ο → σ → ω} {s t : σ} (h : M.Indistinguishable view s t)
    (x : ι) :
    view (M.step s x).1 (M.step s x).2=view (M.step t x).1 (M.step t x).2 ∧
      M.Indistinguishable view (M.step s x).2 (M.step t x).2 := by
  constructor
  · have hone := h [x]
    simpa using hone
  · intro xs
    have hmore := h (x::xs)
    rw [observed_cons,observed_cons,List.cons.injEq] at hmore
    exact hmore.2

/-- After the same inputs they are still indistinguishable. -/
theorem Indistinguishable.final {view : ο → σ → ω} {s t : σ}
    (h : M.Indistinguishable view s t) (xs : List ι) :
    M.Indistinguishable view (M.final s xs) (M.final t xs) := by
  induction xs generalizing s t with
  | nil => exact h
  | cons x xs ih => exact ih (h.step x).2

end Mealy
end Machine
