import DlmsHdlc.Library.Buffer

/-! Memory accesses and unsigned subtractions that fail instead of leaving their range. -/
namespace Checked
open Buffer
variable {α β : Type*}

/-- A difference of unsigned numbers, unless it is below zero. -/
def sub (a b : ℕ) : Option ℕ := if b ≤ a then some (a-b) else none

theorem sub_of_le {a b : ℕ} (h : b ≤ a) : sub a b=some (a-b) := if_pos h

/-- A loop over `count` elements from `index` on, unless one is outside the memory. -/
def fold (step : β → α → β) (memory : List α) : ℕ → ℕ → β → Option β
  | _,0,result => some result
  | index,count+1,result =>
    memory[index]?.bind fun value => fold step memory (index+1) count (step result value)

/-- An element in its place, unless the place is not among the first `size`. -/
def store (memory : List α) (size index : ℕ) (value : α) : Option (List α) :=
  if index < size then some (memory.set index value) else none

/-- A copy of `count` elements, from `offset` of the input to `index` of the output on, unless one
is outside the input or its place outside the first `size` of the output. -/
def copy (input : List α) (size : ℕ) : ℕ → ℕ → ℕ → List α → Option (List α)
  | _,_,0,output => some output
  | offset,index,count+1,output =>
    input[offset]?.bind fun value =>
      (store output size index value).bind (copy input size (offset+1) (index+1) count)

/-- Inside the memory the loop runs over a slice. -/
theorem fold_eq {step : β → α → β} {memory : List α} {index count : ℕ}
    (h : index+count ≤ memory.length) (result : β) :
    fold step memory index count result=
      some (((memory.drop index).take count).foldl step result) := by
  induction count generalizing index result with
  | zero => simp [fold]
  | succ count ih =>
    have hindex : index < memory.length := by omega
    rw [fold,List.getElem?_eq_getElem hindex,Option.bind_some,ih (by omega),
      List.drop_eq_getElem_cons hindex,List.take_succ_cons,List.foldl_cons]

theorem overwrite_cons {output values : List α} {index : ℕ} (h : index < output.length)
    (value : α) :
    overwrite (output.set index value) (index+1) values=overwrite output index (value::values) := by
  have hfront : (output.set index value).take (index+1)=output.take index ++ [value] := by
    rw [List.take_add_one,List.take_set_of_le le_rfl,List.getElem?_set_self h]
    rfl
  rw [overwrite,overwrite,hfront,List.drop_set_of_lt (by omega),List.length_cons,
    show index+1+values.length=index+(values.length+1) by omega,List.append_assoc (output.take index)]
  rfl

/-- Inside both memories the copy is one write. -/
theorem copy_eq {input output : List α} {size offset index count : ℕ}
    (hread : offset+count ≤ input.length) (hwrite : index+count ≤ size)
    (hsize : size ≤ output.length) :
    copy input size offset index count output=
      some (overwrite output index ((input.drop offset).take count)) := by
  induction count generalizing offset index output with
  | zero => simp [copy,overwrite]
  | succ count ih =>
    have hoffset : offset < input.length := by omega
    have hindex : index < size := by omega
    rw [copy,List.getElem?_eq_getElem hoffset,Option.bind_some,store,
      if_pos hindex,Option.bind_some,ih (by omega) (by omega) (by simpa using hsize),
      overwrite_cons (by omega),List.drop_eq_getElem_cons hoffset,List.take_succ_cons]

end Checked
