import Mathlib

/-! Piecewise writing into a preallocated buffer, from its front to its back. -/
namespace Buffer
variable {α : Type*}

/-- Store `values` from position `offset` on. -/
def overwrite (buffer : List α) (offset : ℕ) (values : List α) : List α :=
  buffer.take offset ++ values ++ buffer.drop (offset+values.length)

/-- The buffer once its front has been filled. -/
def filled (buffer front : List α) : List α := front ++ buffer.drop front.length

theorem overwrite_filled (buffer front values : List α) :
    overwrite (filled buffer front) front.length values=filled buffer (front ++ values) := by
  simp [overwrite,filled,List.drop_append]

@[simp] theorem take_filled (buffer front : List α) :
    (filled buffer front).take front.length=front := by simp [filled]

@[simp] theorem drop_filled (buffer front : List α) :
    (filled buffer front).drop front.length=buffer.drop front.length := by simp [filled]

/-- A slice inside the filled front does not see the rest of the buffer. -/
theorem slice_filled (buffer before slice : List α) :
    ((filled buffer (before ++ slice)).drop before.length).take slice.length=slice := by
  simp [filled,List.append_assoc]

end Buffer
