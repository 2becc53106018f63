import Mathlib

/-! Codewords that start with a flag and tell where they end, behind fill that has no flag. The code
needs no other separators, and the flag may occur inside a codeword. -/

structure FlaggedCode (α σ : Type*) where
  valid : α → Prop
  encode : α → List σ
  flag : σ
  starts : ∀ a, ∃ rest, encode a=flag::rest
  delimited : ∀ {a b : α} {tail rest : List σ}, valid a → valid b →
    encode a ++ tail=encode b ++ rest → a=b ∧ tail=rest

namespace FlaggedCode
variable {α σ : Type*} (code : FlaggedCode α σ)

/-- Each codeword behind its fill, and fill at the end. -/
def line : List (List σ × α) → List σ → List σ
  | [],last => last
  | (fill,a)::items,last => fill ++ (code.encode a ++ line items last)

@[simp] theorem line_nil (last : List σ) : code.line [] last=last := rfl

@[simp] theorem line_cons (fill : List σ) (a : α) (items : List (List σ × α)) (last : List σ) :
    code.line ((fill,a)::items) last=fill ++ (code.encode a ++ code.line items last) := rfl

/-- Valid items behind fill without the flag. -/
def Proper (items : List (List σ × α)) (last : List σ) : Prop :=
  (∀ item ∈ items, code.flag ∉ item.1 ∧ code.valid item.2) ∧ code.flag ∉ last

variable {code} {items others : List (List σ × α)} {last other : List σ}

theorem Proper.tail {item : List σ × α} (h : code.Proper (item::items) last) :
    code.Proper items last :=
  ⟨fun next hnext => h.1 next (List.mem_cons_of_mem _ hnext),h.2⟩

/-- Fill ends where the first flag stands. -/
theorem fill_unique {flag : σ} {fill fill' rest rest' : List σ} (h : flag ∉ fill)
    (h' : flag ∉ fill') (same : fill ++ flag::rest=fill' ++ flag::rest') :
    fill=fill' ∧ rest=rest' := by
  induction fill generalizing fill' with
  | nil =>
    cases fill' with
    | nil => exact ⟨rfl,(List.cons.inj same).2⟩
    | cons symbol fill' =>
      rw [(List.cons.inj same).1] at h'
      exact absurd List.mem_cons_self h'
  | cons symbol fill ih =>
    cases fill' with
    | nil =>
      rw [← (List.cons.inj same).1] at h
      exact absurd List.mem_cons_self h
    | cons symbol' fill' =>
      obtain ⟨rfl,hrest⟩ := List.cons.inj same
      obtain ⟨rfl,hequal⟩ := ih (List.not_mem_of_not_mem_cons h)
        (List.not_mem_of_not_mem_cons h') hrest
      exact ⟨rfl,hequal⟩

/-- The end of the line has no flag, the line of further items has one. -/
theorem last_ne {fill : List σ} {a : α} (h : code.flag ∉ last) :
    last≠code.line ((fill,a)::items) other := by
  rintro rfl
  obtain ⟨rest,hstart⟩ := code.starts a
  rw [line_cons,hstart] at h
  exact h (List.mem_append_right _ List.mem_cons_self)

/-- No two lines of proper items read the same. -/
theorem line_injective (h : code.Proper items last) (h' : code.Proper others other)
    (same : code.line items last=code.line others other) : items=others ∧ last=other := by
  induction items generalizing others with
  | nil =>
    cases others with
    | nil => exact ⟨rfl,same⟩
    | cons item others => exact absurd same (last_ne h.2)
  | cons item items ih =>
    cases others with
    | nil => exact absurd same.symm (last_ne h'.2)
    | cons item' others =>
      obtain ⟨fill,a⟩ := item
      obtain ⟨fill',b⟩ := item'
      obtain ⟨hfill,ha⟩ := h.1 _ List.mem_cons_self
      obtain ⟨hfill',hb⟩ := h'.1 _ List.mem_cons_self
      obtain ⟨rest,hstart⟩ := code.starts a
      obtain ⟨rest',hstart'⟩ := code.starts b
      rw [line_cons,line_cons,hstart,hstart'] at same
      obtain ⟨rfl,hwords⟩ := fill_unique hfill hfill' same
      have hequal : code.encode a ++ code.line items last=
          code.encode b ++ code.line others other := by
        rw [hstart,hstart']
        exact congrArg (code.flag :: ·) hwords
      obtain ⟨rfl,hrest⟩ := code.delimited ha hb hequal
      obtain ⟨rfl,hlast⟩ := ih h.tail h'.tail hrest
      exact ⟨rfl,hlast⟩

end FlaggedCode
