import Mathlib

/-! Groups of tag, length and value: the entries a group splits into, and what stands where the
splitting stops. -/
namespace Tlv

/-- A tag with the bytes of its value. -/
structure Entry where
  tag : UInt8
  value : List UInt8
  deriving DecidableEq, Repr

namespace Entry

/-- The value has a length from one to `maximum`. -/
def Within (maximum : ℕ) (entry : Entry) : Prop :=
  1 ≤ entry.value.length ∧ entry.value.length ≤ maximum

/-- The entry on the line. -/
def coded (entry : Entry) : List UInt8 :=
  entry.tag::UInt8.ofNat entry.value.length::entry.value

end Entry

/-- No entry starts here, although the group goes on. -/
def Malformed (maximum : ℕ) (group : List UInt8) : Prop :=
  group≠[] ∧ ∀ entry more, Entry.Within maximum entry → group≠entry.coded ++ more

/-- The first entry of a group and what follows it. -/
def read (maximum : ℕ) : List UInt8 → Option (Entry × List UInt8)
  | tag::length::rest =>
    if length.toNat=0 ∨ maximum < length.toNat ∨ rest.length < length.toNat then none
    else some (⟨tag,rest.take length.toNat⟩,rest.drop length.toNat)
  | _ => none

/-- The number a value stands for, most significant byte first. -/
def bigEndian (value : List UInt8) : ℕ := value.foldl (fun number byte => number*256+byte.toNat) 0

/-- The value of the last entry with this tag. -/
def given (default : ℕ) (tag : UInt8) (entries : List Entry) : ℕ :=
  ((entries.filter (·.tag == tag)).getLast?.map (fun entry => bigEndian entry.value)).getD default

@[simp] theorem given_nil (default : ℕ) (tag : UInt8) : given default tag []=default := rfl

/-- An occurrence replaces what was given before it. -/
theorem given_cons (default : ℕ) (tag : UInt8) (entry : Entry) (entries : List Entry) :
    given default tag (entry::entries)=
      given (if entry.tag=tag then bigEndian entry.value else default) tag entries := by
  unfold given
  by_cases htag : entry.tag=tag
  · rw [List.filter_cons_of_pos (by simp [htag]),List.getLast?_cons,if_pos htag]
    cases (entries.filter (·.tag == tag)).getLast? <;> rfl
  · rw [List.filter_cons_of_neg (by simp [htag]),if_neg htag]

variable {maximum : ℕ} {entry : Entry} {group more : List UInt8}

theorem read_coded (bound : maximum ≤ 255) (within : entry.Within maximum) :
    read maximum (entry.coded ++ more)=some (entry,more) := by
  obtain ⟨hpos,hle⟩ := within
  have hlength : (UInt8.ofNat entry.value.length).toNat=entry.value.length := by
    rw [UInt8.toNat_ofNat']
    omega
  have happend : entry.coded ++ more=
      entry.tag::UInt8.ofNat entry.value.length::(entry.value ++ more) := rfl
  rw [happend,read,hlength,if_neg (by rw [List.length_append]; omega),List.take_left,List.drop_left]

theorem coded_of_read {rest : List UInt8} (h : read maximum group=some (entry,rest)) :
    entry.Within maximum ∧ group=entry.coded ++ rest := by
  obtain _ | ⟨tag,_ | ⟨length,tail⟩⟩ := group
  · cases h
  · cases h
  rw [read] at h
  split at h
  · cases h
  rename_i hlength
  cases h
  have htake : (tail.take length.toNat).length=length.toNat := by
    rw [List.length_take]
    omega
  refine ⟨?_,?_⟩
  · unfold Entry.Within
    rw [htake]
    omega
  · simp only [Entry.coded,htake,UInt8.ofNat_toNat,List.cons_append,List.take_append_drop]

/-- Nothing can be read where no entry starts. -/
theorem read_eq_none_iff (bound : maximum ≤ 255) :
    read maximum group=none ↔ group=[] ∨ Malformed maximum group := by
  constructor
  · intro h
    by_cases hempty : group=[]
    · exact Or.inl hempty
    refine Or.inr ⟨hempty,?_⟩
    rintro entry more hwithin rfl
    rw [read_coded bound hwithin] at h
    cases h
  · rintro (rfl | ⟨_,hnone⟩)
    · rfl
    · rw [Option.eq_none_iff_forall_ne_some]
      rintro ⟨entry,more⟩ hread
      obtain ⟨hwithin,hgroup⟩ := coded_of_read hread
      exact hnone entry more hwithin hgroup

theorem coded_length_pos (entry : Entry) : 0 < entry.coded.length := Nat.succ_pos _

/-- Every group is a run of accepted entries, up to its end, to an entry that is not accepted, or
to where no entry starts. -/
theorem split (bound : maximum ≤ 255) (Accepted : UInt8 → Prop) (group : List UInt8) :
    ∃ (entries : List Entry) (rest : List UInt8),
      (∀ entry ∈ entries, entry.Within maximum ∧ Accepted entry.tag) ∧
      group=entries.flatMap Entry.coded ++ rest ∧
      (rest=[] ∨ (∃ (entry : Entry) (more : List UInt8), entry.Within maximum ∧ ¬ Accepted entry.tag ∧
        rest=entry.coded ++ more) ∨ Malformed maximum rest) := by
  induction hn : group.length using Nat.strong_induction_on generalizing group with
  | _ n ih =>
    subst hn
    cases hread : read maximum group with
    | none =>
      refine ⟨[],group,by simp,rfl,?_⟩
      exact ((read_eq_none_iff bound).mp hread).imp_right Or.inr
    | some found =>
      obtain ⟨entry,more⟩ := found
      obtain ⟨hwithin,rfl⟩ := coded_of_read hread
      by_cases haccepted : Accepted entry.tag
      · have hshorter : more.length < (entry.coded ++ more).length := by
          rw [List.length_append]
          have hpos := coded_length_pos entry
          omega
        obtain ⟨entries,rest,hentries,rfl,hrest⟩ := ih _ hshorter more rfl
        refine ⟨entry::entries,rest,?_,by simp,hrest⟩
        intro other hmem
        rcases List.mem_cons.mp hmem with rfl | hmem
        · exact ⟨hwithin,haccepted⟩
        · exact hentries other hmem
      · exact ⟨[],_,by simp,rfl,Or.inr (Or.inl ⟨entry,more,hwithin,haccepted,rfl⟩)⟩

end Tlv
