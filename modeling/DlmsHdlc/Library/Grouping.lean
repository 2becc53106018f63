import DlmsHdlc.Library.Machine

/-! Cutting a stream into groups: elements are held while each announces another one, the first
that announces none completes its group, and one that cannot be held with them breaks it. -/
namespace Grouping
open Machine

/-- Which elements announce another one, and which runs of elements may stand in one group. -/
structure Rule (α : Type*) where
  more : α → Bool
  Fits : List α → Prop
  [decidable : DecidablePred Fits]
  fits_nil : Fits []
  fits_left : ∀ {xs ys}, Fits (xs ++ ys) → Fits xs

attribute [instance] Rule.decidable

inductive Group (α : Type*)
  | completed (segments : List α) (last : α)
  | broken (segments : List α) (breaker : α)
  | unfinished (segments : List α)
  deriving DecidableEq, Repr

/-- What a machine says while it holds elements, and at the two ends of a group. -/
structure Answers (α ο : Type*) where
  wait : ο
  complete : List α → ο
  fail : List α → α → ο

namespace Group
variable {α ο : Type*}

def elements : Group α → List α
  | completed segments last => segments ++ [last]
  | broken segments breaker => segments ++ [breaker]
  | unfinished segments => segments

/-- One answer for each element of the group. -/
def results (answers : Answers α ο) : Group α → List ο
  | completed segments last =>
    List.replicate segments.length answers.wait ++ [answers.complete (segments ++ [last])]
  | broken segments breaker =>
    List.replicate segments.length answers.wait ++ [answers.fail segments breaker]
  | unfinished segments => List.replicate segments.length answers.wait

def Finished : Group α → Prop
  | unfinished _ => False
  | _ => True

/-- The group is one that the rule makes: as long as possible, and no longer. -/
def Valid (rule : Rule α) : Group α → Prop
  | completed segments last =>
    (∀ x ∈ segments, rule.more x=true) ∧ rule.more last=false ∧ rule.Fits (segments ++ [last])
  | broken segments breaker =>
    (∀ x ∈ segments, rule.more x=true) ∧ rule.Fits segments ∧ ¬ rule.Fits (segments ++ [breaker])
  | unfinished segments =>
    segments≠[] ∧ (∀ x ∈ segments, rule.more x=true) ∧ rule.Fits segments

theorem length_results (answers : Answers α ο) (group : Group α) :
    (group.results answers).length=group.elements.length := by
  cases group <;> simp [results,elements]

end Group

namespace Rule
variable {α ο : Type*} (rule : Rule α) (answers : Answers α ο) {xs ys : List α} {x : α}

/-- The stream falls into these groups: every one is valid, only the last may be unfinished. -/
inductive Groups : List α → List (Group α) → Prop
  | nil : Groups [] []
  | unfinished {segments : List α} (valid : (Group.unfinished segments).Valid rule) :
      Groups segments [.unfinished segments]
  | cons {group : Group α} {xs : List α} {groups : List (Group α)} (valid : group.Valid rule)
      (finished : group.Finished) (rest : Groups xs groups) :
      Groups (group.elements ++ xs) (group::groups)

/-- The elements held so far decide about the next one. -/
def machine : Mealy (List α) α ο where
  step held x :=
    if rule.Fits (held ++ [x]) then
      if rule.more x then (answers.wait,held ++ [x]) else (answers.complete (held ++ [x]),[])
    else (answers.fail held x,[])

/-- After a step the held elements fit together. -/
theorem machine_fits (held : List α) (x : α) :
    rule.Fits ((rule.machine answers).step held x).2 := by
  simp only [machine]
  split
  · rename_i hnext
    split
    · exact hnext
    · exact rule.fits_nil
  · exact rule.fits_nil

/-- The groups of a stream that follows the held elements. -/
def split : List α → List α → List (Group α)
  | held,[] => if held.isEmpty then [] else [.unfinished held]
  | held,x::xs =>
    if rule.Fits (held ++ [x]) then
      if rule.more x then split (held ++ [x]) xs else .completed held x :: split [] xs
    else .broken held x :: split [] xs

variable {rule} in
theorem Groups.flatMap_elements {groups : List (Group α)} (h : rule.Groups xs groups) :
    groups.flatMap Group.elements=xs := by
  induction h with
  | nil => rfl
  | unfinished valid => simp [Group.elements]
  | cons valid finished rest ih => rw [List.flatMap_cons,ih]

/-- Cutting gives a grouping. -/
theorem groups_split (held xs : List α) (hmore : ∀ x ∈ held, rule.more x=true)
    (hfits : rule.Fits held) : rule.Groups (held ++ xs) (rule.split held xs) := by
  induction xs generalizing held with
  | nil =>
    rw [split,List.append_nil]
    split
    · rename_i hempty
      rw [List.isEmpty_iff.mp hempty]
      exact .nil
    · rename_i hnonempty
      apply Groups.unfinished
      exact ⟨mt List.isEmpty_iff.mpr hnonempty,hmore,hfits⟩
  | cons x xs ih =>
    have hrest := ih [] (by simp) rule.fits_nil
    rw [List.nil_append] at hrest
    rw [split,List.append_cons]
    split
    · rename_i hnext
      split
      · rename_i hx
        apply ih
        · intro y hy
          rw [List.mem_append,List.mem_singleton] at hy
          obtain hy | rfl := hy
          · exact hmore y hy
          · exact hx
        · exact hnext
      · rename_i hx
        have hvalid : (Group.completed held x).Valid rule :=
          ⟨hmore,eq_false_of_ne_true hx,hnext⟩
        exact Groups.cons hvalid trivial hrest
    · rename_i hnext
      have hvalid : (Group.broken held x).Valid rule := ⟨hmore,hfits,hnext⟩
      exact Groups.cons hvalid trivial hrest

/-- Elements that announce another one and fit are moved to the held ones. -/
theorem split_append (held segments xs : List α) (hmore : ∀ x ∈ segments, rule.more x=true)
    (hfits : rule.Fits (held ++ segments)) :
    rule.split held (segments ++ xs)=rule.split (held ++ segments) xs := by
  induction segments generalizing held with
  | nil => simp
  | cons x segments ih =>
    rw [List.append_cons] at hfits ⊢
    have hrest := ih (held ++ [x]) (fun y hy => hmore y (List.mem_cons_of_mem x hy)) hfits
    rw [List.cons_append,split,if_pos (rule.fits_left hfits),if_pos (hmore x List.mem_cons_self),
      hrest]

/-- A finished group is cut off first. -/
theorem split_group {group : Group α} (hvalid : group.Valid rule) (hfinished : group.Finished)
    (xs : List α) : rule.split [] (group.elements ++ xs)=group :: rule.split [] xs := by
  cases group with
  | completed segments last =>
    obtain ⟨hmore,hlast,hfits⟩ := hvalid
    have hsegments := rule.fits_left hfits
    rw [Group.elements,List.append_assoc,rule.split_append [] segments _ hmore hsegments,
      List.nil_append,List.singleton_append,split,if_pos hfits,if_neg (by simp [hlast])]
  | broken segments breaker =>
    obtain ⟨hmore,hsegments,hbroken⟩ := hvalid
    rw [Group.elements,List.append_assoc,rule.split_append [] segments _ hmore hsegments,
      List.nil_append,List.singleton_append,split,if_neg hbroken]
  | unfinished segments => cases hfinished

/-- A stream has one grouping. -/
theorem Groups.eq_split {groups : List (Group α)} (h : rule.Groups xs groups) :
    groups=rule.split [] xs := by
  induction h with
  | nil => rfl
  | @unfinished segments valid =>
    obtain ⟨hnonempty,hmore,hfits⟩ := valid
    have happend := rule.split_append [] segments [] hmore hfits
    rw [List.append_nil,List.nil_append] at happend
    rw [happend,split,if_neg (mt List.isEmpty_iff.mp hnonempty)]
  | cons valid finished rest ih => rw [rule.split_group valid finished,ih]

/-- The machine answers a stream group by group. -/
theorem outputs_split (held xs : List α) :
    List.replicate held.length answers.wait ++ (rule.machine answers).outputs held xs=
      (rule.split held xs).flatMap (Group.results answers) := by
  induction xs generalizing held with
  | nil =>
    rw [split,Mealy.outputs_nil,List.append_nil]
    split
    · rename_i hempty
      rw [List.isEmpty_iff.mp hempty]
      rfl
    · simp [Group.results]
  | cons x xs ih =>
    have hidle := ih []
    rw [List.length_nil,List.replicate_zero,List.nil_append] at hidle
    have hwait := ih (held ++ [x])
    rw [List.length_append,List.length_singleton,List.replicate_succ',List.append_assoc,
      List.singleton_append] at hwait
    rw [Mealy.outputs_cons,machine,split]
    dsimp only
    split
    · split
      · exact hwait
      · rw [List.flatMap_cons,Group.results,List.append_assoc,List.singleton_append,← hidle]
        rfl
    · rw [List.flatMap_cons,Group.results,List.append_assoc,List.singleton_append,← hidle]
      rfl

/-- Elements that announce another one and fit are all held. -/
theorem final_segments (held segments : List α) (hmore : ∀ x ∈ segments, rule.more x=true)
    (hfits : rule.Fits (held ++ segments)) :
    (rule.machine answers).final held segments=held ++ segments := by
  induction segments generalizing held with
  | nil => simp
  | cons x segments ih =>
    rw [List.append_cons] at hfits ⊢
    have hrest := ih (held ++ [x]) (fun y hy => hmore y (List.mem_cons_of_mem x hy)) hfits
    rw [Mealy.final_cons,← hrest]
    simp only [machine,if_pos (rule.fits_left hfits),if_pos (hmore x List.mem_cons_self)]

/-- A finished group leaves nothing held. -/
theorem final_group {group : Group α} (hvalid : group.Valid rule) (hfinished : group.Finished) :
    (rule.machine answers).final [] group.elements=[] := by
  cases group with
  | completed segments last =>
    obtain ⟨hmore,hlast,hfits⟩ := hvalid
    have hsegments := rule.final_segments answers [] segments hmore (rule.fits_left hfits)
    rw [Group.elements,Mealy.final_append,hsegments]
    simp [machine,hfits,hlast]
  | broken segments breaker =>
    obtain ⟨hmore,hsegments,hbroken⟩ := hvalid
    have hheld := rule.final_segments answers [] segments hmore hsegments
    rw [Group.elements,Mealy.final_append,hheld]
    simp [machine,hbroken]
  | unfinished segments => cases hfinished

/-- No element of the finished groups in front of a grouping is still held behind them. -/
theorem Groups.final_finished {groups : List (Group α)} (h : rule.Groups xs groups)
    {closed rest : List (Group α)} (hgroups : groups=closed ++ rest)
    (hclosed : ∀ group ∈ closed, group.Finished) :
    (rule.machine answers).final [] (closed.flatMap Group.elements)=[] := by
  induction h generalizing closed with
  | nil =>
    obtain ⟨rfl,_⟩ := List.append_eq_nil_iff.mp hgroups.symm
    rfl
  | unfinished valid =>
    cases closed with
    | nil => rfl
    | cons group closed =>
      obtain ⟨rfl,_⟩ := List.cons.inj hgroups
      cases hclosed _ List.mem_cons_self
  | cons valid finished rest ih =>
    cases closed with
    | nil => rfl
    | cons group closed =>
      obtain ⟨rfl,htail⟩ := List.cons.inj hgroups
      rw [List.flatMap_cons,Mealy.final_append,rule.final_group answers valid finished]
      apply ih htail
      intro group hgroup
      exact hclosed group (List.mem_cons_of_mem _ hgroup)

end Rule
end Grouping
