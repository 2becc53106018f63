import Mathlib

/-! Scanners that take items from the front of a growing buffer, and their independence of the
way the input is cut into pieces. -/
namespace Scanning

/-- What one look at the buffered input finds. -/
inductive Found (α β ε : Type*)
  | wait (kept : List α)
  | fail (error : ε)
  | item (value : β) (rest : List α)

/-- What has been found, with more input behind it. -/
def Found.append {α β ε : Type*} (more : List α) : Found α β ε → Found α β ε
  | .wait kept => .wait (kept ++ more)
  | .fail error => .fail error
  | .item value rest => .item value (rest ++ more)

/-- A scanner consumes something with every item. -/
structure Scanner (α β ε : Type*) where
  scan : List α → Found α β ε
  progress : ∀ {input value rest}, scan input=.item value rest → rest.length < input.length

namespace Scanner
variable {α β ε : Type*} (S : Scanner α β ε)

/-- Scan until input is missing or an error is found: the items, and what is kept or the error. -/
def drain (input : List α) : List β × Except ε (List α) :=
  match _h : S.scan input with
  | .wait kept => ([],.ok kept)
  | .fail error => ([],.error error)
  | .item value rest => (value::(drain rest).1,(drain rest).2)
termination_by input.length
decreasing_by all_goals exact S.progress _h

/-- Scan for a number of looks; nothing when they run out first. -/
def drainWithin : ℕ → List α → Option (List β × Except ε (List α))
  | 0,_ => none
  | looks+1,input =>
    match S.scan input with
    | .wait kept => some ([],.ok kept)
    | .fail error => some ([],.error error)
    | .item value rest => (drainWithin looks rest).map fun drained => (value::drained.1,drained.2)

/-- Drain the buffer after each piece; the items of every piece and the final buffer, as long as
no error is found. -/
def drainPieces : List α → List (List α) → Option (List (List β) × List α)
  | buffer,[] => some ([],buffer)
  | buffer,piece::pieces =>
    match S.drain (buffer ++ piece) with
    | (_,.error _) => none
    | (values,.ok kept) =>
      (drainPieces kept pieces).map (fun run => (values::run.1,run.2))

/-- Drain the buffer after each piece, up to the first error: all items found so far, those before
the error included, and the error or the final buffer. -/
def drainUntilError : List α → List (List α) → List β × Except ε (List α)
  | buffer,[] => ([],.ok buffer)
  | buffer,piece::pieces =>
    match S.drain (buffer ++ piece) with
    | (values,.error error) => (values,.error error)
    | (values,.ok kept) =>
      (values ++ (drainUntilError kept pieces).1,(drainUntilError kept pieces).2)

/-- More input changes nothing that has been found, and may be given to the kept part alone. -/
structure Incremental : Prop where
  found_append : ∀ {input} (more : List α), (∀ kept, S.scan input≠.wait kept) →
    S.scan (input ++ more)=(S.scan input).append more
  wait_append : ∀ {input kept} (more : List α), S.scan input=.wait kept →
    S.scan (input ++ more)=S.scan (kept ++ more)

variable {S}

theorem drain_wait {input kept : List α} (h : S.scan input=.wait kept) :
    S.drain input=([],.ok kept) := by
  rw [drain]
  split <;> simp_all

theorem drain_fail {input : List α} {error : ε} (h : S.scan input=.fail error) :
    S.drain input=([],.error error) := by
  rw [drain]
  split <;> simp_all

theorem drain_item {input : List α} {value : β} {rest : List α}
    (h : S.scan input=.item value rest) :
    S.drain input=(value::(S.drain rest).1,(S.drain rest).2) := by
  rw [drain]
  split <;> simp_all

/-- Only the next look counts. -/
theorem drain_congr {input other : List α} (h : S.scan input=S.scan other) :
    S.drain input=S.drain other := by
  cases hs : S.scan other with
  | wait kept => rw [drain_wait hs,drain_wait (h.trans hs)]
  | fail error => rw [drain_fail hs,drain_fail (h.trans hs)]
  | item value rest => rw [drain_item hs,drain_item (h.trans hs)]

/-- One look more than there is input is enough. -/
theorem drainWithin_eq {looks : ℕ} {input : List α} (h : input.length < looks) :
    S.drainWithin looks input=some (S.drain input) := by
  induction looks generalizing input with
  | zero => exact absurd h (Nat.not_lt_zero _)
  | succ looks ih =>
    rw [drainWithin]
    cases hs : S.scan input with
    | wait kept => rw [drain_wait hs]
    | fail error => rw [drain_fail hs]
    | item value rest =>
      have hless := S.progress hs
      dsimp only
      rw [drain_item hs,ih (by omega)]
      rfl

/-- What is kept is what the last look waits with. -/
theorem exists_wait_of_drain {input kept : List α} {values : List β}
    (h : S.drain input=(values,.ok kept)) : ∃ last, S.scan last=.wait kept := by
  induction hn : input.length using Nat.strong_induction_on generalizing input values with
  | _ n ih =>
    subst hn
    cases hs : S.scan input with
    | wait kept' =>
      rw [drain_wait hs,Prod.mk.injEq,Except.ok.injEq] at h
      exact ⟨input,h.2 ▸ hs⟩
    | fail error => simp [drain_fail hs] at h
    | item value rest =>
      rw [drain_item hs,Prod.mk.injEq] at h
      exact ih _ (S.progress hs) (Prod.ext rfl h.2) rfl

namespace Incremental
variable (hS : S.Incremental)
include hS

/-- Draining longer input continues where draining its front stopped. -/
theorem drain_append (input more : List α) :
    S.drain (input ++ more)=
      match S.drain input with
      | (values,.ok kept) =>
        (values ++ (S.drain (kept ++ more)).1,(S.drain (kept ++ more)).2)
      | (values,.error error) => (values,.error error) := by
  induction hn : input.length using Nat.strong_induction_on generalizing input with
  | _ n ih =>
    subst hn
    cases hs : S.scan input with
    | wait kept =>
      rw [drain_wait hs,drain_congr (hS.wait_append more hs)]
      rfl
    | fail error =>
      have hmore : S.scan (input ++ more)=.fail error := by
        rw [hS.found_append more (by simp [hs]),hs,Found.append]
      rw [drain_fail hs,drain_fail hmore]
    | item value rest =>
      have hmore : S.scan (input ++ more)=.item value (rest ++ more) := by
        rw [hS.found_append more (by simp [hs]),hs,Found.append]
      rw [drain_item hs,drain_item hmore,ih _ (S.progress hs) rest rfl]
      rcases S.drain rest with ⟨values,error | kept⟩ <;> rfl

/-- What has been kept holds no further item. -/
theorem drain_kept {input kept : List α} {values : List β}
    (h : S.drain input=(values,.ok kept)) : S.drain kept=([],.ok kept) := by
  induction hn : input.length using Nat.strong_induction_on generalizing input values with
  | _ n ih =>
    subst hn
    cases hs : S.scan input with
    | wait kept' =>
      rw [drain_wait hs] at h
      obtain ⟨rfl,rfl⟩ : [] = values ∧ kept' = kept := by simpa using h
      have hagain := hS.wait_append [] hs
      rw [List.append_nil,List.append_nil,hs] at hagain
      exact drain_wait hagain.symm
    | fail error => simp [drain_fail hs] at h
    | item value rest =>
      rw [drain_item hs,Prod.mk.injEq] at h
      exact ih _ (S.progress hs) (Prod.ext rfl h.2) rfl

/-- Input that drains without an error drains alike in all its cuts: every piece is accepted, the
items arrive in order, and the same input is kept. -/
theorem drainPieces_flatten {buffer kept : List α} (hbuffer : S.drain buffer=([],.ok buffer))
    {values : List β} (pieces : List (List α))
    (h : S.drain (buffer ++ pieces.flatten)=(values,.ok kept)) :
    ∃ parts, S.drainPieces buffer pieces=some (parts,kept) ∧ parts.flatten=values := by
  induction pieces generalizing buffer values with
  | nil =>
    rw [List.flatten_nil,List.append_nil,hbuffer] at h
    obtain ⟨rfl,rfl⟩ : [] = values ∧ buffer = kept := by simpa using h
    exact ⟨[],rfl,rfl⟩
  | cons piece pieces ih =>
    rw [List.flatten_cons,← List.append_assoc,hS.drain_append] at h
    rcases hd : S.drain (buffer ++ piece) with ⟨first,error | next⟩
    · simp [hd] at h
    · rw [hd] at h
      obtain ⟨hfirst,hnext⟩ := Prod.mk.inj h
      obtain ⟨parts,hparts,hflatten⟩ := ih (hS.drain_kept hd) (Prod.ext rfl hnext)
      refine ⟨first::parts,?_,?_⟩
      · rw [drainPieces,hd]
        simp [hparts]
      · rw [List.flatten_cons,hflatten]
        exact hfirst

/-- All cuts of one input find the same items and end alike. -/
theorem drainUntilError_eq {buffer : List α} (hbuffer : S.drain buffer=([],.ok buffer))
    (pieces : List (List α)) :
    S.drainUntilError buffer pieces=S.drain (buffer ++ pieces.flatten) := by
  induction pieces generalizing buffer with
  | nil => rw [drainUntilError,List.flatten_nil,List.append_nil,hbuffer]
  | cons piece pieces ih =>
    rw [drainUntilError,List.flatten_cons,← List.append_assoc,hS.drain_append (buffer ++ piece)]
    rcases hd : S.drain (buffer ++ piece) with ⟨values,error | kept⟩
    · rfl
    · simp only [ih (hS.drain_kept hd)]

/-- Errors stay where they are, whatever follows. -/
theorem drain_error_append {input : List α} {values : List β} {error : ε}
    (h : S.drain input=(values,.error error)) (more : List α) :
    S.drain (input ++ more)=(values,.error error) := by
  rw [hS.drain_append,h]

/-- Input in front of input that drains without an error drains without one. -/
theorem drain_ok_front {front more kept : List α} {values : List β}
    (h : S.drain (front ++ more)=(values,.ok kept)) :
    ∃ values kept, S.drain front=(values,.ok kept) := by
  rcases hfront : S.drain front with ⟨items,error | kept⟩
  · rw [hS.drain_error_append hfront more] at h
    cases h
  · exact ⟨items,kept,rfl⟩

end Incremental

/-- The input drains into an error, and no shorter front of it does. -/
structure FailsAt (S : Scanner α β ε) (input : List α) (values : List β) (error : ε) : Prop where
  drained : S.drain input=(values,.error error)
  shortest : ∀ front, front <+: input → front≠input → ∃ values kept, S.drain front=(values,.ok kept)

/-- The kept part of its front continues to a shortest failing input. -/
theorem FailsAt.behind (hS : S.Incremental) {front tail kept : List α} {values items : List β}
    {error : ε} (h : S.FailsAt (front ++ tail) values error) (hfront : S.drain front=(items,.ok kept)) :
    ∃ more, values=items ++ more ∧ S.FailsAt (kept ++ tail) more error := by
  have hdrained := h.drained
  rw [hS.drain_append,hfront] at hdrained
  obtain ⟨hvalues,herror⟩ := Prod.mk.inj hdrained
  refine ⟨_,hvalues.symm,Prod.ext rfl herror,?_⟩
  intro other hother hne
  obtain ⟨behind,hbehind⟩ | ⟨tail',rfl⟩ := List.prefix_or_prefix_of_prefix hother
    (List.prefix_append kept tail)
  · have hkept := hS.drain_kept hfront
    rw [← hbehind] at hkept
    exact hS.drain_ok_front hkept
  · have htail : tail' <+: tail := (List.prefix_append_right_inj kept).mp hother
    have hshort : front ++ tail'≠front ++ tail := by
      intro hsame
      rw [List.append_cancel_left hsame] at hne
      exact hne rfl
    obtain ⟨values',kept',hok⟩ := h.shortest _ ((List.prefix_append_right_inj front).mpr htail) hshort
    rw [hS.drain_append,hfront] at hok
    exact ⟨_,kept',Prod.ext rfl (Prod.mk.inj hok).2⟩

/-- Items are found as soon as they are complete, and what is kept is the end of the input. -/
structure Prompt (S : Scanner α β ε) : Prop where
  empty : S.scan []=.wait []
  piece : ∀ {input value rest}, S.scan input=.item value rest →
    ∃ piece, input=piece ++ rest ∧ S.scan piece=.item value []
  kept : ∀ {input kept}, S.scan input=.wait kept → kept <:+ input

/-- Nowhere in the input an item is found. -/
def Barren (S : Scanner α β ε) (input : List α) : Prop :=
  ∀ piece, piece <:+: input → ∀ value rest, S.scan piece≠.item value rest

/-- Input that drains into an error has a shortest front that does. -/
theorem exists_failsAt (hS : S.Incremental) {input : List α} {values : List β} {error : ε}
    (h : S.drain input=(values,.error error)) :
    ∃ front rest, input=front ++ rest ∧ S.FailsAt front values error := by
  classical
  let Fails (n : ℕ) : Prop := ∃ items fault, S.drain (input.take n)=(items,.error fault)
  have hfails : ∃ n, Fails n := ⟨input.length,values,error,by rw [List.take_length,h]⟩
  obtain ⟨items,fault,hdrain⟩ := Nat.find_spec hfails
  have hsame := hS.drain_error_append hdrain (input.drop (Nat.find hfails))
  rw [List.take_append_drop,h] at hsame
  refine ⟨input.take (Nat.find hfails),input.drop (Nat.find hfails),
    (List.take_append_drop _ _).symm,hdrain.trans hsame.symm,?_⟩
  intro front hfront hne
  rcases hd : S.drain front with ⟨items,fault | kept⟩
  · have hlength : front.length < (input.take (Nat.find hfails)).length :=
      lt_of_le_of_ne hfront.length_le (mt hfront.eq_of_length hne)
    have htake : input.take front.length=front :=
      (List.prefix_iff_eq_take.mp (hfront.trans (List.take_prefix _ _))).symm
    have hnot : ¬ Fails front.length := Nat.find_min hfails (by
      rw [List.length_take] at hlength
      omega)
    exact absurd ⟨items,fault,by rw [htake,hd]⟩ hnot
  · exact ⟨items,kept,rfl⟩

namespace Prompt
variable (hP : S.Prompt)
include hP

theorem drain_nil : S.drain []=([],.ok []) := drain_wait hP.empty

/-- The items stand at the front of the input, and the rest is drained without one. -/
theorem split (hS : S.Incremental) {input : List α} {values : List β} {outcome : Except ε (List α)}
    (h : S.drain input=(values,outcome)) :
    ∃ front behind, input=front ++ behind ∧ S.drain front=(values,.ok []) ∧
      S.drain behind=([],outcome) := by
  induction hn : input.length using Nat.strong_induction_on generalizing input values with
  | _ n ih =>
    subst hn
    cases hs : S.scan input with
    | wait kept =>
      rw [drain_wait hs] at h
      obtain ⟨rfl,rfl⟩ := Prod.mk.inj h
      exact ⟨[],input,rfl,hP.drain_nil,drain_wait hs⟩
    | fail error =>
      rw [drain_fail hs] at h
      obtain ⟨rfl,rfl⟩ := Prod.mk.inj h
      exact ⟨[],input,rfl,hP.drain_nil,drain_fail hs⟩
    | item value rest =>
      rw [drain_item hs] at h
      obtain ⟨rfl,houtcome⟩ := Prod.mk.inj h
      obtain ⟨piece,rfl,hpiece⟩ := hP.piece hs
      obtain ⟨front,behind,hrest,hfront,hbehind⟩ := ih _ (S.progress hs) (Prod.ext rfl houtcome) rfl
      have hscan : S.scan (piece ++ front)=.item value front := by
        rw [hS.found_append front (by simp [hpiece]),hpiece]
        rfl
      refine ⟨piece ++ front,behind,by rw [hrest,List.append_assoc],?_,hbehind⟩
      rw [drain_item hscan,hfront]

/-- An item in front of a shortest failing input makes another one. -/
theorem failsAt_item (hS : S.Incremental) {piece front : List α} {value : β} {values : List β}
    {error : ε} (hpiece : S.scan piece=.item value []) (h : S.FailsAt front values error) :
    S.FailsAt (piece ++ front) (value::values) error := by
  have hscan (more : List α) : S.scan (piece ++ more)=.item value more := by
    rw [hS.found_append more (by simp [hpiece]),hpiece]
    rfl
  constructor
  · rw [drain_item (hscan front),h.drained]
  · intro other hother hne
    obtain ⟨behind,hbehind⟩ | ⟨front',rfl⟩ := List.prefix_or_prefix_of_prefix hother
      (List.prefix_append piece front)
    · have hdrain : S.drain piece=([value],.ok []) := by rw [drain_item hpiece,hP.drain_nil]
      rw [← hbehind] at hdrain
      exact hS.drain_ok_front hdrain
    · have hfront : front' <+: front := (List.prefix_append_right_inj piece).mp hother
      have hshort : front'≠front := fun hsame => hne (by rw [hsame])
      obtain ⟨values',kept,hok⟩ := h.shortest _ hfront hshort
      exact ⟨value::values',kept,by rw [drain_item (hscan front'),hok]⟩

/-- Without its first item, it still is one. -/
theorem failsAt_rest (hS : S.Incremental) {piece front : List α} {value : β} {values : List β}
    {error : ε} (hpiece : S.scan piece=.item value []) (h : S.FailsAt (piece ++ front) values error) :
    ∃ more, values=value::more ∧ S.FailsAt front more error := by
  have hdrain : S.drain piece=([value],.ok []) := by rw [drain_item hpiece,hP.drain_nil]
  exact h.behind hS hdrain

/-- Input without items drains into none, and what is kept is its end. -/
theorem drain_barren {input : List α} (h : S.Barren input) :
    (∃ error, S.drain input=([],.error error)) ∨
      ∃ kept, S.drain input=([],.ok kept) ∧ kept <:+ input := by
  cases hs : S.scan input with
  | wait kept => exact Or.inr ⟨kept,drain_wait hs,hP.kept hs⟩
  | fail error => exact Or.inl ⟨error,drain_fail hs⟩
  | item value rest => exact absurd hs (h input List.infix_rfl value rest)

end Prompt

theorem Barren.part {input piece : List α} (h : S.Barren input) (hpiece : piece <:+: input) :
    S.Barren piece := by
  intro other hother
  exact h other (hother.trans hpiece)

/-- Input on its way: what is buffered holds no item, and with what is still to come it drains into
the values and leaves nothing. -/
structure Transit (S : Scanner α β ε) (buffer line : List α) (values : List β) : Prop where
  settled : S.drain buffer=([],.ok buffer)
  drains : S.drain (buffer ++ line)=(values,.ok [])

namespace Transit
variable {buffer line : List α} {values : List β} (h : S.Transit buffer line values)
include h

/-- More is put on the line. -/
theorem extend (hS : S.Incremental) {more : List α} {others : List β}
    (hmore : S.drain more=(others,.ok [])) : S.Transit buffer (line ++ more) (values ++ others) := by
  refine ⟨h.settled,?_⟩
  rw [← List.append_assoc,hS.drain_append,h.drains]
  dsimp only
  rw [List.nil_append,hmore]

/-- The front of the line arrives: some of the values, and the others are still to come. -/
theorem arrive (hS : S.Incremental) {front rest : List α} (hline : line=front ++ rest) :
    ∃ arrived others kept, S.drain (buffer ++ front)=(arrived,.ok kept) ∧
      values=arrived ++ others ∧ S.Transit kept rest others := by
  have hdrains := h.drains
  rw [hline,← List.append_assoc] at hdrains
  obtain ⟨arrived,kept,hfront⟩ := hS.drain_ok_front hdrains
  rw [hS.drain_append,hfront] at hdrains
  dsimp only at hdrains
  rw [Prod.mk.injEq] at hdrains
  exact ⟨arrived,_,kept,hfront,hdrains.1.symm,hS.drain_kept hfront,Prod.ext rfl hdrains.2⟩

end Transit

end Scanner
end Scanning
