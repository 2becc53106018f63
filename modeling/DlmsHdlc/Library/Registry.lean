import DlmsHdlc.Library.Machine

/-! Objects of several kinds behind records in allocated memory: a record holds the number of an
object in a shared table. Several threads make, use and destroy objects; a call looks its object up
in one step and acts on it in a later one. Addresses are used again once they are free, and numbers
once their counter wraps. To threads that keep the rules every object is alone, as long as no number
is given out twice. -/
namespace Registry
open Machine

/-- How the objects of a kind are made and how they answer, what their maker gets for an address or
for none, and what a call without an object answers. -/
structure Kinds (K κ : Type*) (γ σ ι : K → Type*) (ω : Type*) where
  make : (k : K) → γ k → σ k
  created : K → Option κ → ω
  object : (k : K) → Mealy (σ k) (ι k) ω
  missing : (k : K) → ι k → ω

/-- The steps of a thread: to begin a call and to end it. An allocation gives an address or fails. -/
inductive Action {K : Type*} (γ ι : K → Type*) (κ : Type*)
  | create (k : K) (parameter : γ k)
  | created (address : Option κ)
  | call (k : K) (address : κ) (input : ι k)
  | answer
  | destroy (k : K) (address : κ)
  | destroyed

/-- What a thread is in the middle of, by number. -/
inductive Pending {K : Type*} (ι : K → Type*) (κ ν : Type*)
  | idle
  | creating (k : K) (id : ν)
  | calling (k : K) (id : Option ν) (input : ι k)
  | destroying (address : κ)

/-- The number of the next object, the numbers that are listed, the objects by number, the records
by address, and the threads. -/
structure Table {K : Type*} (σ ι : K → Type*) (κ ν τ : Type*) where
  next : ν
  listed : K → ν → Bool
  objects : (k : K) → ν → Option (σ k)
  records : κ → Option ν
  pending : τ → Pending ι κ ν

/-- What a thread is in the middle of, by address. -/
inductive Claim {K : Type*} (γ ι : K → Type*) (κ : Type*)
  | idle
  | creating (k : K) (parameter : γ k)
  | calling (k : K) (address : κ) (input : ι k)
  | destroying (k : K) (address : κ)

/-- The address that is called or destroyed, with the kind of its object. -/
def Claim.target {K : Type*} {γ ι : K → Type*} {κ : Type*} : Claim γ ι κ → Option (K × κ)
  | .calling k address _ => some (k,address)
  | .destroying k address => some (k,address)
  | _ => none

/-- The live addresses, each with how its object was made and all that has gone into it. -/
structure Ledger {K : Type*} (γ ι : K → Type*) (κ τ : Type*) where
  leases : (k : K) → κ → Option (γ k × List (ι k))
  claims : τ → Claim γ ι κ

/-- A call that makes an object. -/
def Action.creates {K : Type*} {γ ι : K → Type*} {κ : Type*} : Action γ ι κ → Bool
  | .create _ _ => true
  | _ => false

/-- How many objects a run makes, or tries to. -/
def creations {K τ : Type*} {γ ι : K → Type*} {κ : Type*} (xs : List (τ × Action γ ι κ)) : ℕ :=
  xs.countP fun x => x.2.creates

/-- The numbers in the order in which the counter gives them out, from one on. -/
def number (ν : Type*) [One ν] [Add ν] : ℕ → ν
  | 0 => 1
  | count+1 => number ν count+1

variable {K κ ν τ ω : Type*} {γ σ ι : K → Type*}

/-! Entries of a table of tables. -/

section Entries
variable {α : Type*} {β : K → Type*} [DecidableEq K] [DecidableEq α] (f : (k : K) → α → β k)

theorem update_entry_self (k : K) (a : α) (value : β k) :
    Function.update f k (Function.update (f k) a value) k a=value := by
  rw [Function.update_self,Function.update_self]

theorem update_entry_of_ne {k k' : K} {a a' : α} (value : β k) (h : k'=k → a'≠a) :
    Function.update f k (Function.update (f k) a value) k' a'=f k' a' := by
  by_cases hk : k'=k
  · subst hk
    rw [Function.update_self,Function.update_of_ne (h rfl)]
  · rw [Function.update_of_ne hk]

end Entries

namespace Table

def start [One ν] : Table σ ι κ ν τ :=
  ⟨1,fun _ _ => false,fun _ _ => none,fun _ => none,fun _ => .idle⟩

section Parts
variable (table : Table σ ι κ ν τ)

def list [DecidableEq K] [DecidableEq ν] (k : K) (id : ν) (value : Bool) : Table σ ι κ ν τ :=
  { table with listed := Function.update table.listed k (Function.update (table.listed k) id value) }

def store [DecidableEq K] [DecidableEq ν] (k : K) (id : ν) (object : σ k) : Table σ ι κ ν τ :=
  { table with
    objects := Function.update table.objects k (Function.update (table.objects k) id object) }

def record [DecidableEq κ] (address : κ) (id : Option ν) : Table σ ι κ ν τ :=
  { table with records := Function.update table.records address id }

def await [DecidableEq τ] (thread : τ) (pending : Pending ι κ ν) : Table σ ι κ ν τ :=
  { table with pending := Function.update table.pending thread pending }

def advance [One ν] [Add ν] : Table σ ι κ ν τ := { table with next := table.next+1 }

/-- An object under the next number. -/
def enroll [DecidableEq K] [DecidableEq ν] [One ν] [Add ν] (k : K) (object : σ k) :
    Table σ ι κ ν τ :=
  ((table.list k table.next true).store k table.next object).advance

/-- The object of a listed number. -/
def lookup (k : K) (id : ν) : Option ν := if table.listed k id then some id else none

end Parts

section Steps
variable [DecidableEq K] [DecidableEq κ] [DecidableEq ν] [DecidableEq τ] [One ν] [Add ν]

/-- A step that does not continue what the thread is in the middle of does nothing. -/
def step (kinds : Kinds K κ γ σ ι ω) (table : Table σ ι κ ν τ) :
    τ × Action γ ι κ → Option ω × Table σ ι κ ν τ
  | (thread,.create k parameter) =>
    (none,(table.enroll k (kinds.make k parameter)).await thread (.creating k table.next))
  | (thread,.created address) =>
    match table.pending thread,address with
    | .creating k id,some address =>
      (some (kinds.created k (some address)),(table.record address (some id)).await thread .idle)
    | .creating k id,none =>
      (some (kinds.created k none),(table.list k id false).await thread .idle)
    | _,_ => (none,table)
  | (thread,.call k address input) =>
    (none,table.await thread (.calling k ((table.records address).bind (table.lookup k)) input))
  | (thread,.answer) =>
    match table.pending thread with
    | .calling k id input =>
      match id.bind fun id => (table.objects k id).map fun object => (id,object) with
      | none => (some (kinds.missing k input),table.await thread .idle)
      | some (id,object) =>
        let (output,object) := (kinds.object k).step object input
        (some output,(table.store k id object).await thread .idle)
    | _ => (none,table)
  | (thread,.destroy k address) =>
    match table.records address with
    | none => (none,table.await thread (.destroying address))
    | some id => (none,(table.list k id false).await thread (.destroying address))
  | (thread,.destroyed) =>
    match table.pending thread with
    | .destroying address => (none,(table.record address none).await thread .idle)
    | _ => (none,table)

def machine (kinds : Kinds K κ γ σ ι ω) : Mealy (Table σ ι κ ν τ) (τ × Action γ ι κ) (Option ω) :=
  ⟨step kinds⟩

end Steps

section Numbered
variable [DecidableEq K] [DecidableEq ν] (table : Table σ ι κ ν τ) (k : K) (id : ν) (value : Bool)
  (object : σ k)

@[simp] theorem list_next : (table.list k id value).next=table.next := rfl
@[simp] theorem list_objects : (table.list k id value).objects=table.objects := rfl
@[simp] theorem list_records : (table.list k id value).records=table.records := rfl
@[simp] theorem list_pending : (table.list k id value).pending=table.pending := rfl
@[simp] theorem store_next : (table.store k id object).next=table.next := rfl
@[simp] theorem store_listed : (table.store k id object).listed=table.listed := rfl
@[simp] theorem store_records : (table.store k id object).records=table.records := rfl
@[simp] theorem store_pending : (table.store k id object).pending=table.pending := rfl

@[simp] theorem list_listed_self : (table.list k id value).listed k id=value :=
  update_entry_self ..

@[simp] theorem store_objects_self : (table.store k id object).objects k id=some object :=
  update_entry_self ..

variable {k id}

theorem list_listed_of_ne {k' : K} {id' : ν} (h : k'=k → id'≠id) :
    (table.list k id value).listed k' id'=table.listed k' id' := update_entry_of_ne _ _ h

theorem store_objects_of_ne {k' : K} {id' : ν} (h : k'=k → id'≠id) :
    (table.store k id object).objects k' id'=table.objects k' id' := update_entry_of_ne _ _ h

theorem store_of_stored {object : σ k} (h : table.objects k id=some object) :
    table.store k id object=table := by
  rw [store,← h,Function.update_eq_self,Function.update_eq_self]

end Numbered

section Recorded
variable [DecidableEq κ] (table : Table σ ι κ ν τ) (address : κ) (entry : Option ν)

@[simp] theorem record_next : (table.record address entry).next=table.next := rfl
@[simp] theorem record_listed : (table.record address entry).listed=table.listed := rfl
@[simp] theorem record_objects : (table.record address entry).objects=table.objects := rfl
@[simp] theorem record_pending : (table.record address entry).pending=table.pending := rfl

@[simp] theorem record_records_self : (table.record address entry).records address=entry :=
  Function.update_self ..

variable {address}

theorem record_records_of_ne {other : κ} (h : other≠address) :
    (table.record address entry).records other=table.records other := Function.update_of_ne h ..

end Recorded

section Awaited
variable [DecidableEq τ] (table : Table σ ι κ ν τ) (thread : τ) (pending : Pending ι κ ν)

@[simp] theorem await_next : (table.await thread pending).next=table.next := rfl
@[simp] theorem await_listed : (table.await thread pending).listed=table.listed := rfl
@[simp] theorem await_objects : (table.await thread pending).objects=table.objects := rfl
@[simp] theorem await_records : (table.await thread pending).records=table.records := rfl

@[simp] theorem await_pending_self : (table.await thread pending).pending thread=pending :=
  Function.update_self ..

variable {thread}

theorem await_pending_of_ne {other : τ} (h : other≠thread) :
    (table.await thread pending).pending other=table.pending other := Function.update_of_ne h ..

end Awaited

section Advanced
variable [One ν] [Add ν] (table : Table σ ι κ ν τ)

@[simp] theorem advance_next : table.advance.next=table.next+1 := rfl
@[simp] theorem advance_listed : table.advance.listed=table.listed := rfl
@[simp] theorem advance_objects : table.advance.objects=table.objects := rfl
@[simp] theorem advance_records : table.advance.records=table.records := rfl
@[simp] theorem advance_pending : table.advance.pending=table.pending := rfl

end Advanced
end Table

namespace Ledger

def start : Ledger γ ι κ τ := ⟨fun _ _ => none,fun _ => .idle⟩

def lease [DecidableEq K] [DecidableEq κ] (ledger : Ledger γ ι κ τ) (k : K) (address : κ)
    (entry : Option (γ k × List (ι k))) : Ledger γ ι κ τ :=
  { ledger with
    leases := Function.update ledger.leases k (Function.update (ledger.leases k) address entry) }

def claim [DecidableEq τ] (ledger : Ledger γ ι κ τ) (thread : τ) (claim : Claim γ ι κ) :
    Ledger γ ι κ τ :=
  { ledger with claims := Function.update ledger.claims thread claim }

section Steps
variable [DecidableEq K] [DecidableEq κ] [DecidableEq τ]

/-- An object by itself answers what has gone into it and nothing else. -/
def step (kinds : Kinds K κ γ σ ι ω) (ledger : Ledger γ ι κ τ) :
    τ × Action γ ι κ → Option ω × Ledger γ ι κ τ
  | (thread,.create k parameter) => (none,ledger.claim thread (.creating k parameter))
  | (thread,.created address) =>
    match ledger.claims thread,address with
    | .creating k parameter,some address =>
      (some (kinds.created k (some address)),
        (ledger.lease k address (some (parameter,[]))).claim thread .idle)
    | .creating k _,none => (some (kinds.created k none),ledger.claim thread .idle)
    | _,_ => (none,ledger)
  | (thread,.call k address input) => (none,ledger.claim thread (.calling k address input))
  | (thread,.answer) =>
    match ledger.claims thread with
    | .calling k address input =>
      match ledger.leases k address with
      | none => (some (kinds.missing k input),ledger.claim thread .idle)
      | some (parameter,inputs) =>
        (some ((kinds.object k).step ((kinds.object k).final (kinds.make k parameter) inputs) input).1,
          (ledger.lease k address (some (parameter,inputs ++ [input]))).claim thread .idle)
    | _ => (none,ledger)
  | (thread,.destroy k address) => (none,ledger.claim thread (.destroying k address))
  | (thread,.destroyed) =>
    match ledger.claims thread with
    | .destroying k address => (none,(ledger.lease k address none).claim thread .idle)
    | _ => (none,ledger)

def machine (kinds : Kinds K κ γ σ ι ω) : Mealy (Ledger γ ι κ τ) (τ × Action γ ι κ) (Option ω) :=
  ⟨step kinds⟩

end Steps

section Leased
variable [DecidableEq K] [DecidableEq κ] (ledger : Ledger γ ι κ τ) {k : K} {address : κ}
  (entry : Option (γ k × List (ι k)))

@[simp] theorem lease_claims : (ledger.lease k address entry).claims=ledger.claims := rfl

@[simp] theorem lease_leases_self : (ledger.lease k address entry).leases k address=entry :=
  update_entry_self ..

theorem lease_leases_of_ne {k' : K} {address' : κ} (h : k'=k → address'≠address) :
    (ledger.lease k address entry).leases k' address'=ledger.leases k' address' :=
  update_entry_of_ne _ _ h

end Leased

section Claimed
variable [DecidableEq τ] (ledger : Ledger γ ι κ τ) {thread : τ} (claim : Claim γ ι κ)

@[simp] theorem claim_leases : (ledger.claim thread claim).leases=ledger.leases := rfl

@[simp] theorem claim_claims_self : (ledger.claim thread claim).claims thread=claim :=
  Function.update_self ..

theorem claim_claims_of_ne {other : τ} (h : other≠thread) :
    (ledger.claim thread claim).claims other=ledger.claims other := Function.update_of_ne h ..

end Claimed

/-- What the thread calls or destroys. -/
def held (ledger : Ledger γ ι κ τ) (thread : τ) : Option (K × κ) := (ledger.claims thread).target

/-- A thread begins one call at a time, on an address of the right kind that lives and that no
thread holds; and the memory that an allocation gives is free. -/
def Allows (ledger : Ledger γ ι κ τ) : τ × Action γ ι κ → Prop
  | (thread,.create _ _) => ledger.claims thread=.idle
  | (_,.created (some address)) => ∀ k, ledger.leases k address=none
  | (thread,.call k address _) => ledger.claims thread=.idle ∧ ledger.leases k address≠none ∧
    ∀ other k', ledger.held other≠some (k',address)
  | (thread,.destroy k address) => ledger.claims thread=.idle ∧ ledger.leases k address≠none ∧
    ∀ other k', ledger.held other≠some (k',address)
  | _ => True

instance (claim : Claim γ ι κ) : Decidable (claim=.idle) :=
  match claim with
  | .idle => .isTrue rfl
  | .creating _ _ => .isFalse nofun
  | .calling _ _ _ => .isFalse nofun
  | .destroying _ _ => .isFalse nofun

instance [DecidableEq K] [DecidableEq κ] [Fintype K] [Fintype τ] (ledger : Ledger γ ι κ τ) :
    (x : τ × Action γ ι κ) → Decidable (ledger.Allows x)
  | (thread,.create _ _) => inferInstanceAs (Decidable (ledger.claims thread=.idle))
  | (_,.created (some address)) => inferInstanceAs (Decidable (∀ k, ledger.leases k address=none))
  | (thread,.call k address _) => inferInstanceAs (Decidable (ledger.claims thread=.idle ∧
    ledger.leases k address≠none ∧ ∀ other k', ledger.held other≠some (k',address)))
  | (thread,.destroy k address) => inferInstanceAs (Decidable (ledger.claims thread=.idle ∧
    ledger.leases k address≠none ∧ ∀ other k', ledger.held other≠some (k',address)))
  | (_,.created none) => .isTrue trivial
  | (_,.answer) => .isTrue trivial
  | (_,.destroyed) => .isTrue trivial

/-- A live address has one kind, and what is held lives and is held by one thread. -/
structure Sound (ledger : Ledger γ ι κ τ) : Prop where
  single : ∀ k k' address, ledger.leases k address≠none → ledger.leases k' address≠none → k=k'
  exclusive : ∀ thread other k k' address, ledger.held thread=some (k,address) →
    ledger.held other=some (k',address) → thread=other
  held : ∀ thread k address, ledger.held thread=some (k,address) → ledger.leases k address≠none

section Rules
variable {ledger : Ledger γ ι κ τ}

section Claims
variable [DecidableEq τ]

theorem held_claim (thread other : τ) (claim : Claim γ ι κ) :
    (ledger.claim thread claim).held other=
      if other=thread then claim.target else ledger.held other := by
  unfold held
  by_cases h : other=thread
  · rw [h,claim_claims_self,if_pos rfl]
  · rw [claim_claims_of_ne _ _ h,if_neg h]

/-- A thread lets go, or goes on to what it may not call. -/
theorem Sound.claim (h : ledger.Sound) (thread : τ) {claim : Claim γ ι κ} (none : claim.target=none) :
    (ledger.claim thread claim).Sound where
  single := h.single
  exclusive first second k k' address hfirst hsecond := by
    rw [held_claim,none] at hfirst hsecond
    split at hfirst
    · cases hfirst
    split at hsecond
    · cases hsecond
    exact h.exclusive first second k k' address hfirst hsecond
  held other k address hother := by
    rw [held_claim,none] at hother
    split at hother
    · cases hother
    · exact h.held other k address hother

/-- A thread takes hold of an address that no thread holds. -/
theorem Sound.hold (h : ledger.Sound) (thread : τ) {claim : Claim γ ι κ} {k : K} {address : κ}
    (target : claim.target=some (k,address)) (live : ledger.leases k address≠none)
    (free : ∀ other k', ledger.held other≠some (k',address)) : (ledger.claim thread claim).Sound where
  single := h.single
  exclusive first second k₁ k₂ address' hfirst hsecond := by
    rw [held_claim,target] at hfirst hsecond
    split at hfirst
    · rename_i hthread
      cases hfirst
      split at hsecond
      · rename_i hthread'
        rw [hthread,hthread']
      · exact absurd hsecond (free second k₂)
    · split at hsecond
      · cases hsecond
        exact absurd hfirst (free first k₁)
      · exact h.exclusive first second k₁ k₂ address' hfirst hsecond
  held other k' address' hother := by
    rw [held_claim,target] at hother
    split at hother
    · cases hother
      exact live
    · exact h.held other k' address' hother

end Claims

section Leases
variable [DecidableEq K] [DecidableEq κ]

/-- An address that no object had gets one. -/
theorem Sound.enter (h : ledger.Sound) {k : K} {address : κ} (entry : γ k × List (ι k))
    (free : ∀ k, ledger.leases k address=none) : (ledger.lease k address (some entry)).Sound where
  single k₁ k₂ address' h₁ h₂ := by
    have hkind : ∀ k', (ledger.lease k address (some entry)).leases k' address≠none → k'=k := by
      intro k' hk'
      by_contra hne
      apply hk'
      exact (ledger.lease_leases_of_ne _ (absurd · hne)).trans (free k')
    by_cases ha : address'=address
    · subst ha
      rw [hkind k₁ h₁,hkind k₂ h₂]
    · rw [lease_leases_of_ne _ _ fun _ => ha] at h₁ h₂
      exact h.single k₁ k₂ address' h₁ h₂
  exclusive := h.exclusive
  held other k' address' hother := by
    have hlive := h.held other k' address' hother
    have ha : address'≠address := by
      rintro rfl
      exact hlive (free k')
    rw [lease_leases_of_ne _ _ fun _ => ha]
    exact hlive

/-- An object that lives takes an input. -/
theorem Sound.renew (h : ledger.Sound) {k : K} {address : κ} (entry : γ k × List (ι k))
    (live : ledger.leases k address≠none) : (ledger.lease k address (some entry)).Sound := by
  have hsame : ∀ k' address', (ledger.lease k address (some entry)).leases k' address'≠none ↔
      ledger.leases k' address'≠none := by
    intro k' address'
    by_cases hk : k'=k
    · subst hk
      by_cases ha : address'=address
      · subst ha
        rw [lease_leases_self]
        exact ⟨fun _ => live,fun _ => Option.some_ne_none _⟩
      · rw [lease_leases_of_ne _ _ fun _ => ha]
    · rw [lease_leases_of_ne _ _ (absurd · hk)]
  constructor
  · intro k₁ k₂ address' h₁ h₂
    exact h.single k₁ k₂ address' ((hsame k₁ address').mp h₁) ((hsame k₂ address').mp h₂)
  · exact h.exclusive
  · intro other k' address' hother
    exact (hsame k' address').mpr (h.held other k' address' hother)

end Leases

variable [DecidableEq K] [DecidableEq κ] [DecidableEq τ]

/-- The thread that holds an address gives it back. -/
theorem Sound.leave (h : ledger.Sound) {thread : τ} {k : K} {address : κ}
    (holds : ledger.held thread=some (k,address)) :
    ((ledger.lease k address none).claim thread .idle).Sound := by
  have hle : ∀ k' address', (ledger.lease k address none).leases k' address'≠none →
      ledger.leases k' address'≠none := by
    intro k' address' hlive
    by_cases hk : k'=k
    · subst hk
      by_cases ha : address'=address
      · subst ha
        rw [lease_leases_self] at hlive
        exact absurd rfl hlive
      · rwa [lease_leases_of_ne _ _ fun _ => ha] at hlive
    · rwa [lease_leases_of_ne _ _ (absurd · hk)] at hlive
  have hheld : ∀ other, (ledger.lease k address none).held other=ledger.held other := fun _ => rfl
  constructor
  · intro k₁ k₂ address' h₁ h₂
    exact h.single k₁ k₂ address' (hle k₁ address' h₁) (hle k₂ address' h₂)
  · intro first second k₁ k₂ address' hfirst hsecond
    rw [held_claim] at hfirst hsecond
    split at hfirst
    · cases hfirst
    split at hsecond
    · cases hsecond
    exact h.exclusive first second k₁ k₂ address' hfirst hsecond
  · intro other k' address' hother
    rw [held_claim] at hother
    split at hother
    · cases hother
    rename_i hne
    have ha : address'≠address := by
      rintro rfl
      exact hne (h.exclusive other thread k' k address' hother holds)
    have hlive := h.held other k' address' hother
    rwa [claim_leases,lease_leases_of_ne _ _ fun _ => ha]

/-- The rules keep the ledger sound. -/
theorem Sound.step (h : ledger.Sound) (kinds : Kinds K κ γ σ ι ω) {x : τ × Action γ ι κ}
    (allows : ledger.Allows x) : (ledger.step kinds x).2.Sound := by
  obtain ⟨thread,action⟩ := x
  cases action with
  | create k parameter => exact h.claim thread rfl
  | call k address input => exact h.hold thread rfl allows.2.1 allows.2.2
  | destroy k address => exact h.hold thread rfl allows.2.1 allows.2.2
  | created address =>
    unfold Ledger.step
    dsimp only
    split
    · exact (h.enter _ allows).claim thread rfl
    · exact h.claim thread rfl
    · exact h
  | answer =>
    unfold Ledger.step
    dsimp only
    split
    · split
      · exact h.claim thread rfl
      · rename_i hlease
        exact (h.renew _ (by rw [hlease]; exact Option.some_ne_none _)).claim thread rfl
    · exact h
  | destroyed =>
    unfold Ledger.step
    dsimp only
    split
    · rename_i hclaim
      exact h.leave (congrArg Claim.target hclaim)
    · exact h

end Rules
end Ledger

namespace Table

/-- Who has a number: a record, or the thread that makes the object. -/
def owned (table : Table σ ι κ ν τ) : κ ⊕ τ → Option ν
  | .inl address => table.records address
  | .inr thread =>
    match table.pending thread with
    | .creating _ id => some id
    | _ => none

/-- So many numbers have been given out, one after the other, and each has one owner. -/
structure Sound [One ν] [Add ν] (table : Table σ ι κ ν τ) (count : ℕ) : Prop where
  next : table.next=number ν count
  given : ∀ owner id, table.owned owner=some id → ∃ i, i < count ∧ id=number ν i
  unique : ∀ owner other id, table.owned owner=some id → table.owned other=some id → owner=other

section Numbers
variable [One ν] [Add ν] {table next : Table σ ι κ ν τ} {count limit : ℕ}

/-- While the numbers are distinct, the next one has no owner. -/
theorem Sound.fresh (h : table.Sound count) (distinct : Set.InjOn (number ν) (Set.Iio limit))
    (room : count < limit) {owner : κ ⊕ τ} {id : ν} (owned : table.owned owner=some id) :
    id≠table.next := by
  obtain ⟨i,hi,rfl⟩ := h.given owner id owned
  rw [h.next]
  intro hsame
  have hindex := distinct (Set.mem_Iio.mpr (hi.trans room)) (Set.mem_Iio.mpr room) hsame
  omega

/-- Owners only let go. -/
theorem Sound.of_owned (h : table.Sound count) (same : next.next=table.next)
    (owned : ∀ owner id, next.owned owner=some id → table.owned owner=some id) :
    next.Sound count where
  next := same.trans h.next
  given owner id hid := h.given owner id (owned owner id hid)
  unique owner other id howner hother := h.unique owner other id (owned owner id howner)
    (owned other id hother)

/-- One owner takes the next number. -/
theorem Sound.of_fresh (h : table.Sound count) (distinct : Set.InjOn (number ν) (Set.Iio limit))
    (room : count < limit) (advanced : next.next=table.next+1) (new : κ ⊕ τ)
    (owned : ∀ owner id, next.owned owner=some id → owner=new ∧ id=table.next ∨
      table.owned owner=some id) : next.Sound (count+1) where
  next := by rw [advanced,h.next,number]
  given owner id hid := by
    obtain ⟨_,rfl⟩ | hold := owned owner id hid
    · exact ⟨count,Nat.lt_succ_self count,h.next⟩
    · obtain ⟨i,hi,hid⟩ := h.given owner id hold
      exact ⟨i,Nat.lt_succ_of_lt hi,hid⟩
  unique owner other id howner hother := by
    obtain ⟨rfl,hid⟩ | hold := owned owner id howner
    · obtain ⟨rfl,_⟩ | hold' := owned other id hother
      · rfl
      · exact absurd hid (h.fresh distinct room hold')
    · obtain ⟨rfl,hid⟩ | hold' := owned other id hother
      · exact absurd hid (h.fresh distinct room hold)
      · exact h.unique owner other id hold hold'

/-- One owner passes its number on to another. -/
theorem Sound.of_passed (h : table.Sound count) (same : next.next=table.next) (old new : κ ⊕ τ)
    (owned : ∀ owner id, next.owned owner=some id → owner=new ∧ table.owned old=some id ∨
      owner≠old ∧ table.owned owner=some id) : next.Sound count where
  next := same.trans h.next
  given owner id hid := by
    obtain ⟨_,hold⟩ | ⟨_,hold⟩ := owned owner id hid
    · exact h.given old id hold
    · exact h.given owner id hold
  unique owner other id howner hother := by
    obtain ⟨rfl,hold⟩ | ⟨hne,hold⟩ := owned owner id howner
    · obtain ⟨rfl,_⟩ | ⟨hne,hold'⟩ := owned other id hother
      · rfl
      · exact absurd (h.unique other old id hold' hold) hne
    · obtain ⟨rfl,hold'⟩ | ⟨_,hold'⟩ := owned other id hother
      · exact absurd (h.unique owner old id hold hold') hne
      · exact h.unique owner other id hold hold'

end Numbers
end Table

/-- A thread is in the middle of the same thing in both. -/
inductive Matches (kinds : Kinds K κ γ σ ι ω) (table : Table σ ι κ ν τ) :
    Claim γ ι κ → Pending ι κ ν → Prop
  | idle : Matches kinds table .idle .idle
  | creating {k : K} {parameter : γ k} {id : ν} (object : table.listed k id=true)
      (made : table.objects k id=some (kinds.make k parameter)) :
      Matches kinds table (.creating k parameter) (.creating k id)
  | calling {k : K} {address : κ} {id : ν} {input : ι k} (record : table.records address=some id) :
      Matches kinds table (.calling k address input) (.calling k (some id) input)
  | destroying {k : K} {address : κ} :
      Matches kinds table (.destroying k address) (.destroying address)

/-- The table keeps the ledger, with so many objects made: behind a live address is the object that
its inputs lead to. -/
structure Tracks [One ν] [Add ν] (kinds : Kinds K κ γ σ ι ω) (count : ℕ) (ledger : Ledger γ ι κ τ)
    (table : Table σ ι κ ν τ) : Prop where
  rules : ledger.Sound
  numbers : table.Sound count
  leased : ∀ k address parameter inputs, ledger.leases k address=some (parameter,inputs) →
    ∃ id, table.records address=some id ∧
      table.objects k id=some ((kinds.object k).final (kinds.make k parameter) inputs) ∧
      ((∀ thread, ledger.claims thread≠.destroying k address) → table.listed k id=true)
  matched : ∀ thread, Matches kinds table (ledger.claims thread) (table.pending thread)

section Steps
variable {kinds : Kinds K κ γ σ ι ω} {ledger : Ledger γ ι κ τ} {table next : Table σ ι κ ν τ}
  {count limit : ℕ}

/-- What the others are in the middle of depends on their own objects and records only. -/
theorem Matches.frame {claim : Claim γ ι κ} {pending : Pending ι κ ν}
    (h : Matches kinds table claim pending)
    (creating : ∀ k id, pending=.creating k id →
      next.listed k id=table.listed k id ∧ next.objects k id=table.objects k id)
    (held : ∀ k address, claim.target=some (k,address) →
      next.records address=table.records address) : Matches kinds next claim pending := by
  cases h with
  | idle => exact .idle
  | creating listed made =>
    obtain ⟨hlisted,hobjects⟩ := creating _ _ rfl
    exact .creating (hlisted.trans listed) (hobjects.trans made)
  | calling record => exact .calling ((held _ _ rfl).trans record)
  | destroying => exact .destroying

theorem Table.owned_of_creating {thread : τ} {k : K} {id : ν}
    (h : table.pending thread=.creating k id) : table.owned (.inr thread)=some id := by
  rw [owned,h]

section Threads
variable [DecidableEq τ]

/-- What nobody destroys was not being destroyed before. -/
theorem claims_ne {thread : τ} {claim : Claim γ ι κ} {k : K} {address : κ}
    (old : ledger.claims thread≠.destroying k address)
    (h : ∀ other, (ledger.claim thread claim).claims other≠.destroying k address) (other : τ) :
    ledger.claims other≠.destroying k address := by
  by_cases hother : other=thread
  · rwa [hother]
  · have hclaim := h other
    rwa [Ledger.claim_claims_of_ne _ _ hother] at hclaim

/-- A thread that is not in the middle of making an object has no number. -/
theorem Table.owned_await {thread : τ} {pending : Pending ι κ ν}
    (idle : ∀ k id, pending≠.creating k id) {owner : κ ⊕ τ} {id : ν}
    (h : (next.await thread pending).owned owner=some id) : next.owned owner=some id := by
  obtain address | other := owner
  · exact h
  · by_cases hother : other=thread
    · subst hother
      rw [owned,await_pending_self] at h
      split at h
      · rename_i hpending
        exact absurd rfl (idle _ _)
      · cases h
    · rwa [owned,await_pending_of_ne _ _ hother] at h

end Threads

variable [One ν] [Add ν]

theorem tracks_start : Tracks kinds 0 (.start : Ledger γ ι κ τ) (.start : Table σ ι κ ν τ) where
  rules := ⟨fun _ _ _ h => absurd rfl h,nofun,nofun⟩
  numbers := by
    refine ⟨rfl,?_,?_⟩
    · rintro (address | thread) id ⟨⟩
    · rintro (address | thread) other id ⟨⟩
  leased k address parameter inputs h := by cases h
  matched thread := .idle

/-- The number of a live address is no other owner's. -/
theorem Tracks.number_ne (h : Tracks kinds count ledger table) {address : κ} {id id' : ν}
    (record : table.records address=some id) {owner : κ ⊕ τ} (owned : table.owned owner=some id')
    (hne : owner≠.inl address) : id'≠id := by
  rintro rfl
  exact hne (h.numbers.unique owner (.inl address) id' owned record)

/-- A call that may begin finds its object. -/
theorem Tracks.found (h : Tracks kinds count ledger table) {k : K} {address : κ}
    (live : ledger.leases k address≠none) (free : ∀ other k', ledger.held other≠some (k',address)) :
    ∃ id, table.records address=some id ∧ table.listed k id=true := by
  obtain ⟨⟨parameter,inputs⟩,hlease⟩ := Option.ne_none_iff_exists'.mp live
  obtain ⟨id,hrecord,_,hlisted⟩ := h.leased k address parameter inputs hlease
  refine ⟨id,hrecord,hlisted fun other hclaim => free other k ?_⟩
  exact congrArg Claim.target hclaim

/-- What a thread has in hand is the object that the inputs lead to, and it is its own. -/
theorem Tracks.calling (h : Tracks kinds count ledger table) {thread : τ} {k : K} {address : κ}
    {input : ι k} (claim : ledger.claims thread=.calling k address input) :
    ∃ id parameter inputs, table.pending thread=.calling k (some id) input ∧
      table.records address=some id ∧ ledger.leases k address=some (parameter,inputs) ∧
      table.objects k id=some ((kinds.object k).final (kinds.make k parameter) inputs) := by
  have hmatched := h.matched thread
  rw [claim] at hmatched
  generalize hpending : table.pending thread=pending at hmatched
  cases hmatched with
  | @calling _ _ id _ record =>
    have hheld : ledger.held thread=some (k,address) := congrArg Claim.target claim
    obtain ⟨⟨parameter,inputs⟩,hlease⟩ :=
      Option.ne_none_iff_exists'.mp (h.rules.held thread k address hheld)
    obtain ⟨id',hrecord,hobject,_⟩ := h.leased k address parameter inputs hlease
    rw [record] at hrecord
    cases hrecord
    exact ⟨id,parameter,inputs,rfl,record,hlease,hobject⟩

variable [DecidableEq τ]

theorem Tracks.call (h : Tracks kinds count ledger table) {thread : τ} {k : K} {address : κ}
    (input : ι k) (idle : ledger.claims thread=.idle) (live : ledger.leases k address≠none)
    (free : ∀ other k', ledger.held other≠some (k',address)) :
    Tracks kinds count (ledger.claim thread (.calling k address input))
      (table.await thread (.calling k ((table.records address).bind (table.lookup k)) input)) where
  rules := h.rules.hold thread rfl live free
  numbers := by
    refine h.numbers.of_owned rfl ?_
    rintro (address' | other) id hid
    · exact hid
    · by_cases hother : other=thread
      · subst hother
        rw [Table.owned,Table.await_pending_self] at hid
        cases hid
      · rwa [Table.owned,Table.await_pending_of_ne _ _ hother] at hid
  leased k' address' parameter inputs hlease := by
    obtain ⟨id,hrecord,hobject,hlisted⟩ := h.leased k' address' parameter inputs hlease
    refine ⟨id,hrecord,hobject,fun hclaims => hlisted (claims_ne ?_ hclaims)⟩
    rw [idle]
    nofun
  matched other := by
    by_cases hother : other=thread
    · subst hother
      obtain ⟨id,hrecord,hlisted⟩ := h.found live free
      rw [Ledger.claim_claims_self,Table.await_pending_self,hrecord,Option.bind_some,Table.lookup,
        if_pos hlisted]
      exact .calling hrecord
    · rw [Ledger.claim_claims_of_ne _ _ hother,Table.await_pending_of_ne _ _ hother]
      exact (h.matched other).frame (fun _ _ _ => ⟨rfl,rfl⟩) fun _ _ _ => rfl

section Numbered
variable [DecidableEq K] [DecidableEq ν]

theorem Tracks.create (h : Tracks kinds count ledger table)
    (distinct : Set.InjOn (number ν) (Set.Iio limit)) (room : count < limit) {thread : τ}
    (idle : ledger.claims thread=.idle) (k : K) (parameter : γ k) :
    Tracks kinds (count+1) (ledger.claim thread (.creating k parameter))
      ((table.enroll k (kinds.make k parameter)).await thread (.creating k table.next)) where
  rules := h.rules.claim thread rfl
  numbers := by
    refine h.numbers.of_fresh distinct room rfl (.inr thread) ?_
    rintro (address | other) id hid
    · exact .inr hid
    · by_cases hother : other=thread
      · subst hother
        rw [Table.owned,Table.await_pending_self] at hid
        cases hid
        exact .inl ⟨rfl,rfl⟩
      · rw [Table.owned,Table.await_pending_of_ne _ _ hother] at hid
        exact .inr hid
  leased k' address parameter' inputs hlease := by
    obtain ⟨id,hrecord,hobject,hlisted⟩ := h.leased k' address parameter' inputs hlease
    have howned : table.owned (.inl address)=some id := hrecord
    have hne := h.numbers.fresh distinct room howned
    refine ⟨id,hrecord,(Table.store_objects_of_ne _ _ fun _ => hne).trans hobject,fun hclaims => ?_⟩
    refine (Table.list_listed_of_ne _ _ fun _ => hne).trans (hlisted (claims_ne ?_ hclaims))
    rw [idle]
    nofun
  matched other := by
    by_cases hother : other=thread
    · subst hother
      rw [Ledger.claim_claims_self,Table.await_pending_self]
      exact .creating (Table.list_listed_self ..) (Table.store_objects_self ..)
    · rw [Ledger.claim_claims_of_ne _ _ hother,Table.await_pending_of_ne _ _ hother]
      refine (h.matched other).frame ?_ fun _ _ _ => rfl
      intro k' id hpending
      have hne := h.numbers.fresh distinct room (Table.owned_of_creating hpending)
      exact ⟨Table.list_listed_of_ne _ _ fun _ => hne,Table.store_objects_of_ne _ _ fun _ => hne⟩

/-- The allocation fails, and the object is forgotten. -/
theorem Tracks.failed (h : Tracks kinds count ledger table) {thread : τ} {k : K}
    {parameter : γ k} {id : ν} (claim : ledger.claims thread=.creating k parameter)
    (pending : table.pending thread=.creating k id) :
    Tracks kinds count (ledger.claim thread .idle) ((table.list k id false).await thread .idle) where
  rules := h.rules.claim thread rfl
  numbers := by
    refine h.numbers.of_owned rfl ?_
    rintro (address | other) id' hid
    · exact hid
    · by_cases hother : other=thread
      · subst hother
        rw [Table.owned,Table.await_pending_self] at hid
        cases hid
      · rwa [Table.owned,Table.await_pending_of_ne _ _ hother] at hid
  leased k' address parameter' inputs hlease := by
    obtain ⟨id',hrecord,hobject,hlisted⟩ := h.leased k' address parameter' inputs hlease
    have hne := h.number_ne hrecord (Table.owned_of_creating pending) nofun
    refine ⟨id',hrecord,hobject,fun hclaims => ?_⟩
    refine (Table.list_listed_of_ne _ _ fun _ => hne.symm).trans (hlisted (claims_ne ?_ hclaims))
    rw [claim]
    nofun
  matched other := by
    by_cases hother : other=thread
    · subst hother
      rw [Ledger.claim_claims_self,Table.await_pending_self]
      exact .idle
    · rw [Ledger.claim_claims_of_ne _ _ hother,Table.await_pending_of_ne _ _ hother]
      refine (h.matched other).frame ?_ fun _ _ _ => rfl
      intro k' id' hpending
      have hne : id'≠id := by
        rintro rfl
        have howner := h.numbers.unique _ _ _ (Table.owned_of_creating hpending)
          (Table.owned_of_creating pending)
        cases howner
        exact hother rfl
      exact ⟨Table.list_listed_of_ne _ _ fun _ => hne,rfl⟩

theorem Tracks.destroy (h : Tracks kinds count ledger table) {thread : τ} {k : K} {address : κ}
    {id : ν} (record : table.records address=some id) (idle : ledger.claims thread=.idle)
    (live : ledger.leases k address≠none) (free : ∀ other k', ledger.held other≠some (k',address)) :
    Tracks kinds count (ledger.claim thread (.destroying k address))
      ((table.list k id false).await thread (.destroying address)) where
  rules := h.rules.hold thread rfl live free
  numbers := h.numbers.of_owned rfl fun _ _ hid => Table.owned_await nofun hid
  leased k' address' parameter inputs hlease := by
    obtain ⟨id',hrecord,hobject,hlisted⟩ := h.leased k' address' parameter inputs hlease
    refine ⟨id',hrecord,hobject,fun hclaims => ?_⟩
    by_cases ha : address'=address
    · subst ha
      rw [Ledger.claim_leases] at hlease
      obtain rfl := h.rules.single k' k address' (by rw [hlease]; exact Option.some_ne_none _) live
      exact absurd (Ledger.claim_claims_self ..) (hclaims thread)
    · have howned : table.owned (.inl address')=some id' := hrecord
      have hne := h.number_ne record howned (ha <| Sum.inl.inj ·)
      refine (Table.list_listed_of_ne _ _ fun _ => hne).trans (hlisted (claims_ne ?_ hclaims))
      rw [idle]
      nofun
  matched other := by
    by_cases hother : other=thread
    · subst hother
      rw [Ledger.claim_claims_self,Table.await_pending_self]
      exact .destroying
    · rw [Ledger.claim_claims_of_ne _ _ hother,Table.await_pending_of_ne _ _ hother]
      refine (h.matched other).frame ?_ fun _ _ _ => rfl
      intro k' id' hpending
      have hne := h.number_ne record (Table.owned_of_creating hpending) nofun
      exact ⟨Table.list_listed_of_ne _ _ fun _ => hne,rfl⟩

end Numbered

variable [DecidableEq K] [DecidableEq κ]

/-- The allocation gives an address, and the object has its record there. -/
theorem Tracks.created (h : Tracks kinds count ledger table) {thread : τ} {k : K}
    {parameter : γ k} {id : ν} (claim : ledger.claims thread=.creating k parameter)
    (pending : table.pending thread=.creating k id) {address : κ}
    (free : ∀ k, ledger.leases k address=none) :
    Tracks kinds count ((ledger.lease k address (some (parameter,[]))).claim thread .idle)
      ((table.record address (some id)).await thread .idle) where
  rules := (h.rules.enter _ free).claim thread rfl
  numbers := by
    refine h.numbers.of_passed rfl (.inr thread) (.inl address) ?_
    rintro (address' | other) id' hid
    · by_cases ha : address'=address
      · subst ha
        rw [Table.owned,Table.await_records,Table.record_records_self] at hid
        cases hid
        exact .inl ⟨rfl,Table.owned_of_creating pending⟩
      · rw [Table.owned,Table.await_records,Table.record_records_of_ne _ _ ha] at hid
        exact .inr ⟨nofun,hid⟩
    · by_cases hother : other=thread
      · subst hother
        rw [Table.owned,Table.await_pending_self] at hid
        cases hid
      · rw [Table.owned,Table.await_pending_of_ne _ _ hother] at hid
        refine .inr ⟨?_,hid⟩
        rintro ⟨⟩
        exact hother rfl
  leased k' address' parameter' inputs hlease := by
    rw [Ledger.claim_leases] at hlease
    by_cases ha : address'=address
    · subst ha
      by_cases hk : k'=k
      · subst hk
        rw [Ledger.lease_leases_self] at hlease
        cases hlease
        have hmatched := h.matched thread
        rw [claim,pending] at hmatched
        cases hmatched with
        | creating listed made => exact ⟨id,Table.record_records_self ..,made,fun _ => listed⟩
      · rw [Ledger.lease_leases_of_ne _ _ (absurd · hk),free] at hlease
        cases hlease
    · rw [Ledger.lease_leases_of_ne _ _ fun _ => ha] at hlease
      obtain ⟨id',hrecord,hobject,hlisted⟩ := h.leased k' address' parameter' inputs hlease
      refine ⟨id',(Table.record_records_of_ne _ _ ha).trans hrecord,hobject,fun hclaims => ?_⟩
      refine hlisted (claims_ne ?_ hclaims)
      rw [claim]
      nofun
  matched other := by
    by_cases hother : other=thread
    · subst hother
      rw [Ledger.claim_claims_self,Table.await_pending_self]
      exact .idle
    · rw [Ledger.claim_claims_of_ne _ _ hother,Table.await_pending_of_ne _ _ hother]
      refine (h.matched other).frame (fun _ _ _ => ⟨rfl,rfl⟩) ?_
      intro k' address' htarget
      apply Table.record_records_of_ne
      rintro rfl
      exact h.rules.held other k' address' htarget (free k')

theorem Tracks.destroyed (h : Tracks kinds count ledger table) {thread : τ} {k : K} {address : κ}
    (claim : ledger.claims thread=.destroying k address) :
    Tracks kinds count ((ledger.lease k address none).claim thread .idle)
      ((table.record address none).await thread .idle) where
  rules := h.rules.leave (congrArg Claim.target claim)
  numbers := by
    refine h.numbers.of_owned rfl fun owner id hid => ?_
    have hold := Table.owned_await nofun hid
    obtain address' | other := owner
    · by_cases ha : address'=address
      · subst ha
        rw [Table.owned,Table.record_records_self] at hold
        cases hold
      · rwa [Table.owned,Table.record_records_of_ne _ _ ha] at hold
    · exact hold
  leased k' address' parameter inputs hlease := by
    rw [Ledger.claim_leases] at hlease
    by_cases ha : address'=address
    · subst ha
      exfalso
      by_cases hk : k'=k
      · subst hk
        rw [Ledger.lease_leases_self] at hlease
        cases hlease
      · rw [Ledger.lease_leases_of_ne _ _ (absurd · hk)] at hlease
        refine hk (h.rules.single k' k address' ?_ (h.rules.held thread k address'
          (congrArg Claim.target claim)))
        rw [hlease]
        exact Option.some_ne_none _
    · rw [Ledger.lease_leases_of_ne _ _ fun _ => ha] at hlease
      obtain ⟨id,hrecord,hobject,hlisted⟩ := h.leased k' address' parameter inputs hlease
      refine ⟨id,(Table.record_records_of_ne _ _ ha).trans hrecord,hobject,fun hclaims => ?_⟩
      refine hlisted (claims_ne ?_ hclaims)
      rw [claim]
      rintro ⟨⟩
      exact ha rfl
  matched other := by
    by_cases hother : other=thread
    · subst hother
      rw [Ledger.claim_claims_self,Table.await_pending_self]
      exact .idle
    · rw [Ledger.claim_claims_of_ne _ _ hother,Table.await_pending_of_ne _ _ hother]
      refine (h.matched other).frame (fun _ _ _ => ⟨rfl,rfl⟩) ?_
      intro k' address' htarget
      apply Table.record_records_of_ne
      rintro rfl
      exact hother (h.rules.exclusive other thread k' k address' htarget
        (congrArg Claim.target claim))

variable [DecidableEq ν]

theorem Tracks.answer (h : Tracks kinds count ledger table) {thread : τ} {k : K} {address : κ}
    {input : ι k} (claim : ledger.claims thread=.calling k address input) {id : ν} {parameter : γ k}
    {inputs : List (ι k)} (record : table.records address=some id)
    (lease : ledger.leases k address=some (parameter,inputs)) :
    Tracks kinds count
      ((ledger.lease k address (some (parameter,inputs ++ [input]))).claim thread .idle)
      ((table.store k id ((kinds.object k).final (kinds.make k parameter) (inputs ++ [input]))).await
        thread .idle) where
  rules := (h.rules.renew _ (by rw [lease]; exact Option.some_ne_none _)).claim thread rfl
  numbers := h.numbers.of_owned rfl fun _ _ hid => Table.owned_await nofun hid
  leased k' address' parameter' inputs' hlease := by
    rw [Ledger.claim_leases] at hlease
    have hclaims : ∀ {k' address'}, (∀ other, ((ledger.lease k address
        (some (parameter,inputs ++ [input]))).claim thread .idle).claims other≠
          .destroying k' address') → ∀ other, ledger.claims other≠.destroying k' address' := by
      intro k' address' hclaims
      refine claims_ne ?_ hclaims
      rw [claim]
      nofun
    by_cases hentry : k'=k ∧ address'=address
    · obtain ⟨rfl,rfl⟩ := hentry
      rw [Ledger.lease_leases_self] at hlease
      cases hlease
      obtain ⟨id',hrecord,_,hlisted⟩ := h.leased k' address' _ _ lease
      rw [record] at hrecord
      cases hrecord
      exact ⟨id,record,Table.store_objects_self ..,fun h => hlisted (hclaims h)⟩
    · rw [not_and] at hentry
      rw [Ledger.lease_leases_of_ne _ _ hentry] at hlease
      obtain ⟨id',hrecord,hobject,hlisted⟩ := h.leased k' address' parameter' inputs' hlease
      have howned : table.owned (.inl address')=some id' := hrecord
      refine ⟨id',hrecord,(Table.store_objects_of_ne _ _ fun hk => ?_).trans hobject,
        fun h => hlisted (hclaims h)⟩
      exact h.number_ne record howned (hentry hk <| Sum.inl.inj ·)
  matched other := by
    by_cases hother : other=thread
    · subst hother
      rw [Ledger.claim_claims_self,Table.await_pending_self]
      exact .idle
    · rw [Ledger.claim_claims_of_ne _ _ hother,Table.await_pending_of_ne _ _ hother]
      refine (h.matched other).frame ?_ fun _ _ _ => rfl
      intro k' id' hpending
      have hne := h.number_ne record (Table.owned_of_creating hpending) nofun
      exact ⟨rfl,Table.store_objects_of_ne _ _ fun _ => hne⟩

/-- A step that the rules allow gets the same answer from the table and from the lone object. -/
theorem Tracks.step (h : Tracks kinds count ledger table)
    (distinct : Set.InjOn (number ν) (Set.Iio limit)) {x : τ × Action γ ι κ}
    (room : x.2.creates=true → count < limit) (allows : ledger.Allows x) :
    (ledger.step kinds x).1=(table.step kinds x).1 ∧
      Tracks kinds (if x.2.creates then count+1 else count) (ledger.step kinds x).2
        (table.step kinds x).2 := by
  obtain ⟨thread,action⟩ := x
  have hmatched := h.matched thread
  generalize hclaim : ledger.claims thread=claim at hmatched
  generalize hpending : table.pending thread=pending at hmatched
  cases action with
  | create k parameter => exact ⟨rfl,h.create distinct (room rfl) allows k parameter⟩
  | call k address input => exact ⟨rfl,h.call input allows.1 allows.2.1 allows.2.2⟩
  | created address =>
    dsimp only [Ledger.step,Table.step]
    rw [hclaim,hpending]
    cases hmatched with
    | creating _ _ =>
      cases address with
      | none => exact ⟨rfl,h.failed hclaim hpending⟩
      | some address => exact ⟨rfl,h.created hclaim hpending allows⟩
    | idle => exact ⟨rfl,h⟩
    | calling _ => exact ⟨rfl,h⟩
    | destroying => exact ⟨rfl,h⟩
  | answer =>
    dsimp only [Ledger.step,Table.step]
    rw [hclaim,hpending]
    cases hmatched with
    | calling _ =>
      obtain ⟨id,parameter,inputs,hcall,hrecord,hlease,hobject⟩ := h.calling hclaim
      rw [hpending] at hcall
      cases hcall
      dsimp only [Option.bind_some]
      rw [hlease,hobject]
      have hnext := h.answer hclaim hrecord hlease
      rw [Mealy.final_append] at hnext
      exact ⟨rfl,hnext⟩
    | idle => exact ⟨rfl,h⟩
    | creating _ _ => exact ⟨rfl,h⟩
    | destroying => exact ⟨rfl,h⟩
  | destroy k address =>
    obtain ⟨id,hrecord,_⟩ := h.found allows.2.1 allows.2.2
    dsimp only [Ledger.step,Table.step]
    rw [hrecord]
    exact ⟨rfl,h.destroy hrecord allows.1 allows.2.1 allows.2.2⟩
  | destroyed =>
    dsimp only [Ledger.step,Table.step]
    rw [hclaim,hpending]
    cases hmatched with
    | destroying => exact ⟨rfl,h.destroyed hclaim⟩
    | idle => exact ⟨rfl,h⟩
    | creating _ _ => exact ⟨rfl,h⟩
    | calling _ => exact ⟨rfl,h⟩

theorem Tracks.outputs_eq (h : Tracks kinds count ledger table)
    (distinct : Set.InjOn (number ν) (Set.Iio limit)) {xs : List (τ × Action γ ι κ)}
    (room : count+creations xs ≤ limit)
    (along : (Ledger.machine kinds).Along Ledger.Allows ledger xs) :
    (Ledger.machine kinds).outputs ledger xs=(Table.machine kinds).outputs table xs := by
  induction xs generalizing count ledger table with
  | nil => rfl
  | cons x xs ih =>
    obtain ⟨allows,along⟩ := along
    rw [creations,List.countP_cons] at room
    obtain ⟨houtput,hnext⟩ := h.step distinct (fun hcreates => by
      rw [if_pos hcreates] at room
      omega) allows
    rw [Mealy.outputs_cons,Mealy.outputs_cons]
    refine congrArg₂ List.cons houtput (ih hnext ?_ along)
    unfold creations
    split at room
    · rename_i hcreates
      rw [if_pos hcreates]
      omega
    · rename_i hcreates
      rw [if_neg hcreates]
      exact room

/-- Threads that keep the rules get from the table, whatever their order, what the objects would
answer if each were alone, as long as the counter has not come to a number for the second time. -/
theorem outputs_eq (kinds : Kinds K κ γ σ ι ω) (xs : List (τ × Action γ ι κ))
    (distinct : Set.InjOn (number ν) (Set.Iio (creations xs)))
    (along : (Ledger.machine kinds).Along Ledger.Allows .start xs) :
    (Ledger.machine kinds).outputs .start xs=
      (Table.machine kinds).outputs (.start : Table σ ι κ ν τ) xs :=
  tracks_start.outputs_eq distinct (by rw [Nat.zero_add]) along

end Steps
end Registry
