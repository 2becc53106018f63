import DlmsHdlc.Library.Registry
import DlmsHdlc.CApi.Interchange

/-! The registry of the Go library's C ABI, between its locks: a C record holds the number of a Go
object, two maps share the numbers, and a call looks its object up before it works on it. Threads
that use no handle at the same time and none after it is destroyed get what each object alone would
answer, also where `malloc` gives the memory of a destroyed record again. -/
namespace DlmsHdlc.Go
open Machine Registry

inductive HandleKind
  | streamDecoder
  | reassembler
  deriving DecidableEq, Repr

instance : Fintype HandleKind where
  elems := {.streamDecoder,.reassembler}
  complete k := by
    cases k with
    | streamDecoder => decide
    | reassembler => decide

inductive ReassemblerCall
  | pushFrame (inputFrame : Option DlmsHdlcFrame) (output : CompletedMemory)
  | reset

abbrev HandleKind.Object : HandleKind → Type
  | .streamDecoder => StreamDecoderState
  | .reassembler => Reassembler

abbrev HandleKind.Call : HandleKind → Type
  | .streamDecoder => StreamCall
  | .reassembler => ReassemblerCall

/-- `nextHandleID`, the keys of `streamHandles` and `reassemblerMap`, the Go objects, each under the
number it was made with, the `_handle` of the C records by address, and where each thread is in its
call. A `uintptr` of 64 bits wraps, and comes to the first number again after 2^64 creations. -/
abbrev HandleRegistry (τ : Type*) := Table HandleKind.Object HandleKind.Call ℕ UInt64 τ

/-- A step of a thread: a handle is the address of its record, and `malloc` gives one or none. -/
abbrev HandleAction := Action (fun _ : HandleKind => Option DlmsHdlcLimits) HandleKind.Call ℕ

namespace HandleRegistry
variable {τ : Type*} [DecidableEq τ] (registry : HandleRegistry τ)

def newStreamHandle (state : StreamDecoderState) : UInt64 × HandleRegistry τ :=
  (registry.next,registry.enroll .streamDecoder state)

def getStreamHandle (id : UInt64) : Option UInt64 := registry.lookup .streamDecoder id

def deleteStreamHandle (id : UInt64) : HandleRegistry τ := registry.list .streamDecoder id false

def newReassemblerHandle (r : Reassembler) : UInt64 × HandleRegistry τ :=
  (registry.next,registry.enroll .reassembler r)

def getReassemblerHandle (id : UInt64) : Option UInt64 := registry.lookup .reassembler id

def deleteReassemblerHandle (id : UInt64) : HandleRegistry τ := registry.list .reassembler id false

/-- The work on an object is seen through every pointer to it. -/
def put (k : HandleKind) : Option UInt64 → Option k.Object → HandleRegistry τ
  | some id,some object => registry.store k id object
  | _,_ => registry

/-- What a call does once it has looked its object up. -/
def work : (k : HandleKind) → Option UInt64 → k.Call → AbiResult × HandleRegistry τ
  | .streamDecoder,id,.push data dataSize memory =>
    let (result,state) := dlmsHdlcStreamDecoderPush (id.bind (registry.objects .streamDecoder)) data
      dataSize memory
    (.frame result,put registry .streamDecoder id state)
  | .streamDecoder,id,.reset =>
    let state := id.bind (registry.objects .streamDecoder)
    (.nothing,put registry .streamDecoder id (state.map .reset))
  | .reassembler,id,.pushFrame inputFrame output =>
    match dlmsHdlcReassemblerPushFrame (id.bind (registry.objects .reassembler)) inputFrame
      output with
    | none => (.panicked,registry)
    | some (result,r) => (.completed result,put registry .reassembler id r)
  | .reassembler,id,.reset =>
    let r := id.bind (registry.objects .reassembler)
    (.nothing,put registry .reassembler id (r.map .reset))

/-- The exported functions, cut where another thread can come between. -/
def step : τ × HandleAction → Option AbiResult × HandleRegistry τ
  | (thread,.create .streamDecoder climits) =>
    let (id,registry) := newStreamHandle registry (.new climits)
    (none,registry.await thread (.creating .streamDecoder id))
  | (thread,.create .reassembler climits) =>
    let (id,registry) := newReassemblerHandle registry (.newReassembler (toLimits climits))
    (none,registry.await thread (.creating .reassembler id))
  | (thread,.created p) =>
    match registry.pending thread,p with
    | .creating .streamDecoder id,none =>
      (some (.created .internalError none),(deleteStreamHandle registry id).await thread .idle)
    | .creating .reassembler id,none =>
      (some (.created .internalError none),(deleteReassemblerHandle registry id).await thread .idle)
    | .creating _ id,some p =>
      (some (.created .ok (some p)),(registry.record p (some id)).await thread .idle)
    | _,_ => (none,registry)
  | (thread,.call .streamDecoder decoder input) =>
    let state := (registry.records decoder).bind (getStreamHandle registry)
    (none,registry.await thread (.calling .streamDecoder state input))
  | (thread,.call .reassembler reassembler input) =>
    let r := (registry.records reassembler).bind (getReassemblerHandle registry)
    (none,registry.await thread (.calling .reassembler r input))
  | (thread,.answer) =>
    match registry.pending thread with
    | .calling k id input =>
      let (result,registry) := work registry k id input
      (some result,registry.await thread .idle)
    | _ => (none,registry)
  | (thread,.destroy .streamDecoder decoder) =>
    match registry.records decoder with
    | none => (none,registry.await thread (.destroying decoder))
    | some id => (none,(deleteStreamHandle registry id).await thread (.destroying decoder))
  | (thread,.destroy .reassembler reassembler) =>
    match registry.records reassembler with
    | none => (none,registry.await thread (.destroying reassembler))
    | some id => (none,(deleteReassemblerHandle registry id).await thread (.destroying reassembler))
  | (thread,.destroyed) =>
    match registry.pending thread with
    | .destroying handle => (none,(registry.record handle none).await thread .idle)
    | _ => (none,registry)

def machine : Mealy (HandleRegistry τ) (τ × HandleAction) (Option AbiResult) := ⟨step⟩

end HandleRegistry

/-- The reassembler behind a handle of its own. -/
def Reassembler.answer (r : Reassembler) : ReassemblerCall → AbiResult × Reassembler
  | .pushFrame inputFrame output =>
    match r.pushFrame inputFrame output with
    | none => (.panicked,r)
    | some (result,r) => (.completed result,r)
  | .reset => (.nothing,r.reset)

/-- The stream decoder behind a handle of its own. -/
def StreamDecoderState.answer (state : StreamDecoderState) :
    StreamCall → AbiResult × StreamDecoderState
  | .push data dataSize memory => (state.push data dataSize memory).map .frame id
  | .reset => (.nothing,state.reset)

/-- What each object is for: to answer its own calls, in the order in which they are made. -/
def handleKinds : Kinds HandleKind ℕ (fun _ => Option DlmsHdlcLimits) HandleKind.Object
    HandleKind.Call AbiResult where
  make
    | .streamDecoder => .new
    | .reassembler => fun climits => .newReassembler (toLimits climits)
  created _ p := .created (if p=none then .internalError else .ok) p
  object
    | .streamDecoder => ⟨StreamDecoderState.answer⟩
    | .reassembler => ⟨Reassembler.answer⟩
  missing
    | .streamDecoder,.push _ _ memory => .frame (.invalidArgument,memory.cleared)
    | .reassembler,.pushFrame _ output => .completed (.invalidArgument,output.cleared)
    | _,_ => .nothing

namespace HandleRegistry
variable {τ : Type*} (registry : HandleRegistry τ)

theorem put_none (k : HandleKind) (id : Option UInt64) : put registry k id none=registry := by
  cases id with
  | none => rfl
  | some id => rfl

theorem work_of_none {k : HandleKind} {id : Option UInt64} {input : k.Call}
    (h : id.bind (registry.objects k)=none) :
    work registry k id input=(handleKinds.missing k input,registry) := by
  cases k with
  | streamDecoder =>
    cases input with
    | push data dataSize memory =>
      rw [work,h]
      exact congrArg (Prod.mk _) (put_none registry ..)
    | reset =>
      rw [work,h]
      exact congrArg (Prod.mk _) (put_none registry ..)
  | reassembler =>
    cases input with
    | pushFrame inputFrame output =>
      rw [work,h]
      exact congrArg (Prod.mk _) (put_none registry ..)
    | reset =>
      rw [work,h]
      exact congrArg (Prod.mk _) (put_none registry ..)

theorem work_of_some {k : HandleKind} {id : UInt64} {object : k.Object}
    (h : registry.objects k id=some object) (input : k.Call) :
    work registry k (some id) input=(((handleKinds.object k).step object input).1,
      registry.store k id ((handleKinds.object k).step object input).2) := by
  cases k with
  | streamDecoder =>
    cases input with
    | push data dataSize memory =>
      rw [work,Option.bind_some,h]
      rfl
    | reset =>
      rw [work,Option.bind_some,h]
      rfl
  | reassembler =>
    cases input with
    | pushFrame inputFrame output =>
      rw [work,Option.bind_some,h]
      dsimp only [handleKinds,dlmsHdlcReassemblerPushFrame,Reassembler.answer]
      cases object.pushFrame inputFrame output with
      | none => exact congrArg (Prod.mk _) (registry.store_of_stored h).symm
      | some result => rfl
    | reset =>
      rw [work,Option.bind_some,h]
      rfl

/-- The functions keep the registry as a table of lone objects. -/
theorem step_eq [DecidableEq τ] (x : τ × HandleAction) :
    step registry x=Table.step handleKinds registry x := by
  obtain ⟨thread,action⟩ := x
  cases action with
  | create k climits =>
    cases k with
    | streamDecoder => rfl
    | reassembler => rfl
  | call k handle input =>
    cases k with
    | streamDecoder => rfl
    | reassembler => rfl
  | created p =>
    dsimp only [step,Table.step]
    cases registry.pending thread with
    | creating k id =>
      cases k with
      | streamDecoder =>
        cases p with
        | none => rfl
        | some p => rfl
      | reassembler =>
        cases p with
        | none => rfl
        | some p => rfl
    | idle => rfl
    | calling k id input => rfl
    | destroying handle => rfl
  | answer =>
    dsimp only [step,Table.step]
    cases registry.pending thread with
    | calling k id input =>
      dsimp only
      cases id with
      | none => rw [work_of_none registry (Option.bind_none _),Option.bind_none]
      | some id =>
        rw [Option.bind_some]
        cases hobject : registry.objects k id with
        | none => rw [work_of_none registry ((Option.bind_some ..).trans hobject),Option.map_none]
        | some object => rw [work_of_some registry hobject,Option.map_some]
    | idle => rfl
    | creating k id => rfl
    | destroying handle => rfl
  | destroy k handle =>
    cases k with
    | streamDecoder =>
      dsimp only [step,Table.step]
      cases registry.records handle with
      | none => rfl
      | some id => rfl
    | reassembler =>
      dsimp only [step,Table.step]
      cases registry.records handle with
      | none => rfl
      | some id => rfl
  | destroyed =>
    dsimp only [step,Table.step]
    cases registry.pending thread with
    | destroying handle => rfl
    | idle => rfl
    | creating k id => rfl
    | calling k id input => rfl

end HandleRegistry

theorem number_uint64 (count : ℕ) : number UInt64 count=.ofNat (count+1) := by
  induction count with
  | zero => rfl
  | succ count ih =>
    rw [number,ih,UInt64.ofNat_add (count+1)]
    rfl

/-- No handle number is given out twice before the counter wraps. -/
theorem number_injOn {limit : ℕ} (hlimit : limit < 2^64) :
    Set.InjOn (number UInt64) (Set.Iio limit) := by
  intro first hfirst second hsecond h
  rw [Set.mem_Iio] at hfirst hsecond
  rw [number_uint64,number_uint64,← UInt64.toNat_inj,UInt64.toNat_ofNat',UInt64.toNat_ofNat',
    Nat.mod_eq_of_lt (by omega),Nat.mod_eq_of_lt (by omega)] at h
  omega

/-- Threads that begin a call only on a live handle that no thread is using, and create fewer than
2^64 handles, get, in every order of their steps, what each object alone answers to the calls on its
handle. -/
theorem handles_answerAlone {τ : Type*} [DecidableEq τ] (xs : List (τ × HandleAction))
    (created : creations xs < 2^64)
    (allowed : (Ledger.machine handleKinds).Along Ledger.Allows .start xs) :
    HandleRegistry.machine.outputs .start xs=(Ledger.machine handleKinds).outputs .start xs := by
  have hstep : HandleRegistry.machine=(Table.machine handleKinds : Mealy (HandleRegistry τ) _ _) :=
    congrArg Mealy.mk (funext fun registry => funext registry.step_eq)
  rw [hstep,outputs_eq handleKinds xs (number_injOn created) allowed]

/-- A thread receives a frame in two pieces while another destroys its reassembler and makes a stream
decoder, whose record is given the same memory. -/
theorem handles_answerAlone_sample : ∃ xs : List (Bool × HandleAction),
    HandleRegistry.machine.outputs .start xs=(Ledger.machine handleKinds).outputs .start xs ∧
      (HandleRegistry.machine.outputs .start xs).getLast?=some (some (.frame (.ok,
        handOut (roomFor 0) ⟨false,⟨3,1⟩,⟨16,1⟩,⟨0x11⟩,[]⟩))) := by
  refine ⟨[(true,.create .streamDecoder none),(false,.create .reassembler none),
    (false,.created (some 16)),(true,.created (some 8)),
    (true,.call .streamDecoder 8 (.push (some [0x7e,0xa0,0x07,0x07]) 4 (roomFor 0))),
    (false,.destroy .reassembler 16),(true,.answer),(false,.destroyed),
    (false,.create .streamDecoder none),(false,.created (some 16)),
    (true,.call .streamDecoder 8 (.push (some [0x21,0x11,0x74,0xc5,0x7e]) 5 (roomFor 0))),
    (false,.call .streamDecoder 16 .reset),(false,.answer),(true,.answer)],
    handles_answerAlone _ (by decide) (by decide +kernel),by decide +kernel⟩

end DlmsHdlc.Go
