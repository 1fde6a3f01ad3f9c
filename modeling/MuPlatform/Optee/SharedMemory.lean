import MuPlatform.Base.Custody
import MuPlatform.Optee.MemOutcomes
import MuPlatform.Optee.Msg

/-!
# Shared-memory objects

`TEEC_AllocateSharedMemory` and `TEEC_ReleaseSharedMemory` (`OpteeClientApiLib.c`) over the
allocator, and the runs of a client that allocates and releases any number of objects.

The record of an object may hold anything before its first allocation.  A call that turns down the
flags returns before it clears the record (`bufferSet_iff`), and a later release then frees what
the record happened to point to.  Where no such call meets a stale record, no size wraps and the
GCD takes the blocks back, every object holds its own block and the last release leaves the
allocator as it was initialised (`teecLifeCycle`).
-/

namespace MuPlatform
namespace Optee

/-- The fields of `TEEC_SharedMemory` the two calls use. -/
structure TeecSharedMemory where
  buffer : ℕ
  size : ℕ
  flags : UInt32
  shadowBuffer : ℕ
  deriving DecidableEq, Repr

section Calls

variable (cfg : ShmConfig)

/-- `TEEC_AllocateSharedMemory` behind its `NULL` checks. -/
def TeecSharedMemory.allocate (gcdAnswer : Option ℕ) (sm : TeecSharedMemory) (s : ShmState) :
    TeecResult × TeecSharedMemory × ShmState :=
  if sm.flags ≠ 0 then (teecErrorBadParameters, sm, s)
  else
    match opteeClientMemAlloc cfg gcdAnswer sm.size s with
    | (buffer, s) =>
      if buffer = 0 then (teecErrorOutOfMemory, { sm with buffer := 0, shadowBuffer := 0 }, s)
      else (teecSuccess, { sm with buffer := buffer, shadowBuffer := buffer }, s)

/-- `TEEC_AllocateSharedMemory`; the record is `none` for a `NULL` pointer. -/
def teecAllocateSharedMemory (gcdAnswer : Option ℕ) (context : ℕ)
    (sharedMem : Option TeecSharedMemory) (s : ShmState) :
    TeecResult × Option TeecSharedMemory × ShmState :=
  match sharedMem with
  | none => (teecErrorBadParameters, none, s)
  | some sm =>
    if context = 0 then (teecErrorBadParameters, some sm, s)
    else match sm.allocate cfg gcdAnswer s with
      | (result, sm, s) => (result, some sm, s)

/-- `TEEC_ReleaseSharedMemory` behind its `NULL` check, with a GCD that answers `FreeMemorySpace`
as `free` says. -/
def TeecSharedMemory.release (free : Span → List Span → EfiStatus × List Span)
    (sm : TeecSharedMemory) (s : ShmState) : TeecSharedMemory × ShmState :=
  if sm.buffer = 0 then (sm, s)
  else if sm.shadowBuffer = 0 then ({ sm with buffer := 0, size := 0 }, s)
  else
    match opteeClientMemFree cfg free sm.shadowBuffer s with
    | (status, s) =>
      if status.isError then (sm, s)
      else ({ sm with shadowBuffer := 0, buffer := 0, size := 0 }, s)

/-- `TEEC_ReleaseSharedMemory`. -/
def teecReleaseSharedMemory (free : Span → List Span → EfiStatus × List Span)
    (sharedMem : Option TeecSharedMemory) (s : ShmState) : Option TeecSharedMemory × ShmState :=
  match sharedMem with
  | none => (none, s)
  | some sm =>
    match sm.release cfg free s with
    | (sm, s) => (some sm, s)

end Calls

/-! ## A single allocation -/

section Allocate

variable {cfg : ShmConfig} {gcdAnswer : Option ℕ} {context : ℕ} {sm : TeecSharedMemory}
  {s : ShmState}

/-- The buffer of a record, `0` for a `NULL` pointer. -/
def bufferOf (sharedMem : Option TeecSharedMemory) : ℕ := (sharedMem.map (·.buffer)).getD 0

/-- The buffer is the new block where the call succeeds, and `NULL` on every other result. -/
structure BufferSet (cfg : ShmConfig) (gcdAnswer : Option ℕ) (context : ℕ) (sm : TeecSharedMemory)
    (s : ShmState) : Prop where
  allocated : (teecAllocateSharedMemory cfg gcdAnswer context (some sm) s).1 = teecSuccess →
    (opteeClientMemAlloc cfg gcdAnswer sm.size s).1 ≠ 0 ∧
      bufferOf (teecAllocateSharedMemory cfg gcdAnswer context (some sm) s).2.1 =
        (opteeClientMemAlloc cfg gcdAnswer sm.size s).1
  failed : (teecAllocateSharedMemory cfg gcdAnswer context (some sm) s).1 ≠ teecSuccess →
    bufferOf (teecAllocateSharedMemory cfg gcdAnswer context (some sm) s).2.1 = 0

lemma rejected_ne : teecErrorBadParameters ≠ teecSuccess ∧ teecErrorOutOfMemory ≠ teecSuccess := by
  decide

lemma allocate_rejected (h : sm.flags ≠ 0) :
    sm.allocate cfg gcdAnswer s = (teecErrorBadParameters, sm, s) := if_pos h

/-- The allocator has nothing: the record is cleared. -/
lemma allocate_failed (hflags : sm.flags = 0)
    (hnone : (opteeClientMemAlloc cfg gcdAnswer sm.size s).1 = 0) :
    sm.allocate cfg gcdAnswer s = (teecErrorOutOfMemory,
      { sm with buffer := 0, shadowBuffer := 0 },
      (opteeClientMemAlloc cfg gcdAnswer sm.size s).2) := by
  simp only [TeecSharedMemory.allocate, hflags, ne_eq, not_true, if_false, hnone, if_true]

lemma allocate_succeeded (hflags : sm.flags = 0)
    (hsome : (opteeClientMemAlloc cfg gcdAnswer sm.size s).1 ≠ 0) :
    sm.allocate cfg gcdAnswer s = (teecSuccess,
      { sm with
        buffer := (opteeClientMemAlloc cfg gcdAnswer sm.size s).1
        shadowBuffer := (opteeClientMemAlloc cfg gcdAnswer sm.size s).1 },
      (opteeClientMemAlloc cfg gcdAnswer sm.size s).2) := by
  simp only [TeecSharedMemory.allocate, hflags, ne_eq, not_true, if_false, hsome]

lemma teecAllocateSharedMemory_eq (hcontext : context ≠ 0) :
    teecAllocateSharedMemory cfg gcdAnswer context (some sm) s =
      ((sm.allocate cfg gcdAnswer s).1, some (sm.allocate cfg gcdAnswer s).2.1,
        (sm.allocate cfg gcdAnswer s).2.2) := by
  simp only [teecAllocateSharedMemory, hcontext, if_false]

/-- The buffer is set as documented unless the flags of a record with a buffer are turned down. -/
lemma bufferSet_iff (hcontext : context ≠ 0) :
    BufferSet cfg gcdAnswer context sm s ↔ sm.flags = 0 ∨ sm.buffer = 0 := by
  constructor
  · intro h
    by_cases hflags : sm.flags = 0
    · exact .inl hflags
    · have hrun := @allocate_rejected cfg gcdAnswer sm s hflags
      have hbuffer := h.failed (by
        rw [teecAllocateSharedMemory_eq hcontext, hrun]
        exact rejected_ne.1)
      rw [teecAllocateSharedMemory_eq hcontext, hrun] at hbuffer
      exact .inr hbuffer
  · intro hcond
    constructor <;> rw [teecAllocateSharedMemory_eq hcontext] <;> intro hresult
    · by_cases hflags : sm.flags = 0
      · by_cases hnone : (opteeClientMemAlloc cfg gcdAnswer sm.size s).1 = 0
        · rw [allocate_failed hflags hnone] at hresult
          exact absurd hresult rejected_ne.2
        · rw [allocate_succeeded hflags hnone]
          exact ⟨hnone, rfl⟩
      · rw [allocate_rejected hflags] at hresult
        exact absurd hresult rejected_ne.1
    · by_cases hflags : sm.flags = 0
      · by_cases hnone : (opteeClientMemAlloc cfg gcdAnswer sm.size s).1 = 0
        · rw [allocate_failed hflags hnone]
          rfl
        · rw [allocate_succeeded hflags hnone] at hresult
          exact absurd rfl hresult
      · rw [allocate_rejected hflags]
        exact hcond.resolve_left hflags

end Allocate

/-! ## Clients -/

/-- The allocator, the records of any number of objects, whether an object has been passed to
`TEEC_AllocateSharedMemory` before, and the block it holds. -/
structure TeecWorld where
  shm : ShmWorld
  record : ℕ → TeecSharedMemory
  called : ℕ → Bool
  held : ℕ → Option ShmBlock

/-- What a client does with object `k`. -/
inductive TeecOp
  | setFields (k size : ℕ) (flags : UInt32)
  | allocate (k : ℕ) (gcdAnswer : Option ℕ)
  | release (k : ℕ) (free : Span → List Span → EfiStatus × List Span)
  | write (k offset : ℕ) (bytes : List UInt8)

namespace TeecWorld

open Function

variable (cfg : ShmConfig) (w : TeecWorld)

/-- The size and the flags a client sets before a call. -/
def setFields (k size : ℕ) (flags : UInt32) : TeecWorld :=
  { w with record := update w.record k { w.record k with size := size, flags := flags } }

/-- `TEEC_AllocateSharedMemory` on object `k`; a success is a new block. -/
def allocate (k : ℕ) (gcdAnswer : Option ℕ) : TeecWorld :=
  match (w.record k).allocate cfg gcdAnswer w.shm.state with
  | (result, sm, s) =>
    let block := if result = teecSuccess then
      gcdAnswer.map fun base => ⟨base, sm.buffer, (w.record k).size⟩ else none
    { shm := ⟨s, block.toList ++ w.shm.live⟩
      record := update w.record k sm
      called := update w.called k true
      held := update w.held k block }

/-- `TEEC_ReleaseSharedMemory` on object `k`; the block is back once the record forgets it. -/
def release (k : ℕ) (free : Span → List Span → EfiStatus × List Span) : TeecWorld :=
  match (w.record k).release cfg free w.shm.state with
  | (sm, s) =>
    let freed := (w.record k).shadowBuffer ≠ 0 ∧ sm.shadowBuffer = 0
    { w with
      shm := ⟨s, if freed then w.shm.live.eraseP (·.user = (w.record k).shadowBuffer)
        else w.shm.live⟩
      record := update w.record k sm
      held := if freed then update w.held k none else w.held }

/-- A client writes into what object `k` points to. -/
def write (k offset : ℕ) (bytes : List UInt8) : TeecWorld :=
  { w with shm := { w.shm with state := { w.shm.state with
      mem := w.shm.state.mem.write ((w.record k).buffer + offset) bytes } } }

def apply : TeecOp → TeecWorld
  | .setFields k size flags => w.setFields k size flags
  | .allocate k gcdAnswer => w.allocate cfg k gcdAnswer
  | .release k free => w.release cfg k free
  | .write k offset bytes => w.write k offset bytes

end TeecWorld

/-- A client does not allocate an object that still holds a block, releases only what it has tried
to allocate, and writes inside its block; the GCD answers as it may. -/
def TeecOp.Allowed (cfg : ShmConfig) (w : TeecWorld) : TeecOp → Prop
  | .setFields _ _ _ => True
  | .allocate k gcdAnswer => w.held k = none ∧
      GcdAnswers cfg w.shm.state (w.record k).size gcdAnswer
  | .release k free => w.called k = true ∧ GcdFrees free
  | .write k offset bytes => ∃ b, w.held k = some b ∧ offset + bytes.length ≤ b.size

/-- Clients of the two calls, over a freshly initialised pool and records of any content. -/
def teecSystem (cfg : ShmConfig) : System TeecWorld TeecOp where
  Init w := (∃ mem, w.shm = ⟨gcdSharedMemoryInit cfg mem, []⟩) ∧ (∀ k, w.called k = false) ∧
    ∀ k, w.held k = none
  Step w op w' := op.Allowed cfg w ∧ w' = w.apply cfg op

/-- The sum of a block does not wrap. -/
def BlockFits (cfg : ShmConfig) (size : ℕ) : Prop :=
  cfg.arch.headerSize + size + (opteeShmAllocAlign - 1) < 2 ^ cfg.arch.uintnBits

instance (cfg : ShmConfig) (size : ℕ) : Decidable (BlockFits cfg size) :=
  inferInstanceAs (Decidable (_ < _))

/-- No record with a buffer has flags, no size wraps, and the GCD takes a block back. -/
def TeecOp.Proper (cfg : ShmConfig) (w : TeecWorld) : TeecOp → Prop
  | .allocate k _ => ((w.record k).flags = 0 ∨ (w.record k).buffer = 0) ∧
      ((w.record k).flags = 0 → BlockFits cfg (w.record k).size)
  | .release k free => ∀ b, w.held k = some b →
      (free (b.span cfg.arch) w.shm.state.gcd).1.isError = false
  | _ => True

/-- The clients whose calls are proper. -/
abbrev properTeec (cfg : ShmConfig) : System TeecWorld TeecOp :=
  (teecSystem cfg).restrict fun w op => op.Proper cfg w

/-! ## The invariant -/

/-- The record of an object points to its block, or to nothing once it has been passed to
`TEEC_AllocateSharedMemory`. -/
def RecordAgrees (sm : TeecSharedMemory) (called : Bool) : Option ShmBlock → Prop
  | none => called = true → sm.buffer = 0
  | some b => sm.buffer = b.user ∧ sm.shadowBuffer = b.user

/-- The allocator keeps its invariant, every block that is out belongs to one object, and the
records agree with that. -/
structure TeecInv (cfg : ShmConfig) (w : TeecWorld) : Prop where
  shm : ShmInv cfg w.shm
  custody : Custody w.held w.shm.live
  record : ∀ k, RecordAgrees (w.record k) (w.called k) (w.held k)

section Invariant

variable {cfg : ShmConfig} {w : TeecWorld} {b : ShmBlock} {k size : ℕ} {intact : Prop}
  {free : Span → List Span → EfiStatus × List Span}

lemma TeecInv.idle (h : TeecInv cfg w) (hcalled : w.called k = true) (hk : w.held k = none) :
    (w.record k).buffer = 0 := by
  have hrecord := h.record k
  rw [hk] at hrecord
  exact hrecord hcalled

lemma TeecInv.held (h : TeecInv cfg w) (hk : w.held k = some b) :
    (w.record k).buffer = b.user ∧ (w.record k).shadowBuffer = b.user := by
  have hrecord := h.record k
  rwa [hk] at hrecord

/-- Only the object a call is about has to be looked at. -/
lemma recordAgrees_update {record : ℕ → TeecSharedMemory} {called : ℕ → Bool}
    {held : ℕ → Option ShmBlock} (h : ∀ l, RecordAgrees (record l) (called l) (held l))
    {sm : TeecSharedMemory} {c : Bool} {o : Option ShmBlock} (hk : RecordAgrees sm c o) (l : ℕ) :
    RecordAgrees (Function.update record k sm l) (Function.update called k c l)
      (Function.update held k o l) := by
  by_cases hlk : l = k
  · subst hlk
    simpa only [Function.update_self] using hk
  · simpa only [Function.update_of_ne hlk] using h l

lemma ShmBlock.Placed.user_ne_zero (h : b.Placed cfg) : b.user ≠ 0 := by
  obtain ⟨-, huser, -⟩ := h.bounds
  omega

/-- A range of the GCD that a size fits in is one for a size within the pool. -/
lemma size_le_of_fits {gcd : List Span} {base : ℕ} (hfits : BlockFits cfg size)
    (hgcd : GcdMayReturn cfg gcd base (allocBlockSize cfg.arch size)) : size ≤ cfg.size := by
  have hblock : allocBlockSize cfg.arch size =
      cfg.arch.headerSize + size + (opteeShmAllocAlign - 1) := Arch.uintn_of_lt hfits
  obtain ⟨-, ⟨hlo, hhi⟩, -⟩ := hgcd
  simp only [ShmConfig.pool] at hlo hhi
  omega

/-- The release of an object that holds a block clears its record and frees the block. -/
lemma TeecInv.release_held (h : TeecInv cfg w) (hk : w.held k = some b) (hfree : GcdFrees free)
    (hok : (free (b.span cfg.arch) w.shm.state.gcd).1.isError = false) :
    (w.record k).release cfg free w.shm.state =
      ({ w.record k with shadowBuffer := 0, buffer := 0, size := 0 },
        (opteeClientMemFree cfg free b.user w.shm.state).2) := by
  have hb := h.custody.mem hk
  obtain ⟨hbuffer, hshadow⟩ := h.held hk
  have huser := (h.shm.placed b hb).user_ne_zero
  have hstatus := (h.shm.opteeClientMemFree_eq hb (h.shm.header b hb) hfree hok).1
  simp only [TeecSharedMemory.release, hbuffer, hshadow, huser, if_false, hstatus,
    Bool.false_eq_true]

/-- An object without a block is left alone. -/
lemma TeecInv.release_idle (h : TeecInv cfg w) (hcalled : w.called k = true)
    (hk : w.held k = none) : (w.record k).release cfg free w.shm.state =
      (w.record k, w.shm.state) := if_pos (h.idle hcalled hk)

/-! ### What an allocation comes to -/

/-- An allocation that the GCD answers makes a block that was not out. -/
lemma ShmInv.memAlloc_some {u : ShmWorld} (h : ShmInv cfg u intact) {base : ℕ}
    (hfits : BlockFits cfg size) (hanswer : GcdAnswers cfg u.state size (some base)) :
    (opteeClientMemAlloc cfg (some base) size u.state).1 = base + efiPageSize ∧
      (∀ c ∈ u.live, c ≠ ⟨base, base + efiPageSize, size⟩) ∧
      ShmInv cfg ⟨(opteeClientMemAlloc cfg (some base) size u.state).2,
        ⟨base, base + efiPageSize, size⟩ :: u.live⟩ intact := by
  have hgood := badAlignment_byteAlignment cfg.arch
  obtain ⟨hpos, hgcd⟩ := hanswer base rfl
  have hsize := size_le_of_fits hfits hgcd
  have hallowed : AllowedAlloc cfg u size (some base) :=
    ⟨hsize, fun _ hbase => (hanswer _ hbase).2⟩
  have hrun := h.internalMemAlloc_eq hsize hgcd hgood
  have hfst : (opteeClientMemAlloc cfg (some base) size u.state).1 = base + efiPageSize :=
    congrArg Prod.fst hrun
  have hinv : ShmInv cfg (u.allocated (some base) size
      (opteeClientMemAlloc cfg (some base) size u.state)) intact := h.alloc hallowed
  have hne : base + efiPageSize ≠ 0 := by simp only [efiPageSize]; omega
  simp only [ShmWorld.allocated, hfst, hne, if_false] at hinv
  refine ⟨hfst, ?_, hinv⟩
  -- the ranges of the live blocks are not free
  rintro c hc rfl
  have hapart := hgcd.2.2 _ (h.gcd.mem_iff.mpr (List.mem_map_of_mem hc))
  simp only [Span.Apart, ShmBlock.span] at hapart
  omega

/-- An allocation of a size that fits changes nothing or makes a block. -/
lemma ShmInv.memAlloc_cases {u : ShmWorld} (h : ShmInv cfg u intact) {gcdAnswer : Option ℕ}
    (hfits : BlockFits cfg size) (hanswer : GcdAnswers cfg u.state size gcdAnswer) :
    opteeClientMemAlloc cfg gcdAnswer size u.state = (0, u.state) ∨
      ∃ base, gcdAnswer = some base ∧
        (opteeClientMemAlloc cfg gcdAnswer size u.state).1 = base + efiPageSize ∧
        (∀ c ∈ u.live, c ≠ ⟨base, base + efiPageSize, size⟩) ∧
        ShmInv cfg ⟨(opteeClientMemAlloc cfg gcdAnswer size u.state).2,
          ⟨base, base + efiPageSize, size⟩ :: u.live⟩ intact := by
  cases gcdAnswer with
  | none =>
      left
      simp only [opteeClientMemAlloc, internalMemAlloc, badAlignment_byteAlignment,
        Bool.false_eq_true, if_false]
  | some base => exact .inr ⟨base, rfl, h.memAlloc_some hfits hanswer⟩

/-! ### Steps -/

lemma TeecInv.setFields (h : TeecInv cfg w) (flags : UInt32) :
    TeecInv cfg (w.setFields k size flags) := by
  have hrecord : RecordAgrees { w.record k with size := size, flags := flags } (w.called k)
      (w.held k) := by
    have hold := h.record k
    cases hk : w.held k <;> rw [hk] at hold <;> exact hold
  refine ⟨h.shm, h.custody, fun l => ?_⟩
  have hupdate := recordAgrees_update (k := k) h.record hrecord l
  rwa [Function.update_eq_self, Function.update_eq_self] at hupdate

lemma TeecInv.write (h : TeecInv cfg w) {offset : ℕ} {bytes : List UInt8}
    (hallowed : (TeecOp.write k offset bytes).Allowed cfg w) :
    TeecInv cfg (w.write k offset bytes) := by
  obtain ⟨b, hk, hlen⟩ := hallowed
  have hinv := h.shm.clientWrite (h.custody.mem hk) hlen
  have hbuffer := (h.held hk).1
  refine ⟨?_, h.custody, h.record⟩
  rw [TeecWorld.write, hbuffer]
  exact hinv

/-- A call that allocates nothing leaves an object without a buffer. -/
lemma TeecInv.idled (h : TeecInv cfg w) (hk : w.held k = none) {sm : TeecSharedMemory}
    (hbuffer : sm.buffer = 0) :
    TeecInv cfg { shm := w.shm
                  record := Function.update w.record k sm
                  called := Function.update w.called k true
                  held := Function.update w.held k none } := by
  have hsame : Function.update w.held k none = w.held := by
    rw [← hk]
    exact Function.update_eq_self k w.held
  refine ⟨h.shm, ?_, recordAgrees_update h.record fun _ => hbuffer⟩
  rw [hsame]
  exact h.custody

/-- A call that allocates a block leaves the object with it. -/
lemma TeecInv.taken (h : TeecInv cfg w) (hk : w.held k = none) {sm : TeecSharedMemory}
    {s : ShmState} (hshm : ShmInv cfg ⟨s, b :: w.shm.live⟩) (hb : b ∉ w.shm.live)
    (hbuffer : sm.buffer = b.user) (hshadow : sm.shadowBuffer = b.user) :
    TeecInv cfg { shm := ⟨s, b :: w.shm.live⟩
                  record := Function.update w.record k sm
                  called := Function.update w.called k true
                  held := Function.update w.held k (some b) } := by
  exact ⟨hshm, h.custody.take hk hb, recordAgrees_update h.record ⟨hbuffer, hshadow⟩⟩

lemma TeecInv.allocate (h : TeecInv cfg w) {gcdAnswer : Option ℕ}
    (hallowed : (TeecOp.allocate k gcdAnswer).Allowed cfg w)
    (hproper : (TeecOp.allocate k gcdAnswer).Proper cfg w) :
    TeecInv cfg (w.allocate cfg k gcdAnswer) := by
  obtain ⟨hk, hanswer⟩ := hallowed
  obtain ⟨hcond, hfits⟩ := hproper
  by_cases hflags : (w.record k).flags = 0
  swap
  · -- the flags are turned down, and the record had no buffer
    simp only [TeecWorld.allocate, allocate_rejected hflags, rejected_ne.1, if_false]
    exact h.idled hk (hcond.resolve_left hflags)
  rcases h.shm.memAlloc_cases (hfits hflags) hanswer with hnone | ⟨base, rfl, hfst, hnew, hinv⟩
  · have hzero : (opteeClientMemAlloc cfg gcdAnswer (w.record k).size w.shm.state).1 = 0 := by
      rw [hnone]
    simp only [TeecWorld.allocate, allocate_failed hflags hzero, rejected_ne.2, if_false, hnone]
    exact h.idled hk rfl
  · have hsome : (opteeClientMemAlloc cfg (some base) (w.record k).size w.shm.state).1 ≠ 0 := by
      rw [hfst, efiPageSize]
      omega
    simp only [TeecWorld.allocate, allocate_succeeded hflags hsome, if_true, hfst, Option.map_some]
    exact h.taken hk hinv (fun hb => hnew _ hb rfl) rfl rfl

/-- A pointer is that of one block. -/
lemma ShmInv.eq_of_user {u : ShmWorld} (h : ShmInv cfg u intact) {c : ShmBlock} (hb : b ∈ u.live)
    (hc : c ∈ u.live) (huser : b.user = c.user) : b = c := by
  by_contra hne
  have hapart := h.apart_of_ne hb hc hne
  obtain ⟨hblock, hbuser, -⟩ := (h.placed b hb).bounds
  obtain ⟨hblock', hcuser, -⟩ := (h.placed c hc).bounds
  simp only [Span.Apart, ShmBlock.span] at hapart
  omega

lemma TeecInv.release (h : TeecInv cfg w) (hallowed : (TeecOp.release k free).Allowed cfg w)
    (hproper : (TeecOp.release k free).Proper cfg w) : TeecInv cfg (w.release cfg k free) := by
  obtain ⟨hcalled, hfree⟩ := hallowed
  cases hk : w.held k with
  | none =>
      have hnot : ¬ ((w.record k).shadowBuffer ≠ 0 ∧ (w.record k).shadowBuffer = 0) :=
        fun hfreed => hfreed.1 hfreed.2
      simp only [TeecWorld.release, h.release_idle hcalled hk, if_neg hnot,
        Function.update_eq_self]
      exact h
  | some b =>
      have hb := h.custody.mem hk
      have hshadow := (h.held hk).2
      have huser := (h.shm.placed b hb).user_ne_zero
      obtain ⟨c, rest, hcuser, hperm, herase⟩ := perm_eraseP_user ⟨b, hb, rfl⟩
      obtain rfl := h.shm.eq_of_user (hperm.mem_iff.mpr List.mem_cons_self) hb hcuser
      have hinv := h.shm.freed hperm (h.shm.header c hb) hfree (hproper c hk)
      simp only [TeecWorld.release, h.release_held hk hfree (hproper c hk), hshadow, huser, ne_eq,
        not_false_eq_true, and_self, if_true, herase]
      refine ⟨hinv, h.custody.drop hk hperm, fun l => ?_⟩
      have hnone : RecordAgrees
          { w.record k with shadowBuffer := 0, buffer := 0, size := 0 } (w.called k) none :=
        fun _ => rfl
      have hupdate := recordAgrees_update (k := k) h.record hnone l
      rwa [Function.update_eq_self] at hupdate

/-- In every run of proper steps the invariant holds. -/
lemma teecInv_of_reachable (h : (properTeec cfg).Reachable w) : TeecInv cfg w := by
  refine h.invariant ?_ ?_
  · rintro w ⟨⟨mem, hshm⟩, hcalled, hheld⟩
    have hnone : w.held = fun _ => none := funext hheld
    refine ⟨?_, ?_, fun k => ?_⟩
    · rw [hshm]
      exact .init mem
    · rw [hshm, hnone]
      exact .init
    · rw [hheld k, hcalled k]
      exact fun hk => by cases hk
  · rintro w op w' hw ⟨hproper, hallowed, rfl⟩
    cases op with
    | setFields k size flags => exact hw.setFields flags
    | allocate k gcdAnswer => exact hw.allocate hallowed hproper
    | release k free => exact hw.release hallowed hproper
    | write k offset bytes => exact hw.write hallowed

end Invariant

/-! ## The life cycle -/

/-- The release of a block clears the record and takes the block off the map, once: a second
release changes nothing. -/
structure Released (cfg : ShmConfig) (free : Span → List Span → EfiStatus × List Span)
    (b : ShmBlock) (sm : TeecSharedMemory) (s : ShmState) : Prop where
  cleared : (sm.release cfg free s).1.buffer = 0 ∧ (sm.release cfg free s).1.size = 0
  freed : (sm.release cfg free s).2.gcd = s.gcd.erase (b.span cfg.arch)
  once : s.gcd.count (b.span cfg.arch) = 1
  again : ∀ free', teecReleaseSharedMemory cfg free' (some (sm.release cfg free s).1)
    (sm.release cfg free s).2 = (some (sm.release cfg free s).1, (sm.release cfg free s).2)

/-- The allocator is as `GcdSharedMemoryInit` leaves it. -/
structure AsInitialised (cfg : ShmConfig) (s : ShmState) : Prop where
  gcd : s.gcd = []
  counters : s.mSharedMemAllocationCount = 0 ∧ s.mSharedMemAllocSize = 0
  fenced : ∀ x, cfg.pool.Has x → s.mem x = opteeShmFreeFence

/-- An allocation gives object `k` a block that was not out, or clears its buffer and leaves the
allocator alone. -/
def AllocatesNew (cfg : ShmConfig) (w : TeecWorld) (k : ℕ) (gcdAnswer : Option ℕ) : Prop :=
  if ((w.record k).allocate cfg gcdAnswer w.shm.state).1 = teecSuccess then
    ∃ b, (w.allocate cfg k gcdAnswer).held k = some b ∧ b ∉ w.shm.live ∧
      b.size = (w.record k).size ∧
      ((w.record k).allocate cfg gcdAnswer w.shm.state).2.1.buffer = b.user
  else ((w.record k).allocate cfg gcdAnswer w.shm.state).2.1.buffer = 0 ∧
    ((w.record k).allocate cfg gcdAnswer w.shm.state).2.2 = w.shm.state

/-- What holds between the calls of clients. -/
structure LifeCycle (cfg : ShmConfig) (w : TeecWorld) : Prop where
  buffer : ∀ k b, w.held k = some b → (w.record k).buffer = b.user ∧ b.user ≠ 0 ∧
    b.span cfg.arch ∈ w.shm.state.gcd ∧ b.userSpan.Within (b.span cfg.arch)
  null : ∀ k, w.called k = true → w.held k = none → (w.record k).buffer = 0
  allocated : ∀ k gcdAnswer, (TeecOp.allocate k gcdAnswer).Allowed cfg w →
    (TeecOp.allocate k gcdAnswer).Proper cfg w → AllocatesNew cfg w k gcdAnswer
  apart : ∀ k l b c, w.held k = some b → w.held l = some c → k ≠ l →
    (b.span cfg.arch).Apart (c.span cfg.arch)
  released : ∀ k b free, w.held k = some b → (TeecOp.release k free).Allowed cfg w →
    (TeecOp.release k free).Proper cfg w → Released cfg free b (w.record k) w.shm.state
  initial : (∀ k, w.held k = none) → AsInitialised cfg w.shm.state

section LifeCycle

variable {cfg : ShmConfig} {w : TeecWorld} {b c : ShmBlock} {k l : ℕ}
  {free : Span → List Span → EfiStatus × List Span}

lemma TeecInv.apart (h : TeecInv cfg w) (hk : w.held k = some b) (hl : w.held l = some c)
    (hne : k ≠ l) : (b.span cfg.arch).Apart (c.span cfg.arch) := by
  refine h.shm.apart_of_ne (h.custody.mem hk) (h.custody.mem hl) ?_
  rintro rfl
  exact hne (h.custody.unique k l b hk hl)

/-- The range of a live block is on the map once. -/
lemma ShmInv.count_span {u : ShmWorld} (h : ShmInv cfg u) (hb : b ∈ u.live) :
    u.state.gcd.count (b.span cfg.arch) = 1 := by
  have hnodup : u.state.gcd.Nodup := by
    rw [h.gcd.nodup_iff, List.Nodup, List.pairwise_map]
    refine h.apart.imp_of_mem fun {c d} hc _ hapart hsame => ?_
    obtain ⟨hblock, -⟩ := (h.placed c hc).bounds
    rw [← hsame] at hapart
    simp only [Span.Apart, ShmBlock.span] at hapart
    omega
  exact List.count_eq_one_of_mem hnodup (h.gcd.mem_iff.mpr (List.mem_map_of_mem hb))

lemma TeecInv.allocatesNew (h : TeecInv cfg w) {gcdAnswer : Option ℕ}
    (hallowed : (TeecOp.allocate k gcdAnswer).Allowed cfg w)
    (hproper : (TeecOp.allocate k gcdAnswer).Proper cfg w) : AllocatesNew cfg w k gcdAnswer := by
  obtain ⟨-, hanswer⟩ := hallowed
  obtain ⟨hcond, hfits⟩ := hproper
  rw [AllocatesNew]
  by_cases hflags : (w.record k).flags = 0
  swap
  · rw [allocate_rejected hflags, if_neg rejected_ne.1]
    exact ⟨hcond.resolve_left hflags, rfl⟩
  rcases h.shm.memAlloc_cases (hfits hflags) hanswer with hnone | ⟨base, rfl, hfst, hnew, -⟩
  · have hzero : (opteeClientMemAlloc cfg gcdAnswer (w.record k).size w.shm.state).1 = 0 := by
      rw [hnone]
    rw [allocate_failed hflags hzero, if_neg rejected_ne.2, hnone]
    exact ⟨rfl, rfl⟩
  · have hsome : (opteeClientMemAlloc cfg (some base) (w.record k).size w.shm.state).1 ≠ 0 := by
      rw [hfst, efiPageSize]
      omega
    rw [allocate_succeeded hflags hsome, if_pos rfl]
    refine ⟨⟨base, base + efiPageSize, (w.record k).size⟩, ?_, fun hb => hnew _ hb rfl, rfl, hfst⟩
    simp only [TeecWorld.allocate, allocate_succeeded hflags hsome, if_true, hfst, Option.map_some,
      Function.update_self]

lemma TeecInv.released (h : TeecInv cfg w) (hk : w.held k = some b) (hfree : GcdFrees free)
    (hok : (free (b.span cfg.arch) w.shm.state.gcd).1.isError = false) :
    Released cfg free b (w.record k) w.shm.state := by
  have hb := h.custody.mem hk
  have hrun := h.release_held hk hfree hok
  refine ⟨?_, ?_, h.shm.count_span hb, fun free' => ?_⟩
  · rw [hrun]
    exact ⟨rfl, rfl⟩
  · rw [hrun, (h.shm.opteeClientMemFree_eq hb (h.shm.header b hb) hfree hok).2]
  · simp only [teecReleaseSharedMemory, hrun]
    rfl

lemma TeecInv.initial (h : TeecInv cfg w) (hnone : ∀ k, w.held k = none) :
    AsInitialised cfg w.shm.state := by
  have hnil := h.custody.live_eq_nil hnone
  have hgcd := h.shm.gcd
  have hcount := h.shm.count
  have htotal := h.shm.total
  have hfence := h.shm.fence
  rw [hnil] at hgcd hcount htotal hfence
  exact ⟨hgcd.eq_nil, ⟨hcount, htotal⟩, fun x hx => hfence x hx fun b hb => by cases hb⟩

lemma TeecInv.lifeCycle (h : TeecInv cfg w) : LifeCycle cfg w where
  buffer k b hk := by
    have hplaced := h.shm.placed b (h.custody.mem hk)
    exact ⟨(h.held hk).1, hplaced.user_ne_zero,
      h.shm.gcd.mem_iff.mpr (List.mem_map_of_mem (h.custody.mem hk)), hplaced.user_within⟩
  null k hcalled hk := h.idle hcalled hk
  allocated k gcdAnswer hallowed hproper := h.allocatesNew hallowed hproper
  apart k l b c hk hl hne := h.apart hk hl hne
  released k b free hk hallowed hproper := h.released hk hallowed.2 (hproper b hk)
  initial hnone := h.initial hnone

/-- A record that points to the block of another object, and whose flags are turned down, has that
block freed by its release. -/
lemma TeecInv.release_stale (h : TeecInv cfg w) (hl : w.held l = some b)
    {sm : TeecSharedMemory} {gcdAnswer : Option ℕ} (hflags : sm.flags ≠ 0)
    (hstale : sm.buffer = b.user ∧ sm.shadowBuffer = b.user) :
    ((sm.allocate cfg gcdAnswer w.shm.state).2.1.release cfg freeMemorySpace
      (sm.allocate cfg gcdAnswer w.shm.state).2.2).2.gcd =
      w.shm.state.gcd.erase (b.span cfg.arch) := by
  have hb := h.custody.mem hl
  have huser := (h.shm.placed b hb).user_ne_zero
  have hout : b.span cfg.arch ∈ w.shm.state.gcd :=
    h.shm.gcd.mem_iff.mpr (List.mem_map_of_mem hb)
  obtain ⟨hstatus, hstate⟩ := h.shm.opteeClientMemFree_eq hb (h.shm.header b hb)
    freeMemorySpace_frees (freeMemorySpace_taken hout)
  rw [allocate_rejected hflags]
  simp only [TeecSharedMemory.release, hstale.1, hstale.2, huser, if_false, hstatus, hstate,
    Bool.false_eq_true]

/-- An allocation sets the buffer of a record as documented exactly where the record has no flags
or no buffer; and in every run that allocates only such records, of sizes that do not wrap, with a
GCD that takes every block back, each object has a block of its own from its allocation to its
release, and the last release leaves the allocator as it was initialised. -/
theorem teecLifeCycle (cfg : ShmConfig) :
    (∀ gcdAnswer context sm s, context ≠ 0 →
      (BufferSet cfg gcdAnswer context sm s ↔ sm.flags = 0 ∨ sm.buffer = 0)) ∧
    ∀ w, ((teecSystem cfg).restrict fun w op => op.Proper cfg w).Reachable w → LifeCycle cfg w :=
  ⟨fun _ _ _ _ hcontext => bufferSet_iff hcontext, fun _ h => (teecInv_of_reachable h).lifeCycle⟩

end LifeCycle

/-! A client that allocates sixteen bytes of the pool of two pages. -/

/-- Sixteen bytes asked for in a record of zeros, in front of records that point to its block. -/
def teecTwoPageWorld : TeecWorld where
  shm := twoPageWorld
  record k := if k = 0 then ⟨0, 16, 0, 0⟩ else ⟨12288, 16, 1, 12288⟩
  called _ := false
  held _ := none

lemma called_allocate (cfg : ShmConfig) (w : TeecWorld) (k : ℕ) (gcdAnswer : Option ℕ) :
    (w.allocate cfg k gcdAnswer).called k = true := by
  rcases hcall : (w.record k).allocate cfg gcdAnswer w.shm.state with ⟨result, sm, s⟩
  simp only [TeecWorld.allocate, hcall, Function.update_self]

/-- What an object holds is allocated, so `FreeMemorySpace` takes it back. -/
lemma proper_release {cfg : ShmConfig} {w : TeecWorld} (h : (properTeec cfg).Reachable w)
    (k : ℕ) : (TeecOp.release k freeMemorySpace).Proper cfg w := by
  intro b hk
  have hinv := teecInv_of_reachable h
  exact freeMemorySpace_taken
    (hinv.shm.gcd.mem_iff.mpr (List.mem_map_of_mem (hinv.custody.mem hk)))

lemma reachable_release {cfg : ShmConfig} {w : TeecWorld} (h : (properTeec cfg).Reachable w)
    {k : ℕ} (hcalled : w.called k = true) :
    (properTeec cfg).Reachable (w.release cfg k freeMemorySpace) :=
  h.step (i := .release k freeMemorySpace)
    ⟨proper_release h k, ⟨hcalled, freeMemorySpace_frees⟩, rfl⟩

/-- The first record after its allocation, and after its release. -/
theorem teecLifeCycle_sixteenBytes :
    LifeCycle twoPagePool (teecTwoPageWorld.allocate twoPagePool 0 (some 8192)) ∧
      LifeCycle twoPagePool ((teecTwoPageWorld.allocate twoPagePool 0 (some 8192)).release
        twoPagePool 0 freeMemorySpace) := by
  have hinit : (properTeec twoPagePool).Reachable teecTwoPageWorld :=
    .init ⟨⟨fun _ => 0, rfl⟩, fun _ => rfl, fun _ => rfl⟩
  have hanswer : GcdAnswers twoPagePool twoPageWorld.state 16 (some 8192) :=
    twoPageWorld_answers 16 (by decide)
  have hproper : (TeecOp.allocate 0 (some 8192)).Proper twoPagePool teecTwoPageWorld :=
    ⟨.inl rfl, fun _ => (by decide : BlockFits twoPagePool 16)⟩
  have hallowed : (TeecOp.allocate 0 (some 8192)).Allowed twoPagePool teecTwoPageWorld :=
    ⟨rfl, hanswer⟩
  have hallocated : (properTeec twoPagePool).Reachable
      (teecTwoPageWorld.allocate twoPagePool 0 (some 8192)) := hinit.step ⟨hproper, hallowed, rfl⟩
  have hreleased := reachable_release hallocated (called_allocate _ _ _ _)
  exact ⟨(teecLifeCycle twoPagePool).2 _ hallocated, (teecLifeCycle twoPagePool).2 _ hreleased⟩

/-- A record with flags keeps the buffer it had. -/
theorem not_bufferSet_staleRecord :
    ¬ BufferSet twoPagePool none 1 ⟨12288, 16, 1, 12288⟩ twoPageWorld.state := by
  intro h
  rcases (bufferSet_iff (by decide)).mp h with hflags | hbuffer
  · exact absurd hflags (by decide)
  · exact absurd hbuffer (by decide)

end Optee
end MuPlatform
