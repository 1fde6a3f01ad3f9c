import MuPlatform.Optee.Leaks
import MuPlatform.Optee.SharedMemory

/-!
# Submitting a command to the firmware TPM

`Tpm2SubmitCommand` (`Tpm2DeviceLibOptee.c`): the command goes into one block of shared memory with
room for the response behind it, the TA is invoked on the two halves, and the response is copied
back.

The size of the block is a 32-bit sum, the length of the copy is what the TA returns, and the
release of the block depends on its header and on the GCD.  These are the only things that go wrong
(`submitRight_iff`).  The blocks of the caller lie in its own memory, apart from the shared pool.
-/

namespace MuPlatform
namespace Optee

/-- `TA_FTPM_SUBMIT_COMMAND`. -/
def taFtpmSubmitCommand : UInt32 := 0

/-- What a caller passes to `Tpm2SubmitCommand`; blocks are given by their addresses. -/
structure Tpm2Request where
  inputParameterBlockSize : UInt32
  inputParameterBlock : ℕ
  outputParameterBlockSize : UInt32
  outputParameterBlock : ℕ

/-- What `Tpm2SubmitCommand` leaves: its status, `*OutputParameterBlockSize`, the memory of the
caller and the shared pool. -/
structure Tpm2Outcome where
  status : EfiStatus
  outputParameterBlockSize : UInt32
  caller : ByteStore
  state : ShmState

/-- A parameter as a `TEEC_RegisteredMemoryReference`, whose first field is a pointer. -/
def memrefSize (arch : Arch) (param : ByteStore) : ℕ :=
  param.loadNat arch.uintnBytes arch.uintnBytes

namespace Tpm2Request

variable (r : Tpm2Request)

/-- `TeecSharedMem`, which starts as zeros, with its size set: a sum of `UINT32` values. -/
def sharedMem : TeecSharedMemory :=
  ⟨0, (r.inputParameterBlockSize + r.outputParameterBlockSize).toNat, 0, 0⟩

/-- `SharedOutput`, where the block is at `buffer`. -/
def sharedOutput (arch : Arch) (buffer : ℕ) : ℕ :=
  arch.uintn (buffer + r.inputParameterBlockSize.toNat)

/-- `TeecOperation`, of types `TEEC_MEMREF_TEMP_INPUT` and `TEEC_MEMREF_TEMP_INOUT`. -/
def operation (arch : Arch) (buffer : ℕ) : TeecOperation where
  paramTypes := teecMemrefTempInput ||| teecMemrefTempInout <<< 4
  params
    | 0 => setTmpref arch buffer r.inputParameterBlockSize.toNat fun _ => 0
    | 1 => setTmpref arch (r.sharedOutput arch buffer) r.outputParameterBlockSize.toNat fun _ => 0
    | _ => fun _ => 0

/-- The shared memory with the command in it. -/
def copied (buffer : ℕ) (caller : ByteStore) (s : ShmState) : ShmState :=
  let bytes := caller.read r.inputParameterBlock r.inputParameterBlockSize.toNat
  { s with mem := s.mem.write buffer bytes }

section Submit

variable (cfg : ShmConfig) (shmAnswer msgAnswer : Option ℕ)
  (gcdFree : Span → List Span → EfiStatus × List Span) (rounds : List SmcRound) (sessionId : UInt32)

/-- `TEEC_InvokeCommand` on the block at `buffer`. -/
def invoke (buffer : ℕ) (s : ShmState) : Option SmcOutcome :=
  teecSmcInvokeCommand cfg msgAnswer gcdFree rounds sessionId taFtpmSubmitCommand
    (r.operation cfg.arch buffer) s

/-- `Tpm2SubmitCommand`. -/
def tpm2SubmitCommand (initialized : Bool) (caller : ByteStore) (s : ShmState) :
    Option Tpm2Outcome :=
  if initialized = false then some ⟨.notReady, r.outputParameterBlockSize, caller, s⟩
  else
    match r.sharedMem.allocate cfg shmAnswer s with
    | (result, sm, s) =>
      if result ≠ teecSuccess then
        some ⟨if result = teecErrorOutOfMemory then .outOfResources else .deviceError,
          r.outputParameterBlockSize, caller, s⟩
      else
        (r.invoke cfg msgAnswer gcdFree rounds sessionId sm.buffer
          (r.copied sm.buffer caller s)).map fun out =>
            if out.result ≠ teecSuccess then
              ⟨.deviceError, r.outputParameterBlockSize, caller,
                (sm.release cfg gcdFree out.state).2⟩
            else
              let size := memrefSize cfg.arch (out.operation.params 1)
              { status := .success
                outputParameterBlockSize := UInt32.ofNat size
                caller := caller.write r.outputParameterBlock
                  (out.state.mem.read (r.sharedOutput cfg.arch sm.buffer) size)
                state := (sm.release cfg gcdFree out.state).2 }

end Submit

end Tpm2Request

/-! ## What a submission comes to -/

section Outcome

open Ledger Tpm2Request

variable (cfg : ShmConfig) (shmAnswer msgAnswer : Option ℕ)
  (gcdFree : Span → List Span → EfiStatus × List Span) (rounds : List SmcRound) (sessionId : UInt32)
  (r : Tpm2Request) (caller : ByteStore) (s : ShmState)

/-- The allocation of the block. -/
def Tpm2Request.block : ℕ × ShmState := opteeClientMemAlloc cfg shmAnswer r.sharedMem.size s

/-- The state in which the TA is invoked. -/
def Tpm2Request.submitted : ShmState :=
  r.copied (r.block cfg shmAnswer s).1 caller (r.block cfg shmAnswer s).2

/-- The call that invokes the TA. -/
def Tpm2Request.call : TeecCall :=
  .invokeCommand sessionId taFtpmSubmitCommand (r.operation cfg.arch (r.block cfg shmAnswer s).1)

/-- What the invocation of the TA leaves. -/
def Tpm2Request.invoked : Option SmcOutcome :=
  r.invoke cfg msgAnswer gcdFree rounds sessionId (r.block cfg shmAnswer s).1
    (r.submitted cfg shmAnswer caller s)

/-- The range of the block at a base. -/
def Tpm2Request.blockRange (base : ℕ) : Span := ⟨base, allocBlockSize cfg.arch r.sharedMem.size⟩

/-- The ledger of a submission that has allocated its block. -/
def Tpm2Request.ledger : List (Entry Span) :=
  allocEntries cfg shmAnswer r.sharedMem.size opteeClientMemByteAlignment s ++
    ((r.call cfg shmAnswer sessionId s).ledger cfg msgAnswer gcdFree rounds
        (r.submitted cfg shmAnswer caller s) ++
      match r.invoked cfg shmAnswer msgAnswer gcdFree rounds sessionId caller s with
      | none => []
      | some out => freeEntries cfg gcdFree (r.block cfg shmAnswer s).1 out.state)

/-- What a submission that invokes the TA leaves. -/
def Tpm2Request.outcome (inv : SmcOutcome) : Tpm2Outcome :=
  let state := (opteeClientMemFree cfg gcdFree (r.block cfg shmAnswer s).1 inv.state).2
  if inv.result ≠ teecSuccess then ⟨.deviceError, r.outputParameterBlockSize, caller, state⟩
  else
    let size := memrefSize cfg.arch (inv.operation.params 1)
    ⟨.success, UInt32.ofNat size, caller.write r.outputParameterBlock
      (inv.state.mem.read (r.sharedOutput cfg.arch (r.block cfg shmAnswer s).1) size), state⟩

variable {cfg shmAnswer msgAnswer gcdFree rounds sessionId r caller s} {out : Tpm2Outcome}

/-- The release of a block that was allocated. -/
lemma release_state {sm : TeecSharedMemory} (hshadow : sm.shadowBuffer = sm.buffer)
    (hbuffer : sm.buffer ≠ 0) : (sm.release cfg gcdFree s).2 =
      (opteeClientMemFree cfg gcdFree sm.buffer s).2 := by
  have hne : sm.shadowBuffer ≠ 0 := by rwa [hshadow]
  rw [TeecSharedMemory.release, if_neg hbuffer, if_neg hne, hshadow]
  rcases opteeClientMemFree cfg gcdFree sm.buffer s with ⟨status, s'⟩
  by_cases herr : status.isError = true
  · simp only [herr, if_true]
  · simp only [herr, Bool.false_eq_true, if_false]

/-- A submission, by how far it gets. -/
lemma tpm2SubmitCommand_eq : r.tpm2SubmitCommand cfg shmAnswer msgAnswer gcdFree rounds sessionId true
      caller s =
    if (r.block cfg shmAnswer s).1 = 0 then
      some ⟨.outOfResources, r.outputParameterBlockSize, caller, (r.block cfg shmAnswer s).2⟩
    else (r.invoked cfg shmAnswer msgAnswer gcdFree rounds sessionId caller s).map
      (r.outcome cfg shmAnswer gcdFree caller s) := by
  simp only [Tpm2Request.tpm2SubmitCommand, Bool.true_eq_false, if_false]
  by_cases hblock : (r.block cfg shmAnswer s).1 = 0
  · rw [allocate_failed rfl hblock, if_pos hblock]
    simp only [ne_eq, rejected_ne.2, not_false_eq_true, if_true]
    rfl
  · rw [allocate_succeeded rfl hblock, if_neg hblock]
    simp only [ne_eq, not_true, if_false]
    refine congrArg (Option.map · (r.invoked cfg shmAnswer msgAnswer gcdFree rounds sessionId caller s))
      (funext fun inv => ?_)
    rw [release_state rfl hblock]
    rfl

/-- Nothing of the call overruns: the two regions are disjoint parts of the block that was
allocated, no byte of the caller's memory behind the response block changes, a response that does
not fit is reported, and the block is released exactly once. -/
structure SubmitRight (cfg : ShmConfig) (shmAnswer msgAnswer : Option ℕ)
    (gcdFree : Span → List Span → EfiStatus × List Span) (rounds : List SmcRound)
    (sessionId : UInt32) (r : Tpm2Request) (initialized : Bool) (caller : ByteStore)
    (s : ShmState) (out : Tpm2Outcome) : Prop where
  regions : initialized = true → ∀ base, shmAnswer = some base →
    (r.block cfg shmAnswer s).1 ≠ 0 →
      (⟨(r.block cfg shmAnswer s).1, r.inputParameterBlockSize.toNat +
        r.outputParameterBlockSize.toNat⟩ : Span).Within (r.blockRange cfg base) ∧
      (⟨(r.block cfg shmAnswer s).1, r.inputParameterBlockSize.toNat⟩ : Span).Within
        (r.blockRange cfg base) ∧
      (⟨r.sharedOutput cfg.arch (r.block cfg shmAnswer s).1,
        r.outputParameterBlockSize.toNat⟩ : Span).Within (r.blockRange cfg base) ∧
      (⟨(r.block cfg shmAnswer s).1, r.inputParameterBlockSize.toNat⟩ : Span).Apart
        ⟨r.sharedOutput cfg.arch (r.block cfg shmAnswer s).1, r.outputParameterBlockSize.toNat⟩
  written : ∀ x, ¬ (⟨r.outputParameterBlock, r.outputParameterBlockSize.toNat⟩ : Span).Has x →
    out.caller x = caller x
  tooSmall : initialized = true → (r.block cfg shmAnswer s).1 ≠ 0 →
    ∀ inv, r.invoked cfg shmAnswer msgAnswer gcdFree rounds sessionId caller s = some inv →
      inv.result = teecSuccess →
      r.outputParameterBlockSize.toNat < memrefSize cfg.arch (inv.operation.params 1) →
        out.status = .bufferTooSmall
  released : initialized = true → ∀ base, shmAnswer = some base →
    (r.block cfg shmAnswer s).1 ≠ 0 →
      ReleasedOnce (r.blockRange cfg base)
        (r.ledger cfg shmAnswer msgAnswer gcdFree rounds sessionId caller s)

/-- The size of the block does not wrap, neither as a sum of the two nor with the header and the
slack of the allocator. -/
def BlockHolds (cfg : ShmConfig) (r : Tpm2Request) : Prop :=
  r.inputParameterBlockSize.toNat + r.outputParameterBlockSize.toNat < 2 ^ 32 ∧
    BlockFits cfg (r.inputParameterBlockSize.toNat + r.outputParameterBlockSize.toNat)

/-- The TA returns no more than it was offered. -/
def ReplyFits (cfg : ShmConfig) (shmAnswer msgAnswer : Option ℕ)
    (gcdFree : Span → List Span → EfiStatus × List Span) (rounds : List SmcRound)
    (sessionId : UInt32) (r : Tpm2Request) (caller : ByteStore) (s : ShmState) : Prop :=
  ∀ inv, r.invoked cfg shmAnswer msgAnswer gcdFree rounds sessionId caller s = some inv →
    inv.result = teecSuccess →
      memrefSize cfg.arch (inv.operation.params 1) ≤ r.outputParameterBlockSize.toNat

/-- Unless the secure world has released the block, its header outlasts the invocation and the GCD
takes the block back. -/
def SharedOutlasts (cfg : ShmConfig) (shmAnswer msgAnswer : Option ℕ)
    (gcdFree : Span → List Span → EfiStatus × List Span) (rounds : List SmcRound)
    (sessionId : UInt32) (r : Tpm2Request) (caller : ByteStore) (s : ShmState) : Prop :=
  ∀ base inv, shmAnswer = some base →
    r.invoked cfg shmAnswer msgAnswer gcdFree rounds sessionId caller s = some inv →
    .released (r.blockRange cfg base) ∉ (r.call cfg shmAnswer sessionId s).ledger cfg msgAnswer
      gcdFree rounds (r.submitted cfg shmAnswer caller s) →
      inv.state.mem.load32 (headerOf cfg.arch (r.block cfg shmAnswer s).1) = opteeShmSignature ∧
        headerRange cfg (r.block cfg shmAnswer s).1 inv.state = r.blockRange cfg base ∧
        (gcdFree (r.blockRange cfg base) inv.state.gcd).1.isError = false

lemma sharedMem_size : r.sharedMem.size =
    (r.inputParameterBlockSize.toNat + r.outputParameterBlockSize.toNat) % 2 ^ 32 :=
  UInt32.toNat_add _ _

/-- Where it is one page above its base, a block holds both regions exactly if its size does not
wrap. -/
lemma within_blockRange_iff {base : ℕ} :
    (⟨base + efiPageSize, r.inputParameterBlockSize.toNat +
      r.outputParameterBlockSize.toNat⟩ : Span).Within (r.blockRange cfg base) ↔
        BlockHolds cfg r := by
  have hheader := headerSize_bounds cfg.arch
  simp only [Span.Within, blockRange, BlockHolds, BlockFits, allocBlockSize, Arch.uintn,
    sharedMem_size, opteeShmAllocAlign, efiPageSize]
  set n := r.inputParameterBlockSize.toNat + r.outputParameterBlockSize.toNat with hn
  constructor
  · rintro ⟨-, hhi⟩
    have hle := Nat.mod_le (cfg.arch.headerSize + n % 2 ^ 32 + (4096 - 1)) (2 ^ cfg.arch.uintnBits)
    have hsum : n < 2 ^ 32 := by omega
    rw [Nat.mod_eq_of_lt hsum] at hhi
    refine ⟨hsum, ?_⟩
    by_contra hwrap
    rw [Nat.mod_eq_sub_mod (not_lt.mp hwrap)] at hhi
    have hle' := Nat.mod_le (cfg.arch.headerSize + n + (4096 - 1) - 2 ^ cfg.arch.uintnBits)
      (2 ^ cfg.arch.uintnBits)
    have hbits : 2 ^ 32 ≤ 2 ^ cfg.arch.uintnBits :=
      Nat.pow_le_pow_right (by decide) (by cases cfg.arch <;> decide)
    omega
  · rintro ⟨hsum, hfits⟩
    rw [Nat.mod_eq_of_lt hsum, Nat.mod_eq_of_lt hfits]
    omega

variable {initialized : Bool}

/-- The block that was allocated is one page above the base of its range. -/
lemma block_page {base : ℕ} (hpages : efiPageSize ∣ cfg.size)
    (hanswer : GcdAnswers cfg s r.sharedMem.size (some base))
    (hblock : (r.block cfg (some base) s).1 ≠ 0) :
    (r.block cfg (some base) s).1 = base + efiPageSize ∧
      allocEntries cfg (some base) r.sharedMem.size opteeClientMemByteAlignment s =
        [.granted (r.blockRange cfg base)] := by
  have hgranted : ¬ Refused cfg (some base) r.sharedMem.size opteeClientMemByteAlignment s :=
    fun hrefused => hblock (internalMemAlloc_refused hrefused)
  obtain ⟨hgood, hrest⟩ := not_or.mp hgranted
  have hfree : isSharedMemoryRegionFree cfg.arch s.mem base
      (allocBlockSize cfg.arch r.sharedMem.size) ≠ false :=
    fun hbroken => hrest (.inr ⟨base, rfl, hbroken⟩)
  refine ⟨internalMemAlloc_page hpages hanswer hgranted, ?_⟩
  simp only [allocEntries, if_neg hgood, if_neg hfree, blockRange]

/-- The two regions are disjoint parts of a block whose size does not wrap. -/
lemma regions_of_holds {base : ℕ} (hanswer : GcdAnswers cfg s r.sharedMem.size (some base))
    (hholds : BlockHolds cfg r) :
    (⟨base + efiPageSize, r.inputParameterBlockSize.toNat⟩ : Span).Within (r.blockRange cfg base) ∧
      (⟨r.sharedOutput cfg.arch (base + efiPageSize), r.outputParameterBlockSize.toNat⟩ :
        Span).Within (r.blockRange cfg base) ∧
      (⟨base + efiPageSize, r.inputParameterBlockSize.toNat⟩ : Span).Apart
        ⟨r.sharedOutput cfg.arch (base + efiPageSize), r.outputParameterBlockSize.toNat⟩ := by
  have hwithin : (⟨base + efiPageSize, r.inputParameterBlockSize.toNat +
      r.outputParameterBlockSize.toNat⟩ : Span).Within (r.blockRange cfg base) :=
    within_blockRange_iff.mpr hholds
  obtain ⟨-, -, hin, -⟩ := hanswer base rfl
  have hend := cfg.end_lt
  simp only [Span.Within, Span.Apart, blockRange, ShmConfig.pool] at hwithin hin ⊢
  have hout : r.sharedOutput cfg.arch (base + efiPageSize) =
      base + efiPageSize + r.inputParameterBlockSize.toNat := Arch.uintn_of_lt (by omega)
  rw [hout]
  omega

/-- The block is released exactly once on the way out exactly where its header and the GCD have it,
whatever the TA returns. -/
lemma released_iff_outlasts {base : ℕ} {inv : SmcOutcome} (hpages : efiPageSize ∣ cfg.size)
    (hanswer : GcdAnswers cfg s r.sharedMem.size (some base))
    (hcall : (r.call cfg (some base) sessionId s).Answered cfg msgAnswer gcdFree rounds
      (r.submitted cfg (some base) caller s))
    (hmap : s.gcd.Nodup) (hblock : (r.block cfg (some base) s).1 ≠ 0)
    (hinv : r.invoked cfg (some base) msgAnswer gcdFree rounds sessionId caller s = some inv) :
    ReleasedOnce (r.blockRange cfg base)
        (r.ledger cfg (some base) msgAnswer gcdFree rounds sessionId caller s) ↔
      SharedOutlasts cfg (some base) msgAnswer gcdFree rounds sessionId r caller s := by
  have hentries := (block_page hpages hanswer hblock).2
  have hrun : (r.call cfg (some base) sessionId s).run cfg msgAnswer gcdFree rounds
      (r.submitted cfg (some base) caller s) = some inv.state :=
    congrArg (Option.map SmcOutcome.state) hinv
  have halloc : Entered s [.granted (r.blockRange cfg base)]
      (r.submitted cfg (some base) caller s) := by
    rw [← hentries]
    exact (allocEntries_entered fun _ => hanswer).sameBooks (sameBooks_mem _ _)
  have hledger : r.ledger cfg (some base) msgAnswer gcdFree rounds sessionId caller s =
      [.granted (r.blockRange cfg base)] ++
        ((r.call cfg (some base) sessionId s).ledger cfg msgAnswer gcdFree rounds
            (r.submitted cfg (some base) caller s) ++
          freeEntries cfg gcdFree (r.block cfg (some base) s).1 inv.state) := by
    rw [Tpm2Request.ledger, hentries]
    simp only [hinv]
  have hentered := halloc.append ((TeecCall.entered hcall hrun).append
    (@freeEntries_entered cfg _ (r.block cfg (some base) s).1 inv.state hcall.free))
  rw [hledger]
  constructor
  · rintro ⟨hmem, -⟩ base' inv' hbase hinv' hrpc
    obtain rfl := Option.some.inj hbase
    obtain rfl := Option.some.inj (hinv.symm.trans hinv')
    rw [List.mem_append, List.mem_append] at hmem
    rcases hmem with hgranted | hcalled | hexit
    · exact absurd (List.mem_singleton.mp hgranted) (by simp)
    · exact absurd hcalled hrpc
    · exact (mem_freeEntries hcall.free).mp hexit
  · intro houtlasts
    refine hentered.map.releasedOnce (Multiset.coe_nodup.mpr hmap) (List.mem_append_right _ ?_)
    by_cases hrpc : .released (r.blockRange cfg base) ∈
        (r.call cfg (some base) sessionId s).ledger cfg msgAnswer gcdFree rounds
          (r.submitted cfg (some base) caller s)
    · exact List.mem_append_left _ hrpc
    · exact List.mem_append_right _
        ((mem_freeEntries hcall.free).mpr (houtlasts base inv rfl hinv hrpc))

section Allocated

variable {base : ℕ} {inv : SmcOutcome}

lemma fits_of_submitRight (hpages : efiPageSize ∣ cfg.size)
    (hanswer : GcdAnswers cfg s r.sharedMem.size (some base))
    (hblock : (r.block cfg (some base) s).1 ≠ 0)
    (hinv : r.invoked cfg (some base) msgAnswer gcdFree rounds sessionId caller s = some inv)
    (h : SubmitRight cfg (some base) msgAnswer gcdFree rounds sessionId r true caller s
      (r.outcome cfg (some base) gcdFree caller s inv)) :
    BlockHolds cfg r ∧ ReplyFits cfg (some base) msgAnswer gcdFree rounds sessionId r caller s := by
  refine ⟨?_, fun inv' hinv' hresult => ?_⟩
  · have hwithin := (h.regions rfl base rfl hblock).1
    rw [(block_page hpages hanswer hblock).1] at hwithin
    exact within_blockRange_iff.mp hwithin
  · by_contra hlarge
    obtain rfl := Option.some.inj (hinv.symm.trans hinv')
    have hstatus := h.tooSmall rfl hblock inv hinv hresult (not_le.mp hlarge)
    simp only [Tpm2Request.outcome, hresult, ne_eq, not_true, if_false] at hstatus
    cases hstatus

lemma submitRight_of_fits (hpages : efiPageSize ∣ cfg.size)
    (hanswer : GcdAnswers cfg s r.sharedMem.size (some base))
    (hcall : (r.call cfg (some base) sessionId s).Answered cfg msgAnswer gcdFree rounds
      (r.submitted cfg (some base) caller s))
    (hmap : s.gcd.Nodup) (hblock : (r.block cfg (some base) s).1 ≠ 0)
    (hinv : r.invoked cfg (some base) msgAnswer gcdFree rounds sessionId caller s = some inv)
    (hholds : BlockHolds cfg r)
    (hfits : ReplyFits cfg (some base) msgAnswer gcdFree rounds sessionId r caller s)
    (houtlasts : SharedOutlasts cfg (some base) msgAnswer gcdFree rounds sessionId r caller s) :
    SubmitRight cfg (some base) msgAnswer gcdFree rounds sessionId r true caller s
      (r.outcome cfg (some base) gcdFree caller s inv) where
  regions := by
    rintro - base' hbase -
    obtain rfl := Option.some.inj hbase
    rw [(block_page hpages hanswer hblock).1]
    exact ⟨within_blockRange_iff.mpr hholds, regions_of_holds hanswer hholds⟩
  written x hx := by
    rw [Tpm2Request.outcome]
    by_cases hresult : inv.result = teecSuccess
    · simp only [hresult, ne_eq, not_true, if_false]
      have hsize := hfits inv hinv hresult
      refine ByteStore.write_apply_off ?_
      rw [ByteStore.length_read]
      simp only [Span.Has] at hx
      omega
    · simp only [hresult, ne_eq, not_false_eq_true, if_true]
  tooSmall _ _ inv' hinv' hresult hlarge :=
    absurd (hfits inv' hinv' hresult) (not_le.mpr hlarge)
  released := by
    rintro - base' hbase -
    obtain rfl := Option.some.inj hbase
    exact (released_iff_outlasts hpages hanswer hcall hmap hblock hinv).mpr houtlasts

end Allocated

/-- Where a block is allocated, nothing overruns and the block is released exactly if its size does
not wrap, the response fits, and header and GCD let it be released. -/
theorem submitRight_iff (hpages : efiPageSize ∣ cfg.size)
    (hanswer : GcdAnswers cfg s r.sharedMem.size shmAnswer)
    (hcall : (r.call cfg shmAnswer sessionId s).Answered cfg msgAnswer gcdFree rounds
      (r.submitted cfg shmAnswer caller s))
    (hmap : s.gcd.Nodup)
    (hrun : r.tpm2SubmitCommand cfg shmAnswer msgAnswer gcdFree rounds sessionId initialized caller
      s = some out) :
    SubmitRight cfg shmAnswer msgAnswer gcdFree rounds sessionId r initialized caller s out ↔
      (initialized = true → (r.block cfg shmAnswer s).1 ≠ 0 →
        BlockHolds cfg r ∧
          ReplyFits cfg shmAnswer msgAnswer gcdFree rounds sessionId r caller s ∧
          SharedOutlasts cfg shmAnswer msgAnswer gcdFree rounds sessionId r caller s) := by
  cases initialized with
  | false =>
      obtain rfl := Option.some.inj hrun
      exact iff_of_true ⟨fun h => (by cases h), fun _ _ => rfl, fun h => (by cases h),
        fun h => (by cases h)⟩ fun h => (by cases h)
  | true =>
      rw [tpm2SubmitCommand_eq] at hrun
      by_cases hblock : (r.block cfg shmAnswer s).1 = 0
      · rw [if_pos hblock] at hrun
        obtain rfl := Option.some.inj hrun
        exact iff_of_true ⟨fun _ _ _ hne => absurd hblock hne, fun _ _ => rfl,
          fun _ hne => absurd hblock hne, fun _ _ _ hne => absurd hblock hne⟩
          fun _ hne => absurd hblock hne
      rw [if_neg hblock] at hrun
      obtain ⟨inv, hinv, rfl⟩ := Option.map_eq_some_iff.mp hrun
      obtain ⟨base, rfl⟩ : ∃ base, shmAnswer = some base :=
        Option.ne_none_iff_exists'.mp fun hnone =>
          hblock (internalMemAlloc_refused (.inr (.inl hnone)))
      have hreleased := released_iff_outlasts hpages hanswer hcall hmap hblock hinv
      constructor
      · intro h _ _
        obtain ⟨hholds, hfits⟩ := fits_of_submitRight hpages hanswer hblock hinv h
        exact ⟨hholds, hfits, hreleased.mp (h.released rfl base rfl hblock)⟩
      · intro hcond
        obtain ⟨hholds, hfits, houtlasts⟩ := hcond rfl hblock
        exact submitRight_of_fits hpages hanswer hcall hmap hblock hinv hholds hfits houtlasts

end Outcome

/-! ## A secure world that keeps to what it is lent -/

section Confined

variable {cfg : ShmConfig} {w : ShmWorld} {base : ℕ} {sessionId cmdId : UInt32} {op : TeecOperation}
  {f : ByteStore → ByteStore}

/-- A command to a secure world that returns at once, having written into its message and the
blocks of clients only: the result and the parameters are what it left in the message, and the
clients keep their blocks. -/
lemma ShmInv.invokeCommand (h : ShmInv cfg w)
    (hanswer : GcdAnswers cfg w.state 160 (some base))
    (hf : ∀ mem x, ¬ (⟨base + efiPageSize, 160⟩ : Span).Has x →
      (∀ b ∈ w.live, ¬ b.userSpan.Has x) → f mem x = mem x) :
    ∃ inv mem, teecSmcInvokeCommand cfg (some base) freeMemorySpace [returningRound f] sessionId
        cmdId op w.state = some inv ∧ ShmInv cfg ⟨inv.state, w.live⟩ ∧
      inv.result = (f ((SmcCall.invokeCommand sessionId cmdId).message cfg.arch op
        (base + efiPageSize) mem)).load32 (base + efiPageSize + MsgArg.ret) ∧
      inv.operation = getMsgParams cfg.arch op (base + efiPageSize + MsgArg.params)
        (f ((SmcCall.invokeCommand sessionId cmdId).message cfg.arch op (base + efiPageSize) mem)) := by
  have hfits : BlockFits cfg 160 := by
    have hheader := headerSize_bounds cfg.arch
    have hbits : 2 ^ 32 ≤ 2 ^ cfg.arch.uintnBits :=
      Nat.pow_le_pow_right (by decide) (by cases cfg.arch <;> decide)
    simp only [BlockFits, opteeShmAllocAlign, efiPageSize]
    omega
  obtain ⟨hfst, hnew, hinv⟩ := h.memAlloc_some hfits hanswer
  rcases halloc : opteeClientMemAlloc cfg (some base) 160 w.state with ⟨msg, s⟩
  rw [halloc] at hfst hinv
  obtain rfl : msg = base + efiPageSize := hfst
  have hne : base + efiPageSize ≠ 0 := by simp only [efiPageSize]; omega
  set message := (SmcCall.invokeCommand sessionId cmdId).message cfg.arch op (base + efiPageSize)
    s.mem with hmessage
  have hprepare : prepare cfg (some base) (.invokeCommand sessionId cmdId) op w.state =
      (base + efiPageSize, { s with mem := message }) := by
    have hsize : (SmcCall.invokeCommand sessionId cmdId).msgArgSize = 160 := rfl
    simp only [prepare, hsize, halloc, hne, if_false, hmessage]
  have htrip : roundTrip cfg (some base) [returningRound f] (.invokeCommand sessionId cmdId) op
      w.state = some (.replied (base + efiPageSize) { s with mem := f message }) := by
    simp only [roundTrip, hprepare, hne, if_false, opteeSmcCall_returningRound, ne_eq, not_true]
  -- what the secure world has written lies in the blocks that are out
  set b : ShmBlock := ⟨base, base + efiPageSize, 160⟩ with hb
  have hreply : ShmInv cfg ⟨{ s with mem := f message }, b :: w.live⟩ := by
    refine hinv.of_frame fun x hx => ?_
    have hout : ¬ (⟨base + efiPageSize, 160⟩ : Span).Has x := hx b List.mem_cons_self
    rw [hf message x hout fun c hc => hx c (List.mem_cons_of_mem _ hc), hmessage]
    refine invokeMessage_apply_off ?_
    simp only [Span.Has] at hout
    omega
  exact ⟨_, s.mem, by rw [teecSmcInvokeCommand, htrip]; rfl,
    hreply.freed (List.Perm.refl _) (hreply.header b List.mem_cons_self) freeMemorySpace_frees
      (freeMemorySpace_taken (hreply.gcd.mem_iff.mpr List.mem_cons_self)), rfl, rfl⟩

open Tpm2Request

variable {r : Tpm2Request} {msgBase : ℕ} {caller : ByteStore}

/-- The block of a submission, once it is allocated and carries the command. -/
lemma ShmInv.submitted (h : ShmInv cfg w) (hholds : BlockHolds cfg r)
    (hanswer : GcdAnswers cfg w.state r.sharedMem.size (some base)) :
    (r.block cfg (some base) w.state).1 = base + efiPageSize ∧
      ShmInv cfg ⟨r.submitted cfg (some base) caller w.state,
        ⟨base, base + efiPageSize, r.sharedMem.size⟩ :: w.live⟩ := by
  have hsize : r.sharedMem.size =
      r.inputParameterBlockSize.toNat + r.outputParameterBlockSize.toNat := by
    rw [sharedMem_size, Nat.mod_eq_of_lt hholds.1]
  have hfits : BlockFits cfg r.sharedMem.size := by
    rw [hsize]
    exact hholds.2
  obtain ⟨hfst, -, hinv⟩ := h.memAlloc_some hfits hanswer
  have hblock : (r.block cfg (some base) w.state).1 = base + efiPageSize := hfst
  refine ⟨hblock, hinv.of_frame fun x hx => ByteStore.write_apply_off ?_⟩
  have hout := hx _ List.mem_cons_self
  rw [ByteStore.length_read, hblock]
  simp only [Span.Has, ShmBlock.userSpan, hsize] at hout
  omega

/-- A secure world that returns at once, and writes only into the message, the block and what else
clients have been lent, leaves the header of the block alone. -/
lemma ShmInv.invoked (h : ShmInv cfg w) (hholds : BlockHolds cfg r)
    (hanswer : GcdAnswers cfg w.state r.sharedMem.size (some base))
    (hmsg : GcdAnswers cfg (r.submitted cfg (some base) caller w.state) 160 (some msgBase))
    (hf : ∀ mem x, ¬ (⟨msgBase + efiPageSize, 160⟩ : Span).Has x → f mem x = mem x) :
    SharedOutlasts cfg (some base) (some msgBase) freeMemorySpace [returningRound f] sessionId r
      caller w.state ∧
    ∃ inv mem, r.invoked cfg (some base) (some msgBase) freeMemorySpace [returningRound f]
        sessionId caller w.state = some inv ∧
      inv.result = (f ((SmcCall.invokeCommand sessionId taFtpmSubmitCommand).message cfg.arch
        (r.operation cfg.arch (base + efiPageSize)) (msgBase + efiPageSize) mem)).load32
          (msgBase + efiPageSize + MsgArg.ret) ∧
      inv.operation = getMsgParams cfg.arch (r.operation cfg.arch (base + efiPageSize))
        (msgBase + efiPageSize + MsgArg.params)
        (f ((SmcCall.invokeCommand sessionId taFtpmSubmitCommand).message cfg.arch
          (r.operation cfg.arch (base + efiPageSize)) (msgBase + efiPageSize) mem)) := by
  obtain ⟨hblock, hsubmitted⟩ := @ShmInv.submitted cfg _ base r caller h hholds hanswer
  obtain ⟨inv, mem, hinv, hkept, hresult, hop⟩ := @ShmInv.invokeCommand cfg _ msgBase sessionId
    taFtpmSubmitCommand (r.operation cfg.arch (base + efiPageSize)) f hsubmitted hmsg
    fun mem x hx _ => hf mem x hx
  have hinvoked : r.invoked cfg (some base) (some msgBase) freeMemorySpace [returningRound f]
      sessionId caller w.state = some inv := by
    rw [Tpm2Request.invoked, hblock]
    exact hinv
  refine ⟨?_, inv, mem, hinvoked, hresult, hop⟩
  rintro base' inv' hbase hinv' -
  obtain rfl := Option.some.inj hbase
  obtain rfl := Option.some.inj (hinvoked.symm.trans hinv')
  have hheader := (hkept.header _ List.mem_cons_self).1
  have hplace := (hkept.placed _ List.mem_cons_self).headerOf_user
  have hrange := hkept.headerRange_eq List.mem_cons_self
  rw [← hplace] at hheader
  rw [hblock]
  exact ⟨hheader, hrange, freeMemorySpace_taken (hkept.gcd.mem_iff.mpr List.mem_cons_self)⟩

end Confined

/-! A command of sixteen bytes with room for as many, and a TA that returns a size. -/

section Reply

-- the ledger of a fixed call is for the lemmas to go through, not for the unifier
attribute [local irreducible] Ledger.ReleasedOnce

def tpmRequest : Tpm2Request := ⟨16, 0, 16, 4096⟩

def tpmWorld : ShmWorld := ⟨gcdSharedMemoryInit fourPagePool fun _ => 0, []⟩

/-- The TA puts a size into the second parameter. -/
def replySize (size : UInt64) (mem : ByteStore) : ByteStore :=
  mem.store64 (MsgParam.slot (20480 + MsgArg.params) 1 + MsgParam.tmemSize) size

lemma fourPagePool_pages : efiPageSize ∣ fourPagePool.size := ⟨4, rfl⟩

lemma tpmWorld_answers :
    GcdAnswers fourPagePool tpmWorld.state tpmRequest.sharedMem.size (some 8192) := by
  rintro base ⟨⟩
  exact ⟨by decide, ⟨2, rfl⟩, by decide, fun r hr => by cases hr⟩

lemma tpmRequest_holds : BlockHolds fourPagePool tpmRequest := ⟨by decide, by decide⟩

lemma tpmRequest_submitted : (tpmRequest.block fourPagePool (some 8192) tpmWorld.state).1 = 12288 ∧
    ShmInv fourPagePool ⟨tpmRequest.submitted fourPagePool (some 8192) (fun _ => 0) tpmWorld.state,
      [⟨8192, 12288, 32⟩]⟩ :=
  @ShmInv.submitted fourPagePool tpmWorld 8192 tpmRequest (fun _ => 0) (.init _) tpmRequest_holds
    tpmWorld_answers

/-- The message of the invocation fits behind the block. -/
lemma tpmMessage_answers : GcdAnswers fourPagePool (tpmRequest.submitted fourPagePool (some 8192)
    (fun _ => 0) tpmWorld.state) 160 (some 16384) := by
  rintro base ⟨⟩
  refine ⟨by decide, ⟨4, rfl⟩, by decide, fun r hr => ?_⟩
  rw [tpmRequest_submitted.2.gcd.mem_iff, List.map_singleton, List.mem_singleton] at hr
  subst hr
  decide

lemma replySize_off (size : UInt64) (mem : ByteStore) {x : ℕ}
    (hx : ¬ (⟨16384 + efiPageSize, 160⟩ : Span).Has x) : replySize size mem x = mem x := by
  refine ByteStore.store64_apply_off ?_
  simp only [Span.Has, efiPageSize] at hx
  simp only [MsgParam.slot, MsgArg.params, MsgParam.sizeof, MsgParam.tmemSize]
  omega

/-- A command that is not answered has the result that its message starts with. -/
lemma invokeMessage_ret {arch : Arch} {sessionId cmdId : UInt32} {op : TeecOperation} {msg : ℕ}
    {mem : ByteStore} : ((SmcCall.invokeCommand sessionId cmdId).message arch op msg mem).load32
      (msg + MsgArg.ret) = teecSuccess := by
  have hsize : (SmcCall.invokeCommand sessionId cmdId).msgArgSize = 160 := rfl
  have hparams : ((SmcCall.invokeCommand sessionId cmdId).message arch op msg mem).load32
      (msg + MsgArg.ret) = ((SmcCall.invokeCommand sessionId cmdId).head msg mem).load32
        (msg + MsgArg.ret) := by
    refine ByteStore.load32_congr fun i hi => setMsgParams_apply_below ?_
    simp only [MsgArg.ret, MsgParam.slot, MsgArg.params]
    omega
  have hzero := @ByteStore.load32_of_bytes (mem.fill msg 160 0) (msg + MsgArg.ret) 0
    fun i hi => ByteStore.fill_apply_on (by simp only [MsgArg.ret]; omega)
  rw [hparams]
  simp only [SmcCall.head, hsize, MsgArg.cmd, MsgArg.func, MsgArg.session, MsgArg.numParams]
  rw [ByteStore.load32_store32_off (by simp only [MsgArg.ret]; omega),
    ByteStore.load32_store32_off (by simp only [MsgArg.ret]; omega),
    ByteStore.load32_store32_off (by simp only [MsgArg.ret]; omega),
    ByteStore.load32_store32_off (by simp only [MsgArg.ret]; omega), hzero]
  rfl

/-- The TA succeeds, and returns the size. -/
lemma tpmRequest_invoked (size : UInt64) :
    SharedOutlasts fourPagePool (some 8192) (some 16384) freeMemorySpace
        [returningRound (replySize size)] 1 tpmRequest (fun _ => 0) tpmWorld.state ∧
      ∃ inv, tpmRequest.invoked fourPagePool (some 8192) (some 16384) freeMemorySpace
          [returningRound (replySize size)] 1 (fun _ => 0) tpmWorld.state = some inv ∧
        inv.result = teecSuccess ∧
        memrefSize fourPagePool.arch (inv.operation.params 1) = size.toNat := by
  obtain ⟨houtlasts, inv, mem, hinv, hresult, hop⟩ := @ShmInv.invoked fourPagePool tpmWorld 8192 1
    (replySize size) tpmRequest 16384 (fun _ => 0) (.init _) tpmRequest_holds tpmWorld_answers
    tpmMessage_answers fun mem x hx => replySize_off size mem hx
  have hmsg : 16384 + efiPageSize = 20480 := rfl
  refine ⟨houtlasts, inv, hinv, ?_, ?_⟩
  · rw [hresult, hmsg, replySize, ByteStore.load32_store64_off (.inl (by decide))]
    exact invokeMessage_ret
  · rw [hop, getMsgParams_params, if_pos (by decide), hmsg]
    have hkind : paramKind ((tpmRequest.operation fourPagePool.arch
        (8192 + efiPageSize)).paramType 1) = .tmem := by decide
    simp only [getMsgParam, hkind]
    refine tmprefSize_setTmpref.trans ?_
    rw [replySize, ByteStore.load64_store64_same]
    exact Arch.uintn_of_lt (UInt64.toNat_lt size)

/-- What the invocation needs of the GCD and of the RPC rounds. -/
lemma tpmRequest_answered (size : UInt64) :
    (tpmRequest.call fourPagePool (some 8192) 1 tpmWorld.state).Answered fourPagePool (some 16384)
      freeMemorySpace [returningRound (replySize size)]
      (tpmRequest.submitted fourPagePool (some 8192) (fun _ => 0) tpmWorld.state) :=
  ⟨fun _ => tpmMessage_answers, returningRound_answered _ _ _ _, freeMemorySpace_frees⟩

lemma tpmRequest_run {size : UInt64} {inv : SmcOutcome}
    (hinv : tpmRequest.invoked fourPagePool (some 8192) (some 16384) freeMemorySpace
      [returningRound (replySize size)] 1 (fun _ => 0) tpmWorld.state = some inv) :
    tpmRequest.tpm2SubmitCommand fourPagePool (some 8192) (some 16384) freeMemorySpace
        [returningRound (replySize size)] 1 true (fun _ => 0) tpmWorld.state =
      some (tpmRequest.outcome fourPagePool (some 8192) freeMemorySpace (fun _ => 0) tpmWorld.state inv) := by
  have hblock : (tpmRequest.block fourPagePool (some 8192) tpmWorld.state).1 ≠ 0 := by
    rw [tpmRequest_submitted.1]
    decide
  rw [tpm2SubmitCommand_eq, if_neg hblock, hinv]
  rfl

/-- A response of eight bytes is copied back and nothing else is. -/
theorem submitRight_iff_eightBytes :
    ∃ out, tpmRequest.tpm2SubmitCommand fourPagePool (some 8192) (some 16384) freeMemorySpace
        [returningRound (replySize 8)] 1 true (fun _ => 0) tpmWorld.state = some out ∧
      SubmitRight fourPagePool (some 8192) (some 16384) freeMemorySpace [returningRound (replySize 8)]
        1 tpmRequest true (fun _ => 0) tpmWorld.state out := by
  obtain ⟨houtlasts, inv, hinv, -, hsize⟩ := tpmRequest_invoked 8
  refine ⟨_, tpmRequest_run hinv, (submitRight_iff fourPagePool_pages tpmWorld_answers
    (tpmRequest_answered 8) List.nodup_nil (tpmRequest_run hinv)).mpr fun _ _ =>
      ⟨tpmRequest_holds, ?_, houtlasts⟩⟩
  intro inv' hinv' _
  obtain rfl := Option.some.inj (hinv.symm.trans hinv')
  rw [hsize]
  decide

/-- A response of a hundred bytes is copied into room for sixteen. -/
theorem not_submitRight_hundredBytes :
    ¬ ∀ out, tpmRequest.tpm2SubmitCommand fourPagePool (some 8192) (some 16384) freeMemorySpace
        [returningRound (replySize 100)] 1 true (fun _ => 0) tpmWorld.state = some out →
      SubmitRight fourPagePool (some 8192) (some 16384) freeMemorySpace
        [returningRound (replySize 100)] 1 tpmRequest true (fun _ => 0) tpmWorld.state out := by
  intro hall
  obtain ⟨-, inv, hinv, hresult, hsize⟩ := tpmRequest_invoked 100
  have hblock : (tpmRequest.block fourPagePool (some 8192) tpmWorld.state).1 ≠ 0 := by
    rw [tpmRequest_submitted.1]
    decide
  have hfits := (fits_of_submitRight fourPagePool_pages tpmWorld_answers hblock hinv
    (hall _ (tpmRequest_run hinv))).2 inv hinv hresult
  rw [hsize] at hfits
  exact absurd hfits (by decide)

end Reply

end Optee
end MuPlatform
