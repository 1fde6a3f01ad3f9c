import MuPlatform.Optee.MemOutcomes
import MuPlatform.Optee.Rpc

/-!
# The shared-memory commands

`OPTEE_MSG_RPC_CMD_SHM_ALLOC` and `OPTEE_MSG_RPC_CMD_SHM_FREE` as the secure world sees them: a
command that fails should have done nothing, and what one hands out the other should take back.

Both look at the memory type in a switch that is left by `break`, so that an unknown type is an
error and the command is carried out all the same.  Together with the two errors of the allocator
that leave a trace this is all that goes wrong (`shmCommandsRight_iff`).  The message lies in a
block that the secure world holds, as `optee_smc.h` has it.
-/

namespace MuPlatform
namespace Optee

/-! ## Messages -/

section Messages

variable (msg : ℕ) (mem : ByteStore)

/-- The address of `MsgArg->params[0]`. -/
def shmParam : ℕ := MsgParam.slot (msg + MsgArg.params) 0

def shmType : UInt64 := mem.load64 (shmParam msg + MsgParam.valueA)
def shmValueB : UInt64 := mem.load64 (shmParam msg + MsgParam.valueB)
def shmValueC : UInt64 := mem.load64 (shmParam msg + MsgParam.valueC)

/-- The message has one parameter, an input value. -/
def IsValueRequest : Prop :=
  mem.load32 (msg + MsgArg.numParams) = 1 ∧ paramAttrType msg mem 0 = opteeMsgAttrTypeValueInput

/-- The bytes of the parameter. -/
def shmParamBytes : List UInt8 := mem.read (shmParam msg) MsgParam.sizeof

/-- The answer to `SHM_ALLOC`. -/
def shmAnswer (buffer size : ℕ) : ByteStore :=
  (((mem.store64 (shmParam msg + MsgParam.attr) opteeMsgAttrTypeTmemOutput).store64
    (shmParam msg + MsgParam.tmemBufPtr) (UInt64.ofNat buffer)).store64
    (shmParam msg + MsgParam.tmemSize) (UInt64.ofNat size)).store64
    (shmParam msg + MsgParam.tmemShmRef) (UInt64.ofNat buffer)

variable {msg mem} {x buffer size : ℕ}

/-- The answer is in the parameter. -/
lemma shmAnswer_apply_off (h : x < shmParam msg ∨ shmParam msg + MsgParam.sizeof ≤ x) :
    shmAnswer msg mem buffer size x = mem x := by
  simp only [MsgParam.sizeof] at h
  rw [shmAnswer, ByteStore.store64_apply_off (by simp only [MsgParam.tmemShmRef]; omega),
    ByteStore.store64_apply_off (by simp only [MsgParam.tmemSize]; omega),
    ByteStore.store64_apply_off (by simp only [MsgParam.tmemBufPtr]; omega),
    ByteStore.store64_apply_off (by simp only [MsgParam.attr]; omega)]

end Messages

/-! ## The commands, by what the allocator does -/

section Commands

variable {cfg : ShmConfig} {env : RpcEnv} {msg : ℕ} {s : ShmState}
  {free : Span → List Span → EfiStatus × List Span}

/-- The size and the alignment that `SHM_ALLOC` asks for. -/
def shmSize (cfg : ShmConfig) (msg : ℕ) (s : ShmState) : ℕ :=
  cfg.arch.uintn (shmValueB msg s.mem).toNat

def shmAlignment (cfg : ShmConfig) (msg : ℕ) (s : ShmState) : ℕ :=
  cfg.arch.uintn (shmValueC msg s.mem).toNat

/-- The pointer that `SHM_FREE` gives back. -/
def shmPointer (cfg : ShmConfig) (msg : ℕ) (s : ShmState) : ℕ :=
  cfg.arch.uintn (shmValueB msg s.mem).toNat

lemma shmAlloc_rejected (h : ¬ IsValueRequest msg s.mem) :
    opteeRpcCmdShmAlloc cfg env msg s = (teecErrorBadParameters, s) := by
  simp only [opteeRpcCmdShmAlloc]
  split
  · rfl
  split
  · rfl
  case isFalse hcount htype => exact absurd ⟨not_not.mp hcount, not_not.mp htype⟩ h

lemma shmFree_rejected (h : ¬ IsValueRequest msg s.mem) :
    opteeRpcCmdShmFreeWith cfg free msg s = (teecErrorBadParameters, s) := by
  simp only [opteeRpcCmdShmFreeWith]
  split
  · rfl
  split
  · rfl
  case isFalse hcount htype => exact absurd ⟨not_not.mp hcount, not_not.mp htype⟩ h

/-- Without memory `SHM_ALLOC` fails in the state the allocator leaves. -/
lemma shmAlloc_null (h : IsValueRequest msg s.mem) {s' : ShmState}
    (halloc : internalMemAlloc cfg env.gcdAnswer (shmSize cfg msg s) (shmAlignment cfg msg s) s =
      (0, s')) :
    opteeRpcCmdShmAlloc cfg env msg s = (teecErrorOutOfMemory, s') := by
  rw [shmSize, shmAlignment, shmValueB, shmValueC, shmParam] at halloc
  simp only [opteeRpcCmdShmAlloc, h.1, h.2, ne_eq, not_true, if_false, opteeClientAlignedMemAlloc,
    halloc, if_true]

/-- With memory it answers, with the result that the memory type has. -/
lemma shmAlloc_granted (h : IsValueRequest msg s.mem) {buffer : ℕ} {s' : ShmState}
    (halloc : internalMemAlloc cfg env.gcdAnswer (shmSize cfg msg s) (shmAlignment cfg msg s) s =
      (buffer, s')) (hbuffer : buffer ≠ 0) :
    opteeRpcCmdShmAlloc cfg env msg s =
      (if knownShmType (shmType msg s.mem) then teecSuccess else teecErrorBadParameters,
        { s' with mem := shmAnswer msg s'.mem buffer (shmSize cfg msg s) }) := by
  rw [shmSize, shmAlignment, shmValueB, shmValueC, shmParam] at halloc
  simp only [opteeRpcCmdShmAlloc, h.1, h.2, ne_eq, not_true, if_false, opteeClientAlignedMemAlloc,
    halloc, hbuffer]
  rfl

/-- `SHM_FREE` fails where the release does, and has the result of the memory type otherwise. -/
lemma shmFree_request (h : IsValueRequest msg s.mem) :
    opteeRpcCmdShmFreeWith cfg free msg s =
      (if (opteeClientMemFree cfg free (shmPointer cfg msg s) s).1.isError then
        teecErrorBadState
      else if knownShmType (shmType msg s.mem) then teecSuccess else teecErrorBadParameters,
        (opteeClientMemFree cfg free (shmPointer cfg msg s) s).2) := by
  rw [shmPointer, shmValueB, shmParam]
  simp only [opteeRpcCmdShmFreeWith, h.1, h.2, ne_eq, not_true, if_false]
  split
  · rfl
  · rfl

end Commands

/-! ## SHM_ALLOC -/

section Alloc

variable {cfg : ShmConfig} {env : RpcEnv} {msg base : ℕ} {s : ShmState}

/-- Handing the reference back to `SHM_FREE`, while nobody has written to the header of the block
and the GCD takes it back, releases that block. -/
def FreedBy (cfg : ShmConfig) (ref : UInt64) (b : ShmBlock) (mem : ByteStore) : Prop :=
  ∀ env msg' s', GcdFrees env.gcdFree → IsValueRequest msg' s'.mem →
    knownShmType (shmType msg' s'.mem) → shmValueB msg' s'.mem = ref →
    (env.gcdFree (b.span cfg.arch) s'.gcd).1.isError = false →
    (∀ x, (b.headerSpan cfg.arch).Has x → s'.mem x = mem x) →
      (opteeRpcCmdShmFree cfg env msg' s').1 = teecSuccess ∧
        (opteeRpcCmdShmFree cfg env msg' s').2.gcd = s'.gcd.erase (b.span cfg.arch)

/-- What `SHM_ALLOC` should do: nothing when it fails, and otherwise answer with the reference of
a new block. -/
structure ShmAllocRight (cfg : ShmConfig) (env : RpcEnv) (msg : ℕ) (s : ShmState) : Prop where
  atomic : (opteeRpcCmdShmAlloc cfg env msg s).1 ≠ teecSuccess →
    (opteeRpcCmdShmAlloc cfg env msg s).2.gcd = s.gcd ∧
      shmParamBytes msg (opteeRpcCmdShmAlloc cfg env msg s).2.mem = shmParamBytes msg s.mem
  inverse : (opteeRpcCmdShmAlloc cfg env msg s).1 = teecSuccess → ∃ b : ShmBlock,
    (opteeRpcCmdShmAlloc cfg env msg s).2.gcd = b.span cfg.arch :: s.gcd ∧
      FreedBy cfg ((opteeRpcCmdShmAlloc cfg env msg s).2.mem.load64
        (shmParam msg + MsgParam.tmemShmRef)) b (opteeRpcCmdShmAlloc cfg env msg s).2.mem

/-- A request for which the GCD has a range is of an unknown type, or the range has a broken
fence. -/
def AllocTrouble (cfg : ShmConfig) (env : RpcEnv) (msg : ℕ) (s : ShmState) : Prop :=
  IsValueRequest msg s.mem ∧ badAlignment cfg.arch (shmAlignment cfg msg s) = false ∧
    ∃ base, env.gcdAnswer = some base ∧ (knownShmType (shmType msg s.mem) = false ∨
      isSharedMemoryRegionFree cfg.arch s.mem base
        (allocBlockSize cfg.arch (shmSize cfg msg s)) = false)

/-- The message lies in a block that is held, and blocks start on pages. -/
structure MsgHeld (msg : ℕ) (s : ShmState) : Prop where
  held : ∃ r ∈ s.gcd, (⟨msg, opteeMsgGetArgSize 1⟩ : Span).Within r
  pages : ∀ r ∈ s.gcd, efiPageSize ∣ r.lo

/-- A block whose header is in place is released through its pointer. -/
lemma ShmBlock.HeaderAt.freed {b : ShmBlock} {s' : ShmState} (h : b.HeaderAt cfg.arch s'.mem)
    (hptr : headerOf cfg.arch b.user = (b.headerSpan cfg.arch).lo)
    (hbase : b.base < 2 ^ 64) {free : Span → List Span → EfiStatus × List Span}
    (hfree : GcdFrees free) (hok : (free (b.span cfg.arch) s'.gcd).1.isError = false) :
    (opteeClientMemFree cfg free b.user s').1.isError = false ∧
      (opteeClientMemFree cfg free b.user s').2.gcd = s'.gcd.erase (b.span cfg.arch) := by
  obtain ⟨hsig, hsize, haddr⟩ := h
  have hlen : allocBlockSize cfg.arch b.size < 2 ^ 64 :=
    (Arch.uintn_lt _ _).trans_le (Nat.pow_le_pow_right (by decide) cfg.arch.uintnBits_le)
  have hrange : headerRange cfg b.user s' = b.span cfg.arch := by
    rw [headerRange, hptr, hsize, haddr, UInt64.toNat_ofNat', UInt64.toNat_ofNat',
      Nat.mod_eq_of_lt hbase, Nat.mod_eq_of_lt hlen, ShmBlock.span]
  have hgcd := hfree (b.span cfg.arch) s'.gcd
  rw [hok, if_neg Bool.false_ne_true] at hgcd
  rw [← hptr] at hsig
  refine ⟨?_, ?_⟩
  · rw [opteeClientMemFree_status hsig, hrange, hok]
  · rw [opteeClientMemFree_gcd hsig, hrange, hgcd.2]
    rw [hrange, hok]
    exact Bool.false_ne_true

/-- A block that the GCD gives is apart from the message, and so is the page it starts on. -/
lemma MsgHeld.off_page (h : MsgHeld msg s) {len : ℕ} (hlen : 0 < len)
    (hgcd : GcdMayReturn cfg s.gcd base len) :
    msg + opteeMsgGetArgSize 1 ≤ base ∨ base + efiPageSize ≤ msg := by
  obtain ⟨⟨r, hr, hin⟩, hpages⟩ := h
  obtain ⟨i, hi⟩ := hpages r hr
  obtain ⟨j, rfl⟩ := hgcd.1
  have hapart := hgcd.2.2 r hr
  simp only [Span.Apart, Span.Within, efiPageSize] at *
  omega

/-- A command that is granted leaves the header of the new block in place. -/
lemma headerAt_shmAnswer (hpages : efiPageSize ∣ cfg.size) (hmsg : MsgHeld msg s) {size : ℕ}
    {buffer : ℕ} (hanswer : GcdAnswers cfg s size (some base)) :
    (⟨base, base + efiPageSize, size⟩ : ShmBlock).HeaderAt cfg.arch
        (shmAnswer msg (writeHeader cfg.arch (headerOf cfg.arch (userBaseAddress cfg.arch base))
          (allocBlockSize cfg.arch size) base s.mem) buffer size) ∧
      headerOf cfg.arch (base + efiPageSize) = base + efiPageSize - cfg.arch.headerSize := by
  obtain ⟨huser, hbase, hroom⟩ := userBaseAddress_of_answer hpages hanswer
  obtain ⟨hpos, hgcd⟩ := hanswer base rfl
  have hheader := headerSize_bounds cfg.arch
  have hoff := hmsg.off_page hpos hgcd
  have hptr : headerOf cfg.arch (base + efiPageSize) =
      base + efiPageSize - cfg.arch.headerSize :=
    headerOf_eq (by simp only [efiPageSize]; omega) (by simp only [efiPageSize] at *; omega)
  refine ⟨?_, hptr⟩
  rw [huser, hptr]
  refine (headerAt_writeHeader cfg.arch ⟨base, base + efiPageSize, size⟩ s.mem).congr
    fun x hx => ?_
  refine shmAnswer_apply_off ?_
  simp only [Span.Has, ShmBlock.headerSpan] at hx
  simp only [shmParam, MsgParam.slot, MsgArg.params, MsgParam.sizeof, opteeMsgGetArgSize,
    efiPageSize] at *
  omega

/-- A command that leaves the state alone is a failure that does what it should. -/
lemma shmAllocRight_of_same {result : TeecResult} (hresult : result ≠ teecSuccess)
    (hrun : opteeRpcCmdShmAlloc cfg env msg s = (result, s)) : ShmAllocRight cfg env msg s := by
  refine ⟨fun _ => ?_, fun hsuccess => ?_⟩
  · rw [hrun]
    exact ⟨rfl, rfl⟩
  · rw [hrun] at hsuccess
    exact absurd hsuccess hresult

/-- A failure with which the GCD has lost a range is not. -/
lemma not_shmAllocRight_of_gcd (hfails : (opteeRpcCmdShmAlloc cfg env msg s).1 ≠ teecSuccess)
    {r : Span} (hgcd : (opteeRpcCmdShmAlloc cfg env msg s).2.gcd = r :: s.gcd) :
    ¬ ShmAllocRight cfg env msg s := by
  intro hright
  have hsame := (hright.atomic hfails).1
  rw [hgcd] at hsame
  exact List.cons_ne_self _ _ hsame

/-- A request that meets a broken fence fails and leaves the range allocated. -/
lemma not_shmAllocRight_of_broken (h : IsValueRequest msg s.mem)
    (hbroken : BrokenFence cfg env.gcdAnswer (shmSize cfg msg s) (shmAlignment cfg msg s) s) :
    ¬ ShmAllocRight cfg env msg s := by
  obtain ⟨base, halloc⟩ := internalMemAlloc_broken hbroken
  have hrun := shmAlloc_null h halloc
  refine not_shmAllocRight_of_gcd ?_ (by rw [hrun])
  rw [hrun]
  exact (by decide : teecErrorOutOfMemory ≠ teecSuccess)

/-- A request that is granted is answered with the new block. -/
lemma shmAlloc_given (h : IsValueRequest msg s.mem) (hpages : efiPageSize ∣ cfg.size)
    (hgcdAnswer : env.gcdAnswer = some base)
    (hanswer : GcdAnswers cfg s (shmSize cfg msg s) (some base))
    (hgranted : ¬ Refused cfg (some base) (shmSize cfg msg s) (shmAlignment cfg msg s) s) :
    (opteeRpcCmdShmAlloc cfg env msg s).1 =
        (if knownShmType (shmType msg s.mem) then teecSuccess else teecErrorBadParameters) ∧
      (opteeRpcCmdShmAlloc cfg env msg s).2.gcd =
        ⟨base, allocBlockSize cfg.arch (shmSize cfg msg s)⟩ :: s.gcd ∧
      (opteeRpcCmdShmAlloc cfg env msg s).2.mem = shmAnswer msg
        (writeHeader cfg.arch (headerOf cfg.arch (userBaseAddress cfg.arch base))
          (allocBlockSize cfg.arch (shmSize cfg msg s)) base s.mem)
        (base + efiPageSize) (shmSize cfg msg s) := by
  have hpage := internalMemAlloc_page hpages hanswer hgranted
  obtain ⟨-, hgcd, hmem⟩ := internalMemAlloc_granted hgranted
  cases hcall : internalMemAlloc cfg (some base) (shmSize cfg msg s) (shmAlignment cfg msg s) s with
  | mk buffer s' =>
      rw [hcall] at hpage hgcd hmem
      simp only at hpage hgcd hmem
      have hbuffer : buffer ≠ 0 := by
        rw [hpage, efiPageSize]
        omega
      rw [← hgcdAnswer] at hcall
      simp only [shmAlloc_granted h hcall hbuffer, hgcd, hmem, hpage, and_self]

/-- A request of a known type that is granted is answered with a reference that `SHM_FREE` takes
back. -/
lemma shmAllocRight_of_given (h : IsValueRequest msg s.mem) (hpages : efiPageSize ∣ cfg.size)
    (hmsg : MsgHeld msg s) (hgcdAnswer : env.gcdAnswer = some base)
    (hanswer : GcdAnswers cfg s (shmSize cfg msg s) (some base))
    (hgranted : ¬ Refused cfg (some base) (shmSize cfg msg s) (shmAlignment cfg msg s) s)
    (hknown : knownShmType (shmType msg s.mem) = true) : ShmAllocRight cfg env msg s := by
  obtain ⟨hresult, hgcd, hmem⟩ := shmAlloc_given h hpages hgcdAnswer hanswer hgranted
  rw [hknown, if_pos rfl] at hresult
  refine ⟨fun hfails => absurd hresult hfails, fun _ =>
    ⟨⟨base, base + efiPageSize, shmSize cfg msg s⟩, hgcd, ?_⟩⟩
  obtain ⟨hheader, hptr⟩ := @headerAt_shmAnswer cfg msg base s hpages hmsg _
    (base + efiPageSize) hanswer
  obtain ⟨-, hbase, hroom⟩ := userBaseAddress_of_answer hpages hanswer
  have hwidth := Nat.pow_le_pow_right (by decide : 0 < 2) cfg.arch.uintnBits_le
  have hlt : base + efiPageSize < 2 ^ cfg.arch.uintnBits := by
    simp only [efiPageSize] at *
    omega
  intro env' msg' s' hfree hrequest' hknown' href hok hsame
  rw [hmem] at href hsame
  -- the reference is the pointer, and the header it stands behind is as it was written
  have hpointer : shmPointer cfg msg' s' = base + efiPageSize := by
    rw [shmPointer, href, shmAnswer, ByteStore.load64_store64_same, UInt64.toNat_ofNat',
      Nat.mod_eq_of_lt (by omega), Arch.uintn_of_lt hlt]
  obtain ⟨hstatus, hgcd'⟩ := ShmBlock.HeaderAt.freed (hheader.congr hsame) hptr
    (show base < 2 ^ 64 by omega) hfree hok
  rw [opteeRpcCmdShmFree, shmFree_request hrequest', hpointer]
  refine ⟨?_, hgcd'⟩
  show (if _ then _ else _) = _
  rw [hstatus, if_neg Bool.false_ne_true, hknown', if_pos rfl]

/-- `SHM_ALLOC` does what it should exactly where no request for which the GCD has a range is of an
unknown type or meets a broken fence. -/
lemma shmAllocRight_iff (hpages : efiPageSize ∣ cfg.size) (hmsg : MsgHeld msg s)
    (hanswer : GcdAnswers cfg s (shmSize cfg msg s) env.gcdAnswer) :
    ShmAllocRight cfg env msg s ↔ ¬ AllocTrouble cfg env msg s := by
  by_cases hrequest : IsValueRequest msg s.mem
  swap
  · exact iff_of_true (shmAllocRight_of_same (by decide) (shmAlloc_rejected hrequest))
      fun htrouble => hrequest htrouble.1
  by_cases hrefused : badAlignment cfg.arch (shmAlignment cfg msg s) = true ∨ env.gcdAnswer = none
  · -- the GCD is not asked, or has nothing
    refine iff_of_true (shmAllocRight_of_same (by decide) (shmAlloc_null hrequest ?_)) ?_
    · rw [internalMemAlloc]
      split
      · rfl
      case isFalse hgood => rw [hrefused.resolve_left hgood]
    · rintro ⟨-, hgood, base, hbase, -⟩
      rcases hrefused with hbad | hnone
      · rw [hbad] at hgood
        cases hgood
      · rw [hnone] at hbase
        cases hbase
  obtain ⟨hbad, hsome⟩ := not_or.mp hrefused
  have hgood : badAlignment cfg.arch (shmAlignment cfg msg s) = false := by simpa using hbad
  obtain ⟨base, hbase⟩ := Option.ne_none_iff_exists'.mp hsome
  by_cases hfence : isSharedMemoryRegionFree cfg.arch s.mem base
      (allocBlockSize cfg.arch (shmSize cfg msg s)) = false
  · exact iff_of_false (not_shmAllocRight_of_broken hrequest ⟨hgood, base, hbase, hfence⟩)
      (not_not.mpr ⟨hrequest, hgood, base, hbase, .inr hfence⟩)
  have hgranted : ¬ Refused cfg (some base) (shmSize cfg msg s) (shmAlignment cfg msg s) s := by
    rintro (h | h | ⟨base', hbase', hbroken⟩)
    · exact hbad h
    · cases h
    · cases hbase'
      exact hfence hbroken
  rw [hbase] at hanswer
  by_cases hknown : knownShmType (shmType msg s.mem) = true
  · refine iff_of_true
      (shmAllocRight_of_given hrequest hpages hmsg hbase hanswer hgranted hknown) ?_
    rintro ⟨-, -, base', hbase', htrouble⟩
    obtain rfl := Option.some.inj (hbase.symm.trans hbase')
    rcases htrouble with hunknown | hbroken
    · rw [hknown] at hunknown
      cases hunknown
    · exact hfence hbroken
  · have hunknown : knownShmType (shmType msg s.mem) = false := by simpa using hknown
    obtain ⟨hresult, hgcd, -⟩ := shmAlloc_given hrequest hpages hbase hanswer hgranted
    rw [hunknown, if_neg Bool.false_ne_true] at hresult
    refine iff_of_false (not_shmAllocRight_of_gcd ?_ hgcd)
      (not_not.mpr ⟨hrequest, hgood, base, hbase, .inl hunknown⟩)
    rw [hresult]
    exact (by decide : teecErrorBadParameters ≠ teecSuccess)

end Alloc

/-! ## SHM_FREE -/

/-- What marking a region leaves at an address, also where the region wraps. -/
lemma markLoop_apply {arch : Arch} {n a x : ℕ} {mem : ByteStore} (ha : a < 2 ^ arch.uintnBits) :
    markLoop arch n a mem x =
      if ∃ i < n, arch.uintn (a + i) = x then opteeShmFreeFence else mem x := by
  induction n generalizing a mem with
  | zero => simp [markLoop]
  | succ n ih =>
      have hshift : (∃ i < n, arch.uintn (arch.uintn (a + 1) + i) = x) ↔
          ∃ i < n, arch.uintn (a + (i + 1)) = x := by
        simp only [Arch.uintn, Nat.mod_add_mod, Nat.add_assoc, Nat.add_comm 1]
      rw [markLoop, ih (Arch.uintn_lt _ _)]
      simp only [hshift]
      by_cases hlater : ∃ i < n, arch.uintn (a + (i + 1)) = x
      · obtain ⟨i, hi, hx⟩ := hlater
        rw [if_pos ⟨i, hi, hx⟩, if_pos ⟨i + 1, Nat.succ_lt_succ hi, hx⟩]
      rw [if_neg hlater]
      by_cases hxa : x = a
      · subst hxa
        rw [if_pos ⟨0, Nat.succ_pos n, Arch.uintn_of_lt ha⟩]
        simp [ByteStore.write]
      · rw [ByteStore.write_apply_off (by simp; omega), if_neg]
        rintro ⟨i, hi, hx⟩
        cases i with
        | zero => exact hxa (hx.symm.trans (Arch.uintn_of_lt ha))
        | succ i => exact hlater ⟨i, Nat.lt_of_succ_lt_succ hi, hx⟩

section Free

variable {cfg : ShmConfig} {msg : ℕ} {s : ShmState}
  {free : Span → List Span → EfiStatus × List Span}

/-- What `SHM_FREE` should do when it fails: nothing. -/
def ShmFreeRight (cfg : ShmConfig) (free : Span → List Span → EfiStatus × List Span) (msg : ℕ)
    (s : ShmState) : Prop :=
  (opteeRpcCmdShmFreeWith cfg free msg s).1 ≠ teecSuccess →
    (opteeRpcCmdShmFreeWith cfg free msg s).2.gcd = s.gcd ∧
      shmParamBytes msg (opteeRpcCmdShmFreeWith cfg free msg s).2.mem = shmParamBytes msg s.mem

/-- The range that the header describes covers a byte of the parameter that is no fence. -/
def MarksParam (cfg : ShmConfig) (msg : ℕ) (s : ShmState) : Prop :=
  ∃ i < cfg.arch.uintn (headerRange cfg (shmPointer cfg msg s) s).len,
    let x := cfg.arch.uintn (cfg.arch.uintn (headerRange cfg (shmPointer cfg msg s) s).lo + i)
    shmParam msg ≤ x ∧ x < shmParam msg + MsgParam.sizeof ∧ s.mem x ≠ opteeShmFreeFence

/-- A request with a header in front of its pointer is of an unknown type and takes a block back,
or the GCD fails it once the range of the header, with bytes of the message, has been fenced. -/
def FreeTrouble (cfg : ShmConfig) (free : Span → List Span → EfiStatus × List Span) (msg : ℕ)
    (s : ShmState) : Prop :=
  IsValueRequest msg s.mem ∧
    s.mem.load32 (headerOf cfg.arch (shmPointer cfg msg s)) = opteeShmSignature ∧
      if (free (headerRange cfg (shmPointer cfg msg s) s) s.gcd).1.isError then MarksParam cfg msg s
      else knownShmType (shmType msg s.mem) = false

lemma marksParam_iff : MarksParam cfg msg s ↔
    shmParamBytes msg (markSharedMemoryRegionAsFree cfg.arch
      (headerRange cfg (shmPointer cfg msg s) s).lo (headerRange cfg (shmPointer cfg msg s) s).len
        s.mem) ≠ shmParamBytes msg s.mem := by
  rw [shmParamBytes, shmParamBytes, ne_eq, ByteStore.read_eq_read_iff]
  simp only [markSharedMemoryRegionAsFree, markLoop_apply (Arch.uintn_lt _ _), MarksParam]
  push Not
  constructor
  · rintro ⟨i, hi, hlo, hhi, hne⟩
    refine ⟨_, hlo, hhi, ?_⟩
    rw [if_pos ⟨i, hi, rfl⟩]
    exact hne.symm
  · rintro ⟨x, hlo, hhi, hne⟩
    split at hne
    case isTrue h =>
      obtain ⟨i, hi, rfl⟩ := h
      exact ⟨i, hi, hlo, hhi, hne.symm⟩
    case isFalse => exact absurd rfl hne

/-- `SHM_FREE` does what it should exactly where it takes back no block of an unknown type, and no
release that the GCD fails has fenced bytes of the message. -/
lemma shmFreeRight_iff (hfree : GcdFrees free) :
    ShmFreeRight cfg free msg s ↔ ¬ FreeTrouble cfg free msg s := by
  by_cases hrequest : IsValueRequest msg s.mem
  swap
  · rw [ShmFreeRight, shmFree_rejected hrequest]
    exact iff_of_true (fun _ => ⟨rfl, rfl⟩) fun htrouble => hrequest htrouble.1
  by_cases hsig : s.mem.load32 (headerOf cfg.arch (shmPointer cfg msg s)) = opteeShmSignature
  swap
  · have hrun : opteeClientMemFree cfg free (shmPointer cfg msg s) s =
        (.invalidParameter, s) := by
      simp only [opteeClientMemFree, ne_eq, hsig, not_false_eq_true, if_true]
    rw [ShmFreeRight, shmFree_request hrequest, hrun]
    exact iff_of_true (fun _ => ⟨rfl, rfl⟩) fun htrouble => hsig htrouble.2.1
  have hstatus := @opteeClientMemFree_status cfg (shmPointer cfg msg s) s free hsig
  have hmap := hfree (headerRange cfg (shmPointer cfg msg s) s) s.gcd
  rw [ShmFreeRight, shmFree_request hrequest, FreeTrouble, hstatus]
  by_cases hfails : (free (headerRange cfg (shmPointer cfg msg s) s) s.gcd).1.isError = true
  · -- the range is fenced by then
    rw [if_pos hfails] at hmap
    simp only [hfails, if_true, opteeClientMemFree_failed hsig hfails, hmap, marksParam_iff,
      hrequest, hsig, true_and, ne_eq, not_not]
    exact imp_iff_right (by decide)
  · rw [if_neg hfails] at hmap
    simp only [hfails, Bool.false_eq_true, if_false, hrequest, hsig, true_and]
    by_cases hknown : knownShmType (shmType msg s.mem) = true
    · simp only [hknown, if_true, ne_eq, not_true, false_imp_iff, Bool.true_eq_false,
        not_false_eq_true]
    · have hunknown : knownShmType (shmType msg s.mem) = false := by simpa using hknown
      have hgcd := opteeClientMemFree_gcd hsig hfails
      simp only [hunknown, Bool.false_eq_true, if_false, not_true, iff_false]
      intro hkept
      have hsame := (hkept (by decide)).1
      rw [hgcd, hmap.2] at hsame
      exact List.erase_eq_self_iff.mp hsame hmap.1

end Free

/-- `SHM_ALLOC` and `SHM_FREE` do what they should exactly where no command carries out a request
of an unknown type and the allocator leaves no trace of a failure. -/
theorem shmCommandsRight_iff {cfg : ShmConfig} {env : RpcEnv} {msg : ℕ} {s : ShmState}
    {free : Span → List Span → EfiStatus × List Span} (hpages : efiPageSize ∣ cfg.size)
    (hmsg : MsgHeld msg s) (hanswer : GcdAnswers cfg s (shmSize cfg msg s) env.gcdAnswer)
    (hfree : GcdFrees free) :
    (ShmAllocRight cfg env msg s ↔ ¬ AllocTrouble cfg env msg s) ∧
      (ShmFreeRight cfg free msg s ↔ ¬ FreeTrouble cfg free msg s) :=
  ⟨shmAllocRight_iff hpages hmsg hanswer, shmFreeRight_iff hfree⟩

/-! A pool of four pages, with a message in a block in the upper half. -/

/-- The block of the message. -/
def messageBlock : ShmBlock := ⟨16384, 20480, 64⟩

/-- A request of the given type for sixteen bytes with any alignment, as it lies in memory. -/
def shmRequest (type : UInt64) : ByteStore :=
  (((ByteStore.store32 (fun _ => 0) (20480 + MsgArg.numParams) 1).store64
    (shmParam 20480 + MsgParam.attr) opteeMsgAttrTypeValueInput).store64
    (shmParam 20480 + MsgParam.valueA) type).store64 (shmParam 20480 + MsgParam.valueB) 16

/-- The block has been allocated. -/
def messageWorld : ShmWorld :=
  (⟨gcdSharedMemoryInit fourPagePool fun _ => 0, []⟩ : ShmWorld).apply fourPagePool
    (.memAlloc 64 (some 16384))

/-- The request has been put there. -/
def shmRequestWorld (type : UInt64) : ShmWorld :=
  messageWorld.apply fourPagePool (.clientWrite messageBlock 0 ((shmRequest type).read 20480 64))

lemma messageWorld_eq : ShmInv fourPagePool messageWorld ∧ messageWorld.live = [messageBlock] ∧
    messageWorld.state.gcd = [⟨16384, 4191⟩] := by
  have hgcd : GcdMayReturn fourPagePool [] 16384 (allocBlockSize fourPagePool.arch 64) :=
    ⟨⟨4, rfl⟩, by decide, fun r hr => by cases hr⟩
  have hinit := @ShmInv.init fourPagePool fun _ => 0
  have hrun := @ShmInv.internalMemAlloc_eq _ _ _ hinit 16384 64 16 (by decide) hgcd (by decide)
  have hallowed : (ShmOp.memAlloc 64 (some 16384)).Allowed fourPagePool
      ⟨gcdSharedMemoryInit fourPagePool fun _ => 0, []⟩ := by
    refine ⟨by decide, ?_⟩
    rintro base ⟨⟩
    exact hgcd
  refine ⟨hinit.memAlloc hallowed, ?_, ?_⟩
  · simp only [messageWorld, ShmWorld.apply, opteeClientMemAlloc, opteeClientMemByteAlignment, hrun]
    rfl
  · simp only [messageWorld, ShmWorld.apply, opteeClientMemAlloc, opteeClientMemByteAlignment, hrun]
    rfl

lemma ShmWorld.clientWrite_gcd {cfg : ShmConfig} {w : ShmWorld} {b : ShmBlock} {offset : ℕ}
    {bytes : List UInt8} :
    (w.apply cfg (.clientWrite b offset bytes)).state.gcd = w.state.gcd := rfl

lemma ShmWorld.clientWrite_mem {cfg : ShmConfig} {w : ShmWorld} {b : ShmBlock} {offset : ℕ}
    {bytes : List UInt8} :
    (w.apply cfg (.clientWrite b offset bytes)).state.mem =
      w.state.mem.write (b.user + offset) bytes := rfl

section Request

variable (type : UInt64)

lemma shmRequestWorld_gcd : (shmRequestWorld type).state.gcd = [⟨16384, 4191⟩] := by
  rw [shmRequestWorld, ShmWorld.clientWrite_gcd]
  exact messageWorld_eq.2.2

/-- The request lies in the memory of a state, whatever the command. -/
def HoldsRequest (s : ShmState) : Prop :=
  ∀ i, 4 ≤ i → i < 64 → s.mem (20480 + i) = shmRequest type (20480 + i)

section Holds

variable {type} {s : ShmState} (h : HoldsRequest type s)
include h

lemma HoldsRequest.load64 {i : ℕ} (hi : 4 ≤ i ∧ i + 8 ≤ 64) :
    s.mem.load64 (20480 + i) = (shmRequest type).load64 (20480 + i) :=
  ByteStore.load64_congr fun j hj => by
    rw [Nat.add_assoc]
    exact h _ (by omega) (by omega)

lemma HoldsRequest.isValueRequest : IsValueRequest 20480 s.mem := by
  constructor
  · have hload : s.mem.load32 (20480 + MsgArg.numParams) =
        (shmRequest type).load32 (20480 + MsgArg.numParams) :=
      ByteStore.load32_congr fun j hj => by
        rw [Nat.add_assoc]
        exact h _ (by simp only [MsgArg.numParams]; omega) (by simp only [MsgArg.numParams]; omega)
    rw [hload, shmRequest, ByteStore.load32_store64_off (by decide),
      ByteStore.load32_store64_off (by decide), ByteStore.load32_store64_off (by decide),
      ByteStore.load32_store32_same]
  · have hload := @HoldsRequest.load64 _ _ h 32 (by decide)
    rw [paramAttrType, show MsgParam.slot (20480 + MsgArg.params) 0 + MsgParam.attr = 20480 + 32
      from rfl, hload, shmRequest, ByteStore.load64_store64_off (by decide),
      ByteStore.load64_store64_off (by decide), show 20480 + 32 = shmParam 20480 + MsgParam.attr
      from rfl, ByteStore.load64_store64_same]
    decide

lemma HoldsRequest.type_eq : shmType 20480 s.mem = type := by
  have hload := @HoldsRequest.load64 _ _ h 40 (by decide)
  rw [shmType, show shmParam 20480 + MsgParam.valueA = 20480 + 40 from rfl, hload, shmRequest,
    ByteStore.load64_store64_off (by decide)]
  exact ByteStore.load64_store64_same _

lemma HoldsRequest.size_eq : shmSize fourPagePool 20480 s = 16 := by
  have hload := @HoldsRequest.load64 _ _ h 48 (by decide)
  rw [shmSize, shmValueB, show shmParam 20480 + MsgParam.valueB = 20480 + 48 from rfl, hload,
    shmRequest, show 20480 + 48 = shmParam 20480 + MsgParam.valueB from rfl,
    ByteStore.load64_store64_same]
  decide

lemma HoldsRequest.alignment_eq : shmAlignment fourPagePool 20480 s = 0 := by
  have hload := @HoldsRequest.load64 _ _ h 56 (by decide)
  rw [shmAlignment, shmValueC, show shmParam 20480 + MsgParam.valueC = 20480 + 56 from rfl, hload,
    shmRequest, ByteStore.load64_store64_off (by decide), ByteStore.load64_store64_off (by decide),
    ByteStore.load64_store64_off (by decide), ByteStore.store32, ByteStore.load64_write_off
      (by decide)]
  decide

end Holds

lemma shmRequestWorld_holds : HoldsRequest type (shmRequestWorld type).state := by
  intro i _ hi
  rw [shmRequestWorld, ShmWorld.clientWrite_mem, messageBlock, Nat.add_zero,
    ← ByteStore.blit_eq_write, ByteStore.blit_apply_on hi]

lemma shmRequestWorld_held : MsgHeld 20480 (shmRequestWorld type).state where
  held := ⟨⟨16384, 4191⟩, by rw [shmRequestWorld_gcd]; exact List.mem_cons_self, by decide⟩
  pages r hr := by
    rw [shmRequestWorld_gcd, List.mem_singleton] at hr
    subst hr
    exact ⟨4, rfl⟩

/-- Firmware whose GCD gives the first page. -/
def firstPageFirmware : RpcEnv := { bareFirmware with gcdAnswer := some 8192 }

lemma shmRequestWorld_answers : GcdAnswers fourPagePool (shmRequestWorld type).state
    (shmSize fourPagePool 20480 (shmRequestWorld type).state) firstPageFirmware.gcdAnswer := by
  rw [(shmRequestWorld_holds type).size_eq]
  intro base hbase
  obtain rfl := Option.some.inj hbase
  refine ⟨by decide, ⟨2, rfl⟩, by decide, fun r hr => ?_⟩
  rw [shmRequestWorld_gcd, List.mem_singleton] at hr
  subst hr
  decide

end Request

/-- A request for kernel memory, which both commands know. -/
theorem shmCommandsRight_iff_kernelRequest :
    (ShmAllocRight fourPagePool firstPageFirmware 20480 (shmRequestWorld 1).state ↔
        ¬ AllocTrouble fourPagePool firstPageFirmware 20480 (shmRequestWorld 1).state) ∧
      (ShmFreeRight fourPagePool freeMemorySpace 20480 (shmRequestWorld 1).state ↔
        ¬ FreeTrouble fourPagePool freeMemorySpace 20480 (shmRequestWorld 1).state) :=
  shmCommandsRight_iff ⟨4, rfl⟩ (shmRequestWorld_held 1) (shmRequestWorld_answers 1)
    freeMemorySpace_frees

/-- A request of type two is turned down and its block is allocated. -/
theorem not_shmAllocRight_unknownType :
    ¬ ShmAllocRight fourPagePool firstPageFirmware 20480 (shmRequestWorld 2).state := by
  rw [shmAllocRight_iff ⟨4, rfl⟩ (shmRequestWorld_held 2) (shmRequestWorld_answers 2), not_not]
  refine ⟨(shmRequestWorld_holds 2).isValueRequest, ?_, 8192, rfl, .inl ?_⟩
  · rw [(shmRequestWorld_holds 2).alignment_eq]
    decide
  · rw [(shmRequestWorld_holds 2).type_eq]
    decide

end Optee
end MuPlatform
