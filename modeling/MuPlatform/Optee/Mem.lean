import MuPlatform.Base.ByteStore
import MuPlatform.Base.Span
import MuPlatform.Efi.Arch
import MuPlatform.Efi.Status

/-!
# The shared-memory allocator

The allocator of the memory shared with the secure world (`OpteeClientMem.c`).  It takes
blocks from the GCD, puts a header in front of the page handed to the client, and keeps every
byte outside an allocated block at a fence value, so that an overrun shows when the block is
next allocated.

The GCD services are the environment.  Its map is the list of allocated ranges;
`AllocateMemorySpace` answers with a base or fails, as the caller of `internalMemAlloc` says,
and `FreeMemorySpace` succeeds on the allocated ranges, unless the caller of
`opteeClientMemFree` says otherwise.  Assertions are off.

Pointers are naturals below `2 ^ uintnBits`, and `UINTN` arithmetic is reduced modulo that.
-/

namespace MuPlatform

/-! ## Architecture -/

namespace Arch

/-- `sizeof (OPTEE_CLIENT_MEM_HEADER)`. -/
def headerSize : Arch → ℕ
  | arm => 24
  | aarch64 => 32

/-- The offset of `Size` in the header. -/
def headerSizeOffset : Arch → ℕ
  | arm => 8
  | aarch64 => 16

/-- The offset of `Address` in the header. -/
def headerAddressOffset : Arch → ℕ
  | arm => 16
  | aarch64 => 24

end Arch

namespace Optee

/-! ## State -/

/-- `EFI_PAGE_SIZE`. -/
def efiPageSize : ℕ := 4096

/-- `OPTEE_SHM_SIGNATURE`, the characters `TEEC`. -/
def opteeShmSignature : UInt32 := 0x43454554

/-- `OPTEE_SHM_FREE_FENCE`. -/
def opteeShmFreeFence : UInt8 := 0xCC

/-- `OPTEE_SHM_ALLOC_ALIGN`. -/
def opteeShmAllocAlign : ℕ := efiPageSize

/-- The pool `[OPTEE_SHM_START, OPTEE_SHM_END)`.  It starts on a page, one reserved page above
a base that is not page zero, and ends inside the address space. -/
structure ShmConfig where
  arch : Arch
  start : ℕ
  size : ℕ
  start_aligned : efiPageSize ∣ start
  start_ge : 2 * efiPageSize ≤ start
  end_lt : start + size < 2 ^ arch.uintnBits

/-- The pool as a span; it ends at `OPTEE_SHM_END`. -/
def ShmConfig.pool (cfg : ShmConfig) : Span := ⟨cfg.start, cfg.size⟩

/-- Memory, the GCD map and the two counters of `OpteeClientMem.c`. -/
structure ShmState where
  mem : ByteStore
  gcd : List Span
  mSharedMemAllocationCount : ℕ
  mSharedMemAllocSize : ℕ

/-! ## Fence -/

section Fence

variable (arch : Arch)

/-- The loop of `MarkSharedMemoryRegionAsFree`, with the number of bytes left to `End`. -/
def markLoop : ℕ → ℕ → ByteStore → ByteStore
  | 0, _, mem => mem
  | n + 1, a, mem => markLoop n (arch.uintn (a + 1)) (mem.write a [opteeShmFreeFence])

/-- `MarkSharedMemoryRegionAsFree`. -/
def markSharedMemoryRegionAsFree (address size : ℕ) (mem : ByteStore) : ByteStore :=
  markLoop arch (arch.uintn size) (arch.uintn address) mem

/-- The loop of `IsSharedMemoryRegionFree`. -/
def isFreeLoop (mem : ByteStore) : ℕ → ℕ → Bool
  | 0, _ => true
  | n + 1, a => if mem a ≠ opteeShmFreeFence then false else isFreeLoop mem n (arch.uintn (a + 1))

/-- `IsSharedMemoryRegionFree`. -/
def isSharedMemoryRegionFree (mem : ByteStore) (address size : ℕ) : Bool :=
  isFreeLoop arch mem (arch.uintn size) (arch.uintn address)

variable {arch} {mem : ByteStore} {a n : ℕ}

lemma markLoop_eq_fill (h : a + n < 2 ^ arch.uintnBits) :
    markLoop arch n a mem = mem.fill a n opteeShmFreeFence := by
  induction n generalizing a mem with
  | zero =>
      funext x
      rw [ByteStore.fill_apply_off (by omega)]
      rfl
  | succ n ih =>
      rw [markLoop, Arch.uintn_of_lt (by omega), ih (by omega)]
      funext x
      by_cases hx : a ≤ x ∧ x < a + (n + 1)
      · rw [ByteStore.fill_apply_on hx]
        by_cases hxa : x = a
        · subst hxa
          rw [ByteStore.fill_apply_off (by omega)]
          simp [ByteStore.write]
        · rw [ByteStore.fill_apply_on (by omega)]
      · rw [ByteStore.fill_apply_off (by omega), ByteStore.fill_apply_off (by omega),
          ByteStore.write_apply_off (by simp; omega)]

/-- Inside the address space the marking loop fills the region. -/
lemma markSharedMemoryRegionAsFree_eq_fill (h : a + n < 2 ^ arch.uintnBits) :
    markSharedMemoryRegionAsFree arch a n mem = mem.fill a n opteeShmFreeFence := by
  rw [markSharedMemoryRegionAsFree, Arch.uintn_of_lt (by omega), Arch.uintn_of_lt (by omega),
    markLoop_eq_fill h]

lemma isFreeLoop_eq_true_iff (h : a + n < 2 ^ arch.uintnBits) :
    isFreeLoop arch mem n a = true ↔ ∀ x, a ≤ x → x < a + n → mem x = opteeShmFreeFence := by
  induction n generalizing a with
  | zero => simp [isFreeLoop]; omega
  | succ n ih =>
      rw [isFreeLoop, Arch.uintn_of_lt (by omega)]
      by_cases ha : mem a = opteeShmFreeFence
      · rw [if_neg (by simp [ha]), ih (by omega)]
        constructor
        · intro hall x hx hxn
          rcases Nat.eq_or_lt_of_le hx with rfl | hlt
          · exact ha
          · exact hall x hlt (by omega)
        · exact fun hall x hx hxn => hall x (by omega) (by omega)
      · rw [if_pos ha]
        simp only [Bool.false_eq_true, false_iff, not_forall]
        exact ⟨a, le_rfl, by omega, ha⟩

/-- Inside the address space the checking loop looks at every byte of the region. -/
lemma isSharedMemoryRegionFree_iff (h : a + n < 2 ^ arch.uintnBits) :
    isSharedMemoryRegionFree arch mem a n = true ↔
      ∀ x, a ≤ x → x < a + n → mem x = opteeShmFreeFence := by
  rw [isSharedMemoryRegionFree, Arch.uintn_of_lt (by omega), Arch.uintn_of_lt (by omega),
    isFreeLoop_eq_true_iff h]

end Fence

/-! ## Allocation and release -/

/-- `IsPowerOf2`, on a `UINTN`: complement and compare. -/
def isPowerOf2 (arch : Arch) (num : ℕ) : Bool :=
  num ≠ 0 && num &&& arch.uintn (2 ^ arch.uintnBits - num) = num

/-- The alignments `InternalMemAlloc` turns down. -/
def badAlignment (arch : Arch) (byteAlignment : ℕ) : Bool :=
  (byteAlignment ≠ 0 && !isPowerOf2 arch byteAlignment) || opteeShmAllocAlign < byteAlignment

/-- `BlockSize`, computed in `UINTN`. -/
def allocBlockSize (arch : Arch) (size : ℕ) : ℕ :=
  arch.uintn (arch.headerSize + size + (opteeShmAllocAlign - 1))

/-- `UserBaseAddress`: room for the header, rounded down to the alignment after adding it. -/
def userBaseAddress (arch : Arch) (base : ℕ) : ℕ :=
  let offsetted := arch.uintn (arch.uintn base + arch.headerSize + (opteeShmAllocAlign - 1))
  offsetted - offsetted % opteeShmAllocAlign

/-- The header in front of a user pointer. -/
def headerOf (arch : Arch) (ptr : ℕ) : ℕ :=
  arch.uintn (ptr + 2 ^ arch.uintnBits - arch.headerSize)

/-- The header `InternalMemAlloc` fills in. -/
def writeHeader (arch : Arch) (header blockSize base : ℕ) (mem : ByteStore) : ByteStore :=
  (((mem.fill header arch.headerSize 0).store32 header opteeShmSignature).store64
    (header + arch.headerSizeOffset) (UInt64.ofNat blockSize)).store64
    (header + arch.headerAddressOffset) (UInt64.ofNat base)

/-- `FreeMemorySpace`. -/
def freeMemorySpace (range : Span) (gcd : List Span) : EfiStatus × List Span :=
  if range ∈ gcd then (.success, gcd.erase range) else (.notFound, gcd)

section Ops

variable (cfg : ShmConfig)

/-- `InternalMemAlloc`.  `gcdAnswer` is the base `AllocateMemorySpace` returns, `none` if it
fails.  The result is the user pointer, `0` for `NULL`. -/
def internalMemAlloc (gcdAnswer : Option ℕ) (size byteAlignment : ℕ) (s : ShmState) :
    ℕ × ShmState :=
  if badAlignment cfg.arch byteAlignment then (0, s)
  else
    let blockSize := allocBlockSize cfg.arch size
    match gcdAnswer with
    | none => (0, s)
    | some base =>
      let s := { s with gcd := ⟨base, blockSize⟩ :: s.gcd }
      if isSharedMemoryRegionFree cfg.arch s.mem base blockSize = false then (0, s)
      else
        let user := userBaseAddress cfg.arch base
        (user, { s with
          mem := writeHeader cfg.arch (headerOf cfg.arch user) blockSize base s.mem
          mSharedMemAllocationCount := (s.mSharedMemAllocationCount + 1) % 2 ^ 64
          mSharedMemAllocSize := (s.mSharedMemAllocSize + blockSize) % 2 ^ 64 })

/-- `OPTEE_CLIENT_MEM_BYTE_ALIGNMENT`. -/
def opteeClientMemByteAlignment : ℕ := 16

/-- `OpteeClientMemAlloc`. -/
def opteeClientMemAlloc (gcdAnswer : Option ℕ) (size : ℕ) (s : ShmState) : ℕ × ShmState :=
  internalMemAlloc cfg gcdAnswer size opteeClientMemByteAlignment s

/-- `OpteeClientAlignedMemAlloc`. -/
def opteeClientAlignedMemAlloc (gcdAnswer : Option ℕ) (size byteAlignment : ℕ) (s : ShmState) :
    ℕ × ShmState :=
  internalMemAlloc cfg gcdAnswer size byteAlignment s

/-- `OpteeClientMemFree`, where the GCD answers `FreeMemorySpace` as `free` says. -/
def opteeClientMemFree (free : Span → List Span → EfiStatus × List Span) (ptr : ℕ)
    (s : ShmState) : EfiStatus × ShmState :=
  let header := headerOf cfg.arch ptr
  if s.mem.load32 header ≠ opteeShmSignature then (.invalidParameter, s)
  else
    let address := (s.mem.load64 (header + cfg.arch.headerAddressOffset)).toNat
    let size := (s.mem.load64 (header + cfg.arch.headerSizeOffset)).toNat
    let mem := markSharedMemoryRegionAsFree cfg.arch address size s.mem
    match free ⟨address, size⟩ s.gcd with
    | (status, gcd) =>
      if status.isError then (status, { s with mem := mem, gcd := gcd })
      else (status, { s with
        mem := mem
        gcd := gcd
        mSharedMemAllocationCount := (s.mSharedMemAllocationCount + (2 ^ 64 - 1)) % 2 ^ 64
        mSharedMemAllocSize := (s.mSharedMemAllocSize + (2 ^ 64 - size)) % 2 ^ 64 })

/-- Whether `OpteeClientApiFinalize` reports a leak. -/
def finalizeReportsLeak (s : ShmState) : Bool :=
  s.mSharedMemAllocationCount ≠ 0 || s.mSharedMemAllocSize ≠ 0

/-- The state `GcdSharedMemoryInit` leaves: the whole pool fenced and nothing allocated. -/
def gcdSharedMemoryInit (mem : ByteStore) : ShmState where
  mem := markSharedMemoryRegionAsFree cfg.arch cfg.start cfg.size mem
  gcd := []
  mSharedMemAllocationCount := 0
  mSharedMemAllocSize := 0

end Ops

/-! ### Releases -/

section Release

variable {cfg : ShmConfig} {ptr : ℕ} {s : ShmState}
  {free : Span → List Span → EfiStatus × List Span}

/-- `FreeMemorySpace` takes an allocated range off the map or leaves the map as it is. -/
def GcdFrees (free : Span → List Span → EfiStatus × List Span) : Prop :=
  ∀ r gcd, if (free r gcd).1.isError then (free r gcd).2 = gcd
    else r ∈ gcd ∧ (free r gcd).2 = gcd.erase r

lemma freeMemorySpace_frees : GcdFrees freeMemorySpace := by
  intro r gcd
  rw [freeMemorySpace]
  split
  case isTrue h => exact ⟨h, rfl⟩
  case isFalse => rfl

lemma freeMemorySpace_taken {r : Span} {gcd : List Span} (h : r ∈ gcd) :
    (freeMemorySpace r gcd).1.isError = false := by
  rw [freeMemorySpace, if_pos h]
  rfl

/-- The range that the header in front of a pointer describes. -/
def headerRange (cfg : ShmConfig) (ptr : ℕ) (s : ShmState) : Span :=
  ⟨(s.mem.load64 (headerOf cfg.arch ptr + cfg.arch.headerAddressOffset)).toNat,
    (s.mem.load64 (headerOf cfg.arch ptr + cfg.arch.headerSizeOffset)).toNat⟩

/-- A release behind a header comes to what the GCD answers. -/
lemma opteeClientMemFree_status
    (hsig : s.mem.load32 (headerOf cfg.arch ptr) = opteeShmSignature) :
    (opteeClientMemFree cfg free ptr s).1 = (free (headerRange cfg ptr s) s.gcd).1 := by
  rw [headerRange]
  simp only [opteeClientMemFree, hsig, ne_eq, not_true, if_false]
  split <;> rfl

lemma opteeClientMemFree_gcd
    (hsig : s.mem.load32 (headerOf cfg.arch ptr) = opteeShmSignature)
    (hfails : ¬ (free (headerRange cfg ptr s) s.gcd).1.isError = true) :
    (opteeClientMemFree cfg free ptr s).2.gcd = (free (headerRange cfg ptr s) s.gcd).2 := by
  rw [headerRange] at hfails ⊢
  simp only [opteeClientMemFree, hsig, ne_eq, not_true, if_false, hfails, Bool.false_eq_true]

/-- A release that the GCD fails does not touch the counters. -/
lemma opteeClientMemFree_failed
    (hsig : s.mem.load32 (headerOf cfg.arch ptr) = opteeShmSignature)
    (hfails : (free (headerRange cfg ptr s) s.gcd).1.isError = true) :
    (opteeClientMemFree cfg free ptr s).2 = { s with
      mem := markSharedMemoryRegionAsFree cfg.arch (headerRange cfg ptr s).lo
        (headerRange cfg ptr s).len s.mem
      gcd := (free (headerRange cfg ptr s) s.gcd).2 } := by
  rw [headerRange] at hfails ⊢
  simp only [opteeClientMemFree, hsig, ne_eq, not_true, if_false, hfails, if_true]

/-- A release that the GCD takes: the range in the header leaves the map and the counters. -/
lemma opteeClientMemFree_taken (hfree : GcdFrees free)
    (hsig : s.mem.load32 (headerOf cfg.arch ptr) = opteeShmSignature)
    (hok : (free (headerRange cfg ptr s) s.gcd).1.isError = false) :
    (opteeClientMemFree cfg free ptr s).1.isError = false ∧
      headerRange cfg ptr s ∈ s.gcd ∧
      (opteeClientMemFree cfg free ptr s).2 =
        { mem := markSharedMemoryRegionAsFree cfg.arch (headerRange cfg ptr s).lo
            (headerRange cfg ptr s).len s.mem
          gcd := s.gcd.erase (headerRange cfg ptr s)
          mSharedMemAllocationCount := (s.mSharedMemAllocationCount + (2 ^ 64 - 1)) % 2 ^ 64
          mSharedMemAllocSize :=
            (s.mSharedMemAllocSize + (2 ^ 64 - (headerRange cfg ptr s).len)) % 2 ^ 64 } := by
  have hgcd := hfree (headerRange cfg ptr s) s.gcd
  rw [hok, if_neg Bool.false_ne_true] at hgcd
  refine ⟨(opteeClientMemFree_status hsig).symm ▸ hok, hgcd.1, ?_⟩
  rw [headerRange] at hok hgcd ⊢
  rw [opteeClientMemFree, if_neg (not_not.mpr hsig)]
  simp only [hok, hgcd.2, Bool.false_eq_true, if_false]

end Release

/-- A pool of two pages on a 64-bit machine. -/
def twoPagePool : ShmConfig where
  arch := .aarch64
  start := 8192
  size := 8192
  start_aligned := ⟨2, rfl⟩
  start_ge := by decide
  end_lt := by decide

/-- A pool of four pages. -/
def fourPagePool : ShmConfig where
  arch := .aarch64
  start := 8192
  size := 16384
  start_aligned := twoPagePool.start_aligned
  start_ge := twoPagePool.start_ge
  end_lt := by decide

end Optee
end MuPlatform
