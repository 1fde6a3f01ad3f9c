import MuPlatform.Optee.MemInvariant

/-!
# What an allocation and a release come to

A single call of the allocator in any state, with any size and alignment, and a GCD that answers
as it may.

An allocation asks the GCD for the sum of the header, the size and the slack of the alignment, in
`UINTN`.  What it hands out lies in the range it got unless that sum wraps (`allocSound_iff`).

A call that fails leaves the allocator as it was unless the GCD has been asked already: a range
whose fence is broken is not given back, and a block that is not released has been fenced, with
its header (`errorsKeep_iff`).
-/

namespace MuPlatform
namespace Optee

/-! ## Alignments -/

section Alignment

variable {arch : Arch} {n : ℕ}

/-- A natural below the width that is its own lowest bit is a power of two. -/
lemma isPowerOfTwo_of_isPowerOf2 (hn : n < 2 ^ arch.uintnBits) (h : isPowerOf2 arch n = true) :
    n.isPowerOfTwo := by
  rw [isPowerOf2, Bool.and_eq_true, decide_eq_true_iff, decide_eq_true_iff] at h
  obtain ⟨hzero, hand⟩ := h
  obtain ⟨k, rfl⟩ := Nat.exists_eq_succ_of_ne_zero hzero
  have hk : k < 2 ^ arch.uintnBits := by omega
  rw [Arch.uintn_of_lt (by omega)] at hand
  rw [← Nat.and_sub_one_eq_zero_iff_isPowerOfTwo hzero]
  -- no bit of the number is a bit of its predecessor
  refine Nat.eq_of_testBit_eq fun i => ?_
  have hbit := congrArg (Nat.testBit · i) hand
  simp only [Nat.testBit_and, Nat.succ_eq_add_one, Nat.testBit_two_pow_sub_succ hk] at hbit
  simp only [Nat.testBit_and, Nat.succ_eq_add_one, Nat.add_sub_cancel, Nat.zero_testBit]
  cases hi : (k + 1).testBit i
  · rfl
  · rw [hi, Bool.true_and, Bool.and_eq_true, Bool.not_eq_true'] at hbit
    rw [hbit.2]
    rfl

/-- The alignments that are not turned down divide a page. -/
lemma dvd_page_of_not_badAlignment (h : badAlignment arch n = false) : n = 0 ∨ n ∣ efiPageSize := by
  rw [badAlignment, Bool.or_eq_false_iff, decide_eq_false_iff_not] at h
  obtain ⟨hpower, hle⟩ := h
  by_cases hzero : n = 0
  · exact .inl hzero
  have hbits : efiPageSize < 2 ^ arch.uintnBits := by cases arch <;> decide
  have hpower' : isPowerOf2 arch n = true := by simpa [hzero] using hpower
  have hlt : n < 2 ^ arch.uintnBits := by
    simp only [opteeShmAllocAlign] at hle
    omega
  obtain ⟨k, rfl⟩ := isPowerOfTwo_of_isPowerOf2 hlt hpower'
  refine .inr ((Nat.pow_dvd_pow_iff_le_right (by decide : 1 < 2)).mpr ?_ : 2 ^ k ∣ 2 ^ 12)
  exact (Nat.pow_le_pow_iff_right (by decide : 1 < 2)).mp (not_lt.mp hle)

end Alignment

/-! ## Fence -/

section Fence

variable {arch : Arch} {mem : ByteStore} {a n x : ℕ}

lemma markLoop_of_fence (h : mem x = opteeShmFreeFence) :
    markLoop arch n a mem x = opteeShmFreeFence := by
  induction n generalizing a mem with
  | zero => exact h
  | succ n ih =>
      refine ih ?_
      by_cases hx : x = a
      · subst hx
        simp [ByteStore.write]
      · rw [ByteStore.write_apply_off (by simp; omega), h]

/-- Marking changes nothing exactly where the check passes. -/
lemma markLoop_eq_self_iff : markLoop arch n a mem = mem ↔ isFreeLoop arch mem n a = true := by
  induction n generalizing a with
  | zero => exact iff_of_true rfl rfl
  | succ n ih =>
      rw [markLoop, isFreeLoop]
      by_cases ha : mem a = opteeShmFreeFence
      · have hwrite : mem.write a [opteeShmFreeFence] = mem := by
          rw [← ha]
          exact @ByteStore.write_read_same mem a 1
        rw [if_neg (not_not.mpr ha), hwrite, ih]
      · rw [if_pos ha]
        refine iff_of_false (fun hsame => ha ?_) Bool.false_ne_true
        rw [← hsame]
        exact markLoop_of_fence (by simp [ByteStore.write])

lemma mark_eq_self_iff : markSharedMemoryRegionAsFree arch a n mem = mem ↔
    isSharedMemoryRegionFree arch mem a n = true := markLoop_eq_self_iff

end Fence

/-! ## Allocations -/

section Alloc

/-- The GCD gives a range of the size it is asked for, if that is not empty, or fails. -/
def GcdAnswers (cfg : ShmConfig) (s : ShmState) (size : ℕ) (gcdAnswer : Option ℕ) : Prop :=
  ∀ base, gcdAnswer = some base → 0 < allocBlockSize cfg.arch size ∧
    GcdMayReturn cfg s.gcd base (allocBlockSize cfg.arch size)

/-- What the call hands out lies in the range it got, behind a header that lies there too. -/
structure SoundPointer (cfg : ShmConfig) (p base size byteAlignment : ℕ) (s : ShmState) :
    Prop where
  owned : ⟨base, allocBlockSize cfg.arch size⟩ ∈ s.gcd
  in_block : (⟨p, size⟩ : Span).Within ⟨base, allocBlockSize cfg.arch size⟩
  in_pool : (⟨p, size⟩ : Span).Within cfg.pool
  aligned : byteAlignment = 0 ∨ byteAlignment ∣ p
  header_in_block : (⟨headerOf cfg.arch p, cfg.arch.headerSize⟩ : Span).Within
    ⟨base, allocBlockSize cfg.arch size⟩
  header_apart : (⟨headerOf cfg.arch p, cfg.arch.headerSize⟩ : Span).Apart ⟨p, size⟩

/-- The GCD is not asked, or does not answer, or answers with a range whose fence is broken. -/
def Refused (cfg : ShmConfig) (gcdAnswer : Option ℕ) (size byteAlignment : ℕ) (s : ShmState) :
    Prop :=
  badAlignment cfg.arch byteAlignment = true ∨ gcdAnswer = none ∨
    ∃ base, gcdAnswer = some base ∧ isSharedMemoryRegionFree cfg.arch s.mem base
      (allocBlockSize cfg.arch size) = false

/-- A pointer that is handed out is sound, and a request that cannot be met gets none. -/
structure AllocSound (cfg : ShmConfig) (gcdAnswer : Option ℕ) (size byteAlignment : ℕ)
    (s : ShmState) : Prop where
  sound : (internalMemAlloc cfg gcdAnswer size byteAlignment s).1 ≠ 0 →
    ∃ base, gcdAnswer = some base ∧
      SoundPointer cfg (internalMemAlloc cfg gcdAnswer size byteAlignment s).1 base size
        byteAlignment (internalMemAlloc cfg gcdAnswer size byteAlignment s).2
  refused : Refused cfg gcdAnswer size byteAlignment s ∨ cfg.size < size →
    (internalMemAlloc cfg gcdAnswer size byteAlignment s).1 = 0

variable {cfg : ShmConfig} {gcdAnswer : Option ℕ} {size byteAlignment base : ℕ} {s : ShmState}

lemma internalMemAlloc_refused (h : Refused cfg gcdAnswer size byteAlignment s) :
    (internalMemAlloc cfg gcdAnswer size byteAlignment s).1 = 0 := by
  rw [internalMemAlloc]
  split
  · rfl
  case isFalse halign =>
    rcases h with hbad | rfl | ⟨base, rfl, hbroken⟩
    · exact absurd hbad halign
    · rfl
    · simp only [hbroken, if_true]

lemma internalMemAlloc_granted (h : ¬ Refused cfg (some base) size byteAlignment s) :
    (internalMemAlloc cfg (some base) size byteAlignment s).1 = userBaseAddress cfg.arch base ∧
      (internalMemAlloc cfg (some base) size byteAlignment s).2.gcd =
        ⟨base, allocBlockSize cfg.arch size⟩ :: s.gcd ∧
      (internalMemAlloc cfg (some base) size byteAlignment s).2.mem =
        writeHeader cfg.arch (headerOf cfg.arch (userBaseAddress cfg.arch base))
          (allocBlockSize cfg.arch size) base s.mem := by
  obtain ⟨halign, hrest⟩ := not_or.mp h
  have hfree : isSharedMemoryRegionFree cfg.arch s.mem base (allocBlockSize cfg.arch size) ≠
      false := fun hbroken => hrest (.inr ⟨base, rfl, hbroken⟩)
  simp only [internalMemAlloc, if_neg halign, if_neg hfree, and_self]

/-- In a pool of whole pages the user pointer is one page above the base, whatever the size. -/
lemma userBaseAddress_of_answer (hpages : efiPageSize ∣ cfg.size)
    (hanswer : GcdAnswers cfg s size (some base)) :
    userBaseAddress cfg.arch base = base + efiPageSize ∧ 0 < base ∧
      base + 2 * efiPageSize ≤ 2 ^ cfg.arch.uintnBits := by
  obtain ⟨hpos, halign, hin, -⟩ := hanswer base rfl
  have hstart := cfg.start_le
  have hend := cfg.end_lt
  have hheader := headerSize_bounds cfg.arch
  have hwidth : efiPageSize ∣ 2 ^ cfg.arch.uintnBits := by cases cfg.arch <;> decide
  obtain ⟨w, hw⟩ := hwidth
  obtain ⟨i, hi⟩ := cfg.start_aligned
  obtain ⟨j, hj⟩ := hpages
  obtain ⟨k, rfl⟩ := halign
  simp only [Span.Within, ShmConfig.pool] at hin
  simp only [userBaseAddress, opteeShmAllocAlign, efiPageSize] at *
  have hroom : 4096 * k + 2 * 4096 ≤ 2 ^ cfg.arch.uintnBits := by omega
  rw [@Arch.uintn_of_lt _ (4096 * k) (by omega), Arch.uintn_of_lt (by omega)]
  omega

/-- A call that is not refused hands out the page above its base. -/
lemma internalMemAlloc_page (hpages : efiPageSize ∣ cfg.size)
    (hanswer : GcdAnswers cfg s size (some base))
    (h : ¬ Refused cfg (some base) size byteAlignment s) :
    (internalMemAlloc cfg (some base) size byteAlignment s).1 = base + efiPageSize :=
  (internalMemAlloc_granted h).1.trans (userBaseAddress_of_answer hpages hanswer).1

/-- A block whose size has not wrapped holds what is handed out. -/
lemma soundPointer_of_fits (hpages : efiPageSize ∣ cfg.size)
    (hanswer : GcdAnswers cfg s size (some base))
    (hfits : cfg.arch.headerSize + size + (opteeShmAllocAlign - 1) < 2 ^ cfg.arch.uintnBits)
    (h : ¬ Refused cfg (some base) size byteAlignment s) :
    SoundPointer cfg (base + efiPageSize) base size byteAlignment
      (internalMemAlloc cfg (some base) size byteAlignment s).2 := by
  obtain ⟨-, hbase, hroom⟩ := userBaseAddress_of_answer hpages hanswer
  obtain ⟨-, halign, hin, -⟩ := hanswer base rfl
  have hheader := headerSize_bounds cfg.arch
  have hblock : allocBlockSize cfg.arch size = cfg.arch.headerSize + size + 4095 :=
    Arch.uintn_of_lt hfits
  have hpage : headerOf cfg.arch (base + efiPageSize) =
      base + efiPageSize - cfg.arch.headerSize :=
    headerOf_eq (by simp only [efiPageSize] at *; omega) (by simp only [efiPageSize] at *; omega)
  have huser : (⟨base + efiPageSize, size⟩ : Span).Within
      ⟨base, allocBlockSize cfg.arch size⟩ := by
    simp only [Span.Within, hblock, efiPageSize]
    omega
  refine ⟨?_, huser, huser.trans hin, ?_, ?_, ?_⟩
  · rw [(internalMemAlloc_granted h).2.1]
    exact List.mem_cons_self
  · have hgood : badAlignment cfg.arch byteAlignment = false := by
      simpa using (not_or.mp h).1
    exact (dvd_page_of_not_badAlignment hgood).imp id fun hdvd =>
      Nat.dvd_add (hdvd.trans halign) hdvd
  · rw [hpage]
    simp only [Span.Within, hblock, efiPageSize]
    omega
  · rw [hpage]
    simp only [Span.Apart, efiPageSize]
    omega

/-- A block whose size has wrapped is too small for what is handed out. -/
lemma sized_of_sound (hpages : efiPageSize ∣ cfg.size)
    (hanswer : GcdAnswers cfg s size gcdAnswer)
    (hsound : AllocSound cfg gcdAnswer size byteAlignment s) :
    cfg.arch.headerSize + size + (opteeShmAllocAlign - 1) < 2 ^ cfg.arch.uintnBits ∨
      Refused cfg gcdAnswer size byteAlignment s := by
  by_contra hnot
  obtain ⟨hwrap, hgranted⟩ := not_or.mp hnot
  obtain ⟨base, rfl⟩ : ∃ base, gcdAnswer = some base :=
    Option.ne_none_iff_exists'.mp fun hnone => hgranted (.inr (.inl hnone))
  have hpage := internalMemAlloc_page hpages hanswer hgranted
  obtain ⟨base', hbase', hpointer⟩ := hsound.sound (by rw [hpage, efiPageSize]; omega)
  obtain rfl := Option.some.inj hbase'
  have hblock := hpointer.in_block
  rw [hpage] at hblock
  have hsmall : allocBlockSize cfg.arch size + 2 ^ cfg.arch.uintnBits ≤
      cfg.arch.headerSize + size + 4095 := by
    have hge := not_lt.mp hwrap
    rw [allocBlockSize, Arch.uintn, Nat.mod_eq_sub_mod hge]
    exact (Nat.add_le_add_right (Nat.mod_le _ _) _).trans (Nat.sub_add_cancel hge).le
  have hheader := headerSize_bounds cfg.arch
  have hstart := cfg.start_le
  have hend := cfg.end_lt
  simp only [Span.Within, efiPageSize] at hblock
  omega

lemma allocSound_of_refused (h : Refused cfg gcdAnswer size byteAlignment s) :
    AllocSound cfg gcdAnswer size byteAlignment s :=
  ⟨fun hne => absurd (internalMemAlloc_refused h) hne, fun _ => internalMemAlloc_refused h⟩

lemma allocSound_of_fits (hpages : efiPageSize ∣ cfg.size)
    (hanswer : GcdAnswers cfg s size (some base))
    (hfits : cfg.arch.headerSize + size + (opteeShmAllocAlign - 1) < 2 ^ cfg.arch.uintnBits)
    (h : ¬ Refused cfg (some base) size byteAlignment s) :
    AllocSound cfg (some base) size byteAlignment s where
  sound _ := ⟨base, rfl, by
    rw [internalMemAlloc_page hpages hanswer h]
    exact soundPointer_of_fits hpages hanswer hfits h⟩
  refused hcannot := by
    rcases hcannot with hrefused | hlarge
    · exact absurd hrefused h
    · -- no range of the pool is as large
      obtain ⟨-, -, hin, -⟩ := hanswer base rfl
      have hblock : allocBlockSize cfg.arch size = cfg.arch.headerSize + size + 4095 :=
        Arch.uintn_of_lt hfits
      simp only [Span.Within, ShmConfig.pool, hblock] at hin
      omega

/-- A call hands out sound pointers only, exactly where the size of its block does not wrap or
nothing is handed out. -/
theorem allocSound_iff (hpages : efiPageSize ∣ cfg.size)
    (hanswer : GcdAnswers cfg s size gcdAnswer) :
    AllocSound cfg gcdAnswer size byteAlignment s ↔
      cfg.arch.headerSize + size + (opteeShmAllocAlign - 1) < 2 ^ cfg.arch.uintnBits ∨
        Refused cfg gcdAnswer size byteAlignment s := by
  refine ⟨sized_of_sound hpages hanswer, fun hsized => ?_⟩
  by_cases hrefused : Refused cfg gcdAnswer size byteAlignment s
  · exact allocSound_of_refused hrefused
  obtain ⟨base, rfl⟩ : ∃ base, gcdAnswer = some base :=
    Option.ne_none_iff_exists'.mp fun hnone => hrefused (.inr (.inl hnone))
  exact allocSound_of_fits hpages hanswer (hsized.resolve_right hrefused) hrefused

end Alloc

/-! A request whose block size wraps to one byte. -/

/-- Thirty-one bytes less and the sum would wrap to nothing. -/
def wrappingSize : ℕ := 2 ^ 64 - 4126

lemma twoPageWorld_answers (size : ℕ)
    (h : 0 < allocBlockSize .aarch64 size ∧ allocBlockSize .aarch64 size ≤ 8192) :
    GcdAnswers twoPagePool twoPageWorld.state size (some 8192) := by
  rintro base ⟨⟩
  exact ⟨h.1, ⟨2, rfl⟩, ⟨le_rfl, Nat.add_le_add_left h.2 8192⟩, fun r hr => by cases hr⟩

lemma twoPageWorld_inv : ShmInv twoPagePool twoPageWorld := .init _

lemma not_refused_twoPageWorld {base size : ℕ}
    (hanswer : GcdAnswers twoPagePool twoPageWorld.state size (some base)) :
    ¬ Refused twoPagePool (some base) size 16 twoPageWorld.state := by
  rintro (hbad | hnone | ⟨base', hbase, hbroken⟩)
  · exact absurd hbad (by decide)
  · cases hnone
  · cases hbase
    rw [twoPageWorld_inv.isFree (hanswer base rfl).2] at hbroken
    cases hbroken

/-- Half a page is handed out as half a page. -/
theorem allocSound_iff_halfPage :
    AllocSound twoPagePool (some 8192) 2048 16 twoPageWorld.state :=
  (allocSound_iff ⟨2, rfl⟩ (twoPageWorld_answers 2048 (by decide))).mpr (.inl (by decide))

/-- A block of one byte, on the upper page, is handed out as one of almost `2 ^ 64`. -/
theorem not_allocSound_wrappingSize :
    ¬ AllocSound twoPagePool (some 12288) wrappingSize 16 twoPageWorld.state := by
  have hanswer : GcdAnswers twoPagePool twoPageWorld.state wrappingSize (some 12288) := by
    rintro base ⟨⟩
    exact ⟨by decide, ⟨3, rfl⟩, by decide, fun r hr => by cases hr⟩
  intro hsound
  rcases sized_of_sound ⟨2, rfl⟩ hanswer hsound with hfits | hrefused
  · exact absurd hfits (by decide)
  · exact not_refused_twoPageWorld hanswer hrefused

/-! ## Errors -/

section Errors

variable {cfg : ShmConfig} {gcdAnswer : Option ℕ} {size byteAlignment ptr : ℕ} {s : ShmState}
  {free : Span → List Span → EfiStatus × List Span}

/-- An allocation that fails leaves the pool, the GCD map and the counters as they were. -/
def AllocKeeps (cfg : ShmConfig) (gcdAnswer : Option ℕ) (size byteAlignment : ℕ) (s : ShmState) :
    Prop :=
  (internalMemAlloc cfg gcdAnswer size byteAlignment s).1 = 0 →
    (internalMemAlloc cfg gcdAnswer size byteAlignment s).2 = s

/-- A release that fails leaves the pool, the GCD map and the counters as they were. -/
def FreeKeeps (cfg : ShmConfig) (free : Span → List Span → EfiStatus × List Span) (ptr : ℕ)
    (s : ShmState) : Prop :=
  (opteeClientMemFree cfg free ptr s).1.isError →
    (opteeClientMemFree cfg free ptr s).2 = s

/-- The GCD answers with a range whose fence is broken. -/
def BrokenFence (cfg : ShmConfig) (gcdAnswer : Option ℕ) (size byteAlignment : ℕ)
    (s : ShmState) : Prop :=
  badAlignment cfg.arch byteAlignment = false ∧ ∃ base, gcdAnswer = some base ∧
    isSharedMemoryRegionFree cfg.arch s.mem base (allocBlockSize cfg.arch size) = false

/-- The GCD does not take back a range that is not blank. -/
def ReleaseFails (cfg : ShmConfig) (free : Span → List Span → EfiStatus × List Span) (ptr : ℕ)
    (s : ShmState) : Prop :=
  s.mem.load32 (headerOf cfg.arch ptr) = opteeShmSignature ∧
    (free (headerRange cfg ptr s) s.gcd).1.isError = true ∧
    isSharedMemoryRegionFree cfg.arch s.mem (headerRange cfg ptr s).lo (headerRange cfg ptr s).len =
      false

lemma internalMemAlloc_broken (h : BrokenFence cfg gcdAnswer size byteAlignment s) :
    ∃ base, internalMemAlloc cfg gcdAnswer size byteAlignment s =
      (0, { s with gcd := ⟨base, allocBlockSize cfg.arch size⟩ :: s.gcd }) := by
  obtain ⟨halign, base, rfl, hbroken⟩ := h
  refine ⟨base, ?_⟩
  simp only [internalMemAlloc, halign, hbroken, Bool.false_eq_true, if_false, if_true]

/-- A failed allocation changes something only if the fence is broken: then the GCD keeps the
range. -/
lemma allocKeeps_iff (hpages : efiPageSize ∣ cfg.size) (hanswer : GcdAnswers cfg s size gcdAnswer) :
    AllocKeeps cfg gcdAnswer size byteAlignment s ↔
      ¬ BrokenFence cfg gcdAnswer size byteAlignment s := by
  constructor
  · intro hkeeps hbroken
    obtain ⟨base, heq⟩ := internalMemAlloc_broken hbroken
    rw [AllocKeeps, heq] at hkeeps
    have hgcd := congrArg (List.length ∘ ShmState.gcd) (hkeeps rfl)
    simp at hgcd
  · intro hfence hnull
    by_cases hbad : badAlignment cfg.arch byteAlignment = true
    · simp only [internalMemAlloc, hbad, if_true]
    cases gcdAnswer with
    | none => simp only [internalMemAlloc, hbad, Bool.false_eq_true, if_false]
    | some base =>
        have hgranted : ¬ Refused cfg (some base) size byteAlignment s := by
          rintro (hbad' | hnone | hbroken)
          · exact hbad hbad'
          · cases hnone
          · exact hfence ⟨by simpa using hbad, hbroken⟩
        rw [internalMemAlloc_page hpages hanswer hgranted, efiPageSize] at hnull
        omega

/-- A failed release changes something only if the GCD fails it: then the range is fenced. -/
lemma freeKeeps_iff (hfree : ∀ r gcd, (free r gcd).1.isError = true → (free r gcd).2 = gcd) :
    FreeKeeps cfg free ptr s ↔ ¬ ReleaseFails cfg free ptr s := by
  by_cases hsig : s.mem.load32 (headerOf cfg.arch ptr) = opteeShmSignature
  · by_cases hfails : (free (headerRange cfg ptr s) s.gcd).1.isError = true
    · have hstatus := @opteeClientMemFree_status cfg ptr s free hsig
      have hstate := opteeClientMemFree_failed hsig hfails
      rw [hfree _ _ hfails] at hstate
      constructor
      · rintro hkeeps ⟨-, -, hblank⟩
        have hsame := hkeeps (by rw [hstatus]; exact hfails)
        rw [hstate] at hsame
        have hmem := congrArg ShmState.mem hsame
        simp only [mark_eq_self_iff, hblank] at hmem
        cases hmem
      · intro hnot _
        have hblank : isSharedMemoryRegionFree cfg.arch s.mem (headerRange cfg ptr s).lo
            (headerRange cfg ptr s).len = true := by
          by_contra hne
          exact hnot ⟨hsig, hfails, by simpa using hne⟩
        rw [hstate, mark_eq_self_iff.mpr hblank]
    · have hstatus := @opteeClientMemFree_status cfg ptr s free hsig
      rw [FreeKeeps, hstatus]
      exact iff_of_true (fun herror => absurd herror hfails) fun hreleased => hfails hreleased.2.1
  · have hrun : opteeClientMemFree cfg free ptr s = (.invalidParameter, s) := by
      simp only [opteeClientMemFree, ne_eq, hsig, not_false_eq_true, if_true]
    rw [FreeKeeps, hrun]
    exact iff_of_true (fun _ => rfl) fun hfails => hsig hfails.1

/-- A block whose header is in place is not blank. -/
lemma ShmBlock.HeaderAt.not_blank {b : ShmBlock} {mem : ByteStore} (h : b.HeaderAt cfg.arch mem)
    (hplaced : b.Placed cfg) :
    isSharedMemoryRegionFree cfg.arch mem b.base (allocBlockSize cfg.arch b.size) = false := by
  obtain ⟨hblock, huser, hbase, hend, hbits⟩ := hplaced.bounds
  have hheader := headerSize_bounds cfg.arch
  have hlayout := header_layout cfg.arch
  by_contra hfree
  have hblank := (isSharedMemoryRegionFree_iff (by omega)).mp (Bool.of_not_eq_false hfree)
  have hload := @ByteStore.load32_of_bytes mem (b.headerSpan cfg.arch).lo opteeShmFreeFence
    fun i hi => by
      simp only [ShmBlock.headerSpan]
      exact hblank _ (by omega) (by omega)
  rw [h.1] at hload
  exact absurd hload (by decide)

/-- The header of a live block names its range. -/
lemma ShmInv.headerRange_eq {w : ShmWorld} {b : ShmBlock} (h : ShmInv cfg w) (hb : b ∈ w.live) :
    headerRange cfg b.user w.state = b.span cfg.arch :=
  ((h.header b hb).range (h.placed b hb)).2

/-- The release of a live block goes wrong wherever the GCD fails it. -/
lemma ShmInv.releaseFails {w : ShmWorld} {b : ShmBlock} (h : ShmInv cfg w) (hb : b ∈ w.live)
    (hfails : ∀ r gcd, (free r gcd).1.isError = true) :
    ReleaseFails cfg free b.user w.state := by
  have hplaced := h.placed b hb
  rw [ReleaseFails, h.headerRange_eq hb, hplaced.headerOf_user]
  exact ⟨(h.header b hb).1, hfails _ _, (h.header b hb).not_blank hplaced⟩

/-- Failed calls leave the allocator as it was, exactly where no allocation meets a broken fence
and the GCD fails no release of a range that is not blank. -/
theorem errorsKeep_iff (hpages : efiPageSize ∣ cfg.size)
    (hanswer : GcdAnswers cfg s size gcdAnswer)
    (hfree : ∀ r gcd, (free r gcd).1.isError = true → (free r gcd).2 = gcd) :
    (AllocKeeps cfg gcdAnswer size byteAlignment s ↔
        ¬ BrokenFence cfg gcdAnswer size byteAlignment s) ∧
      (FreeKeeps cfg free ptr s ↔ ¬ ReleaseFails cfg free ptr s) :=
  ⟨allocKeeps_iff hpages hanswer, freeKeeps_iff hfree⟩

end Errors

/-! A block of the pool of two pages, and a GCD that takes nothing back. -/

/-- The block `OpteeClientMemAlloc` has made. -/
def oneBlockWorld : ShmWorld := twoPageWorld.apply twoPagePool (.memAlloc 16 (some 8192))

lemma oneBlockWorld_allowed : (ShmOp.memAlloc 16 (some 8192)).Allowed twoPagePool twoPageWorld := by
  refine ⟨by decide, ?_⟩
  rintro base ⟨⟩
  exact ⟨⟨2, rfl⟩, by decide, fun r hr => by cases hr⟩

lemma oneBlockWorld_reachable : (shmSystem twoPagePool).Reachable oneBlockWorld :=
  .step (.init ⟨_, rfl⟩) ⟨oneBlockWorld_allowed, rfl⟩

lemma oneBlockWorld_live : (⟨8192, 12288, 16⟩ : ShmBlock) ∈ oneBlockWorld.live := by
  have hgcd := (twoPageWorld_answers 16 (by decide) 8192 rfl).2
  have hrun := @ShmInv.internalMemAlloc_eq _ _ _ twoPageWorld_inv 8192 16 16 (by decide) hgcd
    (by decide)
  simp only [oneBlockWorld, ShmWorld.apply, opteeClientMemAlloc, opteeClientMemByteAlignment, hrun]
  exact List.mem_cons_self

/-- `FreeMemorySpace` without the memory to split a range of its map. -/
def exhaustedGcd (_ : Span) (gcd : List Span) : EfiStatus × List Span := (.outOfResources, gcd)

theorem errorsKeep_iff_twoPageWorld :
    (AllocKeeps twoPagePool (some 8192) 16 16 twoPageWorld.state ↔
        ¬ BrokenFence twoPagePool (some 8192) 16 16 twoPageWorld.state) ∧
      (FreeKeeps twoPagePool exhaustedGcd 12288 twoPageWorld.state ↔
        ¬ ReleaseFails twoPagePool exhaustedGcd 12288 twoPageWorld.state) :=
  errorsKeep_iff ⟨2, rfl⟩ (twoPageWorld_answers 16 (by decide)) fun _ _ _ => rfl

/-- A release that the GCD fails has fenced the block and its header. -/
theorem not_freeKeeps_exhausted :
    (shmSystem twoPagePool).Reachable oneBlockWorld ∧
      ¬ FreeKeeps twoPagePool exhaustedGcd 12288 oneBlockWorld.state := by
  refine ⟨oneBlockWorld_reachable, fun hkeeps => ?_⟩
  have hinv : ShmInv twoPagePool oneBlockWorld := twoPageWorld_inv.memAlloc oneBlockWorld_allowed
  have hfails := @ShmInv.releaseFails _ exhaustedGcd _ _ hinv oneBlockWorld_live fun _ _ => rfl
  exact (@freeKeeps_iff twoPagePool 12288 oneBlockWorld.state exhaustedGcd
    fun _ _ _ => rfl).mp hkeeps hfails

end Optee
end MuPlatform
