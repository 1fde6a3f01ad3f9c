import MuPlatform.Base.Runs
import MuPlatform.Optee.Mem

/-!
# Runs of the shared-memory allocator

What holds of the allocator over every run of its clients.  A run is a sequence of
allocations of any size up to the pool, releases, and writes by a client into what it was
given; the GCD may answer an allocation with any range that is free, page aligned and inside
the pool, or fail it, and take a range back or fail that.

`ShmInv` is the invariant.  It speaks about whole blocks: they are apart, each carries its
header, every byte of the pool outside them is fenced, and the counters count them.  A release
that the GCD fails leaves its block allocated and fenced, without its header.  Each operation
keeps the invariant (`ShmInv.alloc`, `ShmInv.memFree`, `ShmInv.clientWrite`), and what clients
rely on (`ShmGuarantee`) follows from it.
-/

namespace MuPlatform
namespace Optee

/-! ## Blocks -/

/-- An allocated block as the run sees it: the base the GCD returned, the pointer the client
got, and the size it asked for. -/
structure ShmBlock where
  base : ℕ
  user : ℕ
  size : ℕ
  deriving DecidableEq, Repr

namespace ShmBlock

variable (arch : Arch) (b : ShmBlock)

/-- The GCD range of the block. -/
def span : Span := ⟨b.base, allocBlockSize arch b.size⟩

/-- The bytes the client may use. -/
def userSpan : Span := ⟨b.user, b.size⟩

/-- The header. -/
def headerSpan : Span := ⟨b.user - arch.headerSize, arch.headerSize⟩

/-- The header of the block is in place. -/
def HeaderAt (mem : ByteStore) : Prop :=
  mem.load32 (b.headerSpan arch).lo = opteeShmSignature ∧
  mem.load64 ((b.headerSpan arch).lo + arch.headerSizeOffset) =
    UInt64.ofNat (allocBlockSize arch b.size) ∧
  mem.load64 ((b.headerSpan arch).lo + arch.headerAddressOffset) = UInt64.ofNat b.base

/-- The block lies in the pool as `InternalMemAlloc` places it. -/
structure Placed (cfg : ShmConfig) (b : ShmBlock) : Prop where
  aligned : efiPageSize ∣ b.base
  inside : (b.span cfg.arch).Within cfg.pool
  user_eq : b.user = b.base + efiPageSize
  size_le : b.size ≤ cfg.size

end ShmBlock

section Geometry

variable {cfg : ShmConfig} {b c : ShmBlock} {base size : ℕ}

lemma headerSize_bounds (arch : Arch) : 0 < arch.headerSize ∧ arch.headerSize ≤ 32 := by
  cases arch <;> decide

/-- The header fields lie one after the other inside the header. -/
lemma header_layout (arch : Arch) : 4 ≤ arch.headerSizeOffset ∧
    arch.headerSizeOffset + 8 ≤ arch.headerAddressOffset ∧
    arch.headerAddressOffset + 8 = arch.headerSize := by
  cases arch <;> decide

lemma ShmConfig.start_le (cfg : ShmConfig) : 8192 ≤ cfg.start := cfg.start_ge

lemma ShmConfig.size_lt (cfg : ShmConfig) : cfg.start + cfg.size < 2 ^ 64 :=
  cfg.end_lt.trans_le (Nat.pow_le_pow_right (by decide) (by cases cfg.arch <;> decide))

/-- For sizes up to the pool the block size does not wrap. -/
lemma allocBlockSize_eq (h : size ≤ cfg.size) :
    allocBlockSize cfg.arch size = cfg.arch.headerSize + size + 4095 := by
  have hstart := cfg.start_le
  have hend := cfg.end_lt
  have hheader := headerSize_bounds cfg.arch
  have hwrap : cfg.arch.headerSize + size + (opteeShmAllocAlign - 1) < 2 ^ cfg.arch.uintnBits := by
    simp only [opteeShmAllocAlign, efiPageSize]
    omega
  rw [allocBlockSize, Arch.uintn_of_lt hwrap]
  rfl

/-- The user pointer is one page above a page-aligned base. -/
lemma userBaseAddress_eq (halign : efiPageSize ∣ base) (hsize : size ≤ cfg.size)
    (hin : (⟨base, allocBlockSize cfg.arch size⟩ : Span).Within cfg.pool) :
    userBaseAddress cfg.arch base = base + efiPageSize := by
  have hend := cfg.end_lt
  have hheader := headerSize_bounds cfg.arch
  have hblock := allocBlockSize_eq hsize
  simp only [Span.Within, ShmConfig.pool] at hin
  obtain ⟨k, rfl⟩ := halign
  simp only [userBaseAddress, opteeShmAllocAlign, efiPageSize] at *
  rw [Arch.uintn_of_lt (n := 4096 * k) (by omega), Arch.uintn_of_lt (by omega)]
  omega

lemma headerOf_eq {ptr : ℕ} (h : cfg.arch.headerSize ≤ ptr) (hptr : ptr < 2 ^ cfg.arch.uintnBits) :
    headerOf cfg.arch ptr = ptr - cfg.arch.headerSize := by
  have hsplit : ptr + 2 ^ cfg.arch.uintnBits - cfg.arch.headerSize =
      (ptr - cfg.arch.headerSize) + 2 ^ cfg.arch.uintnBits := by omega
  rw [headerOf, hsplit, Arch.uintn, Nat.add_mod_right, Nat.mod_eq_of_lt (by omega)]

namespace ShmBlock.Placed

/-- A placed block, with every bound written out. -/
lemma bounds (h : b.Placed cfg) : allocBlockSize cfg.arch b.size =
      cfg.arch.headerSize + b.size + 4095 ∧ b.user = b.base + 4096 ∧ 8192 ≤ b.base ∧
      b.base + (cfg.arch.headerSize + b.size + 4095) ≤ cfg.start + cfg.size ∧
      cfg.start + cfg.size < 2 ^ cfg.arch.uintnBits := by
  have hstart := cfg.start_le
  have hblock := allocBlockSize_eq h.size_le
  obtain ⟨hlo, hhi⟩ := h.inside
  rw [ShmBlock.span, hblock] at hhi
  exact ⟨hblock, h.user_eq, hstart.trans hlo, hhi, cfg.end_lt⟩

lemma user_within (h : b.Placed cfg) : (b.userSpan).Within (b.span cfg.arch) := by
  obtain ⟨hblock, huser, -⟩ := h.bounds
  have hheader := headerSize_bounds cfg.arch
  simp only [Span.Within, ShmBlock.userSpan, ShmBlock.span]
  omega

lemma header_within (h : b.Placed cfg) : (b.headerSpan cfg.arch).Within (b.span cfg.arch) := by
  obtain ⟨hblock, huser, -⟩ := h.bounds
  have hheader := headerSize_bounds cfg.arch
  simp only [Span.Within, ShmBlock.headerSpan, ShmBlock.span]
  omega

lemma header_apart_user (h : b.Placed cfg) : (b.headerSpan cfg.arch).Apart b.userSpan := by
  obtain ⟨-, huser, hbase, -⟩ := h.bounds
  have hheader := headerSize_bounds cfg.arch
  simp only [Span.Apart, ShmBlock.headerSpan, ShmBlock.userSpan]
  omega

lemma headerOf_user (h : b.Placed cfg) :
    headerOf cfg.arch b.user = (b.headerSpan cfg.arch).lo := by
  obtain ⟨-, huser, -, hend, hbits⟩ := h.bounds
  have hheader := headerSize_bounds cfg.arch
  exact headerOf_eq (by omega) (by omega)

end ShmBlock.Placed

/-- The header depends on the bytes of the header only. -/
lemma ShmBlock.HeaderAt.congr {mem mem' : ByteStore} (h : b.HeaderAt cfg.arch mem)
    (hmem : ∀ x, (b.headerSpan cfg.arch).Has x → mem' x = mem x) :
    b.HeaderAt cfg.arch mem' := by
  obtain ⟨hsig, hsize, haddr⟩ := h
  have hlayout := header_layout cfg.arch
  simp only [Span.Has, ShmBlock.headerSpan] at hmem
  refine ⟨?_, ?_, ?_⟩
  · rw [← hsig]
    exact ByteStore.load32_congr fun i hi => hmem _ (by simp only [headerSpan]; omega)
  · rw [← hsize]
    exact ByteStore.load64_congr fun i hi => hmem _ (by simp only [headerSpan]; omega)
  · rw [← haddr]
    exact ByteStore.load64_congr fun i hi => hmem _ (by simp only [headerSpan]; omega)

/-- The header is in place: for certain, or where its signature is. -/
def ShmBlock.Named (intact : Prop) (arch : Arch) (b : ShmBlock) (mem : ByteStore) : Prop :=
  intact ∨ mem.load32 (b.headerSpan arch).lo = opteeShmSignature → b.HeaderAt arch mem

lemma ShmBlock.Named.congr {intact : Prop} {mem mem' : ByteStore}
    (h : b.Named intact cfg.arch mem)
    (hmem : ∀ x, (b.headerSpan cfg.arch).Has x → mem' x = mem x) :
    b.Named intact cfg.arch mem' := by
  have hlayout := header_layout cfg.arch
  have hsig : mem'.load32 (b.headerSpan cfg.arch).lo = mem.load32 (b.headerSpan cfg.arch).lo :=
    ByteStore.load32_congr fun i hi => hmem _ (by
      simp only [Span.Has, ShmBlock.headerSpan]
      omega)
  intro hnamed
  rw [hsig] at hnamed
  exact (h hnamed).congr hmem

lemma writeHeader_apply_off {arch : Arch} {header blockSize x : ℕ} {mem : ByteStore}
    (h : x < header ∨ header + arch.headerSize ≤ x) :
    writeHeader arch header blockSize base mem x = mem x := by
  have hlayout := header_layout arch
  rw [writeHeader, ByteStore.store64_apply_off (by omega), ByteStore.store64_apply_off (by omega),
    ByteStore.store32_apply_off (by omega), ByteStore.fill_apply_off (by omega)]

lemma headerAt_writeHeader (arch : Arch) (b : ShmBlock) (mem : ByteStore) :
    b.HeaderAt arch
      (writeHeader arch (b.headerSpan arch).lo (allocBlockSize arch b.size) b.base mem) := by
  have hlayout := header_layout arch
  refine ⟨?_, ?_, ?_⟩
  · rw [writeHeader, ByteStore.load32_store64_off (by omega),
      ByteStore.load32_store64_off (by omega), ByteStore.load32_store32_same]
  · rw [writeHeader, ByteStore.load64_store64_off (by omega), ByteStore.load64_store64_same]
  · exact ByteStore.load64_store64_same _

end Geometry

/-! ## The system -/

/-- The allocator together with the blocks its clients hold. -/
structure ShmWorld where
  state : ShmState
  live : List ShmBlock

/-- What the clients do. -/
inductive ShmOp
  | memAlloc (size : ℕ) (gcdAnswer : Option ℕ)
  | alignedMemAlloc (size byteAlignment : ℕ) (gcdAnswer : Option ℕ)
  | memFree (ptr : ℕ) (free : Span → List Span → EfiStatus × List Span)
  | clientWrite (b : ShmBlock) (offset : ℕ) (bytes : List UInt8)

/-- The world after an allocation: a non-null pointer is a new block. -/
def ShmWorld.allocated (w : ShmWorld) (gcdAnswer : Option ℕ) (size : ℕ) :
    ℕ × ShmState → ShmWorld
  | (user, s) =>
    match gcdAnswer with
    | none => ⟨s, w.live⟩
    | some base => ⟨s, if user = 0 then w.live else ⟨base, user, size⟩ :: w.live⟩

/-- The world after an operation. -/
def ShmWorld.apply (cfg : ShmConfig) (w : ShmWorld) : ShmOp → ShmWorld
  | .memAlloc size gcdAnswer =>
      w.allocated gcdAnswer size (opteeClientMemAlloc cfg gcdAnswer size w.state)
  | .alignedMemAlloc size byteAlignment gcdAnswer =>
      w.allocated gcdAnswer size
        (opteeClientAlignedMemAlloc cfg gcdAnswer size byteAlignment w.state)
  | .memFree ptr free =>
      match opteeClientMemFree cfg free ptr w.state with
      | (status, s) => ⟨s, if status.isError then w.live else w.live.eraseP (·.user = ptr)⟩
  | .clientWrite b offset bytes =>
      { w with state := { w.state with mem := w.state.mem.write (b.user + offset) bytes } }

/-- A range `AllocateMemorySpace` may return: page aligned, in the pool, and free. -/
def GcdMayReturn (cfg : ShmConfig) (gcd : List Span) (base size : ℕ) : Prop :=
  efiPageSize ∣ base ∧ (⟨base, size⟩ : Span).Within cfg.pool ∧
    ∀ r ∈ gcd, (⟨base, size⟩ : Span).Apart r

/-- An allocation of at most the pool, answered by the GCD as it may. -/
def AllowedAlloc (cfg : ShmConfig) (w : ShmWorld) (size : ℕ) (gcdAnswer : Option ℕ) : Prop :=
  size ≤ cfg.size ∧ ∀ base, gcdAnswer = some base →
    GcdMayReturn cfg w.state.gcd base (allocBlockSize cfg.arch size)

/-- Clients release the pointers they hold, or pointers that no header precedes, and write
only inside the size they asked for. -/
def ShmOp.Allowed (cfg : ShmConfig) (w : ShmWorld) : ShmOp → Prop
  | .memAlloc size gcdAnswer => AllowedAlloc cfg w size gcdAnswer
  | .alignedMemAlloc size _ gcdAnswer => AllowedAlloc cfg w size gcdAnswer
  | .memFree ptr free => ((∃ b ∈ w.live, b.user = ptr) ∨
      w.state.mem.load32 (headerOf cfg.arch ptr) ≠ opteeShmSignature) ∧ GcdFrees free
  | .clientWrite b offset bytes => b ∈ w.live ∧ offset + bytes.length ≤ b.size

/-- The operation releases the pointer. -/
def ShmOp.Releases (op : ShmOp) (ptr : ℕ) : Prop := ∃ free, op = .memFree ptr free

/-- The allocator and its clients, from a freshly initialised pool. -/
def shmSystem (cfg : ShmConfig) : System ShmWorld ShmOp where
  Init w := ∃ mem, w = ⟨gcdSharedMemoryInit cfg mem, []⟩
  Step w op w' := op.Allowed cfg w ∧ w' = w.apply cfg op

/-! ## The invariant -/

/-- The invariant of the allocator, in terms of whole blocks.  Unless they are `intact`, blocks may
have lost their headers. -/
structure ShmInv (cfg : ShmConfig) (w : ShmWorld) (intact : Prop := True) : Prop where
  gcd : w.state.gcd.Perm (w.live.map (·.span cfg.arch))
  placed : ∀ b ∈ w.live, b.Placed cfg
  apart : w.live.Pairwise fun b c => (b.span cfg.arch).Apart (c.span cfg.arch)
  named : ∀ b ∈ w.live, b.Named intact cfg.arch w.state.mem
  fence : ∀ x, cfg.pool.Has x → (∀ b ∈ w.live, ¬ (b.span cfg.arch).Has x) →
    w.state.mem x = opteeShmFreeFence
  count : w.state.mSharedMemAllocationCount = w.live.length
  total : w.state.mSharedMemAllocSize = (w.live.map fun b => (b.span cfg.arch).len).sum

section Invariant

variable {cfg : ShmConfig} {w : ShmWorld} {b c : ShmBlock} {intact : Prop}
  {free : Span → List Span → EfiStatus × List Span}

lemma ShmInv.header (h : ShmInv cfg w) (b : ShmBlock) (hb : b ∈ w.live) :
    b.HeaderAt cfg.arch w.state.mem := h.named b hb (.inl trivial)

/-- What is not known of the headers is no harm. -/
lemma ShmInv.weaken (h : ShmInv cfg w intact) : ShmInv cfg w False :=
  ⟨h.gcd, h.placed, h.apart, fun b hb hsig => h.named b hb (.inr (hsig.resolve_left id)), h.fence,
    h.count, h.total⟩

/-- The blocks of a pool are together no longer than the pool. -/
lemma blocks_sum_le {live : List ShmBlock} (hplaced : ∀ b ∈ live, b.Placed cfg)
    (hapart : live.Pairwise fun b c => (b.span cfg.arch).Apart (c.span cfg.arch)) :
    (live.map fun b => (b.span cfg.arch).len).sum ≤ cfg.size := by
  have hspans : (live.map (·.span cfg.arch)).Pairwise Span.Apart := List.pairwise_map.mpr hapart
  have hin : ∀ s ∈ live.map (·.span cfg.arch), s.Within cfg.pool := by
    intro s hs
    obtain ⟨b, hb, rfl⟩ := List.mem_map.mp hs
    exact (hplaced b hb).inside
  have hsum := Span.sum_len_le_of_apart hspans hin
  rwa [List.map_map] at hsum

/-- There are no more blocks than bytes in them. -/
lemma length_le_blocks_sum {live : List ShmBlock} (hplaced : ∀ b ∈ live, b.Placed cfg) :
    live.length ≤ (live.map fun b => (b.span cfg.arch).len).sum := by
  induction live with
  | nil => rfl
  | cons b live ih =>
      have hb : 1 ≤ (b.span cfg.arch).len := by
        have hblock := (hplaced b (by simp)).bounds.1
        change 1 ≤ allocBlockSize cfg.arch b.size
        omega
      have htail := ih fun c hc => hplaced c (by simp [hc])
      simp only [List.length_cons, List.map_cons, List.sum_cons]
      omega

lemma ShmInv.init (mem : ByteStore) : ShmInv cfg ⟨gcdSharedMemoryInit cfg mem, []⟩ where
  gcd := .refl _
  placed b hb := by simp at hb
  apart := .nil
  named b hb := by simp at hb
  fence x hx _ := by
    rw [gcdSharedMemoryInit, markSharedMemoryRegionAsFree_eq_fill cfg.end_lt]
    exact ByteStore.fill_apply_on hx
  count := rfl
  total := rfl

/-- Two different blocks are apart. -/
lemma ShmInv.apart_of_ne (h : ShmInv cfg w intact) (hb : b ∈ w.live) (hc : c ∈ w.live) (hne : b ≠ c) :
    (b.span cfg.arch).Apart (c.span cfg.arch) :=
  have : Std.Symm fun b c : ShmBlock => (b.span cfg.arch).Apart (c.span cfg.arch) :=
    ⟨fun _ _ hxy => hxy.symm⟩
  h.apart.forall hb hc hne

/-- The ranges the GCD may return are fenced, so the overflow check passes. -/
lemma ShmInv.isFree (h : ShmInv cfg w intact) {base size : ℕ}
    (hgcd : GcdMayReturn cfg w.state.gcd base (allocBlockSize cfg.arch size)) :
    isSharedMemoryRegionFree cfg.arch w.state.mem base (allocBlockSize cfg.arch size) = true := by
  obtain ⟨-, hin, hfree⟩ := hgcd
  have hend := cfg.end_lt
  rw [isSharedMemoryRegionFree_iff (by simp only [Span.Within, ShmConfig.pool] at hin; omega)]
  intro x hx hxn
  have hhas : (⟨base, allocBlockSize cfg.arch size⟩ : Span).Has x := ⟨hx, hxn⟩
  refine h.fence x (hin.has hhas) fun b hb => ?_
  have hmem : b.span cfg.arch ∈ w.state.gcd :=
    h.gcd.mem_iff.mpr (List.mem_map_of_mem hb)
  exact (hfree _ hmem).not_has hhas

/-- Memory may change wherever a client may write. -/
lemma ShmInv.of_frame (h : ShmInv cfg w intact) {mem : ByteStore}
    (hframe : ∀ x, (∀ b ∈ w.live, ¬ b.userSpan.Has x) → mem x = w.state.mem x) :
    ShmInv cfg ⟨{ w.state with mem := mem }, w.live⟩ intact := by
  refine ⟨h.gcd, h.placed, h.apart, ?_, ?_, h.count, h.total⟩
  · intro c hc
    refine (h.named c hc).congr fun x hx => hframe x fun b hb => ?_
    by_cases hcb : c = b
    · subst hcb
      exact (h.placed c hc).header_apart_user.not_has hx
    · have hapart := (h.apart_of_ne hc hb hcb).mono (h.placed c hc).header_within
      exact fun hx' => hapart.not_has hx ((h.placed b hb).user_within.has hx')
  · intro x hx hout
    refine (hframe x fun b hb hx' => ?_).trans (h.fence x hx hout)
    exact hout b hb ((h.placed b hb).user_within.has hx')

/-- A client writes inside its block only, and not into the header. -/
lemma ShmInv.clientWrite (h : ShmInv cfg w intact) (hb : b ∈ w.live) {offset : ℕ} {bytes : List UInt8}
    (hlen : offset + bytes.length ≤ b.size) :
    ShmInv cfg (w.apply cfg (.clientWrite b offset bytes)) intact := by
  have huser : (⟨b.user + offset, bytes.length⟩ : Span).Within b.userSpan := by
    simp only [Span.Within, ShmBlock.userSpan]
    omega
  refine h.of_frame fun x hx => ByteStore.write_apply_off ?_
  by_contra hin
  refine hx b hb (huser.has ?_)
  simp only [Span.Has]
  omega

lemma badAlignment_byteAlignment (arch : Arch) :
    badAlignment arch opteeClientMemByteAlignment = false := by
  cases arch <;> decide +kernel

/-- What `InternalMemAlloc` does when the GCD answers with a range it may return. -/
lemma ShmInv.internalMemAlloc_eq (h : ShmInv cfg w intact) {base size byteAlignment : ℕ}
    (hsize : size ≤ cfg.size)
    (hgcd : GcdMayReturn cfg w.state.gcd base (allocBlockSize cfg.arch size))
    (hgood : badAlignment cfg.arch byteAlignment = false) :
    internalMemAlloc cfg (some base) size byteAlignment w.state =
      (base + efiPageSize,
        { mem := writeHeader cfg.arch (base + efiPageSize - cfg.arch.headerSize)
            (allocBlockSize cfg.arch size) base w.state.mem
          gcd := ⟨base, allocBlockSize cfg.arch size⟩ :: w.state.gcd
          mSharedMemAllocationCount := (w.state.mSharedMemAllocationCount + 1) % 2 ^ 64
          mSharedMemAllocSize :=
            (w.state.mSharedMemAllocSize + allocBlockSize cfg.arch size) % 2 ^ 64 }) := by
  have hplaced : ShmBlock.Placed cfg ⟨base, base + efiPageSize, size⟩ :=
    ⟨hgcd.1, hgcd.2.1, rfl, hsize⟩
  have huser := userBaseAddress_eq hgcd.1 hsize hgcd.2.1
  have hheader : headerOf cfg.arch (base + efiPageSize) =
      base + efiPageSize - cfg.arch.headerSize := hplaced.headerOf_user
  simp only [internalMemAlloc, hgood, h.isFree hgcd, huser, hheader, Bool.false_eq_true,
    Bool.true_eq_false, if_false]

/-- An allocation keeps the invariant: the new block comes from free ranges. -/
lemma ShmInv.alloc (h : ShmInv cfg w intact) {size byteAlignment : ℕ} {gcdAnswer : Option ℕ}
    (hallowed : AllowedAlloc cfg w size gcdAnswer) :
    ShmInv cfg (w.allocated gcdAnswer size
      (internalMemAlloc cfg gcdAnswer size byteAlignment w.state)) intact := by
  obtain ⟨hsize, hanswer⟩ := hallowed
  by_cases hbad : badAlignment cfg.arch byteAlignment = true
  · -- nothing happens
    have hrun : internalMemAlloc cfg gcdAnswer size byteAlignment w.state = (0, w.state) := by
      simp only [internalMemAlloc, hbad, if_true]
    rw [hrun]
    cases gcdAnswer <;> exact h
  have hgood : badAlignment cfg.arch byteAlignment = false := by simpa using hbad
  cases gcdAnswer with
  | none =>
      have hrun : internalMemAlloc cfg none size byteAlignment w.state = (0, w.state) := by
        simp only [internalMemAlloc, hgood, Bool.false_eq_true, if_false]
      rw [hrun]
      exact h
  | some base =>
      have hgcd := hanswer base rfl
      let b : ShmBlock := ⟨base, base + efiPageSize, size⟩
      have hplaced : b.Placed cfg := ⟨hgcd.1, hgcd.2.1, rfl, hsize⟩
      rw [h.internalMemAlloc_eq hsize hgcd hgood]
      have hne : base + efiPageSize ≠ 0 := by simp only [efiPageSize]; omega
      simp only [ShmWorld.allocated, hne, if_false]
      -- the new block is apart from the others, and writing its header touches none of them
      have hfree : ∀ c ∈ w.live, (b.span cfg.arch).Apart (c.span cfg.arch) := fun c hc =>
        hgcd.2.2 _ (h.gcd.mem_iff.mpr (List.mem_map_of_mem hc))
      have hplaced' : ∀ c ∈ b :: w.live, c.Placed cfg := by
        intro c hc
        rcases List.mem_cons.mp hc with rfl | hc
        · exact hplaced
        · exact h.placed c hc
      have hapart : (b :: w.live).Pairwise fun b c =>
          (b.span cfg.arch).Apart (c.span cfg.arch) := List.pairwise_cons.mpr ⟨hfree, h.apart⟩
      have hframe : ∀ x, ¬ (b.headerSpan cfg.arch).Has x →
          writeHeader cfg.arch (base + efiPageSize - cfg.arch.headerSize)
            (allocBlockSize cfg.arch size) base w.state.mem x = w.state.mem x := by
        intro x hx
        refine writeHeader_apply_off ?_
        by_contra hin
        refine hx ?_
        simp only [Span.Has, ShmBlock.headerSpan, b]
        omega
      have hsum := blocks_sum_le hplaced' hapart
      have hlength := length_le_blocks_sum hplaced'
      have hbits := cfg.size_lt
      have hspan : (b.span cfg.arch).len = allocBlockSize cfg.arch size := rfl
      simp only [List.map_cons, List.sum_cons, hspan, List.length_cons] at hsum hlength
      refine ⟨h.gcd.cons _, hplaced', hapart, ?_, ?_, ?_, ?_⟩
      · intro c hc
        rcases List.mem_cons.mp hc with rfl | hc
        · exact fun _ => headerAt_writeHeader cfg.arch _ _
        · refine (h.named c hc).congr fun x hx => hframe x fun hx' => ?_
          have hxc := (h.placed c hc).header_within.has hx
          exact (hfree c hc).not_has (hplaced.header_within.has hx') hxc
      · intro x hx hout
        have hnot : ¬ (b.headerSpan cfg.arch).Has x := fun hx' =>
          hout b List.mem_cons_self (hplaced.header_within.has hx')
        exact (hframe x hnot).trans (h.fence x hx fun c hc => hout c (List.mem_cons_of_mem _ hc))
      · show (w.state.mSharedMemAllocationCount + 1) % 2 ^ 64 = w.live.length + 1
        rw [h.count, Nat.mod_eq_of_lt (by omega)]
      · show (w.state.mSharedMemAllocSize + allocBlockSize cfg.arch size) % 2 ^ 64 =
          allocBlockSize cfg.arch size + (w.live.map fun b => (b.span cfg.arch).len).sum
        rw [h.total, Nat.mod_eq_of_lt (by omega), Nat.add_comm]

lemma ShmInv.memAlloc (h : ShmInv cfg w intact) {size : ℕ} {gcdAnswer : Option ℕ}
    (hallowed : AllowedAlloc cfg w size gcdAnswer) :
    ShmInv cfg (w.apply cfg (.memAlloc size gcdAnswer)) intact := h.alloc hallowed

/-- With a range from the GCD there is one block more. -/
lemma ShmInv.live_memAlloc (h : ShmInv cfg w intact) {base size : ℕ} (hsize : size ≤ cfg.size)
    (hgcd : GcdMayReturn cfg w.state.gcd base (allocBlockSize cfg.arch size)) :
    (w.apply cfg (.memAlloc size (some base))).live =
      ⟨base, base + efiPageSize, size⟩ :: w.live := by
  have hrun := h.internalMemAlloc_eq hsize hgcd (badAlignment_byteAlignment cfg.arch)
  simp only [ShmWorld.apply, ShmWorld.allocated, opteeClientMemAlloc, hrun]
  exact if_neg (by simp [efiPageSize])

/-- A header in place is behind a pointer that `OpteeClientMemFree` accepts, and describes the
block. -/
lemma ShmBlock.HeaderAt.range {s : ShmState} (h : b.HeaderAt cfg.arch s.mem)
    (hplaced : b.Placed cfg) : s.mem.load32 (headerOf cfg.arch b.user) = opteeShmSignature ∧
      headerRange cfg b.user s = b.span cfg.arch := by
  obtain ⟨hsig, hsize, haddr⟩ := h
  obtain ⟨hblock, -, -, hend, -⟩ := hplaced.bounds
  have hlt := cfg.size_lt
  refine ⟨by rw [hplaced.headerOf_user, hsig], ?_⟩
  rw [headerRange, hplaced.headerOf_user, hsize, haddr, UInt64.toNat_ofNat', UInt64.toNat_ofNat',
    Nat.mod_eq_of_lt (by omega), Nat.mod_eq_of_lt (by omega)]
  rfl

/-- Marking a block as free fills it. -/
lemma ShmBlock.Placed.mark_eq (h : b.Placed cfg) (mem : ByteStore) :
    markSharedMemoryRegionAsFree cfg.arch (b.span cfg.arch).lo (b.span cfg.arch).len mem =
      mem.fill b.base (allocBlockSize cfg.arch b.size) opteeShmFreeFence := by
  obtain ⟨hblock, -, -, hend, hbits⟩ := h.bounds
  exact markSharedMemoryRegionAsFree_eq_fill
    (show b.base + allocBlockSize cfg.arch b.size < 2 ^ cfg.arch.uintnBits by omega)

/-- What `OpteeClientMemFree` does with the pointer of a live block that the GCD takes back. -/
lemma ShmInv.opteeClientMemFree_eq (h : ShmInv cfg w intact) (hb : b ∈ w.live)
    (hheader : b.HeaderAt cfg.arch w.state.mem) (hfree : GcdFrees free)
    (hok : (free (b.span cfg.arch) w.state.gcd).1.isError = false) :
    (opteeClientMemFree cfg free b.user w.state).1.isError = false ∧
      (opteeClientMemFree cfg free b.user w.state).2 =
        { mem := w.state.mem.fill b.base (allocBlockSize cfg.arch b.size) opteeShmFreeFence
          gcd := w.state.gcd.erase (b.span cfg.arch)
          mSharedMemAllocationCount :=
            (w.state.mSharedMemAllocationCount + (2 ^ 64 - 1)) % 2 ^ 64
          mSharedMemAllocSize :=
            (w.state.mSharedMemAllocSize + (2 ^ 64 - allocBlockSize cfg.arch b.size)) % 2 ^ 64 } := by
  have hplaced := h.placed b hb
  obtain ⟨hsig, hrange⟩ := hheader.range hplaced
  rw [← hrange] at hok
  obtain ⟨hstatus, -, hstate⟩ := opteeClientMemFree_taken hfree hsig hok
  refine ⟨hstatus, ?_⟩
  rw [hstate, hrange, hplaced.mark_eq]
  rfl

/-- The blocks left when the client gives a pointer back. -/
lemma perm_eraseP_user {live : List ShmBlock} {ptr : ℕ} (h : ∃ b ∈ live, b.user = ptr) :
    ∃ b rest, b.user = ptr ∧ live.Perm (b :: rest) ∧ live.eraseP (·.user = ptr) = rest := by
  obtain ⟨c, hc, hptr⟩ := h
  obtain ⟨b, front, back, -, hb, hsplit, herase⟩ :=
    @List.exists_of_eraseP _ (fun d : ShmBlock => decide (d.user = ptr)) _ c hc (by simpa using hptr)
  refine ⟨b, front ++ back, by simpa using hb, ?_, herase⟩
  rw [hsplit]
  exact List.perm_middle

/-- Without a block, which is fenced as it leaves, the invariant holds of the others. -/
lemma ShmInv.without (h : ShmInv cfg w intact) {rest : List ShmBlock}
    (hperm : w.live.Perm (b :: rest)) :
    ShmInv cfg ⟨{
      mem := w.state.mem.fill b.base (allocBlockSize cfg.arch b.size) opteeShmFreeFence
      gcd := w.state.gcd.erase (b.span cfg.arch)
      mSharedMemAllocationCount := (w.state.mSharedMemAllocationCount + (2 ^ 64 - 1)) % 2 ^ 64
      mSharedMemAllocSize :=
        (w.state.mSharedMemAllocSize + (2 ^ 64 - allocBlockSize cfg.arch b.size)) % 2 ^ 64 },
      rest⟩ intact := by
  have hb : b ∈ w.live := hperm.mem_iff.mpr List.mem_cons_self
  have hrest : ∀ c ∈ rest, c ∈ w.live := fun c hc =>
    hperm.mem_iff.mpr (List.mem_cons_of_mem _ hc)
  obtain ⟨hfree, hapart⟩ :=
    List.pairwise_cons.mp ((hperm.pairwise_iff fun hxy => hxy.symm).mp h.apart)
  obtain ⟨hblock, -, -, -, -⟩ := (h.placed b hb).bounds
  have hsum := blocks_sum_le h.placed h.apart
  have hlength := length_le_blocks_sum h.placed
  have hbits := cfg.size_lt
  have hcount := h.count
  have htotal := h.total
  have hspan : (b.span cfg.arch).len = allocBlockSize cfg.arch b.size := rfl
  rw [(hperm.map fun b => (b.span cfg.arch).len).sum_eq] at hsum hlength htotal
  rw [hperm.length_eq] at hlength hcount
  simp only [List.map_cons, List.sum_cons, hspan, List.length_cons] at hsum hlength htotal hcount
  refine ⟨?_, fun c hc => h.placed c (hrest c hc), hapart, ?_, ?_, ?_, ?_⟩
  · have hgcd := (h.gcd.trans (hperm.map _)).erase (b.span cfg.arch)
    rwa [List.map_cons, List.erase_cons_head] at hgcd
  · intro c hc
    refine (h.named c (hrest c hc)).congr fun x hx => ByteStore.fill_apply_off ?_
    have hnot := ((hfree c hc).symm.mono (h.placed c (hrest c hc)).header_within).not_has hx
    simp only [Span.Has, ShmBlock.span] at hnot
    omega
  · intro x hx hout
    by_cases hin : (b.span cfg.arch).Has x
    · exact ByteStore.fill_apply_on hin
    · -- outside the block nothing changes
      have hold := h.fence x hx fun c hc => by
        rcases List.mem_cons.mp (hperm.mem_iff.mp hc) with rfl | hc
        · exact hin
        · exact hout c hc
      refine (ByteStore.fill_apply_off ?_).trans hold
      simp only [Span.Has, ShmBlock.span] at hin
      omega
  · show (w.state.mSharedMemAllocationCount + (2 ^ 64 - 1)) % 2 ^ 64 = rest.length
    omega
  · show (w.state.mSharedMemAllocSize + (2 ^ 64 - allocBlockSize cfg.arch b.size)) % 2 ^ 64 =
      (rest.map fun b => (b.span cfg.arch).len).sum
    omega

/-- The release of a live block that the GCD takes back keeps the invariant. -/
lemma ShmInv.freed (h : ShmInv cfg w intact) {rest : List ShmBlock}
    (hperm : w.live.Perm (b :: rest)) (hheader : b.HeaderAt cfg.arch w.state.mem)
    (hfree : GcdFrees free) (hok : (free (b.span cfg.arch) w.state.gcd).1.isError = false) :
    ShmInv cfg ⟨(opteeClientMemFree cfg free b.user w.state).2, rest⟩ intact := by
  have hb : b ∈ w.live := hperm.mem_iff.mpr List.mem_cons_self
  rw [(h.opteeClientMemFree_eq hb hheader hfree hok).2]
  exact h.without hperm

/-- A block that is fenced as a whole has no header, and is out all the same. -/
lemma ShmInv.fenced (h : ShmInv cfg w intact) (hb : b ∈ w.live) :
    ShmInv cfg ⟨{ w.state with
      mem := w.state.mem.fill b.base (allocBlockSize cfg.arch b.size) opteeShmFreeFence },
      w.live⟩ False := by
  have hout : ∀ x, ¬ (b.span cfg.arch).Has x →
      w.state.mem.fill b.base (allocBlockSize cfg.arch b.size) opteeShmFreeFence x =
        w.state.mem x := by
    intro x hx
    refine ByteStore.fill_apply_off ?_
    simp only [Span.Has, ShmBlock.span] at hx
    omega
  refine ⟨h.gcd, h.placed, h.apart, fun c hc => ?_, fun x hx hnot => ?_, h.count, h.total⟩
  · by_cases hcb : c = b
    · -- the signature is gone
      subst hcb
      have hwithin := (h.placed c hc).header_within
      have hlayout := header_layout cfg.arch
      simp only [Span.Within, ShmBlock.span, ShmBlock.headerSpan] at hwithin
      have hload := @ByteStore.load32_of_bytes (w.state.mem.fill c.base
        (allocBlockSize cfg.arch c.size) opteeShmFreeFence) (c.headerSpan cfg.arch).lo
        opteeShmFreeFence fun i hi => ByteStore.fill_apply_on (by
          simp only [ShmBlock.headerSpan]
          omega)
      intro hsig
      exact absurd ((hsig.resolve_left id).symm.trans hload) (by decide)
    · refine ShmBlock.Named.congr (h.weaken.named c hc) fun x hx => hout x ?_
      exact ((h.apart_of_ne hc hb hcb).mono (h.placed c hc).header_within).not_has hx
  · exact (hout x (hnot b hb)).trans (h.fence x hx hnot)

/-- A release without a header in front of its pointer is turned down. -/
lemma opteeClientMemFree_unsigned {ptr : ℕ} {s : ShmState}
    (h : s.mem.load32 (headerOf cfg.arch ptr) ≠ opteeShmSignature) :
    opteeClientMemFree cfg free ptr s = (.invalidParameter, s) := by
  simp only [opteeClientMemFree, h, ne_eq, not_false_eq_true, if_true]

/-- A release keeps the invariant, whatever the GCD says to it. -/
lemma ShmInv.memFree (h : ShmInv cfg w intact) {ptr : ℕ}
    (hallowed : (ShmOp.memFree ptr free).Allowed cfg w) :
    ShmInv cfg (w.apply cfg (.memFree ptr free)) False := by
  obtain ⟨hptr, hfree⟩ := hallowed
  by_cases hsig : w.state.mem.load32 (headerOf cfg.arch ptr) = opteeShmSignature
  swap
  · simp only [ShmWorld.apply, opteeClientMemFree_unsigned hsig]
    exact h.weaken
  obtain ⟨b, rest, rfl, hperm, herase⟩ := perm_eraseP_user (hptr.resolve_right (not_not.mpr hsig))
  have hb : b ∈ w.live := hperm.mem_iff.mpr List.mem_cons_self
  have hplaced := h.placed b hb
  have hheader : b.HeaderAt cfg.arch w.state.mem := by
    rw [hplaced.headerOf_user] at hsig
    exact h.named b hb (.inr hsig)
  have hrange := (hheader.range hplaced).2
  by_cases hok : (free (b.span cfg.arch) w.state.gcd).1.isError = true
  · -- the GCD fails: the block is fenced, and still out
    have hstatus := @opteeClientMemFree_status cfg b.user w.state free hsig
    rw [hrange] at hstatus
    have hstate := @opteeClientMemFree_failed cfg b.user w.state free hsig (by rwa [hrange])
    have hgcd := hfree (b.span cfg.arch) w.state.gcd
    rw [if_pos hok] at hgcd
    rw [hrange, hgcd, hplaced.mark_eq] at hstate
    simp only [ShmWorld.apply, hstatus, hok, if_true, hstate]
    exact h.fenced hb
  · rw [Bool.not_eq_true] at hok
    have hstatus := (h.opteeClientMemFree_eq hb hheader hfree hok).1
    simp only [ShmWorld.apply, hstatus, Bool.false_eq_true, if_false, herase]
    exact (h.freed hperm hheader hfree hok).weaken

lemma ShmInv.step (h : ShmInv cfg w intact) {op : ShmOp} (hallowed : op.Allowed cfg w) :
    ShmInv cfg (w.apply cfg op) False := by
  cases op with
  | memAlloc size gcdAnswer => exact (h.memAlloc hallowed).weaken
  | alignedMemAlloc size byteAlignment gcdAnswer => exact (h.alloc hallowed).weaken
  | memFree ptr free => exact h.memFree hallowed
  | clientWrite b offset bytes => exact (h.clientWrite hallowed.1 hallowed.2).weaken

lemma shmInv_of_reachable (h : (shmSystem cfg).Reachable w) : ShmInv cfg w False := by
  refine h.invariant (P := fun w => ShmInv cfg w False) ?_ ?_
  · rintro w ⟨mem, rfl⟩
    exact (ShmInv.init mem).weaken
  · rintro w op w' hw ⟨hallowed, rfl⟩
    exact ShmInv.step hw hallowed

/-- What the clients of the allocator rely on. -/
structure ShmGuarantee (cfg : ShmConfig) (w : ShmWorld) : Prop where
  users_apart : w.live.Pairwise fun b c => b.userSpan.Apart c.userSpan
  users_aligned : ∀ b ∈ w.live, efiPageSize ∣ b.user
  users_inside : ∀ b ∈ w.live, b.userSpan.Within cfg.pool
  own_range : ∀ b ∈ w.live, b.span cfg.arch ∈ w.state.gcd ∧
    (b.headerSpan cfg.arch).Within (b.span cfg.arch) ∧ b.userSpan.Within (b.span cfg.arch)
  headers_apart : ∀ b ∈ w.live, ∀ c ∈ w.live, (b.headerSpan cfg.arch).Apart c.userSpan
  fence : ∀ x, cfg.pool.Has x → (∀ r ∈ w.state.gcd, ¬ r.Has x) →
    w.state.mem x = opteeShmFreeFence
  overflow_check : ∀ base size, size ≤ cfg.size →
    GcdMayReturn cfg w.state.gcd base (allocBlockSize cfg.arch size) →
    isSharedMemoryRegionFree cfg.arch w.state.mem base (allocBlockSize cfg.arch size) = true
  count : w.state.mSharedMemAllocationCount = w.live.length
  total : w.state.mSharedMemAllocSize = (w.live.map fun b => (b.span cfg.arch).len).sum
  leak : finalizeReportsLeak w.state = true ↔ ∃ b, b ∈ w.live

lemma ShmInv.guarantee (h : ShmInv cfg w intact) : ShmGuarantee cfg w where
  users_apart := by
    refine h.apart.imp_of_mem fun {b c} hb hc hapart => ?_
    exact ((hapart.mono (h.placed b hb).user_within).symm.mono (h.placed c hc).user_within).symm
  users_aligned b hb := by
    rw [(h.placed b hb).user_eq]
    exact Nat.dvd_add (h.placed b hb).aligned dvd_rfl
  users_inside b hb := (h.placed b hb).user_within.trans (h.placed b hb).inside
  own_range b hb := ⟨h.gcd.mem_iff.mpr (List.mem_map_of_mem hb), (h.placed b hb).header_within,
    (h.placed b hb).user_within⟩
  headers_apart b hb c hc := by
    by_cases hbc : b = c
    · subst hbc
      exact (h.placed b hb).header_apart_user
    · have hapart := (h.apart_of_ne hb hc hbc).mono (h.placed b hb).header_within
      exact (hapart.symm.mono (h.placed c hc).user_within).symm
  fence x hx hout := h.fence x hx fun b hb =>
    hout _ (h.gcd.mem_iff.mpr (List.mem_map_of_mem hb))
  overflow_check base size _ hgcd := h.isFree hgcd
  count := h.count
  total := h.total
  leak := by
    constructor
    · intro hleak
      by_contra hnone
      have hnil : w.live = [] := List.eq_nil_iff_forall_not_mem.mpr fun b hb => hnone ⟨b, hb⟩
      simp [finalizeReportsLeak, h.count, h.total, hnil] at hleak
    · rintro ⟨b, hb⟩
      have hpos := List.length_pos_of_mem hb
      have hcount : w.state.mSharedMemAllocationCount ≠ 0 := by
        rw [h.count]
        omega
      simp [finalizeReportsLeak, hcount]

/-- In every state that clients and GCD can lead to, the allocator keeps its guarantees. -/
theorem shmGuarantee_of_reachable (cfg : ShmConfig) (w : ShmWorld)
    (h : (shmSystem cfg).Reachable w) : ShmGuarantee cfg w :=
  (shmInv_of_reachable h).guarantee

end Invariant

/-- The pool as initialised over zeroed memory. -/
def twoPageWorld : ShmWorld := ⟨gcdSharedMemoryInit twoPagePool fun _ => 0, []⟩

/-- The pool of four pages, as initialised. -/
def fourPageWorld : ShmWorld := ⟨gcdSharedMemoryInit fourPagePool fun _ => 0, []⟩

/-- Two clients have a block each, in either half of the pool. -/
def twoBlockWorld : ShmWorld :=
  (fourPageWorld.apply fourPagePool (.memAlloc 16 (some 8192))).apply fourPagePool
    (.memAlloc 16 (some 16384))

lemma twoBlockWorld_reachable : (shmSystem fourPagePool).Reachable twoBlockWorld ∧
    twoBlockWorld.live = [⟨16384, 20480, 16⟩, ⟨8192, 12288, 16⟩] := by
  have hfirst : GcdMayReturn fourPagePool [] 8192 (allocBlockSize .aarch64 16) :=
    ⟨⟨2, rfl⟩, by decide, fun r hr => by cases hr⟩
  have hinit : (shmSystem fourPagePool).Reachable fourPageWorld := .init ⟨_, rfl⟩
  have hallowed : (ShmOp.memAlloc 16 (some 8192)).Allowed fourPagePool fourPageWorld := by
    refine ⟨by decide, ?_⟩
    rintro base ⟨⟩
    exact hfirst
  have hone := hinit.step ⟨hallowed, rfl⟩
  have hinv := shmInv_of_reachable hone
  have hlive := (shmInv_of_reachable hinit).live_memAlloc
    (show 16 ≤ fourPagePool.size by decide) hfirst
  have hsecond : GcdMayReturn fourPagePool
      (fourPageWorld.apply fourPagePool (.memAlloc 16 (some 8192))).state.gcd 16384
      (allocBlockSize .aarch64 16) := by
    refine ⟨⟨4, rfl⟩, by decide, fun r hr => ?_⟩
    have hmem := hinv.gcd.mem_iff.mp hr
    rw [hlive] at hmem
    obtain rfl := List.mem_singleton.mp hmem
    decide
  have hallowed' : (ShmOp.memAlloc 16 (some 16384)).Allowed fourPagePool
      (fourPageWorld.apply fourPagePool (.memAlloc 16 (some 8192))) := by
    refine ⟨by decide, ?_⟩
    rintro base ⟨⟩
    exact hsecond
  refine ⟨hone.step ⟨hallowed', rfl⟩, ?_⟩
  rw [twoBlockWorld, hinv.live_memAlloc (by decide) hsecond, hlive]
  rfl

theorem shmGuarantee_of_reachable_twoBlocks : ShmGuarantee fourPagePool twoBlockWorld ∧
    ShmGuarantee fourPagePool (twoBlockWorld.apply fourPagePool
      (.memFree 12288 freeMemorySpace)) := by
  obtain ⟨hreach, hlive⟩ := twoBlockWorld_reachable
  have hallowed : (ShmOp.memFree 12288 freeMemorySpace).Allowed fourPagePool twoBlockWorld := by
    refine ⟨.inl ⟨⟨8192, 12288, 16⟩, ?_, rfl⟩, freeMemorySpace_frees⟩
    rw [hlive]
    decide
  exact ⟨shmGuarantee_of_reachable fourPagePool _ hreach,
    shmGuarantee_of_reachable fourPagePool _ (hreach.step ⟨hallowed, rfl⟩)⟩

end Optee
end MuPlatform
