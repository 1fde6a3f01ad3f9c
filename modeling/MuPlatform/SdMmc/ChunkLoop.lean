import MuPlatform.SdMmc.Storage
import Mathlib.Algebra.Order.Floor.Div

/-!
# The chunk loop of a transfer

`IoBlocks` sends a request in chunks of at most `MaxTransferSize` bytes.  The limit is a 32-bit
product of the host's `MaximumBlockCount` and the block size, and `BytesRemaining` has 32 bits as
well.  `chunkLoop` is the loop with one step a chunk, labelled by the size of the chunk, for any
outcome of the commands; its runs are those of `transferChunks` (`transferChunks_of_run`).

`chunkLoopRight_iff` says for which hosts and requests the loop ends after as many chunks as the
capability of the host asks for, each of them one the host can take.
-/

namespace MuPlatform
namespace SdMmc

/-! ## The loop -/

/-- A state between two chunks. -/
structure LoopState (σ : Type*) where
  cursor : Cursor
  status : Option EfiStatus
  state : σ

section Loop

variable {σ : Type*} (d : DataPath σ) (cmd : SdCommand) (maxSize : ℕ)

/-- The status of the attempts for the next chunk, and the state after them. -/
def LoopState.sent (l : LoopState σ) : Option EfiStatus × σ :=
  sendWithRetry d cmd l.cursor.currentLba (l.cursor.size maxSize) l.cursor.currentBuffer
    dataCommandRetryCount l.status l.state

/-- The block size the loop divides by behind the next chunk. -/
def LoopState.blockSize (l : LoopState σ) : ℕ := (d.media (l.sent d cmd maxSize).2).blockSize

/-- The state behind the next chunk. -/
def LoopState.next (l : LoopState σ) : LoopState σ where
  cursor := l.cursor.advance maxSize (l.blockSize d cmd maxSize)
  status := (l.sent d cmd maxSize).1
  state := (l.sent d cmd maxSize).2

/-- The chunk loop from a state on.  It does not go on where bytes are left and the block size is
lost. -/
def chunkLoop (start : LoopState σ) : System (LoopState σ) ℕ where
  Init l := l = start
  Step l size l' := l.cursor.bytesRemaining ≠ 0 ∧ l.blockSize d cmd maxSize ≠ 0 ∧
    size = l.cursor.size maxSize ∧ l' = l.next d cmd maxSize

variable {d cmd maxSize} {start l l' u : LoopState σ} {sizes sizes' : List ℕ}

lemma transferChunks_of_done (h : l.cursor.bytesRemaining = 0) (bound : ℕ) :
    transferChunks d cmd maxSize bound l.cursor l.status l.state = (l.status, l.state) := by
  unfold transferChunks
  rw [if_pos h]

lemma transferChunks_of_step {size : ℕ} (h : (chunkLoop d cmd maxSize start).Step l size l')
    (bound : ℕ) :
    transferChunks d cmd maxSize (bound + 1) l.cursor l.status l.state =
      transferChunks d cmd maxSize bound l'.cursor l'.status l'.state := by
  obtain ⟨hbytes, hsize, -, rfl⟩ := h
  rw [transferChunks, if_neg hbytes]
  exact if_neg hsize

/-- A run of the loop is what `transferChunks` does in as many iterations. -/
lemma transferChunks_of_run (h : (chunkLoop d cmd maxSize start).Run l sizes l') (bound : ℕ) :
    transferChunks d cmd maxSize (bound + sizes.length) l.cursor l.status l.state =
      transferChunks d cmd maxSize bound l'.cursor l'.status l'.state := by
  induction h with
  | nil => rfl
  | cons hstep _ ih =>
      rw [List.length_cons, ← Nat.add_assoc, transferChunks_of_step hstep, ih]

lemma chunkLoop_deterministic : (chunkLoop d cmd maxSize start).Deterministic :=
  fun _ _ _ _ _ h h' => ⟨h.2.2.1.trans h'.2.2.1.symm, h.2.2.2.trans h'.2.2.2.symm⟩

/-- A run that has sent everything goes through every state the loop reaches. -/
lemma run_to_end (h : (chunkLoop d cmd maxSize start).Run start sizes l)
    (hend : (chunkLoop d cmd maxSize start).Run start sizes' u)
    (hdone : u.cursor.bytesRemaining = 0) :
    ∃ rest, (chunkLoop d cmd maxSize start).Run l rest u := by
  obtain ⟨rest, -, hrest⟩ :=
    h.continues chunkLoop_deterministic hend fun _ _ hstep => hstep.1 hdone
  exact ⟨rest, hrest⟩

/-! ## Sizes -/

lemma ceilDiv_eq_one {n m : ℕ} (hn : 0 < n) (h : n ≤ m) : n ⌈/⌉ m = 1 := by
  have hle : n ⌈/⌉ m ≤ 1 := (ceilDiv_le_iff_le_mul (hn.trans_le h)).mpr (by rwa [Nat.mul_one])
  have hpos : ¬ n ⌈/⌉ m ≤ 0 := by
    rw [ceilDiv_le_iff_le_mul (hn.trans_le h), Nat.mul_zero]
    omega
  omega

lemma ceilDiv_mul_left (n : ℕ) {m k : ℕ} (hk : 0 < k) (hm : 0 < m) :
    (k * n) ⌈/⌉ (k * m) = n ⌈/⌉ m := by
  refine eq_of_forall_ge_iff fun c => ?_
  rw [ceilDiv_le_iff_le_mul (Nat.mul_pos hk hm), ceilDiv_le_iff_le_mul hm, Nat.mul_assoc,
    Nat.mul_le_mul_left_iff hk]

/-- A chunk takes one off the number of chunks. -/
lemma ceilDiv_advance {c : Cursor} (hmax : 0 < maxSize) (hbytes : c.bytesRemaining ≠ 0)
    (blockSize : ℕ) :
    c.bytesRemaining ⌈/⌉ maxSize = (c.advance maxSize blockSize).bytesRemaining ⌈/⌉ maxSize + 1 := by
  simp only [Cursor.advance, Cursor.size]
  split
  case isTrue h =>
    rw [Nat.sub_self, zero_ceilDiv, ceilDiv_eq_one (Nat.pos_of_ne_zero hbytes) h.le]
  case isFalse h =>
    have hsplit : c.bytesRemaining + maxSize - 1 =
        c.bytesRemaining - maxSize + maxSize - 1 + maxSize := by omega
    rw [Nat.ceilDiv_eq_add_pred_div, Nat.ceilDiv_eq_add_pred_div, hsplit,
      Nat.add_div_right _ hmax]

/-- A run to the end of the loop has one step a chunk. -/
lemma length_of_run (hmax : 0 < maxSize) (h : (chunkLoop d cmd maxSize start).Run l sizes l')
    (hdone : l'.cursor.bytesRemaining = 0) : sizes.length = l.cursor.bytesRemaining ⌈/⌉ maxSize := by
  induction h with
  | nil l =>
      rw [hdone, zero_ceilDiv]
      rfl
  | cons hstep _ ih =>
      obtain ⟨hbytes, -, -, rfl⟩ := hstep
      rw [List.length_cons, ih hdone, ceilDiv_advance hmax hbytes]
      rfl

/-- Where the loop goes on from every state with bytes left, it comes to its end. -/
lemma exists_run (hmax : 0 < maxSize)
    (hsteps : ∀ l, (chunkLoop d cmd maxSize start).Reachable l → l.cursor.bytesRemaining ≠ 0 →
      l.blockSize d cmd maxSize ≠ 0)
    (h : (chunkLoop d cmd maxSize start).Reachable l) :
    ∃ sizes l', (chunkLoop d cmd maxSize start).Run l sizes l' ∧ l'.cursor.bytesRemaining = 0 := by
  induction hn : l.cursor.bytesRemaining using Nat.strong_induction_on generalizing l with
  | _ n ih =>
      by_cases hbytes : l.cursor.bytesRemaining = 0
      · exact ⟨[], l, .nil l, hbytes⟩
      have hstep : (chunkLoop d cmd maxSize start).Step l (l.cursor.size maxSize)
          (l.next d cmd maxSize) := ⟨hbytes, hsteps l h hbytes, rfl, rfl⟩
      have hless : (l.next d cmd maxSize).cursor.bytesRemaining < n := by
        simp only [LoopState.next, Cursor.advance, Cursor.size]
        split <;> omega
      obtain ⟨sizes, u, hrun, hdone⟩ := ih _ hless (h.step hstep) rfl
      exact ⟨_, u, .cons hstep hrun, hdone⟩

/-- The bytes left are whole blocks. -/
lemma dvd_bytesRemaining (hbytes : sdBlockLengthBytes ∣ start.cursor.bytesRemaining)
    (hmax : sdBlockLengthBytes ∣ maxSize) (h : (chunkLoop d cmd maxSize start).Reachable l) :
    sdBlockLengthBytes ∣ l.cursor.bytesRemaining := by
  refine h.invariant (P := fun l => sdBlockLengthBytes ∣ l.cursor.bytesRemaining) ?_ ?_
  · rintro l rfl
    exact hbytes
  · rintro l size l' hl ⟨-, -, -, rfl⟩
    simp only [LoopState.next, Cursor.advance, Cursor.size]
    split
    · rw [Nat.sub_self]
      exact dvd_zero _
    · exact Nat.dvd_sub hl hmax

end Loop

/-! ## What the loop should do -/

/-- `SD_BLOCK_LENGTH_BYTES` goes `2 ^ 23` times into a 32-bit size. -/
def maxBlocks32 : ℕ := 2 ^ 23

section Request

variable {σ : Type*} (d : DataPath σ) (r : IoRequest) (s : σ)

/-- The loop of a request. -/
def requestLoop : System (LoopState σ) ℕ :=
  chunkLoop d (r.command (d.media s)) (maxTransferSize d s)
    ⟨⟨r.bufferSize % 2 ^ 32, r.lba % 2 ^ 32, r.buffer⟩, none, s⟩

/-- Every chunk is one of between one block and as many as the host takes, and leaves fewer bytes;
and the loop comes to its end with the chunks that the capability of the host asks for, where
`IoBlocks` returns. -/
structure ChunkLoopRight : Prop where
  chunk : ∀ l size l', (requestLoop d r s).Reachable l → (requestLoop d r s).Step l size l' →
    (∃ c, 1 ≤ c ∧ c ≤ d.hostCapabilities.maximumBlockCount.toNat ∧
      size = sdBlockLengthBytes * c) ∧ l'.cursor.bytesRemaining < l.cursor.bytesRemaining
  ends : ∃ start sizes l, (requestLoop d r s).Init start ∧ (requestLoop d r s).Run start sizes l ∧
    l.cursor.bytesRemaining = 0 ∧ ioBlocks d r s = (l.status, l.state) ∧
      sizes.length =
        (r.bufferSize / sdBlockLengthBytes) ⌈/⌉ d.hostCapabilities.maximumBlockCount.toNat

/-- The blocks of the request and the capability of the host have 32-bit sizes; or the request fits
what is left of the capability; or it does not have a 32-bit size, and by chance what is left of
it makes as many chunks of what is left of the capability. -/
def SizesFit (caps : SdhcCapabilities) : Prop :=
  let blocks := r.bufferSize / sdBlockLengthBytes
  let maximum := caps.maximumBlockCount.toNat
  (blocks < maxBlocks32 ∧ maximum < maxBlocks32) ∨ blocks ≤ maximum % maxBlocks32 ∨
    (maxBlocks32 ≤ blocks ∧ maximum % maxBlocks32 ≠ 0 ∧
      (blocks % maxBlocks32) ⌈/⌉ (maximum % maxBlocks32) = blocks ⌈/⌉ maximum)

/-- No reset behind a chunk of the request takes the block size away. -/
def KeepsBlockSize : Prop :=
  ∀ l, (requestLoop d r s).Reachable l → l.cursor.bytesRemaining ≠ 0 →
    l.blockSize d (r.command (d.media s)) (maxTransferSize d s) ≠ 0

variable {d r s} {cmd : SdCommand}

/-- The sizes fit where the wrapped sizes make as many chunks. -/
lemma sizesFit_iff {caps : SdhcCapabilities} (hblocks : 0 < r.bufferSize / sdBlockLengthBytes)
    (hpos : 0 < caps.maximumBlockCount.toNat) :
    SizesFit r caps ↔ caps.maximumBlockCount.toNat % maxBlocks32 ≠ 0 ∧
      (r.bufferSize / sdBlockLengthBytes % maxBlocks32) ⌈/⌉
          (caps.maximumBlockCount.toNat % maxBlocks32) =
        (r.bufferSize / sdBlockLengthBytes) ⌈/⌉ caps.maximumBlockCount.toNat := by
  unfold SizesFit
  generalize r.bufferSize / sdBlockLengthBytes = n at *
  generalize caps.maximumBlockCount.toNat = m at *
  have hm : m % maxBlocks32 ≤ m := Nat.mod_le _ _
  have hlt : m % maxBlocks32 < maxBlocks32 := Nat.mod_lt _ (by decide)
  constructor
  · rintro (⟨hn, hm⟩ | hfits | ⟨-, hne, heq⟩)
    · rw [Nat.mod_eq_of_lt hn, Nat.mod_eq_of_lt hm]
      exact ⟨hpos.ne', rfl⟩
    · rw [Nat.mod_eq_of_lt (hfits.trans_lt hlt), ceilDiv_eq_one hblocks hfits,
        ceilDiv_eq_one hblocks (hfits.trans hm)]
      exact ⟨(hblocks.trans_le hfits).ne', rfl⟩
    · exact ⟨hne, heq⟩
  · rintro ⟨hne, heq⟩
    by_cases hn : n < maxBlocks32
    swap
    · exact .inr (.inr ⟨Nat.le_of_not_lt hn, hne, heq⟩)
    by_cases hm' : m < maxBlocks32
    · exact .inl ⟨hn, hm'⟩
    -- the request is one chunk for the host, and so it is one of what is left
    refine .inr (.inl ?_)
    rw [Nat.mod_eq_of_lt hn, ceilDiv_eq_one hblocks (show n ≤ m by omega)] at heq
    have hone := (ceilDiv_le_iff_le_mul (Nat.pos_of_ne_zero hne)).mp heq.le
    rwa [Nat.mul_one] at hone

/-- The two sizes of a request for whole blocks. -/
lemma wrapped_sizes (hblock : (d.media s).blockSize = sdBlockLengthBytes)
    (hmul : sdBlockLengthBytes ∣ r.bufferSize) :
    r.bufferSize % 2 ^ 32 =
        sdBlockLengthBytes * (r.bufferSize / sdBlockLengthBytes % maxBlocks32) ∧
      maxTransferSize d s =
        sdBlockLengthBytes * (d.hostCapabilities.maximumBlockCount.toNat % maxBlocks32) := by
  obtain ⟨n, hn⟩ := hmul
  rw [maxTransferSize, hblock, hn]
  simp only [sdBlockLengthBytes, maxBlocks32]
  omega

lemma maxTransferSize_pos (hblock : (d.media s).blockSize = sdBlockLengthBytes)
    (hmul : sdBlockLengthBytes ∣ r.bufferSize)
    (hmax : d.hostCapabilities.maximumBlockCount.toNat % maxBlocks32 ≠ 0) :
    0 < maxTransferSize d s := by
  rw [(wrapped_sizes hblock hmul).2]
  exact Nat.mul_pos (by decide) (Nat.pos_of_ne_zero hmax)

/-- A step takes a chunk that is as large as the wrapped sizes say. -/
lemma chunk_of_step (hblock : (d.media s).blockSize = sdBlockLengthBytes)
    (hmul : sdBlockLengthBytes ∣ r.bufferSize)
    (hmax : d.hostCapabilities.maximumBlockCount.toNat % maxBlocks32 ≠ 0) {l l' : LoopState σ}
    {size : ℕ} (hl : (requestLoop d r s).Reachable l) (hstep : (requestLoop d r s).Step l size l') :
    (∃ c, 1 ≤ c ∧ c ≤ d.hostCapabilities.maximumBlockCount.toNat ∧
      size = sdBlockLengthBytes * c) ∧ l'.cursor.bytesRemaining < l.cursor.bytesRemaining := by
  obtain ⟨hbytes, hsize⟩ := wrapped_sizes hblock hmul
  have hmaxdvd : sdBlockLengthBytes ∣ maxTransferSize d s := ⟨_, hsize⟩
  obtain ⟨k, hk⟩ := dvd_bytesRemaining ⟨_, hbytes⟩ hmaxdvd hl
  obtain ⟨hleft, -, rfl, rfl⟩ := hstep
  have hm := Nat.mod_le d.hostCapabilities.maximumBlockCount.toNat maxBlocks32
  have hless : (l.next d (r.command (d.media s)) (maxTransferSize d s)).cursor.bytesRemaining =
      l.cursor.bytesRemaining - l.cursor.size (maxTransferSize d s) := rfl
  rw [hless, hsize]
  simp only [sdBlockLengthBytes] at hk ⊢
  rw [Cursor.size]
  split
  · exact ⟨⟨k, by omega, by omega, hk⟩, by omega⟩
  · exact ⟨⟨_, by omega, hm, rfl⟩, by omega⟩

/-- The loop of the wrapped sizes. -/
lemma chunkLoopRight_iff_wrapped (hblock : (d.media s).blockSize = sdBlockLengthBytes)
    (hpos : 0 < d.hostCapabilities.maximumBlockCount.toNat)
    (hcheck : checkRequest (d.media s) r = some (.ok cmd)) :
    ChunkLoopRight d r s ↔
      (d.hostCapabilities.maximumBlockCount.toNat % maxBlocks32 ≠ 0 ∧
        (r.bufferSize / sdBlockLengthBytes % maxBlocks32) ⌈/⌉
            (d.hostCapabilities.maximumBlockCount.toNat % maxBlocks32) =
          (r.bufferSize / sdBlockLengthBytes) ⌈/⌉ d.hostCapabilities.maximumBlockCount.toNat) ∧
        KeepsBlockSize d r s := by
  obtain ⟨hne, hmul, -⟩ := checkRequest_span hcheck
  rw [hblock] at hmul
  obtain ⟨hbytes, hsize⟩ := wrapped_sizes hblock hmul
  have hblocks : 0 < r.bufferSize / sdBlockLengthBytes :=
    Nat.div_pos (Nat.le_of_dvd (Nat.pos_of_ne_zero hne) hmul) (by decide)
  constructor
  · rintro ⟨hchunk, start, sizes, l, rfl, hrun, hdone, -, hlength⟩
    have hmax : d.hostCapabilities.maximumBlockCount.toNat % maxBlocks32 ≠ 0 := by
      intro hzero
      cases hrun with
      | nil =>
          have hone : 0 < (r.bufferSize / sdBlockLengthBytes) ⌈/⌉
              d.hostCapabilities.maximumBlockCount.toNat := by
            by_contra hnone
            have hle := (ceilDiv_le_iff_le_mul hpos).mp (Nat.le_of_not_lt hnone)
            omega
          exact absurd hlength hone.ne
      | cons hstep =>
          obtain ⟨⟨c, hc, -, hcsize⟩, -⟩ := hchunk _ _ _ (.init rfl) hstep
          have hempty := hstep.2.2.1
          rw [hsize, hzero, Nat.mul_zero] at hempty
          simp only [Cursor.size, Nat.not_lt_zero, if_false, sdBlockLengthBytes] at hempty hcsize
          omega
    refine ⟨⟨hmax, ?_⟩, fun l' hl' hleft => ?_⟩
    · rw [← hlength, length_of_run (maxTransferSize_pos hblock hmul hmax) hrun hdone, hbytes, hsize,
        ceilDiv_mul_left _ (by decide) (Nat.pos_of_ne_zero hmax)]
    · -- the run to the end goes on from every state with bytes left
      obtain ⟨start', is, rfl, hrun'⟩ := hl'
      obtain ⟨rest, hrest⟩ := run_to_end hrun' hrun hdone
      cases hrest with
      | nil => exact absurd hdone hleft
      | cons hstep => exact hstep.2.1
  · rintro ⟨⟨hmax, hcount⟩, hkeeps⟩
    have hpos' := maxTransferSize_pos hblock hmul hmax
    refine ⟨fun l size l' hl hstep => chunk_of_step hblock hmul hmax hl hstep, ?_⟩
    obtain ⟨sizes, l, hrun, hdone⟩ := exists_run hpos' hkeeps (.init rfl)
    have hlength := length_of_run hpos' hrun hdone
    refine ⟨_, sizes, l, rfl, hrun, hdone, ?_, ?_⟩
    · -- the bound of `IoBlocks` is enough for the run
      have hbound : sizes.length ≤ r.bufferSize % 2 ^ 32 := by
        rw [hlength, ceilDiv_le_iff_le_mul hpos']
        exact Nat.le_mul_of_pos_left _ hpos'
      have hio : ioBlocks d r s = transferChunks d (r.command (d.media s)) (maxTransferSize d s)
          (r.bufferSize % 2 ^ 32) ⟨r.bufferSize % 2 ^ 32, r.lba % 2 ^ 32, r.buffer⟩ none s := by
        unfold ioBlocks
        rw [hcheck, checkRequest_command hcheck]
        rfl
      have hall := transferChunks_of_run hrun (r.bufferSize % 2 ^ 32 - sizes.length)
      rw [Nat.sub_add_cancel hbound, transferChunks_of_done hdone] at hall
      rw [hio, hall]
    · rw [hlength, hbytes, hsize, ceilDiv_mul_left _ (by decide) (Nat.pos_of_ne_zero hmax), hcount]

/-- The chunk loop does what it should exactly where the sizes of the request and of the host fit
32 bits, up to the cases in which what is left of them does, and no reset takes the block size
away. -/
theorem chunkLoopRight_iff
    (hblock : (d.media s).blockSize = 0 ∨ (d.media s).blockSize = sdBlockLengthBytes)
    (hpos : 0 < d.hostCapabilities.maximumBlockCount.toNat)
    (hcheck : checkRequest (d.media s) r = some (.ok cmd)) :
    ChunkLoopRight d r s ↔ SizesFit r d.hostCapabilities ∧ KeepsBlockSize d r s := by
  have hblock' := hblock.resolve_left (checkRequest_eq_ok hcheck).2.2.1
  obtain ⟨hne, hmul, -⟩ := checkRequest_span hcheck
  rw [hblock'] at hmul
  have hblocks : 0 < r.bufferSize / sdBlockLengthBytes :=
    Nat.div_pos (Nat.le_of_dvd (Nat.pos_of_ne_zero hne) hmul) (by decide)
  rw [chunkLoopRight_iff_wrapped hblock' hpos hcheck, sizesFit_iff hblocks hpos]

end Request

/-! A host whose capability has no 32-bit size. -/

/-- A host that takes four gigabytes at once. -/
def fourGigabyteHost : SdhcCapabilities := ⟨512, 0x800000⟩

lemma twoBlockRead_accepted :
    checkRequest smallMedia twoBlockRead = some (.ok cmdReadMultiBlock) := by
  decide +kernel

/-- Two blocks for a host that takes one at a time. -/
theorem chunkLoopRight_iff_twoBlocks :
    ChunkLoopRight (scriptedPath oneBlockHost (steadyScript fun _ => .success)) twoBlockRead [] ↔
      SizesFit twoBlockRead oneBlockHost ∧
        KeepsBlockSize (scriptedPath oneBlockHost (steadyScript fun _ => .success)) twoBlockRead
          [] :=
  @chunkLoopRight_iff _ (scriptedPath oneBlockHost (steadyScript fun _ => .success)) twoBlockRead []
    _ (.inr rfl) (by decide) twoBlockRead_accepted

/-- For such a host the limit is zero, and no byte is ever sent. -/
theorem not_chunkLoopRight_fourGigabytes :
    ¬ ChunkLoopRight (scriptedPath fourGigabyteHost (steadyScript fun _ => .success)) twoBlockRead
      [] := by
  intro hright
  have hwrapped := (@chunkLoopRight_iff_wrapped _
    (scriptedPath fourGigabyteHost (steadyScript fun _ => .success)) twoBlockRead [] _ rfl
    (by decide +kernel) twoBlockRead_accepted).mp hright
  exact hwrapped.1.1 (by decide +kernel)

end SdMmc
end MuPlatform
