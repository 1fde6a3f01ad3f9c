import MuPlatform.SdMmc.MediaChange

/-!
# Block transfers as copies

What a transfer is for: `Storage` is the contents of a card and the caller's memory, and a data
command that succeeds copies bytes from the one to the other.  Where it reads or writes on the card
depends on what the card takes the argument for, the number of a block or the address of a byte
(`bytePosition`); `IoBlocks` passes the block number in both cases.

`storagePath` is the data path of a card on which every command succeeds.  `movesSpan_iff` says
for which requests `IoBlocks` copies the span it was asked for there, whatever the contents.
-/

namespace MuPlatform
namespace SdMmc

/-! ## Storage -/

/-- The contents of a card and the memory outside the driver. -/
structure Storage where
  card : ByteStore
  memory : ByteStore

/-- `n` bytes moved between a position of the card and an address: a read fills the memory,
everything else writes the card. -/
def Storage.move (s : Storage) (direction : SdTransferDirection) (position address n : ℕ) :
    Storage :=
  if direction = .read then { s with memory := s.memory.blit address s.card position n }
  else { s with card := s.card.blit position s.memory address n }

/-- Where on the card the transfer for an argument starts: a card with sector addressing takes it
for the number of a block, the others for the address of a byte. -/
def bytePosition (sector : Bool) (arg : ℕ) : ℕ :=
  if sector then sdBlockLengthBytes * arg else arg

/-- The data path of a card on which every command succeeds. -/
def storagePath (sector : Bool) (caps : SdhcCapabilities) (m : MediaRecord) :
    DataPath Storage where
  media _ := m
  hostCapabilities := caps
  sdhcSendDataCommand cmd arg size buffer s :=
    (.success, s.move cmd.transferDirection (bytePosition sector (arg % 2 ^ 32)) buffer size)

/-- The storage after a request: the blocks of its span were read or written. -/
def IoRequest.moved (r : IoRequest) (s : Storage) : Storage :=
  s.move r.transferDirection (sdBlockLengthBytes * r.lba) r.buffer r.bufferSize

section Move

variable {s : Storage} {direction : SdTransferDirection} {position address n k : ℕ}

lemma Storage.move_append :
    (s.move direction position address n).move direction (position + n) (address + n) k =
      s.move direction position address (n + k) := by
  unfold Storage.move
  by_cases h : direction = .read
  · simp only [if_pos h, ByteStore.blit_append]
  · simp only [if_neg h, ByteStore.blit_append]

/-- The command of a request moves bytes in the direction of the request. -/
lemma Storage.move_command (blockCount : ℕ) :
    s.move (ioBlocksCommand direction blockCount).transferDirection position address n =
      s.move direction position address n := by
  have hread : (ioBlocksCommand direction blockCount).transferDirection = .read ↔
      direction = .read := by
    unfold ioBlocksCommand
    split_ifs with h₁ <;> simp [h₁, cmdReadSingleBlock, cmdReadMultiBlock, cmdWriteSingleBlock,
      cmdWriteMultiBlock]
  unfold Storage.move
  by_cases h : direction = .read
  · rw [if_pos h, if_pos (hread.mpr h)]
  · rw [if_neg h, if_neg (mt hread.mp h)]

end Move

/-! ## The chunk loop -/

section Loop

variable {sector : Bool} {caps : SdhcCapabilities} {m : MediaRecord}
  {direction : SdTransferDirection}
  {blockCount maxTransferSize : ℕ}

/-- The loop over the chunks of a request. -/
def moveChunks (sector : Bool) (caps : SdhcCapabilities) (m : MediaRecord)
    (direction : SdTransferDirection) (blockCount maxTransferSize bound : ℕ) (c : Cursor)
    (status : Option EfiStatus) (s : Storage) : Option EfiStatus × Storage :=
  transferChunks (storagePath sector caps m) (ioBlocksCommand direction blockCount) maxTransferSize
    bound c status s

lemma moveChunks_done {bound : ℕ} {c : Cursor} (hc : c.bytesRemaining = 0)
    (status : Option EfiStatus) (s : Storage) :
    moveChunks sector caps m direction blockCount maxTransferSize bound c status s = (status, s) := by
  unfold moveChunks transferChunks
  rw [if_pos hc]

/-- One chunk: its bytes are moved and the cursors go on. -/
lemma moveChunks_step (hblock : m.blockSize = sdBlockLengthBytes) {bound : ℕ} {c : Cursor}
    (hc : c.bytesRemaining ≠ 0) (status : Option EfiStatus) (s : Storage) :
    moveChunks sector caps m direction blockCount maxTransferSize (bound + 1) c status s =
      moveChunks sector caps m direction blockCount maxTransferSize bound
        (c.advance maxTransferSize sdBlockLengthBytes) (some .success)
        (s.move direction (bytePosition sector (c.currentLba % 2 ^ 32)) c.currentBuffer
          (c.size maxTransferSize)) := by
  unfold moveChunks
  rw [ChunkAttempt.transferChunks_succ hc]
  have hends : ChunkAttempt.EndsChunk (storagePath sector caps m)
      (ioBlocksCommand direction blockCount) maxTransferSize
      ⟨c, dataCommandRetryCount - 1, s⟩ := fun h => Bool.false_ne_true h.1
  have hsize : ChunkAttempt.blockSize (storagePath sector caps m)
      (ioBlocksCommand direction blockCount) maxTransferSize ⟨c, dataCommandRetryCount - 1, s⟩ =
        sdBlockLengthBytes := hblock
  rw [ChunkAttempt.finish_chunk hends (by rw [hsize]; decide), hsize]
  simp only [ChunkAttempt.outcome, storagePath, Storage.move_command]

/-- A card with sector addressing: the chunks make up the span, as long as the block numbers fit 32
bits. -/
lemma moveChunks_sector (hblock : m.blockSize = sdBlockLengthBytes) (hmax : 0 < maxTransferSize)
    (hmul : sdBlockLengthBytes ∣ maxTransferSize) (bound : ℕ) :
    ∀ (c : Cursor) (status : Option EfiStatus) (s : Storage), c.bytesRemaining ≤ bound →
      sdBlockLengthBytes ∣ c.bytesRemaining → c.bytesRemaining ≠ 0 →
      c.currentLba + c.bytesRemaining / sdBlockLengthBytes ≤ 2 ^ 32 →
      moveChunks true caps m direction blockCount maxTransferSize bound c status s =
        (some .success, s.move direction (sdBlockLengthBytes * c.currentLba) c.currentBuffer
          c.bytesRemaining) := by
  induction bound with
  | zero => exact fun c _ _ hle _ hne => absurd (Nat.le_zero.mp hle) hne
  | succ bound ih =>
      intro c status s hle hdvd hne hend
      have hsize : c.size maxTransferSize = min c.bytesRemaining maxTransferSize :=
        Cursor.size_eq_min
      have hsizedvd : sdBlockLengthBytes ∣ c.size maxTransferSize := Cursor.dvd_size hdvd hmul
      obtain ⟨j, hj⟩ := hdvd
      obtain ⟨k, hk⟩ := hsizedvd
      rw [hj, Nat.mul_div_cancel_left j (by decide)] at hend
      have hlba : c.currentLba % 2 ^ 32 = c.currentLba := by
        refine Nat.mod_eq_of_lt ?_
        have : j ≠ 0 := fun h => hne (by rw [hj, h, Nat.mul_zero])
        omega
      rw [moveChunks_step hblock hne, hlba, show bytePosition true c.currentLba =
        sdBlockLengthBytes * c.currentLba from rfl]
      by_cases hleft : c.bytesRemaining - c.size maxTransferSize = 0
      · -- the last chunk
        have hall : c.size maxTransferSize = c.bytesRemaining := by omega
        rw [moveChunks_done hleft, hall]
      · have hkj : k < j := by
          rw [hj, hk, ← Nat.mul_sub] at hleft
          exact Nat.lt_of_sub_ne_zero (Nat.ne_of_gt (Nat.pos_of_ne_zero fun h =>
            hleft (by rw [h, Nat.mul_zero])))
        have hnext : (c.currentLba + c.size maxTransferSize / sdBlockLengthBytes) % 2 ^ 32 =
            c.currentLba + k := by
          rw [hk, Nat.mul_div_cancel_left k (by decide)]
          exact Nat.mod_eq_of_lt (by omega)
        have hrest : c.bytesRemaining - c.size maxTransferSize = sdBlockLengthBytes * (j - k) := by
          rw [hj, hk, ← Nat.mul_sub]
        have hend' : c.currentLba + k + sdBlockLengthBytes * (j - k) / sdBlockLengthBytes ≤
            2 ^ 32 := by
          rw [Nat.mul_div_cancel_left _ (by decide)]
          omega
        rw [ih _ _ _ (by simp only [Cursor.advance]; omega)
          (by simp only [Cursor.advance, hrest]; exact Nat.dvd_mul_right _ _) hleft
          (by simpa only [Cursor.advance, hnext, hrest] using hend')]
        simp only [Cursor.advance, hnext]
        rw [show sdBlockLengthBytes * (c.currentLba + k) =
            sdBlockLengthBytes * c.currentLba + c.size maxTransferSize by rw [hk, Nat.mul_add],
          Storage.move_append]
        congr 2
        omega

/-- A transfer of one chunk. -/
lemma moveChunks_single (hblock : m.blockSize = sdBlockLengthBytes) {c : Cursor}
    (hne : c.bytesRemaining ≠ 0) (hle : c.bytesRemaining ≤ maxTransferSize) (bound : ℕ)
    (status : Option EfiStatus) (s : Storage) :
    moveChunks sector caps m direction blockCount maxTransferSize (bound + 1) c status s =
      (some .success, s.move direction (bytePosition sector (c.currentLba % 2 ^ 32))
        c.currentBuffer c.bytesRemaining) := by
  have hsize : c.size maxTransferSize = c.bytesRemaining :=
    Cursor.size_eq_min.trans (min_eq_left hle)
  rw [moveChunks_step hblock hne, moveChunks_done (by simp [Cursor.advance, hsize]), hsize]

end Loop

/-! ## A byte that is missed -/

/-- The store with a one at `q`. -/
def mark (q : ℕ) : ByteStore := fun x => if x = q then 1 else 0

/-- Before a transfer that should carry the byte at position `q` of the card and at address `b` of
the memory across: it is marked on the side it comes from. -/
def markedStorage (direction : SdTransferDirection) (q b : ℕ) : Storage :=
  if direction = .read then ⟨mark q, fun _ => 0⟩ else ⟨fun _ => 0, mark b⟩

/-- The mark has not arrived. -/
def Storage.Missing (s : Storage) (direction : SdTransferDirection) (q b : ℕ) : Prop :=
  if direction = .read then s.card = mark q ∧ s.memory b = 0 else s.memory = mark b ∧ s.card q = 0

section Missing

variable {s : Storage} {direction : SdTransferDirection} {q b position address n : ℕ}

lemma missing_markedStorage : (markedStorage direction q b).Missing direction q b := by
  unfold markedStorage Storage.Missing
  by_cases h : direction = .read
  · simp [h]
  · simp [h]

/-- A move that does not take `q` to `b` does not carry the mark. -/
lemma Storage.Missing.move (hs : s.Missing direction q b)
    (h : ¬ (address ≤ b ∧ b < address + n ∧ position + (b - address) = q)) :
    (s.move direction position address n).Missing direction q b := by
  unfold Storage.Missing at hs ⊢
  unfold Storage.move
  by_cases hread : direction = .read
  · rw [if_pos hread] at hs
    rw [if_pos hread, if_pos hread]
    refine ⟨hs.1, ?_⟩
    simp only [ByteStore.blit, hs.1, mark]
    split_ifs with hon heq
    · exact absurd ⟨hon.1, hon.2, heq⟩ h
    · rfl
    · exact hs.2
  · rw [if_neg hread] at hs
    rw [if_neg hread, if_neg hread]
    refine ⟨hs.1, ?_⟩
    simp only [ByteStore.blit, hs.1, mark]
    split_ifs with hon heq
    · exact absurd ⟨by omega, by omega, by omega⟩ h
    · rfl
    · exact hs.2

/-- A move of the span with `q` and `b` in one place carries the mark. -/
lemma not_missing_moved {r : IoRequest} {i : ℕ} (hi : i < r.bufferSize) :
    ¬ (r.moved (markedStorage r.transferDirection (sdBlockLengthBytes * r.lba + i)
      (r.buffer + i))).Missing r.transferDirection (sdBlockLengthBytes * r.lba + i)
        (r.buffer + i) := by
  unfold IoRequest.moved Storage.move markedStorage Storage.Missing
  by_cases h : r.transferDirection = .read
  · simp [h, ByteStore.blit_apply_on hi, mark]
  · simp [h, ByteStore.blit_apply_on hi, mark]

variable {sector : Bool} {caps : SdhcCapabilities} {m : MediaRecord}
  {blockCount maxTransferSize : ℕ}

/-- The chunks of a loop touch the memory of its cursor only. -/
lemma Storage.Missing.moveChunks (hblock : m.blockSize = sdBlockLengthBytes) (bound : ℕ) :
    ∀ (c : Cursor) (status : Option EfiStatus) (s : Storage), s.Missing direction q b →
      b < c.currentBuffer ∨ c.currentBuffer + c.bytesRemaining ≤ b →
      (moveChunks sector caps m direction blockCount maxTransferSize bound c status s).2.Missing
        direction q b := by
  induction bound with
  | zero =>
      intro c status s hs _
      unfold SdMmc.moveChunks transferChunks
      split <;> exact hs
  | succ bound ih =>
      intro c status s hs hb
      by_cases hne : c.bytesRemaining = 0
      · rw [moveChunks_done hne]
        exact hs
      have hsize : c.size maxTransferSize ≤ c.bytesRemaining := Cursor.size_le
      rw [moveChunks_step hblock hne]
      refine ih _ _ _ (hs.move (by omega)) ?_
      simp only [Cursor.advance]
      omega

/-- A chunk from the wrong position misses its first byte, and no later chunk makes up for it. -/
lemma Storage.Missing.first_chunk (hblock : m.blockSize = sdBlockLengthBytes) (bound : ℕ)
    {c : Cursor} (hne : c.bytesRemaining ≠ 0) (hmax : maxTransferSize ≠ 0)
    (hs : s.Missing direction q c.currentBuffer)
    (hq : bytePosition sector (c.currentLba % 2 ^ 32) ≠ q) (status : Option EfiStatus) :
    (SdMmc.moveChunks sector caps m direction blockCount maxTransferSize bound c status s).2.Missing
      direction q c.currentBuffer := by
  cases bound with
  | zero =>
      unfold SdMmc.moveChunks transferChunks
      rwa [if_neg hne]
  | succ bound =>
      rw [moveChunks_step hblock hne]
      refine Storage.Missing.moveChunks hblock bound _ _ _
        (hs.move fun h => hq (by simpa using h.2.2)) (.inl ?_)
      simp only [Cursor.advance, Cursor.size]
      split <;> omega

/-- On a card without sector addressing the second chunk from block 0 on misses its first byte. -/
lemma Storage.Missing.second_chunk (hblock : m.blockSize = sdBlockLengthBytes) (bound : ℕ)
    {c : Cursor} (hlba : c.currentLba = 0) (hmax : maxTransferSize ≠ 0)
    (hmore : maxTransferSize < c.bytesRemaining)
    (hs : s.Missing direction maxTransferSize (c.currentBuffer + maxTransferSize))
    (status : Option EfiStatus) :
    (SdMmc.moveChunks false caps m direction blockCount maxTransferSize bound c status s).2.Missing
      direction maxTransferSize (c.currentBuffer + maxTransferSize) := by
  have hne : c.bytesRemaining ≠ 0 := by omega
  cases bound with
  | zero =>
      unfold SdMmc.moveChunks transferChunks
      rwa [if_neg hne]
  | succ bound =>
      have hchunk : c.size maxTransferSize = maxTransferSize := if_neg (by omega)
      have hbuffer : (c.advance maxTransferSize sdBlockLengthBytes).currentBuffer =
          c.currentBuffer + maxTransferSize := by
        simp only [Cursor.advance, hchunk]
      have hleft : (c.advance maxTransferSize sdBlockLengthBytes).bytesRemaining ≠ 0 := by
        simp only [Cursor.advance, hchunk]
        omega
      have hposition : bytePosition false
          ((c.advance maxTransferSize sdBlockLengthBytes).currentLba % 2 ^ 32) ≠
            maxTransferSize := by
        simp only [Cursor.advance, hchunk, hlba, bytePosition, Bool.false_eq_true, if_false,
          Nat.zero_add, Nat.mod_mod]
        have hless : maxTransferSize / sdBlockLengthBytes < maxTransferSize :=
          Nat.div_lt_self (Nat.pos_of_ne_zero hmax) (by decide)
        exact ((Nat.mod_le _ _).trans_lt hless).ne
      rw [moveChunks_step hblock hne, hchunk]
      have hfirst : (s.move direction (bytePosition false (c.currentLba % 2 ^ 32)) c.currentBuffer
          maxTransferSize).Missing direction maxTransferSize (c.currentBuffer + maxTransferSize) :=
        hs.move (by omega)
      rw [← hbuffer] at hfirst ⊢
      exact hfirst.first_chunk hblock bound hleft hmax hposition _

end Missing

/-! ## The span of a request -/

section Span

variable {sector : Bool} {caps : SdhcCapabilities} {m : MediaRecord} {r : IoRequest}
  {cmd : SdCommand}

/-- What the test of an accepted request has established. -/
lemma checkRequest_span (h : checkRequest m r = some (.ok cmd)) :
    r.bufferSize ≠ 0 ∧ m.blockSize ∣ r.bufferSize ∧
      (r.lba + r.bufferSize / m.blockSize % 2 ^ 32 + (2 ^ 64 - 1)) % 2 ^ 64 ≤ m.lastBlock := by
  have hanswer := checkRequest_answer m r
  rw [h] at hanswer
  cases hanswer with
  | accepted _ _ hsize _ hdvd hspan => exact ⟨hsize, hdvd, hspan⟩

/-- `MaxTransferSize` of a host for blocks of 512 bytes. -/
def hostTransferSize (caps : SdhcCapabilities) : ℕ :=
  caps.maximumBlockCount.toNat * sdBlockLengthBytes % 2 ^ 32

lemma ioBlocks_storagePath (hblock : m.blockSize = sdBlockLengthBytes)
    (h : checkRequest m r = some (.ok cmd)) (s : Storage) :
    ioBlocks (storagePath sector caps m) r s =
      moveChunks sector caps m r.transferDirection (r.bufferSize / m.blockSize % 2 ^ 32)
        (hostTransferSize caps) (r.bufferSize % 2 ^ 32)
        ⟨r.bufferSize % 2 ^ 32, r.lba % 2 ^ 32, r.buffer⟩ none s := by
  have hcmd := checkRequest_command h
  have hmedia : (storagePath sector caps m).media s = m := rfl
  unfold ioBlocks
  rw [hmedia, h]
  simp only [hblock, hostTransferSize, moveChunks, hcmd, IoRequest.command]
  rfl

/-- On a card on which every command succeeds, `IoBlocks` succeeds and copies the span of the
request. -/
def MovesSpan (sector : Bool) (caps : SdhcCapabilities) (m : MediaRecord) (r : IoRequest) : Prop :=
  ∀ s, ioBlocks (storagePath sector caps m) r s = (some .success, r.moved s)

/-- The requests for which the 32-bit address and size are those of the request, the host takes a
block at a time at least, and the card either has sector addressing or is read or written from its
first byte on, by one command. -/
def SpanAddressed (sector : Bool) (caps : SdhcCapabilities) (r : IoRequest) : Prop :=
  r.lba < 2 ^ 32 ∧ r.bufferSize < 2 ^ 32 ∧ hostTransferSize caps ≠ 0 ∧
    (sector = true ∨ r.lba = 0 ∧ r.bufferSize ≤ hostTransferSize caps)

lemma hostTransferSize_dvd (caps : SdhcCapabilities) :
    sdBlockLengthBytes ∣ hostTransferSize caps := by
  unfold hostTransferSize
  exact (Nat.dvd_mod_iff (by decide)).mpr (Nat.dvd_mul_left _ _)

lemma SpanAddressed.movesSpan (hs : SpanAddressed sector caps r)
    (hblock : m.blockSize = sdBlockLengthBytes) (hlast : m.lastBlock < 2 ^ 32)
    (h : checkRequest m r = some (.ok cmd)) : MovesSpan sector caps m r := by
  obtain ⟨hlba, hsize, hmax, haddr⟩ := hs
  obtain ⟨hne, hdvd, hspan⟩ := checkRequest_span h
  intro s
  rw [ioBlocks_storagePath hblock h, Nat.mod_eq_of_lt hsize, Nat.mod_eq_of_lt hlba]
  rw [hblock] at hdvd hspan
  rcases haddr with rfl | ⟨hzero, hle⟩
  · refine moveChunks_sector hblock (Nat.pos_of_ne_zero hmax) (hostTransferSize_dvd caps) _ _ _ _
      le_rfl hdvd hne ?_
    simp only [sdBlockLengthBytes] at hspan ⊢
    omega
  · obtain ⟨bound, hbound⟩ := Nat.exists_eq_succ_of_ne_zero hne
    have hrun := @moveChunks_single sector caps m r.transferDirection
      (r.bufferSize / m.blockSize % 2 ^ 32) (hostTransferSize caps) hblock
      ⟨r.bufferSize, r.lba, r.buffer⟩ hne hle bound none s
    rw [hbound] at hrun ⊢
    rw [hrun]
    have hposition : bytePosition sector (r.lba % 2 ^ 32) = sdBlockLengthBytes * r.lba := by
      cases sector <;> simp [bytePosition, hzero]
    simp only [hposition, IoRequest.moved, hbound]

lemma MovesSpan.spanAddressed (hm : MovesSpan sector caps m r)
    (hblock : m.blockSize = sdBlockLengthBytes) (h : checkRequest m r = some (.ok cmd)) :
    SpanAddressed sector caps r := by
  obtain ⟨hne, -, -⟩ := checkRequest_span h
  have hrun (s : Storage) := (ioBlocks_storagePath hblock h s).symm.trans (hm s)
  have hstatus := fun s => congrArg Prod.fst (hrun s)
  have hmark {i : ℕ} (hi : i < r.bufferSize) (hmiss : (moveChunks sector caps m r.transferDirection
      (r.bufferSize / m.blockSize % 2 ^ 32) (hostTransferSize caps) (r.bufferSize % 2 ^ 32)
      ⟨r.bufferSize % 2 ^ 32, r.lba % 2 ^ 32, r.buffer⟩ none
      (markedStorage r.transferDirection (sdBlockLengthBytes * r.lba + i) (r.buffer + i))).2.Missing
        r.transferDirection (sdBlockLengthBytes * r.lba + i) (r.buffer + i)) : False := by
    rw [hrun] at hmiss
    exact not_missing_moved hi hmiss
  have hbytes : r.bufferSize % 2 ^ 32 ≠ 0 := by
    intro hzero
    have := hstatus (markedStorage .read 0 0)
    rw [moveChunks_done hzero] at this
    cases this
  have hmax : hostTransferSize caps ≠ 0 := by
    intro hzero
    have hnone : (moveChunks sector caps m r.transferDirection
        (r.bufferSize / m.blockSize % 2 ^ 32) (hostTransferSize caps) (r.bufferSize % 2 ^ 32)
        ⟨r.bufferSize % 2 ^ 32, r.lba % 2 ^ 32, r.buffer⟩ none (markedStorage .read 0 0)).1 = none := by
      rw [hzero]
      exact transferChunks_zero _ _ _ _ hbytes
    cases hnone.symm.trans (hstatus _)
  have hsize : r.bufferSize < 2 ^ 32 := by
    -- a byte above the truncated size is not moved
    by_contra hlarge
    refine hmark (i := r.bufferSize - 1) (by omega) ?_
    exact Storage.Missing.moveChunks hblock _ _ _ _ missing_markedStorage
      (.inr (by simp only; omega))
  have hfirst : bytePosition sector (r.lba % 2 ^ 32) = sdBlockLengthBytes * r.lba := by
    by_contra hwrong
    refine hmark (i := 0) (Nat.pos_of_ne_zero hne) ?_
    exact Storage.Missing.first_chunk hblock _ hbytes hmax missing_markedStorage
      (by simpa using hwrong) _
  cases hsector : sector with
  | true =>
      rw [hsector] at hfirst
      simp only [bytePosition, if_true, sdBlockLengthBytes] at hfirst
      exact ⟨by omega, hsize, hmax, .inl rfl⟩
  | false =>
      rw [hsector] at hfirst
      simp only [bytePosition, Bool.false_eq_true, if_false, sdBlockLengthBytes] at hfirst
      have hzero : r.lba = 0 := by omega
      refine ⟨by omega, hsize, hmax, .inr ⟨hzero, ?_⟩⟩
      -- a second chunk would start at the byte whose address is the number of its first block
      by_contra hmore
      have hmore' : hostTransferSize caps < r.bufferSize := Nat.lt_of_not_le hmore
      refine hmark hmore' ?_
      have hstart := @missing_markedStorage r.transferDirection (hostTransferSize caps)
        (r.buffer + hostTransferSize caps)
      rw [hsector, hzero, Nat.mul_zero, Nat.zero_add, Nat.zero_mod]
      exact hstart.second_chunk hblock _ (c := ⟨r.bufferSize % 2 ^ 32, 0, r.buffer⟩) rfl hmax
        (by simp only; omega) none

/-- Where every command succeeds, the span of an accepted request is moved exactly if its address
and size fit 32 bits, the host takes a block at a time at least, and the card has sector addressing
or the request is for one command from block 0 on. -/
theorem movesSpan_iff (hblock : m.blockSize = sdBlockLengthBytes) (hlast : m.lastBlock < 2 ^ 32)
    (h : checkRequest m r = some (.ok cmd)) :
    MovesSpan sector caps m r ↔ SpanAddressed sector caps r :=
  ⟨fun hm => hm.spanAddressed hblock h, fun hs => hs.movesSpan hblock hlast h⟩

end Span

end SdMmc
end MuPlatform
