import MuPlatform.SdMmc.Hw
import Mathlib.Data.List.GetD
import Mathlib.Tactic.IntervalCases

/-!
# Block transfers

`IoBlocks` (`BlockIo.c`) validates a request, splits it into chunks the host can take, and
sends each chunk with up to three attempts.

The function is written over a `DataPath`, what it uses of the instance: the published media
record, the host capabilities, and `SdhcSendDataCommand`.  The error recovery behind a failing
command can reset the card, so the media record is read again wherever the source does, and
a `BlockSize` of zero there is a division by zero.  The status of a run is an option: it is
`none` when the source has no defined status to return.

`scriptedPath` is the data path whose commands succeed and fail as a script says; its state
is the list of commands sent.  Over it, `transferChunks_scripted` describes every run of the
chunk loop, and `allOrError_iff` says for exactly which scripts a transfer is all-or-error.
-/

namespace MuPlatform
namespace SdMmc

/-! ## The transfer -/

/-- What `IoBlocks` uses of the instance, over the state `σ` of driver and card. -/
structure DataPath (σ : Type*) where
  media : σ → MediaRecord
  hostCapabilities : SdhcCapabilities
  /-- `SdhcSendDataCommand`: command, argument, byte size and buffer address. -/
  sdhcSendDataCommand : SdCommand → ℕ → ℕ → ℕ → σ → EfiStatus × σ

/-- The arguments of `IoBlocks`; a buffer is its address. -/
structure IoRequest where
  transferDirection : SdTransferDirection
  mediaId : UInt32
  lba : ℕ
  bufferSize : ℕ
  buffer : ℕ
  deriving DecidableEq, Repr

/-- The command `IoBlocks` chooses, once for the whole transfer. -/
def ioBlocksCommand (direction : SdTransferDirection) (blockCount : ℕ) : SdCommand :=
  if direction = .read then
    if blockCount = 1 then cmdReadSingleBlock else cmdReadMultiBlock
  else
    if blockCount = 1 then cmdWriteSingleBlock else cmdWriteMultiBlock

/-- The part of `IoBlocks` before the chunk loop: an early exit with a status, or the
command to send.  `none` is the division by a zero `BlockSize`. -/
def checkRequest (m : MediaRecord) (r : IoRequest) : Option (Except EfiStatus SdCommand) :=
  if m.mediaId ≠ r.mediaId then some (.error .mediaChanged)
  else if r.buffer = 0 then some (.error .invalidParameter)
  else if m.mediaPresent = false then some (.error .noMedia)
  else if r.bufferSize = 0 then some (.error .success)
  else if r.transferDirection = .write ∧ m.readOnly = true then some (.error .writeProtected)
  else if m.blockSize = 0 then none
  else if r.bufferSize % m.blockSize ≠ 0 then some (.error .badBufferSize)
  else
    -- `BlockCount` is a `UINT32`, the span is computed in 64 bits
    let blockCount := r.bufferSize / m.blockSize % 2 ^ 32
    if m.lastBlock < (r.lba + blockCount + (2 ^ 64 - 1)) % 2 ^ 64 then
      some (.error .invalidParameter)
    else if 2 < m.ioAlign ∧ r.buffer &&& (m.ioAlign - 1) ≠ 0 then
      some (.error .invalidParameter)
    else some (.ok (ioBlocksCommand r.transferDirection blockCount))

/-- What the answer of `checkRequest` says about the request. -/
inductive CheckAnswer (m : MediaRecord) (r : IoRequest) :
    Option (Except EfiStatus SdCommand) → Prop
  /-- A check before the division has failed, or one behind it. -/
  | refused {status} (herror : status.isError = true)
      (hcause : m.mediaId ≠ r.mediaId ∨ r.buffer = 0 ∨ m.mediaPresent = false ∨
        (r.transferDirection = .write ∧ m.readOnly = true) ∨ m.blockSize ≠ 0) :
      CheckAnswer m r (some (.error status))
  | empty (hsize : r.bufferSize = 0) : CheckAnswer m r (some (.error .success))
  | divides (hid : m.mediaId = r.mediaId) (hbuffer : r.buffer ≠ 0)
      (hpresent : m.mediaPresent = true) (hsize : r.bufferSize ≠ 0)
      (hwrite : ¬ (r.transferDirection = .write ∧ m.readOnly = true))
      (hblock : m.blockSize = 0) : CheckAnswer m r none
  | accepted (hid : m.mediaId = r.mediaId) (hpresent : m.mediaPresent = true)
      (hsize : r.bufferSize ≠ 0) (hblock : m.blockSize ≠ 0) (hdvd : m.blockSize ∣ r.bufferSize)
      (hspan : (r.lba + r.bufferSize / m.blockSize % 2 ^ 32 + (2 ^ 64 - 1)) % 2 ^ 64 ≤
        m.lastBlock) :
      CheckAnswer m r (some (.ok (ioBlocksCommand r.transferDirection
        (r.bufferSize / m.blockSize % 2 ^ 32))))

lemma checkRequest_answer (m : MediaRecord) (r : IoRequest) :
    CheckAnswer m r (checkRequest m r) := by
  rw [checkRequest]
  by_cases hid : m.mediaId = r.mediaId
  case neg =>
    rw [if_pos hid]
    exact .refused rfl (.inl hid)
  rw [if_neg (not_not.mpr hid)]
  by_cases hbuffer : r.buffer = 0
  case pos =>
    rw [if_pos hbuffer]
    exact .refused rfl (.inr (.inl hbuffer))
  rw [if_neg hbuffer]
  by_cases hpresent : m.mediaPresent = false
  case pos =>
    rw [if_pos hpresent]
    exact .refused rfl (.inr (.inr (.inl hpresent)))
  rw [if_neg hpresent]
  rw [Bool.not_eq_false] at hpresent
  by_cases hsize : r.bufferSize = 0
  case pos =>
    rw [if_pos hsize]
    exact .empty hsize
  rw [if_neg hsize]
  by_cases hwrite : r.transferDirection = .write ∧ m.readOnly = true
  case pos =>
    rw [if_pos hwrite]
    exact .refused rfl (.inr (.inr (.inr (.inl hwrite))))
  rw [if_neg hwrite]
  by_cases hblock : m.blockSize = 0
  case pos =>
    rw [if_pos hblock]
    exact .divides hid hbuffer hpresent hsize hwrite hblock
  rw [if_neg hblock]
  -- behind the division
  have hlate : ∀ {status : EfiStatus}, status.isError = true →
      CheckAnswer m r (some (.error status)) := fun herror =>
    .refused herror (.inr (.inr (.inr (.inr hblock))))
  by_cases hmod : r.bufferSize % m.blockSize = 0
  case neg =>
    rw [if_pos hmod]
    exact hlate rfl
  rw [if_neg (not_not.mpr hmod)]
  dsimp only
  by_cases hlast : m.lastBlock <
      (r.lba + r.bufferSize / m.blockSize % 2 ^ 32 + (2 ^ 64 - 1)) % 2 ^ 64
  case pos =>
    rw [if_pos hlast]
    exact hlate rfl
  rw [if_neg hlast]
  by_cases halign : 2 < m.ioAlign ∧ r.buffer &&& (m.ioAlign - 1) ≠ 0
  case pos =>
    rw [if_pos halign]
    exact hlate rfl
  rw [if_neg halign]
  exact .accepted hid hpresent hsize hblock (Nat.dvd_of_mod_eq_zero hmod) (Nat.le_of_not_lt hlast)

/-- `DataCommandRetryCount`. -/
def dataCommandRetryCount : ℕ := 3

/-- The cursors of the chunk loop. -/
structure Cursor where
  bytesRemaining : ℕ
  currentLba : ℕ
  currentBuffer : ℕ
  deriving DecidableEq, Repr

section Transfer

variable {σ : Type*} (d : DataPath σ)

/-- The retry loop of one chunk. -/
def sendWithRetry (cmd : SdCommand) (arg size buffer : ℕ) :
    ℕ → Option EfiStatus → σ → Option EfiStatus × σ
  | 0, status, s => (status, s)
  | n + 1, _, s =>
      match d.sdhcSendDataCommand cmd arg size buffer s with
      | (status, s) =>
        if status.isError then sendWithRetry cmd arg size buffer n (some status) s
        else (some status, s)

/-- The chunk loop.  The first argument bounds the iterations; a loop that has bytes left
when the bound is spent does not return. -/
def transferChunks (cmd : SdCommand) (maxTransferSize : ℕ) :
    ℕ → Cursor → Option EfiStatus → σ → Option EfiStatus × σ
  | bound, c, status, s =>
    if c.bytesRemaining = 0 then (status, s)
    else match bound with
      | 0 => (none, s)
      | bound + 1 =>
        let size := if c.bytesRemaining < maxTransferSize then c.bytesRemaining
          else maxTransferSize
        match sendWithRetry d cmd c.currentLba size c.currentBuffer dataCommandRetryCount
            status s with
        | (status, s) =>
          if (d.media s).blockSize = 0 then (none, s)
          else transferChunks cmd maxTransferSize bound
            { bytesRemaining := c.bytesRemaining - size
              currentLba := (c.currentLba + size / (d.media s).blockSize) % 2 ^ 32
              currentBuffer := c.currentBuffer + size } status s

/-- `IoBlocks`. -/
def ioBlocks (r : IoRequest) (s : σ) : Option EfiStatus × σ :=
  match checkRequest (d.media s) r with
  | none => (none, s)
  | some (.error status) => (some status, s)
  | some (.ok cmd) =>
      let bytesRemaining := r.bufferSize % 2 ^ 32
      transferChunks d cmd
        (d.hostCapabilities.maximumBlockCount.toNat * (d.media s).blockSize % 2 ^ 32)
        bytesRemaining ⟨bytesRemaining, r.lba % 2 ^ 32, r.buffer⟩ none s

/-- With a transfer size of zero the loop does not come to its end. -/
lemma transferChunks_zero {d : DataPath σ} {cmd : SdCommand} (bound : ℕ) :
    ∀ (c : Cursor) (status : Option EfiStatus) (s : σ), c.bytesRemaining ≠ 0 →
      (transferChunks d cmd 0 bound c status s).1 = none := by
  induction bound with
  | zero =>
      intro c status s hne
      rw [transferChunks, if_neg hne]
  | succ bound ih =>
      intro c status s hne
      rw [transferChunks, if_neg hne]
      simp only [Nat.not_lt_zero, if_false]
      split
      · rfl
      · exact ih _ _ _ hne

end Transfer

/-! ## Scripted outcomes -/

/-- The outcomes of the `SdhcSendDataCommand` calls: the status of call `i`, and the media
record before it. -/
structure CommandScript where
  status : ℕ → EfiStatus
  media : ℕ → EfiBlockIoMedia

/-- The arguments of one `SdhcSendDataCommand` call. -/
structure DataRequest where
  cmd : SdCommand
  arg : ℕ
  size : ℕ
  buffer : ℕ
  deriving DecidableEq, Repr

/-- One call with its outcome. -/
structure Attempt where
  request : DataRequest
  status : EfiStatus
  deriving DecidableEq, Repr

/-- The data path that follows a script and records every call. -/
def scriptedPath (caps : SdhcCapabilities) (o : CommandScript) : DataPath (List Attempt) where
  media log := o.media log.length
  hostCapabilities := caps
  sdhcSendDataCommand cmd arg size buffer log :=
    (o.status log.length, log ++ [⟨⟨cmd, arg, size, buffer⟩, o.status log.length⟩])

namespace CommandScript

variable (o : CommandScript)

/-- Calls `i`, `i + 1` and `i + 2` all fail. -/
def Exhausted (i : ℕ) : Prop :=
  ∀ j, j < dataCommandRetryCount → (o.status (i + j)).isError = true

/-- The number of attempts made for a chunk whose first call is `i`. -/
def attempts (i : ℕ) : ℕ :=
  if (o.status i).isError then if (o.status (i + 1)).isError then 3 else 2 else 1

/-- The number of the first call for chunk `k`. -/
def chunkStart : ℕ → ℕ
  | 0 => 0
  | k + 1 => chunkStart k + o.attempts (chunkStart k)

/-- The media record keeps a block size while chunks `0 … k - 1` are sent. -/
def Reaches (k : ℕ) : Prop :=
  ∀ j, j < k → (o.media (o.chunkStart (j + 1))).blockSize ≠ 0

variable {o} {i k n : ℕ}

lemma attempts_le : o.attempts i ≤ 3 := by
  unfold attempts
  split
  · split <;> omega
  · omega

lemma attempts_of_exhausted (h : o.Exhausted i) : o.attempts i = 3 := by
  have h₀ : (o.status i).isError = true := h 0 (by decide)
  have h₁ : (o.status (i + 1)).isError = true := h 1 (by decide)
  simp [attempts, h₀, h₁]

/-- The last call for a chunk fails exactly when the chunk is exhausted. -/
lemma last_attempt_isError_iff :
    (o.status (i + o.attempts i - 1)).isError = true ↔ o.Exhausted i := by
  constructor
  · intro hlast j hj
    unfold attempts at hlast
    split at hlast
    case isTrue h₀ =>
      split at hlast
      case isTrue h₁ =>
        have hj' : j = 0 ∨ j = 1 ∨ j = 2 := by unfold dataCommandRetryCount at hj; omega
        rcases hj' with rfl | rfl | rfl
        · exact h₀
        · exact h₁
        · exact hlast
      case isFalse h₁ => exact absurd hlast h₁
    case isFalse h₀ => exact absurd hlast h₀
  · intro h
    rw [attempts_of_exhausted h]
    exact h 2 (by decide)

/-- The last call before chunk `k` fails exactly when chunk `k - 1` is exhausted. -/
lemma status_before_isError_iff (hk : 0 < k) :
    (o.status (o.chunkStart k - 1)).isError = true ↔ o.Exhausted (o.chunkStart (k - 1)) := by
  obtain ⟨j, rfl⟩ := Nat.exists_eq_add_of_lt hk
  rw [Nat.zero_add, Nat.add_sub_cancel]
  exact last_attempt_isError_iff

/-- If no chunk is exhausted, no three calls in a row fail: every chunk ends with a call that
succeeds and makes at most two that do not. -/
lemma not_exhausted_of_chunks (h : ∀ j, j < k → ¬ o.Exhausted (o.chunkStart j))
    (hi : i + 2 < o.chunkStart k) : ¬ o.Exhausted i := by
  have hends : ∀ j, j < k → (o.status (o.chunkStart (j + 1) - 1)).isError = false := by
    intro j hj
    have := (last_attempt_isError_iff (o := o) (i := o.chunkStart j)).not.mpr (h j hj)
    simpa [chunkStart] using this
  induction k with
  | zero => simp [chunkStart] at hi
  | succ k ih =>
      by_cases hk : i + 2 < o.chunkStart k
      · exact ih (fun j hj => h j (by omega)) hk fun j hj => hends j (by omega)
      -- the three calls end inside chunk `k`: one of them ends chunk `k` or chunk `k - 1`
      intro hex
      have hle := o.attempts_le (i := o.chunkStart k)
      have hstep : o.chunkStart (k + 1) = o.chunkStart k + o.attempts (o.chunkStart k) := rfl
      obtain ⟨e, hie, he, hok⟩ :
          ∃ e, i ≤ e ∧ e < i + 3 ∧ (o.status e).isError = false := by
        by_cases hlast : i + 3 = o.chunkStart (k + 1)
        · exact ⟨o.chunkStart (k + 1) - 1, by omega, by omega, hends k (by omega)⟩
        · cases k with
          | zero =>
              have hzero : o.chunkStart 0 = 0 := rfl
              omega
          | succ k => exact ⟨o.chunkStart (k + 1) - 1, by omega, by omega, hends k (by omega)⟩
      have hbad := hex (e - i) (by unfold dataCommandRetryCount; omega)
      rw [Nat.add_sub_cancel' hie, hok] at hbad
      cases hbad

end CommandScript

/-! ## The chunks of a transfer -/

/-- A transfer of `blocks` blocks from `lba` in chunks of at most `maxBlocks` blocks. -/
structure ChunkPlan where
  cmd : SdCommand
  lba : ℕ
  blocks : ℕ
  buffer : ℕ
  maxBlocks : ℕ
  maxBlocks_pos : 0 < maxBlocks

namespace ChunkPlan

variable (p : ChunkPlan)

/-- The number of blocks before chunk `k`. -/
def offset (k : ℕ) : ℕ := min p.blocks (k * p.maxBlocks)

/-- The number of chunks. -/
def count : ℕ := (p.blocks + p.maxBlocks - 1) / p.maxBlocks

/-- The arguments of the calls for chunk `k`. -/
def request (k : ℕ) : DataRequest where
  cmd := p.cmd
  arg := p.lba + p.offset k
  size := sdBlockLengthBytes * (p.offset (k + 1) - p.offset k)
  buffer := p.buffer + sdBlockLengthBytes * p.offset k

/-- The cursors before chunk `k`. -/
def cursor (k : ℕ) : Cursor where
  bytesRemaining := sdBlockLengthBytes * (p.blocks - p.offset k)
  currentLba := (p.lba + p.offset k) % 2 ^ 32
  currentBuffer := p.buffer + sdBlockLengthBytes * p.offset k

/-- The calls made for chunk `k`. -/
def chunkLog (o : CommandScript) (k : ℕ) : List Attempt :=
  (List.range (o.attempts (o.chunkStart k))).map fun j =>
    ⟨p.request k, o.status (o.chunkStart k + j)⟩

/-- The calls made for the chunks before `k`. -/
def logUpTo (o : CommandScript) : ℕ → List Attempt
  | 0 => []
  | k + 1 => logUpTo o k ++ p.chunkLog o k

variable {p} {o : CommandScript} {k i : ℕ}

lemma offset_lt_blocks_iff : p.offset k < p.blocks ↔ k < p.count := by
  have hpos := p.maxBlocks_pos
  rw [count, Nat.lt_div_iff_mul_lt hpos, offset, Nat.mul_comm k]
  omega

lemma offset_step : p.offset (k + 1) = p.offset k + min (p.blocks - p.offset k) p.maxBlocks := by
  unfold offset
  rw [Nat.succ_mul]
  omega

@[simp] lemma length_chunkLog : (p.chunkLog o k).length = o.attempts (o.chunkStart k) := by
  simp [chunkLog]

@[simp] lemma length_logUpTo : (p.logUpTo o k).length = o.chunkStart k := by
  induction k with
  | zero => rfl
  | succ k ih => simp [logUpTo, ih, CommandScript.chunkStart]

/-- The record of call `i` carries the outcome of call `i`. -/
lemma logUpTo_status {t : Attempt} (ht : (p.logUpTo o k)[i]? = some t) :
    t.status = o.status i := by
  induction k with
  | zero => simp [logUpTo] at ht
  | succ k ih =>
      rcases Nat.lt_or_ge i (o.chunkStart k) with hi | hi
      · rw [logUpTo, List.getElem?_append_left (by simpa using hi)] at ht
        exact ih ht
      · rw [logUpTo, List.getElem?_append_right (by simpa using hi), length_logUpTo] at ht
        obtain ⟨j, hj, rfl⟩ : ∃ j, j = i - o.chunkStart k ∧
            (⟨p.request k, o.status (o.chunkStart k + j)⟩ : Attempt) = t := by
          simp only [chunkLog, List.getElem?_map, Option.map_eq_some_iff] at ht
          obtain ⟨j, hj, rfl⟩ := ht
          exact ⟨j, (List.getElem?_eq_some_iff.mp hj).2.symm.trans (by simp), rfl⟩
        simp [hj, Nat.add_sub_cancel' hi]

/-- The calls of an exhausted chunk stand in the record. -/
lemma logUpTo_of_chunk {m j : ℕ} (hk : k < m) (hj : j < o.attempts (o.chunkStart k)) :
    (p.logUpTo o m)[o.chunkStart k + j]? =
      some ⟨p.request k, o.status (o.chunkStart k + j)⟩ := by
  induction m with
  | zero => omega
  | succ m ih =>
      rcases Nat.lt_or_ge k m with hkm | hkm
      · have hlen : o.chunkStart k + j < (p.logUpTo o m).length := by
          by_contra hge
          have := ih hkm
          rw [List.getElem?_eq_none (by omega)] at this
          cases this
        rw [logUpTo, List.getElem?_append_left hlen, ih hkm]
      · obtain rfl : k = m := by omega
        rw [logUpTo, List.getElem?_append_right (by simp), length_logUpTo,
          Nat.add_sub_cancel_left, chunkLog]
        simp [hj]

end ChunkPlan

/-- The retry loop over a script sends the calls of one chunk and ends with the status of
the last. -/
lemma sendWithRetry_scripted (caps : SdhcCapabilities) (o : CommandScript) (p : ChunkPlan)
    (k : ℕ) (status : Option EfiStatus) :
    sendWithRetry (scriptedPath caps o) p.cmd (p.request k).arg (p.request k).size
        (p.request k).buffer dataCommandRetryCount status (p.logUpTo o k) =
      (some (o.status (o.chunkStart (k + 1) - 1)), p.logUpTo o (k + 1)) := by
  have hstart : o.chunkStart (k + 1) = o.chunkStart k + o.attempts (o.chunkStart k) := rfl
  have hlog : p.logUpTo o (k + 1) = p.logUpTo o k ++ p.chunkLog o k := rfl
  rw [hstart, hlog, ChunkPlan.chunkLog]
  have hreq : (⟨p.cmd, (p.request k).arg, (p.request k).size, (p.request k).buffer⟩ :
      DataRequest) = p.request k := rfl
  unfold CommandScript.attempts
  by_cases h₀ : (o.status (o.chunkStart k)).isError = true
  · by_cases h₁ : (o.status (o.chunkStart k + 1)).isError = true
    · simp [sendWithRetry, scriptedPath, dataCommandRetryCount, hreq, h₀, h₁, List.range_succ]
    · simp [sendWithRetry, scriptedPath, dataCommandRetryCount, hreq, h₀, h₁, List.range_succ]
  · simp [sendWithRetry, scriptedPath, dataCommandRetryCount, hreq, h₀, List.range_succ]

namespace ChunkPlan

variable {p : ChunkPlan} {o : CommandScript} {k : ℕ}

lemma cursor_bytesRemaining_eq_zero_iff : (p.cursor k).bytesRemaining = 0 ↔ p.count ≤ k := by
  rw [← Nat.not_lt, ← offset_lt_blocks_iff]
  simp only [cursor, sdBlockLengthBytes]
  omega

/-- The size `IoBlocks` computes for chunk `k`. -/
lemma chunk_size_eq : (if (p.cursor k).bytesRemaining < p.maxBlocks * sdBlockLengthBytes
    then (p.cursor k).bytesRemaining else p.maxBlocks * sdBlockLengthBytes) =
      (p.request k).size := by
  have hstep := offset_step (p := p) (k := k)
  have hcursor : (p.cursor k).bytesRemaining = 512 * (p.blocks - p.offset k) := rfl
  have hrequest : (p.request k).size = 512 * (p.offset (k + 1) - p.offset k) := rfl
  rw [sdBlockLengthBytes]
  by_cases h : (p.cursor k).bytesRemaining < p.maxBlocks * 512
  · rw [if_pos h]
    omega
  · rw [if_neg h]
    omega

/-- The cursors `IoBlocks` computes after chunk `k`. -/
lemma cursor_succ :
    (⟨(p.cursor k).bytesRemaining - (p.request k).size,
      ((p.cursor k).currentLba + (p.request k).size / sdBlockLengthBytes) % 2 ^ 32,
      (p.cursor k).currentBuffer + (p.request k).size⟩ : Cursor) = p.cursor (k + 1) := by
  have hstep := offset_step (p := p) (k := k)
  simp only [cursor, request, sdBlockLengthBytes, Cursor.mk.injEq]
  refine ⟨?_, ?_, ?_⟩ <;> omega

lemma request_size_pos (hk : k < p.count) : 0 < (p.request k).size := by
  have hoff := offset_lt_blocks_iff.mpr hk
  have hstep := offset_step (p := p) (k := k)
  have hpos := p.maxBlocks_pos
  simp only [request, sdBlockLengthBytes]
  omega

/-- A run of the chunk loop from chunk `k` with `status` that ended before chunk `K`: all
chunks are sent and the status is that of the last call, or the media record has no block
size left. -/
def StopsAt (p : ChunkPlan) (o : CommandScript) (k K : ℕ) (status : Option EfiStatus)
    (run : Option EfiStatus × List Attempt) : Prop :=
  run.2 = p.logUpTo o K ∧
  (∀ j, k < j → j < K → (o.media (o.chunkStart j)).blockSize ≠ 0) ∧
  ((K = p.count ∧ (k < K → (o.media (o.chunkStart K)).blockSize ≠ 0) ∧
      run.1 = if k = K then status else some (o.status (o.chunkStart K - 1))) ∨
    (k < K ∧ (o.media (o.chunkStart K)).blockSize = 0 ∧ run.1 = none))

/-- What stops at `K` after chunk `k` was sent stops at `K` from chunk `k` as well. -/
lemma StopsAt.of_succ {K : ℕ} {status : Option EfiStatus} {run : Option EfiStatus × List Attempt}
    (hblock : (o.media (o.chunkStart (k + 1))).blockSize ≠ 0) (hK : k + 1 ≤ K)
    (h : p.StopsAt o (k + 1) K (some (o.status (o.chunkStart (k + 1) - 1))) run) :
    p.StopsAt o k K status run := by
  obtain ⟨hlog, hmid, hend⟩ := h
  refine ⟨hlog, ?_, ?_⟩
  · intro j hj hjK
    rcases Nat.eq_or_lt_of_le (Nat.succ_le_of_lt hj) with rfl | hj'
    · exact hblock
    · exact hmid j hj' hjK
  · rcases hend with ⟨hKc, hlast, hst⟩ | ⟨hlt', hzero', hst⟩
    · refine .inl ⟨hKc, fun _ => ?_, ?_⟩
      · rcases Nat.eq_or_lt_of_le hK with rfl | h
        · exact hblock
        · exact hlast h
      · rw [if_neg (by omega : ¬ k = K), hst]
        by_cases h : k + 1 = K
        · rw [if_pos h, h]
        · rw [if_neg h]
    · exact .inr ⟨by omega, hzero', hst⟩

end ChunkPlan

section Run

variable (caps : SdhcCapabilities) (o : CommandScript) (p : ChunkPlan)

/-- The chunk loop of `p` over a script, from chunk `k`. -/
def runChunks (bound k : ℕ) (status : Option EfiStatus) : Option EfiStatus × List Attempt :=
  transferChunks (scriptedPath caps o) p.cmd (p.maxBlocks * sdBlockLengthBytes) bound
    (p.cursor k) status (p.logUpTo o k)

variable {caps o p} {k : ℕ} {status : Option EfiStatus}

lemma runChunks_of_count_le (hk : p.count ≤ k) (bound : ℕ) :
    runChunks caps o p bound k status = (status, p.logUpTo o k) := by
  have hzero := ChunkPlan.cursor_bytesRemaining_eq_zero_iff.mpr hk
  unfold runChunks
  cases bound <;> simp [transferChunks, hzero]

/-- One iteration: the calls of chunk `k` are made and the cursors move on, unless the media
record has lost its block size. -/
lemma runChunks_step (hspan : p.lba + p.blocks ≤ 2 ^ 32) (hk : k < p.count) (bound : ℕ) :
    runChunks caps o p (bound + 1) k status =
      if (o.media (o.chunkStart (k + 1))).blockSize = 0 then (none, p.logUpTo o (k + 1))
      else runChunks caps o p bound (k + 1) (some (o.status (o.chunkStart (k + 1) - 1))) := by
  have hzero : (p.cursor k).bytesRemaining ≠ 0 := by
    intro h
    have := ChunkPlan.cursor_bytesRemaining_eq_zero_iff.mp h
    omega
  have hoff := ChunkPlan.offset_lt_blocks_iff.mpr hk
  have hlba : (p.cursor k).currentLba = (p.request k).arg :=
    Nat.mod_eq_of_lt (by omega)
  have hbuffer : (p.cursor k).currentBuffer = (p.request k).buffer := rfl
  have hmedia : (scriptedPath caps o).media (p.logUpTo o (k + 1)) =
      o.media (o.chunkStart (k + 1)) := by
    simp [scriptedPath]
  unfold runChunks
  rw [transferChunks, if_neg hzero]
  simp only [ChunkPlan.chunk_size_eq]
  rw [hlba, hbuffer, sendWithRetry_scripted caps o p k status]
  simp only [hmedia]
  by_cases hblock : (o.media (o.chunkStart (k + 1))).blockSize = 0
  · rw [if_pos hblock, if_pos hblock]
  · have h512 : (o.media (o.chunkStart (k + 1))).blockSize = sdBlockLengthBytes :=
      (o.media (o.chunkStart (k + 1))).blockSize_eq.resolve_left hblock
    have hnext := ChunkPlan.cursor_succ (p := p) (k := k)
    rw [hlba, hbuffer] at hnext
    rw [if_neg hblock, if_neg hblock, h512, hnext]

/-- Every run of the chunk loop stops before some chunk `K`. -/
lemma runChunks_stopsAt (hspan : p.lba + p.blocks ≤ 2 ^ 32) (bound : ℕ) :
    ∀ (k : ℕ) (status : Option EfiStatus), k ≤ p.count → (p.cursor k).bytesRemaining ≤ bound →
      ∃ K, k ≤ K ∧ K ≤ p.count ∧
        p.StopsAt o k K status (runChunks caps o p bound k status) := by
  induction bound with
  | zero =>
      intro k status hk hbytes
      have hcount := ChunkPlan.cursor_bytesRemaining_eq_zero_iff.mp (Nat.le_zero.mp hbytes)
      rw [runChunks_of_count_le hcount]
      exact ⟨k, le_rfl, hk, rfl, by omega, .inl ⟨by omega, by omega, by simp⟩⟩
  | succ bound ih =>
      intro k status hk hbytes
      rcases Nat.eq_or_lt_of_le hk with hcount | hlt
      · rw [runChunks_of_count_le hcount.ge]
        exact ⟨k, le_rfl, hk, rfl, by omega, .inl ⟨hcount, by omega, by simp⟩⟩
      rw [runChunks_step hspan hlt]
      by_cases hblock : (o.media (o.chunkStart (k + 1))).blockSize = 0
      · rw [if_pos hblock]
        exact ⟨k + 1, by omega, hlt, rfl, by omega, .inr ⟨by omega, hblock, rfl⟩⟩
      rw [if_neg hblock]
      have hless : (p.cursor (k + 1)).bytesRemaining ≤ bound := by
        have hpos := ChunkPlan.request_size_pos hlt
        have : (p.cursor (k + 1)).bytesRemaining =
            (p.cursor k).bytesRemaining - (p.request k).size := by rw [← ChunkPlan.cursor_succ]
        omega
      obtain ⟨K, hkK, hK, hstop⟩ :=
        ih (k + 1) (some (o.status (o.chunkStart (k + 1) - 1))) hlt hless
      exact ⟨K, by omega, hK, hstop.of_succ hblock hkK⟩

end Run

/-! ## All-or-error -/

/-- The calls `ts` transfer `[lba, lba + blocks)` from `buffer` upwards, in order and without
gap or overlap, by chunks of at most `maxBlocks` blocks. -/
def Tiles (maxBlocks : ℕ) : ℕ → ℕ → ℕ → List Attempt → Prop
  | _, blocks, _, [] => blocks = 0
  | lba, blocks, buffer, t :: ts =>
      ∃ c, 1 ≤ c ∧ c ≤ maxBlocks ∧ c ≤ blocks ∧ t.request.arg = lba ∧
        t.request.size = sdBlockLengthBytes * c ∧ t.request.buffer = buffer ∧
        Tiles maxBlocks (lba + c) (blocks - c) (buffer + sdBlockLengthBytes * c) ts

/-- Some chunk was sent three times in a row and failed each time. -/
def HasExhaustedChunk (log : List Attempt) : Prop :=
  ∃ i request, ∀ j, j < dataCommandRetryCount →
    ∃ status, log[i + j]? = some ⟨request, status⟩ ∧ status.isError = true

/-- A run that should transfer `[lba, lba + blocks)` is all-or-error: `EFI_SUCCESS` is
returned only if the successful calls cover the range, and an exhausted chunk makes the call
return an error. -/
def RunAllOrError (maxBlocks lba blocks buffer : ℕ) (run : Option EfiStatus × List Attempt) :
    Prop :=
  (run.1 = some .success →
    Tiles maxBlocks lba blocks buffer (run.2.filter fun t => !t.status.isError)) ∧
  (HasExhaustedChunk run.2 → ∃ status, run.1 = some status ∧ status.isError = true)

/-- `IoBlocks` is all-or-error on a request, when its commands follow the script. -/
def AllOrError (caps : SdhcCapabilities) (o : CommandScript) (r : IoRequest) : Prop :=
  RunAllOrError caps.maximumBlockCount.toNat r.lba (r.bufferSize / sdBlockLengthBytes) r.buffer
    (ioBlocks (scriptedPath caps o) r [])

/-- The request is turned down before any command is sent. -/
def Rejected (m : EfiBlockIoMedia) (r : IoRequest) : Prop :=
  ∃ status, status.isError = true ∧ checkRequest m r = some (.error status)

lemma Tiles.append {maxBlocks c : ℕ} {ts : List Attempt} {t : Attempt} (hc : 1 ≤ c)
    (hmax : c ≤ maxBlocks) (hsize : t.request.size = sdBlockLengthBytes * c) :
    ∀ {lba blocks buffer : ℕ}, Tiles maxBlocks lba blocks buffer ts →
      t.request.arg = lba + blocks → t.request.buffer = buffer + sdBlockLengthBytes * blocks →
      Tiles maxBlocks lba (blocks + c) buffer (ts ++ [t]) := by
  induction ts with
  | nil =>
      intro lba blocks buffer hts harg hbuffer
      obtain rfl : blocks = 0 := hts
      exact ⟨c, hc, hmax, by omega, by simpa using harg, hsize, by simpa using hbuffer,
        by simp [Tiles]⟩
  | cons u us ih =>
      rintro lba blocks buffer ⟨d, hd, hdmax, hdle, hlba, hsz, hbuf, hus⟩ harg hbuffer
      refine ⟨d, hd, hdmax, by omega, hlba, hsz, hbuf, ?_⟩
      have hnext := ih hus (by omega) (by rw [hbuffer]; simp only [sdBlockLengthBytes]; omega)
      rwa [Nat.sub_add_comm hdle]

namespace ChunkPlan

variable {p : ChunkPlan} {o : CommandScript} {k : ℕ}

/-- Of the calls for a chunk that is not exhausted, the last and only the last succeeds. -/
lemma filter_chunkLog (h : ¬ o.Exhausted (o.chunkStart k)) :
    (p.chunkLog o k).filter (fun t => !t.status.isError) =
      [⟨p.request k, o.status (o.chunkStart (k + 1) - 1)⟩] := by
  have hstart : o.chunkStart (k + 1) = o.chunkStart k + o.attempts (o.chunkStart k) := rfl
  have hlast := CommandScript.last_attempt_isError_iff.not.mpr h
  rw [hstart, chunkLog]
  unfold CommandScript.attempts at hlast ⊢
  by_cases h₀ : (o.status (o.chunkStart k)).isError = true
  · by_cases h₁ : (o.status (o.chunkStart k + 1)).isError = true
    · simp only [h₀, h₁, if_true] at hlast
      simp [h₀, h₁, List.range_succ] at hlast ⊢
      simp [hlast]
    · simp [h₀, h₁, List.range_succ]
  · simp [h₀, List.range_succ]

/-- If no chunk before `k` is exhausted, the successful calls tile the blocks before it. -/
lemma tiles_logUpTo (hk : k ≤ p.count) (h : ∀ j, j < k → ¬ o.Exhausted (o.chunkStart j)) :
    Tiles p.maxBlocks p.lba (p.offset k) p.buffer
      ((p.logUpTo o k).filter fun t => !t.status.isError) := by
  induction k with
  | zero => simp [logUpTo, Tiles, offset]
  | succ k ih =>
      have hoff := offset_lt_blocks_iff.mpr (show k < p.count by omega)
      have hpos := p.maxBlocks_pos
      have hprev := ih (by omega) fun j hj => h j (by omega)
      rw [logUpTo, List.filter_append, filter_chunkLog (h k (by omega)), offset_step]
      refine Tiles.append (by omega) (by omega) ?_ hprev rfl rfl
      simp only [request, offset_step]
      congr 1
      omega

lemma offset_count : p.offset p.count = p.blocks := by
  have hle : p.offset p.count ≤ p.blocks := min_le_left _ _
  have := (offset_lt_blocks_iff (p := p) (k := p.count)).not.mpr (by omega)
  omega

/-- An exhausted chunk shows in the record, and only an exhausted chunk does. -/
lemma hasExhaustedChunk_iff :
    HasExhaustedChunk (p.logUpTo o k) ↔ ∃ j, j < k ∧ o.Exhausted (o.chunkStart j) := by
  constructor
  · rintro ⟨i, request, hi⟩
    by_contra hnone
    have hnone' : ∀ j, j < k → ¬ o.Exhausted (o.chunkStart j) := fun j hj hx =>
      hnone ⟨j, hj, hx⟩
    have hlen : i + 2 < o.chunkStart k := by
      obtain ⟨status, hget, -⟩ := hi 2 (by decide)
      simpa using (List.getElem?_eq_some_iff.mp hget).1
    refine CommandScript.not_exhausted_of_chunks hnone' hlen fun j hj => ?_
    obtain ⟨status, hget, herr⟩ := hi j hj
    rwa [← logUpTo_status hget]
  · rintro ⟨j, hj, hx⟩
    refine ⟨o.chunkStart j, p.request j, fun i hi => ⟨o.status (o.chunkStart j + i), ?_, hx i hi⟩⟩
    exact logUpTo_of_chunk hj (by rw [CommandScript.attempts_of_exhausted hx]; exact hi)

end ChunkPlan

namespace ChunkPlan

variable {p : ChunkPlan} {o : CommandScript} {k K : ℕ} {run : Option EfiStatus × List Attempt}

/-- The chunks a run sends are those it reaches. -/
lemma StopsAt.lt_iff_reaches (hK : K ≤ p.count) (h : p.StopsAt o 0 K none run) :
    k < K ↔ k < p.count ∧ o.Reaches k := by
  obtain ⟨-, hmid, hend⟩ := h
  constructor
  · intro hk
    exact ⟨by omega, fun j hj => hmid (j + 1) (by omega) (by omega)⟩
  · rintro ⟨hk, hreach⟩
    rcases hend with ⟨rfl, -⟩ | ⟨hpos, hzero, -⟩
    · exact hk
    · -- the run stopped early, so the media record lost its block size before chunk `k`
      by_contra hge
      have hbad := hreach (K - 1) (by omega)
      rw [Nat.sub_add_cancel hpos] at hbad
      exact hbad hzero

/-- A run returns a status only after all its chunks, and then that of the last call. -/
lemma StopsAt.status_eq {status : EfiStatus} (hpos : 0 < p.count)
    (h : p.StopsAt o 0 K none run) (hstatus : run.1 = some status) :
    K = p.count ∧ o.Reaches p.count ∧ status = o.status (o.chunkStart p.count - 1) := by
  obtain ⟨-, hmid, hend⟩ := h
  rcases hend with ⟨rfl, hlast, hrun⟩ | ⟨-, -, hnone⟩
  · refine ⟨rfl, fun j hj => ?_, ?_⟩
    · rcases Nat.eq_or_lt_of_le (Nat.succ_le_of_lt hj) with heq | hlt
      · have := hlast hpos
        rwa [← heq] at this
      · exact hmid (j + 1) (by omega) hlt
    · rw [hstatus, if_neg (by omega), Option.some.injEq] at hrun
      exact hrun
  · rw [hnone] at hstatus
    cases hstatus

/-- A run that reaches its end returns the status of the last call. -/
lemma StopsAt.status_of_reaches (hK : K ≤ p.count) (hpos : 0 < p.count)
    (h : p.StopsAt o 0 K none run) (hreach : o.Reaches p.count) :
    run.1 = some (o.status (o.chunkStart p.count - 1)) := by
  obtain ⟨-, -, ⟨rfl, -, hst⟩ | ⟨hposK, hzero, -⟩⟩ := h
  · rw [hst, if_neg (by omega)]
  · have hbad := hreach (K - 1) (by omega)
    rw [Nat.sub_add_cancel hposK] at hbad
    exact absurd hzero hbad

/-- A run of the chunk loop is all-or-error exactly when it reaches no exhausted chunk, or
reaches its end and the last chunk is exhausted. -/
lemma StopsAt.runAllOrError_iff (hK : K ≤ p.count) (hpos : 0 < p.count)
    (h : p.StopsAt o 0 K none run) :
    RunAllOrError p.maxBlocks p.lba p.blocks p.buffer run ↔
      (∀ k, k < p.count → o.Reaches k → ¬ o.Exhausted (o.chunkStart k)) ∨
      (o.Reaches p.count ∧ o.Exhausted (o.chunkStart (p.count - 1))) := by
  have hlog : run.2 = p.logUpTo o K := h.1
  unfold RunAllOrError
  rw [hlog, hasExhaustedChunk_iff]
  constructor
  · rintro ⟨-, herror⟩
    by_cases hx : ∃ k, k < K ∧ o.Exhausted (o.chunkStart k)
    · -- an exhausted chunk was sent, so the status of the last call is an error
      obtain ⟨status, hstatus, herr⟩ := herror hx
      obtain ⟨-, hreach, rfl⟩ := h.status_eq hpos hstatus
      exact .inr ⟨hreach, (CommandScript.status_before_isError_iff hpos).mp herr⟩
    · refine .inl fun k hk hreach hexh => hx ⟨k, ?_, hexh⟩
      exact (h.lt_iff_reaches hK).mpr ⟨hk, hreach⟩
  · rintro (hnone | ⟨hreach, hexh⟩)
    · have hsent : ∀ k, k < K → ¬ o.Exhausted (o.chunkStart k) := fun k hk =>
        have hk' := (h.lt_iff_reaches hK).mp hk
        hnone k hk'.1 hk'.2
      refine ⟨fun hsuccess => ?_, fun ⟨k, hk, hexh⟩ => absurd hexh (hsent k hk)⟩
      obtain ⟨rfl, -, -⟩ := h.status_eq hpos hsuccess
      have htiles := tiles_logUpTo le_rfl hsent
      rwa [offset_count] at htiles
    · -- the last chunk is exhausted and the loop gets past it: its error is the result
      have hstatus := h.status_of_reaches hK hpos hreach
      have herr := (CommandScript.status_before_isError_iff hpos).mpr hexh
      refine ⟨fun hsuccess => ?_, fun _ => ⟨_, hstatus, herr⟩⟩
      rw [hstatus, Option.some.injEq] at hsuccess
      rw [hsuccess] at herr
      cases herr

end ChunkPlan

/-! ## The request -/

/-- The number of chunks of a request. -/
def chunkCount (caps : SdhcCapabilities) (r : IoRequest) : ℕ :=
  (r.bufferSize / sdBlockLengthBytes + caps.maximumBlockCount.toNat - 1) /
    caps.maximumBlockCount.toNat

/-- The chunks of a request. -/
def requestPlan (caps : SdhcCapabilities) (r : IoRequest) (cmd : SdCommand)
    (hpos : 0 < caps.maximumBlockCount.toNat) : ChunkPlan where
  cmd := cmd
  lba := r.lba
  blocks := r.bufferSize / sdBlockLengthBytes
  buffer := r.buffer
  maxBlocks := caps.maximumBlockCount.toNat
  maxBlocks_pos := hpos

section Request

variable {caps : SdhcCapabilities} {o : CommandScript} {r : IoRequest} {cmd : SdCommand}

/-- A request for whole blocks that is not turned down starts the chunk loop of its plan. -/
lemma ioBlocks_eq_runChunks (hpos : 0 < caps.maximumBlockCount.toNat)
    (hblock : (o.media 0).blockSize = sdBlockLengthBytes)
    (hmul : sdBlockLengthBytes ∣ r.bufferSize) (hsize : r.bufferSize < 2 ^ 32)
    (hmax : caps.maximumBlockCount.toNat * sdBlockLengthBytes < 2 ^ 32)
    (hcheck : checkRequest (o.media 0) r = some (.ok cmd)) :
    ioBlocks (scriptedPath caps o) r [] =
      runChunks caps o (requestPlan caps r cmd hpos) r.bufferSize 0 none := by
  have hcursor : (requestPlan caps r cmd hpos).cursor 0 =
      ⟨r.bufferSize, r.lba % 2 ^ 32, r.buffer⟩ := by
    simp [requestPlan, ChunkPlan.cursor, ChunkPlan.offset, Nat.mul_div_cancel' hmul]
  have hmedia : (scriptedPath caps o).media [] = o.media 0 := rfl
  have hcaps : (scriptedPath caps o).hostCapabilities = caps := rfl
  have hlog : (requestPlan caps r cmd hpos).logUpTo o 0 = [] := rfl
  unfold ioBlocks runChunks
  rw [hmedia, hcaps, hcheck, hcursor, hlog]
  simp only [hblock, Nat.mod_eq_of_lt hmax, Nat.mod_eq_of_lt hsize, requestPlan]

/-- A request is turned down with an error or starts a transfer. -/
lemma rejected_or_checkRequest_ok {m : EfiBlockIoMedia}
    (hblock : m.blockSize = sdBlockLengthBytes) (hne : r.bufferSize ≠ 0) :
    Rejected m r ∨ ∃ cmd, checkRequest m r = some (.ok cmd) := by
  have hblock' : m.blockSize ≠ 0 := by rw [hblock]; decide
  have hanswer := checkRequest_answer m.toMediaRecord r
  rw [Rejected]
  generalize checkRequest m.toMediaRecord r = answer at hanswer ⊢
  cases hanswer with
  | refused herror => exact .inl ⟨_, herror, rfl⟩
  | empty hsize => exact absurd hsize hne
  | divides _ _ _ _ _ hzero => exact absurd hzero hblock'
  | accepted => exact .inr ⟨_, rfl⟩

lemma allOrError_of_rejected (h : Rejected (o.media 0) r) : AllOrError caps o r := by
  obtain ⟨status, herr, hstatus⟩ := h
  have hrun : ioBlocks (scriptedPath caps o) r [] = (some status, []) := by
    have hmedia : (scriptedPath caps o).media [] = o.media 0 := rfl
    unfold ioBlocks
    rw [hmedia, hstatus]
  unfold AllOrError RunAllOrError
  rw [hrun]
  refine ⟨fun hsuccess => ?_, fun _ => ⟨status, rfl, herr⟩⟩
  cases hsuccess
  cases herr

/-- The transfer is all-or-error exactly when the request is turned down, no chunk the loop
gets to is exhausted, or the loop gets to its end and the last chunk is exhausted. -/
theorem allOrError_iff (hblock : (o.media 0).blockSize = sdBlockLengthBytes)
    (hne : r.bufferSize ≠ 0) (hmul : sdBlockLengthBytes ∣ r.bufferSize)
    (hsize : r.bufferSize < 2 ^ 32)
    (hspan : r.lba + r.bufferSize / sdBlockLengthBytes ≤ (o.media 0).lastBlock + 1)
    (hpos : 0 < caps.maximumBlockCount.toNat)
    (hmax : caps.maximumBlockCount.toNat * sdBlockLengthBytes < 2 ^ 32) :
    AllOrError caps o r ↔
      Rejected (o.media 0) r ∨
      (∀ k, k < chunkCount caps r → o.Reaches k → ¬ o.Exhausted (o.chunkStart k)) ∨
      (o.Reaches (chunkCount caps r) ∧ o.Exhausted (o.chunkStart (chunkCount caps r - 1))) := by
  rcases rejected_or_checkRequest_ok (r := r) hblock hne with hrej | ⟨cmd, hcheck⟩
  · exact iff_of_true (allOrError_of_rejected hrej) (.inl hrej)
  have hnotrej : ¬ Rejected (o.media 0) r := by
    rintro ⟨status, -, hstatus⟩
    rw [hcheck] at hstatus
    cases hstatus
  let p := requestPlan caps r cmd hpos
  have hblocks : 0 < p.blocks := by
    obtain ⟨n, hn⟩ := hmul
    have hdiv : r.bufferSize / sdBlockLengthBytes = n := by
      rw [hn, Nat.mul_div_cancel_left n (by decide)]
    rw [show p.blocks = n from hdiv]
    exact Nat.pos_of_ne_zero fun h => hne (by rw [hn, h, Nat.mul_zero])
  have hcount : 0 < p.count := by
    rw [← ChunkPlan.offset_lt_blocks_iff]
    simpa [ChunkPlan.offset] using hblocks
  have hend : p.lba + p.blocks ≤ 2 ^ 32 := by
    have hlast := (o.media 0).lastBlock_lt
    change r.lba + r.bufferSize / sdBlockLengthBytes ≤ 2 ^ 32
    omega
  have hbytes : (p.cursor 0).bytesRemaining ≤ r.bufferSize :=
    (Nat.mul_le_mul_left _ (Nat.sub_le _ _)).trans (Nat.mul_div_le _ _)
  obtain ⟨K, -, hK, hstop⟩ : ∃ K, 0 ≤ K ∧ K ≤ p.count ∧
      p.StopsAt o 0 K none (runChunks caps o p r.bufferSize 0 none) :=
    runChunks_stopsAt hend r.bufferSize 0 none (Nat.zero_le _) hbytes
  unfold AllOrError
  rw [ioBlocks_eq_runChunks hpos hblock hmul hsize hmax hcheck, or_iff_right hnotrej]
  exact hstop.runAllOrError_iff hK hcount

end Request

/-! ## A transfer with a hole -/

/-- A present card of eight blocks. -/
def smallMedia : EfiBlockIoMedia :=
  { EfiBlockIoMedia.template with mediaPresent := true, lastBlock := 7, lastBlock_lt := by decide }

/-- Two blocks from block zero, for a host that takes one block at a time. -/
def twoBlockRead : IoRequest where
  transferDirection := .read
  mediaId := 0
  lba := 0
  bufferSize := 1024
  buffer := 4096

def oneBlockHost : SdhcCapabilities := ⟨512, 1⟩

/-- The outcomes `status` on a card that stays as it is. -/
def steadyScript (status : ℕ → EfiStatus) : CommandScript := ⟨status, fun _ => smallMedia⟩

theorem allOrError_iff_steady :
    AllOrError oneBlockHost (steadyScript fun _ => .success) twoBlockRead ↔
      Rejected smallMedia twoBlockRead ∨
      (∀ k, k < 2 → (steadyScript fun _ => .success).Reaches k →
        ¬ (steadyScript fun _ => .success).Exhausted
          ((steadyScript fun _ => .success).chunkStart k)) ∨
      ((steadyScript fun _ => .success).Reaches 2 ∧
        (steadyScript fun _ => .success).Exhausted
          ((steadyScript fun _ => .success).chunkStart 1)) :=
  @allOrError_iff oneBlockHost (steadyScript fun _ => .success) twoBlockRead rfl (by decide)
    ⟨2, rfl⟩ (by decide) (by decide) (by decide) (by decide)

/-- The first three calls fail, the others succeed. -/
def firstChunkFails : CommandScript :=
  steadyScript fun i => if i < 3 then .deviceError else .success

/-- The first block fails three times, the second is read, and the transfer reports success. -/
theorem not_allOrError_firstChunkFails :
    ¬ AllOrError oneBlockHost firstChunkFails twoBlockRead := by
  have hrun : ioBlocks (scriptedPath oneBlockHost firstChunkFails) twoBlockRead [] =
      (some .success,
        [⟨⟨cmdReadMultiBlock, 0, 512, 4096⟩, .deviceError⟩,
         ⟨⟨cmdReadMultiBlock, 0, 512, 4096⟩, .deviceError⟩,
         ⟨⟨cmdReadMultiBlock, 0, 512, 4096⟩, .deviceError⟩,
         ⟨⟨cmdReadMultiBlock, 1, 512, 4608⟩, .success⟩]) := by
    rfl
  unfold AllOrError
  rw [hrun]
  rintro ⟨-, herror⟩
  obtain ⟨status, hstatus, herr⟩ := herror
    ⟨0, ⟨cmdReadMultiBlock, 0, 512, 4096⟩, fun j hj => ⟨.deviceError, by
      unfold dataCommandRetryCount at hj
      interval_cases j <;> rfl, rfl⟩⟩
  cases hstatus
  cases herr

end SdMmc
end MuPlatform
