import MuPlatform.SdMmc.BlockIo
import Mathlib.Algebra.BigOperators.Group.Finset.Basic

/-!
# Span validation

`IoBlocks` is given a 64-bit `Lba` and a `UINTN` byte size, and computes with a 32-bit
`BlockCount`, a 32-bit `BytesRemaining`, a 32-bit `CurrentLba` and a 64-bit sum that can wrap.
`spanValidated_iff` says for which requests this is the arithmetic of the integers: those whose
`Lba` and `BufferSize` fit 32 bits, if the span is on the media, and those the wrapped test turns
down, if it is not.

The runs are those of `steadyPath`: the media record is any record that stays as it is, and every
command has the status a script gives it.
-/

namespace MuPlatform
namespace SdMmc

/-! ## The commands of a steady run -/

/-- The data path that follows a script of statuses over one media record, and records every
call. -/
def steadyPath (caps : SdhcCapabilities) (m : MediaRecord) (status : ℕ → EfiStatus) :
    DataPath (List Attempt) where
  media _ := m
  hostCapabilities := caps
  sdhcSendDataCommand cmd arg size buffer log :=
    (status log.length, log ++ [⟨⟨cmd, arg, size, buffer⟩, status log.length⟩])

/-- The number of bytes the commands of a record ask for; a command that is repeated counts
once. -/
def requestedBytes (log : List Attempt) : ℕ :=
  ∑ q ∈ (log.map Attempt.request).toFinset, q.size

/-- The calls `new` ask for the bytes left at `c`, from its address and buffer upwards. -/
structure AsksFor (c : Cursor) (new : List Attempt) : Prop where
  buffer_le : ∀ t ∈ new, c.currentBuffer ≤ t.request.buffer
  bytes : requestedBytes new = c.bytesRemaining
  address : ∀ t, new.head? = some t → t.request.arg = c.currentLba

section Steady

variable {caps : SdhcCapabilities} {m : MediaRecord} {status : ℕ → EfiStatus} {cmd : SdCommand}

/-- Repeated calls count once, and calls to higher buffers are others. -/
lemma requestedBytes_append {q : DataRequest} {outcomes : List EfiStatus} {rest : List Attempt}
    (hne : outcomes ≠ []) (hrest : ∀ t ∈ rest, q.buffer < t.request.buffer) :
    requestedBytes (outcomes.map (Attempt.mk q) ++ rest) = q.size + requestedBytes rest := by
  have hchunk : ((outcomes.map (Attempt.mk q)).map Attempt.request).toFinset = {q} := by
    rw [List.map_map]
    ext x
    have hsome := List.exists_mem_of_ne_nil outcomes hne
    simp only [List.mem_toFinset, List.mem_map, Function.comp_apply, Finset.mem_singleton]
    exact ⟨fun ⟨_, _, h⟩ => h.symm, fun h => ⟨hsome.choose, hsome.choose_spec, h.symm⟩⟩
  have hdisj : Disjoint ({q} : Finset DataRequest) (rest.map Attempt.request).toFinset := by
    rw [Finset.disjoint_singleton_left, List.mem_toFinset, List.mem_map]
    rintro ⟨t, ht, rfl⟩
    exact absurd (hrest t ht) (lt_irrefl _)
  unfold requestedBytes
  rw [List.map_append, List.toFinset_append, hchunk, Finset.sum_union hdisj,
    Finset.sum_singleton]

/-- The retry loop makes calls with the same arguments and returns a status. -/
lemma sendWithRetry_steady (q : DataRequest) :
    ∀ (n : ℕ) (before : Option EfiStatus) (log : List Attempt), 0 < n →
      ∃ (last : EfiStatus) (outcomes : List EfiStatus), outcomes ≠ [] ∧
        sendWithRetry (steadyPath caps m status) q.cmd q.arg q.size q.buffer n before log =
          (some last, log ++ outcomes.map (Attempt.mk q)) := by
  intro n
  induction n with
  | zero => exact fun _ _ h => absurd h (lt_irrefl _)
  | succ n ih =>
      intro before log _
      by_cases herr : (status log.length).isError = true ∧ 0 < n
      · obtain ⟨last, outcomes, -, hrun⟩ := ih (some (status log.length))
          (log ++ [⟨q, status log.length⟩]) herr.2
        refine ⟨last, status log.length :: outcomes, List.cons_ne_nil _ _, ?_⟩
        rw [sendWithRetry]
        simp only [steadyPath, herr.1, if_true]
        simpa [steadyPath] using hrun
      · -- the call succeeds, or it is the last one
        refine ⟨status log.length, [status log.length], List.cons_ne_nil _ _, ?_⟩
        rw [sendWithRetry]
        rcases not_and_or.mp herr with hok | hlast
        · simp [steadyPath, hok]
        · obtain rfl : n = 0 := by omega
          simp only [steadyPath, sendWithRetry]
          exact ite_self _

/-- A chunk and what is sent after it. -/
lemma AsksFor.chunk {c : Cursor} {size lba : ℕ} {outcomes : List EfiStatus} {rest : List Attempt}
    (hpos : 0 < size) (hle : size ≤ c.bytesRemaining) (hne : outcomes ≠ [])
    (h : AsksFor ⟨c.bytesRemaining - size, lba, c.currentBuffer + size⟩ rest) :
    AsksFor c
      (outcomes.map (Attempt.mk ⟨cmd, c.currentLba, size, c.currentBuffer⟩) ++ rest) where
  buffer_le t ht := by
    rcases List.mem_append.mp ht with ht | ht
    · obtain ⟨_, -, rfl⟩ := List.mem_map.mp ht
      exact le_rfl
    · exact (Nat.le_add_right _ _).trans (h.buffer_le t ht)
  bytes := by
    have habove : ∀ t ∈ rest, c.currentBuffer < t.request.buffer := fun t ht =>
      (Nat.lt_add_of_pos_right hpos).trans_le (h.buffer_le t ht)
    rw [requestedBytes_append hne habove, h.bytes]
    exact Nat.add_sub_cancel' hle
  address t ht := by
    obtain ⟨s, rest', rfl⟩ := List.exists_cons_of_ne_nil hne
    rw [List.map_cons, List.cons_append, List.head?_cons, Option.some.injEq] at ht
    rw [← ht]

/-- The chunk loop asks for the bytes it was started with, and has a status to return if there were
any. -/
lemma transferChunks_steady {maxTransferSize : ℕ} (hmax : 0 < maxTransferSize)
    (hblock : m.blockSize ≠ 0) (bound : ℕ) :
    ∀ (c : Cursor) (before : Option EfiStatus) (log : List Attempt), c.bytesRemaining ≤ bound →
      ∃ (result : Option EfiStatus) (new : List Attempt), AsksFor c new ∧
        (new = [] ↔ c.bytesRemaining = 0) ∧
        (result = none ↔ c.bytesRemaining = 0 ∧ before = none) ∧
        transferChunks (steadyPath caps m status) cmd maxTransferSize bound c before log =
          (result, log ++ new) := by
  have hdone : ∀ (c : Cursor), c.bytesRemaining = 0 → AsksFor c [] := fun c hc =>
    ⟨fun _ ht => absurd ht List.not_mem_nil, hc.symm, fun _ ht => absurd ht (by simp)⟩
  induction bound with
  | zero =>
      intro c before log hbytes
      have hzero : c.bytesRemaining = 0 := Nat.le_zero.mp hbytes
      refine ⟨before, [], hdone c hzero, by simp [hzero], by simp [hzero], ?_⟩
      rw [transferChunks, if_pos hzero, List.append_nil]
  | succ bound ih =>
      intro c before log hbytes
      by_cases hzero : c.bytesRemaining = 0
      · refine ⟨before, [], hdone c hzero, by simp [hzero], by simp [hzero], ?_⟩
        rw [transferChunks, if_pos hzero, List.append_nil]
      rw [transferChunks, if_neg hzero]
      -- one chunk, and the rest by induction
      generalize hsize : (if c.bytesRemaining < maxTransferSize then c.bytesRemaining
        else maxTransferSize) = size
      have hpos : 0 < size := by split at hsize <;> omega
      have hle : size ≤ c.bytesRemaining := by split at hsize <;> omega
      obtain ⟨last, outcomes, hne, hchunk⟩ := @sendWithRetry_steady caps m status
        ⟨cmd, c.currentLba, size, c.currentBuffer⟩ dataCommandRetryCount before log (by decide)
      obtain ⟨result, rest, hasks, -, hresult, hrun⟩ := ih
        ⟨c.bytesRemaining - size, (c.currentLba + size / m.blockSize) % 2 ^ 32,
          c.currentBuffer + size⟩ (some last)
        (log ++ outcomes.map (Attempt.mk ⟨cmd, c.currentLba, size, c.currentBuffer⟩))
        (by simp only; omega)
      refine ⟨result, outcomes.map (Attempt.mk ⟨cmd, c.currentLba, size, c.currentBuffer⟩) ++ rest,
        hasks.chunk hpos hle hne, ?_, ?_, ?_⟩
      · simp [hzero, hne]
      · simpa [hzero] using hresult
      · simp only at hchunk
        simp only [hchunk]
        rw [if_neg (show ((steadyPath caps m status).media _).blockSize ≠ 0 from hblock)]
        rw [← List.append_assoc]
        exact hrun

end Steady

/-! ## Validation over the integers -/

/-- The span of a request lies on the media, over the integers. -/
def OnMedia (m : MediaRecord) (r : IoRequest) : Prop :=
  r.bufferSize ≠ 0 ∧ m.blockSize ∣ r.bufferSize ∧
    r.lba + r.bufferSize / m.blockSize - 1 ≤ m.lastBlock

/-- `IoBlocks` treats a request as the integers say: a transfer is started exactly for a span on the
media, from `Lba` and over `BufferSize` bytes, the returned status is one that was assigned, and
`EFI_SUCCESS` means that all the bytes were asked for. -/
structure SpanValidated (m : MediaRecord) (r : IoRequest)
    (run : Option EfiStatus × List Attempt) : Prop where
  starts_iff : run.2 ≠ [] ↔ OnMedia m r
  address : ∀ t, run.2.head? = some t → t.request.arg = r.lba
  bytes : run.2 ≠ [] → requestedBytes run.2 = r.bufferSize
  assigned : run.1 ≠ none
  success : run.1 = some .success → requestedBytes run.2 = r.bufferSize

/-- What the request must satisfy besides: the media is there and is the caller's, the buffer is
not `NULL` and is aligned, and a medium that is written is not read-only. -/
structure Admissible (m : MediaRecord) (r : IoRequest) : Prop where
  present : m.mediaPresent = true
  mediaId : m.mediaId = r.mediaId
  buffer : r.buffer ≠ 0
  aligned : ¬ (2 < m.ioAlign ∧ r.buffer &&& (m.ioAlign - 1) ≠ 0)
  writable : ¬ (r.transferDirection = .write ∧ m.readOnly = true)

/-- The test of the span as the code computes it: a 32-bit count in a 64-bit sum. -/
def TurnsDown (m : MediaRecord) (r : IoRequest) : Prop :=
  m.lastBlock < (r.lba + r.bufferSize / m.blockSize % 2 ^ 32 + (2 ^ 64 - 1)) % 2 ^ 64

section Validation

variable {caps : SdhcCapabilities} {m : MediaRecord} {status : ℕ → EfiStatus} {r : IoRequest}

lemma checkRequest_admissible (h : Admissible m r) (hne : r.bufferSize ≠ 0)
    (hblock : m.blockSize ≠ 0) :
    checkRequest m r =
      if ¬ m.blockSize ∣ r.bufferSize then some (.error .badBufferSize)
      else if m.lastBlock < (r.lba + r.bufferSize / m.blockSize % 2 ^ 32 + (2 ^ 64 - 1)) % 2 ^ 64
        then some (.error .invalidParameter)
      else some (.ok (ioBlocksCommand r.transferDirection
        (r.bufferSize / m.blockSize % 2 ^ 32))) := by
  unfold checkRequest
  rw [if_neg (not_not.mpr h.mediaId), if_neg h.buffer, if_neg (by simp [h.present]), if_neg hne,
    if_neg h.writable, if_neg hblock]
  simp only [h.aligned, if_false, Nat.dvd_iff_mod_eq_zero]

/-- A span on the media whose byte size fits 32 bits passes the test. -/
lemma OnMedia.not_turnsDown (h : OnMedia m r) (hlast : m.lastBlock < 2 ^ 64)
    (hblock : m.blockSize ≠ 0) (hsize : r.bufferSize < 2 ^ 32) : ¬ TurnsDown m r := by
  obtain ⟨hne, hdvd, hspan⟩ := h
  have hcount : r.bufferSize / m.blockSize < 2 ^ 32 := (Nat.div_le_self _ _).trans_lt hsize
  have hpos : 0 < r.bufferSize / m.blockSize :=
    Nat.div_pos (Nat.le_of_dvd (Nat.pos_of_ne_zero hne) hdvd) (Nat.pos_of_ne_zero hblock)
  unfold TurnsDown
  rw [Nat.mod_eq_of_lt hcount]
  omega

/-- A request with bytes that is turned down. -/
lemma spanValidated_error {e : EfiStatus} (he : e ≠ .success) :
    SpanValidated m r (some e, []) ↔ ¬ OnMedia m r := by
  constructor
  · exact fun h hspan => h.starts_iff.mpr hspan rfl
  · intro hspan
    exact ⟨by simpa using hspan, fun _ ht => absurd ht (by simp), fun h => absurd rfl h, by simp,
      fun h => absurd (Option.some.inj h) he⟩

/-- A request that enters the chunk loop. -/
lemma spanValidated_transfer (cmd : SdCommand) (hne : r.bufferSize ≠ 0) (hblock : m.blockSize ≠ 0)
    (maxTransferSize : ℕ) :
    SpanValidated m r (transferChunks (steadyPath caps m status) cmd maxTransferSize
        (r.bufferSize % 2 ^ 32) ⟨r.bufferSize % 2 ^ 32, r.lba % 2 ^ 32, r.buffer⟩ none []) ↔
      OnMedia m r ∧ r.bufferSize < 2 ^ 32 ∧ r.lba < 2 ^ 32 ∧ maxTransferSize ≠ 0 := by
  by_cases hmax : maxTransferSize = 0
  · -- no byte is ever taken off: the loop does not end, or it was not entered at all
    refine iff_of_false (fun h => h.assigned ?_) fun h => h.2.2.2 hmax
    by_cases hzero : r.bufferSize % 2 ^ 32 = 0
    · rw [hzero, transferChunks, if_pos rfl]
    · rw [hmax]
      exact transferChunks_zero _ _ _ _ hzero
  obtain ⟨result, new, hasks, hnil, hnone, hrun⟩ := @transferChunks_steady caps m status cmd
    maxTransferSize (Nat.pos_of_ne_zero hmax) hblock (r.bufferSize % 2 ^ 32)
    ⟨r.bufferSize % 2 ^ 32, r.lba % 2 ^ 32, r.buffer⟩ none [] le_rfl
  rw [hrun, List.nil_append]
  have hsum : requestedBytes new = r.bufferSize % 2 ^ 32 := hasks.bytes
  constructor
  · intro h
    have hzero : r.bufferSize % 2 ^ 32 ≠ 0 := fun hz => h.assigned (hnone.mpr ⟨hz, rfl⟩)
    have hsent : new ≠ [] := mt hnil.mp hzero
    obtain ⟨t, rest, rfl⟩ := List.exists_cons_of_ne_nil hsent
    have hbytes : r.bufferSize % 2 ^ 32 = r.bufferSize := hsum.symm.trans (h.bytes hsent)
    have hlba : r.lba % 2 ^ 32 = r.lba := (hasks.address t rfl).symm.trans (h.address t rfl)
    exact ⟨h.starts_iff.mp hsent, by omega, by omega, hmax⟩
  · rintro ⟨hspan, hsize, hlba, -⟩
    have hbytes : r.bufferSize % 2 ^ 32 = r.bufferSize := Nat.mod_eq_of_lt hsize
    have hsent : new ≠ [] := fun hn => hne (hbytes ▸ hnil.mp hn)
    refine ⟨iff_of_true hsent hspan, fun t ht => ?_, fun _ => hsum.trans hbytes, fun hn => ?_,
      fun _ => hsum.trans hbytes⟩
    · exact (hasks.address t ht).trans (Nat.mod_eq_of_lt hlba)
    · exact hne (hbytes ▸ (hnone.mp hn).1)

/-- Spans are validated as over the integers exactly for requests without bytes, for sizes that are
no multiple of the block size, for spans on the media whose `Lba` and `BufferSize` fit 32 bits if
the host takes a block at a time at least, and for spans off the media that the wrapped test turns
down. -/
theorem spanValidated_iff (h : Admissible m r) (hlast : m.lastBlock < 2 ^ 64) :
    SpanValidated m r (ioBlocks (steadyPath caps m status) r []) ↔
      r.bufferSize = 0 ∨ m.blockSize ≠ 0 ∧
        (¬ m.blockSize ∣ r.bufferSize ∨
          (OnMedia m r ∧ r.bufferSize < 2 ^ 32 ∧ r.lba < 2 ^ 32 ∧
            caps.maximumBlockCount.toNat * m.blockSize % 2 ^ 32 ≠ 0) ∨
          (¬ OnMedia m r ∧ TurnsDown m r)) := by
  have hmedia : (steadyPath caps m status).media [] = m := rfl
  have hcaps : (steadyPath caps m status).hostCapabilities = caps := rfl
  unfold ioBlocks
  rw [hmedia, hcaps]
  by_cases hne : r.bufferSize = 0
  · -- nothing to transfer
    have hcheck : checkRequest m r = some (.error .success) := by
      unfold checkRequest
      rw [if_neg (not_not.mpr h.mediaId), if_neg h.buffer, if_neg (by simp [h.present]),
        if_pos hne]
    rw [hcheck]
    refine iff_of_true ⟨?_, fun _ ht => absurd ht (by simp), fun hn => absurd rfl hn, by simp, ?_⟩
      (.inl hne)
    · exact iff_of_false (by simp) fun hspan => hspan.1 hne
    · exact fun _ => hne.symm
  rw [or_iff_right hne]
  by_cases hblock : m.blockSize = 0
  · have hcheck : checkRequest m r = none := by
      unfold checkRequest
      rw [if_neg (not_not.mpr h.mediaId), if_neg h.buffer, if_neg (by simp [h.present]),
        if_neg hne, if_neg h.writable, if_pos hblock]
    rw [hcheck]
    exact iff_of_false (fun hv => hv.assigned rfl) fun hc => hc.1 hblock
  rw [and_iff_right hblock, checkRequest_admissible h hne hblock]
  by_cases hdvd : m.blockSize ∣ r.bufferSize
  swap
  · rw [if_pos hdvd]
    simp only
    rw [spanValidated_error (by decide)]
    exact iff_of_true (fun hspan => hdvd hspan.2.1) (.inl hdvd)
  rw [if_neg (not_not.mpr hdvd), or_iff_right (not_not.mpr hdvd)]
  by_cases hdown : TurnsDown m r
  · rw [if_pos (show _ < _ from hdown)]
    simp only
    rw [spanValidated_error (by decide)]
    constructor
    · exact fun hspan => .inr ⟨hspan, hdown⟩
    · rintro (⟨hspan, hsize, -⟩ | ⟨hspan, -⟩)
      · exact absurd hdown (hspan.not_turnsDown hlast hblock hsize)
      · exact hspan
  · rw [if_neg (show ¬ _ < _ from hdown)]
    simp only
    rw [spanValidated_transfer _ hne hblock]
    exact ⟨.inl, fun hc => hc.resolve_right fun hc' => hdown hc'.2⟩

end Validation

/-! ## A span that wraps around -/

/-- Two blocks from the last address on. -/
def wrappingRead : IoRequest := { twoBlockRead with lba := 2 ^ 64 - 1 }

lemma twoBlockRead_admissible : Admissible smallMedia twoBlockRead :=
  ⟨rfl, rfl, by decide, by decide, by decide⟩

theorem spanValidated_iff_twoBlockRead :
    SpanValidated smallMedia twoBlockRead
        (ioBlocks (steadyPath oneBlockHost smallMedia fun _ => .success) twoBlockRead []) ↔
      twoBlockRead.bufferSize = 0 ∨ smallMedia.blockSize ≠ 0 ∧
        (¬ smallMedia.blockSize ∣ twoBlockRead.bufferSize ∨
          (OnMedia smallMedia twoBlockRead ∧ twoBlockRead.bufferSize < 2 ^ 32 ∧
            twoBlockRead.lba < 2 ^ 32 ∧
            oneBlockHost.maximumBlockCount.toNat * smallMedia.blockSize % 2 ^ 32 ≠ 0) ∨
          (¬ OnMedia smallMedia twoBlockRead ∧ TurnsDown smallMedia twoBlockRead)) :=
  spanValidated_iff twoBlockRead_admissible (by decide)

/-- A read from block `2 ^ 64 - 1` of a card of eight blocks is sent to the card, with address
`2 ^ 32 - 1`. -/
theorem not_spanValidated_wrappingRead :
    ¬ SpanValidated smallMedia wrappingRead
      (ioBlocks (steadyPath oneBlockHost smallMedia fun _ => .success) wrappingRead []) := by
  have hrun : ioBlocks (steadyPath oneBlockHost smallMedia fun _ => .success) wrappingRead [] =
      (some .success,
        [⟨⟨cmdReadMultiBlock, 2 ^ 32 - 1, 512, 4096⟩, .success⟩,
         ⟨⟨cmdReadMultiBlock, 0, 512, 4608⟩, .success⟩]) := by
    rfl
  rw [hrun]
  intro h
  have hspan : OnMedia smallMedia wrappingRead := h.starts_iff.mp (List.cons_ne_nil _ _)
  exact absurd hspan.2.2 (by decide)

end SdMmc
end MuPlatform
