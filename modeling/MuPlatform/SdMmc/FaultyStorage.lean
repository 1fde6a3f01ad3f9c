import MuPlatform.Base.ByteFile
import MuPlatform.SdMmc.Storage

/-!
# A block store whose commands fail

A data command that fails may leave anything where it was to put its bytes (`FaultScript`), and
`IoBlocks` sends it again.  `ioBlocks_faulty` says what a request leaves behind whatever its
commands come to, and `StorageView` is what a client knows of card and memory when all it looks at
are the statuses.

`view_sound_of_run`: over every run of requests and of work in memory the client's view is right,
so that what was written last by a request that reported success is what is read, as long as no
request hides a chunk that was given up behind a later one (`Unhidden`).
-/

namespace MuPlatform
namespace SdMmc

/-! ## Data paths that do the same -/

section Related

variable {σ τ : Type*} {d : DataPath σ} {e : DataPath τ} {R : σ → τ → Prop}

/-- The commands of two data paths have the same statuses in related states and lead to related
states. -/
structure DataPath.Simulates (d : DataPath σ) (e : DataPath τ) (R : σ → τ → Prop) : Prop where
  media : ∀ s t, R s t → d.media s = e.media t
  hostCapabilities : d.hostCapabilities = e.hostCapabilities
  send : ∀ cmd arg size buffer s t, R s t →
    (d.sdhcSendDataCommand cmd arg size buffer s).1 =
        (e.sdhcSendDataCommand cmd arg size buffer t).1 ∧
      R (d.sdhcSendDataCommand cmd arg size buffer s).2
        (e.sdhcSendDataCommand cmd arg size buffer t).2

namespace DataPath.Simulates

lemma sendWithRetry (h : d.Simulates e R) (cmd : SdCommand) (arg size buffer n : ℕ) :
    ∀ (status : Option EfiStatus) (s : σ) (t : τ), R s t →
      (SdMmc.sendWithRetry d cmd arg size buffer n status s).1 =
          (SdMmc.sendWithRetry e cmd arg size buffer n status t).1 ∧
        R (SdMmc.sendWithRetry d cmd arg size buffer n status s).2
          (SdMmc.sendWithRetry e cmd arg size buffer n status t).2 := by
  induction n with
  | zero => exact fun _ _ _ hR => ⟨rfl, hR⟩
  | succ n ih =>
      intro status s t hR
      obtain ⟨hstatus, hR'⟩ := h.send cmd arg size buffer s t hR
      unfold SdMmc.sendWithRetry
      dsimp only
      rw [hstatus]
      split
      · exact ih _ _ _ hR'
      · exact ⟨rfl, hR'⟩

lemma transferChunks (h : d.Simulates e R) (cmd : SdCommand) (maxTransferSize bound : ℕ) :
    ∀ (c : Cursor) (status : Option EfiStatus) (s : σ) (t : τ), R s t →
      (SdMmc.transferChunks d cmd maxTransferSize bound c status s).1 =
          (SdMmc.transferChunks e cmd maxTransferSize bound c status t).1 ∧
        R (SdMmc.transferChunks d cmd maxTransferSize bound c status s).2
          (SdMmc.transferChunks e cmd maxTransferSize bound c status t).2 := by
  induction bound with
  | zero =>
      intro c status s t hR
      unfold SdMmc.transferChunks
      split
      · exact ⟨rfl, hR⟩
      · exact ⟨rfl, hR⟩
  | succ bound ih =>
      intro c status s t hR
      unfold SdMmc.transferChunks
      split
      · exact ⟨rfl, hR⟩
      dsimp only
      generalize (if c.bytesRemaining < maxTransferSize then c.bytesRemaining
        else maxTransferSize) = size
      obtain ⟨hstatus, hR'⟩ := h.sendWithRetry cmd c.currentLba size c.currentBuffer
        dataCommandRetryCount status s t hR
      rw [hstatus, h.media _ _ hR']
      split
      · exact ⟨rfl, hR'⟩
      · exact ih _ _ _ _ hR'

/-- `IoBlocks` does the same over both. -/
lemma ioBlocks (h : d.Simulates e R) (r : IoRequest) {s : σ} {t : τ} (hR : R s t) :
    (SdMmc.ioBlocks d r s).1 = (SdMmc.ioBlocks e r t).1 ∧
      R (SdMmc.ioBlocks d r s).2 (SdMmc.ioBlocks e r t).2 := by
  unfold SdMmc.ioBlocks
  rw [h.media s t hR, h.hostCapabilities]
  split
  · exact ⟨rfl, hR⟩
  · exact ⟨rfl, hR⟩
  · exact h.transferChunks _ _ _ _ _ _ _ hR

end DataPath.Simulates

end Related

/-! ## A card whose commands fail -/

/-- What the commands come to, by their numbers: the status, and what one that fails leaves in the
bytes it was to fill. -/
structure FaultScript where
  status : ℕ → EfiStatus
  left : ℕ → ByteStore

/-- Card and memory, and how many commands have been sent. -/
structure FaultyStorage where
  storage : Storage
  sent : ℕ

/-- What a command that fails leaves in place of the bytes that were to be moved. -/
def Storage.spoil (s : Storage) (direction : SdTransferDirection) (position address n : ℕ)
    (left : ByteStore) : Storage :=
  if direction = .read then { s with memory := s.memory.blit address left address n }
  else { s with card := s.card.blit position left position n }

section Path

variable (caps : SdhcCapabilities) (m : EfiBlockIoMedia) (o : FaultScript)

/-- One data command. -/
def FaultScript.perform (q : DataRequest) (s : FaultyStorage) : EfiStatus × FaultyStorage :=
  (o.status s.sent,
    { storage :=
        if (o.status s.sent).isError then
          s.storage.spoil q.cmd.transferDirection (bytePosition true (q.arg % 2 ^ 32)) q.buffer
            q.size (o.left s.sent)
        else
          s.storage.move q.cmd.transferDirection (bytePosition true (q.arg % 2 ^ 32)) q.buffer
            q.size
      sent := s.sent + 1 })

/-- The data path of a card with sector addressing whose commands follow the script. -/
def faultyPath : DataPath FaultyStorage where
  media _ := m.toMediaRecord
  hostCapabilities := caps
  sdhcSendDataCommand cmd arg size buffer s := o.perform ⟨cmd, arg, size, buffer⟩ s

/-- The script of the commands from number `n` on. -/
def FaultScript.scriptFrom (n : ℕ) : CommandScript := ⟨fun i => o.status (n + i), fun _ => m⟩

/-- The storage after the commands of a log. -/
def FaultScript.play (log : List Attempt) (s : FaultyStorage) : FaultyStorage :=
  log.foldl (fun s t => (o.perform t.request s).2) s

variable {caps m o}

lemma FaultScript.play_append (log log' : List Attempt) (s : FaultyStorage) :
    o.play (log ++ log') s = o.play log' (o.play log s) := List.foldl_append

lemma FaultScript.play_sent (log : List Attempt) (s : FaultyStorage) :
    (o.play log s).sent = s.sent + log.length := by
  induction log generalizing s with
  | nil => rfl
  | cons t log ih =>
      refine (ih _).trans ?_
      show s.sent + 1 + log.length = s.sent + (log.length + 1)
      omega

/-- The data path does to the storage what its log says. -/
lemma scriptedPath_simulates (s : FaultyStorage) :
    (scriptedPath caps (o.scriptFrom m s.sent)).Simulates (faultyPath caps m o)
      fun log t => t = o.play log s where
  media _ _ _ := rfl
  hostCapabilities := rfl
  send := by
    rintro cmd arg size buffer log t rfl
    have hstatus : (o.scriptFrom m s.sent).status log.length =
        o.status (o.play log s).sent := by
      rw [FaultScript.play_sent]
      rfl
    refine ⟨hstatus, ?_⟩
    show (o.perform ⟨cmd, arg, size, buffer⟩ (o.play log s)).2 = o.play (log ++ [_]) s
    rw [FaultScript.play_append]
    rfl

end Path

/-! ## What commands leave alone -/

/-- Nothing is changed but the bytes a transfer is to fill. -/
structure Storage.OnlyIn (direction : SdTransferDirection) (position address n : ℕ)
    (s s' : Storage) : Prop where
  memory : ∀ x, ¬ (direction = .read ∧ address ≤ x ∧ x < address + n) → s'.memory x = s.memory x
  card : ∀ x, ¬ (direction ≠ .read ∧ position ≤ x ∧ x < position + n) → s'.card x = s.card x

namespace Storage

variable {direction direction' : SdTransferDirection} {position address n k : ℕ}
  {s s' s'' : Storage}

lemma OnlyIn.refl (s : Storage) : OnlyIn direction position address n s s :=
  ⟨fun _ _ => rfl, fun _ _ => rfl⟩

lemma OnlyIn.trans (h : OnlyIn direction position address n s s')
    (h' : OnlyIn direction position address n s' s'') :
    OnlyIn direction position address n s s'' :=
  ⟨fun x hx => (h'.memory x hx).trans (h.memory x hx),
    fun x hx => (h'.card x hx).trans (h.card x hx)⟩

/-- A part of a transfer stays in the whole of it. -/
lemma OnlyIn.part (hread : direction' = .read ↔ direction = .read)
    (h : OnlyIn direction' (position + k) (address + k) n s s') {size : ℕ} (hle : k + n ≤ size) :
    OnlyIn direction position address size s s' := by
  refine ⟨fun x hx => h.memory x fun hin => hx ?_, fun x hx => h.card x fun hin => hx ?_⟩
  · exact ⟨hread.mp hin.1, by omega, by omega⟩
  · exact ⟨mt hread.mpr hin.1, by omega, by omega⟩

lemma onlyIn_move : OnlyIn direction position address n s (s.move direction position address n) := by
  unfold move
  by_cases h : direction = .read
  · rw [if_pos h]
    exact ⟨fun x hx => ByteStore.blit_apply_off (by
      by_contra hin
      exact hx ⟨h, by omega, by omega⟩), fun _ _ => rfl⟩
  · rw [if_neg h]
    exact ⟨fun _ _ => rfl, fun x hx => ByteStore.blit_apply_off (by
      by_contra hin
      exact hx ⟨h, by omega, by omega⟩)⟩

lemma onlyIn_spoil (left : ByteStore) :
    OnlyIn direction position address n s (s.spoil direction position address n left) := by
  unfold spoil
  by_cases h : direction = .read
  · rw [if_pos h]
    exact ⟨fun x hx => ByteStore.blit_apply_off (by
      by_contra hin
      exact hx ⟨h, by omega, by omega⟩), fun _ _ => rfl⟩
  · rw [if_neg h]
    exact ⟨fun _ _ => rfl, fun x hx => ByteStore.blit_apply_off (by
      by_contra hin
      exact hx ⟨h, by omega, by omega⟩)⟩

lemma move_zero : s.move direction position address 0 = s := by
  have hnone : ∀ (a c : ByteStore) (x y : ℕ), a.blit x c y 0 = a := fun a c x y =>
    funext fun z => if_neg (by omega)
  unfold move
  rw [hnone, hnone, ite_self]

/-- What is spoilt is made good by the transfer. -/
lemma OnlyIn.move (h : OnlyIn direction position address n s s') :
    s'.move direction position address n = s.move direction position address n := by
  unfold Storage.move
  by_cases hread : direction = .read
  · have hcard : s'.card = s.card := funext fun x => h.card x fun hin => hin.1 hread
    rw [if_pos hread, if_pos hread, hcard]
    congr 1
    funext x
    unfold ByteStore.blit
    split
    · rfl
    · rename_i hoff
      exact h.memory x fun hin => hoff hin.2
  · have hmemory : s'.memory = s.memory := funext fun x => h.memory x fun hin => hread hin.1
    rw [if_neg hread, if_neg hread, hmemory]
    congr 1
    funext x
    unfold ByteStore.blit
    split
    · rfl
    · rename_i hoff
      exact h.card x fun hin => hoff hin.2

end Storage

/-! ## The chunks -/

lemma ioBlocksCommand_read {direction : SdTransferDirection} {blockCount : ℕ} :
    (ioBlocksCommand direction blockCount).transferDirection = .read ↔ direction = .read := by
  unfold ioBlocksCommand
  split_ifs with h <;> simp [h, cmdReadSingleBlock, cmdReadMultiBlock, cmdWriteSingleBlock,
    cmdWriteMultiBlock]

section Chunks

variable {m : EfiBlockIoMedia} {o : FaultScript} {p : ChunkPlan} {n k : ℕ} {s : FaultyStorage}

/-- The commands of a chunk touch nothing but its bytes. -/
lemma play_onlyIn {q : DataRequest} (log : List Attempt) (h : ∀ t ∈ log, t.request = q) :
    s.storage.OnlyIn q.cmd.transferDirection (bytePosition true (q.arg % 2 ^ 32)) q.buffer q.size
      (o.play log s).storage := by
  induction log generalizing s with
  | nil => exact .refl _
  | cons t log ih =>
      have hrest := ih (s := (o.perform t.request s).2) fun t' ht' =>
        h t' (List.mem_cons_of_mem _ ht')
      refine .trans ?_ hrest
      rw [h t List.mem_cons_self]
      unfold FaultScript.perform
      dsimp only
      split
      · exact Storage.onlyIn_spoil _
      · exact Storage.onlyIn_move

lemma chunkLog_request {script : CommandScript} :
    ∀ t ∈ p.chunkLog script k, t.request = p.request k := by
  intro t ht
  obtain ⟨_, -, rfl⟩ := List.mem_map.mp ht
  rfl

lemma attempts_pos (script : CommandScript) (i : ℕ) : 0 < script.attempts i := by
  unfold CommandScript.attempts
  split
  · split <;> decide
  · decide

/-- A chunk that is not given up is moved. -/
lemma play_chunkLog (hsent : s.sent = n + (o.scriptFrom m n).chunkStart k)
    (hexhausted : ¬ (o.scriptFrom m n).Exhausted ((o.scriptFrom m n).chunkStart k)) :
    (o.play (p.chunkLog (o.scriptFrom m n) k) s).storage =
      s.storage.move p.cmd.transferDirection (bytePosition true ((p.request k).arg % 2 ^ 32))
        (p.request k).buffer (p.request k).size := by
  have hlast := CommandScript.last_attempt_isError_iff.not.mpr hexhausted
  obtain ⟨a, ha⟩ := Nat.exists_eq_succ_of_ne_zero
    (attempts_pos (o.scriptFrom m n) ((o.scriptFrom m n).chunkStart k)).ne'
  have hsplit : p.chunkLog (o.scriptFrom m n) k =
      ((List.range a).map fun j => ⟨p.request k, (o.scriptFrom m n).status
        ((o.scriptFrom m n).chunkStart k + j)⟩) ++
        [⟨p.request k, (o.scriptFrom m n).status ((o.scriptFrom m n).chunkStart k + a)⟩] := by
    rw [ChunkPlan.chunkLog, ha, Nat.succ_eq_add_one, List.range_succ, List.map_append]
    rfl
  have hlog := @chunkLog_request p k (o.scriptFrom m n)
  rw [hsplit] at hlog ⊢
  have honly := @play_onlyIn o s (p.request k) _ fun t ht => hlog t (List.mem_append_left _ ht)
  generalize hfront : ((List.range a).map fun j => (⟨p.request k, (o.scriptFrom m n).status
    ((o.scriptFrom m n).chunkStart k + j)⟩ : Attempt)) = front at honly
  have hindex : (o.play front s).sent = n + ((o.scriptFrom m n).chunkStart k + a) := by
    rw [FaultScript.play_sent, hsent, ← hfront, List.length_map, List.length_range]
    omega
  have hok : ¬ (o.status (o.play front s).sent).isError = true := by
    rw [hindex]
    rwa [ha, Nat.add_succ_sub_one] at hlast
  rw [FaultScript.play_append]
  show (if _ then _ else _ : Storage) = _
  rw [if_neg hok]
  exact honly.move

/-- The chunks before `k`, none of which is given up, are moved. -/
lemma play_logUpTo (hspan : p.lba + p.blocks ≤ 2 ^ 32) (hk : k ≤ p.count)
    (hexhausted : ∀ j < k,
      ¬ (o.scriptFrom m s.sent).Exhausted ((o.scriptFrom m s.sent).chunkStart j)) :
    (o.play (p.logUpTo (o.scriptFrom m s.sent) k) s).storage =
      s.storage.move p.cmd.transferDirection (sdBlockLengthBytes * p.lba) p.buffer
        (sdBlockLengthBytes * p.offset k) := by
  induction k with
  | zero =>
      have hzero : p.offset 0 = 0 := by simp [ChunkPlan.offset]
      rw [hzero, Nat.mul_zero, Storage.move_zero]
      rfl
  | succ k ih =>
      have hoff := ChunkPlan.offset_lt_blocks_iff.mpr (show k < p.count by omega)
      have hstep := @ChunkPlan.offset_step p k
      have harg : (p.request k).arg % 2 ^ 32 = p.lba + p.offset k :=
        Nat.mod_eq_of_lt (show p.lba + p.offset k < 2 ^ 32 by omega)
      have hposition : bytePosition true (p.lba + p.offset k) =
          sdBlockLengthBytes * p.lba + sdBlockLengthBytes * p.offset k := Nat.mul_add _ _ _
      have hsize : sdBlockLengthBytes * p.offset (k + 1) = sdBlockLengthBytes * p.offset k +
          (p.request k).size := by
        show _ = _ + sdBlockLengthBytes * (p.offset (k + 1) - p.offset k)
        rw [← Nat.mul_add]
        congr 1
        omega
      have hsent : (o.play (p.logUpTo (o.scriptFrom m s.sent) k) s).sent =
          s.sent + (o.scriptFrom m s.sent).chunkStart k := by
        rw [FaultScript.play_sent, ChunkPlan.length_logUpTo]
      rw [ChunkPlan.logUpTo, FaultScript.play_append,
        play_chunkLog hsent (hexhausted k (Nat.lt_succ_self k)),
        ih (by omega) fun j hj => hexhausted j (Nat.lt_succ_of_lt hj), harg, hposition, hsize]
      exact Storage.move_append

/-- Whatever becomes of the chunks, nothing else is touched. -/
lemma play_logUpTo_onlyIn (hspan : p.lba + p.blocks ≤ 2 ^ 32) {direction : SdTransferDirection}
    (hread : p.cmd.transferDirection = .read ↔ direction = .read) (hk : k ≤ p.count)
    (script : CommandScript) :
    s.storage.OnlyIn direction (sdBlockLengthBytes * p.lba) p.buffer
      (sdBlockLengthBytes * p.blocks) (o.play (p.logUpTo script k) s).storage := by
  induction k with
  | zero => exact .refl _
  | succ k ih =>
      have hoff := ChunkPlan.offset_lt_blocks_iff.mpr (show k < p.count by omega)
      have hstep := @ChunkPlan.offset_step p k
      have harg : (p.request k).arg % 2 ^ 32 = p.lba + p.offset k :=
        Nat.mod_eq_of_lt (show p.lba + p.offset k < 2 ^ 32 by omega)
      have hposition : bytePosition true (p.lba + p.offset k) =
          sdBlockLengthBytes * p.lba + sdBlockLengthBytes * p.offset k := Nat.mul_add _ _ _
      rw [ChunkPlan.logUpTo, FaultScript.play_append]
      have hchunk := @play_onlyIn o (o.play (p.logUpTo script k) s) (p.request k) _
        (@chunkLog_request p k script)
      rw [harg, hposition] at hchunk
      refine (ih (by omega)).trans (hchunk.part hread ?_)
      show sdBlockLengthBytes * p.offset k +
        sdBlockLengthBytes * (p.offset (k + 1) - p.offset k) ≤ _
      rw [← Nat.mul_add]
      exact Nat.mul_le_mul_left _ (by omega)

end Chunks

/-! ## A request -/

section Request

variable {caps : SdhcCapabilities} {m : EfiBlockIoMedia} {o : FaultScript} {r : IoRequest}
  {cmd : SdCommand} {s : FaultyStorage}

/-- The span of the request lies on the media, and its size fits 32 bits. -/
structure IoRequest.Spans (r : IoRequest) (m : EfiBlockIoMedia) : Prop where
  bufferSize : r.bufferSize < 2 ^ 32
  onMedia : r.lba + r.bufferSize / sdBlockLengthBytes ≤ m.lastBlock + 1

/-- No chunk of the request but the last one is given up after three commands. -/
def Unhidden (caps : SdhcCapabilities) (m : EfiBlockIoMedia) (o : FaultScript) (r : IoRequest)
    (s : FaultyStorage) : Prop :=
  ∀ k, k + 1 < chunkCount caps r →
    ¬ (o.scriptFrom m s.sent).Exhausted ((o.scriptFrom m s.sent).chunkStart k)

/-- What a request that starts a transfer leaves behind. -/
structure Transferred (r : IoRequest) (s : FaultyStorage)
    (run : Option EfiStatus × FaultyStorage) (complete : Prop) : Prop where
  onlyIn : s.storage.OnlyIn r.transferDirection (sdBlockLengthBytes * r.lba) r.buffer r.bufferSize
    run.2.storage
  moved : complete → ∀ status, run.1 = some status → status.isError = false →
    run.2.storage = r.moved s.storage

/-- A transfer whatever its commands come to. -/
theorem ioBlocks_faulty (hblock : m.blockSize = sdBlockLengthBytes) (hspans : r.Spans m)
    (hpos : 0 < caps.maximumBlockCount.toNat)
    (hmax : caps.maximumBlockCount.toNat * sdBlockLengthBytes < 2 ^ 32)
    (hcheck : checkRequest m.toMediaRecord r = some (.ok cmd)) :
    Transferred r s (ioBlocks (faultyPath caps m o) r s) (Unhidden caps m o r s) := by
  obtain ⟨hne, hdvd, -⟩ := checkRequest_span hcheck
  rw [hblock] at hdvd
  obtain ⟨hstatus, hplay⟩ := (@scriptedPath_simulates caps m o s).ioBlocks r
    (show s = o.play [] s from rfl)
  have hrun := @ioBlocks_eq_runChunks caps (o.scriptFrom m s.sent) r cmd hpos hblock hdvd
    hspans.bufferSize hmax hcheck
  have hdirection : (requestPlan caps r cmd hpos).cmd =
      ioBlocksCommand r.transferDirection (r.bufferSize / m.blockSize % 2 ^ 32) :=
    checkRequest_command hcheck
  have hcount : (requestPlan caps r cmd hpos).count = chunkCount caps r := rfl
  have hlba : (requestPlan caps r cmd hpos).lba = r.lba := rfl
  have hbuffer : (requestPlan caps r cmd hpos).buffer = r.buffer := rfl
  have hblocks : sdBlockLengthBytes * (requestPlan caps r cmd hpos).blocks = r.bufferSize :=
    Nat.mul_div_cancel' hdvd
  have hspan : (requestPlan caps r cmd hpos).lba + (requestPlan caps r cmd hpos).blocks ≤
      2 ^ 32 := by
    have hlast := m.lastBlock_lt
    have hon := hspans.onMedia
    show r.lba + r.bufferSize / sdBlockLengthBytes ≤ 2 ^ 32
    omega
  generalize requestPlan caps r cmd hpos = p at hrun hdirection hcount hlba hbuffer hblocks hspan
  have hbytes : (p.cursor 0).bytesRemaining ≤ r.bufferSize := by
    rw [← hblocks]
    exact Nat.mul_le_mul_left _ (Nat.sub_le _ _)
  obtain ⟨K, -, hK, hstop⟩ := @runChunks_stopsAt caps (o.scriptFrom m s.sent) p hspan r.bufferSize 0
    none (Nat.zero_le _) hbytes
  have hcountPos : 0 < p.count := by
    rw [← ChunkPlan.offset_lt_blocks_iff, ChunkPlan.offset, Nat.zero_mul, Nat.min_zero]
    refine Nat.pos_of_ne_zero fun hzero => hne ?_
    rw [← hblocks, hzero, Nat.mul_zero]
  rw [hrun, hstop.1] at hplay
  constructor
  · have honly := @play_logUpTo_onlyIn o p K s hspan r.transferDirection
      (by rw [hdirection]; exact ioBlocksCommand_read) hK (o.scriptFrom m s.sent)
    rw [hplay]
    rwa [hlba, hbuffer, hblocks] at honly
  · intro hcomplete status hreturned hok
    -- the status is that of the last command
    rw [← hstatus, hrun] at hreturned
    obtain ⟨rfl, -, rfl⟩ := hstop.status_eq hcountPos hreturned
    have hlast : ¬ (o.scriptFrom m s.sent).Exhausted
        ((o.scriptFrom m s.sent).chunkStart (p.count - 1)) := by
      rw [← CommandScript.status_before_isError_iff hcountPos, hok]
      decide
    have hmoved := @play_logUpTo m o p p.count s hspan (Nat.le_refl _) fun j hj => by
      by_cases hbefore : j + 1 < p.count
      · exact hcomplete j (hcount ▸ hbefore)
      · rwa [show j = p.count - 1 by omega]
    rw [hplay, hmoved, ChunkPlan.offset_count, hblocks, hlba, hbuffer, hdirection,
      Storage.move_command]
    rfl

end Request

/-! ## The client's view -/

/-- The bytes of card and memory that a client knows. -/
structure StorageView where
  card : KnownBytes
  memory : KnownBytes

/-- What is known is right. -/
structure StorageView.Sound (v : StorageView) (s : Storage) : Prop where
  card : v.card.Sound s.card
  memory : v.memory.Sound s.memory

/-- The view after a transfer that reports success: what was known of its source is known of its
target. -/
def StorageView.moved (v : StorageView) (r : IoRequest) : StorageView :=
  if r.transferDirection = .read then
    { v with memory := v.memory.copy r.buffer v.card (sdBlockLengthBytes * r.lba) r.bufferSize }
  else
    { v with card := v.card.copy (sdBlockLengthBytes * r.lba) v.memory r.buffer r.bufferSize }

/-- The view after a transfer that does not: its target is lost. -/
def StorageView.lost (v : StorageView) (r : IoRequest) : StorageView :=
  if r.transferDirection = .read then
    { v with memory := v.memory.forget r.buffer r.bufferSize }
  else { v with card := v.card.forget (sdBlockLengthBytes * r.lba) r.bufferSize }

/-- The view after a request, which may have been turned down. -/
def StorageView.after (v : StorageView) (m : EfiBlockIoMedia) (r : IoRequest)
    (status : Option EfiStatus) : StorageView :=
  match checkRequest m.toMediaRecord r with
  | some (.ok _) => if status.any fun status => !status.isError then v.moved r else v.lost r
  | _ => v

/-- What a client does: work in memory, which it knows afterwards, and requests. -/
inductive BlockCall
  | compute (memory : ByteStore)
  | io (r : IoRequest)

section Store

variable (caps : SdhcCapabilities) (m : EfiBlockIoMedia) (o : FaultScript)

/-- The driver on a card whose commands follow the script, with the view of its client. -/
def blockStore : System (FaultyStorage × StorageView) BlockCall where
  Init s := s.2.Sound s.1.storage
  Step s call t :=
    match call with
    | .compute memory =>
        t = (⟨{ s.1.storage with memory := memory }, s.1.sent⟩,
          { s.2 with memory := fun x => some (memory x) })
    | .io r =>
        t.1 = (ioBlocks (faultyPath caps m o) r s.1).2 ∧
          t.2 = s.2.after m r (ioBlocks (faultyPath caps m o) r s.1).1

/-- The condition on a call. -/
structure BlockCall.Careful (s : FaultyStorage) (call : BlockCall) : Prop where
  spans : ∀ r, call = .io r → r.Spans m
  unhidden : ∀ r, call = .io r → Unhidden caps m o r s

end Store

section Run

variable {caps : SdhcCapabilities} {m : EfiBlockIoMedia} {o : FaultScript} {r : IoRequest}
  {v : StorageView} {s s' : Storage}

lemma StorageView.Sound.moved (h : v.Sound s) : (v.moved r).Sound (r.moved s) := by
  unfold StorageView.moved IoRequest.moved Storage.move
  split
  · exact ⟨h.card, h.memory.copy h.card⟩
  · exact ⟨h.card.copy h.memory, h.memory⟩

lemma StorageView.Sound.lost (h : v.Sound s)
    (honly : s.OnlyIn r.transferDirection (sdBlockLengthBytes * r.lba) r.buffer r.bufferSize s') :
    (v.lost r).Sound s' := by
  unfold StorageView.lost
  by_cases hread : r.transferDirection = .read
  · rw [if_pos hread]
    have hcard : s'.card = s.card := funext fun x => honly.card x fun hin => hin.1 hread
    exact ⟨hcard ▸ h.card, h.memory.forget fun x hx => honly.memory x fun hin => hx hin.2⟩
  · rw [if_neg hread]
    have hmemory : s'.memory = s.memory := funext fun x => honly.memory x fun hin => hread hin.1
    exact ⟨h.card.forget fun x hx => honly.card x fun hin => hx hin.2, hmemory ▸ h.memory⟩

/-- One request. -/
lemma StorageView.Sound.after {s : FaultyStorage} (h : v.Sound s.storage)
    (hblock : m.blockSize = sdBlockLengthBytes) (hpos : 0 < caps.maximumBlockCount.toNat)
    (hmax : caps.maximumBlockCount.toNat * sdBlockLengthBytes < 2 ^ 32) (hspans : r.Spans m)
    (hunhidden : Unhidden caps m o r s) :
    (v.after m r (ioBlocks (faultyPath caps m o) r s).1).Sound
      (ioBlocks (faultyPath caps m o) r s).2.storage := by
  unfold StorageView.after
  cases hcheck : checkRequest m.toMediaRecord r with
  | none =>
      have hrun : ioBlocks (faultyPath caps m o) r s = (none, s) := by
        unfold ioBlocks
        rw [show (faultyPath caps m o).media s = m.toMediaRecord from rfl, hcheck]
      rw [hrun]
      exact h
  | some answer =>
    cases answer with
    | error status =>
        have hrun : ioBlocks (faultyPath caps m o) r s = (some status, s) := by
          unfold ioBlocks
          rw [show (faultyPath caps m o).media s = m.toMediaRecord from rfl, hcheck]
        rw [hrun]
        exact h
    | ok cmd =>
        obtain ⟨honly, hmoved⟩ := ioBlocks_faulty hblock hspans hpos hmax hcheck
        dsimp only
        split
        · rename_i hok
          obtain ⟨status, hstatus, hnot⟩ := (Option.any_eq_true _ _).mp hok
          rw [hmoved hunhidden status hstatus (by simpa using hnot)]
          exact h.moved
        · exact h.lost honly

/-- Over every run the view is right: what the last request that reported success has put
somewhere is there, whatever the commands of it and of the requests behind it come to. -/
theorem view_sound_of_run (caps : SdhcCapabilities) (m : EfiBlockIoMedia) (o : FaultScript)
    (hblock : m.blockSize = sdBlockLengthBytes) (hpos : 0 < caps.maximumBlockCount.toNat)
    (hmax : caps.maximumBlockCount.toNat * sdBlockLengthBytes < 2 ^ 32)
    {s₀ s : FaultyStorage} {v₀ v : StorageView} {calls : List BlockCall}
    (hstart : v₀.Sound s₀.storage)
    (hrun : ((blockStore caps m o).restrict fun s call => call.Careful caps m o s.1).Run (s₀, v₀)
      calls (s, v)) :
    v.Sound s.storage := by
  refine System.Run.invariant (P := fun s => s.2.Sound s.1.storage) ?_ hrun hstart
  rintro ⟨s, v⟩ call ⟨t, w⟩ hs ⟨hcareful, hstep⟩
  cases call with
  | compute memory =>
      obtain ⟨rfl, rfl⟩ := Prod.ext_iff.mp hstep
      refine ⟨hs.card, fun x b hx => ?_⟩
      exact Option.some.inj hx
  | io r =>
      obtain ⟨ht, hw⟩ := hstep
      rw [show t = _ from ht, show w = _ from hw]
      exact hs.after hblock hpos hmax (hcareful.spans r rfl) (hcareful.unhidden r rfl)

end Run

/-- The first command fails and leaves ones, the others succeed. -/
def failsOnce : FaultScript := ⟨fun i => if i = 0 then .deviceError else .success, fun _ _ => 0xFF⟩

/-- Two blocks are written from a memory of sevens and read back into a memory of zeros. -/
def writeThenRead : List BlockCall :=
  [.compute fun _ => 7, .io { twoBlockRead with transferDirection := .write }, .compute fun _ => 0,
    .io { twoBlockRead with buffer := 8192 }]

lemma failsOnce_careful (s : FaultyStorage) (call : BlockCall) (hcall : call ∈ writeThenRead) :
    call.Careful oneBlockHost smallMedia failsOnce s := by
  have hmem : ∀ r, call = .io r → r = { twoBlockRead with transferDirection := .write } ∨
      r = { twoBlockRead with buffer := 8192 } := by
    rintro r rfl
    simpa [writeThenRead] using hcall
  constructor
  · intro r hr
    rcases hmem r hr with rfl | rfl
    · exact ⟨by decide, by decide⟩
    · exact ⟨by decide, by decide⟩
  · intro r hr k hk hexhausted
    -- the last of any three commands succeeds
    have hlast : (failsOnce.status (s.sent + ((failsOnce.scriptFrom smallMedia s.sent).chunkStart k +
        2))).isError = true := hexhausted 2 (by decide)
    unfold failsOnce at hlast
    dsimp only at hlast
    rw [if_neg (by omega)] at hlast
    cases hlast

theorem view_sound_of_run_once :
    ∃ s v, ((blockStore oneBlockHost smallMedia failsOnce).restrict fun s call =>
        call.Careful oneBlockHost smallMedia failsOnce s.1).Run
        (⟨⟨fun _ => 0, fun _ => 0⟩, 0⟩, ⟨fun _ => none, fun _ => none⟩) writeThenRead (s, v) ∧
      v.Sound s.storage ∧ v.memory 8192 = some 7 := by
  have hrun : ∃ s v, ((blockStore oneBlockHost smallMedia failsOnce).restrict fun s call =>
        call.Careful oneBlockHost smallMedia failsOnce s.1).Run
        (⟨⟨fun _ => 0, fun _ => 0⟩, 0⟩, ⟨fun _ => none, fun _ => none⟩) writeThenRead (s, v) ∧
      v.memory 8192 = some 7 := by
    refine ⟨_, _, .cons (t := (_, _)) ⟨failsOnce_careful _ _ (by simp [writeThenRead]), rfl⟩
      (.cons (t := (_, _)) ⟨failsOnce_careful _ _ (by simp [writeThenRead]), rfl, rfl⟩
        (.cons (t := (_, _)) ⟨failsOnce_careful _ _ (by simp [writeThenRead]), rfl⟩
          (.cons (t := (_, _)) ⟨failsOnce_careful _ _ (by simp [writeThenRead]), rfl, rfl⟩
            (.nil _)))), ?_⟩
    decide +kernel
  obtain ⟨s, v, hrun, hseven⟩ := hrun
  exact ⟨s, v, hrun, view_sound_of_run oneBlockHost smallMedia failsOnce rfl (by decide) (by decide)
    ⟨fun _ _ h => (by cases h), fun _ _ h => (by cases h)⟩ hrun, hseven⟩

end SdMmc
end MuPlatform
