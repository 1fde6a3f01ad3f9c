import MuPlatform.SdMmc.ScriptedCard
import MuPlatform.SdMmc.Success

/-!
# Media changes in mid-transfer

`IoBlocks` checks the card once and then sends data commands, up to three for a chunk.  A command
that fails is recovered from, the recovery may reset the controller, and the reset may find no
card, or another one.  Nothing is checked again before the next command.

The first part takes the two loops of `IoBlocks` apart into single attempts (`ChunkAttempt.next`)
and says what status the transfer ends with (`ioBlocks_of_last`).  In the second, an attempt
without a reset leaves the slot as it was, so that a transfer stays on its card exactly if the
resets in it do (`staysOnCard_iff`).
-/

namespace MuPlatform
namespace SdMmc

open Prog

/-! ## Attempts -/

/-- An attempt to send a chunk: the cursors, the attempts that may follow for the chunk, and the
state it is made from. -/
structure ChunkAttempt (σ : Type*) where
  cursor : Cursor
  retries : ℕ
  state : σ

/-- `CurrentBufferSize`. -/
def Cursor.size (c : Cursor) (maxTransferSize : ℕ) : ℕ :=
  if c.bytesRemaining < maxTransferSize then c.bytesRemaining else maxTransferSize

section Size

variable {c : Cursor} {maxTransferSize k : ℕ}

lemma Cursor.size_eq_min : c.size maxTransferSize = min c.bytesRemaining maxTransferSize := by
  unfold size
  split <;> omega

lemma Cursor.size_le : c.size maxTransferSize ≤ c.bytesRemaining := by
  rw [size_eq_min]
  exact min_le_left _ _

lemma Cursor.size_le_max : c.size maxTransferSize ≤ maxTransferSize := by
  rw [size_eq_min]
  exact min_le_right _ _

lemma Cursor.size_pos (hbytes : c.bytesRemaining ≠ 0) (hmax : maxTransferSize ≠ 0) :
    0 < c.size maxTransferSize := by
  rw [size_eq_min]
  exact lt_min (Nat.pos_of_ne_zero hbytes) (Nat.pos_of_ne_zero hmax)

/-- A transfer of whole units is cut between units. -/
lemma Cursor.dvd_size (hbytes : k ∣ c.bytesRemaining) (hmax : k ∣ maxTransferSize) :
    k ∣ c.size maxTransferSize := by
  rw [size_eq_min]
  rcases min_choice c.bytesRemaining maxTransferSize with h | h <;> rw [h] <;> assumption

end Size

/-- The cursors behind a chunk. -/
def Cursor.advance (c : Cursor) (maxTransferSize blockSize : ℕ) : Cursor where
  bytesRemaining := c.bytesRemaining - c.size maxTransferSize
  currentLba := (c.currentLba + c.size maxTransferSize / blockSize) % 2 ^ 32
  currentBuffer := c.currentBuffer + c.size maxTransferSize

/-- A chunk of a host that takes blocks at all uses bytes up. -/
lemma Cursor.advance_bytesRemaining_lt {c : Cursor} {maxTransferSize : ℕ}
    (hmax : maxTransferSize ≠ 0) {blockSize : ℕ}
    (hleft : (c.advance maxTransferSize blockSize).bytesRemaining ≠ 0) :
    (c.advance maxTransferSize blockSize).bytesRemaining < c.bytesRemaining := by
  simp only [Cursor.advance, Cursor.size] at hleft ⊢
  split_ifs at hleft ⊢ <;> omega

namespace ChunkAttempt

variable {σ : Type*} (d : DataPath σ) (cmd : SdCommand) (maxTransferSize : ℕ)

/-- The status of an attempt and the state after it. -/
def outcome (a : ChunkAttempt σ) : EfiStatus × σ :=
  d.sdhcSendDataCommand cmd a.cursor.currentLba (a.cursor.size maxTransferSize)
    a.cursor.currentBuffer a.state

/-- The chunk is not tried again. -/
def EndsChunk (a : ChunkAttempt σ) : Prop :=
  ¬ ((a.outcome d cmd maxTransferSize).1.isError = true ∧ a.retries ≠ 0)

instance (a : ChunkAttempt σ) : Decidable (a.EndsChunk d cmd maxTransferSize) :=
  inferInstanceAs (Decidable (¬ _))

/-- The block size the chunk advance behind an attempt divides by. -/
def blockSize (a : ChunkAttempt σ) : ℕ := (d.media (a.outcome d cmd maxTransferSize).2).blockSize

/-- The attempt after an attempt; `none` where the loop ends, or divides by zero. -/
def next (a : ChunkAttempt σ) : Option (ChunkAttempt σ) :=
  if a.EndsChunk d cmd maxTransferSize then
    if a.blockSize d cmd maxTransferSize = 0 ∨
        (a.cursor.advance maxTransferSize (a.blockSize d cmd maxTransferSize)).bytesRemaining = 0 then
      none
    else some
      { cursor := a.cursor.advance maxTransferSize (a.blockSize d cmd maxTransferSize)
        retries := dataCommandRetryCount - 1
        state := (a.outcome d cmd maxTransferSize).2 }
  else some
    { cursor := a.cursor
      retries := a.retries - 1
      state := (a.outcome d cmd maxTransferSize).2 }

/-- What the loops of `IoBlocks` do from an attempt on. -/
def finish (bound : ℕ) (a : ChunkAttempt σ) : Option EfiStatus × σ :=
  match sendWithRetry d cmd a.cursor.currentLba (a.cursor.size maxTransferSize)
      a.cursor.currentBuffer (a.retries + 1) none a.state with
  | (status, s) =>
    if (d.media s).blockSize = 0 then (none, s)
    else transferChunks d cmd maxTransferSize bound
      (a.cursor.advance maxTransferSize (d.media s).blockSize) status s

variable {d cmd maxTransferSize} {a a' : ChunkAttempt σ}

lemma next_state (h : a.next d cmd maxTransferSize = some a') :
    a'.state = (a.outcome d cmd maxTransferSize).2 := by
  unfold next at h
  split_ifs at h <;> cases h <;> rfl

lemma transferChunks_succ {bound : ℕ} {c : Cursor} (hc : c.bytesRemaining ≠ 0)
    (status : Option EfiStatus) (s : σ) :
    transferChunks d cmd maxTransferSize (bound + 1) c status s =
      finish d cmd maxTransferSize bound ⟨c, dataCommandRetryCount - 1, s⟩ := by
  unfold transferChunks
  rw [if_neg hc]
  rfl

lemma finish_retry {bound : ℕ} (h : ¬ a.EndsChunk d cmd maxTransferSize) :
    finish d cmd maxTransferSize bound a = finish d cmd maxTransferSize bound
      ⟨a.cursor, a.retries - 1, (a.outcome d cmd maxTransferSize).2⟩ := by
  obtain ⟨herr, hretries⟩ := not_not.mp h
  obtain ⟨n, hn⟩ := Nat.exists_eq_succ_of_ne_zero hretries
  unfold finish
  dsimp only
  rw [show a.retries - 1 + 1 = n + 1 by omega, hn]
  have hsend : sendWithRetry d cmd a.cursor.currentLba (a.cursor.size maxTransferSize)
      a.cursor.currentBuffer (n.succ + 1) none a.state =
      sendWithRetry d cmd a.cursor.currentLba (a.cursor.size maxTransferSize)
        a.cursor.currentBuffer (n + 1) none (a.outcome d cmd maxTransferSize).2 := by
    rw [sendWithRetry]
    exact if_pos herr
  rw [hsend]

lemma finish_chunk {bound : ℕ} (h : a.EndsChunk d cmd maxTransferSize)
    (hsize : a.blockSize d cmd maxTransferSize ≠ 0) :
    finish d cmd maxTransferSize bound a = transferChunks d cmd maxTransferSize bound
      (a.cursor.advance maxTransferSize (a.blockSize d cmd maxTransferSize))
      (some (a.outcome d cmd maxTransferSize).1) (a.outcome d cmd maxTransferSize).2 := by
  have hsend : sendWithRetry d cmd a.cursor.currentLba (a.cursor.size maxTransferSize)
      a.cursor.currentBuffer (a.retries + 1) none a.state =
      (some (a.outcome d cmd maxTransferSize).1, (a.outcome d cmd maxTransferSize).2) := by
    rw [sendWithRetry]
    by_cases herr : (a.outcome d cmd maxTransferSize).1.isError = true
    · have hretries : a.retries = 0 := by_contra fun hne => h ⟨herr, hne⟩
      rw [hretries]
      exact if_pos herr
    · exact if_neg herr
  unfold finish
  rw [hsend]
  exact if_neg hsize

end ChunkAttempt

section Transfer

variable {σ : Type*} (d : DataPath σ) (r : IoRequest) (s : σ)

/-- The command for a request on a card. -/
def IoRequest.command (m : MediaRecord) : SdCommand :=
  ioBlocksCommand r.transferDirection (r.bufferSize / m.blockSize % 2 ^ 32)

/-- The request is accepted, and there is something to send. -/
def IoRequest.Sends (m : MediaRecord) : Prop :=
  checkRequest m r = some (.ok (r.command m)) ∧ r.bufferSize % 2 ^ 32 ≠ 0

instance (m : MediaRecord) : Decidable (r.Sends m) :=
  inferInstanceAs (Decidable (_ ∧ _))

/-- `MaxTransferSize`. -/
def maxTransferSize : ℕ :=
  d.hostCapabilities.maximumBlockCount.toNat * (d.media s).blockSize % 2 ^ 32

/-- The first attempt for a request. -/
def firstAttempt : ChunkAttempt σ where
  cursor := ⟨r.bufferSize % 2 ^ 32, r.lba % 2 ^ 32, r.buffer⟩
  retries := dataCommandRetryCount - 1
  state := s

/-- The attempts of a call of `IoBlocks`, one after the other. -/
def ioAttempts : System (ChunkAttempt σ) Unit where
  Init a := r.Sends (d.media s) ∧ a = firstAttempt r s
  Step a _ a' := a.next d (r.command (d.media s)) (maxTransferSize d s) = some a'

variable {d r s} {a : ChunkAttempt σ}

lemma checkRequest_command {m : MediaRecord} {cmd : SdCommand}
    (h : checkRequest m r = some (.ok cmd)) : cmd = r.command m := by
  have hanswer := checkRequest_answer m r
  rw [h] at hanswer
  cases hanswer with
  | accepted => rfl

lemma reachable_sends (h : (ioAttempts d r s).Reachable a) : r.Sends (d.media s) := by
  obtain ⟨a₀, is, hinit, -⟩ := h
  exact hinit.1

/-- Every attempt has bytes to send. -/
lemma bytesRemaining_ne_zero (h : (ioAttempts d r s).Reachable a) :
    a.cursor.bytesRemaining ≠ 0 := by
  refine h.invariant (P := fun a => a.cursor.bytesRemaining ≠ 0) ?_ ?_
  · rintro a ⟨hsends, rfl⟩
    exact hsends.2
  · rintro a u a' hbytes hstep
    replace hstep : a.next d (r.command (d.media s)) (maxTransferSize d s) = some a' := hstep
    unfold ChunkAttempt.next at hstep
    split_ifs at hstep with hends hstop
    · obtain rfl := Option.some.inj hstep
      exact (not_or.mp hstop).2
    · obtain rfl := Option.some.inj hstep
      exact hbytes

/-- What is left to do at an attempt is what the call returns. -/
lemma ioBlocks_eq_finish (hmax : maxTransferSize d s ≠ 0) (h : (ioAttempts d r s).Reachable a) :
    ∃ bound, a.cursor.bytesRemaining ≤ bound + 1 ∧
      ioBlocks d r s = a.finish d (r.command (d.media s)) (maxTransferSize d s) bound := by
  refine h.invariant (P := fun a => ∃ bound, a.cursor.bytesRemaining ≤ bound + 1 ∧
    ioBlocks d r s = a.finish d (r.command (d.media s)) (maxTransferSize d s) bound) ?_ ?_
  · rintro a ⟨⟨haccepts, hbytes⟩, rfl⟩
    obtain ⟨n, hn⟩ := Nat.exists_eq_succ_of_ne_zero hbytes
    refine ⟨n, le_of_eq hn, ?_⟩
    have hio : ioBlocks d r s = transferChunks d (r.command (d.media s)) (maxTransferSize d s)
        (r.bufferSize % 2 ^ 32) ⟨r.bufferSize % 2 ^ 32, r.lba % 2 ^ 32, r.buffer⟩ none s := by
      unfold ioBlocks
      rw [haccepts]
      rfl
    have hchunks := @ChunkAttempt.transferChunks_succ σ d (r.command (d.media s))
      (maxTransferSize d s) n ⟨r.bufferSize % 2 ^ 32, r.lba % 2 ^ 32, r.buffer⟩ hbytes none s
    rw [hio, firstAttempt, ← hchunks, hn]
  · rintro a u a' ⟨bound, hbound, hfinish⟩ hstep
    replace hstep : a.next d (r.command (d.media s)) (maxTransferSize d s) = some a' := hstep
    unfold ChunkAttempt.next at hstep
    split_ifs at hstep with hends hstop
    · -- the next chunk
      obtain rfl := Option.some.inj hstep
      obtain ⟨hsize, hleft⟩ := not_or.mp hstop
      have hdrop := @Cursor.advance_bytesRemaining_lt a.cursor (maxTransferSize d s) hmax
        (a.blockSize d (r.command (d.media s)) (maxTransferSize d s)) hleft
      obtain ⟨n, rfl⟩ : ∃ n, bound = n + 1 := ⟨bound - 1, by omega⟩
      refine ⟨n, by dsimp only; omega, ?_⟩
      rw [hfinish, ChunkAttempt.finish_chunk hends hsize, ChunkAttempt.transferChunks_succ hleft]
    · -- the next try
      obtain rfl := Option.some.inj hstep
      exact ⟨bound, hbound, by rw [hfinish, ChunkAttempt.finish_retry hends]⟩

/-- Where the loop ends behind an attempt, the call returns the status of the attempt. -/
lemma ioBlocks_of_last (h : (ioAttempts d r s).Reachable a)
    (hsize : a.blockSize d (r.command (d.media s)) (maxTransferSize d s) ≠ 0)
    (hlast : a.next d (r.command (d.media s)) (maxTransferSize d s) = none) :
    ioBlocks d r s = (some (a.outcome d (r.command (d.media s)) (maxTransferSize d s)).1,
      (a.outcome d (r.command (d.media s)) (maxTransferSize d s)).2) := by
  unfold ChunkAttempt.next at hlast
  split_ifs at hlast with hends hstop
  have hleft := hstop.resolve_left hsize
  have hmax : maxTransferSize d s ≠ 0 := by
    -- a host that takes no block would be sent nothing, for ever
    intro hzero
    exact bytesRemaining_ne_zero h (by simpa [Cursor.advance, Cursor.size, hzero] using hleft)
  obtain ⟨bound, -, hfinish⟩ := ioBlocks_eq_finish hmax h
  rw [hfinish, ChunkAttempt.finish_chunk hends hsize]
  unfold transferChunks
  rw [if_pos hleft]

end Transfer

/-! ## The slot -/

section Slot

variable {H B : Type} {host : SdhcHost H} {boot : BootServices B}

/-- What `IoBlocks` relies on about the card is the same. -/
structure World.SameSlot (w w' : World H B) : Prop where
  mediaPresent : w'.inst.media.mediaPresent = w.inst.media.mediaPresent
  mediaId : w'.inst.media.mediaId = w.inst.media.mediaId
  blockSize : w'.inst.media.blockSize = w.inst.media.blockSize
  slotInitialized : w'.inst.slotInitialized = w.inst.slotInitialized
  cardFunction : w'.inst.cardFunction = w.inst.cardFunction

lemma World.SameSlot.refl (w : World H B) : w.SameSlot w := ⟨rfl, rfl, rfl, rfl, rfl⟩

lemma World.SameSlot.trans {w w' w'' : World H B} (h : w.SameSlot w') (h' : w'.SameSlot w'') :
    w.SameSlot w'' where
  mediaPresent := h'.mediaPresent.trans h.mediaPresent
  mediaId := h'.mediaId.trans h.mediaId
  blockSize := h'.blockSize.trans h.blockSize
  slotInitialized := h'.slotInitialized.trans h.slotInitialized
  cardFunction := h'.cardFunction.trans h.cardFunction

lemma sdhcSendCommandHelper_cardFunction (p : SdhcProtocol H) (cmd : SdCommand) (arg : BitVec 32)
    (xfrInfo : Option SdCommandXfrInfo) (inst : SdhcInstance) (h : H) :
    (sdhcSendCommandHelper p cmd arg xfrInfo inst h).2.1.cardFunction = inst.cardFunction := by
  unfold sdhcSendCommandHelper
  simp only
  split_ifs <;> rfl

lemma sameSlot_afterCommand (cmd : SdCommand) (arg : BitVec 32)
    (xfrInfo : Option SdCommandXfrInfo) (w : World H B) :
    w.SameSlot (afterCommand host cmd arg xfrInfo w).2 :=
  ⟨rfl, rfl, rfl, rfl, sdhcSendCommandHelper_cardFunction _ _ _ _ _ _⟩

lemma BusStep.sameSlot {w w' : World H B} (h : BusStep host w w') : w.SameSlot w' := by
  cases h with
  | command cmd arg xfrInfo => exact sameSlot_afterCommand cmd arg xfrInfo w
  | read _ size buffer => cases buffer <;> exact ⟨rfl, rfl, rfl, rfl, rfl⟩
  | _ => exact ⟨rfl, rfl, rfl, rfl, rfl⟩

lemma TransferStep.sameSlot {w w' : World H B} (h : TransferStep host w w') : w.SameSlot w' := by
  cases h with
  | bus h => exact h.sameSlot
  | command cmd arg xfrInfo => exact sameSlot_afterCommand cmd arg xfrInfo w
  | nullCommand => exact ⟨rfl, rfl, rfl, rfl, rfl⟩

lemma TransferStep.later {w w' : World H B} (h : TransferStep host w w') : w.Later w' := by
  cases h with
  | bus h => exact h.later
  | _ => exact ⟨List.prefix_append .., rfl, rfl, rfl⟩

/-- Without a reset the slot is as it was. -/
def KeepsSlotOrResets (w w' : World H B) : Prop :=
  w.Later w' ∧ (w.SameSlot w' ∨ PerformsReset w.toController w'.toController)

lemma KeepsSlotOrResets.step {w w' w'' : World H B} (h : KeepsSlotOrResets w w')
    (hlater : w'.Later w'') (hslot : w'.SameSlot w'') : KeepsSlotOrResets w w'' :=
  ⟨h.1.trans hlater, h.2.imp (fun hs => hs.trans hslot) fun hr => hr.later hlater⟩

/-- A data command leaves the slot as it was, or resets the controller. -/
lemma sdhcSendDataCommand_keepsSlot {cmd : SdCommand} {arg : BitVec 32}
    (h : ¬ SetsPartition cmd arg) {size : ℕ} {buffer : Buffer} {w w' : World H B}
    {status : EfiStatus}
    (hrun : sdhcSendDataCommand host (recovery host boot) cmd arg size buffer w =
      some (status, w')) :
    w.SameSlot w' ∨ PerformsReset w.toController w'.toController := by
  have hrecover (cmd : SdCommand) : Preserves (KeepsSlotOrResets w) (recovery host boot cmd) := by
    refine sdhcRecoverFromErrors_preserves
      (fun u u' (hstep : BusStep host u u') hu => hu.step hstep.later hstep.sameSlot)
      (fun cmd u hu => hu.step ⟨List.prefix_append .., rfl, rfl, rfl⟩ ⟨rfl, rfl, rfl, rfl, rfl⟩)
      (fun u hu => hu.step ⟨List.prefix_rfl, rfl, rfl, rfl⟩ ⟨rfl, rfl, rfl, rfl, rfl⟩) ?_ _ cmd
    intro n _ u hu status u' hreset
    have hlater := fun cmd => @sdhcRecoverFromErrors_later H B host boot n cmd
    refine ⟨?_, .inr (softReset_performsReset hlater hu.1.trace hreset)⟩
    exact Built.preserves softReset_built (P := w.Later)
      (fun u u' (h : DriverStep host boot u u') hw => hw.trans h.later)
      (fun cmd => (hlater cmd).triple fun _ _ h hw => hw.trans h) u hu.1 status u' hreset
  exact ((sdhcSendDataCommand_built h size buffer).preserves
    (fun u u' hstep hu => hu.step hstep.later hstep.sameSlot) hrecover w
    ⟨.refl w, .inl (.refl w)⟩ status w' hrun).2

/-- A data command that succeeds leaves the slot as it was. -/
lemma sdhcSendDataCommand_sameSlot {cmd : SdCommand} {arg : BitVec 32}
    (h : ¬ SetsPartition cmd arg) {size : ℕ} {buffer : Buffer} {w w' : World H B}
    {status : EfiStatus}
    (hrun : sdhcSendDataCommand host (recovery host boot) cmd arg size buffer w =
      some (status, w')) (hok : status.isError = false) : w.SameSlot w' :=
  (sdhcSendDataCommand_alone cmd arg size buffer).triple (sdhcSendDataCommand_built h size buffer)
    (fun _ _ hstep hw => hw.trans hstep.sameSlot) _ w (.refl w) status w' hrun hok

/-- A slot that is initialised has a block size. -/
def InitializedBlockSize (w : World H B) : Prop :=
  w.inst.slotInitialized = true → w.inst.media.blockSize = sdBlockLengthBytes

lemma DeviceStep.initializedBlockSize {w w' : World H B} (hstep : DeviceStep host w w')
    (h : InitializedBlockSize w) : InitializedBlockSize w' := by
  cases hstep with
  | bus hstep =>
      rw [InitializedBlockSize, hstep.sameSlot.slotInitialized, hstep.sameSlot.blockSize]
      exact h
  | card inst hc =>
      intro hslot
      exact hc.blockSize.elim (fun heq => heq.trans (h (hc.slotInitialized.symm.trans hslot))) id
  | extCsd => exact h

lemma DeviceStep.blockSize {w w' : World H B} (hstep : DeviceStep host w w')
    (h : w.inst.media.blockSize = sdBlockLengthBytes) :
    w'.inst.media.blockSize = sdBlockLengthBytes := by
  cases hstep with
  | bus hstep => exact hstep.sameSlot.blockSize.trans h
  | card inst hc => exact hc.blockSize.elim (fun heq => heq.trans h) id
  | extCsd => exact h

/-- What follows SEND_CSD keeps the block size, if it gets to its end. -/
lemma keepsBlockSize {f : (SdCommand → Prog (World H B) EfiStatus) → Prog (World H B) EfiStatus}
    (halone : SucceedsAlone f) (hf : DeviceProg host f)
    (recover : SdCommand → Prog (World H B) EfiStatus) :
    Triple (fun w => w.inst.media.blockSize = sdBlockLengthBytes) (f recover)
      fun status w => status.isError = false → w.inst.media.blockSize = sdBlockLengthBytes :=
  halone.triple hf (fun _ _ hstep hw => hstep.blockSize hw) recover

/-- An identification that gets to its end has set the block size. -/
lemma identifyDevice_blockSize (recover : SdCommand → Prog (World H B) EfiStatus) :
    Triple (fun _ => True) (identifyDevice host recover)
      fun status w => status.isError = false → w.inst.media.blockSize = sdBlockLengthBytes := by
  have hcsd : Triple (fun _ => True) (sdhcSendCsd host recover)
      fun status w => status.isError = false → w.inst.media.blockSize = sdBlockLengthBytes := by
    unfold sdhcSendCsd
    refine Triple.bind (Q := fun _ _ => True) (fun _ _ _ _ _ => trivial) fun rca => ?_
    refine Triple.orReturn_success (Triple.skip _) ?_
    refine Triple.bind (Q := fun _ _ => True) (fun _ _ _ _ _ => trivial) fun _ => ?_
    refine Triple.bind (Q := fun _ w => w.inst.media.blockSize = sdBlockLengthBytes)
      (Triple.modify fun w _ => rfl) fun _ => Triple.pure fun w hw _ => hw
  have hsd : DeviceProg (B := B) host fun recover => untilError [
      sdhcSelectDevice host recover, sdhcSwitchBusWidthSd host recover, sdhcSwitchSpeedModeSd,
      sdhcSetMaxClockFrequency host] :=
    .orReturn sdhcSelectDevice_built (.orReturn sdhcSwitchBusWidthSd_built
      (.orReturn (.pure _) (.orReturn sdhcSetMaxClockFrequency_built (.pure _))))
  have hmmc : DeviceProg (B := B) host fun recover => untilError [
      checkSpecVers, sdhcSelectDevice host recover, sdhcSendExtCsdMmc host recover,
      sdhcSwitchSpeedModeMmc host recover, sdhcSwitchBusWidthMmc host recover,
      sdhcSetMaxClockFrequency host] :=
    .orReturn (check_steps _ _ _ _) (.orReturn sdhcSelectDevice_built
      (.orReturn sdhcSendExtCsdMmc_built (.orReturn sdhcSwitchSpeedModeMmc_built
      (.orReturn sdhcSwitchBusWidthMmc_built (.orReturn sdhcSetMaxClockFrequency_built (.pure _))))))
  have hlength : DeviceProg (B := B) host fun recover => untilError [
      sdhcSetBlockLength host recover (.ofNat 32 sdBlockLengthBytes)] :=
    .orReturn (plainCommand_steps (by decide) _) (.pure _)
  have hcard : Triple (fun _ => True) (initializeCard host recover)
      fun status w => status.isError = false → w.inst.media.blockSize = sdBlockLengthBytes := by
    unfold initializeCard
    refine Triple.bind (Q := fun _ _ => True) (fun _ _ _ _ _ => trivial) fun function => ?_
    cases function with
    | sd =>
        exact Triple.orReturn_success (Triple.skip _) (Triple.orReturn_success (Triple.skip _)
          (Triple.orReturn_success (Triple.skip _) (Triple.orReturn_success (Triple.skip _)
          (Triple.orReturn_success hcsd (keepsBlockSize setUpSd_alone hsd recover)))))
    | mmc =>
        exact Triple.orReturn_success (Triple.skip _) (Triple.orReturn_success (Triple.skip _)
          (Triple.orReturn_success (Triple.skip _)
          (Triple.orReturn_success hcsd (keepsBlockSize setUpMmc_alone hmmc recover))))
    | _ => exact Triple.pure fun w _ hok => by cases hok
  unfold identifyDevice
  exact Triple.orReturn_success (Triple.skip _) (Triple.orReturn_success (Triple.skip _)
    (Triple.orReturn_success (Triple.skip _) (Triple.orReturn_success hcard
      (keepsBlockSize (.orReturn (sdhcSendCommand_alone _ _) (.const _ _)) hlength recover))))

lemma initializedBlockSize_install (p : Interface) {w : World H B}
    (h : InitializedBlockSize w) : InitializedBlockSize (afterInstall boot p w).2 := by
  unfold afterInstall
  simp only
  split
  · exact h
  · cases p <;> exact h

/-- `SoftReset` leaves no initialised slot without a block size. -/
lemma initializedBlockSize_resetInvariant :
    ResetInvariant host boot InitializedBlockSize
      fun w => w.inst.media.blockSize = sdBlockLengthBytes where
  bus _ _ hstep hw := (DeviceStep.bus hstep).initializedBlockSize hw
  enterRecovery _ _ hw := hw
  leaveRecovery _ hw := hw
  softReset _ hw := hw
  uninstall p w _ hw := by
    unfold afterUninstall
    simp only
    split
    · exact hw
    · cases p <;> exact hw
  cleared _ _ _ hslot := by cases hslot
  mediaPresent _ _ _ _ hw := hw
  readOnly _ _ hw := hw
  identify n hrec :=
    (identifyDevice_built.preserves
      (fun w w' (hstep : DeviceStep host w w') hw => hstep.initializedBlockSize hw) hrec).and
      ((identifyDevice_blockSize _).strengthen fun _ _ => trivial)
  initialized _ hsize _ := ⟨hsize, fun _ => hsize⟩
  convert _ hw := hw
  ready_convert _ hw := hw
  installBlockIo _ _ hw := initializedBlockSize_install .blockIo hw
  installDevicePath _ hw := initializedBlockSize_install .devicePath hw
  ready_install p w hw := by
    unfold afterInstall
    simp only
    split
    · exact hw
    · cases p <;> exact hw
  installRpmb w _ _ _ _ hw := by
    have hinstall := @initializedBlockSize_install H B boot .rpmbIo w hw
    unfold afterPublishRpmb
    simp only
    split
    · exact hinstall
    · exact hinstall

lemma sdhcSendDataCommand_initializedBlockSize {cmd : SdCommand} {arg : BitVec 32}
    (h : ¬ SetsPartition cmd arg) (size : ℕ) (buffer : Buffer) :
    Preserves (InitializedBlockSize (H := H) (B := B))
      (sdhcSendDataCommand host (recovery host boot) cmd arg size buffer) := by
  refine (sdhcSendDataCommand_built h size buffer).preserves (fun w w' hstep hw => ?_)
    initializedBlockSize_resetInvariant.preserves_recovery
  rw [InitializedBlockSize, hstep.sameSlot.slotInitialized, hstep.sameSlot.blockSize]
  exact hw

/-! ## A transfer on its card -/

/-- The card a caller means is in the slot and ready. -/
structure OnCard (mediaId : UInt32) (w : World H B) : Prop where
  mediaPresent : w.inst.media.mediaPresent = true
  slotInitialized : w.inst.slotInitialized = true
  cardFunction : w.inst.cardFunction = .sd ∨ w.inst.cardFunction = .mmc
  mediaId : w.inst.media.mediaId = mediaId

lemma OnCard.sameSlot {mediaId : UInt32} {w w' : World H B} (h : OnCard mediaId w)
    (hs : w.SameSlot w') : OnCard mediaId w' where
  mediaPresent := hs.mediaPresent.trans h.mediaPresent
  slotInitialized := hs.slotInitialized.trans h.slotInitialized
  cardFunction := by
    rw [hs.cardFunction]
    exact h.cardFunction
  mediaId := hs.mediaId.trans h.mediaId

section Call

variable (host : SdhcHost H) (boot : BootServices B) (r : IoRequest) (w : World H B)

/-- The attempts of a call of `IoBlocks` on an instance. -/
def blockAttempts : System (ChunkAttempt (World H B)) Unit :=
  ioAttempts (blockPath host boot w.inst.hostCapabilities) r w

/-- The status of an attempt, and the world after it. -/
def blockOutcome (a : ChunkAttempt (World H B)) : EfiStatus × World H B :=
  a.outcome (blockPath host boot w.inst.hostCapabilities) (r.command w.inst.media)
    (maxTransferSize (blockPath host boot w.inst.hostCapabilities) w)

/-- The attempt after an attempt. -/
def blockNext (a : ChunkAttempt (World H B)) : Option (ChunkAttempt (World H B)) :=
  a.next (blockPath host boot w.inst.hostCapabilities) (r.command w.inst.media)
    (maxTransferSize (blockPath host boot w.inst.hostCapabilities) w)

/-- The chunk advance comes behind an attempt. -/
def BlockAdvances (a : ChunkAttempt (World H B)) : Prop :=
  a.EndsChunk (blockPath host boot w.inst.hostCapabilities) (r.command w.inst.media)
    (maxTransferSize (blockPath host boot w.inst.hostCapabilities) w)

/-- A transfer does not cross a media change: the request divides by no block size of zero, every
data command is sent from the card the caller means, a chunk advance divides by 512, and an attempt
after which the card is not there any more is the last, and the call returns an error. -/
structure StaysOnCard : Prop where
  divides : checkRequest w.inst.media r ≠ none
  sent : ∀ a, (blockAttempts host boot r w).Reachable a → OnCard r.mediaId a.state
  advances : ∀ a, (blockAttempts host boot r w).Reachable a → BlockAdvances host boot r w a →
    (blockOutcome host boot r w a).2.inst.media.blockSize = sdBlockLengthBytes
  stops : ∀ a, (blockAttempts host boot r w).Reachable a →
    ¬ OnCard r.mediaId (blockOutcome host boot r w a).2 →
      blockNext host boot r w a = none ∧
      ∃ status, (ioBlocks (blockPath host boot w.inst.hostCapabilities) r w).1 = some status ∧
        status.isError = true

/-- The request passes the checks that come before the first division. -/
def IoRequest.PassesChecks (r : IoRequest) (m : EfiBlockIoMedia) : Prop :=
  m.mediaId = r.mediaId ∧ r.buffer ≠ 0 ∧ m.mediaPresent = true ∧ r.bufferSize ≠ 0 ∧
    ¬ (r.transferDirection = .write ∧ m.readOnly = true)

/-- The card is ready when the call is made, and where a reset runs in an attempt, the card is ready
again before the next data command, and has a block size if the chunk advance comes next. -/
structure ResetsKeepCard : Prop where
  divides : r.PassesChecks w.inst.media → w.inst.media.blockSize ≠ 0
  entry : r.Sends w.inst.media → OnCard r.mediaId w
  next : ∀ a a', (blockAttempts host boot r w).Reachable a →
    PerformsReset a.state.toController (blockOutcome host boot r w a).2.toController →
    blockNext host boot r w a = some a' → OnCard r.mediaId a'.state
  advance : ∀ a, (blockAttempts host boot r w).Reachable a →
    PerformsReset a.state.toController (blockOutcome host boot r w a).2.toController →
    BlockAdvances host boot r w a →
    (blockOutcome host boot r w a).2.inst.media.blockSize = sdBlockLengthBytes

end Call

lemma checkRequest_eq_none_iff {m : EfiBlockIoMedia} {r : IoRequest} :
    checkRequest m r = none ↔ r.PassesChecks m ∧ m.blockSize = 0 := by
  have hanswer := checkRequest_answer m.toMediaRecord r
  rw [IoRequest.PassesChecks]
  generalize checkRequest m.toMediaRecord r = answer at hanswer ⊢
  cases hanswer with
  | refused _ hcause =>
      refine iff_of_false (by simp) ?_
      rintro ⟨⟨hid, hbuffer, hpresent, -, hwrite⟩, hblock⟩
      rcases hcause with hother | hnull | habsent | hprotected | hdivides
      · exact hother hid
      · exact hbuffer hnull
      · rw [hpresent] at habsent
        cases habsent
      · exact hwrite hprotected
      · exact hdivides hblock
  | empty hsize => exact iff_of_false (by simp) fun h => h.1.2.2.2.1 hsize
  | divides hid hbuffer hpresent hsize hwrite hblock =>
      exact iff_of_true rfl ⟨⟨hid, hbuffer, hpresent, hsize, hwrite⟩, hblock⟩
  | accepted _ _ _ hblock => exact iff_of_false (by simp) fun h => hblock h.2

section Theorem

variable {r : IoRequest} {w : World H B} {a : ChunkAttempt (World H B)}

lemma blockOutcome_apply (a : ChunkAttempt (World H B)) :
    sdhcSendDataCommand host (recovery host boot) (r.command w.inst.media)
        (.ofNat 32 a.cursor.currentLba)
        (a.cursor.size (maxTransferSize (blockPath host boot w.inst.hostCapabilities) w))
        (.caller a.cursor.currentBuffer) a.state =
      some ((blockOutcome host boot r w a).1, (blockOutcome host boot r w a).2) :=
  blockPath_apply w.inst.hostCapabilities _ _ _ _ _

lemma blockAttempts_first (h : r.Sends w.inst.media) :
    (blockAttempts host boot r w).Reachable (firstAttempt r w) :=
  .init ⟨h, rfl⟩

lemma blockAttempts_step {a' : ChunkAttempt (World H B)} (h : blockNext host boot r w a = some a') :
    (blockAttempts host boot r w).Step a () a' := h

lemma blockOutcome_keepsSlot (a : ChunkAttempt (World H B)) :
    a.state.SameSlot (blockOutcome host boot r w a).2 ∨
      PerformsReset a.state.toController (blockOutcome host boot r w a).2.toController :=
  sdhcSendDataCommand_keepsSlot (not_setsPartition (ioBlocksCommand_ne_switch _ _) _)
    (blockOutcome_apply a)

lemma blockOutcome_sameSlot (h : (blockOutcome host boot r w a).1.isError = false) :
    a.state.SameSlot (blockOutcome host boot r w a).2 :=
  sdhcSendDataCommand_sameSlot (not_setsPartition (ioBlocksCommand_ne_switch _ _) _)
    (blockOutcome_apply a) h

lemma blockOutcome_initializedBlockSize (h : InitializedBlockSize a.state) :
    InitializedBlockSize (blockOutcome host boot r w a).2 :=
  sdhcSendDataCommand_initializedBlockSize (not_setsPartition (ioBlocksCommand_ne_switch _ _) _)
    _ _ _ h _ _ (blockOutcome_apply a)

/-- Where the resets keep the card, every data command is sent from it. -/
lemma ResetsKeepCard.onCard (h : ResetsKeepCard host boot r w)
    (ha : (blockAttempts host boot r w).Reachable a) :
    OnCard r.mediaId a.state ∧ InitializedBlockSize a.state := by
  -- the condition speaks about reachable attempts, so they are part of the invariant
  have hall := ha.invariant (P := fun a => (blockAttempts host boot r w).Reachable a ∧
    OnCard r.mediaId a.state ∧ InitializedBlockSize a.state) ?_ ?_
  · exact hall.2
  · rintro a ⟨hsends, rfl⟩
    refine ⟨.init ⟨hsends, rfl⟩, h.entry hsends, fun _ => ?_⟩
    obtain ⟨-, -, hsize, -⟩ := checkRequest_eq_ok hsends.1
    exact (EfiBlockIoMedia.blockSize_eq _).resolve_left hsize
  · rintro a u a' ⟨ha, hcard, hsize⟩ hstep
    have hnext : blockNext host boot r w a = some a' := hstep
    have hstate : a'.state = (blockOutcome host boot r w a).2 := ChunkAttempt.next_state hnext
    refine ⟨ha.step hstep, ?_, ?_⟩
    · rcases @blockOutcome_keepsSlot H B host boot r w a with hsame | hreset
      · rw [hstate]
        exact hcard.sameSlot hsame
      · exact h.next a a' ha hreset hnext
    · rw [hstate]
      exact blockOutcome_initializedBlockSize hsize

/-- Every transfer stays on its card exactly if the resets in it keep the card. -/
theorem staysOnCard_iff (host : SdhcHost H) (boot : BootServices B) (r : IoRequest)
    (w : World H B) : StaysOnCard host boot r w ↔ ResetsKeepCard host boot r w := by
  constructor
  · intro h
    refine ⟨fun hpasses hzero => h.divides (checkRequest_eq_none_iff.mpr ⟨hpasses, hzero⟩),
      fun hsends => h.sent _ (blockAttempts_first hsends), fun a a' ha _ hnext => ?_,
      fun a ha _ hends => h.advances a ha hends⟩
    exact h.sent a' (ha.step (blockAttempts_step hnext))
  · intro h
    refine ⟨fun hnone => ?_, fun a ha => (h.onCard ha).1, fun a ha hends => ?_, fun a ha hgone => ?_⟩
    · obtain ⟨hpasses, hzero⟩ := checkRequest_eq_none_iff.mp hnone
      exact h.divides hpasses hzero
    · rcases @blockOutcome_keepsSlot H B host boot r w a with hsame | hreset
      · obtain ⟨hcard, hsize⟩ := h.onCard ha
        exact hsame.blockSize.trans (hsize hcard.slotInitialized)
      · exact h.advance a ha hreset hends
    · have hreset : PerformsReset a.state.toController
          (blockOutcome host boot r w a).2.toController :=
        blockOutcome_keepsSlot a |>.resolve_left fun hsame => hgone ((h.onCard ha).1.sameSlot hsame)
      have hlast : blockNext host boot r w a = none := by
        by_contra hne
        obtain ⟨a', hnext⟩ := Option.ne_none_iff_exists'.mp hne
        have hcard := h.next a a' ha hreset hnext
        rw [ChunkAttempt.next_state hnext] at hcard
        exact hgone hcard
      have herr : (blockOutcome host boot r w a).1.isError = true := by
        by_contra hok
        exact hgone ((h.onCard ha).1.sameSlot (blockOutcome_sameSlot (by simpa using hok)))
      have hends : BlockAdvances host boot r w a := by
        by_contra hretry
        unfold BlockAdvances at hretry
        rw [blockNext, ChunkAttempt.next, if_neg hretry] at hlast
        cases hlast
      have hsize := h.advance a ha hreset hends
      refine ⟨hlast, (blockOutcome host boot r w a).1, ?_, herr⟩
      rw [ioBlocks_of_last ha (fun hzero => ?_) hlast]
      · rfl
      · exact absurd (hsize.symm.trans hzero) (by decide)

end Theorem

end Slot

/-! ## A card that is pulled out -/

/-- A card that is pulled out while a block is read, in a host that does not reset its CMD line
then. -/
def pulledCard : Script :=
  { Script.quiet true with fails := (21 ≤ ·), resetFails := (22 ≤ ·), present := (· < 22) }

lemma pulledRun : (scriptedRun pulledCard [.start 7 1]).isSome = true := by decide +kernel

/-- The pool after the driver was started on the card. -/
def pulledPool : Pool ScriptedCard (ℕ × List Published) :=
  (scriptedRun pulledCard [.start 7 1]).get pulledRun

lemma pulledPool_live : (pulledPool.live 1).isSome = true := by decide +kernel

/-- A call on the card. -/
def pulledWorld : World ScriptedCard (ℕ × List Published) :=
  pulledPool.world ((pulledPool.live 1).get pulledPool_live)

/-- One block is read. -/
def pulledRequest : IoRequest := ⟨.read, 9, 0, 512, 0x3000⟩

/-- The request is sent, by an instance that is published. -/
lemma pulledRequest_sends : pulledRequest.Sends pulledWorld.inst.media ∧
    ((pulledPool.live 1).get pulledPool_live).inst.blockIoProtocolInstalled = true := by
  decide +kernel

/-- There is another attempt, without a card. -/
lemma pulledNext_absent : (blockNext (scriptedHost pulledCard) (scriptedBoot pulledCard)
    pulledRequest pulledWorld (firstAttempt pulledRequest pulledWorld)).map
      (·.state.inst.media.mediaPresent) = some false := by
  decide +kernel

/-- The block is asked for again when the reset has found the slot empty. -/
theorem not_staysOnCard_pulledCard :
    ¬ ∀ p, (scriptedSystem pulledCard).Reachable p → ∀ a c, p.live a = some c →
      c.inst.blockIoProtocolInstalled = true → ∀ r,
        StaysOnCard (scriptedHost pulledCard) (scriptedBoot pulledCard) r (p.world c) := by
  intro hall
  have hstays : StaysOnCard (scriptedHost pulledCard) (scriptedBoot pulledCard) pulledRequest
      pulledWorld :=
    hall pulledPool (scriptedRun_reachable pulledRun) 1 ((pulledPool.live 1).get pulledPool_live)
      (Option.some_get pulledPool_live).symm pulledRequest_sends.2 pulledRequest
  have hfirst : (blockAttempts (scriptedHost pulledCard) (scriptedBoot pulledCard) pulledRequest
      pulledWorld).Reachable (firstAttempt pulledRequest pulledWorld) :=
    blockAttempts_first pulledRequest_sends.1
  obtain ⟨next, hnext, habsent⟩ := Option.map_eq_some_iff.mp pulledNext_absent
  have hsent := hstays.sent _ (hfirst.step (blockAttempts_step hnext))
  exact absurd (habsent.symm.trans hsent.mediaPresent) (by decide)

end SdMmc
end MuPlatform
