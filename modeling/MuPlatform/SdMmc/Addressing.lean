import MuPlatform.SdMmc.Storage

/-!
# Block addressing

A card of high capacity takes the argument of a read or write command for the number of a block,
every other card for the address of a byte.  The driver learns which it is when it identifies the
card and notes it in `CardInfo.HighCapacity`; `IoBlocks` passes the block number to either.

An `AddressedCard` is a host controller with such a card behind it.  Data commands that succeed copy
bytes of the card (`sdhcSendDataCommand_moves`), so that a transfer without failures is one on
`storagePath` (`ioBlocks_simulates`); and `addressesBlocks_iff` says for which requests every card
is read and written where it should be.
-/

namespace MuPlatform
namespace SdMmc

open Prog

variable {H B : Type}

/-! ## Transfers without failures -/

section Simulation

variable {σ : Type*} {d : DataPath σ} {r : IoRequest} {s₀ : σ} {m : MediaRecord} {sector : Bool}

/-- Every data command of a call of `IoBlocks` succeeds. -/
def FaultFree (d : DataPath σ) (r : IoRequest) (s : σ) : Prop :=
  ∀ a, (ioAttempts d r s).Reachable a →
    (a.outcome d (r.command (d.media s)) (maxTransferSize d s)).1 = .success

/-- The data path works on a storage: a command that succeeds moves bytes, and the media record
stays as it is. -/
def WorksOn (sector : Bool) (d : DataPath σ) (m : MediaRecord) (cmd : SdCommand)
    (contents : σ → Storage) : Prop :=
  ∀ arg size buffer s, d.media s = m →
    (d.sdhcSendDataCommand cmd arg size buffer s).1 = .success →
    d.media (d.sdhcSendDataCommand cmd arg size buffer s).2 = m ∧
      contents (d.sdhcSendDataCommand cmd arg size buffer s).2 =
        (contents s).move cmd.transferDirection (bytePosition sector (arg % 2 ^ 32)) buffer size

variable {contents : σ → Storage}

/-- The chunk loop of a transfer without failures is that on the storage. -/
lemma transferChunks_simulates (hblock : m.blockSize ≠ 0)
    (hworks : WorksOn sector d m (r.command (d.media s₀)) contents) (hfree : FaultFree d r s₀)
    (bound : ℕ) :
    ∀ (c : Cursor) (status : Option EfiStatus) (s : σ), d.media s = m →
      (c.bytesRemaining ≠ 0 →
        (ioAttempts d r s₀).Reachable ⟨c, dataCommandRetryCount - 1, s⟩) →
      ∃ result s', transferChunks d (r.command (d.media s₀)) (maxTransferSize d s₀) bound c status
          s = (result, s') ∧ d.media s' = m ∧
        transferChunks (storagePath sector d.hostCapabilities m) (r.command (d.media s₀))
          (maxTransferSize d s₀) bound c status (contents s) = (result, contents s') := by
  induction bound with
  | zero =>
      intro c status s hmedia _
      by_cases hc : c.bytesRemaining = 0
      · exact ⟨status, s, by rw [transferChunks, if_pos hc], hmedia,
          by rw [transferChunks, if_pos hc]⟩
      · exact ⟨none, s, by rw [transferChunks, if_neg hc], hmedia,
          by rw [transferChunks, if_neg hc]⟩
  | succ bound ih =>
      intro c status s hmedia hreach
      by_cases hc : c.bytesRemaining = 0
      · exact ⟨status, s, by rw [transferChunks, if_pos hc], hmedia,
          by rw [transferChunks, if_pos hc]⟩
      set a : ChunkAttempt σ := ⟨c, dataCommandRetryCount - 1, s⟩ with ha
      set a' : ChunkAttempt Storage := ⟨c, dataCommandRetryCount - 1, contents s⟩ with ha'
      have hok := hfree a (hreach hc)
      obtain ⟨hmedia', hmoved⟩ := hworks c.currentLba (c.size (maxTransferSize d s₀))
        c.currentBuffer s hmedia hok
      have hends : a.EndsChunk d (r.command (d.media s₀)) (maxTransferSize d s₀) := fun h => by
        rw [hok] at h
        exact Bool.false_ne_true h.1
      have hends' : a'.EndsChunk (storagePath sector d.hostCapabilities m) (r.command (d.media s₀))
        (maxTransferSize d s₀) := fun h => Bool.false_ne_true h.1
      have hsize : a.blockSize d (r.command (d.media s₀)) (maxTransferSize d s₀) = m.blockSize :=
        congrArg MediaRecord.blockSize hmedia'
      have hsize' : a'.blockSize (storagePath sector d.hostCapabilities m) (r.command (d.media s₀))
        (maxTransferSize d s₀) = m.blockSize := rfl
      have hrun := ih (c.advance (maxTransferSize d s₀) m.blockSize) (some .success)
        (a.outcome d (r.command (d.media s₀)) (maxTransferSize d s₀)).2 hmedia' fun hleft => by
          refine (hreach hc).step (i := ()) ?_
          show a.next d (r.command (d.media s₀)) (maxTransferSize d s₀) = some _
          rw [ChunkAttempt.next, if_pos hends, hsize, if_neg (not_or.mpr ⟨hblock, hleft⟩)]
      obtain ⟨result, s', hrun, hmedia'', hrun'⟩ := hrun
      refine ⟨result, s', ?_, hmedia'', ?_⟩
      · rw [ChunkAttempt.transferChunks_succ hc, ChunkAttempt.finish_chunk hends (hsize ▸ hblock),
          hsize, hok]
        exact hrun
      · rw [ChunkAttempt.transferChunks_succ hc, ChunkAttempt.finish_chunk hends' (hsize' ▸ hblock),
          hsize']
        rw [show (contents (a.outcome d (r.command (d.media s₀)) (maxTransferSize d s₀)).2) = _
          from hmoved] at hrun'
        exact hrun'

/-- A call of `IoBlocks` without failures is a call on the storage. -/
theorem ioBlocks_simulates (hmedia : d.media s₀ = m) {cmd : SdCommand}
    (haccept : checkRequest m r = some (.ok cmd))
    (hworks : WorksOn sector d m cmd contents) (hfree : FaultFree d r s₀) :
    ∃ result s', ioBlocks d r s₀ = (result, s') ∧ d.media s' = m ∧
      ioBlocks (storagePath sector d.hostCapabilities m) r (contents s₀) = (result, contents s') := by
  subst hmedia
  obtain ⟨-, -, hblock, -⟩ := checkRequest_eq_ok haccept
  obtain rfl := checkRequest_command haccept
  obtain ⟨result, s', hrun, hmedia', hrun'⟩ := transferChunks_simulates hblock hworks hfree
    (r.bufferSize % 2 ^ 32) ⟨r.bufferSize % 2 ^ 32, r.lba % 2 ^ 32, r.buffer⟩ none s₀ rfl
    fun hne => .init ⟨⟨haccept, hne⟩, rfl⟩
  refine ⟨result, s', ?_, hmedia', ?_⟩
  · unfold ioBlocks
    rw [haccept]
    exact hrun
  · unfold ioBlocks
    rw [show (storagePath sector d.hostCapabilities (d.media s₀)).media (contents s₀) = d.media s₀
      from rfl, haccept]
    exact hrun'

end Simulation

/-! ## A card behind the host controller -/

/-- The commands of a block transfer, with its end. -/
def transferCommands : List SdCommand :=
  [cmdReadSingleBlock, cmdReadMultiBlock, cmdWriteSingleBlock, cmdWriteMultiBlock,
    cmdStopTransmission, cmdSendStatus]

/-- A host controller with a card behind it.  Commands change nothing on the card; a command for
blocks that succeeds says where the next data phase starts, and a data phase that succeeds copies
bytes from there or to there. -/
structure AddressedCard (host : SdhcHost H) (sector : Bool) where
  bytes : H → ByteStore
  position : H → ℕ
  bytes_sendCommand : ∀ cmd ∈ transferCommands, ∀ arg xfrInfo h,
    bytes (host.sendCommand cmd arg xfrInfo h).2 = bytes h
  bytes_receiveResponse : ∀ cmd response h,
    bytes (host.receiveResponse cmd response h).2.2 = bytes h
  position_sendCommand : ∀ direction blockCount arg xfrInfo h,
    (host.sendCommand (ioBlocksCommand direction blockCount) arg xfrInfo h).1.isError = false →
    position (host.sendCommand (ioBlocksCommand direction blockCount) arg xfrInfo h).2 =
      bytePosition sector arg.toNat
  position_receiveResponse : ∀ cmd response h,
    position (host.receiveResponse cmd response h).2.2 = position h
  readBlockData : ∀ size h, (host.readBlockData size h).1.isError = false →
    bytes (host.readBlockData size h).2.2 = bytes h ∧
      ∀ i, i < size → (host.readBlockData size h).2.1 i = bytes h (position h + i)
  writeBlockData : ∀ size data h, (host.writeBlockData size data h).1.isError = false →
    bytes (host.writeBlockData size data h).2 = (bytes h).blit (position h) data 0 size

namespace AddressedCard

variable {host : SdhcHost H} {sector : Bool} (card : AddressedCard host sector)

/-- The contents of the card and the memory of the callers. -/
def storage (w : World H B) : Storage := ⟨card.bytes w.host, w.callerMemory⟩

/-- Storage and media record are the same. -/
structure Same (w w' : World H B) : Prop where
  storage : card.storage w' = card.storage w
  media : w'.inst.media = w.inst.media

variable {card}

lemma Same.refl (w : World H B) : card.Same w w := ⟨rfl, rfl⟩

lemma mem_transferCommands (direction : SdTransferDirection) (blockCount : ℕ) :
    ioBlocksCommand direction blockCount ∈ transferCommands := by
  unfold ioBlocksCommand
  split_ifs <;> decide

lemma cmdClass_of_mem {cmd : SdCommand} (h : cmd ∈ transferCommands) : cmd.cmdClass ≠ .app := by
  simp only [transferCommands, List.mem_cons, List.not_mem_nil, or_false] at h
  rcases h with rfl | rfl | rfl | rfl | rfl | rfl <;> decide

/-- The host after the exchange of a command: the command, and its response if it succeeded. -/
lemma afterCommand_host {cmd : SdCommand} (h : cmd ∈ transferCommands) (arg : BitVec 32)
    (xfrInfo : Option SdCommandXfrInfo) (w : World H B) :
    (afterCommand host cmd arg xfrInfo w).2.host =
      if (host.sendCommand cmd arg xfrInfo w.host).1.isError then
        (host.sendCommand cmd arg xfrInfo w.host).2
      else (host.receiveResponse cmd w.inst.cmdResponse
        (host.sendCommand cmd arg xfrInfo w.host).2).2.2 := by
  have hclass := cmdClass_of_mem h
  unfold afterCommand sdhcSendCommandHelper hostExchange
  simp only [hclass, if_false]
  split_ifs <;> simp_all [EfiStatus.isError]

/-- A command that failed is reported. -/
lemma sendCommand_isError {cmd : SdCommand} (h : cmd ∈ transferCommands) (arg : BitVec 32)
    (xfrInfo : Option SdCommandXfrInfo) (w : World H B)
    (hok : (afterCommand host cmd arg xfrInfo w).1.isError = false) :
    (host.sendCommand cmd arg xfrInfo w.host).1.isError = false := by
  by_contra herr
  have hclass := cmdClass_of_mem h
  rw [Bool.not_eq_false] at herr
  have hx : (hostExchange host.toSdhcProtocol cmd arg xfrInfo w.inst.toSdhcInstance w.host).1.isError =
      true := by
    unfold hostExchange
    simp only [hclass, if_false, show EfiStatus.success.isError = false from rfl,
      Bool.false_eq_true, herr, if_true]
  have hfail := (sdhcSendCommandHelper_of_exchange_error hx).1
  exact Bool.false_ne_true (hok.symm.trans hfail)

/-- A command of a transfer leaves the contents as they are. -/
lemma same_afterCommand {cmd : SdCommand} (h : cmd ∈ transferCommands) (arg : BitVec 32)
    (xfrInfo : Option SdCommandXfrInfo) (w : World H B) :
    card.Same w (afterCommand host cmd arg xfrInfo w).2 := by
  have hbytes : card.bytes (afterCommand host cmd arg xfrInfo w).2.host = card.bytes w.host := by
    rw [afterCommand_host h]
    split
    · exact card.bytes_sendCommand cmd h arg xfrInfo w.host
    · rw [card.bytes_receiveResponse, card.bytes_sendCommand cmd h arg xfrInfo w.host]
  exact ⟨congrArg (Storage.mk · w.callerMemory) hbytes, rfl⟩

/-! ### Data commands -/

/-- Waiting for the card. -/
lemma wait_same : Built (card.Same (B := B)) (sdhcWaitForTranStateAndReadyForData host) := by
  refine sdhcWaitForTranStateAndReadyForData_polls.mono fun w w' h => ?_
  cases h with
  | stay => exact Same.refl w
  | status arg => exact same_afterCommand (by decide) arg none w

/-- Stopping a transfer. -/
lemma stopOpenEnded_same (cmd : SdCommand) :
    Built (card.Same (B := B)) fun recover => stopOpenEnded host recover cmd := by
  have hread {α : Type} (f : HostInst → α) : Built (card.Same (B := B))
      fun _ : SdCommand → Prog (World H B) EfiStatus => inspect f := .read fun w => Same.refl w
  have hstop : Built (card.Same (B := B)) (sdhcStopTransmission host) := by
    unfold sdhcStopTransmission sdhcSendCommand sendOrRecover
    refine .bind (hread _) fun rca => .orReturn (.bind (.step fun w => ?_) fun status =>
      .ite (.bind (.call _) fun _ => .pure status) (.pure _)) (.ite (.orReturn wait_same (.pure _))
        (.pure _))
    exact same_afterCommand (by decide) _ none w
  unfold stopOpenEnded
  exact .ite (.bind (hread _) fun last => .bind (hread _) fun preLast => .ite hstop
    (.ite (.bind (.modify fun w => ⟨rfl, rfl⟩) fun _ => hstop) (.ite (.pure _) hstop))) (.pure _)

/-- The data phase behind a command that succeeded. -/
lemma transferData_moves {direction : SdTransferDirection} {blockCount size buffer position : ℕ}
    {s : Storage} {media : EfiBlockIoMedia} :
    Triple (fun w : World H B => card.storage w = s ∧ w.inst.media = media ∧
        card.position w.host = position)
      (transferData host (ioBlocksCommand direction blockCount) size (.caller buffer))
      fun status w => status.isError = false →
        card.storage w = s.move (ioBlocksCommand direction blockCount).transferDirection position
          buffer size ∧ w.inst.media = media := by
  unfold transferData Storage.move
  split
  · -- the bytes go to the memory of the caller
    refine Triple.step ?_
    rintro w ⟨rfl, rfl, rfl⟩ hok
    obtain ⟨hbytes, hdata⟩ := card.readBlockData size w.host hok
    refine ⟨?_, rfl⟩
    simp only [storage, World.store, hbytes, Storage.mk.injEq, true_and]
    funext x
    simp only [ByteStore.blit]
    split_ifs with hx
    · exact hdata (x - buffer) (by omega)
    · rfl
  · refine Triple.step ?_
    rintro w ⟨rfl, rfl, rfl⟩ hok
    refine ⟨?_, rfl⟩
    have hbytes := card.writeBlockData size (w.load (.caller buffer)) w.host hok
    simp only [storage, Storage.mk.injEq, and_true]
    rw [hbytes]
    funext x
    simp only [ByteStore.blit, World.load, Nat.zero_add]

/-- A data command that succeeds has moved its bytes and done nothing else. -/
theorem sdhcSendDataCommand_moves (boot : BootServices B) {direction : SdTransferDirection}
    {blockCount size buffer : ℕ} {arg : BitVec 32} (w₀ : World H B) :
    Triple (· = w₀) (sdhcSendDataCommand host (recovery host boot)
        (ioBlocksCommand direction blockCount) arg size (.caller buffer))
      fun status w => status.isError = false →
        card.storage w = (card.storage w₀).move
            (ioBlocksCommand direction blockCount).transferDirection (bytePosition sector arg.toNat)
            buffer size ∧ w.inst.media = w₀.inst.media := by
  have hmem := mem_transferCommands direction blockCount
  have hkeep {s : Storage} {media : EfiBlockIoMedia} (w w' : World H B) (h : card.Same w w')
      (hw : card.storage w = s ∧ w.inst.media = media) :
      card.storage w' = s ∧ w'.inst.media = media :=
    ⟨h.storage.trans hw.1, h.media.trans hw.2⟩
  unfold sdhcSendDataCommand
  refine Triple.bind (Triple.orReturn_success (R := fun w => card.storage w = card.storage w₀ ∧
      w.inst.media = w₀.inst.media ∧ card.position w.host = bytePosition sector arg.toNat) ?_
    (Triple.orReturn_success transferData_moves (Triple.orReturn_success
      ((stopOpenEnded_alone _).triple (stopOpenEnded_same _) hkeep _)
      (sdhcWaitForTranStateAndReadyForData_alone.triple wait_same hkeep _)))) fun status => ?_
  · -- the command
    refine Triple.step ?_
    rintro w rfl hok
    have hsent := sendCommand_isError hmem arg _ w hok
    have hsame : card.Same w _ := same_afterCommand hmem arg
      (some ⟨.ofNat sdBlockLengthBytes, .ofNat (size / sdBlockLengthBytes), buffer⟩) w
    refine ⟨hsame.storage, hsame.media, ?_⟩
    rw [afterCommand_host hmem, if_neg (by simpa using hsent), card.position_receiveResponse]
    exact card.position_sendCommand direction blockCount arg _ w.host hsent
  · by_cases herr : status.isError = true
    · rw [if_pos herr]
      intro w _ status' w' hrun hok
      obtain ⟨_, _, -, hpure⟩ := bind_eq_some.mp hrun
      obtain ⟨rfl, -⟩ : status = status' ∧ _ := by simpa using hpure
      exact absurd (hok.symm.trans herr) Bool.false_ne_true
    · rw [if_neg herr]
      exact Triple.pure fun w hw => hw

end AddressedCard

/-! ## A card that works -/

/-- A card and where its next data phase starts. -/
structure PlainCard where
  contents : ByteStore
  next : ℕ

/-- A host controller with a card that is always ready in the transfer state. -/
def plainHost (sector : Bool) : SdhcHost PlainCard where
  capabilities := ⟨512, 8⟩
  cleanup c := c
  sendCommand _ arg _ c := (.success, { c with next := bytePosition sector arg.toNat })
  receiveResponse _ _ c := (.success, fun _ => 0x900, c)
  softwareReset _ c := (.success, c)
  setClock _ c := (.success, c)
  setBusWidth _ c := (.success, c)
  isCardPresent c := (true, c)
  isReadOnly c := (false, c)
  readBlockData _ c := (.success, fun i => c.contents (c.next + i), c)
  writeBlockData size data c := (.success, { c with contents := c.contents.blit c.next data 0 size })

/-- The card of the plain host. -/
def plainCard (sector : Bool) : AddressedCard (plainHost sector) sector where
  bytes := PlainCard.contents
  position := PlainCard.next
  bytes_sendCommand _ _ _ _ _ := rfl
  bytes_receiveResponse _ _ _ := rfl
  position_sendCommand _ _ _ _ _ _ := rfl
  position_receiveResponse _ _ _ := rfl
  readBlockData _ _ _ := ⟨rfl, fun _ _ => rfl⟩
  writeBlockData _ _ _ _ := rfl

lemma plainHost_ready (sector : Bool) : AlwaysReady (plainHost sector) where
  command_ok _ _ _ _ := rfl
  response_eq _ _ _ := ⟨rfl, rfl⟩
  read_ok _ _ := rfl
  write_ok _ _ _ := rfl

/-! ## Addressing blocks -/

/-- A call of `IoBlocks` on an instance. -/
def blockRun (host : SdhcHost H) (boot : BootServices B) (r : IoRequest) (w : World H B) :
    Option EfiStatus × World H B :=
  ioBlocks (blockPath host boot w.inst.hostCapabilities) r w

/-- The call sends its commands without a failure. -/
def BlockFaultFree (host : SdhcHost H) (boot : BootServices B) (r : IoRequest) (w : World H B) :
    Prop :=
  FaultFree (blockPath host boot w.inst.hostCapabilities) r w

/-- The request for the same span in the other direction, into another buffer. -/
def IoRequest.readBack (r : IoRequest) (buffer : ℕ) : IoRequest :=
  { r with transferDirection := .read, buffer := buffer }

/-- Blocks are addressed as the card takes them, for a request on cards of one kind: on every such
card a call without failures succeeds and reads or writes the blocks from `Lba` on and nothing else,
and what was written is read back. -/
def AddressesBlocks (sector : Bool) (caps : SdhcCapabilities) (m : EfiBlockIoMedia) (r : IoRequest) :
    Prop :=
  ∀ (H B : Type) (host : SdhcHost H) (boot : BootServices B) (card : AddressedCard host sector)
    (w : World H B), w.inst.media = m → w.inst.hostCapabilities = caps →
    w.inst.highCapacity = sector → BlockFaultFree host boot r w →
    (blockRun host boot r w).1 = some .success ∧
      card.storage (blockRun host boot r w).2 = r.moved (card.storage w) ∧
      ∀ buffer cmd, r.transferDirection ≠ .read →
        checkRequest m (r.readBack buffer) = some (.ok cmd) →
        BlockFaultFree host boot (r.readBack buffer) (blockRun host boot r w).2 →
        ∀ i, i < r.bufferSize →
          (blockRun host boot (r.readBack buffer) (blockRun host boot r w).2).2.callerMemory
            (buffer + i) = w.callerMemory (r.buffer + i)

section Theorem

variable {sector : Bool} {caps : SdhcCapabilities} {m : EfiBlockIoMedia} {r : IoRequest}
  {cmd : SdCommand} {host : SdhcHost H} {boot : BootServices B} {card : AddressedCard host sector}

/-- The data path of an instance works on the storage of its card. -/
lemma blockPath_worksOn (boot : BootServices B) (card : AddressedCard host sector)
    (caps : SdhcCapabilities) (m : MediaRecord) (direction : SdTransferDirection)
    (blockCount : ℕ) :
    WorksOn sector (blockPath host boot caps) m (ioBlocksCommand direction blockCount)
      card.storage := by
  intro arg size buffer w hmedia hok
  have hrun := @blockPath_apply H B host boot caps (ioBlocksCommand direction blockCount) arg size
    buffer w
  generalize (blockPath host boot caps).sdhcSendDataCommand (ioBlocksCommand direction blockCount) arg
    size buffer w = outcome at hrun hok ⊢
  obtain ⟨status, w'⟩ := outcome
  obtain rfl : status = .success := hok
  obtain ⟨hstorage, hsame⟩ :=
    AddressedCard.sdhcSendDataCommand_moves boot w w rfl _ w' hrun rfl
  exact ⟨(congrArg EfiBlockIoMedia.toMediaRecord hsame).trans hmedia, by simpa using hstorage⟩

/-- A call without failures is a call on the storage of the card. -/
lemma blockRun_simulates (card : AddressedCard host sector) {w : World H B}
    (hcaps : w.inst.hostCapabilities = caps) (hmedia : (w.inst.media : MediaRecord) = m)
    (haccept : checkRequest m r = some (.ok cmd)) (hfree : BlockFaultFree host boot r w) :
    ((blockRun host boot r w).2.inst.media : MediaRecord) = m ∧
      ioBlocks (storagePath sector caps m) r (card.storage w) =
        ((blockRun host boot r w).1, card.storage (blockRun host boot r w).2) := by
  have hworks := @blockPath_worksOn H B sector host boot card w.inst.hostCapabilities m
    r.transferDirection (r.bufferSize / m.blockSize % 2 ^ 32)
  obtain rfl := checkRequest_command haccept
  obtain ⟨result, w', hrun, hmedia', hrun'⟩ := ioBlocks_simulates hmedia haccept hworks hfree
  have hblock : blockRun host boot r w = (result, w') := hrun
  rw [hblock, ← hcaps]
  exact ⟨hmedia', hrun'⟩

/-- The host capabilities of an instance are those it was created with. -/
lemma blockRun_hostCapabilities (w : World H B) :
    (blockRun host boot r w).2.inst.hostCapabilities = w.inst.hostCapabilities := by
  have hlater := @ioBlocks_preserves _ (blockPath host boot w.inst.hostCapabilities) w.Later
    (fun cmd arg size buffer v hv => hv.trans
      ((sdhcSendDataCommand_request cmd _ size _).driver.later
        (blockPath_apply w.inst.hostCapabilities cmd arg size buffer v)))
    r w (.refl w)
  exact hlater.hostCapabilities

lemma SpanAddressed.addressesBlocks (hs : SpanAddressed sector caps r)
    (haccept : checkRequest m r = some (.ok cmd)) : AddressesBlocks sector caps m r := by
  have hblock : m.blockSize = sdBlockLengthBytes :=
    m.blockSize_eq.resolve_left (checkRequest_eq_ok haccept).2.2.1
  intro H B host boot card w hmedia hcaps _ hfree
  have hmedia' : (w.inst.media : MediaRecord) = m := congrArg EfiBlockIoMedia.toMediaRecord hmedia
  obtain ⟨hkept, hrun⟩ := blockRun_simulates card hcaps hmedia' haccept hfree
  have hmoved := hs.movesSpan hblock m.lastBlock_lt haccept (card.storage w)
  obtain ⟨hstatus, hstorage⟩ := Prod.mk.inj (hrun.symm.trans hmoved)
  refine ⟨hstatus, hstorage, fun buffer cmd' hwrite haccept' hfree' i hi => ?_⟩
  -- the read is for the same span, and so it is addressed as well
  have hs' : SpanAddressed sector caps (r.readBack buffer) := hs
  obtain ⟨-, hback⟩ := blockRun_simulates card ((blockRun_hostCapabilities w).trans hcaps) hkept
    haccept' hfree'
  have hmoved' := hs'.movesSpan hblock m.lastBlock_lt haccept'
    (card.storage (blockRun host boot r w).2)
  obtain ⟨-, hmemory⟩ := Prod.mk.inj (hback.symm.trans hmoved')
  have hread : (blockRun host boot (r.readBack buffer) (blockRun host boot r w).2).2.callerMemory =
      ((r.readBack buffer).moved (r.moved (card.storage w))).memory := by
    rw [← hstorage, ← hmemory]
    rfl
  rw [hread]
  simp only [IoRequest.moved, IoRequest.readBack, Storage.move, if_true, if_neg hwrite]
  rw [ByteStore.blit_apply_on hi, ByteStore.blit_apply_on hi]
  rfl

/-- A world with a plain card behind the host controller. -/
def plainWorld (sector : Bool) (caps : SdhcCapabilities) (m : EfiBlockIoMedia) (s : Storage) :
    World PlainCard (ℕ × List Published) where
  address := 0
  inst := { createSdhcInstance 0 caps with media := m, highCapacity := sector }
  trace := []
  resultRequest := fun _ => 0
  callerMemory := s.memory
  host := ⟨s.card, 0⟩
  boot := (0, [])

/-- Every transfer of a plain card is without failures. -/
lemma plainHost_faultFree (boot : BootServices B) (w : World PlainCard B) :
    BlockFaultFree (plainHost sector) boot r w := by
  intro a _
  have happly := @blockPath_apply PlainCard B (plainHost sector) boot w.inst.hostCapabilities
    (r.command w.inst.media) a.cursor.currentLba
    (a.cursor.size (maxTransferSize (blockPath (plainHost sector) boot w.inst.hostCapabilities) w))
    a.cursor.currentBuffer a.state
  obtain ⟨w', hrun⟩ := (plainHost_ready sector).sendDataCommand (r.command w.inst.media) _ _ _ a.state
  rw [hrun] at happly
  exact congrArg Prod.fst (Option.some.inj happly).symm

lemma AddressesBlocks.movesSpan (h : AddressesBlocks sector caps m r)
    (haccept : checkRequest m r = some (.ok cmd)) : MovesSpan sector caps m r := by
  intro s
  have hfree := @plainHost_faultFree _ sector r (scriptedBoot (.quiet true))
    (plainWorld sector caps m s)
  obtain ⟨hstatus, hstorage, -⟩ := h _ _ (plainHost sector) (scriptedBoot (.quiet true))
    (plainCard sector) (plainWorld sector caps m s) rfl rfl rfl hfree
  obtain ⟨-, hrun⟩ := blockRun_simulates (plainCard sector) (w := plainWorld sector caps m s) rfl rfl
    haccept hfree
  rw [hstatus, hstorage] at hrun
  exact hrun

/-- The blocks of an accepted request are addressed as every card of the kind takes them exactly if
`Lba` and `BufferSize` fit 32 bits, the host takes a block at a time at least, and the card has
sector addressing or the request is for one command from block 0 on. -/
theorem addressesBlocks_iff (haccept : checkRequest m r = some (.ok cmd)) :
    AddressesBlocks sector caps m r ↔
      r.lba < 2 ^ 32 ∧ r.bufferSize < 2 ^ 32 ∧ hostTransferSize caps ≠ 0 ∧
        (sector = true ∨ r.lba = 0 ∧ r.bufferSize ≤ hostTransferSize caps) := by
  have hblock : m.blockSize = sdBlockLengthBytes :=
    m.blockSize_eq.resolve_left (checkRequest_eq_ok haccept).2.2.1
  constructor
  · exact fun h => (h.movesSpan haccept).spanAddressed hblock haccept
  · exact fun h => SpanAddressed.addressesBlocks h haccept

end Theorem

/-! ## A card of standard capacity -/

/-- One block, from block 1 on. -/
def secondBlockRead : IoRequest := { twoBlockRead with lba := 1, bufferSize := 512 }

lemma secondBlockRead_accepted :
    checkRequest smallMedia secondBlockRead = some (.ok cmdReadSingleBlock) := by
  decide +kernel

theorem addressesBlocks_iff_secondBlockRead :
    AddressesBlocks true oneBlockHost smallMedia secondBlockRead ↔
      secondBlockRead.lba < 2 ^ 32 ∧ secondBlockRead.bufferSize < 2 ^ 32 ∧
        hostTransferSize oneBlockHost ≠ 0 ∧
        (true = true ∨ secondBlockRead.lba = 0 ∧
          secondBlockRead.bufferSize ≤ hostTransferSize oneBlockHost) :=
  @addressesBlocks_iff true oneBlockHost smallMedia secondBlockRead cmdReadSingleBlock
    secondBlockRead_accepted

/-- Block 1 of a card of standard capacity is read from byte 1 on. -/
theorem not_addressesBlocks_standardCapacity :
    ¬ AddressesBlocks false oneBlockHost smallMedia secondBlockRead := by
  intro h
  obtain ⟨-, -, -, hsector | ⟨hlba, -⟩⟩ :=
    (h.movesSpan secondBlockRead_accepted).spanAddressed rfl secondBlockRead_accepted
  · cases hsector
  · exact absurd hlba (by decide)

end SdMmc
end MuPlatform
