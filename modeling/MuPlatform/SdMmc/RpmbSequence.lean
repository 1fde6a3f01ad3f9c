import MuPlatform.SdMmc.ScriptedCard
import MuPlatform.SdMmc.Success

/-!
# The bus sequence of an RPMB request

A request that succeeds has sent, apart from the SEND_STATUS commands of the polling loops, exactly
the commands of the switch to the RPMB partition, of the packets, and of the switch back
(`rpmbIo_added`).  Every function is specified by what it adds to the visible part of the trace
where it succeeds (`Sent`); the STOP_TRANSMISSION decision enters through the last successful
command, which is SET_BLOCK_COUNT before each transfer.

`followsJedec_iff` compares that with the sequence of the standard: packet counts whose size does
not fit 32 bits are truncated, and the switch back restores what the driver has noted of
`PARTITION_CONFIG`, which is what the card had if the two agreed.
-/

namespace MuPlatform
namespace SdMmc

open Prog

variable {H B : Type} {host : SdhcHost H} {boot : BootServices B}

/-! ## The visible part of a trace -/

/-- The event is a SEND_STATUS command. -/
def Event.polls : Event → Bool
  | .command cmd _ _ _ => cmd = cmdSendStatus
  | _ => false

/-- The trace without the SEND_STATUS commands. -/
def visible (t : List Event) : List Event := t.filter fun e => !e.polls

/-- The `SD_COMMAND_XFR_INFO` of a data command. -/
def transferInfo (size : ℕ) (buffer : Buffer) : SdCommandXfrInfo :=
  ⟨.ofNat sdBlockLengthBytes, .ofNat (size / sdBlockLengthBytes), buffer.address⟩

/-- The events of an `EXT_CSD` read that succeeds. -/
def extCsdEvents (arg : BitVec 32) (reported : UInt8) : List Event :=
  [.command cmdSendExtCsdMmc arg (some (transferInfo sdBlockLengthBytes .blockBuffer)) true,
    .data .read sdBlockLengthBytes .blockBuffer true,
    .extCsd reported]

/-- The events of a partition switch that succeeds: the byte it writes, and the one it reads
back. -/
def switchEvents (arg : BitVec 32) (config reported : UInt8) : List Event :=
  .command cmdSwitchMmc (switchArg 179 config) none true :: extCsdEvents arg reported

/-- Some packets sent to the card: the count, and the packets. -/
def writeEvents (arg : BitVec 32) (size : ℕ) (buffer : Buffer) : List Event :=
  [.command cmdSetBlockCount arg none true,
    .command cmdWriteMultiBlock 0 (some (transferInfo size buffer)) true,
    .data .write size buffer true]

/-- Some packets read from the card. -/
def readEvents (arg : BitVec 32) (size : ℕ) (buffer : Buffer) : List Event :=
  [.command cmdSetBlockCount arg none true,
    .command cmdReadMultiBlock 0 (some (transferInfo size buffer)) true,
    .data .read size buffer true]

/-! ## What is sent -/

/-- What has been sent, the fixed packet, and the `PARTITION_CONFIG` the driver has noted. -/
structure Sent (L : List Event) (R : ByteStore) (config : UInt8) (w : World H B) : Prop where
  events : visible w.trace = L
  resultRequest : w.resultRequest = R
  config : w.inst.registers.partitionConfig = config

lemma visible_append (t t' : List Event) : visible (t ++ t') = visible t ++ visible t' :=
  List.filter_append ..

variable {L : List Event} {R : ByteStore} {config : UInt8}

lemma Sent.command {w : World H B} (h : Sent L R config w) {cmd : SdCommand}
    (happ : cmd.cmdClass ≠ .app) (hstatus : cmd ≠ cmdSendStatus) {arg : BitVec 32}
    {xfrInfo : Option SdCommandXfrInfo}
    (hok : (afterCommand host cmd arg xfrInfo w).1.isError = false) :
    Sent (L ++ [.command cmd arg xfrInfo true]) R config
      (afterCommand host cmd arg xfrInfo w).2 where
  events := by
    have htrace : (afterCommand host cmd arg xfrInfo w).2.trace = w.trace ++
      helperEvents host cmd arg xfrInfo w !(afterCommand host cmd arg xfrInfo w).1.isError := rfl
    rw [htrace, hok, helperEvents, if_neg happ, visible_append, h.events]
    simp [visible, Event.polls, hstatus]
  resultRequest := h.resultRequest
  config := h.config

lemma Sent.poll {w w' : World H B} (hstep : PollStep host w w') (h : Sent L R config w) :
    Sent L R config w' := by
  cases hstep with
  | stay => exact h
  | status arg =>
      refine ⟨?_, h.resultRequest, h.config⟩
      have htrace : (afterCommand host cmdSendStatus arg none w).2.trace = w.trace ++
        [.command cmdSendStatus arg none
          !(afterCommand host cmdSendStatus arg none w).1.isError] := rfl
      rw [htrace, visible_append, h.events]
      simp [visible, Event.polls]

/-- A command that succeeds is the last one that did, and the last one before it is remembered. -/
lemma afterCommand_history {cmd : SdCommand} {arg : BitVec 32}
    {xfrInfo : Option SdCommandXfrInfo} {w : World H B}
    (hok : (afterCommand host cmd arg xfrInfo w).1.isError = false) :
    (afterCommand host cmd arg xfrInfo w).2.inst.lastSuccessfulCmd = some cmd ∧
      (afterCommand host cmd arg xfrInfo w).2.inst.preLastSuccessfulCmd =
        w.inst.lastSuccessfulCmd := by
  unfold afterCommand sdhcSendCommandHelper at hok ⊢
  simp only at hok ⊢
  split_ifs at hok ⊢ with herr hcard
  · exact absurd hok (by simpa using herr)
  · cases hok
  · exact ⟨rfl, rfl⟩

/-! ## Commands -/

section Commands

variable {recover : SdCommand → Prog (World H B) EfiStatus} {P Q : World H B → Prop}

lemma sendOrRecover_success {cmd : SdCommand} {arg : BitVec 32}
    (hcmd : ∀ w, P w → (afterCommand host cmd arg none w).1.isError = false →
      Q (afterCommand host cmd arg none w).2) :
    Triple P (sendOrRecover host recover cmd arg) fun status w => status.isError = false → Q w := by
  unfold sendOrRecover
  refine Triple.bind (Q := fun status w => status.isError = false → Q w) (Triple.step hcmd)
    fun status => ?_
  split
  · next herr =>
      refine Triple.bind (Q := fun _ _ => True) (fun _ _ _ _ _ => trivial) fun _ =>
        Triple.pure fun w _ hok => ?_
      rw [herr] at hok
      cases hok
  · next hok => exact Triple.pure fun w hw _ => hw (by simpa using hok)

lemma wait_success (hpoll : ∀ w w', PollStep host w w' → P w → P w') :
    Triple P (sdhcWaitForTranStateAndReadyForData host recover)
      fun status w => status.isError = false → P w :=
  sdhcWaitForTranStateAndReadyForData_alone.triple sdhcWaitForTranStateAndReadyForData_polls hpoll
    recover

/-- A data command that succeeds, from what its command, its data phase and the decision to stop
establish where they succeed. -/
lemma sdhcSendDataCommand_success {S T : World H B → Prop} {cmd : SdCommand} {arg : BitVec 32}
    {size : ℕ} {buffer : Buffer}
    (hcmd : ∀ w, P w →
      (afterCommand host cmd arg (some (transferInfo size buffer)) w).1.isError = false →
      S (afterCommand host cmd arg (some (transferInfo size buffer)) w).2)
    (hdata : Triple S (transferData host cmd size buffer)
      fun status w => status.isError = false → T w)
    (hstop : Triple T (stopOpenEnded host recover cmd)
      fun status w => status.isError = false → Q w)
    (hpoll : ∀ w w', PollStep host w w' → Q w → Q w') :
    Triple P (sdhcSendDataCommand host recover cmd arg size buffer)
      fun status w => status.isError = false → Q w := by
  unfold sdhcSendDataCommand
  refine Triple.bind (Q := fun (status : EfiStatus) w => status.isError = false → Q w)
    (Triple.orReturn_success (Triple.step hcmd) (Triple.orReturn_success hdata
      (Triple.orReturn_success hstop (wait_success hpoll)))) fun status => ?_
  split
  · next herr =>
      refine Triple.bind (Q := fun _ _ => True) (fun _ _ _ _ _ => trivial) fun _ =>
        Triple.pure fun w _ hok => ?_
      rw [herr] at hok
      cases hok
  · exact Triple.pure fun w hw => hw

/-! ## Packets -/

lemma sdhcSetBlockCount_success (count : BitVec 32) (reliable : Bool) :
    Triple (Sent (H := H) (B := B) L R config) (sdhcSetBlockCount host recover count reliable)
      fun status w => status.isError = false →
        Sent (L ++ [.command cmdSetBlockCount (if reliable then count ||| 0x80000000 else count)
          none true]) R config w ∧ w.inst.lastSuccessfulCmd = some cmdSetBlockCount := by
  unfold sdhcSetBlockCount sdhcSendCommand
  rw [if_neg (show ¬ (cmdSetBlockCount = cmdSwitchMmc ∨ cmdSetBlockCount = cmdSwitchSd) by decide)]
  exact Triple.orReturn_success (sendOrRecover_success fun w hw hok =>
    ⟨hw.command (by decide) (by decide) hok, (afterCommand_history hok).1⟩)
    (Triple.pure fun w hw _ => hw)

lemma Sent.data {w w' : World H B} (h : Sent L R config w) {direction : SdTransferDirection}
    {size : ℕ} {buffer : Buffer} {ok : Bool} (hok : ok = true)
    (ht : w'.trace = w.trace ++ [.data direction size buffer ok])
    (hR : w'.resultRequest = w.resultRequest) (hregisters : w'.inst.registers = w.inst.registers) :
    Sent (L ++ [.data direction size buffer true]) R config w' where
  events := by
    rw [ht, hok, visible_append, h.events]
    rfl
  resultRequest := hR.trans h.resultRequest
  config := by
    rw [hregisters]
    exact h.config

/-- A data phase that reads, into another buffer than the fixed packet. -/
lemma readBlockData_success {size : ℕ} {buffer : Buffer} (hbuffer : buffer ≠ .resultRequest)
    {C : World H B → Prop} (hC : ∀ w bytes h t, C w →
      C { w.store buffer size bytes with host := h, trace := t }) :
    Triple (fun w => Sent L R config w ∧ C w) (readBlockData host size buffer)
      fun status w => status.isError = false →
        Sent (L ++ [.data .read size buffer true]) R config w ∧ C w := by
  refine Triple.step fun w hw hok => ⟨hw.1.data (by simpa using hok) rfl ?_ ?_, hC w _ _ _ hw.2⟩
  · cases buffer with
    | resultRequest => exact absurd rfl hbuffer
    | _ => rfl
  · cases buffer <;> rfl

lemma writeBlockData_success {size : ℕ} {buffer : Buffer} {C : World H B → Prop}
    (hC : ∀ w h t, C w → C { w with host := h, trace := t }) :
    Triple (fun w => Sent L R config w ∧ C w) (writeBlockData host size buffer)
      fun status w => status.isError = false →
        Sent (L ++ [.data .write size buffer true]) R config w ∧ C w :=
  Triple.step fun w hw hok => ⟨hw.1.data (by simpa using hok) rfl rfl rfl, hC w _ _ hw.2⟩

/-- The last command is one for several blocks, and the one before it set their count. -/
def BlocksCounted (w : World H B) : Prop :=
  w.inst.lastSuccessfulCmd ≠ none ∧ w.inst.preLastSuccessfulCmd = some cmdSetBlockCount

/-- A transfer whose blocks have been counted is not stopped. -/
lemma stopOpenEnded_success (cmd : SdCommand) :
    Triple (fun w : World H B => Sent L R config w ∧ BlocksCounted w)
      (stopOpenEnded host recover cmd)
      fun status w => status.isError = false → Sent L R config w := by
  unfold stopOpenEnded
  split
  · refine Triple.bind (Q := fun last w => last ≠ none ∧ Sent L R config w ∧ BlocksCounted w)
      (Triple.read fun w hw => ⟨hw.2.1, hw⟩) fun last => ?_
    refine Triple.bind (Q := fun preLast w => last ≠ none ∧ preLast = some cmdSetBlockCount ∧
      Sent L R config w) (Triple.read fun w hw => ⟨hw.1, hw.2.2.2, hw.2.1⟩) fun preLast => ?_
    split
    · next hnone => exact fun w hw => absurd hnone hw.1
    split
    · next hnone =>
        intro w hw
        rw [hnone] at hw
        exact absurd hw.2.1 (by simp)
    split
    · exact Triple.pure fun w hw _ => hw.2.2
    · next hne => exact fun w hw => absurd hw.2.1 hne
  · exact Triple.pure fun w hw _ => hw.1

/-- A transfer of packets whose number has been set. -/
lemma sdhcSendDataCommand_packets {cmd : SdCommand} (hmulti : cmd.IsMultiBlock) {size : ℕ}
    {buffer : Buffer} (hbuffer : cmd = cmdReadMultiBlock → buffer ≠ .resultRequest) :
    Triple (fun w : World H B => Sent L R config w ∧
        w.inst.lastSuccessfulCmd = some cmdSetBlockCount)
      (sdhcSendDataCommand host recover cmd 0 size buffer) fun status w => status.isError = false →
        Sent (L ++ [.command cmd 0 (some (transferInfo size buffer)) true,
            .data (if cmd = cmdReadMultiBlock then .read else .write) size buffer true])
          R config w := by
  refine sdhcSendDataCommand_success
    (S := fun w => Sent (L ++ [.command cmd 0 (some (transferInfo size buffer)) true]) R config w ∧
      BlocksCounted w)
    (T := fun w => Sent (L ++ [.command cmd 0 (some (transferInfo size buffer)) true,
      .data (if cmd = cmdReadMultiBlock then .read else .write) size buffer true]) R config w ∧
      BlocksCounted w) (fun w hw hok => ?_) ?_ (stopOpenEnded_success cmd)
      fun _ _ hstep hw => hw.poll hstep
  · refine ⟨hw.1.command ?_ ?_ hok, ?_⟩
    · rcases hmulti with rfl | rfl <;> decide
    · rcases hmulti with rfl | rfl <;> decide
    · obtain ⟨hlast, hpre⟩ := afterCommand_history hok
      refine ⟨?_, hpre.trans hw.2⟩
      rw [hlast]
      exact Option.some_ne_none _
  · rw [show L ++ [Event.command cmd 0 (some (transferInfo size buffer)) true,
        .data (if cmd = cmdReadMultiBlock then .read else .write) size buffer true] =
      (L ++ [.command cmd 0 (some (transferInfo size buffer)) true]) ++
        [.data (if cmd = cmdReadMultiBlock then .read else .write) size buffer true] by simp]
    unfold transferData
    rcases hmulti with rfl | rfl
    · exact writeBlockData_success fun _ _ _ hw => hw
    · refine readBlockData_success (hbuffer rfl) fun w bytes h t hw => ?_
      cases buffer <;> exact hw

lemma rpmbWrite_success (request : RpmbDataBuffer) :
    Triple (Sent (H := H) (B := B) L R config) (rpmbWrite host recover request)
      fun status w => status.isError = false →
        Sent (L ++ writeEvents (.ofNat 32 request.packetCount ||| 0x80000000)
          (rpmbTransferSize request.packetCount) (.caller request.packets)) R config w := by
  unfold rpmbWrite
  refine Triple.orReturn_success (sdhcSetBlockCount_success _ _) (Triple.orReturn_success
    (sdhcSendDataCommand_packets (.inl rfl) fun heq => absurd heq (by decide))
    (Triple.pure fun w hw _ => ?_))
  simpa [writeEvents, show cmdWriteMultiBlock ≠ cmdReadMultiBlock by decide] using hw

lemma rpmbRead_success (request : Buffer) (response : RpmbDataBuffer) :
    Triple (Sent (H := H) (B := B) L R config) (rpmbRead host recover request response)
      fun status w => status.isError = false →
        Sent (L ++ writeEvents 1 rpmbPacketSize request ++
          readEvents (.ofNat 32 response.packetCount) (rpmbTransferSize response.packetCount)
            (.caller response.packets)) R config w := by
  unfold rpmbRead
  refine Triple.orReturn_success (sdhcSetBlockCount_success _ _) (Triple.orReturn_success
    (sdhcSendDataCommand_packets (.inl rfl) fun heq => absurd heq (by decide))
    (Triple.orReturn_success (sdhcSetBlockCount_success _ _) (Triple.orReturn_success
      (sdhcSendDataCommand_packets (.inr rfl) fun _ => by simp) (Triple.pure fun w hw _ => ?_))))
  simpa [writeEvents, readEvents, show cmdWriteMultiBlock ≠ cmdReadMultiBlock by decide] using hw

/-- The packets of a request as the driver sends them. -/
def sentPackets (type : RpmbRequestType) (request response : RpmbDataBuffer) : List Event :=
  match type with
  | .programKey =>
      writeEvents (.ofNat 32 1 ||| 0x80000000) (rpmbTransferSize 1) (.caller request.packets) ++
        (writeEvents 1 rpmbPacketSize .resultRequest ++
          readEvents (.ofNat 32 1) (rpmbTransferSize 1) (.caller response.packets))
  | .authWrite =>
      writeEvents (.ofNat 32 request.packetCount ||| 0x80000000)
          (rpmbTransferSize request.packetCount) (.caller request.packets) ++
        (writeEvents 1 rpmbPacketSize .resultRequest ++
          readEvents (.ofNat 32 1) (rpmbTransferSize 1) (.caller response.packets))
  | .counterValue =>
      writeEvents 1 rpmbPacketSize (.caller request.packets) ++
        readEvents (.ofNat 32 1) (rpmbTransferSize 1) (.caller response.packets)
  | .authRead =>
      writeEvents 1 rpmbPacketSize (.caller request.packets) ++
        readEvents (.ofNat 32 response.packetCount) (rpmbTransferSize response.packetCount)
          (.caller response.packets)

lemma rpmbDispatch_success (type : RpmbRequestType) (request response : RpmbDataBuffer) :
    Triple (Sent (H := H) (B := B) L R config)
      (rpmbDispatch host recover (some type) request response)
      fun status w => status.isError = false →
        Sent (L ++ sentPackets type request response) R config w := by
  unfold rpmbDispatch
  cases type with
  | programKey =>
      refine Triple.orReturn_success (rpmbWrite_success _) (Triple.orReturn_success
        (rpmbRead_success _ _) (Triple.pure fun w hw _ => ?_))
      simpa only [sentPackets, List.append_assoc] using hw
  | authWrite =>
      refine Triple.orReturn_success (rpmbWrite_success _) (Triple.orReturn_success
        (rpmbRead_success _ _) (Triple.pure fun w hw _ => ?_))
      simpa only [sentPackets, List.append_assoc] using hw
  | counterValue =>
      refine (rpmbRead_success _ _).weaken fun status w hw hok => ?_
      simpa only [sentPackets, List.append_assoc] using hw hok
  | authRead =>
      refine (rpmbRead_success _ _).weaken fun status w hw hok => ?_
      simpa only [sentPackets, List.append_assoc] using hw hok

/-! ## The partition switches -/

lemma poll_callerMemory {w w' : World H B} (h : PollStep host w w') :
    w'.callerMemory = w.callerMemory := by
  cases h <;> rfl

/-- The SWITCH command of a partition switch. -/
lemma sdhcSendCommand_switch (value : UInt8) (M : ByteStore) :
    Triple (fun w : World H B => Sent L R config w ∧ w.callerMemory = M)
      (sdhcSendCommand host recover cmdSwitchMmc (switchArg 179 value))
      fun status w => status.isError = false →
        Sent (L ++ [.command cmdSwitchMmc (switchArg 179 value) none true]) R config w ∧
          w.callerMemory = M := by
  unfold sdhcSendCommand
  rw [if_pos (.inl rfl)]
  refine Triple.orReturn_success (sendOrRecover_success fun w hw hok =>
    ⟨hw.1.command (by decide) (by decide) hok, hw.2⟩) (Triple.orReturn_success
      (wait_success fun w w' hstep hw => ⟨hw.1.poll hstep, ?_⟩) (Triple.pure fun w hw _ => hw))
  exact (poll_callerMemory hstep).trans hw.2

/-- The `EXT_CSD` read behind it, into the buffer of the instance. -/
lemma sdhcSendExtCsdMmc_success (M : ByteStore) :
    Triple (fun w : World H B => Sent L R config w ∧ w.callerMemory = M)
      (sdhcSendExtCsdMmc host recover) fun status w => status.isError = false →
        ∃ arg reported, Sent (L ++ extCsdEvents arg reported) R reported w ∧ w.callerMemory = M := by
  unfold sdhcSendExtCsdMmc
  refine Triple.bind (Q := fun _ w => Sent L R config w ∧ w.callerMemory = M)
    (Triple.read fun w hw => hw) fun rca => ?_
  set cmd : Event := .command cmdSendExtCsdMmc (rca <<< 16)
    (some (transferInfo sdBlockLengthBytes .blockBuffer)) true with hcmd
  set data : Event := .data .read sdBlockLengthBytes .blockBuffer true with hdata
  refine Triple.orReturn_success
    (R := fun w => Sent (L ++ [cmd] ++ [data]) R config w ∧ w.callerMemory = M)
    (sdhcSendDataCommand_success (S := fun w => Sent (L ++ [cmd]) R config w ∧ w.callerMemory = M)
      (T := fun w => Sent (L ++ [cmd] ++ [data]) R config w ∧ w.callerMemory = M)
      (fun w hw hok => ⟨hw.1.command (by decide) (by decide) hok, hw.2⟩) ?_ ?_
      fun w w' hstep hw => ⟨hw.1.poll hstep, (poll_callerMemory hstep).trans hw.2⟩) ?_
  · exact readBlockData_success (by simp) fun w bytes h t hw => hw
  · rw [stopOpenEnded_of_not_isMultiBlock (by decide)]
    exact Triple.pure fun w hw _ => hw
  · refine Triple.bind (Q := fun _ w => ∃ reported,
      Sent (L ++ extCsdEvents (rca <<< 16) reported) R reported w ∧ w.callerMemory = M)
      (Triple.modify fun w hw => ?_) fun _ => Triple.pure fun w hw _ => ⟨rca <<< 16, hw⟩
    refine ⟨w.inst.blockBuffer 179, ⟨?_, hw.1.resultRequest, rfl⟩, hw.2⟩
    rw [visible_append, hw.1.events, List.append_assoc, List.append_assoc, hcmd, hdata]
    rfl

/-- A partition switch that succeeds, and leaves the caller's memory alone. -/
lemma sdhcSwitchPartitionMmc_success (partition : PartitionAccess) (M : ByteStore) :
    Triple (fun w : World H B => Sent L R config w ∧ w.callerMemory = M)
      (sdhcSwitchPartitionMmc host recover partition) fun status w => status.isError = false →
        ∃ arg reported, Sent (L ++ switchEvents arg (withPartitionAccess config partition) reported)
          R reported w ∧ w.callerMemory = M := by
  unfold sdhcSwitchPartitionMmc switchAndVerifyPartition
  refine Triple.orReturn_success (R := fun w => ∃ arg reported, Sent (L ++ switchEvents arg
    (withPartitionAccess config partition) reported) R reported w ∧ w.callerMemory = M) ?_ ?_
  · refine Triple.bind (Q := fun config' w => config' = config ∧ Sent L R config w ∧
      w.callerMemory = M) (Triple.read fun w hw => ⟨hw.1.config, hw⟩) fun config' => ?_
    by_cases hconfig : config' = config
    · subst hconfig
      refine Triple.orReturn_success ((sdhcSendCommand_switch _ M).strengthen fun w hw => hw.2)
        (Triple.orReturn_success (sdhcSendExtCsdMmc_success M)
          (Triple.orReturn_success ?_ (Triple.pure fun w hw _ => hw)))
      refine Triple.bind (Q := fun _ w => ∃ arg reported, Sent (L ++ switchEvents arg
        (withPartitionAccess config' partition) reported) R reported w ∧ w.callerMemory = M)
        (Triple.read fun w hw => ?_) fun _ => ?_
      · simpa [switchEvents] using hw
      · split
        · exact Triple.pure fun w _ hok => by cases hok
        · exact Triple.pure fun w hw _ => hw
    · exact fun w hw => absurd hw.1 hconfig
  · refine Triple.bind (Q := fun _ w => ∃ arg reported, Sent (L ++ switchEvents arg
      (withPartitionAccess config partition) reported) R reported w ∧ w.callerMemory = M)
      (Triple.modify ?_) fun _ => Triple.pure fun w hw _ => hw
    rintro w ⟨arg, reported, hw, hM⟩
    exact ⟨arg, reported, ⟨hw.events, hw.resultRequest, hw.config⟩, hM⟩

/-! ## The request -/

lemma rpmbRequest_success (type : RpmbRequestType) (request response : RpmbDataBuffer)
    (cur : PartitionAccess) (M : ByteStore)
    (htype : RpmbRequestType.ofCode ((M (request.packets + 510)).toNat * 256 +
      (M (request.packets + 511)).toNat) = some type) :
    Triple (fun w : World H B => (Sent L R config w ∧ w.callerMemory = M) ∧
        w.inst.currentMmcPartition = cur)
      (rpmbRequest host recover request response) fun status w => status.isError = false →
        ∃ arg reported arg' reported', Sent (L ++
          (switchEvents arg (withPartitionAccess config partitionRpmb) reported ++
            sentPackets type request response ++
            switchEvents arg' (withPartitionAccess reported cur) reported')) R reported' w := by
  unfold rpmbRequest
  refine Triple.bind (Q := fun current w => current = cur ∧ Sent L R config w ∧ w.callerMemory = M)
    (Triple.read fun w hw => ⟨hw.2, hw.1⟩) fun current => ?_
  by_cases hcur : current = cur
  swap
  · exact fun w hw => absurd hw.1 hcur
  subst hcur
  refine Triple.orReturn_success ((sdhcSwitchPartitionMmc_success partitionRpmb M).strengthen
    fun w hw => hw.2) ?_
  refine Triple.bind (Q := fun type' w => type' = some type ∧ ∃ arg reported,
    Sent (L ++ switchEvents arg (withPartitionAccess config partitionRpmb) reported) R reported w)
    (Triple.read ?_) fun type' => ?_
  · rintro w ⟨arg, reported, hw, rfl⟩
    exact ⟨htype, arg, reported, hw⟩
  by_cases htype' : type' = some type
  swap
  · exact fun w hw => absurd hw.1 htype'
  subst htype'
  rintro w ⟨-, arg, reported, hw⟩ status w' hrun
  -- the caller's memory has changed since, but nothing is read from it any more
  obtain ⟨status₁, w₁, hpackets, hrun⟩ := bind_eq_some.mp hrun
  obtain ⟨status₂, w₂, hback, hrun⟩ := bind_eq_some.mp hrun
  have hsent := rpmbDispatch_success type request response w hw status₁ w₁ hpackets
  by_cases herr : status₁.isError = true
  · rw [if_pos herr] at hrun
    obtain ⟨rfl, -⟩ : status₁ = status ∧ w₂ = w' := by simpa using hrun
    intro hok
    rw [herr] at hok
    cases hok
  · rw [if_neg herr] at hrun
    obtain ⟨rfl, rfl⟩ : status₂ = status ∧ w₂ = w' := by simpa using hrun
    intro hok
    obtain ⟨arg', reported', hend, -⟩ := sdhcSwitchPartitionMmc_success current w₁.callerMemory w₁
      ⟨hsent (by simpa using herr), rfl⟩ status₂ w₂ hback hok
    refine ⟨arg, reported, arg', reported', ?_⟩
    simpa only [List.append_assoc] using hend

end Commands

/-- What a call of the protocol that succeeds has sent. -/
lemma rpmbIo_success {call : RpmbCall} {w w' : World H B}
    (hrun : rpmbIo host (recovery host boot) call w = some (.success, w')) :
    w'.resultRequest = w.resultRequest ∧ ∃ arg reported arg' reported',
      visible w'.trace = visible w.trace ++
        (switchEvents arg (withPartitionAccess w.inst.registers.partitionConfig partitionRpmb)
            reported ++ sentPackets call.type call.request call.response ++
          switchEvents arg' (withPartitionAccess reported w.inst.currentMmcPartition) reported') := by
  obtain ⟨valid, u, hread, hrun⟩ := bind_eq_some.mp hrun
  obtain ⟨rfl, rfl⟩ : decide (call.Valid w) = valid ∧ w = u := by simpa using hread
  by_cases hvalid : call.Valid w
  · rw [if_pos (decide_eq_true hvalid)] at hrun
    obtain ⟨arg, reported, arg', reported', hsent⟩ := rpmbRequest_success call.type call.request
      call.response w.inst.currentMmcPartition w.callerMemory hvalid.2.2.2.2 w
      ⟨⟨⟨rfl, rfl, rfl⟩, rfl⟩, rfl⟩ .success w' hrun rfl
    exact ⟨hsent.resultRequest, arg, reported, arg', reported', hsent.events⟩
  · rw [if_neg (by simpa using hvalid)] at hrun
    cases hrun

/-! ## The sequence of the standard -/

/-- The packets of a request: `n` packets written with the reliable bit and the result asked for,
or one packet written and `m` read. -/
def jedecPackets : RpmbCall → List Event
  | .programKey request response =>
      writeEvents (1 ||| 0x80000000) rpmbPacketSize (.caller request) ++
        writeEvents 1 rpmbPacketSize .resultRequest ++
        readEvents 1 rpmbPacketSize (.caller response)
  | .authenticatedWrite request response =>
      writeEvents (.ofNat 32 request.packetCount ||| 0x80000000)
          (request.packetCount * rpmbPacketSize) (.caller request.packets) ++
        writeEvents 1 rpmbPacketSize .resultRequest ++
        readEvents 1 rpmbPacketSize (.caller response)
  | .readCounter request response =>
      writeEvents 1 rpmbPacketSize (.caller request) ++
        readEvents 1 rpmbPacketSize (.caller response)
  | .authenticatedRead request response =>
      writeEvents 1 rpmbPacketSize (.caller request) ++
        readEvents (.ofNat 32 response.packetCount) (response.packetCount * rpmbPacketSize)
          (.caller response.packets)

/-- The packets of a call fit the 32 bits of a transfer's size. -/
def RpmbCall.PacketsFit (call : RpmbCall) : Prop :=
  call.request.packetCount * rpmbPacketSize < 2 ^ 32 ∧
    call.response.packetCount * rpmbPacketSize < 2 ^ 32

/-- The call from `w` to `w'` follows the standard, on a card that had `v` in `PARTITION_CONFIG`
when the instance was created: nothing but the packets is sent between a switch to the RPMB
partition and a second switch, the fixed packet is as before, and so is the card's byte. -/
structure FollowsJedec (v : UInt8) (call : RpmbCall) (w w' : World H B) : Prop where
  sequence : ∃ arg first reported arg' second reported',
    visible (w'.trace.drop w.trace.length) =
        switchEvents arg first reported ++ jedecPackets call ++
          switchEvents arg' second reported' ∧
      partitionAccess first = partitionRpmb
  resultRequest : w'.resultRequest = w.resultRequest
  config : cardConfig v w'.trace = cardConfig v w.trace

lemma rpmbTransferSize_eq_iff {count : ℕ} :
    rpmbTransferSize count = count * rpmbPacketSize ↔ count * rpmbPacketSize < 2 ^ 32 := by
  unfold rpmbTransferSize
  constructor
  · intro h
    rw [← h]
    exact Nat.mod_lt _ (by decide)
  · exact Nat.mod_eq_of_lt

lemma writeEvents_injective {arg : BitVec 32} {size size' : ℕ} {buffer : Buffer} :
    writeEvents arg size buffer = writeEvents arg size' buffer ↔ size = size' := by
  constructor
  · intro h
    simp only [writeEvents, List.cons.injEq, Event.data.injEq] at h
    exact h.2.2.1.2.1
  · rintro rfl
    rfl

lemma readEvents_injective {arg : BitVec 32} {size size' : ℕ} {buffer : Buffer} :
    readEvents arg size buffer = readEvents arg size' buffer ↔ size = size' := by
  constructor
  · intro h
    simp only [readEvents, List.cons.injEq, Event.data.injEq] at h
    exact h.2.2.1.2.1
  · rintro rfl
    rfl

lemma sentPackets_eq_iff (call : RpmbCall) :
    sentPackets call.type call.request call.response = jedecPackets call ↔ call.PacketsFit := by
  have hone : rpmbTransferSize 1 = rpmbPacketSize := rfl
  have hfits : 1 * rpmbPacketSize < 2 ^ 32 := by decide
  unfold RpmbCall.PacketsFit
  cases call with
  | programKey request response => exact iff_of_true rfl ⟨hfits, hfits⟩
  | readCounter request response => exact iff_of_true rfl ⟨hfits, hfits⟩
  | authenticatedWrite request response =>
      simp only [RpmbCall.type, RpmbCall.request, RpmbCall.response, sentPackets, jedecPackets,
        List.append_assoc, hone]
      rw [and_iff_left hfits, ← rpmbTransferSize_eq_iff, ← writeEvents_injective]
      exact List.append_left_inj _
  | authenticatedRead request response =>
      simp only [RpmbCall.type, RpmbCall.request, RpmbCall.response, sentPackets, jedecPackets]
      rw [and_iff_right hfits, ← rpmbTransferSize_eq_iff, ← readEvents_injective,
        List.append_right_inj]

/-! ## The card -/

lemma Event.configAfter_of_polls {e : Event} (h : e.polls = true) (config : UInt8) :
    e.configAfter config = config := by
  cases e with
  | command cmd arg xfrInfo ok =>
      obtain rfl : cmd = cmdSendStatus := by simpa [Event.polls] using h
      cases ok with
      | false => rfl
      | true => exact configAfter_of_not (by decide) (not_setsPartition (by decide) arg) config
  | _ => cases h

lemma cardConfig_visible (config : UInt8) (t : List Event) :
    cardConfig config (visible t) = cardConfig config t := by
  induction t generalizing config with
  | nil => rfl
  | cons e t ih =>
      by_cases he : e.polls = true
      · have hskip : visible (e :: t) = visible t := by simp [visible, he]
        rw [hskip, ih]
        exact congrArg (cardConfig · t) (Event.configAfter_of_polls he config).symm
      · have hkeep : visible (e :: t) = e :: visible t := by simp [visible, he]
        rw [hkeep]
        exact ih (e.configAfter config)

lemma Truthful.visible {config : UInt8} {t : List Event} (h : Truthful config t) :
    Truthful config (visible t) := by
  induction t generalizing config with
  | nil => trivial
  | cons e t ih =>
      by_cases he : e.polls = true
      · have hskip : SdMmc.visible (e :: t) = SdMmc.visible t := by simp [SdMmc.visible, he]
        have htail := ih h.2
        rw [Event.configAfter_of_polls he] at htail
        rwa [hskip]
      · have hkeep : SdMmc.visible (e :: t) = e :: SdMmc.visible t := by simp [SdMmc.visible, he]
        rw [hkeep]
        exact ⟨h.1, ih h.2⟩

lemma cardConfig_extCsdEvents (arg : BitVec 32) (reported config : UInt8) :
    cardConfig config (extCsdEvents arg reported) = config :=
  configAfter_of_not (show cmdSendExtCsdMmc ≠ cmdGoIdleState by decide)
    (not_setsPartition (by decide) arg) config

@[simp] lemma cardConfig_switchEvents (arg : BitVec 32) (value reported config : UInt8) :
    cardConfig config (switchEvents arg value reported) = value :=
  (cardConfig_extCsdEvents arg reported _).trans (configAfter_switchArg value config)

/-- A truthful card reports the byte it was sent. -/
lemma truthful_switchEvents {arg : BitVec 32} {value reported config : UInt8}
    (h : Truthful config (switchEvents arg value reported)) : reported = value := by
  rw [← cardConfig_switchEvents arg value reported config]
  exact h.2.2.2.1

lemma cardConfig_writeEvents (arg : BitVec 32) (size : ℕ) (buffer : Buffer) (config : UInt8) :
    cardConfig config (writeEvents arg size buffer) = config := by
  have hsame (cmd : SdCommand) (hidle : cmd ≠ cmdGoIdleState) (hswitch : cmd ≠ cmdSwitchMmc)
      (arg : BitVec 32) : configAfter cmd arg config = config :=
    configAfter_of_not hidle (not_setsPartition hswitch arg) config
  simp only [writeEvents, cardConfig, List.foldl_cons, List.foldl_nil, Event.configAfter]
  rw [hsame _ (by decide) (by decide), hsame _ (by decide) (by decide)]

lemma cardConfig_readEvents (arg : BitVec 32) (size : ℕ) (buffer : Buffer) (config : UInt8) :
    cardConfig config (readEvents arg size buffer) = config := by
  have hsame (cmd : SdCommand) (hidle : cmd ≠ cmdGoIdleState) (hswitch : cmd ≠ cmdSwitchMmc)
      (arg : BitVec 32) : configAfter cmd arg config = config :=
    configAfter_of_not hidle (not_setsPartition hswitch arg) config
  simp only [readEvents, cardConfig, List.foldl_cons, List.foldl_nil, Event.configAfter]
  rw [hsame _ (by decide) (by decide), hsame _ (by decide) (by decide)]

/-- What a call that succeeds has added to the trace. -/
lemma rpmbIo_added {call : RpmbCall} {w w' : World H B}
    (hrun : rpmbIo host (recovery host boot) call w = some (.success, w')) :
    ∃ t, w'.trace = w.trace ++ t ∧ w'.trace.drop w.trace.length = t ∧
      ∃ arg reported arg' reported', visible t =
        switchEvents arg (withPartitionAccess w.inst.registers.partitionConfig partitionRpmb)
            reported ++ sentPackets call.type call.request call.response ++
          switchEvents arg' (withPartitionAccess reported w.inst.currentMmcPartition) reported' := by
  obtain ⟨t, ht⟩ := ((rpmbIo_built call).driver.later hrun).trace
  obtain ⟨-, arg, reported, arg', reported', hvisible⟩ := rpmbIo_success hrun
  refine ⟨t, ht.symm, ?_, arg, reported, arg', reported', ?_⟩
  · rw [← ht, List.drop_left]
  · rw [← ht, visible_append] at hvisible
    exact List.append_cancel_left hvisible

/-- A request that succeeds follows the standard exactly if its packets fit the size of a transfer
and the byte that the driver would restore is the one the card has. -/
theorem followsJedec_iff {call : RpmbCall} {v : UInt8} {w w' : World H B}
    (hrun : rpmbIo host (recovery host boot) call w = some (.success, w'))
    (htruthful : Truthful (cardConfig v w.trace) (w'.trace.drop w.trace.length)) :
    FollowsJedec v call w w' ↔ call.PacketsFit ∧
      withPartitionAccess w.inst.registers.partitionConfig w.inst.currentMmcPartition =
        cardConfig v w.trace := by
  obtain ⟨t, ht, hdrop, arg, reported, arg', reported', hvisible⟩ := rpmbIo_added hrun
  rw [hdrop] at htruthful
  -- the first read-back returns what the switch wrote, so the second switch restores its boot bits
  have hreported : reported =
      withPartitionAccess w.inst.registers.partitionConfig partitionRpmb := by
    have h := htruthful.visible
    rw [hvisible, truthful_append, truthful_append] at h
    exact truthful_switchEvents h.1.1
  have hconfig : cardConfig v w'.trace =
      withPartitionAccess w.inst.registers.partitionConfig w.inst.currentMmcPartition := by
    rw [ht, cardConfig_append, ← cardConfig_visible _ t, hvisible, cardConfig_append,
      cardConfig_switchEvents, hreported, withPartitionAccess_withPartitionAccess]
  constructor
  · intro h
    obtain ⟨arg₁, first, reported₁, arg₂, second, reported₂, hsequence, -⟩ := h.sequence
    rw [hdrop, hvisible] at hsequence
    have hpackets := List.append_inj_left' hsequence rfl
    have hsame := List.append_inj_right hpackets rfl
    exact ⟨(sentPackets_eq_iff call).mp hsame, hconfig.symm.trans h.config⟩
  · rintro ⟨hfit, hkept⟩
    refine ⟨⟨arg, withPartitionAccess w.inst.registers.partitionConfig partitionRpmb, reported,
      arg', withPartitionAccess reported w.inst.currentMmcPartition, reported', ?_,
      partitionAccess_withPartitionAccess _ _⟩, (rpmbIo_success hrun).1, hconfig.trans hkept⟩
    rw [hdrop, hvisible, (sentPackets_eq_iff call).mpr hfit]

/-! ## A read-back that is lost -/

-- a trace of a fixed run is for the kernel to go through, not for the unifier
attribute [local irreducible] Truthful

/-- A client lays out a request for the counter. -/
def counterMemory : ByteStore := fun i => if i = 0x1000 + 511 then 2 else 0

def counterCall : RpmbCall := .readCounter 0x1000 0x2000

/-- The driver is started on an MMC card, and a client has a request for the counter. -/
def counterCalls : List (PoolCall ScriptedCard (ℕ × List Published)) :=
  [.start 7 1,
    .outside ⟨21, 0⟩ (3, [⟨.rpmbIo, 7, 1⟩, ⟨.devicePath, 7, 1⟩, ⟨.blockIo, 7, 1⟩]) counterMemory]

/-- What the counter is asked for with, after some calls that leave an instance behind. -/
def counterWorld (p : Pool ScriptedCard (ℕ × List Published)) (h : (p.live 1).isSome = true) :
    World ScriptedCard (ℕ × List Published) :=
  p.world ((p.live 1).get h)

/-- The counter is asked for. -/
def readCounter (o : Script) :
    Prog (World ScriptedCard (ℕ × List Published)) EfiStatus :=
  rpmbIo (scriptedHost o) (recovery (scriptedHost o) (scriptedBoot o)) counterCall

lemma readCounter_eq_some {o : Script} {w : World ScriptedCard (ℕ × List Published)}
    (h : (readCounter o w).isSome = true) (hok : ((readCounter o w).get h).1 = .success) :
    rpmbIo (scriptedHost o) (recovery (scriptedHost o) (scriptedBoot o)) counterCall w =
      some (.success, ((readCounter o w).get h).2) := by
  rw [← hok]
  exact eq_some_get h

lemma counterRun : (scriptedRun (.quiet true) counterCalls).isSome = true := by decide +kernel

lemma counterRun_live :
    (((scriptedRun (.quiet true) counterCalls).get counterRun).live 1).isSome = true := by
  decide +kernel

/-- A card that answers everything. -/
def quietWorld : World ScriptedCard (ℕ × List Published) := counterWorld _ counterRun_live

lemma quietWorld_returns : (readCounter (.quiet true) quietWorld).isSome = true := by
  decide +kernel

/-- The card after the request. -/
def quietAfter : World ScriptedCard (ℕ × List Published) :=
  ((readCounter (.quiet true) quietWorld).get quietWorld_returns).2

lemma quietWorld_truthful : Truthful (cardConfig 0 quietWorld.trace)
    (quietAfter.trace.drop quietWorld.trace.length) := by
  decide +kernel

theorem followsJedec_counter :
    FollowsJedec 0 counterCall quietWorld quietAfter ↔
      counterCall.PacketsFit ∧
        withPartitionAccess quietWorld.inst.registers.partitionConfig
          quietWorld.inst.currentMmcPartition = cardConfig 0 quietWorld.trace :=
  @followsJedec_iff ScriptedCard (ℕ × List Published) (scriptedHost (.quiet true))
    (scriptedBoot (.quiet true)) counterCall 0 quietWorld quietAfter
    (readCounter_eq_some quietWorld_returns (by decide +kernel)) quietWorld_truthful

/-- A card that does not answer SEND_EXT_CSD behind its first switch to the RPMB partition. -/
def unreadCard : Script := { Script.quiet true with fails := fun n => n == 23 }

/-- The counter has been asked for once. -/
def unreadCalls : List (PoolCall ScriptedCard (ℕ × List Published)) :=
  counterCalls ++ [.onInstance 1 (.rpmbIo counterCall)]

lemma unreadRun : (scriptedRun unreadCard unreadCalls).isSome = true := by decide +kernel

lemma unreadRun_live : (((scriptedRun unreadCard unreadCalls).get unreadRun).live 1).isSome =
    true := by
  decide +kernel

/-- The first request has failed. -/
def unreadWorld : World ScriptedCard (ℕ × List Published) := counterWorld _ unreadRun_live

lemma unreadWorld_returns : (readCounter unreadCard unreadWorld).isSome = true := by
  decide +kernel

/-- The card after the second request. -/
def unreadAfter : World ScriptedCard (ℕ × List Published) :=
  ((readCounter unreadCard unreadWorld).get unreadWorld_returns).2

/-- The second request leaves another partition configuration than it found. -/
lemma unreadAfter_facts : Truthful (cardConfig 0 unreadWorld.trace)
      (unreadAfter.trace.drop unreadWorld.trace.length) ∧
    cardConfig 0 unreadAfter.trace ≠ cardConfig 0 unreadWorld.trace := by
  decide +kernel

/-- The second request succeeds, and the card is not on the partition it was on. -/
theorem not_followsJedec_unreadCard :
    ¬ ∀ w', rpmbIo (scriptedHost unreadCard)
        (recovery (scriptedHost unreadCard) (scriptedBoot unreadCard)) counterCall unreadWorld =
          some (.success, w') →
      Truthful (cardConfig 0 unreadWorld.trace) (w'.trace.drop unreadWorld.trace.length) →
      FollowsJedec 0 counterCall unreadWorld w' := by
  intro hall
  obtain ⟨htruthful, hconfig⟩ := unreadAfter_facts
  have hfollows := hall unreadAfter
    (readCounter_eq_some unreadWorld_returns (by decide +kernel)) htruthful
  exact hconfig hfollows.config

end SdMmc
end MuPlatform
