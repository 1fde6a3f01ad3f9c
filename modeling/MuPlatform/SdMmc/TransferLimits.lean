import MuPlatform.SdMmc.ChunkLoop
import MuPlatform.SdMmc.RpmbSequence
import MuPlatform.SdMmc.StopTransmission

/-!
# The transfer limits of the host

A host takes at most `MaximumBlockCount` blocks for a data command, and SET_BLOCK_COUNT announces
their number in 16 bits.  `IoBlocks` splits a transfer by the capability, `SdhcSendScrSd` and
`SdhcSendExtCsdMmc` read one block; an RPMB request has as many packets as the client says.

`Event.Respects` says what the limits are, of one event after the others.  A caller respects them if
the events of all its runs do, with those of the recoveries and resets inside of them, on every
host; `respectsLimits_iff` says which callers do.
-/

namespace MuPlatform
namespace SdMmc

open Prog

variable {H B : Type}

/-! ## Events -/

/-- The host takes this number of blocks. -/
def SdhcCapabilities.Takes (caps : SdhcCapabilities) (n : ℕ) : Prop :=
  1 ≤ n ∧ n ≤ caps.maximumBlockCount.toNat

/-- What may happen after `past`.  A data command is for a number of blocks the host takes, a data
phase comes right behind its command and moves as many blocks, and SET_BLOCK_COUNT has a number of
16 bits; bit 31 of its argument asks for a reliable write. -/
def Event.Respects (caps : SdhcCapabilities) (past : List Event) : Event → Prop
  | .command cmd arg none _ => cmd = cmdSetBlockCount → (arg.setWidth 31).toNat < 2 ^ 16
  | .command _ _ (some x) _ =>
      x.blockSize.toNat = sdBlockLengthBytes ∧ caps.Takes x.blockCount.toNat
  | .data _ size _ _ => ∃ before cmd arg x, past = before ++ [.command cmd arg (some x) true] ∧
      size = sdBlockLengthBytes * x.blockCount.toNat
  | _ => True

/-- Every event respects the limits after the events before it. -/
def WithinLimits (caps : SdhcCapabilities) (t : List Event) : Prop :=
  ∀ past e later, t = past ++ e :: later → e.Respects caps past

section Trace

variable {caps : SdhcCapabilities} {t : List Event} {e : Event}

lemma withinLimits_nil : WithinLimits caps [] := fun _ _ _ h => absurd h (by simp)

lemma WithinLimits.concat (h : WithinLimits caps t) (he : e.Respects caps t) :
    WithinLimits caps (t ++ [e]) := by
  intro past e' later hsplit
  rcases List.eq_nil_or_concat later with rfl | ⟨later, last, rfl⟩
  · obtain ⟨rfl, hlast⟩ := List.append_inj' hsplit rfl
    obtain rfl := List.singleton_inj.mp hlast
    exact he
  · have hsplit' : t ++ [e] = (past ++ e' :: later) ++ [last] := by simpa using hsplit
    exact h past e' later (List.append_inj' hsplit' rfl).1

lemma WithinLimits.of_mem (h : WithinLimits caps t) (he : e ∈ t) : ∃ past, e.Respects caps past := by
  obtain ⟨past, later, hsplit⟩ := List.append_of_mem he
  exact ⟨past, h past e later hsplit⟩

end Trace

/-! ## Worlds -/

/-- What has happened since `t₀` is within the limits. -/
def LimitedSince (caps : SdhcCapabilities) (t₀ : List Event) (w : World H B) : Prop :=
  ∃ t, w.trace = t₀ ++ t ∧ WithinLimits caps t

section World

variable {host : SdhcHost H} {boot : BootServices B} {caps : SdhcCapabilities} {t₀ : List Event}
  {w w' : World H B}

lemma LimitedSince.refl (w : World H B) : LimitedSince caps w.trace w :=
  ⟨[], (List.append_nil _).symm, withinLimits_nil⟩

lemma LimitedSince.same (h : LimitedSince caps t₀ w) (ht : w'.trace = w.trace) :
    LimitedSince caps t₀ w' := by
  obtain ⟨t, hw, hlimits⟩ := h
  exact ⟨t, ht.trans hw, hlimits⟩

lemma LimitedSince.concat (h : LimitedSince caps t₀ w) {e : Event}
    (he : ∀ past, e.Respects caps past) (ht : w'.trace = w.trace ++ [e]) :
    LimitedSince caps t₀ w' := by
  obtain ⟨t, hw, hlimits⟩ := h
  exact ⟨t ++ [e], by rw [ht, hw, List.append_assoc], hlimits.concat (he t)⟩

/-- A command within the limits; where it succeeds, it is the last event. -/
lemma LimitedSince.sent (h : LimitedSince caps t₀ w) {cmd : SdCommand} {arg : BitVec 32}
    {xfrInfo : Option SdCommandXfrInfo}
    (hcmd : ∀ past ok, (Event.command cmd arg xfrInfo ok).Respects caps past) :
    LimitedSince caps t₀ (afterCommand host cmd arg xfrInfo w).2 ∧
      ((afterCommand host cmd arg xfrInfo w).1.isError = false → ∃ before,
        (afterCommand host cmd arg xfrInfo w).2.trace =
            t₀ ++ (before ++ [.command cmd arg xfrInfo true]) ∧
          WithinLimits caps (before ++ [.command cmd arg xfrInfo true])) := by
  obtain ⟨t, hw, hlimits⟩ := h
  have htrace : (afterCommand host cmd arg xfrInfo w).2.trace = t₀ ++ (t ++
      helperEvents host cmd arg xfrInfo w !(afterCommand host cmd arg xfrInfo w).1.isError) := by
    rw [← List.append_assoc, ← hw]
    rfl
  have happ (arg' : BitVec 32) (ok : Bool) : WithinLimits caps (t ++ [.appCommand arg' ok]) :=
    hlimits.concat trivial
  by_cases hclass : cmd.cmdClass = .app
  · by_cases herr : (host.sendCommand cmdAppSd (w.inst.rca <<< 16) none w.host).1.isError = true
    · -- CMD55 failed, and the command is not sent
      have hfails : (afterCommand host cmd arg xfrInfo w).1.isError = true :=
        sdhcSendCommandHelper_app hclass herr
      rw [helperEvents, if_pos hclass, if_pos herr] at htrace
      refine ⟨⟨_, htrace, happ _ _⟩, fun hok => ?_⟩
      rw [hfails] at hok
      cases hok
    · rw [helperEvents, if_pos hclass, if_neg herr, List.append_cons] at htrace
      refine ⟨⟨_, htrace, (happ _ _).concat (hcmd _ _)⟩, fun hok => ?_⟩
      rw [hok] at htrace
      exact ⟨_, htrace, (happ _ _).concat (hcmd _ _)⟩
  · rw [helperEvents, if_neg hclass] at htrace
    refine ⟨⟨_, htrace, hlimits.concat (hcmd _ _)⟩, fun hok => ?_⟩
    rw [hok] at htrace
    exact ⟨t, htrace, hlimits.concat (hcmd _ _)⟩

/-- A command without data that is not SET_BLOCK_COUNT. -/
lemma LimitedSince.command (h : LimitedSince caps t₀ w) {cmd : SdCommand}
    (hcount : cmd ≠ cmdSetBlockCount) (arg : BitVec 32) :
    LimitedSince caps t₀ (afterCommand host cmd arg none w).2 := by
  have hcmd (past : List Event) (ok : Bool) :
      (Event.command cmd arg none ok).Respects caps past := fun heq => absurd heq hcount
  exact (h.sent hcmd).1

/-- SET_BLOCK_COUNT, with a count of 16 bits. -/
lemma LimitedSince.setBlockCount (h : LimitedSince caps t₀ w) {arg : BitVec 32}
    (harg : (arg.setWidth 31).toNat < 2 ^ 16) :
    LimitedSince caps t₀ (afterCommand host cmdSetBlockCount arg none w).2 := by
  have hcmd (past : List Event) (ok : Bool) :
      (Event.command cmdSetBlockCount arg none ok).Respects caps past := fun _ => harg
  exact (h.sent hcmd).1

end World

/-! ## Functions of the driver -/

/-- The steps of the driver that keep to the limits. -/
def LimitedStep (_ : SdhcHost H) (_ : BootServices B) (caps : SdhcCapabilities) (t₀ : List Event)
    (w w' : World H B) : Prop :=
  LimitedSince caps t₀ w → LimitedSince caps t₀ w'

section Functions

variable {host : SdhcHost H} {boot : BootServices B} {caps : SdhcCapabilities} {t₀ : List Event}

instance : BusSteps host (LimitedStep host boot caps t₀) where
  stay _ h := h
  command _ hcount _ h := h.command hcount _
  hostCall _ _ h := h.same rfl
  lineReset _ type ok h := h.concat (e := .lineReset type ok) (fun _ => trivial) rfl

lemma transferData_trace (cmd : SdCommand) (size : ℕ) (buffer : Buffer) (w : World H B) :
    ∃ status w' direction ok, transferData host cmd size buffer w = some (status, w') ∧
      w'.trace = w.trace ++ [.data direction size buffer ok] := by
  unfold transferData
  split
  · refine ⟨(host.readBlockData size w.host).1, _, .read,
      !(host.readBlockData size w.host).1.isError, rfl, ?_⟩
    cases buffer <;> rfl
  · exact ⟨_, _, .write, !(host.writeBlockData size (w.load buffer) w.host).1.isError, rfl, rfl⟩

lemma transferInfo_blockCount {n : ℕ} (hn : caps.Takes n) (buffer : Buffer) :
    (transferInfo (sdBlockLengthBytes * n) buffer).blockCount.toNat = n := by
  have hlt := caps.maximumBlockCount.toNat_lt
  have hdiv : sdBlockLengthBytes * n / sdBlockLengthBytes = n :=
    Nat.mul_div_cancel_left n (by decide)
  unfold transferInfo
  rw [hdiv]
  exact UInt32.toNat_ofNat_of_lt' (hn.2.trans_lt hlt)

/-- A data command for a number of blocks the host takes, and its data phase if it succeeds. -/
lemma LimitedSince.sentData {w : World H B} (h : LimitedSince caps t₀ w) {cmd : SdCommand}
    {arg : BitVec 32} {n : ℕ} (hn : caps.Takes n) {buffer : Buffer} {x : SdCommandXfrInfo}
    (hx : x = transferInfo (sdBlockLengthBytes * n) buffer) :
    LimitedSince caps t₀ (afterCommand host cmd arg (some x) w).2 ∧
      ((afterCommand host cmd arg (some x) w).1.isError = false → ∀ w' : World H B,
        (∃ direction ok, w'.trace = (afterCommand host cmd arg (some x) w).2.trace ++
          [.data direction (sdBlockLengthBytes * n) buffer ok]) → LimitedSince caps t₀ w') := by
  have hcount : x.blockCount.toNat = n := by rw [hx, transferInfo_blockCount hn]
  have hcmd (past : List Event) (ok : Bool) :
      (Event.command cmd arg (some x) ok).Respects caps past := by
    refine ⟨?_, by rwa [hcount]⟩
    rw [hx]
    rfl
  obtain ⟨hsent, hsucceeds⟩ := h.sent hcmd
  refine ⟨hsent, fun hok w' ⟨direction, ok, ht⟩ => ?_⟩
  obtain ⟨before, hbefore, hlimits⟩ := hsucceeds hok
  refine ⟨_, ht.trans (by rw [hbefore, List.append_assoc]), hlimits.concat ?_⟩
  exact ⟨before, cmd, arg, x, rfl, by rw [hcount]⟩

/-- The command and the data phase of `SdhcSendDataCommand`, for a number of blocks the host
takes. -/
lemma commandAndData_limited {cmd : SdCommand} {arg : BitVec 32} {n : ℕ} (hn : caps.Takes n)
    {buffer : Buffer} {x : SdCommandXfrInfo}
    (hx : x = transferInfo (sdBlockLengthBytes * n) buffer) (w : World H B) : ∃ status w',
      ((sendCommandHelper host cmd arg (some x)).orReturn
        (transferData host cmd (sdBlockLengthBytes * n) buffer)) w = some (status, w') ∧
      LimitedStep host boot caps t₀ w w' := by
  have hhelper : sendCommandHelper host cmd arg (some x) w =
      some ((afterCommand host cmd arg (some x) w).1, (afterCommand host cmd arg (some x) w).2) := rfl
  by_cases herr : (afterCommand host cmd arg (some x) w).1.isError = true
  · exact ⟨_, _, orReturn_of_error hhelper herr, fun h => (h.sentData hn hx).1⟩
  · have hok := Bool.eq_false_of_not_eq_true herr
    obtain ⟨status, w', direction, ok, hdata, htrace⟩ := @transferData_trace H B host cmd
      (sdBlockLengthBytes * n) buffer (afterCommand host cmd arg (some x) w).2
    exact ⟨status, w', (orReturn_of_ok hhelper hok).trans hdata,
      fun h => (h.sentData hn hx).2 hok w' ⟨direction, ok, htrace⟩⟩

/-- `SdhcSendDataCommand`, for a number of blocks the host takes. -/
lemma sendDataCommand_limited {cmd : SdCommand} {arg : BitVec 32} {n : ℕ} (hn : caps.Takes n)
    (buffer : Buffer) : StepProg (LimitedStep host boot caps t₀) fun recover =>
      sdhcSendDataCommand host recover cmd arg (sdBlockLengthBytes * n) buffer := by
  unfold sdhcSendDataCommand
  simp only [← orReturn_assoc (sendCommandHelper _ _ _ _)]
  refine .bind ?_ fun status => .ite (.bind (.call cmd) fun _ => .pure status) (.pure status)
  refine .orReturn (.total fun w => commandAndData_limited hn rfl w)
    (.orReturn (stopOpenEnded_steps (fun w h => ?_) cmd) wait_steps)
  exact h.concat (e := .nullCommand) (fun _ => trivial) rfl

/-! ### The command layer and the recovery -/

lemma takes_one (hmax : 1 ≤ caps.maximumBlockCount.toNat) : caps.Takes 1 := ⟨le_rfl, hmax⟩

/-- Where the host takes one block, the driver keeps to the limits outside of transfers. -/
lemma limitedSteps (hmax : 1 ≤ caps.maximumBlockCount.toNat) :
    DriverSteps host boot (LimitedStep host boot caps t₀) where
  card _ _ _ h := h.same rfl
  extCsd w h := h.concat (e := .extCsd (w.inst.blockBuffer 179)) (fun _ => trivial) rfl
  extCsdData _ := sendDataCommand_limited (takes_one hmax) .blockBuffer
  partition _ _ h := h.same rfl
  initialized _ h := h.same rfl
  cleared _ h := h.same rfl
  mediaPresent _ _ h := h.same rfl
  readOnly _ _ h := h.same rfl
  install w p h :=
    h.concat (e := .install p !(boot.installProtocol (w.published p) w.boot).1.isError)
      (fun _ => trivial) rfl
  uninstall w p h :=
    h.concat (e := .uninstall p !(boot.uninstallProtocol (w.published p) w.boot).1.isError)
      (fun _ => trivial) rfl
  convert _ h := h.same rfl
  softReset _ h := h.concat (e := .softReset) (fun _ => trivial) rfl

lemma recovery_limited (hmax : 1 ≤ caps.maximumBlockCount.toNat) (cmd : SdCommand) :
    Preserves (LimitedSince (H := H) (B := B) caps t₀) (recovery host boot cmd) := by
  have steps := @limitedSteps H B host boot caps t₀ hmax
  refine sdhcRecoverFromErrors_preserves (fun w w' (h : LimitedStep host boot caps t₀ w w') => h)
    (fun cmd w h => h.concat (e := .recovery cmd) (fun _ => trivial) rfl) (fun w h => h.same rfl)
    (fun n hrec => ?_) _ cmd
  exact softReset_built.preserves (fun w w' (h : LimitedStep host boot caps t₀ w w') => h) hrec

/-- A program of steps within the limits keeps to them. -/
lemma limited_preserves (hmax : 1 ≤ caps.maximumBlockCount.toNat) {α : Type}
    {f : (SdCommand → Prog (World H B) EfiStatus) → Prog (World H B) α}
    (hf : StepProg (LimitedStep host boot caps t₀) f) :
    Preserves (LimitedSince caps t₀) (f (recovery host boot)) :=
  hf.preserves (fun _ _ h => h) (recovery_limited hmax)

/-! ### Blocks -/

section Blocks

variable {σ : Type*} {d : DataPath σ} {P : σ → Prop} {cmd : SdCommand} {maxSize k : ℕ}

/-- A round of the chunk loop. -/
lemma transferChunks_round {c : Cursor} (hbytes : c.bytesRemaining ≠ 0) (bound : ℕ)
    (status : Option EfiStatus) (s : σ) :
    transferChunks d cmd maxSize (bound + 1) c status s =
      match sendWithRetry d cmd c.currentLba (c.size maxSize) c.currentBuffer dataCommandRetryCount
        status s with
      | (status, s) =>
        if (d.media s).blockSize = 0 then (none, s)
        else transferChunks d cmd maxSize bound (c.advance maxSize (d.media s).blockSize) status s :=
  if_neg hbytes

/-- What the attempts for a chunk of whole units keep, the chunk loop keeps. -/
lemma transferChunks_preserves_sized (hmax : 0 < maxSize) (hunit : k ∣ maxSize)
    (hdata : ∀ arg size buffer s, P s → 0 < size → size ≤ maxSize → k ∣ size →
      P (d.sdhcSendDataCommand cmd arg size buffer s).2)
    (bound : ℕ) (c : Cursor) (hc : k ∣ c.bytesRemaining) (status : Option EfiStatus) {s : σ}
    (hs : P s) : P (transferChunks d cmd maxSize bound c status s).2 := by
  induction bound generalizing c status s with
  | zero =>
      unfold transferChunks
      split
      · exact hs
      · exact hs
  | succ bound ih =>
      by_cases hbytes : c.bytesRemaining = 0
      · unfold transferChunks
        rwa [if_pos hbytes]
      · have hsize : k ∣ c.size maxSize := Cursor.dvd_size hc hunit
        have hnext := sendWithRetry_preserves
          (fun s hs => hdata c.currentLba (c.size maxSize) c.currentBuffer s hs
            (Cursor.size_pos hbytes hmax.ne') Cursor.size_le_max hsize)
          dataCommandRetryCount status hs
        rw [transferChunks_round hbytes]
        simp only
        split
        · exact hnext
        · exact ih _ (Nat.dvd_sub hc hsize) _ hnext

/-- What data commands for as many blocks as the host takes keep, `IoBlocks` keeps. -/
lemma ioBlocks_preserves_sized {r : IoRequest} {s : σ}
    (hblock : (d.media s).blockSize = 0 ∨ (d.media s).blockSize = sdBlockLengthBytes)
    (hmax : d.hostCapabilities.maximumBlockCount.toNat % maxBlocks32 ≠ 0)
    (hdata : ∀ cmd arg n buffer s, P s → d.hostCapabilities.Takes n →
      P (d.sdhcSendDataCommand cmd arg (sdBlockLengthBytes * n) buffer s).2)
    (hs : P s) : P (ioBlocks d r s).2 := by
  unfold ioBlocks
  split
  · exact hs
  · exact hs
  · next cmd hcheck =>
      have hblock' := hblock.resolve_left (checkRequest_eq_ok hcheck).2.2.1
      obtain ⟨-, hmul, -⟩ := checkRequest_span hcheck
      rw [hblock'] at hmul
      obtain ⟨hbytes, hsize⟩ := wrapped_sizes hblock' hmul
      refine transferChunks_preserves_sized (maxTransferSize_pos hblock' hmul hmax) ⟨_, hsize⟩
        (fun arg size buffer s hs hpos hle hunit => ?_) _ _ ⟨_, hbytes⟩ _ hs
      obtain ⟨n, rfl⟩ := hunit
      rw [hsize] at hle
      refine hdata cmd arg n buffer s hs ⟨Nat.pos_of_mul_pos_left hpos, ?_⟩
      exact (Nat.le_of_mul_le_mul_left hle (by decide)).trans (Nat.mod_le _ _)

end Blocks

lemma ioBlocks_limited (hmax : caps.maximumBlockCount.toNat % maxBlocks32 ≠ 0) (r : IoRequest)
    {w : World H B} (hcaps : w.inst.hostCapabilities = caps) (hw : LimitedSince caps t₀ w) :
    LimitedSince caps t₀ (ioBlocks (blockPath host boot w.inst.hostCapabilities) r w).2 := by
  rw [hcaps]
  refine @ioBlocks_preserves_sized _ (blockPath host boot caps) _ r w w.inst.media.blockSize_eq hmax
    (fun cmd arg n buffer s hs hn => ?_) hw
  exact limited_preserves (hn.1.trans hn.2) (sendDataCommand_limited hn (.caller buffer)) s hs _ _
    (blockPath_apply caps cmd arg _ buffer s)

/-! ### Packets -/

/-- A count of packets that is one of blocks the host takes, in the bits of SET_BLOCK_COUNT for
it; the size of the packets counts as many. -/
def SdhcCapabilities.TakesPackets (caps : SdhcCapabilities) (n : ℕ) : Prop :=
  caps.Takes (n % 2 ^ 31) ∧ n % 2 ^ 31 < 2 ^ 16

lemma SdhcCapabilities.TakesPackets.size {n : ℕ} (h : caps.TakesPackets n) :
    rpmbTransferSize n = sdBlockLengthBytes * (n % 2 ^ 31) := by
  have hlt := h.2
  simp only [rpmbTransferSize, rpmbPacketSize, sdBlockLengthBytes]
  omega

lemma SdhcCapabilities.TakesPackets.one (hmax : 1 ≤ caps.maximumBlockCount.toNat) :
    caps.TakesPackets 1 := ⟨takes_one hmax, by decide⟩

/-- The number of blocks in the argument of SET_BLOCK_COUNT. -/
lemma setBlockCount_field (n : ℕ) (reliable : Bool) :
    ((if reliable then .ofNat 32 n ||| 0x80000000 else .ofNat 32 n : BitVec 32).setWidth 31).toNat =
      n % 2 ^ 31 := by
  cases reliable with
  | false =>
      rw [if_neg Bool.false_ne_true, BitVec.setWidth_ofNat_of_le (by decide), BitVec.toNat_ofNat]
  | true =>
      rw [if_pos rfl, BitVec.setWidth_or, BitVec.setWidth_ofNat_of_le (by decide),
        show (0x80000000 : BitVec 32).setWidth 31 = 0#31 from rfl, BitVec.or_zero, BitVec.toNat_ofNat]

lemma setBlockCount_limited {n : ℕ} (hn : n % 2 ^ 31 < 2 ^ 16) (reliable : Bool) :
    StepProg (LimitedStep host boot caps t₀) fun recover =>
      sdhcSetBlockCount host recover (.ofNat 32 n) reliable := by
  refine sendCommand_of_step fun w h => h.setBlockCount ?_
  rwa [setBlockCount_field]

lemma packets_limited {n : ℕ} (hn : caps.TakesPackets n) (cmd : SdCommand) (buffer : Buffer) :
    StepProg (LimitedStep host boot caps t₀) fun recover =>
      sdhcSendDataCommand host recover cmd 0 (rpmbTransferSize n) buffer := by
  rw [hn.size]
  exact sendDataCommand_limited hn.1 buffer

lemma rpmbWrite_limited {request : RpmbDataBuffer} (hn : caps.TakesPackets request.packetCount) :
    StepProg (LimitedStep host boot caps t₀) fun recover => rpmbWrite host recover request := by
  unfold rpmbWrite
  exact .orReturn (setBlockCount_limited hn.2 _) (.orReturn (packets_limited hn _ _) (.pure _))

lemma rpmbRead_limited (request : Buffer) {response : RpmbDataBuffer}
    (hn : caps.TakesPackets response.packetCount) :
    StepProg (LimitedStep host boot caps t₀) fun recover =>
      rpmbRead host recover request response := by
  have hone := SdhcCapabilities.TakesPackets.one (hn.1.1.trans hn.1.2)
  unfold rpmbRead
  exact .orReturn (setBlockCount_limited hone.2 _) (.orReturn (packets_limited hone _ _)
    (.orReturn (setBlockCount_limited hn.2 _) (.orReturn (packets_limited hn _ _) (.pure _))))

lemma rpmbDispatch_limited (type : Option RpmbRequestType) {request response : RpmbDataBuffer}
    (hrequest : caps.TakesPackets request.packetCount)
    (hresponse : caps.TakesPackets response.packetCount) :
    StepProg (LimitedStep host boot caps t₀) fun recover =>
      rpmbDispatch host recover type request response := by
  have hone := SdhcCapabilities.TakesPackets.one (hrequest.1.1.trans hrequest.1.2)
  unfold rpmbDispatch
  match type with
  | some .programKey =>
      exact .orReturn (rpmbWrite_limited hone) (.orReturn (rpmbRead_limited _ hone) (.pure _))
  | some .counterValue => exact rpmbRead_limited _ hone
  | some .authRead => exact rpmbRead_limited _ hresponse
  | some .authWrite =>
      exact .orReturn (rpmbWrite_limited hrequest) (.orReturn (rpmbRead_limited _ hone) (.pure _))
  | none => exact .pure _

lemma switchPartition_limited (hmax : 1 ≤ caps.maximumBlockCount.toNat)
    (partition : PartitionAccess) : StepProg (LimitedStep host boot caps t₀) fun recover =>
      sdhcSwitchPartitionMmc host recover partition := by
  have steps := @limitedSteps H B host boot caps t₀ hmax
  unfold sdhcSwitchPartitionMmc switchAndVerifyPartition
  refine .orReturn (.bind (inspect_steps _) fun config => .orReturn ?_ (.orReturn
    sdhcSendExtCsdMmc_built (.orReturn (check_steps _ _ _ _) (.pure _)))) ?_
  · exact sendCommand_of_step fun w h => h.command (by decide) _
  · exact .bind (.modify fun w => DriverSteps.partition w partition) fun _ => .pure _

lemma rpmbIo_limited {call : RpmbCall} (hrequest : caps.TakesPackets call.request.packetCount)
    (hresponse : caps.TakesPackets call.response.packetCount) :
    StepProg (LimitedStep host boot caps t₀) fun recover => rpmbIo host recover call := by
  have hmax := hrequest.1.1.trans hrequest.1.2
  unfold rpmbIo rpmbRequest
  refine .bind (.read fun w h => h) fun valid => .ite ?_ (.pure _)
  refine .bind (inspect_steps _) fun current => .orReturn (switchPartition_limited hmax _) ?_
  refine .bind (.read fun w h => h) fun type => ?_
  refine .bind (rpmbDispatch_limited type hrequest hresponse) fun status => ?_
  exact .bind (switchPartition_limited hmax _) fun switchStatus => .ite (.pure _) (.pure _)

end Functions

/-! ## The callers -/

/-- The callers of `SdhcSendDataCommand`. -/
inductive DataCaller
  | ioBlocks (r : IoRequest)
  | sdhcSendScrSd
  | sdhcSendExtCsdMmc
  | rpmbIo (call : RpmbCall)

/-- A call, with the recovery behind its commands. -/
def DataCaller.run (host : SdhcHost H) (boot : BootServices B) :
    DataCaller → Prog (World H B) (Option EfiStatus)
  | ioBlocks r => (InstanceCall.ioBlocks r).run host boot
  | sdhcSendScrSd => some <$> SdMmc.sdhcSendScrSd host (recovery host boot)
  | sdhcSendExtCsdMmc => some <$> SdMmc.sdhcSendExtCsdMmc host (recovery host boot)
  | rpmbIo call => (InstanceCall.rpmbIo call).run host boot

/-- What the caller makes happen is within the limits, on every host and from every state. -/
def DataCaller.RespectsLimits (caps : SdhcCapabilities) (caller : DataCaller) : Prop :=
  ∀ (H B : Type) (host : SdhcHost H) (boot : BootServices B) (w w' : World H B)
    (r : Option EfiStatus), w.inst.hostCapabilities = caps →
      caller.run host boot w = some (r, w') → LimitedSince caps w.trace w'

/-- The call has packets, and room for the response. -/
def RpmbCall.HasPackets (call : RpmbCall) : Prop :=
  call.request.packets ≠ 0 ∧ call.response.packets ≠ 0 ∧
    call.request.packetCount ≠ 0 ∧ call.response.packetCount ≠ 0

/-- When a caller respects the limits.  `IoBlocks` splits what it sends by the 32-bit size of as many
blocks as the host takes; one block is taken by every host that takes any; the packets of an
RPMB request are as many as the client says. -/
def DataCaller.FitsLimits (caps : SdhcCapabilities) : DataCaller → Prop
  | ioBlocks r => (∃ m : EfiBlockIoMedia, r.Sends m) →
      caps.maximumBlockCount.toNat % maxBlocks32 ≠ 0
  | sdhcSendScrSd => caps.maximumBlockCount ≠ 0
  | sdhcSendExtCsdMmc => caps.maximumBlockCount ≠ 0
  | rpmbIo call => call.HasPackets →
      caps.TakesPackets call.request.packetCount ∧ caps.TakesPackets call.response.packetCount

/-! ### Callers that fit -/

section Fits

variable {host : SdhcHost H} {boot : BootServices B} {caps : SdhcCapabilities} {t₀ : List Event}

lemma one_le_maximumBlockCount (h : caps.maximumBlockCount ≠ 0) :
    1 ≤ caps.maximumBlockCount.toNat :=
  Nat.one_le_iff_ne_zero.mpr fun hzero => h (UInt32.toNat_inj.mp hzero)

lemma sdhcSendScrSd_limited (hmax : 1 ≤ caps.maximumBlockCount.toNat) :
    StepProg (LimitedStep host boot caps t₀) (sdhcSendScrSd host) := by
  unfold sdhcSendScrSd
  exact .bind (inspect_steps _) fun rca =>
    .orReturn (sendDataCommand_limited (takes_one hmax) .blockBuffer) (.pure _)

lemma sdhcSendExtCsdMmc_limited (hmax : 1 ≤ caps.maximumBlockCount.toNat) :
    StepProg (LimitedStep host boot caps t₀) (sdhcSendExtCsdMmc host) := by
  have steps := @limitedSteps H B host boot caps t₀ hmax
  exact sdhcSendExtCsdMmc_built

/-- A request that is turned down sends nothing, and one without bytes neither. -/
lemma ioBlocks_eq_self {σ : Type*} {d : DataPath σ} {r : IoRequest} {s : σ}
    (h : ¬ r.Sends (d.media s)) : (ioBlocks d r s).2 = s := by
  unfold ioBlocks
  split
  · rfl
  · rfl
  · next cmd hcheck =>
      by_cases hbytes : r.bufferSize % 2 ^ 32 = 0
      · simp only [hbytes]
        rw [transferChunks_of_done (l := ⟨⟨0, _, _⟩, none, s⟩) rfl]
      · rw [checkRequest_command hcheck] at hcheck
        exact absurd ⟨hcheck, hbytes⟩ h

lemma rpmbIo_of_not_valid {recover : SdCommand → Prog (World H B) EfiStatus} {call : RpmbCall}
    {w : World H B} (h : ¬ call.Valid w) :
    rpmbIo host recover call w = some (.invalidParameter, w) := by
  unfold rpmbIo
  rw [bind_of_eq_some (show Prog.read (fun w => decide (call.Valid w)) w = some (false, w) by
    simp [h])]
  rfl

lemma respectsLimits_of_fits {caller : DataCaller} (h : caller.FitsLimits caps) :
    caller.RespectsLimits caps := by
  intro H B host boot w w' r hcaps hrun
  have hmap {c : Prog (World H B) EfiStatus} (hc : Preserves (LimitedSince caps w.trace) c)
      (hrun : (some <$> c) w = some (r, w')) : LimitedSince caps w.trace w' := by
    have hmapped : Preserves (LimitedSince caps w.trace) (some <$> c) := Triple.map hc
    exact hmapped w (.refl w) r w' hrun
  cases caller with
  | ioBlocks request =>
      obtain rfl : (ioBlocks (blockPath host boot w.inst.hostCapabilities) request w).2 = w' :=
        congrArg Prod.snd (Option.some.inj hrun)
      by_cases hsends : request.Sends w.inst.media
      · exact ioBlocks_limited (h ⟨w.inst.media, hsends⟩) request hcaps (.refl w)
      · rw [ioBlocks_eq_self hsends]
        exact .refl w
  | sdhcSendScrSd =>
      have hmax := one_le_maximumBlockCount h
      exact hmap (limited_preserves hmax (sdhcSendScrSd_limited hmax)) hrun
  | sdhcSendExtCsdMmc =>
      have hmax := one_le_maximumBlockCount h
      exact hmap (limited_preserves hmax (sdhcSendExtCsdMmc_limited hmax)) hrun
  | rpmbIo call =>
      by_cases hpackets : call.HasPackets
      · obtain ⟨hrequest, hresponse⟩ := h hpackets
        exact hmap (limited_preserves (hrequest.1.1.trans hrequest.1.2)
          (rpmbIo_limited hrequest hresponse)) hrun
      · have hvalid : ¬ call.Valid w := fun hv => hpackets ⟨hv.1, hv.2.1, hv.2.2.1, hv.2.2.2.1⟩
        obtain rfl : w = w' := by
          have hturned : (InstanceCall.rpmbIo call).run host boot w =
              some (some .invalidParameter, w) :=
            bind_of_eq_some (rpmbIo_of_not_valid hvalid)
          exact congrArg Prod.snd (Option.some.inj (hturned.symm.trans hrun))
        exact .refl w

end Fits

/-! ### Callers that do not -/

section Needs

variable {host : SdhcHost H} {boot : BootServices B} {caps : SdhcCapabilities}

/-- Every run comes back with success. -/
def Succeeds (c : Prog (World H B) EfiStatus) : Prop := ∀ w, ∃ w', c w = some (.success, w')

lemma Succeeds.orReturn {c k : Prog (World H B) EfiStatus} (hc : Succeeds c) (hk : Succeeds k) :
    Succeeds (c.orReturn k) := by
  intro w
  obtain ⟨w₁, hrun⟩ := hc w
  obtain ⟨w₂, hrun'⟩ := hk w₁
  exact ⟨w₂, (orReturn_of_ok hrun rfl).trans hrun'⟩

lemma succeeds_pure : Succeeds (H := H) (B := B) (pure .success) := fun w => ⟨w, rfl⟩

/-- What is on the trace stays there. -/
lemma DriverProg.keeps_event {α : Type}
    {f : (SdCommand → Prog (World H B) EfiStatus) → Prog (World H B) α}
    (hf : DriverProg host boot f) (e : Event) :
    Preserves (fun w : World H B => e ∈ w.trace) (f (recovery host boot)) :=
  fun _ h _ _ hrun => (hf.later hrun).trace.subset h

/-- What a caller that respects the limits has done, from a state without history. -/
lemma DataCaller.RespectsLimits.event {caller : DataCaller} (h : caller.RespectsLimits caps)
    {w w' : World H B} {r : Option EfiStatus} (hcaps : w.inst.hostCapabilities = caps)
    (htrace : w.trace = []) (hrun : caller.run host boot w = some (r, w')) {e : Event}
    (he : e ∈ w'.trace) : ∃ past, e.Respects caps past := by
  obtain ⟨t, ht, hlimits⟩ := h H B host boot w w' r hcaps hrun
  rw [htrace, List.nil_append] at ht
  exact hlimits.of_mem (ht ▸ he)

/-- A data command of a host that is always ready is on the trace. -/
lemma sendDataCommand_asks (hready : AlwaysReady host) (cmd : SdCommand)
    (arg : BitVec 32) (size : ℕ) (buffer : Buffer) (w : World H B) :
    ∃ w', sdhcSendDataCommand host (recovery host boot) cmd arg size buffer w =
        some (.success, w') ∧ .command cmd arg (some (transferInfo size buffer)) true ∈ w'.trace := by
  set e : Event := .command cmd arg (some (transferInfo size buffer)) true with he
  obtain ⟨w', hrun⟩ := @AlwaysReady.sendDataCommand H B host hready (recovery host boot) cmd arg
    size buffer w
  have hasks : Triple (fun _ : World H B => True)
      (sdhcSendDataCommand host (recovery host boot) cmd arg size buffer)
      fun status w => status.isError = false → e ∈ w.trace := by
    refine sdhcSendDataCommand_success (S := fun w => e ∈ w.trace) (T := fun w => e ∈ w.trace)
      (fun w _ hok => ?_) ?_ ?_ fun w w' hstep h => hstep.bus.later.trace.subset h
    · have htrace : (afterCommand host cmd arg (some (transferInfo size buffer)) w).2.trace =
          w.trace ++ helperEvents host cmd arg (some (transferInfo size buffer)) w true := by
        rw [← Bool.not_false, ← hok]
        rfl
      rw [htrace, helperEvents]
      split <;> simp [hready.command_ok, he]
    · have hdata : DriverProg host boot fun _ => transferData host cmd size buffer :=
        (transferData_built cmd size buffer).transfer.request.driver
      exact (hdata.keeps_event e).weaken fun _ _ h _ => h
    · have hstop : TransferProg (B := B) host fun recover => stopOpenEnded host recover cmd :=
        stopOpenEnded_steps .nullCommand cmd
      exact (hstop.request.driver.keeps_event e).weaken fun _ _ h _ => h
  exact ⟨w', hrun, hasks w trivial _ _ hrun rfl⟩

section Blocks

variable {σ : Type*} {d : DataPath σ} {P : σ → Prop} {cmd : SdCommand} {maxSize : ℕ}

/-- What the first attempt establishes and the data commands keep. -/
lemma transferChunks_first
    (hkeep : ∀ arg size buffer s, P s → P (d.sdhcSendDataCommand cmd arg size buffer s).2)
    {c : Cursor} {s : σ} (hbytes : c.bytesRemaining ≠ 0)
    (hfirst : P (d.sdhcSendDataCommand cmd c.currentLba (c.size maxSize) c.currentBuffer s).2)
    (bound : ℕ) (status : Option EfiStatus) :
    P (transferChunks d cmd maxSize (bound + 1) c status s).2 := by
  have hchunk : P (sendWithRetry d cmd c.currentLba (c.size maxSize) c.currentBuffer
      dataCommandRetryCount status s).2 := by
    unfold dataCommandRetryCount sendWithRetry
    simp only
    split
    · exact sendWithRetry_preserves (fun s hs => hkeep _ _ _ s hs) _ _ hfirst
    · exact hfirst
  rw [transferChunks_round hbytes]
  simp only
  split
  · exact hchunk
  · exact transferChunks_preserves hkeep _ _ _ _ hchunk

end Blocks

/-- A host that takes a multiple of `2 ^ 32` bytes is asked for no block at all. -/
lemma ioBlocks_asks (hready : AlwaysReady host) {r : IoRequest} {w : World H B}
    (hsends : r.Sends w.inst.media)
    (hmax : caps.maximumBlockCount.toNat % maxBlocks32 = 0) :
    ∃ arg, .command (r.command w.inst.media) arg (some (transferInfo 0 (.caller r.buffer))) true ∈
      (ioBlocks (blockPath host boot caps) r w).2.trace := by
  obtain ⟨hcheck, hbytes⟩ := hsends
  obtain ⟨-, hmul, -⟩ := checkRequest_span hcheck
  have hblock := w.inst.media.blockSize_eq.resolve_left (checkRequest_eq_ok hcheck).2.2.1
  rw [hblock] at hmul
  have hsize : maxTransferSize (blockPath host boot caps) w = 0 := by
    rw [(@wrapped_sizes _ (blockPath host boot caps) r w hblock hmul).2]
    exact (congrArg _ hmax).trans (Nat.mul_zero _)
  obtain ⟨bound, hbound⟩ : ∃ n, r.bufferSize % 2 ^ 32 = n + 1 := Nat.exists_eq_succ_of_ne_zero hbytes
  have hio : ioBlocks (blockPath host boot caps) r w =
      transferChunks (blockPath host boot caps) (r.command w.inst.media) 0 (bound + 1)
        ⟨r.bufferSize % 2 ^ 32, r.lba % 2 ^ 32, r.buffer⟩ none w := by
    rw [← hsize, ← hbound]
    unfold ioBlocks
    rw [show checkRequest ((blockPath host boot caps).media w) r = _ from hcheck]
    rfl
  refine ⟨.ofNat 32 (r.lba % 2 ^ 32), ?_⟩
  rw [hio]
  set e : Event := .command (r.command w.inst.media) (.ofNat 32 (r.lba % 2 ^ 32))
    (some (transferInfo 0 (.caller r.buffer))) true
  refine transferChunks_first (P := fun w' : World H B => e ∈ w'.trace)
    (c := ⟨_, r.lba % 2 ^ 32, r.buffer⟩) (fun arg size buffer s hs => ?_) hbytes ?_ bound none
  · exact (sdhcSendDataCommand_request _ _ _ _).driver.keeps_event _ s hs _ _
      (blockPath_apply caps _ arg size buffer s)
  · obtain ⟨w', hrun, hasks⟩ := @sendDataCommand_asks H B host boot hready (r.command w.inst.media)
      (.ofNat 32 (r.lba % 2 ^ 32)) 0 (.caller r.buffer) w
    have happly := (@blockPath_apply H B host boot caps (r.command w.inst.media) (r.lba % 2 ^ 32) 0
      r.buffer w).symm.trans hrun
    simp only [Cursor.size, Nat.not_lt_zero, if_false]
    rw [Option.some.inj happly]
    exact hasks

/-! Packets. -/

lemma AlwaysReady.rpmbWrite_succeeds (hready : AlwaysReady host)
    {recover : SdCommand → Prog (World H B) EfiStatus} (request : RpmbDataBuffer) :
    Succeeds (rpmbWrite host recover request) := by
  unfold rpmbWrite
  exact .orReturn (hready.sendCommand _ _)
    (.orReturn (hready.sendDataCommand _ _ _ _) succeeds_pure)

lemma AlwaysReady.rpmbRead_succeeds (hready : AlwaysReady host)
    {recover : SdCommand → Prog (World H B) EfiStatus} (request : Buffer)
    (response : RpmbDataBuffer) : Succeeds (rpmbRead host recover request response) := by
  unfold rpmbRead
  exact .orReturn (hready.sendCommand _ _) (.orReturn (hready.sendDataCommand _ _ _ _)
    (.orReturn (hready.sendCommand _ _) (.orReturn (hready.sendDataCommand _ _ _ _) succeeds_pure)))

lemma AlwaysReady.rpmbDispatch_succeeds (hready : AlwaysReady host)
    {recover : SdCommand → Prog (World H B) EfiStatus} (type : Option RpmbRequestType)
    (request response : RpmbDataBuffer) :
    Succeeds (rpmbDispatch host recover type request response) := by
  unfold rpmbDispatch
  match type with
  | some .programKey =>
      exact .orReturn (hready.rpmbWrite_succeeds _)
        (.orReturn (hready.rpmbRead_succeeds _ _) succeeds_pure)
  | some .counterValue => exact hready.rpmbRead_succeeds _ _
  | some .authRead => exact hready.rpmbRead_succeeds _ _
  | some .authWrite =>
      exact .orReturn (hready.rpmbWrite_succeeds _)
        (.orReturn (hready.rpmbRead_succeeds _ _) succeeds_pure)
  | none => exact succeeds_pure

/-- The card is on the RPMB partition whenever it reports its `EXT_CSD`. -/
def ReportsRpmb (host : SdhcHost H) : Prop :=
  ∀ size h, (host.readBlockData size h).2.1 179 = 3

lemma ReportsRpmb.extCsdData (hrpmb : ReportsRpmb host)
    {recover : SdCommand → Prog (World H B) EfiStatus} (arg : BitVec 32) :
    Triple (fun _ : World H B => True)
      (sdhcSendDataCommand host recover cmdSendExtCsdMmc arg sdBlockLengthBytes .blockBuffer)
      fun status w => status.isError = false → w.inst.blockBuffer 179 = 3 := by
  refine sdhcSendDataCommand_success (S := fun _ => True)
    (T := fun w => w.inst.blockBuffer 179 = 3) (fun _ _ _ => trivial) ?_ ?_ fun w w' hstep h => ?_
  · exact Triple.step fun w _ _ => hrpmb sdBlockLengthBytes w.host
  · rw [stopOpenEnded_of_not_isMultiBlock (by decide)]
    exact Triple.pure fun w hw _ => hw
  · cases hstep with
    | stay => exact h
    | status arg => exact h

lemma AlwaysReady.switchPartition_succeeds (hready : AlwaysReady host) (hrpmb : ReportsRpmb host)
    {recover : SdCommand → Prog (World H B) EfiStatus} :
    Succeeds (sdhcSwitchPartitionMmc host recover partitionRpmb) := by
  intro w
  obtain ⟨w₁, hswitch⟩ := @AlwaysReady.sendCommand H B host hready recover cmdSwitchMmc
    (switchArg 179 (withPartitionAccess w.inst.registers.partitionConfig partitionRpmb)) w
  obtain ⟨w₂, hread⟩ := @AlwaysReady.sendDataCommand H B host hready recover cmdSendExtCsdMmc
    (w₁.inst.rca <<< 16) sdBlockLengthBytes .blockBuffer w₁
  have hbuffer := hrpmb.extCsdData _ w₁ trivial _ _ hread rfl
  let w₃ : World H B := { w₂ with
    inst := w₂.inst.withExtCsd
    trace := w₂.trace ++ [.extCsd (w₂.inst.blockBuffer 179)] }
  have hextCsd : sdhcSendExtCsdMmc host recover w₁ = some (.success, w₃) := by
    unfold sdhcSendExtCsdMmc
    rw [bind_of_eq_some (show inspect (·.rca) w₁ = some (w₁.inst.rca, w₁) from rfl),
      orReturn_of_ok hread rfl]
    rfl
  have hconfig : partitionAccess w₃.inst.registers.partitionConfig = partitionRpmb := by
    rw [show w₃.inst.registers.partitionConfig = 3 from hbuffer]
    decide
  have hverify : (do
      let config ← inspect (·.registers.partitionConfig)
      if partitionAccess config ≠ partitionRpmb then return .deviceError else return .success :
        Prog (World H B) EfiStatus) w₃ = some (.success, w₃) := by
    rw [bind_of_eq_some (show inspect (·.registers.partitionConfig) w₃ =
      some (w₃.inst.registers.partitionConfig, w₃) from rfl), if_neg (not_not.mpr hconfig)]
    rfl
  have hpartition : switchAndVerifyPartition host recover partitionRpmb w = some (.success, w₃) := by
    unfold switchAndVerifyPartition
    rw [bind_of_eq_some (show inspect (·.registers.partitionConfig) w =
      some (w.inst.registers.partitionConfig, w) from rfl)]
    exact (orReturn_of_ok hswitch rfl).trans ((orReturn_of_ok hextCsd rfl).trans
      ((orReturn_of_ok hverify rfl).trans rfl))
  unfold sdhcSwitchPartitionMmc
  exact ⟨_, orReturn_of_ok hpartition rfl⟩

/-- A valid request succeeds. -/
lemma rpmbIo_succeeds (hready : AlwaysReady host) (hrpmb : ReportsRpmb host) {call : RpmbCall}
    {w : World H B} (hvalid : call.Valid w) (hcur : w.inst.currentMmcPartition = partitionRpmb) :
    ∃ w', rpmbIo host (recovery host boot) call w = some (.success, w') := by
  have hswitch := @AlwaysReady.switchPartition_succeeds H B host hready hrpmb (recovery host boot)
  obtain ⟨w₁, hfirst⟩ := hswitch w
  obtain ⟨w₂, hpackets⟩ := @AlwaysReady.rpmbDispatch_succeeds H B host hready (recovery host boot)
    (RpmbRequestType.ofCode (w₁.rpmbMessageType call.request.packets)) call.request call.response w₁
  obtain ⟨w₃, hsecond⟩ := hswitch w₂
  refine ⟨w₃, ?_⟩
  unfold rpmbIo
  rw [bind_of_eq_some (show Prog.read (fun w => decide (call.Valid w)) w = some (true, w) by
    simp [hvalid]), if_pos rfl]
  unfold rpmbRequest
  rw [bind_of_eq_some (show inspect (·.currentMmcPartition) w =
    some (w.inst.currentMmcPartition, w) from rfl), orReturn_of_ok hfirst rfl,
    bind_of_eq_some (show Prog.read (fun w : World H B => RpmbRequestType.ofCode
      (w.rpmbMessageType call.request.packets)) w₁ = some (_, w₁) from rfl),
    bind_of_eq_some hpackets, hcur, bind_of_eq_some hsecond]
  rfl

end Needs

/-! ### A host that is always ready -/

/-- A host whose card answers everything, and is on the RPMB partition. -/
def readyHost (caps : SdhcCapabilities) : SdhcHost Unit where
  capabilities := caps
  cleanup c := c
  sendCommand _ _ _ c := (.success, c)
  receiveResponse _ _ c := (.success, fun _ => 0x900, c)
  softwareReset _ c := (.success, c)
  setClock _ c := (.success, c)
  setBusWidth _ c := (.success, c)
  isCardPresent c := (true, c)
  isReadOnly c := (false, c)
  readBlockData _ c := (.success, fun _ => 3, c)
  writeBlockData _ _ c := (.success, c)

lemma readyHost_ready (caps : SdhcCapabilities) : AlwaysReady (readyHost caps) where
  command_ok _ _ _ _ := rfl
  response_eq _ _ _ := ⟨rfl, rfl⟩
  read_ok _ _ := rfl
  write_ok _ _ _ := rfl

/-- The instance of such a host. -/
def readyWorld (caps : SdhcCapabilities) (m : EfiBlockIoMedia) (callerMemory : ByteStore) :
    World Unit (ℕ × List Published) where
  address := 1
  inst := { createSdhcInstance 0 caps with media := m, currentMmcPartition := partitionRpmb }
  trace := []
  resultRequest := fun _ => 0
  callerMemory := callerMemory
  host := ()
  boot := (0, [])

/-- The value of a request type. -/
def RpmbRequestType.code : RpmbRequestType → UInt8
  | .programKey => 1
  | .counterValue => 2
  | .authWrite => 3
  | .authRead => 4

/-- A client's memory with a request packet of the right type. -/
def RpmbCall.memory (call : RpmbCall) : ByteStore :=
  fun i => if i = call.request.packets + 511 then call.type.code else 0

lemma RpmbCall.HasPackets.valid {caps : SdhcCapabilities} {m : EfiBlockIoMedia} {call : RpmbCall}
    (h : call.HasPackets) : call.Valid (readyWorld caps m call.memory) := by
  refine ⟨h.1, h.2.1, h.2.2.1, h.2.2.2, ?_⟩
  have htype : (readyWorld caps m call.memory).rpmbMessageType call.request.packets =
      call.type.code.toNat := by
    simp [World.rpmbMessageType, World.load, readyWorld, memory]
  rw [htype]
  cases call.type <;> rfl

/-- A number of packets is announced, and as many are transferred. -/
def Counts (n : ℕ) (t : List Event) : Prop :=
  ∃ (reliable : Bool) (cmd : SdCommand) (buffer : Buffer),
    .command cmdSetBlockCount (if reliable then .ofNat 32 n ||| 0x80000000 else .ofNat 32 n) none
        true ∈ t ∧
      .command cmd 0 (some (transferInfo (rpmbTransferSize n) buffer)) true ∈ t

section Counts

variable {n : ℕ} {t t' : List Event}

lemma Counts.left (h : Counts n t) : Counts n (t ++ t') := by
  obtain ⟨reliable, cmd, buffer, hcount, hdata⟩ := h
  exact ⟨reliable, cmd, buffer, List.mem_append_left _ hcount, List.mem_append_left _ hdata⟩

lemma Counts.right (h : Counts n t') : Counts n (t ++ t') := by
  obtain ⟨reliable, cmd, buffer, hcount, hdata⟩ := h
  exact ⟨reliable, cmd, buffer, List.mem_append_right _ hcount, List.mem_append_right _ hdata⟩

lemma counts_reliable (n : ℕ) (buffer : Buffer) :
    Counts n (writeEvents (.ofNat 32 n ||| 0x80000000) (rpmbTransferSize n) buffer) :=
  ⟨true, _, _, List.mem_cons_self, List.mem_cons_of_mem _ List.mem_cons_self⟩

lemma counts_request (buffer : Buffer) : Counts 1 (writeEvents 1 rpmbPacketSize buffer) :=
  ⟨false, _, _, List.mem_cons_self, List.mem_cons_of_mem _ List.mem_cons_self⟩

lemma counts_read (n : ℕ) (buffer : Buffer) :
    Counts n (readEvents (.ofNat 32 n) (rpmbTransferSize n) buffer) :=
  ⟨false, _, _, List.mem_cons_self, List.mem_cons_of_mem _ List.mem_cons_self⟩

/-- Each of the two counts of a call is one of packets it sends. -/
lemma sentPackets_counts (call : RpmbCall)
    (hn : n = call.request.packetCount ∨ n = call.response.packetCount) :
    Counts n (sentPackets call.type call.request call.response) := by
  cases call with
  | programKey =>
      obtain rfl : n = 1 := hn.elim id id
      exact (counts_reliable 1 _).left
  | readCounter =>
      obtain rfl : n = 1 := hn.elim id id
      exact (counts_request _).left
  | authenticatedWrite request response =>
      rcases hn with rfl | rfl
      · exact (counts_reliable _ _).left
      · exact (counts_request _).left.right
  | authenticatedRead request response =>
      rcases hn with rfl | rfl
      · exact (counts_request _).left
      · exact (counts_read _ _).right

end Counts

section Needs

variable {caps : SdhcCapabilities}

/-- A count that is announced and transferred within the limits is one the host takes. -/
lemma takesPackets_of_respects {n : ℕ} {reliable ok ok' : Bool} {cmd : SdCommand} {buffer : Buffer}
    {past past' : List Event}
    (hcount : (Event.command cmdSetBlockCount
      (if reliable then .ofNat 32 n ||| 0x80000000 else .ofNat 32 n) none ok).Respects caps past)
    (hdata : (Event.command cmd 0 (some (transferInfo (rpmbTransferSize n) buffer)) ok').Respects
      caps past') : caps.TakesPackets n := by
  have hfield := hcount rfl
  rw [setBlockCount_field] at hfield
  have hblocks : (transferInfo (rpmbTransferSize n) buffer).blockCount.toNat = n % 2 ^ 31 := by
    simp only [transferInfo, rpmbTransferSize, rpmbPacketSize, sdBlockLengthBytes,
      UInt32.toNat_ofNat']
    omega
  refine ⟨?_, hfield⟩
  rw [← hblocks]
  exact hdata.2

/-- The counts of a request that succeeds are ones the host takes. -/
lemma takesPackets_of_success {host : SdhcHost H} {boot : BootServices B} {call : RpmbCall}
    {w w' : World H B} (h : (DataCaller.rpmbIo call).RespectsLimits caps)
    (hcaps : w.inst.hostCapabilities = caps)
    (hrun : rpmbIo host (recovery host boot) call w = some (.success, w')) {n : ℕ}
    (hn : n = call.request.packetCount ∨ n = call.response.packetCount) :
    caps.TakesPackets n := by
  obtain ⟨t, ht, hlimits⟩ := h H B host boot w w' _ hcaps (bind_of_eq_some hrun)
  obtain ⟨-, arg, reported, arg', reported', hvisible⟩ := rpmbIo_success hrun
  rw [ht, visible_append] at hvisible
  have hsent (e : Event) (he : e ∈ sentPackets call.type call.request call.response) : e ∈ t := by
    have hmem : e ∈ visible t := by
      rw [List.append_cancel_left hvisible]
      simp [he]
    exact List.mem_of_mem_filter hmem
  obtain ⟨reliable, cmd, buffer, hcount, hdata⟩ := sentPackets_counts call hn
  obtain ⟨past, hcount⟩ := hlimits.of_mem (hsent _ hcount)
  obtain ⟨past', hdata⟩ := hlimits.of_mem (hsent _ hdata)
  exact takesPackets_of_respects hcount hdata

/-- A host that takes the one block of a register takes some. -/
lemma maximumBlockCount_ne_zero_of_respects {cmd : SdCommand} {arg : BitVec 32} {ok : Bool}
    {past : List Event} (h : (Event.command cmd arg
      (some (transferInfo sdBlockLengthBytes .blockBuffer)) ok).Respects caps past) :
    caps.maximumBlockCount ≠ 0 := by
  intro hzero
  have hone : 1 ≤ caps.maximumBlockCount.toNat := h.2.1.trans h.2.2
  rw [hzero] at hone
  exact absurd hone (by decide)

lemma fits_of_respectsLimits {caller : DataCaller} (h : caller.RespectsLimits caps) :
    caller.FitsLimits caps := by
  have hready := readyHost_ready caps
  cases caller with
  | ioBlocks r =>
      rintro ⟨m, hsends⟩ hzero
      obtain ⟨arg, hasks⟩ := @ioBlocks_asks Unit _ (readyHost caps) (scriptedBoot (.quiet true)) caps
        hready r (readyWorld caps m fun _ => 0) hsends hzero
      obtain ⟨past, -, hone, -⟩ := h.event rfl rfl
        (show (DataCaller.ioBlocks r).run _ _ _ = some (_, _) from rfl) hasks
      exact absurd hone (show ¬ 1 ≤ 0 by decide)
  | sdhcSendScrSd =>
      let w := readyWorld caps .template fun _ => 0
      obtain ⟨w', hrun, hasks⟩ := @sendDataCommand_asks Unit _ (readyHost caps)
        (scriptedBoot (.quiet true)) hready cmdAppSendScrSd (w.inst.rca <<< 16) sdBlockLengthBytes
        .blockBuffer w
      have hcall : SdMmc.sdhcSendScrSd (readyHost caps)
          (recovery (readyHost caps) (scriptedBoot (.quiet true))) w = some (.success, w') := by
        unfold SdMmc.sdhcSendScrSd
        rw [bind_of_eq_some (show inspect (·.rca) w = some (w.inst.rca, w) from rfl),
          orReturn_of_ok hrun rfl]
        rfl
      obtain ⟨past, hblock⟩ := h.event rfl rfl (bind_of_eq_some hcall) hasks
      exact maximumBlockCount_ne_zero_of_respects hblock
  | sdhcSendExtCsdMmc =>
      let w := readyWorld caps .template fun _ => 0
      obtain ⟨w', hrun, hasks⟩ := @sendDataCommand_asks Unit _ (readyHost caps)
        (scriptedBoot (.quiet true)) hready cmdSendExtCsdMmc (w.inst.rca <<< 16) sdBlockLengthBytes
        .blockBuffer w
      let w'' : World Unit (ℕ × List Published) := { w' with
        inst := w'.inst.withExtCsd
        trace := w'.trace ++ [.extCsd (w'.inst.blockBuffer 179)] }
      have hcall : SdMmc.sdhcSendExtCsdMmc (readyHost caps)
          (recovery (readyHost caps) (scriptedBoot (.quiet true))) w = some (.success, w'') := by
        unfold SdMmc.sdhcSendExtCsdMmc
        rw [bind_of_eq_some (show inspect (·.rca) w = some (w.inst.rca, w) from rfl),
          orReturn_of_ok hrun rfl]
        rfl
      obtain ⟨past, hblock⟩ := h.event rfl rfl (bind_of_eq_some hcall)
        (List.mem_append_left _ hasks)
      exact maximumBlockCount_ne_zero_of_respects hblock
  | rpmbIo call =>
      intro hpackets
      obtain ⟨w', hrun⟩ := @rpmbIo_succeeds Unit _ (readyHost caps) (scriptedBoot (.quiet true))
        hready (fun _ _ => rfl) call (readyWorld caps .template call.memory) hpackets.valid rfl
      exact ⟨takesPackets_of_success h rfl hrun (.inl rfl),
        takesPackets_of_success h rfl hrun (.inr rfl)⟩

end Needs

/-- Exactly the callers that fit a host respect its limits. -/
theorem respectsLimits_iff (caps : SdhcCapabilities) (caller : DataCaller) :
    caller.RespectsLimits caps ↔ caller.FitsLimits caps :=
  ⟨fits_of_respectsLimits, respectsLimits_of_fits⟩

/-! ## Packets that do not fit -/

/-- A client reads more packets than SET_BLOCK_COUNT has numbers for. -/
def manyPackets : RpmbCall := .authenticatedRead 0x1000 ⟨0x2000, 65536⟩

/-- The driver was started on an MMC card, and the client has laid out its request. -/
def manyPacketsWorld : World ScriptedCard (ℕ × List Published) :=
  { quietWorld with callerMemory := manyPackets.memory }

/-- The request. -/
def readManyPackets : Prog (World ScriptedCard (ℕ × List Published)) EfiStatus :=
  rpmbIo (scriptedHost (.quiet true))
    (recovery (scriptedHost (.quiet true)) (scriptedBoot (.quiet true))) manyPackets

lemma readManyPackets_returns : (readManyPackets manyPacketsWorld).isSome = true := by
  decide +kernel

lemma readManyPackets_success :
    ((readManyPackets manyPacketsWorld).get readManyPackets_returns).1 = .success := by
  decide +kernel

/-- The driver sends the count as it is, and the request succeeds. -/
theorem not_respectsLimits_manyPackets :
    ¬ (DataCaller.rpmbIo manyPackets).RespectsLimits manyPacketsWorld.inst.hostCapabilities := by
  intro hrespects
  have hrun : readManyPackets manyPacketsWorld =
      some (.success, ((readManyPackets manyPacketsWorld).get readManyPackets_returns).2) := by
    rw [← readManyPackets_success]
    exact eq_some_get readManyPackets_returns
  have htakes := takesPackets_of_success hrespects rfl hrun (.inr rfl)
  exact absurd htakes.2 (by decide)

end SdMmc
end MuPlatform
