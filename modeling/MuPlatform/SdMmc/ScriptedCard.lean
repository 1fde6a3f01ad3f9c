import MuPlatform.SdMmc.CardPartition
import MuPlatform.SdMmc.Pool

/-!
# A scripted card

A host controller with a card of 512-byte blocks behind it, and boot services with a handle
database, that do what they are asked for except where a script says that they fail.  The card is
an SD card or an MMC card; an MMC card keeps its `PARTITION_CONFIG`, which SWITCH writes,
GO_IDLE_STATE resets to the user area and `EXT_CSD` reports.
-/

namespace MuPlatform
namespace SdMmc

/-! ## The card -/

/-- Which commands, data phases and line resets fail, and when a card is in the slot, all by the
number of commands sent before; and which installations and uninstallations are refused, by their
number. -/
structure Script where
  mmc : Bool
  fails : ℕ → Bool
  dataFails : ℕ → Bool
  resetFails : ℕ → Bool
  present : ℕ → Bool
  refuses : ℕ → Bool

/-- The script without failures. -/
def Script.quiet (mmc : Bool) : Script where
  mmc := mmc
  fails _ := false
  dataFails _ := false
  resetFails _ := false
  present _ := true
  refuses _ := false

/-- The state of the host controller and its card. -/
structure ScriptedCard where
  sent : ℕ
  partitionConfig : UInt8

/-- A card that is not there or does not know the command does not answer it. -/
def Script.unanswered (o : Script) (cmd : SdCommand) : Bool :=
  cmd = cmdSendOpCondSdio || cmd = cmdSendIfCondSd && o.mmc

/-- The response to a command: the check pattern, an operating condition with `PowerUp` and sector
mode, a `CSD` of specification version 4, and otherwise a status word of a card that is ready in
the transfer state. -/
def scriptedResponse (cmd : SdCommand) : CmdResponse :=
  if cmd = cmdSendIfCondSd then fun _ => 0x1AA
  else if cmd = cmdSendOpCondMmc ∨ cmd = cmdAppSendOpCondSd then fun _ => 0xC0FF8000
  else if cmd = cmdSendCsd then
    fun i => if i = 2 then 0x32000000 else if i = 3 then 0x00500000 else 0xFFFFFFFF
  else fun _ => 0x900

/-- The host controller with the scripted card. -/
def scriptedHost (o : Script) : SdhcHost ScriptedCard where
  capabilities := ⟨512, 8⟩
  cleanup c := c
  sendCommand cmd arg _ c :=
    if o.fails c.sent || o.unanswered cmd then (.timeout, { c with sent := c.sent + 1 })
    else (.success, ⟨c.sent + 1, configAfter cmd arg c.partitionConfig⟩)
  receiveResponse cmd _ c := (.success, scriptedResponse cmd, c)
  softwareReset _ c := (if o.resetFails c.sent then .timeout else .success, c)
  setClock _ c := (.success, c)
  setBusWidth _ c := (.success, c)
  isCardPresent c := (o.present c.sent, c)
  isReadOnly c := (false, c)
  readBlockData _ c :=
    (if o.dataFails c.sent then .timeout else .success,
      fun i => if i = 179 then c.partitionConfig else if i = 185 then 1 else 0, c)
  writeBlockData _ _ c := (if o.dataFails c.sent then .timeout else .success, c)

/-! ## The boot services -/

/-- Boot services with a handle database that refuse an installation or uninstallation if the
script says so; the number is that of the calls before. -/
def scriptedBoot (o : Script) : BootServices (ℕ × List Published) where
  installProtocol e b :=
    if o.refuses b.1 = true ∨ ∃ e' ∈ b.2, e'.protocol = e.protocol ∧ e'.handle = e.handle then
      (.invalidParameter, b.1 + 1, b.2)
    else (.success, b.1 + 1, e :: b.2)
  uninstallProtocol e b :=
    if o.refuses b.1 then (.accessDenied, b.1 + 1, b.2) else (.success, b.1 + 1, b.2.erase e)
  locateProtocol p b := if ∃ e ∈ b.2, e.protocol = p then .success else .notFound
  convertDevicePathToText b := (true, b)
  handleDatabase b := b.2
  install_success e b := by
    split
    · exact fun h => absurd h (by simp [EfiStatus.isError])
    · next hok =>
        push Not at hok
        exact fun _ => ⟨hok.2, rfl⟩
  install_error e b := by
    split
    · exact fun _ => rfl
    · exact fun h => absurd h (by simp [EfiStatus.isError])
  uninstall_success e b := by
    split
    · exact fun h => absurd h (by simp [EfiStatus.isError])
    · exact fun _ => rfl
  uninstall_error e b := by
    split
    · exact fun _ => rfl
    · exact fun h => absurd h (by simp [EfiStatus.isError])
  locate_iff p b := by
    split
    · next h => exact iff_of_true rfl h
    · next h => exact iff_of_false (by simp [EfiStatus.isError]) h
  convert_database _ := rfl

/-! ## The pool -/

/-- The pool before the driver is started. -/
def scriptedPool : Pool ScriptedCard (ℕ × List Published) where
  resultRequest := fun _ => 0
  callerMemory := fun _ => 0
  host := ⟨0, 0⟩
  boot := (0, [])
  live := fun _ => none
  listed := []

/-- The driver on scripted cards. -/
def scriptedSystem (o : Script) :
    System (Pool ScriptedCard (ℕ × List Published)) (PoolCall ScriptedCard (ℕ × List Published)) :=
  poolSystem (fun _ => scriptedHost o) (scriptedBoot o)

/-- The pool after some calls. -/
def scriptedRun (o : Script) (calls : List (PoolCall ScriptedCard (ℕ × List Published))) :
    Option (Pool ScriptedCard (ℕ × List Published)) :=
  runCalls (fun _ => scriptedHost o) (scriptedBoot o) calls scriptedPool

lemma scriptedPool_init (o : Script) : (scriptedSystem o).Init scriptedPool :=
  ⟨fun _ => rfl, rfl, List.Pairwise.nil⟩

lemma scriptedRun_reachable {o : Script}
    {calls : List (PoolCall ScriptedCard (ℕ × List Published))}
    (h : (scriptedRun o calls).isSome = true) :
    (scriptedSystem o).Reachable ((scriptedRun o calls).get h) :=
  runCalls_reachable (.init (scriptedPool_init o)) (Option.some_get h).symm

lemma mmcRun : (scriptedRun (.quiet true) [.start 7 1]).isSome = true := by decide +kernel

/-- The pool after the driver was started on an MMC card. -/
def mmcPool : Pool ScriptedCard (ℕ × List Published) :=
  (scriptedRun (.quiet true) [.start 7 1]).get mmcRun

lemma mmcPool_live : (mmcPool.live 1).isSome = true := by decide +kernel

end SdMmc
end MuPlatform
