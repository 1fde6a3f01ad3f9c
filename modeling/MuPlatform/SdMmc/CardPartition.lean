import MuPlatform.SdMmc.Commands

/-!
# The partition of the card

What an eMMC card makes of the commands in a trace.  `PARTITION_CONFIG` is written by the SWITCH
commands the card accepted, and GO_IDLE_STATE resets its `PARTITION_ACCESS` to the user area.  A
card is truthful in a trace where every `EXT_CSD` it reports has that value.
-/

namespace MuPlatform
namespace SdMmc

/-- `PARTITION_CONFIG` of a card after it accepted a command. -/
def configAfter (cmd : SdCommand) (arg : BitVec 32) (config : UInt8) : UInt8 :=
  if cmd = cmdGoIdleState then withPartitionAccess config partitionUserArea
  else if SetsPartition cmd arg then .ofBitVec (arg.extractLsb' 8 8)
  else config

/-- `PARTITION_CONFIG` after an event. -/
def Event.configAfter (config : UInt8) : Event → UInt8
  | .command cmd arg _ true => SdMmc.configAfter cmd arg config
  | _ => config

/-- `PARTITION_CONFIG` after a trace. -/
def cardConfig (config : UInt8) (t : List Event) : UInt8 := t.foldl Event.configAfter config

/-- An `EXT_CSD` in the event has this `PARTITION_CONFIG`. -/
def Event.Reports (config : UInt8) : Event → Prop
  | .extCsd reported => reported = config
  | _ => True

instance (config : UInt8) : (e : Event) → Decidable (e.Reports config)
  | .extCsd reported => inferInstanceAs (Decidable (reported = config))
  | .appCommand .. | .command .. | .data .. | .nullCommand | .lineReset .. | .recovery _
  | .softReset | .install .. | .uninstall .. => .isTrue trivial

/-- The card reports what it has. -/
def Truthful : UInt8 → List Event → Prop
  | _, [] => True
  | config, e :: t => e.Reports config ∧ Truthful (e.configAfter config) t

instance decidableTruthful : (config : UInt8) → (t : List Event) → Decidable (Truthful config t)
  | _, [] => .isTrue trivial
  | config, e :: t =>
      have := decidableTruthful (e.configAfter config) t
      inferInstanceAs (Decidable (_ ∧ _))

@[simp] lemma cardConfig_nil (config : UInt8) : cardConfig config [] = config := rfl

@[simp] lemma cardConfig_append (config : UInt8) (t t' : List Event) :
    cardConfig config (t ++ t') = cardConfig (cardConfig config t) t' :=
  List.foldl_append ..

lemma truthful_append {config : UInt8} {t t' : List Event} :
    Truthful config (t ++ t') ↔ Truthful config t ∧ Truthful (cardConfig config t) t' := by
  induction t generalizing config with
  | nil => simp [Truthful]
  | cons e t ih =>
      rw [List.cons_append, Truthful, Truthful, ih, and_assoc]
      rfl

/-! ## The fields -/

@[simp] lemma partitionAccess_withPartitionAccess (config : UInt8) (p : PartitionAccess) :
    partitionAccess (withPartitionAccess config p) = p :=
  BitVec.setWidth_append_eq_right

@[simp] lemma withPartitionAccess_withPartitionAccess (config : UInt8) (p q : PartitionAccess) :
    withPartitionAccess (withPartitionAccess config p) q = withPartitionAccess config q := by
  have hhigh : (config.toBitVec.extractLsb' 3 5 ++ p).extractLsb' 3 5 =
      config.toBitVec.extractLsb' 3 5 := BitVec.extractLsb'_append_eq_left
  apply UInt8.toBitVec_inj.mp
  show (config.toBitVec.extractLsb' 3 5 ++ p).extractLsb' 3 5 ++ q =
    config.toBitVec.extractLsb' 3 5 ++ q
  rw [hhigh]

lemma switchArg_index (index value : UInt8) :
    (switchArg index value).extractLsb' 16 8 = index.toBitVec := by
  unfold switchArg
  rw [BitVec.extractLsb'_append_eq_of_le (by decide), BitVec.extractLsb'_append_eq_of_le (by decide)]
  exact BitVec.extractLsb'_append_eq_right

lemma switchArg_value (index value : UInt8) :
    (switchArg index value).extractLsb' 8 8 = value.toBitVec := by
  unfold switchArg
  rw [BitVec.extractLsb'_append_eq_of_le (by decide)]
  exact BitVec.extractLsb'_append_eq_right

lemma setsPartition_switchArg (value : UInt8) :
    SetsPartition cmdSwitchMmc (switchArg 179 value) :=
  ⟨rfl, switchArg_index 179 value⟩

/-- A card that accepts the SWITCH of `SdhcSwitchPartitionMmc` has the value it was sent. -/
lemma configAfter_switchArg (value config : UInt8) :
    configAfter cmdSwitchMmc (switchArg 179 value) config = value := by
  unfold configAfter
  rw [if_neg (by decide), if_pos (setsPartition_switchArg value), switchArg_value]

/-- Other commands than GO_IDLE_STATE and the SWITCH for it leave `PARTITION_CONFIG` alone. -/
lemma configAfter_of_not {cmd : SdCommand} {arg : BitVec 32} (hidle : cmd ≠ cmdGoIdleState)
    (hswitch : ¬ SetsPartition cmd arg) (config : UInt8) : configAfter cmd arg config = config := by
  unfold configAfter
  rw [if_neg hidle, if_neg hswitch]

end SdMmc
end MuPlatform
