import MuPlatform.SdMmc.MediaChange
import MuPlatform.SdMmc.ScriptedCard

/-!
# The capacity of a card

`SdhcSendCsd` computes the capacity of a card from its `CSD` register, the product of a card of
standard capacity in 32 bits.  For an MMC card `SdhcSendExtCsdMmc` comes after it, and takes
`SEC_COUNT` for the number of blocks whether the card counts its blocks there or not.

`deviceCapacity` and `specifiedCapacity` are the values of the specifications, over the natural
numbers.  `capacityFollows_iff` says for which registers an initialised card has them, and a last
block that goes with them.
-/

namespace MuPlatform
namespace SdMmc

open Prog

/-! ## What the specifications say -/

/-- `C_SIZE` of a version 1 `CSD` or of the `CSD` of an MMC card, bits 73 to 62 of the register. -/
def cSize (csd : BitVec 120) : ℕ := csdField csd 54 12

/-- `C_SIZE_MULT`, bits 49 to 47. -/
def cSizeMult (csd : BitVec 120) : ℕ := csdField csd 39 3

/-- `READ_BL_LEN`, bits 83 to 80. -/
def readBlLen (csd : BitVec 120) : ℕ := csdField csd 72 4

/-- `CSD_STRUCTURE`, bits 127 and 126. -/
def csdStructure (csd : BitVec 120) : ℕ := csdField csd 118 2

/-- The capacity of an SD card with a version 1 `CSD`, and of an MMC card that addresses bytes. -/
def deviceCapacity (csd : BitVec 120) : ℕ :=
  (cSize csd + 1) * 2 ^ (cSizeMult csd + 2) * 2 ^ readBlLen csd

/-- The capacity the specifications define for a card; they define none for an SD card with a `CSD`
of a later version. -/
def specifiedCapacity (f : CardFunction) (highCapacity : Bool) (r : CardRegisters) : Option ℕ :=
  match f with
  | .sd =>
      if csdStructure r.csd = 0 then some (deviceCapacity r.csd)
      else if csdStructure r.csd = 1 then some ((csdField r.csd 40 22 + 1) * (512 * 1024))
      else none
  | .mmc =>
      if highCapacity then some (r.sectorCount.toNat * sdBlockLengthBytes)
      else some (deviceCapacity r.csd)
  | _ => none

/-- The geometry of the instance is that of the registers of its card: the capacity is the one the
specifications define, and the last block is the last one of that capacity. -/
structure CapacityFollows (f : CardFunction) (inst : HostInst) : Prop where
  byteCapacity : ∀ n, specifiedCapacity f inst.highCapacity inst.registers = some n →
    inst.byteCapacity = n
  lastBlock : inst.media.lastBlock = inst.byteCapacity / sdBlockLengthBytes - 1

/-- When it is.  The product of an SD card of standard capacity has 32 bits; an MMC card counts its
blocks in `SEC_COUNT`, and one that addresses bytes counts there what its `CSD` says. -/
def CapacityFits (f : CardFunction) (inst : HostInst) : Prop :=
  match f with
  | .sd => csdStructure inst.registers.csd = 0 → deviceCapacity inst.registers.csd < 2 ^ 32
  | .mmc => inst.registers.sectorCount ≠ 0 ∧ (inst.highCapacity = false →
      inst.registers.sectorCount.toNat * sdBlockLengthBytes = deviceCapacity inst.registers.csd)
  | _ => True

/-! ## Registers -/

section Registers

variable (csd : BitVec 120)

/-- The two parts of `C_SIZE` in `SD_CSD` and `MMC_CSD`. -/
lemma cSize_eq : cSize csd = csdField csd 56 10 * 4 + csdField csd 54 2 := by
  simp only [cSize, csdField, BitVec.extractLsb'_toNat, Nat.shiftRight_eq_div_pow]
  omega

lemma standardCapacity_eq : standardCapacity csd = deviceCapacity csd % 2 ^ 32 := by
  rw [standardCapacity, deviceCapacity, cSize_eq]
  rfl

lemma standardCapacity_eq_iff :
    standardCapacity csd = deviceCapacity csd ↔ deviceCapacity csd < 2 ^ 32 := by
  rw [standardCapacity_eq]
  exact ⟨fun h => h ▸ Nat.mod_lt _ (by decide), Nat.mod_eq_of_lt⟩

/-- What `SdhcSendCsd` computes for an SD card. -/
lemma csdByteCapacity_sd (highCapacity : Bool) : csdByteCapacity .sd highCapacity csd =
    if csdStructure csd = 0 then standardCapacity csd
    else (csdField csd 40 22 + 1) * (512 * 1024) := by
  rw [csdByteCapacity, if_pos rfl, ← Nat.mul_assoc]
  rfl

end Registers

/-! ## What an initialisation leaves -/

variable {H B : Type} {host : SdhcHost H} {recover : SdCommand → Prog (World H B) EfiStatus}

/-- The geometry `SdhcSendCsd` gives an SD card. -/
def CsdGeometry (inst : HostInst) : Prop :=
  inst.byteCapacity = csdByteCapacity .sd inst.highCapacity inst.registers.csd ∧
    inst.media.lastBlock = inst.byteCapacity / sdBlockLengthBytes - 1

/-- The geometry `SdhcSendExtCsdMmc` gives an MMC card. -/
def ExtCsdGeometry (inst : HostInst) : Prop :=
  inst.byteCapacity = inst.registers.sectorCount.toNat * sdBlockLengthBytes ∧
    inst.media.lastBlock = (inst.registers.sectorCount - 1).toNat

lemma CsdGeometry.follows_iff {inst : HostInst} (h : CsdGeometry inst) :
    CapacityFollows .sd inst ↔ CapacityFits .sd inst := by
  obtain ⟨hbytes, hlast⟩ := h
  rw [csdByteCapacity_sd] at hbytes
  constructor
  · rintro ⟨hspec, -⟩ hstructure
    rw [if_pos hstructure] at hbytes
    rw [← standardCapacity_eq_iff, ← hbytes]
    exact hspec _ (if_pos hstructure)
  · intro hfits
    refine ⟨fun n hn => ?_, hlast⟩
    unfold specifiedCapacity at hn
    simp only at hn
    rw [hbytes]
    split_ifs at hn with hzero hone
    · rw [if_pos hzero, (standardCapacity_eq_iff _).mpr (hfits hzero)]
      exact Option.some.inj hn
    · rw [if_neg hzero]
      exact Option.some.inj hn

/-- The last block of a number of blocks, in 32 bits. -/
lemma toNat_sub_one_eq_iff (n : UInt32) : (n - 1).toNat = n.toNat - 1 ↔ n ≠ 0 := by
  constructor
  · rintro h rfl
    cases h
  · intro hne
    have hpos : n.toNat ≠ 0 := fun hzero => hne (UInt32.toNat_inj.mp hzero)
    exact UInt32.toNat_sub_of_le n 1 (UInt32.le_iff_toNat_le.mpr (Nat.one_le_iff_ne_zero.mpr hpos))

lemma ExtCsdGeometry.follows_iff {inst : HostInst} (h : ExtCsdGeometry inst) :
    CapacityFollows .mmc inst ↔ CapacityFits .mmc inst := by
  obtain ⟨hbytes, hlast⟩ := h
  have hblocks : inst.byteCapacity / sdBlockLengthBytes = inst.registers.sectorCount.toNat := by
    rw [hbytes]
    exact Nat.mul_div_cancel _ (by decide)
  have hlast_iff : inst.media.lastBlock = inst.byteCapacity / sdBlockLengthBytes - 1 ↔
      inst.registers.sectorCount ≠ 0 := by
    rw [hlast, hblocks]
    exact toNat_sub_one_eq_iff _
  constructor
  · rintro ⟨hspec, hwrap⟩
    refine ⟨hlast_iff.mp hwrap, fun haddress => ?_⟩
    rw [← hbytes]
    exact hspec _ (by simp [specifiedCapacity, haddress])
  · rintro ⟨hne, hcount⟩
    refine ⟨fun n hn => ?_, hlast_iff.mpr hne⟩
    unfold specifiedCapacity at hn
    simp only at hn
    rw [hbytes]
    split_ifs at hn with haddress
    · exact Option.some.inj hn
    · exact (hcount (eq_false_of_ne_true haddress)).trans (Option.some.inj hn)

/-! ## The steps of an initialisation -/

/-- What the geometry is computed from and what it is written to are the same. -/
structure HostInst.SameGeometry (inst inst' : HostInst) : Prop where
  cardFunction : inst'.cardFunction = inst.cardFunction
  highCapacity : inst'.highCapacity = inst.highCapacity
  registers : inst'.registers = inst.registers
  byteCapacity : inst'.byteCapacity = inst.byteCapacity
  media : inst'.media = inst.media

lemma BusStep.sameGeometry {w w' : World H B} (h : BusStep host w w') :
    w.inst.SameGeometry w'.inst := by
  cases h with
  | command => exact ⟨sdhcSendCommandHelper_cardFunction _ _ _ _ _ _, rfl, rfl, rfl, rfl⟩
  | read _ size buffer => cases buffer <;> exact ⟨rfl, rfl, rfl, rfl, rfl⟩
  | _ => exact ⟨rfl, rfl, rfl, rfl, rfl⟩

lemma HostInst.SameGeometry.csd {inst inst' : HostInst} (h : inst.SameGeometry inst')
    (hcsd : CsdGeometry inst) : CsdGeometry inst' := by
  rw [CsdGeometry, h.byteCapacity, h.highCapacity, h.registers, h.media]
  exact hcsd

lemma HostInst.SameGeometry.extCsd {inst inst' : HostInst} (h : inst.SameGeometry inst')
    (hextCsd : ExtCsdGeometry inst) : ExtCsdGeometry inst' := by
  rw [ExtCsdGeometry, h.byteCapacity, h.registers, h.media]
  exact hextCsd

/-- A chain on the bus that gets to its end leaves the geometry as it was. -/
lemma keepsGeometry {f : (SdCommand → Prog (World H B) EfiStatus) → Prog (World H B) EfiStatus}
    (halone : SucceedsAlone f) (hf : BusProg host f) {P : HostInst → Prop}
    (hP : ∀ inst inst' : HostInst, inst.SameGeometry inst' → P inst → P inst')
    (recover : SdCommand → Prog (World H B) EfiStatus) :
    Triple (fun w => P w.inst) (f recover) fun status w => status.isError = false → P w.inst :=
  halone.triple hf (fun _ _ hstep hw => hP _ _ hstep.sameGeometry hw) recover

/-! ### SD cards -/

/-- The card is taken for one with this function. -/
def HasFunction (f : CardFunction) (w : World H B) : Prop := w.inst.cardFunction = f

/-- The function `c` keeps the card function where it succeeds. -/
def KeepsFunction (f : CardFunction) (c : Prog (World H B) EfiStatus) : Prop :=
  Triple (HasFunction f) c fun status w => status.isError = false → HasFunction f w

variable {f : CardFunction}

lemma KeepsFunction.orReturn {c k : Prog (World H B) EfiStatus} (hc : KeepsFunction f c)
    (hk : KeepsFunction f k) : KeepsFunction f (c.orReturn k) :=
  Triple.orReturn_success hc hk

lemma KeepsFunction.update {g : HostInst → HostInst}
    (hg : ∀ inst, (g inst).cardFunction = inst.cardFunction)
    {k : Unit → Prog (World H B) EfiStatus} (hk : KeepsFunction f (k ())) :
    KeepsFunction f (update g >>= k) :=
  Triple.bind (Q := fun _ => HasFunction f) (Triple.modify fun w hw => (hg w.inst).trans hw)
    fun _ => hk

lemma KeepsFunction.inspect {α : Type} {g : HostInst → α} {k : α → Prog (World H B) EfiStatus}
    (hk : ∀ a, KeepsFunction f (k a)) : KeepsFunction f (inspect g >>= k) :=
  Triple.bind (Q := fun _ => HasFunction f) (Triple.read fun _ hw => hw) hk

lemma KeepsFunction.pure (status : EfiStatus) :
    KeepsFunction (H := H) (B := B) f (pure status) := Triple.pure fun _ hw _ => hw

lemma sdhcSendCommand_keepsFunction {cmd : SdCommand} (h : cmd ≠ cmdSwitchMmc) (arg : BitVec 32) :
    KeepsFunction f (sdhcSendCommand host recover cmd arg) :=
  keepsGeometry (sdhcSendCommand_alone cmd arg) (sdhcSendCommand_built (not_setsPartition h arg))
    (fun _ _ hsame hw => hsame.cardFunction.trans hw) recover

lemma pollOpCondSd_keepsFunction (arg : BitVec 32) (retry : ℕ) :
    KeepsFunction f (pollOpCondSd host recover arg retry) := by
  induction retry with
  | zero => exact KeepsFunction.pure _
  | succ retry ih =>
      unfold pollOpCondSd
      refine KeepsFunction.orReturn (sdhcSendCommand_keepsFunction (by decide) _)
        (KeepsFunction.inspect fun ocr => ?_)
      split
      · refine KeepsFunction.update (fun inst => ?_) (KeepsFunction.pure _)
        split <;> rfl
      · exact ih

lemma sdhcSendOpCondSd_keepsFunction : KeepsFunction f (sdhcSendOpCondSd host recover) := by
  unfold sdhcSendOpCondSd
  refine KeepsFunction.orReturn (sdhcSendCommand_keepsFunction (by decide) _)
    (KeepsFunction.inspect fun ocr => KeepsFunction.update (fun inst => ?_)
      (pollOpCondSd_keepsFunction _ _))
  rfl

lemma sdhcSendRelativeAddr_keepsFunction : KeepsFunction f (sdhcSendRelativeAddr host recover) := by
  unfold sdhcSendRelativeAddr
  refine KeepsFunction.update (fun inst => ?_) (KeepsFunction.inspect fun arg =>
    KeepsFunction.orReturn (sdhcSendCommand_keepsFunction (by decide) _)
      (KeepsFunction.update (fun inst => ?_) (KeepsFunction.pure _)))
  · split <;> rfl
  · split <;> rfl

lemma sdhcSendCid_keepsFunction : KeepsFunction f (sdhcSendCid host recover) := by
  unfold sdhcSendCid
  refine KeepsFunction.inspect fun rca => KeepsFunction.orReturn
    (sdhcSendCommand_keepsFunction (by decide) _)
    (KeepsFunction.update (fun inst => ?_) (KeepsFunction.pure _))
  split_ifs <;> rfl

lemma sdhcSendCsd_keepsFunction : KeepsFunction f (sdhcSendCsd host recover) := by
  unfold sdhcSendCsd
  refine KeepsFunction.inspect fun rca => KeepsFunction.orReturn
    (sdhcSendCommand_keepsFunction (by decide) _)
    (KeepsFunction.update (fun inst => ?_)
      (KeepsFunction.update (g := HostInst.withCsdCapacity) (fun inst => ?_) (KeepsFunction.pure _)))
  · split_ifs <;> rfl
  · rfl

lemma sdhcSendCsd_geometry : Triple (HasFunction (H := H) (B := B) .sd)
    (sdhcSendCsd host recover) fun status w => status.isError = false → CsdGeometry w.inst := by
  unfold sdhcSendCsd
  refine Triple.bind (Q := fun _ => HasFunction .sd) (Triple.read fun w hw => hw) fun rca => ?_
  refine Triple.orReturn_success (sdhcSendCommand_keepsFunction (by decide) _) ?_
  refine Triple.bind (Q := fun _ => HasFunction .sd) (Triple.modify fun w hw => ?_)
    fun _ => Triple.bind (Q := fun _ w => CsdGeometry w.inst) (Triple.modify fun w hw => ?_)
    fun _ => Triple.pure fun w hw _ => hw
  · show (if _ then _ else _ : HostInst).cardFunction = .sd
    split <;> exact hw
  · have hfunction : w.inst.cardFunction = .sd := hw
    refine ⟨?_, ?_⟩
    · simp only [HostInst.withCsdCapacity, hfunction]
    · simp only [HostInst.withCsdCapacity, EfiBlockIoMedia.withCapacity]
      split <;> omega

/-- `InitializeSdDevice` behind `SdhcSendCsd`. -/
lemma setUpSd_built : BusProg (B := B) host fun recover => untilError [
    sdhcSelectDevice host recover, sdhcSwitchBusWidthSd host recover, sdhcSwitchSpeedModeSd,
    sdhcSetMaxClockFrequency host] :=
  .orReturn sdhcSelectDevice_built (.orReturn sdhcSwitchBusWidthSd_built
    (.orReturn (.pure _) (.orReturn sdhcSetMaxClockFrequency_built (.pure _))))

lemma initializeSdDevice_geometry : Triple (HasFunction (H := H) (B := B) .sd)
    (initializeSdDevice host recover) fun status w => status.isError = false → CsdGeometry w.inst :=
  Triple.orReturn_success sdhcSendOpCondSd_keepsFunction (Triple.orReturn_success
    (sdhcSendCommand_keepsFunction (by decide) _) (Triple.orReturn_success
    sdhcSendRelativeAddr_keepsFunction (Triple.orReturn_success sdhcSendCid_keepsFunction
    (Triple.orReturn_success sdhcSendCsd_geometry
      (keepsGeometry setUpSd_alone setUpSd_built (fun _ _ h hw => h.csd hw) recover)))))

lemma initializeSdDevice_keepsFunction : KeepsFunction f (initializeSdDevice host recover) :=
  KeepsFunction.orReturn sdhcSendOpCondSd_keepsFunction (KeepsFunction.orReturn
    (sdhcSendCommand_keepsFunction (by decide) _) (KeepsFunction.orReturn
    sdhcSendRelativeAddr_keepsFunction (KeepsFunction.orReturn sdhcSendCid_keepsFunction
    (KeepsFunction.orReturn sdhcSendCsd_keepsFunction
      (keepsGeometry setUpSd_alone setUpSd_built
        (fun _ _ h hw => h.cardFunction.trans hw) recover)))))

/-! ### MMC cards -/

lemma sdhcSendExtCsdMmc_geometry : Triple (fun _ : World H B => True)
    (sdhcSendExtCsdMmc host recover)
      fun status w => status.isError = false → ExtCsdGeometry w.inst := by
  unfold sdhcSendExtCsdMmc
  refine Triple.bind (Q := fun _ _ => True) (Triple.read fun _ _ => trivial) fun rca => ?_
  refine Triple.orReturn_success (Triple.skip _) ?_
  exact Triple.bind (Q := fun _ w => ExtCsdGeometry w.inst) (Triple.modify fun w _ => ⟨rfl, rfl⟩)
    fun _ => Triple.pure fun w hw _ => hw

section ExtCsd

variable {P Q : World H B → Prop}
  (hskip : ∀ {f : (SdCommand → Prog (World H B) EfiStatus) → Prog (World H B) EfiStatus},
    DeviceProg host f → Triple P (f recover) fun status w => status.isError = false → P w)
  (hforget : ∀ w, Q w → P w)
  (hread : Triple P (sdhcSendExtCsdMmc host recover)
    fun status w => status.isError = false → Q w)
  (hbus : ∀ w w', BusStep host w w' → Q w → Q w')

include hbus in
/-- A chain on the bus behind the last read of the `EXT_CSD`. -/
lemma keepsRead {f : (SdCommand → Prog (World H B) EfiStatus) → Prog (World H B) EfiStatus}
    (halone : SucceedsAlone f) (hf : BusProg host f)
    (recover : SdCommand → Prog (World H B) EfiStatus) :
    Triple Q (f recover) fun status w => status.isError = false → Q w :=
  halone.triple hf hbus recover

include hskip hread hbus

lemma switchPowerClass_success (powerClass : UInt8) :
    Triple P (switchPowerClass host recover powerClass)
      fun status w => status.isError = false → Q w := by
  have hcheck : BusProg (B := B) host fun _ : SdCommand → Prog (World H B) EfiStatus => untilError [do
      let actual ← inspect (·.registers.powerClass)
      if actual ≠ powerClass then return .protocolError else return .success] :=
    .orReturn (check_steps _ _ _ _) (.pure _)
  have hswitch : BusProg (B := B) host fun recover =>
      sdhcSendCommand host recover cmdSwitchMmc (powerClassArg powerClass) :=
    sdhcSendCommand_built (not_setsPartition_powerClass powerClass)
  exact Triple.orReturn_success (hskip hswitch.device) (Triple.orReturn_success hread
    (keepsRead hbus (.const _ _) hcheck recover))

include hforget

lemma sdhcSwitchBusWidthMmc_success :
    Triple P (sdhcSwitchBusWidthMmc host recover)
      fun status w => status.isError = false → Q w := by
  have hpower : Triple Q (do
      let needed ← inspect fun inst => inst.registers.powerClass8Bit inst.currentSpeedMode
      let current ← inspect (·.registers.powerClass)
      if current < needed then switchPowerClass host recover needed else return .success)
        fun status w => status.isError = false → Q w := by
    refine Triple.bind (Q := fun _ => Q) (Triple.read fun _ hw => hw)
      fun needed => Triple.bind (Q := fun _ => Q) (Triple.read fun _ hw => hw) fun current => ?_
    split
    · exact (switchPowerClass_success hskip hread hbus needed).strengthen hforget
    · exact Triple.pure fun _ hw _ => hw
  have hrest : BusProg (B := B) host fun recover => untilError [
      sdhcSendCommand host recover cmdSwitchMmc (switchArg 183 2),
      callHost (host.setBusWidth .width8Bit)] :=
    .orReturn (sdhcSendCommand_built (by decide)) (.orReturn (callHost_steps _) (.pure _))
  exact Triple.orReturn_success hread (Triple.orReturn_success hpower
    (keepsRead hbus (.orReturn (sdhcSendCommand_alone _ _) (.const _ _)) hrest recover))

/-- What a read of the `EXT_CSD` establishes, and the steps on the bus keep, holds after
`InitializeMmcDevice` where it succeeds. -/
lemma initializeMmcDevice_success :
    Triple P (initializeMmcDevice host recover)
      fun status w => status.isError = false → Q w := by
  have hclock : BusProg (B := B) host fun _ : SdCommand → Prog (World H B) EfiStatus =>
      untilError [sdhcSetMaxClockFrequency host] :=
    .orReturn sdhcSetMaxClockFrequency_built (.pure _)
  have hwidth := sdhcSwitchBusWidthMmc_success hskip hforget hread hbus
  exact Triple.orReturn_success (hskip (plainCommand_steps (by decide) _))
    (Triple.orReturn_success (hskip sdhcSendRelativeAddr_built)
    (Triple.orReturn_success (hskip sdhcSendCid_built)
    (Triple.orReturn_success (hskip sdhcSendCsd_built)
    (Triple.orReturn_success (hskip (check_steps _ _ _ _))
    (Triple.orReturn_success (hskip sdhcSelectDevice_built)
    (Triple.orReturn_success (hskip sdhcSendExtCsdMmc_built)
    (Triple.orReturn_success (hskip sdhcSwitchSpeedModeMmc_built)
    (Triple.orReturn_success hwidth (keepsRead hbus (.const _ _) hclock recover)))))))))

end ExtCsd

lemma initializeMmcDevice_geometry : Triple (fun _ : World H B => True)
    (initializeMmcDevice host recover)
      fun status w => status.isError = false → ExtCsdGeometry w.inst :=
  initializeMmcDevice_success (fun _ => Triple.skip _) (fun _ _ => trivial)
    sdhcSendExtCsdMmc_geometry fun _ _ hstep hw => hstep.sameGeometry.extCsd hw

/-- Whether a card addresses blocks is what its operating condition says. -/
lemma sdhcSendOpCondMmc_highCapacity : Triple (fun _ : World H B => True)
    (sdhcSendOpCondMmc host recover) fun status w => status.isError = false →
      w.inst.highCapacity = (w.inst.registers.ocr.extractLsb' 29 2 == 2) := by
  have hpoll (retry : ℕ) : Triple (fun _ : World H B => True) (pollOpCondMmc host recover retry)
      fun status w => status.isError = false →
        w.inst.highCapacity = (w.inst.registers.ocr.extractLsb' 29 2 == 2) := by
    induction retry with
    | zero => exact Triple.pure fun _ _ hok => by cases hok
    | succ retry ih =>
        unfold pollOpCondMmc
        refine Triple.orReturn_success (Triple.skip _) ?_
        refine Triple.bind (Q := fun _ _ => True) (Triple.read fun _ _ => trivial) fun ocr => ?_
        refine Triple.bind (Q := fun _ w => w.inst.registers.ocr = ocr)
          (Triple.modify fun _ _ => rfl) fun _ => ?_
        split
        · refine Triple.bind (Q := fun _ w =>
            w.inst.highCapacity = (w.inst.registers.ocr.extractLsb' 29 2 == 2))
            (Triple.modify fun w hw => by rw [hw]) fun _ => ?_
          split
          · exact Triple.pure fun _ hw _ => hw
          · exact Triple.pure fun _ hw _ => hw
        · exact ih.strengthen fun _ _ => trivial
  exact hpoll _

/-! ## The capacity of an initialised card -/

/-- After an initialisation that succeeds the geometry is that of the registers exactly where it
fits. -/
theorem capacityFollows_iff {w w' : World H B}
    (hf : w.inst.cardFunction = .sd ∨ w.inst.cardFunction = .mmc)
    (hrun : initializeCard host recover w = some (.success, w')) :
    CapacityFollows w.inst.cardFunction w'.inst ↔ CapacityFits w.inst.cardFunction w'.inst := by
  unfold initializeCard at hrun
  rw [bind_of_eq_some (show inspect (·.cardFunction) w = some (w.inst.cardFunction, w) from rfl)]
    at hrun
  rcases hf with hsd | hmmc
  · rw [hsd] at hrun ⊢
    exact (initializeSdDevice_geometry w hsd _ _ hrun rfl).follows_iff
  · rw [hmmc] at hrun ⊢
    exact (initializeMmcDevice_geometry w trivial _ _ hrun rfl).follows_iff

/-! ## A card that addresses bytes -/

/-- The answers of an MMC card of one gigabyte: no sector mode in the operating condition, and a
`CSD` with `C_SIZE` 4095, `C_SIZE_MULT` 7 and `READ_BL_LEN` 9. -/
def byteCardResponse (cmd : SdCommand) : CmdResponse :=
  if cmd = cmdSendOpCondMmc then fun _ => 0x80FF8000
  else if cmd = cmdSendCsd then
    fun i => if i = 2 then 0x32000903 else if i = 3 then 0x00100000 else 0xFFFFFFFF
  else scriptedResponse cmd

/-- A host with this card behind it, whose `EXT_CSD` has no `SEC_COUNT`. -/
def byteCardHost : SdhcHost ScriptedCard :=
  { scriptedHost (.quiet true) with
    receiveResponse := fun cmd _ c => (.success, byteCardResponse cmd, c) }

/-- The recovery of its driver. -/
def byteCardRecovery : SdCommand → Prog (World ScriptedCard (ℕ × List Published)) EfiStatus :=
  recovery byteCardHost (scriptedBoot (.quiet true))

/-- A new instance for the card. -/
def byteCardStart : World ScriptedCard (ℕ × List Published) where
  address := 1
  inst := createSdhcInstance 7 byteCardHost.capabilities
  trace := []
  resultRequest := fun _ => 0
  callerMemory := fun _ => 0
  host := ⟨0, 0⟩
  boot := (0, [])

lemma byteCard_answers :
    (sdhcQueryCardType byteCardHost byteCardRecovery byteCardStart).isSome = true := by
  decide +kernel

/-- The driver knows that it is an MMC card. -/
def byteCardWorld : World ScriptedCard (ℕ × List Published) :=
  ((sdhcQueryCardType byteCardHost byteCardRecovery byteCardStart).get byteCard_answers).2

lemma byteCard_returns :
    (initializeCard byteCardHost byteCardRecovery byteCardWorld).isSome = true := by
  decide +kernel

/-- The initialised card. -/
def byteCardAfter : World ScriptedCard (ℕ × List Published) :=
  ((initializeCard byteCardHost byteCardRecovery byteCardWorld).get byteCard_returns).2

lemma byteCard_initialized : initializeCard byteCardHost byteCardRecovery byteCardWorld =
    some (.success, byteCardAfter) := by
  have hok : ((initializeCard byteCardHost byteCardRecovery byteCardWorld).get
      byteCard_returns).1 = .success := by
    decide +kernel
  rw [← hok]
  exact eq_some_get byteCard_returns

theorem capacityFollows_iff_byteCard :
    CapacityFollows byteCardWorld.inst.cardFunction byteCardAfter.inst ↔
      CapacityFits byteCardWorld.inst.cardFunction byteCardAfter.inst :=
  capacityFollows_iff (.inr (by decide +kernel)) byteCard_initialized

/-- The driver takes the card for one without blocks, whose last one is number `2 ^ 32 - 1`. -/
theorem not_capacityFollows_byteCard :
    ¬ ∀ w', initializeCard byteCardHost byteCardRecovery byteCardWorld = some (.success, w') →
      CapacityFollows byteCardWorld.inst.cardFunction w'.inst := by
  intro hall
  have hlast := (hall byteCardAfter byteCard_initialized).lastBlock
  revert hlast
  decide +kernel

end SdMmc
end MuPlatform
