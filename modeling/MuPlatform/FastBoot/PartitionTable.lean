import Mathlib.Data.UInt
import MuPlatform.Base.Access
import MuPlatform.Base.Terminated
import MuPlatform.BdsLib.DevicePath
import MuPlatform.Efi.Arch
import MuPlatform.Efi.Pages

/-!
# The partitions of the flash device

`ArmFastbootPlatformInit` (`ArmVExpressFastBoot.c`) reads the GPT of the flash device and lists the
partitions of the device with their labels.  It takes the blocks from LBA 2 on for an array of
`EFI_PARTITION_ENTRY`, and copies `PARTITION_NAME_MAX_LENGTH` bytes of a label, which is half of its
characters.

What a label is in the GPT itself (`FastbootEnvironment.label`, `Labelled`) is said beside this, by
the fields of its header.  The assertions of the source are left out, as in a release build.
-/

namespace MuPlatform
namespace FastBoot

open BdsLib (DevicePath DevicePathNode)

/-! ## The GPT -/

/-- What is used of `EFI_PARTITION_TABLE_HEADER`. -/
structure PartitionTableHeader where
  signature : ℕ
  myLba : ℕ
  partitionEntryLba : ℕ
  numberOfPartitionEntries : ℕ
  sizeOfPartitionEntry : ℕ

/-- The header at an address. -/
def partitionTableHeader (m : ByteStore) (a : ℕ) : PartitionTableHeader where
  signature := m.loadNat a 8
  myLba := m.loadNat (a + 24) 8
  partitionEntryLba := m.loadNat (a + 72) 8
  numberOfPartitionEntries := m.loadNat (a + 80) 4
  sizeOfPartitionEntry := m.loadNat (a + 84) 4

/-- `EFI_PTAB_HEADER_ID`, which is `"EFI PART"`. -/
def efiPtabHeaderId : ℕ := 0x5452415020494645

/-- There is a GPT. -/
def PartitionTableHeader.valid (header : PartitionTableHeader) : Bool :=
  decide (header.signature = efiPtabHeaderId) && decide (header.myLba = 1)

/-- `sizeof (EFI_PARTITION_ENTRY)`. -/
def sizeofPartitionEntry : ℕ := 128

/-- `OFFSET_OF (EFI_PARTITION_ENTRY, PartitionName)`. -/
def partitionNameOffset : ℕ := 56

/-- `PARTITION_NAME_MAX_LENGTH`, in characters. -/
def partitionNameMaxLength : ℕ := 36

/-- The characters from an address on. -/
def charsAt (m : ByteStore) (a : ℕ) : ℕ → UInt16 := fun k => m.load16 (a + 2 * k)

/-- `ALIGN_VALUE`, of a `UINTN` and a `UINT32`. -/
def alignValue (arch : Arch) (value : ℕ) (alignment : UInt32) : ℕ :=
  arch.uintn (value + (arch.uintnSub alignment.toNat value &&& (alignment - 1).toNat))

/-! ## The handles -/

/-- A handle with the Block I/O protocol. -/
structure BlockIoHandle where
  handle : ℕ
  devicePath : DevicePath
  /-- Whether there is pool for an entry of the list. -/
  allocatePool : Bool
  /-- `Media->LastBlock` and `Media->BlockSize`. -/
  lastBlock : UInt64
  blockSize : UInt32

/-- `MEDIA_DEVICE_PATH`. -/
def mediaDevicePath : UInt8 := 0x04

/-- `MEDIA_HARDDRIVE_DP`. -/
def mediaHarddriveDp : UInt8 := 0x01

/-- `PartitionNumber` of the `HARDDRIVE_DEVICE_PATH` that bytes are taken for. -/
def partitionNumberAt (bytes : List UInt8) : ℕ := ByteStore.leNat ((bytes.drop 4).take 4)

/-- The size of the partition in bytes. -/
def BlockIoHandle.partitionBytes (h : BlockIoHandle) : ℕ :=
  (h.lastBlock.toNat + 1) * h.blockSize.toNat

/-- The device path is that of a device and a node for partition `n` behind it. -/
def BlockIoHandle.IsPartition (flash : DevicePath) (h : BlockIoHandle) (n : ℕ) : Prop :=
  ∃ node : DevicePathNode, h.devicePath.first.nodes = flash.first.nodes ++ [node] ∧
    h.devicePath.others = [] ∧ node.type = mediaDevicePath ∧ node.subType = mediaHarddriveDp ∧
    node.data.length = 38 ∧ partitionNumberAt node.bytes = n

/-- What the initialisation finds. -/
structure FastbootEnvironment where
  arch : Arch
  /-- `FlashDevicePath`. -/
  flashDevicePath : DevicePath
  locateDevicePath : Except EfiError Unit
  openBlockIo : Except EfiError Unit
  /-- The flash device, from its first byte on, and its `Media->BlockSize`. -/
  disk : ByteStore
  blockSize : UInt32
  /-- Whether there is pool for the header. -/
  allocateHeader : Bool
  readHeader : Except EfiError Unit
  readEntries : Except EfiError Unit
  /-- The memory that the buffers for the header and for the entries are part of. -/
  behindHeader : ByteStore
  behindEntries : ByteStore
  handles : List BlockIoHandle

/-- `FASTBOOT_PARTITION_LIST`, with the characters that were copied to `PartitionName`. -/
structure FastbootPartitionList where
  partitionName : List UInt16
  partitionHandle : BlockIoHandle

/-- Where the initialisation is left: its status, the list, and what it has read of the entries,
from the start of their buffer. -/
structure FastbootInit where
  status : EfiStatus
  partitions : List FastbootPartitionList
  accesses : List Access

namespace FastbootEnvironment

section Model

variable (env : FastbootEnvironment)

/-- `GptHeader`. -/
def gptHeader : PartitionTableHeader :=
  partitionTableHeader
    (env.behindHeader.write 0 (env.disk.read env.blockSize.toNat env.blockSize.toNat)) 0

/-- `BufferSize` of `ReadPartitionEntries`. -/
def bufferSize : ℕ :=
  alignValue env.arch
    (env.arch.uintn (env.gptHeader.sizeOfPartitionEntry * env.gptHeader.numberOfPartitionEntries))
    env.blockSize

/-- The memory from `PartitionEntries` on. -/
def partitionEntries : ByteStore :=
  env.behindEntries.write 0 (env.disk.read (2 * env.blockSize.toNat) env.bufferSize)

/-- `ReadPartitionEntries`.  The test behind the second allocation is about the caller's pointer,
which is not `NULL`, so the blocks are read also where there was no pool. -/
def readPartitionEntries : Except EfiStatus ByteStore :=
  if env.allocateHeader then
    match env.readHeader with
    | .error status => .error status.val
    | .ok () =>
      if env.gptHeader.valid then
        match env.readEntries with
        | .error status => .error status.val
        | .ok () => .ok env.partitionEntries
      else .error .deviceError
  else .error .outOfResources

/-- `FLASH_DEVICE_PATH_SIZE (FlashDevicePath)`. -/
def flashDevicePathSize : ℕ := env.flashDevicePath.bytes.length - 4

/-- The number of the partition that a handle is taken for, if it is on the flash device.  What is
asked is the node behind the first one. -/
def partitionNumber (h : BlockIoHandle) : Option ℕ :=
  if h.devicePath.bytes.take env.flashDevicePathSize =
      env.flashDevicePath.bytes.take env.flashDevicePathSize then
    match h.devicePath.first.nodes with
    | node :: _ :: _ =>
      let n := partitionNumberAt (h.devicePath.bytes.drop node.bytes.length)
      if n = 0 then none else some n
    | _ => none
  else none

/-- Where the label of a partition lies behind `PartitionEntries`, which is a pointer to
`EFI_PARTITION_ENTRY`. -/
def partitionNameAt (n : ℕ) : ℕ :=
  env.arch.uintn (sizeofPartitionEntry * (n - 1) + partitionNameOffset)

/-- The characters that `CopyMem` copies, `PARTITION_NAME_MAX_LENGTH` bytes of them. -/
def copiedName (entries : ByteStore) (n : ℕ) : List UInt16 :=
  (List.range (partitionNameMaxLength / 2)).map (charsAt entries (env.partitionNameAt n))

/-- The loop over the handles. -/
def listPartitions (entries : ByteStore) : List BlockIoHandle → List FastbootPartitionList →
    List Access → FastbootInit
  | [], partitions, accesses => ⟨.success, partitions, accesses⟩
  | h :: handles, partitions, accesses =>
    match env.partitionNumber h with
    | none => listPartitions entries handles partitions accesses
    | some n =>
      if h.allocatePool then
        listPartitions entries handles (partitions ++ [⟨env.copiedName entries n, h⟩])
          (accesses ++ [.read ⟨env.partitionNameAt n, partitionNameMaxLength⟩])
      else ⟨.outOfResources, [], accesses⟩

/-- `ArmFastbootPlatformInit`. -/
def armFastbootPlatformInit : FastbootInit :=
  match env.locateDevicePath with
  | .error _ => ⟨.success, [], []⟩
  | .ok () =>
    match env.openBlockIo with
    | .error _ => ⟨.deviceError, [], []⟩
    | .ok () =>
      match env.readPartitionEntries with
      | .error _ => ⟨.success, [], []⟩
      | .ok entries => env.listPartitions entries env.handles [] []

/-! ## Labels -/

/-- The header on the device. -/
def header : PartitionTableHeader := partitionTableHeader env.disk env.blockSize.toNat

/-- The label in the GPT entry of partition `n`. -/
def label (n : ℕ) : List UInt16 :=
  arrayText partitionNameMaxLength
    (charsAt env.disk (env.header.partitionEntryLba * env.blockSize.toNat +
      env.header.sizeOfPartitionEntry * (n - 1) + partitionNameOffset))

/-- A partition of the GPT that has this label. -/
def Labelled (name : List UInt16) (h : BlockIoHandle) : Prop :=
  ∃ n, h.IsPartition env.flashDevicePath n ∧ env.header.valid = true ∧ 0 < n ∧
    n ≤ env.header.numberOfPartitionEntries ∧ env.label n = name

/-! ## What is listed -/

/-- The entries have been read. -/
def entriesRead : Bool :=
  env.locateDevicePath.isOk && env.openBlockIo.isOk && env.readPartitionEntries.isOk

/-- The handles that are taken for partitions, with the numbers. -/
def partitionHandles : List (BlockIoHandle × ℕ) :=
  env.handles.filterMap fun h => (env.partitionNumber h).map (h, ·)

/-- Those whose labels are copied: the list is given up where there is no pool for an entry. -/
def copied : List (BlockIoHandle × ℕ) :=
  if env.entriesRead then env.partitionHandles.takeWhile (·.1.allocatePool) else []

/-- Those that are listed in the end. -/
def listed : List (BlockIoHandle × ℕ) :=
  if env.entriesRead && env.partitionHandles.all (·.1.allocatePool) then env.partitionHandles
  else []

/-- The labels that are copied lie in what was read of the device. -/
def EntriesWithin : Prop :=
  ∀ p ∈ env.copied, env.partitionNameAt p.2 + partitionNameMaxLength ≤ env.bufferSize

/-- What the device holds where a label is copied from, at the distance of `EFI_PARTITION_ENTRY`
from each other and from LBA 2 on. -/
def takenName (n : ℕ) : List UInt16 :=
  env.copiedName (fun k => env.disk (2 * env.blockSize.toNat + k)) n

end Model

section Listing

variable {env : FastbootEnvironment}

lemma listPartitions_eq (entries : ByteStore) (handles : List BlockIoHandle)
    (partitions : List FastbootPartitionList) (accesses : List Access) :
    env.listPartitions entries handles partitions accesses =
      let taken := handles.filterMap fun h => (env.partitionNumber h).map (h, ·)
      let reads := fun p : BlockIoHandle × ℕ =>
        Access.read ⟨env.partitionNameAt p.2, partitionNameMaxLength⟩
      if taken.all (·.1.allocatePool) then
        ⟨.success, partitions ++ taken.map fun p => ⟨env.copiedName entries p.2, p.1⟩,
          accesses ++ taken.map reads⟩
      else ⟨.outOfResources, [], accesses ++ (taken.takeWhile (·.1.allocatePool)).map reads⟩ := by
  induction handles generalizing partitions accesses with
  | nil => simp [listPartitions]
  | cons h handles ih =>
      rw [listPartitions]
      cases hn : env.partitionNumber h with
      | none => simp [hn, ih]
      | some n =>
          by_cases hpool : h.allocatePool
          · simp [hn, hpool, ih]
          · simp [hn, hpool]

/-- What is read is the buffer of the entries. -/
lemma readPartitionEntries_eq_ok {entries : ByteStore}
    (h : env.readPartitionEntries = .ok entries) : entries = env.partitionEntries := by
  unfold readPartitionEntries at h
  split at h
  · split at h
    · cases h
    · split at h
      · split at h
        · cases h
        · exact (Except.ok.inj h).symm
      · cases h
  · cases h

lemma init_of_entriesRead (h : env.entriesRead = true) : env.armFastbootPlatformInit =
    env.listPartitions env.partitionEntries env.handles [] [] := by
  unfold armFastbootPlatformInit
  unfold entriesRead at h
  cases hlocate : env.locateDevicePath with
  | error status => simp [hlocate, Except.isOk, Except.toBool] at h
  | ok _ =>
      cases hopen : env.openBlockIo with
      | error status => simp [hopen, Except.isOk, Except.toBool] at h
      | ok _ =>
          cases hread : env.readPartitionEntries with
          | error status => simp [hread, Except.isOk, Except.toBool] at h
          | ok entries => rw [readPartitionEntries_eq_ok hread]

/-- Without the entries nothing is listed. -/
lemma init_of_not_entriesRead (h : env.entriesRead = false) :
    env.armFastbootPlatformInit.partitions = [] ∧ env.armFastbootPlatformInit.accesses = [] := by
  unfold armFastbootPlatformInit
  unfold entriesRead at h
  cases hlocate : env.locateDevicePath with
  | error status => exact ⟨rfl, rfl⟩
  | ok _ =>
      cases hopen : env.openBlockIo with
      | error status => exact ⟨rfl, rfl⟩
      | ok _ =>
          cases hread : env.readPartitionEntries with
          | error status => exact ⟨rfl, rfl⟩
          | ok entries => simp [hlocate, hopen, hread, Except.isOk, Except.toBool] at h

/-- The initialisation lists the partitions in the order of their handles. -/
lemma partitions_init : env.armFastbootPlatformInit.partitions =
    env.listed.map fun p => ⟨env.copiedName env.partitionEntries p.2, p.1⟩ := by
  cases hread : env.entriesRead with
  | false => rw [(init_of_not_entriesRead hread).1, listed, hread, Bool.false_and]; rfl
  | true =>
      rw [init_of_entriesRead hread, listPartitions_eq, listed, hread, Bool.true_and]
      change FastbootInit.partitions (if env.partitionHandles.all _ then _ else _) = _
      split <;> rfl

/-- It reads the labels up to the first handle that there is no pool for. -/
lemma accesses_init : env.armFastbootPlatformInit.accesses =
    env.copied.map fun p => .read ⟨env.partitionNameAt p.2, partitionNameMaxLength⟩ := by
  cases hread : env.entriesRead with
  | false => rw [(init_of_not_entriesRead hread).2, copied, hread]; rfl
  | true =>
      rw [init_of_entriesRead hread, listPartitions_eq, copied, hread, if_pos rfl]
      change FastbootInit.accesses (if env.partitionHandles.all _ then _ else _) = _
      split
      · rename_i hall
        rw [List.takeWhile_eq_self_iff.mpr (List.all_eq_true.mp hall)]
        rfl
      · rfl

/-- The accesses to the entries lie in what was read where the copied labels do. -/
lemma accesses_inside_iff :
    (∀ a ∈ env.armFastbootPlatformInit.accesses, a.Inside ⟨0, env.bufferSize⟩ ⟨0, 0⟩) ↔
      env.EntriesWithin := by
  rw [accesses_init]
  constructor
  · intro h p hp
    have hpos : 0 < partitionNameMaxLength := by decide
    have hwithin := Access.within_of_read hpos (h _ (List.mem_map_of_mem hp))
    exact hwithin.2.trans_eq (Nat.zero_add _)
  · intro h a ha
    obtain ⟨p, hp, rfl⟩ := List.mem_map.mp ha
    exact Access.inside_read ⟨Nat.zero_le _, (Nat.zero_add env.bufferSize).symm ▸ h p hp⟩

/-- What is listed was copied. -/
lemma mem_copied_of_mem_listed {p : BlockIoHandle × ℕ} (h : p ∈ env.listed) : p ∈ env.copied := by
  unfold listed at h
  split at h
  · rename_i hall
    rw [Bool.and_eq_true] at hall
    rw [copied, if_pos hall.1, List.takeWhile_eq_self_iff.mpr (List.all_eq_true.mp hall.2)]
    exact h
  · cases h

lemma mem_handles_of_mem_copied {p : BlockIoHandle × ℕ} (h : p ∈ env.copied) :
    p.1 ∈ env.handles ∧ env.partitionNumber p.1 = some p.2 := by
  unfold copied at h
  split at h
  · obtain ⟨k, hk, heq⟩ := List.mem_filterMap.mp ((List.takeWhile_prefix _).subset h)
    obtain ⟨n, hn, rfl⟩ := Option.map_eq_some_iff.mp heq
    exact ⟨hk, hn⟩
  · cases h

lemma mem_handles_of_mem_listed {p : BlockIoHandle × ℕ} (h : p ∈ env.listed) :
    p.1 ∈ env.handles ∧ env.partitionNumber p.1 = some p.2 :=
  mem_handles_of_mem_copied (mem_copied_of_mem_listed h)

/-- A label that lies in what was read is copied as the device has it. -/
lemma copiedName_eq {p : BlockIoHandle × ℕ} (hwithin : env.EntriesWithin) (hp : p ∈ env.copied) :
    env.copiedName env.partitionEntries p.2 = env.takenName p.2 := by
  have hin := hwithin p hp
  refine List.map_congr_left fun k hk => ByteStore.load16_congr fun i hi => ?_
  have hlt : k < partitionNameMaxLength / 2 := List.mem_range.mp hk
  unfold partitionNameMaxLength at hin hlt
  have hread : env.partitionNameAt p.2 + 2 * k + i <
      (env.disk.read (2 * env.blockSize.toNat) env.bufferSize).length := by
    rw [ByteStore.length_read]
    omega
  rw [partitionEntries, ← Nat.zero_add (env.partitionNameAt p.2 + 2 * k + i),
    ByteStore.write_apply_on hread, ByteStore.getElem_read, Nat.zero_add]

end Listing

end FastbootEnvironment

end FastBoot
end MuPlatform
