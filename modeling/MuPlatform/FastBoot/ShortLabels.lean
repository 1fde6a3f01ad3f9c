import MuPlatform.FastBoot.FlashPartition

/-!
# Labels that are read as they are

The usual GPT has its entries from LBA 2 on, each of `sizeof (EFI_PARTITION_ENTRY)` bytes, and
labels that are shorter than what is copied of them.  There the characters that a partition is known
by are its label, and what is named is flashed (`ShortLabels.flashesNamed`).
-/

namespace MuPlatform
namespace FastBoot

open BdsLib (DevicePath DevicePathNode)

/-- `ALIGN_VALUE` does not lose a value that it does not wrap. -/
lemma le_alignValue {arch : Arch} {value : ℕ} {alignment : UInt32}
    (h : value + (alignment - 1).toNat < 2 ^ arch.uintnBits) :
    value ≤ alignValue arch value alignment := by
  have hand : arch.uintnSub alignment.toNat value &&& (alignment - 1).toNat ≤
      (alignment - 1).toNat := Nat.and_le_right
  rw [alignValue, Arch.uintn_of_lt (by omega)]
  omega

/-- The number lies in the node itself, if the node is long enough. -/
lemma partitionNumberAt_append {bytes rest : List UInt8} (h : 8 ≤ bytes.length) :
    partitionNumberAt (bytes ++ rest) = partitionNumberAt bytes := by
  rw [partitionNumberAt, partitionNumberAt, List.drop_append_of_le_length (by omega),
    List.take_append_of_le_length (by rw [List.length_drop]; omega)]

/-- On a device of a single node the partitions are taken for what they are. -/
lemma partitionNumber_of_isPartition {env : FastbootEnvironment} {h : BlockIoHandle} {n : ℕ}
    {device : DevicePathNode} (hdevice : env.flashDevicePath.first.nodes = [device])
    (hsingle : env.flashDevicePath.others = []) (hpart : h.IsPartition env.flashDevicePath n)
    (hn : 0 < n) : env.partitionNumber h = some n := by
  obtain ⟨node, hnodes, hothers, -, -, hdata, hnumber⟩ := hpart
  rw [hdevice] at hnodes
  have hflash : env.flashDevicePath.bytes = device.bytes ++ DevicePathNode.endEntire.bytes := by
    rw [DevicePath.bytes, BdsLib.DevicePathInstance.bytes, hdevice, hsingle]
    simp [BdsLib.nodeBytes, BdsLib.instancesBehind]
  have hpath : h.devicePath.bytes =
      device.bytes ++ (node.bytes ++ DevicePathNode.endEntire.bytes) := by
    rw [DevicePath.bytes, BdsLib.DevicePathInstance.bytes, hnodes, hothers]
    simp [BdsLib.nodeBytes, BdsLib.instancesBehind]
  have hsize : env.flashDevicePathSize = device.bytes.length := by
    rw [FastbootEnvironment.flashDevicePathSize, hflash, List.length_append,
      DevicePathNode.length_bytes DevicePathNode.endEntire]
    exact Nat.add_sub_cancel _ _
  have hfound : partitionNumberAt (h.devicePath.bytes.drop device.bytes.length) = n := by
    rw [hpath, List.drop_left, partitionNumberAt_append, hnumber]
    rw [DevicePathNode.length_bytes, hdata]
    omega
  rw [FastbootEnvironment.partitionNumber, hsize, hflash, hpath, List.take_left, List.take_left,
    if_pos rfl, hnodes, ← hpath]
  simp only [List.singleton_append, hfound, if_neg hn.ne']

/-- The usual table, and the services that a call asks for. -/
structure ShortLabels (env : FastbootEnvironment) (call : FlashCall) : Prop where
  read : env.entriesRead = true
  pool : ∀ h ∈ env.handles, h.allocatePool = true
  valid : env.header.valid = true
  /-- The blocks hold a header. -/
  block : 88 ≤ env.blockSize.toNat
  entryLba : env.header.partitionEntryLba = 2
  entrySize : env.header.sizeOfPartitionEntry = sizeofPartitionEntry
  /-- The entries and a block more do not exceed a `UINTN`. -/
  room : sizeofPartitionEntry * env.header.numberOfPartitionEntries + env.blockSize.toNat ≤
    2 ^ env.arch.uintnBits
  device : ∃ node, env.flashDevicePath.first.nodes = [node] ∧ env.flashDevicePath.others = []
  /-- What is behind the device is a partition of the table, and its label is short. -/
  labels : ∀ h ∈ env.handles, ∀ n, env.partitionNumber h = some n →
    h.IsPartition env.flashDevicePath n ∧ n ≤ env.header.numberOfPartitionEntries ∧
      (env.label n).length < partitionNameMaxLength / 2
  name : call.partitionName.chars.length < partitionNameUnicodeLength
  opens : ∀ h ∈ env.handles, call.openBlockIo h = .ok ()
  size : ∀ h ∈ env.handles, partitionSize env.arch h = h.partitionBytes

namespace ShortLabels

variable {env : FastbootEnvironment} {call : FlashCall}

lemma gptHeader (h : ShortLabels env call) : env.gptHeader = env.header := by
  have hblock := h.block
  have hload : ∀ a w, a + w ≤ 88 → (env.behindHeader.write 0
      (env.disk.read env.blockSize.toNat env.blockSize.toNat)).loadNat (0 + a) w =
        env.disk.loadNat (env.blockSize.toNat + a) w := by
    intro a w haw
    rw [ByteStore.loadNat, ByteStore.loadNat]
    congr 1
    refine ByteStore.read_congr fun i hi => ?_
    rw [Nat.add_assoc 0, ByteStore.write_apply_on (by rw [ByteStore.length_read]; omega),
      ByteStore.getElem_read, Nat.add_assoc]
  unfold FastbootEnvironment.gptHeader FastbootEnvironment.header partitionTableHeader
  rw [PartitionTableHeader.mk.injEq]
  exact ⟨hload 0 8 (by decide), hload 24 8 (by decide), hload 72 8 (by decide),
    hload 80 4 (by decide), hload 84 4 (by decide)⟩

/-- The entries are read whole. -/
lemma le_bufferSize (h : ShortLabels env call) :
    sizeofPartitionEntry * env.header.numberOfPartitionEntries ≤ env.bufferSize := by
  have hroom := h.room
  have hblock := h.block
  have hone : (env.blockSize - 1).toNat < env.blockSize.toNat := by
    rw [UInt32.toNat_sub_of_le _ _ (UInt32.le_iff_toNat_le.mpr (by simp; omega))]
    simp
    omega
  rw [FastbootEnvironment.bufferSize, h.gptHeader, h.entrySize,
    Arch.uintn_of_lt (by omega)]
  exact le_alignValue (by omega)

/-- A partition of the table has its label where `PartitionEntries` is indexed for it. -/
lemma partitionNameAt_eq (h : ShortLabels env call) {n : ℕ} (hpos : 0 < n)
    (hn : n ≤ env.header.numberOfPartitionEntries) :
    env.partitionNameAt n = sizeofPartitionEntry * (n - 1) + partitionNameOffset ∧
      env.partitionNameAt n + partitionNameMaxLength ≤ env.bufferSize := by
  have hroom := h.room
  have hblock := h.block
  have hbuffer := h.le_bufferSize
  have hentry : sizeofPartitionEntry * (n - 1) + sizeofPartitionEntry ≤
      sizeofPartitionEntry * env.header.numberOfPartitionEntries := by
    rw [← Nat.mul_succ]
    exact Nat.mul_le_mul_left _ (by omega)
  unfold sizeofPartitionEntry at hroom hbuffer hentry
  have hname : env.partitionNameAt n = 128 * (n - 1) + 56 := Arch.uintn_of_lt (by
    unfold sizeofPartitionEntry partitionNameOffset
    omega)
  rw [hname]
  refine ⟨rfl, ?_⟩
  unfold partitionNameMaxLength
  omega

/-- The number of a handle that is taken for a partition is not zero. -/
lemma pos_of_partitionNumber {h : BlockIoHandle} {n : ℕ} (hn : env.partitionNumber h = some n) :
    0 < n := by
  unfold FastbootEnvironment.partitionNumber at hn
  split at hn
  · split at hn
    · dsimp only at hn
      split at hn
      · cases hn
      · rename_i hne
        obtain rfl := Option.some.inj hn
        exact Nat.pos_of_ne_zero hne
    · cases hn
  · cases hn

lemma entriesWithin (h : ShortLabels env call) : env.EntriesWithin := by
  intro p hp
  obtain ⟨hmem, hn⟩ := FastbootEnvironment.mem_handles_of_mem_copied hp
  exact (h.partitionNameAt_eq (pos_of_partitionNumber hn) (h.labels _ hmem _ hn).2.1).2

/-- `PartitionNameUnicode` is the name. -/
lemma holdsString_unicode (h : ShortLabels env call) :
    HoldsString call.partitionNameUnicode call.partitionName.wide := by
  rw [FlashCall.partitionNameUnicode, if_pos h.name]
  exact holdsString_overlay

/-- A partition is known by its label. -/
lemma same_iff (h : ShortLabels env call) {p : BlockIoHandle × ℕ} (hp : p ∈ env.listed) :
    SameString (knownName env call p) call.partitionNameUnicode ↔
      env.label p.2 = call.partitionName.wide := by
  obtain ⟨hmem, hn⟩ := FastbootEnvironment.mem_handles_of_mem_listed hp
  obtain ⟨-, hle, hshort⟩ := h.labels _ hmem _ hn
  have htaken : env.takenName p.2 = (List.range (partitionNameMaxLength / 2)).map
      (charsAt env.disk (env.header.partitionEntryLba * env.blockSize.toNat +
        env.header.sizeOfPartitionEntry * (p.2 - 1) + partitionNameOffset)) := by
    refine List.map_congr_left fun k _ => ?_
    rw [h.entryLba, h.entrySize, Nat.add_assoc, ← (h.partitionNameAt_eq
      (pos_of_partitionNumber hn) hle).1, charsAt, charsAt, Nat.add_assoc]
    rfl
  rw [h.holdsString_unicode.same_iff call.partitionName.wide_ne_zero, knownName, htaken]
  exact holdsString_overlay_iff call.partitionName.wide_ne_zero hshort (by decide)

lemma named_iff (h : ShortLabels env call) {k : BlockIoHandle} (hk : k ∈ env.handles) :
    Named env call k ↔
      ∃ n, (k, n) ∈ env.listed ∧ env.label n = call.partitionName.wide := by
  obtain ⟨node, hnodes, hothers⟩ := h.device
  constructor
  · rintro ⟨n, hpart, -, hpos, -, hlabel⟩
    refine ⟨n, ?_, hlabel⟩
    have hn := partitionNumber_of_isPartition hnodes hothers hpart hpos
    have hall : env.partitionHandles.all (·.1.allocatePool) = true := by
      refine List.all_eq_true.mpr fun p hp => ?_
      obtain ⟨g, hg, heq⟩ := List.mem_filterMap.mp hp
      obtain ⟨m, -, rfl⟩ := Option.map_eq_some_iff.mp heq
      exact h.pool g hg
    rw [FastbootEnvironment.listed, h.read, hall]
    exact List.mem_filterMap.mpr ⟨k, hk, by rw [hn, Option.map_some]⟩
  · rintro ⟨n, hmem, hlabel⟩
    obtain ⟨-, hn⟩ := FastbootEnvironment.mem_handles_of_mem_listed hmem
    obtain ⟨hpart, hle, -⟩ := h.labels k hk n hn
    exact ⟨n, hpart, h.valid, pos_of_partitionNumber hn, hle, hlabel⟩

lemma leadsRight (h : ShortLabels env call) : LeadsRight env call := by
  obtain ⟨r, hleads⟩ : ∃ r, LeadsTo env call r := FirstMatch.exists_of_total fun p _ =>
    h.holdsString_unicode.same_or_differ call.partitionName.wide_ne_zero
  cases r with
  | none =>
      refine .misses none hleads (by simp) fun k hk hnamed => ?_
      obtain ⟨n, hmem, hlabel⟩ := (h.named_iff hk).mp hnamed
      exact ((h.same_iff hmem).mpr hlabel).not_differ (hleads.rejected _ hmem)
  | some p =>
      obtain ⟨k, n⟩ := p
      obtain ⟨hmem, hsame⟩ := hleads.mem
      obtain ⟨hk, -⟩ := FastbootEnvironment.mem_handles_of_mem_listed hmem
      have hnamed := (h.named_iff hk).mpr ⟨n, hmem, (h.same_iff hmem).mp hsame⟩
      rcases Nat.lt_or_ge (partitionSize env.arch k) call.image.length with hsmall | hfits
      · refine .refuses k n hleads (h.opens k hk) hsmall ⟨k, hk, hnamed, ?_⟩
        rw [← h.size k hk]
        exact hsmall
      · exact .writes k n hleads (h.opens k hk) hfits hnamed

/-- With the usual table and short labels the partition that is named is flashed. -/
theorem flashesNamed (h : ShortLabels env call) : FlashesNamed env call :=
  flashesNamed_of_leadsRight h.entriesWithin h.leadsRight

/-- The two partitions in entries of the usual size. -/
example : ShortLabels
    { largeEntries with
      disk := (largeDisk.write 596 [128, 0]).write 1208 [0x62] } flashB where
  read := by decide +kernel
  pool := by decide
  valid := by decide
  block := by decide
  entryLba := by decide
  entrySize := by decide
  room := by decide
  device := ⟨flashNode, rfl, rfl⟩
  labels := by
    intro h hmem n hn
    obtain rfl : h = secondPartition := List.mem_singleton.mp hmem
    have hnumber : largeEntries.partitionNumber secondPartition = some 2 := by decide
    obtain rfl : 2 = n := Option.some.inj (hnumber.symm.trans hn)
    exact ⟨⟨secondNode, rfl, rfl, rfl, rfl, rfl, rfl⟩, by decide, by decide⟩
  name := by decide
  opens := fun _ _ => rfl
  size := by decide

end ShortLabels

end FastBoot
end MuPlatform
