import MuPlatform.FastBoot.PartitionTable

/-!
# Flashing a partition by its name

`ArmFastbootPlatformFlashPartition` (`ArmVExpressFastBoot.c`) searches the list of partitions for
the name it is given and writes the image to the first partition whose entry holds the name.

The name it compares with is that in `PartitionNameUnicode`, which `AsciiStrToUnicodeStrS` leaves as
it was where the name does not fit.  The name of an entry is the half of the label that was copied
and the pool behind it, so a label is not terminated where it has more characters than that.
-/

namespace MuPlatform
namespace FastBoot

open BdsLib (DevicePathNode)

/-! ## The call -/

/-- A string of ASCII characters. -/
structure AsciiString where
  chars : List UInt8
  ascii : ∀ c ∈ chars, c ≠ 0 ∧ c < 0x80

namespace AsciiString

/-- The string as `CHAR16` characters. -/
def wide (s : AsciiString) : List UInt16 := s.chars.map (·.toUInt16)

lemma wide_ne_zero (s : AsciiString) : ∀ c ∈ s.wide, c ≠ 0 := by
  intro c hc hzero
  obtain ⟨d, hd, rfl⟩ := List.mem_map.mp hc
  refine (s.ascii d hd).1 ?_
  rw [← UInt8.toNat_inj]
  simpa using congrArg UInt16.toNat hzero

end AsciiString

/-- A call, and what it finds. -/
structure FlashCall where
  partitionName : AsciiString
  image : List UInt8
  /-- The characters on the stack from `PartitionNameUnicode` on. -/
  stack : ℕ → UInt16
  /-- The characters in memory from `PartitionName` of an entry on, where they were not copied. -/
  stale : BlockIoHandle → ℕ → UInt16
  openBlockIo : BlockIoHandle → Except EfiError Unit
  /-- `WriteDisk` has no error for a partition that is not found. -/
  writeDisk : BlockIoHandle → {status : EfiStatus // status ≠ .notFound}

/-- A request to `WriteDisk`. -/
structure DiskWrite where
  partition : BlockIoHandle
  offset : ℕ
  data : List UInt8

/-- What a call returns, and what it has written. -/
structure FlashResult where
  status : EfiStatus
  write : Option DiskWrite

/-- `ARRAY_SIZE (PartitionNameUnicode)`. -/
def partitionNameUnicodeLength : ℕ := 60

/-- `PartitionSize`. -/
def partitionSize (arch : Arch) (h : BlockIoHandle) : ℕ :=
  arch.uintn ((h.lastBlock + 1) * h.blockSize.toUInt64).toNat

namespace FlashCall

section Model

variable (call : FlashCall)

/-- `PartitionNameUnicode` behind `AsciiStrToUnicodeStrS`. -/
def partitionNameUnicode : ℕ → UInt16 :=
  if call.partitionName.chars.length < partitionNameUnicodeLength then
    overlay (call.partitionName.wide ++ [0]) call.stack
  else call.stack

/-- The characters of an entry. -/
def nameOf (entry : FastbootPartitionList) : ℕ → UInt16 :=
  overlay entry.partitionName (call.stale entry.partitionHandle)

/-- The part of `ArmFastbootPlatformFlashPartition` behind the search. -/
def writeTo (arch : Arch) (h : BlockIoHandle) : FlashResult :=
  match call.openBlockIo h with
  | .error _ => ⟨.notFound, none⟩
  | .ok () =>
    if partitionSize arch h < call.image.length then ⟨.volumeFull, none⟩
    else ⟨(call.writeDisk h).val, some ⟨h, 0, call.image⟩⟩

/-- `ArmFastbootPlatformFlashPartition`, with a bound on the rounds of `StrCmp`. -/
def armFastbootPlatformFlashPartition (arch : Arch) (rounds : ℕ)
    (partitions : List FastbootPartitionList) : Option FlashResult :=
  match searchFirst
      (fun entry => compareStrings rounds (call.nameOf entry) call.partitionNameUnicode)
      partitions with
  | none => none
  | some none => some ⟨.notFound, none⟩
  | some (some entry) => some (call.writeTo arch entry.partitionHandle)

end Model

end FlashCall

/-! ## Flashing what is named -/

section Flashing

variable (env : FastbootEnvironment) (call : FlashCall)

/-- The partition of a handle has the label that is named. -/
def Named (h : BlockIoHandle) : Prop := env.Labelled call.partitionName.wide h

/-- The call flashes the partition that is named. -/
structure FlashedNamed (r : FlashResult) : Prop where
  /-- What is written is the image, to a partition that is named and inside it. -/
  only : ∀ w, r.write = some w → w.partition ∈ env.handles ∧ Named env call w.partition ∧
    w.data = call.image ∧ w.offset + w.data.length ≤ w.partition.partitionBytes
  /-- It is not found when no handle is that of a partition that is named. -/
  notFound : r.status = .notFound ↔ ∀ h ∈ env.handles, ¬ Named env call h
  /-- It is written where there is room for the image. -/
  written : (∃ h ∈ env.handles, Named env call h) →
    (∀ h ∈ env.handles, Named env call h → call.image.length ≤ h.partitionBytes) →
    r.write.isSome = true

/-- After the initialisation, which reads no more of the entries than the device gave, the call ends
and flashes the partition that is named. -/
structure FlashesNamed : Prop where
  inside : ∀ a ∈ env.armFastbootPlatformInit.accesses, a.Inside ⟨0, env.bufferSize⟩ ⟨0, 0⟩
  flashes : ∃ rounds r, call.armFastbootPlatformFlashPartition env.arch rounds
    env.armFastbootPlatformInit.partitions = some r ∧ FlashedNamed env call r

/-- The characters that a partition is known by: those on the device, and the pool behind them. -/
def knownName (p : BlockIoHandle × ℕ) : ℕ → UInt16 :=
  overlay (env.takenName p.2) (call.stale p.1)

/-- What the name leads to among the partitions that are listed: the first that is known by it. -/
def LeadsTo (p : Option (BlockIoHandle × ℕ)) : Prop :=
  FirstMatch (fun p => SameString (knownName env call p) call.partitionNameUnicode)
    (fun p => StringsDiffer (knownName env call p) call.partitionNameUnicode) env.listed p

/-- The name leads to the right partition. -/
inductive LeadsRight : Prop
  /-- To one that is named and takes the image. -/
  | writes (h : BlockIoHandle) (n : ℕ) (leads : LeadsTo env call (some (h, n)))
      (opens : call.openBlockIo h = .ok ()) (fits : call.image.length ≤ partitionSize env.arch h)
      (named : Named env call h)
  /-- To one that does not take the image, where there is one that is named and too small. -/
  | refuses (h : BlockIoHandle) (n : ℕ) (leads : LeadsTo env call (some (h, n)))
      (opens : call.openBlockIo h = .ok ())
      (small : partitionSize env.arch h < call.image.length)
      (named : ∃ g ∈ env.handles, Named env call g ∧ g.partitionBytes < call.image.length)
  /-- To none, or to one that does not open, where none is named. -/
  | misses (p : Option (BlockIoHandle × ℕ)) (leads : LeadsTo env call p)
      (closed : ∀ q ∈ p, call.openBlockIo q.1 ≠ .ok ())
      (unnamed : ∀ h ∈ env.handles, ¬ Named env call h)

end Flashing

section Calls

variable {env : FastbootEnvironment} {call : FlashCall}

/-- The check of the size lets nothing through that the partition has no room for. -/
lemma partitionSize_le (arch : Arch) (h : BlockIoHandle) :
    partitionSize arch h ≤ h.partitionBytes := by
  unfold partitionSize BlockIoHandle.partitionBytes
  refine (arch.uintn_le _).trans ?_
  rw [UInt64.toNat_mul, UInt64.toNat_add]
  refine (Nat.mod_le _ _).trans ?_
  refine Nat.mul_le_mul (Nat.mod_le _ _) ?_
  simp

/-- What the call comes to, by where the name leads. -/
def outcome (env : FastbootEnvironment) (call : FlashCall) :
    Option (BlockIoHandle × ℕ) → FlashResult
  | none => ⟨.notFound, none⟩
  | some p => call.writeTo env.arch p.1

/-- An entry of the list has the name that its partition is known by. -/
lemma nameOf_entry (hwithin : env.EntriesWithin) {p : BlockIoHandle × ℕ} (hp : p ∈ env.listed) :
    call.nameOf ⟨env.copiedName env.partitionEntries p.2, p.1⟩ = knownName env call p := by
  rw [FlashCall.nameOf, knownName,
    FastbootEnvironment.copiedName_eq hwithin (FastbootEnvironment.mem_copied_of_mem_listed hp)]

/-- The search of the list ends where the name leads anywhere. -/
lemma exists_search_iff (hwithin : env.EntriesWithin) {found : Option FastbootPartitionList} :
    (∃ rounds, searchFirst
      (fun entry => compareStrings rounds (call.nameOf entry) call.partitionNameUnicode)
      env.armFastbootPlatformInit.partitions = some found) ↔
      ∃ p, LeadsTo env call p ∧
        found = p.map fun p => ⟨env.copiedName env.partitionEntries p.2, p.1⟩ := by
  rw [exists_searchFirst_iff
    (fun rounds entry => compareStrings rounds (call.nameOf entry) call.partitionNameUnicode)
    compareStrings_mono, FastbootEnvironment.partitions_init, FirstMatch.map_iff]
  refine exists_congr fun p => and_congr_left fun _ => ⟨fun h => ?_, fun h => ?_⟩
  · refine h.mono (fun q hq hsame => ?_) fun q hq hdiffer => ?_
    · rw [← nameOf_entry hwithin hq]
      exact exists_compareStrings_true.mp hsame
    · rw [← nameOf_entry hwithin hq]
      exact exists_compareStrings_false.mp hdiffer
  · refine FirstMatch.mono h (fun q hq hsame => ?_) fun q hq hdiffer => ?_
    · rw [← nameOf_entry hwithin hq] at hsame
      exact exists_compareStrings_true.mpr hsame
    · rw [← nameOf_entry hwithin hq] at hdiffer
      exact exists_compareStrings_false.mpr hdiffer

/-- The call ends where the name leads anywhere, and comes to that. -/
lemma flashPartition_iff (hwithin : env.EntriesWithin) {r : FlashResult} :
    (∃ rounds, call.armFastbootPlatformFlashPartition env.arch rounds
      env.armFastbootPlatformInit.partitions = some r) ↔
      ∃ p, LeadsTo env call p ∧ outcome env call p = r := by
  constructor
  · rintro ⟨rounds, h⟩
    rw [FlashCall.armFastbootPlatformFlashPartition] at h
    split at h
    · cases h
    · rename_i hsearch
      obtain ⟨p, hp, hnone⟩ := (exists_search_iff hwithin).mp ⟨rounds, hsearch⟩
      obtain rfl := Option.map_eq_none_iff.mp hnone.symm
      exact ⟨none, hp, Option.some.inj h⟩
    · rename_i entry hsearch
      obtain ⟨p, hp, hsome⟩ := (exists_search_iff hwithin).mp ⟨rounds, hsearch⟩
      obtain ⟨q, rfl, rfl⟩ := Option.map_eq_some_iff.mp hsome.symm
      exact ⟨some q, hp, Option.some.inj h⟩
  · rintro ⟨p, hp, rfl⟩
    obtain ⟨rounds, hsearch⟩ := (exists_search_iff hwithin).mpr ⟨p, hp, rfl⟩
    refine ⟨rounds, ?_⟩
    rw [FlashCall.armFastbootPlatformFlashPartition, hsearch]
    cases p with
    | none => rfl
    | some q => rfl

/-- What comes of a call that opens no partition. -/
lemma flashedNamed_notFound :
    FlashedNamed env call ⟨.notFound, none⟩ ↔ ∀ h ∈ env.handles, ¬ Named env call h := by
  constructor
  · exact fun h => h.notFound.mp rfl
  · intro hnone
    refine ⟨?_, ⟨fun _ => hnone, fun _ => rfl⟩, ?_⟩
    · rintro w ⟨⟩
    · rintro ⟨h, hmem, hnamed⟩
      exact absurd hnamed (hnone h hmem)

/-- What comes of a call that finds no room for the image. -/
lemma flashedNamed_volumeFull : FlashedNamed env call ⟨.volumeFull, none⟩ ↔
    ∃ g ∈ env.handles, Named env call g ∧ g.partitionBytes < call.image.length := by
  constructor
  · intro h
    by_contra hfits
    have hnamed : ∃ g ∈ env.handles, Named env call g := by
      by_contra hnone
      have hfull := h.notFound.mpr fun g hg hn => hnone ⟨g, hg, hn⟩
      cases hfull
    have hwritten := h.written hnamed fun g hg hn =>
      Nat.le_of_not_lt fun hlt => hfits ⟨g, hg, hn, hlt⟩
    cases hwritten
  · rintro ⟨g, hg, hnamed, hsmall⟩
    refine ⟨?_, ⟨nofun, fun hnone => absurd hnamed (hnone g hg)⟩, fun _ hfits => ?_⟩
    · rintro w ⟨⟩
    · exact absurd (hfits g hg hnamed) (Nat.not_le_of_lt hsmall)

/-- What comes of a call that writes the image to a partition that has room for it. -/
lemma flashedNamed_written {h : BlockIoHandle} (hmem : h ∈ env.handles)
    (hfits : call.image.length ≤ partitionSize env.arch h) :
    FlashedNamed env call ⟨(call.writeDisk h).val, some ⟨h, 0, call.image⟩⟩ ↔
      Named env call h := by
  constructor
  · exact fun hflashed => (hflashed.only _ rfl).2.1
  · intro hnamed
    refine ⟨?_, ⟨fun hstatus => absurd hstatus (call.writeDisk h).property,
      fun hnone => absurd hnamed (hnone h hmem)⟩, fun _ _ => rfl⟩
    rintro w ⟨⟩
    refine ⟨hmem, hnamed, rfl, ?_⟩
    rw [Nat.zero_add]
    exact hfits.trans (partitionSize_le env.arch h)

/-- What is flashed is what was named just when the name leads to the right partition. -/
lemma leadsRight_iff :
    LeadsRight env call ↔ ∃ p, LeadsTo env call p ∧ FlashedNamed env call (outcome env call p) := by
  constructor
  · rintro (⟨h, n, hleads, hopens, hfits, hnamed⟩ | ⟨h, n, hleads, hopens, hsmall, hnamed⟩ |
      ⟨p, hleads, hclosed, hunnamed⟩)
    · refine ⟨_, hleads, ?_⟩
      rw [outcome, FlashCall.writeTo, hopens]
      simp only [if_neg (Nat.not_lt_of_le hfits)]
      exact (flashedNamed_written (FastbootEnvironment.mem_handles_of_mem_listed
        hleads.mem.1).1 hfits).mpr hnamed
    · refine ⟨_, hleads, ?_⟩
      rw [outcome, FlashCall.writeTo, hopens]
      simp only [if_pos hsmall]
      exact flashedNamed_volumeFull.mpr hnamed
    · refine ⟨p, hleads, ?_⟩
      cases p with
      | none => exact flashedNamed_notFound.mpr hunnamed
      | some q =>
          rw [outcome, FlashCall.writeTo]
          cases hopens : call.openBlockIo q.1 with
          | error status => exact flashedNamed_notFound.mpr hunnamed
          | ok _ => exact absurd hopens (hclosed q rfl)
  · rintro ⟨p, hleads, hflashed⟩
    cases p with
    | none => exact .misses none hleads (by simp) (flashedNamed_notFound.mp hflashed)
    | some q =>
        obtain ⟨h, n⟩ := q
        rw [outcome, FlashCall.writeTo] at hflashed
        cases hopens : call.openBlockIo h with
        | error status =>
            rw [hopens] at hflashed
            exact .misses _ hleads (by simp [hopens]) (flashedNamed_notFound.mp hflashed)
        | ok _ =>
            simp only [hopens] at hflashed
            by_cases hsmall : partitionSize env.arch h < call.image.length
            · rw [if_pos hsmall] at hflashed
              exact .refuses h n hleads hopens hsmall (flashedNamed_volumeFull.mp hflashed)
            · rw [if_neg hsmall] at hflashed
              have hfits := Nat.le_of_not_lt hsmall
              exact .writes h n hleads hopens hfits ((flashedNamed_written
                (FastbootEnvironment.mem_handles_of_mem_listed hleads.mem.1).1 hfits).mp hflashed)

lemma flashesNamed_of_leadsRight (hwithin : env.EntriesWithin) (hright : LeadsRight env call) :
    FlashesNamed env call := by
  obtain ⟨p, hleads, hflashed⟩ := leadsRight_iff.mp hright
  obtain ⟨rounds, hrun⟩ := (flashPartition_iff hwithin).mpr ⟨p, hleads, rfl⟩
  exact ⟨FastbootEnvironment.accesses_inside_iff.mpr hwithin, rounds, _, hrun, hflashed⟩

/-- Fastboot flashes the partition that is named just when the labels it copies lie in what it has
read of the device and the name leads to the right partition. -/
theorem flashesNamed_iff :
    FlashesNamed env call ↔ env.EntriesWithin ∧ LeadsRight env call := by
  constructor
  · rintro ⟨hinside, rounds, r, hrun, hflashed⟩
    have hwithin := FastbootEnvironment.accesses_inside_iff.mp hinside
    obtain ⟨p, hleads, rfl⟩ := (flashPartition_iff hwithin).mp ⟨rounds, hrun⟩
    exact ⟨hwithin, leadsRight_iff.mpr ⟨p, hleads, hflashed⟩⟩
  · rintro ⟨hwithin, hright⟩
    exact flashesNamed_of_leadsRight hwithin hright

end Calls

/-! ## A larger entry -/

/-- The device of the flash. -/
def flashNode : DevicePathNode := ⟨0x01, 0x04, List.replicate 16 0x09, by decide⟩

/-- The node of partition 2. -/
def secondNode : DevicePathNode :=
  ⟨mediaDevicePath, mediaHarddriveDp, [2, 0, 0, 0] ++ List.replicate 34 0, by decide⟩

/-- Partition 2, of a thousand blocks. -/
def secondPartition : BlockIoHandle where
  handle := 1
  devicePath := ⟨⟨[flashNode, secondNode], by decide⟩, []⟩
  allocatePool := true
  lastBlock := 999
  blockSize := 512

/-- The device: a GPT of two partitions, labelled `a` and `b`, in entries of 256 bytes. -/
def largeDisk : ByteStore :=
  ((((ByteStore.write (fun _ => 0) 512 [0x45, 0x46, 0x49, 0x20, 0x50, 0x41, 0x52, 0x54]).write
    536 [1]).write 584 [2]).write 592 [2, 0, 0, 0, 0, 1]).write 1080 [0x61] |>.write 1336 [0x62]

/-- The platform with the device. -/
def largeEntries : FastbootEnvironment where
  arch := .aarch64
  flashDevicePath := ⟨⟨[flashNode], by decide⟩, []⟩
  locateDevicePath := .ok ()
  openBlockIo := .ok ()
  disk := largeDisk
  blockSize := 512
  allocateHeader := true
  readHeader := .ok ()
  readEntries := .ok ()
  behindHeader := fun _ => 0
  behindEntries := fun _ => 0
  handles := [secondPartition]

/-- Partition `b` is to be flashed. -/
def flashB : FlashCall where
  partitionName := ⟨[0x62], by simp⟩
  image := [0]
  stack := fun _ => 0
  stale := fun _ _ => 0
  openBlockIo := fun _ => .ok ()
  writeDisk := fun _ => ⟨.success, by decide⟩

lemma named_secondPartition : Named largeEntries flashB secondPartition := by
  refine ⟨2, ⟨secondNode, rfl, rfl, rfl, rfl, rfl, rfl⟩, ?_, by decide, ?_, ?_⟩
  · decide
  · decide
  · decide

/-- The entry of partition 2 is not looked for behind 256 bytes, so the partition is not found. -/
theorem not_flashesNamed_largeEntries : ¬ FlashesNamed largeEntries flashB := by
  rintro ⟨hinside, rounds, r, hrun, hflashed⟩
  have hwithin := FastbootEnvironment.accesses_inside_iff.mp hinside
  obtain ⟨p, hleads, rfl⟩ := (flashPartition_iff hwithin).mp ⟨rounds, hrun⟩
  have hdiffer : StringsDiffer (knownName largeEntries flashB (secondPartition, 2))
      flashB.partitionNameUnicode :=
    ⟨0, fun i hi => absurd hi (Nat.not_lt_zero i), by decide⟩
  cases p with
  | none => exact hflashed.notFound.mp rfl _ List.mem_cons_self named_secondPartition
  | some q =>
      obtain ⟨hmem, hsame⟩ := hleads.mem
      obtain ⟨h, n⟩ := q
      obtain ⟨hhandle, hn⟩ := FastbootEnvironment.mem_handles_of_mem_listed hmem
      obtain rfl : h = secondPartition := List.mem_singleton.mp hhandle
      have hnumber : largeEntries.partitionNumber secondPartition = some 2 := by decide
      obtain rfl : 2 = n := Option.some.inj (hnumber.symm.trans hn)
      exact hsame.not_differ hdiffer

end FastBoot
end MuPlatform
