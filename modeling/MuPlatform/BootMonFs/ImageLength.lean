import Mathlib.Algebra.BigOperators.Fin
import MuPlatform.BootMonFs.Calls

/-!
# The length of a file

`BootMonFsGetImageLength` adds up the sizes of all four region slots of a description, and then
the endings of the waiting regions that lie beyond the sum so far.  The length of a file is the
end of its data: the regions its description counts, or the furthest ending of a region that
waits.

`reportsLength_iff` says for which descriptions and which writes the two are the same.
-/

namespace MuPlatform
namespace BootMonFs

/-- The furthest offset behind a region. -/
def furthestEnding : List FileRegion → ℕ
  | [] => 0
  | region :: regions => max region.ending (furthestEnding regions)

lemma furthestEnding_append (regions regions' : List FileRegion) :
    furthestEnding (regions ++ regions') =
      max (furthestEnding regions) (furthestEnding regions') := by
  induction regions with
  | nil => simp [furthestEnding]
  | cons region regions ih => rw [List.cons_append, furthestEnding, ih, furthestEnding, max_assoc]

lemma furthestEnding_singleton (region : FileRegion) :
    furthestEnding [region] = region.ending := by
  rw [furthestEnding, furthestEnding, Nat.max_zero]

namespace File

/-! ## The sizes of a description -/

/-- The sum of the sizes of the regions the description counts. -/
def describedSize (f : File) : ℕ :=
  ∑ i : Fin hwImageDescriptionRegionMax,
    if i < f.hwDescription.regionCount.toNat then (f.hwDescription.region i).size.toNat else 0

/-- The sum of the sizes in the slots behind `RegionCount`. -/
def unusedSize (f : File) : ℕ :=
  ∑ i : Fin hwImageDescriptionRegionMax,
    if i < f.hwDescription.regionCount.toNat then 0 else (f.hwDescription.region i).size.toNat

/-- The length of the file: the end of what its description counts and of what waits. -/
def realLength (f : File) : ℕ := max f.describedSize (furthestEnding f.regionToFlush)

/-- The file with the slots behind `RegionCount` blank. -/
def counted (f : File) : File := { f with hwDescription := f.hwDescription.shim }

lemma describedSize_add_unusedSize (f : File) :
    f.describedSize + f.unusedSize =
      ∑ i : Fin hwImageDescriptionRegionMax, (f.hwDescription.region i).size.toNat := by
  rw [describedSize, unusedSize, ← Finset.sum_add_distrib]
  refine Finset.sum_congr rfl fun i _ => ?_
  split <;> simp

lemma toNat_regionSizes (f : File) :
    f.regionSizes.toNat = (f.describedSize + f.unusedSize) % 2 ^ 32 := by
  rw [describedSize_add_unusedSize, Fin.sum_univ_four, regionSizes, UInt32.toNat_add,
    UInt32.toNat_add, UInt32.toNat_add]
  omega

lemma toNat_regionSizes_counted (f : File) :
    f.counted.regionSizes.toNat = f.describedSize % 2 ^ 32 := by
  rw [toNat_regionSizes]
  have hdescribed : f.counted.describedSize = f.describedSize := by
    refine Finset.sum_congr rfl fun i _ => ?_
    simp only [counted, HwImageDescription.shim]
    split <;> rfl
  have hunused : f.counted.unusedSize = 0 := by
    refine Finset.sum_eq_zero fun i _ => ?_
    simp only [counted, HwImageDescription.shim]
    split <;> rfl
  rw [hdescribed, hunused, Nat.add_zero]

/-- The four slots add up to what is described exactly where the described sizes fit and the
unused ones vanish in a `UINT32`. -/
lemma toNat_regionSizes_eq_iff (f : File) :
    f.regionSizes.toNat = f.describedSize ↔ f.describedSize < 2 ^ 32 ∧ 2 ^ 32 ∣ f.unusedSize := by
  rw [toNat_regionSizes]
  omega

/-! ## The waiting regions -/

lemma addRegions_snoc (regions : List FileRegion) (region : FileRegion) (total : UInt32) :
    addRegions (regions ++ [region]) total =
      addRegions [region] (addRegions regions total) := by
  induction regions generalizing total with
  | nil => rfl
  | cons first regions ih => exact ih _

/-- One region is counted right exactly where its ending fits, and it lies in what is counted
already or is the first. -/
lemma toNat_addRegions_singleton_iff (region : FileRegion) (total : UInt32) :
    (addRegions [region] total).toNat = max total.toNat region.ending ↔
      region.ending < 2 ^ 32 ∧ (region.ending ≤ total.toNat ∨ total.toNat = 0) := by
  have htotal : total.toNat < 2 ^ 32 := total.toNat_lt
  have hlow : uint64 region.ending = region.ending % 2 ^ 64 := rfl
  simp only [addRegions]
  by_cases hlong : uint64 region.ending > total.toNat
  · rw [if_pos hlong, UInt32.toNat_add, UInt32.toNat_ofNat']
    omega
  · rw [if_neg hlong]
    omega

/-! ## Writes -/

/-- The file after a write of the region's bytes at its offset. -/
def write (f : File) (region : FileRegion) : File :=
  match f.info with
  | some info => ({ f with position := region.offset } : File).queue info region.buffer
  | none => f

/-- The file after some writes. -/
def written (f : File) (writes : List FileRegion) : File := writes.foldl write f

lemma written_snoc (f : File) (writes : List FileRegion) (region : FileRegion) :
    f.written (writes ++ [region]) = (f.written writes).write region := by
  rw [written, List.foldl_append]
  rfl

/-- What a write makes of an open file. -/
lemma write_of_open {f : File} {info : FileInfo} (hinfo : f.info = some info)
    (region : FileRegion) :
    f.write region =
      { f with
        regionToFlush := f.regionToFlush ++ [region]
        position := uint64 region.ending
        info := some
          { info with fileSize :=
              if uint64 region.ending > info.fileSize then uint64 region.ending
              else info.fileSize } } := by
  rw [write, hinfo]
  rfl

/-- `BootMonFsSetPosition` and `BootMonFsWriteFile` make the write. -/
lemma writeFile_setPosition {f : File} {info : FileInfo} {s : Services}
    (hinfo : f.info = some info) (hmode : f.openMode ≠ .read) (hquiet : s.env.Quiet)
    {region : FileRegion} (hoffset : region.offset ≠ endOfFile) :
    ∃ s', writeFile region.buffer (f.setPosition region.offset info) info s =
      (.success, f.write region, s') := by
  obtain ⟨s₁, halloc₁, hwrote₁⟩ := allocatePool_quiet hquiet
  obtain ⟨s₂, halloc₂, -⟩ := allocatePool_quiet (hwrote₁.quiet hquiet)
  refine ⟨s₂, ?_⟩
  have hseeked : f.setPosition region.offset info = { f with position := region.offset } := by
    rw [setPosition, if_neg hoffset]
  rw [write, hseeked, writeFile, if_neg hmode]
  simp only [halloc₁, halloc₂, hinfo]

section Written

variable {f : File} (writes : List FileRegion)

lemma written_hwDescription : (f.written writes).hwDescription = f.hwDescription := by
  induction writes using List.reverseRecOn with
  | nil => rfl
  | append_singleton writes region ih =>
      rw [written_snoc, write]
      split
      · exact ih
      · exact ih

lemma written_isSome (hopen : f.info.isSome = true) :
    (f.written writes).info.isSome = true := by
  induction writes using List.reverseRecOn with
  | nil => exact hopen
  | append_singleton writes region ih =>
      obtain ⟨info, hinfo⟩ := Option.isSome_iff_exists.mp ih
      rw [written_snoc, write_of_open hinfo]
      rfl

lemma written_regionToFlush (hopen : f.info.isSome = true) :
    (f.written writes).regionToFlush = f.regionToFlush ++ writes := by
  induction writes using List.reverseRecOn with
  | nil => exact (List.append_nil _).symm
  | append_singleton writes region ih =>
      obtain ⟨info, hinfo⟩ := Option.isSome_iff_exists.mp (written_isSome writes hopen)
      rw [written_snoc, write_of_open hinfo, ih, List.append_assoc]

end Written

end File

/-! ## Right lengths -/

/-- The length reported for an open file is its real one and that of its `Info`, and does not
depend on the slots behind `RegionCount`. -/
structure ReportsLength (f : File) : Prop where
  real : f.imageLength.toNat = f.realLength
  fileSize : ∀ info, f.info = some info → info.fileSize = f.imageLength.toNat
  counted : f.counted.imageLength = f.imageLength

/-- The sizes in the description add up in a `UINT32` whose unused slots vanish, and each write
fits in it and ends within what is there before it, unless nothing is there. -/
structure LengthsAdd (f : File) (writes : List FileRegion) : Prop where
  described_lt : f.describedSize < 2 ^ 32
  unused_dvd : 2 ^ 32 ∣ f.unusedSize
  writes_lt : ∀ earlier region, earlier ++ [region] <+: writes → region.ending < 2 ^ 32
  within : ∀ earlier region, earlier ++ [region] <+: writes →
    region.ending ≤ max f.describedSize (furthestEnding earlier) ∨
      max f.describedSize (furthestEnding earlier) = 0

section Opened

variable {f : File} {media : Media} {name : FileName} {mode : OpenMode} {attributes : ℕ}
  {writes earlier : List FileRegion} {region : FileRegion}

lemma opened_written_realLength (hflushed : f.regionToFlush = []) (writes : List FileRegion) :
    ((f.opened media name mode attributes).written writes).realLength =
      max f.describedSize (furthestEnding writes) := by
  rw [File.realLength, File.describedSize, File.written_regionToFlush writes rfl,
    File.written_hwDescription]
  simp only [File.opened, hflushed, List.nil_append]
  rfl

lemma opened_written_imageLength (hflushed : f.regionToFlush = []) (writes : List FileRegion) :
    ((f.opened media name mode attributes).written writes).imageLength =
      File.addRegions writes f.regionSizes := by
  rw [File.imageLength, File.regionSizes, File.written_regionToFlush writes rfl,
    File.written_hwDescription]
  simp only [File.opened, hflushed, List.nil_append]
  rfl

lemma opened_written_counted (hflushed : f.regionToFlush = []) (writes : List FileRegion) :
    ((f.opened media name mode attributes).written writes).counted.imageLength =
      File.addRegions writes f.counted.regionSizes := by
  simp only [File.imageLength, File.regionSizes, File.counted]
  rw [File.written_regionToFlush writes rfl, File.written_hwDescription]
  simp only [File.opened, hflushed, List.nil_append]

/-- What the loop over the regions adds is the real length, after each of the writes. -/
lemma LengthsAdd.addRegions (h : LengthsAdd f writes) (hbegins : earlier <+: writes) :
    (File.addRegions earlier f.regionSizes).toNat =
      max f.describedSize (furthestEnding earlier) := by
  induction earlier using List.reverseRecOn with
  | nil =>
      rw [furthestEnding, Nat.max_zero]
      exact f.toNat_regionSizes_eq_iff.mpr ⟨h.described_lt, h.unused_dvd⟩
  | append_singleton earlier region ih =>
      have hbefore := ih ((List.prefix_append earlier [region]).trans hbegins)
      have hstep := (File.toNat_addRegions_singleton_iff region
        (File.addRegions earlier f.regionSizes)).mpr
        ⟨h.writes_lt earlier region hbegins, by rw [hbefore]; exact h.within earlier region hbegins⟩
      rw [File.addRegions_snoc, hstep, hbefore, furthestEnding_append,
        furthestEnding_singleton, max_assoc]

lemma LengthsAdd.fileSize (h : LengthsAdd f writes) (hflushed : f.regionToFlush = [])
    (hbegins : earlier <+: writes) :
    ∀ info, ((f.opened media name mode attributes).written earlier).info = some info →
      info.fileSize = max f.describedSize (furthestEnding earlier) := by
  induction earlier using List.reverseRecOn with
  | nil =>
      rintro info ⟨⟩
      have hempty := h.addRegions hbegins
      simp only [File.imageLength, hflushed]
      exact hempty
  | append_singleton earlier region ih =>
      intro info hinfo
      obtain ⟨before, hbefore⟩ := Option.isSome_iff_exists.mp
        (File.written_isSome (f := f.opened media name mode attributes) earlier rfl)
      have hsize := ih ((List.prefix_append earlier [region]).trans hbegins) before hbefore
      have hlt := h.writes_lt earlier region hbegins
      rw [File.written_snoc, File.write_of_open hbefore] at hinfo
      have hgrown : info.fileSize = if uint64 region.ending > before.fileSize then
          uint64 region.ending else before.fileSize := by
        rw [← Option.some.inj hinfo]
      rw [hgrown, uint64_of_lt (by omega), furthestEnding_append, furthestEnding_singleton, hsize]
      split <;> omega

/-- The last write fits and ends within what is there, if the lengths before and after it are
right. -/
lemma ReportsLength.lastWrite (hflushed : f.regionToFlush = [])
    (hbefore : ReportsLength ((f.opened media name mode attributes).written earlier))
    (hafter : ReportsLength
      ((f.opened media name mode attributes).written (earlier ++ [region]))) :
    region.ending < 2 ^ 32 ∧ (region.ending ≤ max f.describedSize (furthestEnding earlier) ∨
      max f.describedSize (furthestEnding earlier) = 0) := by
  have hsum := hbefore.real
  have hsum' := hafter.real
  rw [opened_written_imageLength hflushed, opened_written_realLength hflushed] at hsum hsum'
  rw [File.addRegions_snoc, furthestEnding_append, furthestEnding_singleton, ← max_assoc,
    ← hsum] at hsum'
  rw [← hsum]
  exact (File.toNat_addRegions_singleton_iff region _).mp hsum'

/-- An open file reports its real length after each of some writes exactly where the lengths
add. -/
theorem reportsLength_iff (f : File) (hflushed : f.regionToFlush = []) (media : Media)
    (name : FileName) (mode : OpenMode) (attributes : ℕ) (writes : List FileRegion) :
    (∀ earlier, earlier <+: writes →
      ReportsLength ((f.opened media name mode attributes).written earlier)) ↔
      LengthsAdd f writes := by
  constructor
  · intro h
    have hempty := (h [] List.nil_prefix).real
    rw [opened_written_imageLength hflushed, opened_written_realLength hflushed, furthestEnding,
      Nat.max_zero] at hempty
    obtain ⟨hlt, hdvd⟩ := f.toNat_regionSizes_eq_iff.mp hempty
    have hlast : ∀ earlier region, earlier ++ [region] <+: writes →
        region.ending < 2 ^ 32 ∧ (region.ending ≤ max f.describedSize (furthestEnding earlier) ∨
          max f.describedSize (furthestEnding earlier) = 0) := by
      intro earlier region hbegins
      exact (h earlier ((List.prefix_append earlier [region]).trans hbegins)).lastWrite hflushed
        (h _ hbegins)
    exact ⟨hlt, hdvd, fun earlier region hbegins => (hlast earlier region hbegins).1,
      fun earlier region hbegins => (hlast earlier region hbegins).2⟩
  · intro h earlier hbegins
    have hsizes : f.counted.regionSizes = f.regionSizes := by
      rw [← UInt32.toNat_inj, File.toNat_regionSizes_counted, Nat.mod_eq_of_lt h.described_lt,
        f.toNat_regionSizes_eq_iff.mpr ⟨h.described_lt, h.unused_dvd⟩]
    constructor
    case real =>
      rw [opened_written_imageLength hflushed, opened_written_realLength hflushed]
      exact h.addRegions hbegins
    case fileSize =>
      intro info hinfo
      rw [opened_written_imageLength hflushed, h.addRegions hbegins]
      exact h.fileSize hflushed hbegins info hinfo
    case counted =>
      rw [opened_written_counted hflushed, opened_written_imageLength hflushed, hsizes]

end Opened

lemma lengthsAdd_overwritten : LengthsAdd (File.created 0) [⟨0, [1, 2]⟩, ⟨0, [3]⟩] := by
  have hwrites : ∀ earlier region, earlier ++ [region] <+: [⟨0, [1, 2]⟩, ⟨0, [3]⟩] →
      (earlier = [] ∧ region = ⟨0, [1, 2]⟩) ∨
        earlier = [⟨0, [1, 2]⟩] ∧ region = (⟨0, [3]⟩ : FileRegion) := by
    intro earlier region hbegins
    obtain ⟨later, hall⟩ := hbegins
    rcases earlier with _ | ⟨first, _ | ⟨second, earlier⟩⟩ <;> simp_all
  constructor
  case described_lt => decide
  case unused_dvd => decide
  case writes_lt =>
    intro earlier region hbegins
    rcases hwrites earlier region hbegins with ⟨-, rfl⟩ | ⟨-, rfl⟩ <;> decide
  case within =>
    intro earlier region hbegins
    rcases hwrites earlier region hbegins with ⟨rfl, rfl⟩ | ⟨rfl, rfl⟩
    · exact .inr (by decide)
    · exact .inl (by decide)

/-- A file of two bytes of which the first is written over. -/
theorem reportsLength_iff_overwritten :
    LengthsAdd (File.created 0) [⟨0, [1, 2]⟩, ⟨0, [3]⟩] ∧
      ∀ earlier, earlier <+: [⟨0, [1, 2]⟩, ⟨0, [3]⟩] →
        ReportsLength (((File.created 0).opened ⟨512, 3, 0, by decide, by decide⟩ .empty .readWrite
          0).written earlier) :=
  ⟨lengthsAdd_overwritten, (reportsLength_iff (File.created 0) rfl
    ⟨512, 3, 0, by decide, by decide⟩ .empty .readWrite 0 [⟨0, [1, 2]⟩, ⟨0, [3]⟩]).mpr
      lengthsAdd_overwritten⟩

/-- Two writes of a byte each: the second one's ending is added to the first's, and the file of
two bytes has a length of three. -/
theorem not_reportsLength_twoWrites :
    ¬ ReportsLength (((File.created 0).opened ⟨512, 3, 0, by decide, by decide⟩ .empty .readWrite
      0).written [⟨0, [1]⟩, ⟨1, [2]⟩]) := by
  intro h
  have hreal := h.real
  rw [opened_written_imageLength rfl, opened_written_realLength rfl] at hreal
  have hlength : (File.addRegions [⟨0, [1]⟩, ⟨1, [2]⟩] (File.created 0).regionSizes).toNat = 3 := by
    decide
  have hdescribed :
      max (File.created 0).describedSize (furthestEnding [⟨0, [1]⟩, ⟨1, [2]⟩]) = 2 := by
    decide
  rw [hlength, hdescribed] at hreal
  omega

end BootMonFs

end MuPlatform
