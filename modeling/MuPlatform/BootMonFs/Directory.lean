import Mathlib.Data.List.TakeWhile
import MuPlatform.BootMonFs.SetInfo

/-!
# Listing the root directory

`BootMonFsReadDirectory` answers with the file at the position of the root directory, under the
name in its description, and moves on.  The files of a volume are looked up by the name in
`Info` while they are open.

`listsFiles_iff` says for which files the listing and the look-up agree.
-/

namespace MuPlatform
namespace BootMonFs

/-! ## BootMonFsReadDirectory -/

/-- `BootMonGetFileFromPosition`. -/
def fileFromPosition : ℕ → List File → Option File
  | _, [] => none
  | 0, f :: _ => some f
  | position + 1, _ :: files => fileFromPosition position files

/-- The `EFI_FILE_INFO` of a file in a listing; the fields that are not set are 0. -/
structure DirectoryEntry where
  size : ℕ
  fileSize : ℕ
  physicalSize : ℕ
  fileName : List UInt8

/-- What `BootMonFsReadDirectory` answers: the status, `*BufferSize`, what is in the buffer, and
the position of the root directory. -/
structure DirectoryReply where
  status : EfiStatus
  bufferSize : ℕ
  entry : Option DirectoryEntry
  position : ℕ

/-- The information on a file in a listing. -/
def File.entry (media : Media) (f : File) : DirectoryEntry where
  size := fileInfoSize f.hwDescription.footer.name
  fileSize := f.imageLength.toNat
  physicalSize := f.physicalSize media
  fileName := f.hwDescription.footer.name

/-- `BootMonFsReadDirectory` with the root directory at `position`. -/
def bootMonFsReadDirectory (position bufferSize : ℕ) (v : Volume) : DirectoryReply :=
  match fileFromPosition position v.files with
  | none => ⟨.success, 0, none, position⟩
  | some f =>
      let resultSize := fileInfoSize f.hwDescription.footer.name
      if bufferSize < resultSize then ⟨.bufferTooSmall, resultSize, none, position⟩
      else ⟨.success, resultSize, some (f.entry v.media), position + 1⟩

/-- Calls with the given buffer sizes, from a position on. -/
def readCalls (v : Volume) : List ℕ → ℕ → List DirectoryReply
  | [], _ => []
  | bufferSize :: sizes, position =>
      bootMonFsReadDirectory position bufferSize v ::
        readCalls v sizes (bootMonFsReadDirectory position bufferSize v).position

/-- The last of the replies, and no other, has size 0. -/
def Ends : List DirectoryReply → Prop
  | [] => False
  | reply :: replies =>
      if reply.bufferSize = 0 then replies = [] else Ends replies

/-! ## What a listing is for -/

/-- The sizes `GetInfo` reports for a file: those of its `Info`, or those an open gives it. -/
def File.reportedSizes (media : Media) (f : File) : ℕ × ℕ :=
  match f.info with
  | some info => (info.fileSize, info.physicalSize)
  | none => (f.imageLength.toNat, f.physicalSize media)

/-- The entry stands for the file: under its name the file is found, and the sizes are those
`GetInfo` reports. -/
structure StandsFor (v : Volume) (entry : DirectoryEntry) (f : File) : Prop where
  named : entry.fileName ≠ []
  found : ∃ name : FileName, name.chars = entry.fileName ∧
    ∃ g, fileFromAsciiFileName name v.files = some g ∧ g.handle = f.handle
  sizes : (entry.fileSize, entry.physicalSize) = f.reportedSizes v.media

/-- A listing has an entry for each file, once, and a call whose buffer is too small does not
move on. -/
structure ListsFiles (v : Volume) : Prop where
  once : ∀ sizes, Ends (readCalls v sizes 0) →
    List.Forall₂ (StandsFor v) ((readCalls v sizes 0).filterMap (·.entry)) v.files
  stays : ∀ position bufferSize,
    (bootMonFsReadDirectory position bufferSize v).status = .bufferTooSmall →
      (bootMonFsReadDirectory position bufferSize v).position = position

/-- The description of the file has a name, that of `Info` if the file is open, no file before it
in the list has it, and the sizes in `Info` are those of the description and what waits. -/
structure ListedTruly (media : Media) (before : List File) (f : File) : Prop where
  named : f.hwDescription.footer.name ≠ []
  fits : f.hwDescription.footer.name.length < maxNameLength
  current : f.asciiName = f.hwDescription.footer.name
  first : ∀ g ∈ before, g.asciiName ≠ f.hwDescription.footer.name
  sizes : ∀ info, f.info = some info →
    info.fileSize = f.imageLength.toNat ∧ info.physicalSize = f.physicalSize media

section Listing

variable {v : Volume} {f : File} {position : ℕ}

lemma fileFromPosition_eq (position : ℕ) (files : List File) :
    fileFromPosition position files = (files.drop position).head? := by
  induction files generalizing position with
  | nil => simp [fileFromPosition]
  | cons f files ih =>
      cases position with
      | zero => rfl
      | succ position => exact ih position

lemma fileInfoSize_pos (name : List UInt8) : 0 < fileInfoSize name :=
  Nat.lt_of_lt_of_le (by decide : 0 < sizeOfEfiFileInfo) (Nat.le_add_right _ _)

/-- The replies up to the end are those for the files from the position on. -/
lemma readCalls_entries (sizes : List ℕ) (h : Ends (readCalls v sizes position)) :
    (readCalls v sizes position).filterMap (·.entry) =
      (v.files.drop position).map (File.entry v.media) := by
  induction sizes generalizing position with
  | nil => exact h.elim
  | cons bufferSize sizes ih =>
      rw [readCalls] at h ⊢
      cases hrest : v.files.drop position with
      | nil =>
          have hreply : bootMonFsReadDirectory position bufferSize v =
              ⟨.success, 0, none, position⟩ := by
            rw [bootMonFsReadDirectory, fileFromPosition_eq, hrest]
            rfl
          rw [hreply] at h ⊢
          rw [Ends, if_pos rfl] at h
          rw [h]
          rfl
      | cons f files =>
          have hpositive := fileInfoSize_pos f.hwDescription.footer.name
          by_cases hsmall : bufferSize < fileInfoSize f.hwDescription.footer.name
          · have hreply : bootMonFsReadDirectory position bufferSize v =
                ⟨.bufferTooSmall, fileInfoSize f.hwDescription.footer.name, none, position⟩ := by
              rw [bootMonFsReadDirectory, fileFromPosition_eq, hrest]
              exact if_pos hsmall
            rw [hreply] at h ⊢
            rw [Ends, if_neg (Nat.ne_of_gt hpositive)] at h
            rw [List.filterMap_cons, ih h, hrest]
          · have hreply : bootMonFsReadDirectory position bufferSize v =
                ⟨.success, fileInfoSize f.hwDescription.footer.name, some (f.entry v.media),
                  position + 1⟩ := by
              rw [bootMonFsReadDirectory, fileFromPosition_eq, hrest]
              exact if_neg hsmall
            have hnext : v.files.drop (position + 1) = files := by
              rw [← List.drop_drop, hrest]
              rfl
            rw [hreply] at h ⊢
            rw [Ends, if_neg (Nat.ne_of_gt hpositive)] at h
            rw [List.filterMap_cons, ih h, hnext]
            rfl

/-- Calls with a buffer that fits each file, and one more, are a listing. -/
lemma readCalls_ends (files : List File) (position : ℕ) (hrest : v.files.drop position = files) :
    Ends (readCalls v
      (files.map (fun f => fileInfoSize f.hwDescription.footer.name) ++ [0]) position) := by
  induction files generalizing position with
  | nil =>
      have hreply : bootMonFsReadDirectory position 0 v = ⟨.success, 0, none, position⟩ := by
        rw [bootMonFsReadDirectory, fileFromPosition_eq, hrest]
        rfl
      rw [List.map_nil, List.nil_append, readCalls, hreply, Ends, if_pos rfl, readCalls]
  | cons f files ih =>
      have hreply : bootMonFsReadDirectory position
          (fileInfoSize f.hwDescription.footer.name) v =
          ⟨.success, fileInfoSize f.hwDescription.footer.name, some (f.entry v.media),
            position + 1⟩ := by
        rw [bootMonFsReadDirectory, fileFromPosition_eq, hrest]
        exact if_neg (Nat.lt_irrefl _)
      have hnext : v.files.drop (position + 1) = files := by
        rw [← List.drop_drop, hrest]
        rfl
      rw [List.map_cons, List.cons_append, readCalls, hreply, Ends,
        if_neg (Nat.ne_of_gt (fileInfoSize_pos _))]
      exact ih (position + 1) hnext

lemma bootMonFsReadDirectory_stays {bufferSize : ℕ}
    (h : (bootMonFsReadDirectory position bufferSize v).status = .bufferTooSmall) :
    (bootMonFsReadDirectory position bufferSize v).position = position := by
  unfold bootMonFsReadDirectory at h ⊢
  cases hfile : fileFromPosition position v.files with
  | none => rfl
  | some f =>
      rw [hfile] at h
      dsimp only at h ⊢
      split at h
      · next hsmall => rw [if_pos hsmall]
      · cases h

/-- The look-up of the name in its description finds the file exactly where that is its name, and
no file before it has it. -/
lemma found_iff {before behind : List File} (hfiles : v.files = before ++ f :: behind)
    (hdistinct : Distinct v.files) (name : FileName)
    (hname : name.chars = f.hwDescription.footer.name) :
    (∃ g, fileFromAsciiFileName name v.files = some g ∧ g.handle = f.handle) ↔
      f.asciiName = f.hwDescription.footer.name ∧
        ∀ g ∈ before, g.asciiName ≠ f.hwDescription.footer.name := by
  have hmem : f ∈ v.files := hfiles ▸ List.mem_append_right before List.mem_cons_self
  have hbefore : ∀ g ∈ before, g.handle ≠ f.handle :=
    (Distinct.ne_of_split (hfiles ▸ hdistinct)).1
  constructor
  · rintro ⟨g, hg, hhandle⟩
    have hgmem : g ∈ v.files := List.mem_of_find?_eq_some hg
    obtain rfl : g = f := hdistinct.eq_of_handle hgmem hmem hhandle
    have hgname : g.asciiName = name.chars := by simpa using List.find?_some hg
    refine ⟨hgname.trans hname, fun k hk hkname => ?_⟩
    -- the search stops before the file
    obtain ⟨first, hfirst⟩ : ∃ first,
        before.find? (fun h => h.asciiName = name.chars) = some first := by
      rw [← Option.isSome_iff_exists, List.find?_isSome]
      exact ⟨k, hk, by simpa using hkname.trans hname.symm⟩
    rw [fileFromAsciiFileName, hfiles, List.find?_append, hfirst] at hg
    exact hbefore first (List.mem_of_find?_eq_some hfirst) (by rw [Option.some.inj hg])
  · rintro ⟨hcurrent, hfirst⟩
    refine ⟨f, ?_, rfl⟩
    have hnone : before.find? (fun h => h.asciiName = name.chars) = none := by
      rw [List.find?_eq_none]
      intro g hg
      rw [hname]
      simpa using hfirst g hg
    rw [fileFromAsciiFileName, hfiles, List.find?_append, hnone, Option.none_or]
    exact List.find?_cons_of_pos (decide_eq_true (hcurrent.trans hname.symm))

lemma standsFor_iff {before behind : List File} (hfiles : v.files = before ++ f :: behind)
    (hdistinct : Distinct v.files) :
    StandsFor v (f.entry v.media) f ↔ ListedTruly v.media before f := by
  have hsizes : (f.imageLength.toNat, f.physicalSize v.media) = f.reportedSizes v.media ↔
      ∀ info, f.info = some info →
        info.fileSize = f.imageLength.toNat ∧ info.physicalSize = f.physicalSize v.media := by
    unfold File.reportedSizes
    cases hinfo : f.info with
    | none => simp
    | some info =>
        simp only [Option.some.injEq, Prod.mk.injEq, forall_eq']
        exact and_congr eq_comm eq_comm
  constructor
  · rintro ⟨hnamed, ⟨name, hname, hfound⟩, hreported⟩
    obtain ⟨hcurrent, hfirst⟩ := (found_iff hfiles hdistinct name hname).mp hfound
    refine ⟨hnamed, ?_, hcurrent, hfirst, hsizes.mp hreported⟩
    have hlength := name.length_lt
    rwa [hname] at hlength
  · rintro ⟨hnamed, hfits, hcurrent, hfirst, hreported⟩
    have hzero : (0 : UInt8) ∉ f.hwDescription.footer.name := by
      intro hmem
      have hne := List.mem_takeWhile_imp hmem
      simp at hne
    refine ⟨hnamed, ⟨⟨_, hzero, hfits⟩, rfl, ?_⟩, hsizes.mpr hreported⟩
    exact (found_iff hfiles hdistinct ⟨_, hzero, hfits⟩ rfl).mpr ⟨hcurrent, hfirst⟩

end Listing

/-- The listing matches the look-up exactly where each file is listed truly. -/
theorem listsFiles_iff (v : Volume) (hdistinct : Distinct v.files) :
    ListsFiles v ↔ ∀ before f behind, v.files = before ++ f :: behind →
      ListedTruly v.media before f := by
  constructor
  · rintro ⟨honce, -⟩ before f behind hfiles
    have hends := readCalls_ends (v := v) v.files 0 rfl
    have hall := honce _ hends
    rw [readCalls_entries _ hends, List.drop_zero, List.forall₂_map_left_iff,
      List.forall₂_same] at hall
    exact (standsFor_iff hfiles hdistinct).mp
      (hall f (hfiles ▸ List.mem_append_right before List.mem_cons_self))
  · intro h
    refine ⟨fun sizes hends => ?_, fun _ _ => bootMonFsReadDirectory_stays⟩
    rw [readCalls_entries sizes hends, List.drop_zero, List.forall₂_map_left_iff,
      List.forall₂_same]
    intro f hf
    obtain ⟨before, behind, hfiles⟩ := List.append_of_mem hf
    exact (standsFor_iff hfiles hdistinct).mpr (h before f behind hfiles)

instance (media : Media) (before : List File) (f : File) :
    Decidable (ListedTruly media before f) :=
  decidable_of_iff ((f.hwDescription.footer.name ≠ [] ∧
      f.hwDescription.footer.name.length < maxNameLength) ∧
      f.asciiName = f.hwDescription.footer.name ∧
      (∀ g ∈ before, g.asciiName ≠ f.hwDescription.footer.name) ∧
      ∀ info ∈ f.info, info.fileSize = f.imageLength.toNat ∧
        info.physicalSize = f.physicalSize media)
    ⟨fun h => ⟨h.1.1, h.1.2, h.2.1, h.2.2.1, h.2.2.2⟩,
      fun h => ⟨⟨h.named, h.fits⟩, h.current, h.first, h.sizes⟩⟩

lemma listedTruly_of_each {v : Volume} (h : ∀ i : Fin v.files.length,
    ListedTruly v.media (v.files.take i) v.files[i]) (before : List File) (f : File)
    (behind : List File) (hfiles : v.files = before ++ f :: behind) :
    ListedTruly v.media before f := by
  have hlt : before.length < v.files.length := by
    rw [hfiles, List.length_append, List.length_cons]
    omega
  have hlisted := h ⟨before.length, hlt⟩
  simpa [hfiles] using hlisted

/-- The files `A` and `B`, both written and flushed. -/
theorem listsFiles_iff_besideB : ListsFiles (runCalls besideB volumeB) := by
  have hdistinct : Distinct (runCalls besideB volumeB).files := by
    unfold Distinct
    decide +kernel
  exact (listsFiles_iff _ hdistinct).mpr (listedTruly_of_each (by decide +kernel))

/-- The listing of two new files has two entries without a name. -/
theorem not_listsFiles_volumeAB : ¬ ListsFiles volumeAB := by
  rintro ⟨honce, -⟩
  have hends := readCalls_ends (v := volumeAB) volumeAB.files 0 rfl
  have hall := honce _ hends
  rw [readCalls_entries _ hends, List.drop_zero, List.forall₂_map_left_iff,
    List.forall₂_same] at hall
  refine (hall (emptyOpen 0 nameA) List.mem_cons_self).named ?_
  decide

end BootMonFs

end MuPlatform
