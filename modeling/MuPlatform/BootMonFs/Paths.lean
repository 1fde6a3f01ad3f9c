import MuPlatform.BootMonFs.Description
import MuPlatform.BootMonFs.SetInfo
import Mathlib.Data.List.TakeWhile

/-!
# Opening a path

What `BootMonFsOpenFile` does with the path it is given: it cleans it up, refuses the paths that
lead into another directory, converts the rest into a buffer of at most `MAX_NAME_LENGTH` and
takes a name that comes out empty, or begins with a `.`, for the root directory.

The clean-up and the conversion are those of the firmware's libraries (`PathLibrary`).
`opensRight_iff` says for which paths an open ends with the file the path names.
-/

namespace MuPlatform
namespace BootMonFs

/-! ## The libraries -/

/-- `PathCleanUpDirectories`, and `UnicodeStrToAsciiStrS` into an empty buffer of the given
size. -/
structure PathLibrary where
  pathCleanUpDirectories : List UInt16 → Option (List UInt16)
  unicodeStrToAsciiStrS : List UInt16 → ℕ → FileName

/-- The conversion copies the characters of a string that fits, if they have eight bits, and
leaves an empty string where it does not fit. -/
structure PathLibrary.Documented (lib : PathLibrary) : Prop where
  copies : ∀ source destMax, source.length < destMax → destMax ≤ maxNameLength →
    (∀ c ∈ source, c ≠ 0 ∧ c < 0x100) →
    (lib.unicodeStrToAsciiStrS source destMax).chars.map (·.toUInt16) = source
  tooLong : ∀ source destMax, destMax ≤ source.length →
    lib.unicodeStrToAsciiStrS source destMax = .empty

/-! ## Paths -/

/-- The search for the sequence `\\`. -/
def hasEmptyComponent : List UInt16 → Bool
  | c :: d :: path => c = 0x5C && d = 0x5C || hasEmptyComponent (d :: path)
  | _ => false

/-- The path without the leading `\`, if any. -/
def inRoot (path : List UInt16) : List UInt16 :=
  if path.head? = some 0x5C then path.tail else path

/-- `AsciiFileNameSize`. -/
def asciiFileNameSize (path : List UInt16) : ℕ := min (path.length + 1) maxNameLength

/-- `AsciiFileName`. -/
def PathLibrary.asciiFileName (lib : PathLibrary) (path : List UInt16) : FileName :=
  lib.unicodeStrToAsciiStrS path (asciiFileNameSize path)

/-- What a handle stands for. -/
inductive Opened
  | root
  | file (handle : ℕ)
  deriving DecidableEq, Repr

/-- `BootMonFsOpenFile` from the conversion of the name on. -/
def openConverted (lib : PathLibrary) (path : List UInt16) (mode : OpenMode) (attributes : ℕ)
    (v : Volume) : EfiStatus × Option Opened × Volume :=
  match v.services.allocatePool with
  | (false, s) => (.outOfResources, none, { v with services := s })
  | (true, s) =>
      let name := lib.asciiFileName path
      if name.chars = [] ∨ name.chars.head? = some 0x2E then
        (.success, some .root, { v with services := s })
      else
        match openInRoot name mode attributes { v with services := s } with
        | (status, handle, v') => (status, handle.map .file, v')

/-- `BootMonFsOpenFile` from the copy of the path on. -/
def openPath (lib : PathLibrary) (path : List UInt16) (mode : OpenMode) (attributes : ℕ)
    (v : Volume) : EfiStatus × Option Opened × Volume :=
  match v.services.allocatePool with
  | (false, s) => (.outOfResources, none, { v with services := s })
  | (true, s) =>
    match lib.pathCleanUpDirectories path with
    | none => (.invalidParameter, none, { v with services := s })
    | some cleaned =>
      if hasEmptyComponent cleaned then (.invalidParameter, none, { v with services := s })
      else
        match (inRoot cleaned).dropWhile (· ≠ 0x5C) with
        | [] => openConverted lib (inRoot cleaned) mode attributes { v with services := s }
        | _ :: rest =>
            (if rest = [] ∧ mode = .readWriteCreate then
                if isDirectory attributes then .writeProtected else .invalidParameter
              else .notFound, none, { v with services := s })

/-- `BootMonFsOpenFile` for a path. -/
def bootMonFsOpenPath (lib : PathLibrary) (path : List UInt16) (mode : OpenMode) (attributes : ℕ)
    (v : Volume) : EfiStatus × Option Opened × Volume :=
  if v.initialized then openPath lib path mode attributes v
  else
    match bootMonFsInitialize v with
    | (status, v') =>
        if status.isError then (status, none, v') else openPath lib path mode attributes v'

/-! ## Paths and handles -/

/-- The path is that of the root directory: nothing, or `.`, in it. -/
def DenotesRoot (cleaned : List UInt16) : Prop := inRoot cleaned = [] ∨ inRoot cleaned = [0x2E]

/-- Whatever the volume: only a path that denotes the root directory opens it, and a file that is
opened has the name in the path. -/
structure OpensRight (lib : PathLibrary) (path : List UInt16) (mode : OpenMode) : Prop where
  root : ∀ attributes v, (bootMonFsOpenPath lib path mode attributes v).2.1 = some .root →
    ∃ cleaned, lib.pathCleanUpDirectories path = some cleaned ∧ DenotesRoot cleaned
  file : ∀ attributes v handle,
    (bootMonFsOpenPath lib path mode attributes v).2.1 = some (.file handle) →
    ∃ cleaned f info, lib.pathCleanUpDirectories path = some cleaned ∧
      lookup handle (bootMonFsOpenPath lib path mode attributes v).2.2.files = some f ∧
      f.info = some info ∧ info.fileName.chars.map (·.toUInt16) = inRoot cleaned

/-- The path leads to a name in the root directory. -/
structure LeadsTo (lib : PathLibrary) (path cleaned : List UInt16) : Prop where
  cleanUp : lib.pathCleanUpDirectories path = some cleaned
  components : hasEmptyComponent cleaned = false
  single : 0x5C ∉ inRoot cleaned

/-- The name, if the path leads to one, is that of the root directory, or it does not begin with
a `.` and comes out of the conversion as it is. -/
def NameSurvives (lib : PathLibrary) (path : List UInt16) : Prop :=
  ∀ cleaned, LeadsTo lib path cleaned → DenotesRoot cleaned ∨
    ((inRoot cleaned).head? ≠ some 0x2E ∧
      (lib.asciiFileName (inRoot cleaned)).chars.map (·.toUInt16) = inRoot cleaned)

section Open

variable {lib : PathLibrary} {path : List UInt16} {mode : OpenMode} {attributes : ℕ}
  {v v' : Volume} {status : EfiStatus} {opened : Opened} {handle : ℕ}

/-- An open in the root directory gives the handle of a file with the name. -/
lemma openInRoot_name {name : FileName}
    (h : openInRoot name mode attributes v = (status, some handle, v')) :
    ∃ f info, lookup handle v'.files = some f ∧ f.info = some info ∧ info.fileName = name := by
  unfold openInRoot at h
  split at h
  · cases h
  cases halloc : v.services.allocatePool with
  | mk ok s =>
    rw [halloc] at h
    cases ok with
    | false => cases h
    | true =>
      dsimp only at h
      cases hfound : fileFromAsciiFileName name v.files with
      | some f =>
          rw [hfound] at h
          dsimp only at h
          split at h
          · cases h
          · simp only [Prod.mk.injEq, Option.some.injEq] at h
            obtain ⟨-, rfl, rfl⟩ := h
            obtain ⟨g, hg⟩ : ∃ g, lookup f.handle v.files = some g := by
              rw [lookup, ← Option.isSome_iff_exists, List.find?_isSome]
              exact ⟨f, List.mem_of_find?_eq_some hfound, by simp⟩
            exact ⟨f.opened v.media name mode 0, _, lookup_update hg rfl, rfl, rfl⟩
      | none =>
          rw [hfound] at h
          dsimp only at h
          split at h
          · unfold bootMonFsCreateFile at h
            cases halloc' : s.allocatePool with
            | mk ok' s' =>
              simp only [halloc'] at h
              cases ok' with
              | false => cases h
              | true =>
                  simp only [Prod.mk.injEq, Option.some.injEq] at h
                  obtain ⟨-, rfl, rfl⟩ := h
                  exact ⟨(File.created v.nextHandle).opened v.media name mode attributes, _,
                    List.find?_cons_of_pos (decide_eq_true rfl), rfl, rfl⟩
          · cases h

/-- The path names the root directory for the conversion. -/
def PathLibrary.IsRoot (lib : PathLibrary) (path : List UInt16) : Prop :=
  (lib.asciiFileName path).chars = [] ∨ (lib.asciiFileName path).chars.head? = some 0x2E

lemma openConverted_opened
    (h : openConverted lib path mode attributes v = (status, some opened, v')) :
    (opened = .root ∧ lib.IsRoot path) ∨ (¬ lib.IsRoot path ∧ ∃ handle f info,
      opened = .file handle ∧ lookup handle v'.files = some f ∧ f.info = some info ∧
        info.fileName = lib.asciiFileName path) := by
  unfold openConverted at h
  cases halloc : v.services.allocatePool with
  | mk ok s =>
    rw [halloc] at h
    cases ok with
    | false => cases h
    | true =>
      dsimp only at h
      split at h
      · next hroot =>
        simp only [Prod.mk.injEq, Option.some.injEq] at h
        exact .inl ⟨h.2.1.symm, hroot⟩
      · next hroot =>
        generalize hopen : openInRoot (lib.asciiFileName path) mode attributes
          { v with services := s } = outcome at h
        obtain ⟨status', handle, v''⟩ := outcome
        simp only [Prod.mk.injEq] at h
        obtain ⟨-, hhandle, rfl⟩ := h
        obtain ⟨handle, rfl, rfl⟩ := Option.map_eq_some_iff.mp hhandle
        obtain ⟨f, info, hlookup, hinfo, hname⟩ := openInRoot_name hopen
        exact .inr ⟨hroot, handle, f, info, rfl, hlookup, hinfo, hname⟩

lemma dropWhile_separator (path : List UInt16) :
    path.dropWhile (· ≠ 0x5C) = [] ↔ 0x5C ∉ path := by
  rw [List.dropWhile_eq_nil_iff]
  constructor
  · intro h hmem
    simpa using h _ hmem
  · intro h c hc
    exact decide_eq_true fun heq => h (heq ▸ hc)

/-- A handle comes from a path that leads to a name. -/
lemma openPath_opened (h : openPath lib path mode attributes v = (status, some opened, v')) :
    ∃ cleaned s, LeadsTo lib path cleaned ∧
      openConverted lib (inRoot cleaned) mode attributes { v with services := s } =
        (status, some opened, v') := by
  unfold openPath at h
  cases halloc : v.services.allocatePool with
  | mk ok s =>
    rw [halloc] at h
    cases ok with
    | false => cases h
    | true =>
      dsimp only at h
      cases hclean : lib.pathCleanUpDirectories path with
      | none =>
          rw [hclean] at h
          cases h
      | some cleaned =>
          rw [hclean] at h
          dsimp only at h
          split at h
          · cases h
          · next hempty =>
            cases hdrop : (inRoot cleaned).dropWhile (· ≠ 0x5C) with
            | nil =>
                rw [hdrop] at h
                exact ⟨cleaned, s, ⟨hclean, by simpa using hempty,
                  (dropWhile_separator _).mp hdrop⟩, h⟩
            | cons c rest =>
                rw [hdrop] at h
                cases h

lemma bootMonFsOpenPath_cases (lib : PathLibrary) (path : List UInt16) (mode : OpenMode)
    (attributes : ℕ) (v : Volume) :
    (∃ v₁, bootMonFsOpenPath lib path mode attributes v =
      openPath lib path mode attributes v₁) ∨
    (bootMonFsOpenPath lib path mode attributes v).2.1 = none := by
  unfold bootMonFsOpenPath
  split
  · exact .inl ⟨v, rfl⟩
  · cases bootMonFsInitialize v with
    | mk status v' =>
      dsimp only
      split
      · exact .inr rfl
      · exact .inl ⟨v', rfl⟩

/-- What an open that gives a handle ends with. -/
lemma bootMonFsOpenPath_opened
    (h : (bootMonFsOpenPath lib path mode attributes v).2.1 = some opened) :
    ∃ cleaned, LeadsTo lib path cleaned ∧
      ((opened = .root ∧ lib.IsRoot (inRoot cleaned)) ∨
        (¬ lib.IsRoot (inRoot cleaned) ∧ ∃ handle f info, opened = .file handle ∧
          lookup handle (bootMonFsOpenPath lib path mode attributes v).2.2.files = some f ∧
          f.info = some info ∧ info.fileName = lib.asciiFileName (inRoot cleaned))) := by
  rcases bootMonFsOpenPath_cases lib path mode attributes v with ⟨v₁, heq⟩ | hnone
  · rw [heq] at h
    rw [heq]
    generalize hopen : openPath lib path mode attributes v₁ = outcome at h ⊢
    obtain ⟨status, opened', v'⟩ := outcome
    obtain rfl : opened' = some opened := h
    obtain ⟨cleaned, s, hleads, hconverted⟩ := openPath_opened hopen
    exact ⟨cleaned, hleads, openConverted_opened hconverted⟩
  · rw [hnone] at h
    cases h

end Open

/-! ## Names that survive -/

section Survives

variable {lib : PathLibrary} {path cleaned : List UInt16}

/-- The names the conversion leaves as they are. -/
lemma asciiFileName_eq_iff (hlib : lib.Documented) {name : List UInt16}
    (hchars : ∀ c ∈ name, c ≠ 0 ∧ c < 0x100) :
    (lib.asciiFileName name).chars.map (·.toUInt16) = name ↔ name.length < maxNameLength := by
  constructor
  · intro heq
    rw [← heq, List.length_map]
    exact (lib.asciiFileName name).length_lt
  · intro hlength
    have hsize : asciiFileNameSize name = name.length + 1 := min_eq_left hlength
    rw [PathLibrary.asciiFileName, hsize]
    exact hlib.copies name _ (Nat.lt_succ_self _) hlength hchars

/-- A name that is too long comes out empty. -/
lemma isRoot_of_tooLong (hlib : lib.Documented) {name : List UInt16}
    (hlength : maxNameLength ≤ name.length) : lib.IsRoot name := by
  refine .inl ?_
  have hsize : asciiFileNameSize name = maxNameLength := min_eq_right (Nat.le_succ_of_le hlength)
  rw [PathLibrary.asciiFileName, hsize, hlib.tooLong name _ hlength]
  rfl

lemma denotesRoot_isRoot (hlib : lib.Documented) (h : DenotesRoot cleaned) :
    lib.IsRoot (inRoot cleaned) := by
  rcases h with h | h
  · have hname : (lib.asciiFileName []).chars.map (·.toUInt16) = [] :=
      (asciiFileName_eq_iff hlib (by simp)).mpr (by decide)
    rw [h]
    exact .inl (List.map_eq_nil_iff.mp hname)
  · have hname : (lib.asciiFileName [0x2E]).chars.map (·.toUInt16) = [0x2E] :=
      (asciiFileName_eq_iff hlib (by simp)).mpr (by decide)
    rw [h]
    refine .inr ?_
    obtain ⟨c, hchars, hc⟩ := List.map_eq_singleton_iff.mp hname
    have hdot : c = 0x2E := UInt8.toUInt16_inj.mp hc
    rw [hchars, hdot]
    rfl

/-- A name that survives is not taken for the root directory. -/
lemma not_isRoot {name : List UInt16} (hne : name ≠ [])
    (hdot : name.head? ≠ some 0x2E)
    (hname : (lib.asciiFileName name).chars.map (·.toUInt16) = name) : ¬ lib.IsRoot name := by
  rintro (hnil | hhead)
  · rw [hnil] at hname
    exact hne hname.symm
  · refine hdot ?_
    rw [← hname, List.head?_map, hhead]
    rfl

/-- A volume with the closed file of the given name, behind some requests. -/
def volumeNamed (name : FileName) (requests : ℕ) : Volume :=
  { blankVolume 1000 with
    services := ⟨fun _ => 0, [], .good, requests⟩
    files := [{ File.created 0 with
      hwDescription := { HwImageDescription.zero with
        footer := HwImageDescription.zero.footer.setName name } }]
    initialized := true }

lemma allocatePool_volumeNamed (name : FileName) (requests : ℕ) :
    (volumeNamed name requests).services.allocatePool =
      (true, (volumeNamed name (requests + 1)).services) := rfl

/-- The open of a path that leads to a name, on a volume with memory. -/
lemma open_volumeNamed (name : FileName) (mode : OpenMode) (hleads : LeadsTo lib path cleaned) :
    bootMonFsOpenPath lib path mode 0 (volumeNamed name 0) =
      openConverted lib (inRoot cleaned) mode 0 (volumeNamed name 1) := by
  have hinit : (volumeNamed name 0).initialized = true := rfl
  rw [bootMonFsOpenPath, if_pos hinit, openPath, allocatePool_volumeNamed]
  simp only [hleads.cleanUp, hleads.components, Bool.false_eq_true, if_false,
    (dropWhile_separator _).mpr hleads.single]
  rfl

lemma open_volumeNamed_root (name : FileName) (mode : OpenMode)
    (hleads : LeadsTo lib path cleaned) (hroot : lib.IsRoot (inRoot cleaned)) :
    (bootMonFsOpenPath lib path mode 0 (volumeNamed name 0)).2.1 = some .root := by
  rw [PathLibrary.IsRoot] at hroot
  rw [open_volumeNamed name mode hleads, openConverted, allocatePool_volumeNamed]
  dsimp only
  rw [if_pos hroot]

lemma openInRoot_volumeNamed (name : FileName) (mode : OpenMode) :
    (openInRoot name mode 0 (volumeNamed name 2)).2.1 = some 0 := by
  have hmode : ¬ (decide (mode = .readWriteCreate) && isDirectory 0) = true := by
    cases mode <;> decide
  have hfound : ∃ f, fileFromAsciiFileName name (volumeNamed name 2).files = some f ∧
      f.info = none ∧ f.handle = 0 := by
    refine ⟨_, List.find?_cons_of_pos (decide_eq_true ?_), rfl, rfl⟩
    exact HwImageFooter.name_setName _ name
  obtain ⟨f, hfound, hinfo, hhandle⟩ := hfound
  rw [openInRoot, if_neg hmode, allocatePool_volumeNamed]
  simp only [hfound, hinfo, Option.isSome_none, Bool.false_eq_true, if_false, hhandle]

/-- A name that is not the root directory's opens the file that has it. -/
lemma open_volumeNamed_file (mode : OpenMode) (hleads : LeadsTo lib path cleaned)
    (hroot : ¬ lib.IsRoot (inRoot cleaned)) :
    (bootMonFsOpenPath lib path mode 0
      (volumeNamed (lib.asciiFileName (inRoot cleaned)) 0)).2.1 = some (.file 0) := by
  have hopen := openInRoot_volumeNamed (lib.asciiFileName (inRoot cleaned)) mode
  rw [PathLibrary.IsRoot] at hroot
  rw [open_volumeNamed _ mode hleads, openConverted, allocatePool_volumeNamed]
  dsimp only
  rw [if_neg hroot]
  exact congrArg (Option.map Opened.file) hopen

end Survives

/-- `BootMonFsOpenFile` opens what the path names exactly when the name, if there is one, is that
of the root directory or survives. -/
theorem opensRight_iff (lib : PathLibrary) (hlib : lib.Documented) (path : List UInt16)
    (mode : OpenMode) : OpensRight lib path mode ↔ NameSurvives lib path := by
  constructor
  · intro h cleaned hleads
    by_cases hroot : lib.IsRoot (inRoot cleaned)
    · have hopen := open_volumeNamed_root .empty mode hleads hroot
      obtain ⟨cleaned', hclean, hdenotes⟩ := h.root _ _ hopen
      obtain rfl : cleaned = cleaned' := Option.some.inj (hleads.cleanUp.symm.trans hclean)
      exact .inl hdenotes
    · have hopen := open_volumeNamed_file mode hleads hroot
      obtain ⟨cleaned', f, info, hclean, hlookup, hinfo, hname⟩ := h.file _ _ _ hopen
      obtain rfl : cleaned = cleaned' := Option.some.inj (hleads.cleanUp.symm.trans hclean)
      obtain ⟨cleaned', hleads', hcase⟩ := bootMonFsOpenPath_opened hopen
      obtain rfl : cleaned = cleaned' :=
        Option.some.inj (hleads.cleanUp.symm.trans hleads'.cleanUp)
      rcases hcase with ⟨heq, -⟩ | ⟨-, handle, f', info', heq, hlookup', hinfo', hname'⟩
      · cases heq
      · cases heq
        obtain rfl : f = f' := Option.some.inj (hlookup.symm.trans hlookup')
        obtain rfl : info = info' := Option.some.inj (hinfo.symm.trans hinfo')
        rw [hname'] at hname
        refine .inr ⟨?_, hname⟩
        intro hdot
        refine hroot (.inr ?_)
        rw [← hname, List.head?_map] at hdot
        obtain ⟨c, hc, hdot⟩ := Option.map_eq_some_iff.mp hdot
        rw [hc, show c = 0x2E from UInt8.toUInt16_inj.mp hdot]
  · intro h
    constructor
    · intro attributes v hopen
      obtain ⟨cleaned, hleads, ⟨-, hroot⟩ | ⟨-, handle, -, -, heq, -⟩⟩ :=
        bootMonFsOpenPath_opened hopen
      · refine ⟨cleaned, hleads.cleanUp, ?_⟩
        rcases h cleaned hleads with hdenotes | ⟨hdot, hname⟩
        · exact hdenotes
        · by_contra hdenotes
          exact not_isRoot (fun hnil => hdenotes (.inl hnil)) hdot hname hroot
      · cases heq
    · intro attributes v handle hopen
      obtain ⟨cleaned, hleads, ⟨heq, -⟩ | ⟨hroot, handle', f, info, heq, hlookup, hinfo, hname⟩⟩ :=
        bootMonFsOpenPath_opened hopen
      · cases heq
      · cases heq
        refine ⟨cleaned, f, info, hleads.cleanUp, hlookup, hinfo, ?_⟩
        rw [hname]
        rcases h cleaned hleads with hdenotes | ⟨-, hsurvives⟩
        · exact absurd (denotesRoot_isRoot hlib hdenotes) hroot
        · exact hsurvives

/-! ## Names that do not -/

/-- A clean-up that leaves the path as it is, and the conversion of the characters. -/
def plainLibrary : PathLibrary where
  pathCleanUpDirectories := some
  unicodeStrToAsciiStrS source destMax :=
    if h : source.length < destMax ∧ destMax ≤ maxNameLength ∧
        0 ∉ source.map UInt16.toUInt8 then
      ⟨source.map UInt16.toUInt8, h.2.2, by rw [List.length_map]; omega⟩
    else .empty

lemma toUInt8_toUInt16 {c : UInt16} (h : c < 0x100) : c.toUInt8.toUInt16 = c := by
  refine UInt16.toNat_inj.mp ?_
  have hc : c.toNat < 256 := UInt16.lt_iff_toNat_lt.mp h
  rw [UInt8.toNat_toUInt16, UInt16.toNat_toUInt8, Nat.mod_eq_of_lt hc]

lemma plainLibrary_documented : plainLibrary.Documented where
  copies source destMax hfits hmax hchars := by
    have hzero : 0 ∉ source.map UInt16.toUInt8 := by
      intro hmem
      obtain ⟨c, hc, heq⟩ := List.mem_map.mp hmem
      obtain ⟨hne, hlt⟩ := hchars c hc
      refine hne ?_
      rw [← toUInt8_toUInt16 hlt, heq]
      rfl
    have hsource : source.map (UInt8.toUInt16 ∘ UInt16.toUInt8) = source.map id :=
      List.map_congr_left fun c hc => toUInt8_toUInt16 (hchars c hc).2
    have hconverted : plainLibrary.unicodeStrToAsciiStrS source destMax = _ :=
      dif_pos ⟨hfits, hmax, hzero⟩
    rw [hconverted]
    dsimp only
    rw [List.map_map, hsource, List.map_id]
  tooLong source destMax hlong := dif_neg fun h => absurd h.1 hlong.not_gt

lemma plainLibrary_leadsTo {path : List UInt16} (hempty : hasEmptyComponent path = false)
    (hsingle : 0x5C ∉ inRoot path) : LeadsTo plainLibrary path path :=
  ⟨rfl, hempty, hsingle⟩

/-- The name `A`. -/
theorem opensRight_iff_nameA :
    NameSurvives plainLibrary [0x41] ∧ OpensRight plainLibrary [0x41] .readWriteCreate := by
  have hsurvives : NameSurvives plainLibrary [0x41] := by
    intro cleaned hleads
    obtain rfl : [0x41] = cleaned := Option.some.inj hleads.cleanUp
    refine .inr ⟨by decide, ?_⟩
    exact (asciiFileName_eq_iff plainLibrary_documented (by simp [inRoot])).mpr (by decide)
  exact ⟨hsurvives,
    (opensRight_iff plainLibrary plainLibrary_documented [0x41] .readWriteCreate).mpr hsurvives⟩

/-- The names `.a` and the one of thirty-two times `A` both open the root directory. -/
theorem not_opensRight_hidden_long :
    ¬ OpensRight plainLibrary [0x2E, 0x61] .read ∧
      ¬ OpensRight plainLibrary (List.replicate 32 0x41) .readWriteCreate := by
  constructor
  · intro h
    have hroot : plainLibrary.IsRoot (inRoot [0x2E, 0x61]) := .inr (by decide)
    have hopen := open_volumeNamed_root .empty .read
      (plainLibrary_leadsTo (by decide) (by decide)) hroot
    obtain ⟨cleaned, hclean, hdenotes⟩ := h.root _ _ hopen
    obtain rfl : [0x2E, 0x61] = cleaned := Option.some.inj hclean
    revert hdenotes
    unfold DenotesRoot
    decide
  · intro h
    have hroot : plainLibrary.IsRoot (inRoot (List.replicate 32 0x41)) :=
      isRoot_of_tooLong plainLibrary_documented (by decide)
    have hopen := open_volumeNamed_root .empty .readWriteCreate
      (plainLibrary_leadsTo (by decide) (by decide)) hroot
    obtain ⟨cleaned, hclean, hdenotes⟩ := h.root _ _ hopen
    obtain rfl : List.replicate 32 0x41 = cleaned := Option.some.inj hclean
    revert hdenotes
    unfold DenotesRoot
    decide

end BootMonFs

end MuPlatform
