import MuPlatform.BootMonFs.Description
import MuPlatform.BootMonFs.Overlap

/-!
# Discovering the files of a volume

`BootMonFsInitialize` takes every error of the search for the next image for the end of the
media, and leaves the files it has linked in the list when it runs out of memory.

`discoversAll_iff` says for which pattern of failures it finds all images or leaves the list as
it was.
-/

namespace MuPlatform
namespace BootMonFs

/-! ## The images on a media -/

/-- The bytes of a block where a description would be. -/
def imageAt (media : Media) (content : ByteStore) (lba : ℕ) : HwImageDescription :=
  .ofStore content (descOffset media lba)

/-- A valid description is in the block. -/
def isImageAt (media : Media) (content : ByteStore) (lba : ℕ) : Bool :=
  (imageAt media content lba).isImageValid (uint64Sub lba media.lowestAlignedLba)

/-- A description but for the two fields the search writes to. -/
def HwImageDescription.core (d : HwImageDescription) : HwImageDescription :=
  { d with attributes := 1, footerChecksum := 0 }

/-- The valid descriptions in the `n` blocks from `lba` on, with their addresses. -/
def imagesFrom (arch : Arch) (media : Media) (content : ByteStore) :
    ℕ → ℕ → List (ℕ × HwImageDescription)
  | 0, _ => []
  | n + 1, lba =>
      if isImageAt media content lba then
        (descAddress arch media lba, (imageAt media content lba).core) ::
          imagesFrom arch media content n (lba + 1)
      else imagesFrom arch media content n (lba + 1)

/-- What the list knows of an image. -/
def File.listed (f : File) : ℕ × HwImageDescription := (f.hwDescAddress, f.hwDescription.core)

/-! ## The blocks that are examined -/

/-- The blocks `BootMonFsDiscoverNextImage` reads the description of. -/
def searchExamines (media : Media) : ℕ → ℕ → Services → List ℕ
  | 0, _, _ => []
  | n + 1, lba, s =>
      let read := s.readDisk
      if read.1.isError then []
      else
        let valid := bootMonFsIsImageValid (imageAt media s.content lba)
          (uint64Sub lba media.lowestAlignedLba) read.2
        if valid.1 then [lba] else lba :: searchExamines media n (lba + 1) valid.2.2

/-- The blocks the loop of `BootMonFsInitialize` reads the description of. -/
def initializeExamines : ℕ → ℕ → Volume → List ℕ
  | 0, _, _ => []
  | n + 1, lba, v =>
      match bootMonFsCreateFile v with
      | (none, _) => []
      | (some file, v') =>
          let found := bootMonFsDiscoverNextImage v.cfg.arch v.media lba file v'.services
          searchExamines v.media (v.media.lastBlock + 1 - lba) lba v'.services ++
            if found.status.isError then []
            else initializeExamines n found.lba
              { v' with services := found.services, files := v'.files ++ [found.file] }

/-- Discovery is all or nothing: it succeeds only with every block examined, and every valid
description in the list once, in the order of the media; and where it fails the list and
`Initialized` are as they were. -/
structure DiscoversAll (v : Volume) : Prop where
  succeeded : (bootMonFsInitialize v).1.isError = false →
    (bootMonFsInitialize v).2.initialized = true ∧
    initializeExamines (v.media.lastBlock + 2) 0 v = List.range' 0 (v.media.lastBlock + 1) ∧
    (bootMonFsInitialize v).2.files.map File.listed =
      imagesFrom v.cfg.arch v.media v.services.content (v.media.lastBlock + 1) 0
  failed : (bootMonFsInitialize v).1.isError = true →
    (bootMonFsInitialize v).2.files = v.files ∧
      (bootMonFsInitialize v).2.initialized = v.initialized

/-- Every request of the search through the `n` blocks from `lba` on succeeds that has to: the
reads, and the allocation of a file behind each image.  Its requests count from `k`; a
description with the footer of an image costs one for its checksum, which may fail. -/
def ScansThrough (env : Environment) (media : Media) (content : ByteStore) :
    ℕ → ℕ → ℕ → Prop
  | 0, _, _ => True
  | n + 1, lba, k =>
      (env.readDisk k).isError = false ∧
      if isImageAt media content lba then
        env.allocate (k + 2) = true ∧ ScansThrough env media content n (lba + 1) (k + 3)
      else ScansThrough env media content n (lba + 1)
        (if (imageAt media content lba).hasFooter then k + 2 else k + 1)

/-! ## One block -/

section Search

variable {arch : Arch} {media : Media} {s : Services} {file : File} {lba lbaStart n : ℕ}

/-- The services after some requests that write nothing. -/
def Services.asked (s : Services) (k : ℕ) : Services := { s with requests := s.requests + k }

lemma Services.allocatePool_asked {s : Services} {ok : Bool}
    (h : s.env.allocate s.requests = ok) : s.allocatePool = (ok, s.asked 1) :=
  Services.allocatePool_eq h

lemma bootMonFsIsImageValid_core (d : HwImageDescription) (lba : ℕ) (s : Services) :
    (bootMonFsIsImageValid d lba s).2.1.core = d.core := by
  unfold bootMonFsIsImageValid
  split
  · split <;> rfl
  · rfl

lemma bootMonFsIsImageValid_services (d : HwImageDescription) (lba : ℕ) (s : Services) :
    (bootMonFsIsImageValid d lba s).2.2 = if d.hasFooter then s.asked 1 else s := by
  unfold bootMonFsIsImageValid
  split
  · split <;> next h => exact (congrArg Prod.snd h).symm
  · rfl

lemma isImageAt_hasFooter {content : ByteStore} (h : isImageAt media content lba = true) :
    (imageAt media content lba).hasFooter = true := by
  rw [isImageAt, HwImageDescription.isImageValid, Bool.and_eq_true] at h
  exact h.1

/-- The services behind the look at a block. -/
def Services.looked (s : Services) (media : Media) (lba : ℕ) : Services :=
  s.asked (if (imageAt media s.content lba).hasFooter then 2 else 1)

lemma discoverNextImage_unread (hread : (s.env.readDisk s.requests).isError = true) :
    discoverNextImage arch media lbaStart (n + 1) lba file s =
        ⟨s.env.readDisk s.requests, lbaStart, file, s.asked 1⟩ ∧
      searchExamines media (n + 1) lba s = [] := by
  rw [discoverNextImage, searchExamines]
  exact ⟨if_pos hread, if_pos hread⟩

lemma readDisk_valid (media : Media) (lba : ℕ) (s : Services) :
    (bootMonFsIsImageValid (imageAt media s.content lba) (uint64Sub lba media.lowestAlignedLba)
        s.readDisk.2).1 = isImageAt media s.content lba ∧
      (bootMonFsIsImageValid (imageAt media s.content lba)
        (uint64Sub lba media.lowestAlignedLba) s.readDisk.2).2.2 = s.looked media lba := by
  refine ⟨bootMonFsIsImageValid_fst _ _ _, ?_⟩
  rw [bootMonFsIsImageValid_services, Services.looked]
  split <;> rfl

lemma discoverNextImage_image (hread : (s.env.readDisk s.requests).isError = false)
    (himage : isImageAt media s.content lba = true) :
    ∃ f, discoverNextImage arch media lbaStart (n + 1) lba file s =
        ⟨.success, lba + 1, f, s.asked 2⟩ ∧
      f.listed = (descAddress arch media lba, (imageAt media s.content lba).core) ∧
      searchExamines media (n + 1) lba s = [lba] := by
  obtain ⟨hvalid, hservices⟩ := readDisk_valid media lba s
  rw [Services.looked, if_pos (isImageAt_hasFooter himage)] at hservices
  have hread' : ¬ s.readDisk.1.isError = true := by rw [Bool.not_eq_true]; exact hread
  rw [himage] at hvalid
  refine ⟨{ file with
    hwDescription := (bootMonFsIsImageValid (imageAt media s.content lba)
      (uint64Sub lba media.lowestAlignedLba) s.readDisk.2).2.1
    hwDescAddress := descAddress arch media lba }, ?_, ?_, ?_⟩
  · rw [discoverNextImage]
    dsimp only
    rw [if_neg hread', ← imageAt, if_pos hvalid, hservices]
  · have hcore := bootMonFsIsImageValid_core (imageAt media s.content lba)
      (uint64Sub lba media.lowestAlignedLba) s.readDisk.2
    exact congrArg (Prod.mk (descAddress arch media lba)) hcore
  · rw [searchExamines]
    dsimp only
    rw [if_neg hread', if_pos hvalid]

lemma discoverNextImage_other (hread : (s.env.readDisk s.requests).isError = false)
    (himage : isImageAt media s.content lba = false) :
    (∃ file', discoverNextImage arch media lbaStart (n + 1) lba file s =
      discoverNextImage arch media lbaStart n (lba + 1) file' (s.looked media lba)) ∧
    searchExamines media (n + 1) lba s =
      lba :: searchExamines media n (lba + 1) (s.looked media lba) := by
  obtain ⟨hvalid, hservices⟩ := readDisk_valid media lba s
  have hread' : ¬ s.readDisk.1.isError = true := by rw [Bool.not_eq_true]; exact hread
  have hvalid' : ¬ (bootMonFsIsImageValid (imageAt media s.content lba)
      (uint64Sub lba media.lowestAlignedLba) s.readDisk.2).1 = true := by
    rw [hvalid, himage]
    exact Bool.false_ne_true
  refine ⟨⟨{ file with
    hwDescription := (bootMonFsIsImageValid (imageAt media s.content lba)
      (uint64Sub lba media.lowestAlignedLba) s.readDisk.2).2.1 }, ?_⟩, ?_⟩
  · rw [discoverNextImage]
    dsimp only
    rw [if_neg hread', ← imageAt, if_neg hvalid', hservices]
  · rw [searchExamines]
    dsimp only
    rw [if_neg hread', if_neg hvalid', hservices]

/-! ## One search -/

/-- What a search through the `n` blocks from `lba` on ends with: an image, the end of the media,
or a read that fails. -/
inductive SearchEnd (arch : Arch) (media : Media) (n lba : ℕ) (s : Services) (found : Discovery) :
    Prop
  | image {j : ℕ} (hlt : j < n) (hok : found.status.isError = false)
      (hlba : found.lba = lba + j + 1) (hcontent : found.services.content = s.content)
      (henv : found.services.env = s.env)
      (himages : imagesFrom arch media s.content n lba =
        found.file.listed :: imagesFrom arch media s.content (n - (j + 1)) (lba + j + 1))
      (hscans : ScansThrough s.env media s.content n lba s.requests ↔
        s.env.allocate found.services.requests = true ∧
          ScansThrough s.env media s.content (n - (j + 1)) (lba + j + 1)
            (found.services.requests + 1))
      (hexamined : searchExamines media n lba s = List.range' lba (j + 1))
  | complete (herror : found.status.isError = true)
      (hscans : ScansThrough s.env media s.content n lba s.requests)
      (himages : imagesFrom arch media s.content n lba = [])
      (hexamined : searchExamines media n lba s = List.range' lba n)
  | failed (herror : found.status.isError = true)
      (hscans : ¬ ScansThrough s.env media s.content n lba s.requests)
      (hexamined : (searchExamines media n lba s).length < n)

lemma discoverNextImage_end (lbaStart n lba : ℕ) (file : File) (s : Services) :
    SearchEnd arch media n lba s (discoverNextImage arch media lbaStart n lba file s) := by
  induction n generalizing lba file s with
  | zero => exact .complete rfl trivial rfl rfl
  | succ n ih =>
      cases hread : (s.env.readDisk s.requests).isError with
      | true =>
          obtain ⟨hfound, hexamined⟩ :=
            @discoverNextImage_unread arch media s file lba lbaStart n hread
          rw [hfound]
          refine .failed hread (fun h => ?_) (by rw [hexamined]; exact Nat.succ_pos n)
          rw [ScansThrough, hread] at h
          exact absurd h.1 (by decide)
      | false =>
        cases himage : isImageAt media s.content lba with
        | true =>
            obtain ⟨f, hfound, hlisted, hexamined⟩ :=
              @discoverNextImage_image arch media s file lba lbaStart n hread himage
            rw [hfound]
            refine .image (Nat.succ_pos n) rfl rfl rfl rfl ?_ ?_ hexamined
            · rw [imagesFrom, if_pos himage, hlisted]
              rfl
            · rw [ScansThrough, if_pos himage]
              exact and_iff_right hread
        | false =>
            obtain ⟨⟨file', hfound⟩, hexamined⟩ :=
              @discoverNextImage_other arch media s file lba lbaStart n hread himage
            have himages : imagesFrom arch media s.content (n + 1) lba =
                imagesFrom arch media s.content n (lba + 1) := by
              rw [imagesFrom, himage]
              rfl
            have hscans : ScansThrough s.env media s.content (n + 1) lba s.requests ↔
                ScansThrough s.env media s.content n (lba + 1)
                  (s.looked media lba).requests := by
              rw [ScansThrough, himage, if_neg Bool.false_ne_true, Services.looked]
              refine (and_iff_right hread).trans ?_
              split <;> rfl
            have hsame : (s.looked media lba).content = s.content ∧
                (s.looked media lba).env = s.env := ⟨rfl, rfl⟩
            rw [hfound]
            rcases ih (lba + 1) file' (s.looked media lba) with
              @⟨j, hlt, hok, hlba, hcontent, henv, himages', hscans', hexamined'⟩ |
              ⟨herror, hscans', himages', hexamined'⟩ | ⟨herror, hscans', hexamined'⟩
            · have hrest : n - (j + 1) = n + 1 - (j + 1 + 1) := by omega
              have hnext : lba + 1 + j + 1 = lba + (j + 1) + 1 := by omega
              rw [hsame.1] at hcontent himages'
              rw [hsame.1, hsame.2] at hscans'
              rw [hsame.2] at henv
              rw [hrest, hnext] at himages' hscans'
              exact .image (Nat.succ_lt_succ hlt) hok (hlba.trans hnext) hcontent henv
                (himages.trans himages') (hscans.trans hscans')
                (by rw [hexamined, hexamined']; rfl)
            · rw [hsame.1] at himages'
              rw [hsame.1, hsame.2] at hscans'
              exact .complete herror (hscans.mpr hscans') (himages.trans himages')
                (by rw [hexamined, hexamined']; rfl)
            · rw [hsame.1, hsame.2] at hscans'
              exact .failed herror (fun h => hscans' (hscans.mp h))
                (by rw [hexamined, List.length_cons]; exact Nat.succ_lt_succ hexamined')

end Search

/-! ## The whole media -/

section Initialize

variable {v : Volume}

/-- The loop from block `lba` on, with a file allocated for the next image. -/
structure LoopEnd (n lba : ℕ) (v : Volume) : Prop where
  /-- All that is needed succeeds. -/
  through : ScansThrough v.services.env v.media v.services.content (v.media.lastBlock + 1 - lba)
      lba (v.services.requests + 1) →
    (initializeLoop n lba v).1.isError = false ∧ (initializeLoop n lba v).2.initialized = true ∧
    initializeExamines n lba v = List.range' lba (v.media.lastBlock + 1 - lba) ∧
    (initializeLoop n lba v).2.files.map File.listed = v.files.map File.listed ++
      imagesFrom v.cfg.arch v.media v.services.content (v.media.lastBlock + 1 - lba) lba
  /-- Something fails: a read ends the loop early, or files are left behind. -/
  stopped : ¬ ScansThrough v.services.env v.media v.services.content
      (v.media.lastBlock + 1 - lba) lba (v.services.requests + 1) →
    ((initializeLoop n lba v).1.isError = false ∧
      (initializeExamines n lba v).length < v.media.lastBlock + 1 - lba) ∨
    ((initializeLoop n lba v).1.isError = true ∧
      v.files.length < (initializeLoop n lba v).2.files.length)

/-- What the loop does with the file it allocates. -/
lemma initializeLoop_succ (n lba : ℕ) (halloc : v.services.env.allocate v.services.requests = true)
    {found : Discovery} (hfound : bootMonFsDiscoverNextImage v.cfg.arch v.media lba
      (.created v.nextHandle) (v.services.asked 1) = found) :
    (found.status.isError = true →
      initializeLoop (n + 1) lba v = (.success, { v with
        services := found.services
        nextHandle := v.nextHandle + 1
        initialized := true }) ∧
      initializeExamines (n + 1) lba v =
        searchExamines v.media (v.media.lastBlock + 1 - lba) lba (v.services.asked 1)) ∧
    (found.status.isError = false →
      initializeLoop (n + 1) lba v = initializeLoop n found.lba { v with
        services := found.services
        nextHandle := v.nextHandle + 1
        files := v.files ++ [found.file] } ∧
      initializeExamines (n + 1) lba v =
        searchExamines v.media (v.media.lastBlock + 1 - lba) lba (v.services.asked 1) ++
          initializeExamines n found.lba { v with
            services := found.services
            nextHandle := v.nextHandle + 1
            files := v.files ++ [found.file] }) := by
  have hcreate : bootMonFsCreateFile v = (some (.created v.nextHandle),
      { v with services := v.services.asked 1, nextHandle := v.nextHandle + 1 }) := by
    unfold bootMonFsCreateFile
    rw [Services.allocatePool_asked halloc]
  refine ⟨fun herror => ?_, fun hok => ?_⟩
  · rw [initializeLoop, initializeExamines, hcreate]
    simp only [hfound, herror, if_true, List.append_nil, and_self]
  · rw [initializeLoop, initializeExamines, hcreate]
    simp only [hfound, hok, Bool.false_eq_true, if_false, and_self]

lemma initializeLoop_end (n lba : ℕ) (hlba : lba ≤ v.media.lastBlock + 1)
    (hn : v.media.lastBlock + 1 - lba < n)
    (halloc : v.services.env.allocate v.services.requests = true) : LoopEnd n lba v := by
  induction n generalizing lba v with
  | zero => omega
  | succ n ih =>
      have hend := @discoverNextImage_end v.cfg.arch v.media lba (v.media.lastBlock + 1 - lba) lba
        (.created v.nextHandle) (v.services.asked 1)
      rw [← bootMonFsDiscoverNextImage] at hend
      generalize hfound : bootMonFsDiscoverNextImage v.cfg.arch v.media lba (.created v.nextHandle)
        (v.services.asked 1) = found at hend
      obtain ⟨hlast, hmore⟩ := initializeLoop_succ n lba halloc hfound
      cases hend with
      | complete herror hscans himages hexamined =>
          obtain ⟨hloop, hread⟩ := hlast herror
          constructor
          · intro _
            have hnone : imagesFrom v.cfg.arch v.media v.services.content
                (v.media.lastBlock + 1 - lba) lba = [] := himages
            rw [hloop, hread, hexamined, hnone]
            exact ⟨rfl, rfl, rfl, (List.append_nil _).symm⟩
          · exact fun h => absurd hscans h
      | failed herror hscans hexamined =>
          obtain ⟨hloop, hread⟩ := hlast herror
          constructor
          · exact fun h => absurd h hscans
          · intro _
            rw [hloop, hread]
            exact .inl ⟨rfl, hexamined⟩
      | @image j hlt hok hnext hcontent henv himages hscans hexamined =>
          obtain ⟨hloop, hread⟩ := hmore hok
          have himages' : imagesFrom v.cfg.arch v.media v.services.content
              (v.media.lastBlock + 1 - lba) lba =
              found.file.listed :: imagesFrom v.cfg.arch v.media v.services.content
                (v.media.lastBlock + 1 - lba - (j + 1)) (lba + j + 1) := himages
          have hscans' : ScansThrough v.services.env v.media v.services.content
              (v.media.lastBlock + 1 - lba) lba (v.services.requests + 1) ↔
              v.services.env.allocate found.services.requests = true ∧
                ScansThrough v.services.env v.media v.services.content
                  (v.media.lastBlock + 1 - lba - (j + 1)) (lba + j + 1)
                  (found.services.requests + 1) := hscans
          replace hcontent : found.services.content = v.services.content := hcontent
          replace henv : found.services.env = v.services.env := henv
          have hrest : v.media.lastBlock + 1 - (lba + j + 1) =
              v.media.lastBlock + 1 - lba - (j + 1) := by omega
          rw [hnext] at hloop hread
          generalize hgrown : ({ v with
            services := found.services
            nextHandle := v.nextHandle + 1
            files := v.files ++ [found.file] } : Volume) = v' at hloop hread
          have hfiles : v'.files = v.files ++ [found.file] := hgrown ▸ rfl
          have hmedia : v'.media = v.media := hgrown ▸ rfl
          have hcfg : v'.cfg = v.cfg := hgrown ▸ rfl
          have hservices : v'.services = found.services := hgrown ▸ rfl
          by_cases hnode : found.services.env.allocate found.services.requests = true
          · have hloopEnd := @ih v' (lba + j + 1) (by rw [hmedia]; omega) (by rw [hmedia]; omega)
              (by rw [hservices]; exact hnode)
            obtain ⟨hthrough, hstopped⟩ := hloopEnd
            rw [hmedia, hservices, hcontent, henv, hrest] at hthrough hstopped
            rw [hcfg] at hthrough
            rw [henv] at hnode
            constructor
            · intro h
              obtain ⟨hok', hinitialized, hexamined', hlisted⟩ := hthrough (hscans'.mp h).2
              rw [hloop, hread, hexamined, hexamined', hlisted, himages', hfiles]
              refine ⟨hok', hinitialized, ?_, ?_⟩
              · rw [Nat.add_assoc lba j 1, List.range'_append_1]
                congr 1
                omega
              · rw [List.map_append, List.append_assoc]
                rfl
            · intro h
              rw [hloop, hread, hexamined]
              rcases hstopped fun h' => h (hscans'.mpr ⟨hnode, h'⟩) with
                ⟨hok', hless⟩ | ⟨herror, hmore'⟩
              · refine .inl ⟨hok', ?_⟩
                rw [List.length_append, List.length_range']
                omega
              · refine .inr ⟨herror, Nat.lt_trans ?_ hmore'⟩
                rw [hfiles, List.length_append]
                exact Nat.lt_succ_self _
          · obtain ⟨n, rfl⟩ : ∃ k, n = k + 1 := ⟨n - 1, by omega⟩
            have hcreate : bootMonFsCreateFile v' =
                (none, { v' with services := found.services.asked 1 }) := by
              unfold bootMonFsCreateFile
              rw [hservices, Services.allocatePool_asked (Bool.eq_false_iff.mpr hnode)]
            have hfailed : initializeLoop (n + 1) (lba + j + 1) v' =
                (.outOfResources, { v' with services := found.services.asked 1 }) := by
              rw [initializeLoop, hcreate]
            constructor
            · intro h
              rw [henv] at hnode
              exact absurd (hscans'.mp h).1 hnode
            · intro _
              rw [hloop, hfailed]
              refine .inr ⟨rfl, ?_⟩
              show v.files.length < v'.files.length
              rw [hfiles, List.length_append]
              exact Nat.lt_succ_self _

/-- Discovery is all or nothing exactly where the first allocation fails, or everything that has
to succeed does. -/
theorem discoversAll_iff (v : Volume) (hfiles : v.files = []) :
    DiscoversAll v ↔ v.services.env.allocate v.services.requests = false ∨
      ScansThrough v.services.env v.media v.services.content (v.media.lastBlock + 1) 0
        (v.services.requests + 1) := by
  cases halloc : v.services.env.allocate v.services.requests with
  | false =>
      have hcall : bootMonFsInitialize v =
          (.outOfResources, { v with services := v.services.asked 1 }) := by
        rw [bootMonFsInitialize, initializeLoop, bootMonFsCreateFile,
          Services.allocatePool_asked halloc]
      refine iff_of_true ⟨fun hok => ?_, fun _ => ?_⟩ (.inl rfl)
      · rw [hcall] at hok
        cases hok
      · rw [hcall]
        exact ⟨rfl, rfl⟩
  | true =>
      obtain ⟨hthrough, hstopped⟩ := initializeLoop_end (v.media.lastBlock + 2) 0 (Nat.zero_le _)
        (Nat.lt_succ_self _) halloc
      rw [Nat.sub_zero] at hthrough hstopped
      rw [← bootMonFsInitialize] at hthrough hstopped
      constructor
      · rintro ⟨hsucceeded, hfailed⟩
        refine .inr ?_
        by_contra h
        rcases hstopped h with ⟨hok, hless⟩ | ⟨herror, hmore⟩
        · rw [(hsucceeded hok).2.1, List.length_range'] at hless
          exact absurd hless (Nat.lt_irrefl _)
        · rw [(hfailed herror).1] at hmore
          exact absurd hmore (Nat.lt_irrefl _)
      · rintro (h | h)
        · cases h
        · obtain ⟨hok, hinitialized, hexamined, hlisted⟩ := hthrough h
          rw [hfiles] at hlisted
          exact ⟨fun _ => ⟨hinitialized, hexamined, hlisted⟩,
            fun herror => by rw [hok] at herror; cases herror⟩

end Initialize

/-- The media with the image `B` in block 1. -/
theorem discoversAll_iff_mediaB :
    isImageAt mediaB.media mediaB.services.content 1 = true ∧
      (DiscoversAll mediaB ↔ mediaB.services.env.allocate mediaB.services.requests = false ∨
        ScansThrough mediaB.services.env mediaB.media mediaB.services.content
          (mediaB.media.lastBlock + 1) 0 (mediaB.services.requests + 1)) :=
  ⟨by decide +kernel, discoversAll_iff mediaB rfl⟩

/-- Every read fails on a blank media of four blocks: the volume is taken for initialised. -/
theorem not_discoversAll_unreadable :
    ¬ DiscoversAll { blankVolume 3 with
      services := ⟨fun _ => 0, [], { Environment.good with readDisk := fun _ => .deviceError }, 0⟩ } := by
  intro h
  have hexamined := (h.succeeded (by decide)).2.1
  revert hexamined
  decide

end BootMonFs

end MuPlatform
