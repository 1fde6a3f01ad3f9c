import Mathlib.Data.List.Chain
import MuPlatform.Efi.Pages

/-!
# Leaving the boot services

`ShutdownUefiBootServices` (`RunAxf.c`, and the same in `BdsHelper.c`) gets the memory map until
`ExitBootServices` takes the key of it.  Its buffer has a page more than the map needs when it is
asked for first, since its own allocation makes the map larger.  The second `GetMemoryMap` is still
told the size from before that, so it is often refused, and the larger buffer is of use in the next
round only.

`GetMemoryMap` is a parameter that answers as it is documented to, and a `ShutdownRound` says what
else the firmware does in one round.  `shutdown_settled` says that with a map that does not grow
from round to round, and by a page at most within one, each map is copied into pages that are large
enough for it, and none are left behind but those of the last map.
`shutdown_returns_iff` says that with a map that stays as it is the function returns if and only if
its first buffer has been allocated, and that it asks for no other.
-/

namespace MuPlatform
namespace RunAxf

/-! ## The function -/

/-- The memory map at a call. -/
structure MemoryMapView where
  size : ℕ
  mapKey : ℕ

/-- What `GetMemoryMap` does. -/
inductive MapAnswer
  | copied
  | bufferTooSmall
  | invalidParameter
  deriving DecidableEq, Repr

/-- `GetMemoryMap` of a firmware, for the map at the call, `MemoryMapSize` and `MemoryMap`. -/
abbrev GetMemoryMap := MemoryMapView → ℕ → Option ℕ → MapAnswer

/-- `GetMemoryMap` answers as it is documented to. -/
structure GetMemoryMap.Documented (getMemoryMap : GetMemoryMap) : Prop where
  tooSmall : ∀ map memoryMapSize memoryMap, memoryMapSize < map.size →
    getMemoryMap map memoryMapSize memoryMap = .bufferTooSmall
  copies : ∀ map memoryMapSize base, map.size ≤ memoryMapSize →
    getMemoryMap map memoryMapSize (some base) = .copied
  noBuffer : ∀ map memoryMapSize, map.size ≤ memoryMapSize →
    getMemoryMap map memoryMapSize none = .invalidParameter

/-- How the firmware answers in one round: with the map at each `GetMemoryMap`, and the key that
`ExitBootServices` compares with. -/
structure ShutdownRound where
  first : MemoryMapView
  allocatePages : Option ℕ
  second : MemoryMapView
  exitKey : ℕ

/-- `MemoryMapSize`, `MemoryMap` and `Pages`, the pages that were allocated and freed, and the maps
that were copied, with the pages they were copied to. -/
structure ShutdownState where
  memoryMapSize : ℕ
  memoryMap : Option ℕ
  pages : ℕ
  ledger : List (Entry PageRun)
  copies : List (PageRun × ℕ)

namespace ShutdownState

def start : ShutdownState := ⟨0, none, 0, [], []⟩

/-- The pages at `MemoryMap`. -/
def run (s : ShutdownState) : Option PageRun := s.memoryMap.map (⟨·, s.pages⟩)

/-- `GetMemoryMap` leaves the size of the map in `MemoryMapSize`, whatever it returns. -/
def sized (s : ShutdownState) (map : MemoryMapView) : ShutdownState :=
  { s with memoryMapSize := map.size }

/-- The map is copied to `MemoryMap`. -/
def copied (s : ShutdownState) (map : MemoryMapView) : ShutdownState :=
  { s with memoryMapSize := map.size, copies := s.copies ++ (s.run.map (·, map.size)).toList }

/-- The allocation of a buffer. -/
def allocated (s : ShutdownState) (base : Option ℕ) (pages : ℕ) : ShutdownState :=
  { s with
    memoryMap := base
    pages := pages
    ledger := s.ledger ++ (base.map fun base => .granted ⟨base, pages⟩).toList }

/-- The buffer is freed. -/
def freed (s : ShutdownState) : ShutdownState :=
  { s with
    memoryMapSize := 0
    memoryMap := none
    ledger := s.ledger ++ (s.run.map .released).toList }

end ShutdownState

/-- `ExitBootServices` with the key of the map, which returns if the map has not changed. -/
def exitBootServices (r : ShutdownRound) (map : MemoryMapView) (s : ShutdownState) :
    Bool × ShutdownState :=
  if map.mapKey = r.exitKey then (true, s) else (false, s.freed)

section Rounds

variable (getMemoryMap : GetMemoryMap)

/-- The part of a round that `GetMemoryMap` with this map is the last one of. -/
def gotMemoryMap (r : ShutdownRound) (map : MemoryMapView) (s : ShutdownState) :
    Bool × ShutdownState :=
  if getMemoryMap map s.memoryMapSize s.memoryMap = .copied then
    exitBootServices r map (s.copied map)
  else (false, s.sized map)

/-- A round of the loop, and whether it is the last one. -/
def shutdownRound (r : ShutdownRound) (s : ShutdownState) : Bool × ShutdownState :=
  if getMemoryMap r.first s.memoryMapSize s.memoryMap = .bufferTooSmall then
    gotMemoryMap getMemoryMap r r.second
      ((s.sized r.first).allocated r.allocatePages (efiSizeToPages r.first.size + 1))
  else gotMemoryMap getMemoryMap r r.first s

/-- `ShutdownUefiBootServices`; `none` where it is still in its loop after the rounds. -/
def shutdownUefiBootServices : List ShutdownRound → ShutdownState → Option ShutdownState
  | [], _ => none
  | r :: rounds, s =>
    if (shutdownRound getMemoryMap r s).1 then some (shutdownRound getMemoryMap r s).2
    else shutdownUefiBootServices rounds (shutdownRound getMemoryMap r s).2

/-- The pages the rounds ask for, up to the last one. -/
def pageRequests : List ShutdownRound → ShutdownState → List ℕ
  | [], _ => []
  | r :: rounds, s =>
    (if getMemoryMap r.first s.memoryMapSize s.memoryMap = .bufferTooSmall then
      [efiSizeToPages r.first.size + 1] else []) ++
    if (shutdownRound getMemoryMap r s).1 then []
    else pageRequests rounds (shutdownRound getMemoryMap r s).2

end Rounds

/-! ## The pages -/

/-- The map does not grow from round to round, and by a page at most within one. -/
structure Settled (rounds : List ShutdownRound) : Prop where
  between : rounds.IsChain fun r r' => r'.first.size ≤ r.second.size
  within : ∀ r ∈ rounds, r.second.size ≤ r.first.size + pageBytes

/-- The maps were copied into pages that are large enough, and no pages are allocated but those at
`MemoryMap`, which hold `MemoryMapSize` bytes. -/
structure ShutdownState.Sound (s : ShutdownState) : Prop where
  fits : ∀ copy ∈ s.copies, copy.2 ≤ copy.1.pages * pageBytes
  leaves : Ledger.Leaves 0 s.ledger (s.run.elim 0 ({·}))
  holds : ∀ run, s.run = some run → s.memoryMapSize ≤ run.pages * pageBytes

section Rounds

variable {r : ShutdownRound} {rounds : List ShutdownRound} {s t : ShutdownState}
  {map : MemoryMapView} {getMemoryMap : GetMemoryMap}

lemma GetMemoryMap.Documented.ne_small (hmap : getMemoryMap.Documented) {memoryMapSize : ℕ}
    {memoryMap : Option ℕ} (h : map.size ≤ memoryMapSize) :
    getMemoryMap map memoryMapSize memoryMap ≠ .bufferTooSmall := by
  cases memoryMap with
  | none =>
      rw [hmap.noBuffer _ _ h]
      decide
  | some base =>
      rw [hmap.copies _ _ _ h]
      decide

/-- Without a buffer nothing is copied. -/
lemma gotMemoryMap_none (hmap : getMemoryMap.Documented) (r : ShutdownRound) (map : MemoryMapView)
    (hnone : s.memoryMap = none) : gotMemoryMap getMemoryMap r map s = (false, s.sized map) := by
  have hnot : getMemoryMap map s.memoryMapSize s.memoryMap ≠ .copied := by
    rcases Nat.lt_or_ge s.memoryMapSize map.size with hsmall | hlarge
    · rw [hmap.tooSmall _ _ _ hsmall]
      decide
    · rw [hnone, hmap.noBuffer _ _ hlarge]
      decide
  exact if_neg hnot

lemma start_sound : ShutdownState.start.Sound :=
  ⟨fun _ hcopy => absurd hcopy List.not_mem_nil, rfl, fun _ hrun => by cases hrun⟩

lemma ShutdownState.run_eq_none : s.run = none ↔ s.memoryMap = none := Option.map_eq_none_iff

/-- A map that fits is copied. -/
lemma ShutdownState.Sound.copied (hs : s.Sound)
    (hfits : ∀ run, s.run = some run → map.size ≤ run.pages * pageBytes) :
    (s.copied map).Sound := by
  refine ⟨fun copy hcopy => ?_, hs.leaves, hfits⟩
  rcases List.mem_append.mp hcopy with hold | hnew
  · exact hs.fits copy hold
  · obtain ⟨run, hrun, rfl⟩ := Option.map_eq_some_iff.mp (Option.mem_toList.mp hnew)
    exact hfits run hrun

lemma ShutdownState.Sound.sized (hs : s.Sound)
    (hfits : ∀ run, s.run = some run → map.size ≤ run.pages * pageBytes) : (s.sized map).Sound :=
  ⟨hs.fits, hs.leaves, hfits⟩

/-- A buffer is allocated where there is none. -/
lemma ShutdownState.Sound.allocated (hs : s.Sound) (hnone : s.memoryMap = none) {base : Option ℕ}
    {pages : ℕ} (hfits : s.memoryMapSize ≤ pages * pageBytes) : (s.allocated base pages).Sound := by
  have hleaves := hs.leaves
  rw [ShutdownState.run_eq_none.mpr hnone, Option.elim_none] at hleaves
  refine ⟨hs.fits, ?_, fun run hrun => ?_⟩
  · cases base with
    | none => simpa [ShutdownState.allocated, ShutdownState.run] using hleaves
    | some base => exact hleaves.append Ledger.Leaves.grant
  · obtain ⟨base, -, rfl⟩ := Option.map_eq_some_iff.mp hrun
    exact hfits

lemma ShutdownState.Sound.freed (hs : s.Sound) : s.freed.Sound := by
  refine ⟨hs.fits, ?_, fun run hrun => by cases hrun⟩
  have hleaves := hs.leaves
  unfold ShutdownState.freed
  cases hrun : s.run with
  | none =>
      rw [hrun] at hleaves
      simpa [ShutdownState.run] using hleaves
  | some run =>
      rw [hrun] at hleaves
      have hrelease : Ledger.Leaves {run} [.released run] 0 := Ledger.Leaves.release
      exact hleaves.append hrelease

/-- `ExitBootServices` keeps the buffer or frees it. -/
lemma exitBootServices_sound (r : ShutdownRound) (map : MemoryMapView) (hs : s.Sound)
    (hsome : s.memoryMap.isSome) :
    (exitBootServices r map s).2.Sound ∧
      ((exitBootServices r map s).1 = true → (exitBootServices r map s).2.memoryMap.isSome) ∧
      ((exitBootServices r map s).1 = false → (exitBootServices r map s).2.memoryMap = none) := by
  unfold exitBootServices
  split
  · exact ⟨hs, fun _ => hsome, fun h => by cases h⟩
  · exact ⟨hs.freed, fun h => by (cases h), fun _ => rfl⟩

/-- The last `GetMemoryMap` of a round, with a map that fits into the buffer if there is one. -/
lemma gotMemoryMap_sound (hmap : getMemoryMap.Documented) (r : ShutdownRound) (hs : s.Sound)
    (hfits : ∀ run, s.run = some run → map.size ≤ run.pages * pageBytes) :
    (gotMemoryMap getMemoryMap r map s).2.Sound ∧
      ((gotMemoryMap getMemoryMap r map s).1 = true →
        (gotMemoryMap getMemoryMap r map s).2.memoryMap.isSome) ∧
      ((gotMemoryMap getMemoryMap r map s).1 = false →
        (gotMemoryMap getMemoryMap r map s).2.memoryMap.isSome →
        s.memoryMapSize < map.size ∧
          (gotMemoryMap getMemoryMap r map s).2.memoryMapSize = map.size) := by
  unfold gotMemoryMap
  by_cases hsmall : s.memoryMapSize < map.size
  · rw [hmap.tooSmall _ _ _ hsmall, if_neg (by decide)]
    exact ⟨hs.sized hfits, fun h => by (cases h), fun _ _ => ⟨hsmall, rfl⟩⟩
  by_cases hsome : s.memoryMap.isSome
  · have hcopied : getMemoryMap map s.memoryMapSize s.memoryMap = .copied := by
      obtain ⟨base, hbase⟩ := Option.isSome_iff_exists.mp hsome
      rw [hbase, hmap.copies _ _ _ (Nat.not_lt.mp hsmall)]
    obtain ⟨hsound, hdone, hnext⟩ :=
      exitBootServices_sound r map (hs.copied hfits) hsome
    rw [if_pos hcopied]
    refine ⟨hsound, hdone, fun hfalse hrun => ?_⟩
    rw [hnext hfalse] at hrun
    cases hrun
  · have hnone := gotMemoryMap_none hmap r map (Option.not_isSome_iff_eq_none.mp hsome)
    rw [gotMemoryMap] at hnone
    rw [hnone]
    exact ⟨hs.sized hfits, fun h => by (cases h), fun _ hrun => absurd hrun hsome⟩

/-- What a round does, with a buffer that is large enough for the map where there is one. -/
lemma shutdownRound_sound (hmap : getMemoryMap.Documented) (hs : s.Sound)
    (hhead : s.memoryMap.isSome → r.first.size ≤ s.memoryMapSize)
    (hwithin : r.second.size ≤ r.first.size + pageBytes) :
    (shutdownRound getMemoryMap r s).2.Sound ∧
      ((shutdownRound getMemoryMap r s).1 = true →
        (shutdownRound getMemoryMap r s).2.memoryMap.isSome) ∧
      ((shutdownRound getMemoryMap r s).1 = false →
        (shutdownRound getMemoryMap r s).2.memoryMap.isSome →
        (shutdownRound getMemoryMap r s).2.memoryMapSize = r.second.size) := by
  unfold shutdownRound
  by_cases hsmall : s.memoryMapSize < r.first.size
  · rw [if_pos (hmap.tooSmall _ _ _ hsmall)]
    have hnone : s.memoryMap = none := by
      by_contra hsome
      exact absurd (hhead (Option.isSome_iff_ne_none.mpr hsome)) (Nat.not_le.mpr hsmall)
    have hcapacity : r.first.size + pageBytes ≤ (efiSizeToPages r.first.size + 1) * pageBytes := by
      have hle := le_efiSizeToPages r.first.size
      rw [Nat.add_mul, Nat.one_mul]
      omega
    have hsized : (s.sized r.first).Sound := hs.sized fun run hrun => by
      rw [ShutdownState.run_eq_none.mpr hnone] at hrun
      cases hrun
    have hallocated : ((s.sized r.first).allocated r.allocatePages
        (efiSizeToPages r.first.size + 1)).Sound :=
      hsized.allocated hnone (Nat.le_of_add_right_le hcapacity)
    have hfits : ∀ run, ((s.sized r.first).allocated r.allocatePages
        (efiSizeToPages r.first.size + 1)).run = some run →
        r.second.size ≤ run.pages * pageBytes := by
      intro run hrun
      obtain ⟨base, -, rfl⟩ := Option.map_eq_some_iff.mp hrun
      exact hwithin.trans hcapacity
    obtain ⟨hsound, hdone, hnext⟩ := gotMemoryMap_sound hmap r hallocated hfits
    exact ⟨hsound, hdone, fun hfalse hsome => (hnext hfalse hsome).2⟩
  · -- the buffer is that of the round before
    have hle := Nat.not_lt.mp hsmall
    rw [if_neg (hmap.ne_small hle)]
    obtain ⟨hsound, hdone, hnext⟩ :=
      gotMemoryMap_sound hmap r hs fun run hrun => hle.trans (hs.holds run hrun)
    exact ⟨hsound, hdone, fun hfalse hsome => absurd (hnext hfalse hsome).1 hsmall⟩

lemma Settled.tail (h : Settled (r :: rounds)) : Settled rounds :=
  ⟨h.between.tail, fun r' hr' => h.within r' (List.mem_cons_of_mem _ hr')⟩

/-- A run from a sound state. -/
lemma shutdownUefiBootServices_sound (hmap : getMemoryMap.Documented)
    (hsettled : Settled rounds) (hs : s.Sound)
    (hhead : ∀ r ∈ rounds.head?, s.memoryMap.isSome → r.first.size ≤ s.memoryMapSize)
    (hrun : shutdownUefiBootServices getMemoryMap rounds s = some t) :
    t.Sound ∧ t.memoryMap.isSome := by
  induction rounds generalizing s with
  | nil => cases hrun
  | cons r rounds ih =>
      obtain ⟨hsound, hdone, hnext⟩ := shutdownRound_sound hmap hs (hhead r rfl)
        (hsettled.within r List.mem_cons_self)
      rw [shutdownUefiBootServices] at hrun
      cases hlast : (shutdownRound getMemoryMap r s).1 with
      | true =>
          rw [hlast, if_pos rfl] at hrun
          obtain rfl := Option.some.inj hrun
          exact ⟨hsound, hdone hlast⟩
      | false =>
          rw [hlast, if_neg Bool.false_ne_true] at hrun
          refine ih hsettled.tail hsound (fun r' hr' hsome => ?_) hrun
          rw [hnext hlast hsome]
          cases rounds with
          | nil => cases hr'
          | cons r'' rounds =>
              obtain rfl := Option.some.inj hr'
              exact (List.isChain_cons_cons.mp hsettled.between).1

/-- With a settled map each map has been copied into pages that are large enough for it, and no
pages are left allocated but those of the last one. -/
theorem shutdown_settled (hmap : getMemoryMap.Documented) (hsettled : Settled rounds)
    (hrun : shutdownUefiBootServices getMemoryMap rounds .start = some t) :
    (∀ copy ∈ t.copies, copy.2 ≤ copy.1.pages * pageBytes) ∧
      ∃ base, t.memoryMap = some base ∧ Ledger.Leaves 0 t.ledger {⟨base, t.pages⟩} := by
  obtain ⟨hsound, hsome⟩ := shutdownUefiBootServices_sound hmap hsettled start_sound
    (fun r _ hsome => by cases hsome) hrun
  obtain ⟨base, hbase⟩ := Option.isSome_iff_exists.mp hsome
  refine ⟨hsound.fits, base, hbase, ?_⟩
  have hleaves := hsound.leaves
  rw [ShutdownState.run, hbase] at hleaves
  exact hleaves

/-- A `GetMemoryMap` as it is documented. -/
def documentedMap : GetMemoryMap := fun map memoryMapSize memoryMap =>
  if memoryMapSize < map.size then .bufferTooSmall
  else if memoryMap.isSome then .copied
  else .invalidParameter

lemma documentedMap_documented : documentedMap.Documented where
  tooSmall _ _ _ h := if_pos h
  copies _ _ _ h := if_neg (Nat.not_lt.mpr h)
  noBuffer _ _ h := if_neg (Nat.not_lt.mpr h)

/-- A firmware whose map grows by a descriptor with the allocation. -/
def growingRounds : List ShutdownRound :=
  [⟨⟨4800, 1⟩, some 0x8000, ⟨4848, 2⟩, 2⟩, ⟨⟨4848, 2⟩, none, ⟨4848, 2⟩, 2⟩]

theorem shutdown_settled_growing :
    ∃ t, shutdownUefiBootServices documentedMap growingRounds .start = some t ∧
      (∀ copy ∈ t.copies, copy.2 ≤ copy.1.pages * pageBytes) ∧
      ∃ base, t.memoryMap = some base ∧ Ledger.Leaves 0 t.ledger {⟨base, t.pages⟩} := by
  have hsettled : Settled growingRounds := by
    refine ⟨List.isChain_pair.mpr (by decide), fun r hr => ?_⟩
    simp only [growingRounds, List.mem_cons, List.not_mem_nil, or_false] at hr
    rcases hr with rfl | rfl <;> decide
  exact ⟨_, rfl, shutdown_settled documentedMap_documented hsettled rfl⟩

end Rounds

/-! ## The end of the loop -/

/-- Once the first buffer has been asked for, the map stays as it is. -/
structure Steady (size : ℕ) (r : ShutdownRound) (rounds : List ShutdownRound) : Prop where
  pos : 0 < r.first.size
  second : r.second.size = size
  rest : ∀ r' ∈ rounds, r'.first.size = size

/-- `ExitBootServices` takes the key of each map. -/
def ShutdownRound.Accepted (r : ShutdownRound) : Prop :=
  r.first.mapKey = r.exitKey ∧ r.second.mapKey = r.exitKey

section Returns

variable {r r' : ShutdownRound} {rounds : List ShutdownRound} {s : ShutdownState} {size : ℕ}
  {getMemoryMap : GetMemoryMap}

/-- Without a buffer, and with a `MemoryMapSize` of the map, the loop goes on for ever and asks for
no pages. -/
lemma shutdown_starved (hmap : getMemoryMap.Documented) (hsize : ∀ r ∈ rounds, r.first.size = size)
    (hnone : s.memoryMap = none) (hs : s.memoryMapSize = size) :
    shutdownUefiBootServices getMemoryMap rounds s = none ∧
      pageRequests getMemoryMap rounds s = [] := by
  induction rounds generalizing s with
  | nil => exact ⟨rfl, rfl⟩
  | cons r rounds ih =>
      have hfirst := hsize r List.mem_cons_self
      have hlarge : getMemoryMap r.first s.memoryMapSize s.memoryMap ≠ .bufferTooSmall :=
        hmap.ne_small (by rw [hfirst, hs])
      have hround : shutdownRound getMemoryMap r s = (false, s.sized r.first) := by
        rw [shutdownRound, if_neg hlarge, gotMemoryMap_none hmap _ _ hnone]
      rw [shutdownUefiBootServices, pageRequests, if_neg hlarge, hround]
      exact ih (fun r' hr' => hsize r' (List.mem_cons_of_mem _ hr')) hnone hfirst

/-- A map that is copied, with its key accepted, is the last one. -/
lemma gotMemoryMap_accepted (hmap : getMemoryMap.Documented) {map : MemoryMapView}
    (hsize : map.size ≤ s.memoryMapSize) (hsome : s.memoryMap.isSome)
    (hkey : map.mapKey = r.exitKey) : (gotMemoryMap getMemoryMap r map s).1 = true := by
  obtain ⟨base, hbase⟩ := Option.isSome_iff_exists.mp hsome
  have hcopied : getMemoryMap map s.memoryMapSize s.memoryMap = .copied := by
    rw [hbase, hmap.copies _ _ _ hsize]
  rw [gotMemoryMap, if_pos hcopied, exitBootServices, if_pos hkey]

/-- With a map that stays as it is, and with two rounds or more, the function returns if and only if
its first buffer has been allocated, and asks for no other. -/
theorem shutdown_returns_iff (hmap : getMemoryMap.Documented)
    (hsteady : Steady size r (r' :: rounds))
    (haccepted : ∀ q ∈ r :: r' :: rounds, q.Accepted) :
    ((shutdownUefiBootServices getMemoryMap (r :: r' :: rounds) .start).isSome ↔
      r.allocatePages.isSome) ∧
    pageRequests getMemoryMap (r :: r' :: rounds) .start =
      [efiSizeToPages r.first.size + 1] := by
  have hsmall : getMemoryMap r.first ShutdownState.start.memoryMapSize
      ShutdownState.start.memoryMap = .bufferTooSmall := hmap.tooSmall _ _ _ hsteady.pos
  have hround : shutdownRound getMemoryMap r .start = gotMemoryMap getMemoryMap r r.second
      ((ShutdownState.start.sized r.first).allocated r.allocatePages
        (efiSizeToPages r.first.size + 1)) := by
    rw [shutdownRound, if_pos hsmall]
  generalize hbuffer : (ShutdownState.start.sized r.first).allocated r.allocatePages
    (efiSizeToPages r.first.size + 1) = s at hround
  have hbase : s.memoryMap = r.allocatePages := hbuffer ▸ rfl
  have hsize : s.memoryMapSize = r.first.size := hbuffer ▸ rfl
  rw [shutdownUefiBootServices, pageRequests, if_pos hsmall, hround]
  by_cases hallocated : r.allocatePages.isSome
  · rw [iff_true_right hallocated]
    rw [← hbase] at hallocated
    by_cases hfits : r.second.size ≤ s.memoryMapSize
    · have hlast := gotMemoryMap_accepted hmap hfits hallocated
        (haccepted r List.mem_cons_self).2
      rw [if_pos hlast, if_pos hlast]
      exact ⟨rfl, rfl⟩
    · -- the buffer is of use in the second round
      have hrefused : gotMemoryMap getMemoryMap r r.second s = (false, s.sized r.second) := by
        rw [gotMemoryMap, hmap.tooSmall _ _ _ (Nat.not_le.mp hfits), if_neg (by decide)]
      have hnext : r'.first.size ≤ (s.sized r.second).memoryMapSize :=
        ((hsteady.rest r' List.mem_cons_self).trans hsteady.second.symm).le
      have hkey := (haccepted r' (List.mem_cons_of_mem _ List.mem_cons_self)).1
      have hlast : (shutdownRound getMemoryMap r' (s.sized r.second)).1 = true := by
        rw [shutdownRound, if_neg (hmap.ne_small hnext)]
        exact gotMemoryMap_accepted hmap hnext hallocated hkey
      rw [hrefused, if_neg Bool.false_ne_true, if_neg Bool.false_ne_true, shutdownUefiBootServices,
        pageRequests, if_neg (hmap.ne_small hnext), if_pos hlast, if_pos hlast]
      exact ⟨rfl, rfl⟩
  · rw [iff_false_right hallocated]
    have hnone : s.memoryMap = none := hbase.trans (Option.not_isSome_iff_eq_none.mp hallocated)
    rw [gotMemoryMap_none hmap _ _ hnone, if_neg Bool.false_ne_true, if_neg Bool.false_ne_true]
    obtain ⟨hstarved, hrequests⟩ :=
      shutdown_starved (s := s.sized r.second) hmap hsteady.rest hnone hsteady.second
    rw [hstarved, hrequests]
    exact ⟨Bool.false_ne_true, rfl⟩

/-- A firmware that has no pages in the first round. -/
theorem shutdown_returns_iff_noPages :
    ((shutdownUefiBootServices documentedMap [⟨⟨4800, 2⟩, none, ⟨4848, 2⟩, 2⟩,
        ⟨⟨4848, 2⟩, some 0x8000, ⟨4848, 2⟩, 2⟩] .start).isSome ↔ (none : Option ℕ).isSome) ∧
      pageRequests documentedMap [⟨⟨4800, 2⟩, none, ⟨4848, 2⟩, 2⟩,
        ⟨⟨4848, 2⟩, some 0x8000, ⟨4848, 2⟩, 2⟩] .start = [efiSizeToPages 4800 + 1] := by
  have hsteady : Steady 4848 ⟨⟨4800, 2⟩, none, ⟨4848, 2⟩, 2⟩
      [⟨⟨4848, 2⟩, some 0x8000, ⟨4848, 2⟩, 2⟩] := ⟨by decide, rfl, by simp⟩
  refine shutdown_returns_iff documentedMap_documented hsteady fun q hq => ?_
  simp only [List.mem_cons, List.not_mem_nil, or_false] at hq
  rcases hq with rfl | rfl <;> exact ⟨rfl, rfl⟩

/-- Where the second round uses the buffer of the first, the map has the size that was asked for
then as its only bound, and not that of the buffer. -/
theorem shutdown_second_round_fits_iff (hmap : getMemoryMap.Documented) {base : ℕ}
    (hbase : r.allocatePages = some base) (hpos : 0 < r.first.size)
    (hgrown : r.first.size < r.second.size) (hnext : r'.first.size ≤ r.second.size)
    (hkey : r'.first.mapKey = r'.exitKey) :
    ∃ t, shutdownUefiBootServices getMemoryMap (r :: r' :: rounds) .start = some t ∧
      ((∀ copy ∈ t.copies, copy.2 ≤ copy.1.pages * pageBytes) ↔
        r'.first.size ≤ (efiSizeToPages r.first.size + 1) * pageBytes) := by
  have hsmall : getMemoryMap r.first ShutdownState.start.memoryMapSize
      ShutdownState.start.memoryMap = .bufferTooSmall := hmap.tooSmall _ _ _ hpos
  have hfirst : shutdownRound getMemoryMap r .start =
      (false, ((ShutdownState.start.sized r.first).allocated (some base)
        (efiSizeToPages r.first.size + 1)).sized r.second) := by
    rw [shutdownRound, if_pos hsmall, hbase, gotMemoryMap]
    have hrefused : getMemoryMap r.second r.first.size (some base) = .bufferTooSmall :=
      hmap.tooSmall _ _ _ hgrown
    exact if_neg (hrefused ▸ by decide)
  generalize hbuffer : ((ShutdownState.start.sized r.first).allocated (some base)
    (efiSizeToPages r.first.size + 1)).sized r.second = s at hfirst
  have hsize : s.memoryMapSize = r.second.size := hbuffer ▸ rfl
  have hrun : s.run = some ⟨base, efiSizeToPages r.first.size + 1⟩ := hbuffer ▸ rfl
  have hcopies : s.copies = [] := hbuffer ▸ rfl
  have hsome : s.memoryMap = some base := hbuffer ▸ rfl
  rw [← hsize] at hnext
  have hcopied : getMemoryMap r'.first s.memoryMapSize s.memoryMap = .copied := by
    rw [hsome, hmap.copies _ _ _ hnext]
  have hsecond : shutdownRound getMemoryMap r' s = (true, s.copied r'.first) := by
    rw [shutdownRound, if_neg (hmap.ne_small hnext), gotMemoryMap, if_pos hcopied,
      exitBootServices, if_pos hkey]
  refine ⟨s.copied r'.first, ?_, ?_⟩
  · rw [shutdownUefiBootServices, hfirst, if_neg Bool.false_ne_true, shutdownUefiBootServices,
      hsecond, if_pos rfl]
  · simp [ShutdownState.copied, hcopies, hrun]

end Returns

end RunAxf
end MuPlatform
