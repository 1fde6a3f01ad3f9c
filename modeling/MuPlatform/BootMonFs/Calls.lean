import MuPlatform.Base.Runs
import MuPlatform.BootMonFs.Flush
import MuPlatform.BootMonFs.ReadWrite

/-!
# Runs of the driver

The calls a client makes on the files of a volume, as the steps of a transition system.  Each
call comes with the environment it runs in.  A run starts on a volume `BootMonFsInitialize` has
just set up.  `AllMeet` checks a condition along a given list of calls.

The rest of the module is about lists of files with distinct handles: what `lookup`, `update`,
`nextFile` and `relink` do at the place of a file.
-/

namespace MuPlatform
namespace BootMonFs

/-- A call on the volume or on one of its files. -/
inductive Call
  | openFile (name : FileName) (mode : OpenMode) (attributes : ℕ)
  | closeFile (handle : ℕ)
  | delete (handle : ℕ)
  | readFile (handle bufferSize : ℕ)
  | writeFile (handle : ℕ) (buffer : List UInt8)
  | setPosition (handle position : ℕ)
  | setInfo (handle : ℕ) (args : SetInfoArgs)
  | flushFile (handle : ℕ)

/-- The file a call flushes. -/
def Call.flushes : Call → Option ℕ
  | closeFile handle | readFile handle _ | flushFile handle => some handle
  | _ => none

/-- The volume at the start of a call. -/
def Volume.enter (v : Volume) (env : Environment) : Volume :=
  { v with services := { v.services with env := env, requests := 0 } }

/-- A call: its status and the volume after it. -/
def perform : Call → Volume → EfiStatus × Volume
  | .openFile name mode attributes, v =>
      let outcome := bootMonFsOpenFile name mode attributes v
      (outcome.1, outcome.2.2)
  | .closeFile handle, v => bootMonFsCloseFile handle v
  | .delete handle, v => bootMonFsDelete handle v
  | .readFile handle bufferSize, v =>
      let outcome := bootMonFsReadFile handle bufferSize v
      (outcome.1, outcome.2.2)
  | .writeFile handle buffer, v => bootMonFsWriteFile handle buffer v
  | .setPosition handle position, v => bootMonFsSetPosition handle position v
  | .setInfo handle args, v => bootMonFsSetInfo handle args v
  | .flushFile handle, v => bootMonFsFlushFile handle v

/-- The volume has just been initialised. -/
def Mounted (v : Volume) : Prop :=
  ∃ v₀ : Volume, v₀.files = [] ∧ bootMonFsInitialize v₀ = (.success, v)

/-- The runs of the driver on a volume. -/
def driver : System Volume (Environment × Call) where
  Init := Mounted
  Step v call v' := v' = (perform call.2 (v.enter call.1)).2

/-- The volume after some calls. -/
def runCalls (calls : List (Environment × Call)) (v : Volume) : Volume :=
  calls.foldl (fun v call => (perform call.2 (v.enter call.1)).2) v

lemma run_runCalls (calls : List (Environment × Call)) (v : Volume) :
    driver.Run v calls (runCalls calls v) := by
  induction calls generalizing v with
  | nil => exact .nil v
  | cons call calls ih => exact .cons rfl (ih _)

/-- The condition holds at each of some calls. -/
def AllMeet (P : Volume → Environment × Call → Prop) : List (Environment × Call) → Volume → Prop
  | [], _ => True
  | call :: calls, v => P v call ∧ AllMeet P calls (perform call.2 (v.enter call.1)).2

instance decidableAllMeet (P : Volume → Environment × Call → Prop)
    [∀ v call, Decidable (P v call)] : ∀ calls v, Decidable (AllMeet P calls v)
  | [], _ => .isTrue trivial
  | call :: calls, v =>
      have := decidableAllMeet P calls (perform call.2 (v.enter call.1)).2
      inferInstanceAs (Decidable (P v call ∧
        AllMeet P calls (perform call.2 (v.enter call.1)).2))

/-- Calls that the firmware refuses nothing. -/
def untroubled (calls : List Call) : List (Environment × Call) := calls.map (Environment.good, ·)

section AllMeet

variable {P Q : Volume → Environment × Call → Prop} {v : Volume}

lemma AllMeet.run {calls : List (Environment × Call)} (h : AllMeet P calls v) :
    (driver.restrict P).Run v calls (runCalls calls v) := by
  induction calls generalizing v with
  | nil => exact .nil v
  | cons call calls ih => exact .cons ⟨h.1, rfl⟩ (ih h.2)

lemma AllMeet.imp {calls : List Call} (h : AllMeet P (untroubled calls) v)
    (himp : ∀ v call, P v (.good, call) → Q v (.good, call)) :
    AllMeet Q (untroubled calls) v := by
  induction calls generalizing v with
  | nil => trivial
  | cons call calls ih => exact ⟨himp v call h.1, ih h.2⟩

end AllMeet

/-- The volume with the media as it is and the list of files gone. -/
def Volume.unmounted (v : Volume) (env : Environment) : Volume :=
  { v with
    services := { v.services with env := env, requests := 0 }
    files := []
    initialized := false
    nextHandle := 0 }

/-! ## Lists of files -/

/-- The files have distinct handles. -/
def Distinct (files : List File) : Prop := (files.map (·.handle)).Nodup

variable {files pre post : List File} {f f' g : File} {handle : ℕ}

lemma lookup_some (h : lookup handle files = some f) : f ∈ files ∧ f.handle = handle :=
  ⟨List.mem_of_find?_eq_some h, by simpa using List.find?_some h⟩

lemma Distinct.eq_of_handle (h : Distinct files) (hf : f ∈ files) (hg : g ∈ files)
    (heq : f.handle = g.handle) : f = g :=
  List.inj_on_of_nodup_map h hf hg heq

lemma Distinct.lookup (h : Distinct files) (hf : f ∈ files) : lookup f.handle files = some f := by
  obtain ⟨g, hg⟩ : ∃ g, BootMonFs.lookup f.handle files = some g := by
    rw [BootMonFs.lookup, ← Option.isSome_iff_exists, List.find?_isSome]
    exact ⟨f, hf, by simp⟩
  obtain ⟨hmem, hhandle⟩ := lookup_some hg
  rw [hg, h.eq_of_handle hmem hf hhandle]

/-- The files around one of a list with distinct handles have other handles. -/
lemma Distinct.ne_of_split (h : Distinct (pre ++ f :: post)) :
    (∀ g ∈ pre, g.handle ≠ f.handle) ∧ ∀ g ∈ post, g.handle ≠ f.handle := by
  rw [Distinct, List.map_append, List.map_cons, List.nodup_append] at h
  obtain ⟨-, hpost, hne⟩ := h
  constructor
  · intro g hg
    exact hne _ (List.mem_map_of_mem hg) _ List.mem_cons_self
  · intro g hg heq
    exact (List.nodup_cons.mp hpost).1 (heq ▸ List.mem_map_of_mem hg)

lemma Distinct.replace (h : Distinct (pre ++ f :: post)) (hhandle : f'.handle = f.handle) :
    Distinct (pre ++ f' :: post) := by
  simpa [Distinct, hhandle] using h

lemma update_eq_self (h : ∀ g ∈ files, g.handle ≠ f.handle) : update f files = files := by
  rw [update]
  conv_rhs => rw [← List.map_id files]
  exact List.map_congr_left fun g hg => if_neg (h g hg)

lemma update_split (h : Distinct (pre ++ f :: post)) (hhandle : f'.handle = f.handle) :
    update f' (pre ++ f :: post) = pre ++ f' :: post := by
  obtain ⟨hpre, hpost⟩ := h.ne_of_split
  have hupdate : update f' (pre ++ f :: post) = update f' pre ++ f' :: update f' post := by
    simp [update, hhandle]
  rw [hupdate, update_eq_self (by rw [hhandle]; exact hpre),
    update_eq_self (by rw [hhandle]; exact hpost)]

lemma lookup_update (hlookup : lookup handle files = some f) (hhandle : f'.handle = handle) :
    lookup handle (update f' files) = some f' := by
  induction files with
  | nil => cases hlookup
  | cons g files ih =>
      rw [lookup, List.find?_cons] at hlookup
      rw [update, List.map_cons, lookup, List.find?_cons]
      by_cases hg : g.handle = handle
      · rw [if_pos (hg.trans hhandle.symm), decide_eq_true hhandle]
      · rw [if_neg (fun h => hg (h.trans hhandle)), decide_eq_false hg]
        rw [decide_eq_false hg] at hlookup
        exact ih hlookup

lemma mem_update (hmem : g ∈ update f files) : g = f ∨ g ∈ files := by
  obtain ⟨g₀, hg₀, heq⟩ := List.mem_map.mp hmem
  by_cases h : g₀.handle = f.handle
  · rw [if_pos h] at heq
    exact .inl heq.symm
  · rw [if_neg h] at heq
    exact .inr (heq ▸ hg₀)

lemma filter_handle_ne (h : ∀ g ∈ files, g.handle ≠ handle) :
    files.filter (fun g => g.handle ≠ handle) = files :=
  List.filter_eq_self.mpr fun g hg => decide_eq_true (h g hg)

lemma filter_split (h : Distinct (pre ++ f :: post)) :
    (pre ++ f :: post).filter (fun g => g.handle ≠ f.handle) = pre ++ post := by
  obtain ⟨hpre, hpost⟩ := h.ne_of_split
  rw [List.filter_append, filter_handle_ne hpre, List.filter_cons_of_neg (by simp),
    filter_handle_ne hpost]

lemma insertBefore_split (h : ∀ g ∈ pre, g.handle ≠ f'.handle) :
    insertBefore f f'.handle (pre ++ f' :: post) = pre ++ f :: f' :: post := by
  induction pre with
  | nil => rw [List.nil_append, insertBefore, if_pos rfl, List.nil_append]
  | cons g pre ih =>
      rw [List.cons_append, insertBefore, if_neg (h g List.mem_cons_self),
        ih fun k hk => h k (List.mem_cons_of_mem _ hk), List.cons_append]

end BootMonFs

end MuPlatform
