import Mathlib.Data.List.TakeWhile
import MuPlatform.AuthVar.Variables
import MuPlatform.FdtPlatform.Install

/-!
# The sources of the device tree

`RunFdtInstallation` (`FdtPlatform.c`) tries the path in the `Fdt` variable, where the platform may
be overridden, and then the paths of `PcdFdtDevicePaths` from left to right, until one of them is
installed.

`FdtEnvironment.sources` lists what a run has to choose from, and `Tried` says how far it gets.  A
run is over after a round for each path (`installSegments_returns`).  Its outcome is that of the
first source that works (`RunEnds`), and what is left behind are the images that the tried sources
strand: `installsFirst_iff`.
-/

namespace MuPlatform
namespace FdtPlatform

open AuthVar (Char16String)

/-! ## The run -/

/-- How the firmware answers the requests of a run. -/
structure FdtEnvironment where
  overridePlatformFdt : Bool
  /-- The `GetVariable` that asks for the size of the `Fdt` variable. -/
  variableSize : EfiStatus
  /-- The `GetVariable` that reads it. -/
  getVariable : Except EfiError (List UInt16)
  fdtDevicePaths : Char16String
  /-- The attempt with the variable, and those with the paths of `PcdFdtDevicePaths`. -/
  attempt : Option ℕ → FdtAttempt

/-- Where a run is left: `TextDevicePath` is the pool and its text, where it is not freed. -/
structure FdtRun where
  status : EfiStatus
  textDevicePath : Option (ℕ × List UInt16)
  state : FdtState

/-- `L';'`. -/
def semicolon : UInt16 := 0x3B

/-- The attempt with a text, which is freed if it fails. -/
def tryText (a : FdtAttempt) (pool : ℕ) (text : List UInt16) (s : FdtState) : FdtRun :=
  let (status, s) := installFdt a s
  if status.isError then ⟨status, none, s.log [.released (.pool pool)]⟩
  else ⟨status, some (pool, text), s⟩

section Model

variable (env : FdtEnvironment)

/-- The part of `RunFdtInstallation` about the `Fdt` variable, which ends the run or leaves the
state to the loop. -/
def installVariable (s : FdtState) : FdtRun ⊕ FdtState :=
  if env.overridePlatformFdt && decide (env.variableSize = .bufferTooSmall) then
    match (env.attempt none).allocateText with
    | none => .inl ⟨.outOfResources, none, s⟩
    | some pool =>
      let s := s.log [.granted (.pool pool)]
      match env.getVariable with
      | .error status => .inl ⟨status.val, none, s.log [.released (.pool pool)]⟩
      | .ok text =>
        let r := tryText (env.attempt none) pool text s
        if r.status.isError then .inr r.state else .inl r
  else .inr s

/-- The loop of `RunFdtInstallation` over the paths from `TextDevicePathStart` on, the first of
which is number `k`. -/
def installSegments : ℕ → ℕ → List UInt16 → EfiStatus → FdtState → Option FdtRun
  | 0, _, _, _, _ => none
  | rounds + 1, k, textDevicePathStart, status, s =>
    if textDevicePathStart = [] then some ⟨status, none, s⟩
    else
      match (env.attempt (some k)).allocateText with
      | none => some ⟨.outOfResources, none, s⟩
      | some pool =>
        let r := tryText (env.attempt (some k)) pool
          (textDevicePathStart.takeWhile (· != semicolon)) (s.log [.granted (.pool pool)])
        if r.status.isError = false then some r
        else
          match textDevicePathStart.dropWhile (· != semicolon) with
          | [] => some r
          | _ :: next => installSegments rounds (k + 1) next r.status r.state

/-- The part of `RunFdtInstallation` behind the label `Done`. -/
def finishInstallation (successfullDevicePath : Bool) (r : FdtRun) : FdtRun :=
  match r.textDevicePath with
  | some (pool, _) =>
      if r.status.isError || successfullDevicePath then r
      else ⟨r.status, none, r.state.log [.released (.pool pool)]⟩
  | none => r

/-- `RunFdtInstallation`, with or without an address for the path. -/
def runFdtInstallation (successfullDevicePath : Bool) (rounds : ℕ) (s : FdtState) :
    Option FdtRun :=
  match installVariable env s with
  | .inl r => some (finishInstallation successfullDevicePath r)
  | .inr s =>
      (installSegments env rounds 0 env.fdtDevicePaths.chars .notFound s).map
        (finishInstallation successfullDevicePath)

/-- The part of `ShellDynCmdSetFdtHandler` for the flag `-i`. -/
def shellInstallFdt (rounds : ℕ) (s : FdtState) : Option FdtRun :=
  (runFdtInstallation env true rounds s).map (finishInstallation false)

end Model

/-! ## The sources -/

/-- A source of the device tree, with its text where this is obtained. -/
structure FdtSource where
  attempt : FdtAttempt
  text : Option (ℕ × List UInt16)

/-- A file of the source is installed. -/
def FdtSource.Works (source : FdtSource) : Prop := ∃ file table, source.attempt.Works file table

/-- The paths of a list.  Behind the last separator there need not be one. -/
def segments (paths : List UInt16) : List (List UInt16) :=
  if (paths.splitOn semicolon).getLast? = some [] then (paths.splitOn semicolon).dropLast
  else paths.splitOn semicolon

section Sources

variable (env : FdtEnvironment)

/-- The path number `k` as a source. -/
def FdtEnvironment.pathSource (k : ℕ) (text : List UInt16) : FdtSource :=
  ⟨env.attempt (some k), (env.attempt (some k)).allocateText.map fun pool => (pool, text)⟩

/-- The sources from number `k` on. -/
def FdtEnvironment.numbered (k : ℕ) : List (List UInt16) → List FdtSource
  | [] => []
  | text :: texts => env.pathSource k text :: numbered (k + 1) texts

/-- The text in the variable. -/
def FdtEnvironment.variableText : Option (ℕ × List UInt16) :=
  match (env.attempt none).allocateText, env.getVariable with
  | some pool, .ok text => some (pool, text)
  | _, _ => none

/-- The variable, where it is there, and the paths from left to right. -/
def FdtEnvironment.sources : List FdtSource :=
  (if env.overridePlatformFdt && decide (env.variableSize = .bufferTooSmall) then
    [⟨env.attempt none, env.variableText⟩] else []) ++
      env.numbered 0 (segments env.fdtDevicePaths.chars)

/-- A run gets to a source: the text of each up to it is obtained, and none before it works. -/
def Tried : List FdtSource → FdtSource → Prop
  | [], _ => False
  | source :: sources, tried =>
      source.text.isSome = true ∧ (tried = source ∨ ¬ source.Works ∧ Tried sources tried)

/-- The outcome of a run.  A success has installed a copy of the file of the first source that
works, and the text is that of the source; nothing else is left allocated. -/
structure FdtInstalled (successfullDevicePath : Bool) (r : FdtRun) : Prop where
  success : r.status = .success → ∃ before source after pool text file table,
    env.sources = before ++ source :: after ∧ (∀ earlier ∈ before, ¬ earlier.Works) ∧
    source.text = some (pool, text) ∧ source.attempt.Works file table ∧
    r.state.table = some table ∧ r.state.mem.read table file.length = file ∧
    (successfullDevicePath = true → r.textDevicePath = some (pool, text)) ∧
    Ledger.Leaves 0 r.state.ledger (pagesOf ⟨table, efiSizeToPages file.length⟩ +
      if successfullDevicePath then {.pool pool} else 0)
  otherwise : r.status ≠ .success → r.status.isError = true ∧ Ledger.Leaves 0 r.state.ledger 0

/-- A run is over, with such an outcome. -/
def InstallsFirst (successfullDevicePath : Bool) (mem : ByteStore) (table : Option ℕ) : Prop :=
  ∃ rounds r, runFdtInstallation env successfullDevicePath rounds ⟨mem, table, []⟩ = some r ∧
    FdtInstalled env successfullDevicePath r

end Sources

/-! ## Splitting the list of paths -/

section Segments

variable {paths text rest : List UInt16}

lemma segments_single (hne : paths ≠ []) (h : semicolon ∉ paths) : segments paths = [paths] := by
  rw [segments, List.splitOn_eq_singleton h]
  exact if_neg (by simpa using hne)

lemma segments_cons (h : semicolon ∉ text) :
    segments (text ++ semicolon :: rest) = text :: segments rest := by
  have hsplit := List.splitOn_ne_nil semicolon rest
  have hlast : (text :: rest.splitOn semicolon).getLast? = (rest.splitOn semicolon).getLast? := by
    rw [List.getLast?_cons_of_ne_nil hsplit]
  unfold segments
  rw [List.splitOn_append_cons_self_of_not_mem h, hlast, List.dropLast_cons_of_ne_nil hsplit]
  split <;> rfl

/-- `StrStr` finds the separator behind the first path, or there is none. -/
lemma segments_step (hne : paths ≠ []) :
    paths.dropWhile (· != semicolon) = [] ∧
        segments paths = [paths.takeWhile (· != semicolon)] ∨
      ∃ rest, paths.dropWhile (· != semicolon) = semicolon :: rest ∧
        rest.length < paths.length ∧
        segments paths = paths.takeWhile (· != semicolon) :: segments rest := by
  have hnotin : semicolon ∉ paths.takeWhile (· != semicolon) :=
    fun hmem => by simpa using List.mem_takeWhile_imp hmem
  have happend := List.takeWhile_append_dropWhile (p := (· != semicolon)) (l := paths)
  cases hdrop : paths.dropWhile (· != semicolon) with
  | nil =>
      rw [hdrop, List.append_nil] at happend
      rw [happend] at hnotin ⊢
      exact .inl ⟨rfl, segments_single hne hnotin⟩
  | cons c rest =>
      have hc := List.head?_dropWhile_not (· != semicolon) paths
      rw [hdrop] at hc happend
      obtain rfl : c = semicolon := by simpa using hc
      refine .inr ⟨rest, rfl, ?_, ?_⟩
      · rw [← happend, List.length_append, List.length_cons]
        omega
      · conv_lhs => rw [← happend]
        exact segments_cons hnotin

end Segments

/-! ## The loop -/

section Runs

variable {env : FdtEnvironment} {a : FdtAttempt} {s t : FdtState} {r : FdtRun}
  {source : FdtSource} {sources : List FdtSource} {held stranded : Multiset FdtResource}
  {pool rounds k : ℕ} {text start : List UInt16} {status : EfiStatus}
  {successfullDevicePath : Bool}

/-- Where the sources are left: at the first that works, with its text, or at an error; the images
`stranded` are left over. -/
structure RunEnds (sources : List FdtSource) (held stranded : Multiset FdtResource)
    (r : FdtRun) : Prop where
  success : r.status = .success → ∃ before source after pool text file table,
    sources = before ++ source :: after ∧ (∀ earlier ∈ before, ¬ earlier.Works) ∧
    source.text = some (pool, text) ∧ source.attempt.Works file table ∧
    r.state.table = some table ∧ r.state.mem.read table file.length = file ∧
    r.textDevicePath = some (pool, text) ∧
    Ledger.Leaves 0 r.state.ledger
      (.pool pool ::ₘ (held + stranded + pagesOf ⟨table, efiSizeToPages file.length⟩))
  otherwise : r.status ≠ .success → r.status.isError = true ∧ r.textDevicePath = none ∧
    Ledger.Leaves 0 r.state.ledger (held + stranded)

lemma RunEnds.of_error (herror : r.status.isError = true) (hpath : r.textDevicePath = none)
    (hleaves : Ledger.Leaves 0 r.state.ledger (held + stranded)) :
    RunEnds sources held stranded r :=
  ⟨fun h => absurd h (EfiStatus.ne_success_of_isError herror), fun _ => ⟨herror, hpath, hleaves⟩⟩

/-- A source that does not work comes before. -/
lemma RunEnds.cons (hworks : ¬ source.Works)
    (h : RunEnds sources (held + source.attempt.stranded) stranded r) :
    RunEnds (source :: sources) held (source.attempt.stranded + stranded) r := by
  refine ⟨fun hsuccess => ?_, fun hne => ?_⟩
  · obtain ⟨before, found, after, pool, text, file, table, rfl, hbefore, htext, hfound, htable,
      hread, hpath, hleaves⟩ := h.success hsuccess
    refine ⟨source :: before, found, after, pool, text, file, table, rfl, ?_, htext, hfound,
      htable, hread, hpath, ?_⟩
    · intro earlier hmem
      rcases List.mem_cons.mp hmem with rfl | hmem
      · exact hworks
      · exact hbefore earlier hmem
    · rw [← add_assoc]
      exact hleaves
  · obtain ⟨herror, hpath, hleaves⟩ := h.otherwise hne
    refine ⟨herror, hpath, ?_⟩
    rw [← add_assoc]
    exact hleaves

/-- The attempt with a text that was just allocated ends the run, or fails. -/
lemma tryText_ends (sources : List FdtSource) (hledger : Ledger.Leaves 0 s.ledger held)
    (hattempt : source.attempt = a) (htext : source.text = some (pool, text))
    (hr : tryText a pool text (s.log [.granted (.pool pool)]) = r) :
    (r.status.isError = false ∧ source.Works ∧
      RunEnds (source :: sources) held source.attempt.stranded r) ∨
    (r.status.isError = true ∧ r.textDevicePath = none ∧ ¬ source.Works ∧
      Ledger.Leaves 0 r.state.ledger (held + source.attempt.stranded)) := by
  subst hattempt
  have hgranted : Ledger.Leaves 0 (s.log [.granted (.pool pool)]).ledger (.pool pool ::ₘ held) :=
    hledger.append .grant
  have hinstalled := @installFdt_installed source.attempt _ _ hgranted
  rw [tryText] at hr
  generalize installFdt source.attempt (s.log [.granted (.pool pool)]) = outcome at hinstalled hr
  obtain ⟨status, t⟩ := outcome
  by_cases hsuccess : status = .success
  · subst hsuccess
    obtain ⟨file, table, hworks, htable, hread, hleaves⟩ := hinstalled.success rfl
    subst hr
    refine .inl ⟨rfl, ⟨file, table, hworks⟩, fun _ => ?_, fun hne => absurd rfl hne⟩
    refine ⟨[], source, sources, pool, text, file, table, rfl, by simp, htext, hworks, htable,
      hread, rfl, ?_⟩
    rw [← Multiset.cons_add, ← Multiset.cons_add]
    exact hleaves
  · obtain ⟨herror, hworks, hleaves⟩ := hinstalled.otherwise hsuccess
    simp only at herror hr
    rw [if_pos herror] at hr
    subst hr
    refine .inr ⟨herror, rfl, hworks, hleaves.append ?_⟩
    rw [Multiset.cons_add]
    exact .release

/-- What the tried sources strand, for a run that ends. -/
def Strands (sources : List FdtSource) (stranded : Multiset FdtResource) : Prop :=
  stranded = 0 ↔ ∀ tried, Tried sources tried → ¬ tried.attempt.StrandsImage

lemma strands_nil : Strands [] 0 := by simp [Strands, Tried]

lemma strands_of_text (h : source.text = none) : Strands (source :: sources) 0 := by
  simp [Strands, Tried, h]

lemma strands_of_works (htext : source.text = some (pool, text)) (h : source.Works) :
    Strands (source :: sources) source.attempt.stranded := by
  simp [Strands, Tried, htext, h, FdtAttempt.stranded_eq_zero]

lemma Strands.cons (htext : source.text = some (pool, text)) (h : ¬ source.Works)
    (hrest : Strands sources stranded) :
    Strands (source :: sources) (source.attempt.stranded + stranded) := by
  have hsum : source.attempt.stranded + stranded = 0 ↔
      source.attempt.stranded = 0 ∧ stranded = 0 := by
    simp [← Multiset.card_eq_zero]
  rw [Strands, hsum, FdtAttempt.stranded_eq_zero, show stranded = 0 ↔ _ from hrest]
  simp only [Tried, htext, h, Option.isSome_some, not_false_eq_true, true_and]
  exact ⟨fun hall tried => Or.rec (fun heq => heq ▸ hall.1) (hall.2 tried),
    fun hall => ⟨hall source (.inl rfl), fun tried hmem => hall tried (.inr hmem)⟩⟩

/-- The sources of the paths that are left. -/
lemma numbered_step (hne : start ≠ []) :
    ∃ others, env.numbered k (segments start) =
        env.pathSource k (start.takeWhile (· != semicolon)) :: others ∧
      (start.dropWhile (· != semicolon) = [] ∧ others = [] ∨
        ∃ next, start.dropWhile (· != semicolon) = semicolon :: next ∧
          next.length < start.length ∧ others = env.numbered (k + 1) (segments next)) := by
  rcases segments_step hne with ⟨hdrop, hsegments⟩ | ⟨next, hdrop, hshort, hsegments⟩
  · rw [hsegments]
    exact ⟨_, rfl, .inl ⟨hdrop, rfl⟩⟩
  · rw [hsegments]
    exact ⟨_, rfl, .inr ⟨next, hdrop, hshort, rfl⟩⟩

/-- The loop, by its rounds. -/
lemma installSegments_ends (hledger : Ledger.Leaves 0 s.ledger held)
    (herror : status.isError = true)
    (hrun : installSegments env rounds k start status s = some r) :
    ∃ stranded, Strands (env.numbered k (segments start)) stranded ∧
      RunEnds (env.numbered k (segments start)) held stranded r := by
  induction rounds generalizing k start status s held with
  | zero => cases hrun
  | succ rounds ih =>
      rw [installSegments] at hrun
      split at hrun
      · next hnil =>
        subst hnil
        obtain rfl := Option.some.inj hrun
        exact ⟨0, strands_nil, .of_error herror rfl (by simpa using hledger)⟩
      · next hne =>
        obtain ⟨others, hfirst, hnext⟩ := @numbered_step env k start hne
        rw [hfirst]
        split at hrun
        · next hpool =>
          obtain rfl := Option.some.inj hrun
          refine ⟨0, strands_of_text ?_, .of_error rfl rfl (by simpa using hledger)⟩
          rw [FdtEnvironment.pathSource, hpool, Option.map_none]
        · next pool hpool =>
          have htext : (env.pathSource k (start.takeWhile (· != semicolon))).text =
              some (pool, start.takeWhile (· != semicolon)) := by
            rw [FdtEnvironment.pathSource, hpool, Option.map_some]
          simp only at hrun
          rcases tryText_ends (a := env.attempt (some k)) others hledger rfl htext rfl with
            ⟨hok, hworks, hends⟩ | ⟨hbad, hpath, hworks, hleaves⟩
          · rw [if_pos hok] at hrun
            obtain rfl := Option.some.inj hrun
            exact ⟨_, strands_of_works htext hworks, hends⟩
          · rw [if_neg (by simpa using hbad)] at hrun
            rcases hnext with ⟨hdrop, rfl⟩ | ⟨next, hdrop, -, rfl⟩
            · rw [hdrop] at hrun
              obtain rfl := Option.some.inj hrun
              have hends : RunEnds [] _ 0 _ := .of_error hbad hpath (by simpa using hleaves)
              exact ⟨_, strands_nil.cons htext hworks, hends.cons hworks⟩
            · rw [hdrop] at hrun
              obtain ⟨stranded, hstrands, hends⟩ := ih hleaves hbad hrun
              exact ⟨_, hstrands.cons htext hworks, hends.cons hworks⟩

/-- A round takes a path off the list. -/
lemma installSegments_returns (h : start.length < rounds) :
    (installSegments env rounds k start status s).isSome := by
  induction rounds generalizing k start status s with
  | zero => omega
  | succ rounds ih =>
      rw [installSegments]
      split
      · rfl
      · next hne =>
        split
        · rfl
        · simp only
          split
          · rfl
          · obtain ⟨others, -, ⟨hdrop, -⟩ | ⟨next, hdrop, hshort, -⟩⟩ :=
              @numbered_step env k start hne
            · rw [hdrop]
              rfl
            · rw [hdrop]
              exact ih (by omega)

/-- The variable comes before the loop. -/
lemma runFdtInstallation_ends (hledger : s.ledger = [])
    (hrun : runFdtInstallation env successfullDevicePath rounds s = some r) :
    ∃ stranded r₀, Strands env.sources stranded ∧ RunEnds env.sources 0 stranded r₀ ∧
      finishInstallation successfullDevicePath r₀ = r := by
  have hnone : Ledger.Leaves 0 s.ledger 0 := by
    rw [hledger]
    rfl
  rw [runFdtInstallation] at hrun
  unfold installVariable at hrun
  unfold FdtEnvironment.sources
  by_cases hvariable :
      (env.overridePlatformFdt && decide (env.variableSize = .bufferTooSmall)) = true
  · rw [if_pos hvariable] at hrun ⊢
    rw [List.singleton_append]
    cases hpool : (env.attempt none).allocateText with
    | none =>
        rw [hpool] at hrun
        obtain rfl := Option.some.inj hrun
        refine ⟨0, _, strands_of_text ?_, .of_error rfl rfl (by simpa using hnone), rfl⟩
        rw [FdtEnvironment.variableText, hpool]
    | some pool =>
        rw [hpool] at hrun
        cases htext : env.getVariable with
        | error status =>
            rw [htext] at hrun
            obtain rfl := Option.some.inj hrun
            refine ⟨0, _, strands_of_text ?_, .of_error status.property rfl ?_, rfl⟩
            · rw [FdtEnvironment.variableText, hpool, htext]
            · exact (hnone.append .grant).append .release
        | ok text =>
            simp only [htext] at hrun
            have hsource : env.variableText = some (pool, text) := by
              rw [FdtEnvironment.variableText, hpool, htext]
            have hattempt : FdtSource.attempt ⟨_, env.variableText⟩ = env.attempt none := rfl
            rcases tryText_ends (env.numbered 0 (segments env.fdtDevicePaths.chars)) hnone
              hattempt hsource rfl with
              ⟨hok, hworks, hends⟩ | ⟨hbad, hpath, hworks, hleaves⟩
            · rw [hok] at hrun
              exact ⟨_, _, strands_of_works hsource hworks, hends, Option.some.inj hrun⟩
            · rw [if_pos hbad] at hrun
              obtain ⟨r₀, hloop, rfl⟩ := Option.map_eq_some_iff.mp hrun
              obtain ⟨stranded, hstrands, hends⟩ := installSegments_ends hleaves rfl hloop
              exact ⟨_, r₀, hstrands.cons hsource hworks, hends.cons hworks, rfl⟩
  · rw [if_neg hvariable] at hrun ⊢
    obtain ⟨r₀, hloop, rfl⟩ := Option.map_eq_some_iff.mp hrun
    obtain ⟨stranded, hstrands, hends⟩ := installSegments_ends hnone rfl hloop
    exact ⟨stranded, r₀, hstrands, hends, rfl⟩

lemma runFdtInstallation_returns (h : env.fdtDevicePaths.chars.length < rounds) :
    (runFdtInstallation env successfullDevicePath rounds s).isSome := by
  rw [runFdtInstallation]
  split
  · rfl
  · rw [Option.isSome_map]
    exact installSegments_returns h

/-- The first of a list to have a property is determined. -/
lemma first_unique {α : Type*} {p : α → Prop} {before before' after after' : List α} {x x' : α}
    (heq : before ++ x :: after = before' ++ x' :: after') (hbefore : ∀ y ∈ before, ¬ p y)
    (hbefore' : ∀ y ∈ before', ¬ p y) (hx : p x) (hx' : p x') : x = x' := by
  induction before generalizing before' with
  | nil =>
      cases before' with
      | nil => exact (List.cons.inj heq).1
      | cons y before' =>
          obtain rfl := (List.cons.inj heq).1
          exact absurd hx (hbefore' x List.mem_cons_self)
  | cons y before ih =>
      cases before' with
      | nil =>
          obtain rfl := (List.cons.inj heq).1
          exact absurd hx' (hbefore y List.mem_cons_self)
      | cons y' before' =>
          exact ih (List.cons.inj heq).2 (fun z hz => hbefore z (List.mem_cons_of_mem y hz))
            fun z hz => hbefore' z (List.mem_cons_of_mem y' hz)

/-- Behind the label `Done` the text is handed over or freed. -/
lemma finishInstallation_success {text : List UInt16} {kept : Multiset FdtResource}
    (hstatus : r.status = .success) (hpath : r.textDevicePath = some (pool, text))
    (hleaves : Ledger.Leaves 0 r.state.ledger (.pool pool ::ₘ kept)) :
    (finishInstallation successfullDevicePath r).status = .success ∧
    (finishInstallation successfullDevicePath r).state.table = r.state.table ∧
    (finishInstallation successfullDevicePath r).state.mem = r.state.mem ∧
    (successfullDevicePath = true →
      (finishInstallation successfullDevicePath r).textDevicePath = some (pool, text)) ∧
    Ledger.Leaves 0 (finishInstallation successfullDevicePath r).state.ledger
      (kept + if successfullDevicePath then {.pool pool} else 0) := by
  rw [finishInstallation, hpath, hstatus]
  cases successfullDevicePath with
  | true =>
      refine ⟨hstatus, rfl, rfl, fun _ => hpath, ?_⟩
      rw [if_pos rfl, add_comm, Multiset.singleton_add]
      exact hleaves
  | false =>
      refine ⟨rfl, rfl, rfl, fun h => absurd h Bool.false_ne_true, ?_⟩
      rw [if_neg Bool.false_ne_true, add_zero]
      exact hleaves.append .release

lemma finishInstallation_none (hpath : r.textDevicePath = none) :
    finishInstallation successfullDevicePath r = r := by
  rw [finishInstallation, hpath]

/-- A run has such an outcome where nothing is stranded, and only there. -/
lemma RunEnds.installed_iff (h : RunEnds env.sources 0 stranded r) :
    FdtInstalled env successfullDevicePath (finishInstallation successfullDevicePath r) ↔
      stranded = 0 := by
  by_cases hstatus : r.status = .success
  · obtain ⟨before, source, after, pool, text, file, table, hsources, hbefore, htext, hworks,
      htable, hread, hpath, hleaves⟩ := h.success hstatus
    obtain ⟨hfinished, htable', hmem, htext', hleaves'⟩ :=
      @finishInstallation_success r pool successfullDevicePath text _ hstatus hpath hleaves
    constructor
    · intro hinstalled
      obtain ⟨before', source', after', pool', text', file', table', hsources', hbefore', hfound,
        hworks', -, -, -, hleft⟩ := hinstalled.success hfinished
      obtain rfl : source = source' := first_unique (hsources.symm.trans hsources') hbefore
        hbefore' ⟨file, table, hworks⟩ ⟨file', table', hworks'⟩
      obtain ⟨rfl, rfl⟩ := hworks.unique hworks'
      obtain ⟨rfl, rfl⟩ := Prod.mk.inj (Option.some.inj (htext.symm.trans hfound))
      have hsame := hleaves'.unique hleft
      rw [zero_add] at hsame
      simpa [add_assoc] using hsame
    · rintro rfl
      rw [add_zero, zero_add] at hleaves'
      refine ⟨fun _ => ⟨before, source, after, pool, text, file, table, hsources, hbefore, htext,
        hworks, htable'.trans htable, ?_, htext', hleaves'⟩, fun hne => absurd hfinished hne⟩
      rw [hmem]
      exact hread
  · obtain ⟨herror, hpath, hleaves⟩ := h.otherwise hstatus
    rw [finishInstallation_none hpath]
    rw [zero_add] at hleaves
    refine ⟨fun hinstalled => hleaves.unique (hinstalled.otherwise hstatus).2, ?_⟩
    rintro rfl
    exact ⟨fun hsuccess => absurd hsuccess hstatus, fun _ => ⟨herror, hleaves⟩⟩

lemma InstallsFirst.not_strandsImage {mem : ByteStore} {table : Option ℕ}
    (h : InstallsFirst env successfullDevicePath mem table) (htried : Tried env.sources source) :
    ¬ source.attempt.StrandsImage := by
  obtain ⟨rounds, r, hrun, hinstalled⟩ := h
  obtain ⟨stranded, r₀, hstrands, hends, rfl⟩ := runFdtInstallation_ends rfl hrun
  exact hstrands.mp (hends.installed_iff.mp hinstalled) source htried

/-- A run installs the first source that works and leaves nothing else behind exactly where no
source that it tries is a file, not empty, that is loaded and rejected, or loaded at address
zero. -/
theorem installsFirst_iff {mem : ByteStore} {table : Option ℕ} :
    InstallsFirst env successfullDevicePath mem table ↔
      ∀ source, Tried env.sources source → ¬ source.attempt.StrandsImage := by
  constructor
  · intro h source htried
    exact h.not_strandsImage htried
  · intro hnone
    obtain ⟨r, hrun⟩ := Option.isSome_iff_exists.mp
      (@runFdtInstallation_returns env ⟨mem, table, []⟩ _ successfullDevicePath
        (Nat.lt_succ_self _))
    obtain ⟨stranded, r₀, hstrands, hends, rfl⟩ := runFdtInstallation_ends rfl hrun
    exact ⟨_, _, hrun, hends.installed_iff.mpr (hstrands.mpr hnone)⟩

/-- The handler of the shell command frees the text, so it leaves what a run without an address
for the text does. -/
lemma shellInstallFdt_eq :
    shellInstallFdt env rounds s = runFdtInstallation env false rounds s := by
  have hfinish : finishInstallation false ∘ finishInstallation true = finishInstallation false := by
    funext r
    unfold finishInstallation
    cases hpath : r.textDevicePath with
    | none => simp [hpath]
    | some path => simp [hpath]
  unfold shellInstallFdt runFdtInstallation
  cases installVariable env s with
  | inl r => exact congrArg some (congrFun hfinish r)
  | inr t => rw [Option.map_map, hfinish]

end Runs

/-! ## A corrupt image -/

/-- One path, to a file of five bytes that is not a device tree. -/
def corruptImage : FdtEnvironment where
  overridePlatformFdt := false
  variableSize := .notFound
  getVariable := .error ⟨.notFound, rfl⟩
  fdtDevicePaths := ⟨[0x46], by simp⟩
  attempt _ :=
    { allocateText := some 0x1000
      locateProtocol := .ok ()
      convertTextToDevicePath := some 0x2000
      loadImage := .loaded 0x80000000 [0x68, 0x65, 0x6C, 0x6C, 0x6F]
      fdtCheckHeader := false
      fdtTotalsize := 0
      allocatePages := .ok 0x90000000
      installConfigurationTable := .ok () }

/-- The page of the image is not given back. -/
theorem not_installsFirst_corrupt :
    (runFdtInstallation corruptImage false 2 ⟨fun _ => 0, none, []⟩).map
        (fun r => (r.status, r.state.ledger)) =
      some (.loadError,
        [.granted (.pool 0x1000), .granted (.pool 0x2000), .granted (.pages ⟨0x80000000, 1⟩),
          .released (.pool 0x2000), .released (.pool 0x1000)]) ∧
      ¬ InstallsFirst corruptImage false (fun _ => 0) none := by
  refine ⟨rfl, fun h => ?_⟩
  have htried : Tried corruptImage.sources (corruptImage.pathSource 0 [0x46]) :=
    ⟨rfl, .inl rfl⟩
  exact h.not_strandsImage htried
    ⟨rfl, rfl, 0x80000000, [0x68, 0x65, 0x6C, 0x6C, 0x6F], rfl, by decide, .inr rfl⟩

end FdtPlatform
end MuPlatform
