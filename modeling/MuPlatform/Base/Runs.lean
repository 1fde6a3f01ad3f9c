import Mathlib.Data.List.Basic

/-!
# Runs of a transition system

A transition system has initial states and labelled steps.  `Run` strings steps together and
remembers their labels, and `Reachable` is what a run from an initial state leads to.

* `Reachable.invariant`: what holds initially and is kept by every step holds in every
  reachable state.
* `restrict`: the system whose steps are the steps that meet a condition.  A statement about
  every run whose steps all meet it is a statement about the runs of the restriction.
* `Run.unique`: in a system that is `Deterministic`, a start has one run that cannot go on.
* `Run.simulation`: a relation that single steps keep matches the runs of one system with runs
  of another, label by label.
-/

namespace MuPlatform

/-- A transition system over states `σ` with step labels `ι`. -/
structure System (σ ι : Type*) where
  Init : σ → Prop
  Step : σ → ι → σ → Prop

namespace System

variable {σ τ ι : Type*} {T : System σ ι}

/-- A sequence of steps, with the list of their labels. -/
inductive Run (T : System σ ι) : σ → List ι → σ → Prop
  | nil (s : σ) : Run T s [] s
  | cons {s t u : σ} {i : ι} {is : List ι} (hstep : T.Step s i t) (hrun : Run T t is u) :
      Run T s (i :: is) u

/-- The states a run from an initial state leads to. -/
def Reachable (T : System σ ι) (s : σ) : Prop := ∃ s₀ is, T.Init s₀ ∧ T.Run s₀ is s

lemma Run.append {s t u : σ} {is js : List ι} (h : T.Run s is t) (h' : T.Run t js u) :
    T.Run s (is ++ js) u := by
  induction h with
  | nil s => exact h'
  | cons hstep _ ih => exact .cons hstep (ih h')

/-- What every step keeps, every run keeps. -/
lemma Run.invariant {P : σ → Prop} (hstep : ∀ s i t, P s → T.Step s i t → P t)
    {s t : σ} {is : List ι} (h : T.Run s is t) (hs : P s) : P t := by
  induction h with
  | nil s => exact hs
  | cons h _ ih => exact ih (hstep _ _ _ hs h)

/-- Every state has at most one step. -/
def Deterministic (T : System σ ι) : Prop :=
  ∀ s i t j u, T.Step s i t → T.Step s j u → i = j ∧ t = u

/-- A run that cannot go on continues every other run from its start. -/
lemma Run.continues (hdet : T.Deterministic) {s t u : σ} {is js : List ι} (h : T.Run s is t)
    (h' : T.Run s js u) (hend : ∀ i v, ¬ T.Step u i v) : ∃ ks, js = is ++ ks ∧ T.Run t ks u := by
  induction h generalizing js with
  | nil s => exact ⟨js, rfl, h'⟩
  | cons hstep _ ih =>
      cases h' with
      | nil => exact absurd hstep (hend _ _)
      | cons hstep' hrun' =>
          obtain ⟨rfl, rfl⟩ := hdet _ _ _ _ _ hstep hstep'
          obtain ⟨ks, rfl, hrest⟩ := ih hrun'
          exact ⟨ks, rfl, hrest⟩

/-- Two runs from one start that cannot go on are the same. -/
lemma Run.unique (hdet : T.Deterministic) {s t u : σ} {is js : List ι} (h : T.Run s is t)
    (h' : T.Run s js u) (hend : ∀ i v, ¬ T.Step t i v) (hend' : ∀ i v, ¬ T.Step u i v) :
    is = js ∧ t = u := by
  obtain ⟨ks, rfl, hrest⟩ := h.continues hdet h' hend'
  cases hrest with
  | nil => exact ⟨(List.append_nil _).symm, rfl⟩
  | cons hstep => exact absurd hstep (hend _ _)

lemma Reachable.init {s : σ} (h : T.Init s) : T.Reachable s := ⟨s, [], h, .nil s⟩

lemma Reachable.step {s t : σ} {i : ι} (h : T.Reachable s) (hstep : T.Step s i t) :
    T.Reachable t := by
  obtain ⟨s₀, is, hinit, hrun⟩ := h
  exact ⟨s₀, is ++ [i], hinit, hrun.append (.cons hstep (.nil t))⟩

/-- What holds initially and is kept by every step holds in every reachable state. -/
theorem Reachable.invariant {P : σ → Prop} (hinit : ∀ s, T.Init s → P s)
    (hstep : ∀ s i t, P s → T.Step s i t → P t) {s : σ} (h : T.Reachable s) : P s := by
  obtain ⟨s₀, is, hs₀, hrun⟩ := h
  exact hrun.invariant hstep (hinit s₀ hs₀)

/-- Where every step with a label in `C` is matched from related states, so is every run with
such labels. -/
theorem Run.simulation {U : System τ ι} {R : σ → τ → Prop} {C : ι → Prop}
    (hstep : ∀ s i s' t, R s t → C i → T.Step s i s' → ∃ t', U.Step t i t' ∧ R s' t')
    {s s' : σ} {is : List ι} (h : T.Run s is s') (hC : ∀ i ∈ is, C i) {t : τ} (hR : R s t) :
    ∃ t', U.Run t is t' ∧ R s' t' := by
  induction h generalizing t with
  | nil s => exact ⟨t, .nil t, hR⟩
  | cons hs _ ih =>
      obtain ⟨t', hU, hR'⟩ := hstep _ _ _ _ hR (hC _ List.mem_cons_self) hs
      obtain ⟨t'', hrun, hR''⟩ := ih (fun i hi => hC i (List.mem_cons_of_mem _ hi)) hR'
      exact ⟨t'', .cons hU hrun, hR''⟩

/-- The system whose steps are the steps that meet `C`. -/
def restrict (T : System σ ι) (C : σ → ι → Prop) : System σ ι where
  Init := T.Init
  Step s i t := C s i ∧ T.Step s i t

/-- Where one condition on a step gives another in the states an invariant `P` allows, so it is
for the runs. -/
lemma Run.restrict_mono {C D : σ → ι → Prop} {P : σ → Prop}
    (hstep : ∀ s i t, P s → T.Step s i t → P t) (hCD : ∀ s i, P s → C s i → D s i) {s t : σ}
    {is : List ι} (h : (T.restrict C).Run s is t) (hs : P s) : (T.restrict D).Run s is t := by
  induction h with
  | nil s => exact .nil s
  | cons hfirst _ ih =>
      obtain ⟨hC, hT⟩ := hfirst
      exact .cons ⟨hCD _ _ hs hC, hT⟩ (ih (hstep _ _ _ hs hT))

end System

end MuPlatform
