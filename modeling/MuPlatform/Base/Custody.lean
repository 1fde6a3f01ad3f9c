import Mathlib.Data.List.Perm.Basic
import Mathlib.Logic.Function.Basic

/-!
# Custody

Keys that hold at most one thing each, against the list of the things that are out.
`Custody held live` says that the two agree: every thing that is out has exactly one holder, and
nothing else is held.  It is kept when a key takes something new (`Custody.take`) and when a key
gives back what it holds (`Custody.drop`) or hands it on (`Custody.pass`), and nothing is out once
nobody holds anything (`Custody.live_eq_nil`).
-/

namespace MuPlatform

/-- Everything in `live` is held by exactly one key, and nothing else is held. -/
structure Custody {κ β : Type*} (held : κ → Option β) (live : List β) : Prop where
  nodup : live.Nodup
  mem_iff : ∀ b, b ∈ live ↔ ∃ k, held k = some b
  unique : ∀ k l b, held k = some b → held l = some b → k = l

namespace Custody

variable {κ β : Type*} {held : κ → Option β} {live rest : List β} {k : κ} {b : β}

lemma init : Custody (fun _ : κ => (none : Option β)) [] where
  nodup := .nil
  mem_iff b := by simp
  unique k l b hk := by cases hk

lemma mem (h : Custody held live) (hk : held k = some b) : b ∈ live := (h.mem_iff b).mpr ⟨k, hk⟩

/-- Nothing is out exactly when nobody holds anything. -/
lemma live_eq_nil (h : Custody held live) (hnone : ∀ k, held k = none) : live = [] := by
  refine List.eq_nil_iff_forall_not_mem.mpr fun b hb => ?_
  obtain ⟨k, hk⟩ := (h.mem_iff b).mp hb
  rw [hnone k] at hk
  cases hk

/-- The list of what is out may be reordered. -/
lemma perm (h : Custody held live) (hperm : live.Perm rest) : Custody held rest where
  nodup := hperm.nodup_iff.mp h.nodup
  mem_iff c := by rw [← hperm.mem_iff, h.mem_iff]
  unique := h.unique

variable [DecidableEq κ]

/-- A key that holds nothing takes something new. -/
lemma take (h : Custody held live) (hk : held k = none) (hb : b ∉ live) :
    Custody (Function.update held k (some b)) (b :: live) where
  nodup := List.nodup_cons.mpr ⟨hb, h.nodup⟩
  mem_iff c := by
    rw [List.mem_cons, h.mem_iff]
    constructor
    · rintro (rfl | ⟨l, hl⟩)
      · exact ⟨k, Function.update_self ..⟩
      · have hne : l ≠ k := by
          rintro rfl
          rw [hk] at hl
          cases hl
        exact ⟨l, by rwa [Function.update_of_ne hne]⟩
    · rintro ⟨l, hl⟩
      by_cases hlk : l = k
      · subst hlk
        rw [Function.update_self] at hl
        exact .inl (Option.some.inj hl).symm
      · rw [Function.update_of_ne hlk] at hl
        exact .inr ⟨l, hl⟩
  unique l m c hl hm := by
    have hnew : ∀ n, Function.update held k (some b) n = some b → n = k := by
      intro n hn
      by_contra hnk
      rw [Function.update_of_ne hnk] at hn
      exact hb (h.mem hn)
    have hold : c ≠ b → ∀ n, Function.update held k (some b) n = some c → held n = some c := by
      intro hc n hn
      by_cases hnk : n = k
      · subst hnk
        rw [Function.update_self] at hn
        exact absurd (Option.some.inj hn).symm hc
      · rwa [Function.update_of_ne hnk] at hn
    by_cases hc : c = b
    · subst hc
      exact (hnew l hl).trans (hnew m hm).symm
    · exact h.unique l m c (hold hc l hl) (hold hc m hm)

/-- A key gives back what it holds. -/
lemma drop (h : Custody held live) (hk : held k = some b) (hperm : live.Perm (b :: rest)) :
    Custody (Function.update held k none) rest := by
  obtain ⟨hb, hrest⟩ := List.nodup_cons.mp (hperm.nodup_iff.mp h.nodup)
  have hheld : ∀ l c, Function.update held k none l = some c ↔ l ≠ k ∧ held l = some c := by
    intro l c
    by_cases hlk : l = k
    · subst hlk
      simp
    · simp [hlk]
  refine ⟨hrest, fun c => ?_, fun l m c hl hm => ?_⟩
  · constructor
    · intro hc
      obtain ⟨l, hl⟩ := (h.mem_iff c).mp (hperm.mem_iff.mpr (List.mem_cons_of_mem _ hc))
      refine ⟨l, (hheld l c).mpr ⟨?_, hl⟩⟩
      rintro rfl
      rw [hk] at hl
      exact hb (Option.some.inj hl ▸ hc)
    · rintro ⟨l, hl⟩
      obtain ⟨hlk, hl⟩ := (hheld l c).mp hl
      rcases List.mem_cons.mp (hperm.mem_iff.mp (h.mem hl)) with rfl | hc
      · exact absurd (h.unique _ _ _ hl hk) hlk
      · exact hc
  · exact h.unique l m c ((hheld l c).mp hl).2 ((hheld m c).mp hm).2

/-- A key hands what it holds to one that holds nothing. -/
lemma pass (h : Custody held live) (hk : held k = some b) {l : κ} (hl : held l = none) :
    Custody (Function.update (Function.update held k none) l (some b)) live := by
  classical
  obtain ⟨rest, hperm⟩ : ∃ rest, live.Perm (b :: rest) :=
    ⟨_, List.perm_cons_erase (h.mem hk)⟩
  have hlk : l ≠ k := by
    rintro rfl
    rw [hk] at hl
    cases hl
  have hfree : Function.update held k none l = none := by rw [Function.update_of_ne hlk, hl]
  have hb := (List.nodup_cons.mp (hperm.nodup_iff.mp h.nodup)).1
  exact ((h.drop hk hperm).take hfree hb).perm hperm.symm

end Custody

end MuPlatform
