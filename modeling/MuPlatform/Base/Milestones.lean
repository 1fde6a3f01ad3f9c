import Mathlib.Algebra.GroupWithZero.Nat
import Mathlib.Data.List.Chain
import Mathlib.Order.Monotone.Defs

/-!
# Milestones

A counter that only grows, with a level for each of its values.  A milestone is reported when the
level is above that of the last value for which one was reported, so that value is all that has to
be remembered.  The levels that are reported increase from that of the first value to that of the
last (`Milestones.pairwise_play`, `Milestones.getLast_play`).
-/

namespace MuPlatform

/-- A counter, and its value at the last milestone. -/
structure Milestones where
  counter : ℕ
  reached : ℕ

namespace Milestones

variable (level : ℕ → ℕ)

/-- The counter grows, with the level of a milestone that is reported. -/
def advance (m : Milestones) (n : ℕ) : Milestones × Option ℕ :=
  if level m.reached < level (m.counter + n) then
    (⟨m.counter + n, m.counter + n⟩, some (level (m.counter + n)))
  else (⟨m.counter + n, m.reached⟩, none)

/-- The counter grows again and again, with all levels that are reported. -/
def play (m : Milestones) : List ℕ → Milestones × List ℕ
  | [] => (m, [])
  | n :: ns =>
    ((play (m.advance level n).1 ns).1,
      (m.advance level n).2.toList ++ (play (m.advance level n).1 ns).2)

/-- The counter is on the level of the last milestone. -/
def Current (m : Milestones) : Prop := level m.reached = level m.counter

variable {level} {m : Milestones} {n : ℕ}

lemma advance_counter : (m.advance level n).1.counter = m.counter + n := by
  unfold advance
  split <;> rfl

/-- A milestone leaves the counter on its level, and without one the level is the same. -/
lemma Current.advance (h : m.Current level) (hmono : Monotone level) :
    (m.advance level n).1.Current level ∧
      if level m.counter < level (m.counter + n) then
        (m.advance level n).2 = some (level (m.counter + n))
      else (m.advance level n).2 = none ∧ level (m.counter + n) = level m.counter := by
  unfold Milestones.advance
  rw [show level m.reached = level m.counter from h]
  split
  · exact ⟨rfl, rfl⟩
  · next hsame =>
    have hle := hmono (Nat.le_add_right m.counter n)
    have heq := Nat.le_antisymm (Nat.not_lt.mp hsame) hle
    exact ⟨Eq.trans h heq.symm, rfl, heq⟩

/-- The levels that are reported increase, up from that of the counter. -/
theorem pairwise_play (h : m.Current level) (hmono : Monotone level) (ns : List ℕ) :
    (level m.counter :: (m.play level ns).2).Pairwise (· < ·) := by
  induction ns generalizing m with
  | nil => exact List.pairwise_singleton _ _
  | cons n ns ih =>
      obtain ⟨hcurrent, hreport⟩ := h.advance hmono (n := n)
      have hrest := ih hcurrent
      rw [advance_counter] at hrest
      rw [play]
      split at hreport
      · next hlt =>
        rw [hreport]
        refine List.pairwise_cons.mpr ⟨fun l hl => ?_, hrest⟩
        rcases List.mem_cons.mp hl with rfl | hl
        · exact hlt
        · exact hlt.trans ((List.pairwise_cons.mp hrest).1 l hl)
      · rw [hreport.1, ← hreport.2]
        exact hrest

/-- The last level that is reported, if any, is that of the counter in the end. -/
theorem getLast_play (h : m.Current level) (hmono : Monotone level) (ns : List ℕ) :
    (level m.counter :: (m.play level ns).2).getLast (List.cons_ne_nil _ _) =
      level (m.counter + ns.sum) := by
  induction ns generalizing m with
  | nil => rfl
  | cons n ns ih =>
      obtain ⟨hcurrent, hreport⟩ := h.advance hmono (n := n)
      have hrest := ih hcurrent
      simp only [advance_counter] at hrest
      simp only [play, List.sum_cons, ← Nat.add_assoc, ← hrest]
      split at hreport
      · simp [hreport]
      · simp [hreport.1, hreport.2]

/-- A bound above the level of the counter is reported if it is on the level of the end. -/
theorem exists_le_play (h : m.Current level) (hmono : Monotone level) (ns : List ℕ) {b : ℕ}
    (hb : level m.counter < b) :
    (∃ l ∈ (m.play level ns).2, b ≤ l) ↔ b ≤ level (m.counter + ns.sum) := by
  have hpairwise := pairwise_play h hmono ns
  have hlast := getLast_play h hmono ns
  generalize (m.play level ns).2 = reports at hpairwise hlast
  rw [← hlast]
  constructor
  · rintro ⟨l, hl, hle⟩
    refine hle.trans ?_
    have hmem := List.mem_cons_of_mem (level m.counter) hl
    exact (hpairwise.imp fun hlt => Nat.le_of_lt hlt).rel_getLast hmem
  · intro hle
    rcases List.mem_cons.mp (List.getLast_mem (List.cons_ne_nil (level m.counter) reports)) with
      heq | hmem
    · rw [heq] at hle
      omega
    · exact ⟨_, hmem, hle⟩

/-- There are no more milestones than levels between the first and the last value. -/
theorem length_play_le (h : m.Current level) (hmono : Monotone level) (ns : List ℕ) :
    level m.counter + (m.play level ns).2.length ≤ level (m.counter + ns.sum) := by
  induction ns generalizing m with
  | nil => exact Nat.le_refl _
  | cons n ns ih =>
      obtain ⟨hcurrent, hreport⟩ := h.advance hmono (n := n)
      have hrest := ih hcurrent
      rw [advance_counter, Nat.add_assoc, ← List.sum_cons] at hrest
      rw [play, List.length_append]
      split at hreport
      · rw [hreport, Option.toList_some, List.length_singleton]
        omega
      · rw [hreport.1, Option.toList_none, List.length_nil]
        omega

end Milestones

end MuPlatform
