import Mathlib.Data.BitVec
import Mathlib.Data.Int.ModEq
import Mathlib.Data.List.Perm.Basic

/-!
# Ones'-complement sums

The addition of words in which a carry out of the top comes back in at the bottom.  It is
commutative and associative, so that a sum does not depend on the order of its words, and modulo
`2 ^ w - 1` it is the addition of integers.  A word and its complement add up to all ones.
-/

namespace MuPlatform

variable {w : ℕ}

/-- Addition with end-around carry. -/
def endAroundAdd (a b : BitVec w) : BitVec w :=
  if a.toNat + b.toNat < 2 ^ w then a + b else a + b + 1#w

/-- The sum of a list of words, from the left. -/
def endAroundSum (words : List (BitVec w)) : BitVec w := words.foldl endAroundAdd 0

variable {a b c : BitVec w} {words words' : List (BitVec w)}

lemma toNat_endAroundAdd : (endAroundAdd a b).toNat =
    if a.toNat + b.toNat < 2 ^ w then a.toNat + b.toNat else a.toNat + b.toNat + 1 - 2 ^ w := by
  have ha := a.isLt
  have hb := b.isLt
  unfold endAroundAdd
  split
  · next h => rw [BitVec.toNat_add, Nat.mod_eq_of_lt h]
  · next h =>
    rw [BitVec.toNat_add, BitVec.toNat_add, BitVec.toNat_ofNat, Nat.mod_add_mod, Nat.add_mod_mod,
      Nat.mod_eq_sub_mod (by omega), Nat.mod_eq_of_lt (by omega)]

lemma endAroundAdd_comm (a b : BitVec w) : endAroundAdd a b = endAroundAdd b a := by
  unfold endAroundAdd
  rw [Nat.add_comm, BitVec.add_comm]

lemma endAroundAdd_assoc (a b c : BitVec w) :
    endAroundAdd (endAroundAdd a b) c = endAroundAdd a (endAroundAdd b c) := by
  have ha := a.isLt
  have hb := b.isLt
  have hc := c.isLt
  apply BitVec.eq_of_toNat_eq
  simp only [toNat_endAroundAdd]
  split_ifs <;> omega

instance : Std.Commutative (endAroundAdd (w := w)) := ⟨endAroundAdd_comm⟩

instance : Std.Associative (endAroundAdd (w := w)) := ⟨endAroundAdd_assoc⟩

/-- The order of the words does not matter. -/
theorem endAroundSum_perm (h : words.Perm words') : endAroundSum words = endAroundSum words' :=
  h.foldl_op_eq

lemma endAroundSum_concat (words : List (BitVec w)) (a : BitVec w) :
    endAroundSum (words ++ [a]) = endAroundAdd (endAroundSum words) a :=
  List.foldl_append

/-- A word anywhere in the list. -/
lemma endAroundSum_middle (words words' : List (BitVec w)) (a : BitVec w) :
    endAroundSum (words ++ a :: words') = endAroundAdd (endAroundSum (words ++ words')) a := by
  rw [← endAroundSum_concat]
  refine endAroundSum_perm ?_
  exact List.perm_middle.trans (List.perm_append_singleton a _).symm

lemma endAroundAdd_zero (a : BitVec w) : endAroundAdd a 0 = a := by
  have ha := a.isLt
  apply BitVec.eq_of_toNat_eq
  rw [toNat_endAroundAdd]
  simp [ha]

/-- The carry is a multiple of the modulus. -/
lemma endAroundAdd_modEq (a b : BitVec w) :
    ((endAroundAdd a b).toNat : ℤ) ≡ a.toNat + b.toNat [ZMOD 2 ^ w - 1] := by
  rw [toNat_endAroundAdd]
  split
  · rw [Nat.cast_add]
  · next h =>
    refine Int.modEq_iff_dvd.mpr ⟨1, ?_⟩
    rw [Nat.cast_sub (by omega)]
    push_cast
    omega

/-- Modulo `2 ^ w - 1` the sum is that of the integers. -/
theorem endAroundSum_modEq (words : List (BitVec w)) :
    ((endAroundSum words).toNat : ℤ) ≡ ((words.map (·.toNat)).sum : ℕ) [ZMOD 2 ^ w - 1] := by
  induction words using List.reverseRecOn with
  | nil => simp [endAroundSum]
  | append_singleton words a ih =>
      rw [endAroundSum_concat, List.map_append, List.sum_append, Nat.cast_add]
      refine (endAroundAdd_modEq _ a).trans (ih.add ?_)
      simp

/-- A word and its complement. -/
theorem endAroundAdd_not (a : BitVec w) : endAroundAdd a (~~~a) = BitVec.allOnes w := by
  have ha := a.isLt
  apply BitVec.eq_of_toNat_eq
  rw [toNat_endAroundAdd, BitVec.toNat_not, BitVec.toNat_allOnes, if_pos (by omega)]
  omega

end MuPlatform
