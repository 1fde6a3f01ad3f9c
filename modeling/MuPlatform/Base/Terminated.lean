import Mathlib.Data.List.GetD
import Mathlib.Data.List.TakeWhile
import Mathlib.Data.Nat.Find

/-!
# Terminated strings

Sequences read up to a terminator, as C reads its strings.  A string that is not terminated goes on
in what lies behind its array, so the comparison of two strings need not end, and neither need the
search of a list for a string: `exists_compareStrings_iff` and `exists_searchFirst_iff` say when
they do, and with what.
-/

namespace MuPlatform

/-! ## Strings -/

section Strings

variable {α : Type*} [Zero α] {f g behind : ℕ → α} {s : List α} {n k j : ℕ} {b : Bool}

/-- The sequences are equal before `k`, and no string ends there. -/
def AgreeBefore (f g : ℕ → α) (k : ℕ) : Prop := ∀ i < k, f i = g i ∧ f i ≠ 0

/-- The sequences hold the same string. -/
def SameString (f g : ℕ → α) : Prop := ∃ k, AgreeBefore f g k ∧ f k = g k ∧ f k = 0

/-- The sequences are different where neither string has ended. -/
def StringsDiffer (f g : ℕ → α) : Prop := ∃ k, AgreeBefore f g k ∧ f k ≠ g k

/-- The sequence holds the string. -/
def HoldsString (f : ℕ → α) (s : List α) : Prop := (List.range s.length).map f = s ∧ f s.length = 0

/-- An array with what lies behind it. -/
def overlay (l : List α) (behind : ℕ → α) : ℕ → α := fun k => l.getD k (behind k)

omit [Zero α] in
lemma overlay_of_lt (h : k < s.length) : overlay s behind k = s[k] := by
  rw [overlay, List.getD_eq_getElem _ _ h]

lemma AgreeBefore.succ (h : AgreeBefore f g k) (heq : f k = g k) (hne : f k ≠ 0) :
    AgreeBefore f g (k + 1) := by
  intro i hi
  rcases Nat.lt_succ_iff_lt_or_eq.mp hi with hlt | rfl
  · exact h i hlt
  · exact ⟨heq, hne⟩

/-- Where the sequences agree neither comparison has stopped. -/
lemma AgreeBefore.le_of_stop (h : AgreeBefore f g k) (hstop : f j = g j → f j = 0) : k ≤ j := by
  by_contra hlt
  obtain ⟨heq, hne⟩ := h j (Nat.lt_of_not_le hlt)
  exact hne (hstop heq)

lemma SameString.not_differ (h : SameString f g) : ¬ StringsDiffer f g := by
  rintro ⟨j, hagree, hne⟩
  obtain ⟨k, hbefore, heq, hzero⟩ := h
  have hkj : k ≤ j := hbefore.le_of_stop fun h => absurd h hne
  have hjk : j ≤ k := hagree.le_of_stop fun _ => hzero
  rw [Nat.le_antisymm hjk hkj] at hne
  exact hne heq

/-- The array of a string with its terminator holds it. -/
lemma holdsString_overlay : HoldsString (overlay (s ++ [0]) behind) s := by
  constructor
  · refine List.ext_getElem (by simp) fun k _ hk => ?_
    rw [List.getElem_map, List.getElem_range, overlay_of_lt (by rw [List.length_append]; omega),
      List.getElem_append_left hk]
  · rw [overlay_of_lt (by simp), List.getElem_append_right le_rfl]
    simp

lemma HoldsString.apply (h : HoldsString f s) (hk : k < s.length) : f k = s[k] := by
  have hget := List.getElem_of_eq h.1 (i := k) (by simpa using hk)
  rw [List.getElem_map, List.getElem_range] at hget
  exact hget

section Against

variable (hs : ∀ c ∈ s, c ≠ 0) (hg : HoldsString g s)
include hs hg

lemma HoldsString.agreeBefore_iff (hk : k ≤ s.length) :
    AgreeBefore f g k ↔ (List.range k).map f = s.take k := by
  constructor
  · intro h
    refine List.ext_getElem (by simp [hk]) fun i hi _ => ?_
    rw [List.getElem_map, List.getElem_range, List.getElem_take]
    have hik : i < k := by simpa using hi
    rw [(h i hik).1, hg.apply (by omega)]
  · intro h i hi
    have hget := List.getElem_of_eq h (i := i) (by simpa using hi)
    rw [List.getElem_map, List.getElem_range, List.getElem_take] at hget
    rw [hget, hg.apply (by omega)]
    exact ⟨rfl, hs _ (List.getElem_mem _)⟩

/-- Sequences hold the same string when they hold it. -/
lemma HoldsString.same_iff : SameString f g ↔ HoldsString f s := by
  constructor
  · rintro ⟨k, hagree, heq, hzero⟩
    have hle : k ≤ s.length := by
      refine hagree.le_of_stop fun h => ?_
      rw [h, hg.2]
    obtain rfl : k = s.length := by
      by_contra hne
      have hlt : k < s.length := by omega
      rw [heq, hg.apply hlt] at hzero
      exact hs _ (List.getElem_mem hlt) hzero
    have htake := (hg.agreeBefore_iff hs le_rfl).mp hagree
    rw [List.take_length] at htake
    exact ⟨htake, hzero⟩
  · intro h
    refine ⟨s.length, (hg.agreeBefore_iff hs le_rfl).mpr ?_, ?_, h.2⟩
    · rw [List.take_length, h.1]
    · rw [h.2, hg.2]

/-- The comparison with a string ends. -/
lemma HoldsString.same_or_differ : SameString f g ∨ StringsDiffer f g := by
  by_cases hall : ∀ k, k ≤ s.length → f k = g k
  · left
    rw [hg.same_iff hs]
    refine ⟨List.ext_getElem (by simp) fun k _ hk => ?_, ?_⟩
    · rw [List.getElem_map, List.getElem_range, hall k (by omega), hg.apply hk]
    · rw [hall _ le_rfl, hg.2]
  · right
    -- the first difference lies before the terminator
    classical
    have hex : ∃ k, k ≤ s.length ∧ f k ≠ g k := by
      by_contra hnone
      exact hall fun k hk => by_contra fun hne => hnone ⟨k, hk, hne⟩
    obtain ⟨hle, hne⟩ := Nat.find_spec hex
    refine ⟨Nat.find hex, fun i hi => ?_, hne⟩
    have heq : f i = g i := by
      by_contra h
      exact Nat.find_min hex hi ⟨by omega, h⟩
    rw [heq, hg.apply (by omega)]
    exact ⟨rfl, hs _ (List.getElem_mem _)⟩

end Against

/-- The text of an array of `n` characters. -/
def arrayText [DecidableEq α] (n : ℕ) (f : ℕ → α) : List α :=
  ((List.range n).map f).takeWhile (· ≠ 0)

/-- A string that is shorter than its array is the text of the array. -/
lemma arrayText_eq_iff [DecidableEq α] (hs : ∀ c ∈ s, c ≠ 0) (hlen : s.length < n) :
    arrayText n f = s ↔ HoldsString f s := by
  have hsplit : (List.range n).map f = (List.range s.length).map f ++
      f s.length :: (List.range (n - (s.length + 1))).map fun i => f (s.length + 1 + i) := by
    have hn : n = s.length + 1 + (n - (s.length + 1)) := by omega
    conv_lhs => rw [hn, List.range_add, List.range_succ]
    simp
  constructor
  · intro h
    have htake : (List.range s.length).map f = s := by
      have hprefix : s <+: (List.range n).map f := h ▸ List.takeWhile_prefix _
      have htaken := List.prefix_iff_eq_take.mp hprefix
      rw [hsplit, List.take_append_of_le_length (by simp),
        List.take_of_length_le (by simp)] at htaken
      exact htaken.symm
    refine ⟨htake, ?_⟩
    by_contra hne
    rw [arrayText, hsplit, htake, List.takeWhile_append_of_pos (by simpa using hs),
      List.takeWhile_cons_of_pos (by simpa using hne)] at h
    have hlength := congrArg List.length h
    simp at hlength
  · intro h
    rw [arrayText, hsplit, h.1, List.takeWhile_append_of_pos (by simpa using hs),
      List.takeWhile_cons_of_neg (by simp [h.2]), List.append_nil]

/-- The first `m` characters of an array are enough of a text that is shorter. -/
lemma holdsString_overlay_iff [DecidableEq α] {m : ℕ} (hs : ∀ c ∈ s, c ≠ 0)
    (htext : (arrayText n f).length < m) (hmn : m ≤ n) :
    HoldsString (overlay ((List.range m).map f) behind) s ↔ arrayText n f = s := by
  have htake : ∀ k, k < m → overlay ((List.range m).map f) behind k = f k := fun k hk => by
    rw [overlay_of_lt (by simpa using hk), List.getElem_map, List.getElem_range]
  constructor
  · intro h
    by_cases hlen : s.length < m
    · rw [arrayText_eq_iff hs (by omega)]
      refine ⟨?_, ?_⟩
      · refine Eq.trans (List.map_congr_left fun k hk => ?_) h.1
        have hlt := List.mem_range.mp hk
        exact (htake k (by omega)).symm
      · rw [← htake _ hlen, h.2]
    · -- the first characters are those of a string that goes on
      exfalso
      have hnext : ∀ k, k < m → f k ≠ 0 := fun k hk => by
        rw [← htake k hk, h.apply (by omega)]
        exact hs _ (List.getElem_mem _)
      have htext' : ∀ c ∈ arrayText n f, c ≠ 0 := fun c hc => by
        simpa using List.mem_takeWhile_imp hc
      have hself := (arrayText_eq_iff htext' (by omega)).mp rfl
      exact hnext _ htext hself.2
  · rintro rfl
    have hself := (arrayText_eq_iff hs (by omega)).mp rfl
    refine ⟨?_, ?_⟩
    · refine Eq.trans (List.map_congr_left fun k hk => ?_) hself.1
      have hlt := List.mem_range.mp hk
      exact htake k (by omega)
    · rw [htake _ htext, hself.2]

/-- The comparison of two strings from position `k`, for `n` rounds at most. -/
def compareFrom [DecidableEq α] (f g : ℕ → α) : ℕ → ℕ → Option Bool
  | 0, _ => none
  | n + 1, k =>
      if f k = g k ∧ f k ≠ 0 then compareFrom f g n (k + 1) else some (decide (f k = g k))

/-- The comparison of two strings, for `n` rounds at most. -/
def compareStrings [DecidableEq α] (n : ℕ) (f g : ℕ → α) : Option Bool := compareFrom f g n 0

section Comparison

variable [DecidableEq α]

lemma compareFrom_of_stop (hk : k ≤ j) (hagree : AgreeBefore f g j)
    (hstop : f j = g j → f j = 0) (hn : j < k + n) :
    compareFrom f g n k = some (decide (f j = g j)) := by
  induction n generalizing k with
  | zero => omega
  | succ n ih =>
      rw [compareFrom]
      rcases Nat.lt_or_eq_of_le hk with hlt | rfl
      · rw [if_pos (hagree k hlt)]
        exact ih hlt (by omega)
      · rw [if_neg fun h => h.2 (hstop h.1)]

lemma stop_of_compareFrom (hk : AgreeBefore f g k) (h : compareFrom f g n k = some b) :
    ∃ j, AgreeBefore f g j ∧ (f j = g j → f j = 0) ∧ b = decide (f j = g j) := by
  induction n generalizing k with
  | zero => simp [compareFrom] at h
  | succ n ih =>
      rw [compareFrom] at h
      by_cases hgo : f k = g k ∧ f k ≠ 0
      · rw [if_pos hgo] at h
        exact ih (hk.succ hgo.1 hgo.2) h
      · rw [if_neg hgo] at h
        exact ⟨k, hk, fun heq => by_contra fun hne => hgo ⟨heq, hne⟩, (Option.some.inj h).symm⟩

/-- With more rounds the comparison comes to the same. -/
lemma compareFrom_mono {m : ℕ} (hnm : n ≤ m) (h : compareFrom f g n k = some b) :
    compareFrom f g m k = some b := by
  induction n generalizing m k with
  | zero => simp [compareFrom] at h
  | succ n ih =>
      obtain ⟨m, rfl⟩ : ∃ m', m = m' + 1 := ⟨m - 1, by omega⟩
      rw [compareFrom] at h ⊢
      by_cases hgo : f k = g k ∧ f k ≠ 0
      · rw [if_pos hgo] at h ⊢
        exact ih (by omega) h
      · rw [if_neg hgo] at h ⊢
        exact h

lemma exists_compareStrings_true : (∃ n, compareStrings n f g = some true) ↔ SameString f g := by
  constructor
  · rintro ⟨n, h⟩
    obtain ⟨j, hagree, hstop, heq⟩ := stop_of_compareFrom (fun i hi => absurd hi (by omega)) h
    have hsame : f j = g j := of_decide_eq_true heq.symm
    exact ⟨j, hagree, hsame, hstop hsame⟩
  · rintro ⟨j, hagree, heq, hzero⟩
    refine ⟨j + 1, ?_⟩
    rw [compareStrings, compareFrom_of_stop (Nat.zero_le j) hagree (fun _ => hzero) (by omega),
      decide_eq_true heq]

lemma exists_compareStrings_false :
    (∃ n, compareStrings n f g = some false) ↔ StringsDiffer f g := by
  constructor
  · rintro ⟨n, h⟩
    obtain ⟨j, hagree, -, hne⟩ := stop_of_compareFrom (fun i hi => absurd hi (by omega)) h
    exact ⟨j, hagree, of_decide_eq_false hne.symm⟩
  · rintro ⟨j, hagree, hne⟩
    refine ⟨j + 1, ?_⟩
    rw [compareStrings, compareFrom_of_stop (Nat.zero_le j) hagree (fun h => absurd h hne)
      (by omega), decide_eq_false hne]

lemma compareStrings_mono {m : ℕ} (hnm : n ≤ m) (h : compareStrings n f g = some b) :
    compareStrings m f g = some b :=
  compareFrom_mono hnm h

end Comparison

end Strings

/-! ## Searching a list -/

section Search

variable {β γ : Type*} {accepts rejects : β → Prop} {l : List β} {r : Option β}

/-- The search of a list by a test that may not end. -/
def searchFirst (test : β → Option Bool) : List β → Option (Option β)
  | [] => some none
  | b :: l =>
    match test b with
    | none => none
    | some true => some (some b)
    | some false => searchFirst test l

/-- The first element that is accepted, behind elements that are rejected. -/
inductive FirstMatch (accepts rejects : β → Prop) : List β → Option β → Prop
  | nil : FirstMatch accepts rejects [] none
  | here {b : β} {l : List β} (h : accepts b) : FirstMatch accepts rejects (b :: l) (some b)
  | there {b : β} {l : List β} {r : Option β} (h : rejects b)
      (hrest : FirstMatch accepts rejects l r) : FirstMatch accepts rejects (b :: l) r

namespace FirstMatch

lemma mem {b : β} (h : FirstMatch accepts rejects l (some b)) : b ∈ l ∧ accepts b := by
  induction l with
  | nil => cases h
  | cons c l ih =>
      cases h with
      | here h => exact ⟨List.mem_cons_self, h⟩
      | there _ hrest => exact ⟨List.mem_cons_of_mem _ (ih hrest).1, (ih hrest).2⟩

lemma rejected (h : FirstMatch accepts rejects l none) : ∀ b ∈ l, rejects b := by
  induction l with
  | nil => simp
  | cons c l ih =>
      cases h with
      | there hc hrest => exact List.forall_mem_cons.mpr ⟨hc, ih hrest⟩

lemma mono {accepts' rejects' : β → Prop} (h : FirstMatch accepts rejects l r)
    (haccepts : ∀ b ∈ l, accepts b → accepts' b) (hrejects : ∀ b ∈ l, rejects b → rejects' b) :
    FirstMatch accepts' rejects' l r := by
  induction h with
  | nil => exact .nil
  | here h => exact .here (haccepts _ List.mem_cons_self h)
  | there h _ ih =>
      exact .there (hrejects _ List.mem_cons_self h)
        (ih (fun c hc => haccepts c (List.mem_cons_of_mem _ hc))
          (fun c hc => hrejects c (List.mem_cons_of_mem _ hc)))

/-- Where each element is accepted or rejected the search comes to an end. -/
lemma exists_of_total (h : ∀ b ∈ l, accepts b ∨ rejects b) :
    ∃ r, FirstMatch accepts rejects l r := by
  induction l with
  | nil => exact ⟨none, .nil⟩
  | cons b l ih =>
      rcases h b List.mem_cons_self with hb | hb
      · exact ⟨some b, .here hb⟩
      · obtain ⟨r, hr⟩ := ih fun c hc => h c (List.mem_cons_of_mem _ hc)
        exact ⟨r, .there hb hr⟩

lemma map_iff {f : γ → β} {l : List γ} :
    FirstMatch accepts rejects (l.map f) r ↔
      ∃ r', FirstMatch (accepts ∘ f) (rejects ∘ f) l r' ∧ r = r'.map f := by
  induction l with
  | nil =>
      constructor
      · rintro ⟨⟩
        exact ⟨none, .nil, rfl⟩
      · rintro ⟨r', hr', rfl⟩
        cases hr'
        exact .nil
  | cons c l ih =>
      constructor
      · intro h
        cases h with
        | here h => exact ⟨some c, .here h, rfl⟩
        | there h hrest =>
            obtain ⟨r', hr', heq⟩ := ih.mp hrest
            exact ⟨r', .there h hr', heq⟩
      · rintro ⟨r', hr', rfl⟩
        cases hr' with
        | here h => exact .here h
        | there h hrest => exact .there h (ih.mpr ⟨r', hrest, rfl⟩)

end FirstMatch

/-- A test that comes to the same wherever another one ends finds the same. -/
lemma searchFirst_mono {test test' : β → Option Bool}
    (h : ∀ {b c}, test b = some c → test' b = some c) (hr : searchFirst test l = some r) :
    searchFirst test' l = some r := by
  induction l with
  | nil => exact hr
  | cons b l ih =>
      rw [searchFirst] at hr ⊢
      cases htest : test b with
      | none => simp [htest] at hr
      | some c =>
          rw [h htest]
          rw [htest] at hr
          cases c with
          | true => exact hr
          | false => exact ih hr

/-- A search whose tests come to the same with more rounds. -/
lemma exists_searchFirst_iff (test : ℕ → β → Option Bool)
    (hmono : ∀ {n m b c}, n ≤ m → test n b = some c → test m b = some c) :
    (∃ n, searchFirst (test n) l = some r) ↔
      FirstMatch (fun b => ∃ n, test n b = some true) (fun b => ∃ n, test n b = some false)
        l r := by
  induction l with
  | nil =>
      constructor
      · rintro ⟨n, h⟩
        obtain rfl := Option.some.inj h
        exact .nil
      · rintro ⟨⟩
        exact ⟨0, rfl⟩
  | cons b l ih =>
      constructor
      · rintro ⟨n, h⟩
        rw [searchFirst] at h
        cases htest : test n b with
        | none => simp [htest] at h
        | some c =>
            cases c with
            | true =>
                obtain rfl : some b = r := by simpa [htest] using h
                exact .here ⟨n, htest⟩
            | false => exact .there ⟨n, htest⟩ (ih.mp ⟨n, by simpa [htest] using h⟩)
      · intro h
        cases h with
        | here h =>
            obtain ⟨n, hn⟩ := h
            exact ⟨n, by rw [searchFirst, hn]⟩
        | there h hrest =>
            obtain ⟨n, hn⟩ := h
            obtain ⟨m, hm⟩ := ih.mpr hrest
            refine ⟨max n m, ?_⟩
            rw [searchFirst, hmono (Nat.le_max_left n m) hn]
            exact searchFirst_mono (fun hc => hmono (Nat.le_max_right n m) hc) hm

end Search

end MuPlatform
