import Mathlib.Algebra.BigOperators.Group.Finset.Sigma
import Mathlib.Algebra.Ring.Nat
import Mathlib.Data.Finset.Sigma
import Mathlib.Order.Interval.Finset.Nat

/-!
# Windows of a partitioned log

A log has partitions, and the entries of a partition are numbered. What lies between two lists of
offsets, one per partition, is a window: low edge included, high edge excluded.

* `card_window`: how many entries a window has.
* `card_window_add`: counts at two moments differ by the window between them.
* `covered_of_card_le`: windows without a common entry, inside of another one, cover it if they have
  at least as many entries.
-/

namespace TripPipeline.Lib

/-- An entry: its partition and its offset. -/
abbrev Entry := (_ : ℕ) × ℕ

/-- The entries of the first `n` partitions between two lists of offsets. -/
def window (n : ℕ) (lo hi : ℕ → ℕ) : Finset Entry :=
  (Finset.range n).sigma fun p => Finset.Ico (lo p) (hi p)

section window

variable {n : ℕ} {lo mid hi lo' hi' : ℕ → ℕ} {m : Entry}

/-- A message of the window is one of a partition, between its bounds. -/
theorem mem_window : m ∈ window n lo hi ↔ m.1 < n ∧ lo m.1 ≤ m.2 ∧ m.2 < hi m.1 := by
  simp [window]

/-- The window has as many messages as its bounds lie apart. -/
theorem card_window : (window n lo hi).card = ∑ p ∈ Finset.range n, (hi p - lo p) := by
  simp [window]

/-- Wider bounds have more messages. -/
theorem window_mono (hlo : ∀ p < n, lo' p ≤ lo p) (hhi : ∀ p < n, hi p ≤ hi' p) :
    window n lo hi ⊆ window n lo' hi' := by
  intro m hm
  rw [mem_window] at hm ⊢
  exact ⟨hm.1, (hlo _ hm.1).trans hm.2.1, hm.2.2.trans_le (hhi _ hm.1)⟩

/-- **Counts at two moments differ by the window between them.** -/
theorem card_window_add (h : ∀ p < n, lo p ≤ hi p) :
    ∑ p ∈ Finset.range n, lo p + (window n lo hi).card = ∑ p ∈ Finset.range n, hi p := by
  rw [card_window, ← Finset.sum_add_distrib]
  exact Finset.sum_congr rfl fun p hp =>
    Nat.add_sub_cancel' (h p (Finset.mem_range.mp hp))

/-- One window ends where the other one begins, or before. -/
theorem disjoint_window (h : ∀ p < n, hi p ≤ lo' p) :
    Disjoint (window n lo hi) (window n lo' hi') := by
  rw [Finset.disjoint_left]
  intro m hm hm'
  rw [mem_window] at hm hm'
  exact absurd (hm.2.2.trans_le (h _ hm.1)) (not_lt.mpr hm'.2.1)

end window

section cover

variable {α : Type} [DecidableEq α]

/-- The members of sets without a common member. -/
theorem card_union_of_pairwise {sets : List (Finset α)} (h : sets.Pairwise Disjoint) :
    (sets.foldr (· ∪ ·) ∅).card = (sets.map Finset.card).sum := by
  induction sets with
  | nil => rfl
  | cons s sets ih =>
      obtain ⟨hs, hrest⟩ := List.pairwise_cons.mp h
      have hdisjoint : Disjoint s (sets.foldr (· ∪ ·) ∅) := by
        clear ih h hrest
        induction sets with
        | nil => exact Finset.disjoint_empty_right s
        | cons t sets ih =>
            rw [List.foldr_cons, Finset.disjoint_union_right]
            exact ⟨hs t List.mem_cons_self, ih fun u hu => hs u (List.mem_cons_of_mem t hu)⟩
      rw [List.foldr_cons, Finset.card_union_of_disjoint hdisjoint, ih hrest]
      simp

/-- A member of the union is a member of one of the sets. -/
theorem mem_union_iff {sets : List (Finset α)} {a : α} :
    a ∈ sets.foldr (· ∪ ·) ∅ ↔ ∃ s ∈ sets, a ∈ s := by
  induction sets with
  | nil => simp
  | cons s sets ih => simp [ih]

/-- **Sets without a common member cover a set that has no more members than they have.** -/
theorem covered_of_card_le {sets : List (Finset α)} {target : Finset α}
    (hsub : ∀ s ∈ sets, s ⊆ target) (hdisjoint : sets.Pairwise Disjoint)
    (hcard : target.card ≤ (sets.map Finset.card).sum) {a : α} (ha : a ∈ target) :
    ∃ s ∈ sets, a ∈ s := by
  have hunion : sets.foldr (· ∪ ·) ∅ ⊆ target := by
    intro b hb
    obtain ⟨s, hs, hbs⟩ := mem_union_iff.mp hb
    exact hsub s hs hbs
  rw [← card_union_of_pairwise hdisjoint] at hcard
  rw [← Finset.eq_of_subset_of_card_le hunion hcard] at ha
  exact mem_union_iff.mp ha

end cover

end TripPipeline.Lib
