import Mathlib.Order.Bounds.Basic
import Mathlib.Tactic.Common

/-!
# The longest streak of a condition

A condition holds at some positions and not at others. One pass over the positions counts how long
it has held without a break, and keeps the greatest count.

* `streaksUpTo_succ`: a streak that ends by the next position has ended before, or ends there.
* `streakScan_isGreatest`: the pass has the longest streak that ends where it stands, and the
  longest one it has passed.
-/

namespace TripPipeline.Lib

/-- The condition holds at `m` positions in a row, from `i` on. -/
def Streak (p : ℕ → Bool) (i m : ℕ) : Prop := ∀ k < m, p (i + k) = true

/-- What one pass has counted: the longest streak so far, and the one it is in. -/
structure StreakCount where
  best : ℕ
  run : ℕ

/-- The next position counts, or ends the streak. -/
def StreakCount.next (s : StreakCount) (holds : Bool) : StreakCount :=
  if holds then ⟨max s.best (s.run + 1), s.run + 1⟩ else ⟨s.best, 0⟩

/-- The first `n` positions in one pass. -/
def streakScan (p : ℕ → Bool) (n : ℕ) : StreakCount :=
  (List.range n).foldl (fun s j => s.next (p j)) ⟨0, 0⟩

/-- The lengths of the streaks that end at `n`. -/
def streaksAt (p : ℕ → Bool) (n : ℕ) : Set ℕ := {m | m ≤ n ∧ Streak p (n - m) m}

/-- The lengths of the streaks that end by `n`. -/
def streaksUpTo (p : ℕ → Bool) (n : ℕ) : Set ℕ := {m | ∃ i, i + m ≤ n ∧ Streak p i m}

section streaks

variable {p : ℕ → Bool} {n i m : ℕ}

/-- There is a streak of no turns anywhere. -/
theorem Streak.zero : Streak p i 0 := fun k hk => absurd hk k.not_lt_zero

/-- A streak is one turn longer when the next turn holds. -/
theorem streak_succ : Streak p i (m + 1) ↔ Streak p i m ∧ p (i + m) = true :=
  Nat.forall_lt_succ_right

/-- In front of the first turn there is only the empty streak. -/
theorem streaksAt_zero : streaksAt p 0 = {0} := by
  ext m
  constructor
  · exact fun h => Nat.le_zero.mp h.1
  · rintro rfl
    exact ⟨le_rfl, Streak.zero⟩

/-- The empty streak ends everywhere. -/
theorem zero_mem_streaksAt : 0 ∈ streaksAt p n := ⟨n.zero_le, Streak.zero⟩

/-- A streak that is not empty takes the last position. -/
theorem succ_mem_streaksAt : m + 1 ∈ streaksAt p (n + 1) ↔ m ∈ streaksAt p n ∧ p n = true := by
  constructor
  · rintro ⟨hle, hstreak⟩
    have hlen : m ≤ n := Nat.le_of_succ_le_succ hle
    rw [Nat.add_sub_add_right, streak_succ, Nat.sub_add_cancel hlen] at hstreak
    exact ⟨⟨hlen, hstreak.1⟩, hstreak.2⟩
  · rintro ⟨⟨hle, hstreak⟩, hlast⟩
    refine ⟨Nat.succ_le_succ hle, ?_⟩
    rw [Nat.add_sub_add_right, streak_succ, Nat.sub_add_cancel hle]
    exact ⟨hstreak, hlast⟩

/-- In front of the first turn there is only the empty streak. -/
theorem streaksUpTo_zero : streaksUpTo p 0 = {0} := by
  ext m
  constructor
  · rintro ⟨i, hle, -⟩
    have hzero : m = 0 := by omega
    exact hzero
  · rintro rfl
    exact ⟨0, le_rfl, Streak.zero⟩

/-- **A streak that ends by the next position has ended before, or ends there.** -/
theorem streaksUpTo_succ : streaksUpTo p (n + 1) = streaksUpTo p n ∪ streaksAt p (n + 1) := by
  ext m
  constructor
  · rintro ⟨i, hle, hstreak⟩
    rcases Nat.le_succ_iff.mp hle with hbefore | hlast
    · exact Or.inl ⟨i, hbefore, hstreak⟩
    · have hi : i = n + 1 - m := by omega
      exact Or.inr ⟨by omega, hi ▸ hstreak⟩
  · rintro (⟨i, hle, hstreak⟩ | ⟨hle, hstreak⟩)
    · exact ⟨i, by omega, hstreak⟩
    · exact ⟨n + 1 - m, by omega, hstreak⟩

end streaks

/-! ## One pass -/

section scan

variable {p : ℕ → Bool} {n : ℕ}

/-- One turn more is one step of the count. -/
theorem streakScan_succ : streakScan p (n + 1) = (streakScan p n).next (p n) := by
  simp [streakScan, List.range_succ, List.foldl_append]

/-- One position more keeps the current streak the longest of those that end where it stands. -/
theorem isGreatest_streaksAt_succ {run : ℕ} (h : IsGreatest (streaksAt p n) run) :
    IsGreatest (streaksAt p (n + 1)) (if p n then run + 1 else 0) := by
  by_cases hn : p n = true
  · rw [if_pos hn]
    refine ⟨succ_mem_streaksAt.mpr ⟨h.1, hn⟩, ?_⟩
    rintro (_ | m) hm
    · exact Nat.zero_le _
    · exact Nat.succ_le_succ (h.2 (succ_mem_streaksAt.mp hm).1)
  · rw [if_neg hn]
    refine ⟨zero_mem_streaksAt, ?_⟩
    rintro (_ | m) hm
    · exact le_rfl
    · exact absurd (succ_mem_streaksAt.mp hm).2 hn

/-- The current streak grows by one or starts again. -/
theorem StreakCount.run_next {s : StreakCount} {holds : Bool} :
    (s.next holds).run = if holds then s.run + 1 else 0 := by
  cases holds <;> rfl

/-- The best of a streak that has ended is not beaten by the empty one. -/
theorem StreakCount.best_next {s : StreakCount} {holds : Bool} :
    (s.next holds).best = max s.best (s.next holds).run := by
  cases holds with
  | false => exact (Nat.max_eq_left s.best.zero_le).symm
  | true => rfl

/-- **The pass has the longest streak that ends where it stands, and the longest one so far.** -/
theorem streakScan_isGreatest (p : ℕ → Bool) (n : ℕ) :
    IsGreatest (streaksAt p n) (streakScan p n).run ∧
      IsGreatest (streaksUpTo p n) (streakScan p n).best := by
  induction n with
  | zero =>
      rw [streaksAt_zero, streaksUpTo_zero]
      exact ⟨isGreatest_singleton, isGreatest_singleton⟩
  | succ n ih =>
      have hrun : IsGreatest (streaksAt p (n + 1)) ((streakScan p n).next (p n)).run := by
        rw [StreakCount.run_next]
        exact isGreatest_streaksAt_succ ih.1
      rw [streakScan_succ]
      refine ⟨hrun, ?_⟩
      rw [streaksUpTo_succ, StreakCount.best_next]
      exact ih.2.union hrun

end scan

end TripPipeline.Lib
