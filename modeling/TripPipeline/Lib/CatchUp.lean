import Mathlib.Algebra.Order.Group.Defs
import Mathlib.Algebra.Order.Group.Nat
import Mathlib.Algebra.Module.NatInt
import Mathlib.Order.Bounds.Basic
import Mathlib.Data.List.Induction

/-!
# Catching up with a schedule

A counter follows a schedule: at each turn it moves up to what the schedule says, but by no more
than a burst, and never back. For a schedule that does not decrease this is the lower envelope of
the lines that leave each point of the schedule with the burst as slope (`foldl_catchUp`): the
counter is never ahead of the schedule, and behind it only as far as some earlier point and the
burst account for.
-/

namespace TripPipeline.Lib

/-- One turn: `s` is what the schedule says. -/
def catchUp {α : Type} [Add α] [LinearOrder α] (burst g s : α) : α := max g (min s (g + burst))

variable {α : Type} [AddCommGroup α]

/-- The ends of the lines: from the start, and from each point of the schedule. -/
def envelope (burst start : α) (schedule : List α) : Set α :=
  {x | x = start + schedule.length • burst ∨
    ∃ before s after, schedule = before ++ s :: after ∧ x = s + after.length • burst}

variable {burst start s : α} {schedule : List α}

/-- One more turn lengthens every line, and begins one. -/
theorem mem_envelope_concat {x : α} : x ∈ envelope burst start (schedule ++ [s]) ↔
    (∃ y ∈ envelope burst start schedule, x = y + burst) ∨ x = s := by
  have hstep : ∀ (n : ℕ) (a : α), a + (n + 1) • burst = a + n • burst + burst := by
    intro n a
    rw [succ_nsmul, add_assoc]
  constructor
  · rintro (rfl | ⟨before, t, after, hsplit, rfl⟩)
    · left
      refine ⟨_, Or.inl rfl, ?_⟩
      rw [List.length_append, List.length_singleton, hstep]
    · rcases List.eq_nil_or_concat after with rfl | ⟨after, u, rfl⟩
      · right
        have hlast := (List.append_inj' hsplit rfl).2
        rw [List.length_nil, zero_nsmul, add_zero]
        exact (List.cons.inj hlast).1.symm
      · left
        rw [List.concat_eq_append] at hsplit ⊢
        refine ⟨_, Or.inr ⟨before, t, after, ?_, rfl⟩, ?_⟩
        · rw [← List.cons_append, ← List.append_assoc] at hsplit
          exact (List.append_inj' hsplit rfl).1
        · rw [List.length_append, List.length_singleton, hstep]
  · rintro (⟨y, hy, rfl⟩ | rfl)
    · rcases hy with rfl | ⟨before, t, after, rfl, rfl⟩
      · left
        rw [List.length_append, List.length_singleton, hstep]
      · right
        refine ⟨before, t, after ++ [s], by simp, ?_⟩
        rw [List.length_append, List.length_singleton, hstep]
    · exact Or.inr ⟨schedule, x, [], rfl, by simp⟩

variable [LinearOrder α]

/-- A counter on the envelope is not ahead of the next point of the schedule. -/
theorem le_of_isLeast_envelope {g : α} (h : IsLeast (envelope burst start schedule) g)
    (hstart : start ≤ s) (hmono : ∀ t ∈ schedule, t ≤ s) : g ≤ s := by
  rcases List.eq_nil_or_concat schedule with rfl | ⟨before, t, rfl⟩
  · have hle := h.2 (Or.inl rfl)
    rw [List.length_nil, zero_nsmul, add_zero] at hle
    exact hle.trans hstart
  · rw [List.concat_eq_append] at *
    have hle := h.2 (Or.inr ⟨before, t, [], rfl, rfl⟩)
    rw [List.length_nil, zero_nsmul, add_zero] at hle
    exact hle.trans (hmono t (List.mem_append_right _ (List.mem_singleton_self t)))

variable [IsOrderedAddMonoid α]

/-- A turn of a counter that is not ahead. -/
theorem catchUp_of_le {g : α} (hburst : 0 ≤ burst) (h : g ≤ s) :
    catchUp burst g s = min s (g + burst) :=
  max_eq_right (le_min h (le_add_of_nonneg_right hburst))

/-- **A counter that catches up is on the envelope of the schedule.** -/
theorem foldl_catchUp (hburst : 0 ≤ burst) (hstart : ∀ s ∈ schedule, start ≤ s)
    (hmono : schedule.Pairwise (· ≤ ·)) :
    IsLeast (envelope burst start schedule) (schedule.foldl (catchUp burst) start) := by
  induction schedule using List.reverseRecOn with
  | nil =>
      refine ⟨Or.inl (by simp), fun x hx => ?_⟩
      rcases hx with rfl | ⟨before, s, after, hsplit, -⟩
      · simp
      · exact absurd hsplit (by simp)
  | append_singleton schedule s ih =>
      obtain ⟨hsorted, -, hlast⟩ := List.pairwise_append.mp hmono
      have hbefore := ih (fun t ht => hstart t (List.mem_append_left _ ht)) hsorted
      have hle := le_of_isLeast_envelope hbefore
        (hstart s (List.mem_append_right _ (List.mem_singleton_self s)))
        (fun t ht => hlast t ht s (List.mem_singleton_self s))
      rw [List.foldl_append, List.foldl_cons, List.foldl_nil, catchUp_of_le hburst hle]
      constructor
      · rw [mem_envelope_concat]
        rcases min_choice s (schedule.foldl (catchUp burst) start + burst) with hmin | hmin
        · exact Or.inr hmin
        · exact Or.inl ⟨_, hbefore.1, hmin⟩
      · intro x hx
        rcases mem_envelope_concat.mp hx with ⟨y, hy, rfl⟩ | rfl
        · exact (min_le_right _ _).trans (add_le_add_left (hbefore.2 hy) burst)
        · exact min_le_left _ _

end TripPipeline.Lib
