import Mathlib.Data.List.Perm.Basic
import Mathlib.Tactic.Common

/-!
# Messages in flight

A client keeps the messages it has accepted in a queue until a report settles them. A call that
serves reports takes them in the order they come, in any order of messages and for any part of the
queue; a report of a message that is not in flight is ignored.

* `serve_perm`: the messages settled and the messages left are the messages that were in flight.
-/

namespace TripPipeline.Lib

variable {ι μ ω : Type} [DecidableEq ι] (ident : μ → ι)

/-- The messages the reports settle, in order, each with its outcome, and the queue that is left. -/
def serve : List μ → List (ι × ω) → List (μ × ω) × List μ
  | queue, [] => ([], queue)
  | queue, (i, outcome) :: reports =>
      match queue.find? (ident · = i) with
      | none => serve queue reports
      | some m =>
          let (settled, left) := serve (queue.eraseP (ident · = i)) reports
          ((m, outcome) :: settled, left)

/-- Taking the first message of a kind out of a queue. -/
theorem cons_eraseP_perm {p : μ → Bool} {m : μ} {queue : List μ} (h : queue.find? p = some m) :
    (m :: queue.eraseP p).Perm queue := by
  induction queue with
  | nil => cases h
  | cons m' queue ih =>
      rw [List.find?_cons] at h
      rw [List.eraseP_cons]
      by_cases hp : p m' = true
      · rw [hp] at h
        rw [hp, Option.some.inj h]
        exact List.Perm.refl _
      · rw [Bool.not_eq_true] at hp
        rw [hp] at h
        rw [hp]
        exact (List.Perm.swap m' m _).trans ((ih h).cons m')

/-- **Nothing in flight is lost or settled twice.** -/
theorem serve_perm (queue : List μ) (reports : List (ι × ω)) :
    ((serve ident queue reports).1.map Prod.fst ++ (serve ident queue reports).2).Perm queue := by
  induction reports generalizing queue with
  | nil => exact List.Perm.refl _
  | cons report reports ih =>
      obtain ⟨i, outcome⟩ := report
      rcases h : queue.find? (ident · = i) with _ | m
      · simp only [serve, h]
        exact ih queue
      · simp only [serve, h, List.map_cons, List.cons_append]
        exact ((ih _).cons m).trans (cons_eraseP_perm h)

/-- A message in flight is settled or left. -/
theorem mem_or_mem_serve {queue : List μ} (reports : List (ι × ω)) {m : μ} (h : m ∈ queue) :
    (∃ outcome, (m, outcome) ∈ (serve ident queue reports).1) ∨
      m ∈ (serve ident queue reports).2 := by
  rcases List.mem_append.mp ((serve_perm ident queue reports).mem_iff.mpr h) with h | h
  · obtain ⟨⟨m', outcome⟩, hmem, rfl⟩ := List.mem_map.mp h
    exact Or.inl ⟨outcome, hmem⟩
  · exact Or.inr h

/-- What is left was in flight. -/
theorem mem_of_mem_left {queue : List μ} {reports : List (ι × ω)} {m : μ}
    (h : m ∈ (serve ident queue reports).2) : m ∈ queue :=
  (serve_perm ident queue reports).mem_iff.mp (List.mem_append_right _ h)

end TripPipeline.Lib
