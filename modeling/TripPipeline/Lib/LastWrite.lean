import Mathlib.Data.List.Induction
import Mathlib.Logic.Function.Basic
import Mathlib.Tactic.Common

/-!
# Last-write-wins tables

A table is a partial map from keys to rows, a write is a key with a row, and a log of writes leaves
the last row written under each key.

A `view` of a row is what of it is compared. A log is consistent for a view when writes under one
key have rows with one view. Then order and repetition do not matter:

* `replay_isSome_iff`: the keys of the table are the keys of the log.
* `mem_of_replay_eq_some`: a row of the table was written under its key.
* `map_view_replay_congr`: consistent logs that write the same views under the same keys leave the
  same table, as far as the view shows.
-/

namespace TripPipeline.Lib

variable {κ ρ σ : Type} [DecidableEq κ]

/-- The row under a key is replaced. -/
def upsert (table : κ → Option ρ) (w : κ × ρ) : κ → Option ρ :=
  Function.update table w.1 (some w.2)

/-- The table a log leaves. -/
def replay (log : List (κ × ρ)) : κ → Option ρ := log.foldl upsert fun _ => none

/-- Writes under one key show one view. -/
def Consistent (view : ρ → σ) (log : List (κ × ρ)) : Prop :=
  ∀ w ∈ log, ∀ w' ∈ log, w.1 = w'.1 → view w.2 = view w'.2

/-- The last write is replayed last. -/
theorem replay_append_singleton (log : List (κ × ρ)) (w : κ × ρ) :
    replay (log ++ [w]) = upsert (replay log) w := by
  rw [replay, List.foldl_append]
  rfl

/-- What stands under a key was written under it. -/
theorem mem_of_replay_eq_some {log : List (κ × ρ)} {k : κ} {row : ρ}
    (h : replay log k = some row) : (k, row) ∈ log := by
  induction log using List.reverseRecOn with
  | nil => cases h
  | append_singleton log w ih =>
      rw [replay_append_singleton, upsert] at h
      by_cases hk : k = w.1
      · subst hk
        rw [Function.update_self] at h
        obtain rfl := Option.some.inj h
        exact List.mem_append_right _ (List.mem_singleton_self _)
      · rw [Function.update_of_ne hk] at h
        exact List.mem_append_left _ (ih h)

/-- **The keys of the table are the keys of the log.** -/
theorem replay_isSome_iff {log : List (κ × ρ)} {k : κ} :
    (replay log k).isSome ↔ k ∈ log.map Prod.fst := by
  induction log using List.reverseRecOn with
  | nil => simp [replay]
  | append_singleton log w ih =>
      rw [replay_append_singleton, upsert, List.map_append, List.mem_append, List.map_singleton,
        List.mem_singleton]
      by_cases hk : k = w.1
      · subst hk
        simp
      · rw [Function.update_of_ne hk, ih]
        simp [hk]

/-- In a consistent log, the view of a key is the view of any write under it. -/
theorem map_view_replay {view : ρ → σ} {log : List (κ × ρ)} (h : Consistent view log)
    {w : κ × ρ} (hw : w ∈ log) : (replay log w.1).map view = some (view w.2) := by
  have hsome : (replay log w.1).isSome := replay_isSome_iff.mpr (List.mem_map_of_mem hw)
  obtain ⟨row, hrow⟩ := Option.isSome_iff_exists.mp hsome
  rw [hrow, Option.map_some]
  exact congrArg some (h _ (mem_of_replay_eq_some hrow) w hw rfl)

/-- **Order and repetition do not show.** -/
theorem map_view_replay_congr {view : ρ → σ} {log log' : List (κ × ρ)} (h : Consistent view log)
    (h' : Consistent view log') (hsub : ∀ w ∈ log, ∃ w' ∈ log', w'.1 = w.1 ∧ view w'.2 = view w.2)
    (hsup : ∀ w' ∈ log', ∃ w ∈ log, w.1 = w'.1) (k : κ) :
    (replay log k).map view = (replay log' k).map view := by
  by_cases hk : k ∈ log.map Prod.fst
  · obtain ⟨w, hw, rfl⟩ := List.mem_map.mp hk
    obtain ⟨w', hw', hkey, hview⟩ := hsub w hw
    rw [map_view_replay h hw, ← hkey, map_view_replay h' hw', hview]
  · have hk' : k ∉ log'.map Prod.fst := by
      intro hmem
      obtain ⟨w', hw', rfl⟩ := List.mem_map.mp hmem
      obtain ⟨w, hw, hkey⟩ := hsup w' hw'
      exact hk (hkey ▸ List.mem_map_of_mem hw)
    rw [← replay_isSome_iff, Bool.not_eq_true, Option.isSome_eq_false_iff,
      Option.isNone_iff_eq_none] at hk hk'
    rw [hk, hk']

end TripPipeline.Lib
