import Mathlib.Logic.Relation
import TripPipeline.Lib.KeyedTable
import TripPipeline.Lib.LastWrite

/-!
# Write-once tables

A write-once table gets rows under free keys only, and each row states one of the `facts`. So what
is under a key stays there.

* `replay_append_inserts`: a last-write-wins table whose log is consistent for a view, seen through
  that view, is a write-once table: a new write inserts, or shows what is there already.
* `upsertAll_inserts`: so is a keyed table into which rows are merged that state facts.
* `keeps_of_inserts`, `fact_of_inserts`: rows stay, and state facts.
-/

namespace TripPipeline.Lib

open Relation

variable {κ ρ σ : Type} [DecidableEq κ]

/-- A fact is inserted under a free key. -/
inductive Insert (facts : κ → σ → Prop) : (κ → Option σ) → (κ → Option σ) → Prop
  | insert (table : κ → Option σ) {k : κ} {v : σ} : table k = none → facts k v →
      Insert facts table (Function.update table k (some v))

variable {facts : κ → σ → Prop} {table table' : κ → Option σ} {k : κ} {v : σ}

/-- **A row stays under its key.** -/
theorem keeps_of_inserts (h : ReflTransGen (Insert facts) table table') (hk : table k = some v) :
    table' k = some v := by
  induction h with
  | refl => exact hk
  | tail _ hstep ih =>
      cases hstep with
      | @insert k' v' hfree _ =>
          have hne : k ≠ k' := by
            rintro rfl
            rw [hfree] at ih
            cases ih
          rw [Function.update_of_ne hne]
          exact ih

/-- **Every row states a fact**, when the table was empty. -/
theorem fact_of_inserts (h : ReflTransGen (Insert facts) table table')
    (hstart : ∀ k v, table k = some v → facts k v) (hk : table' k = some v) : facts k v := by
  induction h generalizing k v with
  | refl => exact hstart k v hk
  | tail _ hstep ih =>
      cases hstep with
      | @insert k' v' _ hfact =>
          by_cases hkey : k = k'
          · subst hkey
            rw [Function.update_self] at hk
            rwa [← Option.some.inj hk]
          · rw [Function.update_of_ne hkey] at hk
            exact ih hk

variable {view : ρ → σ} {log new : List (κ × ρ)}

omit [DecidableEq κ] in
/-- The earlier writes of a consistent log are consistent. -/
theorem Consistent.of_append (h : Consistent view (log ++ new)) : Consistent view log :=
  fun w hw w' hw' => h w (List.mem_append_left new hw) w' (List.mem_append_left new hw')

/-- One write inserts, or shows what is there. -/
theorem replay_append_insert {w : κ × ρ} (h : Consistent view (log ++ [w]))
    (hfact : facts w.1 (view w.2)) :
    ReflTransGen (Insert facts) (fun k => (replay log k).map view)
      (fun k => (replay (log ++ [w]) k).map view) := by
  have hafter : (fun k => (replay (log ++ [w]) k).map view) =
      Function.update (fun k => (replay log k).map view) w.1 (some (view w.2)) := by
    funext k
    rw [replay_append_singleton, upsert]
    by_cases hk : k = w.1
    · subst hk
      rw [Function.update_self, Function.update_self, Option.map_some]
    · rw [Function.update_of_ne hk, Function.update_of_ne hk]
  rw [hafter]
  rcases hold : replay log w.1 with _ | row
  · exact .single (.insert _ (by rw [hold]; rfl) hfact)
  · -- the row under the key shows the same
    have hmem : (w.1, row) ∈ log := mem_of_replay_eq_some hold
    have hsame : view row = view w.2 :=
      h _ (List.mem_append_left _ hmem) w (List.mem_append_right _ (List.mem_singleton_self w)) rfl
    have hstutter : Function.update (fun k => (replay log k).map view) w.1 (some (view w.2)) =
        fun k => (replay log k).map view := by
      rw [Function.update_eq_self_iff, hold, Option.map_some, hsame]
    rw [hstutter]

/-- **A consistent last-write-wins table is a write-once table.** -/
theorem replay_append_inserts (h : Consistent view (log ++ new))
    (hfacts : ∀ w ∈ new, facts w.1 (view w.2)) :
    ReflTransGen (Insert facts) (fun k => (replay log k).map view)
      (fun k => (replay (log ++ new) k).map view) := by
  induction new using List.reverseRecOn with
  | nil => rw [List.append_nil]
  | append_singleton new w ih =>
      rw [← List.append_assoc] at h ⊢
      refine (ih h.of_append fun w' hw' => hfacts w' (List.mem_append_left _ hw')).trans ?_
      exact replay_append_insert h (hfacts w (List.mem_append_right _ (List.mem_singleton_self w)))

/-! ## Keyed tables -/

section keyed

variable {key : ρ → κ} {merge : ρ → ρ → ρ} {rows new : List ρ} {r : ρ}

/-- What a keyed table shows under a key. -/
def shown (key : ρ → κ) (view : ρ → σ) (rows : List ρ) (k : κ) : Option σ :=
  (lookupKey key k rows).map view

/-- One row is inserted, or shows what is there. -/
theorem upsertWith_insert (hkey : ∀ old new, key old = key new → key (merge old new) = key old)
    (hmerge : ∀ old new, view old = view new → view (merge old new) = view new)
    (hfunctional : ∀ k v v', facts k v → facts k v' → v = v')
    (hrows : ∀ k v, shown key view rows k = some v → facts k v) (hr : facts (key r) (view r)) :
    ReflTransGen (Insert facts) (shown key view rows)
      (shown key view (upsertWith key merge r rows)) := by
  have hafter : shown key view (upsertWith key merge r rows) =
      Function.update (shown key view rows) (key r) (some (view r)) := by
    funext k
    rw [shown, lookup_upsertWith hkey]
    by_cases hk : k = key r
    · subst hk
      rw [if_pos rfl, Function.update_self]
      rcases hold : lookupKey key (key r) rows with _ | old
      · rfl
      · have hsame : view old = view r :=
          hfunctional _ _ _ (hrows _ _ (by rw [shown, hold]; rfl)) hr
        exact congrArg some (hmerge old r hsame)
    · rw [if_neg hk, Function.update_of_ne hk, shown]
  rw [hafter]
  rcases hold : shown key view rows (key r) with _ | v
  · exact .single (.insert _ hold hr)
  · rw [← hfunctional _ _ _ (hrows _ _ hold) hr, ← hold, Function.update_eq_self]

/-- **A keyed table into which facts are merged is a write-once table.** -/
theorem upsertAll_inserts (hkey : ∀ old new, key old = key new → key (merge old new) = key old)
    (hmerge : ∀ old new, view old = view new → view (merge old new) = view new)
    (hfunctional : ∀ k v v', facts k v → facts k v' → v = v')
    (hrows : ∀ k v, shown key view rows k = some v → facts k v)
    (hnew : ∀ r ∈ new, facts (key r) (view r)) :
    ReflTransGen (Insert facts) (shown key view rows)
      (shown key view (upsertAll key merge new rows)) := by
  induction new generalizing rows with
  | nil => exact .refl
  | cons r new ih =>
      have hone := upsertWith_insert hkey hmerge hfunctional hrows (hnew r List.mem_cons_self)
      exact hone.trans (ih (fun k v hk => fact_of_inserts hone hrows hk)
        fun r' hr' => hnew r' (List.mem_cons_of_mem r hr'))

end keyed

end TripPipeline.Lib
