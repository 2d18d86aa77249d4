import Mathlib.Data.List.Nodup
import Mathlib.Tactic.Common

/-!
# Tables with a primary key

A table is a list of rows with distinct keys, so that its rows can be counted. `upsertWith` is the
insertion of one row that merges the new row into the one that has its key; `upsertAll` inserts a
list of rows in order. The merge of two rows with one key keeps the key.

* `nodup_upsertAll`: keys stay distinct.
* `lookup_upsertAll`: a list of rows with distinct keys leaves, under each of its keys, the new row
  or its merge with the old one, and leaves every other key alone.
* `map_lookup_upsertAll`: what a merge takes from the new row is that of the last row with the key.
* `mem_replace_iff`: a merge that keeps nothing of the old row replaces it.
-/

namespace TripPipeline.Lib

variable {κ ρ : Type} [DecidableEq κ] (key : ρ → κ) (merge : ρ → ρ → ρ)

/-- The row under a key. -/
def lookupKey (k : κ) (rows : List ρ) : Option ρ := rows.find? fun r => key r = k

/-- Insert `r`, or merge it into the row with its key. -/
def upsertWith (r : ρ) : List ρ → List ρ
  | [] => [r]
  | x :: rows => if key x = key r then merge x r :: rows else x :: upsertWith r rows

/-- Insert the rows of a list in order. -/
def upsertAll (new : List ρ) (rows : List ρ) : List ρ :=
  new.foldl (fun rows r => upsertWith key merge r rows) rows

variable {key merge}

section distinct

variable {α : Type} {f : α → κ}

/-- In a list with distinct keys, a key is found once. -/
theorem filter_key_eq_singleton {l : List α} (hnodup : (l.map f).Nodup) {d : α} (hd : d ∈ l) :
    (l.filter fun x => f x = f d) = [d] := by
  obtain ⟨front, back, rfl⟩ := List.append_of_mem hd
  rw [List.map_append, List.map_cons, List.nodup_middle, List.nodup_cons,
    ← List.map_append] at hnodup
  have hother : ∀ x ∈ front ++ back, ¬ f x = f d := fun x hx heq =>
    hnodup.1 (List.mem_map.mpr ⟨x, hx, heq⟩)
  have hfront : (front.filter fun x => f x = f d) = [] := by
    simpa using fun x hx => hother x (List.mem_append_left back hx)
  have hback : (back.filter fun x => f x = f d) = [] := by
    simpa using fun x hx => hother x (List.mem_append_right front hx)
  simp [hfront, hback]

end distinct

/-- An empty table holds no row. -/
@[simp] theorem lookupKey_nil (k : κ) : lookupKey key k [] = none := rfl

/-- The first row under the key is the one that is found. -/
theorem lookupKey_cons (k : κ) (x : ρ) (rows : List ρ) :
    lookupKey key k (x :: rows) = if key x = k then some x else lookupKey key k rows := by
  unfold lookupKey
  rw [List.find?_cons]
  by_cases h : key x = k
  · simp [h]
  · simp [h]

/-- The row found under a key has the key. -/
theorem key_of_lookupKey {k : κ} {r : ρ} {rows : List ρ} (h : lookupKey key k rows = some r) :
    key r = k := by
  simpa using List.find?_some h

/-- The row found under a key is one of the rows. -/
theorem mem_of_lookupKey {k : κ} {r : ρ} {rows : List ρ} (h : lookupKey key k rows = some r) :
    r ∈ rows := List.mem_of_find?_eq_some h

/-- Distinct keys: each row is found under its own. -/
theorem lookupKey_of_mem {r : ρ} {rows : List ρ} (hnodup : (rows.map key).Nodup) (hr : r ∈ rows) :
    lookupKey key (key r) rows = some r := by
  induction rows with
  | nil => cases hr
  | cons x rows ih =>
      rw [List.map_cons, List.nodup_cons] at hnodup
      rw [lookupKey_cons]
      rcases List.mem_cons.mp hr with rfl | hr
      · exact if_pos rfl
      · have hne : key x ≠ key r := fun hk => hnodup.1 (hk ▸ List.mem_map_of_mem hr)
        rw [if_neg hne]
        exact ih hnodup.2 hr

/-- Nothing is found under a key that no row has. -/
theorem lookupKey_eq_none_iff {k : κ} {rows : List ρ} :
    lookupKey key k rows = none ↔ k ∉ rows.map key := by
  rw [lookupKey, List.find?_eq_none]
  simp

/-- Rows behind are found under the keys that are not in front. -/
theorem lookupKey_append (k : κ) (rows rows' : List ρ) :
    lookupKey key k (rows ++ rows') = (lookupKey key k rows).or (lookupKey key k rows') :=
  List.find?_append

/-- Lists that are related row by row, key by key, have related rows under a key. -/
theorem lookupKey_forall₂ {α : Type} {f : α → κ} {R : α → ρ → Prop} {xs : List α} {rows : List ρ}
    (h : List.Forall₂ R xs rows) (hkey : ∀ x r, R x r → key r = f x) (k : κ) :
    (lookupKey f k xs = none ∧ lookupKey key k rows = none) ∨
      ∃ x r, R x r ∧ lookupKey f k xs = some x ∧ lookupKey key k rows = some r := by
  induction h with
  | nil => exact Or.inl ⟨rfl, rfl⟩
  | @cons x r xs rows hx _ ih =>
      rw [lookupKey_cons, lookupKey_cons, hkey x r hx]
      split_ifs with hk
      · exact Or.inr ⟨x, r, hx, rfl, rfl⟩
      · exact ih

section upsert

variable (hmerge : ∀ old new, key old = key new → key (merge old new) = key old)

include hmerge

/-- An upsert leaves the keys, or adds its own at the end. -/
theorem keys_upsertWith (r : ρ) (rows : List ρ) :
    (upsertWith key merge r rows).map key =
      if key r ∈ rows.map key then rows.map key else rows.map key ++ [key r] := by
  induction rows with
  | nil => simp [upsertWith]
  | cons x rows ih =>
      rw [upsertWith]
      by_cases h : key x = key r
      · simp [h, hmerge x r h]
      · rw [if_neg h, List.map_cons, ih]
        simp only [List.map_cons, List.mem_cons, Ne.symm h, false_or]
        split_ifs
        · rfl
        · rfl

/-- An upsert keeps the keys distinct. -/
theorem nodup_upsertWith {r : ρ} {rows : List ρ} (h : (rows.map key).Nodup) :
    ((upsertWith key merge r rows).map key).Nodup := by
  rw [keys_upsertWith hmerge]
  split_ifs with hmem
  · exact h
  · exact List.nodup_append.mpr ⟨h, List.nodup_singleton _, by
      rintro a ha b hb rfl
      exact hmem (List.mem_singleton.mp hb ▸ ha)⟩

/-- **What one insertion leaves.** -/
theorem lookup_upsertWith (r : ρ) (rows : List ρ) (k : κ) :
    lookupKey key k (upsertWith key merge r rows) =
      if k = key r then some ((lookupKey key k rows).elim r fun old => merge old r)
      else lookupKey key k rows := by
  induction rows with
  | nil =>
      rw [upsertWith, lookupKey_cons]
      by_cases h : k = key r
      · simp [h]
      · simp [h, Ne.symm h]
  | cons x rows ih =>
      rw [upsertWith, lookupKey_cons]
      by_cases hx : key x = key r
      · rw [if_pos hx, lookupKey_cons, hmerge x r hx, hx]
        by_cases h : k = key r
        · simp [h]
        · simp [h, Ne.symm h]
      · rw [if_neg hx, lookupKey_cons, ih]
        by_cases h : k = key r
        · subst h
          simp [hx]
        · simp [h]

/-- Upserts keep the keys distinct. -/
theorem nodup_upsertAll {new rows : List ρ} (h : (rows.map key).Nodup) :
    ((upsertAll key merge new rows).map key).Nodup := by
  induction new generalizing rows with
  | nil => exact h
  | cons r new ih => exact ih (nodup_upsertWith hmerge h)

/-- Keys that are not inserted keep their row. -/
theorem lookup_upsertAll_of_notMem {new rows : List ρ} {k : κ} (h : k ∉ new.map key) :
    lookupKey key k (upsertAll key merge new rows) = lookupKey key k rows := by
  induction new generalizing rows with
  | nil => rfl
  | cons r new ih =>
      have hne : k ≠ key r := fun hk => h (hk ▸ List.mem_cons_self)
      have hrest : k ∉ new.map key := fun hk => h (List.mem_cons_of_mem _ hk)
      show lookupKey key k (upsertAll key merge new (upsertWith key merge r rows)) = _
      rw [ih hrest, lookup_upsertWith hmerge, if_neg hne]

/-- **What a list of rows with distinct keys leaves under one of its keys.** -/
theorem lookup_upsertAll {new rows : List ρ} (hnodup : (new.map key).Nodup) {r : ρ}
    (hr : r ∈ new) :
    lookupKey key (key r) (upsertAll key merge new rows) =
      some ((lookupKey key (key r) rows).elim r fun old => merge old r) := by
  induction new generalizing rows with
  | nil => cases hr
  | cons x new ih =>
      rw [List.map_cons, List.nodup_cons] at hnodup
      show lookupKey key (key r) (upsertAll key merge new (upsertWith key merge x rows)) = _
      rcases List.mem_cons.mp hr with rfl | hr
      · rw [lookup_upsertAll_of_notMem hmerge hnodup.1, lookup_upsertWith hmerge, if_pos rfl]
      · have hne : key r ≠ key x :=
          fun hk => hnodup.1 (hk ▸ List.mem_map_of_mem hr)
        rw [ih hnodup.2 hr, lookup_upsertWith hmerge, if_neg hne]

/-- **What a list of rows leaves of what a merge takes from the new row**: under each key that of
the last row with the key. -/
theorem map_lookup_upsertAll {γ : Type} {f : ρ → γ} (hf : ∀ old new, f (merge old new) = f new)
    (new rows : List ρ) (k : κ) :
    (lookupKey key k (upsertAll key merge new rows)).map f =
      ((lookupKey key k new.reverse).or (lookupKey key k rows)).map f := by
  induction new generalizing rows with
  | nil => rfl
  | cons r new ih =>
      have hone : (lookupKey key k (upsertWith key merge r rows)).map f =
          ((lookupKey key k [r]).or (lookupKey key k rows)).map f := by
        rw [lookup_upsertWith hmerge, lookupKey_cons, lookupKey_nil]
        by_cases hk : k = key r
        · subst hk
          rcases lookupKey key (key r) rows with _ | old
          · simp
          · simp [hf]
        · simp [hk, Ne.symm hk]
      show (lookupKey key k (upsertAll key merge new (upsertWith key merge r rows))).map f = _
      rw [ih, List.reverse_cons, lookupKey_append, Option.or_assoc, Option.map_or, hone,
        ← Option.map_or]

end upsert

/-- **A replacement**: the new row, and the old ones with another key. -/
theorem mem_replace_iff {r x : ρ} {rows : List ρ} (hnodup : (rows.map key).Nodup) :
    x ∈ upsertWith key (fun _ new => new) r rows ↔ x = r ∨ x ∈ rows ∧ key x ≠ key r := by
  have hkey : ∀ old new : ρ, key old = key new → key ((fun _ new => new) old new) = key old :=
    fun _ _ h => h.symm
  have hlookup := lookup_upsertWith hkey r rows (key x)
  constructor
  · intro hx
    rw [lookupKey_of_mem (nodup_upsertWith hkey hnodup) hx] at hlookup
    split_ifs at hlookup with hk
    · left
      rcases hold : lookupKey key (key x) rows with _ | old <;>
        simpa [hold] using hlookup
    · exact Or.inr ⟨mem_of_lookupKey hlookup.symm, hk⟩
  · rintro (rfl | ⟨hx, hk⟩)
    · rw [if_pos rfl] at hlookup
      have hnew : lookupKey key (key x) (upsertWith key (fun _ new => new) x rows) = some x := by
        rw [hlookup]
        cases lookupKey key (key x) rows <;> rfl
      exact mem_of_lookupKey hnew
    · rw [if_neg hk, lookupKey_of_mem hnodup hx] at hlookup
      exact mem_of_lookupKey hlookup

end TripPipeline.Lib
