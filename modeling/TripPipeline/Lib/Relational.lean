import Mathlib.Data.List.Forall2
import Mathlib.Data.Multiset.Dedup
import Mathlib.Data.Multiset.Filter
import Mathlib.Data.Rat.Floor
import TripPipeline.Lib.KeyedTable

/-!
# Joins, groups and the first rows

Tables with a primary key (`Keyed`), filled by INSERTs with ON CONFLICT DO NOTHING, and the
operators of a SELECT: `join` with such a table on its key, `groupBy` with the aggregates of each
group, `IsTop` for ORDER BY with LIMIT.

Two queries are compared through a relation between the rows of the one and the rows of the other:

* `forall₂_join`: a join with a table in which every row finds its key, and finds it once, keeps the
  rows and their order.
* `map_filter_eq`: related rows with one condition and one value give one list of values.
* `groupBy` sees nothing but these values. `IsTop.unique` is the case in which LIMIT leaves no
  choice.
-/

namespace TripPipeline.Lib

variable {α β γ κ ν ρ ω : Type}

/-! ## Tables -/

/-- A table with a primary key. -/
structure Keyed (key : ρ → κ) where
  rows : List ρ
  nodup : (rows.map key).Nodup

namespace Keyed

variable {key : ρ → κ}

/-- The table without rows. -/
def empty : Keyed key := ⟨[], List.nodup_nil⟩

/-- A key has one row. -/
theorem eq_of_key (t : Keyed key) {a b : ρ} (ha : a ∈ t.rows) (hb : b ∈ t.rows)
    (h : key a = key b) : a = b :=
  List.inj_on_of_nodup_map t.nodup ha hb h

section insert

variable {υ : Type} [DecidableEq κ] [DecidableEq υ] (unique : ρ → υ)

/-- Insert a row, unless its key or its value of a UNIQUE column is there. -/
def insertOne (t : Keyed key) (r : ρ) : Keyed key :=
  if h : ∀ a ∈ t.rows, key a ≠ key r ∧ unique a ≠ unique r then
    ⟨t.rows ++ [r], by
      rw [List.map_append, List.map_singleton, List.nodup_append]
      refine ⟨t.nodup, List.nodup_singleton _, ?_⟩
      rintro _ hk _ hr rfl
      obtain ⟨a, ha, hkey⟩ := List.mem_map.mp hk
      exact (h a ha).1 (hkey.trans (List.mem_singleton.mp hr))⟩
  else t

/-- `INSERT ... ON CONFLICT DO NOTHING`, row by row. -/
def insertNew (t : Keyed key) (rows : List ρ) : Keyed key := rows.foldl (insertOne unique) t

variable {unique}

/-- Rows that do not conflict are all inserted. -/
theorem rows_insertNew {t : Keyed key} {rows : List ρ} (hkey : ((t.rows ++ rows).map key).Nodup)
    (hunique : ((t.rows ++ rows).map unique).Nodup) :
    (t.insertNew unique rows).rows = t.rows ++ rows := by
  induction rows generalizing t with
  | nil => simp [insertNew]
  | cons r rows ih =>
      have hfresh : ∀ a ∈ t.rows, key a ≠ key r ∧ unique a ≠ unique r := by
        intro a ha
        simp only [List.map_append, List.map_cons, List.nodup_append] at hkey hunique
        exact ⟨hkey.2.2 _ (List.mem_map_of_mem ha) _ List.mem_cons_self,
          hunique.2.2 _ (List.mem_map_of_mem ha) _ List.mem_cons_self⟩
      have hrows : (t.insertOne unique r).rows = t.rows ++ [r] := by
        rw [insertOne, dif_pos hfresh]
      have hrest : ((t.insertOne unique r).insertNew unique rows).rows =
          (t.insertOne unique r).rows ++ rows :=
        ih (by simpa [hrows] using hkey) (by simpa [hrows] using hunique)
      rw [insertNew, List.foldl_cons]
      rw [insertNew, hrows] at hrest
      simpa using hrest

end insert

end Keyed

/-! ## Joins -/

section join

variable [DecidableEq κ] {key : β → κ} (foreign : α → κ)

/-- `l JOIN dim ON key = foreign`. -/
def join (l : List α) (dim : Keyed key) : List (α × β) :=
  l.flatMap fun a => (dim.rows.filter fun d => key d = foreign a).map fun d => (a, d)

variable {foreign}

/-- **A join with a table of keys keeps the rows.** -/
theorem forall₂_join {R : ω → α → Prop} {dim : Keyed key} {ws : List ω} {l : List α}
    (h : List.Forall₂ R ws l) (hfound : ∀ w a, R w a → ∃ d ∈ dim.rows, key d = foreign a) :
    List.Forall₂ (fun w p => R w p.1 ∧ p.2 ∈ dim.rows ∧ key p.2 = foreign p.1) ws
      (join foreign l dim) := by
  induction h with
  | nil => exact List.Forall₂.nil
  | @cons w a ws l hwa _ ih =>
      obtain ⟨d, hd, hkey⟩ := hfound w a hwa
      have hone : (dim.rows.filter fun x => key x = foreign a) = [d] := by
        rw [← hkey]
        exact filter_key_eq_singleton dim.nodup hd
      rw [join, List.flatMap_cons, hone]
      exact List.Forall₂.cons ⟨hwa, hd, hkey⟩ ih

end join

/-- **Related rows give the same values.** -/
theorem map_filter_eq {R : α → β → Prop} {l : List α} {r : List β} (h : List.Forall₂ R l r)
    {p : α → Bool} {q : β → Bool} {f : α → γ} {g : β → γ} (hp : ∀ a b, R a b → p a = q b)
    (hf : ∀ a b, R a b → f a = g b) : (l.filter p).map f = (r.filter q).map g := by
  induction h with
  | nil => rfl
  | @cons a b l r hab _ ih =>
      have hpq := hp a b hab
      by_cases hqb : q b = true
      · simp [hpq, hqb, hf a b hab, ih]
      · simp [hpq, hqb, ih]

/-! ## Groups -/

section group

variable [DecidableEq κ] (row : κ → Multiset ν → γ)

/-- The groups of a multiset of keys with values, each with the row made of it. -/
def groupBy (rows : Multiset (κ × ν)) : Multiset γ :=
  (rows.map Prod.fst).dedup.map fun k => row k ((rows.filter fun r => r.1 = k).map Prod.snd)

variable {row}

/-- Groups are told apart by their keys. -/
theorem eq_of_groupBy {key : γ → κ} (hkey : ∀ k vs, key (row k vs) = k) {rows : Multiset (κ × ν)}
    {a b : γ} (ha : a ∈ groupBy row rows) (hb : b ∈ groupBy row rows) (h : key a = key b) :
    a = b := by
  obtain ⟨k, -, rfl⟩ := Multiset.mem_map.mp ha
  obtain ⟨k', -, rfl⟩ := Multiset.mem_map.mp hb
  rw [hkey, hkey] at h
  rw [h]

end group

/-! ## The first rows -/

/-- `out` is a possible result of `ORDER BY ... LIMIT n`: rows that the order does not separate come
in any order. -/
def IsTop (le : γ → γ → Prop) (n : ℕ) (rows : Multiset γ) (out : List γ) : Prop :=
  ∃ sorted : List γ, (sorted : Multiset γ) = rows ∧ sorted.Pairwise le ∧ out = sorted.take n

/-- Over a total preorder there is a result. -/
theorem exists_isTop {le : γ → γ → Prop} [DecidableRel le]
    (htrans : ∀ a b c, le a b → le b c → le a c) (htotal : ∀ a b, le a b ∨ le b a) (n : ℕ)
    (rows : Multiset γ) : ∃ out, IsTop le n rows out := by
  obtain ⟨l, rfl⟩ := Quotient.exists_rep rows
  have hsorted : (l.mergeSort fun a b => decide (le a b)).Pairwise fun a b =>
      decide (le a b) = true := by
    apply List.pairwise_mergeSort
    · intro a b c hab hbc
      simp only [decide_eq_true_eq] at hab hbc ⊢
      exact htrans a b c hab hbc
    · intro a b
      simp only [Bool.or_eq_true, decide_eq_true_eq]
      exact htotal a b
  exact ⟨_, _, Quotient.sound (List.mergeSort_perm l _), hsorted.imp fun h => by simpa using h, rfl⟩

/-- Where the order separates the rows, LIMIT leaves no choice. -/
theorem IsTop.unique {le : γ → γ → Prop} {n : ℕ} {rows : Multiset γ} {out out' : List γ}
    (hanti : ∀ a ∈ rows, ∀ b ∈ rows, le a b → le b a → a = b) (h : IsTop le n rows out)
    (h' : IsTop le n rows out') : out = out' := by
  obtain ⟨sorted, hrows, hsorted, rfl⟩ := h
  obtain ⟨sorted', hrows', hsorted', rfl⟩ := h'
  have hperm : sorted.Perm sorted' := Multiset.coe_eq_coe.mp (hrows.trans hrows'.symm)
  have heq : sorted = sorted' := by
    refine List.Perm.eq_of_pairwise ?_ hsorted hsorted' hperm
    intro a b ha hb
    exact hanti a (hrows ▸ Multiset.mem_coe.mpr ha) b (hrows' ▸ Multiset.mem_coe.mpr hb)
  rw [heq]

/-! ## Numbers -/

/-- `ROUND` to a number of decimal places: a half away from zero. -/
def roundAway (places : ℕ) (x : ℚ) : ℚ :=
  if 0 ≤ x then ⌊x * 10 ^ places + 1 / 2⌋ / 10 ^ places
  else -(⌊-x * 10 ^ places + 1 / 2⌋ / 10 ^ places)

end TripPipeline.Lib
