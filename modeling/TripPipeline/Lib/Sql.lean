import Mathlib.Data.List.ReduceOption
import Mathlib.Order.MinMax

/-!
# SQL's three-valued logic

A condition on a row is true, false or null (`Option Bool`). A comparison with null is null, and a
filter keeps a row only when its condition is true. So a filter and the filter of the negation are
complements exactly on rows where the condition is not null:

* `filter3_append_not_perm_iff`: the two filters together give back the rows iff no condition is
  null;
* `ge3_eq_not_lt3`: `>=` is the negation of `<`, null included.

`max3` is the aggregate `max`, which ignores nulls.
-/

namespace TripPipeline.Lib

variable {α β : Type}

/-- `NOT`. -/
def not3 (b : Option Bool) : Option Bool := b.map not

/-- `x < y` on nullable values. -/
def lt3 [LT β] [DecidableLT β] (x y : Option β) : Option Bool :=
  x.bind fun a => y.map fun b => decide (a < b)

/-- `x >= y` on nullable values. -/
def ge3 [LE β] [DecidableLE β] (x y : Option β) : Option Bool :=
  x.bind fun a => y.map fun b => decide (b ≤ a)

/-- A filter keeps the rows whose condition is true. -/
def filter3 (p : α → Option Bool) (l : List α) : List α := l.filter fun a => p a == some true

/-- The aggregate `max`. -/
def max3 [Max β] (l : List (Option β)) : Option β := l.reduceOption.max?

/-- A row is kept when the condition is true, not when it is null. -/
theorem mem_filter3 {p : α → Option Bool} {l : List α} {a : α} :
    a ∈ filter3 p l ↔ a ∈ l ∧ p a = some true := by
  rw [filter3, List.mem_filter, beq_iff_eq]

/-- `>=` is the negation of `<`, null included. -/
theorem ge3_eq_not_lt3 [LinearOrder β] (x y : Option β) : ge3 x y = not3 (lt3 x y) := by
  cases x with
  | none => rfl
  | some a =>
      cases y with
      | none => rfl
      | some b => simp [ge3, lt3, not3, ← not_lt]

/-- A comparison with a bound is null only for a null. -/
theorem lt3_eq_none_iff [LT β] [DecidableLT β] (x : Option β) (b : β) :
    lt3 x (some b) = none ↔ x = none := by
  cases x <;> simp [lt3]

/-- A condition that is never null filters as usual. -/
@[simp] theorem filter3_some (p : α → Bool) (l : List α) :
    filter3 (fun a => some (p a)) l = l.filter p := by
  refine List.filter_congr fun a _ => ?_
  show (some (p a) == some true) = p a
  cases p a <;> rfl

/-- The negation of a condition that is never null keeps the others. -/
@[simp] theorem filter3_not_some (p : α → Bool) (l : List α) :
    filter3 (fun a => not3 (some (p a))) l = l.filter fun a => !p a :=
  filter3_some (fun a => !p a) l

/-- **A filter and the filter of the negation are complements iff no condition is null.** -/
theorem filter3_append_not_perm_iff (p : α → Option Bool) (l : List α) :
    (filter3 p l ++ filter3 (fun a => not3 (p a)) l).Perm l ↔ ∀ a ∈ l, p a ≠ none := by
  constructor
  · intro hperm a ha hnull
    rcases List.mem_append.mp (hperm.mem_iff.mpr ha) with h | h
    · rw [(mem_filter3.mp h).2] at hnull
      cases hnull
    · have := (mem_filter3.mp h).2
      rw [hnull] at this
      cases this
  · intro hsome
    have hneg : filter3 (fun a => not3 (p a)) l = l.filter fun a => !(p a == some true) := by
      refine List.filter_congr fun a ha => ?_
      have hne := hsome a ha
      show (not3 (p a) == some true) = _
      rcases hp : p a with _ | _ | _
      · exact absurd hp hne
      · rfl
      · rfl
    rw [hneg]
    exact List.filter_append_perm _ l

/-- A filter that finds nothing. -/
theorem filter3_eq_nil_iff {p : α → Option Bool} {l : List α} :
    filter3 p l = [] ↔ ∀ a ∈ l, p a ≠ some true := by
  rw [filter3, List.filter_eq_nil_iff]
  simp

/-- The greatest value that is not null. -/
theorem max3_eq_some_iff [LinearOrder β] {l : List (Option β)} {b : β} :
    max3 l = some b ↔ some b ∈ l ∧ ∀ a, some a ∈ l → a ≤ b := by
  rw [max3, List.max?_eq_some_iff]
  simp only [List.reduceOption_mem_iff]

/-- The maximum is null when every value is. -/
theorem max3_eq_none_iff [Max β] {l : List (Option β)} :
    max3 l = none ↔ ∀ b, some b ∉ l := by
  rw [max3, List.max?_eq_none_iff, List.eq_nil_iff_forall_not_mem]
  simp only [List.reduceOption_mem_iff]

end TripPipeline.Lib
