import Mathlib.Data.Set.Basic
import TripPipeline.Lib.Transition

/-!
# Custody

What a service that delivers at least once promises, whatever it delivers and however: an item it
has accepted waits until it is settled, and what is settled stays so. An item may be settled while
it waits, and again and again.

* `Custody.nothing_lost`: an accepted item waits or is settled.
* `Custody.settled_subset`: settled items stay settled.
-/

namespace TripPipeline.Lib

open Relation

variable {ι : Type}

/-- The items of a service. -/
@[ext] structure Custody (ι : Type) where
  accepted : Set ι
  waiting : Set ι
  settled : Set ι

namespace Custody

/-- Nothing was accepted yet. -/
def Fresh (c : Custody ι) : Prop := c.accepted = ∅ ∧ c.waiting = ∅

/-- The steps of a service. -/
inductive Step : Custody ι → Custody ι → Prop
  | accept (c : Custody ι) (new : Set ι) :
      Step c ⟨c.accepted ∪ new, c.waiting ∪ new, c.settled⟩
  | settle (c : Custody ι) (done : Set ι) : Step c { c with settled := c.settled ∪ done }
  /-- Only settled items may leave. -/
  | release (c : Custody ι) (gone : Set ι) : gone ⊆ c.settled →
      Step c { c with waiting := c.waiting \ gone }

/-- The states of a service. -/
abbrev Reached (c : Custody ι) : Prop := Reachable Fresh Step c

variable {c c' : Custody ι}

/-- **Nothing is lost.** -/
theorem nothing_lost (h : Reached c) : c.accepted ⊆ c.waiting ∪ c.settled := by
  refine h.invariant (P := fun c => c.accepted ⊆ c.waiting ∪ c.settled) ?_ ?_
  · rintro c ⟨hnone, -⟩
    rw [hnone]
    exact Set.empty_subset _
  · intro c c' _ hinv hstep
    cases hstep with
    | accept new =>
        rintro x (hx | hx)
        · exact (hinv hx).imp_left Or.inl
        · exact Or.inl (Or.inr hx)
    | settle done =>
        intro x hx
        exact (hinv hx).imp_right Or.inl
    | release gone hgone =>
        intro x hx
        rcases hinv hx with hwait | hsettled
        · by_cases hout : x ∈ gone
          · exact Or.inr (hgone hout)
          · exact Or.inl ⟨hwait, hout⟩
        · exact Or.inr hsettled

/-- **What is settled stays settled.** -/
theorem settled_subset (h : ReflTransGen Step c c') : c.settled ⊆ c'.settled := by
  induction h with
  | refl => exact subset_rfl
  | tail _ hstep ih =>
      cases hstep with
      | accept new => exact ih
      | settle done => exact ih.trans Set.subset_union_left
      | release gone _ => exact ih

end Custody

end TripPipeline.Lib
