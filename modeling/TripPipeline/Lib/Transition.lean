import Mathlib.Logic.Relation
import Mathlib.Tactic.Common

/-!
# Transition systems

A system is a predicate of starting states and a step relation. `Reachable` is what some sequence of
steps leads to; nothing is assumed of the order of the steps, so a property of the reachable states
holds across any interleaving.

* `Reachable.invariant`: a property that holds at the start and is kept by every step holds of every
  reachable state. The proof for a step may use what is already known to be invariant.
* `Simulation`: an abstract system follows a concrete one along a relation, with any number of
  abstract steps for a concrete one. What is reached is related (`Simulation.reachable`), and so is
  every continuation (`Simulation.run`).
-/

namespace TripPipeline.Lib

open Relation

variable {σ τ : Type}

/-- The states that some sequence of steps leads to from a start. -/
def Reachable (start : σ → Prop) (step : σ → σ → Prop) (s : σ) : Prop :=
  ∃ s₀, start s₀ ∧ ReflTransGen step s₀ s

section reachable

variable {start : σ → Prop} {step : σ → σ → Prop} {s s' : σ}

/-- A start state is reachable. -/
theorem Reachable.of_start (h : start s) : Reachable start step s := ⟨s, h, .refl⟩

/-- A step from a reachable state reaches one. -/
theorem Reachable.tail (h : Reachable start step s) (hstep : step s s') :
    Reachable start step s' := by
  obtain ⟨s₀, hstart, hrun⟩ := h
  exact ⟨s₀, hstart, hrun.tail hstep⟩

/-- A run from a reachable state reaches one. -/
theorem Reachable.trans (h : Reachable start step s) (hrun : ReflTransGen step s s') :
    Reachable start step s' := by
  obtain ⟨s₀, hstart, hrun₀⟩ := h
  exact ⟨s₀, hstart, hrun₀.trans hrun⟩

/-- **The rule for invariants.** -/
theorem Reachable.invariant {P : σ → Prop} (h : Reachable start step s)
    (hstart : ∀ s, start s → P s)
    (hstep : ∀ s s', Reachable start step s → P s → step s s' → P s') : P s := by
  obtain ⟨s₀, hs₀, hrun⟩ := h
  induction hrun with
  | refl => exact hstart s₀ hs₀
  | tail hrun hlast ih => exact hstep _ _ ⟨s₀, hs₀, hrun⟩ ih hlast

end reachable

/-! ## Simulation -/

/-- The abstract system follows the concrete one, as far as `R` shows. -/
structure Simulation (start : σ → Prop) (step : σ → σ → Prop) (start' : τ → Prop)
    (step' : τ → τ → Prop) (R : σ → τ → Prop) : Prop where
  starts : ∀ s, start s → ∃ t, start' t ∧ R s t
  /-- Any number of abstract steps may answer a concrete one. -/
  follows : ∀ s s' t, Reachable start step s → R s t → step s s' →
    ∃ t', ReflTransGen step' t t' ∧ R s' t'

namespace Simulation

variable {start : σ → Prop} {step : σ → σ → Prop} {start' : τ → Prop} {step' : τ → τ → Prop}
  {R : σ → τ → Prop} {s s' : σ} {t : τ}

/-- **Every continuation is followed.** -/
theorem run (h : Simulation start step start' step' R) (hreach : Reachable start step s)
    (hR : R s t) (hrun : ReflTransGen step s s') : ∃ t', ReflTransGen step' t t' ∧ R s' t' := by
  induction hrun with
  | refl => exact ⟨t, .refl, hR⟩
  | tail hrun hlast ih =>
      obtain ⟨t₁, hrun₁, hR₁⟩ := ih
      obtain ⟨t₂, hrun₂, hR₂⟩ := h.follows _ _ t₁ (hreach.trans hrun) hR₁ hlast
      exact ⟨t₂, hrun₁.trans hrun₂, hR₂⟩

/-- **Every reachable state is followed by a reachable one.** -/
theorem reachable (h : Simulation start step start' step' R) (hreach : Reachable start step s) :
    ∃ t, Reachable start' step' t ∧ R s t := by
  obtain ⟨s₀, hs₀, hrun⟩ := hreach
  obtain ⟨t₀, ht₀, hR₀⟩ := h.starts s₀ hs₀
  obtain ⟨t, hrun', hR⟩ := h.run (Reachable.of_start hs₀) hR₀ hrun
  exact ⟨t, ⟨t₀, ht₀, hrun'⟩, hR⟩

end Simulation

end TripPipeline.Lib
