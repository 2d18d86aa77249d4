import Mathlib.Data.List.Forall2
import Mathlib.Tactic.Common

/-!
# Successful runs in the `Except` monad

Inversion lemmas for code that may raise: what it means that a sequence, a loop with a body that may
raise, or a traversal ends normally. `foldlM_rec` is the induction rule for loops: what one turn
preserves, a loop that ends normally preserves, and it may use that the loop has done exactly the
turns before. `Ends` says something of both ends, the normal one and an error.
-/

namespace TripPipeline.Lib

variable {ε α β : Type}

/-- A computation and what follows return when both do. -/
theorem bind_eq_ok_iff {m : Except ε α} {k : α → Except ε β} {b : β} :
    (m >>= k) = .ok b ↔ ∃ a, m = .ok a ∧ k a = .ok b := by
  cases m with
  | error e => simp [bind, Except.bind]
  | ok a => simp [bind, Except.bind]

/-- A statement that only checks. -/
theorem bind_unit_eq_ok_iff {m : Except ε Unit} {k : Unit → Except ε β} {b : β} :
    (m >>= k) = .ok b ↔ m = .ok () ∧ k () = .ok b :=
  bind_eq_ok_iff.trans ⟨fun ⟨_, h⟩ => h, fun h => ⟨(), h⟩⟩

/-- A computation that returns, followed by one that does, returns. -/
theorem exists_bind_eq_ok {m : Except ε α} {k : α → Except ε β} {a : α} (hm : m = .ok a)
    (hk : ∃ b, k a = .ok b) : ∃ b, (m >>= k) = .ok b := by
  obtain ⟨b, hb⟩ := hk
  exact ⟨b, bind_eq_ok_iff.mpr ⟨a, hm, hb⟩⟩

/-- A computation has a value when it returns one. -/
theorem toOption_eq_some_iff {m : Except ε α} {a : α} : m.toOption = some a ↔ m = .ok a := by
  cases m <;> simp [Except.toOption]

/-- A traversal ends normally when every element does. -/
theorem mapM_eq_ok_iff {f : α → Except ε β} {l : List α} {r : List β} :
    l.mapM f = .ok r ↔ List.Forall₂ (fun a b => f a = .ok b) l r := by
  induction l generalizing r with
  | nil =>
      rw [List.mapM_nil, List.forall₂_nil_left_iff]
      simp [pure, Except.pure, eq_comm]
  | cons a l ih =>
      rw [List.mapM_cons, bind_eq_ok_iff]
      constructor
      · rintro ⟨b, hb, h⟩
        obtain ⟨bs, hbs, hr⟩ := bind_eq_ok_iff.mp h
        obtain rfl : b :: bs = r := by simpa [pure, Except.pure] using hr
        exact List.Forall₂.cons hb (ih.mp hbs)
      · intro h
        cases h with
        | cons hb hbs => exact ⟨_, hb, bind_eq_ok_iff.mpr ⟨_, ih.mpr hbs, rfl⟩⟩

/-- A traversal, and then an operation on each element with its result. -/
theorem mapM_map_zipWith {γ : Type} (f : α → Except ε β) (h : α → β → γ) (l : List α) :
    (l.mapM f).map (List.zipWith h l) = l.mapM fun a => (f a).map (h a) := by
  induction l with
  | nil => rfl
  | cons a l ih =>
      rw [List.mapM_cons, List.mapM_cons, ← ih]
      cases f a with
      | error e => rfl
      | ok b => cases l.mapM f <;> rfl

/-- Two traversals whose elements fail alike, and agree up to `h` otherwise, do so as a whole. -/
theorem mapM_map_congr {γ : Type} {f g : α → Except ε β} (h : β → γ) {l : List α}
    (hfg : ∀ a ∈ l, (f a).map h = (g a).map h) :
    (l.mapM f).map (List.map h) = (l.mapM g).map (List.map h) := by
  induction l with
  | nil => rfl
  | cons a l ih =>
      have ha := hfg a List.mem_cons_self
      have hl := ih fun b hb => hfg b (List.mem_cons_of_mem _ hb)
      rw [List.mapM_cons, List.mapM_cons]
      cases hf : f a <;> cases hg : g a <;> rw [hf, hg] at ha <;>
        simp only [Except.map, Except.error.injEq, Except.ok.injEq, reduceCtorEq] at ha
      · rw [ha]
        rfl
      · revert hl
        cases l.mapM f <;> cases l.mapM g <;>
          simp [bind, Except.bind, pure, Except.pure, Except.map, ha]

/-- A loop of checks returns when each of them does. -/
theorem forM_eq_ok_iff {f : α → Except ε Unit} {l : List α} :
    l.forM f = .ok () ↔ ∀ a ∈ l, f a = .ok () := by
  induction l with
  | nil => simp [pure, Except.pure]
  | cons a l ih =>
      rw [show (a :: l).forM f = (f a >>= fun _ => l.forM f) from rfl, bind_unit_eq_ok_iff,
        List.forall_mem_cons, ih]

/-- A loop returns when its first turn and the rest of it do. -/
theorem foldlM_cons_eq_ok_iff {f : β → α → Except ε β} {a : α} {l : List α} {b c : β} :
    (a :: l).foldlM f b = .ok c ↔ ∃ b', f b a = .ok b' ∧ l.foldlM f b' = .ok c := by
  rw [List.foldlM_cons, bind_eq_ok_iff]

/-- A loop without turns returns what it began with. -/
theorem foldlM_nil_eq_ok_iff {f : β → α → Except ε β} {b c : β} :
    ([] : List α).foldlM f b = .ok c ↔ b = c := by
  simp [pure, Except.pure]

/-- **The loop rule**: a relation between the turns done and the state reached that holds at the
start and is kept by one turn holds at a normal end. -/
theorem foldlM_rec {f : β → α → Except ε β} {P : List α → β → Prop} {l : List α} {b c : β}
    (h : l.foldlM f b = .ok c) (hstart : P [] b)
    (hstep : ∀ done a s s', P done s → f s a = .ok s' → P (done ++ [a]) s') : P l c := by
  have key : ∀ (rest done : List α) (s : β), P done s → rest.foldlM f s = .ok c →
      P (done ++ rest) c := by
    intro rest
    induction rest with
    | nil =>
        intro done s hs hrest
        obtain rfl := foldlM_nil_eq_ok_iff.mp hrest
        simpa using hs
    | cons a rest ih =>
        intro done s hs hrest
        obtain ⟨s', hs', hrest'⟩ := foldlM_cons_eq_ok_iff.mp hrest
        have := ih (done ++ [a]) s' (hstep done a s s' hs hs') hrest'
        rwa [List.append_assoc, List.singleton_append] at this
  simpa using key l [] b hstart h

/-- A traversal whose elements all end normally ends normally. -/
theorem exists_mapM_eq_ok {f : α → Except ε β} {l : List α} (h : ∀ a ∈ l, ∃ b, f a = .ok b) :
    ∃ r, l.mapM f = .ok r := by
  induction l with
  | nil => exact ⟨[], rfl⟩
  | cons a l ih =>
      obtain ⟨b, hb⟩ := h a List.mem_cons_self
      obtain ⟨r, hr⟩ := ih fun a' ha' => h a' (List.mem_cons_of_mem _ ha')
      exact ⟨b :: r, mapM_eq_ok_iff.mpr (List.Forall₂.cons hb (mapM_eq_ok_iff.mp hr))⟩

/-- In two lists related element by element, every element on the right has one on the left. -/
theorem exists_of_mem_right {R : α → β → Prop} {l : List α} {r : List β}
    (h : List.Forall₂ R l r) {b : β} (hb : b ∈ r) : ∃ a ∈ l, R a b := by
  induction h with
  | nil => cases hb
  | cons ha _ ih =>
      rcases List.mem_cons.mp hb with rfl | hb
      · exact ⟨_, List.mem_cons_self, ha⟩
      · obtain ⟨a', ha', hr⟩ := ih hb
        exact ⟨a', List.mem_cons_of_mem _ ha', hr⟩

/-- And the other way round. -/
theorem exists_of_mem_left {R : α → β → Prop} {l : List α} {r : List β}
    (h : List.Forall₂ R l r) {a : α} (ha : a ∈ l) : ∃ b ∈ r, R a b :=
  exists_of_mem_right h.flip ha

/-- Two lists related to one list element by element: a relation between their elements that comes
down to `P` of the element they stem from. -/
theorem forall₂_iff_of_common {γ : Type} {R : α → β → Prop} {R' : α → γ → Prop}
    {S : β → γ → Prop} {P : α → Prop} {l : List α} {xs : List β} {ys : List γ}
    (hx : List.Forall₂ R l xs) (hy : List.Forall₂ R' l ys)
    (h : ∀ a ∈ l, ∀ x y, R a x → R' a y → (S x y ↔ P a)) :
    List.Forall₂ S xs ys ↔ ∀ a ∈ l, P a := by
  induction hx generalizing ys with
  | nil =>
      rw [List.forall₂_nil_left_iff.mp hy]
      exact iff_of_true List.Forall₂.nil fun a ha => absurd ha List.not_mem_nil
  | cons hax _ ih =>
      obtain ⟨y, ys', hay, hys, rfl⟩ := List.forall₂_cons_left_iff.mp hy
      rw [List.forall₂_cons, List.forall_mem_cons, h _ List.mem_cons_self _ _ hax hay,
        ih hys fun a ha => h a (List.mem_cons_of_mem _ ha)]

/-- Every result of a traversal is the result of an element. -/
theorem exists_of_mem_mapM {f : α → Except ε β} {l : List α} {r : List β} (h : l.mapM f = .ok r)
    {b : β} (hb : b ∈ r) : ∃ a ∈ l, f a = .ok b :=
  exists_of_mem_right (mapM_eq_ok_iff.mp h) hb

/-- A loop whose turns all end normally ends normally. -/
theorem exists_foldlM_eq_ok {f : β → α → Except ε β} {l : List α} (b : β)
    (h : ∀ a ∈ l, ∀ s, ∃ s', f s a = .ok s') : ∃ c, l.foldlM f b = .ok c := by
  induction l generalizing b with
  | nil => exact ⟨b, rfl⟩
  | cons a l ih =>
      obtain ⟨s, hs⟩ := h a List.mem_cons_self b
      obtain ⟨c, hc⟩ := ih s fun a' ha' => h a' (List.mem_cons_of_mem _ ha')
      exact ⟨c, foldlM_cons_eq_ok_iff.mpr ⟨s, hs, hc⟩⟩

/-! ## Both ways to end -/

/-- However a computation ends: `P` of its value, `Q` of the error it raises. -/
def Ends (P : α → Prop) (Q : ε → Prop) : Except ε α → Prop
  | .ok a => P a
  | .error e => Q e

/-- A computation that ends one way ends in any weaker way. -/
theorem Ends.imp {P P' : α → Prop} {Q Q' : ε → Prop} {m : Except ε α} (h : Ends P Q m)
    (hP : ∀ a, P a → P' a) (hQ : ∀ e, Q e → Q' e) : Ends P' Q' m := by
  cases m with
  | error e => exact hQ e h
  | ok a => exact hP a h

/-- A computation and what follows end as what follows ends, or with its error. -/
theorem Ends.bind {P : α → Prop} {P' : β → Prop} {Q : ε → Prop} {m : Except ε α}
    {k : α → Except ε β} (h : Ends P Q m) (hk : ∀ a, P a → Ends P' Q (k a)) :
    Ends P' Q (m >>= k) := by
  cases m with
  | error e => exact h
  | ok a => exact hk a h

/-- **The loop rule for both ends**: what a turn keeps, a loop keeps, and an error leaves what an
error of one turn leaves. -/
theorem Ends.foldlM {P : β → Prop} {Q : ε → Prop} {f : β → α → Except ε β} {l : List α} {b : β}
    (hstart : P b) (hstep : ∀ s, P s → ∀ a, Ends P Q (f s a)) : Ends P Q (l.foldlM f b) := by
  induction l generalizing b with
  | nil => exact hstart
  | cons a l ih =>
      rw [List.foldlM_cons]
      exact (hstep b hstart a).bind fun s hs => ih hs

end TripPipeline.Lib
