import Mathlib.Data.List.Sort
import Mathlib.Tactic.Common

/-!
# Sorted lists and their prefixes

A list is sorted by a key with a stable sort, and the longest prefix is taken on which a test holds.
Its last element is meant to have the greatest key up to which every element passes.

* `filter_mergeSort_key`: a stable sort keeps the order of the elements of one key.
* `lt_countP_lt`, `countP_lt_le`: the elements of a sorted list below a bound are a prefix.
* `isGreatestClean_iff`: the prefix gives that key iff the first element with the least failing key
  fails. An element that passes, with the same key and before it, is taken along.
-/

namespace TripPipeline.Lib

section stable

variable {α κ : Type} [LinearOrder κ] (key : α → κ)

/-- The order by the key. -/
def keyLe (a b : α) : Bool := key a ≤ key b

variable {key}

/-- `keyLe` compares the keys. -/
theorem keyLe_iff {a b : α} : keyLe key a b = true ↔ key a ≤ key b := by
  simp [keyLe]

/-- Comparing keys is transitive. -/
theorem keyLe_trans (a b c : α) (hab : keyLe key a b = true) (hbc : keyLe key b c = true) :
    keyLe key a c = true := by
  rw [keyLe_iff] at hab hbc ⊢
  exact hab.trans hbc

/-- Any two keys compare. -/
theorem keyLe_total (a b : α) : (keyLe key a b || keyLe key b a) = true := by
  simp [keyLe, le_total]

/-- The keys of a sorted list do not fall. -/
theorem pairwise_mergeSort_key (l : List α) :
    (l.mergeSort (keyLe key)).Pairwise fun a b => key a ≤ key b := by
  apply (List.pairwise_mergeSort keyLe_trans keyLe_total l).imp
  intro a b hab
  exact keyLe_iff.mp hab

/-- **The sort keeps the order of the elements of one key.** -/
theorem filter_mergeSort_key (l : List α) (x : κ) :
    (l.mergeSort (keyLe key)).filter (fun a => key a = x) = l.filter fun a => key a = x := by
  have hsame : (l.filter fun a => key a = x).Pairwise fun a b => keyLe key a b = true := by
    apply List.pairwise_of_forall_mem_list
    intro a ha b hb
    simp only [List.mem_filter, decide_eq_true_eq] at ha hb
    simp [keyLe, ha.2, hb.2]
  have hsub : (l.filter fun a => key a = x).Sublist (l.mergeSort (keyLe key)) :=
    List.sublist_mergeSort keyLe_trans keyLe_total hsame List.filter_sublist
  have hfilter := hsub.filter fun a => key a = x
  simp only [List.filter_filter, Bool.and_self] at hfilter
  apply (hfilter.eq_of_length _).symm
  exact ((List.mergeSort_perm l (keyLe key)).filter _).length_eq.symm

/-- The stable sort leaves the first element of each key the first. -/
theorem find?_mergeSort_key (l : List α) (x : κ) :
    (l.mergeSort (keyLe key)).find? (fun a => key a = x) = l.find? fun a => key a = x := by
  rw [← List.head?_filter, ← List.head?_filter, filter_mergeSort_key]

end stable

section bound

variable {α : Type} [LinearOrder α] {s : List α} {c : α}

/-- An element below the bound has all those before it with it. -/
theorem lt_countP_lt {i : ℕ} (hsorted : s.Pairwise (· ≤ ·)) (hi : i < s.length) (h : s[i] < c) :
    i < s.countP fun v => v < c := by
  have hall : (s.take (i + 1)).countP (fun v => v < c) = (s.take (i + 1)).length := by
    rw [List.countP_eq_length]
    intro v hv
    obtain ⟨j, hj, rfl⟩ := List.mem_take_iff_getElem.mp hv
    rw [decide_eq_true_eq]
    refine lt_of_le_of_lt ?_ h
    rcases (show j ≤ i by omega).eq_or_lt with rfl | hlt
    · exact le_rfl
    · exact List.pairwise_iff_getElem.mp hsorted j i _ hi hlt
  have hsub := (List.take_sublist (i + 1) s).countP_le (p := fun v : α => decide (v < c))
  rw [hall, List.length_take] at hsub
  omega

/-- An element at the bound or above it has all those after it with it. -/
theorem countP_lt_le {i : ℕ} (hsorted : s.Pairwise (· ≤ ·)) (hi : i < s.length) (h : c ≤ s[i]) :
    (s.countP fun v => v < c) ≤ i := by
  have hnone : (s.drop i).countP (fun v => v < c) = 0 := by
    rw [List.countP_eq_zero]
    intro v hv
    obtain ⟨j, hj, rfl⟩ := List.mem_drop_iff_getElem.mp hv
    rw [decide_eq_true_eq, not_lt]
    refine h.trans ?_
    rcases (Nat.le_add_right i j).eq_or_lt with heq | hlt
    · simp only [← heq, le_refl]
    · exact List.pairwise_iff_getElem.mp hsorted i (i + j) hi _ hlt
  have hsplit : (s.take i ++ s.drop i).countP (fun v => v < c) =
      (s.take i).countP (fun v => v < c) + (s.drop i).countP fun v => v < c :=
    List.countP_append
  rw [List.take_append_drop, hnone, Nat.add_zero] at hsplit
  rw [hsplit]
  exact List.countP_le_length.trans (List.length_take_le i s)

end bound

section scan

variable {α κ : Type} [LinearOrder κ] (key : α → κ) (p : α → Bool)

/-- Every element with a key up to `x` passes. -/
def CleanUpTo (l : List α) (x : κ) : Prop := ∀ a ∈ l, key a ≤ x → p a = true

/-- The greatest key that is clean, if there is one. -/
def IsGreatestClean (l : List α) : Option κ → Prop
  | some x => (∃ a ∈ l, key a = x) ∧ CleanUpTo key p l x ∧
      ∀ a ∈ l, x < key a → ¬CleanUpTo key p l (key a)
  | none => ∀ a ∈ l, ¬CleanUpTo key p l (key a)

/-- The key of the last element of the longest prefix that passes. -/
def prefixKey (l : List α) : Option κ := (l.takeWhile p).getLast?.map key

/-- The first element of its key is a failure, for each failure of the least failing key. -/
def FailureFirst (l : List α) : Prop :=
  ∀ a ∈ l, p a = false → (∀ b ∈ l, p b = false → key a ≤ key b) →
    ∃ b, l.find? (fun b => key b = key a) = some b ∧ p b = false

variable {key p}

/-- The order of the elements does not matter to `CleanUpTo`. -/
theorem cleanUpTo_perm {l l' : List α} (h : l.Perm l') (x : κ) :
    CleanUpTo key p l x ↔ CleanUpTo key p l' x := by
  simp [CleanUpTo, h.mem_iff]

/-- The order of the elements does not matter to the greatest clean key. -/
theorem isGreatestClean_perm {l l' : List α} (h : l.Perm l') (o : Option κ) :
    IsGreatestClean key p l o ↔ IsGreatestClean key p l' o := by
  cases o <;> simp [IsGreatestClean, cleanUpTo_perm h, h.mem_iff]

/-- Sorting does not change which element of a key comes first. -/
theorem failureFirst_mergeSort {l : List α} :
    FailureFirst key p (l.mergeSort (keyLe key)) ↔ FailureFirst key p l := by
  simp [FailureFirst, find?_mergeSort_key]

/-- The prefix that passes ends at the first failure. -/
theorem takeWhile_cases (p : α → Bool) (l : List α) :
    (l.takeWhile p = l ∧ ∀ a ∈ l, p a = true) ∨
      ∃ front f back, l = front ++ f :: back ∧ l.takeWhile p = front ∧
        (∀ a ∈ front, p a = true) ∧ p f = false := by
  induction l with
  | nil => exact Or.inl ⟨rfl, fun a ha => absurd ha List.not_mem_nil⟩
  | cons a l ih =>
      rcases hp : p a with _ | _
      · exact Or.inr ⟨[], a, l, rfl, by simp [hp], fun b hb => absurd hb List.not_mem_nil, hp⟩
      · rcases ih with ⟨htake, hall⟩ | ⟨front, f, back, rfl, htake, hfront, hf⟩
        · exact Or.inl ⟨by simp [hp, htake], List.forall_mem_cons.mpr ⟨hp, hall⟩⟩
        · exact Or.inr ⟨a :: front, f, back, rfl, by simp [hp, htake],
            List.forall_mem_cons.mpr ⟨hp, hfront⟩, hf⟩

section split

variable {front back : List α} {f : α}

/-- In a sorted list the failures have at least the key of the first one. -/
theorem first_failure_le (hsorted : (front ++ f :: back).Pairwise fun a b => key a ≤ key b)
    (hfront : ∀ a ∈ front, p a = true) {a : α} (ha : a ∈ front ++ f :: back)
    (hp : p a = false) : key f ≤ key a := by
  rcases List.mem_append.mp ha with hmem | hmem
  · simp [hfront a hmem] at hp
  · rcases List.mem_cons.mp hmem with rfl | hmem
    · exact le_rfl
    · exact (List.pairwise_cons.mp (List.pairwise_append.mp hsorted).2.1).1 a hmem

/-- An element below the first failure stands before it. -/
theorem mem_front_of_lt (hsorted : (front ++ f :: back).Pairwise fun a b => key a ≤ key b) {a : α}
    (ha : a ∈ front ++ f :: back) (hlt : key a < key f) : a ∈ front := by
  rcases List.mem_append.mp ha with hmem | hmem
  · exact hmem
  · rcases List.mem_cons.mp hmem with rfl | hmem
    · exact absurd hlt (lt_irrefl _)
    · have hle := (List.pairwise_cons.mp (List.pairwise_append.mp hsorted).2.1).1 a hmem
      exact absurd hlt (not_lt.mpr hle)

/-- A failure comes first iff what stands before it has smaller keys. -/
theorem failureFirst_split (hsorted : (front ++ f :: back).Pairwise fun a b => key a ≤ key b)
    (hfront : ∀ a ∈ front, p a = true) (hf : p f = false) :
    FailureFirst key p (front ++ f :: back) ↔ ∀ a ∈ front, key a < key f := by
  have hmem : f ∈ front ++ f :: back := List.mem_append_cons_self
  constructor
  · intro h a ha
    apply lt_of_le_of_ne ((List.pairwise_append.mp hsorted).2.2 a ha f List.mem_cons_self)
    intro heq
    obtain ⟨b, hb, hpb⟩ := h f hmem hf fun c hc hpc => first_failure_le hsorted hfront hc hpc
    -- the search stops at `a` or before it
    have hfind : (front.find? fun b => key b = key f).isSome := by
      simp only [List.find?_isSome, decide_eq_true_eq]
      exact ⟨a, ha, heq⟩
    obtain ⟨c, hc⟩ := Option.isSome_iff_exists.mp hfind
    rw [List.find?_append, hc, Option.some_or, Option.some.injEq] at hb
    subst hb
    simp [hfront c (List.mem_of_find?_eq_some hc)] at hpb
  · intro h a ha hpa hleast
    have hkey : key a = key f :=
      le_antisymm (hleast f hmem hf) (first_failure_le hsorted hfront ha hpa)
    have hnone : (front.find? fun b => key b = key f) = none := by
      simp only [List.find?_eq_none, decide_eq_true_eq]
      exact fun b hb => (h b hb).ne
    refine ⟨f, ?_, hf⟩
    rw [hkey, List.find?_append, hnone]
    simp

/-- The last element before the first failure has the key iff what stands there has smaller keys. -/
theorem isGreatestClean_split (hsorted : (front ++ f :: back).Pairwise fun a b => key a ≤ key b)
    (hfront : ∀ a ∈ front, p a = true) (hf : p f = false) :
    IsGreatestClean key p (front ++ f :: back) (front.getLast?.map key) ↔
      ∀ a ∈ front, key a < key f := by
  have hunclean : ∀ x, key f ≤ x → ¬CleanUpTo key p (front ++ f :: back) x := by
    intro x hx hclean
    simp [hclean f List.mem_append_cons_self hx] at hf
  rcases List.eq_nil_or_concat' front with rfl | ⟨front, s, rfl⟩
  · apply iff_of_true _ fun a ha => absurd ha List.not_mem_nil
    intro a ha
    apply hunclean
    rcases List.mem_cons.mp ha with rfl | ha
    · exact le_rfl
    · exact (List.pairwise_cons.mp hsorted).1 a ha
  · rw [List.getLast?_concat, Option.map_some]
    have hlast : ∀ a ∈ front ++ [s], key a ≤ key s := by
      intro a ha
      rcases List.mem_append.mp ha with ha | ha
      · exact (List.pairwise_append.mp (List.pairwise_append.mp hsorted).1).2.2 a ha s
          (List.mem_singleton_self s)
      · rw [List.mem_singleton.mp ha]
    constructor
    · rintro ⟨-, hclean, -⟩ a ha
      exact (hlast a ha).trans_lt (not_le.mp fun hle => hunclean _ hle hclean)
    · intro h
      have hs := h s (List.mem_append_right _ (List.mem_singleton_self s))
      refine ⟨⟨s, by simp, rfl⟩, fun a ha hle => ?_, fun a ha hlt => ?_⟩
      · exact hfront a (mem_front_of_lt hsorted ha (hle.trans_lt hs))
      · apply hunclean
        by_contra hbelow
        exact absurd (hlast a (mem_front_of_lt hsorted ha (not_le.mp hbelow))) (not_le.mpr hlt)

end split

/-- On a sorted list. -/
theorem isGreatestClean_sorted {l : List α} (hsorted : l.Pairwise fun a b => key a ≤ key b) :
    IsGreatestClean key p l (prefixKey key p l) ↔ FailureFirst key p l := by
  unfold prefixKey
  rcases takeWhile_cases p l with ⟨htake, hall⟩ | ⟨front, f, back, rfl, htake, hfront, hf⟩
  · rw [htake]
    apply iff_of_true
    · rcases List.eq_nil_or_concat' l with rfl | ⟨front, s, rfl⟩
      · exact fun a ha => absurd ha List.not_mem_nil
      · rw [List.getLast?_concat, Option.map_some]
        refine ⟨⟨s, by simp, rfl⟩, fun a ha _ => hall a ha, fun a ha hlt => absurd hlt ?_⟩
        rcases List.mem_append.mp ha with ha | ha
        · exact not_lt.mpr ((List.pairwise_append.mp hsorted).2.2 a ha s
            (List.mem_singleton_self s))
        · simp [List.mem_singleton.mp ha]
    · intro a ha hp
      simp [hall a ha] at hp
  · rw [htake, isGreatestClean_split hsorted hfront hf, failureFirst_split hsorted hfront hf]

/-- **The prefix of the sorted list gives the greatest clean key iff a failure comes first.** -/
theorem isGreatestClean_iff (l : List α) :
    IsGreatestClean key p l (prefixKey key p (l.mergeSort (keyLe key))) ↔ FailureFirst key p l := by
  rw [← isGreatestClean_perm (List.mergeSort_perm l (keyLe key)),
    isGreatestClean_sorted (pairwise_mergeSort_key l), failureFirst_mergeSort]

end scan

end TripPipeline.Lib
