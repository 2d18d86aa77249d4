import Mathlib.Algebra.BigOperators.Group.Multiset.Basic
import Mathlib.Algebra.Order.Group.Multiset
import Mathlib.Algebra.Ring.Nat
import Mathlib.Data.Multiset.Count

/-!
# Dictionaries of counts

A `dict` that maps keys to counts and is only ever changed by `d[k] = d.get(k, 0) + n`. `Counter`
keeps the insertion order the `dict` has and carries the distinctness of its keys as a field. Its
meaning is the multiset `toMultiset`, in which a key occurs as often as its count says:

* `get_eq_count`: a lookup is a multiplicity;
* `toMultiset_add`, `toMultiset_merge`: an update adds copies of one key, a key-wise merge adds
  the multisets;
* `total_eq_card`: the sum of the counts is the cardinality;
* `toMultiset_sortKeys`: sorting by key changes nothing;
* `entries_perm`, `sortKeys_eq`: two counters with the same multiset and without zero counts differ
  only in insertion order, and are equal when sorted.
-/

set_option linter.unusedSectionVars false

namespace TripPipeline.Lib

/-- In a list whose keys are distinct a lookup finds what the list has. -/
theorem lookup_eq_some_iff_of_nodup {κ β : Type} [BEq κ] [LawfulBEq κ] {l : List (κ × β)} {k : κ}
    {b : β} (h : (l.map Prod.fst).Nodup) : l.lookup k = some b ↔ (k, b) ∈ l := by
  rw [List.lookup_eq_some_iff]
  constructor
  · rintro ⟨l₁, l₂, hsplit, -⟩
    rw [hsplit]
    exact List.mem_append_cons_self
  · intro hmem
    obtain ⟨l₁, l₂, hsplit⟩ := List.append_of_mem hmem
    refine ⟨l₁, l₂, hsplit, fun p hp => ?_⟩
    rw [hsplit, List.map_append, List.map_cons, List.nodup_middle, List.nodup_cons,
      ← List.map_append] at h
    have hkey : p.1 ∈ (l₁ ++ l₂).map Prod.fst := List.mem_map_of_mem (List.mem_append_left l₂ hp)
    have hne : k ≠ p.1 := fun heq => h.1 (heq ▸ hkey)
    simpa using hne

variable {α : Type} [DecidableEq α]

/-- Increase the count of `k` by `n`; a new key goes to the end. -/
def bump (k : α) (n : ℕ) : List (α × ℕ) → List (α × ℕ)
  | [] => [(k, n)]
  | (k', m) :: l => if k' = k then (k', m + n) :: l else (k', m) :: bump k n l

/-- Counting a key adds it to the keys. -/
theorem mem_keys_bump (k : α) (n : ℕ) (l : List (α × ℕ)) (x : α) :
    x ∈ (bump k n l).map Prod.fst ↔ x = k ∨ x ∈ l.map Prod.fst := by
  induction l with
  | nil => simp [bump]
  | cons p l ih =>
      obtain ⟨k', m⟩ := p
      by_cases hk : k' = k
      · subst hk
        simp [bump]
      · rw [bump, if_neg hk]
        simp only [List.map_cons, List.mem_cons, ih]
        tauto

/-- Counting keeps the keys distinct. -/
theorem nodup_bump (k : α) (n : ℕ) {l : List (α × ℕ)} (h : (l.map Prod.fst).Nodup) :
    ((bump k n l).map Prod.fst).Nodup := by
  induction l with
  | nil => simp [bump]
  | cons p l ih =>
      obtain ⟨k', m⟩ := p
      by_cases hk : k' = k
      · subst hk
        simpa [bump] using h
      · rw [bump, if_neg hk]
        simp only [List.map_cons, List.nodup_cons] at h ⊢
        refine ⟨?_, ih h.2⟩
        rw [mem_keys_bump]
        rintro (rfl | hmem)
        · exact hk rfl
        · exact h.1 hmem

/-- A `dict` of counts, in insertion order. -/
structure Counter (α : Type) where
  entries : List (α × ℕ)
  /-- The keys of a `dict` are distinct. -/
  nodup : (entries.map Prod.fst).Nodup

namespace Counter

/-- The empty `dict`. -/
def empty : Counter α := ⟨[], List.nodup_nil⟩

instance : Inhabited (Counter α) := ⟨empty⟩

/-- `d[k] = d.get(k, 0) + n`. -/
def add (c : Counter α) (k : α) (n : ℕ) : Counter α := ⟨bump k n c.entries, nodup_bump k n c.nodup⟩

/-- `for k, v in other.items(): d[k] = d.get(k, 0) + v`. -/
def merge (c d : Counter α) : Counter α := d.entries.foldl (fun c e => c.add e.1 e.2) c

/-- `d.get(k, 0)`. -/
def get (c : Counter α) (k : α) : ℕ := (c.entries.lookup k).getD 0

/-- `sum(d.values())`. -/
def total (c : Counter α) : ℕ := (c.entries.map Prod.snd).sum

/-- The multiset a list of entries stands for. -/
def entriesMultiset (l : List (α × ℕ)) : Multiset α :=
  (l.map fun e => Multiset.replicate e.2 e.1).sum

/-- The multiset of keys, each as often as its count says. -/
def toMultiset (c : Counter α) : Multiset α := entriesMultiset c.entries

/-- No entries hold nothing. -/
@[simp] theorem entriesMultiset_nil : entriesMultiset ([] : List (α × ℕ)) = 0 := rfl

/-- An entry holds its key as often as it says. -/
@[simp] theorem entriesMultiset_cons (e : α × ℕ) (l : List (α × ℕ)) :
    entriesMultiset (e :: l) = Multiset.replicate e.2 e.1 + entriesMultiset l := by
  simp [entriesMultiset]

/-- The empty counter holds nothing. -/
@[simp] theorem toMultiset_empty : (empty : Counter α).toMultiset = 0 := rfl

/-- Counting a key `n` times adds `n` copies of it. -/
theorem entriesMultiset_bump (k : α) (n : ℕ) (l : List (α × ℕ)) :
    entriesMultiset (bump k n l) = entriesMultiset l + Multiset.replicate n k := by
  induction l with
  | nil => simp [bump]
  | cons p l ih =>
      obtain ⟨k', m⟩ := p
      by_cases hk : k' = k
      · subst hk
        rw [bump, if_pos rfl, entriesMultiset_cons, entriesMultiset_cons, Multiset.replicate_add,
          add_right_comm]
      · rw [bump, if_neg hk, entriesMultiset_cons, entriesMultiset_cons, ih, add_assoc]

/-- Counting a key `n` times adds `n` copies of it. -/
@[simp] theorem toMultiset_add (c : Counter α) (k : α) (n : ℕ) :
    (c.add k n).toMultiset = c.toMultiset + Multiset.replicate n k :=
  entriesMultiset_bump k n c.entries

/-- Adding entries one by one adds all they hold. -/
theorem toMultiset_foldl_add (l : List (α × ℕ)) (c : Counter α) :
    (l.foldl (fun c e => c.add e.1 e.2) c).toMultiset = c.toMultiset + entriesMultiset l := by
  induction l generalizing c with
  | nil => simp
  | cons e l ih => rw [List.foldl_cons, ih, toMultiset_add, entriesMultiset_cons, add_assoc]

/-- A merged counter holds what both hold. -/
@[simp] theorem toMultiset_merge (c d : Counter α) :
    (c.merge d).toMultiset = c.toMultiset + d.toMultiset :=
  toMultiset_foldl_add d.entries c

/-- The sum of the counts is the number of elements of the multiset. -/
theorem total_eq_card (c : Counter α) : c.total = c.toMultiset.card := by
  unfold total toMultiset
  induction c.entries with
  | nil => rfl
  | cons e l ih => simp [ih]

/-- With distinct keys a key occurs as often as its entry says. -/
theorem count_entriesMultiset {l : List (α × ℕ)} (h : (l.map Prod.fst).Nodup) (k : α) :
    (entriesMultiset l).count k = (l.lookup k).getD 0 := by
  induction l with
  | nil => simp
  | cons e l ih =>
      obtain ⟨k', m⟩ := e
      simp only [List.map_cons, List.nodup_cons] at h
      rw [entriesMultiset_cons, Multiset.count_add, ih h.2, Multiset.count_replicate]
      by_cases hk : k' = k
      · subst hk
        have hnone : l.lookup k' = none := by
          rw [List.lookup_eq_none_iff]
          intro p hp
          have hne : k' ≠ p.1 := fun heq => h.1 (heq ▸ List.mem_map_of_mem hp)
          simpa using hne
        simp [hnone]
      · have hb : (k == k') = false := by simpa using Ne.symm hk
        simp [hk, List.lookup_cons, hb]

/-- A lookup is the multiplicity in the multiset. -/
theorem get_eq_count (c : Counter α) (k : α) : c.get k = c.toMultiset.count k :=
  (count_entriesMultiset c.nodup k).symm

section sorted

variable [LE α] [DecidableLE α]

/-- `dict(sorted(d.items()))`. -/
def sortKeys (c : Counter α) : Counter α where
  entries := c.entries.mergeSort fun a b => decide (a.1 ≤ b.1)
  nodup := ((List.mergeSort_perm _ _).map Prod.fst).nodup_iff.mpr c.nodup

/-- The order of the entries does not matter. -/
theorem entriesMultiset_perm {l l' : List (α × ℕ)} (h : l.Perm l') :
    entriesMultiset l = entriesMultiset l' := by
  unfold entriesMultiset
  rw [← Multiset.sum_coe, ← Multiset.sum_coe, Multiset.coe_eq_coe.mpr (h.map _)]

/-- Sorting the keys changes nothing of what is held. -/
@[simp] theorem toMultiset_sortKeys (c : Counter α) : c.sortKeys.toMultiset = c.toMultiset :=
  entriesMultiset_perm (List.mergeSort_perm c.entries _)

end sorted

/-! ## Positive counts -/

/-- No count is zero. -/
def Positive (c : Counter α) : Prop := ∀ e ∈ c.entries, 0 < e.2

/-- The empty counter has no entry of 0. -/
theorem positive_empty : (empty : Counter α).Positive := fun _ he => absurd he List.not_mem_nil

/-- Counting a key at least once leaves no entry of 0. -/
theorem forall_bump {k : α} {n : ℕ} {l : List (α × ℕ)} (h : ∀ e ∈ l, 0 < e.2) (hn : 0 < n) :
    ∀ e ∈ bump k n l, 0 < e.2 := by
  induction l with
  | nil => simpa [bump] using hn
  | cons p l ih =>
      obtain ⟨k', m⟩ := p
      obtain ⟨hm, hl⟩ := List.forall_mem_cons.mp h
      by_cases hk : k' = k
      · rw [bump, if_pos hk, List.forall_mem_cons]
        exact ⟨Nat.lt_of_lt_of_le hm (Nat.le_add_right m n), hl⟩
      · rw [bump, if_neg hk, List.forall_mem_cons]
        exact ⟨hm, ih hl⟩

/-- Counting a key at least once leaves no entry of 0. -/
theorem Positive.add {c : Counter α} (h : c.Positive) (k : α) {n : ℕ} (hn : 0 < n) :
    (c.add k n).Positive :=
  forall_bump h hn

/-- Merging two counters leaves no entry of 0. -/
theorem Positive.merge {c d : Counter α} (hc : c.Positive) (hd : d.Positive) :
    (c.merge d).Positive := by
  have hfold : ∀ (l : List (α × ℕ)) (c : Counter α), (∀ e ∈ l, 0 < e.2) → c.Positive →
      (l.foldl (fun c e => c.add e.1 e.2) c).Positive := by
    intro l
    induction l with
    | nil => exact fun c _ hc => hc
    | cons e l ih =>
        intro c hl hc
        obtain ⟨he, hl⟩ := List.forall_mem_cons.mp hl
        exact ih _ hl (hc.add e.1 he)
  exact hfold d.entries c hd hc

/-- Looking a key up finds its entry. -/
theorem lookup_eq_some_iff_mem (c : Counter α) {k : α} {n : ℕ} :
    c.entries.lookup k = some n ↔ (k, n) ∈ c.entries :=
  lookup_eq_some_iff_of_nodup c.nodup

/-- A counter is its entries. -/
theorem eq_of_entries {c d : Counter α} (h : c.entries = d.entries) : c = d := by
  obtain ⟨l, hl⟩ := c
  obtain rfl : l = d.entries := h
  rfl

/-- With positive counts the entries can be read off the multiset. -/
theorem Positive.mem_entries_iff {c : Counter α} (h : c.Positive) {k : α} {n : ℕ} :
    (k, n) ∈ c.entries ↔ 0 < n ∧ c.toMultiset.count k = n := by
  rw [← get_eq_count, get, ← lookup_eq_some_iff_mem]
  constructor
  · intro hlookup
    exact ⟨h _ (c.lookup_eq_some_iff_mem.mp hlookup), by simp [hlookup]⟩
  · rintro ⟨hpos, hget⟩
    cases hlookup : c.entries.lookup k with
    | none =>
        simp only [hlookup, Option.getD_none] at hget
        exact absurd hget (Nat.ne_of_lt hpos)
    | some m => simpa [hlookup] using hget

/-- **Counters with the same multiset are equal as dictionaries.** -/
theorem entries_perm {c d : Counter α} (hc : c.Positive) (hd : d.Positive)
    (h : c.toMultiset = d.toMultiset) : c.entries.Perm d.entries := by
  refine (List.perm_ext_iff_of_nodup c.nodup.of_map d.nodup.of_map).mpr ?_
  rintro ⟨k, n⟩
  rw [hc.mem_entries_iff, hd.mem_entries_iff, h]

section sorted

variable [LE α] [DecidableLE α]

/-- Sorting the keys leaves no entry of 0. -/
theorem Positive.sortKeys {c : Counter α} (h : c.Positive) : c.sortKeys.Positive :=
  fun e he => h e ((List.mergeSort_perm c.entries _).mem_iff.mp he)

/-- **Sorted, they are equal with their order.** -/
theorem sortKeys_eq (htrans : ∀ a b c : α, a ≤ b → b ≤ c → a ≤ c)
    (htotal : ∀ a b : α, a ≤ b ∨ b ≤ a) (hantisymm : ∀ a b : α, a ≤ b → b ≤ a → a = b)
    {c d : Counter α} (hc : c.Positive) (hd : d.Positive) (h : c.toMultiset = d.toMultiset) :
    c.sortKeys = d.sortKeys := by
  have hperm : c.sortKeys.entries.Perm d.sortKeys.entries := by
    apply entries_perm hc.sortKeys hd.sortKeys
    rw [toMultiset_sortKeys, toMultiset_sortKeys, h]
  have hsorted : ∀ c : Counter α,
      c.sortKeys.entries.Pairwise fun a b => decide (a.1 ≤ b.1) = true := by
    intro c
    refine List.pairwise_mergeSort ?_ ?_ c.entries
    · intro a b e hab hbe
      simp only [decide_eq_true_eq] at *
      exact htrans _ _ _ hab hbe
    · intro a b
      simpa using htotal a.1 b.1
  have hentries : c.sortKeys.entries = d.sortKeys.entries := by
    refine List.Perm.eq_of_pairwise ?_ (hsorted c) (hsorted d) hperm
    rintro ⟨k, n⟩ ⟨k', n'⟩ hmem hmem' hle hle'
    obtain rfl : k = k' := hantisymm _ _ (of_decide_eq_true hle) (of_decide_eq_true hle')
    have hlookup := c.sortKeys.lookup_eq_some_iff_mem.mpr hmem
    rw [c.sortKeys.lookup_eq_some_iff_mem.mpr (hperm.mem_iff.mpr hmem')] at hlookup
    rw [Option.some.inj hlookup]
  exact eq_of_entries hentries

end sorted

end Counter

end TripPipeline.Lib
