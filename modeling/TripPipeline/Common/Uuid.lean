import Mathlib.Tactic.Common
import TripPipeline.Common.Py

/-!
# The text of a UUID

`str(uuid.UUID(int=n))`: 32 hexadecimal digits in five groups. `uuid.UUID` reads it back.

* `hexText`: a number in a fixed number of hexadecimal digits.
* `uuidOfText_uuidText`: the round trip.
-/

namespace TripPipeline.Common

/-! ## Digits -/

/-- `n` in `k` hexadecimal digits. -/
def hexText : (k n : ℕ) → List Char
  | 0, _ => []
  | k + 1, n => hexText k (n / 16) ++ [(n % 16).digitChar]

/-- A digit `hexText` writes. -/
def IsHex (c : Char) : Prop := ∃ d < 16, c = d.digitChar

/-- The digits `hexText` writes are hexadecimal. -/
theorem isHex_of_mem {k n : ℕ} {c : Char} (h : c ∈ hexText k n) : IsHex c := by
  induction k generalizing n with
  | zero => cases h
  | succ k ih =>
      rcases List.mem_append.mp h with h | h
      · exact ih h
      · exact ⟨n % 16, Nat.mod_lt n (by decide), List.mem_singleton.mp h⟩

/-- `hexText k` writes `k` digits. -/
@[simp] theorem length_hexText (k n : ℕ) : (hexText k n).length = k := by
  induction k generalizing n with
  | zero => rfl
  | succ k ih => rw [hexText, List.length_append, ih, List.length_singleton]

/-- A property of the sixteen digits. -/
theorem IsHex.forall {P : Char → Prop} (h : ∀ d < 16, P (Nat.digitChar d)) {c : Char}
    (hc : IsHex c) : P c := by
  obtain ⟨d, hd, rfl⟩ := hc
  exact h d hd

/-- A hexadecimal digit reads back as its value. -/
theorem hexDigit_digitChar {d : ℕ} (h : d < 16) : hexDigit d.digitChar = some d := by
  revert d
  decide

/-- The value of a number whose digits follow those read. -/
theorem hexDigits_append {cs : List Char} (hcs : ∀ c ∈ cs, IsHex c) {d : ℕ} (hd : d < 16)
    (acc : ℕ) (digit : Bool) :
    hexDigits acc digit (cs ++ [d.digitChar]) =
      (if cs = [] then some acc else hexDigits acc digit cs).map fun n => n * 16 + d := by
  induction cs generalizing acc digit with
  | nil =>
      have hne : d.digitChar ≠ '_' := by
        revert d
        decide
      simp [hexDigits, hne, hexDigit_digitChar hd]
  | cons c cs ih =>
      have hne : c ≠ '_' := (hcs c List.mem_cons_self).forall (P := (· ≠ '_')) (by decide)
      obtain ⟨e, he, rfl⟩ := hcs c List.mem_cons_self
      rw [List.cons_append, hexDigits, if_neg hne, hexDigit_digitChar he, if_neg (by simp),
        hexDigits, if_neg hne, hexDigit_digitChar he]
      dsimp only
      rw [ih (fun c hc => hcs c (List.mem_cons_of_mem _ hc))]
      by_cases hnil : cs = []
      · subst hnil
        rfl
      · rw [if_neg hnil]

/-- **The digits denote the number.** -/
theorem hexDigits_hexText (k n : ℕ) (h : n < 16 ^ (k + 1)) :
    hexDigits 0 false (hexText (k + 1) n) = some n := by
  induction k generalizing n with
  | zero =>
      have hlt : n % 16 < 16 := Nat.mod_lt n (by decide)
      rw [hexText, hexDigits_append (fun c hc => isHex_of_mem hc) hlt, hexText, if_pos rfl,
        Option.map_some, Nat.mod_eq_of_lt (by simpa using h), zero_mul, zero_add]
  | succ k ih =>
      have hlt : n % 16 < 16 := Nat.mod_lt n (by decide)
      have hdiv : n / 16 < 16 ^ (k + 1) := by
        rw [Nat.div_lt_iff_lt_mul (by decide), ← Nat.pow_succ]
        exact h
      have hne : hexText (k + 1) (n / 16) ≠ [] := by
        rw [ne_eq, ← List.length_eq_zero_iff, length_hexText]
        exact Nat.succ_ne_zero k
      rw [hexText, hexDigits_append (fun c hc => isHex_of_mem hc) hlt, if_neg hne, ih _ hdiv,
        Option.map_some, Nat.div_add_mod']

/-! ## Reading digits -/

/-- Nothing of a pattern that starts with another letter is dropped. -/
theorem removeSub_of_notMem {p : Char} {ps cs : List Char} (h : p ∉ cs) :
    removeSub (p :: ps) 0 cs = cs := by
  induction cs with
  | nil => rfl
  | cons c cs ih =>
      have hne : p ≠ c := fun heq => h (heq ▸ List.mem_cons_self)
      have hprefix : (p :: ps).isPrefixOf (c :: cs) = false := by
        simp [List.isPrefixOf, hne]
      rw [removeSub, hprefix, if_neg Bool.false_ne_true,
        ih fun hmem => h (List.mem_cons_of_mem _ hmem)]

/-- Dropping a single letter. -/
theorem removeSub_singleton (p : Char) (cs : List Char) :
    removeSub [p] 0 cs = cs.filter (· ≠ p) := by
  induction cs with
  | nil => rfl
  | cons c cs ih =>
      by_cases hc : c = p
      · subst hc
        simp [removeSub, List.isPrefixOf, ih]
      · have hne : p ≠ c := fun h => hc h.symm
        simp [removeSub, List.isPrefixOf, hne, hc, ih]

/-- Stripping characters that are not there changes nothing. -/
theorem stripChars_of_notMem {chars cs : List Char} (h : ∀ c ∈ cs, c ∉ chars) :
    stripChars chars cs = cs := by
  have hdrop : ∀ l : List Char, (∀ c ∈ l, c ∉ chars) → l.dropWhile chars.contains = l := by
    intro l hl
    cases l with
    | nil => rfl
    | cons c l =>
        have hc := hl c List.mem_cons_self
        simp [hc]
  rw [stripChars, hdrop cs h, hdrop _ fun c hc => h c (List.mem_reverse.mp hc),
    List.reverse_reverse]

/-- Digits have no prefix that `int` would drop. -/
theorem digits_of_noPrefix (cs : List Char) : (∀ c ∈ cs, c ≠ 'x' ∧ c ≠ 'X') →
    (match cs with
      | '0' :: 'x' :: '_' :: r => hexDigits 0 false r
      | '0' :: 'x' :: r => hexDigits 0 false r
      | '0' :: 'X' :: '_' :: r => hexDigits 0 false r
      | '0' :: 'X' :: r => hexDigits 0 false r
      | r => hexDigits 0 false r) = hexDigits 0 false cs := by
  intro h
  split
  · exact absurd rfl (h 'x' (by simp)).1
  · exact absurd rfl (h 'x' (by simp)).1
  · exact absurd rfl (h 'X' (by simp)).2
  · exact absurd rfl (h 'X' (by simp)).2
  · rfl

/-- `int(text, 16)` of the digits. -/
theorem intBase16_hexText (k n : ℕ) (h : n < 16 ^ (k + 1)) :
    intBase16 (hexText (k + 1) n) = some (n : ℤ) := by
  have hdigits := hexDigits_hexText k n h
  have hhex : ∀ c ∈ hexText (k + 1) n, IsHex c := fun c hc => isHex_of_mem hc
  have hspace : stripChars [' ', '\t', '\n', '\r', '\x0b', '\x0c'] (hexText (k + 1) n) =
      hexText (k + 1) n :=
    stripChars_of_notMem fun c hc => (hhex c hc).forall
      (P := fun c => c ∉ [' ', '\t', '\n', '\r', '\x0b', '\x0c']) (by decide)
  have hascii : (hexText (k + 1) n).map asciiDigit = hexText (k + 1) n := by
    refine (List.map_congr_left fun c hc => ?_).trans (List.map_id _)
    exact (hhex c hc).forall (P := fun c => asciiDigit c = c) (by decide)
  unfold intBase16
  rw [hascii, hspace]
  generalize hexText (k + 1) n = cs at hdigits hhex
  have hsign : ∀ c ∈ cs, c ≠ '-' ∧ c ≠ '+' := fun c hc =>
    (hhex c hc).forall (P := fun c => c ≠ '-' ∧ c ≠ '+') (by decide)
  have hplain := (digits_of_noPrefix cs fun c hc =>
    (hhex c hc).forall (P := fun c => c ≠ 'x' ∧ c ≠ 'X') (by decide)).trans hdigits
  split
  · exact absurd rfl (hsign '-' (by simp)).1
  · exact absurd rfl (hsign '+' (by simp)).2
  · have hcast : ∀ o : Option ℕ, o = some n →
        (Option.map (fun m : ℤ => m) (do let a ← o; pure (a : ℤ))) = some (n : ℤ) := by
      rintro _ rfl
      rfl
    exact hcast _ hplain

/-! ## Texts -/

/-- `str(uuid.UUID(int=n))`. -/
def uuidText (n : ℕ) : String :=
  let h := hexText 32 n
  String.ofList (h.take 8 ++ '-' :: ((h.drop 8).take 4 ++ '-' :: ((h.drop 12).take 4 ++
    '-' :: ((h.drop 16).take 4 ++ '-' :: h.drop 20))))

/-- The text of a UUID: 32 digits, with hyphens after the 8th, 12th, 16th and 20th. -/
theorem toList_uuidText (n : ℕ) : (uuidText n).toList =
    (hexText 32 n).take 8 ++ '-' :: (((hexText 32 n).drop 8).take 4 ++
      '-' :: (((hexText 32 n).drop 12).take 4 ++
        '-' :: (((hexText 32 n).drop 16).take 4 ++ '-' :: (hexText 32 n).drop 20))) :=
  String.toList_ofList

/-- The digits of the text. -/
theorem filter_uuidText (n : ℕ) : (uuidText n).toList.filter (· ≠ '-') = hexText 32 n := by
  have hhex : ∀ c ∈ hexText 32 n, c ≠ '-' := fun c hc =>
    (isHex_of_mem hc).forall (P := (· ≠ '-')) (by decide)
  rw [toList_uuidText]
  generalize hexText 32 n = h at hhex
  have hkeep : ∀ cs : List Char, (∀ c ∈ cs, c ∈ h) → cs.filter (· ≠ '-') = cs := fun cs hcs =>
    List.filter_eq_self.mpr fun c hc => by simpa using hhex c (hcs c hc)
  have htake : ∀ i j, ((h.drop i).take j).filter (· ≠ '-') = (h.drop i).take j := fun i j =>
    hkeep _ fun c hc => List.mem_of_mem_drop (List.mem_of_mem_take hc)
  have hjoin : ∀ i j, (h.drop i).take j ++ h.drop (i + j) = h.drop i := fun i j => by
    rw [← List.drop_drop, List.take_append_drop]
  have hhyphen : ∀ cs : List Char,
      ('-' :: cs).filter (· ≠ '-') = cs.filter (· ≠ '-') := fun _ => rfl
  have hfirst : (h.take 8).filter (· ≠ '-') = h.take 8 := htake 0 8
  rw [List.filter_append, hfirst, hhyphen, List.filter_append, htake, hhyphen, List.filter_append,
    htake, hhyphen, List.filter_append, htake, hhyphen,
    hkeep _ fun c hc => List.mem_of_mem_drop hc, hjoin 16 4, hjoin 12 4, hjoin 8 4]
  exact hjoin 0 8

/-- There are digits and hyphens only. -/
theorem mem_uuidText {n : ℕ} {c : Char} (h : c ∈ (uuidText n).toList) : c = '-' ∨ IsHex c := by
  by_cases hc : c = '-'
  · exact Or.inl hc
  · right
    apply isHex_of_mem (k := 32) (n := n)
    rw [← filter_uuidText, List.mem_filter]
    exact ⟨h, by simpa using hc⟩

/-- **`uuid.UUID` reads the text back.** -/
theorem uuidOfText_uuidText {n : ℕ} (h : n < 2 ^ 128) : uuidOfText (uuidText n) = some n := by
  have hnot : ∀ p : Char, p ≠ '-' → ¬IsHex p → p ∉ (uuidText n).toList := fun p hp hhex hmem =>
    (mem_uuidText hmem).elim hp hhex
  have hu : ¬IsHex 'u' := fun h => h.forall (P := (· ≠ 'u')) (by decide) rfl
  have hstrip : stripChars ['{', '}'] (uuidText n).toList = (uuidText n).toList := by
    refine stripChars_of_notMem fun c hc => ?_
    rcases mem_uuidText hc with rfl | hhex
    · decide
    · exact hhex.forall (P := fun c => c ∉ ['{', '}']) (by decide)
  have hfirst : removeSub "urn:".toList 0 (uuidText n).toList = (uuidText n).toList :=
    removeSub_of_notMem (hnot 'u' (by decide) hu)
  have hsecond : removeSub "uuid:".toList 0 (uuidText n).toList = (uuidText n).toList :=
    removeSub_of_notMem (hnot 'u' (by decide) hu)
  have hhyphens : removeSub "-".toList 0 (uuidText n).toList = hexText 32 n := by
    rw [show "-".toList = ['-'] from rfl, removeSub_singleton, filter_uuidText]
  unfold uuidOfText
  dsimp only
  rw [hfirst, hsecond, hstrip, hhyphens, if_pos (length_hexText 32 n),
    intBase16_hexText 31 n (by simpa using h)]

end TripPipeline.Common
