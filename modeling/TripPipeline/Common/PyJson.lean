import Mathlib.Data.Nat.Digits.Lemmas
import TripPipeline.Common.Py
import TripPipeline.Lib.Json

/-!
# `json.dumps` and `json.loads`

The codec of Python's `json` module, with `separators=(",", ":")` and its other defaults. `dumps`
writes a value as the JSON value it maps to; `loads` makes values of the JSON value it reads, an
`int` of a number without fraction and exponent, a `float` of any other one. In an object the last
of several members with one key counts.

`repr` and `float` of a floating-point number are a parameter (`Floats`), of which only this is
used: `repr` spells a JSON number. `other` is the text of a value that JSON does not have, which
`default=str` asks for.

* `loads_dumps`: a dictionary is read back with its keys, and with every value read back.
* `reread_str`, `reread_int`: texts and integers are read back as they were.
-/

namespace TripPipeline.Common

open TripPipeline.Lib

/-! ## Integers -/

/-- The decimal digits of a number. -/
def natText (n : ℕ) : List Char :=
  if n = 0 then ['0'] else ((Nat.digits 10 n).map Nat.digitChar).reverse

/-- `str(n)`. -/
def intText (n : ℤ) : List Char :=
  if n < 0 then '-' :: natText n.natAbs else natText n.natAbs

/-- The number that decimal digits stand for. -/
def decimal (cs : List Char) : ℕ := Nat.ofDigits 10 (cs.reverse.map fun c => c.toNat - '0'.toNat)

/-- `int(text)` of the spelling of an integer. -/
def integer : List Char → ℤ
  | '-' :: cs => -(decimal cs : ℤ)
  | cs => decimal cs

/-- A decimal digit is a digit. -/
theorem digitChar_isDigit {d : ℕ} (h : d < 10) : d.digitChar.isDigit = true := by
  have hall : ∀ d < 10, (Nat.digitChar d).isDigit = true := by decide
  exact hall d h

/-- A decimal digit stands for its value. -/
theorem digitChar_toNat {d : ℕ} (h : d < 10) : d.digitChar.toNat - '0'.toNat = d := by
  have hall : ∀ d < 10, (Nat.digitChar d).toNat - '0'.toNat = d := by decide
  exact hall d h

/-- Only 0 is written as `0`. -/
theorem digitChar_eq_zero {d : ℕ} (h : d < 10) (hd : d.digitChar = '0') : d = 0 := by
  have hall : ∀ d < 10, Nat.digitChar d = '0' → d = 0 := by decide
  exact hall d h hd

/-- A number is written in digits only. -/
theorem natText_isDigit (n : ℕ) : ∀ c ∈ natText n, c.isDigit = true := by
  intro c hc
  unfold natText at hc
  split_ifs at hc
  · rw [List.mem_singleton.mp hc]
    rfl
  · obtain ⟨d, hd, rfl⟩ := List.mem_map.mp (List.mem_reverse.mp hc)
    exact digitChar_isDigit (Nat.digits_lt_base (by norm_num) hd)

/-- A number that was written reads back as it is. -/
theorem decimal_natText (n : ℕ) : decimal (natText n) = n := by
  unfold decimal natText
  split_ifs with h
  · subst h
    rfl
  · rw [List.reverse_reverse, List.map_map]
    have hdigits : (Nat.digits 10 n).map ((fun c => c.toNat - '0'.toNat) ∘ Nat.digitChar) =
        Nat.digits 10 n := by
      conv_rhs => rw [← List.map_id (Nat.digits 10 n)]
      exact List.map_congr_left fun d hd => digitChar_toNat (Nat.digits_lt_base (by norm_num) hd)
    rw [hdigits, Nat.ofDigits_digits]

/-- No number begins with a zero but zero. -/
theorem head_natText {n : ℕ} (h : n ≠ 0) :
    ∃ c cs, natText n = c :: cs ∧ c ≠ '0' ∧ c.isDigit = true ∧ ∀ d ∈ cs, d.isDigit = true := by
  have hne : Nat.digits 10 n ≠ [] := Nat.digits_ne_nil_iff_ne_zero.mpr h
  have hlast : (Nat.digits 10 n).getLast hne ≠ 0 := Nat.getLast_digit_ne_zero 10 h
  have hlt : (Nat.digits 10 n).getLast hne < 10 :=
    Nat.digits_lt_base (by norm_num) (List.getLast_mem hne)
  have htext : natText n = ((Nat.digits 10 n).getLast hne).digitChar ::
      (((Nat.digits 10 n).dropLast).map Nat.digitChar).reverse := by
    rw [natText, if_neg h]
    conv_lhs => rw [← List.dropLast_append_getLast hne]
    simp
  refine ⟨_, _, htext, fun hzero => hlast (digitChar_eq_zero hlt hzero), digitChar_isDigit hlt, ?_⟩
  intro d hd
  exact natText_isDigit n d (htext ▸ List.mem_cons_of_mem _ hd)

/-- A number is written in at least one digit. -/
theorem natText_ne_nil (n : ℕ) : natText n ≠ [] := by
  by_cases h : n = 0
  · subst h
    exact List.cons_ne_nil _ _
  · obtain ⟨c, cs, htext, -⟩ := head_natText h
    exact htext ▸ List.cons_ne_nil c cs

/-- Digits keep the reader inside the whole part. -/
theorem foldlM_whole {cs : List Char} (h : ∀ c ∈ cs, c.isDigit = true) :
    cs.foldlM NumberState.step .whole = some .whole := by
  induction cs with
  | nil => rfl
  | cons c cs ih =>
      rw [List.foldlM_cons]
      simp only [NumberState.step, h c List.mem_cons_self, if_true]
      exact ih fun d hd => h d (List.mem_cons_of_mem c hd)

/-- The digits of a number are a JSON number, with a sign before them or without. -/
theorem natText_complete (n : ℕ) {state : NumberState} (hstate : state = .start ∨ state = .minus) :
    ((natText n).foldlM NumberState.step state).any NumberState.complete = true := by
  by_cases h : n = 0
  · subst h
    rcases hstate with rfl | rfl <;> rfl
  · obtain ⟨c, cs, htext, hzero, hdigit, hcs⟩ := head_natText h
    have hminus : c ≠ '-' := by
      rintro rfl
      cases hdigit
    have hstep : state.step c = some .whole := by
      rcases hstate with rfl | rfl <;> simp [NumberState.step, hzero, hminus, hdigit]
    rw [htext, List.foldlM_cons, hstep]
    simp only [bind, Option.bind_some, foldlM_whole hcs]
    rfl

/-- An integer is written as a JSON number. -/
theorem isNumber_intText (n : ℤ) : isNumber (intText n) = true := by
  unfold isNumber intText
  rw [Bool.or_eq_true]
  right
  split_ifs
  · exact natText_complete _ (Or.inr rfl)
  · exact natText_complete _ (Or.inl rfl)

/-- An integer that was written reads back as it is. -/
theorem integer_intText (n : ℤ) : integer (intText n) = n := by
  unfold intText
  split_ifs with h
  · rw [integer, decimal_natText]
    omega
  · have hdigits : integer (natText n.natAbs) = decimal (natText n.natAbs) := by
      unfold integer
      split
      · rename_i cs htext
        have hminus := natText_isDigit n.natAbs '-' (htext ▸ List.mem_cons_self)
        cases hminus
      · rfl
    rw [hdigits, decimal_natText]
    omega

/-- An integer is written in digits and a sign. -/
theorem intText_chars (n : ℤ) : ∀ c ∈ intText n, (c.isDigit || c = '-') = true := by
  have hdigits : ∀ c ∈ natText n.natAbs, (c.isDigit || c = '-') = true := by
    intro c hc
    rw [natText_isDigit _ c hc]
    rfl
  intro c hc
  unfold intText at hc
  split_ifs at hc
  · rcases List.mem_cons.mp hc with rfl | hc
    · rfl
    · exact hdigits c hc
  · exact hdigits c hc

/-! ## Values -/

/-- `repr(x)` and `float(text)`. -/
structure Floats where
  repr : ℚ → NumberText
  read : NumberText → PyVal

/-- The word for a `float` that is no number. -/
def NonFinite.text : NonFinite → NumberText
  | .nan => ⟨"NaN".toList, by decide⟩
  | .infinity => ⟨"Infinity".toList, by decide⟩
  | .negInfinity => ⟨"-Infinity".toList, by decide⟩

/-- The value of a number. -/
def readNumber (floats : Floats) (text : NumberText) : PyVal :=
  if text.1 = "NaN".toList then .nonFinite .nan
  else if text.1 = "Infinity".toList then .nonFinite .infinity
  else if text.1 = "-Infinity".toList then .nonFinite .negInfinity
  else if text.1.all fun c => c.isDigit || c = '-' then .int (integer text.1)
  else floats.read text

section codec

variable (floats : Floats) (other : PyVal → String)

mutual

/-- The JSON value of a Python value. -/
def toJson : PyVal → Json
  | .none => .null
  | .bool b => .bool b
  | .int n => .number ⟨intText n, isNumber_intText n⟩
  | .float x => .number (floats.repr x)
  | .nonFinite x => .number x.text
  | .str s => .string s
  | .list xs => .array (toJsonList xs)
  | .dict kvs => .object (toJsonMembers kvs)
  | .datetime d => .string (other (.datetime d))
  | .date day => .string (other (.date day))
  | .uuid n => .string (other (.uuid n))

def toJsonList : List PyVal → List Json
  | [] => []
  | x :: xs => toJson x :: toJsonList xs

def toJsonMembers : List (String × PyVal) → List (String × Json)
  | [] => []
  | (k, v) :: kvs => (k, toJson v) :: toJsonMembers kvs

end

/-- `dict(pairs)`. -/
def dictOf (pairs : List (String × PyVal)) : Dict :=
  pairs.foldl (fun d kv => Dict.set kv.1 kv.2 d) []

mutual

/-- The Python value of a JSON value. -/
def ofJson : Json → PyVal
  | .null => .none
  | .bool b => .bool b
  | .number text => readNumber floats text
  | .string s => .str s
  | .array xs => .list (ofJsonList xs)
  | .object ms => .dict (dictOf (ofJsonMembers ms))

def ofJsonList : List Json → List PyVal
  | [] => []
  | x :: xs => ofJson x :: ofJsonList xs

def ofJsonMembers : List (String × Json) → List (String × PyVal)
  | [] => []
  | (k, v) :: ms => (k, ofJson v) :: ofJsonMembers ms

end

/-- `json.loads` and `json.dumps`. -/
def pyJson : JsonCodec where
  loads text := (Json.parse text.toList).map (ofJson floats)
  dumps d := String.ofList (toJson floats other (.dict d)).print

/-- What is read back of a value. -/
def reread (v : PyVal) : PyVal := ofJson floats (toJson floats other v)

end codec

section laws

variable {floats : Floats} {other : PyVal → String}

/-- A string reads back as it is. -/
@[simp] theorem reread_str (s : String) : reread floats other (.str s) = .str s := rfl

/-- An integer reads back as it is. -/
@[simp] theorem reread_int (n : ℤ) : reread floats other (.int n) = .int n := by
  have hne : ∀ w : List Char, w.all (fun c => c.isDigit || c = '-') = false → intText n ≠ w := by
    rintro w hw rfl
    rw [List.all_eq_true.mpr (intText_chars n)] at hw
    cases hw
  have hread : reread floats other (.int n) =
      readNumber floats ⟨intText n, isNumber_intText n⟩ := rfl
  rw [hread, readNumber, if_neg (hne _ rfl), if_neg (hne _ rfl), if_neg (hne _ rfl),
    if_pos (List.all_eq_true.mpr (intText_chars n)), integer_intText]

/-- An optional value reads back as it is, when its values do. -/
theorem reread_ofOption {α : Type} {f : α → PyVal} (hf : ∀ a, reread floats other (f a) = f a)
    (o : Option α) : reread floats other (.ofOption f o) = .ofOption f o := by
  cases o with
  | none => rfl
  | some a => exact hf a

/-- Assigning a new key appends an entry. -/
theorem set_of_notMem {d : Dict} {k : String} {v : PyVal} (h : k ∉ d.map Prod.fst) :
    Dict.set k v d = d ++ [(k, v)] := by
  induction d with
  | nil => rfl
  | cons kv d ih =>
      rw [List.map_cons, List.mem_cons, not_or] at h
      rw [Dict.set, if_neg (Ne.symm h.1), ih h.2]
      rfl

/-- Distinct keys stay as they are. -/
theorem dictOf_of_nodup {pairs : List (String × PyVal)} (h : (pairs.map Prod.fst).Nodup) :
    dictOf pairs = pairs := by
  have hfold : ∀ d : Dict, ((d ++ pairs).map Prod.fst).Nodup →
      pairs.foldl (fun d kv => Dict.set kv.1 kv.2 d) d = d ++ pairs := by
    clear h
    induction pairs with
    | nil => exact fun d _ => (List.append_nil d).symm
    | cons kv pairs ih =>
        intro d hd
        have hnew : kv.1 ∉ d.map Prod.fst := by
          rw [List.map_append, List.map_cons] at hd
          exact fun hmem => (List.disjoint_of_nodup_append hd) hmem List.mem_cons_self
        rw [List.foldl_cons, set_of_notMem hnew, ih]
        · rw [List.append_assoc]
          rfl
        · rw [List.append_assoc]
          exact hd
  exact hfold [] h

/-- Writing and reading the members of an object is writing and reading their values. -/
theorem ofJsonMembers_toJsonMembers (kvs : List (String × PyVal)) :
    ofJsonMembers floats (toJsonMembers floats other kvs) =
      kvs.map fun kv => (kv.1, reread floats other kv.2) := by
  induction kvs with
  | nil => rfl
  | cons kv kvs ih =>
      obtain ⟨k, v⟩ := kv
      rw [toJsonMembers, ofJsonMembers, ih]
      rfl

/-- A lookup commutes with reading back. -/
theorem lookup_reread (d : Dict) (k : String) :
    (d.map fun kv => (kv.1, reread floats other kv.2)).lookup k =
      (d.lookup k).map (reread floats other) := by
  induction d with
  | nil => rfl
  | cons kv d ih =>
      rw [List.map_cons, Dict.lookup_cons_ite, Dict.lookup_cons_ite]
      split_ifs
      · rfl
      · exact ih

/-- A dict with distinct keys reads back value by value. -/
theorem reread_dict {d : Dict} (h : (d.map Prod.fst).Nodup) :
    reread floats other (.dict d) = .dict (d.map fun kv => (kv.1, reread floats other kv.2)) := by
  have hkeys : ((d.map fun kv => (kv.1, reread floats other kv.2)).map Prod.fst).Nodup := by
    rw [List.map_map]
    exact h
  rw [reread, toJson, ofJson, ofJsonMembers_toJsonMembers, dictOf_of_nodup hkeys]

/-- **A dictionary is read back with its keys.** -/
theorem loads_dumps {d : Dict} (h : (d.map Prod.fst).Nodup) :
    (pyJson floats other).loads ((pyJson floats other).dumps d) =
      some (.dict (d.map fun kv => (kv.1, reread floats other kv.2))) := by
  rw [← reread_dict h]
  unfold pyJson
  dsimp only
  rw [String.toList_ofList, parse_print]
  rfl

/-- Reading back a dict reads back what is found under a key. -/
theorem get_reread {d : Dict} (k : String) :
    Dict.get (d.map fun kv => (kv.1, reread floats other kv.2)) k =
      reread floats other (Dict.get d k) := by
  rw [Dict.get, Dict.get, lookup_reread]
  cases d.lookup k <;> rfl

end laws

end TripPipeline.Common
