import Mathlib.Data.List.DropRight
import TripPipeline.Lib.Json
import TripPipeline.Lib.Lines

/-!
# Objects a line each

The text of a JSON object tells where it ends: a reader that has accepted a text which begins with a
brace takes nothing but blanks after it (`parse_append_object`), and the text of an object ends with
its brace. So no part of the text can be read (`parse_torn`), and objects may be written a line each
(`lines_objects`).
-/

namespace TripPipeline.Lib

/-! ## Where an object ends -/

/-- Outside of all containers the reader is in the middle of an object, or after it. -/
def Reader.InObject (r : Reader) : Prop :=
  r.stack = [] →
    match r.mode with
    | .key _ _ | .colon _ _ | .after _ | .text (some _) _ _ => True
    | _ => False

/-- Inside a container the reader is in an object. -/
theorem inObject_of_ne {stack : List Container} {mode : Mode} (h : stack ≠ []) :
    Reader.InObject ⟨stack, mode⟩ := fun hnil => absurd hnil h

/-- After a value the reader is past an object. -/
theorem inObject_after {stack : List Container} {v : Json} : Reader.InObject ⟨stack, .after v⟩ :=
  fun _ => trivial

/-- At a key the reader is in an object. -/
theorem inObject_key {stack : List Container} {done : List (String × Json)} {first : Bool} :
    Reader.InObject ⟨stack, .key done first⟩ := fun _ => trivial

/-- A character after a value leaves the reader in an object. -/
theorem inObject_stepAfter {stack : List Container} {v : Json} {c : Char} {r : Reader}
    (h : stepAfter stack v c = some r) : r.InObject := by
  unfold stepAfter at h
  by_cases hblank : isBlank c = true
  · rw [if_pos hblank] at h
    obtain rfl := Option.some.inj h
    exact inObject_after
  rw [if_neg hblank] at h
  rcases stack with _ | ⟨⟨done⟩ | ⟨done, key⟩, stack⟩
  · cases h
  · dsimp only at h
    split_ifs at h
    · obtain rfl := Option.some.inj h
      exact inObject_of_ne (List.cons_ne_nil _ _)
    · obtain rfl := Option.some.inj h
      exact inObject_after
  · dsimp only at h
    split_ifs at h
    · obtain rfl := Option.some.inj h
      exact inObject_key
    · obtain rfl := Option.some.inj h
      exact inObject_after

/-- **A step stays within the object**, or ends it. -/
theorem Reader.InObject.step {r r' : Reader} {c : Char} (h : r.InObject)
    (hstep : r.step c = some r') : r'.InObject := by
  obtain ⟨stack, mode⟩ := r
  cases mode with
  | value first =>
      have hne : stack ≠ [] := fun hnil => h hnil
      unfold Reader.step at hstep
      dsimp only at hstep
      split_ifs at hstep
      · obtain rfl := Option.some.inj hstep
        exact h
      · obtain rfl := Option.some.inj hstep
        exact inObject_of_ne hne
      · obtain rfl := Option.some.inj hstep
        exact inObject_of_ne hne
      · obtain rfl := Option.some.inj hstep
        exact inObject_of_ne (List.cons_ne_nil _ _)
      · obtain rfl := Option.some.inj hstep
        exact inObject_key
      · rcases stack with _ | ⟨⟨done⟩ | ⟨done, key⟩, stack⟩
        · cases hstep
        · obtain rfl := Option.some.inj hstep
          exact inObject_after
        · cases hstep
  | key done first =>
      unfold Reader.step at hstep
      dsimp only at hstep
      split_ifs at hstep
      · obtain rfl := Option.some.inj hstep
        exact h
      · obtain rfl := Option.some.inj hstep
        exact fun _ => trivial
      · obtain rfl := Option.some.inj hstep
        exact inObject_after
  | colon done key =>
      unfold Reader.step at hstep
      dsimp only at hstep
      split_ifs at hstep
      · obtain rfl := Option.some.inj hstep
        exact h
      · obtain rfl := Option.some.inj hstep
        exact inObject_of_ne (List.cons_ne_nil _ _)
  | after v => exact inObject_stepAfter hstep
  | word acc =>
      have hne : stack ≠ [] := fun hnil => h hnil
      unfold Reader.step at hstep
      dsimp only at hstep
      split_ifs at hstep
      · obtain rfl := Option.some.inj hstep
        exact inObject_of_ne hne
      · obtain ⟨v, -, hafter⟩ := Option.bind_eq_some_iff.mp hstep
        exact inObject_stepAfter hafter
  | text done acc state =>
      have hmap : ∀ x : Option (List Char × TextState),
          (x.map fun p => (⟨stack, .text done p.1 p.2⟩ : Reader)) = some r' → r'.InObject := by
        intro x hx
        obtain ⟨p, -, rfl⟩ := Option.map_eq_some_iff.mp hx
        intro hnil
        have hin := h hnil
        cases done with
        | none => exact hin
        | some done => trivial
      cases state with
      | plain =>
          unfold Reader.step at hstep
          dsimp only at hstep
          split_ifs at hstep
          · cases done with
            | none =>
                obtain rfl := Option.some.inj hstep
                exact inObject_after
            | some done =>
                obtain rfl := Option.some.inj hstep
                exact fun _ => trivial
          · exact hmap _ hstep
      | _ => exact hmap _ hstep

/-- After a value that is in no container there are only blanks. -/
theorem run_after {v j : Json} {cs : List Char} (h : Reader.run ⟨[], .after v⟩ cs = some j) :
    ∀ c ∈ cs, isBlank c = true := by
  induction cs with
  | nil => exact fun c hc => absurd hc List.not_mem_nil
  | cons c cs ih =>
      rw [run_cons] at h
      by_cases hblank : isBlank c = true
      · have hstep : Reader.step ⟨[], .after v⟩ c = some ⟨[], .after v⟩ := if_pos hblank
        rw [hstep] at h
        intro d hd
        rcases List.mem_cons.mp hd with rfl | hd
        · exact hblank
        · exact ih h d hd
      · have hstep : Reader.step ⟨[], .after v⟩ c = none := if_neg hblank
        rw [hstep] at h
        cases h

/-- **What follows a complete object is blank.** -/
theorem parse_append_object {p q : List Char} {j j' : Json}
    (hp : Json.parse ('\x7b' :: p) = some j) (hpq : Json.parse ('\x7b' :: (p ++ q)) = some j') :
    ∀ c ∈ q, isBlank c = true := by
  have hopen : ∀ cs, Json.parse ('\x7b' :: cs) = Reader.run ⟨[], .key [] true⟩ cs := fun cs => by
    rw [Json.parse, run_cons]
    rfl
  rw [hopen, Reader.run] at hp hpq
  obtain ⟨r, hr, hfinish⟩ := Option.bind_eq_some_iff.mp hp
  have hin : r.InObject := by
    have hall : ∀ (cs : List Char) (r₀ r : Reader), r₀.InObject →
        cs.foldlM Reader.step r₀ = some r → r.InObject := by
      intro cs
      induction cs with
      | nil =>
          intro r₀ r h₀ hr
          obtain rfl := Option.some.inj hr
          exact h₀
      | cons c cs ih =>
          intro r₀ r h₀ hr
          rw [List.foldlM_cons] at hr
          obtain ⟨r₁, hstep, hrest⟩ := Option.bind_eq_some_iff.mp hr
          exact ih r₁ r (h₀.step hstep) hrest
    exact hall p _ r inObject_key hr
  obtain ⟨stack, mode⟩ := r
  unfold Reader.finish at hfinish
  split at hfinish
  · rename_i v hstack hmode
    obtain rfl : stack = [] := hstack
    obtain rfl : mode = .after v := hmode
    rw [List.foldlM_append, hr] at hpq
    exact run_after hpq
  · rename_i acc hstack hmode
    obtain rfl : mode = .word acc := hmode
    exact absurd (hin hstack) id
  · cases hfinish

/-- An object is printed between braces. -/
theorem print_object_eq (ms : List (String × Json)) :
    ∃ cs, (Json.object ms).print = '\x7b' :: (cs ++ ['\x7d']) := by
  have hmembers : ∀ ms : List (String × Json), ∃ cs, Json.printMembers ms = cs ++ ['\x7d'] := by
    intro ms
    induction ms with
    | nil => exact ⟨[], rfl⟩
    | cons m ms ih =>
        obtain ⟨k, v⟩ := m
        obtain ⟨cs, hcs⟩ := ih
        refine ⟨',' :: (quote k ++ ':' :: (v.print ++ cs)), ?_⟩
        rw [Json.printMembers, hcs]
        simp
  rcases ms with _ | ⟨⟨k, v⟩, ms⟩
  · exact ⟨[], rfl⟩
  · obtain ⟨cs, hcs⟩ := hmembers ms
    refine ⟨quote k ++ ':' :: (v.print ++ cs), ?_⟩
    rw [Json.print, hcs]
    simp

/-- **No part of the text of an object can be read.** -/
theorem parse_torn {ms : List (String × Json)} {p : List Char}
    (hp : p <+: (Json.object ms).print) (hne : p ≠ (Json.object ms).print) :
    Json.parse p = none := by
  obtain ⟨q, hq⟩ := hp
  obtain ⟨cs, hcs⟩ := print_object_eq ms
  rcases p with _ | ⟨c, p⟩
  · rfl
  · obtain ⟨rfl, htail⟩ := List.cons.inj (hq.trans hcs)
    change p ++ q = cs ++ ['\x7d'] at htail
    by_contra hread
    obtain ⟨j, hj⟩ := Option.ne_none_iff_exists'.mp hread
    have hwhole : Json.parse ('\x7b' :: (p ++ q)) = some (.object ms) := by
      rw [← List.cons_append, hq, parse_print]
    have hblank := parse_append_object hj hwhole
    have hq' : q ≠ [] := by
      rintro rfl
      exact hne (by rw [← hq, List.append_nil])
    have hlast : q.getLast? = some '\x7d' := by
      rw [← List.getLast?_append_of_ne_nil p hq', htail]
      simp
    exact absurd (hblank _ (List.mem_of_getLast? hlast)) (by decide)

/-! ## Line breaks -/

/-- An escape has no control characters. -/
theorem le_of_mem_unicodeEscape {n : ℕ} {c : Char} (h : c ∈ unicodeEscape n) : ' ' ≤ c := by
  have hdigit : ∀ d < 16, ' ' ≤ Nat.digitChar d := by decide
  simp only [unicodeEscape, hexUnit, List.mem_cons, List.not_mem_nil, or_false] at h
  rcases h with rfl | rfl | rfl | rfl | rfl | rfl
  · decide
  · decide
  all_goals exact hdigit _ (Nat.mod_lt _ (by decide))

/-- A text is escaped to characters that can be printed. -/
theorem le_of_mem_escape {c d : Char} (h : d ∈ escape c) : ' ' ≤ d := by
  have hpair : ∀ e : Char, ' ' ≤ e → d ∈ ['\\', e] → ' ' ≤ d := by
    intro e he hd
    simp only [List.mem_cons, List.not_mem_nil, or_false] at hd
    rcases hd with rfl | rfl
    · decide
    · exact he
  unfold escape at h
  split_ifs at h with _ _ hascii
  · exact hpair _ (by decide) h
  · exact hpair _ (by decide) h
  · rw [List.mem_singleton.mp h]
    exact hascii.1
  · exact hpair _ (by decide) h
  · exact hpair _ (by decide) h
  · exact hpair _ (by decide) h
  · exact hpair _ (by decide) h
  · exact hpair _ (by decide) h
  · exact le_of_mem_unicodeEscape h
  · rcases List.mem_append.mp h with h | h
    · exact le_of_mem_unicodeEscape h
    · exact le_of_mem_unicodeEscape h

/-- A quoted text has no control characters. -/
theorem le_of_mem_quote {s : String} {c : Char} (h : c ∈ quote s) : ' ' ≤ c := by
  simp only [quote, List.mem_cons, List.mem_append, List.mem_flatMap, List.not_mem_nil,
    or_false] at h
  rcases h with rfl | ⟨d, -, hd⟩ | rfl
  · decide
  · exact le_of_mem_escape hd
  · decide

/-- A character of a word is no control character. -/
theorem le_of_isWordChar {c : Char} (h : isWordChar c = true) : ' ' ≤ c := by
  have hcontrol : ∀ n < 32, isWordChar (Char.ofNat n) = false := by decide
  by_contra hlt
  have hword := hcontrol c.toNat (not_le.mp hlt)
  rw [Char.ofNat_toNat, h] at hword
  cases hword

/-- The characters of a text that was checked are no control characters. -/
theorem le_of_all {l : List Char} (hall : (l.all fun c => ' ' ≤ c) = true) {c : Char}
    (h : c ∈ l) : ' ' ≤ c := of_decide_eq_true (List.all_eq_true.mp hall c h)

mutual

/-- **Every character of a printed value can be printed.** -/
theorem le_of_mem_print {c : Char} : ∀ v : Json, c ∈ v.print → ' ' ≤ c
  | .null, h => le_of_all (l := "null".toList) rfl (by rwa [Json.print] at h)
  | .bool true, h => le_of_all (l := "true".toList) rfl (by rwa [Json.print] at h)
  | .bool false, h => le_of_all (l := "false".toList) rfl (by rwa [Json.print] at h)
  | .number text, h => by
      rw [Json.print] at h
      exact le_of_isWordChar (isWordChar_of_isNumber text.2 c h)
  | .string s, h => by
      rw [Json.print] at h
      exact le_of_mem_quote h
  | .array [], h => le_of_all (l := ['[', ']']) rfl (by rwa [Json.print] at h)
  | .array (x :: xs), h => by
      rw [Json.print, List.mem_cons, List.mem_append] at h
      rcases h with rfl | h | h
      · decide
      · exact le_of_mem_print x h
      · exact le_of_mem_printElements xs h
  | .object [], h => le_of_all (l := ['\x7b', '\x7d']) rfl (by rwa [Json.print] at h)
  | .object ((k, v) :: ms), h => by
      rw [Json.print, List.mem_cons, List.mem_append, List.mem_cons, List.mem_append] at h
      rcases h with rfl | h | rfl | h | h
      · decide
      · exact le_of_mem_quote h
      · decide
      · exact le_of_mem_print v h
      · exact le_of_mem_printMembers ms h

/-- Printed elements have no control characters. -/
theorem le_of_mem_printElements {c : Char} :
    ∀ xs : List Json, c ∈ Json.printElements xs → ' ' ≤ c
  | [], h => by
      rw [Json.printElements, List.mem_singleton] at h
      rw [h]
      decide
  | x :: xs, h => by
      rw [Json.printElements, List.mem_cons, List.mem_append] at h
      rcases h with rfl | h | h
      · decide
      · exact le_of_mem_print x h
      · exact le_of_mem_printElements xs h

/-- Printed members have no control characters. -/
theorem le_of_mem_printMembers {c : Char} :
    ∀ ms : List (String × Json), c ∈ Json.printMembers ms → ' ' ≤ c
  | [], h => by
      rw [Json.printMembers, List.mem_singleton] at h
      rw [h]
      decide
  | (k, v) :: ms, h => by
      rw [Json.printMembers, List.mem_cons, List.mem_append, List.mem_cons, List.mem_append] at h
      rcases h with rfl | h | rfl | h | h
      · decide
      · exact le_of_mem_quote h
      · decide
      · exact le_of_mem_print v h
      · exact le_of_mem_printMembers ms h

end

/-! ## Lines -/

/-- A text without the blanks around it. -/
def strip (blank : Char → Bool) (cs : List Char) : List Char :=
  (cs.dropWhile blank).rdropWhile blank

/-- Stripping a part of a text that begins with no blank leaves a part. -/
theorem strip_prefix {blank : Char → Bool} {c : Char} (hc : blank c = false) (cs : List Char) :
    strip blank (c :: cs) <+: c :: cs := by
  rw [strip, List.dropWhile_cons_of_neg (by simp [hc])]
  exact List.rdropWhile_prefix _ _

/-- **Objects may be written a line each**, whatever is taken off around a line that is read. -/
theorem lines_objects {blank : Char → Bool} (hopen : blank '\x7b' = false)
    (hclose : blank '\x7d' = false) :
    Lines (fun ms => (Json.object ms).print) (fun line => Json.parse (strip blank line))
      Json.object where
  read_print := by
    intro ms
    obtain ⟨cs, hcs⟩ := print_object_eq ms
    have hstrip : strip blank (Json.object ms).print = (Json.object ms).print := by
      rw [hcs, strip, List.dropWhile_cons_of_neg (by simp [hopen]), ← List.cons_append,
        List.rdropWhile_concat_neg _ _ _ (by simp [hclose])]
    rw [hstrip, parse_print]
  read_torn := by
    intro ms p hp hne
    rcases p with _ | ⟨c, p⟩
    · rfl
    · obtain ⟨cs, hcs⟩ := print_object_eq ms
      obtain rfl : c = '\x7b' := by
        obtain ⟨q, hq⟩ := hp
        exact (List.cons.inj (hq.trans hcs)).1
      have hstrip := strip_prefix hopen p
      refine parse_torn (hstrip.trans hp) fun heq => hne ?_
      exact hp.eq_of_length_le (heq ▸ hstrip.length_le)
  no_newline := fun ms h => absurd (le_of_mem_print _ h) (by decide)

end TripPipeline.Lib
