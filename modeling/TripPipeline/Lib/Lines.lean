import Mathlib.Data.List.Basic
import Mathlib.Tactic.Common

/-!
# A record a line

Records are appended to a file, each on a line of its own, while someone else reads the file. What
is read is a part of the file from its start, and the part may end inside of a line. A reader that
takes the records line by line, and leaves out what it cannot read, sees the first records of the
file and nothing else, as long as no part of a record can be read (`Lines`).

* `exists_cut`: where such a part ends.
* `readFile_cut`: what is read of it; every record whose line is complete is among it.
-/

namespace TripPipeline.Lib

variable {α β : Type} {print : α → List Char} {read : List Char → Option β} {value : α → β}

/-- A reader that tells the text of a record from its parts. -/
structure Lines (print : α → List Char) (read : List Char → Option β) (value : α → β) : Prop where
  read_print : ∀ a, read (print a) = some (value a)
  read_torn : ∀ a p, p <+: print a → p ≠ print a → read p = none
  no_newline : ∀ a, '\n' ∉ print a

/-- The file of some records. -/
def fileOf (print : α → List Char) (as : List α) : List Char :=
  as.flatMap fun a => print a ++ ['\n']

/-- The records that are read of a file. -/
def readFile (read : List Char → Option β) (cs : List Char) : List β :=
  (cs.splitOn '\n').filterMap read

/-- The first line of a file, then the others. -/
theorem fileOf_cons (a : α) (as : List α) :
    fileOf print (a :: as) = print a ++ '\n' :: fileOf print as := by
  rw [fileOf, List.flatMap_cons, List.append_assoc]
  rfl

/-- A part of a file from its start is that of a line, or goes beyond. -/
theorem prefix_fileOf_cons {a : α} {as : List α} {cs : List Char}
    (h : cs <+: fileOf print (a :: as)) :
    cs <+: print a ∨ ∃ cs', cs = print a ++ '\n' :: cs' ∧ cs' <+: fileOf print as := by
  rw [fileOf_cons] at h
  rcases List.prefix_or_prefix_of_prefix h (List.prefix_append (print a) _) with hwithin | ⟨t, rfl⟩
  · exact Or.inl hwithin
  · have htail := (List.prefix_append_right_inj _).mp h
    rcases List.prefix_cons_iff.mp htail with rfl | ⟨cs', rfl, hcs'⟩
    · exact Or.inl (List.append_nil _ ▸ List.prefix_rfl)
    · exact Or.inr ⟨cs', rfl, hcs'⟩

/-- **Where a part of a file ends**: after some lines, in the middle of the next one. -/
theorem exists_cut {as : List α} {cs : List Char} (h : cs <+: fileOf print as) :
    ∃ done rest p, as = done ++ rest ∧ cs = fileOf print done ++ p ∧
      (p = [] ∨ ∃ a ∈ rest.head?, p <+: print a) := by
  induction as generalizing cs with
  | nil => exact ⟨[], [], [], rfl, List.prefix_nil.mp h, Or.inl rfl⟩
  | cons a as ih =>
      rcases prefix_fileOf_cons h with hwithin | ⟨cs', rfl, hcs'⟩
      · exact ⟨[], a :: as, cs, rfl, rfl, Or.inr ⟨a, rfl, hwithin⟩⟩
      · obtain ⟨done, rest, p, rfl, rfl, hp⟩ := ih hcs'
        refine ⟨a :: done, rest, p, rfl, ?_, hp⟩
        rw [fileOf_cons, List.append_assoc, List.cons_append]

/-- A part that ends in the middle of a line has no complete line after it. -/
theorem eq_nil_of_cut {done rest more : List α} {p : List Char}
    (hp : p = [] ∨ ∃ a ∈ rest.head?, p <+: print a)
    (h : fileOf print (done ++ more) <+: fileOf print done ++ p) (hmore : more <+: rest) :
    more = [] := by
  rcases more with _ | ⟨a, more⟩
  · rfl
  · obtain ⟨tail, rfl⟩ := hmore
    have hsplit : fileOf print (done ++ a :: more) =
        fileOf print done ++ fileOf print (a :: more) := List.flatMap_append
    rw [hsplit, fileOf_cons] at h
    have hle := ((List.prefix_append_right_inj _).mp h).length_le
    rw [List.length_append, List.length_cons] at hle
    rcases hp with rfl | ⟨a', ha', hp⟩
    · rw [List.length_nil] at hle
      omega
    · obtain rfl : a = a' := Option.some.inj ha'
      have := hp.length_le
      omega

/-- Lines that are complete in the part are among those before its end. -/
theorem complete_of_cut {done rest full : List α} {p : List Char}
    (hp : p = [] ∨ ∃ a ∈ rest.head?, p <+: print a) (hfull : full <+: done ++ rest)
    (hfile : fileOf print full <+: fileOf print done ++ p) : full <+: done := by
  rcases List.prefix_or_prefix_of_prefix hfull (List.prefix_append done rest) with hle | ⟨more, rfl⟩
  · exact hle
  · have hmore := (List.prefix_append_right_inj _).mp hfull
    simp [eq_nil_of_cut hp hfile hmore]

section reading

variable (h : Lines print read value)

include h

/-- The lines of a part of a file. -/
theorem splitOn_cut (done : List α) {p : List Char} (hp : '\n' ∉ p) :
    (fileOf print done ++ p).splitOn '\n' = done.map print ++ [p] := by
  induction done with
  | nil => exact List.splitOn_eq_singleton hp
  | cons a done ih =>
      rw [fileOf_cons, List.append_assoc, List.cons_append, List.splitOn_append_cons_self,
        List.splitOn_eq_singleton (h.no_newline a), ih]
      rfl

/-- No part of a line has a line break. -/
theorem no_newline_cut {rest : List α} {p : List Char}
    (hp : p = [] ∨ ∃ a ∈ rest.head?, p <+: print a) : '\n' ∉ p := by
  rcases hp with rfl | ⟨a, -, hp⟩
  · exact List.not_mem_nil
  · exact fun hmem => h.no_newline a (hp.subset hmem)

/-- What is read of a part of a file. -/
theorem readFile_append (done : List α) {p : List Char} (hp : '\n' ∉ p) :
    readFile read (fileOf print done ++ p) = done.map value ++ (read p).toList := by
  have hlines : (done.map print).filterMap read = done.map value := by
    rw [List.filterMap_map, ← List.filterMap_eq_map]
    exact List.filterMap_congr fun a _ => h.read_print a
  rw [readFile, splitOn_cut h done hp, List.filterMap_append, hlines]
  cases hread : read p <;> simp [hread]

/-- **What is read of a part of a file is its first records**, with all whose lines are complete. -/
theorem readFile_cut (hempty : read [] = none) {as : List α} {cs : List Char}
    (hcs : cs <+: fileOf print as) :
    ∃ seen, seen <+: as ∧ readFile read cs = seen.map value ∧
      ∀ full, full <+: as → fileOf print full <+: cs → full <+: seen := by
  obtain ⟨done, rest, p, rfl, rfl, hp⟩ := exists_cut hcs
  have hread := readFile_append h done (no_newline_cut h hp)
  by_cases htorn : ∃ a ∈ rest.head?, p = print a
  · obtain ⟨a, ha, rfl⟩ := htorn
    obtain ⟨rest, rfl⟩ : ∃ rest', rest = a :: rest' := by
      cases rest with
      | nil => cases ha
      | cons b rest' => exact ⟨rest', by rw [Option.some.inj ha]⟩
    refine ⟨done ++ [a], ⟨rest, by rw [List.append_assoc]; rfl⟩, ?_, ?_⟩
    · rw [hread, h.read_print, List.map_append]
      rfl
    · exact fun full hfull hfile => (complete_of_cut hp hfull hfile).trans (List.prefix_append _ _)
  · refine ⟨done, List.prefix_append _ _, ?_, fun full => complete_of_cut hp⟩
    have hnone : read p = none := by
      rcases hp with rfl | ⟨a, ha, hp⟩
      · exact hempty
      · exact h.read_torn a p hp fun heq => htorn ⟨a, ha, heq⟩
    rw [hread, hnone]
    exact List.append_nil _

end reading

end TripPipeline.Lib
