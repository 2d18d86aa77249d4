import TripPipeline.Lib.Except

/-!
# Traces that an exception cuts short

A `Trace` is what a computation did, in order, and the exception it raised, if it raised one. Traces
one after the other form a monoid (`andThen`, `all`): nothing follows an exception.

* `raised_all`: a sequence raises nothing iff none of its parts does.
* `filter_all_split`: the moments of one part, when the other parts have none of its kind.
* `Records`: a computation in `Except` that keeps a log, against its trace. `Records.foldlM` is the
  rule for loops.
* `flatMap_eq_split`: the place of one element in a list of lists.
-/

namespace TripPipeline.Lib

variable {μ ν ε α β : Type}

/-- What was done, and the exception that ended it. -/
structure Trace (μ ε : Type) where
  moments : List μ
  raised : Option ε

namespace Trace

/-- A computation that ends normally. -/
def done (moments : List μ) : Trace μ ε := ⟨moments, none⟩

/-- One computation, then another, unless the first raises. -/
def andThen (a b : Trace μ ε) : Trace μ ε :=
  match a.raised with
  | none => ⟨a.moments ++ b.moments, b.raised⟩
  | some _ => a

/-- One computation after the other, until one raises. -/
def all (ts : List (Trace μ ε)) : Trace μ ε := ts.foldr andThen (done [])

/-- A trace that is done has its moments. -/
@[simp] theorem done_moments (ms : List μ) : (done ms : Trace μ ε).moments = ms := rfl

/-- A trace that is done raised nothing. -/
@[simp] theorem done_raised (ms : List μ) : (done ms : Trace μ ε).raised = none := rfl

/-- No traces make the empty trace. -/
@[simp] theorem all_nil : all ([] : List (Trace μ ε)) = done [] := rfl

/-- The first trace, then the others. -/
@[simp] theorem all_cons (t : Trace μ ε) (ts : List (Trace μ ε)) :
    all (t :: ts) = t.andThen (all ts) := rfl

/-- After a trace that raised nothing, what follows is appended. -/
theorem andThen_of_none {a : Trace μ ε} (h : a.raised = none) (b : Trace μ ε) :
    a.andThen b = ⟨a.moments ++ b.moments, b.raised⟩ := by
  rw [andThen, h]

/-- After a trace that raised, nothing follows. -/
theorem andThen_of_ne_none {a : Trace μ ε} (h : a.raised ≠ none) (b : Trace μ ε) :
    a.andThen b = a := by
  unfold andThen
  split
  · contradiction
  · rfl

/-- Two traces raise nothing when neither does. -/
theorem raised_andThen (a b : Trace μ ε) :
    (a.andThen b).raised = none ↔ a.raised = none ∧ b.raised = none := by
  by_cases h : a.raised = none
  · rw [andThen_of_none h]
    exact (and_iff_right h).symm
  · rw [andThen_of_ne_none h]
    exact ⟨fun ha => absurd ha h, fun hab => absurd hab.1 h⟩

/-- Putting traces behind each other is associative. -/
theorem andThen_assoc (a b c : Trace μ ε) : (a.andThen b).andThen c = a.andThen (b.andThen c) := by
  by_cases ha : a.raised = none
  · by_cases hb : b.raised = none
    · have hab : (a.andThen b).raised = none := (raised_andThen a b).mpr ⟨ha, hb⟩
      rw [andThen_of_none hab, andThen_of_none ha, andThen_of_none ha, andThen_of_none hb,
        List.append_assoc]
    · have hab : (a.andThen b).raised ≠ none := fun h => hb ((raised_andThen a b).mp h).2
      rw [andThen_of_ne_none hab, andThen_of_ne_none hb]
  · rw [andThen_of_ne_none ha, andThen_of_ne_none ha, andThen_of_ne_none ha]

/-- The empty trace in front changes nothing. -/
@[simp] theorem done_nil_andThen (a : Trace μ ε) : (done []).andThen a = a := rfl

/-- Two lists of traces, one behind the other. -/
theorem all_append (xs ys : List (Trace μ ε)) : all (xs ++ ys) = (all xs).andThen (all ys) := by
  induction xs with
  | nil => rfl
  | cons x xs ih => rw [List.cons_append, all_cons, all_cons, ih, andThen_assoc]

/-- Sequences of sequences are sequences. -/
theorem all_flatMap (f : α → List (Trace μ ε)) (l : List α) :
    all (l.map fun a => all (f a)) = all (l.flatMap f) := by
  induction l with
  | nil => rfl
  | cons a l ih => rw [List.map_cons, all_cons, ih, List.flatMap_cons, all_append]

/-- **A sequence raises nothing iff none of its parts does.** -/
theorem raised_all (ts : List (Trace μ ε)) :
    (all ts).raised = none ↔ ∀ t ∈ ts, t.raised = none := by
  induction ts with
  | nil => simp
  | cons t ts ih => rw [all_cons, raised_andThen, ih, List.forall_mem_cons]

/-- Every moment of a sequence is a moment of one of its parts. -/
theorem mem_all {ts : List (Trace μ ε)} {m : μ} (h : m ∈ (all ts).moments) :
    ∃ t ∈ ts, m ∈ t.moments := by
  induction ts with
  | nil => exact absurd h List.not_mem_nil
  | cons t ts ih =>
      by_cases ht : t.raised = none
      · rw [all_cons, andThen_of_none ht] at h
        rcases List.mem_append.mp h with h | h
        · exact ⟨t, List.mem_cons_self, h⟩
        · obtain ⟨t', ht', hm⟩ := ih h
          exact ⟨t', List.mem_cons_of_mem t ht', hm⟩
      · rw [all_cons, andThen_of_ne_none ht] at h
        exact ⟨t, List.mem_cons_self, h⟩

/-! ## The moments of one kind -/

section kind

variable {p : μ → Bool}

/-- A sequence has no moments of a kind that its parts do not have. -/
theorem filter_all_eq_nil {ts : List (Trace μ ε)} (h : ∀ t ∈ ts, t.moments.filter p = []) :
    (all ts).moments.filter p = [] := by
  induction ts with
  | nil => rfl
  | cons t ts ih =>
      obtain ⟨ht, hts⟩ := List.forall_mem_cons.mp h
      by_cases hraised : t.raised = none
      · rw [all_cons, andThen_of_none hraised, List.filter_append, ht, ih hts]
        rfl
      · rw [all_cons, andThen_of_ne_none hraised, ht]

/-- **The moments of one part**, when the others have none of its kind: all of them, unless an
earlier part raised. -/
theorem filter_all_split {xs ys : List (Trace μ ε)} (t : Trace μ ε)
    (hx : ∀ x ∈ xs, x.moments.filter p = []) (hy : ∀ y ∈ ys, y.moments.filter p = []) :
    (all (xs ++ t :: ys)).moments.filter p =
      if (all xs).raised.isNone then t.moments.filter p else [] := by
  rw [all_append]
  by_cases hxs : (all xs).raised = none
  · rw [andThen_of_none hxs, hxs, List.filter_append, filter_all_eq_nil hx, all_cons]
    by_cases ht : t.raised = none
    · rw [andThen_of_none ht, List.filter_append, filter_all_eq_nil hy]
      simp
    · rw [andThen_of_ne_none ht]
      simp
  · rw [andThen_of_ne_none hxs, filter_all_eq_nil hx, if_neg]
    rwa [Option.isNone_iff_eq_none]

end kind

end Trace

/-! ## A log against a trace -/

/-- The computation leaves in its log the moments of the trace that are logged, and raises what the
trace says. -/
def Records (log : β → List ν) (logged : μ → Option ν) (s : β) (t : Trace μ ε)
    (m : Except ε β) : Prop :=
  Ends (fun s' => t.raised = none ∧ log s' = log s ++ t.moments.filterMap logged)
    (fun e => t.raised = some e) m

section records

variable {log : β → List ν} {logged : μ → Option ν}

/-- **The loop rule**: turns that record their traces make a loop that records their sequence. -/
theorem Records.foldlM {f : β → α → Except ε β} {trace : α → Trace μ ε}
    (h : ∀ s a, Records log logged s (trace a) (f s a)) (l : List α) (s : β) :
    Records log logged s (Trace.all (l.map trace)) (l.foldlM f s) := by
  induction l generalizing s with
  | nil => exact ⟨rfl, (List.append_nil _).symm⟩
  | cons a l ih =>
      have ha := h s a
      rw [List.foldlM_cons, List.map_cons, Trace.all_cons]
      cases hstep : f s a with
      | error e =>
          rw [hstep] at ha
          have hraised : (trace a).raised = some e := ha
          have hne : (trace a).raised ≠ none := by
            rw [hraised]
            exact Option.some_ne_none e
          rw [Trace.andThen_of_ne_none hne]
          exact hraised
      | ok s' =>
          rw [hstep] at ha
          obtain ⟨hraised, hlog⟩ := ha
          rw [Trace.andThen_of_none hraised]
          refine (ih s').imp ?_ fun e he => he
          rintro s'' ⟨hnone, hrest⟩
          refine ⟨hnone, ?_⟩
          show log s'' = log s ++ ((trace a).moments ++ _).filterMap logged
          rw [hrest, hlog, List.filterMap_append, List.append_assoc]

end records

/-! ## Places in a list -/

/-- A list that has an element of a kind has a first one. -/
theorem exists_first {p : α → Prop} [DecidablePred p] {l : List α} (h : ∃ a ∈ l, p a) :
    ∃ pre a post, l = pre ++ a :: post ∧ (∀ b ∈ pre, ¬p b) ∧ p a := by
  induction l with
  | nil =>
      obtain ⟨a, ha, -⟩ := h
      cases ha
  | cons b l ih =>
      by_cases hb : p b
      · exact ⟨[], b, l, rfl, fun c hc => absurd hc List.not_mem_nil, hb⟩
      · have hrest : ∃ a ∈ l, p a := by
          obtain ⟨a, ha, hpa⟩ := h
          rcases List.mem_cons.mp ha with rfl | ha
          · exact absurd hpa hb
          · exact ⟨a, ha, hpa⟩
        obtain ⟨pre, a, post, rfl, hpre, hpa⟩ := ih hrest
        exact ⟨b :: pre, a, post, rfl, List.forall_mem_cons.mpr ⟨hb, hpre⟩, hpa⟩

/-- **The place of an element in a list of lists.** -/
theorem flatMap_eq_split {f : α → List β} {l : List α} {pre post : List β} {b : β}
    (h : l.flatMap f = pre ++ b :: post) :
    ∃ l₁ a l₂ p q, l = l₁ ++ a :: l₂ ∧ f a = p ++ b :: q ∧ pre = l₁.flatMap f ++ p ∧
      post = q ++ l₂.flatMap f := by
  induction l generalizing pre with
  | nil => exact absurd h.symm (List.append_ne_nil_of_right_ne_nil _ (List.cons_ne_nil _ _))
  | cons a l ih =>
      rw [List.flatMap_cons] at h
      rcases List.append_eq_append_iff.mp h with ⟨rest, rfl, hrest⟩ | ⟨rest, ha, hrest⟩
      · obtain ⟨l₁, a', l₂, p, q, rfl, ha', rfl, hpost⟩ := ih hrest
        exact ⟨a :: l₁, a', l₂, p, q, rfl, ha', by simp, hpost⟩
      · rcases rest with _ | ⟨b', rest⟩
        · -- the element begins the rest of the list
          have hnil : l.flatMap f = [] ++ b :: post := hrest.symm
          obtain ⟨l₁, a', l₂, p, q, rfl, ha', hp, hpost⟩ := ih hnil
          refine ⟨a :: l₁, a', l₂, p, q, rfl, ha', ?_, hpost⟩
          rw [List.flatMap_cons, List.append_assoc, ← hp, ha, List.append_nil, List.append_nil]
        · obtain ⟨rfl, rfl⟩ := List.cons.inj hrest
          exact ⟨[], a, l, pre, rest, rfl, ha, rfl, rfl⟩

end TripPipeline.Lib
