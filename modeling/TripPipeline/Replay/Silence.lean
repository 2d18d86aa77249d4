import TripPipeline.Replay.Reading

/-!
# When the reader stops

`read_all` asks no broker where a topic ends. It takes a silence of more than `idle_timeout`
seconds, counted from the last message or, before the first one, from the call, for the end. Here
its loop has a clock.

* `readAllTimed` is the loop with the readings of `time.time()`; `readAllTimed_readAll` says that
  every run of it is a run of `readAll`.
* `ReadsWhole`: the records are those of the messages that were in the topic at the call, each once.
* `readsWhole_iff`: they are, iff the topic does not fall silent (`FallsSilent`) while one of these
  messages is still to come. The time until the group has its assignment is such a silence.
-/

namespace TripPipeline.Replay

open TripPipeline.Common TripPipeline.Lib

/-! ## The loop with its clock -/

/-- What the client does in a `c.poll(1.0)`. Before the group has its assignment it has nothing. -/
inductive Answer where
  /-- Fetch the next message of a partition. -/
  | message (partition : ℕ)
  | nothing
  | partitionEof
  | error (e : Exc)

/-- A poll, and what `time.time()` reads after it. -/
structure Tick where
  answer : Answer
  time : ℚ

/-- The value of `msg`. -/
inductive Received where
  | message (partition : ℕ) (value : DlqValue)
  | nothing
  | partitionEof
  | error (e : Exc)

/-- How far the loop has come: the offset of the next message of each partition, and `last_msg`. -/
structure Progress where
  pos : ℕ → ℕ
  lastMsg : ℚ

/-- `msg = c.poll(1.0)`. A partition that was read to its end has nothing. -/
def receive (topic : Topic DlqValue) (pos : ℕ → ℕ) : Answer → Received
  | .message p =>
      match (topic p)[pos p]? with
      | some value => .message p value
      | none => .nothing
  | .nothing => .nothing
  | .partitionEof => .partitionEof
  | .error e => .error e

/-- A message moves its partition on, and sets `last_msg = time.time()`. -/
def Progress.next (s : Progress) (time : ℚ) : Received → Progress
  | .message p _ => ⟨Function.update s.pos p (s.pos p + 1), time⟩
  | _ => s

/-- `time.time() - last_msg > idle_timeout`. -/
def idleTooLong (idleTimeout time lastMsg : ℚ) : Bool := decide (idleTimeout < fl (time - lastMsg))

/-- The loop of `read_all`, `none` when the polls are used up before it ends. -/
def timedLoop (topic : Topic DlqValue) (idleTimeout : ℚ) (limit : ℤ) :
    List Tick → Progress → List DlqRead → Except Exc (Option (List DlqRead))
  | [], _, _ => .ok none
  | tick :: ticks, s, records =>
      let msg := receive topic s.pos tick.answer
      match msg with
      | .nothing =>
          if idleTooLong idleTimeout tick.time s.lastMsg then .ok (some records)
          else timedLoop topic idleTimeout limit ticks s records
      | .partitionEof => timedLoop topic idleTimeout limit ticks s records
      | .error e => .error e
      | .message p value => do
          let r ← value.toRecord ⟨p, s.pos p⟩
          let records := records ++ [r]
          if limit ≠ 0 ∧ limit ≤ records.length then .ok (some records)
          else timedLoop topic idleTimeout limit ticks (s.next tick.time msg) records

/-- Read the topic from the beginning until it goes quiet. `start` is `time.time()` at the call.
Source: `replay/dlq_tools.py` `read_all` -/
def readAllTimed (topic : Topic DlqValue) (idleTimeout start : ℚ) (ticks : List Tick) (limit : ℤ) :
    Except Exc (Option (List DlqRead)) :=
  timedLoop topic idleTimeout limit ticks ⟨fun _ => 0, start⟩ []

/-! ## The law -/

/-- One of the first `present p` messages of a partition is still to come. -/
def Progress.Waiting (present : ℕ → ℕ) (s : Progress) : Prop := ∃ p, s.pos p < present p

/-- Some poll finds nothing, more than `idle_timeout` seconds after the last message or the call,
while one of the first `present p` messages of a partition is still to come. -/
def FallsSilent (topic : Topic DlqValue) (present : ℕ → ℕ) (idleTimeout : ℚ) :
    Progress → List Tick → Prop
  | _, [] => False
  | s, tick :: ticks =>
      (s.Waiting present ∧ receive topic s.pos tick.answer = .nothing ∧
          idleTooLong idleTimeout tick.time s.lastMsg = true) ∨
        FallsSilent topic present idleTimeout (s.next tick.time (receive topic s.pos tick.answer))
          ticks

/-- The records hold the first `present p` messages of every partition, each exactly once. -/
def ReadsWhole (topic : Topic DlqValue) (present : ℕ → ℕ) (recs : List DlqRead) : Prop :=
  ∀ p, ∀ o < present p, ∃ v r, (topic p)[o]? = some v ∧ v.toRecord ⟨p, o⟩ = .ok r ∧
    recs.filter (fun r => r.loc = ⟨p, o⟩) = [r]

section reader

variable {topic : Topic DlqValue} {idleTimeout : ℚ} {limit : ℤ} {present : ℕ → ℕ}

/-- A message that is received is the one at the position. -/
theorem receive_message {pos : ℕ → ℕ} {answer : Answer} {p : ℕ} {v : DlqValue}
    (h : receive topic pos answer = .message p v) : (topic p)[pos p]? = some v := by
  cases answer with
  | message q =>
      rw [receive] at h
      split at h
      · rename_i value hvalue
        cases h
        exact hvalue
      · cases h
  | nothing => cases h
  | partitionEof => cases h
  | error e => cases h

/-- Positions only grow. -/
theorem Progress.pos_le_next (s : Progress) (time : ℚ) (msg : Received) (p : ℕ) :
    s.pos p ≤ (s.next time msg).pos p := by
  cases msg with
  | message q v =>
      show s.pos p ≤ Function.update s.pos q (s.pos q + 1) p
      by_cases hq : p = q
      · subst hq
        rw [Function.update_self]
        exact Nat.le_succ _
      · rw [Function.update_of_ne hq]
  | nothing => exact le_refl _
  | partitionEof => exact le_refl _
  | error e => exact le_refl _

/-- A reader that waits for nothing cannot be too early. -/
theorem not_fallsSilent {s : Progress} (h : ¬s.Waiting present) (ticks : List Tick) :
    ¬FallsSilent topic present idleTimeout s ticks := by
  induction ticks generalizing s with
  | nil => exact not_false
  | cons tick ticks ih =>
      rintro (⟨hwaiting, -⟩ | hrest)
      · exact h hwaiting
      · refine ih ?_ hrest
        rintro ⟨p, hp⟩
        exact h ⟨p, (s.pos_le_next _ _ p).trans_lt hp⟩

/-- **The end of the loop**: it holds what was read up to some position, and has waited for all of
the present messages iff the topic did not fall silent before. -/
theorem timedLoop_ends {ticks : List Tick} {s : Progress} {records recs : List DlqRead}
    (h : timedLoop topic idleTimeout 0 ticks s records = .ok (some recs))
    (hinv : ReadUpTo topic (fun _ => 0) s.pos records) :
    ∃ pos, ReadUpTo topic (fun _ => 0) pos recs ∧
      ((∀ p, present p ≤ pos p) ↔ ¬FallsSilent topic present idleTimeout s ticks) := by
  induction ticks generalizing s records with
  | nil => cases h
  | cons tick ticks ih =>
      rw [timedLoop] at h
      cases hmsg : receive topic s.pos tick.answer with
      | nothing =>
          simp only [hmsg] at h
          by_cases hidle : idleTooLong idleTimeout tick.time s.lastMsg = true
          · -- the silence ends the loop
            rw [if_pos hidle] at h
            obtain rfl := Option.some.inj (Except.ok.inj h)
            refine ⟨s.pos, hinv, ?_⟩
            by_cases hwaiting : s.Waiting present
            · refine iff_of_false ?_ (not_not.mpr (Or.inl ⟨hwaiting, hmsg, hidle⟩))
              obtain ⟨p, hp⟩ := hwaiting
              exact fun hall => absurd (hall p) (not_le.mpr hp)
            · refine iff_of_true (fun p => ?_) (not_fallsSilent hwaiting _)
              exact not_lt.mp fun hp => hwaiting ⟨p, hp⟩
          · rw [if_neg hidle] at h
            obtain ⟨pos, hread, hiff⟩ := ih h hinv
            refine ⟨pos, hread, hiff.trans (not_congr ?_)⟩
            rw [FallsSilent, hmsg]
            exact (or_iff_right fun hnow => hidle hnow.2.2).symm
      | partitionEof =>
          simp only [hmsg] at h
          obtain ⟨pos, hread, hiff⟩ := ih h hinv
          refine ⟨pos, hread, hiff.trans (not_congr ?_)⟩
          rw [FallsSilent, hmsg]
          exact (or_iff_right fun hnow => Received.noConfusion hnow.2.1).symm
      | error e =>
          simp only [hmsg] at h
          cases h
      | message p v =>
          simp only [hmsg] at h
          obtain ⟨r, hr, h⟩ := bind_eq_ok_iff.mp h
          rw [if_neg fun hstop => hstop.1 rfl] at h
          obtain ⟨pos, hread, hiff⟩ := ih h (hinv.next (receive_message hmsg) hr)
          refine ⟨pos, hread, hiff.trans (not_congr ?_)⟩
          rw [FallsSilent, hmsg]
          exact (or_iff_right fun hnow => Received.noConfusion hnow.2.1).symm

/-- Reading the present messages is reading up to their positions. -/
theorem ReadUpTo.whole_iff {pos : ℕ → ℕ} {recs : List DlqRead}
    (h : ReadUpTo topic (fun _ => 0) pos recs) :
    ReadsWhole topic present recs ↔ ∀ p, present p ≤ pos p := by
  constructor
  · intro hwhole p
    by_contra hlt
    obtain ⟨v, r, -, -, hone⟩ := hwhole p (pos p) (not_le.mp hlt)
    have hmem : r ∈ recs.filter fun r => r.loc = ⟨p, pos p⟩ := by
      rw [hone]
      exact List.mem_singleton_self r
    obtain ⟨hr, hloc⟩ := List.mem_filter.mp hmem
    have hread := (h.mem_iff r.loc).mp (List.mem_map_of_mem hr)
    rw [of_decide_eq_true hloc] at hread
    exact lt_irrefl _ hread.2
  · intro hall p o ho
    obtain ⟨r, hr, hloc⟩ := List.mem_map.mp
      ((h.mem_iff ⟨p, o⟩).mpr ⟨Nat.zero_le o, ho.trans_le (hall p)⟩)
    obtain ⟨v, hv, hrec⟩ := h.decoded r hr
    rw [hloc] at hv hrec
    refine ⟨v, r, hv, hrec, ?_⟩
    -- no other record is at this place
    obtain ⟨before, after, rfl⟩ := List.append_of_mem hr
    have hnodup := h.nodup
    rw [List.map_append, List.map_cons, List.nodup_middle, List.nodup_cons] at hnodup
    have hother : ∀ r' ∈ before ++ after, r'.loc ≠ ⟨p, o⟩ := by
      rintro r' hr' heq
      refine hnodup.1 ?_
      rw [hloc, ← heq, ← List.map_append]
      exact List.mem_map_of_mem hr'
    have hnone : ∀ l : List DlqRead, (∀ r' ∈ l, r' ∈ before ++ after) →
        l.filter (fun r => r.loc = ⟨p, o⟩) = [] := by
      intro l hl
      rw [List.filter_eq_nil_iff]
      intro r' hr' heq
      exact hother r' (hl r' hr') (of_decide_eq_true heq)
    rw [List.filter_append, hnone before fun r' => List.mem_append_left _, List.filter_cons,
      if_pos (decide_eq_true hloc), hnone after fun r' => List.mem_append_right _, List.nil_append]

/-- **`read_all` reads what was in the topic iff the topic does not fall silent too early.** -/
theorem readsWhole_iff {start : ℚ} {ticks : List Tick} {recs : List DlqRead}
    (h : readAllTimed topic idleTimeout start ticks 0 = .ok (some recs)) :
    ReadsWhole topic present recs ↔
      ¬FallsSilent topic present idleTimeout ⟨fun _ => 0, start⟩ ticks := by
  obtain ⟨pos, hread, hiff⟩ := timedLoop_ends h (@readUpTo_low topic (.zero topic))
  exact hread.whole_iff.trans hiff

/-- The clock only decides when the silence is too long: a run with a clock is a run without. -/
theorem timedLoop_readLoop {ticks : List Tick} {s : Progress} {records recs : List DlqRead}
    (h : timedLoop topic idleTimeout limit ticks s records = .ok (some recs)) :
    ∃ polls, readLoop topic limit polls s.pos records = .ok recs := by
  induction ticks generalizing s records with
  | nil => cases h
  | cons tick ticks ih =>
      rw [timedLoop] at h
      cases hmsg : receive topic s.pos tick.answer with
      | nothing =>
          simp only [hmsg] at h
          split_ifs at h
          · obtain rfl := Option.some.inj (Except.ok.inj h)
            exact ⟨[], rfl⟩
          · exact ih h
      | partitionEof =>
          simp only [hmsg] at h
          exact ih h
      | error e =>
          simp only [hmsg] at h
          cases h
      | message p v =>
          simp only [hmsg] at h
          obtain ⟨r, hr, h⟩ := bind_eq_ok_iff.mp h
          split_ifs at h with hstop
          · obtain rfl := Option.some.inj (Except.ok.inj h)
            refine ⟨[.message p], ?_⟩
            rw [readLoop, receive_message hmsg]
            simp only [hr, bind, Except.bind]
            rw [if_pos hstop]
          · obtain ⟨polls, hpolls⟩ := ih h
            refine ⟨.message p :: polls, ?_⟩
            rw [readLoop, receive_message hmsg]
            simp only [hr, bind, Except.bind]
            rw [if_neg hstop]
            exact hpolls

/-- **Every run of the reader with a clock is a run of the reader.** -/
theorem readAllTimed_readAll {start : ℚ} {ticks : List Tick} {recs : List DlqRead}
    (h : readAllTimed topic idleTimeout start ticks limit = .ok (some recs)) :
    ∃ polls, readAll topic polls limit = .ok recs := timedLoop_readLoop h

/-! ## One message, and a slow assignment -/

/-- One record in one partition. -/
def oneTopic : Topic DlqValue := fun p =>
  if p = 0 then [.json (.dict [("failure_stage", .str "parse")])] else []

/-- The topic as it was at the call. -/
def onePresent : ℕ → ℕ := fun p => if p = 0 then 1 else 0

/-- Assigned after two seconds: the message, the end of its partition, and six quiet seconds. -/
def promptTicks : List Tick :=
  [⟨.nothing, 1⟩, ⟨.nothing, 2⟩, ⟨.message 0, 3⟩, ⟨.partitionEof, 3⟩, ⟨.nothing, 9⟩]

/-- Assigned after six seconds. -/
def lateTicks : List Tick := [⟨.nothing, 2⟩, ⟨.nothing, 4⟩, ⟨.nothing, 6⟩, ⟨.message 0, 7⟩]

/-- Whole seconds are compared exactly. -/
theorem idleTooLong_intCast {t l : ℤ} (h : |t - l| < 2 ^ 53) :
    idleTooLong 5 t l = decide (5 < t - l) := by
  have hsub : fl ((t : ℚ) - l) = (t - l : ℤ) := by
    rw [← Int.cast_sub]
    exact fl_intCast h
  rw [idleTooLong, hsub]
  exact decide_eq_decide.mpr (by exact_mod_cast Iff.rfl)

/-- The general result at a broker that answers at once. -/
theorem readsWhole_iff_prompt :
    ∃ recs, readAllTimed oneTopic 5 0 promptTicks 0 = .ok (some recs) ∧
      (ReadsWhole oneTopic onePresent recs ↔
        ¬FallsSilent oneTopic onePresent 5 ⟨fun _ => 0, 0⟩ promptTicks) := by
  have h₁ : idleTooLong 5 1 0 = false := by
    simpa using idleTooLong_intCast (t := 1) (l := 0) (by decide)
  have h₂ : idleTooLong 5 2 0 = false := by
    simpa using idleTooLong_intCast (t := 2) (l := 0) (by decide)
  have h₉ : idleTooLong 5 9 3 = true := by
    simpa using idleTooLong_intCast (t := 9) (l := 3) (by decide)
  obtain ⟨recs, hrecs⟩ : ∃ recs, readAllTimed oneTopic 5 0 promptTicks 0 = .ok (some recs) := by
    simp [readAllTimed, promptTicks, timedLoop, receive, oneTopic, h₁, h₂, h₉, Progress.next,
      DlqValue.toRecord, bind, Except.bind]
  exact ⟨recs, hrecs, readsWhole_iff hrecs⟩

/-- The reader gives up on a topic that it has not been assigned yet. -/
theorem lateTicks_missed :
    readAllTimed oneTopic 5 0 lateTicks 0 = .ok (some []) ∧
      ¬ReadsWhole oneTopic onePresent [] := by
  have h₂ : idleTooLong 5 2 0 = false := by
    simpa using idleTooLong_intCast (t := 2) (l := 0) (by decide)
  have h₄ : idleTooLong 5 4 0 = false := by
    simpa using idleTooLong_intCast (t := 4) (l := 0) (by decide)
  have h₆ : idleTooLong 5 6 0 = true := by
    simpa using idleTooLong_intCast (t := 6) (l := 0) (by decide)
  refine ⟨?_, fun h => ?_⟩
  · simp [readAllTimed, lateTicks, timedLoop, receive, h₂, h₄, h₆]
  · obtain ⟨v, r, -, -, hone⟩ := h 0 0 Nat.one_pos
    cases hone

end reader

end TripPipeline.Replay
