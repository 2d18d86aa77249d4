import TripPipeline.Replay.Once

/-!
# Messages that stop the drain

A message is decoded, parsed, assigned to, looked up and converted on its way to one of the three
lists. Decoding and parsing stand in a `try`; the two assignments to `rec`, the fallback itself and
the `int(...)` of the routing loop do not, and neither does the hash of the stage. One message that
raises there ends the drain of all the others.

* `DlqValue.ofBytes`: a message's value from its bytes.
* `Drainable`: the values that get through.
* `unblocked_iff`: the drain of a topic gets to its three lists iff every message is drainable.
-/

namespace TripPipeline.Replay

open TripPipeline.Common TripPipeline.Lib

/-- `json.loads(msg.value().decode("utf-8"))`, and what becomes of bytes on which it raises.
`replacing` is `decode("utf-8", "replace")`. -/
def DlqValue.ofBytes (codec : JsonCodec) (replacing : ByteArray → String) :
    Option ByteArray → DlqValue
  | none => .null
  | some bytes =>
      match (String.fromUTF8? bytes).bind codec.loads with
      | some v => .json v
      | none => .unreadable (replacing bytes)

/-- The values the reader finds. -/
def decodeTopic (codec : JsonCodec) (replacing : ByteArray → String)
    (topic : Topic (Option ByteArray)) : Topic DlqValue :=
  fun p => (topic p).map (DlqValue.ofBytes codec replacing)

/-! ## Values that get through -/

/-- `hash(value)` does not raise. -/
def Hashable : PyVal → Prop
  | .list _ | .dict _ => False
  | _ => True

/-- The value is no null value, and no JSON value but an object. In the object, `int(...)` takes the
`replay_count`, and below the ceiling the stage is hashable. -/
def Drainable (intOfText : String → Option ℤ) (maxReplays : ℤ) : DlqValue → Prop
  | .null => False
  | .unreadable _ => True
  | .json (.dict d) => ∃ n, pyInt intOfText (getOr d "replay_count" (.int 0)) = .ok n ∧
      (maxReplays ≤ n ∨ Hashable (getOr d "failure_stage" (.str "?")))
  | .json _ => False

/-- `in` compares a stage with a set of names when the stage has a hash. -/
theorem inStages_ok_iff (stages : List String) (v : PyVal) :
    (∃ b, inStages stages v = .ok b) ↔ Hashable v := by
  cases v <;> simp [inStages, Hashable]

section drainable

variable {env : DrainEnv} {maxReplays : ℤ}

/-- A record is classified when its replay count is a number and its stage can be compared. -/
theorem classify_ok_iff {r : DlqRead} :
    (∃ a, classify env maxReplays r = .ok a) ↔
      ∃ n, pyInt env.intOfText (getOr r.fields "replay_count" (.int 0)) = .ok n ∧
        (maxReplays ≤ n ∨ Hashable (getOr r.fields "failure_stage" (.str "?"))) := by
  have hstages : ∀ v, (∃ a, (do
      let reinject ← inStages reinjectStages v
      if reinject then .ok .reinject
      else
        let direct ← inStages directWriteStages v
        if direct then .ok .direct
        else .ok (.park ("stage " ++ env.repr v ++ " is not automatically recoverable")) :
      Except Exc Action) = .ok a) ↔ Hashable v := by
    intro v
    rw [← inStages_ok_iff reinjectStages v]
    constructor
    · rintro ⟨a, ha⟩
      obtain ⟨b, hb, -⟩ := bind_eq_ok_iff.mp ha
      exact ⟨b, hb⟩
    · intro h
      obtain ⟨b, hb⟩ := h
      obtain ⟨b', hb'⟩ := (inStages_ok_iff directWriteStages v).mpr
        ((inStages_ok_iff reinjectStages v).mp ⟨b, hb⟩)
      rw [hb, hb']
      cases b <;> cases b' <;> exact ⟨_, rfl⟩
  unfold classify
  constructor
  · rintro ⟨a, ha⟩
    obtain ⟨n, hn, ha⟩ := bind_eq_ok_iff.mp ha
    refine ⟨n, hn, ?_⟩
    by_cases hmax : maxReplays ≤ n
    · exact Or.inl hmax
    · rw [if_neg hmax] at ha
      exact Or.inr ((hstages _).mp ⟨a, ha⟩)
  · rintro ⟨n, hn, h⟩
    simp only [hn, bind, Except.bind]
    by_cases hmax : maxReplays ≤ n
    · rw [if_pos hmax]
      exact ⟨_, rfl⟩
    · rw [if_neg hmax]
      exact (hstages _).mpr (h.resolve_left hmax)

/-- The keys the reader adds are not looked at by the routing. -/
theorem getOr_set_loc {d : Dict} {l : Loc} {field : String} {default : PyVal}
    (hpart : field ≠ "_partition") (hoff : field ≠ "_offset") :
    getOr (Dict.set "_offset" (.int l.offset) (Dict.set "_partition" (.int l.partition) d)) field
      default = getOr d field default := by
  unfold getOr
  rw [Dict.lookup_set, if_neg hoff, Dict.lookup_set, if_neg hpart]

/-- **A message gets to a list iff its value is drainable.** -/
theorem drainable_iff (v : DlqValue) (l : Loc) :
    Drainable env.intOfText maxReplays v ↔
      ∃ r, v.toRecord l = .ok r ∧ ∃ a, classify env maxReplays r = .ok a := by
  simp only [classify_ok_iff]
  rcases v with _ | text | v
  · simp [Drainable, DlqValue.toRecord]
  · simp only [Drainable, DlqValue.toRecord, Except.ok.injEq, exists_eq_left', true_iff]
    rw [getOr_set_loc (by decide) (by decide), getOr_set_loc (by decide) (by decide)]
    exact ⟨0, rfl, Or.inr trivial⟩
  · cases v with
    | dict d =>
        simp only [Drainable, DlqValue.toRecord, Except.ok.injEq, exists_eq_left']
        rw [getOr_set_loc (by decide) (by decide), getOr_set_loc (by decide) (by decide)]
    | _ => simp [Drainable, DlqValue.toRecord]

end drainable

/-! ## Topics that are drained -/

/-- The reader gives one record for each message, and the routing puts each into one list. -/
def Unblocked (env : DrainEnv) (maxReplays : ℤ) (topic : Topic DlqValue) : Prop :=
  ∃ recs lists, readAll topic env.polls 0 = .ok recs ∧ (recs.map DlqRead.loc).Nodup ∧
    (∀ l, l ∈ recs.map DlqRead.loc ↔ l.offset < (topic l.partition).length) ∧
    routeRecords env maxReplays recs = .ok lists ∧
    ((lists.reinject ++ (lists.direct ++ lists.park)).map DlqRead.loc).Perm (recs.map DlqRead.loc)

section unblocked

variable {env : DrainEnv} {maxReplays : ℤ} {topic : Topic DlqValue}

/-- In a topic that is drained every message gets through. -/
theorem Unblocked.drainable (h : Unblocked env maxReplays topic) :
    ∀ p, ∀ v ∈ topic p, Drainable env.intOfText maxReplays v := by
  intro p v hv
  obtain ⟨recs, lists, hreads, -, hall, hrouted, -⟩ := h
  obtain ⟨pos, hread⟩ := readAll_readUpTo hreads
  obtain ⟨o, ho, hget⟩ := List.mem_iff_getElem.mp hv
  obtain ⟨r, hr, hloc⟩ := List.mem_map.mp ((hall ⟨p, o⟩).mpr ho)
  obtain ⟨v', hv', hdecode⟩ := hread.decoded r hr
  rw [hloc, List.getElem?_eq_getElem ho, hget] at hv'
  obtain rfl := Option.some.inj hv'
  exact (drainable_iff v r.loc).mpr ⟨r, hdecode, routeRecords_classified hrouted r hr⟩

/-- When every message gets through, the drain has all of them in its lists. -/
theorem unblocked_of_drainable (hpolls : PolledOut topic env.polls)
    (herror : ∀ e, Poll.error e ∉ env.polls)
    (h : ∀ p, ∀ v ∈ topic p, Drainable env.intOfText maxReplays v) :
    Unblocked env maxReplays topic := by
  obtain ⟨recs, hreads⟩ : ∃ recs, readAll topic env.polls 0 = .ok recs := by
    apply exists_readLoop
    · intro p v hv l
      obtain ⟨r, hr, -⟩ := (drainable_iff v l).mp (h p v hv)
      exact ⟨r, hr⟩
    · exact herror
  obtain ⟨pos, hread⟩ := readAll_readUpTo hreads
  obtain ⟨lists, hlists⟩ : ∃ lists, routeRecords env maxReplays recs = .ok lists := by
    apply exists_routeRecords
    intro r hr
    obtain ⟨v, hv, hdecode⟩ := hread.decoded r hr
    obtain ⟨r', hr', hclass⟩ := (drainable_iff v r.loc).mp (h _ v (List.mem_of_getElem? hv))
    obtain rfl := Except.ok.inj (hr'.symm.trans hdecode)
    exact hclass
  refine ⟨recs, lists, hreads, hread.nodup, ?_, hlists, routeRecords_perm hlists⟩
  intro l
  constructor
  · intro hl
    exact lt_of_lt_of_le ((hread.mem_iff l).mp hl).2 (hread.bound _)
  · exact readAll_complete hreads hpolls l.partition l.offset

/-- **The drain of a topic gets to its three lists iff every message is drainable.** -/
theorem unblocked_iff {replacing : ByteArray → String} {topic : Topic (Option ByteArray)}
    (hpolls : PolledOut (decodeTopic env.codec replacing topic) env.polls)
    (herror : ∀ e, Poll.error e ∉ env.polls) :
    Unblocked env maxReplays (decodeTopic env.codec replacing topic) ↔
      ∀ p, ∀ value ∈ topic p,
        Drainable env.intOfText maxReplays (DlqValue.ofBytes env.codec replacing value) := by
  constructor
  · intro h p value hvalue
    exact h.drainable p _ (List.mem_map_of_mem hvalue)
  · intro h
    apply unblocked_of_drainable hpolls herror
    intro p v hv
    obtain ⟨value, hvalue, rfl⟩ := List.mem_map.mp hv
    exact h p value hvalue

end unblocked

/-! ## A null in the way -/

/-- An object whose `replay_count` is null. -/
def nullCount : String := "\x7b\"failure_stage\":\"parse\",\"replay_count\":null\x7d"

/-- The quiet environment, with the one text to parse. -/
def nullCountEnv : DrainEnv :=
  { calmEnv with
    codec := ⟨fun text => if text = nullCount then
      some (.dict [("failure_stage", .str "parse"), ("replay_count", .none)]) else none,
      fun _ => ""⟩ }

/-- A message that is no JSON text, and after it, perhaps, the object. -/
def nullCountTopic (values : List (Option ByteArray)) : Topic (Option ByteArray) :=
  fun p => if p = 0 then some ByteArray.empty :: values else []

/-- A text is read back from its bytes. -/
theorem fromUTF8?_toByteArray (s : String) : String.fromUTF8? s.toByteArray = some s :=
  dif_pos s.isValidUTF8

/-- The sample polls read a topic of at most one message. -/
theorem nullCount_polled {values : List (Option ByteArray)} (hlen : values.length ≤ 1) :
    PolledOut (decodeTopic nullCountEnv.codec (fun _ => "") (nullCountTopic values))
      nullCountEnv.polls := by
  intro p
  by_cases hp : p = 0
  · subst hp
    simpa [decodeTopic, nullCountTopic, nullCountEnv, calmEnv, Poll.quiet, Poll.delivers]
      using hlen
  · simp [decodeTopic, nullCountTopic, hp]

/-- The general result at an empty topic. -/
theorem unblocked_iff_unreadable :
    Unblocked nullCountEnv 3
        (decodeTopic nullCountEnv.codec (fun _ => "") (nullCountTopic [])) ↔
      ∀ p, ∀ value ∈ nullCountTopic [] p, Drainable nullCountEnv.intOfText 3
        (DlqValue.ofBytes nullCountEnv.codec (fun _ => "") value) :=
  unblocked_iff (nullCount_polled (Nat.zero_le _)) (by simp [nullCountEnv, calmEnv])

/-- An object whose `replay_count` is null stops the drain of the message before it. -/
theorem nullCount_blocks :
    PolledOut (decodeTopic nullCountEnv.codec (fun _ => "")
        (nullCountTopic [some nullCount.toByteArray])) nullCountEnv.polls ∧
      ¬Unblocked nullCountEnv 3 (decodeTopic nullCountEnv.codec (fun _ => "")
        (nullCountTopic [some nullCount.toByteArray])) := by
  refine ⟨nullCount_polled le_rfl, fun h => ?_⟩
  have hmem : DlqValue.ofBytes nullCountEnv.codec (fun _ => "") (some nullCount.toByteArray) ∈
      decodeTopic nullCountEnv.codec (fun _ => "")
        (nullCountTopic [some nullCount.toByteArray]) 0 :=
    List.mem_map_of_mem (List.mem_cons_of_mem _ (List.mem_singleton_self _))
  have hbad := h.drainable 0 _ hmem
  rw [DlqValue.ofBytes, fromUTF8?_toByteArray] at hbad
  obtain ⟨n, hn, -⟩ := hbad
  cases hn

end TripPipeline.Replay
