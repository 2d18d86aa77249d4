import Mathlib.Data.List.Perm.Basic
import TripPipeline.Lib.Except
import TripPipeline.Replay.Drain

/-!
# What a drain reads, and where it puts it

* **The reader** (`ReadUpTo`): its position and the records it holds determine each other. Every
  message from the low watermark to the position of its partition has been read once, and nothing
  else has.
  `readLoop_readUpTo` carries this through the loop, `readAll_complete` adds that a reader that is
  not stopped early reads the whole topic.
* **The routing** (`routeRecords_perm`, `routeRecords_reinject`): the lists divide the records.
* **The drain** (`Drained`): the inversion of `drain`, whether it returns or raises on the way.
-/

namespace TripPipeline.Replay

open TripPipeline.Common TripPipeline.Lib

/-! ## The reader -/

/-- The reader stands at `pos` and holds the record of every message from `low` to it. -/
structure ReadUpTo (topic : Topic DlqValue) (low pos : ℕ → ℕ) (records : List DlqRead) :
    Prop where
  begins : ∀ p, low p ≤ pos p
  bound : ∀ p, pos p ≤ (topic p).length
  nodup : (records.map DlqRead.loc).Nodup
  mem_iff : ∀ l, l ∈ records.map DlqRead.loc ↔
    low l.partition ≤ l.offset ∧ l.offset < pos l.partition
  decoded : ∀ r ∈ records, ∃ v, (topic r.loc.partition)[r.loc.offset]? = some v ∧
    v.toRecord r.loc = .ok r

/-- A record has the place of its message. -/
theorem toRecord_loc {v : DlqValue} {l : Loc} {r : DlqRead} (h : v.toRecord l = .ok r) :
    r.loc = l := by
  unfold DlqValue.toRecord at h
  split at h
  · cases h
  · rw [← Except.ok.inj h]
  · rw [← Except.ok.inj h]
  · cases h

section reader

variable {topic : Topic DlqValue} {low : LowWatermark topic} {limit : ℤ}

/-- A reader begins at the low watermark, with nothing read. -/
theorem readUpTo_low : ReadUpTo topic low.offset low.offset [] := by
  refine ⟨fun p => le_rfl, low.le_length, List.nodup_nil, ?_, ?_⟩
  · intro l
    simp
  · intro r hr
    cases hr

/-- A reader that stands at every end has read the whole topic. -/
theorem ReadUpTo.atEnd {low pos : ℕ → ℕ} {records : List DlqRead}
    (h : ReadUpTo topic low pos records) (hend : ∀ p, (topic p).length ≤ pos p) :
    ReadUpTo topic low (fun p => (topic p).length) records := by
  have hpos : (fun p => (topic p).length) = pos :=
    funext fun p => le_antisymm (hend p) (h.bound p)
  rw [hpos]
  exact h

/-- The next message of a partition moves the position of that partition by one. -/
theorem ReadUpTo.next {low pos : ℕ → ℕ} {records : List DlqRead} {p : ℕ} {v : DlqValue}
    {r : DlqRead} (h : ReadUpTo topic low pos records) (hv : (topic p)[pos p]? = some v)
    (hr : v.toRecord ⟨p, pos p⟩ = .ok r) :
    ReadUpTo topic low (Function.update pos p (pos p + 1)) (records ++ [r]) := by
  have hloc : r.loc = ⟨p, pos p⟩ := toRecord_loc hr
  have hlt : pos p < (topic p).length := (List.getElem?_eq_some_iff.mp hv).1
  refine ⟨?_, ?_, ?_, ?_, ?_⟩
  · intro q
    by_cases hq : q = p
    · subst hq
      rw [Function.update_self]
      exact (h.begins q).trans (Nat.le_succ _)
    · rw [Function.update_of_ne hq]
      exact h.begins q
  · intro q
    by_cases hq : q = p
    · subst hq
      rw [Function.update_self]
      exact hlt
    · rw [Function.update_of_ne hq]
      exact h.bound q
  · rw [List.map_append, List.map_singleton, hloc]
    refine List.nodup_append.mpr ⟨h.nodup, List.nodup_singleton _, ?_⟩
    rintro a ha b hb rfl
    obtain rfl := List.mem_singleton.mp hb
    exact lt_irrefl _ ((h.mem_iff _).mp ha).2
  · rintro ⟨q, o⟩
    rw [List.map_append, List.mem_append, h.mem_iff, List.map_singleton, List.mem_singleton, hloc]
    by_cases hq : q = p
    · subst hq
      have hlow := h.begins q
      simp only [Function.update_self, Loc.mk.injEq, true_and]
      omega
    · simp [hq]
  · intro r' hr'
    rcases List.mem_append.mp hr' with hold | hnew
    · exact h.decoded r' hold
    · obtain rfl := List.mem_singleton.mp hnew
      rw [hloc]
      exact ⟨v, hv, hr⟩

/-- **The reader reads a stretch of every partition**, from its low watermark on. -/
theorem readLoop_readUpTo {polls : List Poll} {low pos : ℕ → ℕ} {records recs : List DlqRead}
    (h : readLoop topic limit polls pos records = .ok recs)
    (hinv : ReadUpTo topic low pos records) : ∃ pos', ReadUpTo topic low pos' recs := by
  induction polls generalizing pos records with
  | nil =>
      obtain rfl := Except.ok.inj h
      exact ⟨pos, hinv⟩
  | cons poll polls ih =>
      rcases poll with p | idle | _ | e
      · rw [readLoop] at h
        split at h
        · exact ih h hinv
        · rename_i v hv
          obtain ⟨r, hr, h⟩ := bind_eq_ok_iff.mp h
          have hnext := hinv.next hv hr
          dsimp only at h
          split_ifs at h
          · obtain rfl := Except.ok.inj h
            exact ⟨_, hnext⟩
          · exact ih h hnext
      · rw [readLoop] at h
        split_ifs at h
        · obtain rfl := Except.ok.inj h
          exact ⟨pos, hinv⟩
        · exact ih h hinv
      · exact ih h hinv
      · cases h

/-- What `read_all` returns is such a stretch. -/
theorem readAll_readUpTo {polls : List Poll} {recs : List DlqRead}
    (h : readAllFrom topic low polls limit = .ok recs) :
    ∃ pos, ReadUpTo topic low.offset pos recs :=
  readLoop_readUpTo h readUpTo_low

/-- A positive limit bounds the number of records. -/
theorem readLoop_limit {polls : List Poll} {pos : ℕ → ℕ} {records recs : List DlqRead}
    (h : readLoop topic limit polls pos records = .ok recs) (hlt : (records.length : ℤ) < limit) :
    (recs.length : ℤ) ≤ limit := by
  induction polls generalizing pos records with
  | nil =>
      obtain rfl := Except.ok.inj h
      exact hlt.le
  | cons poll polls ih =>
      rcases poll with p | idle | _ | e
      · rw [readLoop] at h
        split at h
        · exact ih h hlt
        · obtain ⟨r, -, h⟩ := bind_eq_ok_iff.mp h
          dsimp only at h
          have hlen : ((records ++ [r]).length : ℤ) = records.length + 1 := by simp
          split_ifs at h with hstop
          · obtain rfl := Except.ok.inj h
            rw [hlen]
            omega
          · refine ih h ?_
            have hne : limit ≠ 0 := by omega
            exact not_le.mp fun hle => hstop ⟨hne, hle⟩
      · rw [readLoop] at h
        split_ifs at h
        · obtain rfl := Except.ok.inj h
          exact hlt.le
        · exact ih h hlt
      · exact ih h hlt
      · cases h

/-- A reader with limit `n` reads at most `n` records, the first ones that their partitions hold. -/
theorem readAll_limit {polls : List Poll} {recs : List DlqRead}
    (h : readAllFrom topic low polls limit = .ok recs) (hlimit : 1 ≤ limit) :
    (recs.length : ℤ) ≤ limit ∧
      ∀ r ∈ recs, (r.loc.offset : ℤ) < low.offset r.loc.partition + limit := by
  have hlen : (recs.length : ℤ) ≤ limit := by
    apply readLoop_limit h
    rw [List.length_nil, Nat.cast_zero]
    omega
  refine ⟨hlen, ?_⟩
  intro r hr
  obtain ⟨pos, hread⟩ := readAll_readUpTo h
  obtain ⟨hlow, hpos⟩ := (hread.mem_iff r.loc).mp (List.mem_map_of_mem hr)
  -- all the offsets up to this one have been read
  let stretch := (List.range (r.loc.offset + 1 - low.offset r.loc.partition)).map fun i =>
    Loc.mk r.loc.partition (low.offset r.loc.partition + i)
  have hsub : stretch ⊆ recs.map DlqRead.loc := by
    intro l hl
    obtain ⟨i, hi, rfl⟩ := List.mem_map.mp hl
    have hlt := List.mem_range.mp hi
    exact (hread.mem_iff _).mpr (by dsimp only; omega)
  have hnodup : stretch.Nodup :=
    List.nodup_range.map fun a b hab => by
      have := (Loc.mk.inj hab).2
      omega
  have hcard := (hnodup.subperm hsub).length_le
  simp only [stretch, List.length_map, List.length_range] at hcard
  omega

/-- The poll delivers the next message of the partition. -/
def Poll.delivers (p : ℕ) : Poll → Bool
  | .message q => q = p
  | _ => false

/-- The silence that ends the loop. -/
def Poll.quiet : Poll → Bool
  | .nothing idle => idle
  | _ => false

/-- Every message has been delivered when the topic goes quiet. -/
def PolledOut (topic : Topic DlqValue) (polls : List Poll) : Prop :=
  ∀ p, (topic p).length ≤ (polls.takeWhile fun poll => !poll.quiet).countP (Poll.delivers p)

/-- Every message that the topic still holds has been delivered when it goes quiet. -/
def PolledOutFrom (topic : Topic DlqValue) (low : LowWatermark topic) (polls : List Poll) : Prop :=
  ∀ p, (topic p).length ≤
    low.offset p + (polls.takeWhile fun poll => !poll.quiet).countP (Poll.delivers p)

/-- A loop that is not stopped early ends at the end of every partition. -/
theorem readLoop_complete {polls : List Poll} {low pos : ℕ → ℕ} {records recs : List DlqRead}
    (h : readLoop topic 0 polls pos records = .ok recs) (hinv : ReadUpTo topic low pos records)
    (hcount : ∀ p, (topic p).length ≤
      pos p + (polls.takeWhile fun poll => !poll.quiet).countP (Poll.delivers p)) :
    ReadUpTo topic low (fun p => (topic p).length) recs := by
  induction polls generalizing pos records with
  | nil =>
      obtain rfl := Except.ok.inj h
      exact hinv.atEnd hcount
  | cons poll polls ih =>
      rcases poll with p | idle | _ | e
      · have hcount' : ∀ q, (topic q).length ≤
            pos q + ((polls.takeWhile fun poll => !poll.quiet).countP (Poll.delivers q) +
              if p = q then 1 else 0) := by
          intro q
          simpa [List.takeWhile_cons, Poll.quiet, List.countP_cons, Poll.delivers, eq_comm]
            using hcount q
        rw [readLoop] at h
        split at h
        · -- the partition was read to its end
          rename_i hnone
          refine ih h hinv fun q => ?_
          have hq := hcount' q
          by_cases hqp : p = q
          · subst hqp
            have := List.getElem?_eq_none_iff.mp hnone
            omega
          · rwa [if_neg hqp] at hq
        · rename_i v hv
          obtain ⟨r, hr, h⟩ := bind_eq_ok_iff.mp h
          dsimp only at h
          rw [if_neg fun hstop => hstop.1 rfl] at h
          refine ih h (hinv.next hv hr) fun q => ?_
          have hq := hcount' q
          by_cases hqp : q = p
          · subst hqp
            rw [if_pos rfl] at hq
            rw [Function.update_self]
            omega
          · rw [Function.update_of_ne hqp]
            rwa [if_neg (Ne.symm hqp)] at hq
      · rcases idle with _ | _
        · refine ih h hinv fun q => ?_
          simpa [List.takeWhile_cons, Poll.quiet, List.countP_cons, Poll.delivers] using hcount q
        · obtain rfl := Except.ok.inj h
          apply hinv.atEnd
          intro q
          simpa [List.takeWhile_cons, Poll.quiet] using hcount q
      · refine ih h hinv fun q => ?_
        simpa [List.takeWhile_cons, Poll.quiet, List.countP_cons, Poll.delivers] using hcount q
      · cases h

/-- **Without a limit, a reader that is not stopped early reads all the topic holds.** -/
theorem readAllFrom_complete {polls : List Poll} {recs : List DlqRead}
    (h : readAllFrom topic low polls 0 = .ok recs) (hpolls : PolledOutFrom topic low polls) :
    ∀ p o, low.offset p ≤ o → o < (topic p).length → ⟨p, o⟩ ∈ recs.map DlqRead.loc := by
  have hread := readLoop_complete h readUpTo_low hpolls
  intro p o hlow ho
  exact (hread.mem_iff ⟨p, o⟩).mpr ⟨hlow, ho⟩

/-- The whole topic, when it has lost nothing. -/
theorem readAll_complete {polls : List Poll} {recs : List DlqRead}
    (h : readAll topic polls 0 = .ok recs) (hpolls : PolledOut topic polls) :
    ∀ p o, o < (topic p).length → ⟨p, o⟩ ∈ recs.map DlqRead.loc := by
  have hfrom : PolledOutFrom topic (.zero topic) polls := fun p =>
    (hpolls p).trans (Nat.le_add_left _ _)
  exact fun p o ho => readAllFrom_complete h hfrom p o (Nat.zero_le o) ho

/-- A reader that meets objects and no error ends normally. -/
theorem exists_readLoop {polls : List Poll} (pos : ℕ → ℕ) (records : List DlqRead)
    (hobject : ∀ p, ∀ v ∈ topic p, ∀ l, ∃ r, v.toRecord l = .ok r)
    (herror : ∀ e, Poll.error e ∉ polls) :
    ∃ recs, readLoop topic limit polls pos records = .ok recs := by
  induction polls generalizing pos records with
  | nil => exact ⟨records, rfl⟩
  | cons poll polls ih =>
      have herror' : ∀ e, Poll.error e ∉ polls :=
        fun e hmem => herror e (List.mem_cons_of_mem _ hmem)
      rcases poll with p | idle | _ | e
      · rw [readLoop]
        split
        · exact ih pos records herror'
        · rename_i v hv
          obtain ⟨r, hr⟩ := hobject p v (List.mem_of_getElem? hv) ⟨p, pos p⟩
          rw [hr]
          simp only [bind, Except.bind]
          split_ifs
          · exact ⟨_, rfl⟩
          · exact ih _ _ herror'
      · rw [readLoop]
        split_ifs
        · exact ⟨records, rfl⟩
        · exact ih pos records herror'
      · exact ih pos records herror'
      · exact absurd List.mem_cons_self (herror e)

end reader

/-! ## The three lists -/

section routing

variable {env : DrainEnv} {maxReplays : ℤ}

/-- **The lists divide the records**: every record joins exactly one. -/
theorem routeRecords_perm {recs : List DlqRead} {lists : Lists}
    (h : routeRecords env maxReplays recs = .ok lists) :
    ((lists.reinject ++ (lists.direct ++ lists.park)).map DlqRead.loc).Perm
      (recs.map DlqRead.loc) := by
  refine foldlM_rec h (P := fun done l =>
    ((l.reinject ++ (l.direct ++ l.park)).map DlqRead.loc).Perm (done.map DlqRead.loc))
    (List.Perm.refl []) ?_
  intro done r l l' hl hstep
  obtain ⟨action, -, hl'⟩ := bind_eq_ok_iff.mp hstep
  obtain rfl := Except.ok.inj hl'
  have hr : ([r].map DlqRead.loc ++ (l.reinject ++ (l.direct ++ l.park)).map DlqRead.loc).Perm
      ((done ++ [r]).map DlqRead.loc) := by
    have hdone : (done ++ [r]).map DlqRead.loc = done.map DlqRead.loc ++ [r].map DlqRead.loc :=
      List.map_append
    rw [hdone]
    exact (hl.append_left _).trans List.perm_append_comm
  refine List.Perm.trans ?_ hr
  cases action <;> simp only [Lists.add, List.map_append, List.map_singleton, List.append_assoc]
  · exact List.perm_append_comm_assoc _ _ _
  · refine (List.Perm.append_left _ (List.perm_append_comm_assoc _ _ _)).trans ?_
    exact List.perm_append_comm_assoc _ _ _
  · refine List.Perm.trans ?_ List.perm_append_comm
    simp only [List.append_assoc]
    exact List.Perm.refl _

/-- **The list of a record** with a number for `replay_count` and a text for `failure_stage`. -/
theorem classify_eq {r : DlqRead} {n : ℤ} {stage : String}
    (hcount : r.fields.lookup "replay_count" = some (.int n))
    (hstage : r.fields.lookup "failure_stage" = some (.str stage)) :
    classify env maxReplays r = .ok (
      if maxReplays ≤ n then .park ("replay_count >= " ++ toString maxReplays)
      else if reinjectStages.contains stage then .reinject
      else if directWriteStages.contains stage then .direct
      else .park ("stage " ++ env.repr (.str stage) ++ " is not automatically recoverable")) := by
  unfold classify getOr
  rw [hcount, hstage]
  simp only [Option.getD_some, pyInt, bind, Except.bind, inStages]
  split_ifs <;> rfl

/-- A record as it stands in the park list; `none` when it goes to another list. -/
def parked? (env : DrainEnv) (maxReplays : ℤ) (r : DlqRead) : Option DlqRead :=
  match (classify env maxReplays r).toOption with
  | some (.park reason) =>
      some { r with fields := Dict.set "_park_reason" (.str reason) r.fields }
  | _ => none

/-- A record is parked with the reason its classification gave. -/
theorem parked?_eq_some_iff {r q : DlqRead} :
    parked? env maxReplays r = some q ↔ ∃ reason, classify env maxReplays r = .ok (.park reason) ∧
      q = { r with fields := Dict.set "_park_reason" (.str reason) r.fields } := by
  unfold parked?
  rcases classify env maxReplays r with e | _ | _ | reason <;> simp [Except.toOption, eq_comm]

/-- **What each list holds.** -/
theorem routeRecords_eq {recs : List DlqRead} {lists : Lists}
    (h : routeRecords env maxReplays recs = .ok lists) :
    (lists.reinject =
        recs.filter fun r => (classify env maxReplays r).toOption = some .reinject) ∧
      (lists.direct =
        recs.filter fun r => (classify env maxReplays r).toOption = some .direct) ∧
      lists.park = recs.filterMap (parked? env maxReplays) := by
  refine foldlM_rec h (P := fun done l =>
    (l.reinject = done.filter fun r => (classify env maxReplays r).toOption = some .reinject) ∧
      (l.direct = done.filter fun r => (classify env maxReplays r).toOption = some .direct) ∧
      l.park = done.filterMap (parked? env maxReplays)) ⟨rfl, rfl, rfl⟩ ?_
  rintro done r l l' ⟨hreinject, hdirect, hpark⟩ hstep
  obtain ⟨action, hr, hl'⟩ := bind_eq_ok_iff.mp hstep
  obtain rfl := Except.ok.inj hl'
  rw [List.filter_append, List.filter_append, List.filterMap_append, ← hreinject, ← hdirect,
    ← hpark]
  cases action <;> simp [Lists.add, parked?, hr, Except.toOption]

/-- The records that go to the re-inject list. -/
theorem routeRecords_reinject {recs : List DlqRead} {lists : Lists}
    (h : routeRecords env maxReplays recs = .ok lists) :
    lists.reinject =
      recs.filter fun r => (classify env maxReplays r).toOption = some .reinject :=
  (routeRecords_eq h).1

/-- Every record has been classified. -/
theorem routeRecords_classified {recs : List DlqRead} {lists : Lists}
    (h : routeRecords env maxReplays recs = .ok lists) :
    ∀ r ∈ recs, ∃ a, classify env maxReplays r = .ok a := by
  refine foldlM_rec h (P := fun done _ => ∀ r ∈ done, ∃ a, classify env maxReplays r = .ok a)
    (fun r hr => absurd hr List.not_mem_nil) ?_
  intro done r l l' hdone hstep r' hr'
  obtain ⟨action, hr, -⟩ := bind_eq_ok_iff.mp hstep
  rcases List.mem_append.mp hr' with hr' | hr'
  · exact hdone r' hr'
  · obtain rfl := List.mem_singleton.mp hr'
    exact ⟨action, hr⟩

/-- The routing ends normally when every record can be classified. -/
theorem exists_routeRecords {recs : List DlqRead}
    (h : ∀ r ∈ recs, ∃ a, classify env maxReplays r = .ok a) :
    ∃ lists, routeRecords env maxReplays recs = .ok lists := by
  refine exists_foldlM_eq_ok _ fun r hr l => ?_
  obtain ⟨a, ha⟩ := h r hr
  exact ⟨l.add r a, by rw [ha]; rfl⟩

end routing

/-! ## What is handed to the client -/

section reinjecting

variable {env : DrainEnv}

/-- Inversion of a turn of the re-inject loop: the payload is republished as it stands. -/
theorem reinjectOne_ok {r : DlqRead} {p : Produced} (h : reinjectOne env r = .ok p) :
    p.loc = r.loc ∧ p.delivery = env.delivery r.loc ∧
      Dict.item r.fields "original_payload" = .ok (.str p.value) := by
  unfold reinjectOne at h
  obtain ⟨original, horiginal, h⟩ := bind_eq_ok_iff.mp h
  obtain ⟨payload, -, h⟩ := bind_eq_ok_iff.mp h
  obtain ⟨tripId, -, h⟩ := bind_eq_ok_iff.mp h
  obtain ⟨value, hvalue, h⟩ := bind_eq_ok_iff.mp h
  obtain ⟨key, -, h⟩ := bind_eq_ok_iff.mp h
  obtain ⟨-, h⟩ := bind_unit_eq_ok_iff.mp h
  rw [← Except.ok.inj h]
  refine ⟨rfl, rfl, ?_⟩
  rw [horiginal]
  unfold encode at hvalue
  split at hvalue
  · rw [← Except.ok.inj hvalue]
  · cases hvalue

/-- What is produced is the re-injection of a record. -/
theorem mem_reinjectAll {recs : List DlqRead} {p : Produced} :
    p ∈ reinjectAll env recs ↔ ∃ r ∈ recs, reinjectOne env r = .ok p := by
  unfold reinjectAll
  rw [List.mem_filterMap]
  refine exists_congr fun r => and_congr_right fun _ => ?_
  cases reinjectOne env r <;> simp [Except.toOption]

/-- A record is handed to the client at most once. -/
theorem reinjectAll_sublist (recs : List DlqRead) :
    ((reinjectAll env recs).map Produced.loc).Sublist (recs.map DlqRead.loc) := by
  induction recs with
  | nil => exact List.Sublist.refl []
  | cons r recs ih =>
      unfold reinjectAll at ih ⊢
      rw [List.filterMap_cons]
      rcases h : reinjectOne env r with e | p
      · exact ih.cons r.loc
      · rw [List.map_cons, ← (reinjectOne_ok h).1]
        exact ih.cons_cons p.loc

end reinjecting

/-! ## The drain -/

/-- What a drain has done, whether it returns or raises after it began to handle records. -/
structure DrainedFrom (topic : Topic DlqValue) (low : LowWatermark topic) (args : DrainArgs)
    (env : DrainEnv) (run : DrainRun) : Prop where
  reads : readAllFrom topic low env.polls args.limit = .ok run.read
  routed : routeRecords env args.maxReplays run.read = .ok run.lists
  produced : run.produced = reinjectAll env run.lists.reinject
  direct : run.direct = [] ∨ run.direct = run.lists.direct.map (directWriteOne env)
  parked : run.parkFile = [] ∨ run.parkFile = run.lists.park
  /-- A drain that returns has handled all three lists. -/
  reported : ∀ report, run.result = .ok (.drained report) →
    report = drainReport run.read run.lists run.produced run.direct ∧
      run.direct = run.lists.direct.map (directWriteOne env) ∧ run.parkFile = run.lists.park

/-- What a drain has done of a topic that has lost nothing. -/
abbrev Drained (args : DrainArgs) (env : DrainEnv) (topic : Topic DlqValue) (run : DrainRun) :
    Prop :=
  DrainedFrom topic (.zero topic) args env run

/-- The turns of a loop that got to its records. -/
theorem directWrite_eq {env : DrainEnv} {recs : List DlqRead} {turns : List DirectTurn}
    (h : directWrite env recs = .ok turns) : turns = recs.map (directWriteOne env) := by
  unfold directWrite at h
  split_ifs at h with hempty
  · rw [List.isEmpty_iff.mp hempty, ← Except.ok.inj h]
    rfl
  · obtain ⟨-, h⟩ := bind_unit_eq_ok_iff.mp h
    exact (Except.ok.inj h).symm

/-- **Inversion of `drain`.** -/
theorem drain_drained {args : DrainArgs} {env : DrainEnv} {topic : Topic DlqValue}
    {low : LowWatermark topic} {run : DrainRun} (h : drainFrom topic low args env = .ok run)
    (hdry : args.dryRun = false) : DrainedFrom topic low args env run := by
  unfold drainFrom at h
  obtain ⟨recs, hrecs, h⟩ := bind_eq_ok_iff.mp h
  by_cases hempty : recs.isEmpty = true
  · rw [if_pos hempty] at h
    obtain rfl := Except.ok.inj h
    rw [List.isEmpty_iff.mp hempty] at hrecs
    refine ⟨hrecs, rfl, rfl, Or.inl rfl, Or.inl rfl, ?_⟩
    intro report hreport
    cases hreport
  · rw [if_neg hempty] at h
    obtain ⟨lists, hlists, h⟩ := bind_eq_ok_iff.mp h
    rw [hdry, if_neg Bool.false_ne_true] at h
    obtain rfl := Except.ok.inj h
    unfold handle
    dsimp only
    split
    · -- the cluster cannot be reached
      refine ⟨hrecs, hlists, rfl, Or.inl rfl, Or.inl rfl, ?_⟩
      intro report hreport
      cases hreport
    · rename_i direct hdirect
      have hturns := directWrite_eq hdirect
      split
      · -- the park file cannot be written
        refine ⟨hrecs, hlists, rfl, Or.inr hturns, Or.inl rfl, ?_⟩
        intro report hreport
        cases hreport
      · refine ⟨hrecs, hlists, rfl, Or.inr hturns, Or.inr rfl, ?_⟩
        intro report hreport
        obtain rfl := DrainResult.drained.inj (Except.ok.inj hreport)
        exact ⟨rfl, hturns, rfl⟩

end TripPipeline.Replay
