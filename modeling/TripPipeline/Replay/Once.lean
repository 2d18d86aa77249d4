import TripPipeline.Replay.Reading

/-!
# A drain handles a message once; the next drain handles it again

The reader starts at the first message that a partition still holds and commits nothing, so that
inspection is repeatable. A sequence of drains with no new quarantines in between is therefore a
list of runs over one topic (`DrainSequence`). What retention or a purge deletes meanwhile only
raises the low watermark of the later ones.

* `drains_once`: within a drain a message is handled at most once; a limit `n` keeps every drain to
  the first `n` messages that a partition still holds; and every unlimited drain that reports
  nothing unaccounted has handled all the topic still holds, also when a drain before it had.
* `drainSequence_repeats`: two drains in a row park the same message.
-/

namespace TripPipeline.Replay

open TripPipeline.Common TripPipeline.Lib

/-! ## The messages a drain handles -/

/-- The messages a drain counts as re-injected, written or parked. -/
def DrainRun.handled (run : DrainRun) : List Loc :=
  (run.produced.filter fun p => p.delivery ≠ .failed).map Produced.loc ++
    ((run.direct.filter fun t => t.result.isOk).map DirectTurn.loc ++
      run.parkFile.map DlqRead.loc)

/-- A direct write is about the record it was given. -/
theorem directWriteOne_loc (env : DrainEnv) (r : DlqRead) : (directWriteOne env r).loc = r.loc := by
  unfold directWriteOne
  dsimp only
  split <;> rfl

/-- Direct writes are about the records they were given. -/
theorem map_directWriteOne_loc (env : DrainEnv) (recs : List DlqRead) :
    (recs.map (directWriteOne env)).map DirectTurn.loc = recs.map DlqRead.loc := by
  rw [List.map_map]
  exact List.map_congr_left fun r _ => directWriteOne_loc env r

section drained

variable {args : DrainArgs} {env : DrainEnv} {topic : Topic DlqValue} {low : LowWatermark topic}
  {run : DrainRun}

/-- **A drain handles some of the messages it read, each at most once.** -/
theorem DrainedFrom.handled_subperm (h : DrainedFrom topic low args env run) :
    run.handled.Subperm (run.read.map DlqRead.loc) := by
  have hproduced : ((run.produced.filter fun p => p.delivery ≠ .failed).map Produced.loc).Sublist
      (run.lists.reinject.map DlqRead.loc) := by
    refine List.Sublist.trans (List.filter_sublist.map Produced.loc) ?_
    rw [h.produced]
    exact reinjectAll_sublist _
  have hdirect : ((run.direct.filter fun t => t.result.isOk).map DirectTurn.loc).Sublist
      (run.lists.direct.map DlqRead.loc) := by
    refine List.Sublist.trans (List.filter_sublist.map DirectTurn.loc) ?_
    rcases h.direct with hnone | hall
    · rw [hnone]
      exact List.nil_sublist _
    · rw [hall, map_directWriteOne_loc]
  have hpark : (run.parkFile.map DlqRead.loc).Sublist (run.lists.park.map DlqRead.loc) := by
    rcases h.parked with hnone | hall
    · rw [hnone]
      exact List.nil_sublist _
    · rw [hall]
  have hperm := routeRecords_perm h.routed
  rw [List.map_append, List.map_append] at hperm
  exact (hproduced.append (hdirect.append hpark)).subperm.trans hperm.subperm

/-- A drain handles no record twice. -/
theorem DrainedFrom.handled_nodup (h : DrainedFrom topic low args env run) : run.handled.Nodup := by
  obtain ⟨pos, hread⟩ := readAll_readUpTo h.reads
  obtain ⟨l, hperm, hsub⟩ := h.handled_subperm
  exact hperm.nodup_iff.mp (hread.nodup.sublist hsub)

/-- A drain handles only what it read. -/
theorem DrainedFrom.mem_read (h : DrainedFrom topic low args env run) {l : Loc}
    (hl : l ∈ run.handled) :
    ∃ r ∈ run.read, r.loc = l :=
  List.mem_map.mp (h.handled_subperm.subset hl)

/-- What a drain counts as handled is what its report accounts for. -/
theorem DrainedFrom.length_handled (h : DrainedFrom topic low args env run) {report : DrainReport}
    (hreport : run.result = .ok (.drained report)) :
    (run.handled.length : ℤ) = report.accountedFor ∧
      report.unaccounted = run.read.length - report.accountedFor := by
  obtain ⟨rfl, -, hpark⟩ := h.reported report hreport
  refine ⟨?_, rfl⟩
  have hfailed := List.length_eq_countP_add_countP (fun p : Produced => p.delivery = .failed)
    (l := run.produced)
  have hfilter : (run.produced.filter fun p => p.delivery ≠ .failed).length =
      run.produced.countP fun p => ¬p.delivery = .failed := by
    rw [List.countP_eq_length_filter]
  simp only [DrainRun.handled, drainReport, List.length_append, List.length_map, hpark, hfilter,
    List.countP_eq_length_filter (p := fun t : DirectTurn => t.result.isOk)]
  push_cast
  simp only [decide_not, Bool.not_eq_true, decide_eq_false_iff_not] at hfailed ⊢
  omega

/-- A drain that leaves nothing unaccounted has handled every message it read. -/
theorem DrainedFrom.handled_perm (h : DrainedFrom topic low args env run) {report : DrainReport}
    (hreport : run.result = .ok (.drained report)) (hzero : report.unaccounted = 0) :
    run.handled.Perm (run.read.map DlqRead.loc) := by
  obtain ⟨hlen, hun⟩ := h.length_handled hreport
  apply h.handled_subperm.perm_of_length_le
  rw [List.length_map]
  omega

end drained

/-! ## Sequences of drains -/

/-- A drain that was run, and where the partitions began when it was. -/
structure DrainStep (topic : Topic DlqValue) where
  low : LowWatermark topic
  args : DrainArgs
  env : DrainEnv
  run : DrainRun

/-- Drains one after the other, with no new quarantines in between. A drain commits no offset and
its consumer group is new, so each of them finds the topic as the one before did, less what has been
deleted. -/
def DrainSequence (topic : Topic DlqValue) (steps : List (DrainStep topic)) : Prop :=
  ∀ d ∈ steps, d.args.dryRun = false ∧ drainFrom topic d.low d.args d.env = .ok d.run

/-- Each message is handled by at most one of the drains. -/
def HandledByOne {topic : Topic DlqValue} (steps : List (DrainStep topic)) : Prop :=
  steps.Pairwise fun d d' => d.run.handled.Disjoint d'.run.handled

/-- What one drain of a sequence does. -/
structure DrainsOnce {topic : Topic DlqValue} (d : DrainStep topic) : Prop where
  /-- No message is handled twice. -/
  once : d.run.handled.Nodup
  /-- What is handled is a message the topic still holds. -/
  inTopic : ∀ l ∈ d.run.handled,
    d.low.offset l.partition ≤ l.offset ∧ l.offset < (topic l.partition).length
  /-- A limit is counted from the first message that is still there. -/
  limited : 1 ≤ d.args.limit → (d.run.handled.length : ℤ) ≤ d.args.limit ∧
    ∀ l ∈ d.run.handled, (l.offset : ℤ) < d.low.offset l.partition + d.args.limit
  /-- Without a limit and with nothing unaccounted, all that the topic holds is handled. -/
  whole : d.args.limit = 0 → PolledOutFrom topic d.low d.env.polls → ∀ report,
    d.run.result = .ok (.drained report) → report.unaccounted = 0 →
      ∀ p o, d.low.offset p ≤ o → o < (topic p).length → ⟨p, o⟩ ∈ d.run.handled

/-- **Every drain starts from the first message left, and handles a message once.** -/
theorem drains_once {topic : Topic DlqValue} {steps : List (DrainStep topic)}
    (h : DrainSequence topic steps) : ∀ d ∈ steps, DrainsOnce d := by
  intro d hd
  obtain ⟨hdry, hrun⟩ := h d hd
  have hdrained := drain_drained hrun hdry
  obtain ⟨pos, hread⟩ := readAll_readUpTo hdrained.reads
  refine ⟨hdrained.handled_nodup, ?_, ?_, ?_⟩
  · intro l hl
    obtain ⟨hlow, hlt⟩ := (hread.mem_iff l).mp (hdrained.handled_subperm.subset hl)
    exact ⟨hlow, lt_of_lt_of_le hlt (hread.bound _)⟩
  · intro hlimit
    obtain ⟨hlen, hoffset⟩ := readAll_limit hdrained.reads hlimit
    constructor
    · have hle := hdrained.handled_subperm.length_le
      rw [List.length_map] at hle
      omega
    · intro l hl
      obtain ⟨r, hr, rfl⟩ := hdrained.mem_read hl
      exact hoffset r hr
  · intro hlimit hpolls report hreport hzero p o hlow ho
    have hreads := hdrained.reads
    rw [hlimit] at hreads
    exact (hdrained.handled_perm hreport hzero).mem_iff.mpr
      (readAllFrom_complete hreads hpolls p o hlow ho)

/-- Two records of stage `parse` in one partition. -/
def parseTopic : Topic DlqValue := fun p =>
  if p = 0 then List.replicate 2 (.json (.dict [("failure_stage", .str "parse")])) else []

/-- Two messages arrive, then the topic is quiet. -/
def calmEnv : DrainEnv where
  codec := ⟨fun _ => none, fun _ => ""⟩
  intOfText _ := none
  repr _ := "'parse'"
  fromIsoFormat _ := none
  polls := [.message 0, .message 0, .nothing false, .nothing true]
  produce _ := .ok ()
  delivery _ := .acked
  connect := .ok ()
  nowMs := 0
  execute _ _ := .ok ()
  openPark := .ok ()

/-- The first message of `parseTopic` has been deleted. -/
def purged : LowWatermark parseTopic where
  offset p := if p = 0 then 1 else 0
  le_length p := by
    unfold parseTopic
    split_ifs
    · exact one_le_two
    · exact le_rfl

/-- A drain of `parseTopic`. -/
def parseStep (low : LowWatermark parseTopic) (limit : ℤ) : DrainStep parseTopic :=
  let args : DrainArgs := ⟨limit, 3, false⟩
  ⟨low, args, calmEnv, ((drainFrom parseTopic low args calmEnv).toOption).getD
    ⟨[], ⟨[], [], []⟩, [], [], [], .ok .empty⟩⟩

/-- Three drains, and a fourth when a message has been deleted. -/
def parseSteps : List (DrainStep parseTopic) :=
  [parseStep (.zero _) 0, parseStep (.zero _) 1, parseStep (.zero _) 0, parseStep purged 1]

/-- The sample drains follow one another. -/
theorem drainSequence_parse : DrainSequence parseTopic parseSteps := by
  intro d hd
  simp only [parseSteps, List.mem_cons, List.not_mem_nil, or_false] at hd
  rcases hd with rfl | rfl | rfl | rfl <;> exact ⟨rfl, rfl⟩

/-- The general result at the sample drains. -/
theorem drains_once_parse : DrainSequence parseTopic parseSteps ∧
    ∀ d ∈ parseSteps, DrainsOnce d :=
  ⟨drainSequence_parse, drains_once drainSequence_parse⟩

/-- Three drains in a row park the same message, although the first has accounted for all of them,
and a drain with limit 1 does not get to the second message. -/
theorem drainSequence_repeats :
    DrainSequence parseTopic parseSteps ∧
      (∃ report, (parseStep (.zero _) 0).run.result = .ok (.drained report) ∧
        report.unaccounted = 0) ∧
      (⟨0, 1⟩ : Loc) ∉ (parseStep (.zero _) 1).run.handled ∧ ¬HandledByOne parseSteps := by
  refine ⟨drainSequence_parse, ⟨_, rfl, rfl⟩, ?_, ?_⟩
  · decide
  · intro h
    have hpair := (List.pairwise_cons.mp h).1 (parseStep (.zero _) 0) (by simp)
    have hmem : (⟨0, 0⟩ : Loc) ∈ (parseStep (.zero _) 0).run.handled := by decide
    exact hpair hmem hmem

end TripPipeline.Replay
