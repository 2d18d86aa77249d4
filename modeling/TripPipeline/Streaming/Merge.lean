import TripPipeline.Streaming.StatsText

/-!
# Partitioning changes no counter

The rows of a batch are spread over partitions, each is written by itself, and `_merge_stats` adds
up the stats rows in whatever order they come back. The tally of a row is the same in every
partition it may be in (`view_rowTally`), so the tallies of the partitions add up to the tally of
all rows (`sum_view`). A record says what its tally says (`Tells`), and so does a sum of records
(`mergeStats_tells`): the merge of the texts says what one evaluation over all rows says
(`merge_partitions`).
-/

namespace TripPipeline.Streaming

open TripPipeline.Common TripPipeline.Lib

/-! ## Partitions -/

/-- A partition: its rows, each with its position in the batch, and its evaluation. -/
structure Part where
  items : List (StreamRow × ℕ)
  env : SinkEnv
  /-- `round(time.time() - t_start, 4)`. -/
  seconds : ℚ

/-- The position in the batch of a row of the partition. -/
def Part.place (part : Part) (i : ℕ) : ℕ := ((part.items[i]?).map Prod.snd).getD 0

/-- The evaluation of the partition. -/
def Part.run (conf : SinkConf) (part : Part) : Except Exc PartitionRun :=
  writePartition part.env conf (part.items.map Prod.fst)

/-- The values of its stats rows. -/
def Part.statsTexts (conf : SinkConf) (part : Part) : List String :=
  match part.run conf with
  | .ok run => (run.yields.filterMap SinkTuple.stats?).map
      fun p => statsText part.env.codec p part.seconds
  | .error _ => []

/-- The tally of the partition, its rows named by their positions in the batch. -/
def Part.tally (conf : SinkConf) (part : Part) : Tally :=
  view part.place ((chunks conf (part.items.map Prod.fst)).map (chunkTally part.env conf)).sum

/-- A way of splitting the rows of a batch. The outcome of a statement belongs to its row and goes
with it; the partitions have their own clocks, draws and hosts, and some may be empty. -/
structure Split (env : SinkEnv) (rows : List StreamRow) where
  parts : List Part
  /-- Every row is in one partition. -/
  covers : (parts.flatMap Part.items).Perm rows.zipIdx
  outcome : ∀ part ∈ parts, ∀ i item, part.items[i]? = some item →
    ∀ t n, part.env.outcome i t n = env.outcome item.2 t n
  codec : ∀ part ∈ parts, part.env.codec = env.codec

/-- The merged dictionary has the counters and the failure reasons of the record. -/
structure Merged (agg : Dict) (p : StatsPayload) : Prop where
  counts : ∀ f ∈ sumFields ++ retryFields, agg.lookup f.1 = some (.int (f.2 p.counts))
  /-- As a `dict`, in which the order of the keys does not count. -/
  reasons : ∃ d : Dict, agg.lookup "failure_reasons" = some (.dict d) ∧
    d.Perm (reasonsDict p.retryStats.failureReasons)

/-! ## The rows of a partition -/

/-- The rows of a part, numbered, are its items in their places. -/
theorem zipIdx_items (part : Part) :
    (part.items.map Prod.fst).zipIdx =
      part.items.zipIdx.map fun item => (item.1.1, item.2) := by
  rw [List.zipIdx_map]
  rfl

section split

variable {env : SinkEnv} {conf : SinkConf} {rows : List StreamRow} {part : Part}

/-- The sink of a part behaves as the whole sink does in its places. -/
theorem alike_part (s : Split env rows) (conf : SinkConf) (hpart : part ∈ s.parts) :
    Alike part.env env conf conf :=
  ⟨s.codec part hpart, rfl, rfl, rfl⟩

/-- The tallies of a partition, with the positions its rows have in the batch. -/
theorem view_part (s : Split env rows) (conf : SinkConf) (hpart : part ∈ s.parts) :
    part.tally conf = (part.items.map fun item => view id (rowTally env conf 0 item)).sum := by
  have hitems : part.items = part.items.zipIdx.map Prod.fst := by simp
  rw [Part.tally, view_total, zipIdx_items, List.map_map]
  conv_rhs => rw [hitems, List.map_map]
  refine congrArg List.sum (List.map_congr_left fun x hx => ?_)
  obtain ⟨⟨r, g⟩, i⟩ := x
  have hget : part.items[i]? = some (r, g) := List.mk_mem_zipIdx_iff_getElem?.mp hx
  have hplace : part.place i = id g := by simp [Part.place, hget]
  exact view_rowTally (alike_part s conf hpart) hplace (s.outcome part hpart i (r, g) hget) 0 0

/-- **The tallies of the partitions add up to the tally of the batch.** -/
theorem sum_view (s : Split env rows) (conf : SinkConf) :
    (s.parts.map (Part.tally conf)).sum =
      view id ((chunks conf rows).map (chunkTally env conf)).sum := by
  have hparts : s.parts.map (Part.tally conf) =
      s.parts.map fun part => (part.items.map fun item => view id (rowTally env conf 0 item)).sum :=
    List.map_congr_left fun part hpart => view_part s conf hpart
  calc _
      = ((s.parts.flatMap Part.items).map fun item => view id (rowTally env conf 0 item)).sum := by
        rw [hparts, List.flatMap, List.map_flatten, List.sum_flatten, List.map_map, List.map_map]
        rfl
    _ = (rows.zipIdx.map fun item => view id (rowTally env conf 0 item)).sum :=
        (s.covers.map _).sum_eq
    _ = _ := (view_total env conf id rows).symm

/-- Behaving alike is symmetric. -/
theorem Alike.symm {env env' : SinkEnv} {conf conf' : SinkConf} (h : Alike env env' conf conf') :
    Alike env' env conf' conf :=
  ⟨h.codec.symm, h.tables.symm, h.sourceTopic.symm, h.maxAttempts.symm⟩

/-- A row settles in its partition when it settles in the batch. -/
theorem rowSettles_part (s : Split env rows) (hpart : part ∈ s.parts) {i : ℕ}
    {item : StreamRow × ℕ} (hget : part.items[i]? = some item) :
    RowSettles part.env conf 0 (item.1, i) ↔ RowSettles env conf 0 item := by
  have hout := s.outcome part hpart i item hget
  have ha := alike_part s conf hpart
  constructor
  · exact fun h => RowSettles.of_alike ha hout h
  · exact fun h => RowSettles.of_alike ha.symm (fun t n => (hout t n).symm) h

/-- The batch is written to its end when all partitions are. -/
theorem writePartition_ok_iff_parts (s : Split env rows) (conf : SinkConf) :
    (∃ run, writePartition env conf rows = .ok run) ↔
      ∀ part ∈ s.parts, ∃ run, part.run conf = .ok run := by
  have hpart : ∀ part ∈ s.parts, ((∃ run, part.run conf = .ok run) ↔
      ∀ item ∈ part.items, RowSettles env conf 0 item) := by
    intro part hpart
    rw [Part.run, writePartition_ok_iff, zipIdx_items, List.forall_mem_map]
    constructor
    · intro h item hitem
      obtain ⟨i, hget⟩ := List.mem_iff_getElem?.mp hitem
      apply (rowSettles_part s hpart hget).mp
      exact h (item, i) (List.mk_mem_zipIdx_iff_getElem?.mpr hget)
    · rintro h ⟨item, i⟩ hitem
      have hget : part.items[i]? = some item := List.mk_mem_zipIdx_iff_getElem?.mp hitem
      apply (rowSettles_part s hpart hget).mpr
      exact h item (List.mem_of_getElem? hget)
  have hrows : (∀ item ∈ rows.zipIdx, RowSettles env conf 0 item) ↔
      ∀ part ∈ s.parts, ∀ item ∈ part.items, RowSettles env conf 0 item := by
    simp only [← s.covers.mem_iff, List.mem_flatMap]
    exact ⟨fun h part hp item hi => h item ⟨part, hp, hi⟩,
      fun h item ⟨part, hp, hi⟩ => h part hp item hi⟩
  rw [writePartition_ok_iff, hrows]
  exact forall₂_congr fun part hp => (hpart part hp).symm

end split

/-! ## The merge -/

/-- The record says what the tally says. -/
structure Tells (p : StatsPayload) (t : Tally) : Prop where
  counts : p.counts = t.counts
  positive : p.retryStats.failureReasons.Positive
  reasons : p.retryStats.failureReasons.toMultiset = t.reasons

/-- The merged counters say what the tally says. -/
structure Agg.Tells (a : Agg) (t : Tally) : Prop where
  counts : a.counts = t.counts
  positive : a.failureReasons.Positive
  reasons : a.failureReasons.toMultiset = t.reasons

/-- **The stats record of a run says what its tally says.** -/
theorem Reports.tells {run : PartitionRun} {t : Tally} (h : Reports run t) :
    ∃ p, run.yields.filterMap SinkTuple.stats? = [p] ∧ Tells p t := by
  obtain ⟨p, hp, hcounts, c, hc, hpositive, hreasons⟩ := h.stats
  refine ⟨p, hp, hcounts, ?_, ?_⟩
  · rw [hc]
    exact hpositive.sortKeys
  · rw [hc, Counter.toMultiset_sortKeys, hreasons]

/-- Adding stats that tell of a tally tells of the sum. -/
theorem Agg.Tells.addStats {a : Agg} {t u : Tally} {p : StatsPayload} (ha : a.Tells t)
    (hp : Streaming.Tells p u) : (a.addStats p).Tells (t + u) := by
  refine ⟨?_, ha.positive.merge hp.positive, ?_⟩
  · have hcounts := ha.counts
    have hcounts' := hp.counts
    simp only [Agg.counts, Tally.counts, SinkCounts.mk.injEq] at hcounts
    simp only [StatsPayload.counts, Tally.counts, SinkCounts.mk.injEq] at hcounts'
    simp [Agg.counts, Agg.addStats, Tally.counts, hcounts, hcounts']
  · show (a.failureReasons.merge p.retryStats.failureReasons).toMultiset = _
    rw [Counter.toMultiset_merge, ha.reasons, hp.reasons]
    rfl

/-- **The merge of records says the sum of their tallies.** -/
theorem mergeStats_tells {records : List StatsPayload} {us : List Tally}
    (h : List.Forall₂ Tells records us) : (mergeStats records).Tells us.sum := by
  have hloop : ∀ (a : Agg) (t : Tally), a.Tells t →
      (records.foldl Agg.addStats a).Tells (t + us.sum) := by
    induction h with
    | nil => exact fun a t ha => by simpa using ha
    | cons hp _ ih =>
        intro a t ha
        rw [List.foldl_cons, List.sum_cons, ← add_assoc]
        exact ih _ _ (ha.addStats hp)
  have hempty : Agg.empty.Tells 0 := ⟨rfl, Counter.positive_empty, rfl⟩
  have hall := hloop Agg.empty 0 hempty
  rw [zero_add] at hall
  exact hall

/-- A dictionary that holds the sum of the tallies has what the stats record has. -/
theorem merged_of_tells {agg : Dict} {a : Agg} {p : StatsPayload} {t : Tally} (h : Holds agg a)
    (ha : a.Tells t) (hp : Tells p t) : Merged agg p := by
  refine ⟨?_, reasonsDict a.failureReasons, h.reasons, ?_⟩
  · rw [hp.counts, ← ha.counts]
    exact h.counts
  · apply List.Perm.map
    apply Counter.entries_perm ha.positive hp.positive
    rw [ha.reasons, hp.reasons]

section merge

variable {floats : Floats} {other : PyVal → String} {env : SinkEnv} {conf : SinkConf}
  {rows : List StreamRow} {part : Part}

/-- A partition that is written to its end has one stats row. -/
theorem statsTexts_eq (hcodec : part.env.codec = pyJson floats other) {run : PartitionRun}
    (hrun : part.run conf = .ok run) :
    ∃ text p, part.statsTexts conf = [text] ∧ Says floats other text p ∧
      Tells p (part.tally conf) := by
  obtain ⟨p, hp, htells⟩ := (reports_of_run hrun).tells
  refine ⟨statsText (pyJson floats other) p part.seconds, p, ?_, ⟨part.seconds, rfl⟩, ?_⟩
  · simp only [Part.statsTexts, hrun, hp, hcodec, List.map_cons, List.map_nil]
  · exact ⟨htells.counts, htells.positive, htells.reasons⟩

/-- The stats rows of all partitions, in their order. -/
theorem exists_records {parts : List Part}
    (h : ∀ part ∈ parts, ∃ text p, part.statsTexts conf = [text] ∧ Says floats other text p ∧
      Tells p (part.tally conf)) :
    ∃ records, List.Forall₂ (Says floats other) (parts.flatMap (Part.statsTexts conf)) records ∧
      List.Forall₂ Tells records (parts.map (Part.tally conf)) := by
  induction parts with
  | nil => exact ⟨[], List.Forall₂.nil, List.Forall₂.nil⟩
  | cons part parts ih =>
      obtain ⟨text, p, htext, hsays, htells⟩ := h part List.mem_cons_self
      obtain ⟨records, hrecords, htally⟩ := ih fun q hq => h q (List.mem_cons_of_mem part hq)
      refine ⟨p :: records, ?_, List.Forall₂.cons htells htally⟩
      rw [List.flatMap_cons, htext]
      exact List.Forall₂.cons hsays hrecords

/-- **Batch counters do not depend on partitioning.** -/
theorem merge_partitions (conf : SinkConf) (hcodec : env.codec = pyJson floats other)
    (hfloat : ∀ x, ∃ y, reread floats other (.float x) = .float y) (s : Split env rows) :
    ((∃ run, writePartition env conf rows = .ok run) ↔
        ∀ part ∈ s.parts, ∃ run, part.run conf = .ok run) ∧
      ∀ run, writePartition env conf rows = .ok run →
        ∀ texts, texts.Perm (s.parts.flatMap (Part.statsTexts conf)) →
          ∃ p agg, run.yields.filterMap SinkTuple.stats? = [p] ∧
            mergeRows (pyJson floats other) texts = .ok agg ∧ Merged agg p := by
  refine ⟨writePartition_ok_iff_parts s conf, ?_⟩
  intro run hrun texts htexts
  have hparts := (writePartition_ok_iff_parts s conf).mp ⟨run, hrun⟩
  have hwritten : ∀ part ∈ s.parts, ∃ text p, part.statsTexts conf = [text] ∧
      Says floats other text p ∧ Tells p (part.tally conf) := by
    intro part hpart
    obtain ⟨run', hrun'⟩ := hparts part hpart
    exact statsTexts_eq ((s.codec part hpart).trans hcodec) hrun'
  obtain ⟨records, hrecords, htally⟩ := exists_records hwritten
  -- the records, and with them their tallies, in the order of the texts
  obtain ⟨records', hrecords', hperm⟩ := List.perm_comp_forall₂ htexts hrecords
  obtain ⟨us, htally', husperm⟩ := List.perm_comp_forall₂ hperm htally
  obtain ⟨agg, hagg, hholds⟩ := mergeRows_holds hfloat hrecords'
  have hmerged := mergeStats_tells htally'
  rw [husperm.sum_eq, sum_view s conf] at hmerged
  obtain ⟨p, hp, htells⟩ := (reports_of_run hrun).tells
  exact ⟨p, agg, hp, hagg, merged_of_tells hholds hmerged
    ⟨htells.counts, htells.positive, htells.reasons⟩⟩

end merge

/-- The split of a batch into given groups of its rows, all evaluated on one host. -/
def Split.ofGroups (env : SinkEnv) (rows : List StreamRow) (groups : List (List (StreamRow × ℕ)))
    (h : groups.flatten.Perm rows.zipIdx) : Split env rows where
  parts := groups.map fun items =>
    ⟨items, { env with outcome := fun i => env.outcome (((items[i]?).map Prod.snd).getD 0) }, 0⟩
  covers := by
    rw [List.flatMap_map, List.flatMap_id']
    exact h
  outcome := by
    intro part hpart i item hget t n
    obtain ⟨items, -, rfl⟩ := List.mem_map.mp hpart
    dsimp only at hget ⊢
    rw [hget]
    rfl
  codec := by
    intro part hpart
    obtain ⟨items, -, rfl⟩ := List.mem_map.mp hpart
    rfl

/-- All numbers are written as zero. -/
def zeroFloats : Floats := ⟨fun _ => ⟨"0.0".toList, by decide⟩, fun _ => .float 0⟩

/-- The first row times out once, the others are written at once. -/
def unevenEnv : SinkEnv :=
  { flakyEnv with
    outcome := fun row t n => if row = 0 then flakyEnv.outcome row t n else .ok ()
    codec := pyJson zeroFloats fun _ => "" }

/-- The uneven sink raises only what is listed. -/
theorem unevenEnv_listed : unevenEnv.Listed := by
  intro row t n e he
  by_cases hrow : row = 0
  · exact flakyEnv_listed row t n e ((if_pos hrow).symm.trans he)
  · cases (if_neg hrow).symm.trans he

/-- The second row, no row, the first row. -/
def unevenSplit : Split unevenEnv [sampleRow, sampleRow] :=
  Split.ofGroups unevenEnv [sampleRow, sampleRow] [[(sampleRow, 1)], [], [(sampleRow, 0)]]
    (List.Perm.swap _ _ _)

/-- The general result at two rows in two partitions. -/
theorem merge_partitions_uneven :
    ∃ run p agg, writePartition unevenEnv sampleConf [sampleRow, sampleRow] = .ok run ∧
      run.yields.filterMap SinkTuple.stats? = [p] ∧
      mergeRows (pyJson zeroFloats fun _ => "")
        (unevenSplit.parts.flatMap (Part.statsTexts sampleConf)).reverse = .ok agg ∧
      Merged agg p := by
  obtain ⟨run, hrun⟩ := (writePartition_ok_iff unevenEnv sampleConf [sampleRow, sampleRow]).mpr
    fun item _ => rowSettles_of_listed unevenEnv sampleConf unevenEnv_listed 0 item
  have hfloat : ∀ x, ∃ y, reread zeroFloats (fun _ => "") (.float x) = .float y :=
    fun _ => ⟨0, rfl⟩
  obtain ⟨p, agg, hp, hagg, hmerged⟩ :=
    (merge_partitions sampleConf rfl hfloat unevenSplit).2 run hrun _ (List.reverse_perm _)
  exact ⟨run, p, agg, hrun, hp, hagg, hmerged⟩

end TripPipeline.Streaming
