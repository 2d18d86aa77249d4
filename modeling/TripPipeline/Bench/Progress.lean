import TripPipeline.Lib.JsonLines
import TripPipeline.Replay.DirectWrite
import TripPipeline.Replay.Verbatim
import TripPipeline.Streaming.Progress

/-!
# Reading files that grow

The scenario runner reads the progress file and the lag file of the stream job while the job appends
to them. A read gives what is there, which may end in the middle of a line.

* `readLines_cut`: whatever the moment, the runner has the first reports of the file as they were
  written, and no other.
* `awaitRecovery_first`: so the recovery it reports is the first batch of the whole file that wrote
  rows after the fault, whenever it looked.
* `latestLag_cut`: the lag it reports is that of the last sample it could read, or none; when no
  line is torn, that of the last sample.
-/

namespace TripPipeline.Bench

open TripPipeline.Common TripPipeline.Lib
open TripPipeline.Replay TripPipeline.Streaming

/-! ## Lines -/

/-- The characters `str.strip()` takes off. -/
def isSpace (c : Char) : Bool :=
  let n := c.toNat
  (9 ≤ n && n ≤ 13) || (28 ≤ n && n ≤ 32) || n = 0x85 || n = 0xa0 || n = 0x1680 ||
    (0x2000 ≤ n && n ≤ 0x200a) || n = 0x2028 || n = 0x2029 || n = 0x202f || n = 0x205f ||
    n = 0x3000

/-- A line of a file of objects: `none` when it is blank or cannot be decoded. -/
def readLine (codec : JsonCodec) (line : List Char) : Option PyVal :=
  let line := strip isSpace line
  if line = [] then none else codec.loads (String.ofList line)

/-- The values in a file; `none` when there is no file.
Source: `bench/run_scenario.py` `Scenario._read_batches`, `_read_ndjson` -/
def readLines (codec : JsonCodec) (content : Option (List Char)) : List PyVal :=
  match content with
  | none => []
  | some cs => readFile (readLine codec) cs

section lines

variable {floats : Floats} {other : PyVal → String} {α : Type}

/-- Reading a line is parsing it without the white space around it. -/
theorem readLine_eq (line : List Char) :
    readLine (pyJson floats other) line =
      (Json.parse (strip isSpace line)).map (ofJson floats) := by
  unfold readLine
  dsimp only
  split_ifs with hblank
  · rw [hblank]
    rfl
  · unfold pyJson
    dsimp only
    rw [String.toList_ofList]

/-- **Objects with distinct keys may be written a line each.** -/
theorem lines_dicts {toDict : α → Dict} (hnodup : ∀ a, ((toDict a).map Prod.fst).Nodup) :
    Lines (fun a => ((pyJson floats other).dumps (toDict a)).toList)
      (readLine (pyJson floats other)) fun a =>
        .dict ((toDict a).map fun kv => (kv.1, reread floats other kv.2)) := by
  have hobjects : Lines (fun ms => (Json.object ms).print)
      (fun line => Json.parse (strip isSpace line)) Json.object :=
    lines_objects (by decide) (by decide)
  have hprint : ∀ a, ((pyJson floats other).dumps (toDict a)).toList =
      (Json.object (toJsonMembers floats other (toDict a))).print := fun a => String.toList_ofList
  refine ⟨fun a => ?_, fun a p hp hne => ?_, fun a => ?_⟩
  · rw [readLine_eq, hprint, hobjects.read_print, ← reread_dict (hnodup a)]
    rfl
  · rw [hprint] at hp hne
    rw [readLine_eq, hobjects.read_torn _ p hp hne]
    rfl
  · rw [hprint]
    exact hobjects.no_newline _

end lines

/-! ## The reports -/

/-- The progress file after some batches. -/
def progressFile (codec : JsonCodec) (reports : List Recorded) : List Char :=
  fileOf (fun r => (codec.dumps r.toDict).toList) reports

/-- What a read may find while the file grows to its final content. -/
def Partial (final : List Char) (content : Option (List Char)) : Prop :=
  ∀ cs, content = some cs → cs <+: final

section reports

variable {floats : Floats} {other : PyVal → String} {reports : List Recorded}
  {content : Option (List Char)}

/-- A report as it is read. -/
def asRead (floats : Floats) (other : PyVal → String) (r : Recorded) : PyVal :=
  .dict (r.toDict.map fun kv => (kv.1, reread floats other kv.2))

/-- A file that is there is read so far. -/
theorem readLines_prefix {cs : List Char}
    (h : cs <+: progressFile (pyJson floats other) reports) :
    ∃ seen, seen <+: reports ∧
      readLines (pyJson floats other) (some cs) = seen.map (asRead floats other) ∧
      ∀ full, full <+: reports → progressFile (pyJson floats other) full <+: cs →
        full <+: seen := by
  have hlines : Lines (fun r : Recorded => ((pyJson floats other).dumps r.toDict).toList)
      (readLine (pyJson floats other)) (asRead floats other) := lines_dicts Recorded.nodup_keys
  exact readFile_cut hlines rfl h

/-- **Whatever the moment, the first reports are read**, those among them whose lines are
complete. -/
theorem readLines_cut
    (h : Partial (progressFile (pyJson floats other) reports) content) :
    ∃ seen, seen <+: reports ∧
      readLines (pyJson floats other) content = seen.map (asRead floats other) ∧
      ∀ cs full, content = some cs → full <+: reports →
        progressFile (pyJson floats other) full <+: cs → full <+: seen := by
  rcases content with _ | cs
  · exact ⟨[], List.nil_prefix, rfl, fun cs full hcs => nomatch hcs⟩
  · obtain ⟨seen, hseen, hread, hfull⟩ := readLines_prefix (h cs rfl)
    refine ⟨seen, hseen, hread, ?_⟩
    rintro cs' full hcs
    obtain rfl := Option.some.inj hcs
    exact hfull full

end reports

/-- A batch before the fault, and one after it. -/
def sampleReports : List Recorded :=
  [⟨0, 1, 2, ⟨2, 0, 0, 0, { Agg.empty with rowsWritten := 6 }⟩⟩,
   ⟨1, 7 / 2, 1, ⟨3, 0, 0, 0, { Agg.empty with rowsWritten := 9 }⟩⟩]

/-- The codec of the reports. -/
abbrev reportCodec : JsonCodec := pyJson sampleFloats fun _ => ""

/-- A read while the first report is being written. -/
def tornRead : Option (List Char) := some ((progressFile reportCodec sampleReports).take 100)

/-- The torn read is a prefix of the sample file. -/
theorem partial_tornRead : Partial (progressFile reportCodec sampleReports) tornRead := by
  intro cs hcs
  obtain rfl := Option.some.inj hcs
  exact List.take_prefix _ _

/-- The general result at a file whose second report is torn. -/
theorem readLines_cut_sample : ∃ seen, seen <+: sampleReports ∧
    readLines reportCodec tornRead = seen.map (asRead sampleFloats fun _ => "") ∧
    ∀ cs full, tornRead = some cs → full <+: sampleReports →
      progressFile reportCodec full <+: cs → full <+: seen :=
  readLines_cut partial_tornRead

/-! ## The recovery -/

/-- `value > bound`. -/
def pyGt (value : PyVal) (bound : ℚ) : Except Exc Bool :=
  match value with
  | .nonFinite x => .ok (match x with | .infinity => true | _ => false)
  | v =>
      match number v with
      | some x => .ok (decide (bound < x))
      | none => .error ⟨"TypeError", "'>' not supported", [.typeError]⟩

/-- The batch took rows after the fault, and wrote some. -/
def isRecovery (tKill : ℚ) (rec : PyVal) : Except Exc Bool := do
  let (kvs, wallTs) ← pyItem rec "wall_ts"
  if !(← pyGt wallTs tKill) then .ok false
  else if !(← pyGt (← Dict.item kvs "input_rows") 0) then .ok false
  else pyGt (getZero kvs "rows_written") 0

/-- The loop over the records of one read. -/
def findRecovery (tKill : ℚ) : List PyVal → Except Exc (Option PyVal)
  | [] => .ok none
  | rec :: recs => do
      if ← isRecovery tKill rec then .ok (some rec) else findRecovery tKill recs

/-- `first_batch_after`, from the reads before the deadline. -/
def firstBatchAfter (codec : JsonCodec) (tKill : ℚ) :
    List (Option (List Char)) → Except Exc (Option PyVal)
  | [] => .ok none
  | content :: reads => do
      match ← findRecovery tKill (readLines codec content) with
      | some rec => .ok (some rec)
      | none => firstBatchAfter codec tKill reads

/-- `round(value - t_kill, 3)`. -/
def secondsAfter (tKill : ℚ) (value : PyVal) : Except Exc PyVal :=
  match value with
  | .nonFinite x => .ok (.nonFinite x)
  | v =>
      match number v with
      | some x => .ok (.float (roundPlaces 3 (fl (x - tKill))))
      | none => .error ⟨"TypeError", "unsupported operand type(s) for -", [.typeError]⟩

/-- The recovery after a fault, as it is reported.
Source: `bench/run_scenario.py` `Scenario._await_recovery` -/
def awaitRecovery (codec : JsonCodec) (tKill : ℚ) (reads : List (Option (List Char))) :
    Except Exc Dict := do
  match ← firstBatchAfter codec tKill reads with
  | none => .ok [("recovery_seconds", .none), ("recovered", .bool false)]
  | some rec =>
      let (kvs, wallTs) ← pyItem rec "wall_ts"
      .ok [("recovery_seconds", ← secondsAfter tKill wallTs),
           ("recovery_batch_id", ← Dict.item kvs "batch_id"),
           ("recovered", .bool true)]

/-- The batch of a report took rows after the fault, and wrote some. -/
def Recovers (tKill : ℚ) (r : Recorded) : Prop :=
  tKill < r.wallTs ∧ 0 < r.report.inputRows ∧ 0 < r.report.agg.rowsWritten

instance (tKill : ℚ) (r : Recorded) : Decidable (Recovers tKill r) :=
  inferInstanceAs (Decidable (_ ∧ _))

section recovery

variable {floats : Floats} {other : PyVal → String} {reports : List Recorded} {tKill : ℚ}

/-- A report is tested for what it says. -/
theorem isRecovery_asRead {r : Recorded}
    (hclock : readNumber floats (floats.repr r.wallTs) = .float r.wallTs) :
    isRecovery tKill (asRead floats other r) = .ok (decide (Recovers tKill r)) := by
  have hlookup : ∀ k v, r.toDict.lookup k = some v → reread floats other v = v →
      List.lookup k (r.toDict.map fun kv => (kv.1, reread floats other kv.2)) = some v := by
    intro k v hk hv
    rw [lookup_reread, hk, Option.map_some, hv]
  have hwall := hlookup "wall_ts" (.float r.wallTs) rfl hclock
  have hinput := hlookup "input_rows" (.int r.report.inputRows) rfl (reread_int _)
  have hwritten := hlookup "rows_written" (.int r.report.agg.rowsWritten) rfl (reread_int _)
  have hgt : ∀ (n : ℕ), pyGt (.int n) 0 = .ok (decide (0 < n)) := by
    intro n
    simp [pyGt, number]
  unfold isRecovery asRead
  simp only [pyItem, Dict.item, getZero, hwall, hinput, hwritten, Option.getD_some, bind,
    Except.bind, hgt]
  by_cases hafter : tKill < r.wallTs
  · by_cases hrows : 0 < r.report.inputRows
    · simp [pyGt, number, Recovers, hafter, hrows]
    · simp [pyGt, number, Recovers, hafter, hrows]
  · simp [pyGt, number, Recovers, hafter]

/-- One read finds the first report that shows a recovery. -/
theorem findRecovery_map {seen : List Recorded}
    (hclock : ∀ r ∈ seen, readNumber floats (floats.repr r.wallTs) = .float r.wallTs) :
    findRecovery tKill (seen.map (asRead floats other)) =
      .ok ((seen.find? fun r => Recovers tKill r).map (asRead floats other)) := by
  induction seen with
  | nil => rfl
  | cons r seen ih =>
      have hrest := ih fun r' hr' => hclock r' (List.mem_cons_of_mem r hr')
      rw [List.map_cons, findRecovery, isRecovery_asRead (hclock r List.mem_cons_self),
        List.find?_cons]
      by_cases hr : Recovers tKill r
      · simp [hr, bind, Except.bind]
      · simp [hr, bind, Except.bind, hrest]

/-- The first record that shows a recovery, over all the reads. -/
theorem firstBatchAfter_asRead
    (hclock : ∀ r ∈ reports, readNumber floats (floats.repr r.wallTs) = .float r.wallTs)
    {reads : List (Option (List Char))}
    (hreads : ∀ content ∈ reads, Partial (progressFile (pyJson floats other) reports) content) :
    ∃ found : Option Recorded,
      firstBatchAfter (pyJson floats other) tKill reads =
        .ok (found.map (asRead floats other)) ∧
      (∀ r, found = some r → reports.find? (fun r => Recovers tKill r) = some r) ∧
      (found = none → ∀ cs, some cs ∈ reads → ∀ full, full <+: reports →
        progressFile (pyJson floats other) full <+: cs → ∀ r ∈ full, ¬Recovers tKill r) := by
  induction reads with
  | nil =>
      refine ⟨none, rfl, by simp, fun _ cs hcs => ?_⟩
      exact absurd hcs List.not_mem_nil
  | cons content reads ih =>
      obtain ⟨later, hlater, hsome, hnone⟩ :=
        ih fun content' hcontent' => hreads content' (List.mem_cons_of_mem _ hcontent')
      rcases content with _ | cs₀
      · refine ⟨later, hlater, hsome, fun hnot cs hcs => hnone hnot cs ?_⟩
        exact (List.mem_cons.mp hcs).resolve_left (Option.some_ne_none cs)
      obtain ⟨seen, hseen, hread, hfull⟩ := readLines_prefix (hreads _ List.mem_cons_self cs₀ rfl)
      have hfind : findRecovery tKill (seen.map (asRead floats other)) = _ :=
        findRecovery_map fun r hr => hclock r (hseen.subset hr)
      rw [firstBatchAfter, hread, hfind]
      rcases hfirst : seen.find? fun r => Recovers tKill r with _ | r
      · refine ⟨later, hlater, hsome, fun hnot cs hcs full hprefix hfile r hr => ?_⟩
        rcases List.mem_cons.mp hcs with hhere | hthere
        · obtain rfl := Option.some.inj hhere
          have hin := (hfull full hprefix hfile).subset hr
          simpa using List.find?_eq_none.mp hfirst r hin
        · exact hnone hnot cs hthere full hprefix hfile r hr
      · refine ⟨some r, rfl, ?_, by simp⟩
        intro r' hr'
        obtain rfl := Option.some.inj hr'
        obtain ⟨tail, rfl⟩ := hseen
        rw [List.find?_append, hfirst]
        rfl

/-- The recovery that a batch shows. -/
def recoveryOf (tKill : ℚ) (r : Recorded) : Dict :=
  [("recovery_seconds", .float (roundPlaces 3 (fl (r.wallTs - tKill)))),
   ("recovery_batch_id", .int r.batchId),
   ("recovered", .bool true)]

/-- **The recovery is that of the first batch that wrote rows after the fault**, of the whole file:
no read, early or torn, makes it another one; and a read that has the line of the batch finds it. -/
theorem awaitRecovery_first
    (hclock : ∀ r ∈ reports, readNumber floats (floats.repr r.wallTs) = .float r.wallTs)
    {reads : List (Option (List Char))}
    (hreads : ∀ content ∈ reads, Partial (progressFile (pyJson floats other) reports) content) :
    (∃ r, reports.find? (fun r => Recovers tKill r) = some r ∧
      awaitRecovery (pyJson floats other) tKill reads = .ok (recoveryOf tKill r)) ∨
    (awaitRecovery (pyJson floats other) tKill reads =
        .ok [("recovery_seconds", .none), ("recovered", .bool false)] ∧
      ∀ cs, some cs ∈ reads → ∀ full, full <+: reports →
        progressFile (pyJson floats other) full <+: cs → ∀ r ∈ full, ¬Recovers tKill r) := by
  obtain ⟨found, hfound, hsome, hnone⟩ :=
    @firstBatchAfter_asRead floats other reports tKill hclock reads hreads
  rcases found with _ | r
  · refine Or.inr ⟨?_, hnone rfl⟩
    unfold awaitRecovery
    rw [hfound]
    rfl
  · refine Or.inl ⟨r, hsome r rfl, ?_⟩
    have hmem := List.mem_of_find?_eq_some (hsome r rfl)
    have hwall : List.lookup "wall_ts"
        (r.toDict.map fun kv => (kv.1, reread floats other kv.2)) = some (.float r.wallTs) := by
      rw [lookup_reread]
      exact congrArg some (hclock r hmem)
    have hbatch : List.lookup "batch_id"
        (r.toDict.map fun kv => (kv.1, reread floats other kv.2)) = some (.int r.batchId) := by
      rw [lookup_reread]
      exact congrArg some (reread_int _)
    unfold awaitRecovery
    rw [hfound]
    simp [asRead, pyItem, Dict.item, hwall, hbatch, secondsAfter, number, recoveryOf, bind,
      Except.bind]

end recovery

/-- The reads of a runner: too early, torn, and of the whole file. -/
def sampleReads : List (Option (List Char)) :=
  [none, tornRead, some (progressFile reportCodec sampleReports)]

/-- The general result at reads of which one is torn. -/
theorem awaitRecovery_first_sample :
    (∃ r, sampleReports.find? (fun r => Recovers 2 r) = some r ∧
      awaitRecovery reportCodec 2 sampleReads = .ok (recoveryOf 2 r)) ∨
    (awaitRecovery reportCodec 2 sampleReads =
        .ok [("recovery_seconds", .none), ("recovered", .bool false)] ∧
      ∀ cs, some cs ∈ sampleReads → ∀ full, full <+: sampleReports →
        progressFile reportCodec full <+: cs → ∀ r ∈ full, ¬Recovers 2 r) := by
  refine awaitRecovery_first ?_ ?_
  · intro r hr
    simp only [sampleReports, List.mem_cons, List.not_mem_nil, or_false] at hr
    have hone : sampleFloats.repr 1 = ⟨"1.0".toList, by decide⟩ := by norm_num [sampleFloats]
    have hhalf : sampleFloats.repr (7 / 2) = ⟨"3.5".toList, by decide⟩ := by simp [sampleFloats]
    rcases hr with rfl | rfl
    · rw [hone]
      rfl
    · rw [hhalf]
      rfl
  · intro content hcontent
    simp only [sampleReads, List.mem_cons, List.not_mem_nil, or_false] at hcontent
    rcases hcontent with rfl | rfl | rfl
    · exact fun cs hcs => nomatch hcs
    · exact partial_tornRead
    · intro cs hcs
      rw [Option.some.inj hcs]

/-! ## The lag -/

/-- `int(value.get("max_offsets_behind", 0))`; a `ValueError` is caught. -/
def lagOf (intOfText : String → Option ℤ) (value : PyVal) : Except Exc (Option ℤ) := do
  let kvs ← asObject value
  match pyInt intOfText (getZero kvs "max_offsets_behind") with
  | .ok n => .ok (some n)
  | .error e => if e.isInstance [.valueError] then .ok none else .error e

/-- The lag of the last line that is not blank. `int` may take a text.
Source: `bench/run_scenario.py` `Scenario._latest_lag` -/
def latestLag (codec : JsonCodec) (intOfText : String → Option ℤ) (content : Option (List Char)) :
    Except Exc (Option ℤ) :=
  match content with
  | none => .ok none
  | some cs =>
      match (cs.splitOn '\n').reverse.find? fun line => strip isSpace line ≠ [] with
      | none => .ok none
      | some line =>
          match codec.loads (String.ofList (strip isSpace line)) with
          | none => .ok none
          | some v => lagOf intOfText v

/-- The lag file after some samples. -/
def lagFile (codec : JsonCodec) (samples : List LagSample) : List Char :=
  fileOf (fun s => (codec.dumps s.toDict).toList) samples

section lag

variable {floats : Floats} {other : PyVal → String} {intOfText : String → Option ℤ}
  {samples : List LagSample} {content : Option (List Char)}

/-- The samples `lag_sampler.py` writes are lines that can be read again. -/
theorem lines_samples : Lines (fun s : LagSample => ((pyJson floats other).dumps s.toDict).toList)
    (readLine (pyJson floats other))
    fun s => .dict (s.toDict.map fun kv => (kv.1, reread floats other kv.2)) :=
  lines_dicts LagSample.nodup_keys

/-- The lag of a line, once the line is found. -/
theorem latestLag_of_line {cs line : List Char}
    (hline : (cs.splitOn '\n').reverse.find? (fun line => strip isSpace line ≠ []) = some line) :
    latestLag (pyJson floats other) intOfText (some cs) =
      match readLine (pyJson floats other) line with
      | none => .ok none
      | some v => lagOf intOfText v := by
  have hne : strip isSpace line ≠ [] := by simpa using List.find?_some hline
  unfold latestLag readLine
  dsimp only
  rw [hline, if_neg hne]

/-- The lag of a sample. -/
theorem latestLag_of_sample {cs : List Char} {s : LagSample}
    (hline : (cs.splitOn '\n').reverse.find? (fun line => strip isSpace line ≠ []) =
      some ((pyJson floats other).dumps s.toDict).toList) :
    latestLag (pyJson floats other) intOfText (some cs) = .ok (some s.maxOffsetsBehind) := by
  rw [latestLag_of_line hline, lines_samples.read_print s]
  have hlookup : List.lookup "max_offsets_behind"
      (s.toDict.map fun kv => (kv.1, reread floats other kv.2)) =
        some (.int s.maxOffsetsBehind) := by
    rw [lookup_reread]
    exact congrArg some (reread_int _)
  simp [lagOf, asObject, getZero, hlookup, pyInt, bind, Except.bind]

/-- The line of a sample is not blank. -/
theorem strip_sample_ne (s : LagSample) :
    strip isSpace ((pyJson floats other).dumps s.toDict).toList ≠ [] := by
  intro hnil
  have hread := (@lines_samples floats other).read_print s
  rw [readLine, hnil] at hread
  cases hread

/-- Behind blanks the lag is that of the last complete line. -/
theorem latestLag_of_blank (done : List LagSample) {p : List Char} (hp : '\n' ∉ p)
    (hblank : strip isSpace p = []) :
    latestLag (pyJson floats other) intOfText
      (some (lagFile (pyJson floats other) done ++ p)) =
        .ok (done.getLast?.map LagSample.maxOffsetsBehind) := by
  have hlines := splitOn_cut (@lines_samples floats other) done hp
  rcases List.eq_nil_or_concat done with rfl | ⟨seen, s, rfl⟩
  · unfold latestLag
    dsimp only
    rw [lagFile, hlines]
    simp [hblank]
  · rw [List.concat_eq_append] at *
    rw [List.getLast?_concat, Option.map_some]
    refine latestLag_of_sample ?_
    rw [lagFile, hlines]
    simp [hblank, strip_sample_ne]

/-- A file that ends in a complete line gives the lag of its sample. -/
theorem latestLag_complete (seen : List LagSample) (s : LagSample) :
    latestLag (pyJson floats other) intOfText
      (some (lagFile (pyJson floats other) (seen ++ [s]))) = .ok (some s.maxOffsetsBehind) := by
  have h := @latestLag_of_blank floats other intOfText (seen ++ [s]) [] List.not_mem_nil rfl
  rw [List.append_nil, List.getLast?_concat, Option.map_some] at h
  exact h

/-- A line that is not blank is the one that is read. -/
theorem lastLine_of_not_blank (done : List LagSample) {p : List Char} (hp : '\n' ∉ p)
    (hblank : strip isSpace p ≠ []) :
    ((lagFile (pyJson floats other) done ++ p).splitOn '\n').reverse.find?
      (fun line => strip isSpace line ≠ []) = some p := by
  rw [lagFile, splitOn_cut (@lines_samples floats other) done hp]
  simp [hblank]

/-- **The lag is that of the last sample that can be read**, or none when the last line is torn or
there is none. No sample whose line is complete is newer, and when no line is torn it is the lag of
the last sample. -/
theorem latestLag_cut
    (h : Partial (lagFile (pyJson floats other) samples) content) :
    (latestLag (pyJson floats other) intOfText content = .ok none ∨
      ∃ seen s, seen ++ [s] <+: samples ∧
        latestLag (pyJson floats other) intOfText content = .ok (some s.maxOffsetsBehind) ∧
        ∀ cs full, content = some cs → full <+: samples →
          lagFile (pyJson floats other) full <+: cs → full <+: seen ++ [s]) ∧
      ∀ seen s, content = some (lagFile (pyJson floats other) (seen ++ [s])) →
        latestLag (pyJson floats other) intOfText content = .ok (some s.maxOffsetsBehind) := by
  refine ⟨?_, fun seen s hcontent => hcontent ▸ latestLag_complete seen s⟩
  rcases content with _ | cs
  · exact Or.inl rfl
  obtain ⟨done, rest, p, rfl, rfl, hp⟩ := exists_cut (h cs rfl)
  have hline := no_newline_cut (@lines_samples floats other) hp
  have hcomplete : ∀ cs full, some (lagFile (pyJson floats other) done ++ p) = some cs →
      full <+: done ++ rest → lagFile (pyJson floats other) full <+: cs → full <+: done := by
    rintro cs full hcs hfull hfile
    obtain rfl := Option.some.inj hcs
    exact complete_of_cut hp hfull hfile
  by_cases hblank : strip isSpace p = []
  · -- the last line is that of a complete sample
    have hlag := @latestLag_of_blank floats other intOfText done p hline hblank
    rcases List.eq_nil_or_concat done with rfl | ⟨seen, s, rfl⟩
    · exact Or.inl hlag
    · rw [List.concat_eq_append] at *
      rw [List.getLast?_concat, Option.map_some] at hlag
      exact Or.inr ⟨seen, s, List.prefix_append _ _, hlag, hcomplete⟩
  · have hlast := @lastLine_of_not_blank floats other done p hline hblank
    rcases hp with rfl | ⟨s, hs, hp⟩
    · exact absurd rfl hblank
    · by_cases hwhole : p = ((pyJson floats other).dumps s.toDict).toList
      · right
        obtain ⟨rest, rfl⟩ := List.head?_eq_some_iff.mp hs
        refine ⟨done, s, ⟨rest, by rw [List.append_assoc]; rfl⟩, ?_, ?_⟩
        · rw [hwhole] at hlast ⊢
          exact latestLag_of_sample hlast
        · exact fun cs full hcs hfull hfile =>
            (hcomplete cs full hcs hfull hfile).trans (List.prefix_append _ _)
      · left
        have hnone := (@lines_samples floats other).read_torn s p hp hwhole
        exact (latestLag_of_line hlast).trans (by rw [hnone])

end lag

/-- A sample while the job is behind. -/
def sampleLag : LagSample := ⟨1, .int 0, .none, .none, .none, 250, 0, 1⟩

/-- A read of one sample and a part of the next one. -/
def lagRead : Option (List Char) :=
  some ((lagFile reportCodec [sampleLag, sampleLag]).take 300)

/-- Such a read. -/
theorem latestLag_cut_sample :
    (latestLag reportCodec (fun _ => none) lagRead = .ok none ∨
      ∃ seen s, seen ++ [s] <+: [sampleLag, sampleLag] ∧
        latestLag reportCodec (fun _ => none) lagRead = .ok (some s.maxOffsetsBehind) ∧
        ∀ cs full, lagRead = some cs → full <+: [sampleLag, sampleLag] →
          lagFile reportCodec full <+: cs → full <+: seen ++ [s]) ∧
      ∀ seen s, lagRead = some (lagFile reportCodec (seen ++ [s])) →
        latestLag reportCodec (fun _ => none) lagRead = .ok (some s.maxOffsetsBehind) := by
  refine latestLag_cut fun cs hcs => ?_
  obtain rfl := Option.some.inj hcs
  exact List.take_prefix _ _

end TripPipeline.Bench
