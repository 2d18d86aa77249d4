import TripPipeline.Flow.Recovery
import TripPipeline.Replay.Accounting
import TripPipeline.Replay.Once
import TripPipeline.Replay.Preview

/-!
# The drain on its schedule

Every quarter of an hour a DAG inspects the DLQ topic, drains it unless it is too large, and
reports. Its tasks may fail and are tried again; meanwhile the pipeline runs on. What Kafka's
retention deletes after seven days is still here.

* `DagStep`: the tasks beside the pipeline, one constructor for each thing that can happen.
  `runs_of_dag`: a scheduled drain is a drain of the pipeline, so what holds of all its runs holds
  of these.
* `exists_inspect_of_legible`: when an inspection returns.
* `DagDrain.Logged`, `logged_of_dag`: what is known of a drain the DAG has made. If it let it pass,
  each record read was handled once.
* `drains_repeat`: a drain takes nothing off the topic. Each one that passes publishes a record of
  the sink or the producer again.
* `breaker_latches`: nothing here makes the topic smaller, so once it holds too much, inspections
  that poll it to its end are refused; the DAG makes at most the drain attempts of the task it is
  in, whatever these read, and then no drain any more.
-/

namespace TripPipeline.Flow

open Relation
open TripPipeline.Common TripPipeline.Lib
open TripPipeline.Streaming TripPipeline.Replay
open PipelineState (values)

/-! ## The tasks -/

/-- `DEFAULT_ARGS["retries"]`. -/
def dagRetries : ℕ := 3

/-- The arguments of the scheduled drain, which has the defaults. -/
def dagArgs : DrainArgs where
  limit := 0
  maxReplays := 3
  dryRun := false

/-- `emit_alert(kind, ...)`. -/
inductive Alert where
  /-- `dlq_circuit_breaker` -/
  | circuitBreaker (records : ℕ) (ceiling : ℤ) (byStage : Counter HashKey)
  /-- `dlq_drain_unaccounted` -/
  | unaccounted (result : DrainResult)
  /-- `dlq_records_parked` -/
  | recordsParked (parked : ℕ)

/-- Inspect, and refuse what is above the ceiling, `DLQ_CIRCUIT_BREAKER`.
Source: `airflow/dags/dlq_drain.py` `inspect_dlq` -/
def inspectDlq (ceiling : ℤ) (result : InspectResult) : Except Exc InspectResult × List Alert :=
  if (result.records : ℤ) > ceiling then
    (.error ⟨"RuntimeError", "DLQ holds " ++ toString result.records ++ " records, above the " ++
        toString ceiling ++ " ceiling - refusing to auto-drain", []⟩,
      [.circuitBreaker result.records ceiling result.byStage])
  else (.ok result, [])

/-- What `drain_dlq` hands on. -/
inductive TaskResult where
  /-- The dictionary of zeros. -/
  | skipped
  | drained (result : DrainResult)

/-- `drained.get("parked", 0)`. -/
def TaskResult.parked : TaskResult → ℕ
  | .drained (.drained report) => report.parked
  | _ => 0

/-- Drain, unless there is nothing to drain. `tool` is what `dlq_tools drain` comes to.
Source: `airflow/dags/dlq_drain.py` `drain_dlq` -/
def drainDlq (inspection : InspectResult) (tool : Except Exc DrainResult) :
    Except Exc TaskResult × List Alert :=
  if inspection.records = 0 then (.ok .skipped, [])
  else
    match tool with
    | .error e => (.error e, [])
    | .ok res =>
        match checkDrain res with
        | .error e => (.error e, [.unaccounted res])
        | .ok res => (.ok (.drained res), [])

/-- Report the records that no drain can recover.
Source: `airflow/dags/dlq_drain.py` `report_drain` -/
def reportDrain (drained : TaskResult) : List Alert :=
  if drained.parked > 0 then [.recordsParked drained.parked] else []

/-! ## States and steps -/

/-- Where a run of the DAG stands, and how often its task is still tried again. -/
inductive Phase where
  | idle
  | inspecting (left : ℕ)
  | draining (inspection : InspectResult) (left : ℕ)
  | reporting (drained : TaskResult)

/-- After a failed attempt. -/
def Phase.retry : Phase → Phase
  | .inspecting (left + 1) => .inspecting left
  | .draining inspection (left + 1) => .draining inspection left
  | _ => .idle

/-- The attempts at draining that are left to this run of the DAG. -/
def Phase.attempts : Phase → ℕ
  | .draining _ left => left + 1
  | _ => 0

/-- A drain of the DAG, with the topic it found. -/
structure DagDrain where
  dlq : Topic Dict
  env : DrainEnv
  run : DrainRun
  passed : Bool

/-- The pipeline and the DAG. -/
structure Operations where
  pipeline : PipelineState
  phase : Phase
  drains : List DagDrain
  alerts : List Alert

namespace Operations

/-- Nothing has happened yet. -/
def init : Operations := ⟨.init, .idle, [], []⟩

/-- A task ends an attempt. -/
def attempt {α : Type} (w : Operations) (next : α → Phase) (out : Except Exc α × List Alert) :
    Operations :=
  { w with
    phase := match out.1 with
      | .ok a => next a
      | .error _ => w.phase.retry
    alerts := w.alerts ++ out.2 }

/-- A drain has been made. -/
def drained (w : Operations) (drain : DagDrain) (sent : List KafkaMessage)
    (executed : List Statement) (records : List DlqRead) : Operations :=
  { w with
    pipeline := ((w.pipeline.publish sent).execute executed).park records
    drains := w.drains ++ [drain] }

end Operations

/-- What can happen next. Between two steps of the pipeline the topic is inspected, with polls as
`probes` says, or drained, with polls as `reads` says. -/
inductive DagStep (d : Deployment) (ceiling : ℤ)
    (probes reads : Topic DlqValue → List Poll → Prop) : Operations → Operations → Prop
  /-- The pipeline takes a step. -/
  | pipeline (w) {s} : Step d w.pipeline s →
      DagStep d ceiling probes reads w { w with pipeline := s }
  /-- A run of the DAG is due, and none is active. -/
  | trigger (w) : w.phase = .idle →
      DagStep d ceiling probes reads w { w with phase := .inspecting dagRetries }
  /-- The topic is inspected. -/
  | inspect (w) {left name polls res} : w.phase = .inspecting left →
      probes (values w.pipeline.dlq) polls →
      Replay.inspect name (values w.pipeline.dlq) polls = .ok res →
      DagStep d ceiling probes reads w
        (w.attempt (fun res => .draining res dagRetries) (inspectDlq ceiling res))
  /-- It was empty. -/
  | skip (w) {inspection left} (tool) : w.phase = .draining inspection left →
      inspection.records = 0 →
      DagStep d ceiling probes reads w (w.attempt .reporting (drainDlq inspection tool))
  /-- It is drained. If the tool does not return, any part of the effects is there; if it does, what
  is parked, and what was confirmed. -/
  | drain (w) {inspection left env run tool sent executed records} :
      w.phase = .draining inspection left → inspection.records ≠ 0 →
      env.codec = d.codec → env.fromIsoFormat = d.fromIsoFormat →
      reads (values w.pipeline.dlq) env.polls →
      Replay.drain dagArgs env (values w.pipeline.dlq) = .ok run →
      (∀ m ∈ sent, ∃ p ∈ run.produced, m.value = some p.value) →
      (∀ st ∈ executed, ∃ turn ∈ run.direct, st ∈ turn.executed) →
      (∀ r ∈ records, r ∈ run.parkFile) →
      (∀ res, tool = .ok res → run.result = .ok res ∧ records = run.parkFile ∧
        ∀ p ∈ run.produced, p.delivery = .acked → ∃ m ∈ sent, m.value = some p.value) →
      DagStep d ceiling probes reads w
        ((w.drained ⟨w.pipeline.dlq, env, run, (drainDlq inspection tool).1.isOk⟩ sent executed
          records).attempt .reporting (drainDlq inspection tool))
  /-- The run ends with its report. -/
  | report (w) {drained} : w.phase = .reporting drained →
      DagStep d ceiling probes reads w
        { w with phase := .idle, alerts := w.alerts ++ reportDrain drained }
  /-- The attempt of a task fails before it has done anything. -/
  | fail (w) : DagStep d ceiling probes reads w { w with phase := w.phase.retry }

/-- The states of the pipeline and the DAG. -/
abbrev Operates (d : Deployment) (ceiling : ℤ) (probes reads : Topic DlqValue → List Poll → Prop)
    (w : Operations) : Prop :=
  Reachable (· = .init) (DagStep d ceiling probes reads) w

variable {d : Deployment} {ceiling : ℤ} {probes reads : Topic DlqValue → List Poll → Prop}
  {w w' : Operations} {s s' : PipelineState}

/-! ## The pipeline beside the DAG -/

/-- A step of the DAG leaves the pipeline or is a step of it. -/
theorem DagStep.pipeline_step (h : DagStep d ceiling probes reads w w') :
    w'.pipeline = w.pipeline ∨ Step d w.pipeline w'.pipeline := by
  cases h with
  | pipeline hstep => exact Or.inr hstep
  | drain _ _ hcodec hiso _ hdrain hsent hexecuted hrecords _ =>
      exact Or.inr (.drain w.pipeline (fun _ => List.prefix_rfl) hcodec hiso rfl hdrain hsent
        hexecuted hrecords)
  | trigger _ | inspect _ _ _ | skip _ _ _ | report _ | fail => exact Or.inl rfl

/-- **The DAG makes runs of the pipeline.** -/
theorem runs_of_dag (h : ReflTransGen (DagStep d ceiling probes reads) w w') :
    ReflTransGen (Step d) w.pipeline w'.pipeline := by
  induction h with
  | refl => exact .refl
  | tail _ hstep ih =>
      rcases hstep.pipeline_step with hsame | hstep
      · rw [hsame]
        exact ih
      · exact ih.tail hstep

/-- Beside the DAG the pipeline goes through one of its runs. -/
theorem runs_pipeline (h : Operates d ceiling probes reads w) : Runs d w.pipeline := by
  obtain ⟨w₀, rfl, hrun⟩ := h
  exact ⟨.init, rfl, runs_of_dag hrun⟩

/-! ## Inspecting -/

/-- `inspect` can read the object. -/
structure Legible (e : Dict) : Prop where
  eventId : (∃ id, e.lookup "event_id" = some (.str id)) ∨ e.lookup "event_id" = none
  reason : ∃ reason, e.lookup "failure_reason" = some (.str reason)
  retryCount : ∃ n, e.lookup "retry_count" = some (.int n)
  stage : ∃ stage, e.lookup "failure_stage" = some (.str stage)

/-- A record of such an object. -/
theorem Legible.inspectable {e : Dict} (h : Legible e) {r : DlqRead} (hfields : HasFields r e) :
    Inspectable r := by
  obtain ⟨reason, hreason⟩ := h.reason
  obtain ⟨n, hn⟩ := h.retryCount
  obtain ⟨stage, hstage⟩ := h.stage
  have hget : ∀ {k v}, k ≠ "_partition" → k ≠ "_offset" → e.lookup k = some v →
      Dict.get r.fields k = v := by
    intro k v hpart hoff hv
    exact get_of_lookup ((hfields k hpart hoff).trans hv)
  refine ⟨fun htruthy => ?_, fun _ => ?_, fun _ => ?_⟩
  · rcases h.eventId with ⟨id, hid⟩ | hnone
    · rw [hget (by decide) (by decide) hid]
      rfl
    · rw [Dict.get, hfields _ (by decide) (by decide), hnone]
      rfl
  · rw [hget (by decide) (by decide) hreason]
    rfl
  · rw [hget (by decide) (by decide) hn]
    rfl

/-- **An inspection of such a topic returns.** -/
theorem exists_inspect_of_legible (hlegible : ∀ e, s.OnDlq e → Legible e) (name : String)
    {polls : List Poll} (herror : ∀ e, Poll.error e ∉ polls) :
    ∃ res, Replay.inspect name (values s.dlq) polls = .ok res := by
  obtain ⟨recs, hrecs⟩ : ∃ recs, Replay.readAll (values s.dlq) polls 0 = .ok recs := by
    refine exists_readLoop _ _ ?_ herror
    intro p v hv l
    obtain ⟨e, -, rfl⟩ := List.mem_map.mp hv
    exact ⟨_, rfl⟩
  obtain ⟨res, hres⟩ : ∃ res, inspectRecords name recs = .ok res := by
    refine inspectRecords_ok_iff.mpr fun r hr => ?_
    obtain ⟨e, he, hfields⟩ := read_of_values hrecs hr
    have hlegible := hlegible e ⟨r.loc.partition, List.mem_of_getElem? he⟩
    refine ⟨hlegible.inspectable hfields, ?_⟩
    obtain ⟨stage, hstage⟩ := hlegible.stage
    rw [get_of_lookup ((hfields _ (by decide) (by decide)).trans hstage)]
    rfl
  exact ⟨res, bind_eq_ok_iff.mpr ⟨recs, hrecs, hres⟩⟩

/-! ## The topic only grows -/

/-- No step of the pipeline takes anything off a partition of the DLQ topic. -/
theorem Step.dlq_grows (h : Step d s s') (p : ℕ) : s.dlq p <+: s'.dlq p := by
  cases h with
  | giveUp | batch _ _ _ _ _ _ _ | abort _ _ _ _ => exact List.prefix_append _ _
  | publish | restart | drain _ _ _ _ _ _ _ _ => exact List.prefix_rfl

/-- No run of the pipeline takes anything off a partition of the DLQ topic. -/
theorem dlq_grows (h : ReflTransGen (Step d) s s') (p : ℕ) : s.dlq p <+: s'.dlq p := by
  induction h with
  | refl => exact List.prefix_rfl
  | tail _ hstep ih => exact ih.trans (hstep.dlq_grows p)

/-- More than so many records stand on the topic. -/
def Full (ceiling : ℤ) (dlq : Topic Dict) : Prop :=
  ∃ locs : Finset Loc, ceiling < locs.card ∧ ∀ l ∈ locs, l.offset < (dlq l.partition).length

/-- A topic that is too large stays too large. -/
theorem Full.grows {dlq dlq' : Topic Dict} (h : Full ceiling dlq)
    (hgrows : ∀ p, dlq p <+: dlq' p) : Full ceiling dlq' := by
  obtain ⟨locs, hcard, hlocs⟩ := h
  exact ⟨locs, hcard, fun l hl => (hlocs l hl).trans_le (hgrows l.partition).length_le⟩

/-- **A full topic is refused** when it is polled to its end. -/
theorem refused_of_full {dlq : Topic Dict} (hfull : Full ceiling dlq) {name : String}
    {polls : List Poll} (hpolls : PolledOut (values dlq) polls) {res : InspectResult}
    (h : Replay.inspect name (values dlq) polls = .ok res) : ceiling < res.records := by
  obtain ⟨locs, hcard, hlocs⟩ := hfull
  obtain ⟨recs, hrecs, hres⟩ := bind_eq_ok_iff.mp h
  have hcount : res.records = recs.length := by
    unfold inspectRecords at hres
    repeat obtain ⟨_, -, hres⟩ := bind_eq_ok_iff.mp hres
    rw [← Except.ok.inj hres]
  have hsub : locs ⊆ (recs.map DlqRead.loc).toFinset := by
    intro l hl
    rw [List.mem_toFinset]
    refine readAll_complete hrecs hpolls l.partition l.offset ?_
    rw [values, List.length_map]
    exact hlocs l hl
  have hle := (Finset.card_le_card hsub).trans (List.toFinset_card_le _)
  rw [List.length_map] at hle
  omega

/-! ## What a drain of the DAG is -/

/-- What is known of a drain afterwards. -/
structure DagDrain.Logged (reads : Topic DlqValue → List Poll → Prop) (x : DagDrain) : Prop where
  reads : reads (values x.dlq) x.env.polls
  drained : Replay.drain dagArgs x.env (values x.dlq) = .ok x.run
  passed : x.passed = true → ∃ res, x.run.result = .ok res ∧ checkDrain res = .ok res

/-- The check of the result hands it on. -/
theorem eq_of_checkDrain {res res' : DrainResult} (h : checkDrain res = .ok res') : res' = res := by
  cases res with
  | drained report =>
      unfold checkDrain at h
      dsimp only at h
      split_ifs at h
      exact (Except.ok.inj h).symm
  | empty => exact (Except.ok.inj h).symm
  | dryRun records reinject direct park => exact (Except.ok.inj h).symm

/-- When a drain passes. -/
theorem drainDlq_isOk_iff {inspection : InspectResult} (h : inspection.records ≠ 0)
    {tool : Except Exc DrainResult} : (drainDlq inspection tool).1.isOk = true ↔
      ∃ res, tool = .ok res ∧ checkDrain res = .ok res := by
  unfold drainDlq
  rw [if_neg h]
  cases tool with
  | error e => exact iff_of_false Bool.false_ne_true fun ⟨_, h, _⟩ => nomatch h
  | ok res =>
      dsimp only
      cases hres : checkDrain res with
      | error e =>
          refine iff_of_false Bool.false_ne_true ?_
          rintro ⟨_, hok, hpass⟩
          obtain rfl := Except.ok.inj hok
          rw [hres] at hpass
          cases hpass
      | ok res' =>
          obtain rfl := eq_of_checkDrain hres
          exact iff_of_true rfl ⟨_, rfl, hres⟩

/-- What a step with a drain does. -/
structure DagDrain.Made (reads : Topic DlqValue → List Poll → Prop) (x : DagDrain)
    (w w' : Operations) : Prop where
  drains : w'.drains = w.drains ++ [x]
  dlq : x.dlq = w.pipeline.dlq
  logged : x.Logged reads
  attempts : w'.phase.attempts < w.phase.attempts
  /-- What was confirmed is on `trips.raw`. -/
  raw : ∃ sent, w'.pipeline.raw = w.pipeline.raw ++ sent ∧ (x.passed = true →
    ∀ p ∈ x.run.produced, p.delivery = .acked → ∃ m ∈ sent, m.value = some p.value)

/-- A failed attempt uses up one of the attempts that are left. -/
theorem Phase.attempts_retry_le (p : Phase) : p.retry.attempts ≤ p.attempts - 1 := by
  match p with
  | .idle | .inspecting 0 | .inspecting (_ + 1) | .draining _ 0 | .reporting _ =>
      exact Nat.zero_le _
  | .draining _ (_ + 1) => exact le_rfl

/-- **A step makes one drain, or none.** -/
theorem DagStep.drains_cases (h : DagStep d ceiling probes reads w w') :
    w'.drains = w.drains ∨ ∃ x : DagDrain, x.Made reads w w' := by
  cases h with
  | pipeline _ | trigger _ | inspect _ _ _ | skip _ _ _ | report _ | fail => exact Or.inl rfl
  | @drain inspection left env run tool sent executed records hphase hfound _ _ hreads hdrain _ _ _
      hreturned =>
      have hpassed := @drainDlq_isOk_iff inspection hfound tool
      refine Or.inr ⟨_, rfl, rfl, ⟨hreads, hdrain, fun hok => ?_⟩, ?_, sent, rfl, fun hok => ?_⟩
      · obtain ⟨res, htool, hcheck⟩ := hpassed.mp hok
        exact ⟨res, (hreturned res htool).1, hcheck⟩
      · have hretry := w.phase.attempts_retry_le
        rw [Operations.attempt, Operations.drained]
        rw [hphase] at hretry ⊢
        dsimp only
        split
        · exact Nat.succ_pos left
        · exact Nat.lt_succ_of_le hretry
      · obtain ⟨res, htool, -⟩ := hpassed.mp hok
        exact (hreturned res htool).2.2

/-- What the DAG has logged. -/
theorem logged_of_dag (h : Operates d ceiling probes reads w) : ∀ x ∈ w.drains, x.Logged reads := by
  refine h.invariant (P := fun w => ∀ x ∈ w.drains, x.Logged reads) ?_ ?_
  · rintro _ rfl x hx
    cases hx
  · intro w w' _ hall hstep x hx
    rcases hstep.drains_cases with hsame | ⟨y, hy⟩
    · exact hall x (hsame ▸ hx)
    · rw [hy.drains, List.mem_append, List.mem_singleton] at hx
      rcases hx with hx | rfl
      · exact hall x hx
      · exact hy.logged

/-- **A drain that passes has handled each record it read, once.** -/
theorem DagDrain.Logged.handled {x : DagDrain} (h : x.Logged reads) (hpassed : x.passed = true) :
    x.run.handled.Nodup ∧ x.run.handled.Perm (x.run.read.map DlqRead.loc) := by
  have hdrained := drain_drained h.drained rfl
  refine ⟨hdrained.handled_nodup, ?_⟩
  obtain ⟨res, hres, hcheck⟩ := h.passed hpassed
  rcases drain_returned h.drained rfl hres with ⟨hrun, -⟩ | ⟨report, rfl⟩
  · rw [hrun]
    exact .refl _
  · unfold checkDrain at hcheck
    dsimp only at hcheck
    split_ifs at hcheck with hzero
    exact hdrained.handled_perm hres (not_not.mp hzero)

/-! ## What it publishes -/

/-- The messages with a text on `trips.raw`. -/
def copies (text : String) (s : PipelineState) : ℕ := s.raw.countP fun m => m.value = some text

/-- No step takes a copy of a text off `trips.raw`. -/
theorem Step.copies_le (h : Step d s s') (text : String) : copies text s ≤ copies text s' := by
  have happend : ∀ ms : List KafkaMessage, copies text s ≤
      (s.raw ++ ms).countP fun m => m.value = some text := fun ms => by
    rw [List.countP_append]
    exact Nat.le_add_right _ _
  cases h with
  | publish | drain _ _ _ _ _ _ _ _ => exact happend _
  | giveUp | restart | batch _ _ _ _ _ _ _ | abort _ _ _ _ => exact le_rfl

/-- An entry that the DAG drains to `trips.raw`. -/
structure Replayed (text : String) (e : Dict) : Prop where
  stage : ∃ stage ∈ reinjectStages, e.lookup "failure_stage" = some (.str stage)
  replayCount : ∃ n < dagArgs.maxReplays, e.lookup "replay_count" = some (.int n)
  payload : e.lookup "original_payload" = some (.str text)

/-- Such an entry is published by every drain that passes. -/
theorem DagDrain.Logged.acked {x : DagDrain} (h : x.Logged PolledOut) (hpassed : x.passed = true)
    (hheard : Heard x.env dagArgs.maxReplays x.run.read) {p : ℕ} {e : Dict} {text : String}
    (he : e ∈ x.dlq p) (hreplayed : Replayed text e) :
    ∃ q ∈ x.run.produced, q.delivery = .acked ∧ q.value = text := by
  have hdrained := drain_drained h.drained rfl
  obtain ⟨o, ho⟩ := List.mem_iff_getElem?.mp he
  obtain ⟨r, hr, -, hfields⟩ := exists_read_of_polledOut hdrained.reads h.reads (l := ⟨p, o⟩) ho
  obtain ⟨stage, hstage, hlookup⟩ := hreplayed.stage
  obtain ⟨n, hn, hcount⟩ := hreplayed.replayCount
  have hclass : classify x.env dagArgs.maxReplays r = .ok .reinject := by
    rw [classify_eq ((hfields _ (by decide) (by decide)).trans hcount)
      ((hfields _ (by decide) (by decide)).trans hlookup), if_neg (not_le.mpr hn),
      if_pos (List.contains_iff_mem.mpr hstage)]
  obtain ⟨res, hres, hcheck⟩ := h.passed hpassed
  have hnone := noneLeft_of_checkDrain h.drained rfl hres hheard hcheck
  rcases drain_returned h.drained rfl hres with ⟨hrun, -⟩ | ⟨report, rfl⟩
  · rw [hrun] at hr
    cases hr
  · have hrecoverable := (hdrained.left_iff hres hr).mp (hnone r hr)
    obtain ⟨q, hq, hacked⟩ := republishable_iff.mp (hrecoverable.reinject hclass)
    obtain ⟨text', kvs, key, hpayload, -, -, -, hvalue⟩ := reinjectOne_ok_iff.mp hq
    rw [hfields _ (by decide) (by decide), hreplayed.payload] at hpayload
    obtain rfl := PyVal.str.inj (Option.some.inj hpayload)
    refine ⟨q, ?_, hacked, congrArg Produced.value hvalue⟩
    rw [hdrained.produced, (routeRecords_eq hdrained.routed).1]
    exact mem_reinjectAll.mpr ⟨r, List.mem_filter.mpr ⟨hr, by rw [hclass]; rfl⟩, hq⟩

/-- **Every drain that passes publishes the entry again.** -/
theorem drains_repeat {text : String} {e : Dict} (he : w.pipeline.OnDlq e)
    (hreplayed : Replayed text e) (h : ReflTransGen (DagStep d ceiling probes PolledOut) w w') :
    ∃ new, w'.drains = w.drains ++ new ∧
      ((∀ x ∈ new, Heard x.env dagArgs.maxReplays x.run.read) →
        copies text w.pipeline + new.countP (·.passed) ≤ copies text w'.pipeline) := by
  induction h with
  | refl => exact ⟨[], (List.append_nil _).symm, fun _ => le_rfl⟩
  | @tail v w' hrun hstep ih =>
      obtain ⟨new, hdrains, hcopies⟩ := ih
      rcases hstep.drains_cases with hsame | ⟨x, hx⟩
      · refine ⟨new, hsame.trans hdrains, fun hheard => (hcopies hheard).trans ?_⟩
        rcases hstep.pipeline_step with hpipeline | hpipeline
        · rw [hpipeline]
        · exact hpipeline.copies_le text
      · refine ⟨new ++ [x], ?_, fun hheard => ?_⟩
        · rw [hx.drains, hdrains, List.append_assoc]
        · have hbefore := hcopies fun y hy => hheard y (List.mem_append_left _ hy)
          obtain ⟨sent, hraw, hacked⟩ := hx.raw
          have hmore : (if x.passed = true then 1 else 0) ≤
              sent.countP fun m => m.value = some text := by
            split_ifs with hpassed
            · obtain ⟨p, hp⟩ := he
              have hp' : e ∈ x.dlq p := by
                rw [hx.dlq]
                exact (dlq_grows (runs_of_dag hrun) p).subset hp
              obtain ⟨q, hq, hqacked, hvalue⟩ := hx.logged.acked hpassed
                (hheard x (List.mem_append_right _ (List.mem_singleton_self x))) hp' hreplayed
              obtain ⟨m, hm, hmvalue⟩ := hacked hpassed q hq hqacked
              exact List.countP_pos_iff.mpr ⟨m, hm, decide_eq_true (hmvalue.trans (by rw [hvalue]))⟩
            · exact Nat.zero_le _
          have hafter : copies text w'.pipeline =
              copies text v.pipeline + sent.countP fun m => m.value = some text := by
            rw [copies, hraw, List.countP_append]
            rfl
          rw [hafter, List.countP_append, List.countP_singleton, ← Nat.add_assoc]
          exact Nat.add_le_add hbefore hmore

/-! ## The breaker -/

/-- **Only an inspection gives the DAG attempts at draining**, and only of a topic it has not found
too large. -/
theorem DagStep.attempts_cases (h : DagStep d ceiling probes reads w w') :
    w'.phase.attempts ≤ w.phase.attempts ∨ w'.phase.attempts = dagRetries + 1 ∧
      ∃ name polls res, probes (values w.pipeline.dlq) polls ∧
        Replay.inspect name (values w.pipeline.dlq) polls = .ok res ∧ res.records ≤ ceiling := by
  have hretry := (w.phase.attempts_retry_le).trans (Nat.sub_le _ _)
  cases h with
  | pipeline _ => exact Or.inl le_rfl
  | trigger _ | report _ => exact Or.inl (Nat.zero_le _)
  | @inspect left name polls res hphase hreads hinspect =>
      rw [Operations.attempt, inspectDlq]
      split_ifs with hlarge
      · exact Or.inl hretry
      · exact Or.inr ⟨rfl, name, polls, res, hreads, hinspect, not_lt.mp hlarge⟩
  | @skip inspection _ tool _ hnone =>
      have hskipped : drainDlq inspection tool = (.ok .skipped, []) := if_pos hnone
      rw [hskipped]
      exact Or.inl (Nat.zero_le _)
  | drain _ _ _ _ _ _ _ _ _ _ =>
      rw [Operations.attempt]
      dsimp only
      split
      · exact Or.inl (Nat.zero_le _)
      · exact Or.inl hretry
  | fail => exact Or.inl hretry

/-- The DAG never has more than `retries + 1` attempts left. -/
theorem attempts_le_of_dag (h : Operates d ceiling probes reads w) :
    w.phase.attempts ≤ dagRetries + 1 := by
  refine h.invariant (P := fun w => w.phase.attempts ≤ dagRetries + 1) ?_ ?_
  · rintro _ rfl
    exact Nat.zero_le _
  · intro w w' _ hle hstep
    rcases hstep.attempts_cases with hless | ⟨heq, -⟩
    · exact hless.trans hle
    · exact heq.le

/-- **The breaker latches**: once the topic holds more than the ceiling and inspections poll it to
its end, the DAG makes at most the attempts that its task has left, and then no drain any more. What
the drains read does not matter. -/
theorem breaker_latches (hw : Operates d ceiling probes reads w)
    (hfull : Full ceiling w.pipeline.dlq)
    (h : ReflTransGen (DagStep d ceiling PolledOut reads) w w') :
    ∃ last, w'.drains = w.drains ++ last ∧ last.length ≤ w.phase.attempts ∧
      w.phase.attempts ≤ dagRetries + 1 := by
  suffices hrun : ∃ last, w'.drains = w.drains ++ last ∧
      last.length + w'.phase.attempts ≤ w.phase.attempts by
    obtain ⟨last, hdrains, hle⟩ := hrun
    exact ⟨last, hdrains, (Nat.le_add_right _ _).trans hle, attempts_le_of_dag hw⟩
  induction h with
  | refl => exact ⟨[], (List.append_nil _).symm, (Nat.zero_add _).le⟩
  | @tail v w' hrun hstep ih =>
      obtain ⟨last, hdrains, hle⟩ := ih
      rcases hstep.drains_cases with hsame | ⟨x, hx⟩
      · refine ⟨last, hsame.trans hdrains, ?_⟩
        rcases hstep.attempts_cases with hless | ⟨-, name, polls, res, hpolls, hinspect, hsmall⟩
        · exact (Nat.add_le_add_left hless _).trans hle
        · have hstill := hfull.grows fun p => dlq_grows (runs_of_dag hrun) p
          have hlarge := refused_of_full hstill hpolls hinspect
          omega
      · refine ⟨last ++ [x], ?_, ?_⟩
        · rw [hx.drains, hdrains, List.append_assoc]
        · have hless := hx.attempts
          rw [List.length_append, List.length_singleton]
          omega

/-! ## A run -/

/-- The producer has given the event up. -/
def sampleOperations : Operations := { Operations.init with pipeline := sampleGivenUp }

/-- The sample is reached by a run of the pipeline and the DAG. -/
theorem operates_sample : Operates sampleDeployment ceiling probes reads sampleOperations := by
  have hstep : Step sampleDeployment .init sampleGivenUp :=
    .giveUp .init 0 "host" fullText "timed out" 0 5 (some "trips.raw")
  have hstart : Operates sampleDeployment ceiling probes reads .init := .of_start rfl
  exact hstart.tail (.pipeline .init hstep)

/-- An event the producer has given up, when its id is a text. -/
theorem legible_giveUp {codec : JsonCodec} {text id : String} (host reason : String)
    (now retryCount : ℤ) (topic : Option String)
    (hid : payloadGet (codec.loads text) "event_id" = .str id) {e : Dict}
    (he : e = (build codec host now text reason stageProducer retryCount none topic none none
      0).asdict) : Legible e ∧ Replayed text e := by
  subst he
  exact ⟨⟨Or.inl ⟨id, congrArg some hid⟩, ⟨_, rfl⟩, ⟨_, rfl⟩, ⟨_, rfl⟩⟩,
    ⟨stageProducer, by decide, rfl⟩, ⟨0, by decide, rfl⟩, rfl⟩

/-- The id in the payload that was given up. -/
theorem payloadGet_fullText : payloadGet (sampleDeployment.codec.loads fullText) "event_id" =
    .str "00000000-0000-0000-0000-000000000001" := by
  have hloads : sampleDeployment.codec.loads fullText = some (.dict fullObject) := by
    unfold sampleDeployment sampleCodec
    simp only [if_true]
  rw [hloads]
  rfl

/-- The one entry can be inspected, and is drained to `trips.raw`. -/
theorem legible_sample : ∀ e, sampleGivenUp.OnDlq e → Legible e ∧ Replayed fullText e := by
  rintro e ⟨p, hp⟩
  rcases PipelineState.mem_quarantine.mp hp with hnone | hnew
  · cases hnone
  · exact legible_giveUp _ _ _ _ _ payloadGet_fullText
      (Prod.mk.inj (List.mem_singleton.mp hnew)).2

/-- An entry is there. -/
theorem full_sample : Full 0 sampleGivenUp.dlq :=
  ⟨{⟨0, 0⟩}, by decide, fun l hl => by rw [Finset.mem_singleton.mp hl]; decide⟩

/-- An inspection counts it. -/
theorem exists_inspect_sample : ∃ res, Replay.inspect "trips.dlq" (values sampleGivenUp.dlq)
    sampleDrainEnv.polls = .ok res ∧ res.records = 1 := by
  have hcount : (Replay.inspect "trips.dlq" (values sampleGivenUp.dlq)
      sampleDrainEnv.polls).toOption.map InspectResult.records = some 1 := by decide +kernel
  obtain ⟨res, hres, hrecords⟩ := Option.map_eq_some_iff.mp hcount
  refine ⟨res, ?_, hrecords⟩
  revert hres
  generalize Replay.inspect "trips.dlq" (values sampleGivenUp.dlq) sampleDrainEnv.polls = out
  intro hres
  cases out with
  | ok _ => exact congrArg Except.ok (Option.some.inj hres)
  | error _ => cases hres

/-- A second event is given up. -/
def crowded : PipelineState :=
  (sampleGivenUp.offer [fullText]).quarantine [(0, (build sampleDeployment.codec "host" 0
    fullText "timed out" stageProducer 5 none (some "trips.raw") none none 0).asdict)]

/-- Both entries can be inspected. -/
theorem legible_crowded : ∀ e, crowded.OnDlq e → Legible e := by
  intro e he
  rcases PipelineState.onDlq_quarantine.mp he with hold | hnew
  · exact (legible_sample e hold).1
  · exact (legible_giveUp _ _ _ _ _ payloadGet_fullText (List.mem_singleton.mp hnew)).1

/-- A poll of both. -/
theorem polledOut_crowded : PolledOut (values crowded.dlq) [.message 0, .message 0] := by
  intro p
  by_cases hp : p = 0
  · subst hp
    decide
  · have hempty : values crowded.dlq p = [] := by
      have hne : ¬0 = p := fun h => hp h.symm
      simp [values, crowded, sampleGivenUp, PipelineState.quarantine, PipelineState.offer,
        PipelineState.init, hne]
    rw [hempty]
    exact Nat.zero_le _

/-- Two entries are there. -/
theorem full_crowded : Full 1 crowded.dlq := by
  refine ⟨{⟨0, 0⟩, ⟨0, 1⟩}, by decide, fun l hl => ?_⟩
  rcases Finset.mem_insert.mp hl with rfl | hl
  · decide
  · rw [Finset.mem_singleton.mp hl]
    decide

/-- A drain that reads nothing before its tool dies. -/
def failedDrain : DagDrain where
  dlq := crowded.dlq
  env := { sampleDrainEnv with polls := [] }
  run := ⟨[], ⟨[], [], []⟩, [], [], [], .ok .empty⟩
  passed := false

/-- The first inspection lets the drain begin, which fails; by then a second event has been given
up, and the next inspection is refused. -/
theorem breaker_latches_sample : ∃ w w' : Operations, w.phase.attempts = dagRetries + 1 ∧
    w'.drains.length = 1 ∧ (∃ records byStage, .circuitBreaker records 1 byStage ∈ w'.alerts) ∧
    ∃ last, w'.drains = w.drains ++ last ∧ last.length ≤ w.phase.attempts ∧
      w.phase.attempts ≤ dagRetries + 1 := by
  let Next := DagStep sampleDeployment 1 PolledOut fun _ _ => True
  obtain ⟨found, hfound, hone⟩ := exists_inspect_sample
  have hsome : found.records ≠ 0 := by
    rw [hone]
    exact one_ne_zero
  have hpolls : ∀ e, Poll.error e ∉ [Poll.message 0, Poll.message 0] := by simp
  obtain ⟨res, hres⟩ := exists_inspect_of_legible legible_crowded "trips.dlq" hpolls
  have hlarge := refused_of_full full_crowded polledOut_crowded hres
  -- up to the drain
  have hinspect : Next _ _ := .inspect { sampleOperations with phase := .inspecting dagRetries } rfl
    healthyDrain_sample.polls hfound
  have hlet : inspectDlq 1 found = (.ok found, []) := if_neg (by rw [hone]; decide)
  rw [hlet] at hinspect
  have hgiveUp : Next _ ⟨crowded, .draining found dagRetries, [], []⟩ :=
    .pipeline ⟨sampleGivenUp, .draining found dagRetries, [], []⟩
      (.giveUp sampleGivenUp 0 "host" fullText "timed out" 0 5 (some "trips.raw"))
  have hw := ((operates_sample.tail (.trigger _ rfl)).tail hinspect).tail hgiveUp
  -- the drain, which the tool does not end, and three attempts that fail before it
  have hnone : ∀ {α : Type} {P : α → Prop}, ∀ a ∈ [], P a := fun {_ _} _ ha => nomatch ha
  have hdrain : Next _ _ := @DagStep.drain _ 1 _ _ ⟨crowded, .draining found dagRetries, [], []⟩
    found dagRetries failedDrain.env failedDrain.run (.error ⟨"RuntimeError", "", []⟩) [] [] []
    rfl hsome rfl rfl trivial rfl hnone hnone hnone fun _ hok => nomatch hok
  have hdies : drainDlq found (.error ⟨"RuntimeError", "", []⟩) =
      (.error ⟨"RuntimeError", "", []⟩, []) := if_neg hsome
  rw [hdies] at hdrain
  have hidle := (((ReflTransGen.single hdrain).tail (.fail _)).tail (.fail _)).tail (.fail _)
  -- the next run of the DAG
  have hagain : Next _ _ := .inspect
    { pipeline := crowded, phase := .inspecting dagRetries, drains := [failedDrain], alerts := [] }
    rfl polledOut_crowded hres
  have hrun := (hidle.tail (.trigger _ rfl)).tail hagain
  refine ⟨_, _, rfl, rfl, ⟨res.records, res.byStage, ?_⟩,
    breaker_latches hw full_crowded hrun⟩
  rw [inspectDlq, if_pos hlarge]
  exact List.mem_singleton_self _

/-- The drain of the one entry. -/
theorem exists_drain_sample : ∃ run res, run.result = .ok res ∧ checkDrain res = .ok res ∧
    Replay.drain dagArgs sampleDrainEnv (values sampleGivenUp.dlq) = .ok run := by
  have hpassed : ((Replay.drain dagArgs sampleDrainEnv (values sampleGivenUp.dlq)).bind fun run =>
      run.result.bind checkDrain).isOk = true := by decide +kernel
  obtain ⟨res, hres⟩ : ∃ res, (Replay.drain dagArgs sampleDrainEnv (values sampleGivenUp.dlq)).bind
      (fun run => run.result.bind checkDrain) = .ok res := by
    revert hpassed
    generalize (Replay.drain dagArgs sampleDrainEnv (values sampleGivenUp.dlq)).bind
      (fun run => run.result.bind checkDrain) = out
    intro hpassed
    cases out with
    | ok res => exact ⟨res, rfl⟩
    | error e => cases hpassed
  obtain ⟨run, hrun, hres⟩ := bind_eq_ok_iff.mp hres
  obtain ⟨res', hresult, hcheck⟩ := bind_eq_ok_iff.mp hres
  obtain rfl := eq_of_checkDrain hcheck
  exact ⟨run, res, hresult, hcheck, hrun⟩

/-- The general result at one trigger, one inspection and one drain that passes. -/
theorem drains_repeat_sample : ∃ w w' : Operations, w'.drains.countP (·.passed) = 1 ∧
    ∃ new, w'.drains = w.drains ++ new ∧
      ((∀ x ∈ new, Heard x.env dagArgs.maxReplays x.run.read) →
        copies fullText w.pipeline + new.countP (·.passed) ≤ copies fullText w'.pipeline) := by
  obtain ⟨run, res, hresult, hcheck, hdrain⟩ := exists_drain_sample
  have hpolls := healthyDrain_sample.polls
  obtain ⟨found, hfound⟩ := exists_inspect_of_legible (fun e he => (legible_sample e he).1)
    "trips.dlq" healthyDrain_sample.noError
  have hsome := refused_of_full full_sample hpolls hfound
  have hnone : found.records ≠ 0 := by omega
  have hentry : sampleGivenUp.OnDlq ((build sampleDeployment.codec "host" 0 fullText "timed out"
      stageProducer 5 none (some "trips.raw") none none 0).asdict) :=
    PipelineState.onDlq_quarantine.mpr (Or.inr (List.mem_singleton_self _))
  have hinspected : inspectDlq found.records found = (.ok found, []) := if_neg (lt_irrefl _)
  have hpassed : (drainDlq found run.result).1.isOk = true :=
    (drainDlq_isOk_iff hnone).mpr ⟨res, hresult, hcheck⟩
  have htrigger : DagStep sampleDeployment found.records PolledOut PolledOut sampleOperations _ :=
    .trigger _ rfl
  have hinspect : DagStep sampleDeployment found.records PolledOut PolledOut _ _ :=
    .inspect { sampleOperations with phase := .inspecting dagRetries } rfl hpolls hfound
  rw [hinspected] at hinspect
  have hdrained : DagStep sampleDeployment found.records PolledOut PolledOut
      { sampleOperations with phase := .draining found dagRetries }
      (({ sampleOperations with phase := .draining found dagRetries }.drained
        ⟨sampleGivenUp.dlq, sampleDrainEnv, run, (drainDlq found run.result).1.isOk⟩
        (run.produced.map fun p : Produced => ⟨some p.value, "trips.raw", 0, 0, 0⟩) []
        run.parkFile).attempt .reporting (drainDlq found run.result)) := by
    refine .drain _ rfl hnone rfl rfl hpolls hdrain ?_ ?_ (fun _ hr => hr) ?_
    · intro m hm
      obtain ⟨p, hp, rfl⟩ := List.mem_map.mp hm
      exact ⟨p, hp, rfl⟩
    · intro st hst
      cases hst
    · exact fun _ hok => ⟨hok, rfl, fun p hp _ => ⟨_, List.mem_map_of_mem hp, rfl⟩⟩
  have hrun := ((ReflTransGen.single htrigger).tail hinspect).tail hdrained
  refine ⟨_, _, ?_, drains_repeat hentry (legible_sample _ hentry).2 hrun⟩
  show [DagDrain.mk sampleGivenUp.dlq sampleDrainEnv run
    (drainDlq found run.result).1.isOk].countP (·.passed) = 1
  rw [hpassed]
  rfl

end TripPipeline.Flow
