import TripPipeline.Lib.Transition
import TripPipeline.Replay.Leftover
import TripPipeline.Streaming.Effects

/-!
# The running pipeline

All parties at once: producers publish to `trips.raw` and give events up to `trips.dlq`, the stream
job takes batches, fails and starts anew, and drains republish, write directly and park. The parties
share the two topics and the serving tables, and nothing else; any of them may take the next step.
A run begins when the stream job has its offsets: it starts at the latest ones, so what was on
`trips.raw` before is none of its messages. The topics lose nothing in a run: no retention sets in,
and none is purged.

* `PipelineState` has what outlives a step. `offered` is not data of the program: it remembers every
  text that came from outside.
* `Step`, one constructor for each thing that can happen. A batch takes any part of what is not
  committed. A batch that is cut short may leave any part of its effects (`Step.abort`); so may a
  drain, and it may have read the DLQ topic some time ago (`Step.drain`).
* `Step.grows`: no step takes anything back.

An executed statement is in `executed`, in the order of the table's writes; which of several writers
comes first is free.
-/

namespace TripPipeline.Flow

open Relation
open TripPipeline.Common TripPipeline.Lib
open TripPipeline.Streaming TripPipeline.Replay

/-! ## States -/

/-- What stays the same while the pipeline runs. -/
structure Deployment where
  conf : StreamConf
  spark : SparkSql
  codec : JsonCodec
  /-- `datetime.fromisoformat(text)`, `none` when it raises. -/
  fromIsoFormat : String → Option Datetime

/-- The topics, the stream job and the tables. -/
structure PipelineState where
  /-- Every text handed to the pipeline from outside. -/
  offered : List String
  /-- Everything ever published to `trips.raw`. -/
  raw : List KafkaMessage
  /-- What the stream job has not committed yet. -/
  pending : List KafkaMessage
  /-- `_max_event_ms`. -/
  mark : Option ℤ
  /-- The objects on `trips.dlq`. -/
  dlq : Topic Dict
  /-- The statements executed successfully, oldest first. -/
  executed : List Statement
  /-- The records written to park files. -/
  parked : List DlqRead

namespace PipelineState

/-- The stream job has claimed its offsets, and nothing has happened since. -/
def init : PipelineState := ⟨[], [], [], none, fun _ => [], [], []⟩

/-- Texts from outside. -/
def offer (s : PipelineState) (texts : List String) : PipelineState :=
  { s with offered := s.offered ++ texts }

/-- New messages in `trips.raw`. -/
def publish (s : PipelineState) (ms : List KafkaMessage) : PipelineState :=
  { s with raw := s.raw ++ ms, pending := s.pending ++ ms }

/-- New messages in `trips.dlq`, each with the partition it goes to. -/
def quarantine (s : PipelineState) (new : List (ℕ × Dict)) : PipelineState :=
  { s with dlq := fun p => s.dlq p ++ (new.filter fun e => e.1 = p).map Prod.snd }

/-- Statements executed successfully. -/
def execute (s : PipelineState) (stmts : List Statement) : PipelineState :=
  { s with executed := s.executed ++ stmts }

/-- Records written to park files. -/
def park (s : PipelineState) (records : List DlqRead) : PipelineState :=
  { s with parked := s.parked ++ records }

/-- The stream job's mark, and what it has not committed. -/
def advance (s : PipelineState) (mark : Option ℤ) (pending : List KafkaMessage) : PipelineState :=
  { s with mark := mark, pending := pending }

/-- The objects of a topic as a drain reads them. -/
def values (dlq : Topic Dict) : Topic DlqValue := fun p => (dlq p).map fun e => .json (.dict e)

variable {s : PipelineState} {new : List (ℕ × Dict)} {e : Dict}

/-- What stands on the DLQ topic after new messages. -/
theorem mem_quarantine {p : ℕ} :
    e ∈ (s.quarantine new).dlq p ↔ e ∈ s.dlq p ∨ (p, e) ∈ new := by
  rw [quarantine, List.mem_append, List.mem_map]
  refine or_congr_right ⟨?_, fun h => ⟨(p, e), List.mem_filter.mpr ⟨h, by simp⟩, rfl⟩⟩
  rintro ⟨⟨q, e'⟩, h, rfl⟩
  obtain ⟨hmem, hq⟩ := List.mem_filter.mp h
  obtain rfl : q = p := by simpa using hq
  exact hmem

/-- Some partition of the DLQ topic has the object. -/
def OnDlq (s : PipelineState) (e : Dict) : Prop := ∃ p, e ∈ s.dlq p

/-- On the DLQ topic is what was there and what was quarantined now. -/
theorem onDlq_quarantine : (s.quarantine new).OnDlq e ↔ s.OnDlq e ∨ e ∈ new.map Prod.snd := by
  simp only [OnDlq, mem_quarantine, exists_or, List.mem_map, Prod.exists, exists_eq_right]

end PipelineState

open PipelineState (values)

/-! ## Steps -/

/-- What can happen next. -/
inductive Step (d : Deployment) : PipelineState → PipelineState → Prop
  /-- A message is published to `trips.raw` from outside. -/
  | publish (s) (m : KafkaMessage) : Step d s ((s.offer m.value.toList).publish [m])
  /-- The producer gives an event up. -/
  | giveUp (s) (p : ℕ) (host payload reason : String) (now retryCount : ℤ)
      (topic : Option String) :
      Step d s ((s.offer [payload]).quarantine [(p, (build d.codec host now payload reason
        stageProducer retryCount none topic none none 0).asdict)])
  /-- The stream job starts anew. -/
  | restart (s) : Step d s (s.advance none s.pending)
  /-- A batch ends, and its offsets are committed. A task that Spark ran again may have published
  and executed more than the batch returned. -/
  | batch (s) {taken rest batch env out new executed} : s.pending.Perm (taken ++ rest) →
      batch.rows.Perm (taken.map (source d.spark)) →
      processBatch d.conf env s.mark batch = .ok out →
      (∀ m ∈ out.dlq, m.value ∈ new.map Prod.snd) →
      (∀ e ∈ new, Quarantines d.conf batch e.2) →
      (∀ st, Executed out st → st ∈ executed) →
      (∀ st ∈ executed, ∃ rows ∈ out.routes.good, Performs d.conf.sink rows st) →
      Step d s (((s.advance out.maxEventMs rest).quarantine new).execute executed)
  /-- The job dies before a batch is committed, with any part of the batch's effects. -/
  | abort (s) {taken rest batch new executed} : s.pending.Perm (taken ++ rest) →
      batch.rows.Perm (taken.map (source d.spark)) →
      (∀ e ∈ new, Quarantines d.conf batch e.2) →
      (∀ st ∈ executed, ∃ routes, route d.conf s.mark batch = .ok routes ∧
        ∃ rows ∈ routes.good, Performs d.conf.sink rows st) →
      Step d s (((s.advance none s.pending).quarantine new).execute executed)
  /-- A drain that has read the topic up to some point has any part of its effects. -/
  | drain (s) {seen args env run sent executed records} : (∀ p, seen p <+: s.dlq p) →
      env.codec = d.codec → env.fromIsoFormat = d.fromIsoFormat → args.dryRun = false →
      drain args env (values seen) = .ok run →
      (∀ m ∈ sent, ∃ p ∈ run.produced, m.value = some p.value) →
      (∀ st ∈ executed, ∃ turn ∈ run.direct, st ∈ turn.executed) →
      (∀ r ∈ records, r ∈ run.parkFile) →
      Step d s (((s.publish sent).execute executed).park records)

/-- The states of the pipeline. -/
abbrev Runs (d : Deployment) (s : PipelineState) : Prop := Reachable (· = .init) (Step d) s

/-! ## Nothing is taken back -/

/-- One state has all the other has. -/
structure Grows (s s' : PipelineState) : Prop where
  offered : ∀ text ∈ s.offered, text ∈ s'.offered
  raw : ∀ m ∈ s.raw, m ∈ s'.raw
  dlq : ∀ e, s.OnDlq e → s'.OnDlq e
  executed : s.executed <+: s'.executed

variable {d : Deployment} {s s' : PipelineState}

/-- Growing twice is growing. -/
theorem Grows.trans {s'' : PipelineState} (h : Grows s s') (h' : Grows s' s'') : Grows s s'' :=
  ⟨fun t ht => h'.offered t (h.offered t ht), fun m hm => h'.raw m (h.raw m hm),
    fun e he => h'.dlq e (h.dlq e he), h.executed.trans h'.executed⟩

/-- **No step takes anything back.** -/
theorem Step.grows (h : Step d s s') : Grows s s' := by
  have hoffer : ∀ (s : PipelineState) texts, Grows s (s.offer texts) := fun s texts =>
    ⟨fun _ ht => List.mem_append_left _ ht, fun _ hm => hm, fun _ he => he, List.prefix_rfl⟩
  have hpublish : ∀ (s : PipelineState) ms, Grows s (s.publish ms) := fun s ms =>
    ⟨fun _ ht => ht, fun _ hm => List.mem_append_left _ hm, fun _ he => he, List.prefix_rfl⟩
  have hquarantine : ∀ (s : PipelineState) new, Grows s (s.quarantine new) := fun s new =>
    ⟨fun _ ht => ht, fun _ hm => hm, fun _ he => PipelineState.onDlq_quarantine.mpr (Or.inl he),
      List.prefix_rfl⟩
  have hexecute : ∀ (s : PipelineState) stmts, Grows s (s.execute stmts) := fun s stmts =>
    ⟨fun _ ht => ht, fun _ hm => hm, fun _ he => he, List.prefix_append _ _⟩
  have hadvance : ∀ (s : PipelineState) mark pending, Grows s (s.advance mark pending) :=
    fun s mark pending => ⟨fun _ ht => ht, fun _ hm => hm, fun _ he => he, List.prefix_rfl⟩
  have hpark : ∀ (s : PipelineState) records, Grows s (s.park records) := fun s records =>
    ⟨fun _ ht => ht, fun _ hm => hm, fun _ he => he, List.prefix_rfl⟩
  cases h with
  | publish m => exact (hoffer s _).trans (hpublish _ _)
  | giveUp p host payload reason now retryCount topic => exact (hoffer s _).trans (hquarantine _ _)
  | restart => exact hadvance s _ _
  | batch _ _ _ _ _ _ _ => exact ((hadvance s _ _).trans (hquarantine _ _)).trans (hexecute _ _)
  | abort _ _ _ _ => exact ((hadvance s _ _).trans (hquarantine _ _)).trans (hexecute _ _)
  | drain _ _ _ _ _ _ _ _ => exact ((hpublish s _).trans (hexecute _ _)).trans (hpark _ _)

/-! ## Batches and drains as steps -/

/-- The statements the evaluations of a batch executed. -/
def executedBy (out : BatchRun) : List Statement :=
  out.blocks.flatMap fun b => b.evaluations.flatMap fun run =>
    (run.log.filter fun x => x.ok).map Execution.statement

/-- The statements of a batch are those its evaluations executed. -/
theorem mem_executedBy {out : BatchRun} {st : Statement} :
    st ∈ executedBy out ↔ Executed out st := by
  simp only [executedBy, Executed, List.mem_flatMap, List.mem_map, List.mem_filter, and_assoc]

/-- A batch that ends normally is a step: its messages go to one partition of the DLQ topic, its
statements to the tables. -/
theorem Step.of_batch {taken rest : List KafkaMessage} {batch : Frame} {env : BatchEnv}
    {out : BatchRun} (hperm : s.pending.Perm (taken ++ rest))
    (hrows : batch.rows.Perm (taken.map (source d.spark)))
    (hout : processBatch d.conf env s.mark batch = .ok out) :
    Step d s (((s.advance out.maxEventMs rest).quarantine
      (out.dlq.map fun m => (0, m.value))).execute (executedBy out)) := by
  refine .batch s hperm hrows hout ?_ ?_ (fun st hst => mem_executedBy.mpr hst) fun st hst => ?_
  · intro m hm
    rw [List.map_map]
    exact List.mem_map_of_mem hm
  · intro e he
    obtain ⟨m, hm, rfl⟩ := List.mem_map.mp he
    exact processBatch_quarantines hout m hm
  · exact (mem_executedBy.mp hst).performs hout

/-- The record has the fields of the object; two it gets from the reader. -/
def HasFields (r : DlqRead) (e : Dict) : Prop :=
  ∀ k, k ≠ "_partition" → k ≠ "_offset" → r.fields.lookup k = e.lookup k

/-- A record a drain reads is an object of the topic. -/
theorem read_of_values {dlq : Topic Dict} {polls : List Poll} {limit : ℤ} {recs : List DlqRead}
    (h : readAll (values dlq) polls limit = .ok recs) {r : DlqRead} (hr : r ∈ recs) :
    ∃ e, (dlq r.loc.partition)[r.loc.offset]? = some e ∧ HasFields r e := by
  obtain ⟨pos, hread⟩ := readAll_readUpTo h
  obtain ⟨v, hv, hdecode⟩ := hread.decoded r hr
  rw [values, List.getElem?_map] at hv
  obtain ⟨e, he, rfl⟩ := Option.map_eq_some_iff.mp hv
  refine ⟨e, he, ?_⟩
  intro k hpart hoff
  rw [← Except.ok.inj hdecode]
  rw [Dict.lookup_set, if_neg hoff, Dict.lookup_set, if_neg hpart]

/-- A poll of the whole topic reads every object. -/
theorem exists_read_of_polledOut {dlq : Topic Dict} {polls : List Poll} {recs : List DlqRead}
    (h : readAll (values dlq) polls 0 = .ok recs) (hpolls : PolledOut (values dlq) polls) {l : Loc}
    {e : Dict} (he : (dlq l.partition)[l.offset]? = some e) :
    ∃ r ∈ recs, r.loc = l ∧ HasFields r e := by
  have hlen : l.offset < (values dlq l.partition).length := by
    rw [values, List.length_map]
    exact (List.getElem?_eq_some_iff.mp he).1
  obtain ⟨r, hr, hloc⟩ := List.mem_map.mp (readAll_complete h hpolls l.partition l.offset hlen)
  obtain rfl : r.loc = l := hloc
  obtain ⟨e', hentry, hfields⟩ := read_of_values h hr
  obtain rfl := Option.some.inj (he.symm.trans hentry)
  exact ⟨r, hr, rfl, hfields⟩

/-! ## A run -/

/-- A deployment that knows one text. -/
def sampleDeployment : Deployment where
  conf := { dlqConf with sink := { sampleConf with tables := allTables } }
  spark := sampleSpark fullText fullEvent
  codec := sampleCodec fullText fullObject
  fromIsoFormat := sampleIso

/-- The message the sample run produces. -/
def sampleMessage : KafkaMessage := ⟨some fullText, "trips.raw", 0, 0, 0⟩

/-- The row of the message. -/
theorem source_sampleMessage : source sampleDeployment.spark sampleMessage =
    ⟨some fullText, "trips.raw", 0, 0, 0, false, { fullEvent with eventTime := some 0 }⟩ := by
  have hjson : (sampleSpark fullText fullEvent).fromJson fullText = some fullEvent := by
    simp only [sampleSpark, if_true]
  rw [source]
  simp only [sampleMessage, sampleDeployment, Option.bind_some, hjson]
  rfl

/-- A batch takes the message. -/
theorem exists_batch_sampleMessage : ∃ out, processBatch sampleDeployment.conf quietEnv none
    [[source sampleDeployment.spark sampleMessage]] = .ok out := by
  rw [source_sampleMessage]
  refine exists_processBatch rfl ?_ (fun _ => flakyEnv_listed) (fun _ => flakyEnv_listed)
    fun _ => flakyEnv_listed
  intro r hr
  obtain rfl := List.mem_singleton.mp hr
  decide

/-- The message is published, and a batch commits it. -/
theorem exists_run_sampleMessage : ∃ s, Runs sampleDeployment s ∧ s.raw = [sampleMessage] ∧
    s.pending = [] ∧ s.offered = [fullText] ∧ ∃ env out, processBatch sampleDeployment.conf env none
      [[source sampleDeployment.spark sampleMessage]] = .ok out ∧ s.executed = executedBy out := by
  obtain ⟨out, hout⟩ := exists_batch_sampleMessage
  have hpublish := Step.publish (d := sampleDeployment) .init sampleMessage
  have hperm : ((PipelineState.init.offer [fullText]).publish [sampleMessage]).pending.Perm
      ([sampleMessage] ++ []) := .refl _
  have hbatch := Step.of_batch (d := sampleDeployment) hperm (.refl _) hout
  have hstart : Runs sampleDeployment .init := .of_start rfl
  exact ⟨_, (hstart.tail hpublish).tail hbatch, rfl, rfl, rfl, quietEnv, out, hout, rfl⟩

end TripPipeline.Flow
