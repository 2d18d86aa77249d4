import TripPipeline.Replay.DirectWrite
import TripPipeline.Replay.Reading
import TripPipeline.Streaming.Envelopes

/-!
# The cycle of quarantine and re-injection

The whole loop: messages arrive in `trips.raw`, batches quarantine some of them in `trips.dlq`, and
drains put payloads back. `depth` and `parent` are not data of the program. `depth` counts, for a
message, the re-injections on the chain that led to it: a DLQ message has the depth of the message
it was made from, a re-injected message one more than the DLQ message it was read from. `parent` is
that DLQ message; a record that is made of a re-injected message keeps it.

The ceiling compares `replay_count` of the envelope. A drain republishes the payload only, and every
component that builds an envelope writes 0 (`CycleInv.zero`). So the ceiling parks everything, or
nothing.

* `reaches_inv`: in every run, the depth is bounded by the number of drains; and by 0 when
  `max_replays` is not positive. The records and their parents have the count 0.
* `exists_looping`: an event whose writes fail gets one deeper with every drain.
* `cycle_bounded_iff`: a run whose re-injections are bounded and whose counts rise is one in which
  no re-injected event is quarantined again. In all runs with `n` drains the re-injections are
  bounded by `max_replays` iff it is not positive or `n` does not exceed it.
-/

namespace TripPipeline.Replay

open TripPipeline.Common TripPipeline.Lib
open TripPipeline.Streaming

/-! ## The system -/

/-- A message of `trips.raw`. -/
structure RawMessage where
  message : KafkaMessage
  depth : ℕ
  /-- The DLQ record it was re-injected from. -/
  parent : Option Dict

/-- A message of `trips.dlq`. -/
structure DlqEntry where
  value : Dict
  depth : ℕ
  /-- The DLQ record that the message it was made of was re-injected from. -/
  parent : Option Dict

/-- What stays the same in a run. -/
structure System where
  conf : StreamConf
  spark : SparkSql
  codec : JsonCodec
  /-- `--max-replays`. -/
  maxReplays : ℤ

/-- The most re-injections that `n` drains make of one chain. -/
def System.deepest (sys : System) (n : ℕ) : ℕ := if sys.maxReplays ≤ 0 then 0 else n

/-- The two topics and the driver. -/
structure CycleState where
  /-- Everything ever published to `trips.raw`. -/
  raw : List RawMessage
  /-- What the stream has not committed yet. -/
  pending : List RawMessage
  /-- `_max_event_ms`. -/
  mark : Option ℤ
  dlq : Topic DlqEntry

namespace CycleState

/-- Both topics are empty, and the driver is new. -/
def init : CycleState := ⟨[], [], none, fun _ => []⟩

/-- New messages in `trips.raw`. -/
def publish (s : CycleState) (ms : List RawMessage) : CycleState :=
  { s with raw := s.raw ++ ms, pending := s.pending ++ ms }

/-- New messages in `trips.dlq`, each with the partition it goes to. -/
def quarantine (s : CycleState) (new : List (ℕ × DlqEntry)) : CycleState :=
  { s with dlq := fun p => s.dlq p ++ (new.filter fun e => e.1 = p).map Prod.snd }

/-- The topic as a drain reads it. -/
def values (s : CycleState) : Topic DlqValue :=
  fun p => (s.dlq p).map fun e => .json (.dict e.value)

/-- No event has been re-injected more often than the ceiling says. -/
def Bounded (maxReplays : ℤ) (s : CycleState) : Prop := ∀ m ∈ s.raw, m.depth ≤ maxReplays.toNat

/-- The record of a re-injected event that has failed again carries a greater `replay_count` than
the record it was re-injected from. -/
def Rises (s : CycleState) : Prop :=
  ∀ p, ∀ e ∈ s.dlq p, ∀ parent, e.parent = some parent →
    ∃ a b : ℤ, parent.lookup "replay_count" = some (.int a) ∧
      e.value.lookup "replay_count" = some (.int b) ∧ a < b

end CycleState

/-- The DLQ message continues the chain of one of the messages of a batch: it carries its text. -/
def Carries (taken : List RawMessage) (e : DlqEntry) : Prop :=
  ∃ m ∈ taken, e.depth = m.depth ∧ e.parent = m.parent ∧ ∀ text, m.message.value = some text →
    text ≠ "" → e.value.lookup "original_payload" = some (.str text)

/-- The message is the re-injected one. -/
def Republishes (s : CycleState) (p : Produced) (m : RawMessage) : Prop :=
  m.message.value = some p.value ∧ ∃ e, (s.dlq p.loc.partition)[p.loc.offset]? = some e ∧
    m.depth = e.depth + 1 ∧ m.parent = some e.value

/-- The runs of the system, with the number of drains. -/
inductive Reaches (sys : System) : ℕ → CycleState → Prop
  | start : Reaches sys 0 .init
  /-- The producer publishes an event. -/
  | produce {n s} (m : KafkaMessage) : Reaches sys n s → Reaches sys n (s.publish [⟨m, 0, none⟩])
  /-- The producer gives an event up. -/
  | giveUp {n s} (p : ℕ) (host payload reason : String) (now retryCount : ℤ)
      (topic : Option String) : Reaches sys n s →
      Reaches sys n (s.quarantine [(p, ⟨(build sys.codec host now payload reason stageProducer
        retryCount none topic none none 0).asdict, 0, none⟩)])
  /-- The stream job starts anew. -/
  | restart {n s} : Reaches sys n s → Reaches sys n { s with mark := none }
  /-- A batch ends, and its offsets are committed. -/
  | batch {n s taken rest batch env out new} : Reaches sys n s → s.pending.Perm (taken ++ rest) →
      batch.rows.Perm (taken.map fun m => source sys.spark m.message) →
      processBatch sys.conf env s.mark batch = .ok out →
      new.map (fun e => e.2.value) = out.dlq.map DlqMessage.value →
      (∀ e ∈ new, Carries taken e.2) →
      Reaches sys n ({ s with mark := out.maxEventMs, pending := rest }.quarantine new)
  /-- The job dies before a batch is committed, with a part of its DLQ messages written. -/
  | abort {n s taken rest batch env routes new} : Reaches sys n s →
      s.pending.Perm (taken ++ rest) →
      batch.rows.Perm (taken.map fun m => source sys.spark m.message) →
      route sys.conf s.mark batch = .ok routes →
      (new.map fun e => e.2.value).Sublist ((routes.messages env).map DlqMessage.value) ∨
        (∃ out, processBatch sys.conf env s.mark batch = .ok out ∧
          (new.map fun e => e.2.value).Sublist (out.dlq.map DlqMessage.value)) →
      (∀ e ∈ new, Carries taken e.2) →
      Reaches sys n ({ s with mark := none }.quarantine new)
  /-- A drain. What is acknowledged is published; what is not may be. -/
  | drain {n s args env run handed sent} : Reaches sys n s → args.maxReplays = sys.maxReplays →
      args.dryRun = false → env.codec = sys.codec → drain args env s.values = .ok run →
      (run.produced.filter fun p => p.delivery = .acked).Sublist handed →
      handed.Sublist run.produced → List.Forall₂ (Republishes s) handed sent →
      Reaches sys (n + 1) (s.publish sent)

/-! ## What a drain reads of the envelopes -/

section envelopes

variable {args : DrainArgs} {env : DrainEnv} {s : CycleState} {run : DrainRun}

/-- A record read is a DLQ message, and has its fields. -/
theorem read_entry {polls : List Poll} {limit : ℤ} {recs : List DlqRead}
    (h : readAll s.values polls limit = .ok recs) {r : DlqRead} (hr : r ∈ recs) :
    ∃ e, (s.dlq r.loc.partition)[r.loc.offset]? = some e ∧
      ∀ k, k ≠ "_partition" → k ≠ "_offset" → r.fields.lookup k = e.value.lookup k := by
  obtain ⟨pos, hread⟩ := readAll_readUpTo h
  obtain ⟨v, hv, hdecode⟩ := hread.decoded r hr
  rw [CycleState.values, List.getElem?_map] at hv
  obtain ⟨e, he, rfl⟩ := Option.map_eq_some_iff.mp hv
  refine ⟨e, he, ?_⟩
  intro k hpart hoff
  rw [← Except.ok.inj hdecode]
  rw [Dict.lookup_set, if_neg hoff, Dict.lookup_set, if_neg hpart]

/-- A message handed to the client was read from an entry. -/
theorem DrainedFrom.entry_of_produced (h : Drained args env s.values run) {p : Produced}
    (hp : p ∈ run.produced) : ∃ e, (s.dlq p.loc.partition)[p.loc.offset]? = some e := by
  rw [h.produced] at hp
  obtain ⟨r, hr, hone⟩ := mem_reinjectAll.mp hp
  rw [routeRecords_reinject h.routed] at hr
  obtain ⟨e, he, -⟩ := read_entry h.reads (List.mem_of_mem_filter hr)
  exact ⟨e, (reinjectOne_ok hone).1 ▸ he⟩

/-- A record that was never replayed is parked by a ceiling that is not positive. -/
theorem classify_of_replayed {maxReplays : ℤ} {r : DlqRead} (hmax : maxReplays ≤ 0)
    (hr : r.fields.lookup "replay_count" = some (.int 0)) :
    classify env maxReplays r = .ok (.park ("replay_count >= " ++ toString maxReplays)) := by
  unfold classify getOr
  rw [hr]
  simp only [Option.getD_some, pyInt, bind, Except.bind, hmax, if_true]

/-- With a ceiling that is not positive, a drain re-injects nothing. -/
theorem DrainedFrom.produced_nil (h : Drained args env s.values run) (hmax : args.maxReplays ≤ 0)
    (hzero : ∀ p, ∀ e ∈ s.dlq p, e.value.lookup "replay_count" = some (.int 0)) :
    run.produced = [] := by
  have hnone : run.lists.reinject = [] := by
    rw [routeRecords_reinject h.routed, List.filter_eq_nil_iff]
    intro r hr
    obtain ⟨e, he, hfields⟩ := read_entry h.reads hr
    have hcount : r.fields.lookup "replay_count" = some (.int 0) := by
      rw [hfields _ (by decide) (by decide)]
      exact hzero _ e (List.mem_of_getElem? he)
    rw [classify_of_replayed hmax hcount]
    simp [Except.toOption]
  rw [h.produced, hnone]
  rfl

end envelopes

/-! ## The invariant -/

/-- A chain begins without a parent; the parents on it have the count 0. -/
def Linked (depth : ℕ) : Option Dict → Prop
  | none => depth = 0
  | some parent => 0 < depth ∧ parent.lookup "replay_count" = some (.int 0)

/-- What holds after `n` drains. -/
structure CycleInv (sys : System) (n : ℕ) (s : CycleState) : Prop where
  raw : ∀ m ∈ s.raw, m.depth ≤ sys.deepest n ∧ Linked m.depth m.parent
  pending : ∀ m ∈ s.pending, m ∈ s.raw
  dlq : ∀ p, ∀ e ∈ s.dlq p, e.depth ≤ sys.deepest n ∧ Linked e.depth e.parent
  /-- No envelope remembers a replay. -/
  zero : ∀ p, ∀ e ∈ s.dlq p, e.value.lookup "replay_count" = some (.int 0)

section invariant

variable {sys : System} {n : ℕ} {s : CycleState}

/-- More drains, deeper chains. -/
theorem System.deepest_mono (sys : System) (n : ℕ) : sys.deepest n ≤ sys.deepest (n + 1) := by
  unfold System.deepest
  split_ifs
  · exact le_rfl
  · exact Nat.le_succ n

/-- New messages in `trips.raw` keep the invariant when they meet it. -/
theorem CycleInv.publish (h : CycleInv sys n s) {ms : List RawMessage}
    (hms : ∀ m ∈ ms, m.depth ≤ sys.deepest n ∧ Linked m.depth m.parent) :
    CycleInv sys n (s.publish ms) := by
  refine ⟨?_, ?_, h.dlq, h.zero⟩
  · intro m hm
    exact (List.mem_append.mp hm).elim (h.raw m) (hms m)
  · intro m hm
    refine List.mem_append.mpr ((List.mem_append.mp hm).imp ?_ id)
    exact h.pending m

/-- And so do new messages in `trips.dlq`. -/
theorem CycleInv.quarantine (h : CycleInv sys n s) {new : List (ℕ × DlqEntry)}
    (hnew : ∀ e ∈ new, (e.2.depth ≤ sys.deepest n ∧ Linked e.2.depth e.2.parent) ∧
      e.2.value.lookup "replay_count" = some (.int 0)) :
    CycleInv sys n (s.quarantine new) := by
  have hmem : ∀ p, ∀ e ∈ (s.quarantine new).dlq p, e ∈ s.dlq p ∨ ∃ q ∈ new, q.2 = e := by
    intro p e he
    refine (List.mem_append.mp he).imp_right ?_
    intro he
    obtain ⟨q, hq, rfl⟩ := List.mem_map.mp he
    exact ⟨q, List.mem_of_mem_filter hq, rfl⟩
  refine ⟨h.raw, h.pending, ?_, ?_⟩
  · intro p e he
    rcases hmem p e he with hold | ⟨q, hq, rfl⟩
    · exact h.dlq p e hold
    · exact (hnew q hq).1
  · intro p e he
    rcases hmem p e he with hold | ⟨q, hq, rfl⟩
    · exact h.zero p e hold
    · exact (hnew q hq).2

/-- The invariant does not depend on the mark, nor on what has been committed. -/
theorem CycleInv.pending_subset (h : CycleInv sys n s) {mark : Option ℤ} {left : List RawMessage}
    (hleft : ∀ m ∈ left, m ∈ s.pending) :
    CycleInv sys n { s with mark := mark, pending := left } :=
  ⟨h.raw, fun m hm => h.pending m (hleft m hm), h.dlq, h.zero⟩

/-- A bound that held with fewer drains holds with more. -/
theorem CycleInv.mono (h : CycleInv sys n s) : CycleInv sys (n + 1) s :=
  ⟨fun m hm => (h.raw m hm).imp_left fun hle => hle.trans (sys.deepest_mono n), h.pending,
    fun p e he => (h.dlq p e he).imp_left fun hle => hle.trans (sys.deepest_mono n), h.zero⟩

/-- Messages made from a batch are not deeper than its messages, and remember no replay. -/
theorem CycleInv.carried (h : CycleInv sys n s) {taken rest : List RawMessage}
    (hperm : s.pending.Perm (taken ++ rest)) {new : List (ℕ × DlqEntry)} {msgs : List DlqMessage}
    (hcarries : ∀ e ∈ new, Carries taken e.2)
    (hvalues : ∀ v ∈ new.map (fun e => e.2.value), v ∈ msgs.map DlqMessage.value)
    (henvelope : ∀ m ∈ msgs, ∃ r, Envelope r m.value) :
    ∀ e ∈ new, (e.2.depth ≤ sys.deepest n ∧ Linked e.2.depth e.2.parent) ∧
      e.2.value.lookup "replay_count" = some (.int 0) := by
  intro e he
  constructor
  · obtain ⟨m, hm, hdepth, hparent, -⟩ := hcarries e he
    rw [hdepth, hparent]
    exact h.raw m (h.pending m (hperm.mem_iff.mpr (List.mem_append_left _ hm)))
  · obtain ⟨msg, hmsg, hvalue⟩ := List.mem_map.mp (hvalues _ (List.mem_map_of_mem he))
    obtain ⟨r, hr⟩ := henvelope msg hmsg
    rw [← hvalue]
    exact hr.replayCount

/-- A re-injected message: one deeper than the record it was read from, which is its parent. -/
theorem CycleInv.republished (h : CycleInv sys n s) (hmax : ¬sys.maxReplays ≤ 0) {p : Produced}
    {m : RawMessage} (hm : Republishes s p m) :
    m.depth ≤ sys.deepest (n + 1) ∧ Linked m.depth m.parent := by
  obtain ⟨-, e, he, hdepth, hparent⟩ := hm
  have hmem := List.mem_of_getElem? he
  have hle := (h.dlq _ e hmem).1
  unfold System.deepest at hle ⊢
  rw [if_neg hmax] at hle ⊢
  rw [hdepth, hparent]
  exact ⟨Nat.succ_le_succ hle, Nat.succ_pos _, h.zero _ e hmem⟩

/-- Empty topics hold nothing that is too deep. -/
theorem CycleInv.init : CycleInv sys 0 .init := by
  refine ⟨?_, ?_, ?_, ?_⟩
  · intro m hm
    cases hm
  · intro m hm
    cases hm
  · intro p e he
    cases he
  · intro p e he
    cases he

/-- **The invariant of the cycle**, by induction on the run. -/
theorem reaches_inv (h : Reaches sys n s) : CycleInv sys n s := by
  induction h with
  | start => exact .init
  | produce m _ ih =>
      apply ih.publish
      intro m' hm'
      obtain rfl := List.mem_singleton.mp hm'
      exact ⟨Nat.zero_le _, rfl⟩
  | giveUp p host payload reason now retryCount topic _ ih =>
      apply ih.quarantine
      intro e he
      obtain rfl := List.mem_singleton.mp he
      exact ⟨⟨Nat.zero_le _, rfl⟩, rfl⟩
  | restart _ ih => exact ih.pending_subset fun m hm => hm
  | batch _ hperm _ hout hvalues hcarries ih =>
      apply CycleInv.quarantine
      · apply ih.pending_subset
        intro m hm
        exact hperm.mem_iff.mpr (List.mem_append_right _ hm)
      · refine ih.carried hperm hcarries (fun v hv => hvalues ▸ hv) fun m hm => ?_
        obtain ⟨r, -, hr⟩ := processBatch_envelope hout m hm
        exact ⟨r, hr⟩
  | abort _ hperm _ hroute hwritten hcarries ih =>
      apply CycleInv.quarantine
      · exact ih.pending_subset fun m hm => hm
      · rcases hwritten with hsub | ⟨out, hout, hsub⟩
        · refine ih.carried hperm hcarries (fun v hv => hsub.subset hv) fun m hm => ?_
          obtain ⟨r, -, hr⟩ := messages_envelope hroute hm
          exact ⟨r, hr⟩
        · refine ih.carried hperm hcarries (fun v hv => hsub.subset hv) fun m hm => ?_
          obtain ⟨r, -, hr⟩ := processBatch_envelope hout m hm
          exact ⟨r, hr⟩
  | drain _ hmax hdry _ hrun _ hsub hsent ih =>
      have hdrained := drain_drained hrun hdry
      apply ih.mono.publish
      intro m hm
      obtain ⟨p, hp, hrepublishes⟩ := exists_of_mem_right hsent hm
      by_cases hceiling : sys.maxReplays ≤ 0
      · -- every record was parked
        have hnone := hdrained.produced_nil (hmax.trans_le hceiling) ih.zero
        rw [hnone] at hsub
        rw [List.sublist_nil.mp hsub] at hp
        cases hp
      · exact ih.republished hceiling hrepublishes

/-- **No record rises over its parent**: both have the count 0. -/
theorem CycleInv.rises_iff (h : CycleInv sys n s) :
    s.Rises ↔ ∀ p, ∀ e ∈ s.dlq p, e.depth = 0 := by
  refine forall_congr' fun p => forall₂_congr fun e he => ?_
  have hlinked := (h.dlq p e he).2
  rcases hparent : e.parent with _ | parent
  · rw [hparent] at hlinked
    exact iff_of_true (fun _ hnone => by cases hnone) hlinked
  · rw [hparent] at hlinked
    obtain ⟨hdepth, hcount⟩ := hlinked
    refine iff_of_false (fun hrises => ?_) hdepth.ne'
    obtain ⟨a, b, ha, hb, hlt⟩ := hrises parent rfl
    obtain rfl := PyVal.int.inj (Option.some.inj (hcount.symm.trans ha))
    obtain rfl := PyVal.int.inj (Option.some.inj ((h.zero p e he).symm.trans hb))
    exact absurd hlt (lt_irrefl 0)

end invariant

/-! ## An event whose writes fail -/

/-- The text is an event that the streaming path builds statements for and a drain can re-inject. -/
structure System.Accepts (sys : System) (text : String) : Prop where
  nonempty : text ≠ ""
  loads : ∃ kvs tripId, sys.codec.loads text = some (.dict kvs) ∧
    Dict.get kvs "trip_id" = .str tripId ∧ tripId ≠ ""
  built : ∀ m : KafkaMessage, m.value = some text → ∃ st stmts,
    buildStatements (source sys.spark m).asDict sys.conf.sink.tables 0 = .ok (st :: stmts)
  inRange : ∀ m : KafkaMessage, m.value = some text → m.timestamp = 0 →
    toPython (source sys.spark m) = .ok ()

/-- Every execution times out. -/
def failingSink (codec : JsonCodec) : SinkEnv where
  outcome _ _ _ := .error ⟨"WriteTimeout", "timed out", [.writeTimeout]⟩
  ingestedAtMs _ := 0
  nowMs _ := 0
  sampled _ := false
  draw _ _ _ := 0
  codec := codec
  host := "worker"

/-- A batch in which every execution times out. -/
def failingBatch (codec : JsonCodec) : BatchEnv where
  unixTimestamp := 0
  isoformat _ := ""
  collectStats _ := ⟨false, [], failingSink codec⟩
  countDlq _ := ⟨false, [], failingSink codec⟩
  saveDlq _ := ⟨false, [], failingSink codec⟩

/-- The failing sink raises what the sink gives up on. -/
theorem failingSink_listed (codec : JsonCodec) : (failingSink codec).Listed := by
  intro row t n e he
  obtain rfl := Except.error.inj he
  exact Or.inl rfl

/-- A drain that delivers `count` messages of partition 0, and meets no trouble. -/
def smoothEnv (codec : JsonCodec) (count : ℕ) : DrainEnv where
  codec := codec
  intOfText _ := none
  repr _ := ""
  fromIsoFormat _ := none
  polls := List.replicate count (.message 0)
  produce _ := .ok ()
  delivery _ := .acked
  connect := .ok ()
  nowMs := 0
  execute _ _ := .ok ()
  openPark := .ok ()

/-- Messages that all carry the text, one of them with depth `k`. -/
structure Waiting (text : String) (k : ℕ) (pending : List RawMessage) : Prop where
  text : ∀ m ∈ pending, m.message.value = some text ∧ m.message.timestamp = 0
  deep : ∃ m ∈ pending, m.depth = k

/-- The DLQ message carries the text, and a drain can classify it. -/
structure Replayable (text : String) (value : Dict) : Prop where
  zero : value.lookup "replay_count" = some (.int 0)
  stage : ∃ stage, value.lookup "failure_stage" = some (.str stage)
  payload : value.lookup "original_payload" = some (.str text)

/-- The whole DLQ is in partition 0. -/
structure OneShelf (text : String) (s : CycleState) : Prop where
  empty : ∀ p, p ≠ 0 → s.dlq p = []
  entries : ∀ e ∈ s.dlq 0, Replayable text e.value

section looping

variable {sys : System} {text : String}

/-- Statements that can be built at one time can be built at any. -/
theorem System.Accepts.built_at (h : sys.Accepts text) {m : KafkaMessage} (hm : m.value = some text)
    (ingestedAtMs : ℤ) : ∃ st stmts,
      buildStatements (source sys.spark m).asDict sys.conf.sink.tables ingestedAtMs =
        .ok (st :: stmts) := by
  obtain ⟨st, stmts, hst⟩ := h.built m hm
  have htime := buildStatements_time (source sys.spark m).asDict sys.conf.sink.tables ingestedAtMs 0
  rw [hst] at htime
  rcases hout : buildStatements (source sys.spark m).asDict sys.conf.sink.tables ingestedAtMs with
    e | out
  · rw [hout] at htime
    cases htime
  · rw [hout] at htime
    rcases out with _ | ⟨st', stmts'⟩
    · cases Except.ok.inj htime
    · exact ⟨st', stmts', rfl⟩

/-- A row whose statements can be built is not flagged. -/
theorem System.Accepts.parseable (h : sys.Accepts text) {m : KafkaMessage}
    (hm : m.value = some text) : (source sys.spark m).unparseable = false := by
  obtain ⟨st, stmts, hst⟩ := h.built m hm
  obtain ⟨hvalid, -⟩ := (buildStatements_ok_iff _ _ _ _).mp hst
  have hid := hvalid.required "event_id" (by decide)
  rcases hparsed : sys.spark.fromJson text with _ | e
  · simp [source, hm, hparsed, StreamRow.asDict, Dict.get, Event.nulls, Dict.lookup_cons_ite,
      PyVal.isMissing] at hid
  · rcases hevent : e.eventId with _ | eventId
    · simp [source, hm, hparsed, hevent, StreamRow.asDict, Dict.get, Dict.lookup_cons_ite,
        PyVal.isMissing] at hid
    · simp [source, hm, hparsed, hevent]

/-- The messages of a batch, all put into partition 0. -/
def shelve (k : ℕ) (parent : Option Dict) (msgs : List DlqMessage) : List (ℕ × DlqEntry) :=
  msgs.map fun m => (0, ⟨m.value, k, parent⟩)

/-- Partition 0 takes them all. -/
theorem quarantine_shelve_zero (s : CycleState) (k : ℕ) (parent : Option Dict)
    (msgs : List DlqMessage) : (s.quarantine (shelve k parent msgs)).dlq 0 =
      s.dlq 0 ++ msgs.map fun m => ⟨m.value, k, parent⟩ := by
  have hall : (shelve k parent msgs).filter (fun e => e.1 = 0) = shelve k parent msgs := by
    rw [List.filter_eq_self]
    intro e he
    obtain ⟨m, -, rfl⟩ := List.mem_map.mp he
    rfl
  show s.dlq 0 ++ _ = _
  rw [hall, shelve, List.map_map]
  rfl

/-- And the others none. -/
theorem quarantine_shelve_of_ne (s : CycleState) (k : ℕ) (parent : Option Dict)
    (msgs : List DlqMessage) {p : ℕ} (hp : p ≠ 0) :
    (s.quarantine (shelve k parent msgs)).dlq p = s.dlq p := by
  have hnone : (shelve k parent msgs).filter (fun e => e.1 = p) = [] := by
    rw [List.filter_eq_nil_iff]
    intro e he
    obtain ⟨m, -, rfl⟩ := List.mem_map.mp he
    simpa using Ne.symm hp
  show s.dlq p ++ _ = _
  rw [hnone]
  exact List.append_nil _

/-- What a batch of waiting messages, all of whose writes fail, leaves on the DLQ: records of the
text that a drain can replay, one of them by the sink. -/
theorem waiting_batch (haccepts : sys.Accepts text) {k : ℕ} {waiting : List RawMessage}
    (hwait : Waiting text k waiting) :
    ∃ out, processBatch sys.conf (failingBatch sys.codec) none
        [waiting.map fun m => source sys.spark m.message] = .ok out ∧
      (∀ m ∈ out.dlq, Replayable text m.value) ∧
      ∃ failed ∈ out.dlq, failed.value.lookup "failure_stage" = some (.str stageCassandraSink) := by
  obtain ⟨deep, hdeep, -⟩ := hwait.deep
  let batch : Frame := [waiting.map fun m => source sys.spark m.message]
  have hbatch : batch.rows = waiting.map fun m => source sys.spark m.message :=
    List.flatten_singleton
  have hrow : ∀ r ∈ batch.rows, ∃ m ∈ waiting, source sys.spark m.message = r := by
    intro r hr
    rw [hbatch] at hr
    exact List.mem_map.mp hr
  have hroute : route sys.conf none batch =
      .ok ⟨batch.where3 isUnparseable, [], none, [], parseable batch⟩ := rfl
  have hrange : ∀ r ∈ (parseable batch).rows, toPython r = .ok () := by
    intro r hr
    obtain ⟨m, hm, rfl⟩ := hrow r (where3_subset hr)
    exact haccepts.inRange m.message (hwait.text m hm).1 (hwait.text m hm).2
  obtain ⟨out, hout⟩ : ∃ out, processBatch sys.conf (failingBatch sys.codec) none batch = .ok out :=
    exists_processBatch hroute hrange (fun _ => failingSink_listed _)
      (fun _ => failingSink_listed _) (fun _ => failingSink_listed _)
  have hmem : source sys.spark deep.message ∈ batch.rows := by
    rw [hbatch]
    exact List.mem_map_of_mem hdeep
  have hrows : batch.count ≠ 0 := Nat.ne_of_gt (List.length_pos_of_mem hmem)
  have hroutes := Except.ok.inj ((processBatch_completed hout hrows).routed.symm.trans hroute)
  have htext := (hwait.text deep hdeep).1
  have hgood : source sys.spark deep.message ∈ out.routes.good.rows := by
    rw [hroutes]
    exact mem_parseable.mpr ⟨hmem, haccepts.parseable htext⟩
  refine ⟨out, hout, ?_, ?_⟩
  · intro m hm
    obtain ⟨r, hr, henv⟩ := processBatch_envelope hout m hm
    obtain ⟨m', hm', rfl⟩ := hrow r hr
    exact ⟨henv.replayCount, henv.stage,
      henv.payload text (hwait.text m' hm').1 haccepts.nonempty⟩
  · -- the deep message leaves a record of the sink
    exact processBatch_failing hout (fun _ _ _ _ => rfl) (fun _ _ _ _ => rfl)
      (fun _ _ _ _ => rfl) hgood (haccepts.built_at htext)

/-- **A batch quarantines a waiting event**, at the depth it has. -/
theorem looping_batch (haccepts : sys.Accepts text) {n k : ℕ} {s : CycleState}
    (hreach : Reaches sys n s) (hwait : Waiting text k s.pending) (hshelf : OneShelf text s) :
    ∃ s', Reaches sys n s' ∧ s'.pending = [] ∧ OneShelf text s' ∧
      ∃ e ∈ s'.dlq 0, e.depth = k ∧
        e.value.lookup "failure_stage" = some (.str stageCassandraSink) := by
  obtain ⟨deep, hdeep, hdepth⟩ := hwait.deep
  obtain ⟨out, hout, hreplayable, failed, hfailed, hstage⟩ := waiting_batch haccepts hwait
  have hcarries : ∀ e ∈ shelve k deep.parent out.dlq, Carries s.pending e.2 := by
    intro e he
    obtain ⟨m, hm, rfl⟩ := List.mem_map.mp he
    refine ⟨deep, hdeep, hdepth.symm, rfl, ?_⟩
    intro text' htext' _
    obtain rfl := Option.some.inj ((hwait.text deep hdeep).1.symm.trans htext')
    exact (hreplayable m hm).payload
  have hvalues : (shelve k deep.parent out.dlq).map (fun e => e.2.value) =
      out.dlq.map DlqMessage.value := by
    rw [shelve, List.map_map]
    rfl
  have htaken : s.pending.Perm (s.pending ++ []) := by
    rw [List.append_nil]
  refine ⟨_, Reaches.batch hreach.restart htaken (List.Perm.of_eq List.flatten_singleton) hout
    hvalues hcarries, rfl, ⟨?_, ?_⟩, ⟨failed.value, k, deep.parent⟩, ?_, rfl, hstage⟩
  · intro p hp
    rw [quarantine_shelve_of_ne _ _ _ _ hp]
    exact hshelf.empty p hp
  · intro e he
    rw [quarantine_shelve_zero] at he
    rcases List.mem_append.mp he with hold | hnew
    · exact hshelf.entries e hold
    · obtain ⟨m, hm, rfl⟩ := List.mem_map.mp hnew
      exact hreplayable m hm
  · rw [quarantine_shelve_zero]
    exact List.mem_append_right _
      (List.mem_map_of_mem (f := fun m => DlqEntry.mk m.value k deep.parent) hfailed)

/-- A drain classifies what stands on the shelf. -/
theorem classify_replayable {env : DrainEnv} {maxReplays : ℤ} (hmax : 0 < maxReplays)
    {r : DlqRead} {stage : String} (hzero : r.fields.lookup "replay_count" = some (.int 0))
    (hstage : r.fields.lookup "failure_stage" = some (.str stage)) :
    (∃ a, classify env maxReplays r = .ok a) ∧
      (stage = stageCassandraSink → classify env maxReplays r = .ok .reinject) := by
  rw [classify_eq hzero hstage, if_neg (not_le.mpr hmax)]
  refine ⟨⟨_, rfl⟩, ?_⟩
  rintro rfl
  rfl

/-- What a drain reads from the shelf can be classified. -/
theorem OneShelf.read {s : CycleState} (hshelf : OneShelf text s) {polls : List Poll} {limit : ℤ}
    {recs : List DlqRead} (h : readAll s.values polls limit = .ok recs) {r : DlqRead}
    (hr : r ∈ recs) :
    ∃ e, (s.dlq r.loc.partition)[r.loc.offset]? = some e ∧ Replayable text e.value ∧
      ∀ k, k ≠ "_partition" → k ≠ "_offset" → r.fields.lookup k = e.value.lookup k := by
  obtain ⟨e, he, hlookup⟩ := read_entry h hr
  refine ⟨e, he, ?_, hlookup⟩
  have hmem := List.mem_of_getElem? he
  by_cases hp : r.loc.partition = 0
  · rw [hp] at hmem
    exact hshelf.entries e hmem
  · rw [hshelf.empty _ hp] at hmem
    cases hmem

/-- A drain that polls the shelf to its end. -/
theorem OneShelf.polledOut {s : CycleState} (hshelf : OneShelf text s) (codec : JsonCodec) :
    PolledOut s.values (smoothEnv codec (s.dlq 0).length).polls := by
  intro p
  have hloud : (smoothEnv codec (s.dlq 0).length).polls.takeWhile (fun poll => !poll.quiet) =
      (smoothEnv codec (s.dlq 0).length).polls := List.takeWhile_replicate ..
  rw [hloud, CycleState.values, List.length_map]
  by_cases hp : p = 0
  · subst hp
    exact (List.countP_replicate ..).symm ▸ le_of_eq rfl
  · rw [hshelf.empty p hp]
    exact Nat.zero_le _

/-- Such a drain ends normally. -/
theorem OneShelf.exists_drain {s : CycleState} (hshelf : OneShelf text s) {maxReplays : ℤ}
    (hmax : 0 < maxReplays) (codec : JsonCodec) : ∃ run,
      drain ⟨0, maxReplays, false⟩ (smoothEnv codec (s.dlq 0).length) s.values = .ok run := by
  generalize henv : smoothEnv codec (s.dlq 0).length = env
  obtain ⟨recs, hrecs⟩ : ∃ recs, readAll s.values env.polls 0 = .ok recs := by
    apply exists_readLoop
    · intro p v hv l
      obtain ⟨e, -, rfl⟩ := List.mem_map.mp hv
      exact ⟨_, rfl⟩
    · intro e he
      rw [← henv] at he
      cases List.eq_of_mem_replicate he
  obtain ⟨lists, hlists⟩ : ∃ lists, routeRecords env maxReplays recs = .ok lists := by
    apply exists_routeRecords
    intro r hr
    obtain ⟨e, -, hgood, hlookup⟩ := hshelf.read hrecs hr
    obtain ⟨stage, hstage⟩ := hgood.stage
    exact (classify_replayable hmax ((hlookup _ (by decide) (by decide)).trans hgood.zero)
      ((hlookup _ (by decide) (by decide)).trans hstage)).1
  unfold drain drainFrom
  simp only [bind, Except.bind, hrecs, hlists, Bool.false_eq_true, if_false]
  split_ifs
  · exact ⟨_, rfl⟩
  · exact ⟨_, rfl⟩

/-- A record with the text of an accepted event is handed to the client. -/
theorem System.Accepts.reinjectOne (haccepts : sys.Accepts text) (count : ℕ) {r : DlqRead}
    (hr : r.fields.lookup "original_payload" = some (.str text)) :
    ∃ key, reinjectOne (smoothEnv sys.codec count) r = .ok ⟨r.loc, key, text, .acked⟩ := by
  obtain ⟨kvs, tripId, hloads, htrip, hne⟩ := haccepts.loads
  refine ⟨tripId, ?_⟩
  have hitem : Dict.item r.fields "original_payload" = .ok (.str text) := by
    rw [Dict.item, hr]
  have hjson : jsonLoads (smoothEnv sys.codec count).codec (.str text) = .ok (.dict kvs) := by
    unfold jsonLoads smoothEnv
    dsimp only
    rw [hloads]
  have hkey : (PyVal.str tripId).orElse ((Dict.get r.fields "event_id").orElse (.str "unknown")) =
      .str tripId := if_pos (by simpa [PyVal.truthy] using hne)
  unfold Replay.reinjectOne
  simp only [hitem, hjson, pyGet, htrip, hkey, bind, Except.bind]
  rfl

/-- A drain of the shelf hands over the text only. -/
theorem OneShelf.produced_value {s : CycleState} (hshelf : OneShelf text s) {args : DrainArgs}
    {env : DrainEnv} {run : DrainRun} (hdrained : Drained args env s.values run) :
    ∀ p ∈ run.produced, p.value = text := by
  intro p hp
  rw [hdrained.produced] at hp
  obtain ⟨r, hr, hone⟩ := mem_reinjectAll.mp hp
  rw [routeRecords_reinject hdrained.routed] at hr
  obtain ⟨e, -, hgood, hlookup⟩ := hshelf.read hdrained.reads (List.mem_of_mem_filter hr)
  have hitem := (reinjectOne_ok hone).2.2
  rw [Dict.item, hlookup _ (by decide) (by decide), hgood.payload] at hitem
  exact (PyVal.str.inj (Except.ok.inj hitem)).symm

/-- And it hands over every record of the sink. -/
theorem OneShelf.reinjects {s : CycleState} (hshelf : OneShelf text s) (haccepts : sys.Accepts text)
    (hmax : 0 < sys.maxReplays) {run : DrainRun}
    (hdrained : Drained ⟨0, sys.maxReplays, false⟩ (smoothEnv sys.codec (s.dlq 0).length) s.values
      run) {i : ℕ} {e : DlqEntry} (hi : (s.dlq 0)[i]? = some e)
    (hstage : e.value.lookup "failure_stage" = some (.str stageCassandraSink)) :
    ∃ key, (⟨⟨0, i⟩, key, text, .acked⟩ : Produced) ∈ run.produced := by
  have hlen : i < (s.values 0).length := by
    rw [CycleState.values, List.length_map]
    exact (List.getElem?_eq_some_iff.mp hi).1
  obtain ⟨r, hr, hloc⟩ :=
    List.mem_map.mp (readAll_complete hdrained.reads (hshelf.polledOut sys.codec) 0 i hlen)
  obtain ⟨e', he', hgood, hlookup⟩ := hshelf.read hdrained.reads hr
  obtain rfl : e = e' := by
    rw [hloc] at he'
    exact Option.some.inj (hi.symm.trans he')
  have hclass : classify (smoothEnv sys.codec (s.dlq 0).length) sys.maxReplays r =
      .ok .reinject :=
    (classify_replayable hmax ((hlookup _ (by decide) (by decide)).trans hgood.zero)
      ((hlookup _ (by decide) (by decide)).trans hstage)).2 rfl
  have hreinject : r ∈ run.lists.reinject := by
    rw [routeRecords_reinject hdrained.routed, List.mem_filter]
    exact ⟨hr, decide_eq_true (congrArg Except.toOption hclass)⟩
  obtain ⟨key, hone⟩ := haccepts.reinjectOne (s.dlq 0).length
    ((hlookup _ (by decide) (by decide)).trans hgood.payload)
  refine ⟨key, ?_⟩
  rw [hdrained.produced, ← hloc]
  exact mem_reinjectAll.mpr ⟨r, hreinject, hone⟩

/-- **A drain re-injects a quarantined event**, one deeper. -/
theorem looping_drain (haccepts : sys.Accepts text) (hmax : 0 < sys.maxReplays) {n k : ℕ}
    {s : CycleState} (hreach : Reaches sys n s) (hpending : s.pending = [])
    (hshelf : OneShelf text s)
    (hdeep : ∃ e ∈ s.dlq 0, e.depth = k ∧
      e.value.lookup "failure_stage" = some (.str stageCassandraSink)) :
    ∃ s', Reaches sys (n + 1) s' ∧ Waiting text (k + 1) s'.pending ∧ OneShelf text s' := by
  obtain ⟨run, hrun⟩ := hshelf.exists_drain hmax sys.codec
  have hdrained := drain_drained hrun rfl
  obtain ⟨e, he, hdepth, hstage⟩ := hdeep
  obtain ⟨i, hi⟩ := List.mem_iff_getElem?.mp he
  obtain ⟨key, hproduced⟩ := hshelf.reinjects haccepts hmax hdrained hi hstage
  let republished : Produced → RawMessage := fun p =>
    let entry := (s.dlq p.loc.partition)[p.loc.offset]?
    ⟨⟨some p.value, "trips.raw", 0, 0, 0⟩, (entry.map DlqEntry.depth).getD 0 + 1,
      entry.map DlqEntry.value⟩
  have hsent : List.Forall₂ (Republishes s) run.produced (run.produced.map republished) := by
    rw [List.forall₂_map_right_iff, List.forall₂_same]
    intro p hp
    obtain ⟨e, he⟩ := hdrained.entry_of_produced hp
    refine ⟨rfl, e, he, ?_⟩
    simp only [republished, he]
    exact ⟨rfl, rfl⟩
  refine ⟨_, Reaches.drain hreach rfl rfl rfl hrun List.filter_sublist (List.Sublist.refl _) hsent,
    ⟨?_, ?_⟩, hshelf.empty, hshelf.entries⟩
  · intro m hm
    rw [CycleState.publish, hpending, List.nil_append] at hm
    obtain ⟨p, hp, rfl⟩ := List.mem_map.mp hm
    exact ⟨congrArg some (hshelf.produced_value hdrained p hp), rfl⟩
  · refine ⟨republished ⟨⟨0, i⟩, key, text, .acked⟩, ?_, ?_⟩
    · rw [CycleState.publish, hpending, List.nil_append]
      exact List.mem_map_of_mem hproduced
    · simp only [republished, hi]
      exact congrArg (· + 1) hdepth

/-- **Every drain takes a failing event one deeper.** -/
theorem exists_looping (haccepts : sys.Accepts text) (hmax : 0 < sys.maxReplays) (n : ℕ) :
    ∃ s, Reaches sys n s ∧ Waiting text n s.pending ∧ OneShelf text s := by
  induction n with
  | zero =>
      refine ⟨_, Reaches.produce ⟨some text, "trips.raw", 0, 0, 0⟩ Reaches.start, ⟨?_, ?_⟩, ?_, ?_⟩
      · intro m hm
        obtain rfl := List.mem_singleton.mp hm
        exact ⟨rfl, rfl⟩
      · exact ⟨_, List.mem_singleton_self _, rfl⟩
      · intro p _
        rfl
      · intro e he
        cases he
  | succ n ih =>
      obtain ⟨s, hreach, hwait, hshelf⟩ := ih
      obtain ⟨s₁, hreach₁, hpending, hshelf₁, hdeep⟩ := looping_batch haccepts hreach hwait hshelf
      exact looping_drain haccepts hmax hreach₁ hpending hshelf₁ hdeep

end looping

/-! ## The ceiling -/

/-- The re-injections are bounded by the number of drains, and by the ceiling when that parks
everything. -/
theorem bounded_of_reaches {sys : System} {n : ℕ} {s : CycleState} (h : Reaches sys n s)
    (hcond : sys.maxReplays ≤ 0 ∨ (n : ℤ) ≤ sys.maxReplays) : s.Bounded sys.maxReplays := by
  intro m hm
  have hle := ((reaches_inv h).raw m hm).1
  unfold System.deepest at hle
  split_ifs at hle with hceiling
  · exact hle.trans (Nat.zero_le _)
  · have hdrains := hcond.resolve_left hceiling
    omega

/-- A message that has been re-injected is one deeper than a record of the DLQ topic. -/
theorem exists_record_of_raw {sys : System} {n : ℕ} {s : CycleState} (h : Reaches sys n s) :
    ∀ m ∈ s.raw, m.depth = 0 ∨ ∃ p, ∃ e ∈ s.dlq p, m.depth = e.depth + 1 := by
  have hgrows : ∀ (s : CycleState) new p, ∀ e ∈ s.dlq p, e ∈ (s.quarantine new).dlq p :=
    fun s new p e he => List.mem_append_left _ he
  induction h with
  | start => exact fun m hm => absurd hm List.not_mem_nil
  | produce m _ ih =>
      intro m' hm'
      rcases List.mem_append.mp hm' with hold | hnew
      · exact ih m' hold
      · obtain rfl := List.mem_singleton.mp hnew
        exact Or.inl rfl
  | restart _ ih => exact ih
  | giveUp _ _ _ _ _ _ _ _ ih | batch _ _ _ _ _ _ ih | abort _ _ _ _ _ _ ih =>
      intro m hm
      exact (ih m hm).imp_right fun ⟨p, e, he, hdepth⟩ => ⟨p, e, hgrows _ _ p e he, hdepth⟩
  | drain _ _ _ _ _ _ _ hsent ih =>
      intro m hm
      rcases List.mem_append.mp hm with hold | hnew
      · exact ih m hold
      · obtain ⟨p, -, -, e, he, hdepth, -⟩ := exists_of_mem_right hsent hnew
        exact Or.inr ⟨_, e, List.mem_of_getElem? he, hdepth⟩

/-- **A run has no cycle to bound iff no re-injected event is quarantined again.** -/
theorem bounded_rises_iff {sys : System} {n : ℕ} {s : CycleState} (h : Reaches sys n s) :
    s.Bounded sys.maxReplays ∧ s.Rises ↔ ∀ p, ∀ e ∈ s.dlq p, e.depth = 0 := by
  have hinv := reaches_inv h
  refine ⟨fun hboth => hinv.rises_iff.mp hboth.2, fun hzero => ⟨?_, hinv.rises_iff.mpr hzero⟩⟩
  intro m hm
  by_cases hceiling : sys.maxReplays ≤ 0
  · exact bounded_of_reaches h (Or.inl hceiling) m hm
  · rcases exists_record_of_raw h m hm with hnone | ⟨p, e, he, hdepth⟩
    · rw [hnone]
      exact Nat.zero_le _
    · rw [hdepth, hzero p e he]
      omega

/-- Without a re-injection no re-injected event fails again. -/
theorem depth_eq_zero_of_reaches {sys : System} {n : ℕ} {s : CycleState} (h : Reaches sys n s)
    (hcond : sys.maxReplays ≤ 0 ∨ n = 0) : ∀ p, ∀ e ∈ s.dlq p, e.depth = 0 := by
  intro p e he
  have hle := ((reaches_inv h).dlq p e he).1
  unfold System.deepest at hle
  split_ifs at hle with hceiling
  · exact Nat.le_zero.mp hle
  · exact Nat.le_zero.mp (hle.trans (hcond.resolve_left hceiling).le)

/-- **The counts of a run rise, and bound its re-injections, iff no re-injected event is quarantined
again.** So it is in all runs with `n` drains iff the ceiling parks everything or there is no drain;
and the re-injections alone are bounded iff the ceiling parks everything or is not reached. -/
theorem cycle_bounded_iff {sys : System} {text : String} (haccepts : sys.Accepts text) (n : ℕ) :
    (∀ s, Reaches sys n s →
        (s.Bounded sys.maxReplays ∧ s.Rises ↔ ∀ p, ∀ e ∈ s.dlq p, e.depth = 0)) ∧
      ((∀ s, Reaches sys n s → s.Bounded sys.maxReplays ∧ s.Rises) ↔
        sys.maxReplays ≤ 0 ∨ n = 0) ∧
      ((∀ s, Reaches sys n s → s.Bounded sys.maxReplays) ↔
        sys.maxReplays ≤ 0 ∨ (n : ℤ) ≤ sys.maxReplays) := by
  refine ⟨fun s hreach => bounded_rises_iff hreach, ⟨?_, ?_⟩, ?_,
    fun hcond s hreach => bounded_of_reaches hreach hcond⟩
  · intro hall
    by_contra hnot
    rw [not_or, not_le] at hnot
    obtain ⟨s, hreach, hwait, hshelf⟩ := exists_looping haccepts hnot.1 n
    obtain ⟨s', hreach', -, -, e, he, hdepth, -⟩ := looping_batch haccepts hreach hwait hshelf
    have hzero := (bounded_rises_iff hreach').mp (hall s' hreach') 0 e he
    exact hnot.2 (hdepth.symm.trans hzero)
  · exact fun hcond s hreach =>
      (bounded_rises_iff hreach).mpr (depth_eq_zero_of_reaches hreach hcond)
  · intro hbound
    by_contra hnot
    rw [not_or, not_le, not_le] at hnot
    obtain ⟨s, hreach, hwait, -⟩ := exists_looping haccepts hnot.1 n
    obtain ⟨m, hm, hdepth⟩ := hwait.deep
    have hle := hbound s hreach m ((reaches_inv hreach).pending m hm)
    omega

/-- The default policies. -/
def sampleSystem (maxReplays : ℤ) : System where
  conf := dlqConf
  spark := sampleSpark sampleText sampleEvent
  codec := sampleCodec sampleText sampleObject
  maxReplays := maxReplays

/-- The sample system takes the sample text as an event. -/
theorem sampleSystem_accepts (maxReplays : ℤ) : (sampleSystem maxReplays).Accepts sampleText := by
  have hloads : (sampleSystem maxReplays).codec.loads sampleText = some (.dict sampleObject) := by
    simp only [sampleSystem, sampleCodec, if_true]
  refine ⟨by decide +kernel, ⟨sampleObject, "00000000-0000-0000-0000-000000000002", hloads, rfl,
    by decide⟩, ?_, ?_⟩
  · intro m hm
    have htables : (sampleSystem maxReplays).conf.sink.tables = coreTables := rfl
    have hsource := source_sample m hm
    rw [show (sampleSystem maxReplays).spark = sampleSpark sampleText sampleEvent from rfl, hsource,
      htables]
    exact sampleEvent_built sampleText m.topic m.partition m.offset m.timestamp _ (Or.inl rfl)
  · intro m hm htime
    rw [show (sampleSystem maxReplays).spark = sampleSpark sampleText sampleEvent from rfl,
      source_sample m hm, htime]
    rfl

/-- Two drains with the default ceiling. -/
theorem cycle_bounded_iff_default :
    (∀ s, Reaches (sampleSystem 3) 2 s →
        (s.Bounded 3 ∧ s.Rises ↔ ∀ p, ∀ e ∈ s.dlq p, e.depth = 0)) ∧
      ((∀ s, Reaches (sampleSystem 3) 2 s → s.Bounded 3 ∧ s.Rises) ↔ (3 : ℤ) ≤ 0 ∨ 2 = 0) ∧
      ((∀ s, Reaches (sampleSystem 3) 2 s → s.Bounded 3) ↔ (3 : ℤ) ≤ 0 ∨ ((2 : ℕ) : ℤ) ≤ 3) :=
  cycle_bounded_iff (sampleSystem_accepts 3) 2

/-- With the default ceiling of 3, four drains re-inject an event four times along one chain; and
after a single one, the record of the event that has failed again has the count of the record it was
re-injected from. -/
theorem cycle_exceeds_default :
    (∃ s, Reaches (sampleSystem 3) 4 s ∧ ∃ m ∈ s.raw, m.depth = 4 ∧ ¬s.Bounded 3) ∧
      ∃ s, Reaches (sampleSystem 3) 1 s ∧ ¬s.Rises := by
  constructor
  · obtain ⟨s, hreach, hwait, -⟩ := exists_looping (sampleSystem_accepts 3) (by decide) 4
    obtain ⟨m, hm, hdepth⟩ := hwait.deep
    have hraw := (reaches_inv hreach).pending m hm
    refine ⟨s, hreach, m, hraw, hdepth, fun hbound => ?_⟩
    have hle := hbound m hraw
    rw [hdepth] at hle
    exact absurd hle (by decide)
  · obtain ⟨s, hreach, hwait, hshelf⟩ := exists_looping (sampleSystem_accepts 3) (by decide) 1
    obtain ⟨s', hreach', -, -, e, he, hdepth, -⟩ :=
      looping_batch (sampleSystem_accepts 3) hreach hwait hshelf
    refine ⟨s', hreach', fun hrises => ?_⟩
    have hzero := (reaches_inv hreach').rises_iff.mp hrises 0 e he
    rw [hdepth] at hzero
    cases hzero

end TripPipeline.Replay
