import TripPipeline.Flow.Run

/-!
# Where everything comes from

No hop invents or alters a payload: through any number of batches, quarantines, deaths and drains,
every text on `trips.raw`, every `original_payload` on the DLQ topic or in a park file is, letter
for letter, a text that was once handed to the pipeline, and every statement executed is built from
one.

* `DlqOrigin`: how an object gets onto the DLQ topic.
* `Traced`: the invariant. `step_traced` is its step lemma, with a case for each step.
* `pipeline_provenance`: the result. It assumes of Spark that the empty text is not an event: an
  empty text would be re-serialized (`rowJson`).
-/

namespace TripPipeline.Flow

open Relation
open TripPipeline.Common TripPipeline.Lib
open TripPipeline.Streaming TripPipeline.Replay
open PipelineState (values)

variable {d : Deployment} {s s' : PipelineState} {offered more : List String} {e : Dict}

/-! ## Origins -/

/-- The message carries a text from outside, or none. -/
def FromOutside (offered : List String) (m : KafkaMessage) : Prop :=
  ∀ text, m.value = some text → text ∈ offered

/-- How an object gets onto the DLQ topic: the producer gives an event up, or a batch quarantines a
message. -/
inductive DlqOrigin (d : Deployment) (offered : List String) : Dict → Prop
  | producer {payload : String} (host reason : String) (now retryCount : ℤ)
      (topic : Option String) : payload ∈ offered → DlqOrigin d offered (build d.codec host now
        payload reason stageProducer retryCount none topic none none 0).asdict
  | stream {m : KafkaMessage} {e : Dict} : FromOutside offered m →
      Quarantines d.conf [[source d.spark m]] e → DlqOrigin d offered e

/-- What may be on the DLQ topic may still be there when more has been offered. -/
theorem DlqOrigin.mono (h : DlqOrigin d offered e) (hsub : ∀ text ∈ offered, text ∈ more) :
    DlqOrigin d more e := by
  cases h with
  | producer host reason now retryCount topic hpayload =>
      exact .producer host reason now retryCount topic (hsub _ hpayload)
  | stream hm hq => exact .stream (fun text htext => hsub text (hm text htext)) hq

/-- A message of a batch is about one row of it. -/
theorem Quarantines.one {conf : StreamConf} {batch : Frame} {e : Dict}
    (h : Quarantines conf batch e) : ∃ r ∈ batch.rows, Quarantines conf [[r]] e := by
  have hself : ∀ r : StreamRow, r ∈ Frame.rows [[r]] := fun r => List.mem_singleton_self r
  cases h with
  | unparseable now hr hbad => exact ⟨_, hr, .unparseable now (hself _) hbad⟩
  | late now text hr hparse htime hdlq => exact ⟨_, hr, .late now text (hself _) hparse htime hdlq⟩
  | refused env o reason hr hparse hrefused =>
      exact ⟨_, hr, .refused env o reason (hself _) hparse hrefused⟩
  | givenUp env o reason n hr hparse hbuildable =>
      exact ⟨_, hr, .givenUp env o reason n (hself _) hparse hbuildable⟩

/-! ## Payloads -/

/-- What `to_json` wrote was a field, and not null. -/
theorem mem_of_lookup_toJsonStruct {fields : Dict} {k : String} {v : PyVal}
    (h : (toJsonStruct fields).lookup k = some v) : (k, v) ∈ fields ∧ v.isNone = false := by
  obtain ⟨front, back, heq, -⟩ := List.lookup_eq_some_iff.mp h
  have hmem : (k, v) ∈ toJsonStruct fields := by
    rw [heq]
    exact List.mem_append_right _ List.mem_cons_self
  obtain ⟨hfield, hnone⟩ := List.mem_filter.mp hmem
  exact ⟨hfield, by simpa using hnone⟩

/-- A value that is not null is the text it was made of. -/
theorem text_of_ofOption {o : Option String} (h : (PyVal.ofOption .str o).isNone = false) :
    ∃ text, o = some text ∧ PyVal.ofOption .str o = .str text := by
  cases o with
  | none => cases h
  | some text => exact ⟨text, rfl, rfl⟩

/-- The writer's payload of a row that can be read is the row's text. -/
theorem rowJson_source {spark : SparkSql} {m : KafkaMessage} (hspark : spark.fromJson "" = none)
    (hparse : (source spark m).unparseable = false) (codec : JsonCodec) :
    ∃ text, m.value = some text ∧ rowJson codec (source spark m) = text := by
  obtain ⟨text, htext⟩ := Option.isSome_iff_exists.mp (source_parseable hparse).1
  have hvalue : m.value = some text := htext
  refine ⟨text, hvalue, ?_⟩
  have hne : text ≠ "" := by
    rintro rfl
    simp [source, hvalue, hspark] at hparse
  rw [rowJson, htext]
  exact if_pos hne

/-- **The payload of a quarantined message is its text.** -/
theorem payload_of_quarantines {conf : StreamConf} {spark : SparkSql} {m : KafkaMessage}
    (hspark : spark.fromJson "" = none) (h : Quarantines conf [[source spark m]] e) {v : PyVal}
    (hv : e.lookup "original_payload" = some v) : ∃ text, m.value = some text ∧ v = .str text := by
  have hrow : ∀ {r}, r ∈ Frame.rows [[source spark m]] → r = source spark m :=
    fun hr => List.mem_singleton.mp hr
  cases h with
  | unparseable now hr _ =>
      obtain rfl := hrow hr
      obtain ⟨hmem, hnone⟩ := mem_of_lookup_toJsonStruct hv
      obtain rfl : v = .ofOption .str m.value := by simpa [unparseableRecord, source] using hmem
      exact text_of_ofOption hnone
  | late now text hr _ _ _ =>
      obtain rfl := hrow hr
      obtain ⟨hmem, hnone⟩ := mem_of_lookup_toJsonStruct hv
      obtain rfl : v = .ofOption .str m.value := by simpa [lateRecord, source] using hmem
      exact text_of_ofOption hnone
  | refused env o reason hr hparse _ =>
      obtain rfl := hrow hr
      obtain ⟨text, htext, hpayload⟩ := rowJson_source hspark hparse env.codec
      refine ⟨text, htext, ?_⟩
      rw [← hpayload]
      exact (Option.some.inj hv).symm
  | givenUp env o reason n hr hparse _ =>
      obtain rfl := hrow hr
      obtain ⟨text, htext, hpayload⟩ := rowJson_source hspark hparse env.codec
      refine ⟨text, htext, ?_⟩
      rw [← hpayload]
      exact (Option.some.inj hv).symm

/-- The payload of anything on the DLQ topic came from outside. -/
theorem DlqOrigin.payload (hspark : d.spark.fromJson "" = none) (h : DlqOrigin d offered e)
    {v : PyVal} (hv : e.lookup "original_payload" = some v) : ∃ text ∈ offered, v = .str text := by
  cases h with
  | producer host reason now retryCount topic hpayload =>
      exact ⟨_, hpayload, (Option.some.inj hv).symm⟩
  | stream hm hq =>
      obtain ⟨text, htext, rfl⟩ := payload_of_quarantines hspark hq hv
      exact ⟨text, hm text htext, rfl⟩

/-! ## Statements -/

/-- The event is on a DLQ message because it was late. -/
structure LateText (d : Deployment) (text : String) : Prop where
  late : ∃ m : KafkaMessage, m.value = some text ∧ (source d.spark m).unparseable = false ∧
    ∃ us, (source d.spark m).event.eventTime = some us

/-- The statement is built from the text: by the stream job, or by a drain. -/
inductive StatementOf (d : Deployment) (text : String) : Statement → Prop
  | streamed {m : KafkaMessage} {st : Statement} : m.value = some text →
      BuiltFrom d.conf.sink.tables (source d.spark m) st → StatementOf d text st
  | direct {now : ℤ} {out : List Statement} {st : Statement} : LateText d text →
      directStatements d.codec d.fromIsoFormat now (.str text) = .ok out → st ∈ out →
      StatementOf d text st

/-- What evaluations of a batch execute is built from the texts of its messages. -/
theorem statementOf_of_performs {mark : Option ℤ} {batch : Frame} {routes : Routes}
    {taken : List KafkaMessage} (hrows : batch.rows.Perm (taken.map (source d.spark)))
    (hroute : route d.conf mark batch = .ok routes) (htaken : ∀ m ∈ taken, FromOutside offered m)
    {rows : List StreamRow} (hmem : rows ∈ routes.good) {st : Statement}
    (hst : Performs d.conf.sink rows st) : ∃ text ∈ offered, StatementOf d text st := by
  obtain ⟨r, hr, hbuilt⟩ := hst.built
  obtain ⟨hbatch, hparse⟩ := mem_good hroute (List.mem_flatten_of_mem hmem hr)
  obtain ⟨m, hm, rfl⟩ := List.mem_map.mp (hrows.mem_iff.mp hbatch)
  obtain ⟨text, htext⟩ := Option.isSome_iff_exists.mp (source_parseable hparse).1
  exact ⟨text, htaken m hm text htext, .streamed htext hbuilt⟩

/-- Only a late event has the stage that a drain writes directly. -/
theorem DlqOrigin.late (hspark : d.spark.fromJson "" = none) (h : DlqOrigin d offered e)
    (hstage : e.lookup "failure_stage" = some (.str stageLate)) {text : String}
    (htext : e.lookup "original_payload" = some (.str text)) : LateText d text := by
  cases h with
  | producer host reason now retryCount topic hpayload =>
      exact absurd (PyVal.str.inj (Option.some.inj hstage)) (by decide : ¬stageProducer = stageLate)
  | @stream m e hm hq =>
      obtain ⟨text', htext', heq⟩ := payload_of_quarantines hspark hq htext
      obtain rfl := PyVal.str.inj heq
      have hrow : ∀ {r}, r ∈ Frame.rows [[source d.spark m]] → r = source d.spark m :=
        fun hr => List.mem_singleton.mp hr
      cases hq with
      | unparseable now hr _ =>
          have hfield := (mem_of_lookup_toJsonStruct hstage).1
          simp [unparseableRecord, stageLate] at hfield
      | late now cutoffText hr hparse htime _ =>
          obtain rfl := hrow hr
          exact ⟨⟨m, htext', hparse, htime⟩⟩
      | refused env o reason hr _ _ =>
          exact absurd (PyVal.str.inj (Option.some.inj hstage))
            (by decide : ¬stageParse = stageLate)
      | givenUp env o reason n hr _ _ =>
          exact absurd (PyVal.str.inj (Option.some.inj hstage))
            (by decide : ¬stageCassandraSink = stageLate)

/-! ## The invariant -/

/-- Everything in the pipeline came from outside. -/
structure Traced (d : Deployment) (s : PipelineState) : Prop where
  raw : ∀ m ∈ s.raw, FromOutside s.offered m
  pending : ∀ m ∈ s.pending, m ∈ s.raw
  dlq : ∀ e, s.OnDlq e → DlqOrigin d s.offered e
  executed : ∀ st ∈ s.executed, ∃ text ∈ s.offered, StatementOf d text st
  parked : ∀ r ∈ s.parked, ∀ v, r.fields.lookup "original_payload" = some v →
    ∃ text ∈ s.offered, v = .str text

namespace Traced

/-- Offering more texts keeps the traces. -/
theorem offer (h : Traced d s) (texts : List String) : Traced d (s.offer texts) := by
  have hmem : ∀ text ∈ s.offered, text ∈ (s.offer texts).offered :=
    fun _ ht => List.mem_append_left _ ht
  refine ⟨fun m hm text htext => hmem text (h.raw m hm text htext), h.pending,
    fun e he => (h.dlq e he).mono hmem, ?_, ?_⟩
  · intro st hst
    obtain ⟨text, htext, horigin⟩ := h.executed st hst
    exact ⟨text, hmem text htext, horigin⟩
  · intro r hr v hv
    obtain ⟨text, htext, rfl⟩ := h.parked r hr v hv
    exact ⟨text, hmem text htext, rfl⟩

/-- Messages from outside may be published. -/
theorem publish (h : Traced d s) {ms : List KafkaMessage}
    (hms : ∀ m ∈ ms, FromOutside s.offered m) : Traced d (s.publish ms) := by
  refine ⟨?_, ?_, h.dlq, h.executed, h.parked⟩
  · intro m hm
    exact (List.mem_append.mp hm).elim (h.raw m) (hms m)
  · intro m hm
    exact List.mem_append.mpr ((List.mem_append.mp hm).imp_left (h.pending m))

/-- Taking messages leaves the topics, hence the traces. -/
theorem advance (h : Traced d s) (mark : Option ℤ) {pending : List KafkaMessage}
    (hpending : ∀ m ∈ pending, m ∈ s.pending) : Traced d (s.advance mark pending) :=
  ⟨h.raw, fun m hm => h.pending m (hpending m hm), h.dlq, h.executed, h.parked⟩

/-- Quarantining objects of a known origin keeps the traces. -/
theorem quarantine (h : Traced d s) {new : List (ℕ × Dict)}
    (hnew : ∀ e ∈ new.map Prod.snd, DlqOrigin d s.offered e) : Traced d (s.quarantine new) := by
  refine ⟨h.raw, h.pending, ?_, h.executed, h.parked⟩
  intro e he
  exact (PipelineState.onDlq_quarantine.mp he).elim (h.dlq e) (hnew e)

/-- Executing statements built from offered texts keeps the traces. -/
theorem execute (h : Traced d s) {stmts : List Statement}
    (hstmts : ∀ st ∈ stmts, ∃ text ∈ s.offered, StatementOf d text st) :
    Traced d (s.execute stmts) := by
  refine ⟨h.raw, h.pending, h.dlq, ?_, h.parked⟩
  intro st hst
  exact (List.mem_append.mp hst).elim (h.executed st) (hstmts st)

/-- Parking records with offered payloads keeps the traces. -/
theorem park (h : Traced d s) {records : List DlqRead}
    (hrecords : ∀ r ∈ records, ∀ v, r.fields.lookup "original_payload" = some v →
      ∃ text ∈ s.offered, v = .str text) : Traced d (s.park records) := by
  refine ⟨h.raw, h.pending, h.dlq, h.executed, ?_⟩
  intro r hr
  exact (List.mem_append.mp hr).elim (h.parked r) (hrecords r)

/-- The messages of a batch came from outside. -/
theorem taken (h : Traced d s) {taken rest : List KafkaMessage}
    (hperm : s.pending.Perm (taken ++ rest)) : ∀ m ∈ taken, FromOutside s.offered m :=
  fun m hm => h.raw m (h.pending m (hperm.mem_iff.mpr (List.mem_append_left _ hm)))

end Traced

/-- What a batch quarantines came from outside. -/
theorem origin_of_quarantines {batch : Frame} {taken : List KafkaMessage}
    (hrows : batch.rows.Perm (taken.map (source d.spark)))
    (htaken : ∀ m ∈ taken, FromOutside offered m) (h : Quarantines d.conf batch e) :
    DlqOrigin d offered e := by
  obtain ⟨r, hr, hone⟩ := Quarantines.one h
  obtain ⟨m, hm, rfl⟩ := List.mem_map.mp (hrows.mem_iff.mp hr)
  exact .stream (htaken m hm) hone

/-! ## A drain -/

section drain

variable {args : DrainArgs} {env : DrainEnv} {seen : Topic Dict} {run : DrainRun}

/-- Only late events are written directly. -/
theorem stage_of_classify {maxReplays : ℤ} {r : DlqRead}
    (h : classify env maxReplays r = .ok .direct) :
    r.fields.lookup "failure_stage" = some (.str stageLate) := by
  have hstage : inStages directWriteStages (getOr r.fields "failure_stage" (.str "?")) = .ok true →
      r.fields.lookup "failure_stage" = some (.str stageLate) := by
    intro hdirect
    unfold getOr at hdirect
    generalize r.fields.lookup "failure_stage" = value at hdirect ⊢
    rcases value with _ | v
    · exact absurd (Except.ok.inj hdirect) (by decide)
    · cases v with
      | str stage =>
          have hcontains : directWriteStages.contains stage = true := Except.ok.inj hdirect
          obtain rfl : stage = stageLate := by simpa [directWriteStages] using hcontains
          rfl
      | _ => cases hdirect
  unfold classify at h
  obtain ⟨replays, -, h⟩ := bind_eq_ok_iff.mp h
  split at h
  · cases Except.ok.inj h
  obtain ⟨reinject, -, h⟩ := bind_eq_ok_iff.mp h
  split at h
  · cases Except.ok.inj h
  obtain ⟨direct, hdirect, h⟩ := bind_eq_ok_iff.mp h
  split at h
  · rename_i hin
    subst hin
    exact hstage hdirect
  · cases Except.ok.inj h

/-- A record a drain has read is an object of the DLQ topic. -/
theorem drained_entry (h : Drained args env (values seen) run)
    (hseen : ∀ p, seen p <+: s.dlq p) {r : DlqRead} (hr : r ∈ run.read) :
    ∃ e, s.OnDlq e ∧ r.fields.lookup "original_payload" = e.lookup "original_payload" ∧
      r.fields.lookup "failure_stage" = e.lookup "failure_stage" := by
  obtain ⟨e, he, hfields⟩ := read_of_values h.reads hr
  refine ⟨e, ⟨r.loc.partition, (hseen _).subset (List.mem_of_getElem? he)⟩, ?_, ?_⟩
  · exact hfields _ (by decide) (by decide)
  · exact hfields _ (by decide) (by decide)

variable (hspark : d.spark.fromJson "" = none) (htraced : Traced d s)
  (hdrained : Drained args env (values seen) run) (hseen : ∀ p, seen p <+: s.dlq p)

include hspark htraced hdrained hseen

/-- The payload of a record came from outside. -/
theorem payload_of_read {r : DlqRead} (hr : r ∈ run.read) {v : PyVal}
    (hv : r.fields.lookup "original_payload" = some v) : ∃ text ∈ s.offered, v = .str text := by
  obtain ⟨e, he, hpayload, -⟩ := drained_entry hdrained hseen hr
  exact (htraced.dlq e he).payload hspark (hpayload ▸ hv)

/-- What a drain republishes came from outside. -/
theorem produced_offered {p : Produced} (hp : p ∈ run.produced) : p.value ∈ s.offered := by
  rw [hdrained.produced] at hp
  obtain ⟨r, hr, hone⟩ := mem_reinjectAll.mp hp
  rw [routeRecords_reinject hdrained.routed] at hr
  obtain ⟨text, htext, heq⟩ := payload_of_read hspark htraced hdrained hseen
    (List.mem_of_mem_filter hr) (item_ok_iff.mp (reinjectOne_ok hone).2.2)
  obtain rfl := PyVal.str.inj heq
  exact htext

/-- What a drain executes is built from a late event. -/
theorem direct_offered (hcodec : env.codec = d.codec) (hiso : env.fromIsoFormat = d.fromIsoFormat)
    {turn : DirectTurn} (hturn : turn ∈ run.direct) {st : Statement} (hst : st ∈ turn.executed) :
    ∃ text ∈ s.offered, StatementOf d text st := by
  have hmem : turn ∈ run.lists.direct.map (directWriteOne env) := by
    rcases hdrained.direct with hnone | hall
    · rw [hnone] at hturn
      cases hturn
    · rwa [hall] at hturn
  obtain ⟨r, hr, rfl⟩ := List.mem_map.mp hmem
  rw [(routeRecords_eq hdrained.routed).2.1] at hr
  obtain ⟨hread, hclass⟩ := List.mem_filter.mp hr
  have hdirect : classify env args.maxReplays r = .ok .direct := by
    have hsome := of_decide_eq_true hclass
    rcases hc : classify env args.maxReplays r with e | a
    · rw [hc] at hsome
      cases hsome
    · rw [hc] at hsome
      rw [Option.some.inj hsome]
  unfold directWriteOne at hst
  dsimp only at hst
  split at hst
  · cases hst
  · rename_i stmts hbuilt
    obtain ⟨original, hitem, hstmts⟩ := bind_eq_ok_iff.mp hbuilt
    have hpayload := item_ok_iff.mp hitem
    obtain ⟨text, htext, rfl⟩ := payload_of_read hspark htraced hdrained hseen hread hpayload
    obtain ⟨e, he, hsame, hstage⟩ := drained_entry hdrained hseen hread
    have hlate := (htraced.dlq e he).late hspark (hstage ▸ stage_of_classify hdirect)
      (hsame ▸ hpayload)
    rw [hcodec, hiso] at hstmts
    exact ⟨text, htext, .direct hlate hstmts ((prefix_executeAll _ stmts).subset hst)⟩

/-- What a drain parks came from outside. -/
theorem parked_offered {q : DlqRead} (hq : q ∈ run.parkFile) {v : PyVal}
    (hv : q.fields.lookup "original_payload" = some v) : ∃ text ∈ s.offered, v = .str text := by
  have hmem : q ∈ run.read.filterMap (parked? env args.maxReplays) := by
    rw [← (routeRecords_eq hdrained.routed).2.2]
    rcases hdrained.parked with hnone | hall
    · rw [hnone] at hq
      cases hq
    · rwa [hall] at hq
  obtain ⟨r, hr, hparked⟩ := List.mem_filterMap.mp hmem
  obtain ⟨reason, -, rfl⟩ := parked?_eq_some_iff.mp hparked
  rw [Dict.lookup_set, if_neg (by decide)] at hv
  exact payload_of_read hspark htraced hdrained hseen hr hv

end drain

/-! ## Every run -/

/-- **No step invents anything.** -/
theorem step_traced (hspark : d.spark.fromJson "" = none) (htraced : Traced d s)
    (h : Step d s s') : Traced d s' := by
  cases h with
  | publish m =>
      refine (htraced.offer _).publish fun m' hm' => ?_
      obtain rfl := List.mem_singleton.mp hm'
      intro text htext
      rw [htext]
      exact List.mem_append_right _ (List.mem_singleton_self text)
  | giveUp p host payload reason now retryCount topic =>
      refine (htraced.offer _).quarantine fun e he => ?_
      obtain rfl := List.mem_singleton.mp he
      exact .producer host reason now retryCount topic
        (List.mem_append_right _ (List.mem_singleton_self payload))
  | restart => exact htraced.advance none fun m hm => hm
  | @batch taken rest batch env out new executed hperm hrows hout hnew hkinds hall hsound =>
      have htaken := htraced.taken hperm
      have hrest := htraced.advance out.maxEventMs fun m hm =>
        hperm.mem_iff.mpr (List.mem_append_right taken hm)
      refine (hrest.quarantine fun e he => ?_).execute fun st hst => ?_
      · obtain ⟨pair, hpair, rfl⟩ := List.mem_map.mp he
        exact origin_of_quarantines hrows htaken (hkinds pair hpair)
      · obtain ⟨rows, hmem, hperforms⟩ := hsound st hst
        by_cases hcount : batch.count = 0
        · obtain ⟨-, hroutes, -⟩ := processBatch_empty hout hcount
          rw [hroutes] at hmem
          cases hmem
        · exact statementOf_of_performs hrows (processBatch_completed hout hcount).routed htaken
            hmem hperforms
  | abort hperm hrows hnew hsound =>
      have htaken := htraced.taken hperm
      refine ((htraced.advance none fun m hm => hm).quarantine fun e he => ?_).execute
        fun st hst => ?_
      · obtain ⟨pair, hpair, rfl⟩ := List.mem_map.mp he
        exact origin_of_quarantines hrows htaken (hnew pair hpair)
      · obtain ⟨routes, hroute, rows, hmem, hperforms⟩ := hsound st hst
        exact statementOf_of_performs hrows hroute htaken hmem hperforms
  | drain hseen hcodec hiso hdry hrun hsent hexecuted hrecords =>
      have hdrained := drain_drained hrun hdry
      refine ((htraced.publish fun m hm => ?_).execute fun st hst => ?_).park fun r hr v hv => ?_
      · obtain ⟨p, hp, hvalue⟩ := hsent m hm
        intro text htext
        obtain rfl := Option.some.inj (hvalue.symm.trans htext)
        exact produced_offered hspark htraced hdrained hseen hp
      · obtain ⟨turn, hturn, hmem⟩ := hexecuted st hst
        exact direct_offered hspark htraced hdrained hseen hcodec hiso hturn hmem
      · exact parked_offered hspark htraced hdrained hseen (hrecords r hr) hv

/-- Whatever the pipeline does, every payload and every statement is traced. -/
theorem runs_traced (hspark : d.spark.fromJson "" = none) (h : Runs d s) : Traced d s := by
  refine h.invariant ?_ fun s s' _ htraced hstep => step_traced hspark htraced hstep
  rintro s rfl
  refine ⟨?_, ?_, ?_, ?_, ?_⟩
  · exact fun m hm => absurd hm List.not_mem_nil
  · exact fun m hm => absurd hm List.not_mem_nil
  · exact fun e he => absurd he.choose_spec List.not_mem_nil
  · exact fun st hst => absurd hst List.not_mem_nil
  · exact fun r hr => absurd hr List.not_mem_nil

/-- **Every payload and every statement is that of a text from outside**, in every state that any
order of steps leads to. -/
theorem pipeline_provenance (hspark : d.spark.fromJson "" = none) (h : Runs d s) :
    (∀ m ∈ s.raw, ∀ text, m.value = some text → text ∈ s.offered) ∧
      (∀ e, s.OnDlq e → ∀ v, e.lookup "original_payload" = some v →
        ∃ text ∈ s.offered, v = .str text) ∧
      (∀ r ∈ s.parked, ∀ v, r.fields.lookup "original_payload" = some v →
        ∃ text ∈ s.offered, v = .str text) ∧
      ∀ st ∈ s.executed, ∃ text ∈ s.offered, StatementOf d text st := by
  have htraced := runs_traced hspark h
  refine ⟨htraced.raw, ?_, htraced.parked, htraced.executed⟩
  intro e he v hv
  exact (htraced.dlq e he).payload hspark hv

/-- The general result at a message that was taken by a batch. -/
theorem pipeline_provenance_sample : ∃ s : PipelineState, s.raw = [sampleMessage] ∧
    (∀ m ∈ s.raw, ∀ text, m.value = some text → text ∈ s.offered) ∧
      (∀ e, s.OnDlq e → ∀ v, e.lookup "original_payload" = some v →
        ∃ text ∈ s.offered, v = .str text) ∧
      (∀ r ∈ s.parked, ∀ v, r.fields.lookup "original_payload" = some v →
        ∃ text ∈ s.offered, v = .str text) ∧
      ∀ st ∈ s.executed, ∃ text ∈ s.offered, StatementOf sampleDeployment text st := by
  obtain ⟨s, hruns, hraw, -⟩ := exists_run_sampleMessage
  exact ⟨s, hraw, pipeline_provenance (by decide) hruns⟩

end TripPipeline.Flow
