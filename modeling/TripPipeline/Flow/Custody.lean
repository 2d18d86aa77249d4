import TripPipeline.Flow.Run
import TripPipeline.Lib.Custody

/-!
# The pipeline loses no message

Whatever fails, dies, starts anew or is drained, and in whatever order: a message of `trips.raw` is
still to be read, or it is `Settled`. The pipeline is a service that delivers at least once, with
`custodyOf` as the abstraction; the proof for a step is one case of `custody_follows`.

`Settled` has three ways: all statements of the message are executed, an envelope of it stands on
the DLQ topic, or the stream job skipped it, because it has no event time and the policy is `dlq`.

* `pipeline_simulates`: the pipeline follows the abstract service.
* `pipeline_keeps_custody`: the result, and that what is settled stays settled.
-/

namespace TripPipeline.Flow

open Relation
open TripPipeline.Common TripPipeline.Lib
open TripPipeline.Streaming TripPipeline.Replay

variable {d : Deployment} {s s' : PipelineState}

/-! ## Settled messages -/

/-- The message is written, or quarantined, or skipped. -/
def Settled (d : Deployment) (s : PipelineState) (m : KafkaMessage) : Prop :=
  Written d.conf.sink.tables s.executed (source d.spark m) ∨
    (∃ e, s.OnDlq e ∧ Envelope (source d.spark m) e) ∨ Skipped d.conf (source d.spark m)

/-- What is settled stays settled as the pipeline grows. -/
theorem Settled.grows {m : KafkaMessage} (h : Settled d s m) (hgrows : Grows s s') :
    Settled d s' m := by
  rcases h with hwritten | ⟨e, he, henvelope⟩ | hskipped
  · exact Or.inl (hwritten.mono fun _ hst => hgrows.executed.subset hst)
  · exact Or.inr (Or.inl ⟨e, hgrows.dlq e he, henvelope⟩)
  · exact Or.inr (Or.inr hskipped)

/-- **What a batch took is settled** when the batch has ended. -/
theorem settled_of_batch {taken : List KafkaMessage} {batch : Frame} {env : BatchEnv}
    {mark : Option ℤ} {out : BatchRun}
    (hpolicy : d.conf.latePolicy = "dlq" ∨ d.conf.latePolicy = "process")
    (hrows : batch.rows.Perm (taken.map (source d.spark)))
    (hout : processBatch d.conf env mark batch = .ok out)
    (hdlq : ∀ m ∈ out.dlq, s.OnDlq m.value) (hexecuted : ∀ st, Executed out st → st ∈ s.executed)
    {m : KafkaMessage} (hm : m ∈ taken) : Settled d s m := by
  have hmem : source d.spark m ∈ batch.rows := hrows.mem_iff.mpr (List.mem_map_of_mem hm)
  rcases processBatch_settles hout hpolicy hmem with
    ⟨ingestedAtMs, stmts, hstmts, hall⟩ | ⟨msg, hmsg, henvelope⟩ | hskipped
  · exact Or.inl ⟨ingestedAtMs, stmts, hstmts, fun st hst => hexecuted st (hall st hst)⟩
  · exact Or.inr (Or.inl ⟨msg.value, hdlq msg hmsg, henvelope⟩)
  · exact Or.inr (Or.inr hskipped)

/-! ## The abstract service -/

/-- The pipeline as a service: it accepts what is published, what waits is not committed. -/
def custodyOf (d : Deployment) (s : PipelineState) : Custody KafkaMessage :=
  ⟨{m | m ∈ s.raw}, {m | m ∈ s.pending}, {m | Settled d s m}⟩

/-- More is settled, nothing else changes. -/
theorem custody_settle (hgrows : Grows s s') (hraw : s'.raw = s.raw)
    (hpending : s'.pending = s.pending) :
    ReflTransGen Custody.Step (custodyOf d s) (custodyOf d s') := by
  have hsettle := Custody.Step.settle (custodyOf d s) {m | Settled d s' m}
  have heq : ({custodyOf d s with
      settled := (custodyOf d s).settled ∪ {m | Settled d s' m}} : Custody KafkaMessage) =
      custodyOf d s' := by
    have hunion : {m | Settled d s m} ∪ {m | Settled d s' m} = {m | Settled d s' m} :=
      Set.union_eq_right.mpr fun m hm => Settled.grows hm hgrows
    unfold custodyOf
    rw [hraw, hpending, hunion]
  rw [heq] at hsettle
  exact .single hsettle

/-- A settled part of what waits leaves. -/
theorem custody_release {mark : Option ℤ} {taken rest : List KafkaMessage}
    (hperm : s.pending.Perm (taken ++ rest)) (hsettled : ∀ m ∈ taken, Settled d s m) :
    ReflTransGen Custody.Step (custodyOf d s) (custodyOf d (s.advance mark rest)) := by
  have hgone : {m | m ∈ s.pending ∧ m ∉ rest} ⊆ (custodyOf d s).settled := by
    rintro m ⟨hm, hrest⟩
    exact hsettled m ((List.mem_append.mp (hperm.mem_iff.mp hm)).resolve_right hrest)
  have hrelease := Custody.Step.release (custodyOf d s) _ hgone
  have heq : ({custodyOf d s with
      waiting := (custodyOf d s).waiting \ {m | m ∈ s.pending ∧ m ∉ rest}} :
        Custody KafkaMessage) = custodyOf d (s.advance mark rest) := by
    have hdiff : {m | m ∈ s.pending} \ {m | m ∈ s.pending ∧ m ∉ rest} = {m | m ∈ rest} := by
      ext m
      constructor
      · rintro ⟨hm, hnot⟩
        by_contra hrest
        exact hnot ⟨hm, hrest⟩
      · intro hrest
        exact ⟨hperm.mem_iff.mpr (List.mem_append_right _ hrest), fun h => h.2 hrest⟩
    show (⟨{m | m ∈ s.raw}, {m | m ∈ s.pending} \ {m | m ∈ s.pending ∧ m ∉ rest},
      {m | Settled d s m}⟩ : Custody KafkaMessage) = _
    rw [hdiff]
    rfl
  rw [heq] at hrelease
  exact .single hrelease

/-- New messages are accepted, and wait. -/
theorem custody_accept (s : PipelineState) (ms : List KafkaMessage) :
    ReflTransGen Custody.Step (custodyOf d s) (custodyOf d (s.publish ms)) := by
  have haccept := Custody.Step.accept (custodyOf d s) {m | m ∈ ms}
  have heq : (⟨(custodyOf d s).accepted ∪ {m | m ∈ ms}, (custodyOf d s).waiting ∪ {m | m ∈ ms},
      (custodyOf d s).settled⟩ : Custody KafkaMessage) = custodyOf d (s.publish ms) := by
    refine Custody.ext ?_ ?_ rfl
    · ext m
      exact List.mem_append.symm
    · ext m
      exact List.mem_append.symm
  rw [heq] at haccept
  exact .single haccept

/-- Texts from outside do not show. -/
theorem custodyOf_offer (s : PipelineState) (texts : List String) :
    custodyOf d (s.offer texts) = custodyOf d s := rfl

/-- Quarantining messages is a run of the abstract model. -/
theorem custody_quarantine (s : PipelineState) (new : List (ℕ × Dict)) :
    ReflTransGen Custody.Step (custodyOf d s) (custodyOf d (s.quarantine new)) := by
  refine custody_settle ?_ rfl rfl
  exact ⟨fun _ ht => ht, fun _ hm => hm,
    fun _ he => PipelineState.onDlq_quarantine.mpr (Or.inl he), List.prefix_rfl⟩

/-- Executing statements is a run of the abstract model. -/
theorem custody_execute (s : PipelineState) (stmts : List Statement) :
    ReflTransGen Custody.Step (custodyOf d s) (custodyOf d (s.execute stmts)) := by
  refine custody_settle ?_ rfl rfl
  exact ⟨fun _ ht => ht, fun _ hm => hm, fun _ he => he, List.prefix_append _ _⟩

/-! ## The simulation -/

/-- **A step of the pipeline is steps of the service.** -/
theorem custody_follows (hpolicy : d.conf.latePolicy = "dlq" ∨ d.conf.latePolicy = "process")
    (h : Step d s s') : ReflTransGen Custody.Step (custodyOf d s) (custodyOf d s') := by
  cases h with
  | publish m =>
      rw [← custodyOf_offer s m.value.toList]
      exact custody_accept _ _
  | giveUp p host payload reason now retryCount topic =>
      rw [← custodyOf_offer s [payload]]
      exact custody_quarantine _ _
  | restart => exact .refl
  | @batch taken rest batch env out new executed hperm hrows hout hnew hkinds hall hsound =>
      -- the effects come first, then the offsets are committed
      have heffects : ReflTransGen Custody.Step (custodyOf d s)
          (custodyOf d ((s.quarantine new).execute executed)) :=
        (custody_quarantine s new).trans (custody_execute _ _)
      refine heffects.trans (custody_release hperm fun m hm => ?_)
      refine settled_of_batch hpolicy hrows hout ?_ ?_ hm
      · intro msg hmsg
        exact PipelineState.onDlq_quarantine.mpr (Or.inr (hnew msg hmsg))
      · intro st hst
        exact List.mem_append_right _ (hall st hst)
  | @abort taken rest batch new executed hperm hrows hnew hsound =>
      exact (custody_quarantine s new).trans (custody_execute _ _)
  | drain hseen hcodec hiso hdry hrun hsent hexecuted hrecords =>
      exact (custody_accept s _).trans (custody_execute _ _)

/-- **The pipeline follows the abstract service.** -/
theorem pipeline_simulates (hpolicy : d.conf.latePolicy = "dlq" ∨ d.conf.latePolicy = "process") :
    Simulation (· = .init) (Step d) Custody.Fresh Custody.Step fun s c => c = custodyOf d s where
  starts := by
    rintro s rfl
    refine ⟨custodyOf d .init, ⟨?_, ?_⟩, rfl⟩
    · exact Set.eq_empty_iff_forall_notMem.mpr fun m hm => absurd hm List.not_mem_nil
    · exact Set.eq_empty_iff_forall_notMem.mpr fun m hm => absurd hm List.not_mem_nil
  follows := by
    rintro s s' c - rfl hstep
    exact ⟨custodyOf d s', custody_follows hpolicy hstep, rfl⟩

/-- A message of `trips.raw` is still to be read, or is settled. -/
theorem settled_or_pending (hpolicy : d.conf.latePolicy = "dlq" ∨ d.conf.latePolicy = "process")
    (h : Runs d s) {m : KafkaMessage} (hm : m ∈ s.raw) : m ∈ s.pending ∨ Settled d s m := by
  obtain ⟨c, hc, rfl⟩ := (pipeline_simulates hpolicy).reachable h
  exact Custody.nothing_lost hc hm

/-- **The pipeline loses no message**: in every state that any order of steps leads to, a message of
`trips.raw` is still to be read or is settled; and what is settled stays so. -/
theorem pipeline_keeps_custody
    (hpolicy : d.conf.latePolicy = "dlq" ∨ d.conf.latePolicy = "process") (h : Runs d s) :
    (∀ m ∈ s.raw, m ∈ s.pending ∨ Settled d s m) ∧
      ∀ s', ReflTransGen (Step d) s s' → ∀ m, Settled d s m → Settled d s' m := by
  refine ⟨fun m hm => settled_or_pending hpolicy h hm, ?_⟩
  intro s' hrun m hm
  obtain ⟨c, hc, rfl⟩ := (pipeline_simulates hpolicy).run h rfl hrun
  exact Custody.settled_subset hc hm

/-- The general result at a message that was taken by a batch. -/
theorem pipeline_keeps_custody_sample :
    ∃ s : PipelineState, s.raw = [sampleMessage] ∧ s.pending = [] ∧
    (∀ m ∈ s.raw, m ∈ s.pending ∨ Settled sampleDeployment s m) ∧
      ∀ s', ReflTransGen (Step sampleDeployment) s s' →
        ∀ m, Settled sampleDeployment s m → Settled sampleDeployment s' m := by
  obtain ⟨s, hruns, hraw, hpending, -⟩ := exists_run_sampleMessage
  exact ⟨s, hraw, hpending, pipeline_keeps_custody (Or.inl rfl) hruns⟩

end TripPipeline.Flow
