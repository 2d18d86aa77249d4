import TripPipeline.Producer.Run

/-!
# What happens to the messages of a run

Every message the client accepts on the main topic must end in one of three places: a successful
callback, the DLQ path, or the undelivered count of the log. `Held` is the invariant every step
keeps: until then, a message is still in the client's queue, or among the failed payloads that the
next drain hands over.

* `mainLoop_held`: it holds at every turn of the main loop.
* `closing_drain`: before the last flush no failed payload is left, and the log has counted what is
  still in flight.
* **The last flush decides** (`run_accounted_iff`): a run accounts for every message, with no failed
  payload left, exactly when the last flush serves no failure of a message of the main topic.
* `last_flush_strands`: a run in which it does; nothing drains the payload any more.
-/

namespace TripPipeline.Producer

open TripPipeline.Common TripPipeline.Lib

/-! ## The law -/

/-- The payload of a message went to the DLQ topic, or is logged as lost. -/
def Quarantined (s : Runner) (m : Sent) : Prop :=
  (∃ rec', (some m, rec') ∈ s.dlqSent ∧ rec'.originalPayload = m.payload) ∨
    ∃ error, LogEntry.eventLost (some m) error ∈ s.log

/-- No message is lost quietly. -/
structure Accounted (s : Runner) : Prop where
  settled : ∀ m ∈ s.accepted, m ∈ s.delivered ∨ Quarantined s m ∨
    (m ∈ s.queue ∧ ∃ queue, LogEntry.undelivered queue ∈ s.log ∧ m ∈ queue)
  drained : s.failedPayloads = []

/-- Where a message can be: settled, in flight, or pending. -/
def Placed (pending : List (Sent × String)) (s : Runner) (m : Sent) : Prop :=
  m ∈ s.delivered ∨ Quarantined s m ∨ m ∈ s.queue ∨ ∃ err, (m, err) ∈ pending

/-- Every accepted message is somewhere. -/
structure Settles (pending : List (Sent × String)) (s : Runner) : Prop where
  tracked : ∀ m ∈ s.accepted, m.onDelivery = true
  held : ∀ m ∈ s.accepted, Placed pending s m

/-- The histories only grow. -/
theorem Quarantined.mono {s s' : Runner} {m : Sent} (h : Quarantined s m)
    (hdlq : s.dlqSent ⊆ s'.dlqSent) (hlog : s.log ⊆ s'.log) : Quarantined s' m := by
  rcases h with ⟨rec', hmem, hpayload⟩ | ⟨error, hmem⟩
  · exact Or.inl ⟨rec', hdlq hmem, hpayload⟩
  · exact Or.inr ⟨error, hlog hmem⟩

/-- **A step on which no message is accepted** keeps the invariant when it finds a place for what
was in flight and for what was pending. -/
theorem Settles.move {s s' : Runner} {pending pending' : List (Sent × String)}
    (h : Settles pending s) (haccepted : s'.accepted = s.accepted)
    (hdelivered : s.delivered ⊆ s'.delivered) (hdlq : s.dlqSent ⊆ s'.dlqSent)
    (hlog : s.log ⊆ s'.log)
    (hqueue : ∀ m ∈ s.queue, m.onDelivery = true → Placed pending' s' m)
    (hpending : ∀ m err, (m, err) ∈ pending → Placed pending' s' m) : Settles pending' s' := by
  constructor
  · rw [haccepted]
    exact h.tracked
  · rw [haccepted]
    intro m hm
    rcases h.held m hm with hmem | hquarantined | hmem | ⟨err, hmem⟩
    · exact Or.inl (hdelivered hmem)
    · exact Or.inr (Or.inl (hquarantined.mono hdlq hlog))
    · exact hqueue m hmem (h.tracked m hm)
    · exact hpending m err hmem

/-- A message in the queue, and a pending one, are somewhere. -/
theorem Placed.of_queue {s : Runner} {pending : List (Sent × String)} {m : Sent}
    (h : m ∈ s.queue) : Placed pending s m := Or.inr (Or.inr (Or.inl h))

/-- An event that waits for its retry has its place. -/
theorem Placed.of_pending {s : Runner} {pending : List (Sent × String)} {m : Sent} {err : String}
    (h : (m, err) ∈ pending) : Placed pending s m := Or.inr (Or.inr (Or.inr ⟨err, h⟩))

/-! ## Callbacks -/

/-- The failures among served reports. -/
def failures (settled : List (Sent × Delivery)) : List (Sent × String) :=
  settled.filterMap fun r =>
    match r.1.onDelivery, r.2 with
    | true, .failed err => some (r.1, err)
    | _, _ => none

/-- The successes among served reports. -/
def successes (settled : List (Sent × Delivery)) : List Sent :=
  settled.filterMap fun r =>
    match r.1.onDelivery, r.2 with
    | true, .delivered _ => some r.1
    | _, _ => none

/-- What callbacks do: failures are kept, successes recorded, and nothing else that matters here. -/
structure Called (settled : List (Sent × Delivery)) (s s' : Runner) : Prop where
  accepted : s'.accepted = s.accepted
  queue : s'.queue = s.queue
  log : s'.log = s.log
  dlqSent : s'.dlqSent = s.dlqSent
  delivered : s'.delivered = s.delivered ++ successes settled
  failedPayloads : s'.failedPayloads = s.failedPayloads ++ failures settled

/-- A callback settles its message. -/
theorem called_callback (s : Runner) (r : Sent × Delivery) : Called [r] s (s.callback r) := by
  obtain ⟨m, delivery⟩ := r
  unfold Runner.callback Runner.onDelivery
  rcases hm : m.onDelivery with _ | _
  · rw [if_neg (by simp)]
    constructor <;> simp [successes, failures, hm]
  · rw [if_pos rfl]
    rcases delivery with partition | err <;> constructor <;> simp [successes, failures, hm]

/-- The callbacks of a poll settle its messages. -/
theorem called_foldl (settled : List (Sent × Delivery)) (s : Runner) :
    Called settled s (settled.foldl Runner.callback s) := by
  induction settled generalizing s with
  | nil =>
      constructor <;> simp [successes, failures]
  | cons r settled ih =>
      have hone := called_callback s r
      have hrest := ih (s.callback r)
      rw [List.foldl_cons]
      refine ⟨hrest.accepted.trans hone.accepted, hrest.queue.trans hone.queue,
        hrest.log.trans hone.log, hrest.dlqSent.trans hone.dlqSent, ?_, ?_⟩
      · rw [hrest.delivered, hone.delivered, List.append_assoc]
        exact congrArg _ List.filterMap_append.symm
      · rw [hrest.failedPayloads, hone.failedPayloads, List.append_assoc]
        exact congrArg _ List.filterMap_append.symm

variable {client : Client} {conf : Conf} {s : Runner} {pending : List (Sent × String)}

/-- The failures of the main topic that a `poll` or `flush` serves from this state. -/
def servedFailures (client : Client) (s : Runner) : List (Sent × String) :=
  failures (serve Sent.call s.queue (client.reports s.calls)).1

/-- A poll settles what it served. -/
theorem called_poll (client : Client) (s : Runner) :
    Called (serve Sent.call s.queue (client.reports s.calls)).1
      { s with
        calls := s.calls + 1
        queue := (serve Sent.call s.queue (client.reports s.calls)).2 } (s.poll client) :=
  called_foldl _ _

/-- A message that was in flight is left there, or has had its callback. -/
theorem poll_settles (h : Settles pending s) :
    Settles (pending ++ servedFailures client s) (s.poll client) := by
  have hcalled := called_poll client s
  apply h.move hcalled.accepted
  · rw [hcalled.delivered]
    exact List.subset_append_left _ _
  · rw [hcalled.dlqSent]
    exact List.Subset.refl _
  · rw [hcalled.log]
    exact List.Subset.refl _
  · intro m hm htracked
    rcases mem_or_mem_serve Sent.call (client.reports s.calls) hm with ⟨d, hd⟩ | hleft
    · rcases d with partition | err
      · left
        rw [hcalled.delivered]
        refine List.mem_append_right _ (List.mem_filterMap.mpr ⟨_, hd, ?_⟩)
        simp [htracked]
      · have hserved : (m, err) ∈ servedFailures client s := by
          refine List.mem_filterMap.mpr ⟨_, hd, ?_⟩
          simp [htracked]
        exact Placed.of_pending (List.mem_append_right _ hserved)
    · apply Placed.of_queue
      rw [hcalled.queue]
      exact hleft
  · intro m err hm
    exact Placed.of_pending (List.mem_append_left _ hm)

/-- The invariant of a run: what is not settled is in flight or among the failed payloads. -/
def Held (s : Runner) : Prop := Settles s.failedPayloads s

/-- A poll loses no event. -/
theorem poll_held (h : Held s) : Held (s.poll client) := by
  unfold Held
  rw [(called_poll client s).failedPayloads]
  exact poll_settles h

/-! ## Handing a payload to the DLQ -/

variable (client : Client) (conf : Conf)

/-- **What `_to_dlq` does**: the envelope is enqueued, or its loss is logged. -/
theorem toDlq_cases (origin : Option Sent) (payload reason stage : String) (retries : ℤ)
    (s : Runner) :
    (∃ d rec', d.onDelivery = false ∧ rec'.originalPayload = payload ∧
      s.toDlq client conf origin payload reason stage retries =
        { s with
          calls := s.calls + 1
          queue := s.queue ++ [d]
          dlqCount := s.dlqCount + 1
          dlqSent := s.dlqSent ++ [(origin, rec')] }) ∨
      ∃ error, s.toDlq client conf origin payload reason stage retries =
        { s with
          calls := s.calls + 1
          log := s.log ++ [.eventLost origin error] } := by
  unfold Runner.toDlq Runner.produce
  rcases client.produce s.calls s.queue.length with _ | e
  · exact Or.inl ⟨_, _, rfl, rfl, rfl⟩
  · exact Or.inr ⟨e.text, rfl⟩

/-- What handing payloads over leaves alone. -/
structure DlqOnly (s s' : Runner) : Prop where
  accepted : s'.accepted = s.accepted
  delivered : s'.delivered = s.delivered
  failedPayloads : s'.failedPayloads = s.failedPayloads
  dlqSent : s.dlqSent ⊆ s'.dlqSent
  log : s.log ⊆ s'.log
  queue_subset : s.queue ⊆ s'.queue
  /-- No message of the main topic is added. -/
  of_mem_queue : ∀ m ∈ s'.queue, m.onDelivery = true → m ∈ s.queue

/-- Doing nothing touches the DLQ topic only. -/
theorem DlqOnly.refl (s : Runner) : DlqOnly s s :=
  ⟨rfl, rfl, rfl, List.Subset.refl _, List.Subset.refl _, List.Subset.refl _, fun _ hm _ => hm⟩

/-- Two steps that touch the DLQ topic only. -/
theorem DlqOnly.trans {s₁ s₂ s₃ : Runner} (h : DlqOnly s₁ s₂) (h' : DlqOnly s₂ s₃) :
    DlqOnly s₁ s₃ :=
  ⟨h'.accepted.trans h.accepted, h'.delivered.trans h.delivered,
    h'.failedPayloads.trans h.failedPayloads, List.Subset.trans h.dlqSent h'.dlqSent,
    List.Subset.trans h.log h'.log, List.Subset.trans h.queue_subset h'.queue_subset,
    fun m hm htracked => h.of_mem_queue m (h'.of_mem_queue m hm htracked) htracked⟩

/-- Giving an event up touches the DLQ topic only. -/
theorem toDlq_only (origin : Option Sent) (payload reason stage : String) (retries : ℤ)
    (s : Runner) : DlqOnly s (s.toDlq client conf origin payload reason stage retries) := by
  rcases toDlq_cases client conf origin payload reason stage retries s with
    ⟨d, rec', hd, -, heq⟩ | ⟨error, heq⟩
  · rw [heq]
    refine ⟨rfl, rfl, rfl, List.subset_append_left _ _, List.Subset.refl _,
      List.subset_append_left _ _, ?_⟩
    intro m hm htracked
    rcases List.mem_append.mp hm with hm | hm
    · exact hm
    · rw [List.mem_singleton.mp hm, hd] at htracked
      cases htracked
  · rw [heq]
    exact ⟨rfl, rfl, rfl, List.Subset.refl _, List.subset_append_left _ _, List.Subset.refl _,
      fun _ hm _ => hm⟩

/-- The message whose payload was handed over is quarantined. -/
theorem toDlq_quarantined (m : Sent) (reason stage : String) (retries : ℤ) (s : Runner) :
    Quarantined (s.toDlq client conf (some m) m.payload reason stage retries) m := by
  rcases toDlq_cases client conf (some m) m.payload reason stage retries s with
    ⟨d, rec', -, hpayload, heq⟩ | ⟨error, heq⟩
  · rw [heq]
    exact Or.inl ⟨rec', List.mem_append_right _ (List.mem_singleton_self _), hpayload⟩
  · rw [heq]
    exact Or.inr ⟨error, List.mem_append_right _ (List.mem_singleton_self _)⟩

/-- What only adds to the DLQ keeps the invariant. -/
theorem Settles.dlqOnly {s' : Runner} (h : Settles pending s) (honly : DlqOnly s s') :
    Settles pending s' := by
  apply h.move honly.accepted _ honly.dlqSent honly.log
  · intro m hm _
    exact Placed.of_queue (honly.queue_subset hm)
  · intro m err hm
    exact Placed.of_pending hm
  · rw [honly.delivered]
    exact List.Subset.refl _

/-- Giving an event up loses no other. -/
theorem toDlq_held (origin : Option Sent) (payload reason stage : String) (retries : ℤ)
    (h : Held s) : Held (s.toDlq client conf origin payload reason stage retries) := by
  have honly := toDlq_only client conf origin payload reason stage retries s
  unfold Held
  rw [honly.failedPayloads]
  exact h.dlqOnly honly

/-- A pending payload that is handed over need not be pending any more. -/
theorem Settles.drop {p : Sent × String} (h : Settles (p :: pending) s)
    (hp : Quarantined s p.1) : Settles pending s := by
  apply h.move rfl (List.Subset.refl _) (List.Subset.refl _) (List.Subset.refl _)
  · intro m hm _
    exact Placed.of_queue hm
  · intro m err hm
    rcases List.mem_cons.mp hm with rfl | hm
    · exact Or.inr (Or.inl hp)
    · exact Placed.of_pending hm

/-- The loop of `_drain_failures`. -/
theorem drain_settles (pending : List (Sent × String)) (s : Runner) (h : Settles pending s) :
    Settles [] (pending.foldl (fun s p => s.toDlq client conf (some p.1) p.1.payload p.2
        stageProducer conf.retryCfg.maxAttempts) s) ∧
      DlqOnly s (pending.foldl (fun s p => s.toDlq client conf (some p.1) p.1.payload p.2
        stageProducer conf.retryCfg.maxAttempts) s) := by
  induction pending generalizing s with
  | nil => exact ⟨h, DlqOnly.refl s⟩
  | cons p pending ih =>
      rw [List.foldl_cons]
      have honly := toDlq_only client conf (some p.1) p.1.payload p.2 stageProducer
        conf.retryCfg.maxAttempts s
      have hdrop := (h.dlqOnly honly).drop
        (toDlq_quarantined client conf p.1 p.2 stageProducer _ s)
      obtain ⟨hrest, hrestOnly⟩ := ih _ hdrop
      exact ⟨hrest, honly.trans hrestOnly⟩

/-- **After a drain nothing is pending.** -/
theorem drainFailures_settles (h : Held s) :
    Settles [] (s.drainFailures client conf) ∧
      DlqOnly { s with failedPayloads := [] } (s.drainFailures client conf) :=
  drain_settles client conf s.failedPayloads { s with failedPayloads := [] } ⟨h.tracked, h.held⟩

/-- Giving up what failed loses no event. -/
theorem drainFailures_held (h : Held s) : Held (s.drainFailures client conf) := by
  obtain ⟨hsettles, honly⟩ := drainFailures_settles client conf h
  unfold Held
  rw [honly.failedPayloads]
  exact hsettles

/-! ## Sending -/

/-- Handing an event to the client loses none. -/
theorem produceOnce_held (key : PyVal) (payload : String) (h : Held s) :
    Held (s.produceOnce client conf key payload).2 := by
  unfold Runner.produceOnce Runner.produce
  rcases client.produce s.calls s.queue.length with _ | e
  · constructor
    · intro m hm
      rcases List.mem_append.mp hm with hm | hm
      · exact h.tracked m hm
      · rw [List.mem_singleton.mp hm]
    · intro m hm
      rcases List.mem_append.mp hm with hm | hm
      · rcases h.held m hm with hdelivered | hquarantined | hqueue | ⟨err, hpending⟩
        · exact Or.inl hdelivered
        · exact Or.inr (Or.inl hquarantined)
        · exact Placed.of_queue (List.mem_append_left _ hqueue)
        · exact Placed.of_pending hpending
      · exact Placed.of_queue (List.mem_append_right _ hm)
  · exact ⟨h.tracked, h.held⟩

/-- An attempt loses no event. -/
theorem attempt_held (key : PyVal) (payload : String) (h : Held s) :
    Held (s.attempt client conf key payload).2 := by
  have hproduce := produceOnce_held client conf key payload h
  unfold Runner.attempt
  rcases hout : s.produceOnce client conf key payload with ⟨e | u, s'⟩ <;> rw [hout] at hproduce
  · dsimp only
    split_ifs
    · exact poll_held hproduce
    · exact hproduce
  · exact hproduce

/-- Sending with retries loses no event. -/
theorem send_held {key : PyVal} {payload : String} {s' : Runner} (h : Held s)
    (hsend : s.send client conf key payload = .ok s') : Held s' := by
  have hloop : Held (callWithRetry (fun _ s => s.attempt client conf key payload) conf.retryCfg
      [.bufferError, .kafkaException] [] (client.draw s.calls) s.retryStats s).state :=
    callLoop_state (P := Held) (fun _ _ hs => attempt_held client conf key payload hs)
      _ _ _ _ _ _ _ _ h
  unfold Runner.send at hsend
  revert hsend hloop
  generalize callWithRetry (fun _ s => s.attempt client conf key payload) conf.retryCfg
    [.bufferError, .kafkaException] [] (client.draw s.calls) s.retryStats s = loop
  intro hsend hloop
  obtain ⟨result, stats, state, sleeps⟩ := loop
  rcases result with u | ⟨attempts, e⟩ | e
  · obtain rfl := Except.ok.inj hsend
    exact ⟨hloop.tracked, hloop.held⟩
  · obtain rfl := Except.ok.inj hsend
    have hstate : Held { state with retryStats := stats } := ⟨hloop.tracked, hloop.held⟩
    exact toDlq_held client conf none payload e.reason stageProducer attempts hstate
  · cases hsend

/-! ## The main loop -/

section run

variable (args : Args) (gen : Gen) (t0 : ℚ)

/-- Generating and sending an event loses none. -/
theorem emit_held {l l' : Loop} (h : Held l.runner)
    (hemit : emit client conf args gen l = .ok l') : Held l'.runner := by
  unfold emit at hemit
  obtain ⟨key, hkey, hemit⟩ := bind_eq_ok_iff.mp hemit
  obtain ⟨s, hs, hemit⟩ := bind_eq_ok_iff.mp hemit
  have hs := send_held client conf h hs
  dsimp only at hemit
  split_ifs at hemit
  · obtain ⟨key', hkey', hemit⟩ := bind_eq_ok_iff.mp hemit
    obtain ⟨s', hs', hemit⟩ := bind_eq_ok_iff.mp hemit
    obtain rfl := Except.ok.inj hemit
    exact send_held client conf hs hs'
  · obtain rfl := Except.ok.inj hemit
    exact hs

/-- A turn of the loop loses no event. -/
theorem turn_held {r : Reading} {l l' : Loop} (h : Held l.runner)
    (hturn : turn client conf args gen t0 r l = .ok l') : Held l'.runner := by
  unfold turn at hturn
  dsimp only at hturn
  by_cases hwait : 0 < args.rate ∧ behind args t0 r.now l.generated ≤ 0
  · rw [if_pos hwait] at hturn
    obtain rfl := Except.ok.inj hturn
    exact poll_held h
  · rw [if_neg hwait] at hturn
    obtain ⟨l₁, hloop, hturn⟩ := bind_eq_ok_iff.mp hturn
    obtain rfl := Except.ok.inj hturn
    have hheld : Held l₁.runner :=
      foldlM_rec (P := fun _ l => Held l.runner) hloop h
        fun _ _ _ _ hl hemit => emit_held client conf args gen hl hemit
    exact drainFailures_held client conf (poll_held hheld)

/-- The loop loses no event. -/
theorem mainLoop_held {readings : List Reading} {l l' : Loop} (h : Held l.runner)
    (hrun : mainLoop client conf args gen t0 readings l = .ok (some l')) : Held l'.runner := by
  induction readings generalizing l with
  | nil => cases hrun
  | cons r readings ih =>
      rw [mainLoop] at hrun
      split_ifs at hrun
      · obtain ⟨l₁, hturn, hrun⟩ := bind_eq_ok_iff.mp hrun
        exact ih (turn_held client conf args gen t0 h hturn) hrun
      · obtain rfl := Option.some.inj (Except.ok.inj hrun)
        exact h

end run

/-! ## Shutdown -/

/-- The flush loses no event. -/
theorem flushWarn_held (h : Held s) : Held (flushWarn client s) := by
  have hpoll : Held (s.poll client) := poll_held h
  unfold flushWarn Runner.flush
  dsimp only
  split_ifs
  · refine Settles.move hpoll rfl (List.Subset.refl _) (List.Subset.refl _)
      (List.subset_append_left _ _) ?_ ?_
    · intro m hm _
      exact Placed.of_queue hm
    · intro m err hm
      exact Placed.of_pending hm
  · exact hpoll

/-- **The warning counts every message it leaves in flight.** -/
theorem flushWarn_logged {m : Sent} (hm : m ∈ (flushWarn client s).queue) :
    LogEntry.undelivered (flushWarn client s).queue ∈ (flushWarn client s).log := by
  revert hm
  unfold flushWarn Runner.flush
  dsimp only
  split_ifs with h
  · intro _
    exact List.mem_append_right _ (List.mem_singleton_self _)
  · intro hm
    rw [not_not] at h
    rw [List.eq_nil_of_length_eq_zero h] at hm
    cases hm

/-- **Before the last flush**: nothing is pending, and what is in flight has been counted. -/
structure Closing (s : Runner) : Prop where
  settles : Settles [] s
  drained : s.failedPayloads = []
  counted : ∀ m ∈ s.queue, m.onDelivery = true →
    ∃ queue, LogEntry.undelivered queue ∈ s.log ∧ m ∈ queue

/-- After the flush only the envelopes and what did not flush are in the queue. -/
theorem closing_drain (h : Held s) :
    Closing ((flushWarn client s).drainFailures client conf) := by
  obtain ⟨hsettles, honly⟩ := drainFailures_settles client conf (flushWarn_held client h)
  refine ⟨hsettles, honly.failedPayloads, ?_⟩
  intro m hm htracked
  have hqueue := honly.of_mem_queue m hm htracked
  exact ⟨_, honly.log (flushWarn_logged client hqueue), hqueue⟩

/-- A run up to its last flush closes so. -/
theorem closing_of_runToLastFlush {args : Args} {gen : Gen} {t0 : ℚ} {readings : List Reading}
    {l : Loop} (h : runToLastFlush client conf args gen t0 readings = .ok (some l)) :
    Closing l.runner := by
  unfold runToLastFlush at h
  obtain ⟨r, hloop, h⟩ := bind_eq_ok_iff.mp h
  rcases r with _ | l₁
  · cases h
  · obtain rfl := Option.some.inj (Except.ok.inj h)
    apply closing_drain
    refine mainLoop_held client conf args gen t0 ⟨?_, ?_⟩ hloop
    · intro m hm
      cases hm
    · intro m hm
      cases hm

/-- **The last flush decides.** -/
theorem Closing.accounted_iff (h : Closing s) :
    Accounted (s.poll client) ↔ servedFailures client s = [] := by
  have hcalled := called_poll client s
  have hpending : (s.poll client).failedPayloads = servedFailures client s := by
    rw [hcalled.failedPayloads, h.drained]
    rfl
  constructor
  · intro haccounted
    rw [← hpending]
    exact haccounted.drained
  · intro hnone
    have hsettles : Settles [] (s.poll client) := by
      have hpoll : Settles ([] ++ servedFailures client s) (s.poll client) :=
        poll_settles h.settles
      rwa [hnone] at hpoll
    refine ⟨?_, hpending.trans hnone⟩
    intro m hm
    rcases hsettles.held m hm with hdelivered | hquarantined | hqueue | ⟨err, hmem⟩
    · exact Or.inl hdelivered
    · exact Or.inr (Or.inl hquarantined)
    · refine Or.inr (Or.inr ⟨hqueue, ?_⟩)
      rw [hcalled.queue] at hqueue
      rw [hcalled.log]
      exact h.counted m (mem_of_mem_left Sent.call hqueue) (hsettles.tracked m hm)
    · cases hmem

/-- A run ends with its last flush. -/
theorem run_eq_some_iff {args : Args} {gen : Gen} {t0 : ℚ} {readings : List Reading} {rep : Report}
    {s : Runner} : run client conf args gen t0 readings = .ok (some (rep, s)) ↔
      ∃ l, runToLastFlush client conf args gen t0 readings = .ok (some l) ∧
        s = l.runner.poll client ∧ rep = report l.generated l.dupEmitted s := by
  unfold run
  rw [bind_eq_ok_iff]
  constructor
  · rintro ⟨r, hrun, h⟩
    rcases r with _ | l
    · cases h
    · obtain ⟨rfl, rfl⟩ := Prod.mk.inj (Option.some.inj (Except.ok.inj h))
      exact ⟨l, hrun, rfl, rfl⟩
  · rintro ⟨l, hrun, rfl, rfl⟩
    exact ⟨some l, hrun, rfl⟩

/-- **No event is lost quietly iff the last flush serves no failure of the main topic.** -/
theorem run_accounted_iff {client : Client} {conf : Conf} {args : Args} {gen : Gen} {t0 : ℚ}
    {readings : List Reading} {rep : Report} {s : Runner}
    (h : run client conf args gen t0 readings = .ok (some (rep, s))) :
    Accounted s ↔ ∃ l, runToLastFlush client conf args gen t0 readings = .ok (some l) ∧
      servedFailures client l.runner = [] := by
  obtain ⟨l, hrun, rfl, -⟩ := (run_eq_some_iff client conf).mp h
  rw [(closing_of_runToLastFlush client conf hrun).accounted_iff client]
  constructor
  · intro hnone
    exact ⟨l, hrun, hnone⟩
  · rintro ⟨l', hrun', hnone⟩
    rw [hrun] at hrun'
    rw [Option.some.inj (Except.ok.inj hrun')]
    exact hnone

/-! ## One event, one broker down at the end -/

/-- An event of the generator. -/
def sampleEvent : Dict :=
  [("event_id", .str "00000000-0000-4000-8000-000000000001"),
   ("trip_id", .str "00000000-0000-4000-8000-000000000002"),
   ("event_time", .str "2023-11-14T22:13:20.000Z"), ("produced_at_ms", .int 1700000001000),
   ("city_id", .str "nyc"), ("driver_id", .str "d-000001"), ("rider_id", .str "r-000001"),
   ("pickup_zone_id", .int 4), ("dropoff_zone_id", .int 7), ("vehicle_class", .str "comfort"),
   ("payment_type", .str "card"), ("distance_km", .float (7 / 2)), ("duration_sec", .int 600),
   ("fare_amount", .float (25 / 2)), ("surge_multiplier", .float 1), ("status", .str "completed"),
   ("producer_id", .str "p-1"), ("schema_version", .int 1)]

/-- Its text. -/
def sampleText : String :=
  "\x7b\"event_id\":\"00000000-0000-4000-8000-000000000001\"," ++
    "\"trip_id\":\"00000000-0000-4000-8000-000000000002\"," ++
    "\"event_time\":\"2023-11-14T22:13:20.000Z\",\"produced_at_ms\":1700000001000," ++
    "\"city_id\":\"nyc\",\"driver_id\":\"d-000001\",\"rider_id\":\"r-000001\"," ++
    "\"pickup_zone_id\":4,\"dropoff_zone_id\":7,\"vehicle_class\":\"comfort\"," ++
    "\"payment_type\":\"card\",\"distance_km\":3.5,\"duration_sec\":600,\"fare_amount\":12.5," ++
    "\"surge_multiplier\":1.0,\"status\":\"completed\",\"producer_id\":\"p-1\"," ++
    "\"schema_version\":1\x7d"

def sampleConf : Conf where
  topic := "trips.raw"
  dlqTopic := "trips.dlq"
  retryCfg := ⟨[1000, 2000, 4000], 4, 1 / 5⟩
  codec :=
    { loads := fun text => if text = sampleText then some (.dict sampleEvent) else none
      dumps := fun _ => sampleText }
  host := "host"

/-- The client accepts everything, and serves one report, in its last call. -/
def sampleClient (last : Delivery) : Client where
  produce _ _ := none
  reports call := if call = 3 then [(0, last)] else []
  draw _ _ := 1 / 2
  nowMs _ := 1700000001000

/-- One event a second, for two seconds. -/
def sampleArgs : Args := ⟨1, 2, 0⟩

def sampleGen : Gen := ⟨fun _ => sampleEvent, fun _ => 1 / 2⟩

def sampleReadings : List Reading := [⟨true, 1, 1⟩, ⟨true, 3, 3⟩]

/-- The message of the event. -/
def sampleSent : Sent :=
  ⟨0, "trips.raw", .str "00000000-0000-4000-8000-000000000002", sampleText, true⟩

/-- `str(err)` of a message that timed out. -/
def timedOut : String :=
  "KafkaError\x7bcode=_MSG_TIMED_OUT,val=-192,str=\"Local: Message timed out\"\x7d"

/-- The runner before the last flush: the message is in flight and counted. -/
def sampleRunner : Runner where
  sent := 1
  acked := 0
  failed := 0
  dlqCount := 0
  partitionCounts := .empty
  failedPayloads := []
  retryStats := ⟨1, 1, 0, 0, 0, .empty⟩
  calls := 3
  queue := [sampleSent]
  log := [.undelivered [sampleSent]]
  accepted := [sampleSent]
  delivered := []
  dlqSent := []

/-- The sample run sends its one event. -/
theorem emit_sample (last : Delivery) :
    emit (sampleClient last) sampleConf sampleArgs sampleGen ⟨.init, 0, 0⟩ =
      .ok ⟨{ sampleRunner with calls := 1, log := [] }, 1, 0⟩ := by
  unfold emit
  rfl

/-- After a second the sample run is one event behind. -/
theorem behind_sample : behind sampleArgs 0 1 0 = 1 := by
  have hone : fl 1 = 1 := by
    have h := fl_intCast (n := 1) (by norm_num)
    exact_mod_cast h
  have htrunc : trunc 1 = 1 := by
    exact_mod_cast trunc_intCast 1
  rw [behind, sampleArgs]
  dsimp only
  rw [sub_zero, hone, mul_one, hone, htrunc]
  rfl

/-- The first turn of the sample run sends its one event. -/
theorem turn_sample (last : Delivery) :
    turn (sampleClient last) sampleConf sampleArgs sampleGen 0 ⟨true, 1, 1⟩ ⟨.init, 0, 0⟩ =
      .ok ⟨{ sampleRunner with calls := 2, log := [] }, 1, 0⟩ := by
  unfold turn
  dsimp only
  rw [behind_sample, if_neg (by norm_num)]
  have hrange : (List.range (if 0 < sampleArgs.rate then min (1 : ℤ) 2000 else 2000).toNat).foldlM
      (fun l _ => emit (sampleClient last) sampleConf sampleArgs sampleGen l)
      (⟨.init, 0, 0⟩ : Loop) = .ok ⟨{ sampleRunner with calls := 1, log := [] }, 1, 0⟩ := by
    rw [if_pos (by norm_num [sampleArgs]), ← emit_sample last]
    rfl
  rw [hrange]
  rfl

/-- The sample run up to its last flush. -/
theorem runToLastFlush_sample (last : Delivery) :
    runToLastFlush (sampleClient last) sampleConf sampleArgs sampleGen 0 sampleReadings =
      .ok (some ⟨sampleRunner, 1, 0⟩) := by
  have htwo : fl (0 + sampleArgs.duration) = 2 := by
    have h := fl_intCast (n := 2) (by norm_num)
    rw [sampleArgs, zero_add]
    exact_mod_cast h
  have hstop : mainLoop (sampleClient last) sampleConf sampleArgs sampleGen 0 [⟨true, 3, 3⟩]
      ⟨{ sampleRunner with calls := 2, log := [] }, 1, 0⟩ =
        .ok (some ⟨{ sampleRunner with calls := 2, log := [] }, 1, 0⟩) := by
    rw [mainLoop, htwo, if_neg (by norm_num)]
  have hloop : mainLoop (sampleClient last) sampleConf sampleArgs sampleGen 0 sampleReadings
      ⟨.init, 0, 0⟩ = .ok (some ⟨{ sampleRunner with calls := 2, log := [] }, 1, 0⟩) := by
    rw [sampleReadings, mainLoop, htwo, if_pos (by norm_num), turn_sample]
    exact hstop
  rw [runToLastFlush, hloop]
  rfl

/-- The sample run ends with what the last flush serves. -/
theorem run_sample (last : Delivery) :
    run (sampleClient last) sampleConf sampleArgs sampleGen 0 sampleReadings =
      .ok (some (report 1 0 (sampleRunner.poll (sampleClient last)),
        sampleRunner.poll (sampleClient last))) :=
  (run_eq_some_iff _ _).mpr ⟨_, runToLastFlush_sample last, rfl, rfl⟩

/-- With a success in the last flush, the message is accounted for. -/
theorem run_accounted_iff_success :
    Accounted (sampleRunner.poll (sampleClient (.delivered 0))) ↔
      ∃ l, runToLastFlush (sampleClient (.delivered 0)) sampleConf sampleArgs sampleGen 0
          sampleReadings = .ok (some l) ∧
        servedFailures (sampleClient (.delivered 0)) l.runner = [] :=
  run_accounted_iff (run_sample (.delivered 0))

/-- With a failure in the last flush, nothing drains its payload: the message is neither delivered
nor quarantined nor in flight any more. -/
theorem last_flush_strands :
    ∃ rep s, run (sampleClient (.failed timedOut)) sampleConf sampleArgs sampleGen 0
        sampleReadings = .ok (some (rep, s)) ∧
      sampleSent ∈ s.accepted ∧ sampleSent ∉ s.delivered ∧ ¬ Quarantined s sampleSent ∧
        sampleSent ∉ s.queue ∧ (sampleSent, timedOut) ∈ s.failedPayloads ∧
          ¬ Accounted s := by
  refine ⟨_, _, run_sample _, ?_⟩
  have hstate : sampleRunner.poll (sampleClient (.failed timedOut)) =
      { sampleRunner with
        calls := 4
        queue := []
        failed := 1
        failedPayloads := [(sampleSent, timedOut)] } := rfl
  rw [hstate]
  refine ⟨List.mem_singleton_self _, List.not_mem_nil, ?_, List.not_mem_nil,
    List.mem_singleton_self _, ?_⟩
  · rintro (⟨rec', hmem, -⟩ | ⟨error, hmem⟩)
    · cases hmem
    · have heq := List.mem_singleton.mp hmem
      cases heq
  · intro haccounted
    exact absurd haccounted.drained (List.cons_ne_nil _ _)

end TripPipeline.Producer
