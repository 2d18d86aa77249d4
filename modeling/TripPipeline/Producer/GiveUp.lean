import TripPipeline.Producer.Shutdown

/-!
# Giving up on an event

`_send` retries while the client's queue is full, polling after each `BufferError`, and hands the
event to the DLQ topic when its attempts are spent. The envelope goes through the same client and
the same queue, and unlike an event it is offered once.

* `sendLoop_exhausted`: the client an envelope meets is the one the refused attempts leave behind.
* `reachesDlq_iff_accepts`: what is given up reaches the DLQ topic iff that client accepts.
* `relieved_lt_iff`: it has room iff the reports that as many polls as attempts serve make room.
* **`reachesDlq_iff`** puts them together. `crowded_loses`: while no report comes, what was given up
  because of the full queue is refused by the full queue, and is lost.
-/

namespace TripPipeline.Producer

open TripPipeline.Common TripPipeline.Lib

/-! ## A bounded queue -/

/-- The queue holds `capacity` messages, and `produce` raises `BufferError` exactly when it is full,
whatever the topic. -/
structure Client.Bounded (client : Client) (capacity : ℕ) : Prop where
  full : ∀ call queued, capacity ≤ queued →
    ∃ e, client.produce call queued = some e ∧ e.isInstance [.bufferError] = true
  room : ∀ call queued e, queued < capacity → client.produce call queued = some e →
    e.isInstance [.bufferError] = false

/-- The queue that a poll leaves. -/
def Client.polled (client : Client) (call : ℕ) (queue : List Sent) : List Sent :=
  (serve Sent.call queue (client.reports call)).2

/-- The queue after `n` polls, each after a refused `produce`, from a client call on. -/
def Client.relieved (client : Client) : (n call : ℕ) → List Sent → List Sent
  | 0, _, queue => queue
  | n + 1, call, queue => client.relieved n (call + 2) (client.polled (call + 1) queue)

/-- What a refused attempt does to the client: its next call and its queue. -/
def Client.refuse (client : Client) (capacity : ℕ) (c : ℕ × List Sent) : ℕ × List Sent :=
  if capacity ≤ c.2.length then (c.1 + 2, client.polled (c.1 + 1) c.2) else (c.1 + 1, c.2)

/-- Serving the queue makes it no longer. -/
theorem length_polled_le (client : Client) (call : ℕ) (queue : List Sent) :
    (client.polled call queue).length ≤ queue.length := by
  have hperm := (serve_perm Sent.call queue (client.reports call)).length_eq
  rw [List.length_append] at hperm
  unfold Client.polled
  omega

/-- Serving the queue several times makes it no longer. -/
theorem length_relieved_le (client : Client) (n call : ℕ) (queue : List Sent) :
    (client.relieved n call queue).length ≤ queue.length := by
  induction n generalizing call queue with
  | zero => exact Nat.le_refl _
  | succ n ih => exact (ih _ _).trans (length_polled_le client _ queue)

/-- Where there is room, attempts are refused without a poll. -/
theorem iterate_refuse_of_room {client : Client} {capacity : ℕ} (n call : ℕ) {queue : List Sent}
    (h : queue.length < capacity) :
    (client.refuse capacity)^[n] (call, queue) = (call + n, queue) := by
  induction n generalizing call with
  | zero => rfl
  | succ n ih =>
      have hstep : client.refuse capacity (call, queue) = (call + 1, queue) :=
        if_neg (Nat.not_le.mpr h)
      rw [Function.iterate_succ_apply, hstep, ih, Nat.add_assoc, Nat.add_comm 1]

/-- **Room at the end is room made by the polls**: an attempt that is refused for another reason
than a full queue finds room, and then there is room to the end. -/
theorem relieved_lt_iff (client : Client) (capacity n call : ℕ) (queue : List Sent) :
    ((client.refuse capacity)^[n] (call, queue)).2.length < capacity ↔
      (client.relieved n call queue).length < capacity := by
  induction n generalizing call queue with
  | zero => exact Iff.rfl
  | succ n ih =>
      by_cases hfull : capacity ≤ queue.length
      · have hstep : client.refuse capacity (call, queue) =
            (call + 2, client.polled (call + 1) queue) := if_pos hfull
        rw [Function.iterate_succ_apply, hstep]
        exact ih (call + 2) (client.polled (call + 1) queue)
      · have hroom : queue.length < capacity := Nat.lt_of_not_le hfull
        rw [iterate_refuse_of_room (n + 1) call hroom]
        exact iff_of_true hroom ((length_relieved_le client (n + 1) call queue).trans_lt hroom)

/-! ## Giving up -/

/-- The client after `max_attempts` refused attempts: its next call and its queue. -/
def Client.atGiveUp (client : Client) (capacity : ℕ) (conf : Conf) (s : Runner) : ℕ × List Sent :=
  (client.refuse capacity)^[attemptBudget conf.retryCfg] (s.calls, s.queue)

section giveUp

variable (client : Client) (conf : Conf)

/-- The retry loop of `_send`. -/
def Runner.sendLoop (key : PyVal) (payload : String) (s : Runner) : CallRun Runner Unit :=
  callWithRetry (fun _ s => s.attempt client conf key payload) conf.retryCfg
    [.bufferError, .kafkaException] [] (client.draw s.calls) s.retryStats s

/-- The runner after it. -/
def Runner.afterLoop (key : PyVal) (payload : String) (s : Runner) : Runner :=
  { (s.sendLoop client conf key payload).state with
    retryStats := (s.sendLoop client conf key payload).stats }

/-- `_send` exhausts its retry budget. -/
def GivesUp (s : Runner) (key : PyVal) (payload : String) : Prop :=
  ∃ attempts e, (s.sendLoop client conf key payload).result = .exhausted attempts e

/-- `_send` returns, and has put an envelope of the payload on the DLQ topic. -/
def ReachesDlq (s : Runner) (key : PyVal) (payload : String) : Prop :=
  ∃ s' queue d rec', s.send client conf key payload = .ok s' ∧
    s'.queue = queue ++ [d] ∧ d.topic = conf.dlqTopic ∧
    d.payload = conf.codec.dumps rec'.asdict ∧ rec'.originalPayload = payload ∧
    s'.dlqSent = s.dlqSent ++ [(none, rec')]

variable {client conf} {s : Runner} {key : PyVal} {payload : String} {capacity : ℕ}

/-- A callback makes no call of the client. -/
theorem callback_calls (s : Runner) (r : Sent × Delivery) : (s.callback r).calls = s.calls := by
  unfold Runner.callback Runner.onDelivery
  split_ifs
  · cases r.2 <;> rfl
  · rfl

/-- A poll is one call of the client. -/
theorem poll_calls (client : Client) (s : Runner) : (s.poll client).calls = s.calls + 1 := by
  have hfold : ∀ (settled : List (Sent × Delivery)) (s : Runner),
      (settled.foldl Runner.callback s).calls = s.calls := by
    intro settled
    induction settled with
    | nil => exact fun _ => rfl
    | cons r settled ih => exact fun s => (ih (s.callback r)).trans (callback_calls s r)
  exact hfold _ _

/-- **A refused attempt**: at a full queue it polls, otherwise it only counts as a call. -/
theorem attempt_refused (hclient : client.Bounded capacity) {e : Exc} {s' : Runner}
    (h : s.attempt client conf key payload = (.error e, s')) :
    (s'.calls, s'.queue) = client.refuse capacity (s.calls, s.queue) := by
  unfold Runner.attempt Runner.produceOnce Runner.produce at h
  by_cases hfull : capacity ≤ s.queue.length
  · obtain ⟨x, hx, hbuffer⟩ := hclient.full s.calls s.queue.length hfull
    have hcalled := called_poll client { s with calls := s.calls + 1 }
    simp only [hx, hbuffer, if_true, Prod.mk.injEq] at h
    rw [← h.2, poll_calls, hcalled.queue, Client.refuse, if_pos hfull]
    rfl
  · cases hx : client.produce s.calls s.queue.length with
    | none => simp [hx] at h
    | some x =>
        have hbuffer := hclient.room s.calls s.queue.length x (Nat.lt_of_not_le hfull) hx
        simp only [hx, hbuffer, Bool.false_eq_true, if_false, Prod.mk.injEq] at h
        rw [← h.2, Client.refuse, if_neg hfull]

/-- An attempt at sending an event sends nothing to the DLQ topic. -/
theorem attempt_dlqSent (client : Client) (conf : Conf) (key : PyVal) (payload : String)
    (s : Runner) : (s.attempt client conf key payload).2.dlqSent = s.dlqSent := by
  unfold Runner.attempt Runner.produceOnce Runner.produce
  cases client.produce s.calls s.queue.length with
  | none => rfl
  | some x =>
      dsimp only
      split_ifs
      · exact (called_poll client { s with calls := s.calls + 1 }).dlqSent
      · rfl

/-- The client that an envelope meets, and what has been put on the DLQ topic before it. -/
theorem sendLoop_exhausted (hclient : client.Bounded capacity)
    (h : GivesUp client conf s key payload) :
    ((s.afterLoop client conf key payload).calls, (s.afterLoop client conf key payload).queue) =
      client.atGiveUp capacity conf s ∧
    (s.afterLoop client conf key payload).dlqSent = s.dlqSent := by
  obtain ⟨attempts, e, h⟩ := h
  have hbudget : attemptBudget conf.retryCfg - 1 + 1 = attemptBudget conf.retryCfg :=
    Nat.sub_add_cancel (by unfold attemptBudget; omega)
  constructor
  · rw [Client.atGiveUp, ← hbudget]
    exact callLoop_exhausted (v := fun s : Runner => (s.calls, s.queue))
      (fun _ _ _ _ hattempt => attempt_refused hclient hattempt) _ _ _ _ _ _ _ h
  · exact callLoop_state (P := fun t : Runner => t.dlqSent = s.dlqSent)
      (fun _ t ht => (attempt_dlqSent client conf key payload t).trans ht) _ _ _ _ _ _ _ _ rfl

/-- What is given up is handed to the DLQ topic. -/
theorem send_of_exhausted {attempts : ℕ} {e : Exc}
    (h : (s.sendLoop client conf key payload).result = .exhausted attempts e) :
    s.send client conf key payload = .ok ((s.afterLoop client conf key payload).toDlq client conf
      none payload e.reason stageProducer attempts) := by
  unfold Runner.afterLoop Runner.send
  unfold Runner.sendLoop at h ⊢
  simp only [h]

section toDlq

variable (client conf)
variable (origin : Option Sent) (payload reason stage : String) (retries : ℤ)

/-- An envelope that the client accepts is in the queue, for the DLQ topic. -/
theorem toDlq_accepted (h : client.produce s.calls s.queue.length = none) :
    ∃ d rec', (s.toDlq client conf origin payload reason stage retries).queue = s.queue ++ [d] ∧
      d.topic = conf.dlqTopic ∧ d.payload = conf.codec.dumps rec'.asdict ∧
      rec'.originalPayload = payload ∧
      (s.toDlq client conf origin payload reason stage retries).dlqSent =
        s.dlqSent ++ [(origin, rec')] := by
  unfold Runner.toDlq Runner.produce
  rw [h]
  exact ⟨_, _, rfl, rfl, rfl, rfl, rfl⟩

/-- An envelope that it refuses is logged as lost. -/
theorem toDlq_refused {e : Exc} (h : client.produce s.calls s.queue.length = some e) :
    s.toDlq client conf origin payload reason stage retries =
      { s with
        calls := s.calls + 1
        log := s.log ++ [.eventLost origin e.text] } := by
  unfold Runner.toDlq Runner.produce
  rw [h]

end toDlq

/-- **What is given up reaches the DLQ topic iff the client accepts the envelope.** -/
theorem reachesDlq_iff_accepts (hclient : client.Bounded capacity)
    (h : GivesUp client conf s key payload) :
    ReachesDlq client conf s key payload ↔
      client.produce (client.atGiveUp capacity conf s).1
        (client.atGiveUp capacity conf s).2.length = none := by
  obtain ⟨hleft, hdlqSent⟩ := sendLoop_exhausted hclient h
  obtain ⟨attempts, e, hresult⟩ := h
  have hsend := send_of_exhausted hresult
  rw [← hleft]
  dsimp only
  constructor
  · rintro ⟨s', queue, d, rec', hs', -, -, -, -, hrec⟩
    cases hproduce : client.produce (s.afterLoop client conf key payload).calls
        (s.afterLoop client conf key payload).queue.length with
    | none => rfl
    | some x =>
        rw [hsend, Except.ok.injEq, toDlq_refused client conf _ _ _ _ _ hproduce] at hs'
        rw [← hs', hdlqSent] at hrec
        simp at hrec
  · intro hproduce
    obtain ⟨d, rec', hqueue, htopic, hvalue, hpayload, hrec⟩ :=
      toDlq_accepted client conf none payload e.reason stageProducer attempts hproduce
    rw [hdlqSent] at hrec
    exact ⟨_, _, d, rec', hsend, hqueue, htopic, hvalue, hpayload, hrec⟩

/-- The client refuses the envelope for no other reason than a full queue. -/
def Client.Admits (client : Client) (capacity : ℕ) (conf : Conf) (s : Runner) : Prop :=
  ∀ e, client.produce (client.atGiveUp capacity conf s).1
    (client.atGiveUp capacity conf s).2.length = some e → e.isInstance [.bufferError] = true

/-- **What is given up reaches the DLQ topic iff the polls make room for it**: the reports that as
many polls as attempts serve bring the queue below its capacity, and the client has no other reason
to refuse the envelope. -/
theorem reachesDlq_iff (hclient : client.Bounded capacity)
    (h : GivesUp client conf s key payload) :
    ReachesDlq client conf s key payload ↔
      (client.relieved (attemptBudget conf.retryCfg) s.calls s.queue).length < capacity ∧
        client.Admits capacity conf s := by
  rw [reachesDlq_iff_accepts hclient h, ← relieved_lt_iff, ← Client.atGiveUp, Client.Admits]
  generalize client.atGiveUp capacity conf s = c
  constructor
  · intro hnone
    refine ⟨?_, fun e he => absurd (hnone.symm.trans he) (Option.some_ne_none e).symm⟩
    by_contra hfull
    obtain ⟨e, he, -⟩ := hclient.full c.1 c.2.length (Nat.le_of_not_lt hfull)
    exact absurd (hnone.symm.trans he) (Option.some_ne_none e).symm
  · rintro ⟨hroom, hadmits⟩
    rw [Option.eq_none_iff_forall_ne_some]
    intro e he
    have hbuffer := hadmits e he
    rw [hclient.room c.1 c.2.length e hroom he] at hbuffer
    exact absurd hbuffer Bool.false_ne_true

end giveUp

/-! ## A queue of one message -/

/-- The client holds one message, and the poll at call `relief` serves the report of the first. -/
def crowdedClient (relief : ℕ) : Client where
  produce _ queued :=
    if 1 ≤ queued then some ⟨"BufferError", "Local: Queue full", [.bufferError]⟩ else none
  reports call := if call = relief then [(0, .delivered 0)] else []
  draw _ _ := 1 / 2
  nowMs _ := 1700000001000

/-- The sample client has room for one message. -/
theorem crowdedClient_bounded (relief : ℕ) : (crowdedClient relief).Bounded 1 := by
  constructor
  · intro call queued h
    exact ⟨_, if_pos h, rfl⟩
  · intro call queued e h he
    cases (if_neg (Nat.not_le.mpr h)).symm.trans he

/-- The runner after one event, whose message is in flight. -/
def busyRunner : Runner :=
  { sampleRunner with
    calls := 1
    log := [] }

/-- The report comes in time, in the poll after the last attempt. -/
theorem reachesDlq_iff_late :
    ReachesDlq (crowdedClient 8) sampleConf busyRunner sampleSent.key sampleText := by
  apply (reachesDlq_iff (crowdedClient_bounded 8) ⟨4, _, rfl⟩).mpr
  refine ⟨by decide, ?_⟩
  intro e he
  cases he

/-- The report comes too late: the envelope meets the queue that was full for the event. -/
theorem crowded_loses :
    (crowdedClient 10).Bounded 1 ∧
      GivesUp (crowdedClient 10) sampleConf busyRunner sampleSent.key sampleText ∧
      ¬ReachesDlq (crowdedClient 10) sampleConf busyRunner sampleSent.key sampleText ∧
      ∃ s', busyRunner.send (crowdedClient 10) sampleConf sampleSent.key sampleText = .ok s' ∧
        s'.log = [.eventLost none "Local: Queue full"] ∧ s'.queue = [sampleSent] := by
  have hgive : GivesUp (crowdedClient 10) sampleConf busyRunner sampleSent.key sampleText :=
    ⟨4, _, rfl⟩
  refine ⟨crowdedClient_bounded 10, hgive, ?_, _, rfl, rfl, rfl⟩
  rw [reachesDlq_iff_accepts (crowdedClient_bounded 10) hgive]
  intro hnone
  cases hnone

end TripPipeline.Producer
