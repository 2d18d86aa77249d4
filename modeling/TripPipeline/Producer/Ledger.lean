import TripPipeline.Producer.Shutdown

/-!
# The counts of a run

Every call of `_send` ends in an accepted message or in a give-up, every accepted message is in
flight until its callback, and every failed payload is pending until a drain. The counters follow:

* `callLoop_ends`: the rule for the retry loop, by how it ends.
* `Booked`: the invariant; `poll_booked`, `toDlq_booked` and `drainFailures_booked` are its step
  lemmas.
* `Accounts`: with the sends counted; `send_accounts` is the step, `mainLoop_accounts` the run.
* `run_ledger`: so the report adds up, for every client: what was generated is acknowledged, handed
  to the DLQ topic, logged as lost, or still at the client.
-/

namespace TripPipeline.Producer

open TripPipeline.Common TripPipeline.Lib

/-! ## The retry loop -/

section loop

variable {σ α : Type} {fn : ℕ → σ → Except Exc α × σ} {P : σ → Prop} {Q : σ → Prop}

/-- What holds when the loop ends: `Q` after a success, `P` otherwise; and the statistics count one
success or one give-up. -/
def EndsWith (P Q : σ → Prop) (stats : RetryStats) (run : CallRun σ α) : Prop :=
  match run.result with
  | .returned _ => Q run.state ∧ run.stats.successes = stats.successes + 1 ∧
      run.stats.failuresExhausted = stats.failuresExhausted
  | .exhausted _ _ => P run.state ∧ run.stats.successes = stats.successes ∧
      run.stats.failuresExhausted = stats.failuresExhausted + 1
  | .raised _ => True

/-- **The rule for the retry loop**: a failed call keeps `P`, a successful one leads to `Q`. -/
theorem callLoop_ends (herror : ∀ k s e s', P s → fn k s = (.error e, s') → P s')
    (hok : ∀ k s a s', P s → fn k s = (.ok a, s') → Q s') (cfg : RetryConfig)
    (retryOn giveUpOn : List ExcType) (draw : ℕ → ℚ) (maxAttempts left attempt : ℕ)
    (stats : RetryStats) {s : σ} (h : P s) :
    EndsWith P Q stats
      (callLoop fn cfg retryOn giveUpOn draw maxAttempts left attempt stats s) := by
  induction left generalizing attempt stats s with
  | zero =>
      unfold callLoop
      rcases hout : fn attempt s with ⟨e | a, s'⟩
      · have hs' := herror _ _ _ _ h hout
        dsimp only
        split_ifs
        · exact ⟨hs', rfl, rfl⟩
        · exact ⟨hs', rfl, rfl⟩
        · trivial
      · exact ⟨hok _ _ _ _ h hout, rfl, rfl⟩
  | succ left ih =>
      unfold callLoop
      rcases hout : fn attempt s with ⟨e | a, s'⟩
      · have hs' := herror _ _ _ _ h hout
        dsimp only
        split_ifs
        · exact ⟨hs', rfl, rfl⟩
        -- the loop goes on, after a wait or without one
        · exact ih _ _ hs'
        · exact ih _ _ hs'
        · trivial
      · exact ⟨hok _ _ _ _ h hout, rfl, rfl⟩

end loop

/-! ## The invariant -/

/-- The messages of the main topic in the client's queue. -/
def inFlight (s : Runner) : ℕ := s.queue.countP fun m => m.onDelivery

/-- The log line tells of a lost event. -/
def LogEntry.isLoss : LogEntry → Bool
  | .eventLost _ _ => true
  | .undelivered _ => false

/-- The events that are logged as lost. -/
def lost (s : Runner) : ℕ := s.log.countP LogEntry.isLoss

/-- The counters agree, with so many calls of `_send` given up and so many payloads pending. -/
structure Booked (gaveUp pending : ℕ) (s : Runner) : Prop where
  accepted : s.accepted.length = s.acked + s.failed + inFlight s
  quarantined : s.dlqCount + lost s + pending = gaveUp + s.failed
  acked : s.acked = s.delivered.length
  envelopes : s.dlqCount = s.dlqSent.length
  partitions : s.partitionCounts.total = s.acked

/-- At the beginning nothing is on the books. -/
theorem booked_init : Booked 0 0 Runner.init := ⟨rfl, rfl, rfl, rfl, rfl⟩

variable {client : Client} {conf : Conf} {gaveUp pending : ℕ} {s : Runner}

/-- What only the retry statistics, the count of sends and the log line of a flush differ in. -/
structure SameCounts (s s' : Runner) : Prop where
  accepted : s'.accepted = s.accepted
  acked : s'.acked = s.acked
  failed : s'.failed = s.failed
  dlqCount : s'.dlqCount = s.dlqCount
  partitionCounts : s'.partitionCounts = s.partitionCounts
  queue : s'.queue = s.queue
  delivered : s'.delivered = s.delivered
  dlqSent : s'.dlqSent = s.dlqSent
  lost : lost s' = lost s

/-- The books depend on the counts alone. -/
theorem Booked.congr {s' : Runner} (h : Booked gaveUp pending s) (hsame : SameCounts s s') :
    Booked gaveUp pending s' := by
  refine ⟨?_, ?_, ?_, ?_, ?_⟩
  · rw [hsame.accepted, hsame.acked, hsame.failed, inFlight, hsame.queue]
    exact h.accepted
  · rw [hsame.dlqCount, hsame.lost, hsame.failed]
    exact h.quarantined
  · rw [hsame.acked, hsame.delivered]
    exact h.acked
  · rw [hsame.dlqCount, hsame.dlqSent]
    exact h.envelopes
  · rw [hsame.partitionCounts, hsame.acked]
    exact h.partitions

/-! ## Callbacks -/

/-- What `n` callbacks of the main topic do to the counters. -/
structure Counted (n : ℕ) (s s' : Runner) : Prop where
  settled : s'.acked + s'.failed = s.acked + s.failed + n
  failed : s'.failed + s.failedPayloads.length = s.failed + s'.failedPayloads.length
  delivered : s'.acked + s.delivered.length = s.acked + s'.delivered.length
  partitions : s'.partitionCounts.total + s.acked = s.partitionCounts.total + s'.acked
  dlqCount : s'.dlqCount = s.dlqCount
  sent : s'.sent = s.sent
  retryStats : s'.retryStats = s.retryStats

/-- Counting a key once more adds 1 to the total. -/
theorem total_add_one (c : Counter ℤ) (k : ℤ) : (c.add k 1).total = c.total + 1 := by
  rw [Counter.total_eq_card, Counter.total_eq_card, Counter.toMultiset_add, Multiset.card_add]
  simp

/-- A callback is counted when its message asked for one. -/
theorem counted_callback (s : Runner) (r : Sent × Delivery) :
    Counted (if r.1.onDelivery then 1 else 0) s (s.callback r) := by
  obtain ⟨m, delivery⟩ := r
  unfold Runner.callback Runner.onDelivery
  rcases hm : m.onDelivery with _ | _
  · rw [if_neg (by simp), if_neg (by simp)]
    exact ⟨rfl, rfl, rfl, rfl, rfl, rfl, rfl⟩
  · rw [if_pos rfl, if_pos rfl]
    rcases delivery with partition | err
    · refine ⟨?_, rfl, ?_, ?_, rfl, rfl, rfl⟩
      · dsimp only
        omega
      · simp
        omega
      · dsimp only
        rw [total_add_one]
        omega
    · refine ⟨?_, ?_, rfl, rfl, rfl, rfl, rfl⟩
      · dsimp only
        omega
      · simp
        omega

/-- The callbacks of a poll count the messages that asked for one. -/
theorem counted_foldl (settled : List (Sent × Delivery)) (s : Runner) :
    Counted (settled.countP fun r => r.1.onDelivery) s (settled.foldl Runner.callback s) := by
  induction settled generalizing s with
  | nil => exact ⟨rfl, rfl, rfl, rfl, rfl, rfl, rfl⟩
  | cons r settled ih =>
      obtain ⟨h₁, h₂, h₃, h₄, h₅, h₆, h₇⟩ := counted_callback s r
      obtain ⟨i₁, i₂, i₃, i₄, i₅, i₆, i₇⟩ := ih (s.callback r)
      rw [List.foldl_cons, List.countP_cons]
      refine ⟨?_, ?_, ?_, ?_, i₅.trans h₅, i₆.trans h₆, i₇.trans h₇⟩ <;> omega

/-- A poll counts the messages it served that asked for a callback. -/
theorem counted_poll (client : Client) (s : Runner) :
    Counted ((serve Sent.call s.queue (client.reports s.calls)).1.countP fun r => r.1.onDelivery)
      { s with
        calls := s.calls + 1
        queue := (serve Sent.call s.queue (client.reports s.calls)).2 } (s.poll client) :=
  counted_foldl _ _

/-- **A `poll` or `flush` settles what it serves.** -/
theorem poll_booked (h : Booked gaveUp s.failedPayloads.length s) :
    Booked gaveUp (s.poll client).failedPayloads.length (s.poll client) := by
  have hcalled := called_poll client s
  have hcounted := counted_poll client s
  have hqueue : inFlight s =
      (serve Sent.call s.queue (client.reports s.calls)).1.countP (fun r => r.1.onDelivery) +
        inFlight (s.poll client) := by
    have hperm := (serve_perm Sent.call s.queue (client.reports s.calls)).countP_eq
      (fun m : Sent => m.onDelivery)
    rw [List.countP_append, List.countP_map] at hperm
    rw [inFlight, inFlight, hcalled.queue]
    exact hperm.symm
  have hlost : lost (s.poll client) = lost s := congrArg (List.countP _) hcalled.log
  have haccepted := congrArg List.length hcalled.accepted
  have henvelopes := congrArg List.length hcalled.dlqSent
  obtain ⟨h₁, h₂, h₃, h₄, h₅⟩ := h
  obtain ⟨c₁, c₂, c₃, c₄, c₅, -, -⟩ := hcounted
  dsimp only at *
  refine ⟨?_, ?_, ?_, ?_, ?_⟩ <;> omega

/-! ## Handing a payload to the DLQ -/

/-- A payload that is handed over was pending, or is that of a send given up. -/
theorem toDlq_booked {gaveUp' pending' : ℕ} (hstep : gaveUp' + pending = gaveUp + pending' + 1)
    (origin : Option Sent) (payload reason stage : String) (retries : ℤ)
    (h : Booked gaveUp pending s) :
    Booked gaveUp' pending' (s.toDlq client conf origin payload reason stage retries) := by
  obtain ⟨h₁, h₂, h₃, h₄, h₅⟩ := h
  rcases toDlq_cases client conf origin payload reason stage retries s with
    ⟨d, rec', hd, -, heq⟩ | ⟨error, heq⟩
  · rw [heq]
    refine ⟨?_, ?_, h₃, ?_, h₅⟩
    · rw [inFlight] at h₁ ⊢
      rw [List.countP_append]
      simpa [hd] using h₁
    · show s.dlqCount + 1 + lost s + pending' = gaveUp' + s.failed
      omega
    · rw [List.length_append, ← h₄]
      rfl
  · rw [heq]
    refine ⟨h₁, ?_, h₃, h₄, h₅⟩
    have hone : lost { s with
        calls := s.calls + 1
        log := s.log ++ [.eventLost origin error] } = lost s + 1 := List.countP_append
    show s.dlqCount + lost _ + pending' = gaveUp' + s.failed
    rw [hone]
    omega

/-- The count of sends, the retry statistics and the history of the main topic are left alone. -/
structure Kept (s s' : Runner) : Prop where
  sent : s'.sent = s.sent
  retryStats : s'.retryStats = s.retryStats
  accepted : s'.accepted = s.accepted

/-- Giving an event up keeps the counts of the others. -/
theorem toDlq_kept (origin : Option Sent) (payload reason stage : String) (retries : ℤ)
    (s : Runner) : Kept s (s.toDlq client conf origin payload reason stage retries) := by
  rcases toDlq_cases client conf origin payload reason stage retries s with
    ⟨d, rec', -, -, heq⟩ | ⟨error, heq⟩
  · rw [heq]
    exact ⟨rfl, rfl, rfl⟩
  · rw [heq]
    exact ⟨rfl, rfl, rfl⟩

/-- The loop of `_drain_failures`. -/
theorem drain_booked (pending : List (Sent × String)) (s : Runner)
    (h : Booked gaveUp pending.length s) :
    Booked gaveUp 0 (pending.foldl (fun s p => s.toDlq client conf (some p.1) p.1.payload p.2
        stageProducer conf.retryCfg.maxAttempts) s) ∧
      Kept s (pending.foldl (fun s p => s.toDlq client conf (some p.1) p.1.payload p.2
        stageProducer conf.retryCfg.maxAttempts) s) ∧
      (pending.foldl (fun s p => s.toDlq client conf (some p.1) p.1.payload p.2
        stageProducer conf.retryCfg.maxAttempts) s).failedPayloads = s.failedPayloads := by
  induction pending generalizing s with
  | nil => exact ⟨h, ⟨rfl, rfl, rfl⟩, rfl⟩
  | cons p pending ih =>
      rw [List.foldl_cons]
      have honly := toDlq_only client conf (some p.1) p.1.payload p.2 stageProducer
        conf.retryCfg.maxAttempts s
      have hkept : Kept s (s.toDlq client conf (some p.1) p.1.payload p.2 stageProducer
        conf.retryCfg.maxAttempts) := toDlq_kept _ _ _ _ _ s
      have hstep : gaveUp + (p :: pending).length = gaveUp + pending.length + 1 := rfl
      obtain ⟨hbooked, hrest, hsame⟩ := ih _ (toDlq_booked hstep _ _ _ _ _ h)
      exact ⟨hbooked, ⟨hrest.sent.trans hkept.sent, hrest.retryStats.trans hkept.retryStats,
        hrest.accepted.trans hkept.accepted⟩, hsame.trans honly.failedPayloads⟩

/-- **A drain hands over every pending payload.** -/
theorem drainFailures_booked (h : Booked gaveUp s.failedPayloads.length s) :
    Booked gaveUp (s.drainFailures client conf).failedPayloads.length
        (s.drainFailures client conf) ∧ Kept s (s.drainFailures client conf) := by
  have hstart : Booked gaveUp s.failedPayloads.length { s with failedPayloads := [] } :=
    ⟨h.accepted, h.quarantined, h.acked, h.envelopes, h.partitions⟩
  obtain ⟨hbooked, hkept, hnone⟩ := @drain_booked client conf gaveUp _ _ hstart
  unfold Runner.drainFailures
  rw [hnone]
  exact ⟨hbooked, hkept.sent, hkept.retryStats, hkept.accepted⟩

/-! ## Sending -/

/-- The runner between client calls: so many messages accepted, sends counted and given up. -/
structure Steady (accepted sent gaveUp : ℕ) (s : Runner) : Prop where
  booked : Booked gaveUp s.failedPayloads.length s
  length : s.accepted.length = accepted
  sent : s.sent = sent

/-- A poll keeps the books in balance. -/
theorem poll_steady {accepted sent : ℕ} (h : Steady accepted sent gaveUp s) :
    Steady accepted sent gaveUp (s.poll client) where
  booked := poll_booked h.booked
  length := by
    rw [(called_poll client s).accepted]
    exact h.length
  sent := (counted_poll client s).sent.trans h.sent

/-- A call of `attempt` has the message accepted, or changes nothing that is counted. -/
theorem attempt_steady {accepted sent : ℕ} {key : PyVal} {payload : String}
    (h : Steady accepted sent gaveUp s) :
    (∀ e s', s.attempt client conf key payload = (.error e, s') →
        Steady accepted sent gaveUp s') ∧
      ∀ u s', s.attempt client conf key payload = (.ok u, s') →
        Steady (accepted + 1) sent gaveUp s' := by
  obtain ⟨⟨h₁, h₂, h₃, h₄, h₅⟩, hlength, hsent⟩ := h
  unfold Runner.attempt Runner.produceOnce Runner.produce
  rcases client.produce s.calls s.queue.length with _ | e
  · refine ⟨fun e s' heq => (nomatch congrArg Prod.fst heq), fun u s' heq => ?_⟩
    obtain rfl := congrArg Prod.snd heq
    refine ⟨⟨?_, h₂, h₃, h₄, h₅⟩, ?_, hsent⟩
    · rw [inFlight, List.countP_append, List.length_append]
      simp only [List.countP_singleton, List.length_singleton, if_true]
      rw [h₁]
      exact Nat.add_assoc _ _ _
    · rw [List.length_append, hlength]
      rfl
  · refine ⟨fun e' s' heq => ?_, fun u s' heq => (nomatch congrArg Prod.fst heq)⟩
    obtain rfl := congrArg Prod.snd heq
    have hsame : Steady accepted sent gaveUp { s with calls := s.calls + 1 } :=
      ⟨⟨h₁, h₂, h₃, h₄, h₅⟩, hlength, hsent⟩
    dsimp only
    split_ifs
    · exact poll_steady hsame
    · exact hsame

/-- The runner before its next send, with what it was given so far. -/
structure Accounts (offered : ℕ) (s : Runner) : Prop where
  steady : Steady s.sent s.sent s.retryStats.failuresExhausted s
  successes : s.sent = s.retryStats.successes
  offered : offered = s.sent + s.retryStats.failuresExhausted

/-- At the beginning no event has been offered. -/
theorem accounts_init : Accounts 0 Runner.init := ⟨⟨booked_init, rfl, rfl⟩, rfl, rfl⟩

/-- A poll keeps every offered event accounted for. -/
theorem poll_accounts {offered : ℕ} (h : Accounts offered s) :
    Accounts offered (s.poll client) := by
  obtain ⟨hsteady, hsuccesses, hoffered⟩ := h
  have hcounted := counted_poll client s
  have hsent := hcounted.sent
  have hstats := hcounted.retryStats
  dsimp only at hsent hstats
  refine ⟨?_, ?_, ?_⟩
  · rw [hsent, hstats]
    exact poll_steady hsteady
  · rw [hsent, hstats]
    exact hsuccesses
  · rw [hsent, hstats]
    exact hoffered

/-- **A send is a success or a give-up.** -/
theorem send_accounts {offered : ℕ} {key : PyVal} {payload : String} {s' : Runner}
    (h : Accounts offered s) (hsend : s.send client conf key payload = .ok s') :
    Accounts (offered + 1) s' := by
  obtain ⟨hsteady, hsuccesses, hoffered⟩ := h
  have hends : EndsWith (Steady s.sent s.sent s.retryStats.failuresExhausted)
      (Steady (s.sent + 1) s.sent s.retryStats.failuresExhausted) s.retryStats
      (callWithRetry (fun _ s => s.attempt client conf key payload) conf.retryCfg
        [.bufferError, .kafkaException] [] (client.draw s.calls) s.retryStats s) :=
    callLoop_ends (fun _ t e t' ht heq => (attempt_steady ht).1 e t' heq)
      (fun _ t u t' ht heq => (attempt_steady ht).2 u t' heq) _ _ _ _ _ _ _ _ hsteady
  unfold Runner.send at hsend
  revert hsend hends
  generalize callWithRetry (fun _ s => s.attempt client conf key payload) conf.retryCfg
    [.bufferError, .kafkaException] [] (client.draw s.calls) s.retryStats s = loop
  intro hsend hends
  obtain ⟨result, stats, state, sleeps⟩ := loop
  rcases result with u | ⟨attempts, e⟩ | e
  · obtain ⟨⟨hbooked, hlength, hsent⟩, hsuccess, hgaveUp⟩ := hends
    obtain rfl := Except.ok.inj hsend
    dsimp only at *
    have hbooked' : Booked stats.failuresExhausted state.failedPayloads.length state := by
      rw [hgaveUp]
      exact hbooked
    refine ⟨⟨⟨hbooked'.accepted, hbooked'.quarantined, hbooked'.acked, hbooked'.envelopes,
      hbooked'.partitions⟩, ?_, rfl⟩, ?_, ?_⟩
    · show state.accepted.length = state.sent + 1
      rw [hlength, hsent]
    · show state.sent + 1 = stats.successes
      rw [hsent, hsuccess, hsuccesses]
    · show offered + 1 = state.sent + 1 + stats.failuresExhausted
      rw [hsent, hgaveUp, hoffered]
      exact Nat.add_right_comm _ _ _
  · obtain ⟨⟨hbooked, hlength, hsent⟩, hsuccess, hgaveUp⟩ := hends
    obtain rfl := Except.ok.inj hsend
    dsimp only at *
    have hstep : stats.failuresExhausted + state.failedPayloads.length =
        s.retryStats.failuresExhausted + state.failedPayloads.length + 1 := by
      rw [hgaveUp]
      exact Nat.add_right_comm _ _ _
    have hbooked' : Booked stats.failuresExhausted state.failedPayloads.length
        ({ state with retryStats := stats }.toDlq client conf none payload e.reason stageProducer
          attempts) :=
      toDlq_booked hstep _ _ _ _ _ ⟨hbooked.accepted, hbooked.quarantined, hbooked.acked,
        hbooked.envelopes, hbooked.partitions⟩
    have honly := toDlq_only client conf none payload e.reason stageProducer attempts
      { state with retryStats := stats }
    obtain ⟨hsent', hstats', haccepted⟩ : Kept { state with retryStats := stats }
        ({ state with retryStats := stats }.toDlq client conf none payload e.reason stageProducer
          attempts) := toDlq_kept _ _ _ _ _ _
    refine ⟨⟨?_, ?_, rfl⟩, ?_, ?_⟩
    · rw [hstats', honly.failedPayloads]
      exact hbooked'
    · rw [haccepted, hsent']
      exact hlength.trans hsent.symm
    · rw [hsent', hstats', hsent, hsuccess]
      exact hsuccesses
    · rw [hsent', hstats', hsent, hgaveUp, hoffered]
      rfl
  · cases hsend

/-! ## The main loop -/

/-- Giving up what failed keeps every offered event accounted for. -/
theorem drainFailures_accounts {offered : ℕ} (h : Accounts offered s) :
    Accounts offered (s.drainFailures client conf) := by
  obtain ⟨hsteady, hsuccesses, hoffered⟩ := h
  obtain ⟨hbooked, hsent, hstats, haccepted⟩ := @drainFailures_booked client conf _ _
    hsteady.booked
  refine ⟨⟨?_, ?_, rfl⟩, ?_, ?_⟩
  · rw [hstats]
    exact hbooked
  · rw [haccepted, hsent]
    exact hsteady.length
  · rw [hsent, hstats]
    exact hsuccesses
  · rw [hsent, hstats]
    exact hoffered

/-- The loop's own counts, and the runner's. -/
structure LoopAccounts (l : Loop) : Prop where
  runner : Accounts (l.generated + l.dupEmitted) l.runner
  dup : l.dupEmitted ≤ l.generated

section run

variable {args : Args} {gen : Gen} {t0 : ℚ}

/-- An event is offered once, or with its duplicate twice. -/
theorem emit_accounts {l l' : Loop} (h : LoopAccounts l)
    (hemit : emit client conf args gen l = .ok l') : LoopAccounts l' := by
  obtain ⟨hrunner, hdup⟩ := h
  unfold emit at hemit
  obtain ⟨key, -, hemit⟩ := bind_eq_ok_iff.mp hemit
  obtain ⟨s, hs, hemit⟩ := bind_eq_ok_iff.mp hemit
  have hone := send_accounts hrunner hs
  dsimp only at hemit
  split_ifs at hemit
  · obtain ⟨key', -, hemit⟩ := bind_eq_ok_iff.mp hemit
    obtain ⟨s', hs', hemit⟩ := bind_eq_ok_iff.mp hemit
    obtain rfl := Except.ok.inj hemit
    refine ⟨?_, Nat.succ_le_succ hdup⟩
    have htwo := send_accounts hone hs'
    have hcount : l.generated + 1 + (l.dupEmitted + 1) = l.generated + l.dupEmitted + 1 + 1 := by
      omega
    rw [← hcount] at htwo
    exact htwo
  · obtain rfl := Except.ok.inj hemit
    refine ⟨?_, Nat.le_succ_of_le hdup⟩
    rw [← Nat.add_right_comm] at hone
    exact hone

/-- A turn of the loop accounts for the events it generated. -/
theorem turn_accounts {r : Reading} {l l' : Loop} (h : LoopAccounts l)
    (hturn : turn client conf args gen t0 r l = .ok l') : LoopAccounts l' := by
  unfold turn at hturn
  dsimp only at hturn
  by_cases hwait : 0 < args.rate ∧ behind args t0 r.now l.generated ≤ 0
  · rw [if_pos hwait] at hturn
    obtain rfl := Except.ok.inj hturn
    exact ⟨poll_accounts h.runner, h.dup⟩
  · rw [if_neg hwait] at hturn
    obtain ⟨l₁, hloop, hturn⟩ := bind_eq_ok_iff.mp hturn
    obtain rfl := Except.ok.inj hturn
    have hl : LoopAccounts l₁ := foldlM_rec (P := fun _ l => LoopAccounts l) hloop h
      fun _ _ _ _ hl hemit => emit_accounts hl hemit
    exact ⟨drainFailures_accounts (poll_accounts hl.runner), hl.dup⟩

/-- The loop accounts for the events it generated. -/
theorem mainLoop_accounts {readings : List Reading} {l l' : Loop} (h : LoopAccounts l)
    (hrun : mainLoop client conf args gen t0 readings l = .ok (some l')) : LoopAccounts l' := by
  induction readings generalizing l with
  | nil => cases hrun
  | cons r readings ih =>
      rw [mainLoop] at hrun
      split_ifs at hrun
      · obtain ⟨l₁, hturn, hrun⟩ := bind_eq_ok_iff.mp hrun
        exact ih (turn_accounts h hturn) hrun
      · obtain rfl := Option.some.inj (Except.ok.inj hrun)
        exact h

/-- The flush keeps every offered event accounted for. -/
theorem flushWarn_accounts {offered : ℕ} (h : Accounts offered s) :
    Accounts offered (flushWarn client s) := by
  have hpoll : Accounts offered (s.poll client) := poll_accounts h
  unfold flushWarn Runner.flush
  dsimp only
  split_ifs
  · obtain ⟨⟨hbooked, hlength, hsent⟩, hsuccesses, hoffered⟩ := hpoll
    refine ⟨⟨⟨hbooked.accepted, ?_, hbooked.acked, hbooked.envelopes, hbooked.partitions⟩,
      hlength, hsent⟩, hsuccesses, hoffered⟩
    have hlost : ∀ q, (s.poll client).log.countP LogEntry.isLoss =
        ((s.poll client).log ++ [LogEntry.undelivered q]).countP LogEntry.isLoss := by
      intro q
      simp [LogEntry.isLoss]
    have hquarantined := hbooked.quarantined
    unfold lost at hquarantined ⊢
    rw [hlost] at hquarantined
    exact hquarantined
  · exact hpoll

/-- **The report of a run adds up.** -/
structure Ledger (rep : Report) (s : Runner) : Prop where
  /-- What was generated, with the duplicates, is acknowledged, on the DLQ topic, logged as lost, in
  the client's queue, or pending. -/
  conserved : rep.generated + rep.duplicatesEmitted =
    rep.acked + rep.dlq + lost s + inFlight s + s.failedPayloads.length
  /-- Every send succeeded or was given up. -/
  sends : rep.generated + rep.duplicatesEmitted =
    rep.appRetryStats.successes + rep.appRetryStats.failuresExhausted
  /-- Every send that succeeded was acknowledged, failed, or has no report yet. -/
  reports : rep.appRetryStats.successes = rep.acked + rep.deliveryFailures + inFlight s
  duplicates : rep.duplicatesEmitted ≤ rep.generated
  acked : rep.acked = s.delivered.length
  envelopes : rep.dlq = s.dlqSent.length
  partitions : rep.partitionCounts.total = rep.acked

/-- **The report of every run adds up**, whatever the client answers and in whatever order it serves
its reports. -/
theorem run_ledger {readings : List Reading} {rep : Report}
    (h : run client conf args gen t0 readings = .ok (some (rep, s))) : Ledger rep s := by
  obtain ⟨last, hlast, hs, hrep⟩ := (run_eq_some_iff client conf).mp h
  obtain ⟨loop, hloop, hlast⟩ := bind_eq_ok_iff.mp hlast
  rcases loop with _ | l
  · cases hlast
  obtain rfl := Option.some.inj (Except.ok.inj hlast)
  have hstart : LoopAccounts ⟨.init, 0, 0⟩ := ⟨accounts_init, le_rfl⟩
  have hl := mainLoop_accounts hstart hloop
  have hend : Accounts (l.generated + l.dupEmitted) s := by
    rw [hs]
    exact poll_accounts (drainFailures_accounts (flushWarn_accounts hl.runner))
  dsimp only at hrep
  subst hrep
  obtain ⟨⟨hbooked, hlength, -⟩, hsuccesses, hoffered⟩ := hend
  have haccepted := hbooked.accepted
  have hquarantined := hbooked.quarantined
  rw [hlength] at haccepted
  refine ⟨?_, ?_, ?_, hl.dup, hbooked.acked, hbooked.envelopes, ?_⟩
  · show l.generated + l.dupEmitted = s.acked + s.dlqCount + lost s + inFlight s + _
    omega
  · show l.generated + l.dupEmitted = s.retryStats.successes + s.retryStats.failuresExhausted
    omega
  · show s.retryStats.successes = s.acked + s.failed + inFlight s
    omega
  · show s.partitionCounts.sortKeys.total = s.acked
    rw [Counter.total_eq_card, Counter.toMultiset_sortKeys, ← Counter.total_eq_card]
    exact hbooked.partitions

end run

/-- One event, whose delivery fails in the last flush. -/
theorem run_ledger_sample : ∃ rep s,
    run (sampleClient (.failed timedOut)) sampleConf sampleArgs sampleGen 0 sampleReadings =
      .ok (some (rep, s)) ∧ Ledger rep s := by
  have hrun := (run_eq_some_iff (sampleClient (.failed timedOut)) sampleConf).mpr
    ⟨_, runToLastFlush_sample (.failed timedOut), rfl, rfl⟩
  exact ⟨_, _, hrun, run_ledger hrun⟩

end TripPipeline.Producer
