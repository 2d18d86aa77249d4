import Mathlib.Algebra.BigOperators.Ring.Finset
import TripPipeline.Bench.Reconcile
import TripPipeline.Lib.Offsets

/-!
# When a scenario counts as drained

`Scenario.run` of `bench/run_scenario.py` measures the end offsets of `trips.raw`, starts the job,
lets a producer run, and then waits: `wait_for_drain` adds up the row counts of the batches that the
stream has reported, until they reach the growth of the end offsets.

* `DrainRun` is the topic, the query with its checkpoint, the progress file and the scenario;
  `DrainRun.next` is what each of them does. The query keeps the batch it has planned until it is
  committed, and a driver that takes over executes it again.
* `next_inv`, `run_inv`: as long as every batch reads only what was persisted since the first
  measurement, and nothing twice, the reported batches stay inside of the target, without a common
  message.
* `drained_read`: then a scenario that counts as drained has read every message of the target.
* `runsDue_of_steady`: so it is with a cleared checkpoint, when no driver dies and nothing is
  persisted between the target and the verdict.
* `backlog_drained`: with a kept checkpoint a backlog is counted for the messages of the run.
-/

namespace TripPipeline.Bench

open TripPipeline.Lib

/-! ## The stream and the scenario -/

/-- A batch of the query, with the offsets of each partition where it starts and stops. -/
structure StreamBatch where
  batchId : ℕ
  start : ℕ → ℕ
  stop : ℕ → ℕ

/-- The messages of a batch. -/
def StreamBatch.messages (n : ℕ) (b : StreamBatch) : Finset Entry := window n b.start b.stop

/-- `"input_rows"` of its report. -/
def StreamBatch.inputRows (n : ℕ) (b : StreamBatch) : ℕ :=
  ((List.range n).map fun p => b.stop p - b.start p).sum

/-- The options of the scenario. `partitions` are those of `trips.raw`. -/
structure DrainConfig where
  partitions : ℕ
  truncate : Bool
  cleanCheckpoint : Bool
  drainConfirmPolls : ℤ

/-- What `wait_for_drain` returns of the counts. -/
structure DrainResult where
  drained : Bool
  messagesToConsume : ℤ
  messagesConsumed : ℤ

/-- How far `Scenario.run` has come. -/
inductive ScenarioPhase where
  | setup
  /-- The topic is purged and the checkpoint cleared, if the options say so. -/
  | prepared
  /-- `raw_before` is measured, at these end offsets. -/
  | measured (before : ℕ → ℕ)
  | streaming (before : ℕ → ℕ)
  /-- `wait_for_drain` has measured its target, at the end offsets `target`. -/
  | waiting (before target : ℕ → ℕ) (stable consumed : ℤ)
  | ended (before target : ℕ → ℕ) (result : DrainResult)

/-- The topic, the query and the scenario. -/
structure DrainRun where
  /-- The end offsets of `trips.raw`, and the first offsets that are kept. -/
  ends : ℕ → ℕ
  low : ℕ → ℕ
  /-- The offsets of the checkpoint, `none` when there is none. -/
  checkpoint : Option (ℕ → ℕ)
  /-- The batch that is planned and not committed. -/
  pending : Option StreamBatch
  nextId : ℕ
  /-- The driver has completed the planned batch. -/
  ran : Bool
  /-- The reports in the progress file. -/
  progress : List StreamBatch
  phase : ScenarioPhase

/-- What happens next. -/
inductive DrainAction where
  /-- Kafka persists a message. -/
  | persist (partition : ℕ)
  | prepare
  | measure
  | startStream
  /-- A query without a checkpoint begins at the latest offsets. -/
  | claim
  | plan (stop : ℕ → ℕ)
  | execute
  | commit
  /-- The driver dies, and another one takes over. -/
  | crash
  | waitForDrain
  | poll
  | timeout

/-- The stream job is running. -/
def ScenarioPhase.running : ScenarioPhase → Bool
  | .streaming _ => true
  | .waiting .. => true
  | .ended .. => true
  | _ => false

/-- `topic_count("trips.raw")`. -/
def rawCount (n : ℕ) (ends : ℕ → ℕ) : ℤ :=
  topicCount ((List.range n).map fun p : ℕ => (Int.ofNat p, Int.ofNat (ends p)))

/-- `sum(b["input_rows"] for b in self._read_batches())`. -/
def consumed (n : ℕ) (progress : List StreamBatch) : ℤ :=
  (progress.map fun b => b.inputRows n).sum

/-- `target`, from the end offsets that `wait_for_drain` finds. -/
def toConsume (n : ℕ) (before target : ℕ → ℕ) : ℤ := max 0 (rawCount n target - rawCount n before)

/-- One poll of `wait_for_drain`.
Source: `bench/run_scenario.py` `Scenario.wait_for_drain` -/
def pollDrain (cfg : DrainConfig) (before target : ℕ → ℕ) (stable : ℤ)
    (progress : List StreamBatch) : ScenarioPhase :=
  let wanted := toConsume cfg.partitions before target
  let got := consumed cfg.partitions progress
  if wanted ≤ got then
    if cfg.drainConfirmPolls ≤ stable + 1 then .ended before target ⟨true, wanted, got⟩
    else .waiting before target (stable + 1) got
  else .waiting before target 0 got

/-- One action, if it can happen.
Source: `bench/run_scenario.py` `Scenario.run`, `streaming/stream_job.py` `TripStream.run` -/
def DrainRun.next (cfg : DrainConfig) (s : DrainRun) : DrainAction → Option DrainRun
  | .persist p => some { s with ends := Function.update s.ends p (s.ends p + 1) }
  | .prepare =>
      match s.phase with
      | .setup => some { s with
          low := if cfg.truncate then s.ends else s.low
          checkpoint := if cfg.cleanCheckpoint then none else s.checkpoint
          pending := if cfg.cleanCheckpoint then none else s.pending
          phase := .prepared }
      | _ => none
  | .measure =>
      match s.phase with
      | .prepared => some { s with phase := .measured s.ends }
      | _ => none
  | .startStream =>
      match s.phase with
      | .measured before =>
          some { s with ran := false, progress := [], phase := .streaming before }
      | _ => none
  | .claim =>
      match s.checkpoint with
      | none => if s.phase.running then some { s with checkpoint := some s.ends } else none
      | some _ => none
  | .plan stop =>
      match s.checkpoint, s.pending with
      | some start, none =>
          if s.phase.running ∧ ∀ p < cfg.partitions, start p ≤ stop p ∧ stop p ≤ s.ends p then
            some { s with pending := some ⟨s.nextId, start, stop⟩ }
          else none
      | _, _ => none
  | .execute =>
      match s.pending with
      | some b =>
          -- `failOnDataLoss`: the query fails when the offsets are gone
          if s.phase.running ∧ s.ran = false ∧
              ∀ p < cfg.partitions, s.low p ≤ b.start p ∧ b.stop p ≤ s.ends p then
            some { s with ran := true, progress := s.progress ++ [b] }
          else none
      | none => none
  | .commit =>
      match s.pending with
      | some b =>
          if s.phase.running ∧ s.ran = true then
            some { s with
              checkpoint := some b.stop, pending := none, nextId := s.nextId + 1, ran := false }
          else none
      | none => none
  | .crash => if s.phase.running then some { s with ran := false } else none
  | .waitForDrain =>
      match s.phase with
      | .streaming before => some { s with phase := .waiting before s.ends 0 0 }
      | _ => none
  | .poll =>
      match s.phase with
      | .waiting before target stable _ =>
          some { s with phase := pollDrain cfg before target stable s.progress }
      | _ => none
  | .timeout =>
      match s.phase with
      | .waiting before target _ got =>
          let wanted := toConsume cfg.partitions before target
          some { s with phase := .ended before target ⟨false, wanted, got⟩ }
      | _ => none

/-- A run of actions. -/
def DrainRun.run (cfg : DrainConfig) (s : DrainRun) : List DrainAction → Option DrainRun
  | [] => some s
  | a :: actions => (s.next cfg a).bind fun s => s.run cfg actions

/-! ## What a step does -/

section step

variable {cfg : DrainConfig} {s s' : DrainRun}

/-- The ways a step can go, with what it needs. -/
inductive Step (cfg : DrainConfig) (s : DrainRun) : DrainAction → DrainRun → Prop where
  | persist (p : ℕ) :
      Step cfg s (.persist p) { s with ends := Function.update s.ends p (s.ends p + 1) }
  | prepare (h : s.phase = .setup) : Step cfg s .prepare { s with
      low := if cfg.truncate then s.ends else s.low
      checkpoint := if cfg.cleanCheckpoint then none else s.checkpoint
      pending := if cfg.cleanCheckpoint then none else s.pending
      phase := .prepared }
  | measure (h : s.phase = .prepared) : Step cfg s .measure { s with phase := .measured s.ends }
  | startStream {before} (h : s.phase = .measured before) :
      Step cfg s .startStream { s with ran := false, progress := [], phase := .streaming before }
  | claim (hrunning : s.phase.running = true) (h : s.checkpoint = none) :
      Step cfg s .claim { s with checkpoint := some s.ends }
  | plan {start stop} (hrunning : s.phase.running = true) (hstart : s.checkpoint = some start)
      (hpending : s.pending = none)
      (hstop : ∀ p < cfg.partitions, start p ≤ stop p ∧ stop p ≤ s.ends p) :
      Step cfg s (.plan stop) { s with pending := some ⟨s.nextId, start, stop⟩ }
  | execute {b} (hrunning : s.phase.running = true) (hpending : s.pending = some b)
      (hran : s.ran = false)
      (hkept : ∀ p < cfg.partitions, s.low p ≤ b.start p ∧ b.stop p ≤ s.ends p) :
      Step cfg s .execute { s with ran := true, progress := s.progress ++ [b] }
  | commit {b} (hrunning : s.phase.running = true) (hpending : s.pending = some b)
      (hran : s.ran = true) : Step cfg s .commit { s with
        checkpoint := some b.stop, pending := none, nextId := s.nextId + 1, ran := false }
  | crash (hrunning : s.phase.running = true) : Step cfg s .crash { s with ran := false }
  | waitForDrain {before} (h : s.phase = .streaming before) :
      Step cfg s .waitForDrain { s with phase := .waiting before s.ends 0 0 }
  | poll {before target stable got} (h : s.phase = .waiting before target stable got) :
      Step cfg s .poll { s with phase := pollDrain cfg before target stable s.progress }
  | timeout {before target stable got} (h : s.phase = .waiting before target stable got) :
      Step cfg s .timeout { s with
        phase := .ended before target ⟨false, toConsume cfg.partitions before target, got⟩ }

/-- **A step goes one of these ways.** -/
theorem step_of_next {a : DrainAction} (h : s.next cfg a = some s') : Step cfg s a s' := by
  cases a with
  | persist p =>
      obtain rfl := Option.some.inj h
      exact .persist p
  | prepare =>
      simp only [DrainRun.next] at h
      split at h
      · rename_i hphase
        obtain rfl := Option.some.inj h
        exact .prepare hphase
      · cases h
  | measure =>
      simp only [DrainRun.next] at h
      split at h
      · rename_i hphase
        obtain rfl := Option.some.inj h
        exact .measure hphase
      · cases h
  | startStream =>
      simp only [DrainRun.next] at h
      split at h
      · rename_i before hphase
        obtain rfl := Option.some.inj h
        exact .startStream hphase
      · cases h
  | claim =>
      simp only [DrainRun.next] at h
      split at h
      · rename_i hcheckpoint
        split_ifs at h with hrunning
        obtain rfl := Option.some.inj h
        exact .claim hrunning hcheckpoint
      · cases h
  | plan stop =>
      simp only [DrainRun.next] at h
      split at h
      · rename_i start hstart hpending
        split_ifs at h with hguard
        obtain rfl := Option.some.inj h
        exact .plan hguard.1 hstart hpending hguard.2
      · cases h
  | execute =>
      simp only [DrainRun.next] at h
      split at h
      · rename_i b hpending
        split_ifs at h with hguard
        obtain rfl := Option.some.inj h
        exact .execute hguard.1 hpending hguard.2.1 hguard.2.2
      · cases h
  | commit =>
      simp only [DrainRun.next] at h
      split at h
      · rename_i b hpending
        split_ifs at h with hguard
        obtain rfl := Option.some.inj h
        exact .commit hguard.1 hpending hguard.2
      · cases h
  | crash =>
      simp only [DrainRun.next] at h
      split_ifs at h with hrunning
      obtain rfl := Option.some.inj h
      exact .crash hrunning
  | waitForDrain =>
      simp only [DrainRun.next] at h
      split at h
      · rename_i before hphase
        obtain rfl := Option.some.inj h
        exact .waitForDrain hphase
      · cases h
  | poll =>
      simp only [DrainRun.next] at h
      split at h
      · rename_i before target stable got hphase
        obtain rfl := Option.some.inj h
        exact .poll hphase
      · cases h
  | timeout =>
      simp only [DrainRun.next] at h
      split at h
      · rename_i before target stable got hphase
        obtain rfl := Option.some.inj h
        exact .timeout hphase
      · cases h

end step

/-! ## What has been read -/

section read

variable {n : ℕ} {lo hi : ℕ → ℕ} {progress : List StreamBatch}

/-- Python's sum over the partitions is the sum over `range n`. -/
theorem sum_map_range (f : ℕ → ℕ) : ((List.range n).map f).sum = ∑ p ∈ Finset.range n, f p := by
  rw [← List.sum_toFinset _ List.nodup_range, List.toFinset_range]

/-- A batch has as many messages as its `numInputRows`. -/
theorem card_messages (b : StreamBatch) : (b.messages n).card = b.inputRows n := by
  rw [StreamBatch.messages, card_window, StreamBatch.inputRows, sum_map_range]

/-- `raw_count` is the sum of the end offsets. -/
theorem rawCount_eq (n : ℕ) (ends : ℕ → ℕ) :
    rawCount n ends = (∑ p ∈ Finset.range n, ends p : ℕ) := by
  rw [← sum_map_range, rawCount, topicCount, List.map_map, Nat.cast_list_sum, List.map_map]
  rfl

/-- `consumed` adds up the sizes of the batches that were reported. -/
theorem consumed_eq (n : ℕ) (progress : List StreamBatch) :
    consumed n progress = ((progress.map (StreamBatch.messages n)).map Finset.card).sum := by
  rw [consumed, List.map_map, Nat.cast_list_sum, List.map_map]
  congr 1
  apply List.map_congr_left
  intro b _
  simp [card_messages]

/-- The target is the number of messages between the two measurements. -/
theorem toConsume_eq (h : ∀ p < n, lo p ≤ hi p) :
    toConsume n lo hi = (window n lo hi).card := by
  rw [toConsume, rawCount_eq, rawCount_eq, ← card_window_add h]
  omega

/-- The reports are of messages between these offsets, without a common one. -/
structure Read (n : ℕ) (lo hi : ℕ → ℕ) (progress : List StreamBatch) : Prop where
  sub : ∀ b ∈ progress, b.messages n ⊆ window n lo hi
  disjoint : (progress.map (StreamBatch.messages n)).Pairwise Disjoint

/-- Every message between these offsets is in a report. -/
def AllRead (n : ℕ) (lo hi : ℕ → ℕ) (progress : List StreamBatch) : Prop :=
  ∀ m ∈ window n lo hi, ∃ b ∈ progress, m ∈ b.messages n

/-- A stream that has reported nothing has read within any bounds. -/
theorem read_nil : Read n lo hi [] := by
  constructor <;> simp

/-- What was read below the end offsets stays below them as they grow. -/
theorem Read.mono {hi' : ℕ → ℕ} (h : Read n lo hi progress) (hle : ∀ p < n, hi p ≤ hi' p) :
    Read n lo hi' progress :=
  ⟨fun b hb => (h.sub b hb).trans (window_mono (fun _ _ => le_rfl) hle), h.disjoint⟩

/-- A new batch inside the window, apart from the earlier ones, extends what was read. -/
theorem Read.append {b : StreamBatch} (h : Read n lo hi progress)
    (hsub : b.messages n ⊆ window n lo hi)
    (hnew : ∀ b' ∈ progress, Disjoint (b'.messages n) (b.messages n)) :
    Read n lo hi (progress ++ [b]) := by
  constructor
  · intro b' hb'
    rcases List.mem_append.mp hb' with hb' | hb'
    · exact h.sub b' hb'
    · rw [List.mem_singleton.mp hb']
      exact hsub
  · rw [List.map_append, List.pairwise_append]
    refine ⟨h.disjoint, by simp, fun t ht u hu => ?_⟩
    obtain ⟨b', hb', rfl⟩ := List.mem_map.mp ht
    simp only [List.map_cons, List.map_nil, List.mem_singleton] at hu
    rw [hu]
    exact hnew b' hb'

/-- What the reported batches have read, they have still read after one more. -/
theorem AllRead.append (h : AllRead n lo hi progress) (b : StreamBatch) :
    AllRead n lo hi (progress ++ [b]) := by
  intro m hm
  obtain ⟨b', hb', hmem⟩ := h m hm
  exact ⟨b', List.mem_append_left _ hb', hmem⟩

/-- **Enough rows are all of them.** -/
theorem Read.allRead (h : Read n lo hi progress) (hle : ∀ p < n, lo p ≤ hi p)
    (henough : toConsume n lo hi ≤ consumed n progress) : AllRead n lo hi progress := by
  rw [toConsume_eq hle, consumed_eq] at henough
  intro m hm
  obtain ⟨t, ht, hmem⟩ := covered_of_card_le (by
    intro t ht
    obtain ⟨b, hb, rfl⟩ := List.mem_map.mp ht
    exact h.sub b hb) h.disjoint (by exact_mod_cast henough) hm
  obtain ⟨b, hb, rfl⟩ := List.mem_map.mp ht
  exact ⟨b, hb, hmem⟩

end read

/-! ## Runs that read what is due -/

/-- The planned batch reads messages between these offsets, and none that was read before. -/
def Due (n : ℕ) (s : DrainRun) (lo hi : ℕ → ℕ) : Prop :=
  ∀ b ∈ s.pending, b.messages n ⊆ window n lo hi ∧
    ∀ b' ∈ s.progress, Disjoint (b'.messages n) (b.messages n)

/-- The action is no execution of a batch, or the batch is due: its messages were persisted since
`raw_before` was measured, they are among the target once that is measured, and no report has
them. -/
def ReadsDue (n : ℕ) (s : DrainRun) : DrainAction → Prop
  | .execute =>
      match s.phase with
      | .streaming before => Due n s before s.ends
      | .waiting before target _ _ => Due n s before target
      | _ => True
  | _ => True

/-- What holds of the phases. -/
def PhaseInv (n : ℕ) (s : DrainRun) : Prop :=
  match s.phase with
  | .setup | .prepared => True
  | .measured before => ∀ p < n, before p ≤ s.ends p
  | .streaming before => (∀ p < n, before p ≤ s.ends p) ∧ Read n before s.ends s.progress
  | .waiting before target _ _ =>
      (∀ p < n, before p ≤ target p) ∧ Read n before target s.progress
  | .ended before target result =>
      result.messagesToConsume = (window n before target).card ∧
        (result.drained = true → AllRead n before target s.progress)

section inv

variable {cfg : DrainConfig} {s s' : DrainRun} {a : DrainAction}

/-- A topic's end offsets do not fall when a message is produced. -/
theorem le_update (ends : ℕ → ℕ) (p q : ℕ) : ends q ≤ Function.update ends p (ends p + 1) q := by
  by_cases h : q = p
  · subst h
    simp
  · simp [h]

/-- **One step.** -/
theorem next_inv (h : s.next cfg a = some s') (hinv : PhaseInv cfg.partitions s)
    (hdue : ReadsDue cfg.partitions s a) : PhaseInv cfg.partitions s' := by
  cases step_of_next h with
  | persist p =>
      have hle := fun q => le_update s.ends p q
      unfold PhaseInv at hinv ⊢
      dsimp only
      cases hphase : s.phase with
      | setup | prepared => trivial
      | measured before =>
          rw [hphase] at hinv
          exact fun q hq => (hinv q hq).trans (hle q)
      | streaming before =>
          rw [hphase] at hinv
          exact ⟨fun q hq => (hinv.1 q hq).trans (hle q), hinv.2.mono fun q _ => hle q⟩
      | waiting before target stable got =>
          rw [hphase] at hinv
          exact hinv
      | ended before target result =>
          rw [hphase] at hinv
          exact hinv
  | prepare hphase => trivial
  | measure hphase => exact fun p _ => le_rfl
  | startStream hphase =>
      unfold PhaseInv at hinv
      rw [hphase] at hinv
      exact ⟨hinv, read_nil⟩
  | claim hrunning hcheckpoint => exact hinv
  | plan hrunning hstart hpending hstop => exact hinv
  | execute hrunning hpending hran hkept =>
      rename_i b
      unfold PhaseInv at hinv ⊢
      unfold ReadsDue at hdue
      dsimp only at hdue ⊢
      cases hphase : s.phase with
      | setup | prepared => trivial
      | measured before =>
          rw [hphase] at hrunning
          cases hrunning
      | streaming before =>
          rw [hphase] at hinv hdue
          obtain ⟨hsub, hnew⟩ := hdue b hpending
          exact ⟨hinv.1, hinv.2.append hsub hnew⟩
      | waiting before target stable got =>
          rw [hphase] at hinv hdue
          obtain ⟨hsub, hnew⟩ := hdue b hpending
          exact ⟨hinv.1, hinv.2.append hsub hnew⟩
      | ended before target result =>
          rw [hphase] at hinv
          exact ⟨hinv.1, fun hdrained => (hinv.2 hdrained).append b⟩
  | commit hrunning hpending hran => exact hinv
  | crash hrunning => exact hinv
  | waitForDrain hphase =>
      unfold PhaseInv at hinv
      rw [hphase] at hinv
      exact hinv
  | poll hphase =>
      unfold PhaseInv at hinv ⊢
      rw [hphase] at hinv
      dsimp only
      unfold pollDrain
      dsimp only
      split_ifs with henough hstable
      · exact ⟨toConsume_eq hinv.1, fun _ => hinv.2.allRead hinv.1 henough⟩
      · exact hinv
      · exact hinv
  | timeout hphase =>
      unfold PhaseInv at hinv
      rw [hphase] at hinv
      exact ⟨toConsume_eq hinv.1, fun hdrained => absurd hdrained Bool.false_ne_true⟩

/-- Every batch of the run is due when it is executed. -/
def RunsDue (cfg : DrainConfig) (s : DrainRun) : List DrainAction → Prop
  | [] => True
  | a :: actions => ReadsDue cfg.partitions s a ∧ ∀ s' ∈ s.next cfg a, RunsDue cfg s' actions

/-- **A run.** -/
theorem run_inv {actions : List DrainAction} (h : s.run cfg actions = some s')
    (hinv : PhaseInv cfg.partitions s) (hdue : RunsDue cfg s actions) :
    PhaseInv cfg.partitions s' := by
  induction actions generalizing s with
  | nil =>
      obtain rfl := Option.some.inj h
      exact hinv
  | cons a actions ih =>
      obtain ⟨s₁, hs₁, hrest⟩ := Option.bind_eq_some_iff.mp h
      exact ih hrest (next_inv hs₁ hinv hdue.1) (hdue.2 s₁ hs₁)

/-- **A scenario that counts as drained has read its target**, if every batch was due. -/
theorem drained_read {actions : List DrainAction} {before target : ℕ → ℕ} {result : DrainResult}
    (hsetup : s.phase = .setup) (h : s.run cfg actions = some s') (hdue : RunsDue cfg s actions)
    (hended : s'.phase = .ended before target result) (hdrained : result.drained = true) :
    result.messagesToConsume = (window cfg.partitions before target).card ∧
      ∀ m ∈ window cfg.partitions before target,
        ∃ b ∈ s'.progress, m ∈ b.messages cfg.partitions := by
  have hstart : PhaseInv cfg.partitions s := by
    unfold PhaseInv
    rw [hsetup]
    trivial
  have hinv := run_inv h hstart hdue
  unfold PhaseInv at hinv
  rw [hended] at hinv
  exact ⟨hinv.1, hinv.2 hdrained⟩

end inv

/-! ## Runs with a cleared checkpoint -/

/-- No driver dies, and nothing is persisted between the target and the verdict. -/
def Steady (s : DrainRun) : DrainAction → Prop
  | .crash => False
  | .persist _ =>
      match s.phase with
      | .waiting .. => False
      | _ => True
  | _ => True

/-- Every action of the run is steady. -/
def RunsSteady (cfg : DrainConfig) (s : DrainRun) : List DrainAction → Prop
  | [] => True
  | a :: actions => Steady s a ∧ ∀ s' ∈ s.next cfg a, RunsSteady cfg s' actions

/-- The query began at `lo` or later, and has reported nothing beyond its checkpoint but the planned
batch. -/
def FromStart (n : ℕ) (s : DrainRun) (lo : ℕ → ℕ) : Prop :=
  match s.checkpoint, s.pending with
  | none, none => s.ran = false ∧ s.progress = []
  | none, some _ => False
  | some off, none => s.ran = false ∧ (∀ p < n, lo p ≤ off p) ∧
      ∀ b ∈ s.progress, ∀ p < n, b.stop p ≤ off p
  | some off, some b => (∀ p < n, lo p ≤ off p) ∧ b.start = off ∧ (∀ p < n, off p ≤ b.stop p) ∧
      ∀ b' ∈ s.progress, ∀ p < n, b'.stop p ≤ if s.ran then b.stop p else off p

/-- The first measurement, until the verdict. -/
def ScenarioPhase.before : ScenarioPhase → Option (ℕ → ℕ)
  | .measured before => some before
  | .streaming before => some before
  | .waiting before _ _ _ => some before
  | _ => none

/-- What holds of a steady run. -/
structure SteadyInv (n : ℕ) (s : DrainRun) : Prop where
  cleared : s.phase = .prepared ∨ (∃ before, s.phase = .measured before) →
    s.checkpoint = none ∧ s.pending = none
  measured : ∀ lo ∈ s.phase.before, ∀ p < n, lo p ≤ s.ends p
  fromStart : s.phase.running = true → ∀ lo ∈ s.phase.before, FromStart n s lo
  target : ∀ before target stable got, s.phase = .waiting before target stable got →
    ∀ p < n, s.ends p = target p

section steady

variable {cfg : DrainConfig} {s s' : DrainRun} {a : DrainAction} {lo : ℕ → ℕ}

/-- Claiming the first offsets starts the window where the topic then ends. -/
theorem FromStart.claim {n : ℕ} (h : FromStart n s lo) (hcheckpoint : s.checkpoint = none)
    (hle : ∀ p < n, lo p ≤ s.ends p) : FromStart n { s with checkpoint := some s.ends } lo := by
  unfold FromStart at h ⊢
  rw [hcheckpoint] at h
  cases hpending : s.pending with
  | none =>
      rw [hpending] at h
      exact ⟨h.1, hle, by simp [h.2]⟩
  | some b =>
      rw [hpending] at h
      exact h.elim

/-- Planning a batch from the checkpoint keeps the reading gapless. -/
theorem FromStart.plan {n : ℕ} {start stop : ℕ → ℕ} (h : FromStart n s lo)
    (hstart : s.checkpoint = some start) (hpending : s.pending = none)
    (hstop : ∀ p < n, start p ≤ stop p) :
    FromStart n { s with pending := some ⟨s.nextId, start, stop⟩ } lo := by
  unfold FromStart at h ⊢
  rw [hstart, hpending] at h
  obtain ⟨hran, hlo, hprogress⟩ := h
  dsimp only
  rw [hstart, hran]
  exact ⟨hlo, rfl, hstop, hprogress⟩

/-- Running the planned batch reports it and nothing else. -/
theorem FromStart.execute {n : ℕ} {b : StreamBatch} (h : FromStart n s lo)
    (hpending : s.pending = some b) (hran : s.ran = false) :
    FromStart n { s with ran := true, progress := s.progress ++ [b] } lo := by
  unfold FromStart at h ⊢
  dsimp only
  rw [hpending] at h ⊢
  cases hcheckpoint : s.checkpoint with
  | none =>
      rw [hcheckpoint] at h
      exact h
  | some off =>
      rw [hcheckpoint, hran] at h
      obtain ⟨hlo, hstart, hstop, hprogress⟩ := h
      refine ⟨hlo, hstart, hstop, fun b' hb' p hp => ?_⟩
      rw [if_pos rfl]
      rcases List.mem_append.mp hb' with hb' | hb'
      · exact (hprogress b' hb' p hp).trans (hstop p hp)
      · rw [List.mem_singleton.mp hb']

/-- Committing the batch moves the checkpoint to its end. -/
theorem FromStart.commit {n : ℕ} {b : StreamBatch} (h : FromStart n s lo)
    (hpending : s.pending = some b) (hran : s.ran = true) :
    FromStart n { s with
      checkpoint := some b.stop, pending := none, nextId := s.nextId + 1, ran := false } lo := by
  unfold FromStart at h ⊢
  dsimp only
  rw [hpending] at h
  cases hcheckpoint : s.checkpoint with
  | none =>
      rw [hcheckpoint] at h
      exact h.elim
  | some off =>
      rw [hcheckpoint, hran] at h
      obtain ⟨hlo, -, hstop, hprogress⟩ := h
      exact ⟨rfl, fun p hp => (hlo p hp).trans (hstop p hp), hprogress⟩

/-- What the query plans is due. -/
theorem FromStart.due {n : ℕ} {b : StreamBatch} {hi : ℕ → ℕ} (h : FromStart n s lo)
    (hpending : s.pending = some b) (hran : s.ran = false) (hhi : ∀ p < n, b.stop p ≤ hi p) :
    Due n s lo hi := by
  intro b' hb'
  rw [hpending, Option.mem_some_iff] at hb'
  subst hb'
  unfold FromStart at h
  rw [hpending] at h
  cases hcheckpoint : s.checkpoint with
  | none =>
      rw [hcheckpoint] at h
      exact h.elim
  | some off =>
      rw [hcheckpoint, hran] at h
      obtain ⟨hlo, hstart, -, hprogress⟩ := h
      refine ⟨window_mono (fun p hp => ?_) hhi, fun b' hb' => disjoint_window fun p hp => ?_⟩
      · rw [hstart]
        exact hlo p hp
      · rw [hstart]
        exact hprogress b' hb' p hp

/-- A scenario that starts on cleared checkpoints has read nothing yet. -/
theorem FromStart.start {n : ℕ} (hcleared : s.checkpoint = none ∧ s.pending = none)
    (phase : ScenarioPhase) :
    FromStart n { s with ran := false, progress := [], phase := phase } lo := by
  unfold FromStart
  dsimp only
  rw [hcleared.1, hcleared.2]
  exact ⟨rfl, rfl⟩

/-- A step of the query leaves the phase and the topic. -/
theorem SteadyInv.query {n : ℕ} {t : DrainRun} (hinv : SteadyInv n s)
    (hrunning : s.phase.running = true) (hphase : t.phase = s.phase) (hends : t.ends = s.ends)
    (hquery : ∀ lo ∈ s.phase.before, FromStart n s lo → FromStart n t lo) : SteadyInv n t := by
  constructor
  · rintro (h | ⟨before, h⟩)
    · rw [hphase] at h
      rw [h] at hrunning
      cases hrunning
    · rw [hphase] at h
      rw [h] at hrunning
      cases hrunning
  · rw [hphase, hends]
    exact hinv.measured
  · rw [hphase]
    exact fun _ lo hlo => hquery lo hlo (hinv.fromStart hrunning lo hlo)
  · rw [hphase, hends]
    exact hinv.target

/-- One poll ends the wait or goes on waiting; the bounds of the window stay as they are. -/
theorem pollDrain_cases (before target : ℕ → ℕ) (stable : ℤ) (progress : List StreamBatch) :
    (∃ result, pollDrain cfg before target stable progress = .ended before target result) ∨
      ∃ stable' got, pollDrain cfg before target stable progress =
        .waiting before target stable' got := by
  unfold pollDrain
  dsimp only
  split_ifs
  · exact Or.inl ⟨_, rfl⟩
  · exact Or.inr ⟨_, _, rfl⟩
  · exact Or.inr ⟨_, _, rfl⟩

/-- **A steady step keeps it.** -/
theorem next_steady (hclean : cfg.cleanCheckpoint = true) (h : s.next cfg a = some s')
    (hinv : SteadyInv cfg.partitions s) (hsteady : Steady s a) :
    SteadyInv cfg.partitions s' := by
  cases step_of_next h with
  | persist p =>
      have hle := fun q => le_update s.ends p q
      refine ⟨hinv.cleared, fun lo hlo q hq => (hinv.measured lo hlo q hq).trans (hle q),
        hinv.fromStart, fun before target stable got hphase => ?_⟩
      unfold Steady at hsteady
      dsimp only at hphase hsteady
      rw [hphase] at hsteady
      exact hsteady.elim
  | prepare hphase =>
      refine ⟨fun _ => by simp [hclean], ?_, ?_, ?_⟩ <;> simp [ScenarioPhase.before]
  | measure hphase =>
      refine ⟨fun _ => hinv.cleared (Or.inl hphase), ?_, ?_, ?_⟩ <;>
        simp [ScenarioPhase.before, ScenarioPhase.running]
  | startStream hphase =>
      rename_i before
      have hcleared := hinv.cleared (Or.inr ⟨before, hphase⟩)
      refine ⟨by simp, ?_, fun _ lo _ => FromStart.start hcleared _, by simp⟩
      intro lo hlo
      apply hinv.measured
      rw [hphase]
      exact hlo
  | claim hrunning hcheckpoint =>
      exact hinv.query hrunning rfl rfl fun lo hlo hfrom =>
        hfrom.claim hcheckpoint (hinv.measured lo hlo)
  | plan hrunning hstart hpending hstop =>
      exact hinv.query hrunning rfl rfl fun lo hlo hfrom =>
        hfrom.plan hstart hpending fun p hp => (hstop p hp).1
  | execute hrunning hpending hran hkept =>
      exact hinv.query hrunning rfl rfl fun lo hlo hfrom => hfrom.execute hpending hran
  | commit hrunning hpending hran =>
      exact hinv.query hrunning rfl rfl fun lo hlo hfrom => hfrom.commit hpending hran
  | crash hrunning => exact hsteady.elim
  | waitForDrain hphase =>
      rename_i before
      refine ⟨by simp, ?_, ?_, ?_⟩
      · intro lo hlo
        apply hinv.measured
        rw [hphase]
        exact hlo
      · intro _ lo hlo
        apply hinv.fromStart <;> rw [hphase]
        · rfl
        · exact hlo
      · intro before target stable got hwaiting p _
        simp only [ScenarioPhase.waiting.injEq] at hwaiting
        rw [hwaiting.2.1]
  | poll hphase =>
      rename_i before target stable got
      have hbefore : before ∈ s.phase.before := by
        rw [hphase]
        rfl
      rcases pollDrain_cases before target stable s.progress with
        ⟨result, hpoll⟩ | ⟨stable', got', hpoll⟩
      · rw [hpoll]
        refine ⟨by simp, ?_, ?_, ?_⟩ <;> simp [ScenarioPhase.before]
      · rw [hpoll]
        refine ⟨by simp, fun lo hlo => ?_, fun _ lo hlo => ?_, fun before' target' _ _ heq => ?_⟩
        · obtain rfl := Option.some.inj hlo
          exact hinv.measured _ hbefore
        · obtain rfl := Option.some.inj hlo
          exact hinv.fromStart (by rw [hphase]; rfl) _ hbefore
        · simp only [ScenarioPhase.waiting.injEq] at heq
          rw [← heq.2.1]
          exact hinv.target before target stable got hphase
  | timeout hphase =>
      refine ⟨by simp, ?_, ?_, ?_⟩ <;> simp [ScenarioPhase.before]

/-- What is executed in a steady run is due. -/
theorem readsDue_of_steady (h : s.next cfg a = some s') (hinv : SteadyInv cfg.partitions s) :
    ReadsDue cfg.partitions s a := by
  cases step_of_next h with
  | execute hrunning hpending hran hkept =>
      have hfrom := hinv.fromStart hrunning
      unfold ReadsDue
      dsimp only
      cases hphase : s.phase with
      | streaming before =>
          rw [hphase] at hfrom
          exact (hfrom before rfl).due hpending hran fun p hp => (hkept p hp).2
      | waiting before target stable got =>
          have htarget := hinv.target before target stable got hphase
          rw [hphase] at hfrom
          exact (hfrom before rfl).due hpending hran fun p hp =>
            (hkept p hp).2.trans (htarget p hp).le
      | setup | prepared | measured | ended => trivial
  | _ => trivial

/-- **A steady run with a cleared checkpoint reads what is due.** -/
theorem runsDue_of_steady (hclean : cfg.cleanCheckpoint = true) {actions : List DrainAction}
    (h : s.run cfg actions = some s') (hinv : SteadyInv cfg.partitions s)
    (hsteady : RunsSteady cfg s actions) : RunsDue cfg s actions := by
  induction actions generalizing s with
  | nil => trivial
  | cons a actions ih =>
      obtain ⟨s₁, hs₁, hrest⟩ := Option.bind_eq_some_iff.mp h
      refine ⟨readsDue_of_steady hs₁ hinv, fun s₂ hs₂ => ?_⟩
      rw [hs₁, Option.mem_some_iff] at hs₂
      subst hs₂
      exact ih hrest (next_steady hclean hs₁ hinv hsteady.1) (hsteady.2 s₁ hs₁)

/-- During the setup there is nothing to keep. -/
theorem steadyInv_setup {n : ℕ} (hsetup : s.phase = .setup) : SteadyInv n s := by
  refine ⟨?_, ?_, ?_, ?_⟩ <;> simp [hsetup, ScenarioPhase.before]

end steady

/-! ## Two runs -/

/-- The default options, for a topic with one partition. -/
def defaultConfig : DrainConfig := ⟨1, true, true, 5⟩

/-- `--no-truncate --keep-checkpoint`. -/
def keepConfig : DrainConfig := ⟨1, false, false, 5⟩

/-- Two messages that no committed batch has read, and a checkpoint before them. -/
def backlogRun : DrainRun :=
  ⟨fun _ => 2, fun _ => 0, some fun _ => 0, none, 0, false, [], .setup⟩

/-- One message is produced, read and counted. -/
def readAllActions : List DrainAction :=
  [.prepare, .measure, .startStream, .claim, .persist 0, .plan fun _ => 3, .execute, .commit,
    .waitForDrain] ++ List.replicate 5 .poll

/-- Two messages are produced, and the backlog is read. -/
def readBacklogActions : List DrainAction :=
  [.prepare, .measure, .startStream, .persist 0, .persist 0, .plan fun _ => 2, .execute, .commit,
    .waitForDrain] ++ List.replicate 5 .poll

/-- The general result at a run with a backlog that is read to its end. -/
theorem drained_read_all : ∃ (s' : DrainRun) (before target : ℕ → ℕ) (result : DrainResult),
    backlogRun.run defaultConfig readAllActions = some s' ∧
      result.messagesToConsume = (window 1 before target).card ∧
        ∀ m ∈ window 1 before target, ∃ b ∈ s'.progress, m ∈ b.messages 1 := by
  obtain ⟨s', before, target, result, hrun, hphase, hdrained⟩ : ∃ s' before target result,
      backlogRun.run defaultConfig readAllActions = some s' ∧
        s'.phase = .ended before target result ∧ result.drained = true :=
    ⟨_, _, _, _, rfl, rfl, rfl⟩
  have hsteady : RunsSteady defaultConfig backlogRun readAllActions := by
    -- one step after the other, each with the state before it
    iterate 14
      refine ⟨trivial, fun s₁ hs₁ => ?_⟩
      obtain rfl := Option.some.inj hs₁
    trivial
  have hdue := runsDue_of_steady rfl hrun (steadyInv_setup rfl) hsteady
  exact ⟨s', before, target, result, hrun, drained_read rfl hrun hdue hphase hdrained⟩

/-- The two messages of the backlog are counted for those of the run, of which none is read. -/
theorem backlog_drained : ∃ s' before target result,
    backlogRun.run keepConfig readBacklogActions = some s' ∧
      s'.phase = .ended before target result ∧ result.drained = true ∧
        ∃ m ∈ window 1 before target, ∀ b ∈ s'.progress, m ∉ b.messages 1 := by
  refine ⟨_, _, _, _, rfl, rfl, rfl, ⟨0, 2⟩, by decide, by decide⟩

end TripPipeline.Bench
