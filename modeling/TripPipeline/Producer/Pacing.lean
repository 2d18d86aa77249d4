import TripPipeline.Lib.CatchUp
import TripPipeline.Producer.Shutdown

/-!
# How fast a run generates

A throttled producer follows the clock: at each turn of the main loop it generates what the rate
asks for by now, but no more than 2000 events, so that a pause is caught up with in bursts.

* `turn_generated`: a turn is a step of `catchUp`.
* `mainLoop_turns`: the main loop is a fold over the turns before its condition fails.
* `run_paced`: so the number of generated events is the lower envelope of the schedule: never ahead
  of the clock, and behind it only by what the bursts leave.
* `run_unthrottled`: without a rate it is 2000 events a turn.
-/

namespace TripPipeline.Producer

open TripPipeline.Common TripPipeline.Lib

variable {client : Client} {conf : Conf} {args : Args} {gen : Gen} {t0 : ℚ}

/-! ## One turn -/

/-- What the rate asks for by now. -/
def scheduled (args : Args) (t0 : ℚ) (r : Reading) : ℤ := trunc (fl (fl (r.now - t0) * args.rate))

/-- An event is generated, whatever becomes of it. -/
theorem emit_generated {l l' : Loop} (h : emit client conf args gen l = .ok l') :
    l'.generated = l.generated + 1 := by
  unfold emit at h
  obtain ⟨key, -, h⟩ := bind_eq_ok_iff.mp h
  obtain ⟨s, -, h⟩ := bind_eq_ok_iff.mp h
  dsimp only at h
  split_ifs at h
  · obtain ⟨key', -, h⟩ := bind_eq_ok_iff.mp h
    obtain ⟨s', -, h⟩ := bind_eq_ok_iff.mp h
    obtain rfl := Except.ok.inj h
    rfl
  · obtain rfl := Except.ok.inj h
    rfl

/-- A burst of `n` turns generates `n` events. -/
theorem burst_generated {n : ℕ} {l l' : Loop}
    (h : (List.range n).foldlM (fun l _ => emit client conf args gen l) l = .ok l') :
    l'.generated = l.generated + n := by
  have hcount := foldlM_rec (P := fun done l' => l'.generated = l.generated + done.length) h rfl
    fun done _ t t' ht hemit => by
      rw [emit_generated hemit, ht, List.length_append]
      rfl
  rwa [List.length_range] at hcount

/-- **A throttled turn catches up with the clock**, by 2000 events at most. -/
theorem turn_generated (hrate : 0 < args.rate) {r : Reading} {l l' : Loop}
    (h : turn client conf args gen t0 r l = .ok l') :
    (l'.generated : ℤ) = catchUp 2000 (l.generated : ℤ) (scheduled args t0 r) := by
  have hbehind : behind args t0 r.now l.generated = scheduled args t0 r - l.generated := rfl
  unfold turn at h
  dsimp only at h
  rw [hbehind] at h
  by_cases hwait : scheduled args t0 r - l.generated ≤ 0
  · rw [if_pos ⟨hrate, hwait⟩] at h
    obtain rfl := Except.ok.inj h
    show (l.generated : ℤ) = _
    unfold catchUp
    omega
  · rw [if_neg fun hboth => hwait hboth.2, if_pos hrate] at h
    obtain ⟨l₁, hloop, h⟩ := bind_eq_ok_iff.mp h
    obtain rfl := Except.ok.inj h
    have hcount := burst_generated hloop
    unfold catchUp
    dsimp only
    omega

/-- A turn without a rate. -/
theorem turn_unthrottled (hrate : args.rate ≤ 0) {r : Reading} {l l' : Loop}
    (h : turn client conf args gen t0 r l = .ok l') : l'.generated = l.generated + 2000 := by
  unfold turn at h
  dsimp only at h
  have hnot : ¬0 < args.rate := not_lt.mpr hrate
  rw [if_neg fun hboth => hnot hboth.1, if_neg hnot] at h
  obtain ⟨l₁, hloop, h⟩ := bind_eq_ok_iff.mp h
  obtain rfl := Except.ok.inj h
  have hcount : l₁.generated = l.generated + 2000 := burst_generated hloop
  exact hcount

/-! ## The main loop -/

/-- The condition of the main loop. -/
def Reading.Active (args : Args) (t0 : ℚ) (r : Reading) : Prop :=
  r.running ∧ r.clock < fl (t0 + args.duration)

/-- **The main loop takes its turns until its condition fails.** -/
theorem mainLoop_turns {readings : List Reading} {l l' : Loop}
    (h : mainLoop client conf args gen t0 readings l = .ok (some l')) :
    ∃ active r rest, readings = active ++ r :: rest ∧ (∀ a ∈ active, a.Active args t0) ∧
      ¬r.Active args t0 ∧
      active.foldlM (fun l a => turn client conf args gen t0 a l) l = .ok l' := by
  induction readings generalizing l with
  | nil => cases h
  | cons r readings ih =>
      rw [mainLoop] at h
      split_ifs at h with hactive
      · obtain ⟨l₁, hturn, h⟩ := bind_eq_ok_iff.mp h
        obtain ⟨active, r', rest, rfl, hall, hstop, hfold⟩ := ih h
        refine ⟨r :: active, r', rest, rfl, ?_, hstop, foldlM_cons_eq_ok_iff.mpr ⟨l₁, hturn, hfold⟩⟩
        intro a ha
        rcases List.mem_cons.mp ha with rfl | ha
        · exact hactive
        · exact hall a ha
      · obtain rfl := Option.some.inj (Except.ok.inj h)
        refine ⟨[], r, readings, rfl, ?_, hactive, rfl⟩
        exact fun a ha => absurd ha List.not_mem_nil

/-- Throttled turns are a fold of `catchUp` over the schedule. -/
theorem turns_generated (hrate : 0 < args.rate) {active : List Reading} {l l' : Loop}
    (h : active.foldlM (fun l a => turn client conf args gen t0 a l) l = .ok l') :
    (l'.generated : ℤ) =
      (active.map (scheduled args t0)).foldl (catchUp 2000) (l.generated : ℤ) := by
  refine foldlM_rec (P := fun done l' => (l'.generated : ℤ) =
    (done.map (scheduled args t0)).foldl (catchUp 2000) (l.generated : ℤ)) h rfl ?_
  intro done r t t' ht hturn
  rw [turn_generated hrate hturn, ht, List.map_append, List.foldl_append]
  rfl

/-- Without a rate every turn generates a full burst. -/
theorem turns_unthrottled (hrate : args.rate ≤ 0) {active : List Reading} {l l' : Loop}
    (h : active.foldlM (fun l a => turn client conf args gen t0 a l) l = .ok l') :
    l'.generated = l.generated + 2000 * active.length := by
  refine foldlM_rec (P := fun done l' => l'.generated = l.generated + 2000 * done.length) h
    (by simp) ?_
  intro done r t t' ht hturn
  rw [turn_unthrottled hrate hturn, ht, List.length_append, List.length_singleton, Nat.mul_succ,
    Nat.add_assoc]

/-! ## The run -/

/-- The turns of a run. -/
theorem run_turns {readings : List Reading} {rep : Report} {s : Runner}
    (h : run client conf args gen t0 readings = .ok (some (rep, s))) :
    ∃ active r rest l, readings = active ++ r :: rest ∧ (∀ a ∈ active, a.Active args t0) ∧
      ¬r.Active args t0 ∧
      active.foldlM (fun l a => turn client conf args gen t0 a l) ⟨.init, 0, 0⟩ = .ok l ∧
      rep.generated = l.generated := by
  obtain ⟨last, hlast, rfl, rfl⟩ := (run_eq_some_iff client conf).mp h
  obtain ⟨loop, hloop, hlast⟩ := bind_eq_ok_iff.mp hlast
  rcases loop with _ | l
  · cases hlast
  · obtain rfl := Option.some.inj (Except.ok.inj hlast)
    obtain ⟨active, r, rest, hsplit, hall, hstop, hfold⟩ := mainLoop_turns hloop
    exact ⟨active, r, rest, l, hsplit, hall, hstop, hfold, rfl⟩

/-- The clock does not go back, so neither does the schedule. -/
theorem scheduled_mono (hrate : 0 < args.rate) {r r' : Reading} (h : r.now ≤ r'.now) :
    scheduled args t0 r ≤ scheduled args t0 r' := by
  refine trunc_mono (fl_mono (mul_le_mul_of_nonneg_right ?_ hrate.le))
  exact fl_mono (sub_le_sub_right h t0)

/-- The schedule is not negative while the clock has not gone back. -/
theorem scheduled_nonneg (hrate : 0 < args.rate) {r : Reading} (h : t0 ≤ r.now) :
    0 ≤ scheduled args t0 r := by
  have hzero : trunc (0 : ℚ) = 0 := by exact_mod_cast trunc_intCast 0
  rw [← hzero]
  exact trunc_mono (fl_nonneg (mul_nonneg (fl_nonneg (sub_nonneg.mpr h)) hrate.le))

/-- **A throttled run generates the lower envelope of its schedule**: over the turns it took, the
least of 2000 events a turn and, from each turn on, what the clock asked for then and 2000 events
for each turn after it. In particular it is never ahead of the clock, and a turn that finds it at
most 2000 events behind ends on the schedule. -/
theorem run_paced {readings : List Reading} {rep : Report} {s : Runner} (hrate : 0 < args.rate)
    (h : run client conf args gen t0 readings = .ok (some (rep, s)))
    (hstart : ∀ r ∈ readings, t0 ≤ r.now)
    (hclock : readings.Pairwise fun r r' => r.now ≤ r'.now) :
    ∃ active r rest, readings = active ++ r :: rest ∧ (∀ a ∈ active, a.Active args t0) ∧
      ¬r.Active args t0 ∧
      IsLeast (envelope 2000 0 (active.map (scheduled args t0))) (rep.generated : ℤ) := by
  obtain ⟨active, r, rest, l, rfl, hall, hstop, hfold, hgenerated⟩ := run_turns h
  refine ⟨active, r, rest, rfl, hall, hstop, ?_⟩
  rw [hgenerated, turns_generated hrate hfold]
  refine foldl_catchUp (by norm_num) ?_ ?_
  · intro x hx
    obtain ⟨a, ha, rfl⟩ := List.mem_map.mp hx
    exact scheduled_nonneg hrate (hstart a (List.mem_append_left _ ha))
  · rw [List.pairwise_map]
    exact (List.pairwise_append.mp hclock).1.imp (scheduled_mono hrate)

/-- A run without a rate generates 2000 events a turn. -/
theorem run_unthrottled {readings : List Reading} {rep : Report} {s : Runner}
    (hrate : args.rate ≤ 0) (h : run client conf args gen t0 readings = .ok (some (rep, s))) :
    ∃ active r rest, readings = active ++ r :: rest ∧ (∀ a ∈ active, a.Active args t0) ∧
      ¬r.Active args t0 ∧ rep.generated = 2000 * active.length := by
  obtain ⟨active, r, rest, l, rfl, hall, hstop, hfold, hgenerated⟩ := run_turns h
  refine ⟨active, r, rest, rfl, hall, hstop, ?_⟩
  rw [hgenerated, turns_unthrottled hrate hfold]
  exact Nat.zero_add _

/-- The general result at one event a second. -/
theorem run_paced_sample : ∃ rep s,
    run (sampleClient (.failed timedOut)) sampleConf sampleArgs sampleGen 0 sampleReadings =
      .ok (some (rep, s)) ∧
    ∃ active r rest, sampleReadings = active ++ r :: rest ∧
      (∀ a ∈ active, a.Active sampleArgs 0) ∧ ¬r.Active sampleArgs 0 ∧
      IsLeast (envelope 2000 0 (active.map (scheduled sampleArgs 0))) (rep.generated : ℤ) := by
  have hrun := (run_eq_some_iff (sampleClient (.failed timedOut)) sampleConf).mpr
    ⟨_, runToLastFlush_sample (.failed timedOut), rfl, rfl⟩
  refine ⟨_, _, hrun, run_paced (by norm_num [sampleArgs]) hrun ?_ ?_⟩
  · intro r hr
    simp only [sampleReadings, List.mem_cons, List.not_mem_nil, or_false] at hr
    rcases hr with rfl | rfl
    · norm_num
    · norm_num
  · simp only [sampleReadings, List.pairwise_cons, List.mem_singleton, List.not_mem_nil]
    norm_num

end TripPipeline.Producer
