import TripPipeline.Common.Retry
import TripPipeline.Lib.Counter
import TripPipeline.Replay.Once

/-!
# The preview of a drain

`inspect` of `replay/dlq_tools.py` counts the records of the DLQ by stage and previews what a drain
would do with them. The drain has a routing loop of its own: it asks for the replays first, and
parks every stage it does not know.

* `inspectRecords` is what `inspect` computes of the records it read; values it cannot hash, split
  or add raise.
* `inspectRecords_ok_iff`: of which records there is a result.
* `Foreseen`: the stage of a record says where the drain puts it.
* `previewAgrees_iff`: preview and drain agree iff every record is foreseen.
-/

namespace TripPipeline.Replay

open TripPipeline.Common TripPipeline.Lib

/-! ## Counting -/

/-- `PARK_STAGES`. -/
def parkStages : List String := [stageParse]

/-- A value as a member of a `set`, where equal numbers are one. -/
inductive HashKey where
  | none
  | number (x : ℚ)
  | nonFinite (x : NonFinite)
  | str (s : String)
  | datetime (d : Datetime)
  | date (day : ℤ)
  | uuid (n : ℕ)
  deriving DecidableEq

/-- The hash of a value, which a list and a dictionary do not have. -/
def hashKey : PyVal → Except Exc HashKey
  | .none => .ok .none
  | .bool b => .ok (.number (if b then 1 else 0))
  | .int n => .ok (.number n)
  | .float x => .ok (.number x)
  | .nonFinite x => .ok (.nonFinite x)
  | .str s => .ok (.str s)
  | .list _ => .error ⟨"TypeError", "unhashable type: 'list'", [.typeError]⟩
  | .dict _ => .error ⟨"TypeError", "unhashable type: 'dict'", [.typeError]⟩
  | .datetime d => .ok (.datetime d)
  | .date day => .ok (.date day)
  | .uuid n => .ok (.uuid n)

/-- A number of Python, `int` or `float`. -/
inductive Number where
  | finite (x : ℚ)
  | nonFinite (x : NonFinite)
  deriving DecidableEq

/-- `a + b`. -/
def Number.add : Number → Number → Number
  | .finite x, .finite y => .finite (x + y)
  | .finite _, .nonFinite y => .nonFinite y
  | .nonFinite x, .finite _ => .nonFinite x
  | .nonFinite x, .nonFinite y => .nonFinite (if x = y then x else .nan)

/-- A value that can be added to a number. -/
def toNumber : PyVal → Except Exc Number
  | .bool b => .ok (.finite (if b then 1 else 0))
  | .int n => .ok (.finite n)
  | .float x => .ok (.finite x)
  | .nonFinite x => .ok (.nonFinite x)
  | _ => .error ⟨"TypeError", "unsupported operand type(s) for +", [.typeError]⟩

/-- `round(x / n, 3)`. Of a sum of integers beyond every double Python raises `OverflowError`, which
is left out. -/
def Number.mean (n : ℕ) : Number → Number
  | .finite x => .finite (pyRound (x / n) 3)
  | .nonFinite x => .nonFinite x

/-- `round(sum(values) / len(values), 3) if values else 0.0`. -/
def meanOf (values : List PyVal) : Except Exc Number :=
  if values.isEmpty then .ok (.finite 0)
  else do
    let total ← values.foldlM (fun (t : Number) v => do .ok (t.add (← toNumber v))) (.finite 0)
    .ok (total.mean values.length)

/-- `(r.get("failure_reason") or "?").split(":")[0]`. -/
def reasonHead (r : Dict) : Except Exc String :=
  match (Dict.get r "failure_reason").orElse (.str "?") with
  | .str s => .ok (String.ofList (s.toList.takeWhile (· ≠ ':')))
  | _ => .error ⟨"AttributeError", "object has no attribute 'split'", [.attributeError]⟩

/-- The entry `"routing_preview"`. -/
structure RoutingPreview where
  reinject : ℕ
  directWrite : ℕ
  park : ℕ
  deriving DecidableEq

/-- What `inspect` returns. -/
structure InspectResult where
  topic : String
  records : ℕ
  distinctEventIds : ℕ
  recordsWithoutEventId : ℕ
  byStage : Counter HashKey
  byReason : Counter String
  meanRetryCountWhenRetried : Number
  routingPreview : RoutingPreview
  sample : List DlqRead

/-- `Counter(keys)`. -/
def counterOf {α : Type} [DecidableEq α] (keys : List α) : Counter α :=
  keys.foldl (fun c k => c.add k 1) Counter.empty

/-- `sum(1 for r in recs if r.get("failure_stage") in stages)`. -/
def stageCount (stages : List String) (recs : List DlqRead) : Except Exc ℕ := do
  let found ← recs.mapM fun r => inStages stages (Dict.get r.fields "failure_stage")
  .ok (found.countP id)

/-- What `inspect` computes of its records. -/
def inspectRecords (topic : String) (recs : List DlqRead) : Except Exc InspectResult := do
  let eventIds := (recs.map fun r => Dict.get r.fields "event_id").filter PyVal.truthy
  let distinct ← eventIds.mapM hashKey
  let byStage ← recs.mapM fun r => hashKey (getOr r.fields "failure_stage" (.str "?"))
  let byReason ← recs.mapM fun r => reasonHead r.fields
  let retryCounts := (recs.map fun r => Dict.get r.fields "retry_count").filter PyVal.truthy
  let mean ← meanOf retryCounts
  let reinject ← stageCount reinjectStages recs
  let directWrite ← stageCount directWriteStages recs
  let park ← stageCount parkStages recs
  .ok
    { topic := topic
      records := recs.length
      distinctEventIds := distinct.dedup.length
      recordsWithoutEventId := recs.countP fun r => !(Dict.get r.fields "event_id").truthy
      byStage := counterOf byStage
      byReason := counterOf byReason
      meanRetryCountWhenRetried := mean
      routingPreview := ⟨reinject, directWrite, park⟩
      sample := recs.take 3 }

/-- Inspect the DLQ, without a limit.
Source: `replay/dlq_tools.py` `inspect` -/
def inspect (name : String) (topic : Topic DlqValue) (polls : List Poll) :
    Except Exc InspectResult := do
  let recs ← readAll topic polls 0
  inspectRecords name recs

/-! ## Of which records there is a result -/

/-- The value has a hash. -/
def scalar : PyVal → Bool
  | .list _ => false
  | .dict _ => false
  | _ => true

/-- The value is a number. -/
def numeric : PyVal → Bool
  | .bool _ => true
  | .int _ => true
  | .float _ => true
  | .nonFinite _ => true
  | _ => false

/-- The value is a text. -/
def textual : PyVal → Bool
  | .str _ => true
  | _ => false

/-- The fields `inspect` computes with, besides the stage: a false value is left out. -/
structure Inspectable (r : DlqRead) : Prop where
  eventId : (Dict.get r.fields "event_id").truthy → scalar (Dict.get r.fields "event_id")
  failureReason :
    (Dict.get r.fields "failure_reason").truthy → textual (Dict.get r.fields "failure_reason")
  retryCount : (Dict.get r.fields "retry_count").truthy → numeric (Dict.get r.fields "retry_count")

/-- Scalars have a hash. -/
theorem exists_hashKey_iff {v : PyVal} : (∃ k, hashKey v = .ok k) ↔ scalar v = true := by
  cases v <;> simp [hashKey, scalar]

/-- Numbers and booleans can be added up. -/
theorem exists_toNumber_iff {v : PyVal} : (∃ x, toNumber v = .ok x) ↔ numeric v = true := by
  cases v <;> simp [toNumber, numeric]

/-- A stage can be looked up in a set when it is a scalar. -/
theorem exists_inStages_iff {stages : List String} {v : PyVal} :
    (∃ b, inStages stages v = .ok b) ↔ scalar v = true := by
  cases v <;> simp [inStages, scalar]

/-- A reason can be cut when it is missing or a text. -/
theorem exists_reasonHead_iff {r : Dict} : (∃ s, reasonHead r = .ok s) ↔
    ((Dict.get r "failure_reason").truthy → textual (Dict.get r "failure_reason")) := by
  unfold reasonHead PyVal.orElse
  by_cases h : (Dict.get r "failure_reason").truthy = true
  · rw [if_pos h]
    cases hv : Dict.get r "failure_reason" <;> simp_all [textual]
  · rw [if_neg h]
    exact iff_of_true ⟨_, rfl⟩ fun htrue => absurd htrue h

/-- A traversal ends normally iff every element does. -/
theorem exists_mapM_iff {α β : Type} {f : α → Except Exc β} {l : List α} :
    (∃ r, l.mapM f = .ok r) ↔ ∀ a ∈ l, ∃ b, f a = .ok b := by
  constructor
  · rintro ⟨r, hr⟩ a ha
    obtain ⟨b, -, hb⟩ := exists_of_mem_left (mapM_eq_ok_iff.mp hr) ha
    exact ⟨b, hb⟩
  · exact exists_mapM_eq_ok

/-- A mean is taken of numbers. -/
theorem exists_meanOf_iff {values : List PyVal} :
    (∃ x, meanOf values = .ok x) ↔ ∀ v ∈ values, numeric v = true := by
  unfold meanOf
  by_cases hempty : values.isEmpty = true
  · rw [if_pos hempty, List.isEmpty_iff.mp hempty]
    exact iff_of_true ⟨_, rfl⟩ fun v hv => absurd hv List.not_mem_nil
  rw [if_neg hempty]
  constructor
  · rintro ⟨x, hx⟩
    obtain ⟨total, htotal, -⟩ := bind_eq_ok_iff.mp hx
    refine foldlM_rec htotal (P := fun done _ => ∀ v ∈ done, numeric v = true)
      (fun v hv => absurd hv List.not_mem_nil) ?_
    intro done v t t' hdone hstep
    obtain ⟨x, hx, -⟩ := bind_eq_ok_iff.mp hstep
    rw [List.forall_mem_append, List.forall_mem_singleton]
    exact ⟨hdone, exists_toNumber_iff.mp ⟨x, hx⟩⟩
  · intro h
    obtain ⟨total, htotal⟩ := exists_foldlM_eq_ok (Number.finite 0) fun v hv (t : Number) => by
      obtain ⟨x, hx⟩ := exists_toNumber_iff.mpr (h v hv)
      exact ⟨t.add x, bind_eq_ok_iff.mpr ⟨x, hx, rfl⟩⟩
    exact ⟨_, bind_eq_ok_iff.mpr ⟨total, htotal, rfl⟩⟩

/-- The stage of a record is in the set. -/
def stageIn (stages : List String) (r : DlqRead) : Bool :=
  match Dict.get r.fields "failure_stage" with
  | .str s => stages.contains s
  | _ => false

/-- Looking a stage up finds what `stageIn` says. -/
theorem inStages_eq {stages : List String} {r : DlqRead} {b : Bool}
    (h : inStages stages (Dict.get r.fields "failure_stage") = .ok b) : b = stageIn stages r := by
  unfold stageIn
  cases hv : Dict.get r.fields "failure_stage" <;> rw [hv] at h <;> cases h <;> rfl

/-- A missing stage has a hash, whatever it is taken for. -/
theorem scalar_getOr (r : Dict) (field s : String) :
    scalar (getOr r field (.str s)) = scalar (Dict.get r field) := by
  unfold getOr Dict.get
  cases r.lookup field <;> rfl

/-- Counting the stages counts what `stageIn` says. -/
theorem stageCount_ok {stages : List String} {recs : List DlqRead} {n : ℕ}
    (h : stageCount stages recs = .ok n) : n = recs.countP (stageIn stages) := by
  obtain ⟨found, hfound, hn⟩ := bind_eq_ok_iff.mp h
  obtain rfl := Except.ok.inj hn
  have hall := mapM_eq_ok_iff.mp hfound
  clear h hn hfound
  induction hall with
  | nil => rfl
  | cons hr _ ih => rw [List.countP_cons, List.countP_cons, ih, inStages_eq hr, id]

/-- The stages can be counted when each is a scalar. -/
theorem exists_stageCount_iff {stages : List String} {recs : List DlqRead} :
    (∃ n, stageCount stages recs = .ok n) ↔
      ∀ r ∈ recs, scalar (Dict.get r.fields "failure_stage") = true := by
  constructor
  · rintro ⟨n, hn⟩ r hr
    obtain ⟨found, hfound, -⟩ := bind_eq_ok_iff.mp hn
    exact exists_inStages_iff.mp (exists_mapM_iff.mp ⟨found, hfound⟩ r hr)
  · intro h
    obtain ⟨found, hfound⟩ := exists_mapM_iff.mpr fun r hr =>
      exists_inStages_iff.mpr (h r hr)
    exact ⟨_, bind_eq_ok_iff.mpr ⟨found, hfound, rfl⟩⟩

/-- The preview counts stages. -/
theorem inspectRecords_preview {topic : String} {recs : List DlqRead} {res : InspectResult}
    (h : inspectRecords topic recs = .ok res) :
    res.routingPreview = ⟨recs.countP (stageIn reinjectStages),
      recs.countP (stageIn directWriteStages), recs.countP (stageIn parkStages)⟩ := by
  obtain ⟨_, -, h⟩ := bind_eq_ok_iff.mp h
  obtain ⟨_, -, h⟩ := bind_eq_ok_iff.mp h
  obtain ⟨_, -, h⟩ := bind_eq_ok_iff.mp h
  obtain ⟨_, -, h⟩ := bind_eq_ok_iff.mp h
  obtain ⟨_, hreinject, h⟩ := bind_eq_ok_iff.mp h
  obtain ⟨_, hdirect, h⟩ := bind_eq_ok_iff.mp h
  obtain ⟨_, hpark, h⟩ := bind_eq_ok_iff.mp h
  obtain rfl := Except.ok.inj h
  rw [stageCount_ok hreinject, stageCount_ok hdirect, stageCount_ok hpark]

/-- The truthy values of a field all satisfy what the field of each record does. -/
theorem forall_truthy_iff {recs : List DlqRead} {field : String} {P : PyVal → Prop} :
    (∀ v ∈ (recs.map fun r => Dict.get r.fields field).filter PyVal.truthy, P v) ↔
      ∀ r ∈ recs, (Dict.get r.fields field).truthy = true → P (Dict.get r.fields field) := by
  simp only [List.mem_filter, List.mem_map, and_imp, forall_exists_index,
    forall_apply_eq_imp_iff₂]

section results

variable {recs : List DlqRead}

/-- The event ids can be counted when those that are truthy are scalars. -/
theorem exists_distinct_iff :
    (∃ ks, ((recs.map fun r => Dict.get r.fields "event_id").filter PyVal.truthy).mapM hashKey =
        .ok ks) ↔
      ∀ r ∈ recs, (Dict.get r.fields "event_id").truthy = true →
        scalar (Dict.get r.fields "event_id") = true := by
  rw [exists_mapM_iff, ← forall_truthy_iff (P := fun v => scalar v = true)]
  exact forall₂_congr fun v _ => exists_hashKey_iff

/-- The mean can be taken when the truthy retry counts are numbers. -/
theorem exists_mean_iff :
    (∃ x, meanOf ((recs.map fun r => Dict.get r.fields "retry_count").filter PyVal.truthy) =
        .ok x) ↔
      ∀ r ∈ recs, (Dict.get r.fields "retry_count").truthy = true →
        numeric (Dict.get r.fields "retry_count") = true := by
  rw [exists_meanOf_iff, ← forall_truthy_iff (P := fun v => numeric v = true)]

/-- The records can be grouped when each stage is a scalar. -/
theorem exists_stages_iff :
    (∃ ks, (recs.mapM fun r => hashKey (getOr r.fields "failure_stage" (.str "?"))) = .ok ks) ↔
      ∀ r ∈ recs, scalar (Dict.get r.fields "failure_stage") = true := by
  rw [exists_mapM_iff]
  refine forall₂_congr fun r _ => ?_
  rw [exists_hashKey_iff, scalar_getOr]

/-- **Of which records there is a result.** -/
theorem inspectRecords_ok_iff {topic : String} :
    (∃ res, inspectRecords topic recs = .ok res) ↔
      ∀ r ∈ recs, Inspectable r ∧ scalar (Dict.get r.fields "failure_stage") = true := by
  constructor
  · rintro ⟨res, h⟩ r hr
    obtain ⟨ks, hids, h⟩ := bind_eq_ok_iff.mp h
    obtain ⟨ss, hstages, h⟩ := bind_eq_ok_iff.mp h
    obtain ⟨rs, hreasons, h⟩ := bind_eq_ok_iff.mp h
    obtain ⟨x, hmean, -⟩ := bind_eq_ok_iff.mp h
    refine ⟨⟨exists_distinct_iff.mp ⟨ks, hids⟩ r hr, ?_, exists_mean_iff.mp ⟨x, hmean⟩ r hr⟩,
      exists_stages_iff.mp ⟨ss, hstages⟩ r hr⟩
    exact exists_reasonHead_iff.mp (exists_mapM_iff.mp ⟨rs, hreasons⟩ r hr)
  · intro h
    have hscalar := fun r hr => (h r hr).2
    obtain ⟨ks, hids⟩ := exists_distinct_iff.mpr fun r hr => (h r hr).1.eventId
    obtain ⟨ss, hstages⟩ := exists_stages_iff.mpr hscalar
    obtain ⟨rs, hreasons⟩ := exists_mapM_iff.mpr fun r hr =>
      exists_reasonHead_iff.mpr (h r hr).1.failureReason
    obtain ⟨x, hmean⟩ := exists_mean_iff.mpr fun r hr => (h r hr).1.retryCount
    have hcount : ∀ stages, ∃ n, stageCount stages recs = .ok n := fun _ =>
      exists_stageCount_iff.mpr hscalar
    obtain ⟨n, hn⟩ := hcount reinjectStages
    obtain ⟨m, hm⟩ := hcount directWriteStages
    obtain ⟨k, hk⟩ := hcount parkStages
    refine exists_bind_eq_ok hids (exists_bind_eq_ok hstages (exists_bind_eq_ok hreasons ?_))
    refine exists_bind_eq_ok hmean (exists_bind_eq_ok hn (exists_bind_eq_ok hm ?_))
    exact exists_bind_eq_ok hk ⟨_, rfl⟩

end results

/-! ## Where the drain puts a record -/

section routing

variable {env : DrainEnv} {maxReplays : ℤ} {r : DlqRead}

/-- The stage of a record says where the drain puts it: it is one of the four stages, and one that
is not parked has replays left. -/
def Foreseen (env : DrainEnv) (maxReplays : ℤ) (r : DlqRead) : Prop :=
  ∃ stage n, r.fields.lookup "failure_stage" = some (.str stage) ∧
    pyInt env.intOfText (getOr r.fields "replay_count" (.int 0)) = .ok n ∧
      (stage ∈ parkStages ∨ stage ∈ reinjectStages ++ directWriteStages ∧ n < maxReplays)

/-- The record goes to the park list. -/
def Action.isPark : Action → Bool
  | .park _ => true
  | _ => false

/-- The drain puts the record where the preview counts it. -/
structure Agrees (r : DlqRead) (a : Action) : Prop where
  reinject : stageIn reinjectStages r = true → a = .reinject
  direct : stageIn directWriteStages r = true → a = .direct
  park : a.isPark = true → stageIn parkStages r = true

/-- `stageIn` compares the stage of a record. -/
theorem stageIn_iff {stages : List String} :
    stageIn stages r = true ↔ ∃ s ∈ stages, r.fields.lookup "failure_stage" = some (.str s) := by
  unfold stageIn Dict.get
  rcases r.fields.lookup "failure_stage" with _ | v
  · simp
  · cases v <;> simp

/-- The list of a record whose stage is a text. -/
theorem classify_text {stage : String} {n : ℤ}
    (hstage : r.fields.lookup "failure_stage" = some (.str stage))
    (hcount : pyInt env.intOfText (getOr r.fields "replay_count" (.int 0)) = .ok n) :
    classify env maxReplays r = .ok (
      if maxReplays ≤ n then .park ("replay_count >= " ++ toString maxReplays)
      else if reinjectStages.contains stage then .reinject
      else if directWriteStages.contains stage then .direct
      else .park ("stage " ++ env.repr (.str stage) ++ " is not automatically recoverable")) := by
  unfold classify
  rw [hcount]
  simp only [getOr, hstage, Option.getD_some, bind, Except.bind, inStages]
  split_ifs <;> rfl

/-- A stage in one of the sets is in the record. -/
theorem lookup_of_inStages {stages : List String} (hdefault : "?" ∉ stages)
    (h : inStages stages (getOr r.fields "failure_stage" (.str "?")) = .ok true) :
    ∃ s ∈ stages, r.fields.lookup "failure_stage" = some (.str s) := by
  unfold getOr at h
  rcases hv : r.fields.lookup "failure_stage" with _ | v
  · rw [hv] at h
    exact absurd (List.contains_iff_mem.mp (Except.ok.inj h)) hdefault
  · rw [hv, Option.getD_some] at h
    cases v with
    | str s => exact ⟨s, List.contains_iff_mem.mp (Except.ok.inj h), rfl⟩
    | _ => cases h

/-- The ways through one turn of the routing loop. -/
theorem classify_cases {a : Action} (h : classify env maxReplays r = .ok a) :
    ∃ n, pyInt env.intOfText (getOr r.fields "replay_count" (.int 0)) = .ok n ∧
      (a.isPark = true ∨ n < maxReplays ∧
        (a = .reinject ∧ stageIn reinjectStages r = true ∨
          a = .direct ∧ stageIn directWriteStages r = true)) := by
  obtain ⟨n, hn, h⟩ := bind_eq_ok_iff.mp h
  refine ⟨n, hn, ?_⟩
  split_ifs at h with hspent
  · obtain rfl := Except.ok.inj h
    exact Or.inl rfl
  obtain ⟨reinject, hreinject, h⟩ := bind_eq_ok_iff.mp h
  cases reinject with
  | true =>
      obtain rfl := Except.ok.inj h
      exact Or.inr ⟨not_le.mp hspent, Or.inl ⟨rfl, stageIn_iff.mpr
        (lookup_of_inStages (by decide) hreinject)⟩⟩
  | false =>
      obtain ⟨direct, hdirect, h⟩ := bind_eq_ok_iff.mp h
      cases direct with
      | true =>
          obtain rfl := Except.ok.inj h
          exact Or.inr ⟨not_le.mp hspent, Or.inr ⟨rfl, stageIn_iff.mpr
            (lookup_of_inStages (by decide) hdirect)⟩⟩
      | false =>
          obtain rfl := Except.ok.inj h
          exact Or.inl rfl

/-- **A record goes where the preview counts it iff it is foreseen.** -/
theorem agrees_iff :
    (∃ a, classify env maxReplays r = .ok a ∧ Agrees r a) ↔ Foreseen env maxReplays r := by
  constructor
  · rintro ⟨a, ha, hagrees⟩
    obtain ⟨n, hn, hpark | ⟨hlt, ⟨-, hin⟩ | ⟨-, hin⟩⟩⟩ := classify_cases ha
    · obtain ⟨stage, hstage, hlookup⟩ := stageIn_iff.mp (hagrees.park hpark)
      exact ⟨stage, n, hlookup, hn, Or.inl hstage⟩
    · obtain ⟨stage, hstage, hlookup⟩ := stageIn_iff.mp hin
      exact ⟨stage, n, hlookup, hn, Or.inr ⟨List.mem_append_left _ hstage, hlt⟩⟩
    · obtain ⟨stage, hstage, hlookup⟩ := stageIn_iff.mp hin
      exact ⟨stage, n, hlookup, hn, Or.inr ⟨List.mem_append_right _ hstage, hlt⟩⟩
  · rintro ⟨stage, n, hlookup, hn, hstage⟩
    have hin : ∀ stages : List String, stageIn stages r = true → stage ∈ stages := by
      intro stages h
      obtain ⟨s, hs, hs'⟩ := stageIn_iff.mp h
      rw [hlookup] at hs'
      rwa [PyVal.str.inj (Option.some.inj hs')]
    refine ⟨_, classify_text hlookup hn, ?_⟩
    rcases hstage with hpark | ⟨hlisted, hlt⟩
    · -- the stage `parse` is in no other set
      obtain rfl := List.mem_singleton.mp hpark
      refine ⟨fun h => absurd (hin _ h) (by decide), fun h => absurd (hin _ h) (by decide),
        fun _ => stageIn_iff.mpr ⟨_, hpark, hlookup⟩⟩
    · rw [if_neg (not_le.mpr hlt)]
      rcases List.mem_append.mp hlisted with hreinject | hdirect
      · rw [if_pos (List.contains_iff_mem.mpr hreinject)]
        have hother : stage ∉ directWriteStages := by
          rcases List.mem_cons.mp hreinject with rfl | hproducer
          · decide
          · rw [List.mem_singleton.mp hproducer]
            decide
        exact ⟨fun _ => rfl, fun h => absurd (hin _ h) hother, fun h => by cases h⟩
      · obtain rfl := List.mem_singleton.mp hdirect
        exact ⟨fun h => absurd (hin _ h) (by decide), fun _ => rfl, fun h => by cases h⟩

end routing

/-! ## Preview and drain -/

/-- A count of fewer elements is the same iff it leaves none out. -/
theorem countP_eq_iff {α : Type} {l : List α} {p q : α → Bool}
    (himp : ∀ a ∈ l, p a = true → q a = true) :
    l.countP p = l.countP q ↔ ∀ a ∈ l, q a = true → p a = true := by
  constructor
  · intro heq a ha hq
    by_contra hp
    obtain ⟨front, back, rfl⟩ := List.append_of_mem ha
    have hfront := List.countP_mono_left fun b hb =>
      himp b (List.mem_append_left (a :: back) hb)
    have hback := List.countP_mono_left fun b hb =>
      himp b (List.mem_append_right front (List.mem_cons_of_mem a hb))
    rw [List.countP_append, List.countP_append, List.countP_cons, List.countP_cons, if_neg hp,
      if_pos hq] at heq
    omega
  · intro h
    exact List.countP_congr fun a ha => ⟨himp a ha, h a ha⟩

section agree

variable {env : DrainEnv} {maxReplays : ℤ} {recs : List DlqRead} {lists : Lists}

/-- The records of a list: those the routing sends there. -/
def goesTo (env : DrainEnv) (maxReplays : ℤ) (P : Action → Bool) (r : DlqRead) : Bool :=
  (classify env maxReplays r).toOption.any P

/-- A record that is classified goes where its action says. -/
theorem goesTo_of_ok {r : DlqRead} {a : Action} (ha : classify env maxReplays r = .ok a)
    (P : Action → Bool) : goesTo env maxReplays P r = P a := by
  rw [goesTo, ha]
  rfl

/-- How many records each list holds. -/
theorem length_lists (h : routeRecords env maxReplays recs = .ok lists) :
    lists.reinject.length = recs.countP (goesTo env maxReplays (· = .reinject)) ∧
      lists.direct.length = recs.countP (goesTo env maxReplays (· = .direct)) ∧
      lists.park.length = recs.countP (goesTo env maxReplays Action.isPark) := by
  refine foldlM_rec h (P := fun done l =>
    l.reinject.length = done.countP (goesTo env maxReplays (· = .reinject)) ∧
      l.direct.length = done.countP (goesTo env maxReplays (· = .direct)) ∧
      l.park.length = done.countP (goesTo env maxReplays Action.isPark)) ⟨rfl, rfl, rfl⟩ ?_
  rintro done r l l' ⟨hreinject, hdirect, hpark⟩ hstep
  obtain ⟨a, ha, hl'⟩ := bind_eq_ok_iff.mp hstep
  obtain rfl := Except.ok.inj hl'
  simp only [List.countP_append, List.countP_singleton, goesTo_of_ok ha, ← hreinject, ← hdirect,
    ← hpark]
  cases a <;> simp [Lists.add, Action.isPark]

/-- The routing loop ends, and the preview's counts are the lengths of its lists. -/
def PreviewAgrees (env : DrainEnv) (maxReplays : ℤ) (topic : String) (recs : List DlqRead) : Prop :=
  ∃ res lists, inspectRecords topic recs = .ok res ∧
    routeRecords env maxReplays recs = .ok lists ∧
    res.routingPreview = ⟨lists.reinject.length, lists.direct.length, lists.park.length⟩ ∧
    res.routingPreview.reinject + res.routingPreview.directWrite + res.routingPreview.park =
      recs.length

/-- What the drain re-injects or writes has the stage for it, and what has the stage `parse` is
parked. -/
theorem stageIn_of_goesTo (r : DlqRead) :
    (goesTo env maxReplays (· = .reinject) r = true → stageIn reinjectStages r = true) ∧
      (goesTo env maxReplays (· = .direct) r = true → stageIn directWriteStages r = true) ∧
      ((∃ a, classify env maxReplays r = .ok a) → stageIn parkStages r = true →
        goesTo env maxReplays Action.isPark r = true) := by
  have hdisjoint : ∀ stages : List String, stageParse ∉ stages → stageIn parkStages r = true →
      stageIn stages r = true → False := by
    intro stages hnot hpark hin
    obtain ⟨s, hs, hlookup⟩ := stageIn_iff.mp hpark
    obtain ⟨s', hs', hlookup'⟩ := stageIn_iff.mp hin
    rw [hlookup] at hlookup'
    rw [← PyVal.str.inj (Option.some.inj hlookup'), List.mem_singleton.mp hs] at hs'
    exact hnot hs'
  unfold goesTo
  rcases ha : classify env maxReplays r with e | a
  · simp [Except.toOption]
  · obtain ⟨n, -, hpark | ⟨-, ⟨rfl, hin⟩ | ⟨rfl, hin⟩⟩⟩ := classify_cases ha
    · cases a <;> simp_all [Except.toOption, Action.isPark]
    · refine ⟨fun _ => hin, fun h => absurd h Bool.false_ne_true, fun _ hpark => ?_⟩
      exact (hdisjoint _ (by decide) hpark hin).elim
    · refine ⟨fun h => absurd h Bool.false_ne_true, fun _ => hin, fun _ hpark => ?_⟩
      exact (hdisjoint _ (by decide) hpark hin).elim

/-- The preview counts what the lists hold iff every record is foreseen. -/
theorem preview_eq_iff {topic : String} {res : InspectResult}
    (hres : inspectRecords topic recs = .ok res)
    (hlists : routeRecords env maxReplays recs = .ok lists) :
    res.routingPreview = ⟨lists.reinject.length, lists.direct.length, lists.park.length⟩ ↔
      ∀ r ∈ recs, Foreseen env maxReplays r := by
  obtain ⟨hreinject, hdirect, hpark⟩ := length_lists hlists
  have hclass := routeRecords_classified hlists
  rw [inspectRecords_preview hres, RoutingPreview.mk.injEq, hreinject, hdirect, hpark, eq_comm,
    countP_eq_iff fun r _ => (stageIn_of_goesTo r).1, eq_comm (a := recs.countP _),
    countP_eq_iff fun r _ => (stageIn_of_goesTo r).2.1,
    countP_eq_iff fun r hr => (stageIn_of_goesTo r).2.2 (hclass r hr)]
  constructor
  · rintro ⟨hcountR, hcountD, hcountP⟩ r hr
    obtain ⟨a, ha⟩ := hclass r hr
    refine agrees_iff.mp ⟨a, ha, fun h => ?_, fun h => ?_, fun h => ?_⟩
    · simpa [goesTo_of_ok ha] using hcountR r hr h
    · simpa [goesTo_of_ok ha] using hcountD r hr h
    · exact hcountP r hr ((goesTo_of_ok ha _).trans h)
  · intro h
    refine ⟨fun r hr hin => ?_, fun r hr hin => ?_, fun r hr hin => ?_⟩
    all_goals obtain ⟨a, ha, hagrees⟩ := agrees_iff.mpr (h r hr)
    · simpa [goesTo_of_ok ha] using hagrees.reinject hin
    · simpa [goesTo_of_ok ha] using hagrees.direct hin
    · exact hagrees.park ((goesTo_of_ok ha _).symm.trans hin)

/-- The lists hold every record once. -/
theorem length_routeRecords (h : routeRecords env maxReplays recs = .ok lists) :
    lists.reinject.length + lists.direct.length + lists.park.length = recs.length := by
  have hperm := (routeRecords_perm h).length_eq
  rwa [List.length_map, List.length_map, List.length_append, List.length_append,
    ← Nat.add_assoc] at hperm

/-- **Preview and drain agree iff every record can be inspected and is foreseen.** -/
theorem previewAgrees_iff (topic : String) :
    PreviewAgrees env maxReplays topic recs ↔
      ∀ r ∈ recs, Inspectable r ∧ Foreseen env maxReplays r := by
  constructor
  · rintro ⟨res, lists, hres, hlists, hpreview, -⟩ r hr
    exact ⟨(inspectRecords_ok_iff.mp ⟨res, hres⟩ r hr).1,
      (preview_eq_iff hres hlists).mp hpreview r hr⟩
  · intro h
    obtain ⟨lists, hlists⟩ := exists_routeRecords fun r hr =>
      (agrees_iff.mpr (h r hr).2).imp fun a ha => ha.1
    obtain ⟨res, hres⟩ : ∃ res, inspectRecords topic recs = .ok res := by
      refine inspectRecords_ok_iff.mpr fun r hr => ?_
      obtain ⟨stage, n, hlookup, -⟩ := (h r hr).2
      refine ⟨(h r hr).1, ?_⟩
      rw [Dict.get, hlookup]
      rfl
    have hpreview := (preview_eq_iff hres hlists).mpr fun r hr => (h r hr).2
    refine ⟨res, lists, hres, hlists, hpreview, ?_⟩
    rw [hpreview, length_routeRecords hlists]

end agree

/-- The reader's own stage, of a record that is no JSON, is in no set of the preview, while the
drain parks the record. -/
theorem unreadable_unforeseen : ∃ r, DlqValue.toRecord ⟨0, 0⟩ (.unreadable "no json") = .ok r ∧
    (∃ lists, routeRecords calmEnv 3 [r] = .ok lists ∧ lists.park.length = 1) ∧
    ¬PreviewAgrees calmEnv 3 "trips.dlq" [r] := by
  refine ⟨_, rfl, ⟨_, rfl, rfl⟩, ?_⟩
  rintro ⟨res, lists, hres, -, -, hsum⟩
  rw [inspectRecords_preview hres] at hsum
  exact absurd hsum (by decide)

end TripPipeline.Replay
