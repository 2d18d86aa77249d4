import TripPipeline.Replay.DirectWrite
import TripPipeline.Replay.Once

/-!
# Records that end nowhere

The park list is filled by the routing loop, before anything is tried. A record that fails
afterwards, while its payload is parsed, produced, built or executed, is reported and counted, and
that is all: it is not delivered, not written and not parked.

* `reinjectOne_ok_iff`, `directWriteOne_executed_iff`: when a turn of either loop succeeds.
* `noneLeft_iff`: a drain that returns leaves no record behind iff every record of the first two
  lists can be recovered.
-/

namespace TripPipeline.Replay

open TripPipeline.Common TripPipeline.Lib
open TripPipeline.Streaming

/-! ## Re-injected records -/

/-- The payload is an object, its key is a text, and the client takes it and has it acknowledged. -/
structure Republishable (env : DrainEnv) (r : DlqRead) : Prop where
  payload : ∃ text kvs key, r.fields.lookup "original_payload" = some (.str text) ∧
    env.codec.loads text = some (.dict kvs) ∧
    (Dict.get kvs "trip_id").orElse ((Dict.get r.fields "event_id").orElse (.str "unknown")) =
      .str key
  produced : env.produce r.loc = .ok ()
  acked : env.delivery r.loc = .acked

/-- A key is a text. -/
theorem messageKey_ok_iff {v : PyVal} {key : String} : messageKey v = .ok key ↔ v = .str key := by
  cases v <;> simp [messageKey]

/-- `get` reads a dict. -/
theorem pyGet_ok_iff {payload v : PyVal} {field : String} :
    pyGet payload field = .ok v ↔ ∃ kvs, payload = .dict kvs ∧ v = Dict.get kvs field := by
  cases payload <;> simp [pyGet, eq_comm]

/-- An original payload parses when it is a text the codec reads. -/
theorem jsonLoads_eq_ok_iff {codec : JsonCodec} {original v : PyVal} :
    jsonLoads codec original = .ok v ↔
      ∃ text, original = .str text ∧ codec.loads text = some v := by
  cases original with
  | str text => simp [jsonLoads_ok_iff]
  | _ => simp [jsonLoads]

section reinject

variable {env : DrainEnv} {r : DlqRead}

/-- **When a turn of the re-inject loop hands a message to the client.** -/
theorem reinjectOne_ok_iff {p : Produced} :
    reinjectOne env r = .ok p ↔
      ∃ text kvs key, r.fields.lookup "original_payload" = some (.str text) ∧
        env.codec.loads text = some (.dict kvs) ∧
        (Dict.get kvs "trip_id").orElse ((Dict.get r.fields "event_id").orElse (.str "unknown")) =
          .str key ∧
        env.produce r.loc = .ok () ∧ p = ⟨r.loc, key, text, env.delivery r.loc⟩ := by
  unfold reinjectOne
  simp only [bind_eq_ok_iff, item_ok_iff, jsonLoads_eq_ok_iff, pyGet_ok_iff, messageKey_ok_iff,
    Except.ok.injEq]
  constructor
  · rintro ⟨original, hitem, payload, ⟨text, rfl, hloads⟩, _, ⟨kvs, rfl, rfl⟩, value, hvalue, key,
      hkey, _, hproduce, rfl⟩
    obtain rfl := Except.ok.inj hvalue
    exact ⟨_, kvs, key, hitem, hloads, hkey, hproduce, rfl⟩
  · rintro ⟨text, kvs, key, hitem, hloads, hkey, hproduce, rfl⟩
    exact ⟨_, hitem, _, ⟨text, rfl, hloads⟩, _, ⟨kvs, rfl, rfl⟩, text, rfl, key, hkey, (),
      hproduce, rfl⟩

/-- A record can be published again when its re-injection is acknowledged. -/
theorem republishable_iff :
    Republishable env r ↔ ∃ p, reinjectOne env r = .ok p ∧ p.delivery = .acked := by
  simp only [reinjectOne_ok_iff]
  constructor
  · rintro ⟨⟨text, kvs, key, hitem, hloads, hkey⟩, hproduce, hacked⟩
    exact ⟨_, ⟨text, kvs, key, hitem, hloads, hkey, hproduce, rfl⟩, hacked⟩
  · rintro ⟨_, ⟨text, kvs, key, hitem, hloads, hkey, hproduce, rfl⟩, hacked⟩
    exact ⟨⟨text, kvs, key, hitem, hloads, hkey⟩, hproduce, hacked⟩

end reinject

/-! ## Directly written records -/

/-- The payload has statements for all tables, and all three are executed. -/
structure Writable (env : DrainEnv) (r : DlqRead) : Prop where
  payload : ∃ text kvs d, r.fields.lookup "original_payload" = some (.str text) ∧
    Readable env.codec env.fromIsoFormat text kvs d ∧ Buildable (withTime kvs d)
  executed : ∀ t ∈ allTables, env.execute r.loc t = .ok ()

section direct

variable {env : DrainEnv} {r : DlqRead}

/-- The statements that ran are the first ones. -/
theorem prefix_executeAll (execute : Table → Except Exc Unit) (stmts : List Statement) :
    (executeAll execute stmts).1 <+: stmts := by
  induction stmts with
  | nil => exact List.prefix_rfl
  | cons st stmts ih =>
      rw [executeAll]
      split
      · exact (List.prefix_cons_inj st).mpr ih
      · exact List.nil_prefix

/-- All statements ran when none of their tables failed. -/
theorem executeAll_eq_iff (execute : Table → Except Exc Unit) (stmts : List Statement) :
    (executeAll execute stmts).1 = stmts ↔ ∀ st ∈ stmts, execute st.key = .ok () := by
  induction stmts with
  | nil => simp [executeAll]
  | cons st stmts ih =>
      rw [executeAll]
      cases h : execute st.key with
      | ok u => simp [h, ih]
      | error e => simp [h]

/-- The statements of a record. -/
theorem built_ok_iff {stmts : List Statement} :
    (Dict.item r.fields "original_payload" >>=
        directStatements env.codec env.fromIsoFormat env.nowMs) = .ok stmts ↔
      ∃ text kvs d, r.fields.lookup "original_payload" = some (.str text) ∧
        Readable env.codec env.fromIsoFormat text kvs d ∧
        buildStatements (withTime kvs d) allTables env.nowMs = .ok stmts := by
  rw [bind_eq_ok_iff]
  simp only [item_ok_iff]
  constructor
  · rintro ⟨original, hitem, hstmts⟩
    obtain ⟨row, hrow, -⟩ := bind_eq_ok_iff.mp hstmts
    obtain ⟨payload, hloads, -⟩ := bind_eq_ok_iff.mp hrow
    obtain ⟨text, rfl, -⟩ := jsonLoads_eq_ok_iff.mp hloads
    obtain ⟨kvs, d, hread, hbuild⟩ := directStatements_ok_iff.mp hstmts
    exact ⟨text, kvs, d, hitem, hread, hbuild⟩
  · rintro ⟨text, kvs, d, hitem, hread, hbuild⟩
    exact ⟨_, hitem, directStatements_ok_iff.mpr ⟨kvs, d, hread, hbuild⟩⟩

/-- **When a turn of the direct-write loop executes all three statements.** -/
theorem directWriteOne_executed_iff :
    (directWriteOne env r).executed.map Statement.key = allTables ↔ Writable env r := by
  have hkeys : ∀ {row : Dict} {stmts : List Statement},
      buildStatements row allTables env.nowMs = .ok stmts → stmts.map Statement.key = allTables :=
    fun h => buildStatements_keys h
  unfold directWriteOne
  dsimp only
  split
  · rename_i e hbuilt
    refine iff_of_false (List.cons_ne_nil _ _).symm ?_
    rintro ⟨⟨text, kvs, d, hitem, hread, hbuild⟩, -⟩
    obtain ⟨stmts, hstmts⟩ := (buildStatements_allTables_iff _ env.nowMs).mpr hbuild
    have hok := built_ok_iff.mpr ⟨text, kvs, d, hitem, hread, hstmts⟩
    cases hbuilt.symm.trans hok
  · rename_i stmts hbuilt
    obtain ⟨text, kvs, d, hitem, hread, hstmts⟩ := built_ok_iff.mp hbuilt
    constructor
    · intro hexec
      have hlen : (executeAll (env.execute r.loc) stmts).1.length = stmts.length := by
        rw [← List.length_map Statement.key, hexec, ← hkeys hstmts, List.length_map]
      have hall := (executeAll_eq_iff _ _).mp
        ((prefix_executeAll (env.execute r.loc) stmts).eq_of_length hlen)
      refine ⟨⟨text, kvs, d, hitem, hread,
        (buildStatements_allTables_iff _ env.nowMs).mp ⟨stmts, hstmts⟩⟩, ?_⟩
      intro t ht
      rw [← hkeys hstmts] at ht
      obtain ⟨st, hst, rfl⟩ := List.mem_map.mp ht
      exact hall st hst
    · rintro ⟨-, hall⟩
      have hexec := (executeAll_eq_iff (env.execute r.loc) stmts).mpr fun st hst =>
        hall st.key (hkeys hstmts ▸ List.mem_map_of_mem hst)
      show (executeAll (env.execute r.loc) stmts).1.map Statement.key = allTables
      rw [hexec, hkeys hstmts]

end direct

/-! ## The drain -/

/-- Every record read was delivered, written to all three tables, or parked. -/
def NoneLeft (run : DrainRun) : Prop :=
  ∀ r ∈ run.read, (∃ p ∈ run.produced, p.loc = r.loc ∧ p.delivery = .acked) ∨
    (∃ t ∈ run.direct, t.loc = r.loc ∧ t.executed.map Statement.key = allTables) ∨
    r.loc ∈ run.parkFile.map DlqRead.loc

/-- A record that the routing sends to one of the first two lists can be recovered there. -/
structure Recoverable (env : DrainEnv) (maxReplays : ℤ) (r : DlqRead) : Prop where
  reinject : classify env maxReplays r = .ok .reinject → Republishable env r
  direct : classify env maxReplays r = .ok .direct → Writable env r

section drains

variable {args : DrainArgs} {env : DrainEnv} {topic : Topic DlqValue} {run : DrainRun}

/-- A drain that returns has read nothing and done nothing, or reports its counts. -/
theorem drain_returned {res : DrainResult} (h : drain args env topic = .ok run)
    (hdry : args.dryRun = false) (hret : run.result = .ok res) :
    (run = ⟨[], ⟨[], [], []⟩, [], [], [], .ok .empty⟩ ∧ res = .empty) ∨
      ∃ report, res = .drained report := by
  unfold drain drainFrom at h
  obtain ⟨recs, -, h⟩ := bind_eq_ok_iff.mp h
  by_cases hempty : recs.isEmpty = true
  · rw [if_pos hempty] at h
    obtain rfl := Except.ok.inj h
    exact Or.inl ⟨rfl, (Except.ok.inj hret).symm⟩
  · rw [if_neg hempty] at h
    obtain ⟨lists, -, h⟩ := bind_eq_ok_iff.mp h
    rw [hdry, if_neg Bool.false_ne_true] at h
    obtain rfl := Except.ok.inj h
    right
    unfold handle at hret
    dsimp only at hret
    split at hret
    · cases hret
    · split at hret
      · cases hret
      · exact ⟨_, (Except.ok.inj hret).symm⟩

/-- Records at one place are the same record. -/
theorem DrainedFrom.eq_of_loc (h : Drained args env topic run) {r r' : DlqRead} (hr : r ∈ run.read)
    (hr' : r' ∈ run.read) (hloc : r'.loc = r.loc) : r' = r := by
  obtain ⟨pos, hread⟩ := readAll_readUpTo h.reads
  exact List.inj_on_of_nodup_map hread.nodup hr' hr hloc

/-- When a record was re-injected and its delivery confirmed. -/
theorem DrainedFrom.acked_iff (h : Drained args env topic run) {r : DlqRead} (hr : r ∈ run.read) :
    (∃ p ∈ run.produced, p.loc = r.loc ∧ p.delivery = .acked) ↔
      classify env args.maxReplays r = .ok .reinject ∧ Republishable env r := by
  rw [h.produced, (routeRecords_eq h.routed).1, republishable_iff]
  simp only [mem_reinjectAll, List.mem_filter, decide_eq_true_eq, toOption_eq_some_iff]
  constructor
  · rintro ⟨p, ⟨r', ⟨hr', hclass⟩, hp⟩, hloc, hacked⟩
    obtain rfl := h.eq_of_loc hr hr' ((reinjectOne_ok hp).1.symm.trans hloc)
    exact ⟨hclass, p, hp, hacked⟩
  · rintro ⟨hclass, p, hp, hacked⟩
    exact ⟨p, ⟨r, ⟨hr, hclass⟩, hp⟩, (reinjectOne_ok hp).1, hacked⟩

/-- When a record was written to all tables. -/
theorem DrainedFrom.written_iff (h : Drained args env topic run) {report : DrainReport}
    (hreport : run.result = .ok (.drained report)) {r : DlqRead} (hr : r ∈ run.read) :
    (∃ t ∈ run.direct, t.loc = r.loc ∧ t.executed.map Statement.key = allTables) ↔
      classify env args.maxReplays r = .ok .direct ∧ Writable env r := by
  rw [(h.reported report hreport).2.1, (routeRecords_eq h.routed).2.1,
    ← directWriteOne_executed_iff]
  simp only [List.mem_map, List.mem_filter, decide_eq_true_eq, toOption_eq_some_iff]
  constructor
  · rintro ⟨t, ⟨r', ⟨hr', hclass⟩, rfl⟩, hloc, hexec⟩
    obtain rfl := h.eq_of_loc hr hr' ((directWriteOne_loc env r').symm.trans hloc)
    exact ⟨hclass, hexec⟩
  · rintro ⟨hclass, hexec⟩
    exact ⟨_, ⟨r, ⟨hr, hclass⟩, rfl⟩, directWriteOne_loc env r, hexec⟩

/-- When a record was parked. -/
theorem DrainedFrom.parked_iff (h : Drained args env topic run) {report : DrainReport}
    (hreport : run.result = .ok (.drained report)) {r : DlqRead} (hr : r ∈ run.read) :
    r.loc ∈ run.parkFile.map DlqRead.loc ↔
      ∃ reason, classify env args.maxReplays r = .ok (.park reason) := by
  rw [(h.reported report hreport).2.2, (routeRecords_eq h.routed).2.2]
  simp only [List.mem_map, List.mem_filterMap]
  constructor
  · rintro ⟨q, ⟨r', hr', hq⟩, hloc⟩
    obtain ⟨reason, hclass, rfl⟩ := parked?_eq_some_iff.mp hq
    obtain rfl := h.eq_of_loc hr hr' hloc
    exact ⟨reason, hclass⟩
  · rintro ⟨reason, hclass⟩
    exact ⟨_, ⟨r, hr, parked?_eq_some_iff.mpr ⟨reason, hclass, rfl⟩⟩, rfl⟩

/-- What becomes of a record decides whether it is left behind. -/
theorem DrainedFrom.left_iff (h : Drained args env topic run) {report : DrainReport}
    (hreport : run.result = .ok (.drained report)) {r : DlqRead} (hr : r ∈ run.read) :
    ((∃ p ∈ run.produced, p.loc = r.loc ∧ p.delivery = .acked) ∨
        (∃ t ∈ run.direct, t.loc = r.loc ∧ t.executed.map Statement.key = allTables) ∨
        r.loc ∈ run.parkFile.map DlqRead.loc) ↔
      Recoverable env args.maxReplays r := by
  obtain ⟨a, ha⟩ := routeRecords_classified h.routed r hr
  rw [h.acked_iff hr, h.written_iff hreport hr, h.parked_iff hreport hr]
  constructor
  · rintro (⟨hclass, hgood⟩ | ⟨hclass, hgood⟩ | ⟨reason, hclass⟩)
    · exact ⟨fun _ => hgood, fun h => by rw [hclass] at h; cases h⟩
    · exact ⟨fun h => by (rw [hclass] at h; cases h), fun _ => hgood⟩
    · exact ⟨fun h => by (rw [hclass] at h; cases h), fun h => by rw [hclass] at h; cases h⟩
  · intro hgood
    rcases a with _ | _ | reason
    · exact Or.inl ⟨ha, hgood.reinject ha⟩
    · exact Or.inr (Or.inl ⟨ha, hgood.direct ha⟩)
    · exact Or.inr (Or.inr ⟨reason, ha⟩)

/-- **A drain that returns leaves no record behind iff every record can be recovered where it was
sent, or was sent to the park list.** -/
theorem noneLeft_iff {res : DrainResult} (h : drain args env topic = .ok run)
    (hdry : args.dryRun = false) (hret : run.result = .ok res) :
    NoneLeft run ↔ ∀ r ∈ run.read, Recoverable env args.maxReplays r := by
  rcases drain_returned h hdry hret with ⟨rfl, -⟩ | ⟨report, rfl⟩
  · exact iff_of_true (fun r hr => absurd hr List.not_mem_nil)
      (fun r hr => absurd hr List.not_mem_nil)
  · have hdrained := drain_drained h hdry
    exact forall₂_congr fun r hr => hdrained.left_iff hret hr

/-- The general result at one record of the parse stage. -/
theorem noneLeft_iff_parse :
    ∃ run res, drain ⟨0, 3, false⟩ calmEnv parseTopic = .ok run ∧ run.result = .ok res ∧
      (NoneLeft run ↔ ∀ r ∈ run.read, Recoverable calmEnv 3 r) := by
  obtain ⟨run, res, hrun, hres⟩ : ∃ run res, drain ⟨0, 3, false⟩ calmEnv parseTopic = .ok run ∧
    run.result = .ok res := ⟨_, _, rfl, rfl⟩
  exact ⟨run, res, hrun, hres, noneLeft_iff hrun rfl hres⟩

/-- A late event whose payload is a JSON list, and a sink record whose payload is one. -/
def listTopic : Topic DlqValue := fun p =>
  if p = 0 then
    [.json (.dict [("failure_stage", .str stageLate), ("original_payload", .str "[]")]),
     .json (.dict [("failure_stage", .str stageCassandraSink), ("original_payload", .str "[]")])]
  else []

/-- A drain of these two returns, and has delivered, written and parked nothing. -/
theorem listTopic_left :
    ∃ run report, drain ⟨0, 3, false⟩
        { calmEnv with codec := ⟨fun _ => some (.list []), fun _ => ""⟩ } listTopic = .ok run ∧
      run.result = .ok (.drained report) ∧ report.unaccounted = 2 ∧ ¬NoneLeft run := by
  refine ⟨_, _, rfl, rfl, rfl, fun h => ?_⟩
  rcases h _ List.mem_cons_self with ⟨p, hp, -⟩ | ⟨t, ht, -, hexec⟩ | hpark
  · cases hp
  · obtain rfl := List.mem_singleton.mp ht
    cases hexec
  · cases hpark

end drains

end TripPipeline.Replay
