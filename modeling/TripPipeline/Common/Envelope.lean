import TripPipeline.Common.Dlq
import TripPipeline.Common.PyJson
import TripPipeline.Lib.Counter

/-!
# The envelope as text

`DLQRecord.to_json` and `DLQRecord.from_json` of `common/dlq.py`. The reader tolerates extension: it
drops members it does not know, fills in the defaults of absent fields, and takes the schema version
of the text away, so that a record always carries the version of the code that made it.

* `DLQRecord.make` is the constructor of the dataclass.
* `reread_ofJson`: what `json.loads` gave is read back as it was, once it has been written.
* `fromJson_extended`: members with other names, anywhere in the object, leave every field as it was
  but the schema version.
-/

namespace TripPipeline.Common

open TripPipeline.Lib

/-! ## What was read is read back -/

/-- `float` gives a `float`, and reads back what `repr` wrote of it. -/
structure Floats.Exact (floats : Floats) : Prop where
  read : ∀ text, (∃ x, floats.read text = .float x) ∨ ∃ x, floats.read text = .nonFinite x
  repr : ∀ text x, floats.read text = .float x → readNumber floats (floats.repr x) = .float x

section reread

variable {floats : Floats} {other : PyVal → String}

/-- An entry of a dict after an assignment is the new one or an old one. -/
theorem mem_set {d : Dict} {k : String} {v : PyVal} {kv : String × PyVal}
    (h : kv ∈ Dict.set k v d) : kv = (k, v) ∨ kv ∈ d := by
  induction d with
  | nil => exact Or.inl (List.mem_singleton.mp h)
  | cons p d ih =>
      rw [Dict.set] at h
      split_ifs at h with hk
      · rcases List.mem_cons.mp h with rfl | h
        · exact Or.inl (by rw [hk])
        · exact Or.inr (List.mem_cons_of_mem p h)
      · rcases List.mem_cons.mp h with rfl | h
        · exact Or.inr List.mem_cons_self
        · exact (ih h).imp id (List.mem_cons_of_mem p)

/-- An assignment keeps the keys distinct. -/
theorem nodup_set {d : Dict} (k : String) (v : PyVal) (h : (d.map Prod.fst).Nodup) :
    ((Dict.set k v d).map Prod.fst).Nodup := by
  induction d with
  | nil => exact List.nodup_singleton k
  | cons p d ih =>
      rw [List.map_cons, List.nodup_cons] at h
      rw [Dict.set]
      split_ifs with hk
      · exact List.nodup_cons.mpr h
      · rw [List.map_cons, List.nodup_cons]
        refine ⟨fun hmem => ?_, ih h.2⟩
        obtain ⟨kv, hkv, hfst⟩ := List.mem_map.mp hmem
        rcases mem_set hkv with rfl | hkv
        · exact hk hfst.symm
        · exact h.1 (List.mem_map.mpr ⟨kv, hkv, hfst⟩)

/-- A dictionary has its keys once, and only pairs it was made of. -/
theorem dictOf_spec (pairs : List (String × PyVal)) :
    ((dictOf pairs).map Prod.fst).Nodup ∧ ∀ kv ∈ dictOf pairs, kv ∈ pairs := by
  induction pairs using List.reverseRecOn with
  | nil => exact ⟨List.nodup_nil, fun kv hkv => hkv⟩
  | append_singleton pairs kv ih =>
      have hset : dictOf (pairs ++ [kv]) = Dict.set kv.1 kv.2 (dictOf pairs) := List.foldl_concat ..
      rw [hset]
      refine ⟨nodup_set _ _ ih.1, fun kv' hkv' => ?_⟩
      rw [List.mem_append, List.mem_singleton]
      rcases mem_set hkv' with rfl | hmem
      · exact Or.inr rfl
      · exact Or.inl (ih.2 kv' hmem)

/-- Writing and reading a list is writing and reading its elements. -/
theorem ofJsonList_toJsonList (vs : List PyVal) :
    ofJsonList floats (toJsonList floats other vs) = vs.map (reread floats other) := by
  induction vs with
  | nil => rfl
  | cons v vs ih =>
      rw [toJsonList, ofJsonList, ih]
      rfl

/-- A number that was read is read again as it is, when the floats are exact. -/
theorem reread_number (hfloats : floats.Exact) (text : NumberText) :
    reread floats other (readNumber floats text) = readNumber floats text := by
  unfold readNumber
  split_ifs
  · rfl
  · rfl
  · rfl
  · exact reread_int _
  · obtain ⟨x, hx⟩ | ⟨x, hx⟩ := hfloats.read text
    · rw [hx]
      exact hfloats.repr text x hx
    · rw [hx]
      cases x <;> rfl

mutual

/-- **A value that was read is read back as it was.** -/
theorem reread_ofJson (hfloats : floats.Exact) :
    ∀ j : Json, reread floats other (ofJson floats j) = ofJson floats j
  | .null => rfl
  | .bool _ => rfl
  | .number text => reread_number hfloats text
  | .string _ => rfl
  | .array xs => by
      have hlist : (ofJsonList floats xs).map (reread floats other) = ofJsonList floats xs :=
        (List.map_congr_left (reread_ofJsonList hfloats xs)).trans (List.map_id _)
      rw [ofJson, reread, toJson, ofJson, ofJsonList_toJsonList, hlist]
  | .object ms => by
      obtain ⟨hnodup, hmem⟩ := dictOf_spec (ofJsonMembers floats ms)
      have hmap : (dictOf (ofJsonMembers floats ms)).map
          (fun kv => (kv.1, reread floats other kv.2)) = dictOf (ofJsonMembers floats ms) := by
        refine (List.map_congr_left fun kv hkv => ?_).trans (List.map_id _)
        rw [reread_ofJsonMembers hfloats ms kv (hmem kv hkv)]
        rfl
      rw [ofJson, reread_dict hnodup, hmap]

/-- The elements of a list that was read are read again as they are. -/
theorem reread_ofJsonList (hfloats : floats.Exact) :
    ∀ xs : List Json, ∀ v ∈ ofJsonList floats xs, reread floats other v = v
  | [] => fun _ hv => absurd hv List.not_mem_nil
  | x :: xs => by
      intro v hv
      rcases List.mem_cons.mp hv with rfl | hv
      · exact reread_ofJson hfloats x
      · exact reread_ofJsonList hfloats xs v hv

/-- The values of an object that was read are read again as they are. -/
theorem reread_ofJsonMembers (hfloats : floats.Exact) :
    ∀ ms : List (String × Json), ∀ kv ∈ ofJsonMembers floats ms,
      reread floats other kv.2 = kv.2
  | [] => fun _ hkv => absurd hkv List.not_mem_nil
  | (k, j) :: ms => by
      intro kv hkv
      rcases List.mem_cons.mp hkv with rfl | hkv
      · exact reread_ofJson hfloats j
      · exact reread_ofJsonMembers hfloats ms kv hkv

end

/-- A pair whose key no other pair has is in the dictionary. -/
theorem lookup_dictOf {pairs : List (String × PyVal)} {k : String} {v : PyVal}
    (hmem : (k, v) ∈ pairs) (honly : ∀ v', (k, v') ∈ pairs → v' = v) :
    (dictOf pairs).lookup k = some v := by
  induction pairs using List.reverseRecOn with
  | nil => exact absurd hmem List.not_mem_nil
  | append_singleton pairs kv ih =>
      have hset : dictOf (pairs ++ [kv]) = Dict.set kv.1 kv.2 (dictOf pairs) := List.foldl_concat ..
      rw [hset, Dict.lookup_set]
      split_ifs with hk
      · rw [honly kv.2 (by rw [hk]; exact List.mem_append_right _ (List.mem_singleton_self _))]
      · refine ih ?_ fun v' hv' => honly v' (List.mem_append_left _ hv')
        rcases List.mem_append.mp hmem with hmem | hlast
        · exact hmem
        · exact absurd (congrArg Prod.fst (List.mem_singleton.mp hlast)) hk

end reread

/-! ## The reader -/

namespace DLQRecord

/-- The text of a record.
Source: `common/dlq.py` `DLQRecord.to_json` -/
def toJson (codec : JsonCodec) (r : DLQRecord) : String := codec.dumps r.asdict

/-- The fields of the dataclass with their defaults. -/
def dataclassFields : List (String × Option PyVal) :=
  [("original_payload", none),
   ("failure_reason", none),
   ("failure_stage", none),
   ("retry_count", none),
   ("first_failed_at_ms", none),
   ("quarantined_at_ms", none),
   ("event_id", some .none),
   ("source_topic", some .none),
   ("source_partition", some .none),
   ("source_offset", some .none),
   ("replay_count", some (.int 0)),
   ("host", some (.str "")),
   ("dlq_schema_version", some (.int dlqSchemaVersion))]

/-- `DLQRecord.__dataclass_fields__.keys()`. -/
def known : List String := dataclassFields.map Prod.fst

/-- A list of quoted names as the interpreter writes it. -/
def nameList : List String → String
  | [] => ""
  | [a] => "'" ++ a ++ "'"
  | [a, b] => "'" ++ a ++ "' and '" ++ b ++ "'"
  | names => ", ".intercalate (names.dropLast.map fun n => "'" ++ n ++ "'") ++ ", and '" ++
      names.getLastD "" ++ "'"

/-- The fields that have no default and are not among the arguments. -/
def missing (kwargs : Dict) : List String :=
  (dataclassFields.filter fun f => f.2.isNone && (kwargs.lookup f.1).isNone).map Prod.fst

/-- `DLQRecord(**kwargs)` for known names, as the fields of the record. The dataclass does not look
at the values. -/
def make (kwargs : Dict) : Except Exc Dict :=
  match missing kwargs with
  | [] => .ok (dataclassFields.map fun f => (f.1, (kwargs.lookup f.1).getD (f.2.getD .none)))
  | names => .error ⟨"TypeError", "DLQRecord.__init__() missing " ++ toString names.length ++
      " required positional argument" ++ (if names.length = 1 then "" else "s") ++ ": " ++
      nameList names, [.typeError]⟩

/-- The record of a text, as the fields of the record.
Source: `common/dlq.py` `DLQRecord.from_json` -/
def fromJson (codec : JsonCodec) (raw : String) : Except Exc Dict :=
  match codec.loads raw with
  | none => .error ⟨"JSONDecodeError", "Expecting value", [.valueError]⟩
  | some (.dict d) =>
      let d := d.filter fun kv => kv.1 ≠ "dlq_schema_version"
      make (d.filter fun kv => known.contains kv.1)
  | some (.list _) =>
      .error ⟨"TypeError", "pop expected at most 1 argument, got 2", [.typeError]⟩
  | some _ => .error ⟨"AttributeError", "object has no attribute 'pop'", [.attributeError]⟩

/-! ## Reading what was written -/

/-- The fields of the dataclass have distinct names. -/
theorem known_nodup : known.Nodup := by decide

/-- Keeping some of the keys keeps what is found under them. -/
theorem lookup_filter_key (d : Dict) (p : String → Bool) (k : String) :
    (d.filter fun kv => p kv.1).lookup k = if p k then d.lookup k else none := by
  induction d with
  | nil => exact (ite_self _).symm
  | cons kv d ih =>
      obtain ⟨k', v⟩ := kv
      rw [List.filter_cons, Dict.lookup_cons_ite]
      by_cases hk : k = k'
      · subst hk
        rw [if_pos rfl]
        by_cases hp : p k = true
        · rw [if_pos hp, Dict.lookup_cons_ite, if_pos rfl, if_pos hp]
        · rw [if_neg hp, ih, if_neg hp, if_neg hp]
      · rw [if_neg hk, ← ih]
        split_ifs
        · rw [Dict.lookup_cons_ite, if_neg hk]
        · rfl

section roundTrip

variable {floats : Floats} {other : PyVal → String} {r : DLQRecord}

/-- The version is the last of the fields. -/
theorem dataclassFields_eq : dataclassFields =
    dataclassFields.dropLast ++ [("dlq_schema_version", some (.int dlqSchemaVersion))] := rfl

/-- A record has every field. -/
theorem exists_lookup (r : DLQRecord) {f : String × Option PyVal}
    (hf : f ∈ dataclassFields.dropLast) : ∃ v, r.asdict.lookup f.1 = some v := by
  have hall : dataclassFields.dropLast.all (fun f => (r.asdict.lookup f.1).isSome) = true := rfl
  exact Option.isSome_iff_exists.mp (List.all_eq_true.mp hall f hf)

/-- The constructor, given every field of a record but the version. -/
theorem make_of_lookup {kwargs : Dict} (hversion : kwargs.lookup "dlq_schema_version" = none)
    (hfields : ∀ f ∈ dataclassFields.dropLast, kwargs.lookup f.1 = r.asdict.lookup f.1) :
    make kwargs = .ok { r with schemaVersion := dlqSchemaVersion }.asdict := by
  have hmissing : missing kwargs = [] := by
    rw [missing, List.map_eq_nil_iff, List.filter_eq_nil_iff, dataclassFields_eq]
    intro f hf
    rcases List.mem_append.mp hf with hf | hlast
    · obtain ⟨v, hv⟩ := exists_lookup r hf
      rw [hfields f hf, hv, Option.isNone_some, Bool.and_false]
      exact Bool.false_ne_true
    · rw [List.mem_singleton.mp hlast]
      exact Bool.false_ne_true
  have hfront : dataclassFields.dropLast.map
      (fun f => (f.1, (kwargs.lookup f.1).getD (f.2.getD .none))) = r.asdict.dropLast := by
    have hrecord : dataclassFields.dropLast.map
      (fun f => (f.1, (r.asdict.lookup f.1).getD .none)) = r.asdict.dropLast := rfl
    rw [← hrecord]
    refine List.map_congr_left fun f hf => ?_
    obtain ⟨v, hv⟩ := exists_lookup r hf
    rw [hfields f hf, hv]
    rfl
  rw [make, hmissing]
  dsimp only
  rw [dataclassFields_eq, List.map_append, hfront, List.map_singleton, hversion]
  rfl

/-- The members of an object are those of the record and others with other names. -/
structure Extends (floats : Floats) (r : DLQRecord) (ms : List (String × Json)) : Prop where
  has : ∀ kv ∈ r.asdict, kv ∈ ofJsonMembers floats ms
  only : ∀ kv ∈ ofJsonMembers floats ms, kv.1 ∈ known → kv ∈ r.asdict

/-- The reader of a text, given the members it has. -/
theorem fromJson_of_parse {raw : String} {ms : List (String × Json)}
    (hraw : Json.parse raw.toList = some (.object ms)) (hms : Extends floats r ms) :
    fromJson (pyJson floats other) raw =
      .ok { r with schemaVersion := dlqSchemaVersion }.asdict := by
  have hloads : (pyJson floats other).loads raw =
      some (.dict (dictOf (ofJsonMembers floats ms))) := by
    rw [pyJson]
    dsimp only
    rw [hraw]
    rfl
  rw [fromJson, hloads]
  dsimp only
  refine make_of_lookup ?_ ?_
  · rw [lookup_filter_key _ fun k => known.contains k,
      lookup_filter_key _ fun k => decide (k ≠ "dlq_schema_version")]
    rfl
  · intro f hf
    have hname : f.1 ∈ known.dropLast := List.mem_map_of_mem hf
    have hknown : known.contains f.1 = true :=
      List.contains_iff_mem.mpr (List.mem_of_mem_dropLast hname)
    have hversion : f.1 ≠ "dlq_schema_version" := fun h => absurd (h ▸ hname) (by decide)
    obtain ⟨v, hv⟩ := exists_lookup r hf
    have hnodup : (r.asdict.map Prod.fst).Nodup := known_nodup
    have hmem : (f.1, v) ∈ r.asdict := (lookup_eq_some_iff_of_nodup hnodup).mp hv
    rw [lookup_filter_key _ fun k => known.contains k, if_pos hknown,
      lookup_filter_key _ fun k => decide (k ≠ "dlq_schema_version"),
      if_pos (decide_eq_true hversion), hv]
    refine lookup_dictOf (hms.has _ hmem) fun v' hv' => ?_
    have hsame := hms.only _ hv' (List.contains_iff_mem.mp hknown)
    rw [← lookup_eq_some_iff_of_nodup hnodup, hv] at hsame
    exact (Option.some.inj hsame).symm

/-- Reading an object reads its values one by one. -/
theorem ofJsonMembers_eq_map (ms : List (String × Json)) :
    ofJsonMembers floats ms = ms.map fun m => (m.1, ofJson floats m.2) := by
  induction ms with
  | nil => rfl
  | cons m ms ih => rw [ofJsonMembers, ih, List.map_cons]

/-- Every field is read back as it was written, the `event_id` if it is. -/
theorem asdict_reread (hid : reread floats other r.eventId = r.eventId) :
    ofJsonMembers floats (toJsonMembers floats other r.asdict) = r.asdict := by
  have htext : ∀ o : Option String, reread floats other (.ofOption .str o) = .ofOption .str o :=
    reread_ofOption reread_str
  have hint : ∀ o : Option ℤ, reread floats other (.ofOption .int o) = .ofOption .int o :=
    reread_ofOption reread_int
  rw [ofJsonMembers_toJsonMembers]
  simp only [asdict, List.map_cons, List.map_nil, reread_str, reread_int, hid, htext, hint]

/-- The members of a record that is read back as it is, and others among them. -/
theorem extends_of_perm {extra ms : List (String × Json)}
    (hid : reread floats other r.eventId = r.eventId) (hextra : ∀ m ∈ extra, m.1 ∉ known)
    (hms : ms.Perm (toJsonMembers floats other r.asdict ++ extra)) : Extends floats r ms := by
  have hperm : (ofJsonMembers floats ms).Perm (r.asdict ++ ofJsonMembers floats extra) := by
    rw [← asdict_reread hid, ofJsonMembers_eq_map, ofJsonMembers_eq_map,
      ofJsonMembers_eq_map, ← List.map_append]
    exact hms.map _
  refine ⟨fun kv hkv => hperm.mem_iff.mpr (List.mem_append_left _ hkv), fun kv hkv hknown => ?_⟩
  rcases List.mem_append.mp (hperm.mem_iff.mp hkv) with hrecord | hother
  · exact hrecord
  · rw [ofJsonMembers_eq_map] at hother
    obtain ⟨m, hm, rfl⟩ := List.mem_map.mp hother
    exact absurd hknown (hextra m hm)

/-- **Members with other names leave every field as it was but the version**, which is that of the
code. An `event_id` is a text or `None`, or what `build` has read in the payload. -/
theorem fromJson_extended {extra ms : List (String × Json)} (hfloats : floats.Exact)
    (hid : ∃ j, r.eventId = ofJson floats j) (hextra : ∀ m ∈ extra, m.1 ∉ known)
    (hms : ms.Perm (toJsonMembers floats other r.asdict ++ extra)) :
    fromJson (pyJson floats other) (String.ofList (Json.object ms).print) =
      .ok { r with schemaVersion := dlqSchemaVersion }.asdict := by
  obtain ⟨j, hj⟩ := hid
  have hreread : reread floats other r.eventId = r.eventId := by
    rw [hj]
    exact reread_ofJson hfloats j
  refine fromJson_of_parse ?_ (extends_of_perm hreread hextra hms)
  rw [String.toList_ofList, parse_print]

end roundTrip

/-- Every number of this codec with a fraction is a half. -/
def halfFloats : Floats := ⟨fun _ => ⟨"0.5".toList, by decide⟩, fun _ => .float (1 / 2)⟩

/-- The sample codec writes every float it reads so that it can be read again. -/
theorem halfFloats_exact : halfFloats.Exact where
  read _ := Or.inl ⟨1 / 2, rfl⟩
  repr _ x h := by
    obtain rfl := PyVal.float.inj h
    rfl

/-- A late event of the stream, quarantined by a later version of the code. -/
def nextRecord : DLQRecord where
  originalPayload := "\x7b\"city_id\": \"日本\"\x7d\n"
  failureReason := "late"
  failureStage := stageLate
  retryCount := 0
  firstFailedAtMs := 1700000000000
  quarantinedAtMs := 1700000001000
  eventId := .none
  sourceTopic := some "trips.raw"
  sourcePartition := some 3
  sourceOffset := none
  replayCount := 2
  host := "stream"
  schemaVersion := 2

/-- The general result at an object with one unknown member in front. -/
theorem fromJson_extended_next :
    fromJson (pyJson halfFloats fun _ => "") (String.ofList (Json.object
      (("trace", .null) :: toJsonMembers halfFloats (fun _ => "") nextRecord.asdict)).print) =
      .ok { nextRecord with schemaVersion := 1 }.asdict :=
  have hextra : ∀ m ∈ [("trace", Json.null)], m.1 ∉ known := by decide
  fromJson_extended halfFloats_exact ⟨.null, rfl⟩ hextra (List.perm_append_singleton _ _).symm

/-- The text of version 2 is read as a record of version 1. -/
theorem version_lost :
    fromJson (pyJson halfFloats fun _ => "") (nextRecord.toJson (pyJson halfFloats fun _ => "")) ≠
      .ok nextRecord.asdict := by
  have hparse : Json.parse (nextRecord.toJson (pyJson halfFloats fun _ => "")).toList =
      some (.object (toJsonMembers halfFloats (fun _ => "") nextRecord.asdict)) := by
    rw [toJson, pyJson]
    dsimp only
    rw [String.toList_ofList, parse_print]
    rfl
  have hperm := List.Perm.of_eq (List.append_nil
    (toJsonMembers halfFloats (fun _ => "") nextRecord.asdict)).symm
  rw [fromJson_of_parse hparse (extends_of_perm rfl (fun m hm => absurd hm List.not_mem_nil) hperm)]
  intro h
  have hversion := congrArg (fun d : Dict => d.lookup "dlq_schema_version") (Except.ok.inj h)
  exact absurd (PyVal.int.inj (Option.some.inj hversion)) (by decide)

end DLQRecord

end TripPipeline.Common
