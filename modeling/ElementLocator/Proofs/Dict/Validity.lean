import Mathlib.Data.List.Forall2
import ElementLocator.Dict.Check
import ElementLocator.Proofs.Dict.OfJson
/-! The check of a dictionary against the reader. Both go through the fields of an object one by one
and agree on each; the check also compares the keys of a level with each other. -/
namespace ElementLocator.Dict
open ElementLocator.Json (objects)

def OneOfFamily (es : List (Attribute × Value)) : Prop :=
  ∀ family, (es.filter fun e => e.1.family = some family).length ≤ 1

structure FieldRead (settings : Settings) (depth : Nat) (field : String × Json.Value)
    (e : Attribute × Value) : Prop where
  found : Attribute.ofKey? field.1 = some e.1
  value : fieldValue settings depth e.1 field.2 = .ok e.2

def Legible (settings : Settings) (depth : Nat) (raw : Json.Value) : Prop :=
  ∃ d, ofJsonAt settings depth raw = .ok d ∧ d.Everywhere OneOfFamily

def FieldLegible (settings : Settings) (depth : Nat) (field : String × Json.Value) : Prop :=
  ∃ e, FieldRead settings depth field e ∧ ∀ d, e.2 = .nested d → d.Everywhere OneOfFamily

def FieldFine (path : String) (depth : Nat) (field : String × Json.Value) : Prop :=
  ∃ a, Attribute.ofKey? field.1 = some a ∧ fits a.kind field.2 = true ∧
    problemsAt (path ++ field.1 ++ ".") (depth + 1) field.2 = []

variable {settings : Settings} {depth : Nat} {es : List (Attribute × Value)} {a : Attribute}
  {d : Dict} {key path : String} {raw v : Json.Value} {keys : List String}
  {fields : List (String × Json.Value)}

theorem fieldsRead (distinct : (es.map (·.1.key) ++ fields.map Prod.fst).Nodup) :
    ofFields settings depth (.mk es) fields = .ok d ↔
      ∃ more, d = .mk (es ++ more) ∧ List.Forall₂ (FieldRead settings depth) fields more := by
  induction fields generalizing es with
  | nil => simp [ofFields, eq_comm]
  | cons field rest ih =>
    obtain ⟨key, raw⟩ := field
    cases found : Attribute.ofKey? key with
    | none =>
      rw [ofFields, found]
      constructor
      · intro read
        cases read
      · rintro ⟨_, _, _ | ⟨⟨known, _⟩, _⟩⟩
        rw [found] at known
        cases known
    | some a =>
      have keys : es.map (·.1.key) = (es.map Prod.fst).map Attribute.key := by
        rw [List.map_map]
        rfl
      have fresh : a ∉ es.map Prod.fst := by
        rw [keys] at distinct
        exact freshByKey found distinct
      have further (v : Value) : ((es ++ [(a, v)]).map (·.1.key) ++ rest.map Prod.fst).Nodup := by
        simpa [keyFound found] using distinct
      rw [ofField found, bindOk]
      constructor
      · rintro ⟨v, value, read⟩
        rw [insertFresh fresh] at read
        obtain ⟨more, rfl, all⟩ := (ih (further v)).mp read
        exact ⟨(a, v) :: more, by simp, .cons ⟨found, value⟩ all⟩
      · rintro ⟨_, rfl, _ | @⟨_, ⟨b, v⟩, _, more, ⟨known, value⟩, all⟩⟩
        rw [found] at known
        cases known
        refine ⟨v, value, ?_⟩
        rw [insertFresh fresh]
        exact (ih (further v)).mpr ⟨more, by simp, all⟩

theorem keysRead (read : List.Forall₂ (FieldRead settings depth) fields es) :
    es.map (·.1.key) = fields.map Prod.fst := by
  induction read with
  | nil => rfl
  | cons first _ ih => rw [List.map_cons, List.map_cons, keyFound first.found, ih]

theorem familyOfKeys (family : Family) (es : List (Attribute × Value)) :
    (es.filter fun e => e.1.family = some family).length =
      (familyKeys family (es.map (·.1.key))).length := by
  rw [familyKeys, List.filter_map, List.length_map]
  simp [Function.comp_def, Attribute.ofKeyOfKey]

theorem everyFieldRead : (∀ field ∈ fields, FieldLegible settings depth field) ↔
    ∃ es, List.Forall₂ (FieldRead settings depth) fields es ∧ EverywhereIn OneOfFamily es := by
  simp only [everywhereIn]
  induction fields with
  | nil => simp
  | cons field rest ih =>
    rw [List.forall_mem_cons, ih]
    constructor
    · rintro ⟨⟨e, read, here⟩, es, all, later⟩
      refine ⟨e :: es, .cons read all, ?_⟩
      intro a d member
      rcases List.mem_cons.mp member with rfl | member
      · exact here d rfl
      · exact later a d member
    · rintro ⟨_, _ | @⟨_, ⟨a, v⟩, _, es, read, all⟩, holds⟩
      refine ⟨⟨(a, v), read, ?_⟩, es, all, fun b d member => holds b d (by simp [member])⟩
      rintro d rfl
      exact holds a d (by simp)

theorem objectLegible (distinct : (fields.map Prod.fst).Nodup) :
    Legible settings depth (.obj fields) ↔ depth ≤ settings.maxDepth ∧
      (∀ field ∈ fields, FieldLegible settings depth field) ∧
        ∀ family, (familyKeys family (fields.map Prod.fst)).length ≤ 1 := by
  have fieldwise (d : Dict) : ofFields settings depth (.mk []) fields = .ok d ↔
      ∃ more, d = .mk ([] ++ more) ∧ List.Forall₂ (FieldRead settings depth) fields more :=
    fieldsRead (by simpa using distinct)
  rw [everyFieldRead, Legible]
  simp only [ofJsonAt, bindOk]
  constructor
  · rintro ⟨d, ⟨u, checked, read⟩, holds⟩
    obtain ⟨es, rfl, all⟩ := (fieldwise d).mp read
    rw [List.nil_append, Everywhere] at holds
    obtain ⟨level, inner⟩ := holds
    refine ⟨checkDepthOk.mp ⟨u, checked⟩, ⟨es, all, inner⟩, ?_⟩
    intro family
    rw [← keysRead all, ← familyOfKeys]
    exact level family
  · rintro ⟨room, ⟨es, all, inner⟩, one⟩
    have level : OneOfFamily es := by
      intro family
      rw [familyOfKeys, keysRead all]
      exact one family
    exact ⟨.mk es, ⟨(), checkDepthRoom room, (fieldwise (.mk es)).mpr ⟨es, rfl, all⟩⟩, level, inner⟩

theorem scalarFits (plain : a.isHierarchical = false) :
    fits a.kind raw = true ↔ ∃ v, scalarOfJson a raw = .ok v := by
  unfold scalarOfJson
  cases kind : a.kind with
  | string => cases found : raw.str? <;> simp [fits, found]
  | boolean => cases found : raw.bool? <;> simp [fits, found]
  | numeric => cases found : raw.count? <;> simp [fits, found]
  | hierarchical => simp [Attribute.isHierarchical, kind] at plain

theorem legibleFits (legible : Legible settings depth raw) : fits .hierarchical raw = true := by
  obtain ⟨d, read, _⟩ := legible
  cases raw with
  | obj fields => rfl
  | _ =>
    simp only [ofJsonAt, bindOk] at read
    obtain ⟨_, _, refused⟩ := read
    cases refused

theorem fieldLegibleIff (found : Attribute.ofKey? key = some a) :
    FieldLegible settings depth (key, raw) ↔
      if a.isHierarchical then Legible settings (depth + 1) raw else fits a.kind raw = true := by
  have here (e : Attribute × Value) : FieldRead settings depth (key, raw) e ↔
      e.1 = a ∧ fieldValue settings depth a raw = .ok e.2 := by
    constructor
    · rintro ⟨known, value⟩
      rw [found] at known
      cases known
      exact ⟨rfl, value⟩
    · rintro ⟨rfl, value⟩
      exact ⟨found, value⟩
  simp only [FieldLegible, here, fieldValue]
  split
  · constructor
    · rintro ⟨⟨_, v⟩, ⟨_, value⟩, inner⟩
      obtain ⟨d, read, rfl⟩ := mapOk.mp value
      exact ⟨d, read, inner d rfl⟩
    · rintro ⟨d, read, one⟩
      refine ⟨(a, .nested d), ⟨rfl, mapOk.mpr ⟨d, read, rfl⟩⟩, ?_⟩
      rintro _ ⟨⟩
      exact one
  · rename_i plain
    rw [scalarFits (by simpa using plain)]
    constructor
    · rintro ⟨e, ⟨_, value⟩, _⟩
      exact ⟨e.2, value⟩
    · rintro ⟨v, value⟩
      refine ⟨(a, v), ⟨rfl, value⟩, ?_⟩
      rintro d rfl
      exact absurd (scalarRead value).1 plainNested

theorem problemsOfScalar (plain : a.isHierarchical = false) (fit : fits a.kind raw = true)
    (path : String) (depth : Nat) : problemsAt path depth raw = [] := by
  obtain ⟨v, value⟩ := (scalarFits plain).mp fit
  obtain ⟨plain, rfl⟩ := scalarRead value
  cases v with
  | nested d => exact absurd plain plainNested
  | _ =>
    rw [Value.json, problemsAt]
    intro fields same
    cases same

theorem problemsOfFieldsEmpty : problemsOfFields path depth fields = [] ↔
    ∀ field ∈ fields, FieldFine path depth field := by
  induction fields with
  | nil => simp [problemsOfFields]
  | cons field rest ih =>
    obtain ⟨key, raw⟩ := field
    rw [problemsOfFields, List.append_eq_nil_iff, List.forall_mem_cons, ih]
    refine and_congr_left fun _ => ?_
    cases found : Attribute.ofKey? key with
    | none => simp [FieldFine, found]
    | some a => cases fit : fits a.kind raw <;> simp [FieldFine, found, fit]

theorem conflictsEmpty :
    conflicts path keys = [] ↔ ∀ family, (familyKeys family keys).length ≤ 1 := by
  have single (family : Family) :
      conflict family path keys = [] ↔ (familyKeys family keys).length ≤ 1 := by
    simp [conflict]
  rw [conflicts, List.append_eq_nil_iff, single, single]
  constructor
  · rintro ⟨text, description⟩ (_ | _)
    · exact text
    · exact description
  · exact fun one => ⟨one .text, one .description⟩

theorem objectChecked : problemsAt path depth (.obj fields) = [] ↔ depth ≤ maxNesting ∧
    (∀ field ∈ fields, FieldFine path depth field) ∧
      ∀ family, (familyKeys family (fields.map Prod.fst)).length ≤ 1 := by
  rw [problemsAt]
  split
  · simp
    omega
  · rename_i room
    rw [List.append_eq_nil_iff, problemsOfFieldsEmpty, conflictsEmpty]
    simp [Nat.le_of_not_lt room]

def Agrees (settings : Settings) (raw : Json.Value) : Prop :=
  ∀ path depth,
    fits .hierarchical raw = true ∧ problemsAt path depth raw = [] ↔ Legible settings depth raw

theorem fieldAgrees (inner : Agrees settings raw) (path key : String) (depth : Nat) :
    FieldFine path depth (key, raw) ↔ FieldLegible settings depth (key, raw) := by
  cases found : Attribute.ofKey? key with
  | none =>
    constructor
    · rintro ⟨a, known, _⟩
      rw [found] at known
      cases known
    · rintro ⟨e, ⟨known, _⟩, _⟩
      rw [found] at known
      cases known
  | some a =>
    have fine : FieldFine path depth (key, raw) ↔ fits a.kind raw = true ∧
        problemsAt (path ++ key ++ ".") (depth + 1) raw = [] := by
      simp [FieldFine, found]
    rw [fine, fieldLegibleIff found]
    split
    · rename_i hierarchical
      rw [of_decide_eq_true hierarchical]
      exact inner _ _
    · rename_i plain
      exact and_iff_left_of_imp fun fit => problemsOfScalar (by simpa using plain) fit _ _

theorem levelsAgree (limit : settings.maxDepth = maxNesting) (v : Json.Keyed) :
    Agrees settings v.val := by
  refine (objects (P := fun raw => raw.KeysDistinct → Agrees settings raw)
    (Q := fun fields => Json.Value.KeysDistinctIn fields → ∀ path depth,
      (∀ field ∈ fields, FieldFine path depth field) ↔
        ∀ field ∈ fields, FieldLegible settings depth field) ?object ?other ?nil ?field).1 v.val
    v.property
  case object =>
    intro fields ih distinct path depth
    rw [Json.Value.KeysDistinct] at distinct
    rw [objectLegible distinct.1, objectChecked, ih distinct.2 path depth, limit]
    exact and_iff_right rfl
  case other =>
    intro raw other _ path depth
    have unfit : fits .hierarchical raw ≠ true := by
      cases raw with
      | obj fields => exact absurd rfl (other fields)
      | _ => simp [fits]
    exact ⟨fun fine => absurd fine.1 unfit, fun legible => absurd (legibleFits legible) unfit⟩
  case nil =>
    intro _ path depth
    simp
  case field =>
    intro key raw rest inner ih distinct path depth
    rw [Json.Value.KeysDistinctIn] at distinct
    rw [List.forall_mem_cons, List.forall_mem_cons, ih distinct.2,
      fieldAgrees (inner distinct.1)]

theorem problemsOfNonempty (nonempty : v ≠ .obj []) :
    problems v = [] ↔ fits .hierarchical v = true ∧ problemsAt "" 1 v = [] := by
  cases v with
  | obj fields =>
    cases fields with
    | nil => exact absurd rfl nonempty
    | cons field rest => simp [problems, fits]
  | _ => simp [problems, fits]

theorem jsonEmpty : d.json = .obj [] ↔ d.isEmpty = true := by
  obtain ⟨es⟩ := d
  cases es with
  | nil => simp [json, jsonFields, isEmpty, entries]
  | cons e rest =>
    obtain ⟨a, v⟩ := e
    simp [json, jsonFieldsCons, isEmpty, entries]

theorem problemsOfSound (d : Having Sound maxNesting) :
    problems d.dict.json = [] ↔ d.dict.isEmpty = false ∧ d.dict.Everywhere OneOfFamily := by
  let deepest : Settings := { Settings.standard with maxDepth := maxNesting }
  have limit : deepest.maxDepth = maxNesting := rfl
  let sound : Having Sound deepest.maxDepth := d
  have read : ofJson deepest d.dict.json = .ok d.dict := jsonReadBack sound
  have legible : Legible deepest 1 d.dict.json ↔ d.dict.Everywhere OneOfFamily := by
    constructor
    · rintro ⟨other, same, single⟩
      rw [← Except.ok.inj (same.symm.trans read)]
      exact single
    · exact fun single => ⟨d.dict, read, single⟩
  cases empty : d.dict.isEmpty with
  | true =>
    rw [jsonEmpty.mpr empty, problems]
    simp
  | false =>
    have nonempty : d.dict.json ≠ .obj [] := fun same => by simp [jsonEmpty.mp same] at empty
    have agrees : Agrees deepest d.dict.json := levelsAgree limit d.distinct.json
    rw [problemsOfNonempty nonempty, agrees "" 1, legible]
    exact (and_iff_right rfl).symm

/-- The check finds no problem exactly in an object that is not empty, that can be read, and that
gives no two attributes of one family at any level. -/
theorem checkedIffRead (limit : settings.maxDepth = maxNesting) (distinct : v.KeysDistinct) :
    problems v = [] ↔
      v ≠ .obj [] ∧ ∃ d, ofJson settings v = .ok d ∧ d.Everywhere OneOfFamily := by
  by_cases empty : v = .obj []
  · subst empty
    simp [problems]
  · rw [problemsOfNonempty empty, levelsAgree limit ⟨v, distinct⟩ "" 1]
    exact (and_iff_right empty).symm

theorem nestedConflictRefused :
    let settings : Settings := { Settings.standard with maxDepth := maxNesting }
    let fine : Json.Value := .obj [
      ("text", .str "A"),
      ("childSelector", .obj [("textContains", .str "B"), ("index", .int 2)])]
    let conflicting : Json.Value := .obj [
      ("childSelector", .obj [("textContains", .str "B"), ("textMatches", .str "C")])]
    problems fine = [] ∧
      (∃ d, ofJson settings conflicting = .ok d) ∧ problems conflicting ≠ [] := by
  intro settings fine conflicting
  have read : ofJson settings conflicting = .ok (.mk [
      (.childSelector, .nested (.mk [(.textContains, .str "B"), (.textMatches, .str "C")]))]) := by
    rfl
  have limit : settings.maxDepth = maxNesting := rfl
  refine ⟨(checkedIffRead limit ?_).mpr ⟨by simp [fine], .mk [
    (.text, .str "A"),
    (.childSelector, .nested (.mk [(.textContains, .str "B"), (.index, .int 2)]))], by rfl, ?_⟩,
    ⟨_, read⟩, ?_⟩
  · simp [fine, Json.Value.KeysDistinct, Json.Value.KeysDistinctIn]
  · refine ⟨?_, ⟨?_, trivial⟩, trivial⟩ <;> intro family <;> cases family <;> decide
  · rw [ne_eq, checkedIffRead limit
      (by simp [conflicting, Json.Value.KeysDistinct, Json.Value.KeysDistinctIn])]
    rintro ⟨_, d, same, holds⟩
    rw [read] at same
    cases same
    simp only [Everywhere, EverywhereIn] at holds
    obtain ⟨_, ⟨inner, _⟩, _⟩ := holds
    exact absurd (inner .text) (by decide)

end ElementLocator.Dict
