import ElementLocator.Proofs.Dict.Building
import ElementLocator.Proofs.Dict.Json
/-! Dictionaries that are read from JSON: they are sound and within the greatest depth, and they are
written as they were read if no object gives a key twice. -/
namespace ElementLocator.Json

mutual
def Value.KeysDistinct : Value → Prop
  | .obj fields => (fields.map Prod.fst).Nodup ∧ Value.KeysDistinctIn fields
  | _ => True

def Value.KeysDistinctIn : List (String × Value) → Prop
  | [] => True
  | (_, v) :: rest => v.KeysDistinct ∧ Value.KeysDistinctIn rest
end

abbrev Keyed := { v : Value // v.KeysDistinct }

theorem objects {P : Value → Prop} {Q : List (String × Value) → Prop}
    (object : ∀ fields, Q fields → P (.obj fields))
    (other : ∀ v, (∀ fields, v ≠ .obj fields) → P v) (nil : Q [])
    (field : ∀ key v rest, P v → Q rest → Q ((key, v) :: rest)) :
    (∀ v, P v) ∧ ∀ fields, Q fields := ⟨onValue, onFields⟩
where
  onValue : ∀ v, P v
    | .obj fields => object fields (onFields fields)
    | .null => other .null nofun
    | .bool b => other (.bool b) nofun
    | .int n => other (.int n) nofun
    | .float x => other (.float x) nofun
    | .str s => other (.str s) nofun
    | .arr items => other (.arr items) nofun
  onFields : ∀ fields, Q fields
    | [] => nil
    | (key, v) :: rest => field key v rest (onValue v) (onFields rest)

end ElementLocator.Json

namespace ElementLocator.Dict
open ElementLocator.Json (objects)

variable {settings : Settings} {depth : Nat} {es : List (Attribute × Value)} {a : Attribute}
  {v : Value} {d : Dict} {key : String} {raw : Json.Value} {rest : List (String × Json.Value)}

theorem keyFound (h : Attribute.ofKey? key = some a) : a.key = key := by
  have := List.find?_some h
  simpa using this

theorem strIs {s : String} (h : raw.str? = some s) : raw = .str s := by
  cases raw with
  | str t =>
    cases h
    rfl
  | _ => cases h

theorem boolIs {b : Bool} (h : raw.bool? = some b) : raw = .bool b := by
  cases raw with
  | bool t =>
    cases h
    rfl
  | _ => cases h

theorem countIs {n : UInt32} (h : raw.count? = some n) : raw = .int n.toNat := by
  cases raw with
  | int m =>
    simp only [Json.Value.count?] at h
    split at h
    · rename_i range
      cases h
      have small : m.toNat < UInt32.size := by omega
      rw [UInt32.toNat_ofNat_of_lt' small, Int.toNat_of_nonneg range.1]
    · cases h
  | _ => cases h

theorem scalarRead (h : scalarOfJson a raw = .ok v) : Plain (a, v) ∧ v.json = raw := by
  unfold scalarOfJson at h
  cases kind : a.kind with
  | string =>
    cases found : raw.str? with
    | none => simp [kind, found] at h
    | some s =>
      have same : Value.str s = v := by simpa [kind, found] using h
      subst same
      exact ⟨plainStr.mpr kind, (strIs found).symm⟩
  | boolean =>
    cases found : raw.bool? with
    | none => simp [kind, found] at h
    | some b =>
      have same : Value.bool b = v := by simpa [kind, found] using h
      subst same
      exact ⟨plainBool.mpr kind, (boolIs found).symm⟩
  | numeric =>
    cases found : raw.count? with
    | none => simp [kind, found] at h
    | some n =>
      have same : Value.int n = v := by simpa [kind, found] using h
      subst same
      exact ⟨plainInt.mpr kind, (countIs found).symm⟩
  | hierarchical => simp [kind] at h

theorem jsonFieldsMap (es : List (Attribute × Value)) :
    jsonFields es = es.map fun e => (e.1.key, e.2.json) := by
  induction es with
  | nil => rw [jsonFields, List.map_nil]
  | cons e rest ih =>
    obtain ⟨a, v⟩ := e
    rw [jsonFieldsCons, ih, List.map_cons]

theorem jsonKeys (es : List (Attribute × Value)) :
    (jsonFields es).map Prod.fst = (es.map Prod.fst).map Attribute.key := by
  rw [jsonFieldsMap, List.map_map, List.map_map]
  rfl

theorem freshByKey {keys : List String} (found : Attribute.ofKey? key = some a)
    (distinct : ((es.map Prod.fst).map Attribute.key ++ key :: keys).Nodup) :
    a ∉ es.map Prod.fst := by
  intro member
  have twice : key ∈ (es.map Prod.fst).map Attribute.key := by
    rw [← keyFound found]
    exact List.mem_map_of_mem member
  exact (List.nodup_append.mp distinct).2.2 key twice key (by simp) rfl

def fieldValue (settings : Settings) (depth : Nat) (a : Attribute) (raw : Json.Value) :
    Except Fault Value :=
  if a.isHierarchical then (ofJsonAt settings (depth + 1) raw).map .nested else scalarOfJson a raw

theorem ofField (found : Attribute.ofKey? key = some a) :
    ofFields settings depth d ((key, raw) :: rest) = (do
      let v ← fieldValue settings depth a raw
      ofFields settings depth (d.insert a v) rest) := by
  rw [ofFields, found, fieldValue]
  simp only
  split <;> rfl

def ReadFrom (settings : Settings) (raw : Json.Value) : Prop :=
  ∀ depth d, ofJsonAt settings depth raw = .ok d →
    (d.Everywhere Sound ∧ depth + d.depth ≤ settings.maxDepth + 1) ∧
      (raw.KeysDistinct → d.json = raw)

theorem fieldAdmitted (inner : ReadFrom settings raw)
    (h : fieldValue settings depth a raw = .ok v) :
    Admitted settings depth a v ∧ (raw.KeysDistinct → v.json = raw) := by
  unfold fieldValue at h
  split at h
  · rename_i hierarchical
    obtain ⟨d, read, rfl⟩ := mapOk.mp h
    obtain ⟨⟨sound, room⟩, same⟩ := inner (depth + 1) d read
    exact ⟨admittedNested hierarchical sound (by omega), same⟩
  · obtain ⟨plain, same⟩ := scalarRead h
    exact ⟨admittedPlain plain, fun _ => same⟩

theorem readBuilt : (∀ raw : Json.Value, ReadFrom settings raw) ∧
    ∀ (fields : List (String × Json.Value)) (depth : Nat) (es : List (Attribute × Value))
      (d : Dict), Built settings depth es → ofFields settings depth (.mk es) fields = .ok d →
      Built settings depth d.entries ∧
        (((jsonFields es ++ fields).map Prod.fst).Nodup → Json.Value.KeysDistinctIn fields →
          jsonFields d.entries = jsonFields es ++ fields) := by
  refine objects ?object ?other ?nil ?field
  case object =>
    intro fields ih depth d h
    rw [ofJsonAt] at h
    obtain ⟨u, checked, h⟩ := bindOk.mp h
    have room : depth ≤ settings.maxDepth := checkDepthOk.mp ⟨u, checked⟩
    obtain ⟨built, same⟩ := ih depth [] d builtEmpty h
    refine ⟨builtLevel built room, ?_⟩
    intro distinct
    rw [Json.Value.KeysDistinct] at distinct
    have fields := same (by simpa [jsonFields] using distinct.1) distinct.2
    obtain ⟨es⟩ := d
    rw [json]
    exact congrArg Json.Value.obj (by simpa [jsonFields, Dict.entries] using fields)
  case other =>
    intro raw other depth d h
    rw [ofJsonAt] at h
    · obtain ⟨u, _, h⟩ := bindOk.mp h
      cases h
    · exact other
  case nil =>
    intro depth es d built h
    rw [ofFields] at h
    cases h
    exact ⟨built, fun _ _ => (List.append_nil _).symm⟩
  case field =>
    intro key raw rest inner ih depth es d built h
    cases found : Attribute.ofKey? key with
    | none =>
      rw [ofFields, found] at h
      cases h
    | some a =>
      rw [ofField found] at h
      obtain ⟨v, value, h⟩ := bindOk.mp h
      obtain ⟨admitted, written⟩ := fieldAdmitted inner value
      obtain ⟨level, same⟩ := ih depth (placed a v es) d (builtPlaced built admitted) h
      refine ⟨level, ?_⟩
      intro distinct further
      have fresh : a ∉ es.map Prod.fst := by
        rw [List.map_append, jsonKeys] at distinct
        exact freshByKey found distinct
      have entry : jsonFields (placed a v es) = jsonFields es ++ [(key, raw)] := by
        rw [placedFresh fresh, jsonFieldsMap, jsonFieldsMap, List.map_append, List.map_singleton,
          keyFound found, written further.1]
      rw [entry, ← List.append_cons] at same
      exact same distinct further.2

def soundRead (read : ofJson settings raw = .ok d) : Having Sound settings.maxDepth :=
  .ofFirstLevel (readBuilt.1 raw 1 d read).1.1 (readBuilt.1 raw 1 d read).1.2

theorem jsonWritten (v : Json.Keyed) (read : ofJson settings v.val = .ok d) : d.json = v.val :=
  (readBuilt.1 v.val 1 d read).2 v.property

theorem keyInjective {a b : Attribute} (same : a.key = b.key) : a = b := by
  have found := Attribute.ofKeyOfKey a
  rw [same, Attribute.ofKeyOfKey] at found
  exact (Option.some.inj found).symm

theorem distinctJson :
    (∀ d : Dict, d.Everywhere Distinct → d.json.KeysDistinct) ∧
    ∀ es : List (Attribute × Value), EverywhereIn Distinct es →
      Json.Value.KeysDistinctIn (jsonFields es) := by
  refine levels ?level ?nil ?plain ?nested
  case level =>
    intro es ih distinct
    rw [Everywhere] at distinct
    rw [json, Json.Value.KeysDistinct, jsonKeys]
    refine ⟨?_, ih distinct.2⟩
    rw [Distinct, List.Nodup] at distinct
    rw [List.Nodup, List.pairwise_map]
    exact distinct.1.imp fun other same => other (keyInjective same)
  case nil =>
    intro _
    rw [jsonFields]
    trivial
  case plain =>
    intro a v rest flat ih distinct
    rw [jsonFieldsCons]
    refine ⟨?_, ih ((everywherePlain flat).mp distinct)⟩
    cases v with
    | nested d => cases flat
    | _ => trivial
  case nested =>
    intro a d rest inDict ih distinct
    rw [EverywhereIn] at distinct
    rw [jsonFieldsCons]
    exact ⟨inDict distinct.1, ih distinct.2⟩

def Having.json {most : Nat} (d : Having Distinct most) : Json.Keyed :=
  ⟨d.dict.json, distinctJson.1 d.dict d.levels⟩

theorem soundOf (typed : d.Everywhere Typed) (distinct : d.Everywhere Distinct) :
    d.Everywhere Sound := by
  revert typed distinct
  refine within (P := fun d => d.Everywhere Typed → d.Everywhere Distinct → d.Everywhere Sound)
    ?_ d
  intro es ih typed distinct
  rw [Everywhere, everywhereIn] at typed distinct ⊢
  exact ⟨⟨typed.1, distinct.1⟩,
    fun a inner member => ih a inner member (typed.2 a inner member) (distinct.2 a inner member)⟩

/-- Writing and reading undo each other. What was read is written as it was, and of the dictionaries
that have no attribute twice exactly those are read back whose values fit their attributes and
that are not too deep. -/
theorem jsonInverse (settings : Settings) :
    (∀ (v : Json.Value) (d : Dict), v.KeysDistinct → ofJson settings v = .ok d → d.json = v) ∧
    ∀ d : Dict, d.Everywhere Distinct →
      (ofJson settings d.json = .ok d ↔ d.Everywhere Typed ∧ d.depth ≤ settings.maxDepth) := by
  constructor
  · intro v d distinct read
    exact jsonWritten ⟨v, distinct⟩ read
  · intro d distinct
    constructor
    · intro read
      exact ⟨(soundRead read).typed.levels, (soundRead read).room⟩
    · rintro ⟨typed, room⟩
      exact jsonReadBack ⟨d, soundOf typed distinct, room⟩

theorem greatestNumberInverse :
    let v : Json.Value := .obj [
      ("checked", .bool true),
      ("childSelector", .obj [("instance", .int 4294967295), ("text", .str "a")])]
    let d : Dict := .mk [
      (.checked, .bool true),
      (.childSelector, .nested (.mk [(.occurrence, .int 4294967295), (.text, .str "a")]))]
    let mistyped : Dict := .mk [(.fromParent, .nested (.mk [(.index, .str "1")]))]
    v.KeysDistinct ∧ ofJson .standard v = .ok d ∧ d.json = v ∧
      d.Everywhere Distinct ∧ ofJson .standard d.json = .ok d ∧
      mistyped.Everywhere Distinct ∧ ofJson .standard mistyped.json ≠ .ok mistyped := by
  intro v d mistyped
  have distinctKeys : v.KeysDistinct := ⟨by decide, trivial, ⟨by decide, trivial, trivial, trivial⟩,
    trivial⟩
  have read : ofJson .standard v = .ok d := by rfl
  have distinct : d.Everywhere Distinct := ⟨by decide, ⟨by decide, trivial⟩, trivial⟩
  have typed : d.Everywhere Typed := ⟨by decide, ⟨by decide, trivial⟩, trivial⟩
  have once : mistyped.Everywhere Distinct := ⟨by decide, ⟨by decide, trivial⟩, trivial⟩
  obtain ⟨writes, reads⟩ := jsonInverse .standard
  refine ⟨distinctKeys, read, writes v d distinctKeys read, distinct,
    (reads d distinct).mpr ⟨typed, by decide⟩, once, ?_⟩
  rw [ne_eq, reads mistyped once]
  rintro ⟨⟨_, ⟨level, _⟩, _⟩, _⟩
  exact absurd (level (.index, .str "1") (by simp)) (by decide)

end ElementLocator.Dict
