import ElementLocator.Dict.Json
import ElementLocator.Proofs.Dict.Collecting
/-! Dictionaries are read back from the JSON objects that they are written as. -/
namespace ElementLocator.Dict

variable {settings : Settings} {depth : Nat} {es : List (Attribute × Value)} {a : Attribute}
  {v : Value} {d : Dict}

theorem jsonFieldsCons (a : Attribute) (v : Value) (es : List (Attribute × Value)) :
    jsonFields ((a, v) :: es) = (a.key, v.json) :: jsonFields es := by
  cases v <;> simp only [jsonFields, Value.json]

theorem scalarReadBack (plain : Plain (a, v)) : scalarOfJson a v.json = .ok v := by
  cases v with
  | str s => simp [scalarOfJson, plainStr.mp plain, Value.json, Json.Value.str?]
  | bool b => simp [scalarOfJson, plainBool.mp plain, Value.json, Json.Value.bool?]
  | int n =>
    have inRange : (n.toNat : Int) < 4294967296 := by
      have := n.toNat_lt
      omega
    simp [scalarOfJson, plainInt.mp plain, Value.json, Json.Value.count?, inRange]
  | nested d => exact absurd plain plainNested

theorem jsonCollects : Collects settings (fun depth d => ofJsonAt settings depth d.json)
    fun depth d es => ofFields settings depth d (jsonFields es) where
  enter depth es := by
    rw [json, ofJsonAt]
    rfl
  stop depth d := by rw [jsonFields, ofFields]
  plain depth d a v es plain := by
    rw [jsonFieldsCons, ofFields, Attribute.ofKeyOfKey]
    simp only [plain.2, scalarReadBack plain, Bool.false_eq_true, if_false, okBind]
  nested depth d a inner es hierarchical below := by
    rw [jsonFieldsCons, ofFields, Attribute.ofKeyOfKey]
    simp only [hierarchical, Value.json, below, if_true, Except.map, okBind]

theorem jsonReadBack (d : Having Sound settings.maxDepth) :
    ofJson settings d.dict.json = .ok d.dict :=
  collectedSound jsonCollects d

end ElementLocator.Dict
