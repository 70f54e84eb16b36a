import ElementLocator.Proofs.Attribute.Takes
/-! Dictionaries level by level: what holds of the entries of every level, and the dictionaries of
which every level nests at most one other, at its end. -/
namespace ElementLocator.Dict

theorem levels {P : Dict → Prop} {Q : List (Attribute × Value) → Prop}
    (level : ∀ es, Q es → P (.mk es)) (nil : Q [])
    (plain : ∀ a v rest, v.nested? = none → Q rest → Q ((a, v) :: rest))
    (nested : ∀ a d rest, P d → Q rest → Q ((a, .nested d) :: rest)) :
    (∀ d, P d) ∧ ∀ es, Q es := ⟨onDict, onEntries⟩
where
  onDict : ∀ d, P d
    | .mk es => level es (onEntries es)
  onEntries : ∀ es, Q es
    | [] => nil
    | (a, .str s) :: rest => plain a (.str s) rest rfl (onEntries rest)
    | (a, .bool b) :: rest => plain a (.bool b) rest rfl (onEntries rest)
    | (a, .int n) :: rest => plain a (.int n) rest rfl (onEntries rest)
    | (a, .nested d) :: rest => nested a d rest (onDict d) (onEntries rest)

mutual
def Everywhere (P : List (Attribute × Value) → Prop) : Dict → Prop
  | .mk es => P es ∧ EverywhereIn P es

def EverywhereIn (P : List (Attribute × Value) → Prop) : List (Attribute × Value) → Prop
  | [] => True
  | (_, .nested d) :: rest => d.Everywhere P ∧ EverywhereIn P rest
  | _ :: rest => EverywhereIn P rest
end

variable {P : List (Attribute × Value) → Prop} {es : List (Attribute × Value)} {a : Attribute}
  {v : Value} {d : Dict} {most : Nat}

theorem everywherePlain (flat : v.nested? = none) :
    EverywhereIn P ((a, v) :: es) ↔ EverywhereIn P es := by
  cases v with
  | nested d => cases flat
  | _ => simp only [EverywhereIn]

theorem everywhereIn : EverywhereIn P es ↔ ∀ a d, (a, .nested d) ∈ es → d.Everywhere P := by
  induction es with
  | nil => simp [EverywhereIn]
  | cons e rest ih =>
    obtain ⟨b, v⟩ := e
    cases v with
    | nested inner =>
      rw [EverywhereIn, ih]
      constructor
      · rintro ⟨here, later⟩ a d member
        rcases List.mem_cons.mp member with same | member
        · cases same
          exact here
        · exact later a d member
      · intro h
        exact ⟨h b inner (by simp), fun a d member => h a d (by simp [member])⟩
    | _ =>
      rw [everywherePlain rfl, ih]
      simp

theorem depthPlain (flat : v.nested? = none) (a : Attribute) (es : List (Attribute × Value)) :
    depthOfEntries ((a, v) :: es) = depthOfEntries es := by
  cases v with
  | nested d => cases flat
  | _ => simp only [depthOfEntries]

theorem within {P : Dict → Prop}
    (step : ∀ es, (∀ a d, (a, .nested d) ∈ es → P d) → P (.mk es)) (d : Dict) : P d := by
  refine (levels (Q := fun es => ∀ a d, (a, .nested d) ∈ es → P d) step ?nil ?plain ?nested).1 d
  case nil =>
    intro a d member
    cases member
  case plain =>
    intro a v rest flat ih b d member
    rcases List.mem_cons.mp member with same | later
    · cases same
      cases flat
    · exact ih b d later
  case nested =>
    intro a inner rest holds ih b d member
    rcases List.mem_cons.mp member with same | later
    · cases same
      exact holds
    · exact ih b d later

theorem everywhereAll (h : ∀ es, P es) (d : Dict) : d.Everywhere P := by
  refine within (P := fun d => d.Everywhere P) ?_ d
  intro es ih
  rw [Everywhere, everywhereIn]
  exact ⟨h es, ih⟩

theorem everywhereMono {Q : List (Attribute × Value) → Prop} (weaker : ∀ es, P es → Q es)
    (h : d.Everywhere P) : d.Everywhere Q := by
  revert h
  refine within (P := fun d => d.Everywhere P → d.Everywhere Q) ?_ d
  intro es ih h
  rw [Everywhere, everywhereIn] at h ⊢
  exact ⟨weaker es h.1, fun a inner member => ih a inner member (h.2 a inner member)⟩

def Typed (es : List (Attribute × Value)) : Prop := ∀ e ∈ es, e.1.takes e.2 = true

instance (es : List (Attribute × Value)) : Decidable (Typed es) :=
  inferInstanceAs (Decidable (∀ e ∈ es, e.1.takes e.2 = true))

def Distinct (es : List (Attribute × Value)) : Prop := (es.map Prod.fst).Nodup

instance (es : List (Attribute × Value)) : Decidable (Distinct es) :=
  inferInstanceAs (Decidable (es.map Prod.fst).Nodup)

structure Sound (es : List (Attribute × Value)) : Prop where
  typed : Typed es
  distinct : (es.map Prod.fst).Nodup

/-- A level as dictionaries have it that paths can say in full: every value of its attribute's kind,
no attribute twice, a nested locator only at the end, and a place for every number. -/
structure Orderly (es : List (Attribute × Value)) : Prop where
  typed : ∀ e ∈ es, e.1.takes e.2 = true
  distinct : (es.map Prod.fst).Nodup
  trailing : ∀ e ∈ es.dropLast, e.1.isHierarchical = false
  places : ∀ e ∈ es, e.2.hasPlace = true

instance (es : List (Attribute × Value)) : Decidable (Orderly es) :=
  decidable_of_iff ((∀ e ∈ es, e.1.takes e.2 = true) ∧ (es.map Prod.fst).Nodup ∧
      (∀ e ∈ es.dropLast, e.1.isHierarchical = false) ∧ ∀ e ∈ es, e.2.hasPlace = true)
    ⟨fun ⟨typed, distinct, trailing, places⟩ => ⟨typed, distinct, trailing, places⟩,
      fun ⟨typed, distinct, trailing, places⟩ => ⟨typed, distinct, trailing, places⟩⟩

/-- Dictionaries that have a property at every level and are no deeper than is allowed. -/
structure Having (P : List (Attribute × Value) → Prop) (most : Nat) where
  dict : Dict
  levels : dict.Everywhere P
  room : dict.depth ≤ most

namespace Having

abbrev ofFirstLevel (levels : d.Everywhere P) (room : 1 + d.depth ≤ most + 1) : Having P most :=
  ⟨d, levels, Nat.le_of_add_le_add_left (Nat.add_comm most 1 ▸ room)⟩

abbrev weaken {Q : List (Attribute × Value) → Prop} (d : Having P most)
    (weaker : ∀ es, P es → Q es) : Having Q most :=
  ⟨d.dict, everywhereMono weaker d.levels, d.room⟩

abbrev deeper {more : Nat} (d : Having P most) (further : most ≤ more) : Having P more :=
  ⟨d.dict, d.levels, Nat.le_trans d.room further⟩

abbrev typed (d : Having Sound most) : Having Typed most := d.weaken fun _ level => level.typed

abbrev distinct (d : Having Sound most) : Having Distinct most :=
  d.weaken fun _ level => level.distinct

abbrev sound (d : Having Orderly most) : Having Sound most :=
  d.weaken fun _ level => ⟨level.typed, level.distinct⟩

end Having

structure Flat (es : List (Attribute × Value)) : Prop where
  plain : ∀ e ∈ es, Plain e
  distinct : (es.map Prod.fst).Nodup
  places : ∀ e ∈ es, e.2.hasPlace = true

inductive Layered : Dict → Prop where
  | flat {es : List (Attribute × Value)} (level : Flat es) : Layered (.mk es)
  | nesting {es : List (Attribute × Value)} {a : Attribute} {d : Dict} (level : Flat es)
      (hierarchical : a.isHierarchical = true) (inner : Layered d) :
      Layered (.mk (es ++ [(a, .nested d)]))

theorem flatOfTrailing (orderly : Orderly (es ++ [(a, v)])) : Flat es where
  plain e member := ⟨orderly.typed e (by simp [member]), orderly.trailing e (by simpa using member)⟩
  distinct := by
    have := orderly.distinct
    rw [List.map_append] at this
    exact (List.nodup_append.mp this).1
  places e member := orderly.places e (by simp [member])

theorem flatOfPlain (orderly : Orderly (es ++ [(a, v)])) (plain : Plain (a, v)) :
    Flat (es ++ [(a, v)]) where
  plain e member := by
    rcases List.mem_append.mp member with before | last
    · exact (flatOfTrailing orderly).plain e before
    · rw [List.mem_singleton.mp last]
      exact plain
  distinct := orderly.distinct
  places := orderly.places

theorem flatNested (flat : Flat es) (member : (a, .nested d) ∈ es) : False := by
  have noNested := (plainIff.mp (flat.plain (a, .nested d) member)).2
  cases noNested

theorem flatFresh (flat : Flat es) (hierarchical : a.isHierarchical = true) :
    a ∉ es.map Prod.fst := by
  intro member
  obtain ⟨e, there, rfl⟩ := List.mem_map.mp member
  rw [(flat.plain e there).2] at hierarchical
  cases hierarchical

theorem depthFlat (flat : Flat es) (rest : List (Attribute × Value)) :
    depthOfEntries (es ++ rest) = depthOfEntries rest := by
  have plain := flat.plain
  clear flat
  induction es with
  | nil => rfl
  | cons e es ih =>
    obtain ⟨a, v⟩ := e
    have noNested := (plainIff.mp (plain (a, v) (by simp))).2
    rw [List.cons_append, depthPlain noNested, ih fun x hx => plain x (by simp [hx])]

theorem depthOfFlat (flat : Flat es) : (Dict.mk es).depth = 1 := by
  have deep := depthFlat flat []
  rw [List.append_nil] at deep
  rw [Dict.depth, deep, depthOfEntries]

theorem depthOfNesting (flat : Flat es) (a : Attribute) (d : Dict) :
    (Dict.mk (es ++ [(a, .nested d)])).depth = 1 + d.depth := by
  rw [Dict.depth, depthFlat flat, depthOfEntries, depthOfEntries, Nat.max_zero]

theorem orderlyFlat (flat : Flat es) : Orderly es where
  typed e member := (flat.plain e member).1
  distinct := flat.distinct
  trailing e member := (flat.plain e (List.dropLast_subset es member)).2
  places := flat.places

theorem orderlyNesting (flat : Flat es) (hierarchical : a.isHierarchical = true) (d : Dict) :
    Orderly (es ++ [(a, .nested d)]) where
  typed e member := by
    rcases List.mem_append.mp member with before | last
    · exact (flat.plain e before).1
    · rw [List.mem_singleton.mp last]
      exact hierarchical
  distinct := by
    rw [List.map_append, List.nodup_append]
    refine ⟨flat.distinct, by simp, ?_⟩
    intro b before c last same
    subst same
    rw [List.mem_singleton.mp last] at before
    exact flatFresh flat hierarchical before
  trailing e member := (flat.plain e (by simpa using member)).2
  places e member := by
    rcases List.mem_append.mp member with before | last
    · exact flat.places e before
    · rw [List.mem_singleton.mp last]
      rfl

theorem orderlyOfLayered (h : Layered d) : d.Everywhere Orderly := by
  induction h with
  | flat level =>
    rw [Everywhere, everywhereIn]
    exact ⟨orderlyFlat level, fun a d member => (flatNested level member).elim⟩
  | nesting level hierarchical _ inner =>
    rw [Everywhere, everywhereIn]
    refine ⟨orderlyNesting level hierarchical _, ?_⟩
    intro b d member
    rcases List.mem_append.mp member with before | last
    · exact (flatNested level before).elim
    · cases List.mem_singleton.mp last
      exact inner

theorem layered (orderly : d.Everywhere Orderly) : Layered d := by
  revert orderly
  refine within (P := fun d => d.Everywhere Orderly → Layered d) ?_ d
  intro es ih orderly
  rw [Everywhere, everywhereIn] at orderly
  obtain ⟨level, inner⟩ := orderly
  rcases List.eq_nil_or_concat es with rfl | ⟨before, ⟨a, v⟩, rfl⟩
  · exact .flat ⟨by simp, List.nodup_nil, by simp⟩
  · rw [List.concat_eq_append] at *
    have takes : a.takes v = true := level.typed (a, v) (by simp)
    cases v with
    | nested d =>
      have member : (a, .nested d) ∈ before ++ [(a, Value.nested d)] := by simp
      exact .nesting (flatOfTrailing level) takes (ih a d member (inner a d member))
    | _ => exact .flat (flatOfPlain level (plainIff.mpr ⟨takes, rfl⟩))

end ElementLocator.Dict
