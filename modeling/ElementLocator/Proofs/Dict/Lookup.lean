import ElementLocator.Proofs.Dict.Insertion
/-! Looking up attributes in a dictionary: the value that was given last is found. -/
namespace ElementLocator.Dict

variable {es : List (Attribute × Value)} {a : Attribute} {v : Value} {d : Dict}

theorem findPlaced (a b : Attribute) (v : Value) (es : List (Attribute × Value)) :
    ((placed a v es).find? fun e => e.1 = b).map Prod.snd =
      if a = b then some v else (es.find? fun e => e.1 = b).map Prod.snd := by
  induction es with
  | nil => by_cases same : a = b <;> simp [placed, same]
  | cons e rest ih =>
    obtain ⟨c, w⟩ := e
    rw [placed]
    by_cases here : c = a
    · subst here
      by_cases same : c = b <;> simp [same]
    · rw [if_neg here]
      by_cases same : c = b
      · subst same
        simp [Ne.symm here]
      · simpa [List.find?_cons_of_neg, same] using ih

theorem getInsert (d : Dict) (a b : Attribute) (v : Value) :
    (d.insert a v).get? b = if a = b then some v else d.get? b :=
  findPlaced a b v d.entries

theorem getInserted (d : Dict) (a : Attribute) (v : Value) : (d.insert a v).get? a = some v := by
  rw [getInsert, if_pos rfl]

theorem getFresh (fresh : a ∉ es.map Prod.fst) : (Dict.mk es).get? a = none := by
  rw [get?, Option.map_eq_none_iff, List.find?_eq_none]
  intro e member
  have other : e.1 ≠ a := fun same => fresh (same ▸ List.mem_map_of_mem member)
  simpa using other

theorem getGiven (d : Dict) (es : List (Attribute × Value)) (a : Attribute) :
    (es.foldl (fun d (a, v) => d.insert a v) d).get? a =
      ((es.reverse.find? fun e => e.1 = a).map Prod.snd).or (d.get? a) := by
  induction es generalizing d with
  | nil => simp
  | cons e rest ih =>
    rw [List.foldl_cons, ih, getInsert, List.reverse_cons, List.find?_append]
    by_cases same : e.1 = a <;> cases rest.reverse.find? (fun e => e.1 = a) <;> simp [same]

theorem getOfList (es : List (Attribute × Value)) (a : Attribute) :
    (ofList es).get? a = (es.reverse.find? fun e => e.1 = a).map Prod.snd := by
  rw [ofList, getGiven]
  exact Option.or_none

theorem allFound : (∀ e ∈ es, (ofList es).get? e.1 = some e.2) ↔
    ∀ e ∈ es, ∀ f ∈ es, e.1 = f.1 → e.2 = f.2 := by
  constructor
  · intro found e here f there same
    have one := found e here
    rw [same, found f there] at one
    exact (Option.some.inj one).symm
  · intro once e here
    rw [getOfList]
    cases last : es.reverse.find? (fun f => f.1 = e.1) with
    | none =>
      have missing := List.find?_eq_none.mp last e (List.mem_reverse.mpr here)
      simp at missing
    | some f =>
      have there := List.mem_reverse.mp (List.mem_of_find?_eq_some last)
      have same : f.1 = e.1 := by simpa using List.find?_some last
      exact congrArg some (once f there e here same)

end ElementLocator.Dict
