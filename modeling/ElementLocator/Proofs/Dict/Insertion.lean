import ElementLocator.Dict
/-! What giving an attribute does to the entries of a dictionary. -/
namespace ElementLocator.Dict

variable {es : List (Attribute × Value)} {a : Attribute} {v : Value} {e : Attribute × Value}

theorem placedFresh (fresh : a ∉ es.map Prod.fst) (v : Value) :
    placed a v es = es ++ [(a, v)] := by
  induction es with
  | nil => rfl
  | cons e rest ih =>
    obtain ⟨b, w⟩ := e
    simp only [List.map_cons, List.mem_cons, not_or] at fresh
    have other : b ≠ a := fun same => fresh.1 same.symm
    simp [placed, other, ih fresh.2]

theorem insertFresh (fresh : a ∉ es.map Prod.fst) (v : Value) :
    (Dict.mk es).insert a v = .mk (es ++ [(a, v)]) := by
  simp only [Dict.insert, Dict.entries, placedFresh fresh]

theorem insertNext {rest : List (Attribute × Value)}
    (distinct : ((es ++ (a, v) :: rest).map Prod.fst).Nodup) :
    (Dict.mk es).insert a v = .mk (es ++ [(a, v)]) := by
  apply insertFresh
  rw [List.map_append] at distinct
  intro member
  exact (List.nodup_append.mp distinct).2.2 a member a (by simp) rfl

theorem placedKnown (known : a ∈ es.map Prod.fst) (v : Value) :
    (placed a v es).map Prod.fst = es.map Prod.fst := by
  induction es with
  | nil => cases known
  | cons e rest ih =>
    obtain ⟨b, w⟩ := e
    by_cases same : b = a
    · simp [placed, same]
    · have later : a ∈ rest.map Prod.fst := by
        rcases List.mem_cons.mp known with here | later
        · exact absurd here.symm same
        · exact later
      simp [placed, same, ih later]

theorem placedDistinct (distinct : (es.map Prod.fst).Nodup) (a : Attribute) (v : Value) :
    ((placed a v es).map Prod.fst).Nodup := by
  by_cases known : a ∈ es.map Prod.fst
  · rw [placedKnown known]
    exact distinct
  · rw [placedFresh known, List.map_append, List.nodup_append]
    refine ⟨distinct, by simp, ?_⟩
    intro b before c last same
    subst same
    rw [List.map_singleton, List.mem_singleton] at last
    rw [last] at before
    exact known before

theorem placedMember (member : e ∈ placed a v es) : e = (a, v) ∨ e ∈ es := by
  induction es with
  | nil => exact Or.inl (List.mem_singleton.mp member)
  | cons x rest ih =>
    obtain ⟨b, w⟩ := x
    rw [placed] at member
    split at member
    · rename_i same
      rcases List.mem_cons.mp member with here | later
      · exact Or.inl (same ▸ here)
      · exact Or.inr (List.mem_cons_of_mem _ later)
    · rcases List.mem_cons.mp member with here | later
      · exact Or.inr (here ▸ List.mem_cons_self)
      · rcases ih later with same | rest
        · exact Or.inl same
        · exact Or.inr (List.mem_cons_of_mem _ rest)

end ElementLocator.Dict
