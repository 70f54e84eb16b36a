import Mathlib.Data.List.Induction
import ElementLocator.Proofs.Dict.Lookup
/-! Dictionaries that are built by inserting and merging. What was given last counts, at the place
of what was given first. A merged dictionary has the keys of the first one and behind them those
that only the second one has, and the values of the second one come before those of the first. -/
namespace ElementLocator.Dict

inductive Edit where
  | insert (a : Attribute) (v : Value)
  | merge (other : Dict)

def Edit.apply (d : Dict) : Edit → Dict
  | .insert a v => d.insert a v
  | .merge other => d.merge other

def edited (edits : List Edit) : Dict := edits.foldl Edit.apply .empty

def Edit.given : Edit → List (Attribute × Value)
  | .insert a v => [(a, v)]
  | .merge other => other.entries

variable {d : Dict}

theorem appliedGiven (d : Dict) (edit : Edit) :
    edit.apply d = edit.given.foldl (fun d (a, v) => d.insert a v) d := by
  cases edit <;> rfl

theorem editedGiven (edits : List Edit) : edited edits = ofList (edits.flatMap Edit.given) := by
  rw [edited, ofList]
  generalize Dict.empty = d
  induction edits generalizing d with
  | nil => rfl
  | cons edit edits ih =>
    rw [List.foldl_cons, List.flatMap_cons, List.foldl_append, ← appliedGiven]
    exact ih (edit.apply d)

theorem givenDistinct (es : List (Attribute × Value)) (distinct : d.keys.Nodup) :
    (es.foldl (fun d (a, v) => d.insert a v) d).keys.Nodup := by
  induction es generalizing d with
  | nil => exact distinct
  | cons e rest ih => exact ih (placedDistinct distinct e.1 e.2)

/-- Dictionaries that give no attribute twice, as inserting and merging leave them. -/
abbrev Keyed := { d : Dict // d.keys.Nodup }

namespace Keyed

def ofList (es : List (Attribute × Value)) : Keyed :=
  ⟨Dict.ofList es, givenDistinct es List.nodup_nil⟩

def empty : Keyed := ⟨.empty, List.nodup_nil⟩

def insert (d : Keyed) (a : Attribute) (v : Value) : Keyed :=
  ⟨d.val.insert a v, placedDistinct d.property a v⟩

def merge (d e : Keyed) : Keyed := ⟨d.val.merge e.val, givenDistinct e.val.entries d.property⟩

end Keyed

theorem keysInsert (d : Dict) (a : Attribute) (v : Value) :
    (d.insert a v).keys = if a ∈ d.keys then d.keys else d.keys ++ [a] := by
  obtain ⟨es⟩ := d
  split
  · rename_i known
    exact placedKnown known v
  · rename_i fresh
    have last : (Dict.mk es).insert a v = .mk (es ++ [(a, v)]) := insertFresh fresh v
    rw [last, keys, entries, List.map_append]
    rfl

theorem keysOfList (es : List (Attribute × Value)) :
    (ofList es).keys = (es.map Prod.fst).eraseDups := by
  induction es using List.reverseRecOn with
  | nil => rfl
  | append_singleton es e ih =>
    have last : ofList (es ++ [e]) = (ofList es).insert e.1 e.2 := List.foldl_append
    rw [last, keysInsert, ih, List.map_append, List.eraseDups_append]
    by_cases known : e.1 ∈ es.map Prod.fst
    · simp [known, List.removeAll]
    · simp [known, List.removeAll, List.eraseDups_cons]

theorem getNext (a b : Attribute) (v : Value) (rest : List (Attribute × Value)) :
    (Dict.mk ((a, v) :: rest)).get? b = if a = b then some v else (Dict.mk rest).get? b := by
  by_cases same : a = b <;> simp [get?, entries, same]

theorem keysMerged (d e : Keyed) :
    (d.merge e).val.keys = d.val.keys ++ e.val.keys.filter (· ∉ d.val.keys) := by
  obtain ⟨⟨es⟩, distinct⟩ := e
  induction es generalizing d with
  | nil => exact (List.append_nil d.val.keys).symm
  | cons e rest ih =>
    obtain ⟨a, v⟩ := e
    obtain ⟨fresh, others⟩ := List.nodup_cons.mp distinct
    have merged : (d.merge ⟨.mk ((a, v) :: rest), distinct⟩).val.keys = _ :=
      ih (d.insert a v) others
    have inserted : (d.insert a v).val.keys = _ := keysInsert d.val a v
    have keys : (Dict.mk ((a, v) :: rest)).keys = a :: (Dict.mk rest).keys := rfl
    rw [merged, inserted, keys]
    by_cases known : a ∈ d.val.keys
    · simp [known]
    · have same : (Dict.mk rest).keys.filter (· ∉ d.val.keys ++ [a]) =
          (Dict.mk rest).keys.filter (· ∉ d.val.keys) := by
        refine List.filter_congr fun b member => ?_
        have other : b ≠ a := fun same => fresh (same ▸ member)
        simp [other]
      simp only [if_neg known, same]
      simp [known]

theorem getMerged (d e : Keyed) (a : Attribute) :
    (d.merge e).val.get? a = (e.val.get? a).or (d.val.get? a) := by
  obtain ⟨⟨es⟩, distinct⟩ := e
  induction es generalizing d with
  | nil => rfl
  | cons e rest ih =>
    obtain ⟨b, v⟩ := e
    obtain ⟨fresh, others⟩ := List.nodup_cons.mp distinct
    have merged : (d.merge ⟨.mk ((b, v) :: rest), distinct⟩).val.get? a = _ :=
      ih (d.insert b v) others
    have inserted : (d.insert b v).val.get? a = _ := getInsert d.val b a v
    rw [merged, getNext, inserted]
    by_cases same : b = a
    · subst same
      rw [getFresh fresh, if_pos rfl, if_pos rfl]
      rfl
    · rw [if_neg same, if_neg same]

theorem sameDict {d e : Keyed} (keys : d.val.keys = e.val.keys)
    (values : ∀ a, d.val.get? a = e.val.get? a) : d = e := by
  obtain ⟨⟨es⟩, distinct⟩ := d
  obtain ⟨⟨fs⟩, alsoDistinct⟩ := e
  refine Subtype.ext (congrArg Dict.mk ?_)
  simp only at keys values
  induction es generalizing fs with
  | nil => exact (List.map_eq_nil_iff.mp keys.symm).symm
  | cons e rest ih =>
    obtain ⟨a, v⟩ := e
    obtain ⟨⟨b, w⟩, more, rfl, rfl, later⟩ := List.map_eq_cons_iff.mp keys.symm
    obtain ⟨fresh, others⟩ := List.nodup_cons.mp distinct
    obtain ⟨alsoFresh, alsoOthers⟩ := List.nodup_cons.mp alsoDistinct
    have here := values b
    simp only [getNext, if_pos] at here
    cases here
    refine congrArg _ (ih others more alsoOthers later.symm fun c => ?_)
    have there := values c
    rw [getNext, getNext] at there
    by_cases same : b = c
    · subst same
      rw [getFresh fresh, getFresh alsoFresh]
    · rwa [if_neg same, if_neg same] at there

theorem mergedAgain (d e f : Keyed) : (d.merge e).merge f = d.merge (e.merge f) := by
  refine sameDict ?_ fun a => ?_
  · rw [keysMerged, keysMerged, keysMerged, keysMerged, List.filter_append, List.filter_filter,
      List.append_assoc]
    refine congrArg _ (congrArg _ (List.filter_congr fun a _ => ?_))
    by_cases inFirst : a ∈ d.val.keys <;> simp [inFirst]
  · rw [getMerged, getMerged, getMerged, getMerged, Option.or_assoc]

theorem mergedIntoEmpty (d : Keyed) : Keyed.empty.merge d = d := by
  refine sameDict ?_ fun a => ?_
  · rw [keysMerged]
    simp [Keyed.empty, keys, Dict.empty, entries]
  · rw [getMerged]
    exact Option.or_none

/-- Whatever is inserted and merged, each attribute occurs once, at the place where it was first
given and with the value that was given last. Merging is associative, and the empty dictionary
changes nothing on either side. -/
theorem orderedMap (edits : List Edit) :
    let d := edited edits
    let given := edits.flatMap Edit.given
    d.keys.Nodup ∧ d.keys = (given.map Prod.fst).eraseDups ∧
      (∀ a, d.get? a = (given.reverse.find? fun e => e.1 = a).map Prod.snd) ∧
      d.merge .empty = d ∧ Dict.empty.merge d = d ∧
      ∀ second third : List Edit, (d.merge (edited second)).merge (edited third) =
        d.merge ((edited second).merge (edited third)) := by
  intro d given
  let built (edits : List Edit) : Keyed := Keyed.ofList (edits.flatMap Edit.given)
  have isBuilt (edits : List Edit) : edited edits = (built edits).val := editedGiven edits
  simp only [d, isBuilt]
  refine ⟨(built edits).property, keysOfList given, getOfList given, rfl, ?_,
    fun second third => ?_⟩
  · exact congrArg Subtype.val (mergedIntoEmpty (built edits))
  · exact congrArg Subtype.val (mergedAgain (built edits) (built second) (built third))

/- A text that is replaced in its place, by an insertion and by a dictionary merged in. -/
example :
    let d := edited [.insert .text (.str "A"), .insert .checked (.bool true),
      .merge (.mk [(.index, .int 1), (.text, .str "B")]), .insert .checked (.bool false)]
    d.entries.map Prod.fst = [.text, .checked, .index] ∧ d.get? .checked = some (.bool false) :=
  ⟨by decide, rfl⟩

end ElementLocator.Dict
