import Mathlib.Data.List.Nodup
import ElementLocator.Dict.Check
import ElementLocator.Proofs.Dict.OfJson
import ElementLocator.Proofs.Text.Parser
/-! What the check of a dictionary reports. Every problem names the keys that it is about by their
full paths, and those of an object are found once each, whatever is wrong elsewhere. -/
namespace ElementLocator

def Problem.paths : Problem → List String
  | .unknownAttribute path => [path]
  | .wrongKind path _ _ => [path]
  | .conflict _ paths => paths
  | _ => []

def Problem.key? : Problem → Option String
  | .unknownAttribute path => some path
  | .wrongKind path _ _ => some path
  | _ => none

def Problem.conflictsIn (family : Family) (own : List String) : Problem → Bool
  | .conflict found paths => found = family && paths.any own.contains
  | _ => false

mutual
def Json.Value.KeysUndotted : Json.Value → Prop
  | .obj fields => Json.Value.KeysUndottedIn fields
  | _ => True

def Json.Value.KeysUndottedIn : List (String × Json.Value) → Prop
  | [] => True
  | (key, v) :: rest => '.' ∉ key.toList ∧ v.KeysUndotted ∧ Json.Value.KeysUndottedIn rest
end

structure Json.Addressed where
  value : Json.Value
  distinct : value.KeysDistinct
  undotted : value.KeysUndotted

structure Json.Fields where
  entries : List (String × Json.Value)
  distinct : (entries.map Prod.fst).Nodup
  undotted : ∀ field ∈ entries, '.' ∉ field.1.toList

namespace Dict
open ElementLocator.Json (objects)
open ElementLocator.Text (Stops stopsNil stopsCons takeWhileAppend)

/-- The keys of hierarchical attributes lead from a value through objects to the object with these
fields. -/
inductive Leads : Json.Value → List String → List (String × Json.Value) → Prop where
  | here (fields : List (String × Json.Value)) : Leads (.obj fields) [] fields
  | into {key : String} {v : Json.Value} {fields found : List (String × Json.Value)}
      {chain : List String} {a : Attribute} (member : (key, v) ∈ fields)
      (known : Attribute.ofKey? key = some a) (hierarchical : a.isHierarchical = true)
      (further : Leads v chain found) : Leads (.obj fields) (key :: chain) found

def pathTo : List String → String
  | [] => ""
  | key :: chain => key ++ "." ++ pathTo chain

def ownProblems (path : String) : String × Json.Value → List Problem
  | (key, v) => match Attribute.ofKey? key with
    | none => [.unknownAttribute (path ++ key)]
    | some a => if fits a.kind v then [] else [.wrongKind (path ++ key) a.kind (described v)]

def fieldProblems (path : String) (depth : Nat) : String × Json.Value → List Problem
  | (key, v) => match Attribute.ofKey? key with
    | none => [.unknownAttribute (path ++ key)]
    | some a =>
        if fits a.kind v then problemsAt (path ++ key ++ ".") (depth + 1) v
        else [.wrongKind (path ++ key) a.kind (described v)]

variable {v : Json.Value} {fields : List (String × Json.Value)} {chain : List String}
  {field : String × Json.Value} {path key other q : String} {depth : Nat} {p : Problem}
  {family : Family} {own : List String}

theorem problemsOfFieldsFlat (path : String) (depth : Nat) (fields : List (String × Json.Value)) :
    problemsOfFields path depth fields = fields.flatMap (fieldProblems path depth) := by
  induction fields with
  | nil => rw [problemsOfFields, List.flatMap_nil]
  | cons field rest ih =>
    obtain ⟨key, v⟩ := field
    rw [problemsOfFields, ih, List.flatMap_cons]
    rfl

theorem problemsOfObject (room : depth ≤ maxNesting) : problemsAt path depth (.obj fields) =
    fields.flatMap (fieldProblems path depth) ++ conflicts path (fields.map Prod.fst) := by
  rw [problemsAt, if_neg (Nat.not_lt_of_le room), problemsOfFieldsFlat]

theorem conflictsMember (member : p ∈ conflicts path own) :
    ∃ family, p = .conflict family ((familyKeys family own).map (path ++ ·)) := by
  rw [conflicts, List.mem_append, conflict, conflict] at member
  rcases member with text | description
  · split at text
    · exact ⟨.text, List.mem_singleton.mp text⟩
    · cases text
  · split at description
    · exact ⟨.description, List.mem_singleton.mp description⟩
    · cases description

theorem conflictsPaths (member : p ∈ conflicts path own) (named : q ∈ p.paths) :
    ∃ key ∈ own, q = path ++ key := by
  obtain ⟨family, rfl⟩ := conflictsMember member
  obtain ⟨key, found, rfl⟩ := List.mem_map.mp named
  exact ⟨key, (List.mem_filter.mp found).1, rfl⟩

theorem keyPaths (same : p.key? = some q) : p.paths = [q] := by
  cases p <;> cases same <;> rfl

theorem keyNamed (same : p.key? = some q) : q ∈ p.paths := by
  rw [keyPaths same]
  exact List.mem_singleton_self q

theorem ownOrBelow (member : p ∈ fieldProblems path depth field) :
    p.key? = some (path ++ field.1) ∨
      p ∈ problemsAt (path ++ field.1 ++ ".") (depth + 1) field.2 := by
  unfold fieldProblems at member
  simp only at member
  split at member
  · cases List.mem_singleton.mp member
    exact Or.inl rfl
  · split at member
    · exact Or.inr member
    · cases List.mem_singleton.mp member
      exact Or.inl rfl

/- Whose problem it is. Keys without dots tell the paths of different fields apart. -/

def Within (path key q : String) : Prop :=
  ∃ below : List Char, q.toList = (path ++ key).toList ++ below ∧ Stops (· != '.') below

theorem withinItself (path key : String) : Within path key (path ++ key) :=
  ⟨[], (List.append_nil _).symm, stopsNil _⟩

theorem withinBelow (path key further : String) : Within path key (path ++ key ++ "." ++ further) :=
  ⟨'.' :: further.toList, by simp, stopsCons rfl _⟩

theorem withinPrefixed (below : (path ++ key ++ ".").toList <+: q.toList) : Within path key q := by
  obtain ⟨further, same⟩ := below
  refine ⟨'.' :: further, ?_, stopsCons rfl _⟩
  rw [← same]
  simp

theorem withinKey (undotted : '.' ∉ key.toList) (within : Within path key q) :
    (q.toList.drop path.toList.length).takeWhile (· != '.') = key.toList := by
  obtain ⟨below, same, stop⟩ := within
  rw [same, String.toList_append, List.append_assoc, List.drop_left]
  refine takeWhileAppend ?_ stop
  intro c member
  rw [bne_iff_ne]
  rintro rfl
  exact undotted member

theorem withinOne (undotted : '.' ∉ key.toList) (alone : '.' ∉ other.toList)
    (within : Within path key q) (also : Within path other q) : key = other := by
  rw [← String.toList_inj, ← withinKey undotted within, withinKey alone also]

theorem notBelow (undotted : '.' ∉ key.toList) (path other further : String) :
    path ++ key ≠ path ++ (other ++ "." ++ further) := by
  intro same
  have dotted : key.toList = (other ++ "." ++ further).toList := by
    simpa [← String.toList_inj] using same
  refine undotted ?_
  rw [dotted]
  simp

theorem pathsBelow : (∀ (v : Json.Value) (path : String) (depth : Nat),
      ∀ p ∈ problemsAt path depth v, ∀ q ∈ p.paths, path.toList <+: q.toList) ∧
    ∀ (fields : List (String × Json.Value)) (path : String) (depth : Nat),
      ∀ p ∈ problemsOfFields path depth fields, ∀ q ∈ p.paths, path.toList <+: q.toList := by
  refine objects ?object ?other ?nil ?field
  case object =>
    intro fields ih path depth p member q named
    rw [problemsAt] at member
    split at member
    · cases List.mem_singleton.mp member
      cases named
    · rcases List.mem_append.mp member with inFields | inConflicts
      · exact ih path depth p inFields q named
      · obtain ⟨key, _, rfl⟩ := conflictsPaths inConflicts named
        simp
  case other =>
    intro v other path depth p member
    rw [problemsAt] at member
    · cases member
    · exact other
  case nil =>
    intro path depth p member
    rw [problemsOfFields] at member
    cases member
  case field =>
    intro key v rest inner ih path depth p member q named
    rw [problemsOfFieldsFlat, List.flatMap_cons, List.mem_append] at member
    rcases member with here | further
    · rcases ownOrBelow here with own | below
      · rw [keyPaths own, List.mem_singleton] at named
        simp [named]
      · have longer := inner (path ++ key ++ ".") (depth + 1) p below q named
        rw [String.append_assoc, String.toList_append] at longer
        exact (List.prefix_append _ _).trans longer
    · rw [← problemsOfFieldsFlat] at further
      exact ih path depth p further q named

theorem namedWithin (member : p ∈ fieldProblems path depth field) (named : q ∈ p.paths) :
    Within path field.1 q := by
  rcases ownOrBelow member with own | below
  · rw [keyPaths own, List.mem_singleton] at named
    rw [named]
    exact withinItself path field.1
  · exact withinPrefixed (pathsBelow.1 _ _ _ p below q named)

/- On the way down, only the field on the chain has problems that name keys at its end. -/

theorem othersUnselected {part : List (String × Json.Value)} (select : Problem → Bool)
    (named : ∀ p, select p = true → ∃ q ∈ p.paths, Within path key q) (alone : '.' ∉ key.toList)
    (undotted : ∀ field ∈ part, '.' ∉ field.1.toList) (fresh : key ∉ part.map Prod.fst) :
    (part.flatMap (fieldProblems path depth)).filter select = [] := by
  rw [List.filter_eq_nil_iff]
  intro p found selected
  obtain ⟨field, member, found⟩ := List.mem_flatMap.mp found
  obtain ⟨q, listed, below⟩ := named p selected
  have same := withinOne (undotted field member) alone (namedWithin found listed) below
  exact fresh (same ▸ List.mem_map_of_mem member)

theorem fieldsSelected (select : Problem → Bool) (fields : Json.Fields)
    (named : ∀ p, select p = true → ∃ q ∈ p.paths, Within path key q)
    (member : (key, v) ∈ fields.entries) :
    (fields.entries.flatMap (fieldProblems path depth)).filter select =
      (fieldProblems path depth (key, v)).filter select := by
  obtain ⟨fields, distinct, undotted⟩ := fields
  have alone := undotted (key, v) member
  obtain ⟨before, after, rfl⟩ := List.append_of_mem member
  rw [List.map_append, List.map_cons, List.nodup_middle, List.nodup_cons, List.mem_append,
    not_or] at distinct
  obtain ⟨⟨notBefore, notAfter⟩, _⟩ := distinct
  rw [List.flatMap_append, List.flatMap_cons, List.filter_append, List.filter_append,
    othersUnselected select named alone (fun field inside => undotted field (by simp [inside]))
      notBefore,
    othersUnselected select named alone (fun field inside => undotted field (by simp [inside]))
      notAfter,
    List.nil_append, List.append_nil]

theorem undottedFields (undotted : Json.Value.KeysUndottedIn fields) :
    ∀ field ∈ fields, '.' ∉ field.1.toList ∧ field.2.KeysUndotted := by
  induction fields with
  | nil => simp
  | cons field rest ih =>
    rw [Json.Value.KeysUndottedIn] at undotted
    exact List.forall_mem_cons.mpr ⟨⟨undotted.1, undotted.2.1⟩, ih undotted.2.2⟩

theorem distinctFields (distinct : Json.Value.KeysDistinctIn fields) :
    ∀ field ∈ fields, field.2.KeysDistinct := by
  induction fields with
  | nil => simp
  | cons field rest ih =>
    rw [Json.Value.KeysDistinctIn] at distinct
    exact List.forall_mem_cons.mpr ⟨distinct.1, ih distinct.2⟩

theorem leadsObject (leads : Leads v chain fields) : ∃ outer, v = .obj outer := by
  cases leads with
  | here => exact ⟨_, rfl⟩
  | into => exact ⟨_, rfl⟩

theorem leadsKept {P : Json.Value → Prop}
    (inward : ∀ outer, P (.obj outer) → ∀ field ∈ outer, P field.2)
    (leads : Leads v chain fields) (outermost : P v) : P (.obj fields) := by
  induction leads with
  | here => exact outermost
  | into member _ _ _ ih => exact ih (inward _ outermost _ member)

abbrev fieldsOf (distinct : (Json.Value.obj fields).KeysDistinct)
    (undotted : (Json.Value.obj fields).KeysUndotted) : Json.Fields :=
  ⟨fields, distinct.1, fun field member => (undottedFields undotted field member).1⟩

abbrev reached (v : Json.Addressed) (leads : Leads v.value chain fields) : Json.Fields :=
  fieldsOf (leadsKept (fun _ distinct => distinctFields distinct.2) leads v.distinct)
    (leadsKept (fun _ undotted field member => (undottedFields undotted field member).2) leads
      v.undotted)

theorem hierarchicalProblems {a : Attribute} (known : Attribute.ofKey? key = some a)
    (hierarchical : a.isHierarchical = true) :
    fieldProblems path depth (key, .obj fields) =
      problemsAt (path ++ key ++ ".") (depth + 1) (.obj fields) := by
  have fit : fits a.kind (.obj fields) = true := by
    rw [of_decide_eq_true hierarchical]
    rfl
  rw [fieldProblems, known]
  exact if_pos fit

theorem leadingProblems (select : Problem → Bool) (v : Json.Addressed)
    (leads : Leads v.value chain fields) (room : depth + chain.length ≤ maxNesting)
    (named : ∀ p, select p = true → ∃ q ∈ p.paths, ∃ key, q = path ++ (pathTo chain ++ key)) :
    (problemsAt path depth v.value).filter select =
      (problemsAt (path ++ pathTo chain) (depth + chain.length) (.obj fields)).filter select := by
  obtain ⟨v, distinct, undotted⟩ := v
  simp only at leads ⊢
  induction leads generalizing path depth with
  | here fields => rw [pathTo, String.append_empty, List.length_nil, Nat.add_zero]
  | @into key v outer fields chain a member known hierarchical further ih =>
    rw [List.length_cons] at room
    have dots := undottedFields undotted
    have namesField : ∀ p, select p = true → ∃ q ∈ p.paths, Within path key q := by
      intro p selected
      obtain ⟨q, path, last, rfl⟩ := named p selected
      refine ⟨_, path, ?_⟩
      simpa [pathTo, String.append_assoc] using withinBelow _ key (pathTo chain ++ last)
    have noConflict : (conflicts path (outer.map Prod.fst)).filter select = [] := by
      rw [List.filter_eq_nil_iff]
      intro p found selected
      obtain ⟨q, listed, last, rfl⟩ := named p selected
      obtain ⟨other, known, same⟩ := conflictsPaths found listed
      obtain ⟨field, within, rfl⟩ := List.mem_map.mp known
      rw [pathTo, String.append_assoc] at same
      exact notBelow (dots field within).1 _ _ _ same.symm
    obtain ⟨inner, rfl⟩ := leadsObject further
    rw [problemsOfObject (by omega), List.filter_append, noConflict, List.append_nil,
      fieldsSelected select (fieldsOf distinct undotted) namesField member,
      hierarchicalProblems known hierarchical,
      ih (by omega) ?_ (distinctFields distinct.2 _ member) (dots _ member).2]
    · rw [pathTo, List.length_cons, ← String.append_assoc, ← String.append_assoc, Nat.add_assoc,
        Nat.add_comm 1]
    · intro p selected
      obtain ⟨q, path, last, rfl⟩ := named p selected
      exact ⟨_, path, last, by simp [pathTo, String.append_assoc]⟩

theorem ownSelected (path : String) (depth : Nat) (field : String × Json.Value) :
    (fieldProblems path depth field).filter (·.key? = some (path ++ field.1)) =
      ownProblems path field := by
  obtain ⟨key, v⟩ := field
  rw [fieldProblems, ownProblems]
  cases Attribute.ofKey? key with
  | none => simp [Problem.key?]
  | some a =>
    simp only
    split
    · rw [List.filter_eq_nil_iff]
      intro p found same
      have longer := (pathsBelow.1 _ _ _ p found _ (keyNamed (of_decide_eq_true same))).length_le
      simp only [String.toList_append, List.length_append] at longer
      exact absurd longer (by simp)
    · simp [Problem.key?]

theorem conflictNamed (found : p.conflictsIn family own = true) : ∃ q ∈ p.paths, q ∈ own := by
  cases p with
  | conflict other paths =>
    rw [Problem.conflictsIn, Bool.and_eq_true, List.any_eq_true] at found
    obtain ⟨q, listed, known⟩ := found.2
    exact ⟨q, listed, by simpa using known⟩
  | _ => cases found

theorem conflictKeyless (found : p.conflictsIn family own = true) : p.key? = none := by
  cases p with
  | conflict other paths => rfl
  | _ => cases found

theorem keyReported (fields : Json.Fields) (room : depth ≤ maxNesting)
    (member : field ∈ fields.entries) :
    (problemsAt path depth (.obj fields.entries)).filter (·.key? = some (path ++ field.1)) =
      ownProblems path field := by
  have noConflict : (conflicts path (fields.entries.map Prod.fst)).filter
      (·.key? = some (path ++ field.1)) = [] := by
    rw [List.filter_eq_nil_iff]
    intro p found
    obtain ⟨family, rfl⟩ := conflictsMember found
    simp [Problem.key?]
  rw [problemsOfObject room, List.filter_append, noConflict, List.append_nil,
    fieldsSelected _ fields ?_ member, ownSelected]
  intro p same
  exact ⟨_, keyNamed (of_decide_eq_true same), withinItself path field.1⟩

theorem conflictSelected (family other : Family) (path : String) (keys : List String) :
    (conflict other path keys).filter (Problem.conflictsIn family (keys.map (path ++ ·))) =
      if other = family then conflict family path keys else [] := by
  split
  · rename_i same
    subst same
    rw [List.filter_eq_self]
    intro p member
    rw [conflict] at member
    split at member
    · rename_i several
      cases List.mem_singleton.mp member
      obtain ⟨key, found⟩ := List.exists_mem_of_length_pos (Nat.zero_lt_of_lt several)
      have known : key ∈ keys := (List.mem_filter.mp found).1
      rw [Problem.conflictsIn, Bool.and_eq_true, List.any_eq_true]
      refine ⟨decide_eq_true rfl, path ++ key, List.mem_map_of_mem found, ?_⟩
      exact List.contains_iff_mem.mpr (List.mem_map_of_mem known)
    · cases member
  · rename_i different
    rw [List.filter_eq_nil_iff]
    intro p member
    rw [conflict] at member
    split at member
    · cases List.mem_singleton.mp member
      simp [Problem.conflictsIn, different]
    · cases member

theorem conflictReported (fields : Json.Fields) (room : depth ≤ maxNesting) (family : Family) :
    (problemsAt path depth (.obj fields.entries)).filter
        (Problem.conflictsIn family ((fields.entries.map Prod.fst).map (path ++ ·))) =
      conflict family path (fields.entries.map Prod.fst) := by
  have below : (fields.entries.flatMap (fieldProblems path depth)).filter
      (Problem.conflictsIn family ((fields.entries.map Prod.fst).map (path ++ ·))) = [] := by
    rw [List.filter_eq_nil_iff]
    intro p member conflicting
    obtain ⟨q, named, known⟩ := conflictNamed conflicting
    obtain ⟨key, given, rfl⟩ := List.mem_map.mp known
    obtain ⟨field, within, rfl⟩ := List.mem_map.mp given
    obtain ⟨⟨other, v⟩, _, member⟩ := List.mem_flatMap.mp member
    rcases ownOrBelow member with single | deeper
    · rw [conflictKeyless conflicting] at single
      cases single
    · obtain ⟨further, same⟩ := pathsBelow.1 _ _ _ p deeper _ named
      refine notBelow (fields.undotted field within) path other (String.ofList further) ?_
      rw [← String.toList_inj, ← same]
      simp
  rw [problemsOfObject room, List.filter_append, below, List.nil_append, conflicts,
    List.filter_append, conflictSelected, conflictSelected]
  cases family <;> simp

theorem problemsLeading (select : Problem → Bool) (v : Json.Addressed)
    (leads : Leads v.value chain fields) (room : chain.length < maxNesting)
    (named : ∀ p, select p = true → ∃ q ∈ p.paths, ∃ key, q = pathTo chain ++ key) :
    (problems v.value).filter select =
      (problemsAt (pathTo chain) (1 + chain.length) (.obj fields)).filter select := by
  have outermost : (problems v.value).filter select = (problemsAt "" 1 v.value).filter select := by
    obtain ⟨outer, object⟩ := leadsObject leads
    rw [object]
    cases outer with
    | nil =>
      have refused : select .emptyDict ≠ true := by
        intro selected
        obtain ⟨q, none, _⟩ := named _ selected
        cases none
      rw [problemsOfObject (by decide)]
      simp [problems, conflicts, conflict, familyKeys, refused]
    | cons field rest => rfl
  rw [outermost, leadingProblems select v leads (by omega) ?_, String.empty_append]
  intro p selected
  obtain ⟨q, path, key, rfl⟩ := named p selected
  exact ⟨_, path, key, String.empty_append.symm⟩

theorem keyReportedWithin (v : Json.Addressed) (leads : Leads v.value chain fields)
    (room : chain.length < maxNesting) (field) (member : field ∈ fields) :
    (problems v.value).filter (·.key? = some (pathTo chain ++ field.1)) =
      ownProblems (pathTo chain) field := by
  rw [problemsLeading _ v leads room ?_]
  · exact keyReported (reached v leads) (by omega) member
  · intro p same
    exact ⟨_, keyNamed (of_decide_eq_true same), field.1, rfl⟩

theorem familyReportedWithin (v : Json.Addressed) (leads : Leads v.value chain fields)
    (room : chain.length < maxNesting) (family : Family) :
    (problems v.value).filter
        (Problem.conflictsIn family ((fields.map Prod.fst).map (pathTo chain ++ ·))) =
      conflict family (pathTo chain) (fields.map Prod.fst) := by
  rw [problemsLeading _ v leads room ?_]
  · exact conflictReported (reached v leads) (by omega) family
  · intro p conflicting
    obtain ⟨q, named, known⟩ := conflictNamed conflicting
    obtain ⟨key, _, rfl⟩ := List.mem_map.mp known
    exact ⟨_, named, key, rfl⟩

/-- Whatever else is wrong, each key of an object that the check reaches is reported once if there
is no such attribute or its value is of another kind, and each family once of which the object
has several keys. What stands elsewhere does not matter for this. -/
theorem reportedOnce (distinct : v.KeysDistinct) (undotted : v.KeysUndotted)
    (leads : Leads v chain fields) (room : chain.length < maxNesting) :
    let own := (fields.map Prod.fst).map (pathTo chain ++ ·)
    (∀ field ∈ fields, (problems v).filter (·.key? = some (pathTo chain ++ field.1)) =
        ownProblems (pathTo chain) field) ∧
      (∀ family : Family, (problems v).filter (Problem.conflictsIn family own) =
        let found := familyKeys family (fields.map Prod.fst)
        if 1 < found.length then [.conflict family (found.map (pathTo chain ++ ·))] else []) ∧
      ∀ (w : Json.Value) (others : List (String × Json.Value)), w.KeysDistinct → w.KeysUndotted →
        Leads w chain others →
          (∀ field ∈ fields, field ∈ others →
            (problems w).filter (·.key? = some (pathTo chain ++ field.1)) =
              (problems v).filter (·.key? = some (pathTo chain ++ field.1))) ∧
          (others.map Prod.fst = fields.map Prod.fst → ∀ family : Family,
            (problems w).filter (Problem.conflictsIn family own) =
              (problems v).filter (Problem.conflictsIn family own)) := by
  intro own
  have keys := keyReportedWithin ⟨v, distinct, undotted⟩ leads room
  have families := familyReportedWithin ⟨v, distinct, undotted⟩ leads room
  refine ⟨keys, families, ?_⟩
  intro w others distinctThere undottedThere leadsThere
  constructor
  · intro field member also
    exact (keyReportedWithin ⟨w, distinctThere, undottedThere⟩ leadsThere room field also).trans
      (keys field member).symm
  · intro same family
    have there := familyReportedWithin ⟨w, distinctThere, undottedThere⟩ leadsThere room family
    rw [same] at there
    exact there.trans (families family).symm

theorem childReportedOnce :
    let fields : List (String × Json.Value) :=
      [("txt", .int 1), ("text", .str "a"), ("index", .int (-2)), ("textMatches", .str "b")]
    let v : Json.Value := .obj [("clickable", .str "yes"), ("childSelector", .obj fields)]
    let w : Json.Value := .obj [("clickable", .bool true), ("childSelector", .obj fields)]
    (v.KeysDistinct ∧ v.KeysUndotted ∧ w.KeysDistinct ∧ w.KeysUndotted ∧
      Leads v ["childSelector"] fields ∧ Leads w ["childSelector"] fields ∧
      ["childSelector"].length < maxNesting) ∧
    (problems v).filter (·.key? = some "childSelector.txt") =
      [.unknownAttribute "childSelector.txt"] ∧
    (problems v).filter (·.key? = some "childSelector.text") = [] ∧
    (problems v).filter (·.key? = some "childSelector.index") =
      [.wrongKind "childSelector.index" .numeric "-2"] ∧
    (problems v).filter (Problem.conflictsIn .text ["childSelector.txt", "childSelector.text",
        "childSelector.index", "childSelector.textMatches"]) =
      [.conflict .text ["childSelector.text", "childSelector.textMatches"]] ∧
    (problems w).filter (·.key? = some "childSelector.index") =
      (problems v).filter (·.key? = some "childSelector.index") := by
  intro fields v w
  have distinctFields : (Json.Value.obj fields).KeysDistinct :=
    ⟨by decide, trivial, trivial, trivial, trivial, trivial⟩
  have undottedFields : (Json.Value.obj fields).KeysUndotted :=
    ⟨by decide, trivial, by decide, trivial, by decide, trivial, by decide, trivial, trivial⟩
  have distinct : v.KeysDistinct := ⟨by decide, trivial, distinctFields, trivial⟩
  have undotted : v.KeysUndotted := ⟨by decide, trivial, by decide, undottedFields, trivial⟩
  have distinctThere : w.KeysDistinct := ⟨by decide, trivial, distinctFields, trivial⟩
  have undottedThere : w.KeysUndotted := ⟨by decide, trivial, by decide, undottedFields, trivial⟩
  have leads : Leads v ["childSelector"] fields :=
    .into (by simp) (by rfl : Attribute.ofKey? "childSelector" = some .childSelector) rfl
      (.here fields)
  have leadsThere : Leads w ["childSelector"] fields :=
    .into (by simp) (by rfl : Attribute.ofKey? "childSelector" = some .childSelector) rfl
      (.here fields)
  have room : ["childSelector"].length < maxNesting := by decide
  have negative : ownProblems (pathTo ["childSelector"]) ("index", .int (-2)) =
      [.wrongKind "childSelector.index" .numeric "-2"] := by with_unfolding_all rfl
  obtain ⟨keys, families, elsewhere⟩ := reportedOnce distinct undotted leads room
  have changed := (elsewhere w fields distinctThere undottedThere leadsThere).1
  exact ⟨⟨distinct, undotted, distinctThere, undottedThere, leads, leadsThere, room⟩,
    keys ("txt", .int 1) (by simp [fields]), keys ("text", .str "a") (by simp [fields]),
    (keys ("index", .int (-2)) (by simp [fields])).trans negative, families .text,
    changed ("index", .int (-2)) (by simp [fields]) (by simp [fields])⟩

end Dict

end ElementLocator
