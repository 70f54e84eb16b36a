import Mathlib.Data.List.Forall2
import ElementLocator.Locator.Hint
import ElementLocator.Proofs.Dict.Reporting
/-! The hints on a dictionary against the problems that its check finds. Hints look at the outermost
object only. Where nothing is nested, each of them is about what the problem in its place is about.
-/
namespace ElementLocator.Dict

def Shallow (fields : List (String × Json.Value)) : Prop :=
  ∀ field ∈ fields, ∀ a, Attribute.ofKey? field.1 = some a → a.isHierarchical = true →
    ∀ inner, field.2 ≠ .obj inner

inductive Concerns (fields : List (String × Json.Value)) : Hint → Problem → Prop where
  | unknown {key : String} {v : Json.Value} (member : (key, v) ∈ fields)
      (unknown : Attribute.ofKey? key = none) :
      Concerns fields (.renameAttribute key) (.unknownAttribute key)
  | kind {key : String} {v : Json.Value} {a : Attribute} (member : (key, v) ∈ fields)
      (known : Attribute.ofKey? key = some a) (unfit : fits a.kind v = false) :
      Concerns fields (.useKind a.kind key) (.wrongKind key a.kind (described v))
  | conflict {family : Family} {keys : List String}
      (all : keys = familyKeys family (fields.map Prod.fst)) (several : 1 < keys.length) :
      Concerns fields (.keepOne keys) (.conflict family keys)

def fieldHints : String × Json.Value → List Hint
  | (key, v) => match Attribute.ofKey? key with
    | none => [.renameAttribute key]
    | some a => if fits a.kind v then [] else [.useKind a.kind key]

variable {fields : List (String × Json.Value)} {field : String × Json.Value} {key path : String}
  {v : Json.Value} {depth : Nat}

theorem keyHintsFlat (fields : List (String × Json.Value)) :
    keyHints fields = fields.flatMap fieldHints := by
  induction fields with
  | nil => rfl
  | cons field rest ih =>
    obtain ⟨key, v⟩ := field
    rw [keyHints, ih, List.flatMap_cons]
    rfl

theorem shallowProblems (shallow : Shallow fields) (member : field ∈ fields) :
    fieldProblems path depth field = ownProblems path field := by
  obtain ⟨key, v⟩ := field
  rw [fieldProblems, ownProblems]
  cases known : Attribute.ofKey? key with
  | none => rfl
  | some a =>
    simp only
    split
    · rename_i fit
      rw [problemsAt]
      rintro inner rfl
      have hierarchical : a.isHierarchical = true := by
        cases kind : a.kind <;> rw [kind] at fit <;> first | exact decide_eq_true kind | cases fit
      exact shallow _ member a known hierarchical inner rfl
    · rfl

theorem fieldConcerns (member : field ∈ fields) :
    List.Forall₂ (Concerns fields) (fieldHints field) (ownProblems "" field) := by
  obtain ⟨key, v⟩ := field
  rw [fieldHints, ownProblems, String.empty_append]
  cases known : Attribute.ofKey? key with
  | none => exact .cons (.unknown member known) .nil
  | some a =>
    simp only
    split
    · exact .nil
    · rename_i unfit
      exact .cons (.kind member known (eq_false_of_ne_true unfit)) .nil

theorem familyConcerns (family : Family) (fields : List (String × Json.Value)) :
    List.Forall₂ (Concerns fields) (familyHints family (fields.map Prod.fst))
      (conflict family "" (fields.map Prod.fst)) := by
  have bare : (familyKeys family (fields.map Prod.fst)).map ("" ++ ·) =
      familyKeys family (fields.map Prod.fst) := by simp
  rw [familyHints, conflict]
  simp only [bare]
  split
  · rename_i several
    exact .cons (.conflict rfl several) .nil
  · exact .nil

/-- Where no attribute for another element has an object, there is a hint for each problem, in the
same order and about the same key or the same keys of one family. So there is no hint exactly if
nothing is wrong. -/
theorem hintsMatchProblems (nonempty : fields ≠ []) (shallow : Shallow fields) :
    List.Forall₂ (Concerns fields) (Locator.dict (.obj fields)).hints (problems (.obj fields)) ∧
      ((Locator.dict (.obj fields)).hints = [] ↔ problems (.obj fields) = []) := by
  have outermost : problems (.obj fields) = problemsAt "" 1 (.obj fields) := by
    cases fields with
    | nil => exact absurd rfl nonempty
    | cons field rest => rfl
  have same : List.Forall₂ (fun left right => left = right ∧ left ∈ fields) fields fields :=
    List.forall₂_same.mpr fun field member => ⟨rfl, member⟩
  have ofFields : List.Forall₂ (Concerns fields) (fields.flatMap fieldHints)
      (fields.flatMap (fieldProblems "" 1)) := by
    refine List.rel_flatMap same ?_
    rintro field _ ⟨rfl, member⟩
    rw [shallowProblems shallow member]
    exact fieldConcerns member
  have matched : List.Forall₂ (Concerns fields) (Locator.dict (.obj fields)).hints
      (problems (.obj fields)) := by
    rw [outermost, problemsOfObject (by decide), Locator.hints, hints, keyHintsFlat, conflicts,
      ← List.append_assoc]
    exact List.rel_append (List.rel_append ofFields (familyConcerns .text fields))
      (familyConcerns .description fields)
  refine ⟨matched, ?_⟩
  rw [← List.length_eq_zero_iff, ← List.length_eq_zero_iff, matched.length_eq]

theorem mixedHintsMatch :
    let fields : List (String × Json.Value) :=
      [("txt", .int 1), ("text", .str "a"), ("index", .int 4294967296), ("textMatches", .str "b"),
        ("sibling", .str "//*"), ("content-desc", .obj [("text", .str "c")]),
        ("content-descContains", .str "d")]
    let hints : List Hint :=
      [.renameAttribute "txt", .useKind .numeric "index", .useKind .hierarchical "sibling",
        .useKind .string "content-desc", .keepOne ["text", "textMatches"],
        .keepOne ["content-desc", "content-descContains"]]
    let found : List Problem :=
      [.unknownAttribute "txt", .wrongKind "index" .numeric "4294967296",
        .wrongKind "sibling" .hierarchical "string", .wrongKind "content-desc" .string "object",
        .conflict .text ["text", "textMatches"],
        .conflict .description ["content-desc", "content-descContains"]]
    (fields ≠ [] ∧ Shallow fields) ∧ (Locator.dict (.obj fields)).hints = hints ∧
      problems (.obj fields) = found ∧ List.Forall₂ (Concerns fields) hints found := by
  intro fields hints found
  have nonempty : fields ≠ [] := by simp [fields]
  have shallow : Shallow fields := by
    intro field member a known hierarchical inner same
    simp only [fields, List.mem_cons, List.not_mem_nil, or_false] at member
    rcases member with rfl | rfl | rfl | rfl | rfl | rfl | rfl <;> try cases same
    obtain rfl : Attribute.description = a := Option.some.inj known
    cases hierarchical
  have hinted : (Locator.dict (.obj fields)).hints = hints := by
    with_unfolding_all rfl
  have reported : problems (.obj fields) = found := by
    with_unfolding_all rfl
  have matched := (hintsMatchProblems nonempty shallow).1
  rw [hinted, reported] at matched
  exact ⟨⟨nonempty, shallow⟩, hinted, reported, matched⟩

end ElementLocator.Dict
