import ElementLocator.Proofs.Converter.Accounts
/-! A batch against its locators one by one. What is made of a locator depends on the settings of
the converter and not on what it has converted before, so every place of a batch holds what a
conversion of its locator alone comes to. -/
namespace ElementLocator

variable {index i : Nat} {outcomes : List (Except Fault Locator)} {fault : Fault} {made : Locator}
  {target : Format}

theorem itemsOfOutcomes (index : Nat) (outcomes : List (Except Fault Locator)) :
    (Batch.ofOutcomes index outcomes).items = outcomes.map Except.toOption := by
  induction outcomes generalizing index with
  | nil => rfl
  | cons o rest ih => cases o <;> exact congrArg (_ :: ·) (ih (index + 1))

theorem failureIff : (i, fault) ∈ (Batch.ofOutcomes index outcomes).failures ↔
    ∃ place, i = index + place ∧ outcomes[place]? = some (.error fault) := by
  induction outcomes generalizing index with
  | nil => simp [Batch.ofOutcomes, Batch.empty]
  | cons o rest ih =>
    have further : (i, fault) ∈ (Batch.ofOutcomes (index + 1) rest).failures ↔
        ∃ place, i = index + (place + 1) ∧ rest[place]? = some (.error fault) := by
      rw [ih]
      exact exists_congr fun place => by rw [Nat.add_assoc, Nat.add_comm 1]
    rw [← Nat.or_exists_add_one]
    simp only [List.getElem?_cons_zero, List.getElem?_cons_succ, ← further]
    cases o <;> simp [Batch.ofOutcomes, eq_comm]

theorem failuresIncreasing (index : Nat) (outcomes : List (Except Fault Locator)) :
    ((Batch.ofOutcomes index outcomes).failures.map Prod.fst).Pairwise (· < ·) := by
  induction outcomes generalizing index with
  | nil => exact .nil
  | cons o rest ih =>
    cases o with
    | ok made => exact ih (index + 1)
    | error fault =>
      refine List.pairwise_cons.mpr ⟨fun i member => ?_, ih (index + 1)⟩
      obtain ⟨⟨_, other⟩, later, rfl⟩ := List.mem_map.mp member
      obtain ⟨place, rfl, _⟩ := failureIff.mp later
      omega

theorem failuresShifted (shift index : Nat) (outcomes : List (Except Fault Locator)) :
    (Batch.ofOutcomes (shift + index) outcomes).failures =
      (Batch.ofOutcomes index outcomes).failures.map fun (i, fault) => (shift + i, fault) := by
  induction outcomes generalizing index with
  | nil => rfl
  | cons o rest ih =>
    have further := ih (index + 1)
    rw [← Nat.add_assoc] at further
    cases o with
    | ok made => exact further
    | error fault => exact congrArg ((shift + index, fault) :: ·) further

theorem failuresAppend (index : Nat) (outcomes more : List (Except Fault Locator)) :
    (Batch.ofOutcomes index (outcomes ++ more)).failures =
      (Batch.ofOutcomes index outcomes).failures ++
        (Batch.ofOutcomes (outcomes.length + index) more).failures := by
  induction outcomes generalizing index with
  | nil => simp [Batch.ofOutcomes, Batch.empty]
  | cons o rest ih =>
    have further := ih (index + 1)
    rw [← Nat.add_assoc, Nat.add_right_comm] at further
    cases o with
    | ok made => exact further
    | error fault => exact congrArg ((index, fault) :: ·) further

theorem toOptionSome {o : Except Fault Locator} : o.toOption = some made ↔ o = .ok made := by
  cases o <;> simp [Except.toOption]

theorem toOptionNone {o : Except Fault Locator} :
    o.toOption = none ↔ ∃ fault, o = .error fault := by
  cases o <;> simp [Except.toOption]

theorem itemMade : (Batch.ofOutcomes index outcomes).items[i]? = some (some made) ↔
    outcomes[i]? = some (.ok made) := by
  simp [itemsOfOutcomes, toOptionSome]

theorem itemEmpty : (Batch.ofOutcomes 0 outcomes).items[i]? = some none ↔
    i ∈ (Batch.ofOutcomes 0 outcomes).failures.map Prod.fst := by
  rw [itemsOfOutcomes, List.getElem?_map, Option.map_eq_some_iff, List.mem_map]
  simp only [Prod.exists, exists_and_right, exists_eq_right, failureIff, toOptionNone, Nat.zero_add,
    exists_eq_left']
  exact ⟨fun ⟨_, there, fault, failed⟩ => ⟨fault, failed ▸ there⟩,
    fun ⟨fault, there⟩ => ⟨_, there, fault, rfl⟩⟩

theorem batchAppended (outcomes more : List (Except Fault Locator)) :
    let b := Batch.ofOutcomes 0 outcomes
    let further := Batch.ofOutcomes 0 more
    let whole := Batch.ofOutcomes 0 (outcomes ++ more)
    whole.items = b.items ++ further.items ∧
      whole.failures =
        b.failures ++ further.failures.map fun (i, fault) => (outcomes.length + i, fault) := by
  intro b further whole
  constructor
  · simp only [b, further, whole, itemsOfOutcomes, List.map_append]
  · simp only [b, further, whole]
    rw [failuresAppend, failuresShifted]

namespace Converter

variable {c alone : Converter} {ls : List Locator}

theorem convertAlike (same : alone.settings = c.settings) (l : Locator) (target : Format) :
    (alone.convert l target).outcome = (c.convert l target).outcome := by
  have checkedAlike {α : Type} (op : Operation) (work : Noted α) :
      (alone.checked op l work).outcome = (c.checked op l work).outcome := by
    rw [checkedOutcome, checkedOutcome, check, check, same]
  cases l <;> cases target <;>
    simp only [convert, Answer.map, selectorToXPath, selectorToDict, dictToXPath, dictToSelector,
      xpathToDict, xpathToSelector, same, checkedAlike]

theorem eachAlone (same : alone.settings = c.settings) (target : Format) (ls : List Locator) :
    (c.convertEach target ls).1 = ls.map fun l => (alone.convert l target).outcome := by
  induction ls generalizing c with
  | nil => rfl
  | cons l rest ih =>
    have further := ih (c := (c.convert l target).converter)
      (same.trans (convertSettings c l target).symm)
    rw [List.map_cons, ← further, convertAlike same]
    rfl

theorem batchAlone (same : alone.settings = c.settings) (target : Format) (ls : List Locator) :
    (c.convertBatch ls target).outcome =
      .ok (.ofOutcomes 0 (ls.map fun l => (alone.convert l target).outcome)) := by
  rw [← eachAlone same]
  rfl

theorem batchItemwise (c : Converter) (tally : Tally) (target : Format) (ls : List Locator) :
    let alone : Converter := ⟨c.settings, tally⟩
    ∃ b, (c.convertBatch ls target).outcome = .ok b ∧ b.items.length = ls.length ∧
      (∀ (i : Nat) made, b.items[i]? = some (some made) ↔
        ∃ l, ls[i]? = some l ∧ (alone.convert l target).outcome = .ok made) ∧
      (∀ (i : Nat) fault, (i, fault) ∈ b.failures ↔
        ∃ l, ls[i]? = some l ∧ (alone.convert l target).outcome = .error fault) ∧
      (∀ (i : Nat), b.items[i]? = some none ↔ i ∈ b.failures.map Prod.fst) ∧
      (b.failures.map Prod.fst).Pairwise (· < ·) ∧
      b.succeeded + b.failed = ls.length ∧
      ∀ more, ∃ further whole, (alone.convertBatch more target).outcome = .ok further ∧
        (c.convertBatch (ls ++ more) target).outcome = .ok whole ∧
        whole.items = b.items ++ further.items ∧
        whole.failures =
          b.failures ++ further.failures.map fun (i, fault) => (ls.length + i, fault) := by
  intro alone
  have batch (c : Converter) (same : alone.settings = c.settings) := batchAlone same target
  refine ⟨_, batch c rfl ls, ?_, fun i made => ?_, fun i fault => ?_, fun i => itemEmpty,
    failuresIncreasing 0 _, ?_, fun more => ?_⟩
  · rw [itemsOfOutcomes, List.length_map, List.length_map]
  · rw [itemMade, List.getElem?_map, Option.map_eq_some_iff]
  · simp [failureIff]
  · obtain ⟨b, outcome, whole, _⟩ := batchCounted c ls target
    rw [batch c rfl] at outcome
    rw [Except.ok.inj outcome]
    exact whole
  · obtain ⟨items, failures⟩ := batchAppended
      (ls.map fun l => (alone.convert l target).outcome)
      (more.map fun l => (alone.convert l target).outcome)
    rw [← List.map_append] at items failures
    rw [List.length_map] at failures
    exact ⟨_, _, batch alone rfl more, batch c rfl (ls ++ more), items, failures⟩

end Converter

end ElementLocator
