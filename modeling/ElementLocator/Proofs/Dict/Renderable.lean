import ElementLocator.Proofs.Dict.Rendering
import ElementLocator.Proofs.Dict.Selector
/-! Which dictionaries can be written as XPath and which as selectors: the same ones. -/
namespace ElementLocator.Dict

variable {settings : Settings} {depth : Nat} {a : Attribute} {v : Value} {d : Dict}

theorem plainOfArgument {arg : Arg} (h : a.argument v = .ok arg) : Plain (a, v) := by
  unfold Attribute.argument at h
  split at h
  · rename_i kind
    exact plainStr.mpr kind
  · rename_i kind
    exact plainBool.mpr kind
  · rename_i kind
    exact plainInt.mpr kind
  · cases h

theorem selectorWalks : Walks settings (selectorAt settings) (callsOfEntries settings) where
  enter depth es := by
    rw [selectorAt]
    exact alikeBind (sameFaultRefl _) fun _ _ _ => sameFaultMade _ _
  stop depth := ⟨[], by rw [callsOfEntries]⟩
  plain depth a v es plain := by
    rw [callsPlain (plainIff.mp plain).2, argumentOfPlain plain, okBind]
    exact sameFaultMade _ _
  nested depth a d es hierarchical := by
    rw [callsOfEntries, if_pos hierarchical]
    cases selectorAt settings (depth + 1) d with
    | error fault => exact .error fault
    | ok s => exact sameFaultMade _ _
  fits depth a v es calls h := by
    cases flat : v.nested? with
    | none =>
      rw [callsPlain flat] at h
      obtain ⟨arg, written, _⟩ := bindOk.mp h
      exact (plainOfArgument written).1
    | some d =>
      cases v with
      | nested d =>
        rw [callsOfEntries] at h
        split at h
        · rename_i hierarchical
          exact hierarchical
        · obtain ⟨arg, written, _⟩ := bindOk.mp h
          exact absurd (plainOfArgument written) plainNested
      | _ => cases flat

theorem xpathOk : (∃ x, d.xpath settings = .ok x) ↔ ∃ more, d.xpathFrom settings 1 = .ok more :=
  sameFaultOk (sameFaultMade _ _)

theorem xpathIff :
    (∃ x, d.xpath settings = .ok x) ↔ d.Everywhere Typed ∧ d.depth ≤ settings.maxDepth := by
  rw [xpathOk]
  exact walkedOk xpathWalks

/-- A dictionary can be written as XPath exactly if it can be written as a selector: if every value
fits its attribute and the nesting is within the limit. With values that fit, a dictionary that
is too deep is refused both times for the first depth beyond the limit. -/
theorem renderedAlike (settings : Settings) (d : Dict) :
    ((∃ x, d.xpath settings = .ok x) ↔ d.Everywhere Typed ∧ d.depth ≤ settings.maxDepth) ∧
    ((∃ s, d.selector settings = .ok s) ↔ d.Everywhere Typed ∧ d.depth ≤ settings.maxDepth) ∧
    (d.Everywhere Typed → settings.maxDepth < d.depth →
      let tooDeep : Fault := .conversion (.tooDeep (settings.maxDepth + 1) settings.maxDepth)
      d.xpath settings = .error tooDeep ∧ d.selector settings = .error tooDeep) := by
  refine ⟨xpathIff, walkedOk selectorWalks, ?_⟩
  intro typed deep
  have refused := walkedTooDeep xpathWalks typed deep
  exact ⟨sameFaultError (sameFaultMade _ _) refused, walkedTooDeep selectorWalks typed deep⟩

theorem parentRunRefused :
    let settings : Settings := { Settings.standard with maxDepth := 2 }
    let run : Dict := .mk [
      (.fromParent, .nested (.mk [(.fromParent, .nested .empty)])),
      (.text, .str "a")]
    let mistyped : Dict := .mk [(.fromParent, .nested (.mk [(.fromParent, .int 1)]))]
    run.Everywhere Typed ∧ settings.maxDepth < run.depth ∧
      run.xpath settings = .error (.conversion (.tooDeep 3 2)) ∧
      run.selector settings = .error (.conversion (.tooDeep 3 2)) ∧
      (∃ x, run.xpath .standard = .ok x) ∧ (∃ s, run.selector .standard = .ok s) ∧
      (¬ ∃ x, mistyped.xpath settings = .ok x) ∧ ¬ ∃ s, mistyped.selector settings = .ok s := by
  intro settings run mistyped
  have typed : run.Everywhere Typed :=
    ⟨by decide, ⟨by decide, ⟨by decide, trivial⟩, trivial⟩, trivial⟩
  have deep : settings.maxDepth < run.depth := by decide
  have misfit : ¬ mistyped.Everywhere Typed := by
    rintro ⟨_, ⟨level, _⟩, _⟩
    exact absurd (level (.fromParent, .int 1) (by simp)) (by decide)
  obtain ⟨_, _, refused⟩ := renderedAlike settings run
  obtain ⟨asXPath, asSelector, _⟩ := renderedAlike .standard run
  obtain ⟨noXPath, noSelector, _⟩ := renderedAlike settings mistyped
  exact ⟨typed, deep, (refused typed deep).1, (refused typed deep).2,
    asXPath.mpr ⟨typed, by decide⟩, asSelector.mpr ⟨typed, by decide⟩,
    fun written => misfit (noXPath.mp written).1,
    fun written => misfit (noSelector.mp written).1⟩

end ElementLocator.Dict
