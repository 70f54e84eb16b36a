import ElementLocator.Proofs.Dict.Rendering
import ElementLocator.Proofs.Selector.Rendering
import ElementLocator.XPath.Check
/-! Which of the rendered XPaths the grammar and the check accept. -/
namespace ElementLocator.XPath

variable {settings : Settings} {fs : List Fragment} {more : String}

theorem writtenAccepted (h : Writes fs more) :
    ((∃ e, parse ("//*" ++ more) = .ok e) ↔ attached fs = true) ∧
      (problems ("//*" ++ more) = [] ↔ attached fs = true) := by
  rw [writesSource h]
  exact sourceAccepted h.fits

theorem renderedAccepted :
    (∀ (s : Selector) (x : String), (s.xpath settings "//*").outcome = .ok x →
      ((∃ e, parse x = .ok e) ↔ attached s.fragments = true) ∧
        (problems x = [] ↔ attached s.fragments = true)) ∧
    ∀ (d : Dict) (x : String), d.xpath settings = .ok x →
      ((∃ e, parse x = .ok e) ↔ attached d.fragments = true) ∧
        (problems x = [] ↔ attached d.fragments = true) := by
  constructor
  · intro s x rendered
    obtain ⟨more, rfl, written⟩ := Selector.xpathWritten rendered
    exact writtenAccepted written
  · intro d x rendered
    obtain ⟨more, rfl, written⟩ := Dict.xpathWritten rendered
    exact writtenAccepted written

theorem unknownParentAccepted :
    let s : Selector := .mk [
      .mk "fromParent" [.nested (.mk [.mk "bogus" []])],
      .mk "checked" []]
    let d : Dict := .mk [
      (.sibling, .nested (.mk [
        (.fromParent, .nested (.mk [])),
        (.childSelector, .nested (.mk []))])),
      (.fromParent, .nested (.mk [(.fromParent, .nested (.mk []))])),
      (.checked, .bool true)]
    (s.xpath .standard "//*").outcome = .ok "//*/..//*[@checked=\"true\"]" ∧
      (∃ e, parse "//*/..//*[@checked=\"true\"]" = .ok e) ∧
      problems "//*/..//*[@checked=\"true\"]" = [] ∧
      d.xpath .standard = .ok "//*/following-sibling::*/../*/../..[@checked=\"true\"]" ∧
      problems "//*/following-sibling::*/../*/../..[@checked=\"true\"]" ≠ [] := by
  intro s d
  have ofSelector : (s.xpath .standard "//*").outcome = .ok "//*/..//*[@checked=\"true\"]" := by rfl
  have ofDict : d.xpath .standard =
      .ok "//*/following-sibling::*/../*/../..[@checked=\"true\"]" := by rfl
  have attaches : attached s.fragments = true := by decide
  have loose : attached d.fragments = false := by decide
  obtain ⟨parses, passes⟩ := renderedAccepted.1 s _ ofSelector
  obtain ⟨_, refused⟩ := renderedAccepted.2 d _ ofDict
  refine ⟨ofSelector, parses.mpr attaches, passes.mpr attaches, ofDict, ?_⟩
  rw [ne_eq, refused, loose]
  decide

theorem parentTextRefused :
    let d : Dict := .mk [(.fromParent, .nested (.mk [])), (.text, .str "A")]
    d.xpath .standard = .ok "//*/..[@text=\"A\"]" ∧
      (¬ ∃ e, parse "//*/..[@text=\"A\"]" = .ok e) ∧ problems "//*/..[@text=\"A\"]" ≠ [] := by
  intro d
  have rendered : d.xpath .standard = .ok "//*/..[@text=\"A\"]" := by rfl
  have loose : attached d.fragments = false := by decide
  obtain ⟨more, same, written⟩ := Dict.xpathWritten rendered
  obtain ⟨parses, passes⟩ := writtenAccepted written
  rw [← same, loose] at parses passes
  exact ⟨rendered, by simp [parses], by simp [passes]⟩

end ElementLocator.XPath
