import ElementLocator.Converter
import ElementLocator.Proofs.Selector.Validity
import ElementLocator.Proofs.XPath.Tidy
/-! Which format a source is taken for, against the format it is valid in. Detection looks at the
characters that a source begins with, the check of a selector at its tokens, so the two part ways
over the white space that may stand before and between the words of a constructor. -/
namespace ElementLocator.Locator
open ElementLocator.Text
open ElementLocator.Selector (Splits unwrapped wordKind isNamePart)

variable {cs g h rest : List Char} {source : String} {here : Nat} {t : Selector.Token}
  {ts : List Selector.Token}

theorem splitsWord (found : Splits here cs (t :: ts))
    (word : t.kind = .new ∨ t.kind = .uiSelector) :
    ∃ g w rest there, cs = g ++ (w ++ rest) ∧ (∀ c ∈ g, isBlank c = true) ∧ wordKind w = t.kind ∧
      Stops isNamePart rest ∧ Splits there rest ts := by
  generalize same : t :: ts = us at found
  induction found with
  | ending => cases same; simp at word
  | blank blank _ ih =>
    obtain ⟨g, w, rest, there, rfl, blanks, kind, stop, more⟩ := ih same
    exact ⟨_ :: g, w, rest, there, rfl, List.forall_mem_cons.mpr ⟨blank, blanks⟩, kind, stop, more⟩
  | string => cases same; simp at word
  | number => cases same; simp at word
  | word first parts stop more =>
    cases same
    exact ⟨[], _, _, _, rfl, by simp, rfl, stop, more⟩
  | mark mark =>
    cases same
    rcases Selector.markKinds mark with ⟨_, rfl⟩ | ⟨_, rfl⟩ | ⟨_, rfl⟩ | ⟨_, rfl⟩ <;> simp at word

structure Layout (source : String) (front between rest : List Char) : Prop where
  text : unwrapped source.toList =
    front ++ ("new".toList ++ (between ++ ("UiSelector".toList ++ rest)))
  blank : ∀ c ∈ front ++ between, isBlank c = true
  apart : between ≠ []

theorem constructorLayout (constructed : Selector.Constructed source) :
    ∃ front between rest, Layout source front between rest := by
  obtain ⟨ts, found, kinds⟩ := constructed
  rw [Selector.tokens, Selector.unwrap, String.toList_ofList] at found
  obtain _ | ⟨new, _ | ⟨word, ts⟩⟩ := ts
  · simp at kinds
  · simp at kinds
  · simp only [List.take_succ_cons, List.map_cons, List.cons.injEq] at kinds
    obtain ⟨front, w, _, _, text, before, first, stop, more⟩ :=
      splitsWord (Selector.splits found) (Or.inl kinds.1)
    obtain ⟨between, v, rest, _, rfl, within, second, _⟩ := splitsWord more (Or.inr kinds.2.1)
    have isNew : Selector.Word w .new := by
      rw [← first.trans kinds.1]
      exact Selector.wordOf w
    have isUiSelector : Selector.Word v .uiSelector := by
      rw [← second.trans kinds.2.1]
      exact Selector.wordOf v
    cases isNew with
    | new is =>
      subst is
      cases isUiSelector with
      | uiSelector is =>
        subst is
        refine ⟨front, between, rest, text, List.forall_mem_append.mpr ⟨before, within⟩, ?_⟩
        rintro rfl
        exact absurd (stopsHead stop) (by decide)

theorem beginsIff {front between : List Char} (layout : Layout source front between rest) :
    ("new UiSelector".toList).isPrefixOf (unwrapped source.toList) = true ↔
      front = [] ∧ between = [' '] := by
  have parts : "new UiSelector".toList = "new".toList ++ ' ' :: "UiSelector".toList := by decide
  rw [List.isPrefixOf_iff_prefix, layout.text, parts]
  constructor
  · intro start
    cases front with
    | cons c front =>
      have first : 'n' = c := (List.cons_prefix_cons.mp start).1
      subst first
      exact absurd (layout.blank 'n' (by simp)) (by decide)
    | nil =>
      have behind : ' ' :: "UiSelector".toList <+: between ++ ("UiSelector".toList ++ rest) :=
        (List.prefix_append_right_inj "new".toList).mp start
      cases between with
      | nil => exact absurd rfl layout.apart
      | cons c between =>
        obtain ⟨rfl, word⟩ := List.cons_prefix_cons.mp behind
        cases between with
        | nil => exact ⟨rfl, rfl⟩
        | cons d between =>
          have second : 'U' = d := (List.cons_prefix_cons.mp word).1
          subst second
          exact absurd (layout.blank 'U' (by simp)) (by decide)
  · rintro ⟨rfl, rfl⟩
    exact ⟨rest, by simp⟩

theorem strokesDetected (start : XPath.startsWithStrokes source.toList = true) :
    detectSource source = .xpath source := by
  obtain ⟨more, begins⟩ := List.isPrefixOf_iff_prefix.mp start
  obtain ⟨b, split, blanks⟩ := Selector.trimEndSplit (trimStart source.toList)
  have trimmed : ∃ rest, trim source.toList = '/' :: rest := by
    rw [← trim, ← begins] at split
    cases kept : trim source.toList with
    | nil =>
      rw [kept, List.nil_append] at split
      exact absurd (blanks '/' (by simp [← split])) (by decide)
    | cons c rest =>
      rw [kept] at split
      exact ⟨rest, by rw [← (List.cons.inj split).1]⟩
  obtain ⟨rest, trimmed⟩ := trimmed
  rw [detectSource, unwrapped, trimmed]
  rfl

theorem validConstructed (valid : Selector.problems source = []) :
    Selector.Constructed source := by
  obtain ⟨constructed, _, grammar⟩ := Selector.problemsEmpty.mp valid
  obtain ⟨s, again, _⟩ := Selector.grammarProblemsEmpty.mp grammar
  obtain ⟨ts, ending, found, _⟩ :=
    Selector.tokensOfParsed ((Selector.parsedAgain constructed s).mp again)
  exact (Selector.constructedIff found).mp constructed

theorem validStrokes (valid : XPath.problems source = []) :
    XPath.startsWithStrokes source.toList = true := by
  cases start : XPath.startsWithStrokes source.toList with
  | true => rfl
  | false =>
    rw [XPath.problems] at valid
    split at valid
    · rename_i none
      simp [XPath.scanProblems, start] at none
    · rename_i found some
      exact absurd valid some

variable {α β : Type}

theorem mapBack {f : α → β} {g : β → α} (back : ∀ x, g (f x) = x) (a : Answer α) :
    (a.map f).map g = a := by
  obtain ⟨outcome, c, log⟩ := a
  cases outcome with
  | error fault => rfl
  | ok x => simp [Answer.map, Except.map, back]

theorem sourceBack {f : String → Locator} (back : ∀ s, (f s).source? = some s) (c : Converter)
    (v : Json.Value) (target : Format) (a : Answer String)
    (converted : c.convert (.detect v) target = a.map f) : c.toSource v target = a := by
  obtain ⟨outcome, later, log⟩ := a
  rw [Converter.toSource, converted]
  cases outcome with
  | error fault => rfl
  | ok x => simp [Answer.map, Except.map, back]

theorem xpathRouted (detected : detectSource source = .xpath source) (c : Converter) :
    c.toDict (.str source) = c.xpathToDict source ∧
      c.toSelector (.str source) = c.xpathToSelector source := by
  have found : detect (.str source) = .xpath source := detected
  constructor
  · rw [Converter.toDict, found]
    exact mapBack (fun _ => rfl) _
  · exact sourceBack (fun _ => rfl) c _ _ _ (by rw [found]; rfl)

theorem selectorRouted (detected : detectSource source = .uiSelector source) (c : Converter) :
    c.toDict (.str source) = c.selectorToDict source ∧
      c.toXPath (.str source) = c.selectorToXPath source := by
  have found : detect (.str source) = .uiSelector source := detected
  constructor
  · rw [Converter.toDict, found]
    exact mapBack (fun _ => rfl) _
  · exact sourceBack (fun _ => rfl) c _ _ _ (by rw [found]; rfl)

/-- A valid XPath is taken for one and goes to the conversions from XPath. A valid selector begins
with the two words of its constructor and white space before and between them. Exactly if nothing
stands before the first and one space between the two, it is taken for a selector and goes to the
conversions from selectors. -/
theorem detectedByLayout (source : String) :
    (XPath.problems source = [] → detectSource source = .xpath source ∧ ∀ c : Converter,
      c.toDict (.str source) = c.xpathToDict source ∧
        c.toSelector (.str source) = c.xpathToSelector source) ∧
    (Selector.problems source = [] → ∃ front between rest, Layout source front between rest ∧
      if front = [] ∧ between = [' '] then
        detectSource source = .uiSelector source ∧ ∀ c : Converter,
          c.toDict (.str source) = c.selectorToDict source ∧
            c.toXPath (.str source) = c.selectorToXPath source
      else detectSource source = .xpath source) := by
  constructor
  · intro valid
    have detected := strokesDetected (validStrokes valid)
    exact ⟨detected, xpathRouted detected⟩
  · intro valid
    obtain ⟨front, between, rest, layout⟩ := constructorLayout (validConstructed valid)
    refine ⟨front, between, rest, layout, ?_⟩
    split
    · rename_i tight
      have detected : detectSource source = .uiSelector source := by
        rw [detectSource, if_pos ((beginsIff layout).mpr tight)]
      exact ⟨detected, selectorRouted detected⟩
    · rename_i loose
      rw [detectSource, if_neg (mt (beginsIff layout).mp loose)]

/- Two sources, and how to judge them part by part. -/

theorem validParts {s : Selector} (parsed : Selector.parse (Selector.unwrap source) = .ok s)
    (known : ∀ name ∈ s.names, (Attribute.ofMethod? name).isSome = true)
    (constructed : Selector.hasConstructor (unwrapped source.toList) = true)
    (closed : Selector.balance (unwrapped source.toList) = ⟨0, false⟩) :
    Selector.problems source = [] := by
  have grammar := Selector.grammarProblemsEmpty.mpr ⟨s, parsed, known⟩
  exact Selector.problemsEmpty.mpr ⟨constructed, by rw [closed]; rfl, grammar⟩

theorem quotedSelectorDetected :
    let path := " //*[@text=\"new UiSelector()\"]"
    let selector := " 'new UiSelector\n().text(\"//*\");' "
    XPath.problems path = [] ∧ Converter.toDict (.ofSettings .standard) (.str path) =
        Converter.xpathToDict (.ofSettings .standard) path ∧
      Selector.problems selector = [] ∧ Converter.toDict (.ofSettings .standard) (.str selector) =
        Converter.selectorToDict (.ofSettings .standard) selector := by
  intro path selector
  have readPath : XPath.parse path = .ok (.absolute true (.step none .any [.binary
      (.step (some .attribute) (.name "text") []) .equal (.literal "new UiSelector()")])) := by
    simp only [path]
    with_unfolding_all rfl
  have quiet : XPath.scanProblems path.toList = [] := by decide +kernel
  have validPath : XPath.problems path = [] := by rw [XPath.parsedProblems readPath, quiet]
  have parsed : Selector.parse (Selector.unwrap selector) =
      .ok (.mk [.mk "text" [.str "//*"]]) := by
    simp only [selector]
    with_unfolding_all rfl
  have validSelector : Selector.problems selector = [] :=
    validParts parsed (by decide) (by decide +kernel) (by decide +kernel)
  obtain ⟨_, fromPath⟩ := (detectedByLayout path).1 validPath
  obtain ⟨front, between, rest, layout, fromSelector⟩ := (detectedByLayout selector).2 validSelector
  have tight := (beginsIff layout).mp (by decide +kernel)
  rw [if_pos tight] at fromSelector
  exact ⟨validPath, (fromPath _).1, validSelector, (fromSelector.2 _).1⟩

theorem looseConstructorMissed :
    let wide := "new  UiSelector().checked();"
    let quoted := "' new UiSelector().checked();'"
    Selector.problems wide = [] ∧ detectSource wide = .xpath wide ∧
      Selector.problems quoted = [] ∧ detectSource quoted = .xpath quoted := by
  intro wide quoted
  have parsedWide : Selector.parse (Selector.unwrap wide) = .ok (.mk [.mk "checked" []]) := by
    simp only [wide]
    with_unfolding_all rfl
  have parsedQuoted : Selector.parse (Selector.unwrap quoted) = .ok (.mk [.mk "checked" []]) := by
    simp only [quoted]
    with_unfolding_all rfl
  have missedWide : ("new UiSelector".toList).isPrefixOf (unwrapped wide.toList) = false := by
    decide +kernel
  have missedQuoted : ("new UiSelector".toList).isPrefixOf (unwrapped quoted.toList) = false := by
    decide +kernel
  refine ⟨validParts parsedWide (by decide) (by decide +kernel) (by decide +kernel), ?_,
    validParts parsedQuoted (by decide) (by decide +kernel) (by decide +kernel), ?_⟩
  · simp only [detectSource, missedWide, Bool.false_eq_true, if_false]
  · simp only [detectSource, missedQuoted, Bool.false_eq_true, if_false]

end ElementLocator.Locator
