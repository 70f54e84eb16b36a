import Mathlib.Data.List.Forall2
import ElementLocator.Proofs.Dict.Lookup
import ElementLocator.Proofs.Dict.OfPath
import ElementLocator.Proofs.XPath.Statement
/-! Where the location steps of a path are in its dictionary, and what of them is kept there. -/
namespace ElementLocator.XPath

def Expr.locations : Expr → List Element
  | .absolute _ relative => relative.locations
  | .binary left _ right => left.locations ++ right.locations
  | .step axis test predicates => [⟨axis, test, predicates⟩]
  | .parent => [⟨some .parent, .kind .node, []⟩]
  | .current => [⟨some .self, .kind .node, []⟩]
  | _ => []

inductive Move where
  | stay
  | up
  | element
  deriving DecidableEq

def Element.move (s : Element) : Move :=
  if takesAny s.test s.predicates then
    match s.axis with
    | some .parent => .up
    | some .self | some .descendantOrSelf => .stay
    | _ => .element
  else .element

structure Place where
  key : Option Attribute
  level : Dict

def Place.inside (p : Place) (a : Attribute) : Option Place :=
  ((p.level.get? a).bind Value.nested?).map (Place.mk (some a))

def Place.next (p : Place) : Option Place := (p.inside .sibling).or (p.inside .childSelector)

/-- Each location step with the place that it comes to. A step to the parent goes inward; a step to
an element stays if it comes first or follows one to the parent, since nothing `occupies` that level
yet, and else goes inward too. -/
def placed (occupied : Bool) (here : Option Place) : List Element → List (Element × Option Place)
  | [] => []
  | s :: rest =>
      match s.move with
      | .stay => (s, here) :: placed occupied here rest
      | .up =>
          let there := here.bind (·.inside .fromParent)
          (s, there) :: placed false there rest
      | .element =>
          let there := if occupied then here.bind Place.next else here
          (s, there) :: placed true there rest

theorem placedLocations (occupied : Bool) (here : Option Place) (ss : List Element) :
    (placed occupied here ss).map Prod.fst = ss := by
  induction ss generalizing occupied here with
  | nil => rfl
  | cons s rest ih =>
    rw [placed]
    split <;> simp [ih]

structure Stated (s : Element) (es : List (Attribute × Value)) : Prop where
  split : ∃ more, es = (match s.test with
    | .name name => [(.className, .str name)]
    | _ => []) ++ more ∧ List.Forall₂ (fun p e => States p e.1 e.2) s.predicates more

def Holds (s : Element) (d : Dict) : Prop :=
  ∃ es, Stated s es ∧ ∀ a, a.isHierarchical = false → d.get? a = (Dict.ofList es).get? a

structure Kept (s : Element) (p : Place) : Prop where
  predicates : ∀ q ∈ s.predicates, ∃ a v, States q a v ∧ p.level.get? a = some v
  name : ∀ name, s.test = .name name → p.level.get? .className = some (.str name)
  sibling : s.axis = some .followingSibling → p.key = some .sibling

def Element.Consistent (s : Element) : Prop :=
  ∀ es, Stated s es → ∀ e ∈ es, ∀ f ∈ es, e.1 = f.1 → e.2 = f.2

def Attached (occupied : Bool) : List Element → Prop
  | [] => True
  | s :: rest =>
      match s.move with
      | .stay => Attached occupied rest
      | .up => Attached false rest
      | .element => (s.axis = some .followingSibling → occupied = true) ∧ Attached true rest

inductive Lists : List Element → List PathStep → Prop where
  | nil : Lists [] []
  | cons {s : Element} {ss : List Element} {now more : List PathStep}
      (first : pathStep s.axis s.test s.predicates = .ok now) (rest : Lists ss more) :
      Lists (s :: ss) (now ++ more)

variable {settings : Settings} {s : Element} {ss : List Element} {d inner : Dict} {p : Place}
  {now steps rest : List PathStep} {pending ps : List Expr} {es fs : List (Attribute × Value)}
  {inRun occupied : Bool} {depth : Nat} {a : Attribute}

theorem listed (h : listing pending = .ok steps) :
    Lists (pending.flatMap Expr.locations) steps := by
  fun_induction listing pending generalizing steps with
  | case1 =>
    cases h
    exact .nil
  | case2 descendant relative pending ih => simpa [Expr.locations] using ih h
  | case3 => cases h
  | case4 pending ih =>
    obtain ⟨more, found, rfl⟩ := mapOk.mp h
    exact .cons (s := ⟨some .parent, .kind .node, []⟩) rfl (ih found)
  | case5 pending ih =>
    have first : pathStep (some .self) (.kind .node) [] = .ok [] := rfl
    exact .cons (s := ⟨some .self, .kind .node, []⟩) first (ih h)
  | case6 => cases h
  | case7 axis test predicates pending now first ih =>
    obtain ⟨more, found, rfl⟩ := mapOk.mp h
    exact .cons (s := ⟨axis, test, predicates⟩) first (ih found)
  | case8 left op right pending isPath ih => simpa [Expr.locations] using ih h
  | case9 => cases h
  | case10 => cases h

theorem quiet (h : takesAny s.test s.predicates = true) :
    s.predicates = [] ∧ ∀ name, s.test ≠ .name name := by
  simp only [takesAny, Bool.and_eq_true, List.isEmpty_iff, Bool.or_eq_true, decide_eq_true_eq] at h
  refine ⟨h.1, ?_⟩
  rintro name named
  rw [named] at h
  simp at h

theorem moves (h : pathStep s.axis s.test s.predicates = .ok now) :
    (s.move = .stay ∧ now = [] ∨ s.move = .up ∧ now = [.parent]) ∧
        takesAny s.test s.predicates = true ∧ s.axis ≠ some .followingSibling ∨
      s.move = .element ∧ now = [.element s] := by
  obtain ⟨axis, test, predicates⟩ := s
  unfold pathStep at h
  unfold Element.move
  simp only at h ⊢
  cases any : takesAny test predicates
  · cases axis with
    | none => simp_all
    | some axis => cases axis <;> simp_all
  · cases axis with
    | none => simp_all
    | some axis => cases axis <;> simp_all

/- What one step to an element leaves in its level. -/

theorem entriesGiven (h : entriesOf d ps = .ok inner) :
    ∃ es, List.Forall₂ (fun p e => States p e.1 e.2) ps es ∧
      inner = es.foldl (fun d (a, v) => d.insert a v) d := by
  induction ps generalizing d with
  | nil =>
    rw [entriesOf] at h
    cases h
    exact ⟨[], .nil, rfl⟩
  | cons p rest ih =>
    rw [entriesOf] at h
    obtain ⟨⟨a, v⟩, entry, h⟩ := bindOk.mp h
    obtain ⟨es, states, rfl⟩ := ih h
    exact ⟨(a, v) :: es, .cons (statesIff.mp entry) states, rfl⟩

theorem elementStated (h : ofElement s = .ok d) : ∃ es, Stated s es ∧ d = Dict.ofList es := by
  rw [ofElement] at h
  split at h
  · rename_i test
    obtain ⟨es, states, rfl⟩ := entriesGiven h
    exact ⟨es, ⟨es, by rw [test]; rfl, states⟩, rfl⟩
  · rename_i test
    obtain ⟨es, states, rfl⟩ := entriesGiven h
    exact ⟨es, ⟨es, by rw [test]; rfl, states⟩, rfl⟩
  · rename_i name test
    obtain ⟨es, states, rfl⟩ := entriesGiven h
    exact ⟨(.className, .str name) :: es, ⟨es, by rw [test]; rfl, states⟩, rfl⟩
  · cases h

theorem statedOnce (one : Stated s es) (other : Stated s fs) : es = fs := by
  obtain ⟨more, rfl, states⟩ := one
  obtain ⟨others, rfl, same⟩ := other
  congr 1
  generalize s.predicates = ps at states same
  induction states generalizing others with
  | nil =>
    cases same
    rfl
  | cons first _ ih =>
    cases same with
    | cons again rest => rw [Prod.ext_iff.mpr (statesOnce first again), ih _ rest]

theorem partners {α β : Type} {R : α → β → Prop} {xs : List α} {ys : List β}
    (h : List.Forall₂ R xs ys) : (∀ x ∈ xs, ∃ y ∈ ys, R x y) ∧ ∀ y ∈ ys, ∃ x ∈ xs, R x y := by
  induction h with
  | nil => simp
  | cons first _ ih =>
    refine ⟨List.forall_mem_cons.mpr ⟨⟨_, by simp, first⟩, ?_⟩,
      List.forall_mem_cons.mpr ⟨⟨_, by simp, first⟩, ?_⟩⟩
    · intro x member
      obtain ⟨y, there, related⟩ := ih.1 x member
      exact ⟨y, by simp [there], related⟩
    · intro y member
      obtain ⟨x, there, related⟩ := ih.2 y member
      exact ⟨x, by simp [there], related⟩

theorem statedPlain (stated : Stated s es) : ∀ e ∈ es, e.1.isHierarchical = false := by
  obtain ⟨more, rfl, states⟩ := stated
  intro e member
  rcases List.mem_append.mp member with name | member
  · split at name
    · rw [List.mem_singleton.mp name]
      rfl
    · cases name
  · obtain ⟨p, _, states⟩ := (partners states).2 e member
    exact (entryPlain (statesIff.mpr states)).1.2

theorem consistentIff (stated : Stated s es) :
    s.Consistent ↔ ∀ e ∈ es, ∀ f ∈ es, e.1 = f.1 → e.2 = f.2 := by
  refine ⟨fun consistent => consistent es stated, ?_⟩
  intro once fs other
  rwa [← statedOnce stated other]

theorem keptIff (holds : Holds s p.level) :
    Kept s p ↔ s.Consistent ∧ (s.axis = some .followingSibling → p.key = some .sibling) := by
  obtain ⟨es, stated, same⟩ := holds
  have plain := statedPlain stated
  have consistent : s.Consistent ↔ ∀ e ∈ es, p.level.get? e.1 = some e.2 := by
    have found : (∀ e ∈ es, p.level.get? e.1 = some e.2) ↔
        ∀ e ∈ es, (Dict.ofList es).get? e.1 = some e.2 :=
      forall₂_congr fun e member => by rw [same e.1 (plain e member)]
    rw [found, Dict.allFound, consistentIff stated]
  rw [consistent]
  obtain ⟨more, rfl, states⟩ := stated
  constructor
  · rintro ⟨predicates, name, sibling⟩
    refine ⟨?_, sibling⟩
    intro e member
    rcases List.mem_append.mp member with named | said
    · split at named
      · rename_i test
        rw [List.mem_singleton.mp named]
        exact name _ test
      · cases named
    · obtain ⟨q, there, states⟩ := (partners states).2 e said
      obtain ⟨a, v, again, found⟩ := predicates q there
      obtain ⟨rfl, rfl⟩ := statesOnce states again
      exact found
  · rintro ⟨found, sibling⟩
    refine ⟨?_, ?_, sibling⟩
    · intro q there
      obtain ⟨e, said, states⟩ := (partners states).1 q there
      exact ⟨e.1, e.2, states, found e (by simp [said])⟩
    · intro name test
      exact found (.className, .str name) (by simp [test])

def Below (settings : Settings) (d : Dict) : List PathStep → Prop
  | [] => True
  | .parent :: further => ∃ depth inner,
      dictOf settings true depth further = .ok inner ∧ d.get? .fromParent = some (.nested inner)
  | .element s :: further => ∃ depth inner a,
      dictOf settings false depth (.element s :: further) = .ok inner ∧
        d.get? a = some (.nested inner) ∧
          (a = .sibling ∨ a = .childSelector ∧ d.get? .sibling = none) ∧
            (s.axis = some .followingSibling ↔ a = .sibling)

theorem elementPlaced (h : dictOf settings inRun depth (.element s :: rest) = .ok d) :
    Holds s d ∧ Below settings d rest := by
  rw [dictOf] at h
  obtain ⟨_, _, h⟩ := bindOk.mp h
  obtain ⟨start, element, h⟩ := bindOk.mp h
  obtain ⟨es, stated, same⟩ := elementStated element
  obtain ⟨fs, rfl, flat⟩ := Dict.elementFlat element
  have holds (a : Attribute) (inner : Dict) (hierarchical : a.isHierarchical = true) :
      Holds s ((Dict.mk fs).insert a (.nested inner)) := by
    refine ⟨es, stated, ?_⟩
    intro b plain
    rw [Dict.getInsert, if_neg, same]
    rintro rfl
    rw [hierarchical] at plain
    cases plain
  cases rest with
  | nil =>
    cases h
    exact ⟨⟨es, stated, fun a _ => by rw [same]⟩, trivial⟩
  | cons step further =>
    cases step with
    | parent =>
      obtain ⟨inner, found, h⟩ := bindOk.mp h
      cases h
      exact ⟨holds .fromParent inner rfl, _, inner, found, Dict.getInserted _ _ _⟩
    | element next =>
      obtain ⟨inner, found, h⟩ := bindOk.mp h
      cases h
      by_cases sibling : next.axis = some .followingSibling
      · rw [if_pos sibling]
        exact ⟨holds .sibling inner rfl, _, inner, .sibling, found, Dict.getInserted _ _ _,
          Or.inl rfl, by simp [sibling]⟩
      · rw [if_neg sibling]
        refine ⟨holds .childSelector inner rfl, _, inner, .childSelector, found,
          Dict.getInserted _ _ _, Or.inr ⟨rfl, ?_⟩, by simp [sibling]⟩
        rw [Dict.getInsert, if_neg (by decide)]
        exact Dict.getFresh (Dict.flatFresh flat rfl)

theorem parentPlaced (h : dictOf settings inRun depth (.parent :: rest) = .ok d) :
    ∃ depth inner, dictOf settings true depth rest = .ok inner ∧
      d.get? .fromParent = some (.nested inner) := by
  have below : ∀ d, (do
      let inner ← dictOf settings true (depth + 1) rest
      .ok (Dict.empty.insert .fromParent (.nested inner))) = .ok d →
      ∃ depth inner, dictOf settings true depth rest = .ok inner ∧
        d.get? .fromParent = some (.nested inner) := by
    intro d h
    obtain ⟨inner, found, h⟩ := bindOk.mp h
    cases h
    exact ⟨_, inner, found, Dict.getInserted _ _ _⟩
  rw [dictOf] at h
  cases inRun with
  | true => exact below d h
  | false =>
    obtain ⟨_, _, h⟩ := bindOk.mp h
    exact below d h

inductive Continues (settings : Settings) : Bool → Place → List PathStep → Prop where
  | fresh {inRun : Bool} {depth : Nat} {p : Place} {steps : List PathStep}
      (here : dictOf settings inRun depth steps = .ok p.level) (key : p.key ≠ some .sibling) :
      Continues settings false p steps
  | occupied {p : Place} {steps : List PathStep} (below : Below settings p.level steps) :
      Continues settings true p steps

theorem insideOf {inner : Dict} (found : p.level.get? a = some (.nested inner)) :
    p.inside a = some ⟨some a, inner⟩ := by
  simp [Place.inside, found, Value.nested?]

theorem continuesUp (h : Continues settings occupied p (.parent :: rest)) :
    ∃ q, p.inside .fromParent = some q ∧ Continues settings false q rest := by
  obtain ⟨depth, inner, found, get⟩ : ∃ depth inner,
      dictOf settings true depth rest = .ok inner ∧
        p.level.get? .fromParent = some (.nested inner) := by
    cases h with
    | fresh here _ => exact parentPlaced here
    | occupied below => exact below
  exact ⟨⟨some .fromParent, inner⟩, insideOf get, .fresh found (by simp)⟩

theorem continuesElement (h : Continues settings occupied p (.element s :: rest)) :
    ∃ q, (if occupied then p.next else some p) = some q ∧ Holds s q.level ∧
      Continues settings true q rest ∧
        (s.axis = some .followingSibling → (q.key = some .sibling ↔ occupied = true)) := by
  cases h with
  | fresh here key =>
    obtain ⟨holds, below⟩ := elementPlaced here
    exact ⟨p, rfl, holds, .occupied below, fun _ => by simp [key]⟩
  | occupied below =>
    obtain ⟨depth, inner, a, found, get, only, axis⟩ := below
    obtain ⟨holds, further⟩ := elementPlaced found
    refine ⟨⟨some a, inner⟩, ?_, holds, .occupied further, fun sibling => by simp [axis.mp sibling]⟩
    rw [if_pos rfl, Place.next]
    rcases only with rfl | ⟨rfl, none⟩
    · rw [insideOf get]
      rfl
    · rw [insideOf get]
      simp [Place.inside, none]

theorem keptQuiet (any : takesAny s.test s.predicates = true)
    (axis : s.axis ≠ some .followingSibling) (p : Place) : Kept s p ∧ s.Consistent := by
  obtain ⟨empty, noName⟩ := quiet any
  refine ⟨⟨by simp [empty], fun name test => absurd test (noName name), fun h => absurd h axis⟩, ?_⟩
  rintro es ⟨more, rfl, states⟩
  rw [empty] at states
  cases states
  split
  · rename_i name test
    exact absurd test (noName name)
  · simp

structure Accounted (occupied : Bool) (p : Place) (ss : List Element) : Prop where
  reached : ∀ x ∈ placed occupied (some p) ss,
    ∃ q, x.2 = some q ∧ (x.1.move = .element → Holds x.1 q.level)
  kept : (∀ x ∈ placed occupied (some p) ss, ∃ q, x.2 = some q ∧ Kept x.1 q) ↔
    (∀ s ∈ ss, s.Consistent) ∧ Attached occupied ss

theorem accountedCons {next : Bool} {q : Place} {allowed : Prop}
    (there : placed occupied (some p) (s :: ss) = (s, some q) :: placed next (some q) ss)
    (attached : Attached occupied (s :: ss) ↔ allowed ∧ Attached next ss)
    (holds : s.move = .element → Holds s q.level) (kept : Kept s q ↔ s.Consistent ∧ allowed)
    (further : Accounted next q ss) : Accounted occupied p (s :: ss) where
  reached := by
    rw [there]
    exact List.forall_mem_cons.mpr ⟨⟨q, rfl, holds⟩, further.reached⟩
  kept := by
    rw [there, attached]
    simp only [List.forall_mem_cons, Option.some.injEq, exists_eq_left', kept, further.kept]
    exact and_and_and_comm

theorem accounted (lists : Lists ss steps) (h : Continues settings occupied p steps) :
    Accounted occupied p ss := by
  induction lists generalizing occupied p with
  | nil => exact ⟨by simp [placed], by simp [placed, Attached]⟩
  | @cons s ss now more first rest ih =>
    rcases moves first with ⟨⟨move, rfl⟩ | ⟨move, rfl⟩, any, axis⟩ | ⟨move, rfl⟩
    · have attached : Attached occupied (s :: ss) ↔ True ∧ Attached occupied ss := by
        rw [Attached, move, true_and]
      refine accountedCons ?_ attached (by simp [move]) (by simp [keptQuiet any axis p]) (ih h)
      rw [placed, move]
    · obtain ⟨q, inside, further⟩ := continuesUp h
      have attached : Attached occupied (s :: ss) ↔ True ∧ Attached false ss := by
        rw [Attached, move, true_and]
      refine accountedCons ?_ attached (by simp [move]) (by simp [keptQuiet any axis q])
        (ih further)
      rw [placed, move]
      simp only [Option.bind_some, inside]
    · obtain ⟨q, next, holds, further, key⟩ := continuesElement h
      have attached : Attached occupied (s :: ss) ↔
          (s.axis = some .followingSibling → occupied = true) ∧ Attached true ss := by
        rw [Attached, move]
      refine accountedCons ?_ attached (fun _ => holds) ?_ (ih further)
      · rw [placed, move]
        simp only [Option.bind_some, next]
      · rw [keptIff holds, imp_congr_right key]

/-- Every location step of a path that is converted comes to a level of the dictionary, and one to
an element to a level that holds what the step states. Nothing that the steps say is lost exactly if no
step states an attribute with two values and every step to a following sibling comes directly after
a step to an element. -/
theorem keptExactly {source : String} (converts : (do
      let e ← Expr.ofSource source
      e.dict settings) = .ok d) :
    ∃ e, Expr.ofSource source = .ok e ∧
      (∀ x ∈ placed false (some ⟨none, d⟩) e.locations,
        ∃ p, x.2 = some p ∧ (x.1.move = .element → Holds x.1 p.level)) ∧
      ((∀ x ∈ placed false (some ⟨none, d⟩) e.locations, ∃ p, x.2 = some p ∧ Kept x.1 p) ↔
        (∀ s ∈ e.locations, s.Consistent) ∧ Attached false e.locations) := by
  obtain ⟨e, read, converts⟩ := bindOk.mp converts
  obtain ⟨steps, listing, converts⟩ := bindOk.mp converts
  have lists := listed listing
  rw [List.flatMap_singleton] at lists
  have start : Continues settings false ⟨none, d⟩ steps := .fresh converts (by simp)
  obtain ⟨reached, kept⟩ := accounted lists start
  exact ⟨e, read, reached, kept⟩

def textIs (s : String) : Expr :=
  .binary (.step (some .attribute) (.name "text") []) .equal (.literal s)

theorem textStates (s : String) : States (textIs s) .text (.str s) :=
  .compared rfl rfl rfl rfl ⟨rfl, rfl⟩

theorem siblingOfParentKept :
    let source := "//Button[@text=\"A\"]/./following-sibling::*[@text=\"B\"]/.."
    ∃ e d, Expr.ofSource source = .ok e ∧ e.dict .standard = .ok d ∧
      ∀ x ∈ placed false (some ⟨none, d⟩) e.locations, ∃ p, x.2 = some p ∧ Kept x.1 p := by
  intro source
  let first : Element := ⟨none, .name "Button", [textIs "A"]⟩
  let second : Element := ⟨some .followingSibling, .any, [textIs "B"]⟩
  let e : Expr := .absolute true (.binary (.binary (.binary
    (.step first.axis first.test first.predicates) .path .current) .path
    (.step second.axis second.test second.predicates)) .path .parent)
  let d : Dict := .mk [
    (.className, .str "Button"),
    (.text, .str "A"),
    (.sibling, .nested (.mk [(.text, .str "B"), (.fromParent, .nested (.mk []))]))]
  have read : Expr.ofSource source = .ok e := by
    simp only [source, e, first, second]
    with_unfolding_all rfl
  have converts : e.dict .standard = .ok d := by with_unfolding_all rfl
  have whole : (do
      let e ← Expr.ofSource source
      e.dict .standard) = .ok d := by
    rw [read]
    exact converts
  obtain ⟨_, again, _, kept⟩ := keptExactly whole
  rw [read] at again
  cases again
  have one : Stated first [(.className, .str "Button"), (.text, .str "A")] :=
    ⟨_, rfl, .cons (textStates "A") .nil⟩
  have other : Stated second [(.text, .str "B")] := ⟨_, rfl, .cons (textStates "B") .nil⟩
  have here : e.locations =
      [first, ⟨some .self, .kind .node, []⟩, second, ⟨some .parent, .kind .node, []⟩] := rfl
  have consistent : ∀ s ∈ e.locations, s.Consistent := by
    simp only [here, List.forall_mem_cons]
    have quiet (axis : Axis) (other : axis ≠ .followingSibling) :
        Element.Consistent ⟨some axis, .kind .node, []⟩ :=
      (keptQuiet rfl (by simpa using other) ⟨none, d⟩).2
    exact ⟨(consistentIff one).mpr (by simp), quiet .self (by decide),
      (consistentIff other).mpr (by simp), quiet .parent (by decide), by simp⟩
  have attached : Attached false e.locations := ⟨nofun, fun _ => rfl, trivial⟩
  exact ⟨e, d, read, converts, kept.mpr ⟨consistent, attached⟩⟩

theorem droppedSilently :
    let afterParent := "//*[@text=\"A\"]/../following-sibling::*[@text=\"B\"]"
    let repeated := "//*[@text=\"A\"][@text=\"B\"]"
    ∀ source ∈ [afterParent, repeated], ∃ e d, Expr.ofSource source = .ok e ∧
      e.dict .standard = .ok d ∧
        ¬ ∀ x ∈ placed false (some ⟨none, d⟩) e.locations, ∃ p, x.2 = some p ∧ Kept x.1 p := by
  intro afterParent repeated
  simp only [List.forall_mem_cons]
  refine ⟨?_, ?_, by simp⟩
  · let sibling : Element := ⟨some .followingSibling, .any, [textIs "B"]⟩
    let inner : Dict := .mk [(.text, .str "B")]
    refine ⟨.absolute true (.binary (.binary (.step none .any [textIs "A"]) .path .parent) .path
        (.step sibling.axis sibling.test sibling.predicates)),
      .mk [(.text, .str "A"), (.fromParent, .nested inner)],
      by simp only [afterParent, sibling]; with_unfolding_all rfl, by with_unfolding_all rfl, ?_⟩
    intro all
    obtain ⟨p, there, kept⟩ := all (sibling, some ⟨some .fromParent, inner⟩)
      (List.mem_cons_of_mem _ (List.mem_cons_of_mem _ List.mem_cons_self))
    cases there
    cases kept.sibling rfl
  · let step : Element := ⟨none, .any, [textIs "A", textIs "B"]⟩
    let d : Dict := .mk [(.text, .str "B")]
    refine ⟨.absolute true (.step step.axis step.test step.predicates), d,
      by simp only [repeated, step]; with_unfolding_all rfl, by with_unfolding_all rfl, ?_⟩
    intro all
    obtain ⟨p, there, kept⟩ := all (step, some ⟨none, d⟩) List.mem_cons_self
    cases there
    obtain ⟨a, v, states, found⟩ := kept.predicates (textIs "A") List.mem_cons_self
    obtain ⟨rfl, rfl⟩ := statesOnce states (textStates "A")
    simp [d, Dict.get?, Dict.entries] at found

end ElementLocator.XPath
