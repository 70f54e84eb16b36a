import ElementLocator.Proofs.XPath.Derivation
/-! Expressions place by place, and what holds at every place of one that is read. -/
namespace ElementLocator.XPath

def Expr.operands : Expr → List Expr
  | .absolute _ e => [e]
  | .binary l _ r => [l, r]
  | .step _ _ ps => ps
  | .call _ es => es
  | .filtered e ps => e :: ps
  | _ => []

mutual
def Expr.Everywhere (P : Expr → Prop) : Expr → Prop
  | .absolute d e => P (.absolute d e) ∧ e.Everywhere P
  | .binary l op r => P (.binary l op r) ∧ l.Everywhere P ∧ r.Everywhere P
  | .step axis test ps => P (.step axis test ps) ∧ EverywhereIn P ps
  | .call name es => P (.call name es) ∧ EverywhereIn P es
  | .filtered e ps => P (.filtered e ps) ∧ e.Everywhere P ∧ EverywhereIn P ps
  | .literal s => P (.literal s)
  | .number x => P (.number x)
  | .root d => P (.root d)
  | .parent => P .parent
  | .current => P .current

def EverywhereIn (P : Expr → Prop) : List Expr → Prop
  | [] => True
  | e :: es => e.Everywhere P ∧ EverywhereIn P es
end

theorem inside {P : Expr → Prop} (step : ∀ e, (∀ x ∈ e.operands, P x) → P e) : ∀ e, P e := onExpr
where
  onExpr : ∀ e, P e
    | .absolute d e => step _ (List.forall_mem_cons.mpr ⟨onExpr e, by simp⟩)
    | .binary l op r =>
        step _ (List.forall_mem_cons.mpr ⟨onExpr l, List.forall_mem_cons.mpr ⟨onExpr r, by simp⟩⟩)
    | .step axis test ps => step _ (onList ps)
    | .call name es => step _ (onList es)
    | .filtered e ps => step _ (List.forall_mem_cons.mpr ⟨onExpr e, onList ps⟩)
    | .literal s => step _ (by simp [Expr.operands])
    | .number x => step _ (by simp [Expr.operands])
    | .root d => step _ (by simp [Expr.operands])
    | .parent => step _ (by simp [Expr.operands])
    | .current => step _ (by simp [Expr.operands])
  onList : ∀ es : List Expr, ∀ x ∈ es, P x
    | [] => by simp
    | e :: es => List.forall_mem_cons.mpr ⟨onExpr e, onList es⟩

variable {P Q : Expr → Prop} {e l r : Expr} {op : Operator} {es ps : List Expr}

theorem everywhereIn : EverywhereIn P es ↔ ∀ e ∈ es, e.Everywhere P := by
  induction es with
  | nil => simp [EverywhereIn]
  | cons e es ih => rw [EverywhereIn, List.forall_mem_cons, ih]

theorem everywhere : e.Everywhere P ↔ P e ∧ ∀ x ∈ e.operands, x.Everywhere P := by
  cases e <;> simp [Expr.Everywhere, Expr.operands, everywhereIn]

theorem everywhereAnd (h : e.Everywhere P) (k : e.Everywhere Q) :
    e.Everywhere fun e => P e ∧ Q e := by
  revert h k
  refine inside (P := fun e => e.Everywhere P → e.Everywhere Q →
    e.Everywhere fun e => P e ∧ Q e) ?_ e
  intro e ih h k
  rw [everywhere] at h k ⊢
  exact ⟨⟨h.1, k.1⟩, fun x member => ih x member (h.2 x member) (k.2 x member)⟩

theorem everywhereOf (h : e.Everywhere P) (covers : ∀ e, P e → Q e) : e.Everywhere Q := by
  revert h
  refine inside (P := fun e => e.Everywhere P → e.Everywhere Q) ?_ e
  intro e ih h
  rw [everywhere] at h ⊢
  exact ⟨covers e h.1, fun x member => ih x member (h.2 x member)⟩

def Formed : Expr → Prop
  | .literal s => (∀ c ∈ s.toList, c ≠ '\'') ∨ ∀ c ∈ s.toList, c ≠ '"'
  | .number x => ∃ w, NumberText w x
  | .absolute _ e => e.isRelative = true
  | .step _ (.name s) _ => IsName s.toList
  | .call name _ => IsName name.toList ∧ isKindName name = false
  | .filtered _ ps => ps ≠ []
  | _ => True

theorem testFormed {axis : Option Axis} {test : NodeTest} {cs rest : List Char}
    (h : DerivesTest cs test rest) (ps : List Expr) : Formed (.step axis test ps) := by
  cases h with
  | name isName => simpa [Formed] using isName
  | _ => trivial

theorem formedFollows : Follows (fun _ e _ => e.Everywhere Formed)
    (fun _ ps _ => EverywhereIn Formed ps) (fun _ es _ => EverywhereIn Formed es) where
  before _ body := body
  after _ body := body
  number spelled _ := ⟨_, spelled⟩
  literal quote inside _ := by
    rw [Expr.Everywhere, Formed, String.toList_ofList]
    rcases quote with rfl | rfl
    · exact Or.inl inside
    · exact Or.inr inside
  root _ _ := trivial
  absolute _ relative body := ⟨relative, body⟩
  binary _ _ left right := ⟨trivial, left, right⟩
  step _ testText predicates := ⟨testFormed testText _, predicates⟩
  parent _ := trivial
  current _ := trivial
  call isName function _ args := ⟨⟨by rwa [String.toList_ofList], function⟩, args⟩
  group body := body
  filtered nonempty base predicates := ⟨nonempty, base, predicates⟩
  noPredicate _ _ := trivial
  predicate _ first others := ⟨first, others⟩
  noArg _ _ := trivial
  oneArg only := ⟨only, trivial⟩
  arg first others := ⟨first, others⟩

theorem parsedFormed {source : String} (parsed : parse source = .ok e) : e.Everywhere Formed :=
  derivations formedFollows (parsedDerives parsed).2

end ElementLocator.XPath
