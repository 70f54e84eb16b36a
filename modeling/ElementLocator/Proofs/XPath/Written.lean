import ElementLocator.Proofs.XPath.Shape
/-! Expressions whose operands need no parentheses: what their written form is made of, how it
begins and ends. -/
namespace ElementLocator.XPath
open ElementLocator.Text

def Operator.level : Operator → Nat
  | .or => 0
  | .and => 1
  | .equal | .unequal => 2
  | .path | .descendantPath => 3

def Expr.level : Expr → Nat
  | .binary _ op _ => op.level
  | _ => 3

def Expr.isHeaded : Expr → Bool
  | .number _ | .literal _ | .call _ _ | .filtered _ _ => true
  | .binary left op _ => op.isPath && left.isHeaded
  | _ => false

def Leveled : Expr → Prop
  | .binary l op r =>
      if op.isPath then (l.isRelative = true ∨ l.isHeaded = true) ∧ r.isStep = true
      else op.level ≤ l.level ∧ op.level < r.level
  | _ => True

def Exact : Expr → Prop
  | .number x => NumberText (numberText x).toList x
  | _ => True

def Regular (e : Expr) : Prop := Formed e ∧ Exact e ∧ Leveled e

variable {cs w rest : List Char} {c : Char} {e l r : Expr} {op : Operator} {ps es : List Expr}
  {ok bad : Char → Bool}

theorem absoluteText (descendant : Bool) (e : Expr) (rest : List Char) :
    (Expr.absolute descendant e).text.toList ++ rest =
      (strokes descendant).toList ++ (e.text.toList ++ rest) := by
  simp [Expr.text]

theorem binaryText (l : Expr) (op : Operator) (r : Expr) (rest : List Char) :
    (Expr.binary l op r).text.toList ++ rest =
      l.text.toList ++ (op.spaced.toList ++ (r.text.toList ++ rest)) := by
  simp [Expr.text]

theorem stepText (axis : Option Axis) (test : NodeTest) (ps : List Expr) (rest : List Char) :
    (Expr.step axis test ps).text.toList ++ rest =
      (axisText axis).toList ++ (test.text.toList ++ ((predicatesText ps).toList ++ rest)) := by
  simp [Expr.text]

theorem callText (name : String) (es : List Expr) (rest : List Char) :
    (Expr.call name es).text.toList ++ rest =
      name.toList ++ '(' :: ((argsText es).toList ++ ')' :: rest) := by
  simp [Expr.text]

theorem filteredText (e : Expr) (ps : List Expr) (rest : List Char) :
    (Expr.filtered e ps).text.toList ++ rest =
      '(' :: (e.text.toList ++ ')' :: ((predicatesText ps).toList ++ rest)) := by
  simp [Expr.text]

theorem firstPredicateText (p : Expr) (ps : List Expr) (rest : List Char) :
    (predicatesText (p :: ps)).toList ++ rest =
      '[' :: (p.text.toList ++ ']' :: ((predicatesText ps).toList ++ rest)) := by
  simp [predicatesText]

theorem firstArgumentText (a b : Expr) (es : List Expr) (rest : List Char) :
    (argsText (a :: b :: es)).toList ++ rest =
      a.text.toList ++ ',' :: ' ' :: ((argsText (b :: es)).toList ++ rest) := by
  simp [argsText]

theorem literalTextIs {s : String} (formed : Formed (.literal s)) :
    ∃ mark, (mark = '\'' ∨ mark = '"') ∧ (∀ c ∈ s.toList, c ≠ mark) ∧
      (literalText s).toList = mark :: (s.toList ++ [mark]) := by
  unfold literalText
  split
  · rename_i double
    refine ⟨'\'', Or.inl rfl, formed.resolve_right ?_, by simp⟩
    intro free
    exact free '"' (List.contains_iff_mem.mp double) rfl
  · rename_i noDouble
    refine ⟨'"', Or.inr rfl, ?_, by simp⟩
    rintro c member rfl
    exact noDouble (List.contains_iff_mem.mpr member)

def Begins (ok : Char → Bool) (cs : List Char) : Prop := ∃ c more, cs = c :: more ∧ ok c = true

theorem beginsAppend (h : Begins ok cs) (rest : List Char) : Begins ok (cs ++ rest) := by
  obtain ⟨c, more, rfl, is⟩ := h
  exact ⟨c, more ++ rest, rfl, is⟩

theorem beginsOf {other : Char → Bool} (h : Begins ok cs)
    (covers : ∀ c, ok c = true → other c = true) : Begins other cs := by
  obtain ⟨c, more, rfl, is⟩ := h
  exact ⟨c, more, rfl, covers c is⟩

theorem beginsStops (h : Begins ok cs) (apart : ∀ c, ok c = true → bad c = false) :
    Stops bad cs := by
  obtain ⟨c, more, rfl, is⟩ := h
  exact stopsCons (apart c is) more

theorem beginsOther {x : Char} (h : Begins ok cs) (other : ok x = false) : Stops (· = x) cs :=
  beginsStops h fun _ is => notSame is other

def isStepStart (c : Char) : Bool := c = '.' || c = '@' || c = '*' || isNameStart c

def isHeadStart (c : Char) : Bool := isDigit c || c = '\'' || c = '"' || c = '(' || isNameStart c

def isTextStart (c : Char) : Bool := c = '/' || isStepStart c || isHeadStart c

theorem nameBegins (isName : IsName w) : Begins isNameStart w := by
  obtain ⟨c, cs, rfl, first, _⟩ := isName
  exact ⟨c, cs, rfl, first⟩

theorem digitsBegin (nonempty : w ≠ []) (digits : ∀ c ∈ w, isDigit c = true) :
    Begins isDigit w := by
  cases w with
  | nil => exact absurd rfl nonempty
  | cons c w => exact ⟨c, w, rfl, digits c (by simp)⟩

theorem numberBegins {x : Decimal.Binary64} (h : NumberText w x) : Begins isDigit w := by
  cases h with
  | whole nonempty digits => exact digitsBegin nonempty digits
  | fraction nonempty digits => exact beginsAppend (digitsBegin nonempty digits) _

theorem writtenAxis (axis : Option Axis) : AxisText axis (axisText axis).toList := by
  cases axis with
  | none => exact .none
  | some a => cases a <;> first | exact .sign | exact .named _

theorem axisBegins (axis : Axis) : Begins isStepStart (axisText (some axis)).toList := by
  cases axis <;> exact ⟨_, _, rfl, rfl⟩

theorem testBegins {axis : Option Axis} {test : NodeTest} (formed : Formed (.step axis test ps)) :
    Begins isStepStart test.text.toList := by
  cases test with
  | any => exact ⟨'*', [], rfl, rfl⟩
  | name s => exact beginsOf (nameBegins formed) (by simp +contextual [isStepStart])
  | kind k => cases k <;> exact ⟨_, _, rfl, rfl⟩

theorem stepBegins (step : e.isStep = true) (formed : Formed e) :
    Begins isStepStart e.text.toList := by
  cases e with
  | parent => exact ⟨'.', ['.'], rfl, rfl⟩
  | current => exact ⟨'.', [], rfl, rfl⟩
  | step axis test ps =>
    rw [← List.append_nil (Expr.step axis test ps).text.toList, stepText]
    cases axis with
    | none => exact beginsAppend (testBegins formed) _
    | some axis => exact beginsAppend (axisBegins axis) _
  | _ => cases step

theorem alongPath (kind : Expr → Bool) {P : Expr → Prop}
    (through : ∀ l op r, kind (.binary l op r) = (op.isPath && kind l))
    (head : ∀ e, kind e = true → (∀ l op r, e ≠ .binary l op r) → P e)
    (more : ∀ l op r, op.isPath = true → kind l = true → P l → P (.binary l op r)) :
    ∀ e, kind e = true → P e := by
  refine inside fun e ih is => ?_
  cases e with
  | binary l op r =>
    obtain ⟨isPath, left⟩ := Bool.and_eq_true_iff.mp ((through l op r).symm.trans is)
    exact more l op r isPath left (ih l (by simp [Expr.operands]) left)
  | _ =>
    refine head _ is ?_
    intro l op r same
    cases same

theorem relativeHead (relative : e.isRelative = true) (head : ∀ l op r, e ≠ .binary l op r) :
    e.isStep = true := by
  cases e with
  | binary l op r => exact absurd rfl (head l op r)
  | _ => exact relative

theorem pathBegins (kind : Expr → Bool)
    (through : ∀ l op r, kind (.binary l op r) = (op.isPath && kind l))
    (head : ∀ e, kind e = true → (∀ l op r, e ≠ .binary l op r) → Regular e →
      Begins ok e.text.toList)
    (is : kind e = true) (regular : e.Everywhere Regular) : Begins ok e.text.toList := by
  revert regular
  refine alongPath kind (P := fun e => e.Everywhere Regular → Begins ok e.text.toList) through ?_ ?_
    e is
  · intro e is noBinary regular
    exact head e is noBinary (everywhere.mp regular).1
  · intro l op r _ _ ih regular
    rw [← List.append_nil (Expr.binary l op r).text.toList, binaryText]
    exact beginsAppend (ih ((everywhere.mp regular).2 l (by simp [Expr.operands]))) _

theorem relativeBegins (relative : e.isRelative = true) (regular : e.Everywhere Regular) :
    Begins isStepStart e.text.toList :=
  pathBegins Expr.isRelative (fun _ _ _ => rfl)
    (fun _ relative head regular => stepBegins (relativeHead relative head) regular.1)
    relative regular

theorem headBegins (headed : e.isHeaded = true) (head : ∀ l op r, e ≠ .binary l op r)
    (regular : Regular e) : Begins isHeadStart e.text.toList := by
  cases e with
  | literal s =>
    obtain ⟨mark, quote, _, text⟩ := literalTextIs regular.1
    rw [Expr.text, text]
    exact ⟨mark, _, rfl, by rcases quote with rfl | rfl <;> rfl⟩
  | number x => exact beginsOf (numberBegins regular.2.1) (by simp +contextual [isHeadStart])
  | call name es =>
    rw [← List.append_nil (Expr.call name es).text.toList, callText]
    exact beginsAppend
      (beginsOf (nameBegins regular.1.1) (by simp +contextual [isHeadStart])) _
  | filtered e ps =>
    rw [← List.append_nil (Expr.filtered e ps).text.toList, filteredText]
    exact ⟨'(', _, rfl, rfl⟩
  | binary l op r => exact absurd rfl (head l op r)
  | _ => cases headed

theorem headedBegins (headed : e.isHeaded = true) (regular : e.Everywhere Regular) :
    Begins isHeadStart e.text.toList :=
  pathBegins Expr.isHeaded (fun _ _ _ => rfl) (fun _ => headBegins) headed regular

theorem strokesBegin (descendant : Bool) : Begins (· = '/') (strokes descendant).toList := by
  cases descendant
  · exact ⟨'/', [], rfl, rfl⟩
  · exact ⟨'/', ['/'], rfl, rfl⟩

theorem pathKinds (leveled : Leveled e) (path : 3 ≤ e.level) :
    e.isRelative = true ∨ e.isHeaded = true ∨ (∃ d, e = .root d) ∨ ∃ d r, e = .absolute d r := by
  cases e with
  | binary l op r =>
    have isPath : op.isPath = true := by
      rw [Expr.level] at path
      cases op <;> first | rfl | exact absurd path (by decide)
    rw [Leveled, if_pos isPath] at leveled
    rcases leveled.1 with relative | headed
    · exact Or.inl (by rw [Expr.isRelative, isPath, relative]; rfl)
    · exact Or.inr (Or.inl (by rw [Expr.isHeaded, isPath, headed]; rfl))
  | root d => exact Or.inr (Or.inr (Or.inl ⟨d, rfl⟩))
  | absolute d r => exact Or.inr (Or.inr (Or.inr ⟨d, r, rfl⟩))
  | step axis test ps => exact Or.inl rfl
  | parent => exact Or.inl rfl
  | current => exact Or.inl rfl
  | _ => exact Or.inr (Or.inl rfl)

theorem textBegins (regular : e.Everywhere Regular) : Begins isTextStart e.text.toList := by
  revert regular
  refine inside (P := fun e => e.Everywhere Regular → Begins isTextStart e.text.toList) ?_ e
  intro e ih regular
  obtain ⟨⟨_, _, leveled⟩, parts⟩ := everywhere.mp regular
  cases e with
  | binary l op r =>
    rw [← List.append_nil (Expr.binary l op r).text.toList, binaryText]
    exact beginsAppend (ih l (by simp [Expr.operands]) (parts l (by simp [Expr.operands]))) _
  | _ =>
    rcases pathKinds leveled (Nat.le_refl 3) with relative | headed | ⟨d, same⟩ | ⟨d, r, same⟩
    · exact beginsOf (relativeBegins relative regular) (by simp +contextual [isTextStart])
    · exact beginsOf (headedBegins headed regular) (by simp +contextual [isTextStart])
    · rw [same]
      exact beginsOf (strokesBegin d) (by simp +contextual [isTextStart])
    · rw [same, ← List.append_nil (Expr.absolute d r).text.toList, absoluteText]
      exact beginsAppend (beginsOf (strokesBegin d) (by simp +contextual [isTextStart])) _

/- Neither blanks nor gaps stand at the ends. -/

theorem partNoBlank (part : isNamePart c = true) : isBlank c = false := by
  cases blank : isBlank c with
  | false => rfl
  | true =>
    simp only [isNamePart, blankNoAlphanumeric blank, Bool.false_or, Bool.or_eq_true,
      decide_eq_true_eq] at part
    rcases part with ((rfl | rfl) | rfl) | rfl <;> cases blank

theorem digitNamePart (digit : isDigit c = true) : isNamePart c = true := by
  simp [isNamePart, isAlphanumeric, digitIsNumeral digit]

theorem startNoBlank (start : isTextStart c = true) : isBlank c = false := by
  simp only [isTextStart, isStepStart, isHeadStart, Bool.or_eq_true, decide_eq_true_eq] at start
  rcases start with (rfl | (((rfl | rfl) | rfl) | name)) | ((((digit | rfl) | rfl) | rfl) | name)
  · rfl
  · rfl
  · rfl
  · rfl
  · exact partNoBlank (partOfStart name)
  · exact partNoBlank (digitNamePart digit)
  · rfl
  · rfl
  · rfl
  · exact partNoBlank (partOfStart name)

theorem noBlankNoGap (h : isBlank c = false) : isGap c = false := by
  cases gap : isGap c with
  | false => rfl
  | true => rw [gapIsBlank gap] at h; cases h

theorem textNoGap (regular : e.Everywhere Regular) (rest : List Char) :
    Stops isGap (e.text.toList ++ rest) :=
  beginsStops (beginsAppend (textBegins regular) rest) fun _ start =>
    noBlankNoGap (startNoBlank start)

def Ends (ok : Char → Bool) (cs : List Char) : Prop := Begins ok cs.reverse

theorem endsBehind (front : List Char) (h : Ends ok cs) : Ends ok (front ++ cs) := by
  rw [Ends, List.reverse_append]
  exact beginsAppend h front.reverse

theorem endsAll (nonempty : w ≠ []) (all : ∀ c ∈ w, ok c = true) : Ends ok w := by
  cases same : w.reverse with
  | nil => exact absurd (List.reverse_eq_nil_iff.mp same) nonempty
  | cons c more =>
    exact ⟨c, more, same, all c (List.mem_reverse.mp (by rw [same]; exact List.mem_cons_self))⟩

theorem endsWith (front : List Char) (is : ok c = true) : Ends ok (front ++ [c]) :=
  endsBehind front ⟨c, [], rfl, is⟩

def isInk (c : Char) : Bool := !isBlank c

theorem nameEnds (isName : IsName w) : Ends isInk w := by
  have nonempty : w ≠ [] := by
    obtain ⟨c, cs, rfl, _⟩ := isName
    simp
  exact endsAll nonempty fun c member => by simp [isInk, partNoBlank (nameParts isName c member)]

theorem digitsEnd (nonempty : w ≠ []) (digits : ∀ c ∈ w, isDigit c = true) : Ends isInk w :=
  endsAll nonempty fun c member => by simp [isInk, partNoBlank (digitNamePart (digits c member))]

theorem numberEnds {x : Decimal.Binary64} (h : NumberText w x) : Ends isInk w := by
  cases h with
  | whole nonempty digits => exact digitsEnd nonempty digits
  | @fraction w v _ _ more decimals =>
    rw [List.append_cons]
    exact endsBehind _ (digitsEnd more decimals)

theorem testEnds {axis : Option Axis} {test : NodeTest} (formed : Formed (.step axis test ps)) :
    Ends isInk test.text.toList := by
  cases test with
  | any => exact endsWith [] (c := '*') rfl
  | name s => exact nameEnds formed
  | kind k =>
    simp only [NodeTest.text, String.toList_append]
    exact endsBehind _ (endsWith ['('] (c := ')') rfl)

theorem predicatesEnd (front : List Char) (h : ps = [] → Ends isInk front) :
    Ends isInk (front ++ (predicatesText ps).toList) := by
  induction ps generalizing front with
  | nil => simpa [predicatesText] using h rfl
  | cons p ps ih =>
    have closed : Ends isInk (front ++ '[' :: (p.text.toList ++ [']'])) := by
      rw [← List.cons_append, ← List.append_assoc]
      exact endsWith _ rfl
    have whole := ih _ fun _ => closed
    simpa [predicatesText] using whole

theorem textEnds (regular : e.Everywhere Regular) : Ends isInk e.text.toList := by
  revert regular
  refine inside (P := fun e => e.Everywhere Regular → Ends isInk e.text.toList) ?_ e
  intro e ih regular
  obtain ⟨⟨formed, spelled, _⟩, parts⟩ := everywhere.mp regular
  cases e with
  | literal s =>
    obtain ⟨mark, quote, _, text⟩ := literalTextIs formed
    rw [Expr.text, text, ← List.cons_append]
    exact endsWith _ (by rcases quote with rfl | rfl <;> rfl)
  | number x => exact numberEnds spelled
  | root d => cases d <;> exact ⟨_, _, rfl, rfl⟩
  | absolute d e =>
    rw [Expr.text, String.toList_append]
    exact endsBehind _ (ih e (by simp [Expr.operands]) (parts e (by simp [Expr.operands])))
  | binary l op r =>
    rw [Expr.text, String.toList_append]
    exact endsBehind _ (ih r (by simp [Expr.operands]) (parts r (by simp [Expr.operands])))
  | step axis test ps =>
    rw [Expr.text, String.toList_append, String.toList_append]
    exact predicatesEnd _ fun _ => endsBehind _ (testEnds formed)
  | parent => exact ⟨_, _, rfl, rfl⟩
  | current => exact ⟨_, _, rfl, rfl⟩
  | call name es =>
    rw [Expr.text, String.toList_append]
    exact endsWith _ rfl
  | filtered e ps =>
    rw [Expr.text, String.toList_append]
    exact predicatesEnd _ fun none => absurd none formed

theorem textTrimmed (regular : e.Everywhere Regular) : trim e.text.toList = e.text.toList := by
  have front : Stops isBlank e.text.toList :=
    beginsStops (textBegins regular) fun _ => startNoBlank
  have back : Stops isBlank e.text.toList.reverse :=
    beginsStops (textEnds regular) fun c ink => by simpa [isInk] using ink
  rw [trim, trimStart, dropWhileStops front, trimEnd, dropWhileStops back, List.reverse_reverse]

end ElementLocator.XPath
