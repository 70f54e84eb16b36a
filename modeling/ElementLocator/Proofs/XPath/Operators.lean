import ElementLocator.Proofs.XPath.Spelling
/-! The logical operators that the check of a source finds against those of the expression that is
read. They are the same but for an operator that is not a whole word of the scan, since figures
come before it or an attribute after it, and for a name that is or shows an operator's word. -/
namespace ElementLocator.XPath
open ElementLocator.Text

variable {op other : Operator} {w v front back cs : List Char}
  {us shown names names' : List (List Char)} {ops ops' : List Operator} {b k : Piece}
  {axis : Option Axis} {c : Char}

/-- A word that is an operator's but for figures before it or an attribute after it. -/
def Gluing (op : Operator) (w : List Char) : Prop :=
  ∃ front back, w = front ++ (op.symbol.toList ++ back) ∧ (∀ c ∈ front, isFigure c = true) ∧
    (∀ c ∈ back.head?, c = '@') ∧ (front ≠ [] ∨ back ≠ [])

def Glued (op : Operator) (source : String) : Prop :=
  ∃ w ∈ words isLongPart none source.toList, Gluing op w

def glues (op : Operator) (w : List Char) (i : Nat) : Bool :=
  let back := w.drop (i + op.symbol.toList.length)
  decide (w = w.take i ++ (op.symbol.toList ++ back)) && (w.take i).all isFigure &&
    back.head?.all (fun c => c = '@') && !((w.take i).isEmpty && back.isEmpty)

theorem gluesIff {i : Nat} : glues op w i = true ↔
    w = w.take i ++ (op.symbol.toList ++ w.drop (i + op.symbol.toList.length)) ∧
      (∀ c ∈ w.take i, isFigure c = true) ∧
      (∀ c ∈ (w.drop (i + op.symbol.toList.length)).head?, c = '@') ∧
      (w.take i ≠ [] ∨ w.drop (i + op.symbol.toList.length) ≠ []) := by
  simp only [glues, Bool.and_eq_true, Bool.not_eq_true', Bool.and_eq_false_iff, decide_eq_true_eq,
    List.all_eq_true, Option.all_eq_true, Option.mem_def, List.isEmpty_eq_false_iff, and_assoc]

theorem gluingIff : (List.range (w.length + 1)).any (glues op w) = true ↔ Gluing op w := by
  rw [List.any_eq_true]
  constructor
  · rintro ⟨i, _, h⟩
    exact ⟨w.take i, w.drop (i + op.symbol.toList.length), gluesIff.mp h⟩
  · rintro ⟨front, back, rfl, h⟩
    have behind : (front ++ (op.symbol.toList ++ back)).drop
        (front.length + op.symbol.toList.length) = back := by
      rw [← List.append_assoc, ← List.length_append, List.drop_left]
    refine ⟨front.length, List.mem_range.mpr (by rw [List.length_append]; omega), ?_⟩
    rw [gluesIff, behind, List.take_left]
    exact ⟨rfl, h⟩

instance (op : Operator) (w : List Char) : Decidable (Gluing op w) := decidable_of_iff _ gluingIff

instance (op : Operator) (source : String) : Decidable (Glued op source) :=
  decidable_of_iff ((words isLongPart none source.toList).any (fun w => Gluing op w) = true)
    (by simp [Glued])

def Said (op : Operator) (w : List Char) : Prop := op.symbol.toList ∈ split '$' w

theorem logicalIs (logical : op.isLogical = true) : op = .and ∨ op = .or := by
  cases op <;> first | exact Or.inl rfl | exact Or.inr rfl | cases logical

theorem symbolChars (logical : op.isLogical = true) : ∀ c ∈ op.symbol.toList,
    isNamePart c = true ∧ isFigure c = false ∧ c ≠ '$' ∧ isLongPart c = true := by
  have all : op.symbol.toList.all (fun c =>
      isNamePart c && !isFigure c && decide (c ≠ '$') && isLongPart c) = true := by
    rcases logicalIs logical with rfl | rfl <;> decide
  simpa [and_assoc] using all

theorem symbolNonempty (op : Operator) : op.symbol.toList ≠ [] := by cases op <;> decide

theorem symbolNoStop (logical : op.isLogical = true) (rest : List Char) :
    ¬ Stops isNamePart (op.symbol.toList ++ rest) := by
  intro stop
  rcases logicalIs logical with rfl | rfl <;> exact absurd (stopsHead stop) (by decide)

theorem symbolNoFigure (logical : op.isLogical = true) (rest : List Char) :
    Stops isFigure (op.symbol.toList ++ rest) := by
  rcases logicalIs logical with rfl | rfl <;> exact stopsCons (by decide) _

theorem operatorUnique (logical : op.isLogical = true) (also : other.isLogical = true)
    (figures : ∀ c ∈ front, isFigure c = true) (others : ∀ c ∈ v, isFigure c = true)
    (same : front ++ (op.symbol.toList ++ w) = v ++ (other.symbol.toList ++ back)) :
    front = v ∧ op = other := by
  have fronts : front = v := by
    have taken := congrArg (List.takeWhile isFigure) same
    rwa [takeWhileAppend figures (symbolNoFigure logical w),
      takeWhileAppend others (symbolNoFigure also back)] at taken
  subst fronts
  have behind := List.append_cancel_left same
  refine ⟨rfl, ?_⟩
  rcases logicalIs logical with rfl | rfl <;> rcases logicalIs also with rfl | rfl <;>
    first | rfl | simp [Operator.symbol] at behind

theorem axisShape (text : AxisText axis w) : (∀ c ∈ w, isWordPart c = true) ∧
    (axis = none ∧ w = [] ∨ axis.isSome = true ∧ ∃ c ∈ w, isNamePart c = false) := by
  cases text with
  | none => exact ⟨nofun, Or.inl ⟨rfl, rfl⟩⟩
  | sign => exact ⟨by simp [isWordPart], Or.inr ⟨rfl, '@', by simp, by decide⟩⟩
  | named axis =>
    refine ⟨List.all_eq_true.mp ?_, Or.inr ⟨rfl, ':', by simp, by decide⟩⟩
    cases axis <;> decide

theorem kindParts (k : NodeKind) : ∀ c ∈ k.name.toList, isWordPart c = true :=
  List.all_eq_true.mp (by cases k <;> decide)

theorem partIsLong (part : isWordPart c = true) : isLongPart c = true := by simp [isLongPart, part]

theorem namePartIsLong (part : isNamePart c = true) : isLongPart c = true := by
  simp only [isNamePart, Bool.or_eq_true] at part
  rcases part with (((part | part) | part) | part) | part <;> simp [isLongPart, isWordPart, part]

theorem operandParts (text : OperandText w shown) : ∀ c ∈ w, isLongPart c = true := by
  cases text with
  | axis text => exact fun c member => partIsLong ((axisShape text).1 c member)
  | kind text k =>
    exact List.forall_mem_append.mpr ⟨fun c member => partIsLong ((axisShape text).1 c member),
      fun c member => partIsLong (kindParts k c member)⟩
  | name text isName =>
    exact List.forall_mem_append.mpr ⟨fun c member => partIsLong ((axisShape text).1 c member),
      fun c member => namePartIsLong (nameParts isName c member)⟩

theorem wordFree (parts : ∀ c ∈ w, isWordPart c = true) : ∀ c ∈ w, c ≠ '$' := by
  intro c member dollar
  have part := parts c member
  rw [dollar] at part
  exact absurd part (by decide)

theorem splitFreeWord (free : ∀ c ∈ w, c ≠ '$') : split '$' w = [w] := by
  have pieces := splitSpan free []
  rw [List.append_nil] at pieces
  simp [pieces, split, joinFirst]

theorem notSymbol (logical : op.isLogical = true) (strange : ∃ c ∈ w, isNamePart c = false)
    (more : List Char) : op.symbol.toList ≠ w ++ more := by
  intro same
  obtain ⟨c, member, noPart⟩ := strange
  have part := (symbolChars logical c (by simp [same, member])).1
  rw [noPart] at part
  cases part

theorem operandSaid (logical : op.isLogical = true) (text : OperandText w shown) :
    Said op w ↔ op.symbol.toList ∈ shown := by
  cases text with
  | axis text =>
    obtain ⟨parts, ⟨none, _⟩ | ⟨_, strange⟩⟩ := axisShape text
    · cases none
    · have no := notSymbol logical strange []
      rw [List.append_nil] at no
      simp [Said, splitFreeWord (wordFree parts), no]
  | @kind axis w text k =>
    obtain ⟨parts, empty | ⟨_, strange⟩⟩ := axisShape text
    all_goals
      have free := wordFree (List.forall_mem_append.mpr ⟨parts, kindParts k⟩)
      rw [Said, splitFreeWord free]
    · have no : op.symbol.toList ≠ w ++ k.name.toList := by
        rw [empty.2]
        rcases logicalIs logical with rfl | rfl <;> cases k <;> decide
      simp [no]
    · simp [notSymbol logical strange]
  | @name axis w n text isName =>
    obtain ⟨parts, ⟨rfl, rfl⟩ | ⟨some, strange⟩⟩ := axisShape text
    · rfl
    · obtain ⟨p, ps, pieces, _⟩ := splitJoined '$' n
      rw [Said, splitSpan (wordFree parts), shownParts, if_pos some, pieces]
      simp [joinFirst, notSymbol logical strange]

def Unsigned (w : List Char) : Prop :=
  (∃ c v, w = c :: v ∧ isFigure c = false ∧ isNamePart c = true) ∧ '@' ∉ w

theorem unsignedAppend (unsigned : Unsigned w) (free : '@' ∉ v) : Unsigned (w ++ v) := by
  obtain ⟨⟨c, more, rfl, noFigure, part⟩, noSign⟩ := unsigned
  exact ⟨⟨c, more ++ v, rfl, noFigure, part⟩,
    fun member => (List.mem_append.mp member).elim noSign free⟩

theorem startNoFigure (start : isNameStart c = true) : isFigure c = false := by
  have point := notSame (x := '.') start (by decide)
  cases digit : isDigit c with
  | false => simp [isFigure, digit, point]
  | true =>
    have low := notSame (x := '_') digit (by decide)
    simp [isNameStart, digitNoLetter digit, low] at start

theorem nameUnsigned (isName : IsName w) : Unsigned w := by
  obtain ⟨c, v, rfl, start, _⟩ := id isName
  refine ⟨⟨c, v, rfl, startNoFigure start, partOfStart start⟩, ?_⟩
  intro member
  exact absurd (nameParts isName '@' member) (by decide)

theorem kindUnsigned (k : NodeKind) : Unsigned k.name.toList := by
  cases k <;> exact ⟨⟨_, _, rfl, by decide, by decide⟩, by decide⟩

theorem axisUnsigned (axis : Axis) : Unsigned (axis.name.toList ++ [':', ':']) := by
  refine unsignedAppend ?_ (by decide)
  cases axis <;> exact ⟨⟨_, _, rfl, by decide, by decide⟩, by decide⟩

theorem operandStart (text : OperandText w shown) : (∃ v, w = '@' :: v) ∨ Unsigned w := by
  have behind {axis : Option Axis} {w v : List Char} (text : AxisText axis w)
      (unsigned : Unsigned v) : (∃ more, w ++ v = '@' :: more) ∨ Unsigned (w ++ v) := by
    cases text with
    | none => exact Or.inr unsigned
    | sign => exact Or.inl ⟨v, rfl⟩
    | named => exact Or.inr (unsignedAppend (axisUnsigned _) unsigned.2)
  cases text with
  | axis text =>
    cases text with
    | sign => exact Or.inl ⟨[], rfl⟩
    | named => exact Or.inr (axisUnsigned _)
  | kind text k => exact behind text (kindUnsigned k)
  | name text isName => exact behind text (nameUnsigned isName)

theorem operandNotGluing (logical : op.isLogical = true) (text : OperandText w shown) :
    ¬ Gluing op w := by
  rintro ⟨front, back, rfl, figures, signed, extra⟩
  rcases operandStart text with ⟨v, same⟩ | ⟨⟨c, v, same, noFigure, _⟩, noSign⟩
  · cases front with
    | nil => rcases logicalIs logical with rfl | rfl <;> simp [Operator.symbol] at same
    | cons d front =>
      obtain ⟨rfl, _⟩ := List.cons.inj same
      exact absurd (figures '@' (by simp)) (by decide)
  · cases front with
    | nil =>
      cases back with
      | nil => simp at extra
      | cons d back =>
        obtain rfl := signed d rfl
        exact noSign (by simp)
    | cons d front =>
      obtain ⟨rfl, _⟩ := List.cons.inj same
      rw [figures d (by simp)] at noFigure
      cases noFigure

inductive Heard : Piece → List Char → List Operator → List (List Char) → Prop where
  | nothing : Heard .separator [] [] []
  | figures {w : List Char} (figures : ∀ c ∈ w, isFigure c = true) : Heard .operand w [] []
  | operand {w : List Char} {shown : List (List Char)} (text : OperandText w shown) :
      Heard .operand w [] shown
  | operator {front : List Char} {op : Operator} (figures : ∀ c ∈ front, isFigure c = true)
      (logical : op.isLogical = true) : Heard .operator (front ++ op.symbol.toList) [op] []
  | glued {front w : List Char} {op : Operator} {shown : List (List Char)}
      (figures : ∀ c ∈ front, isFigure c = true) (logical : op.isLogical = true)
      (text : OperandText ('@' :: w) shown) :
      Heard .operand (front ++ (op.symbol.toList ++ '@' :: w)) [op] shown

structure Agree (op : Operator) (us : List (List Char)) (ops : List Operator)
    (names : List (List Char)) : Prop where
  said : (∃ w ∈ us, Said op w) → op ∈ ops ∨ op.symbol.toList ∈ names
  glued : (∃ w ∈ us, Gluing op w) → op ∈ ops
  operator : op ∈ ops → (∃ w ∈ us, Said op w) ∨ ∃ w ∈ us, Gluing op w
  name : op.symbol.toList ∈ names → ∃ w ∈ us, Said op w

theorem agreeCons (first : Agree op [w] ops names) (others : Agree op us ops' names') :
    Agree op (w :: us) (ops ++ ops') (names ++ names') := by
  obtain ⟨said, glued, operator, name⟩ := first
  obtain ⟨saidMore, gluedMore, operatorMore, nameMore⟩ := others
  simp only [List.mem_singleton, exists_eq_left] at said glued operator name
  have either (P : List Char → Prop) : (∃ v ∈ w :: us, P v) ↔ P w ∨ ∃ v ∈ us, P v := by simp
  constructor <;> simp only [either, List.mem_append] <;> grind

theorem agreeOne (said : Said op w → op ∈ ops ∨ op.symbol.toList ∈ names)
    (glued : Gluing op w → op ∈ ops) (operator : op ∈ ops → Said op w ∨ Gluing op w)
    (name : op.symbol.toList ∈ names → Said op w) : Agree op [w] ops names := by
  constructor <;> simpa only [List.mem_singleton, exists_eq_left]

theorem figuresSilent (logical : op.isLogical = true) (figures : ∀ c ∈ w, isFigure c = true) :
    ¬ Said op w ∧ ¬ Gluing op w := by
  have noSymbol (more less : List Char) : w ≠ less ++ (op.symbol.toList ++ more) := by
    rintro rfl
    obtain ⟨c, member⟩ := List.exists_mem_of_ne_nil _ (symbolNonempty op)
    have figure := figures c (by simp [member])
    rw [(symbolChars logical c member).2.1] at figure
    cases figure
  constructor
  · intro said
    have free : ∀ c ∈ w, c ≠ '$' := by
      rintro c member rfl
      exact absurd (figures '$' member) (by decide)
    rw [Said, splitFreeWord free, List.mem_singleton] at said
    exact noSymbol [] [] (by simp [said])
  · rintro ⟨front, back, same, _⟩
    exact noSymbol back front same

theorem gluingIs (logical : op.isLogical = true) (also : other.isLogical = true)
    (figures : ∀ c ∈ front, isFigure c = true)
    (h : Gluing op (front ++ (other.symbol.toList ++ back))) : op = other := by
  obtain ⟨first, last, same, others, _⟩ := h
  exact (operatorUnique also logical figures others same).2.symm

theorem frontFree (logical : op.isLogical = true) (figures : ∀ c ∈ front, isFigure c = true) :
    ∀ c ∈ front ++ op.symbol.toList, c ≠ '$' := by
  refine List.forall_mem_append.mpr ⟨?_, fun c member => (symbolChars logical c member).2.2.1⟩
  rintro c member rfl
  exact absurd (figures '$' member) (by decide)

theorem operatorAgrees (logical : op.isLogical = true) (also : other.isLogical = true)
    (figures : ∀ c ∈ front, isFigure c = true) :
    Agree op [front ++ other.symbol.toList] [other] [] := by
  have said : Said op (front ++ other.symbol.toList) ↔
      op.symbol.toList = front ++ other.symbol.toList := by
    rw [Said, splitFreeWord (frontFree also figures), List.mem_singleton]
  apply agreeOne
  · intro h
    have same : [] ++ (op.symbol.toList ++ []) = front ++ (other.symbol.toList ++ []) := by
      simpa using said.mp h
    exact Or.inl (List.mem_singleton.mpr (operatorUnique logical also (by simp) figures same).2)
  · intro h
    rw [← List.append_nil other.symbol.toList] at h
    exact List.mem_singleton.mpr (gluingIs logical also figures h)
  · intro h
    obtain rfl := List.mem_singleton.mp h
    cases front with
    | nil => exact Or.inl (said.mpr rfl)
    | cons c front => exact Or.inr ⟨c :: front, [], by simp, figures, by simp, Or.inl nofun⟩
  · nofun

theorem saidBehind (logical : op.isLogical = true) (free : ∀ c ∈ v, c ≠ '$') (w : List Char) :
    Said op (v ++ '@' :: w) ↔ Said op ('@' :: w) := by
  obtain ⟨p, ps, pieces, _⟩ := splitJoined '$' w
  have sign : split '$' ('@' :: w) = ('@' :: p) :: ps := by
    rw [splitOther (by decide), pieces]
    rfl
  have strange (front : List Char) : op.symbol.toList ≠ front ++ '@' :: p := by
    have no := notSymbol (w := front ++ ['@']) logical ⟨'@', by simp, by decide⟩ p
    rwa [List.append_assoc] at no
  have alone : op.symbol.toList ≠ '@' :: p := strange []
  rw [Said, Said, splitSpan free, sign]
  simp [joinFirst, strange v, alone]

theorem gluedAgrees (logical : op.isLogical = true) (also : other.isLogical = true)
    (figures : ∀ c ∈ front, isFigure c = true) (text : OperandText ('@' :: w) shown) :
    Agree op [front ++ (other.symbol.toList ++ '@' :: w)] [other] shown := by
  have said : Said op (front ++ (other.symbol.toList ++ '@' :: w)) ↔
      op.symbol.toList ∈ shown := by
    rw [← List.append_assoc, saidBehind logical (frontFree also figures), operandSaid logical text]
  apply agreeOne
  · exact fun h => Or.inr (said.mp h)
  · exact fun h => List.mem_singleton.mpr (gluingIs logical also figures h)
  · intro h
    obtain rfl := List.mem_singleton.mp h
    refine Or.inr ⟨front, '@' :: w, rfl, figures, ?_, Or.inr nofun⟩
    intro c first
    cases first
    rfl
  · exact said.mpr

theorem heardAgrees (logical : op.isLogical = true) (h : Heard b w ops names) :
    Agree op [w] ops names := by
  cases h with
  | nothing =>
    obtain ⟨unsaid, unglued⟩ := figuresSilent (w := []) logical nofun
    exact agreeOne (fun said => absurd said unsaid) (fun glued => absurd glued unglued) nofun nofun
  | figures figures =>
    obtain ⟨unsaid, unglued⟩ := figuresSilent logical figures
    exact agreeOne (fun said => absurd said unsaid) (fun glued => absurd glued unglued) nofun nofun
  | operand text =>
    have said := operandSaid logical text
    exact agreeOne (fun h => Or.inr (said.mp h)) (fun h => absurd h (operandNotGluing logical text))
      nofun said.mpr
  | operator figures also => exact operatorAgrees logical also figures
  | glued figures also text => exact gluedAgrees logical also figures text

theorem symbolLong (logical : op.isLogical = true) :
    ∀ c ∈ op.symbol.toList, isLongPart c = true :=
  fun c member => (symbolChars logical c member).2.2.2

theorem figureParts (figures : ∀ c ∈ w, isFigure c = true) :
    ∀ c ∈ w, isLongPart c = true ∧ isNamePart c = true := by
  intro c member
  have figure := figures c member
  simp only [isFigure, Bool.or_eq_true, decide_eq_true_eq] at figure
  rcases figure with digit | rfl
  · simp [isLongPart, isWordPart, isNamePart, isAlphanumeric, digitIsNumeral digit]
  · decide

theorem quoteNoPart (quote : isQuote c = true) : isLongPart c = false := by
  simp only [isQuote, Bool.or_eq_true, decide_eq_true_eq] at quote
  rcases quote with rfl | rfl <;> decide

def Ended (w cs : List Char) : Prop := (∀ c ∈ w, isFigure c = true) ∨ Stops isNamePart cs

theorem endedOperator (logical : op.isLogical = true)
    (ended : Ended (front ++ (op.symbol.toList ++ back)) cs) : Stops isNamePart cs := by
  refine ended.resolve_left fun figures => ?_
  obtain ⟨c, member⟩ := List.exists_mem_of_ne_nil _ (symbolNonempty op)
  have figure := figures c (by simp [member])
  rw [(symbolChars logical c member).2.1] at figure
  cases figure

theorem endedOperand (text : OperandText w shown) (ended : Ended w cs) : Stops isNamePart cs := by
  refine ended.resolve_left fun figures => ?_
  rcases operandStart text with ⟨v, rfl⟩ | ⟨⟨c, v, rfl, noFigure, _⟩, _⟩
  · exact absurd (figures '@' (by simp)) (by decide)
  · rw [figures c (by simp)] at noFigure
    cases noFigure

/- How a word goes on with each kind of piece. -/

theorem heardFigures (apart : b ≠ .operand) (nonempty : v ≠ [])
    (figures : ∀ c ∈ v, isFigure c = true) (heard : Heard b w ops names)
    (ended : Ended w (v ++ cs)) : w = [] ∧ ops = [] ∧ names = [] := by
  cases heard with
  | nothing => exact ⟨rfl, rfl, rfl⟩
  | @operator front other before logical =>
    rw [← List.append_nil other.symbol.toList] at ended
    have stop := endedOperator logical ended
    cases v with
    | nil => exact absurd rfl nonempty
    | cons c v =>
      have part := (figureParts figures c (by simp)).2
      rw [stopsHead stop] at part
      cases part
  | _ => exact absurd rfl apart

theorem heardOperand (apart : b ≠ .operand) (text : OperandText v shown)
    (heard : Heard b w ops names) (ended : Ended w (v ++ cs)) :
    Heard .operand (w ++ v) ops (names ++ shown) := by
  cases heard with
  | nothing => exact .operand text
  | @operator front other before logical =>
    rcases operandStart text with ⟨v, rfl⟩ | ⟨⟨c, v, rfl, _, part⟩, _⟩
    · rw [List.append_assoc]
      exact .glued before logical text
    · rw [← List.append_nil other.symbol.toList] at ended
      rw [stopsHead (endedOperator logical ended)] at part
      cases part
  | _ => exact absurd rfl apart

theorem heardOperator (apart : b ≠ .operator) (logical : op.isLogical = true)
    (heard : Heard b w ops names) (ended : Ended w (op.symbol.toList ++ cs)) :
    (∀ c ∈ w, isFigure c = true) ∧ ops = [] ∧ names = [] := by
  cases heard with
  | nothing => exact ⟨nofun, rfl, rfl⟩
  | figures figures => exact ⟨figures, rfl, rfl⟩
  | operand text => exact absurd (endedOperand text ended) (symbolNoStop logical cs)
  | glued _ also _ => exact absurd (endedOperator also ended) (symbolNoStop logical cs)
  | operator => exact absurd rfl apart

theorem spelledAgrees (logical : op.isLogical = true) (h : Spells k [] b cs ops names) :
    ∀ w ops' names', Heard b w ops' names' → Ended w cs →
      Agree op (joinFirst w (words isLongPart none cs)) (ops' ++ ops) (names' ++ names) := by
  have separated {w ops' names' cs ops names} {b : Piece} (heard : Heard b w ops' names')
      (behind : Agree op (joinFirst [] (words isLongPart none cs)) ([] ++ ops) ([] ++ names)) :
      Agree op (joinFirst w ([] :: words isLongPart none cs)) (ops' ++ ops) (names' ++ names) := by
    rw [joinNothing (wordsNonempty _ _)] at behind
    simpa [joinFirst] using agreeCons (heardAgrees logical heard) behind
  induction h with
  | done =>
    intro w ops' names' heard _
    simpa [words, joinFirst] using heardAgrees logical heard
  | mark noPart noQuote _ ih =>
    intro w ops' names' heard _
    rw [wordsMark noPart noQuote]
    exact separated heard (ih [] [] [] .nothing (Or.inl (by simp)))
  | literal quote inside _ ih =>
    intro w ops' names' heard _
    rw [wordsQuoted (quoteNoPart quote) quote inside]
    exact separated heard (ih [] [] [] .nothing (Or.inl (by simp)))
  | figures apart nonempty figures _ ih =>
    intro w ops' names' heard ended
    obtain ⟨rfl, rfl, rfl⟩ := heardFigures apart nonempty figures heard ended
    rw [wordsSpan fun c member => (figureParts figures c member).1, joinFirstAgain]
    exact ih _ [] [] (.figures figures) (Or.inl figures)
  | operand apart text stop _ ih =>
    intro w ops' names' heard ended
    have goesOn := heardOperand apart text heard ended
    rw [wordsSpan (operandParts text), joinFirstAgain, ← List.append_assoc names']
    exact ih _ ops' (names' ++ _) goesOn (Or.inr stop)
  | operator apart also stop _ ih =>
    intro w ops' names' heard ended
    obtain ⟨figures, rfl, rfl⟩ := heardOperator apart also heard ended
    rw [wordsSpan (symbolLong also), joinFirstAgain]
    exact ih _ [_] [] (.operator figures also) (Or.inr stop)

variable {source : String} {e : Expr}

theorem parsedAgrees (parsed : parse source = .ok e) (logical : op.isLogical = true) :
    Agree op (words isLongPart none source.toList) e.logical e.nameParts := by
  obtain ⟨k, spelled⟩ := parsedSpells parsed
  have whole := spelledAgrees logical spelled [] [] [] .nothing (Or.inl nofun)
  rwa [joinNothing (wordsNonempty _ _)] at whole

theorem reportedIff (parsed : parse source = .ok e) (logical : op.isLogical = true) :
    .logicalOperator op ∈ problems source ↔
      ∃ w ∈ words isLongPart none source.toList, Said op w := by
  have found : .logicalOperator op ∈ problems source ↔ op ∈ (scan source.toList).operators := by
    rw [parsedProblems parsed, scanProblems]
    cases (scan source.toList).openPredicate? source.toList <;> simp
  rw [found, scannedOperators logical, wordsSplit, List.mem_flatMap]
  rfl

/-- Of a source that is read the operators in the expression are reported and no others, unless an
operator is glued to what stands around it or a name shows an operator's word. A glued one is an
operator of the expression, which may be missed; a word that a name shows is reported. -/
theorem operatorsReported (parsed : parse source = .ok e) (logical : op.isLogical = true) :
    (¬ Glued op source → op.symbol.toList ∉ e.nameParts →
      (.logicalOperator op ∈ problems source ↔ op ∈ e.logical)) ∧
    (Glued op source → op ∈ e.logical) ∧
    (op.symbol.toList ∈ e.nameParts → .logicalOperator op ∈ problems source) := by
  obtain ⟨said, glued, operator, name⟩ := parsedAgrees parsed logical
  rw [reportedIff parsed logical]
  refine ⟨?_, glued, name⟩
  intro apart silent
  constructor
  · exact fun reported => (said reported).resolve_right silent
  · exact fun used => (operator used).resolve_right apart

theorem quotedOperatorNotReported :
    let spaced := "//*[@text=\"1and or\" and @b]"
    let dense := "//or[1and@b]"
    let e : Expr := .absolute true (.step none .any [.binary
      (.binary (.step (some .attribute) (.name "text") []) .equal (.literal "1and or")) .and
      (.step (some .attribute) (.name "b") [])])
    let f : Expr := .absolute true (.step none (.name "or") [.binary
      (.number ⟨false, .finite 4503599627370496 (-52)⟩) .and
      (.step (some .attribute) (.name "b") [])])
    parse spaced = .ok e ∧ ¬ Glued .and spaced ∧ .logicalOperator .and ∈ problems spaced ∧
      .logicalOperator .or ∉ problems spaced ∧ parse dense = .ok f ∧ Glued .and dense ∧
      .and ∈ f.logical ∧ .logicalOperator .or ∈ problems dense := by
  intro spaced dense e f
  have parsedSpaced : parse spaced = .ok e := by
    simp only [spaced, e]
    with_unfolding_all rfl
  have parsedDense : parse dense = .ok f := by
    simp only [dense, f]
    with_unfolding_all rfl
  have apart : ¬ Glued .and spaced ∧ ¬ Glued .or spaced := by decide +kernel
  have glued : Glued .and dense := by decide +kernel
  have silent : Operator.and.symbol.toList ∉ e.nameParts ∧
      Operator.or.symbol.toList ∉ e.nameParts := by decide +kernel
  have named : Operator.or.symbol.toList ∈ f.nameParts := by decide +kernel
  have reported := (operatorsReported parsedSpaced rfl).1 apart.1 silent.1
  have unreported := (operatorsReported parsedSpaced rfl).1 apart.2 silent.2
  exact ⟨parsedSpaced, apart.1, reported.mpr (by decide), mt unreported.mp (by decide), parsedDense,
    glued, (operatorsReported parsedDense rfl).2.1 glued,
    (operatorsReported parsedDense rfl).2.2 named⟩

theorem operatorMissed :
    let e : Expr := .absolute true (.step none .any [.binary
      (.binary (.step (some .attribute) (.name "text") []) .equal (.literal "a")) .and
      (.binary (.step (some .attribute) (.name "class") []) .equal (.literal "b"))])
    let f : Expr := .absolute true (.step none (.name "and") [])
    parse "//*[@text=\"a\" and@class=\"b\"]" = .ok e ∧ .and ∈ e.logical ∧
      problems "//*[@text=\"a\" and@class=\"b\"]" = [] ∧
      parse "//and" = .ok f ∧ .and ∉ f.logical ∧ problems "//and" = [.logicalOperator .and] := by
  intro e f
  have missed : parse "//*[@text=\"a\" and@class=\"b\"]" = .ok e := by with_unfolding_all rfl
  have named : parse "//and" = .ok f := by with_unfolding_all rfl
  have quiet : scanProblems "//*[@text=\"a\" and@class=\"b\"]".toList = [] := by decide +kernel
  have loud : scanProblems "//and".toList = [.logicalOperator .and] := by
    with_unfolding_all rfl
  refine ⟨missed, by decide, ?_, named, by decide, ?_⟩
  · rw [problems, quiet, missed]
  · rw [problems, loud]

end ElementLocator.XPath
