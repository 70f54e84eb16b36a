import ElementLocator.Proofs.Selector.Advancing
/-! Which tokens may come next. The reader goes along whatever the grammar derives, except past a
number or a selector beyond one of the two limits, and the tokens that it has taken can always be
completed to a selector. -/
namespace ElementLocator.Selector

def Sentence (ts : List Token) : Prop :=
  ∃ us s ending, Derives us s ∧ ending.kind = .ending ∧ ts = us ++ [ending]

def Kind.sample (kind : Kind) : Token := ⟨kind, kind.text, 0⟩

inductive Closes : List Token → Prop where
  | ending {ending : Token} (isEnding : ending.kind = .ending) : Closes [ending]
  | semicolon {semicolon ending : Token} (isSemicolon : semicolon.kind = .semicolon)
      (isEnding : ending.kind = .ending) : Closes [semicolon, ending]

inductive Exceeds (spare : Nat) (t : Token) : Progress → Prop where
  | number {calls frames name} (is : t.kind = .number) (range : t.arg? = none) :
      Exceeds spare t ⟨calls, frames, .argument name⟩
  | nested {calls frames name} (is : t.kind = .new) (full : spare ≤ frames.length) :
      Exceeds spare t ⟨calls, frames, .argument name⟩

inductive Goes (spare : Nat) (Q : Progress → Prop) : Progress → List Token → Prop where
  | done {p : Progress} (there : Q p) : Goes spare Q p []
  | more {p next : Progress} {t : Token} {ts : List Token} (step : Step spare t p next)
      (others : Goes spare Q next ts) : Goes spare Q p (t :: ts)
  | stop {p : Progress} {t : Token} {ts : List Token} (exceeds : Exceeds spare t p) :
      Goes spare Q p (t :: ts)

def InChain (frames : List Frame) (q : Progress) : Prop := ∃ calls, q = ⟨calls, frames, .chain⟩

def Whole (q : Progress) : Prop := q = .start ∨ InChain [] q

variable {spare : Nat} {P Q : Progress → Prop} {t : Token} {p q next : Progress}
  {ts us read rest outer head : List Token} {frames : List Frame} {calls : List Call} {call : Call}

theorem stepTakes (step : Step spare t p next) : p.take? spare t = some next := by
  cases step with
  | plain is => exact takePlain is
  | enter is room => exact takeNested is room
  | new is | first is | uiSelector is | opened is | closed is | dot is | name is | opening is
  | empty is | call is | leave is => simp [Progress.take?, is, Progress.selector]

theorem exceedsStuck (exceeds : Exceeds spare t p) : p.take? spare t = none := by
  cases exceeds with
  | number is range => simp [Progress.take?, is, range]
  | nested is full => simp [Progress.take?, is, Nat.not_lt.mpr full]

/- The reader goes along what the grammar derives. -/

theorem goesAppend (first : Goes spare P p ts) (more : ∀ q, P q → Goes spare Q q us) :
    Goes spare Q p (ts ++ us) := by
  induction first with
  | done there => exact more _ there
  | more step _ ih => exact .more step ih
  | stop exceeds => exact .stop exceeds

theorem goesMono (goes : Goes spare P p ts) (weaker : ∀ q, P q → Q q) : Goes spare Q p ts := by
  have further := goesAppend goes fun q there => Goes.done (weaker q there)
  rwa [List.append_nil] at further

theorem denotesRange {arg : Arg} (denotes : Denotes t arg) (range : t.arg? = none) :
    t.kind = .number := by
  cases denotes with
  | number is => exact is
  | string is | yes is | no is | name is => simp [Token.arg?, is] at range

mutual
theorem goesCalls {ts : List Token} {calls : List Call} (derived : DerivesCalls ts calls)
    (before : List Call) (frames : List Frame) :
    Goes spare (InChain frames) ⟨before, frames, .chain⟩ ts := by
  cases derived with
  | none => exact .done ⟨before, rfl⟩
  | more first others =>
    refine goesAppend (goesCall first before frames) ?_
    rintro q ⟨after, rfl⟩
    exact goesCalls others after frames

theorem goesCall {ts : List Token} {call : Call} (derived : DerivesCall ts call)
    (before : List Call) (frames : List Frame) :
    Goes spare (InChain frames) ⟨before, frames, .chain⟩ ts := by
  cases derived with
  | @mk dot name opening closing _ _ isDot isName isOpening argument isClosing =>
    have inside := goesArgs argument before frames name.literal closing isClosing
    exact .more (.dot isDot) (.more (.name isName) (.more (.opening isOpening) inside))

theorem goesArgs {ts : List Token} {args : List Arg} (derived : DerivesArgs ts args)
    (before : List Call) (frames : List Frame) (name : String) (closing : Token)
    (isClosing : closing.kind = .closing) :
    Goes spare (InChain frames) ⟨before, frames, .argument name⟩ (ts ++ [closing]) := by
  cases derived with
  | none => exact .more (.empty isClosing) (.done ⟨_, rfl⟩)
  | @plain t arg denotes =>
    cases value : t.arg? with
    | none => exact .stop (.number (denotesRange denotes value) value)
    | some arg => exact .more (.plain value) (.more (.call isClosing) (.done ⟨_, rfl⟩))
  | @nested _ ts calls start derived =>
    cases start with
    | mk isNew isUiSelector isOpening isClosed =>
      by_cases room : frames.length < spare
      · have inner : Goes spare (InChain frames)
            ⟨[], ⟨before, name⟩ :: frames, .chain⟩ (ts ++ [closing]) := by
          refine goesAppend (goesCalls derived [] (⟨before, name⟩ :: frames)) ?_
          rintro q ⟨after, rfl⟩
          exact .more (.leave isClosing) (.done ⟨_, rfl⟩)
        exact .more (.enter isNew room) (.more (.uiSelector isUiSelector)
          (.more (.opened isOpening) (.more (.closed isClosed) inner)))
      · exact .stop (.nested isNew (Nat.not_lt.mp room))
end

theorem goesFirst (derived : DerivesCall ts call) : Goes spare (InChain []) .start ts := by
  cases derived with
  | @mk dot name opening closing _ _ isDot isName isOpening argument isClosing =>
    exact .more (.first isDot) (.more (.name isName) (.more (.opening isOpening)
      (goesArgs argument [] [] name.literal closing isClosing)))

theorem goesConstructor (constructor : Constructor head) :
    Goes spare (InChain []) .start head := by
  cases constructor with
  | mk isNew isUiSelector isOpening isClosing =>
    exact .more (.new isNew) (.more (.uiSelector isUiSelector) (.more (.opened isOpening)
      (.more (.closed isClosing) (.done ⟨[], rfl⟩))))

theorem goesOn (derived : DerivesCalls ts calls) (there : InChain [] q) :
    Goes spare Whole q ts := by
  obtain ⟨before, rfl⟩ := there
  exact goesMono (goesCalls derived before []) fun q => Or.inr

theorem goesWhole (start : head = [] ∨ Constructor head) (derived : DerivesCalls ts calls) :
    Goes spare Whole .start (head ++ ts) := by
  rcases start with rfl | constructor
  · rw [List.nil_append]
    cases derived with
    | none => exact .done (Or.inl rfl)
    | more first others => exact goesAppend (goesFirst first) fun _ => goesOn others
  · exact goesAppend (goesConstructor constructor) fun _ => goesOn derived

theorem sentenceGoes (spare : Nat) (sentence : Sentence ts) :
    ∃ us closes, ts = us ++ closes ∧ Goes spare Whole .start us ∧ Closes closes := by
  obtain ⟨us, s, ending, derived, isEnding, rfl⟩ := sentence
  cases derived with
  | @mk head us tail calls start derived stop =>
    refine ⟨head ++ us, tail ++ [ending], by simp, goesWhole start derived, ?_⟩
    rcases stop with rfl | ⟨semicolon, rfl, isSemicolon⟩
    · exact .ending isEnding
    · exact .semicolon isSemicolon isEnding

/- The reader has only one way to go, so it has gone that way when it is stuck. -/

theorem goesStuck (goes : Goes spare Q p ts) (steps : Steps spare p read q)
    (same : ts ++ us = read ++ t :: rest) (stuck : q.take? spare t = none) :
    Exceeds spare t q ∨ ∃ p' left, Q p' ∧ Steps spare p' left q ∧ us = left ++ t :: rest := by
  induction goes generalizing read with
  | @done p there => exact Or.inr ⟨p, read, there, steps, same⟩
  | @more p next u ts step others ih =>
    have taken := stepTakes step
    cases steps with
    | done =>
      obtain ⟨rfl, _⟩ := List.cons.inj same
      rw [taken] at stuck
      cases stuck
    | more other further =>
      obtain ⟨rfl, tails⟩ := List.cons.inj same
      rw [stepTakes other] at taken
      cases taken
      exact ih further tails
  | @stop p u ts exceeds =>
    cases steps with
    | done =>
      obtain ⟨rfl, _⟩ := List.cons.inj same
      exact Or.inl exceeds
    | more other further =>
      obtain ⟨rfl, _⟩ := List.cons.inj same
      have none := exceedsStuck exceeds
      rw [stepTakes other] at none
      cases none

theorem closesStuck (closes : Closes us) (steps : Steps spare p read q)
    (same : us = read ++ ts) : read = [] := by
  cases steps with
  | done => rfl
  | more step =>
    obtain ⟨noEnding, noSemicolon⟩ := stepKind step
    cases closes with
    | ending isEnding =>
      obtain ⟨rfl, _⟩ := List.cons.inj same
      exact absurd isEnding noEnding
    | semicolon isSemicolon =>
      obtain ⟨rfl, _⟩ := List.cons.inj same
      exact absurd isSemicolon noSemicolon

theorem sentenceStuck (sentence : Sentence (read ++ t :: rest))
    (steps : Steps spare .start read q) (stuck : q.take? spare t = none) :
    Exceeds spare t q ∨ Whole q ∧ Closes (t :: rest) := by
  obtain ⟨us, left, same, goes, closes⟩ := sentenceGoes spare sentence
  refine (goesStuck goes steps same.symm stuck).imp_right ?_
  rintro ⟨p, more, whole, further, rfl⟩
  obtain rfl := closesStuck closes further rfl
  cases further
  exact ⟨whole, closes⟩

/- What has been taken can be completed, from the present selector outwards. -/

theorem aroundCompleted (around : Around spare outer frames) (begins : Begins frames head)
    (derived : DerivesCalls ts calls) :
    ∃ rest s, Derives (outer ++ (head ++ (ts ++ rest))) s := by
  induction around generalizing head ts calls with
  | none =>
    have start : head = [] ∨ Constructor head := begins.symm.imp And.left id
    have whole : Derives (head ++ (ts ++ [])) (.mk calls) := .mk start derived (Or.inl rfl)
    exact ⟨[], .mk calls, whole⟩
  | frame _ outerBegins outer _ opens _ ih =>
    rcases begins with start | ⟨_, none⟩
    · have isClosing : Kind.closing.sample.kind = .closing := rfl
      have call := derivesSingle (callOpened opens (.nested start derived) isClosing)
      obtain ⟨rest, s, whole⟩ := ih outerBegins (derivesAppend outer call)
      exact ⟨Kind.closing.sample :: rest, s, by simpa using whole⟩
    · cases none

theorem begunCompleted {phase : Phase} (begun : Begun us phase) :
    ∃ more calls, DerivesCalls (us ++ more) calls := by
  have isClosing : Kind.closing.sample.kind = .closing := rfl
  have isOpening : Kind.opening.sample.kind = .opening := rfl
  have isName : Kind.name.sample.kind = .name := rfl
  cases begun with
  | chain => exact ⟨[], [], .none⟩
  | dot isDot =>
    exact ⟨_, _, derivesSingle (.mk isDot isName isOpening .none isClosing)⟩
  | name isDot isName =>
    exact ⟨_, _, derivesSingle (.mk isDot isName isOpening .none isClosing)⟩
  | argument opens => exact ⟨_, _, derivesSingle (callOpened opens .none isClosing)⟩
  | argumentRead opens denotes =>
    have call := derivesSingle (callOpened opens (.plain denotes) isClosing)
    exact ⟨[Kind.closing.sample], _, by simpa using call⟩

theorem readingCompleted (reading : Reading spare ts p) : ∃ rest s, Derives (ts ++ rest) s := by
  have isUiSelector : Kind.uiSelector.sample.kind = .uiSelector := rfl
  have isOpening : Kind.opening.sample.kind = .opening := rfl
  have isClosing : Kind.closing.sample.kind = .closing := rfl
  cases reading with
  | start => exact aroundCompleted (Around.none : Around spare [] []) (Or.inr ⟨rfl, rfl⟩) .none
  | new around isNew =>
    have start := Constructor.mk isNew isUiSelector isOpening isClosing
    obtain ⟨rest, s, whole⟩ := aroundCompleted around (Or.inl start) .none
    exact ⟨_ :: _ :: _ :: rest, s, by simpa using whole⟩
  | uiSelector around isNew isUiSelector =>
    have start := Constructor.mk isNew isUiSelector isOpening isClosing
    obtain ⟨rest, s, whole⟩ := aroundCompleted around (Or.inl start) .none
    exact ⟨_ :: _ :: rest, s, by simpa using whole⟩
  | opened around isNew isUiSelector isOpening =>
    have start := Constructor.mk isNew isUiSelector isOpening isClosing
    obtain ⟨rest, s, whole⟩ := aroundCompleted around (Or.inl start) .none
    exact ⟨_ :: rest, s, by simpa using whole⟩
  | within around begins derived shallow begun =>
    obtain ⟨more, calls, further⟩ := begunCompleted begun
    obtain ⟨rest, s, whole⟩ := aroundCompleted around begins (derivesAppend derived further)
    exact ⟨more ++ rest, s, by simpa using whole⟩

end ElementLocator.Selector
