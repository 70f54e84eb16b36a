import ElementLocator.Proofs.Selector.Derivation
import ElementLocator.Proofs.Selector.Steps
/-! A source is read as a selector exactly if the grammar derives the selector from its tokens. One
invariant of the reader says what has been derived from the tokens taken so far, for the present
selector and for those around it; every step keeps it. -/
namespace ElementLocator.Selector
open ElementLocator.Text

inductive Opens : List Token → String → Prop where
  | mk {dot name opening : Token} (isDot : dot.kind = .dot) (isName : name.kind = .name)
      (isOpening : opening.kind = .opening) : Opens [dot, name, opening] name.literal

def Begins (frames : List Frame) (head : List Token) : Prop :=
  Constructor head ∨ head = [] ∧ frames = []

inductive Around (spare : Nat) : List Token → List Frame → Prop where
  | none : Around spare [] []
  | frame {outer head ts us : List Token} {frames : List Frame} {before : List Call}
      {name : String} (around : Around spare outer frames) (begins : Begins frames head)
      (derived : DerivesCalls ts before.reverse)
      (shallow : frames.length + depthOfCalls before.reverse ≤ spare) (opens : Opens us name)
      (room : frames.length < spare) :
      Around spare (outer ++ (head ++ (ts ++ us))) (⟨before, name⟩ :: frames)

inductive Begun : List Token → Phase → Prop where
  | chain : Begun [] .chain
  | dot {dot : Token} (isDot : dot.kind = .dot) : Begun [dot] .dot
  | name {dot name : Token} (isDot : dot.kind = .dot) (isName : name.kind = .name) :
      Begun [dot, name] (.name name.literal)
  | argument {us : List Token} {name : String} (opens : Opens us name) :
      Begun us (.argument name)
  | argumentRead {us : List Token} {name : String} {t : Token} {arg : Arg} (opens : Opens us name)
      (denotes : Denotes t arg) : Begun (us ++ [t]) (.argumentRead name arg)

inductive Reading (spare : Nat) : List Token → Progress → Prop where
  | start : Reading spare [] .start
  | new {outer : List Token} {frames : List Frame} {new : Token}
      (around : Around spare outer frames) (isNew : new.kind = .new) :
      Reading spare (outer ++ [new]) ⟨[], frames, .new⟩
  | uiSelector {outer : List Token} {frames : List Frame} {new word : Token}
      (around : Around spare outer frames) (isNew : new.kind = .new)
      (isWord : word.kind = .uiSelector) :
      Reading spare (outer ++ [new, word]) ⟨[], frames, .uiSelector⟩
  | opened {outer : List Token} {frames : List Frame} {new word opening : Token}
      (around : Around spare outer frames) (isNew : new.kind = .new)
      (isWord : word.kind = .uiSelector) (isOpening : opening.kind = .opening) :
      Reading spare (outer ++ [new, word, opening]) ⟨[], frames, .opened⟩
  | within {outer head ts us : List Token} {frames : List Frame} {before : List Call}
      {phase : Phase} (around : Around spare outer frames) (begins : Begins frames head)
      (derived : DerivesCalls ts before.reverse)
      (shallow : frames.length + depthOfCalls before.reverse ≤ spare) (begun : Begun us phase) :
      Reading spare (outer ++ (head ++ (ts ++ us))) ⟨before, frames, phase⟩

def Cursor.sole (c : Cursor) : Except SourceFault Selector :=
  c.next.1.bind fun s =>
    if c.next.2.atEnd then .ok s
    else .error (.parse (.expected .ending c.next.2.peek) c.next.2.peek.offset)

variable {spare : Nat} {t last : Token} {p q next : Progress} {s : Selector} {name : String}
  {outer head ts us inside taken : List Token} {frames : List Frame} {before calls : List Call}
  {args : List Arg} {call : Call}

theorem derivesAppend {ts us : List Token} {calls more : List Call}
    (derived : DerivesCalls ts calls) (others : DerivesCalls us more) :
    DerivesCalls (ts ++ us) (calls ++ more) := by
  cases derived with
  | none => exact others
  | more first rest =>
    rw [List.append_assoc]
    exact .more first (derivesAppend rest others)

theorem derivesSingle (derived : DerivesCall ts call) : DerivesCalls ts [call] := by
  have single := DerivesCalls.more derived .none
  rwa [List.append_nil] at single

theorem depthAppend (calls more : List Call) :
    depthOfCalls (calls ++ more) = max (depthOfCalls calls) (depthOfCalls more) := by
  induction calls with
  | nil => rw [List.nil_append, depthOfCalls, Nat.zero_max]
  | cons call rest ih =>
    obtain ⟨name, args⟩ := call
    rw [List.cons_append, depthOfCalls, depthOfCalls, ih, Nat.max_assoc]

theorem aroundRoom (around : Around spare outer frames) : frames.length ≤ spare := by
  cases around with
  | none => exact Nat.zero_le _
  | frame _ _ _ _ _ room => exact room

theorem depthOfDenotes {arg : Arg} (denotes : Denotes t arg) : depthOfArgs [arg] = 0 := by
  cases denotes <;> rfl

theorem readingFirst {phase : Phase} (around : Around spare outer frames)
    (begins : Begins frames head) (begun : Begun us phase) :
    Reading spare (outer ++ (head ++ us)) ⟨[], frames, phase⟩ := by
  have nothing : DerivesCalls [] ([] : List Call).reverse := .none
  have shallow : frames.length + depthOfCalls ([] : List Call).reverse ≤ spare :=
    aroundRoom around
  exact .within around begins nothing shallow begun

theorem callOpened (opens : Opens us name) (derived : DerivesArgs inside args)
    (isClosing : t.kind = .closing) : DerivesCall (us ++ (inside ++ [t])) (.mk name args) := by
  cases opens with
  | mk isDot isName isOpening => exact .mk isDot isName isOpening derived isClosing

theorem readingCall (around : Around spare outer frames) (begins : Begins frames head)
    (derived : DerivesCalls ts before.reverse)
    (shallow : frames.length + depthOfCalls before.reverse ≤ spare) (opens : Opens us name)
    (argument : DerivesArgs inside args) (room : frames.length + depthOfArgs args ≤ spare)
    (isClosing : t.kind = .closing) :
    Reading spare (outer ++ (head ++ (ts ++ (us ++ inside))) ++ [t])
      ⟨.mk name args :: before, frames, .chain⟩ := by
  have more : DerivesCalls (ts ++ (us ++ (inside ++ [t])))
      (Call.mk name args :: before).reverse := by
    rw [List.reverse_cons]
    exact derivesAppend derived (derivesSingle (callOpened opens argument isClosing))
  have whole := Reading.within around begins more (by
    rw [List.reverse_cons, depthAppend, depthOfCalls, depthOfCalls]
    omega) .chain
  simpa using whole

/- One case for every step that the reader can take; the invariant fixes what it took before. -/

theorem readingStep (reading : Reading spare taken p) (genuine : Genuine t)
    (step : Step spare t p next) : Reading spare (taken ++ [t]) next := by
  cases step with
  | new is =>
    cases reading with
    | start => exact .new .none is
    | within _ _ _ _ begun => cases begun
  | first is =>
    cases reading with
    | start => exact readingFirst .none (Or.inr ⟨rfl, rfl⟩) (.dot is)
    | within _ _ _ _ begun => cases begun
  | uiSelector is =>
    cases reading with
    | new around isNew => simpa using Reading.uiSelector around isNew is
    | within _ _ _ _ begun => cases begun
  | opened is =>
    cases reading with
    | uiSelector around isNew isWord => simpa using Reading.opened around isNew isWord is
    | within _ _ _ _ begun => cases begun
  | closed is =>
    cases reading with
    | opened around isNew isWord isOpening =>
      have whole := readingFirst around (Or.inl (.mk isNew isWord isOpening is)) .chain
      simpa using whole
    | within _ _ _ _ begun => cases begun
  | dot is =>
    cases reading with
    | within around begins derived shallow begun =>
      cases begun
      simpa using Reading.within around begins derived shallow (.dot is)
  | name is =>
    cases reading with
    | within around begins derived shallow begun =>
      cases begun with
      | dot isDot => simpa using Reading.within around begins derived shallow (.name isDot is)
  | opening is =>
    cases reading with
    | within around begins derived shallow begun =>
      cases begun with
      | name isDot isName =>
        simpa using
          Reading.within around begins derived shallow (.argument (.mk isDot isName is))
  | empty is =>
    cases reading with
    | within around begins derived shallow begun =>
      cases begun with
      | argument opens =>
        have room := aroundRoom around
        simpa using readingCall around begins derived shallow opens .none
          (by simpa [depthOfArgs] using room) is
  | plain is =>
    cases reading with
    | within around begins derived shallow begun =>
      cases begun with
      | argument opens =>
        have denotes := (denotesOfArg is genuine).1
        simpa using Reading.within around begins derived shallow (.argumentRead opens denotes)
  | call is =>
    cases reading with
    | within around begins derived shallow begun =>
      cases begun with
      | argumentRead opens denotes =>
        have room := aroundRoom around
        have flat : depthOfArgs [_] = 0 := depthOfDenotes denotes
        simpa using readingCall around begins derived shallow opens (.plain denotes)
          (by simpa [flat] using room) is
  | enter is room =>
    cases reading with
    | within around begins derived shallow begun =>
      cases begun with
      | argument opens => exact .new (.frame around begins derived shallow opens room) is
  | leave is =>
    cases reading with
    | within around begins derived shallow begun =>
      cases begun
      cases around with
      | frame around outerBegins outer outerShallow opens room =>
        rcases begins with start | ⟨_, none⟩
        · have whole := readingCall around outerBegins outer outerShallow opens
            (.nested start derived) (by
              rw [depthOfArgs, depthOfArgs, depth]
              simp only [List.length_cons] at shallow
              omega) is
          simpa using whole
        · cases none

theorem readingSteps (reading : Reading spare taken p) (steps : Steps spare p ts q)
    (genuine : ∀ t ∈ ts, Genuine t) : Reading spare (taken ++ ts) q := by
  induction steps generalizing taken with
  | done => rwa [List.append_nil]
  | more step _ ih =>
    obtain ⟨first, others⟩ := List.forall_mem_cons.mp genuine
    rw [List.append_cons]
    exact ih (readingStep reading first step) others

theorem stepInRange (step : Step spare t p next) (genuine : Genuine t) : InRange t := by
  cases step with
  | plain is => exact (denotesOfArg is genuine).2
  | new is | first is | uiSelector is | opened is | closed is | dot is | name is | opening is
  | empty is | call is | enter is | leave is =>
    intro number
    rw [is] at number
    cases number

theorem stepsInRange (steps : Steps spare p ts q) (genuine : ∀ t ∈ ts, Genuine t) :
    ∀ t ∈ ts, InRange t := by
  induction steps with
  | done => simp
  | more step _ ih =>
    obtain ⟨first, others⟩ := List.forall_mem_cons.mp genuine
    exact List.forall_mem_cons.mpr ⟨stepInRange step first, ih others⟩

theorem readingDone (reading : Reading spare taken p) (done : p.outcome t = .ok s) :
    ∃ head ts calls, taken = head ++ ts ∧ (head = [] ∨ Constructor head) ∧
      DerivesCalls ts calls ∧ s = .mk calls ∧ depthOfCalls calls ≤ spare := by
  cases reading with
  | start =>
    cases done
    exact ⟨[], [], [], rfl, Or.inl rfl, .none, rfl, Nat.zero_le _⟩
  | new | uiSelector | opened => cases done
  | @within outer head ts us frames before phase around begins derived shallow begun =>
    cases begun with
    | chain =>
      cases around with
      | none =>
        cases done
        have start : head = [] ∨ Constructor head := begins.symm.imp And.left id
        exact ⟨head, ts, _, by simp, start, derived, rfl, by simpa using shallow⟩
      | frame => cases done
    | argument =>
      simp only [Progress.outcome] at done
      split at done <;> cases done
    | dot | name | argumentRead => cases done

theorem swallowed (done : p.outcome t = .ok s) (swallows : p.swallows t = true) :
    t.kind = .semicolon := by
  obtain ⟨calls, frames, phase⟩ := p
  cases phase with
  | start => exact of_decide_eq_true swallows
  | chain => exact of_decide_eq_true (Bool.and_eq_true_iff.mp swallows).2
  | argument name =>
    simp only [Progress.outcome] at done
    split at done <;> cases done
  | _ => cases swallows

theorem aheadMember (member : t ∈ (p.run spare last ts).ahead) : t ∈ ts := by
  obtain ⟨read, rest, q, rfl, _, halts⟩ := runHalts spare last p ts
  generalize p.run spare last (read ++ rest) = stop at member halts
  cases halts with
  | last => cases member
  | stuck =>
    simp only at member
    split at member <;> simp_all

theorem runDerives (genuine : ∀ t ∈ ts, Genuine t)
    (done : (Progress.start.run spare last ts).outcome = .ok s)
    (all : (Progress.start.run spare last ts).ahead = []) :
    Derives ts s ∧ (∀ t ∈ ts, InRange t) ∧ s.depth ≤ spare + 1 := by
  obtain ⟨read, rest, q, rfl, steps, halts⟩ := runHalts spare last .start ts
  have taken : ∀ t ∈ read, Genuine t := fun t member => genuine t (by simp [member])
  have reading : Reading spare read q := readingSteps .start steps taken
  have range := stepsInRange steps taken
  generalize Progress.start.run spare last (read ++ rest) = stop at done all halts
  cases halts with
  | last =>
    obtain ⟨head, ts, calls, rfl, start, derived, rfl, depth⟩ := readingDone reading done
    refine ⟨?_, by simpa using range, ?_⟩
    · rw [List.append_assoc]
      exact .mk start derived (Or.inl rfl)
    · rw [Selector.depth]
      omega
  | @stuck t rest =>
    obtain ⟨head, ts, calls, rfl, start, derived, rfl, depth⟩ := readingDone reading done
    cases swallows : q.swallows t with
    | false => simp [swallows] at all
    | true =>
      have none : rest = [] := by simpa [swallows] using all
      have isSemicolon := swallowed done swallows
      subst none
      refine ⟨?_, ?_, ?_⟩
      · rw [List.append_assoc]
        exact .mk start derived (Or.inr ⟨t, rfl, isSemicolon⟩)
      · refine List.forall_mem_append.mpr ⟨range, ?_⟩
        simp [InRange, isSemicolon]
      · rw [Selector.depth]
        omega

/- The other direction: the reader follows a derivation. -/

theorem runStart (noNew : ∀ t ∈ ts.head?, t.kind ≠ .new) :
    Progress.start.run spare last ts = Progress.run spare last ⟨[], [], .chain⟩ ts := by
  cases ts with
  | nil => rfl
  | cons t rest =>
    have other := noNew t rfl
    rw [Progress.run, Progress.run]
    cases kind : t.kind with
    | new => exact absurd kind other
    | _ => simp [Progress.take?, Progress.start, kind, Progress.outcome, Progress.swallows,
        Progress.unfinished, Progress.selector]

theorem derivedHead (derived : DerivesCalls ts calls) : ∀ t ∈ ts.head?, t.kind = .dot := by
  cases derived with
  | none => simp
  | more first _ =>
    cases first with
    | mk isDot => simpa using isDot

theorem runBegun (start : head = [] ∨ Constructor head) (noNew : ∀ t ∈ ts.head?, t.kind ≠ .new) :
    Progress.start.run spare last (head ++ ts) =
      Progress.run spare last ⟨[], [], .chain⟩ ts := by
  rcases start with rfl | constructor
  · exact runStart noNew
  · cases constructor with
    | @mk new uiSelector opening closing isNew isUiSelector isOpening isClosing =>
      have begun : Progress.take? spare .start new = some ⟨[], [], .new⟩ := by
        simp [Progress.take?, Progress.start, isNew]
      simp only [List.cons_append, List.nil_append]
      rw [runStep begun, runConstructor isUiSelector isOpening isClosing]

theorem runDerived (derived : Derives ts s) (fit : ∀ t ∈ ts, Genuine t ∧ InRange t)
    (room : s.depth ≤ spare + 1) : Progress.start.run spare last ts = ⟨.ok s, [], 0⟩ := by
  cases derived with
  | @mk head ts tail calls start derived stop =>
    rw [Selector.depth] at room
    have chain := chainOfCalls derived fun t member => fit t (by simp [member])
    have noNew : ∀ t ∈ (ts ++ tail).head?, t.kind ≠ .new := by
      intro t first
      cases ts with
      | nil =>
        rcases stop with rfl | ⟨semicolon, rfl, isSemicolon⟩
        · cases first
        · cases first
          simp [isSemicolon]
      | cons dot more =>
        have isDot : dot.kind = .dot := derivedHead derived dot rfl
        cases first
        simp [isDot]
    rw [runBegun start noNew, runToEnd chain (by omega) stop]

theorem atEndIff {ending : Token} (isEnding : ending.kind = .ending) (genuine : ∀ t ∈ ts, Genuine t)
    (spare : Nat) : (Cursor.mk ts ending spare).atEnd = true ↔ ts = [] := by
  cases ts with
  | nil => simp [Cursor.atEnd, Cursor.peek, isEnding]
  | cons t rest =>
    have proper : t.kind ≠ .ending := (genuine t (by simp)).proper
    simp [Cursor.atEnd, Cursor.peek, proper]

theorem parseTokens {source : String} (found : tokens (unwrap source) = .ok ts) :
    parse source = (Cursor.ofTokens ts).sole := by
  rw [tokens, unwrap, String.toList_ofList] at found
  rw [parse, found]
  rfl

theorem readToEnd {ending : Token} (isEnding : ending.kind = .ending)
    (genuine : ∀ t ∈ ts, Genuine t) {source : String}
    (found : tokens (unwrap source) = .ok (ts ++ [ending])) :
    parse source = .ok s ↔ (Progress.start.run maxNesting ending ts).outcome = .ok s ∧
      (Progress.start.run maxNesting ending ts).ahead = [] := by
  have cursor : Cursor.ofTokens (ts ++ [ending]) = ⟨ts, ending, maxNesting⟩ := by
    simp [Cursor.ofTokens, isEnding]
  have left : ∀ t ∈ (Progress.start.run maxNesting ending ts).ahead, Genuine t :=
    fun t member => genuine t (aheadMember member)
  rw [parseTokens found, cursor, Cursor.sole]
  generalize run : Progress.start.run maxNesting ending ts = stop at left
  simp only [Cursor.next, run]
  cases stop.outcome with
  | error fault => simp [Except.bind]
  | ok read =>
    simp only [Except.bind, Except.ok.injEq]
    split
    · rename_i finished
      have nothing : stop.ahead = [] := (atEndIff isEnding left _).mp finished
      simp [nothing]
    · rename_i unfinished
      have something : stop.ahead ≠ [] := fun nothing =>
        unfinished ((atEndIff isEnding left _).mpr nothing)
      simp [something]

theorem tokensOfParsed {source : String} (parsed : parse source = .ok s) :
    ∃ ts ending, tokens (unwrap source) = .ok (ts ++ [ending]) ∧ ending.kind = .ending ∧
      ∀ t ∈ ts, Genuine t := by
  rw [tokens, unwrap, String.toList_ofList]
  cases found : tokensFrom 0 (unwrapped source.toList) with
  | error fault =>
    rw [parse, found] at parsed
    cases parsed
  | ok all =>
    obtain ⟨ts, ending, rfl, rest⟩ := tokensGenuine found
    exact ⟨ts, ending, rfl, rest⟩

theorem parsedDerives {source : String} (parsed : parse source = .ok s) :
    ∃ ts ending, tokens (unwrap source) = .ok (ts ++ [ending]) ∧ ending.kind = .ending ∧
      Derives ts s ∧ (∀ t ∈ ts, Genuine t ∧ InRange t) ∧ s.depth ≤ maxNesting + 1 := by
  obtain ⟨ts, ending, found, isEnding, genuine⟩ := tokensOfParsed parsed
  obtain ⟨done, all⟩ := (readToEnd isEnding genuine found).mp parsed
  obtain ⟨derived, range, depth⟩ := runDerives genuine done all
  exact ⟨ts, ending, found, isEnding, derived, fun t member => ⟨genuine t member, range t member⟩,
    depth⟩

/-- The reader accepts exactly what the grammar derives from the tokens of a source, if every number
among them has 64 bits and no more than the greatest number of selectors are nested. -/
theorem acceptedIff (source : String) (s : Selector) :
    parse source = .ok s ↔ ∃ ts ending,
      tokens (unwrap source) = .ok (ts ++ [ending]) ∧ ending.kind = .ending ∧ Derives ts s ∧
        (∀ t ∈ ts, InRange t) ∧ s.depth ≤ maxNesting + 1 := by
  constructor
  · intro parsed
    obtain ⟨ts, ending, found, isEnding, derived, fit, depth⟩ := parsedDerives parsed
    exact ⟨ts, ending, found, isEnding, derived, fun t member => (fit t member).2, depth⟩
  · rintro ⟨ts, ending, found, isEnding, derived, range, depth⟩
    have genuine : ∀ t ∈ ts, Genuine t := by
      obtain ⟨before, stop, same, genuine⟩ := splitsGenuine (splits found)
      obtain ⟨rfl, _⟩ := List.append_inj' same rfl
      exact genuine
    have run : Progress.start.run maxNesting ending ts = ⟨.ok s, [], 0⟩ :=
      runDerived derived (fun t member => ⟨genuine t member, range t member⟩) depth
    exact (readToEnd isEnding genuine found).mpr (by simp [run])

end ElementLocator.Selector
