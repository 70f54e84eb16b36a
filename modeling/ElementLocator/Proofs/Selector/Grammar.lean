import ElementLocator.Proofs.Selector.Levels
import ElementLocator.Selector.Source
/-! The grammar of selectors as a relation between tokens and calls, and that the reader, which
takes one token at a time, follows it. -/
namespace ElementLocator.Selector

mutual
inductive Chain : List Token → List Call → Prop where
  | nil : Chain [] []
  | call {dot name opening closing : Token} {inside rest : List Token} {args : List Arg}
      {calls : List Call} (isDot : dot.kind = .dot) (isName : name.kind = .name)
      (isOpening : opening.kind = .opening) (argument : Argument inside args)
      (isClosing : closing.kind = .closing) (more : Chain rest calls) :
      Chain (dot :: name :: opening :: (inside ++ closing :: rest))
        (.mk name.literal args :: calls)

inductive Argument : List Token → List Arg → Prop where
  | none : Argument [] []
  | plain {t : Token} {arg : Arg} (is : t.arg? = some arg) : Argument [t] [arg]
  | nested {new uiSelector opening closing : Token} {ts : List Token} {calls : List Call}
      (isNew : new.kind = .new) (isUiSelector : uiSelector.kind = .uiSelector)
      (isOpening : opening.kind = .opening) (isClosing : closing.kind = .closing)
      (chain : Chain ts calls) :
      Argument (new :: uiSelector :: opening :: closing :: ts) [.nested (.mk calls)]
end

variable {spare : Nat} {last t : Token} {p next : Progress} {ts rest : List Token}
  {before calls : List Call} {frames : List Frame} {name : String} {args : List Arg}

theorem runStep (taken : p.take? spare t = some next) (rest : List Token) :
    p.run spare last (t :: rest) = next.run spare last rest := by
  rw [Progress.run, taken]

theorem takeDot (h : t.kind = .dot) :
    Progress.take? spare ⟨before, frames, .chain⟩ t = some ⟨before, frames, .dot⟩ := by
  simp [Progress.take?, h]

theorem takeName (h : t.kind = .name) :
    Progress.take? spare ⟨before, frames, .dot⟩ t = some ⟨before, frames, .name t.literal⟩ := by
  simp [Progress.take?, h]

theorem takeOpening (h : t.kind = .opening) :
    Progress.take? spare ⟨before, frames, .name name⟩ t =
      some ⟨before, frames, .argument name⟩ := by
  simp [Progress.take?, h]

theorem plainKind {arg : Arg} (is : t.arg? = some arg) : t.kind ≠ .closing ∧ t.kind ≠ .new := by
  constructor <;> (intro h; simp [Token.arg?, h] at is)

theorem takePlain {arg : Arg} (is : t.arg? = some arg) :
    Progress.take? spare ⟨before, frames, .argument name⟩ t =
      some ⟨before, frames, .argumentRead name arg⟩ := by
  have kind := plainKind is
  cases h : t.kind with
  | closing => exact absurd h kind.1
  | new => exact absurd h kind.2
  | _ => simp [Progress.take?, h, is]

theorem takeNested (isNew : t.kind = .new) (room : frames.length < spare) :
    Progress.take? spare ⟨before, frames, .argument name⟩ t =
      some ⟨[], ⟨before, name⟩ :: frames, .new⟩ := by
  simp [Progress.take?, isNew, room]

theorem runConstructor {uiSelector opening closing : Token}
    (isUiSelector : uiSelector.kind = .uiSelector) (isOpening : opening.kind = .opening)
    (isClosing : closing.kind = .closing) (before : List Call) (frames : List Frame)
    (rest : List Token) :
    Progress.run spare last ⟨before, frames, .new⟩ (uiSelector :: opening :: closing :: rest) =
      Progress.run spare last ⟨before, frames, .chain⟩ rest := by
  have first : Progress.take? spare ⟨before, frames, .new⟩ uiSelector =
      some ⟨before, frames, .uiSelector⟩ := by simp [Progress.take?, isUiSelector]
  have second : Progress.take? spare ⟨before, frames, .uiSelector⟩ opening =
      some ⟨before, frames, .opened⟩ := by simp [Progress.take?, isOpening]
  have third : Progress.take? spare ⟨before, frames, .opened⟩ closing =
      some ⟨before, frames, .chain⟩ := by simp [Progress.take?, isClosing]
  rw [runStep first, runStep second, runStep third]

mutual
theorem runChain {ts : List Token} {calls : List Call} (chain : Chain ts calls)
    (before : List Call) (frames : List Frame)
    (room : frames.length + depthOfCalls calls ≤ spare) (rest : List Token) :
    Progress.run spare last ⟨before, frames, .chain⟩ (ts ++ rest) =
      Progress.run spare last ⟨calls.reverse ++ before, frames, .chain⟩ rest := by
  cases chain with
  | nil => rfl
  | @call dot name opening closing inside more args calls isDot isName isOpening argument isClosing
      chain =>
    rw [depthOfCalls] at room
    have taken := runArgument argument before frames name.literal closing isClosing
      (by omega) (more ++ rest)
    have others := runChain chain (.mk name.literal args :: before) frames (by omega) rest
    have shape : dot :: name :: opening :: (inside ++ closing :: more) ++ rest =
        dot :: name :: opening :: (inside ++ closing :: (more ++ rest)) := by simp
    rw [shape, runStep (takeDot isDot), runStep (takeName isName), runStep (takeOpening isOpening),
      taken, others]
    simp

theorem runArgument {ts : List Token} {args : List Arg} (argument : Argument ts args)
    (before : List Call) (frames : List Frame) (name : String) (closing : Token)
    (isClosing : closing.kind = .closing) (room : frames.length + depthOfArgs args ≤ spare)
    (rest : List Token) :
    Progress.run spare last ⟨before, frames, .argument name⟩ (ts ++ closing :: rest) =
      Progress.run spare last ⟨.mk name args :: before, frames, .chain⟩ rest := by
  cases argument with
  | none =>
    have closed : Progress.take? spare ⟨before, frames, .argument name⟩ closing =
        some ⟨.mk name [] :: before, frames, .chain⟩ := by simp [Progress.take?, isClosing]
    exact runStep closed rest
  | @plain t arg is =>
    have closed : Progress.take? spare ⟨before, frames, .argumentRead name arg⟩ closing =
        some ⟨.mk name [arg] :: before, frames, .chain⟩ := by simp [Progress.take?, isClosing]
    rw [List.cons_append, List.nil_append, runStep (takePlain is), runStep closed]
  | @nested new uiSelector opening closed ts calls isNew isUiSelector isOpening isClosed chain =>
    rw [depthOfArgs, depth] at room
    have inner := runChain chain [] (⟨before, name⟩ :: frames)
      (by simp only [List.length_cons]; omega) (closing :: rest)
    have ended : Progress.take? spare ⟨calls.reverse, ⟨before, name⟩ :: frames, .chain⟩ closing =
        some ⟨.mk name [.nested (.mk calls)] :: before, frames, .chain⟩ := by
      simp [Progress.take?, isClosing, Progress.selector]
    have deeper : frames.length < spare := by omega
    rw [List.append_nil] at inner
    simp only [List.cons_append]
    rw [runStep (takeNested isNew deeper), runConstructor isUiSelector isOpening isClosed, inner,
      runStep ended]
end

theorem runToSemicolon {semicolon : Token} (chain : Chain ts calls)
    (room : depthOfCalls calls ≤ spare) (isSemicolon : semicolon.kind = .semicolon)
    (rest : List Token) : Progress.run spare last ⟨[], [], .chain⟩ (ts ++ semicolon :: rest) =
      ⟨.ok (.mk calls), rest, 0⟩ := by
  rw [runChain chain [] [] (by rw [List.length_nil]; omega)]
  simp [Progress.run, Progress.take?, Progress.outcome, Progress.swallows, Progress.unfinished,
    Progress.selector, isSemicolon]

theorem runToEnd {tail : List Token} (chain : Chain ts calls) (room : depthOfCalls calls ≤ spare)
    (stop : tail = [] ∨ ∃ semicolon : Token, tail = [semicolon] ∧ semicolon.kind = .semicolon) :
    Progress.run spare last ⟨[], [], .chain⟩ (ts ++ tail) = ⟨.ok (.mk calls), [], 0⟩ := by
  rcases stop with rfl | ⟨semicolon, rfl, isSemicolon⟩
  · rw [runChain chain [] [] (by rw [List.length_nil]; omega)]
    simp [Progress.run, Progress.outcome, Progress.unfinished, Progress.selector]
  · exact runToSemicolon chain room isSemicolon []

end ElementLocator.Selector
