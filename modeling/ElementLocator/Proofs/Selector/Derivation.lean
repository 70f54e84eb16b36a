import ElementLocator.Proofs.Selector.Splitting
/-! The grammar of selectors, rule by rule.

    selector := ["new" "UiSelector" "(" ")"] call* [";"]
    call     := "." name "(" [arg] ")"
    arg      := string | number | true | false | name | nested
    nested   := "new" "UiSelector" "(" ")" call*

What genuine tokens derive is well formed, apart from its depth. -/
namespace ElementLocator.Selector
open ElementLocator.Text

inductive Constructor : List Token → Prop where
  | mk {new uiSelector opening closing : Token} (isNew : new.kind = .new)
      (isUiSelector : uiSelector.kind = .uiSelector) (isOpening : opening.kind = .opening)
      (isClosing : closing.kind = .closing) : Constructor [new, uiSelector, opening, closing]

inductive Denotes (t : Token) : Arg → Prop where
  | string (is : t.kind = .string) : Denotes t (.str t.literal)
  | number (is : t.kind = .number) :
      Denotes t (.int (Int64.ofNat (Decimal.value t.literal.toList)))
  | yes (is : t.kind = .yes) : Denotes t (.bool true)
  | no (is : t.kind = .no) : Denotes t (.bool false)
  | name (is : t.kind = .name) : Denotes t (.ident t.literal)

mutual
inductive DerivesCalls : List Token → List Call → Prop where
  | none : DerivesCalls [] []
  | more {ts us : List Token} {call : Call} {calls : List Call} (first : DerivesCall ts call)
      (others : DerivesCalls us calls) : DerivesCalls (ts ++ us) (call :: calls)

inductive DerivesCall : List Token → Call → Prop where
  | mk {dot name opening closing : Token} {inside : List Token} {args : List Arg}
      (isDot : dot.kind = .dot) (isName : name.kind = .name) (isOpening : opening.kind = .opening)
      (argument : DerivesArgs inside args) (isClosing : closing.kind = .closing) :
      DerivesCall (dot :: name :: opening :: (inside ++ [closing])) (.mk name.literal args)

inductive DerivesArgs : List Token → List Arg → Prop where
  | none : DerivesArgs [] []
  | plain {t : Token} {arg : Arg} (denotes : Denotes t arg) : DerivesArgs [t] [arg]
  | nested {head ts : List Token} {calls : List Call} (start : Constructor head)
      (derived : DerivesCalls ts calls) : DerivesArgs (head ++ ts) [.nested (.mk calls)]
end

/-- A whole selector. Its constructor and its semicolon may be left out. -/
inductive Derives : List Token → Selector → Prop where
  | mk {head ts tail : List Token} {calls : List Call} (start : head = [] ∨ Constructor head)
      (derived : DerivesCalls ts calls)
      (stop : tail = [] ∨ ∃ semicolon : Token, tail = [semicolon] ∧ semicolon.kind = .semicolon) :
      Derives (head ++ (ts ++ tail)) (.mk calls)

def InRange (t : Token) : Prop :=
  t.kind = .number → Decimal.value t.literal.toList ≤ 9223372036854775807

variable {t : Token} {ts : List Token} {arg : Arg} {args : List Arg} {calls : List Call}

theorem argOfNumber (is : t.kind = .number) (genuine : Genuine t) :
    t.arg? = if Decimal.value t.literal.toList ≤ 9223372036854775807 then
      some (.int (Int64.ofNat (Decimal.value t.literal.toList))) else none := by
  obtain ⟨nonempty, digits⟩ := genuine.digits is
  have literal : Decimal.signed? t.literal.toList = some (Decimal.value t.literal.toList : Int) :=
    signedOfNumeral (by simpa using nonempty) digits
  rw [Token.arg?, is]
  simp only [int64?, literal, Int64.ofInt_eq_ofNat]
  split
  · rw [if_pos (by omega), Option.map_some]
  · rw [if_neg (by omega), Option.map_none]

theorem argOfDenotes (denotes : Denotes t arg) (genuine : Genuine t) (range : InRange t) :
    t.arg? = some arg := by
  cases denotes with
  | number is => rw [argOfNumber is genuine, if_pos (range is)]
  | string is | yes is | no is | name is => rw [Token.arg?, is]

theorem denotesOfArg (is : t.arg? = some arg) (genuine : Genuine t) :
    Denotes t arg ∧ InRange t := by
  have noNumber (other : t.kind ≠ .number) : InRange t := fun is => absurd is other
  cases kind : t.kind with
  | number =>
    rw [argOfNumber kind genuine] at is
    split at is
    · rename_i fits
      cases is
      exact ⟨.number kind, fun _ => fits⟩
    · cases is
  | string =>
    rw [Token.arg?, kind] at is
    cases is
    exact ⟨.string kind, noNumber (by simp [kind])⟩
  | yes =>
    rw [Token.arg?, kind] at is
    cases is
    exact ⟨.yes kind, noNumber (by simp [kind])⟩
  | no =>
    rw [Token.arg?, kind] at is
    cases is
    exact ⟨.no kind, noNumber (by simp [kind])⟩
  | name =>
    rw [Token.arg?, kind] at is
    cases is
    exact ⟨.name kind, noNumber (by simp [kind])⟩
  | _ =>
    rw [Token.arg?, kind] at is
    cases is

mutual
theorem chainOfCalls {ts : List Token} {calls : List Call} (derived : DerivesCalls ts calls)
    (fit : ∀ t ∈ ts, Genuine t ∧ InRange t) : Chain ts calls := by
  cases derived with
  | none => exact .nil
  | @more _ us _ calls first others =>
    cases first with
    | @mk dot name opening closing inside args isDot isName isOpening argument isClosing =>
      have here : Argument inside args :=
        argumentOfArgs argument fun t member => fit t (by simp [member])
      have more : Chain us calls := chainOfCalls others fun t member => fit t (by simp [member])
      have whole := Chain.call isDot isName isOpening here isClosing more
      simpa using whole

theorem argumentOfArgs {ts : List Token} {args : List Arg} (derived : DerivesArgs ts args)
    (fit : ∀ t ∈ ts, Genuine t ∧ InRange t) : Argument ts args := by
  cases derived with
  | none => exact .none
  | @plain t arg denotes =>
    obtain ⟨genuine, range⟩ := fit t (by simp)
    exact .plain (argOfDenotes denotes genuine range)
  | nested start derived =>
    have chain := chainOfCalls derived fun t member => fit t (List.mem_append_right _ member)
    cases start with
    | mk isNew isUiSelector isOpening isClosing =>
      exact .nested isNew isUiSelector isOpening isClosing chain
end

theorem int64OfRange {n : Nat} (range : n ≤ 9223372036854775807) :
    (Int64.ofNat n).toInt = (n : Int) :=
  Int64.toInt_ofNat_of_lt (by omega)

theorem writtenOfDenotes (denotes : Denotes t arg) (genuine : Genuine t) (range : InRange t) :
    WrittenArg arg := by
  cases denotes with
  | number is =>
    rw [WrittenArg, int64OfRange (range is)]
    omega
  | name is => exact genuine.identifier is
  | string | yes | no => trivial

mutual
theorem writtenOfCalls {ts : List Token} {calls : List Call} (derived : DerivesCalls ts calls)
    (fit : ∀ t ∈ ts, Genuine t ∧ InRange t) : Written calls ∧ EverywhereCalls Written calls := by
  cases derived with
  | none => exact ⟨by simp [Written], trivial⟩
  | @more _ us _ calls first others =>
    cases first with
    | @mk dot name opening closing inside args isDot isName isOpening argument isClosing =>
      obtain ⟨few, plain, inner⟩ :=
        writtenOfArgs argument fun t member => fit t (by simp [member])
      obtain ⟨written, further⟩ :=
        writtenOfCalls others fun t member => fit t (by simp [member])
      have isIdentifier : IsIdentifier name.literal := (fit name (by simp)).1.identifier isName
      exact ⟨List.forall_mem_cons.mpr ⟨⟨isIdentifier, few, plain⟩, written⟩, inner, further⟩

theorem writtenOfArgs {ts : List Token} {args : List Arg} (derived : DerivesArgs ts args)
    (fit : ∀ t ∈ ts, Genuine t ∧ InRange t) :
    args.length ≤ 1 ∧ (∀ arg ∈ args, WrittenArg arg) ∧ EverywhereArgs Written args := by
  cases derived with
  | none => exact ⟨by simp, by simp, trivial⟩
  | @plain t arg denotes =>
    obtain ⟨genuine, range⟩ := fit t (by simp)
    have written := writtenOfDenotes denotes genuine range
    refine ⟨by simp, by simpa using written, ?_⟩
    cases denotes <;> trivial
  | nested start derived =>
    obtain ⟨written, inner⟩ :=
      writtenOfCalls derived fun t member => fit t (List.mem_append_right _ member)
    exact ⟨by simp, by simp [WrittenArg], ⟨written, inner⟩, trivial⟩
end

end ElementLocator.Selector
