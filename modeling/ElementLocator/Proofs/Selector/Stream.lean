import ElementLocator.Proofs.Selector.RoundTrip
/-! Reading one selector after another. Each reading takes the tokens of its own selector, up to the
semicolon, and leaves the cursor as fit for the next one as it was. -/
namespace ElementLocator.Selector
open ElementLocator.Text

def Cursor.after (c : Cursor) : Nat → Cursor
  | 0 => c
  | n + 1 => c.next.2.after n

inductive Stream : List Token → List Selector → Prop where
  | nil : Stream [] []
  | cons {ts rest : List Token} {semicolon : Token} {s : Selector} {ss : List Selector}
      (derived : Argument ts [.nested s]) (isSemicolon : semicolon.kind = .semicolon)
      (more : Stream rest ss) : Stream (ts ++ semicolon :: rest) (s :: ss)

variable {ts rest : List Token} {last semicolon : Token} {spare : Nat} {s : Selector}
  {ss : List Selector}

theorem streamTokens (written : ∀ s ∈ ss, s.Everywhere Written) (here : Nat) :
    ∃ ts there, Stream ts ss ∧
      tokensFrom here (ss.flatMap fun s => s.text.toList) = .ok (ts ++ [⟨.ending, "", there⟩]) := by
  induction ss generalizing here with
  | nil => exact ⟨[], here, .nil, tokensFrom.eq_1 here⟩
  | cons s ss ih =>
    obtain ⟨first, others⟩ := List.forall_mem_cons.mp written
    obtain ⟨ts, semicolon, middle, derived, isSemicolon, read⟩ :=
      textTokens first here (ss.flatMap fun s => s.text.toList)
    obtain ⟨rest, there, more, readMore⟩ := ih others middle
    refine ⟨ts ++ semicolon :: rest, there, .cons derived isSemicolon more, ?_⟩
    rw [List.flatMap_cons, read, readMore]
    simp [Except.map]

theorem streamNext (derived : Argument ts [.nested s]) (isSemicolon : semicolon.kind = .semicolon)
    (room : s.depth ≤ spare + 1) (last : Token) (rest : List Token) :
    (⟨ts ++ semicolon :: rest, last, spare⟩ : Cursor).next = (.ok s, ⟨rest, last, spare⟩) := by
  rw [Cursor.next, runSource derived isSemicolon room rest]
  rfl

theorem streamEnds (stream : Stream ts ss) (isEnding : last.kind = .ending) :
    (⟨ts, last, spare⟩ : Cursor).atEnd = ss.isEmpty := by
  cases stream with
  | nil => simp [Cursor.atEnd, Cursor.peek, isEnding]
  | cons derived =>
    cases derived with
    | plain is =>
      rename_i t
      cases kind : t.kind <;> simp [Token.arg?, kind] at is
    | nested isNew => simp [Cursor.atEnd, Cursor.peek, isNew]

theorem streamReadings (stream : Stream ts ss) (isEnding : last.kind = .ending)
    (room : ∀ s ∈ ss, s.depth ≤ spare + 1) (i : Nat) (bound : i < ss.length) :
    ((⟨ts, last, spare⟩ : Cursor).after i).next.1 = .ok ss[i] ∧
      ((⟨ts, last, spare⟩ : Cursor).after (i + 1)).atEnd = decide (i + 1 = ss.length) := by
  induction stream generalizing i with
  | nil => simp at bound
  | @cons ts rest semicolon s ss derived isSemicolon more ih =>
    obtain ⟨shallow, others⟩ := List.forall_mem_cons.mp room
    have next := streamNext derived isSemicolon shallow last rest
    cases i with
    | zero =>
      simp only [Cursor.after, next, streamEnds more isEnding]
      cases ss <;> simp
    | succ i =>
      have further := ih others i (by simpa using bound)
      simp only [Cursor.after, next] at further ⊢
      simpa using further

theorem streamReadBack (ss : List Selector) (wellFormed : ∀ s ∈ ss, WellFormed s) :
    ∃ ts, tokens (String.join (ss.map text)) = .ok ts ∧ ∀ (i : Nat) (bound : i < ss.length),
      ((Cursor.ofTokens ts).after i).next.1 = .ok ss[i] ∧
        ((Cursor.ofTokens ts).after (i + 1)).atEnd = decide (i + 1 = ss.length) := by
  obtain ⟨ts, there, stream, read⟩ :=
    streamTokens (fun s member => (wellFormed s member).written) 0
  have cursor : Cursor.ofTokens (ts ++ [⟨.ending, "", there⟩]) =
      ⟨ts, ⟨.ending, "", there⟩, maxNesting⟩ := by simp [Cursor.ofTokens]
  refine ⟨ts ++ [⟨.ending, "", there⟩], ?_, ?_⟩
  · rw [tokens, String.toList_join, List.flatMap_map]
    exact read
  · rw [cursor]
    exact streamReadings stream rfl fun s member => (wellFormed s member).nesting

theorem threeReadBack :
    let quoted : Selector := .mk [.mk "text" [.str "a;\""]]
    let deep : Selector := .mk [.mk "sibling" [.nested (.mk [.mk "index" [.int 7]])]]
    let source := "new UiSelector().text(\"a;\\\"\");new UiSelector();" ++
      "new UiSelector().sibling(new UiSelector().index(7));"
    (∀ s ∈ [quoted, .empty, deep], WellFormed s) ∧ ∃ ts, tokens source = .ok ts ∧
      (Cursor.ofTokens ts).next.1 = .ok quoted ∧
      ((Cursor.ofTokens ts).after 1).atEnd = false ∧
      ((Cursor.ofTokens ts).after 2).next.1 = .ok deep ∧
      ((Cursor.ofTokens ts).after 3).atEnd = true := by
  intro quoted deep source
  have readQuoted : parse quoted.text = .ok quoted := by
    simp only [quoted]
    with_unfolding_all rfl
  have readEmpty : parse empty.text = .ok empty := by with_unfolding_all rfl
  have readDeep : parse deep.text = .ok deep := by
    simp only [deep]
    with_unfolding_all rfl
  have wellFormed : ∀ s ∈ [quoted, .empty, deep], WellFormed s := by
    simp only [List.forall_mem_cons]
    exact ⟨parsedWellFormed readQuoted, parsedWellFormed readEmpty, parsedWellFormed readDeep,
      by simp⟩
  obtain ⟨ts, read, each⟩ := streamReadBack [quoted, .empty, deep] wellFormed
  have joined : String.join ([quoted, .empty, deep].map text) = source := by decide +kernel
  rw [joined] at read
  exact ⟨wellFormed, ts, read, (each 0 (by decide)).1, (each 0 (by decide)).2,
    (each 2 (by decide)).1, (each 2 (by decide)).2⟩

end ElementLocator.Selector
