import ElementLocator.Proofs.Selector.Budget
/-! How far reading gets in the tokens. The cursor only moves on, past at least one token whenever a
reading fails, and the first end mark, wherever it stands, stops it for good. -/
namespace ElementLocator.Selector

def Cursor.tokens (c : Cursor) : List Token := c.ahead ++ [c.last]

def Cursor.position (c : Cursor) (n : Nat) : Nat := c.ahead.length - (c.after n).ahead.length

def Cursor.ending (c : Cursor) : Nat := c.tokens.findIdx fun t => t.kind = .ending

def Cursor.fails (c : Cursor) : Bool := !c.next.1.isOk

structure Moves (c : Cursor) (moved : List Token) : Prop where
  parts : c.ahead = moved ++ c.next.2.ahead
  taken : c.taken <+: moved
  before : ∀ t ∈ moved, t.kind ≠ .ending
  still : moved = [] → c.next = (.ok .empty, c)

variable {spare : Nat} {t last : Token} {p q next : Progress} {ts moved rest : List Token}
  {c : Cursor} {stop : Stop}

/- The tokens taken, and the one after them that may go with them, are no end marks. -/

theorem stepKind (step : Step spare t p next) : t.kind ≠ .ending ∧ t.kind ≠ .semicolon := by
  cases step with
  | plain is => constructor <;> (intro same; simp [Token.arg?, same] at is)
  | new is | first is | uiSelector is | opened is | closed is | dot is | name is | opening is
  | empty is | call is | enter is | leave is =>
    simp [is]

theorem stepsProper (steps : Steps spare p ts q) : ∀ t ∈ ts, t.kind ≠ .ending := by
  induction steps with
  | done => simp
  | more step _ ih => exact List.forall_mem_cons.mpr ⟨(stepKind step).1, ih⟩

theorem swallowsProper (swallows : p.swallows t = true) : t.kind ≠ .ending := by
  intro ending
  obtain ⟨calls, frames, phase⟩ := p
  cases phase <;> simp [Progress.swallows, ending] at swallows

theorem haltsLeave (halts : Halts spare last q rest stop) :
    ∃ swallowed, rest = swallowed ++ stop.ahead ∧ (∀ t ∈ swallowed, t.kind ≠ .ending) ∧
      stop.unfinished = q.unfinished ∧ ∃ t, stop.outcome = q.outcome t := by
  cases halts with
  | last => exact ⟨[], rfl, by simp, rfl, last, rfl⟩
  | @stuck t rest =>
    cases swallows : q.swallows t with
    | true => exact ⟨[t], rfl, by simpa using swallowsProper swallows, rfl, t, rfl⟩
    | false => exact ⟨[], rfl, by simp, rfl, t, rfl⟩

theorem nextMoves (c : Cursor) : ∃ moved, Moves c moved := by
  obtain ⟨rest, q, parts, steps, halts⟩ := runTaken c.spare c.last .start c.ahead
  obtain ⟨swallowed, left, proper, unfinished, t, outcome⟩ := haltsLeave halts
  refine ⟨c.taken ++ swallowed, ?_, List.prefix_append _ _, ?_, ?_⟩
  · rw [List.append_assoc, Cursor.next, ← left]
    exact parts
  · exact List.forall_mem_append.mpr ⟨stepsProper steps, proper⟩
  · intro nothing
    obtain ⟨noneTaken, rfl⟩ := List.append_eq_nil_iff.mp nothing
    rw [Cursor.taken] at noneTaken
    rw [noneTaken] at steps parts
    cases steps
    have same := left.symm.trans parts.symm
    rw [List.nil_append] at same
    rw [Cursor.next, outcome, unfinished, same]
    rfl

theorem nextStill (still : c.next.2.ahead.length = c.ahead.length) :
    c.next = (.ok .empty, c) := by
  obtain ⟨moved, moves⟩ := nextMoves c
  have parts := congrArg List.length moves.parts
  rw [List.length_append, still] at parts
  exact moves.still (List.length_eq_zero_iff.mp (by omega))

theorem nextShorter (c : Cursor) : c.next.2.ahead.length ≤ c.ahead.length := by
  obtain ⟨moved, moves⟩ := nextMoves c
  rw [moves.parts, List.length_append]
  exact Nat.le_add_left _ _

theorem failureMoves (fails : c.fails = true) : c.next.2.ahead.length < c.ahead.length := by
  refine Nat.lt_of_le_of_ne (nextShorter c) fun still => ?_
  rw [Cursor.fails, nextStill still] at fails
  cases fails

theorem endStays (atEnd : c.atEnd = true) : c.next = (.ok .empty, c) := by
  obtain ⟨moved, moves⟩ := nextMoves c
  refine moves.still ?_
  have ending : c.peek.kind = .ending := of_decide_eq_true atEnd
  cases moved with
  | nil => rfl
  | cons t moved =>
    rw [Cursor.peek, moves.parts] at ending
    exact absurd ending (moves.before t (by simp))

theorem movedBefore (c : Cursor) (n : Nat) :
    ∃ moved, c.ahead = moved ++ (c.after n).ahead ∧ moved.length = c.position n ∧
      ∀ t ∈ moved, t.kind ≠ .ending := by
  induction n with
  | zero => exact ⟨[], rfl, (Nat.sub_self _).symm, by simp⟩
  | succ n ih =>
    obtain ⟨moved, parts, _, before⟩ := ih
    obtain ⟨further, moves⟩ := nextMoves (c.after n)
    have whole : c.ahead = (moved ++ further) ++ (c.after (n + 1)).ahead := by
      rw [List.append_assoc, afterNext, ← moves.parts]
      exact parts
    have size : c.ahead.length = (moved ++ further).length + (c.after (n + 1)).ahead.length := by
      rw [← List.length_append, ← whole]
    refine ⟨moved ++ further, whole, ?_, List.forall_mem_append.mpr ⟨before, moves.before⟩⟩
    rw [Cursor.position, size, Nat.add_sub_cancel]

theorem tokensLeft (c : Cursor) (n : Nat) :
    (c.after n).tokens = c.tokens.drop (c.position n) := by
  obtain ⟨moved, parts, place, _⟩ := movedBefore c n
  rw [Cursor.tokens, Cursor.tokens, lastKept, ← place, parts, List.append_assoc, List.drop_left]

theorem aheadLeft (c : Cursor) (n : Nat) :
    c.position n + (c.after n).ahead.length = c.ahead.length := by
  obtain ⟨moved, parts, place, _⟩ := movedBefore c n
  rw [← place, parts, List.length_append]

theorem positionNext (c : Cursor) (n : Nat) :
    c.position (n + 1) + (c.after n).next.2.ahead.length =
      c.position n + (c.after n).ahead.length := by
  have there := aheadLeft c (n + 1)
  rw [afterNext] at there
  rw [there, aheadLeft c n]

theorem takenBetween (c : Cursor) (n : Nat) :
    c.position n + (c.after n).taken.length ≤ c.position (n + 1) := by
  obtain ⟨moved, moves⟩ := nextMoves (c.after n)
  have next := positionNext c n
  have taken := moves.taken.length_le
  have parts := congrArg List.length moves.parts
  rw [List.length_append] at parts
  omega

theorem failurePasses {n : Nat} (fails : (c.after n).fails = true) :
    c.position n < c.position (n + 1) := by
  have next := positionNext c n
  have moved := failureMoves fails
  omega

theorem beforeEnding (c : Cursor) (n : Nat) : c.position n ≤ c.ending := by
  obtain ⟨moved, parts, place, before⟩ := movedBefore c n
  have none : moved.findIdx (fun t => t.kind = .ending) = moved.length :=
    List.findIdx_eq_length.mpr fun t member => decide_eq_false (before t member)
  rw [Cursor.ending, Cursor.tokens, parts, List.append_assoc, List.findIdx_append, none,
    if_neg (Nat.lt_irrefl _), ← place]
  exact Nat.le_add_left _ _

theorem endingThere (isEnding : c.last.kind = .ending) : c.ending < c.tokens.length :=
  List.findIdx_lt_length_of_exists ⟨c.last, by simp [Cursor.tokens], decide_eq_true isEnding⟩

theorem failuresCounted (c : Cursor) (n : Nat) :
    (List.range n).countP (fun i => (c.after i).fails) ≤ c.position n := by
  induction n with
  | zero => exact Nat.zero_le _
  | succ n ih =>
    rw [List.range_succ, List.countP_append, List.countP_singleton]
    split
    · rename_i fails
      have passes := failurePasses fails
      omega
    · have further := takenBetween c n
      omega

theorem endStaysAfter {m n : Nat} (later : m ≤ n) (atEnd : (c.after m).atEnd = true) :
    c.after n = c.after m := by
  induction later with
  | refl => rfl
  | step _ ih => rw [afterNext, ih, endStays atEnd]

theorem ofTokensHolds (ts : List Token) :
    ts <+: (Cursor.ofTokens ts).tokens ∧ (Cursor.ofTokens ts).ahead.length ≤ ts.length := by
  unfold Cursor.ofTokens Cursor.tokens
  split
  · rename_i nothing
    obtain rfl := List.getLast?_eq_none_iff.mp nothing
    exact ⟨List.nil_prefix, Nat.le_refl _⟩
  · rename_i last is
    split
    · obtain ⟨before, rfl⟩ := List.getLast?_eq_some_iff.mp is
      rw [List.dropLast_concat]
      exact ⟨List.prefix_rfl, by simp⟩
    · exact ⟨List.prefix_append _ _, Nat.le_refl _⟩

theorem cursorAdvances (ts : List Token) :
    let c := Cursor.ofTokens ts
    (ts <+: c.tokens ∧ c.ending < c.tokens.length) ∧
    (∀ n, (c.after n).tokens = c.tokens.drop (c.position n) ∧
      c.position n + (c.after n).taken.length ≤ c.position (n + 1) ∧ c.position n ≤ c.ending) ∧
    (∀ n, (c.after n).fails = true → c.position n < c.position (n + 1)) ∧
    (∀ n, (List.range n).countP (fun i => (c.after i).fails) ≤ ts.length) ∧
    (∀ n, c.position (n + 1) = c.position n → (c.after n).next = (.ok .empty, c.after n)) ∧
    ∀ m n, m ≤ n → (c.after m).atEnd = true →
      (c.after n).atEnd = true ∧ (c.after n).next = (.ok .empty, c.after n) := by
  intro c
  obtain ⟨given, few⟩ := ofTokensHolds ts
  refine ⟨⟨given, endingThere (ofTokensLast ts)⟩,
    fun n => ⟨tokensLeft c n, takenBetween c n, beforeEnding c n⟩,
    fun n => failurePasses, fun n => ?_, fun n still => ?_, fun m n later atEnd => ?_⟩
  · have counted := failuresCounted c n
    have here := aheadLeft c n
    have all : c.ahead.length ≤ ts.length := few
    omega
  · have next := positionNext c n
    exact nextStill (by omega)
  · rw [endStaysAfter later atEnd]
    exact ⟨atEnd, endStays atEnd⟩

theorem middleEndFinal :
    let kinds : List Kind := [.dot, .dot, .name, .opening, .closing, .semicolon, .ending, .dot]
    let c := Cursor.ofTokens (kinds.map fun kind => ⟨kind, "", 0⟩)
    c.ending = 6 ∧ c.fails = true ∧ c.position 0 < c.position 1 ∧ (c.after 1).fails = false ∧
      c.position 2 = 6 ∧ ∀ n, 2 ≤ n → (c.after n).atEnd = true ∧
        (c.after n).next = (.ok .empty, c.after n) := by
  intro kinds c
  have ending : c.ending = 6 := by decide +kernel
  have first : (c.after 0).fails = true := by decide +kernel
  have second : (c.after 1).fails = false := by decide +kernel
  have there : c.position 2 = 6 := by decide +kernel
  have atEnd : (c.after 2).atEnd = true := by decide +kernel
  obtain ⟨_, _, moves, _, _, final⟩ :=
    cursorAdvances (kinds.map fun kind => ⟨kind, "", 0⟩)
  exact ⟨ending, first, moves 0 first, second, there, fun n later => final 2 n later atEnd⟩

end ElementLocator.Selector
