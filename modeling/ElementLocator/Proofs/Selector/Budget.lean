import ElementLocator.Proofs.Selector.Stream
/-! When a selector is refused for its nesting. The tokens say how many selectors they open inside
one another, and one invariant of the reader ties its stack to them. What a failed reading leaves
open is counted against all later ones, so the limit is on the sum of the two. -/
namespace ElementLocator.Selector

/-- The parentheses that are open behind tokens of these kinds, the latest first: whether each
holds a selector. -/
def openParens : List Kind → List Bool
  | .new :: .opening :: .name :: before => true :: openParens before
  | .opening :: before => false :: openParens before
  | .closing :: before => (openParens before).tail
  | _ :: before => openParens before
  | [] => []

def openSelectors (kinds : List Kind) : Nat := (openParens kinds).count true

def deepest : List Kind → Nat
  | [] => 0
  | kind :: before => max (openSelectors (kind :: before)) (deepest before)

/-- The selectors that stay open where reading stops. Behind a closing parenthesis the innermost of
them is over, since its chain does not go on. -/
def leftOpen : List Kind → Nat
  | .closing :: before => openSelectors (.closing :: before) - 1
  | kinds => openSelectors kinds

def latest (ts : List Token) : List Kind := (ts.map Token.kind).reverse

def Cursor.taken (c : Cursor) : List Token := Progress.start.taken c.spare c.ahead

def Cursor.seen (c : Cursor) : List Token := c.ahead.take (c.taken.length + 1)

inductive Behind : List Kind → Phase → Prop where
  | start : Behind [] .start
  | new {kinds} : Behind (.new :: kinds) .new
  | uiSelector {kinds} : Behind (.uiSelector :: kinds) .uiSelector
  | opened {kinds} : Behind (.opening :: .uiSelector :: kinds) .opened
  | chain {kinds} : Behind (.closing :: kinds) .chain
  | dot {kinds} : Behind (.dot :: kinds) .dot
  | name {kinds name} : Behind (.name :: kinds) (.name name)
  | argument {kinds name} : Behind (.opening :: .name :: kinds) (.argument name)
  | argumentRead {kind kinds name arg} (noOpening : kind ≠ .opening) (noClosing : kind ≠ .closing) :
      Behind (kind :: kinds) (.argumentRead name arg)

def Phase.within : Phase → List Bool
  | .opened | .argument _ | .argumentRead _ _ => [false]
  | _ => []

structure Leads (spare : Nat) (kinds : List Kind) (p : Progress) : Prop where
  behind : Behind kinds p.phase
  opens : openParens kinds = p.phase.within ++ List.replicate p.frames.length true
  room : p.frames.length ≤ spare
  shallow : deepest kinds ≤ spare

variable {spare : Nat} {t last : Token} {p q next : Progress} {phase : Phase} {kind : Kind}
  {kinds : List Kind} {ts rest : List Token} {c : Cursor} {s : Selector}

theorem openLeDeepest (kinds : List Kind) : openSelectors kinds ≤ deepest kinds := by
  cases kinds with
  | nil => exact Nat.le_refl _
  | cons kind before => exact Nat.le_max_left _ _

theorem withinCount (phase : Phase) (n : Nat) :
    (phase.within ++ List.replicate n true).count true = n := by
  cases phase <;> simp [Phase.within]

theorem leadsOpen (leads : Leads spare kinds p) : openSelectors kinds = p.frames.length := by
  rw [openSelectors, leads.opens, withinCount]

theorem leadsNext (behind : Behind (kind :: kinds) next.phase)
    (opens : openParens (kind :: kinds) =
      next.phase.within ++ List.replicate next.frames.length true)
    (room : next.frames.length ≤ spare) (shallow : deepest kinds ≤ spare) :
    Leads spare (kind :: kinds) next := by
  refine ⟨behind, opens, room, ?_⟩
  rw [deepest, openSelectors, opens, withinCount]
  exact Nat.max_le.mpr ⟨room, shallow⟩

theorem quietKind (noNew : kind ≠ .new) (noOpening : kind ≠ .opening) (noClosing : kind ≠ .closing)
    (kinds : List Kind) : openParens (kind :: kinds) = openParens kinds := by
  cases kind <;> first | rfl | contradiction

theorem argOpening {arg : Arg} (is : t.arg? = some arg) : t.kind ≠ .opening := by
  intro h
  simp [Token.arg?, h] at is

/- One case for every step; what the reader has come from says which parentheses are open. -/

theorem leadsStep (leads : Leads spare kinds p) (step : Step spare t p next) :
    Leads spare (t.kind :: kinds) next := by
  obtain ⟨behind, opens, room, shallow⟩ := leads
  cases step with
  | new is =>
    cases behind
    rw [is]
    exact leadsNext .new opens room shallow
  | first is =>
    cases behind
    rw [is]
    exact leadsNext .dot opens room shallow
  | uiSelector is =>
    cases behind
    rw [is]
    exact leadsNext .uiSelector opens room shallow
  | opened is =>
    cases behind
    rw [is]
    exact leadsNext .opened (congrArg (false :: ·) opens) room shallow
  | closed is =>
    rw [is]
    exact leadsNext .chain (congrArg List.tail opens) room shallow
  | dot is =>
    cases behind
    rw [is]
    exact leadsNext .dot opens room shallow
  | name is =>
    cases behind
    rw [is]
    exact leadsNext .name opens room shallow
  | opening is =>
    cases behind
    rw [is]
    exact leadsNext .argument (congrArg (false :: ·) opens) room shallow
  | empty is =>
    rw [is]
    exact leadsNext .chain (congrArg List.tail opens) room shallow
  | plain is =>
    obtain ⟨noClosing, noNew⟩ := plainKind is
    have noOpening := argOpening is
    refine leadsNext (.argumentRead noOpening noClosing) ?_ room shallow
    rw [quietKind noNew noOpening noClosing]
    exact opens
  | call is =>
    rw [is]
    exact leadsNext .chain (congrArg List.tail opens) room shallow
  | enter is more =>
    cases behind
    rw [is]
    -- the parenthesis before it turns out to hold a selector
    have outer := (List.cons.inj opens).2
    exact leadsNext .new (congrArg (true :: ·) outer) more shallow
  | leave is =>
    rw [is]
    exact leadsNext .chain (congrArg List.tail opens) (Nat.le_of_succ_le room) shallow

theorem leadsSteps (leads : Leads spare kinds p) (steps : Steps spare p ts q) :
    Leads spare (latest ts ++ kinds) q := by
  induction steps generalizing kinds with
  | done => exact leads
  | @more p mid q t ts step _ ih =>
    have further := ih (leadsStep leads step)
    simpa [latest] using further

theorem leadsRead (steps : Steps spare .start ts q) : Leads spare (latest ts) q := by
  have start : Leads spare [] .start := ⟨.start, rfl, Nat.zero_le _, Nat.zero_le _⟩
  have leads := leadsSteps start steps
  rwa [List.append_nil] at leads

theorem leadsTaken (spare : Nat) (last : Token) (ts : List Token) :
    ∃ rest q, ts = Progress.start.taken spare ts ++ rest ∧
      Leads spare (latest (Progress.start.taken spare ts)) q ∧
      Halts spare last q rest (Progress.start.run spare last ts) := by
  obtain ⟨rest, q, same, steps, halts⟩ := runTaken spare last .start ts
  exact ⟨rest, q, same, leadsRead steps, halts⟩

/- What a reading comes to at the token at which it stops. -/

theorem outcomeNested : (∃ offset, p.outcome t = .error (.parse (.tooNested maxNesting) offset)) ↔
    t.kind = .new ∧ ∃ name, p.phase = .argument name := by
  obtain ⟨calls, frames, phase⟩ := p
  cases phase with
  | argument name => cases kind : t.kind <;> simp [Progress.outcome, kind]
  | chain => cases frames <;> simp [Progress.outcome]
  | _ => simp [Progress.outcome]

theorem nestedOpens (before : List Kind) :
    openSelectors (.new :: .opening :: .name :: before) =
      openSelectors (.opening :: .name :: before) + 1 := by
  simp [openSelectors, openParens]

theorem opensOther (behind : Behind kinds phase)
    (other : ¬ (kind = .new ∧ ∃ name, phase = .argument name)) :
    openSelectors (kind :: kinds) ≤ openSelectors kinds := by
  cases kind with
  | new =>
    cases behind with
    | argument => exact absurd ⟨rfl, _, rfl⟩ other
    | @argumentRead kind => cases kind <;> first | exact Nat.le_refl _ | contradiction
    | _ => exact Nat.le_refl _
  | opening => simp [openSelectors, openParens]
  | closing => exact (List.tail_sublist (openParens kinds)).count_le true
  | _ => exact Nat.le_refl _

theorem stuckNested (leads : Leads spare kinds q) (stuck : q.take? spare t = none) :
    (∃ offset, q.outcome t = .error (.parse (.tooNested maxNesting) offset)) ↔
      spare < deepest (t.kind :: kinds) := by
  have opens := leadsOpen leads
  have room := leads.room
  have shallow := leads.shallow
  rw [outcomeNested, deepest]
  constructor
  · rintro ⟨isNew, name, within⟩
    obtain ⟨calls, frames, phase⟩ := q
    obtain rfl := within
    have full : ¬ frames.length < spare := by
      intro more
      rw [takeNested isNew more] at stuck
      cases stuck
    have behind := leads.behind
    cases behind
    rw [isNew, nestedOpens, opens]
    simp only at full room ⊢
    omega
  · intro deep
    refine Classical.byContradiction fun other => ?_
    have fewer := opensOther leads.behind other
    omega

theorem unfinishedOpen (leads : Leads spare kinds q) : q.unfinished = leftOpen kinds := by
  have opens := leadsOpen leads
  have behind := leads.behind
  obtain ⟨calls, frames, phase⟩ := q
  cases behind with
  | chain => exact congrArg (· - 1) opens.symm
  | @argumentRead kind kinds _ _ noOpening noClosing =>
    have other : leftOpen (kind :: kinds) = openSelectors (kind :: kinds) := by
      cases kind <;> first | rfl | contradiction
    rw [other, opens]
    rfl
  | _ => exact opens.symm

theorem unfinishedRoom (leads : Leads spare kinds q) : q.unfinished ≤ spare := by
  obtain ⟨calls, frames, phase⟩ := q
  have room : frames.length ≤ spare := leads.room
  cases phase <;> simp only [Progress.unfinished] <;> omega

theorem unfinishedNone (leads : Leads spare kinds q) (done : q.outcome t = .ok s) :
    q.unfinished = 0 := by
  have opens := leadsOpen leads
  have behind := leads.behind
  obtain ⟨calls, frames, phase⟩ := q
  cases behind with
  | start => exact opens.symm
  | chain =>
    cases frames with
    | nil => rfl
    | cons => cases done
  | argument =>
    simp only [Progress.outcome] at done
    split at done <;> cases done
  | _ => cases done

theorem seenOf (parts : c.ahead = c.taken ++ rest) : c.seen = c.taken ++ rest.take 1 := by
  rw [Cursor.seen]
  generalize c.taken = taken at parts
  rw [parts, List.take_length_add_append]

theorem nextNested (c : Cursor) (proper : c.last.kind ≠ .new) :
    (∃ offset, c.next.1 = .error (.parse (.tooNested maxNesting) offset)) ↔
      c.spare < deepest (latest c.seen) := by
  obtain ⟨rest, q, parts, leads, halts⟩ := leadsTaken c.spare c.last c.ahead
  have shallow := leads.shallow
  rw [seenOf parts, Cursor.next]
  generalize Progress.start.run c.spare c.last c.ahead = stop at halts
  cases halts with
  | last =>
    simp only [List.take_nil, List.append_nil]
    rw [outcomeNested]
    constructor
    · intro nested
      exact absurd nested.1 proper
    · intro deep
      exact absurd deep (Nat.not_lt.mpr shallow)
  | stuck stuck =>
    simp only
    rw [stuckNested leads stuck]
    simp [latest, Cursor.taken]

theorem nextSpare (c : Cursor) : c.next.2.spare + leftOpen (latest c.taken) = c.spare := by
  obtain ⟨rest, q, parts, leads, halts⟩ := leadsTaken c.spare c.last c.ahead
  have room := unfinishedRoom leads
  rw [Cursor.next, Cursor.taken, ← unfinishedOpen leads]
  generalize Progress.start.run c.spare c.last c.ahead = stop at halts
  cases halts <;> exact Nat.sub_add_cancel room

theorem nextComplete (done : c.next.1 = .ok s) : leftOpen (latest c.taken) = 0 := by
  obtain ⟨rest, q, parts, leads, halts⟩ := leadsTaken c.spare c.last c.ahead
  rw [Cursor.next] at done
  rw [Cursor.taken, ← unfinishedOpen leads]
  generalize Progress.start.run c.spare c.last c.ahead = stop at done halts
  cases halts <;> exact unfinishedNone leads done

theorem afterNext (c : Cursor) (n : Nat) : c.after (n + 1) = (c.after n).next.2 := by
  induction n generalizing c with
  | zero => rfl
  | succ n ih => exact ih c.next.2

theorem lastKept (c : Cursor) (n : Nat) : (c.after n).last = c.last := by
  induction n with
  | zero => rfl
  | succ n ih => rw [afterNext, Cursor.next, ih]

def Cursor.spent (c : Cursor) : Nat → Nat
  | 0 => 0
  | n + 1 => c.spent n + leftOpen (latest (c.after n).taken)

theorem spentSpare (c : Cursor) (n : Nat) : (c.after n).spare + c.spent n = c.spare := by
  induction n with
  | zero => rfl
  | succ n ih =>
    have here := nextSpare (c.after n)
    rw [afterNext, Cursor.spent]
    omega

theorem spentNone {n : Nat} (completed : ∀ i < n, ∃ s, (c.after i).next.1 = .ok s) :
    c.spent n = 0 := by
  induction n with
  | zero => rfl
  | succ n ih =>
    obtain ⟨s, done⟩ := completed n (Nat.lt_succ_self n)
    have before := ih fun i earlier => completed i (Nat.lt_succ_of_lt earlier)
    rw [Cursor.spent, before, nextComplete done]

theorem ofTokensLast (ts : List Token) : (Cursor.ofTokens ts).last.kind = .ending := by
  unfold Cursor.ofTokens
  split
  · rfl
  · split
    · assumption
    · rfl

theorem ofTokensSpare (ts : List Token) : (Cursor.ofTokens ts).spare = maxNesting := by
  unfold Cursor.ofTokens
  split
  · rfl
  · split <;> rfl

/-- A reading is refused for its nesting exactly if it opens more selectors inside one another than
the limit less what the readings before it have left open. One that succeeds leaves none open, so
that the limit is the full one as long as none has failed. -/
theorem tooNestedIff (ts : List Token) (n : Nat) :
    let reading := (Cursor.ofTokens ts).after
    let nested := ∃ offset, (reading n).next.1 = .error (.parse (.tooNested maxNesting) offset)
    let deep := deepest (latest (reading n).seen)
    (nested ↔ maxNesting < (Cursor.ofTokens ts).spent n + deep) ∧
      (∀ s, (reading n).next.1 = .ok s → leftOpen (latest (reading n).taken) = 0) ∧
      ((∀ i < n, ∃ s, (reading i).next.1 = .ok s) → (nested ↔ maxNesting < deep)) := by
  intro reading nested deep
  have proper : (reading n).last.kind ≠ .new := by
    rw [lastKept, ofTokensLast]
    decide
  have budget : (reading n).spare + (Cursor.ofTokens ts).spent n = maxNesting := by
    rw [spentSpare, ofTokensSpare]
  have nestedIff : nested ↔ maxNesting < (Cursor.ofTokens ts).spent n + deep := by
    rw [← budget]
    exact (nextNested (reading n) proper).trans (by omega)
  refine ⟨nestedIff, fun s => nextComplete, fun completed => ?_⟩
  rw [nestedIff, spentNone completed, Nat.zero_add]

theorem deepSelectorRefused :
    let nested : List Kind := [.dot, .name, .opening, .new, .uiSelector, .opening, .closing]
    let kinds := [.new, .uiSelector, .opening, .closing, .semicolon] ++
      (List.replicate (maxNesting + 1) nested).flatten
    let reading := (Cursor.ofTokens (kinds.map fun kind => ⟨kind, "", 0⟩)).after
    (∃ s, (reading 0).next.1 = .ok s) ∧ maxNesting < deepest (latest (reading 1).seen) ∧
      ∃ offset, (reading 1).next.1 = .error (.parse (.tooNested maxNesting) offset) := by
  intro nested kinds reading
  have first : ∃ s, (reading 0).next.1 = .ok s := by
    have complete : (reading 0).next.1.isOk = true := by decide +kernel
    cases outcome : (reading 0).next.1 with
    | ok s => exact ⟨s, rfl⟩
    | error fault =>
      rw [outcome] at complete
      cases complete
  have earlier : ∀ i < 1, ∃ s, (reading i).next.1 = .ok s := by
    intro i before
    obtain rfl := Nat.lt_one_iff.mp before
    exact first
  have opens : openSelectors (latest (reading 1).seen) = maxNesting + 1 := by decide +kernel
  have deep : maxNesting < deepest (latest (reading 1).seen) := by
    refine Nat.lt_of_lt_of_le ?_ (openLeDeepest _)
    rw [opens]
    exact Nat.lt_succ_self maxNesting
  exact ⟨first, deep, ((tooNestedIff _ 1).2.2 earlier).mpr deep⟩

theorem shallowSelectorRefused :
    let begun : List Kind := [.dot, .name, .opening, .new]
    let nested := begun ++ [.uiSelector, .opening, .closing]
    let kinds := (List.replicate 255 nested).flatten ++ begun ++ nested ++ [.closing, .semicolon]
    let second := (Cursor.ofTokens (kinds.map fun kind => ⟨kind, "", 0⟩)).after 1
    deepest (latest second.seen) = 1 ∧
      ∃ offset, second.next.1 = .error (.parse (.tooNested maxNesting) offset) := by
  intro begun nested kinds second
  have proper : second.last.kind ≠ .new := by decide +kernel
  have none : second.spare = 0 := by decide +kernel
  have deep : deepest (latest second.seen) = 1 := by decide +kernel
  have beyond : second.spare < deepest (latest second.seen) := by
    rw [none, deep]
    decide
  exact ⟨deep, (nextNested second proper).mpr beyond⟩

end ElementLocator.Selector
