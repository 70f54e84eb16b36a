import ElementLocator.Selector.Progress
/-! What the reader of selectors makes of one token, and its runs as sequences of such steps up to a
token that it cannot take. -/
namespace ElementLocator.Selector

inductive Step (spare : Nat) (t : Token) : Progress → Progress → Prop where
  | new {calls frames} (is : t.kind = .new) :
      Step spare t ⟨calls, frames, .start⟩ ⟨calls, frames, .new⟩
  | first {calls frames} (is : t.kind = .dot) :
      Step spare t ⟨calls, frames, .start⟩ ⟨calls, frames, .dot⟩
  | uiSelector {calls frames} (is : t.kind = .uiSelector) :
      Step spare t ⟨calls, frames, .new⟩ ⟨calls, frames, .uiSelector⟩
  | opened {calls frames} (is : t.kind = .opening) :
      Step spare t ⟨calls, frames, .uiSelector⟩ ⟨calls, frames, .opened⟩
  | closed {calls frames} (is : t.kind = .closing) :
      Step spare t ⟨calls, frames, .opened⟩ ⟨calls, frames, .chain⟩
  | dot {calls frames} (is : t.kind = .dot) :
      Step spare t ⟨calls, frames, .chain⟩ ⟨calls, frames, .dot⟩
  | name {calls frames} (is : t.kind = .name) :
      Step spare t ⟨calls, frames, .dot⟩ ⟨calls, frames, .name t.literal⟩
  | opening {calls frames name} (is : t.kind = .opening) :
      Step spare t ⟨calls, frames, .name name⟩ ⟨calls, frames, .argument name⟩
  | empty {calls frames name} (is : t.kind = .closing) :
      Step spare t ⟨calls, frames, .argument name⟩ ⟨.mk name [] :: calls, frames, .chain⟩
  | plain {calls frames name arg} (is : t.arg? = some arg) :
      Step spare t ⟨calls, frames, .argument name⟩ ⟨calls, frames, .argumentRead name arg⟩
  | call {calls frames name arg} (is : t.kind = .closing) :
      Step spare t ⟨calls, frames, .argumentRead name arg⟩
        ⟨.mk name [arg] :: calls, frames, .chain⟩
  | enter {calls frames name} (is : t.kind = .new) (room : frames.length < spare) :
      Step spare t ⟨calls, frames, .argument name⟩ ⟨[], ⟨calls, name⟩ :: frames, .new⟩
  | leave {calls frame frames} (is : t.kind = .closing) :
      Step spare t ⟨calls, frame :: frames, .chain⟩
        ⟨.mk frame.name [.nested (.mk calls.reverse)] :: frame.before, frames, .chain⟩

variable {spare : Nat} {t : Token} {p next : Progress}

theorem stepOf (h : p.take? spare t = some next) : Step spare t p next := by
  obtain ⟨calls, frames, phase⟩ := p
  unfold Progress.take? at h
  split at h
  case h_1 here is =>
    cases here
    cases h
    exact .new is
  case h_2 here is =>
    cases here
    cases h
    exact .first is
  case h_3 here is =>
    cases here
    cases h
    exact .uiSelector is
  case h_4 here is =>
    cases here
    cases h
    exact .opened is
  case h_5 here is =>
    cases here
    cases h
    exact .closed is
  case h_6 here is =>
    cases here
    cases h
    exact .dot is
  case h_7 here is =>
    cases here
    cases frames with
    | nil => cases h
    | cons frame frames =>
      cases h
      exact .leave is
  case h_8 here is =>
    cases here
    cases h
    exact .name is
  case h_9 here is =>
    cases here
    cases h
    exact .opening is
  case h_10 here is =>
    cases here
    cases h
    exact .empty is
  case h_11 here is =>
    cases here
    simp only at h
    split at h
    · cases h
      exact .enter is ‹_›
    · cases h
  case h_12 here _ _ =>
    cases here
    obtain ⟨arg, is, same⟩ := Option.map_eq_some_iff.mp h
    cases same
    exact .plain is
  case h_13 here is =>
    cases here
    cases h
    exact .call is
  case h_14 => cases h

inductive Steps (spare : Nat) : Progress → List Token → Progress → Prop where
  | done (p : Progress) : Steps spare p [] p
  | more {p mid q : Progress} {t : Token} {ts : List Token} (step : Step spare t p mid)
      (others : Steps spare mid ts q) : Steps spare p (t :: ts) q

inductive Halts (spare : Nat) (last : Token) (q : Progress) : List Token → Stop → Prop where
  | last : Halts spare last q [] ⟨q.outcome last, [], q.unfinished⟩
  | stuck {t : Token} {rest : List Token} (stuck : q.take? spare t = none) :
      Halts spare last q (t :: rest)
        ⟨q.outcome t, if q.swallows t then rest else t :: rest, q.unfinished⟩

def Progress.taken (spare : Nat) (p : Progress) : List Token → List Token
  | [] => []
  | t :: rest =>
      match p.take? spare t with
      | some next => t :: next.taken spare rest
      | none => []

theorem runTaken (spare : Nat) (last : Token) (p : Progress) (ts : List Token) :
    ∃ rest q, ts = p.taken spare ts ++ rest ∧ Steps spare p (p.taken spare ts) q ∧
      Halts spare last q rest (p.run spare last ts) := by
  induction ts generalizing p with
  | nil => exact ⟨[], p, rfl, .done p, .last⟩
  | cons t rest ih =>
    cases taken : p.take? spare t with
    | some next =>
      obtain ⟨left, q, same, steps, halts⟩ := ih next
      simp only [Progress.run, Progress.taken, taken]
      exact ⟨left, q, congrArg (t :: ·) same, .more (stepOf taken) steps, halts⟩
    | none =>
      simp only [Progress.run, Progress.taken, taken]
      exact ⟨t :: rest, p, rfl, .done p, .stuck taken⟩

theorem runHalts (spare : Nat) (last : Token) (p : Progress) (ts : List Token) :
    ∃ read rest q, ts = read ++ rest ∧ Steps spare p read q ∧
      Halts spare last q rest (p.run spare last ts) :=
  ⟨p.taken spare ts, runTaken spare last p ts⟩

end ElementLocator.Selector
