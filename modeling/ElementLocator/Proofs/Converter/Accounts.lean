import Mathlib.Algebra.GroupWithZero.Nat
import ElementLocator.Converter
import ElementLocator.Locator.Hint
import ElementLocator.Proofs.Converter.Produced
/-! What a converter has counted after any sequence of requests. Every request but a reset adds to
the tally what its reply holds: one for each result of a conversion, nothing for a check. -/
namespace ElementLocator

inductive Request where
  | selectorToXPath (source : String)
  | selectorToDict (source : String)
  | parseSelector (source : String)
  | dictToXPath (raw : Json.Value)
  | dictToSelector (raw : Json.Value)
  | xpathToDict (source : String)
  | xpathToSelector (source : String)
  | convert (l : Locator) (target : Format)
  | convertBatch (ls : List Locator) (target : Format)
  | toDict (v : Json.Value)
  | toXPath (v : Json.Value)
  | toSelector (v : Json.Value)
  | validate (l : Locator)
  | validateBatch (ls : List Locator)
  | suggestFixes (l : Locator)
  | reset

inductive Reply where
  | text (result : Except Fault String)
  | json (result : Except Fault Json.Value)
  | locator (result : Except Fault Locator)
  | batch (result : Except Fault Batch)
  | problems (found : List Problem)
  | summary (s : Summary)
  | hints (hints : List Hint)
  | done

def Request.conversions : Request → Nat
  | .convertBatch ls _ => ls.length
  | .validate _ | .validateBatch _ | .suggestFixes _ | .reset => 0
  | _ => 1

def Request.isReset : Request → Bool
  | .reset => true
  | _ => false

def Request.isCheck : Request → Bool
  | .validate _ | .validateBatch _ | .suggestFixes _ => true
  | _ => false

namespace Reply

def successes : Reply → Nat
  | .text result => result.isOk.toNat
  | .json result => result.isOk.toNat
  | .locator result => result.isOk.toNat
  | .batch (.ok b) => b.succeeded
  | _ => 0

def failures : Reply → Nat
  | .text result => (!result.isOk).toNat
  | .json result => (!result.isOk).toNat
  | .locator result => (!result.isOk).toNat
  | .batch (.ok b) => b.failed
  | _ => 0

end Reply

namespace Converter

def respond (c : Converter) : Request → Reply × Converter
  | .selectorToXPath source => ofAnswer .text (c.selectorToXPath source)
  | .selectorToDict source => ofAnswer .json (c.selectorToDict source)
  | .parseSelector source => ofAnswer .json (c.parseSelector source)
  | .dictToXPath raw => ofAnswer .text (c.dictToXPath raw)
  | .dictToSelector raw => ofAnswer .text (c.dictToSelector raw)
  | .xpathToDict source => ofAnswer .json (c.xpathToDict source)
  | .xpathToSelector source => ofAnswer .text (c.xpathToSelector source)
  | .convert l target => ofAnswer .locator (c.convert l target)
  | .convertBatch ls target => ofAnswer .batch (c.convertBatch ls target)
  | .toDict v => ofAnswer .json (c.toDict v)
  | .toXPath v => ofAnswer .text (c.toXPath v)
  | .toSelector v => ofAnswer .text (c.toSelector v)
  | .validate l => (.problems l.problems, c)
  | .validateBatch ls => (.summary (.ofBatch ls), c)
  | .suggestFixes l => (.hints l.hints, c)
  | .reset => (.done, c.reset)
where
  ofAnswer {α : Type} (reply : Except Fault α → Reply) (a : Answer α) : Reply × Converter :=
    (reply a.outcome, a.converter)

end Converter

structure Session where
  converter : Converter
  answered : List (Request × Reply)

namespace Session

def start (settings : Settings) : Session := ⟨.ofSettings settings, []⟩

def next (s : Session) (r : Request) : Session :=
  ⟨(s.converter.respond r).2, (r, (s.converter.respond r).1) :: s.answered⟩

def run (s : Session) (requests : List Request) : Session := requests.foldl next s

def recent (s : Session) : List (Request × Reply) := s.answered.takeWhile fun (r, _) => !r.isReset

def asked (s : Session) : Nat := (s.recent.map fun (r, _) => r.conversions).sum

def successes (s : Session) : Nat := (s.recent.map fun (_, reply) => reply.successes).sum

def failures (s : Session) : Nat := (s.recent.map fun (_, reply) => reply.failures).sum

end Session

def Tally.add (t : Tally) (successes failures : Nat) : Tally where
  total := t.total + UInt64.ofNat (successes + failures)
  succeeded := t.succeeded + UInt64.ofNat successes
  failed := t.failed + UInt64.ofNat failures

theorem Tally.addNothing (t : Tally) : t.add 0 0 = t := by
  simp [Tally.add]

theorem Tally.addAgain (t : Tally) (s f successes failures : Nat) :
    (t.add s f).add successes failures = t.add (successes + s) (failures + f) := by
  simp only [Tally.add, UInt64.ofNat_add, Tally.mk.injEq]
  refine ⟨?_, ?_, ?_⟩ <;> ac_rfl

theorem Tally.countAdds (t : Tally) (success : Bool) :
    t.count success = t.add success.toNat (!success).toNat := by
  cases success <;> simp [Tally.count, Tally.add]

theorem countedCons {α : Type} (o : Except Fault α) (rest : List (Except Fault α)) :
    (o :: rest).countP Except.isOk = rest.countP Except.isOk + o.isOk.toNat ∧
      (o :: rest).countP (fun o => !o.isOk) = rest.countP (fun o => !o.isOk) + (!o.isOk).toNat := by
  cases o <;> simp [List.countP_cons, Except.isOk, Except.toBool]

def Tally.countAll {α : Type} (t : Tally) (outcomes : List (Except Fault α)) : Tally :=
  t.add (outcomes.countP Except.isOk) (outcomes.countP fun o => !o.isOk)

theorem Tally.countAllCons {α : Type} (t : Tally) (o : Except Fault α)
    (rest : List (Except Fault α)) : (t.count o.isOk).countAll rest = t.countAll (o :: rest) := by
  rw [countAll, countAll, countAdds, addAgain, (countedCons o rest).1, (countedCons o rest).2]

namespace Converter

variable {α β : Type} {c : Converter} {a : Answer α} {v : Json.Value} {target : Format}
  {made : Locator}

def Counted (c : Converter) (a : Answer α) : Prop :=
  a.converter = ⟨c.settings, c.tally.count a.outcome.isOk⟩

theorem runCounted (c : Converter) (op : Operation) (work : Noted α) :
    c.Counted (c.run op work) := by
  unfold Counted run
  cases work.outcome <;> rfl

theorem mapCounted (counted : c.Counted a) (f : α → β) : c.Counted (a.map f) := by
  unfold Counted Answer.map
  rw [counted]
  cases a.outcome <;> rfl

theorem convertCounted (c : Converter) (l : Locator) (target : Format) :
    c.Counted (c.convert l target) := by
  cases l <;> cases target <;>
    first | exact mapCounted (runCounted _ _ _) _ | exact runCounted _ _ _

theorem convertFormat {l : Locator} (converted : (c.convert l target).outcome = .ok made) :
    made.format = target := by
  have mapped {β : Type} {a : Answer β} {f : β → Locator} (same : ∀ b, (f b).format = target)
      (h : (a.map f).outcome = .ok made) : made.format = target := by
    obtain ⟨b, _, rfl⟩ := mapOk.mp h
    exact same b
  have unchanged {op : Operation} {l : Locator} (same : l.format = target)
      (h : (c.checked op l (pure l)).outcome = .ok made) : made.format = target := by
    rw [checked, (runOutcome _ _ _).1, outcomeBind] at h
    obtain ⟨_, _, h⟩ := bindOk.mp h
    cases h
    exact same
  cases l <;> cases target <;>
    first | exact mapped (fun _ => rfl) converted | exact unchanged rfl converted

theorem sourceOutcome (isSource : target ≠ .dict) :
    (c.toSource v target).outcome.isOk = (c.convert (.detect v) target).outcome.isOk := by
  simp only [toSource]
  cases converted : (c.convert (.detect v) target).outcome with
  | error fault => rfl
  | ok made =>
    cases made with
    | dict raw => exact absurd (convertFormat converted).symm isSource
    | _ => rfl

theorem sourceCounted (isSource : target ≠ .dict) : c.Counted (c.toSource v target) := by
  unfold Counted
  rw [sourceOutcome isSource]
  exact convertCounted c _ target

theorem xpathCounted (c : Converter) (v : Json.Value) : c.Counted (c.toXPath v) :=
  sourceCounted (by decide)

theorem selectorCounted (c : Converter) (v : Json.Value) : c.Counted (c.toSelector v) :=
  sourceCounted (by decide)

theorem ofOutcomesCounted (index : Nat) (outcomes : List (Except Fault Locator)) :
    (Batch.ofOutcomes index outcomes).succeeded = outcomes.countP Except.isOk ∧
      (Batch.ofOutcomes index outcomes).failed = outcomes.countP fun o => !o.isOk := by
  induction outcomes generalizing index with
  | nil => exact ⟨rfl, rfl⟩
  | cons o rest ih =>
    obtain ⟨succeeded, failed⟩ := ih (index + 1)
    rw [(countedCons o rest).1, (countedCons o rest).2, ← succeeded, ← failed]
    unfold Batch.succeeded Batch.failed
    cases o with
    | ok l => exact ⟨List.countP_cons_of_pos rfl, rfl⟩
    | error fault => exact ⟨rfl, rfl⟩

theorem eachCounted (c : Converter) (target : Format) (ls : List Locator) :
    (c.convertEach target ls).1.length = ls.length ∧
      (c.convertEach target ls).2.1 =
        ⟨c.settings, c.tally.countAll (c.convertEach target ls).1⟩ := by
  induction ls generalizing c with
  | nil => exact ⟨rfl, congrArg (Converter.mk c.settings) (Tally.addNothing c.tally).symm⟩
  | cons l rest ih =>
    obtain ⟨length, last⟩ := ih (c.convert l target).converter
    have here := convertCounted c l target
    simp only [convertEach, List.length_cons, length, true_and]
    rw [last, here, Tally.countAllCons]

theorem batchCounted (c : Converter) (ls : List Locator) (target : Format) :
    ∃ b, (c.convertBatch ls target).outcome = .ok b ∧ b.succeeded + b.failed = ls.length ∧
      (c.convertBatch ls target).converter = ⟨c.settings, c.tally.add b.succeeded b.failed⟩ := by
  obtain ⟨length, last⟩ := eachCounted c target ls
  obtain ⟨succeeded, failed⟩ := ofOutcomesCounted 0 (c.convertEach target ls).1
  refine ⟨_, rfl, ?_, ?_⟩
  · rw [succeeded, failed, ← length]
    simpa using (List.length_eq_countP_add_countP Except.isOk).symm
  · rw [succeeded, failed]
    exact last

structure Tallied (c : Converter) (r : Request) : Prop where
  tally : r.isReset = false → (c.respond r).2 =
    ⟨c.settings, c.tally.add (c.respond r).1.successes (c.respond r).1.failures⟩
  conversions : (c.respond r).1.successes + (c.respond r).1.failures = r.conversions

theorem answerTallied {r : Request} {reply : Except Fault α → Reply} (counted : c.Counted a)
    (responds : c.respond r = (reply a.outcome, a.converter)) (one : r.conversions = 1)
    (counts : ∀ o, (reply o).successes = o.isOk.toNat ∧ (reply o).failures = (!o.isOk).toNat) :
    Tallied c r where
  tally _ := by rw [responds, (counts _).1, (counts _).2, counted, Tally.countAdds]
  conversions := by
    rw [responds, (counts _).1, (counts _).2, one]
    cases a.outcome.isOk <;> rfl

theorem checkTallied {r : Request} {reply : Reply} (responds : c.respond r = (reply, c))
    (none : r.conversions = 0) (silent : reply.successes = 0 ∧ reply.failures = 0) :
    Tallied c r where
  tally _ := by rw [responds, silent.1, silent.2, Tally.addNothing]
  conversions := by rw [responds, silent.1, silent.2, none]

theorem respondTallied (c : Converter) (r : Request) : Tallied c r := by
  cases r with
  | selectorToXPath source =>
    exact answerTallied (runCounted _ _ _) rfl rfl fun _ => ⟨rfl, rfl⟩
  | selectorToDict source => exact answerTallied (runCounted _ _ _) rfl rfl fun _ => ⟨rfl, rfl⟩
  | parseSelector source => exact answerTallied (runCounted _ _ _) rfl rfl fun _ => ⟨rfl, rfl⟩
  | dictToXPath raw => exact answerTallied (runCounted _ _ _) rfl rfl fun _ => ⟨rfl, rfl⟩
  | dictToSelector raw => exact answerTallied (runCounted _ _ _) rfl rfl fun _ => ⟨rfl, rfl⟩
  | xpathToDict source => exact answerTallied (runCounted _ _ _) rfl rfl fun _ => ⟨rfl, rfl⟩
  | xpathToSelector source =>
    exact answerTallied (runCounted _ _ _) rfl rfl fun _ => ⟨rfl, rfl⟩
  | convert l target =>
    exact answerTallied (convertCounted c l target) rfl rfl fun _ => ⟨rfl, rfl⟩
  | convertBatch ls target =>
    obtain ⟨b, outcome, whole, last⟩ := batchCounted c ls target
    have reply : (c.respond (.convertBatch ls target)).1 = .batch (.ok b) :=
      congrArg Reply.batch outcome
    refine ⟨fun _ => ?_, ?_⟩
    · rw [reply]
      exact last
    · rw [reply]
      exact whole
  | toDict v =>
    exact answerTallied (mapCounted (convertCounted c _ _) _) rfl rfl fun _ => ⟨rfl, rfl⟩
  | toXPath v => exact answerTallied (xpathCounted c v) rfl rfl fun _ => ⟨rfl, rfl⟩
  | toSelector v => exact answerTallied (selectorCounted c v) rfl rfl fun _ => ⟨rfl, rfl⟩
  | validate l => exact checkTallied rfl rfl ⟨rfl, rfl⟩
  | validateBatch ls => exact checkTallied rfl rfl ⟨rfl, rfl⟩
  | suggestFixes l => exact checkTallied rfl rfl ⟨rfl, rfl⟩
  | reset => exact ⟨nofun, rfl⟩

end Converter

namespace Session

structure Accounts (s : Session) : Prop where
  tally : s.converter.tally = Tally.zero.add s.successes s.failures
  asked : s.successes + s.failures = s.asked

variable {s : Session} {r : Request}

theorem recentNext (h : r.isReset = false) :
    (s.next r).recent = (r, (s.converter.respond r).1) :: s.recent := by
  simp [recent, next, h]

theorem recentReset (h : r.isReset = true) : (s.next r).recent = [] := by
  simp [recent, next, h]

theorem startAccounts (settings : Settings) : (start settings).Accounts := ⟨rfl, rfl⟩

theorem nextAccounts (accounts : s.Accounts) (r : Request) : (s.next r).Accounts := by
  cases h : r.isReset with
  | true =>
    cases r <;> cases h
    exact ⟨rfl, rfl⟩
  | false =>
    have tallied := Converter.respondTallied s.converter r
    refine ⟨?_, ?_⟩ <;> simp only [successes, failures, asked, recentNext h, List.map_cons,
      List.sum_cons]
    · rw [← Tally.addAgain]
      change (s.converter.respond r).2.tally = _
      rw [tallied.tally h]
      exact congrArg (Tally.add · _ _) accounts.tally
    · have before := accounts.asked
      simp only [successes, failures, asked] at before
      have here := tallied.conversions
      omega

theorem runAccounts (accounts : s.Accounts) (requests : List Request) :
    (s.run requests).Accounts := by
  induction requests generalizing s with
  | nil => exact accounts
  | cons r rest ih => exact ih (nextAccounts accounts r)

theorem askedNext (s : Session) (r : Request) : (s.next r).asked ≤ s.asked + r.conversions := by
  cases h : r.isReset with
  | true => simp [asked, recentReset h]
  | false =>
    simp only [asked, recentNext h, List.map_cons, List.sum_cons]
    omega

theorem askedRun (s : Session) (requests : List Request) :
    (s.run requests).asked ≤ s.asked + (requests.map Request.conversions).sum := by
  induction requests generalizing s with
  | nil => exact Nat.le_refl _
  | cons r rest ih =>
    have here := askedNext s r
    have further := ih (s.next r)
    rw [List.map_cons, List.sum_cons]
    exact Nat.le_trans further (by omega)

theorem accountsShown (accounts : s.Accounts) (few : s.asked < UInt64.size) :
    s.converter.tally.total.toNat = s.asked ∧ s.converter.tally.succeeded.toNat = s.successes ∧
      s.converter.tally.failed.toNat = s.failures := by
  have whole := accounts.asked
  rw [accounts.tally]
  simp only [Tally.add, Tally.zero, UInt64.zero_add, whole]
  exact ⟨UInt64.toNat_ofNat_of_lt' few, UInt64.toNat_ofNat_of_lt' (by omega),
    UInt64.toNat_ofNat_of_lt' (by omega)⟩

/-- After any requests that ask for fewer than 2^64 conversions, each conversion since the last reset
has been counted once, as what its result was. Checks change nothing, and what fails to give a
source is not counted as a success. -/
theorem conversionsCountedOnce (settings : Settings) (requests : List Request)
    (few : (requests.map Request.conversions).sum < UInt64.size) :
    let s := (start settings).run requests
    let t := s.converter.tally
    t.total.toNat = t.succeeded.toNat + t.failed.toNat ∧
      t.total.toNat = s.asked ∧ t.succeeded.toNat = s.successes ∧ t.failed.toNat = s.failures ∧
      (∀ r, r.isCheck = true → (s.next r).converter = s.converter) ∧
      ∀ v, (s.converter.toXPath v).converter.tally =
          t.count (s.converter.toXPath v).outcome.isOk ∧
        (s.converter.toSelector v).converter.tally =
          t.count (s.converter.toSelector v).outcome.isOk := by
  intro s t
  have accounts : s.Accounts := runAccounts (startAccounts settings) requests
  have bound : s.asked ≤ 0 + (requests.map Request.conversions).sum :=
    askedRun (start settings) requests
  obtain ⟨total, succeeded, failed⟩ := accountsShown accounts (by omega)
  refine ⟨?_, total, succeeded, failed, ?_, ?_⟩
  · rw [total, succeeded, failed, accounts.asked]
  · intro r check
    cases r <;> first | rfl | cases check
  · intro v
    exact ⟨congrArg Converter.tally (Converter.xpathCounted s.converter v),
      congrArg Converter.tally (Converter.selectorCounted s.converter v)⟩

theorem batchAfterResetCounted :
    let requests : List Request := [
      .dictToXPath (.obj []),
      .reset,
      .convertBatch [.dict (.obj []), .dict (.obj [("text", .str "a")])] .xpath,
      .validate (.dict (.obj [])),
      .toXPath (.obj [("checked", .bool true)])]
    let t := ((start .standard).run requests).converter.tally
    (requests.map Request.conversions).sum < UInt64.size ∧ t.total.toNat = 3 ∧
      t.succeeded.toNat = 2 ∧ t.failed.toNat = 1 := by
  intro requests t
  have few : (requests.map Request.conversions).sum < UInt64.size := by decide
  obtain ⟨_, total, succeeded, failed, _⟩ := conversionsCountedOnce .standard requests few
  exact ⟨few, total, succeeded, failed⟩

end Session

end ElementLocator
