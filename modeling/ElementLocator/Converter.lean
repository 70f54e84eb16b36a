import ElementLocator.Conversion
import ElementLocator.Converter.Log
import ElementLocator.Converter.Tally
import ElementLocator.Locator.Check
/-! A converter checks locators before it converts them, if it is set to, and counts what it
converts. Each conversion answers with its result, the converter after it and the lines it logged.
-/
namespace ElementLocator

variable {α β : Type}

structure Converter where
  settings : Settings
  tally : Tally

structure Answer (α : Type) where
  outcome : Except Fault α
  converter : Converter
  log : List LogLine

def Answer.map (f : α → β) (a : Answer α) : Answer β :=
  ⟨a.outcome.map f, a.converter, a.log⟩

structure Batch where
  items : List (Option Locator)
  failures : List (Nat × Fault)

def Batch.succeeded (b : Batch) : Nat := b.items.countP Option.isSome

def Batch.failed (b : Batch) : Nat := b.failures.length

def Batch.empty : Batch := ⟨[], []⟩

def Batch.ofOutcomes (index : Nat) : List (Except Fault Locator) → Batch
  | [] => .empty
  | .ok l :: rest =>
      let more := ofOutcomes (index + 1) rest
      ⟨some l :: more.items, more.failures⟩
  | .error fault :: rest =>
      let more := ofOutcomes (index + 1) rest
      ⟨none :: more.items, (index, fault) :: more.failures⟩

namespace Converter

def ofSettings (settings : Settings) : Converter := ⟨settings, .zero⟩

def build (settings : Settings) : Except Fault Converter :=
  if settings.maxDepth = 0 then .error .zeroDepth else .ok (ofSettings settings)

def reset (c : Converter) : Converter := { c with tally := .zero }

def run (c : Converter) (op : Operation) (work : Noted α) : Answer α :=
  match work.outcome with
  | .ok a =>
      ⟨.ok a, { c with tally := c.tally.count true },
        work.skipped.map .skipped ++ [.succeeded op]⟩
  | .error fault =>
      ⟨.error fault, { c with tally := c.tally.count false },
        work.skipped.map .skipped ++ [.failed op fault]⟩

def check (c : Converter) (l : Locator) : Except Fault Unit :=
  if c.settings.validateInput then accept l.format l.problems else .ok ()

def checked (c : Converter) (op : Operation) (l : Locator) (work : Noted α) : Answer α :=
  c.run op do
    Noted.ofExcept (c.check l)
    work

def selectorToXPath (c : Converter) (source : String) : Answer String :=
  c.checked .selectorToXPath (.uiSelector source) (Conversion.selectorToXPath c.settings source)

def selectorToDict (c : Converter) (source : String) : Answer Json.Value :=
  c.checked .selectorToDict (.uiSelector source) (Conversion.selectorToDict c.settings source)

def parseSelector (c : Converter) (source : String) : Answer Json.Value :=
  c.run .parseSelector (Noted.ofExcept (Conversion.selectorToJson source))

def dictToXPath (c : Converter) (raw : Json.Value) : Answer String :=
  c.checked .dictToXPath (.dict raw) (Noted.ofExcept (Conversion.dictToXPath c.settings raw))

def dictToSelector (c : Converter) (raw : Json.Value) : Answer String :=
  c.checked .dictToSelector (.dict raw)
    (Noted.ofExcept (Conversion.dictToSelector c.settings raw))

def xpathToDict (c : Converter) (source : String) : Answer Json.Value :=
  c.checked .xpathToDict (.xpath source)
    (Noted.ofExcept (Conversion.xpathToDict c.settings source))

def xpathToSelector (c : Converter) (source : String) : Answer String :=
  c.checked .xpathToSelector (.xpath source)
    (Noted.ofExcept (Conversion.xpathToSelector c.settings source))

def convert (c : Converter) (l : Locator) (target : Format) : Answer Locator :=
  match l, target with
  | .uiSelector s, .xpath => (c.selectorToXPath s).map .xpath
  | .uiSelector s, .dict => (c.selectorToDict s).map .dict
  | .xpath s, .dict => (c.xpathToDict s).map .dict
  | .xpath s, .uiSelector => (c.xpathToSelector s).map .uiSelector
  | .dict v, .xpath => (c.dictToXPath v).map .xpath
  | .dict v, .uiSelector => (c.dictToSelector v).map .uiSelector
  | l, _ => c.checked .unchanged l (pure l)

def convertEach (c : Converter) (target : Format) :
    List Locator → List (Except Fault Locator) × Converter × List LogLine
  | [] => ([], c, [])
  | l :: rest =>
      let here := c.convert l target
      let (outcomes, last, log) := here.converter.convertEach target rest
      (here.outcome :: outcomes, last, here.log ++ log)

def convertBatch (c : Converter) (ls : List Locator) (target : Format) : Answer Batch :=
  let (outcomes, last, log) := c.convertEach target ls
  let batch := Batch.ofOutcomes 0 outcomes
  ⟨.ok batch, last, log ++ batch.failures.map fun (index, fault) => .batchItem index fault⟩

def toDict (c : Converter) (v : Json.Value) : Answer Json.Value :=
  (c.convert (.detect v) .dict).map Locator.json

def toSource (c : Converter) (v : Json.Value) (target : Format) : Answer String :=
  let a := c.convert (.detect v) target
  let outcome := match a.outcome with
    | .error fault => .error fault
    | .ok l =>
        match l.source? with
        | some s => .ok s
        | none => .error (.conversion (.producedDict target))
  ⟨outcome, a.converter, a.log⟩

def toXPath (c : Converter) (v : Json.Value) : Answer String := c.toSource v .xpath

def toSelector (c : Converter) (v : Json.Value) : Answer String := c.toSource v .uiSelector

def methods : List String := Attribute.all.map Attribute.method

end Converter

end ElementLocator
