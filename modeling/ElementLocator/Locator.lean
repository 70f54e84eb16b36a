import ElementLocator.Json.Text
import ElementLocator.Selector.Source
/-! Locators in their three formats. A dictionary locator is carried as the JSON value it was
given as, well formed or not. -/
namespace ElementLocator
open ElementLocator.Text (lowerAscii)

inductive Format where
  | uiSelector
  | xpath
  | dict
  deriving DecidableEq, Repr

def Format.name : Format → String
  | .uiSelector => "ui_selector"
  | .xpath => "xpath"
  | .dict => "dict"

def Format.all : List Format := [.uiSelector, .xpath, .dict]

def Format.ofExactName? (name : String) : Option Format := all.find? fun f => f.name = name

def Format.ofName? (name : String) : Option Format :=
  let lower := String.ofList (name.toList.map lowerAscii)
  if lower = "uiselector" ∨ lower = "ui" then some .uiSelector else ofExactName? lower

inductive Locator where
  | uiSelector (source : String)
  | xpath (source : String)
  | dict (value : Json.Value)
  deriving Repr

namespace Locator

def format : Locator → Format
  | .uiSelector _ => .uiSelector
  | .xpath _ => .xpath
  | .dict _ => .dict

def source? : Locator → Option String
  | .uiSelector s | .xpath s => some s
  | .dict _ => none

def json : Locator → Json.Value
  | .uiSelector s | .xpath s => .str s
  | .dict v => v

def text : Locator → String
  | .uiSelector s | .xpath s => s
  | .dict v => v.text

def detectSource (source : String) : Locator :=
  if ("new UiSelector".toList).isPrefixOf (Selector.unwrapped source.toList) then .uiSelector source
  else .xpath source

def detect : Json.Value → Locator
  | .str s => detectSource s
  | v => .dict v

def ofFormat? : Format → Json.Value → Option Locator
  | .dict, v => some (.dict v)
  | .uiSelector, .str s => some (.uiSelector s)
  | .xpath, .str s => some (.xpath s)
  | _, _ => none

end Locator

end ElementLocator
