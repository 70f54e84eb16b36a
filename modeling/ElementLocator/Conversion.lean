import ElementLocator.Dict.Json
import ElementLocator.Dict.OfPath
import ElementLocator.Dict.OfSelector
import ElementLocator.Selector.OfDict
import ElementLocator.XPath.OfDict
import ElementLocator.XPath.OfSelector
/-! Conversions between written locators, without any check before. -/
namespace ElementLocator.Conversion

def selectorToXPath (settings : Settings) (source : String) : Noted String := do
  let s ← Noted.ofExcept (Selector.ofSource source)
  s.xpath settings "//*"

def selectorToDict (settings : Settings) (source : String) : Noted Json.Value := do
  let s ← Noted.ofExcept (Selector.ofSource source)
  let d ← s.dict settings
  pure d.json

def selectorToJson (source : String) : Except Fault Json.Value := do
  let s ← Selector.ofSource source
  .ok s.json

def dictToXPath (settings : Settings) (raw : Json.Value) : Except Fault String := do
  let d ← Dict.ofJson settings raw
  d.xpath settings

def dictToSelector (settings : Settings) (raw : Json.Value) : Except Fault String := do
  let d ← Dict.ofJson settings raw
  let s ← d.selector settings
  .ok s.text

def xpathToDict (settings : Settings) (source : String) : Except Fault Json.Value := do
  let e ← XPath.Expr.ofSource source
  let d ← e.dict settings
  .ok d.json

def xpathToSelector (settings : Settings) (source : String) : Except Fault String := do
  let e ← XPath.Expr.ofSource source
  let d ← e.dict settings
  let s ← d.selector settings
  .ok s.text

end ElementLocator.Conversion
