/-! The attributes by which an element can be located. One table says for each of them its key in
dictionaries, its method in selectors, the element attribute it tests in XPath, what values it
takes and how a string is compared. -/
namespace ElementLocator

inductive ValueKind where
  | string
  | boolean
  | numeric
  | hierarchical
  deriving DecidableEq, Repr

def ValueKind.name : ValueKind → String
  | .string => "string"
  | .boolean => "boolean"
  | .numeric => "non-negative integer"
  | .hierarchical => "nested locator"

inductive Family where
  | text
  | description
  deriving DecidableEq, Repr

def Family.name : Family → String
  | .text => "text"
  | .description => "description"

inductive MatchMode where
  | equals
  | contains
  | startsWith
  | matches
  deriving DecidableEq, Repr

def MatchMode.function? : MatchMode → Option String
  | .equals => none
  | .contains => some "contains"
  | .startsWith => some "starts-with"
  | .matches => some "matches"

def MatchMode.ofFunction? (name : String) : Option MatchMode :=
  if name = "contains" then some .contains
  else if name = "starts-with" then some .startsWith
  else if name = "matches" then some .matches
  else none

inductive Attribute where
  | text
  | textContains
  | textStartsWith
  | textMatches
  | description
  | descriptionContains
  | descriptionStartsWith
  | descriptionMatches
  | resourceId
  | resourceIdMatches
  | packageName
  | packageNameMatches
  | className
  | classNameMatches
  | checkable
  | checked
  | clickable
  | enabled
  | focusable
  | focused
  | longClickable
  | scrollable
  | selected
  | password
  | index
  | occurrence
  | childSelector
  | fromParent
  | sibling
  deriving DecidableEq, Repr

namespace Attribute

structure Traits where
  key : String
  method : String
  xpathName : Option String
  kind : ValueKind
  family : Option Family
  mode : MatchMode
  deriving DecidableEq, Repr

def traits : Attribute → Traits
  | .text => ⟨"text", "text", some "text", .string, some .text, .equals⟩
  | .textContains => ⟨"textContains", "textContains", some "text", .string, some .text, .contains⟩
  | .textStartsWith =>
      ⟨"textStartsWith", "textStartsWith", some "text", .string, some .text, .startsWith⟩
  | .textMatches => ⟨"textMatches", "textMatches", some "text", .string, some .text, .matches⟩
  | .description =>
      ⟨"content-desc", "description", some "content-desc", .string, some .description, .equals⟩
  | .descriptionContains =>
      ⟨"content-descContains", "descriptionContains",
        some "content-desc", .string, some .description, .contains⟩
  | .descriptionStartsWith =>
      ⟨"content-descStartsWith", "descriptionStartsWith",
        some "content-desc", .string, some .description, .startsWith⟩
  | .descriptionMatches =>
      ⟨"content-descMatches", "descriptionMatches",
        some "content-desc", .string, some .description, .matches⟩
  | .resourceId => ⟨"resource-id", "resourceId", some "resource-id", .string, none, .equals⟩
  | .resourceIdMatches =>
      ⟨"resource-idMatches", "resourceIdMatches", some "resource-id", .string, none, .matches⟩
  | .packageName => ⟨"package", "packageName", some "package", .string, none, .equals⟩
  | .packageNameMatches =>
      ⟨"packageMatches", "packageNameMatches", some "package", .string, none, .matches⟩
  | .className => ⟨"class", "className", some "class", .string, none, .equals⟩
  | .classNameMatches => ⟨"classMatches", "classNameMatches", some "class", .string, none, .matches⟩
  | .checkable => ⟨"checkable", "checkable", some "checkable", .boolean, none, .equals⟩
  | .checked => ⟨"checked", "checked", some "checked", .boolean, none, .equals⟩
  | .clickable => ⟨"clickable", "clickable", some "clickable", .boolean, none, .equals⟩
  | .enabled => ⟨"enabled", "enabled", some "enabled", .boolean, none, .equals⟩
  | .focusable => ⟨"focusable", "focusable", some "focusable", .boolean, none, .equals⟩
  | .focused => ⟨"focused", "focused", some "focused", .boolean, none, .equals⟩
  | .longClickable =>
      ⟨"long-clickable", "longClickable", some "long-clickable", .boolean, none, .equals⟩
  | .scrollable => ⟨"scrollable", "scrollable", some "scrollable", .boolean, none, .equals⟩
  | .selected => ⟨"selected", "selected", some "selected", .boolean, none, .equals⟩
  | .password => ⟨"password", "password", some "password", .boolean, none, .equals⟩
  | .index => ⟨"index", "index", none, .numeric, none, .equals⟩
  | .occurrence => ⟨"instance", "instance", none, .numeric, none, .equals⟩
  | .childSelector => ⟨"childSelector", "childSelector", none, .hierarchical, none, .equals⟩
  | .fromParent => ⟨"fromParent", "fromParent", none, .hierarchical, none, .equals⟩
  | .sibling => ⟨"sibling", "sibling", none, .hierarchical, none, .equals⟩

def key (a : Attribute) : String := a.traits.key

def method (a : Attribute) : String := a.traits.method

def xpathName (a : Attribute) : Option String := a.traits.xpathName

def kind (a : Attribute) : ValueKind := a.traits.kind

def family (a : Attribute) : Option Family := a.traits.family

def mode (a : Attribute) : MatchMode := a.traits.mode

def isHierarchical (a : Attribute) : Bool := a.kind = .hierarchical

def all : List Attribute :=
  [.text, .textContains, .textStartsWith, .textMatches, .description, .descriptionContains,
   .descriptionStartsWith, .descriptionMatches, .resourceId, .resourceIdMatches, .packageName,
   .packageNameMatches, .className, .classNameMatches, .checkable, .checked, .clickable, .enabled,
   .focusable, .focused, .longClickable, .scrollable, .selected, .password, .index, .occurrence,
   .childSelector, .fromParent, .sibling]

def ofKey? (key : String) : Option Attribute := all.find? fun a => a.key = key

def ofMethod? (name : String) : Option Attribute := all.find? fun a => a.method = name

def ofXPath? (name : String) (mode : MatchMode) : Option Attribute :=
  all.find? fun a => a.xpathName = some name ∧ a.mode = mode

theorem ofKeyOfKey (a : Attribute) : ofKey? a.key = some a := by cases a <;> rfl

theorem ofMethodOfMethod (a : Attribute) : ofMethod? a.method = some a := by cases a <;> rfl

end Attribute

end ElementLocator
