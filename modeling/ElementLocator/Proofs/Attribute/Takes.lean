import ElementLocator.Attribute.Value
import ElementLocator.Proofs.XPath.Reading
/-! Which values an attribute takes, and what the table of attributes says about their names. -/
namespace ElementLocator

def Attribute.takes (a : Attribute) : Value → Bool
  | .str _ => a.kind = .string
  | .bool _ => a.kind = .boolean
  | .int _ => a.kind = .numeric
  | .nested _ => a.kind = .hierarchical

def Value.hasPlace : Value → Bool
  | .int n => n.toNat + 1 < UInt32.size
  | _ => true

def Plain (entry : Attribute × Value) : Prop :=
  entry.1.takes entry.2 = true ∧ entry.1.isHierarchical = false

instance (entry : Attribute × Value) : Decidable (Plain entry) :=
  inferInstanceAs (Decidable (_ ∧ _))

theorem plainIff {a : Attribute} {v : Value} :
    Plain (a, v) ↔ a.takes v = true ∧ v.nested? = none := by
  unfold Plain
  apply and_congr_right
  intro takes
  cases v with
  | nested d =>
    have kind : a.kind = .hierarchical := of_decide_eq_true takes
    simp [Attribute.isHierarchical, kind, Value.nested?]
  | str s =>
    have kind : a.kind = .string := of_decide_eq_true takes
    simp [Attribute.isHierarchical, kind, Value.nested?]
  | bool b =>
    have kind : a.kind = .boolean := of_decide_eq_true takes
    simp [Attribute.isHierarchical, kind, Value.nested?]
  | int n =>
    have kind : a.kind = .numeric := of_decide_eq_true takes
    simp [Attribute.isHierarchical, kind, Value.nested?]

section
variable {a : Attribute}

theorem plainStr {s : String} : Plain (a, .str s) ↔ a.kind = .string := by
  simp [plainIff, Attribute.takes, Value.nested?]

theorem plainBool {b : Bool} : Plain (a, .bool b) ↔ a.kind = .boolean := by
  simp [plainIff, Attribute.takes, Value.nested?]

theorem plainInt {n : UInt32} : Plain (a, .int n) ↔ a.kind = .numeric := by
  simp [plainIff, Attribute.takes, Value.nested?]

theorem plainNested {d : Dict} : ¬ Plain (a, .nested d) := by
  simp [plainIff, Value.nested?]

end

namespace Attribute
open ElementLocator.XPath (IsName isKindName)

variable {a : Attribute} {name : String}

theorem numericIs (h : a.kind = .numeric) : a = .index ∨ a = .occurrence := by
  cases a <;> first | exact Or.inl rfl | exact Or.inr rfl | cases h

theorem hierarchicalIs (h : a.isHierarchical = true) :
    a = .childSelector ∨ a = .fromParent ∨ a = .sibling := by
  cases a <;>
    first | exact Or.inl rfl | exact Or.inr (Or.inl rfl) | exact Or.inr (Or.inr rfl) | cases h

theorem testedOfKind (h : a.kind = .string ∨ a.kind = .boolean) :
    ∃ name, a.xpathName = some name := by
  cases a <;> first | exact ⟨_, rfl⟩ | (rcases h with h | h <;> cases h)

theorem testedIsName (h : a.xpathName = some name) : IsName name.toList := by
  cases a <;> cases h <;> decide

theorem testedFound (h : a.xpathName = some name) : ofXPath? name a.mode = some a := by
  cases a <;> cases h <;> rfl

theorem testedKind (h : a.xpathName = some name) : a.kind = .string ∨ a.kind = .boolean := by
  cases a <;> first | exact Or.inl rfl | exact Or.inr rfl | cases h

theorem foundTraits {mode : MatchMode} (h : ofXPath? name mode = some a) :
    a.xpathName = some name ∧ a.mode = mode := by
  have := List.find?_some h
  simpa using this

theorem booleanEquals (h : a.kind = .boolean) : a.mode = .equals := by
  cases a <;> first | rfl | cases h

end Attribute

namespace MatchMode
open ElementLocator.XPath (IsName isKindName)

variable {mode : MatchMode} {f : String}

theorem functionIsName (h : mode.function? = some f) :
    IsName f.toList ∧ isKindName f = false ∧ ofFunction? f = some mode := by
  cases mode <;> cases h <;> exact ⟨by decide, by decide, rfl⟩

theorem equalsOfNone (h : mode.function? = none) : mode = .equals := by
  cases mode <;> first | rfl | cases h

end MatchMode

end ElementLocator
