import ElementLocator.Proofs.Dict.Insertion
import ElementLocator.Proofs.Dict.Levels
import ElementLocator.Settings
/-! Dictionaries that are built by giving one attribute after another: they are sound and within the
greatest depth if every value that is given is. -/
namespace ElementLocator.Dict

structure Admitted (settings : Settings) (depth : Nat) (a : Attribute) (v : Value) : Prop where
  takes : a.takes v = true
  nested : ∀ d, v = .nested d → d.Everywhere Sound ∧ depth + d.depth ≤ settings.maxDepth

structure Built (settings : Settings) (depth : Nat) (es : List (Attribute × Value)) : Prop where
  distinct : (es.map Prod.fst).Nodup
  entries : ∀ e ∈ es, Admitted settings depth e.1 e.2

variable {settings : Settings} {depth : Nat} {es : List (Attribute × Value)} {a : Attribute}
  {v : Value} {d : Dict}

theorem admittedPlain (plain : Plain (a, v)) : Admitted settings depth a v where
  takes := plain.1
  nested d same := by
    subst same
    exact absurd plain plainNested

theorem admittedNested (hierarchical : a.isHierarchical = true) (sound : d.Everywhere Sound)
    (room : depth + d.depth ≤ settings.maxDepth) : Admitted settings depth a (.nested d) where
  takes := hierarchical
  nested inner same := by
    cases same
    exact ⟨sound, room⟩

theorem builtEmpty : Built settings depth [] where
  distinct := List.nodup_nil
  entries e member := by cases member

theorem builtPlaced (built : Built settings depth es) (admitted : Admitted settings depth a v) :
    Built settings depth (placed a v es) where
  distinct := placedDistinct built.distinct a v
  entries e member := by
    rcases placedMember member with rfl | old
    · exact admitted
    · exact built.entries e old

theorem depthWithin {most : Nat} (inner : ∀ a d, (a, .nested d) ∈ es → d.depth ≤ most) :
    depthOfEntries es ≤ most := by
  induction es with
  | nil => exact Nat.zero_le _
  | cons e rest ih =>
    obtain ⟨a, v⟩ := e
    have later := ih fun b d member => inner b d (by simp [member])
    cases v with
    | nested d =>
      have here := inner a d (by simp)
      rw [depthOfEntries]
      omega
    | _ => rwa [depthPlain rfl]

theorem builtLevel (built : Built settings depth d.entries) (room : depth ≤ settings.maxDepth) :
    d.Everywhere Sound ∧ depth + d.depth ≤ settings.maxDepth + 1 := by
  obtain ⟨es⟩ := d
  have inner (a : Attribute) (d : Dict) (member : (a, .nested d) ∈ es) :
      d.Everywhere Sound ∧ depth + d.depth ≤ settings.maxDepth :=
    (built.entries (a, .nested d) member).nested d rfl
  have typed : Typed es := fun e member => (built.entries e member).takes
  constructor
  · rw [Everywhere, everywhereIn]
    exact ⟨⟨typed, built.distinct⟩, fun a d member => (inner a d member).1⟩
  · have deep : depthOfEntries es ≤ settings.maxDepth - depth := by
      apply depthWithin
      intro a d member
      have := (inner a d member).2
      omega
    rw [Dict.depth]
    omega

end ElementLocator.Dict
