import ElementLocator.Proofs.Dict.Levels
import ElementLocator.Proofs.Outcome
/-! Walks through a dictionary that check the depth of every level as they enter it. Where all values
fit their attributes, such a walk fails for the depth alone, and it names the first level that
lies too deep, whatever it makes of the levels above. -/
namespace ElementLocator

def Settings.reach (settings : Settings) (depth : Nat) : Except Fault Unit :=
  if settings.maxDepth < depth then
    .error (.conversion (.tooDeep (settings.maxDepth + 1) settings.maxDepth))
  else .ok ()

def SameFault {α β : Type} (x : Except Fault α) (y : Except Fault β) : Prop :=
  Alike (fun _ _ => True) x y

variable {α β γ : Type} {x : Except Fault α} {y : Except Fault β} {settings : Settings}
  {depth : Nat} {fault : Fault}

theorem sameFaultRefl (x : Except Fault α) : SameFault x x := by
  cases x with
  | error fault => exact .error fault
  | ok a => exact .ok trivial

theorem sameFaultOk (h : SameFault x y) : (∃ a, x = .ok a) ↔ ∃ b, y = .ok b := by
  cases h with
  | error fault => simp
  | ok _ => simp

theorem sameFaultError (h : SameFault x y) (failed : y = .error fault) : x = .error fault := by
  cases h with
  | error other =>
    cases failed
    rfl
  | ok _ => cases failed

theorem sameFaultTrans {z : Except Fault γ} (first : SameFault x y) (second : SameFault y z) :
    SameFault x z := by
  cases first with
  | error fault =>
    cases second with
    | error _ => exact .error fault
  | ok _ =>
    cases second with
    | ok _ => exact .ok trivial

theorem sameFaultMade (x : Except Fault α) (f : α → β) :
    SameFault (x >>= fun a => .ok (f a)) x := by
  cases x with
  | error fault => exact .error fault
  | ok a => exact .ok trivial

theorem reachOk : (∃ u, settings.reach depth = .ok u) ↔ depth ≤ settings.maxDepth := by
  unfold Settings.reach
  split
  · rename_i deep
    simp [Nat.not_le.mpr deep]
  · rename_i room
    simp [Nat.le_of_not_lt room]

theorem reachBoth (m n : Nat) :
    (settings.reach m >>= fun _ => settings.reach n) = settings.reach (max m n) := by
  unfold Settings.reach
  by_cases deep : settings.maxDepth < m
  · have both : settings.maxDepth < max m n := by omega
    rw [if_pos deep, if_pos both]
    rfl
  · have both : settings.maxDepth < max m n ↔ settings.maxDepth < n := by omega
    simp only [if_neg deep, okBind, both]

theorem reachNext (near : depth ≤ settings.maxDepth + 1) :
    settings.checkDepth depth = settings.reach depth := by
  unfold Settings.checkDepth Settings.reach
  split
  · rw [show depth = settings.maxDepth + 1 by omega]
  · rfl

namespace Dict

variable {level : Nat → Dict → Except Fault α}
  {more : Nat → List (Attribute × Value) → Except Fault β} {d : Dict}

structure Walks (settings : Settings) (level : Nat → Dict → Except Fault α)
    (more : Nat → List (Attribute × Value) → Except Fault β) : Prop where
  enter : ∀ depth es, SameFault (level depth (.mk es)) (do
    settings.checkDepth depth
    more depth es)
  stop : ∀ depth, ∃ b, more depth [] = .ok b
  plain : ∀ depth a v es, Plain (a, v) → SameFault (more depth ((a, v) :: es)) (more depth es)
  nested : ∀ depth a d es, a.isHierarchical = true →
    SameFault (more depth ((a, .nested d) :: es)) (level (depth + 1) d >>= fun _ => more depth es)
  fits : ∀ depth a v es b, more depth ((a, v) :: es) = .ok b → a.takes v = true

theorem walkedReach (walks : Walks settings level more) :
    (∀ (d : Dict) (depth : Nat), d.Everywhere Typed → depth ≤ settings.maxDepth + 1 →
      SameFault (level depth d) (settings.reach (depth + d.depth - 1))) ∧
    ∀ (es : List (Attribute × Value)) (depth : Nat), Typed es → EverywhereIn Typed es →
      depth ≤ settings.maxDepth →
      SameFault (more depth es) (settings.reach (depth + depthOfEntries es)) := by
  refine levels ?level ?nil ?plain ?nested
  case level =>
    intro es ih depth typed near
    rw [Everywhere] at typed
    have last : depth + (Dict.mk es).depth - 1 = depth + depthOfEntries es := by
      rw [Dict.depth]
      omega
    refine sameFaultTrans (walks.enter depth es) ?_
    rw [reachNext near, last]
    by_cases room : depth ≤ settings.maxDepth
    · obtain ⟨u, fine⟩ := reachOk.mpr room
      rw [fine, okBind]
      exact ih depth typed.1 typed.2 room
    · have here : settings.maxDepth < depth := by omega
      have below : settings.maxDepth < depth + depthOfEntries es := by omega
      rw [Settings.reach, Settings.reach, if_pos here, if_pos below]
      exact .error _
  case nil =>
    intro depth _ _ room
    obtain ⟨b, done⟩ := walks.stop depth
    obtain ⟨u, fine⟩ := reachOk.mpr room
    rw [depthOfEntries, Nat.add_zero, done, fine]
    exact .ok trivial
  case plain =>
    intro a v rest flat ih depth typed inner room
    have plain : Plain (a, v) := plainIff.mpr ⟨typed (a, v) (by simp), flat⟩
    rw [everywherePlain flat] at inner
    rw [depthPlain flat]
    exact sameFaultTrans (walks.plain depth a v rest plain)
      (ih depth (fun e he => typed e (by simp [he])) inner room)
  case nested =>
    intro a d rest inDict ih depth typed inner room
    have hierarchical : a.isHierarchical = true := typed (a, .nested d) (by simp)
    rw [EverywhereIn] at inner
    have below := inDict (depth + 1) inner.1 (by omega)
    have others := ih depth (fun e he => typed e (by simp [he])) inner.2 room
    have both : max (depth + 1 + d.depth - 1) (depth + depthOfEntries rest) =
        depth + max d.depth (depthOfEntries rest) := by omega
    refine sameFaultTrans (walks.nested depth a d rest hierarchical) ?_
    rw [depthOfEntries, ← both, ← reachBoth]
    exact alikeBind below fun _ _ _ => others

theorem walkedTyped (walks : Walks settings level more) :
    (∀ (d : Dict) (depth : Nat), (∃ a, level depth d = .ok a) → d.Everywhere Typed) ∧
    ∀ (es : List (Attribute × Value)) (depth : Nat), (∃ b, more depth es = .ok b) →
      Typed es ∧ EverywhereIn Typed es := by
  refine levels ?level ?nil ?plain ?nested
  case level =>
    intro es ih depth done
    obtain ⟨b, done⟩ := (sameFaultOk (walks.enter depth es)).mp done
    obtain ⟨u, _, entries⟩ := bindOk.mp done
    exact ih depth ⟨b, entries⟩
  case nil =>
    intro _ _
    exact ⟨by simp [Typed], trivial⟩
  case plain =>
    intro a v rest flat ih depth done
    obtain ⟨b, found⟩ := done
    have takes := walks.fits depth a v rest b found
    have plain : Plain (a, v) := plainIff.mpr ⟨takes, flat⟩
    obtain ⟨typed, inner⟩ := ih depth
      ((sameFaultOk (walks.plain depth a v rest plain)).mp ⟨b, found⟩)
    exact ⟨List.forall_mem_cons.mpr ⟨takes, typed⟩, (everywherePlain flat).mpr inner⟩
  case nested =>
    intro a d rest inDict ih depth done
    obtain ⟨b, found⟩ := done
    have takes := walks.fits depth a (.nested d) rest b found
    obtain ⟨c, both⟩ := (sameFaultOk (walks.nested depth a d rest takes)).mp ⟨b, found⟩
    obtain ⟨x, below, others⟩ := bindOk.mp both
    obtain ⟨typed, inner⟩ := ih depth ⟨c, others⟩
    exact ⟨List.forall_mem_cons.mpr ⟨takes, typed⟩, inDict (depth + 1) ⟨x, below⟩, inner⟩

theorem walkedOk (walks : Walks settings level more) :
    (∃ a, level 1 d = .ok a) ↔ d.Everywhere Typed ∧ d.depth ≤ settings.maxDepth := by
  have reaches (typed : d.Everywhere Typed) :
      (∃ a, level 1 d = .ok a) ↔ d.depth ≤ settings.maxDepth := by
    rw [sameFaultOk ((walkedReach walks).1 d 1 typed (by omega)), reachOk, Nat.add_sub_cancel_left]
  constructor
  · intro done
    have typed := (walkedTyped walks).1 d 1 done
    exact ⟨typed, (reaches typed).mp done⟩
  · rintro ⟨typed, room⟩
    exact (reaches typed).mpr room

theorem walkedTooDeep (walks : Walks settings level more) (typed : d.Everywhere Typed)
    (deep : settings.maxDepth < d.depth) :
    level 1 d = .error (.conversion (.tooDeep (settings.maxDepth + 1) settings.maxDepth)) := by
  apply sameFaultError ((walkedReach walks).1 d 1 typed (by omega))
  rw [Nat.add_sub_cancel_left, Settings.reach, if_pos deep]

end Dict

end ElementLocator
