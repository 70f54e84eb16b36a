import ElementLocator.Noted
/-! What a sequence of steps that can fail comes to. -/
namespace ElementLocator

variable {α β : Type} {x : Except Fault α} {f : α → Except Fault β} {a : α} {b : β}

theorem okBind : ((Except.ok a : Except Fault α) >>= f) = f a := rfl

theorem bindOk : (x >>= f) = .ok b ↔ ∃ a, x = .ok a ∧ f a = .ok b := by
  cases x with
  | error fault =>
    constructor
    · intro h
      cases h
    · rintro ⟨a, h, _⟩
      cases h
  | ok a =>
    constructor
    · intro h
      exact ⟨a, rfl, h⟩
    · rintro ⟨_, same, h⟩
      cases same
      exact h

theorem mapOk {ε γ δ : Type} {x : Except ε γ} {f : γ → δ} {d : δ} :
    x.map f = .ok d ↔ ∃ c, x = .ok c ∧ f c = d := by
  cases x with
  | error fault => simp [Except.map]
  | ok c => simp [Except.map]

theorem mapError {ε γ δ : Type} {x : Except ε γ} {f : γ → δ} {e : ε} :
    x.map f = .error e ↔ x = .error e := by
  cases x with
  | error fault => simp [Except.map]
  | ok c => simp [Except.map]

theorem checkDepthOk {settings : Settings} {depth : Nat} :
    (∃ u, settings.checkDepth depth = .ok u) ↔ depth ≤ settings.maxDepth := by
  unfold Settings.checkDepth
  split
  · rename_i deep
    simp [Nat.not_le.mpr deep]
  · rename_i room
    simp [Nat.le_of_not_lt room]

theorem checkDepthRoom {settings : Settings} {depth : Nat} (room : depth ≤ settings.maxDepth) :
    settings.checkDepth depth = .ok () := by
  obtain ⟨_, checked⟩ := checkDepthOk.mpr room
  exact checked

inductive Alike (R : α → β → Prop) : Except Fault α → Except Fault β → Prop where
  | error (fault : Fault) : Alike R (.error fault) (.error fault)
  | ok {a : α} {b : β} (h : R a b) : Alike R (.ok a) (.ok b)

theorem alikeMono {R S : α → β → Prop} {y : Except Fault β} (h : Alike R x y)
    (weaker : ∀ a b, R a b → S a b) : Alike S x y := by
  cases h with
  | error fault => exact .error fault
  | ok h => exact .ok (weaker _ _ h)

theorem alikeBind {γ δ : Type} {R : α → β → Prop} {S : γ → δ → Prop} {y : Except Fault β}
    {f : α → Except Fault γ} {g : β → Except Fault δ} (first : Alike R x y)
    (then_ : ∀ a b, R a b → Alike S (f a) (g b)) : Alike S (x >>= f) (y >>= g) := by
  cases first with
  | error fault => exact .error fault
  | ok h => exact then_ _ _ h

theorem alikeThen {γ : Type} {R : α → β → Prop} {S : α → γ → Prop} {y : Except Fault β}
    {g : β → Except Fault γ} (first : Alike R x y)
    (then_ : ∀ a b, R a b → ∃ c, g b = .ok c ∧ S a c) : Alike S x (y >>= g) := by
  cases first with
  | error fault => exact .error fault
  | ok h =>
    obtain ⟨c, found, related⟩ := then_ _ _ h
    rw [okBind, found]
    exact .ok related

theorem alikeResult {γ : Type} {y : Except Fault β} {f : α → Except Fault γ}
    {g : β → Except Fault γ} (h : Alike (fun a b => f a = g b) x y) : (x >>= f) = (y >>= g) := by
  cases h with
  | error fault => rfl
  | ok same => exact same

/- What a sequence with notes comes to, whatever it notes. -/

theorem outcomePure (a : α) : (pure a : Noted α).outcome = .ok a := rfl

theorem outcomeBind (x : Noted α) (f : α → Noted β) :
    (x >>= f).outcome = x.outcome >>= fun a => (f a).outcome := by
  change (Noted.bind x f).outcome = _
  unfold Noted.bind
  cases x.outcome <;> rfl

theorem outcomeExcept (x : Except Fault α) : (Noted.ofExcept x).outcome = x := rfl

/- The notes of a sequence: all of those made before it fails, if it does. -/

theorem bindNotedOk {x : Noted α} {f : α → Noted β} (h : x.outcome = .ok a) :
    x >>= f = ⟨x.skipped ++ (f a).skipped, (f a).outcome⟩ := by
  change Noted.bind x f = _
  rw [Noted.bind, h]

theorem bindNotedError {x : Noted α} {f : α → Noted β} {fault : Fault}
    (h : x.outcome = .error fault) : x >>= f = ⟨x.skipped, .error fault⟩ := by
  change Noted.bind x f = _
  rw [Noted.bind, h]

theorem mapNoted (x : Noted α) : id <$> x = x := by
  obtain ⟨skipped, outcome⟩ := x
  cases outcome <;> simp [Functor.map, Noted.bind, Noted.pure]

theorem bindNotedAssoc {γ : Type} (x : Noted α) (f : α → Noted β) (g : β → Noted γ) :
    x >>= f >>= g = x >>= fun a => f a >>= g := by
  cases first : x.outcome with
  | error fault => rw [bindNotedError first, bindNotedError first, bindNotedError rfl]
  | ok a =>
    rw [bindNotedOk first, bindNotedOk first]
    cases second : (f a).outcome with
    | error fault => rw [bindNotedError second, bindNotedError rfl]
    | ok b => rw [bindNotedOk second, bindNotedOk rfl, List.append_assoc]

instance : LawfulMonad Noted := .mk' Noted mapNoted (fun _ _ => rfl) bindNotedAssoc

structure InStep (names : List String) (x : Noted α) (y : Noted β) : Prop where
  notes : x.skipped = y.skipped
  within : x.skipped <+: names
  ends : Alike (fun _ _ => x.skipped = names) x.outcome y.outcome

variable {γ δ : Type} {names more : List String} {u : Noted α} {v : Noted β}

theorem inStepFail (fault : Fault) :
    InStep names (Noted.fail fault : Noted α) (Noted.fail fault : Noted β) :=
  ⟨rfl, List.nil_prefix, .error fault⟩

theorem inStepPure (a : α) (b : β) : InStep [] (pure a : Noted α) (pure b : Noted β) :=
  ⟨rfl, List.nil_prefix, .ok rfl⟩

theorem inStepExcept {R : α → β → Prop} {y : Except Fault β} (h : Alike R x y) :
    InStep [] (Noted.ofExcept x) (Noted.ofExcept y) :=
  ⟨rfl, List.nil_prefix, alikeMono h fun _ _ _ => rfl⟩

theorem inStepSame (x : Except Fault α) : InStep [] (Noted.ofExcept x) (Noted.ofExcept x) := by
  cases x with
  | error fault => exact inStepFail fault
  | ok a => exact inStepPure a a

theorem inStepBind {f : α → Noted γ} {g : β → Noted δ} (first : InStep names u v)
    (then_ : ∀ a b, InStep more (f a) (g b)) : InStep (names ++ more) (u >>= f) (v >>= g) := by
  obtain ⟨notes, within, ends⟩ := first
  cases left : u.outcome with
  | error fault =>
    rw [left] at ends
    cases right : v.outcome with
    | ok b =>
      rw [right] at ends
      cases ends
    | error other =>
      rw [right] at ends
      cases ends
      rw [bindNotedError left, bindNotedError right]
      exact ⟨notes, within.trans (List.prefix_append names more), .error fault⟩
  | ok a =>
    rw [left] at ends
    cases right : v.outcome with
    | error fault =>
      rw [right] at ends
      cases ends
    | ok b =>
      rw [right] at ends
      cases ends with
      | ok all =>
        obtain ⟨later, inside, last⟩ := then_ a b
        rw [bindNotedOk left, bindNotedOk right]
        refine ⟨by rw [notes, later], ?_, alikeMono last fun _ _ whole => ?_⟩
        · rw [all]
          exact (List.prefix_append_right_inj names).mpr inside
        · rw [all, whole]

theorem inStepMade {f : β → γ} (h : InStep names u v) :
    InStep names u (do
      let b ← v
      pure (f b)) := by
  have made := inStepBind (f := pure) (g := fun b => pure (f b)) h fun a b => inStepPure a (f b)
  rwa [bind_pure, List.append_nil] at made

end ElementLocator
