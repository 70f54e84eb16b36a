import ElementLocator.Settings
/-! Results with notes: the selector methods that were passed over on the way, in order. A failure
keeps the notes made before it. -/
namespace ElementLocator

variable {α β : Type}

structure Noted (α : Type) where
  skipped : List String
  outcome : Except Fault α

namespace Noted

def pure (a : α) : Noted α := ⟨[], .ok a⟩

def bind (x : Noted α) (f : α → Noted β) : Noted β :=
  match x.outcome with
  | .error fault => ⟨x.skipped, .error fault⟩
  | .ok a => ⟨x.skipped ++ (f a).skipped, (f a).outcome⟩

instance : Monad Noted where
  pure := Noted.pure
  bind := Noted.bind

def ofExcept (outcome : Except Fault α) : Noted α := ⟨[], outcome⟩

def fail (fault : Fault) : Noted α := ⟨[], .error fault⟩

def skip (name : String) : Noted Unit := ⟨[name], .ok ()⟩

end Noted

def Settings.resolve (settings : Settings) (name : String) : Noted (Option Attribute) :=
  match Attribute.ofMethod? name with
  | some a => pure (some a)
  | none =>
      match settings.unknownMethods with
      | .skip => do
          Noted.skip name
          pure none
      | .fail => Noted.fail (.conversion (.unknownMethod name))

end ElementLocator
