import Equilibrium.Config.Settings

/-!
Valid configurations.

A configuration is made of settings that nothing is wrong with, and stays valid: it is only replaced
by another one, never changed. Merging overrides into it checks the outcome again from the start.
-/

namespace Equilibrium

variable {α : Type} [Scalar α]

/-- Settings that nothing is wrong with. -/
structure Config (α : Type) [Scalar α] where
  settings : Settings α
  valid : settings.fault? = none

namespace Config

def ofSettings (s : Settings α) : Except (Fault α) (Config α) :=
  match h : s.fault? with
  | none => .ok ⟨s, h⟩
  | some fault => .error fault

theorem ofSettings_eq_ok_iff {s : Settings α} {c : Config α} :
    ofSettings s = .ok c ↔ c.settings = s := by
  unfold ofSettings
  split
  · constructor
    · intro h
      cases h
      rfl
    · intro h
      cases c
      cases h
      rfl
  · rename_i fault h
    constructor
    · intro h'
      cases h'
    · intro h'
      have := c.valid
      rw [h', h] at this
      cases this

def standard : Except (Fault α) (Config α) := ofSettings .standard

/-- The configuration that is the standard one but for an override, which may name settings only. -/
def ofOverrides (o : Overrides α) : Except (Fault α) (Config α) :=
  match o.strayNames with
  | name :: _ => .error (.strayName name)
  | [] => ofSettings (Settings.standard.override o)

/-- A configuration with an override in effect. A value for something that is no setting is found
before the settings are checked. -/
def merge (c : Config α) (o : Overrides α) : Except (Fault α) (Config α) :=
  match o.unknown with
  | name :: _ => .error (.unknownSetting name)
  | [] => ofSettings (c.settings.override o)

def innerMethod (c : Config α) : InnerMethod :=
  (InnerMethod.ofName? c.settings.method).getD .trustRegion

def derivative (c : Config α) : Derivative :=
  (Derivative.ofName? c.settings.derivative).getD .finite

/-- The inner distance that makes a step acceptable. -/
def acceptanceTol (c : Config α) : α := c.settings.innerTol.getD c.settings.tol

def flowTolerance (c : Config α) : α := c.settings.flowAtol.getD c.settings.tol

end Config

end Equilibrium
