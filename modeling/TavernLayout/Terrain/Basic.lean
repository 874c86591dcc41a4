import TavernLayout.Grid.Vec
import TavernLayout.Number.Binary

/-!
# Terrain

What a building asks about the ground: an approximate altitude and a temperature at every point of
the plan. Temperatures run from about -1 in the cold to 1 in the heat.
-/

namespace TavernLayout

structure Terrain where
  altitude : Vec2 → Except Fault Float
  temperature : Vec2 → Except Fault Float

namespace Terrain

def IsFinite (x : Float) : Prop := ∃ negative m e, Number.Parts.ofFloat x = .finite negative m e

def FiniteAltitudes (t : Terrain) : Prop := ∀ p, ∃ x, t.altitude p = .ok x ∧ IsFinite x

def FiniteEverywhere (t : Terrain) : Prop :=
  t.FiniteAltitudes ∧ ∀ p, ∃ x, t.temperature p = .ok x ∧ IsFinite x

def shift (t : Terrain) (v : Vec2) : Terrain :=
  ⟨fun p => t.altitude (p - v), fun p => t.temperature (p - v)⟩

/-- The layer of a floor on the ground at `p`: one above the altitude without its fraction. -/
def floorLevel (t : Terrain) (p : Vec2) : Except Fault Int := do
  return (← Number.truncate (← t.altitude p)) + 1

/-- The layer at a door on the ground at `p`: the altitude rounded up. -/
def doorLevel (t : Terrain) (p : Vec2) : Except Fault Int := do
  Number.ceiling (← t.altitude p)

theorem truncate_ok {x : Float} (h : IsFinite x) : ∃ n, Number.truncate x = .ok n := by
  obtain ⟨s, m, e, hx⟩ := h
  unfold Number.truncate
  rw [hx]
  exact ⟨_, rfl⟩

theorem ceiling_ok {x : Float} (h : IsFinite x) : ∃ n, Number.ceiling x = .ok n := by
  obtain ⟨s, m, e, hx⟩ := h
  unfold Number.ceiling
  rw [hx]
  exact ⟨_, rfl⟩

theorem floorLevel_ok {t : Terrain} (h : t.FiniteAltitudes) (p : Vec2) :
    ∃ n, t.floorLevel p = .ok n := by
  obtain ⟨x, hx, hf⟩ := h p
  obtain ⟨n, hn⟩ := truncate_ok hf
  refine ⟨n + 1, ?_⟩
  simp only [floorLevel, hx]
  show (Number.truncate x >>= fun n => pure (n + 1)) = _
  rw [hn]
  rfl

theorem doorLevel_ok {t : Terrain} (h : t.FiniteAltitudes) (p : Vec2) :
    ∃ n, t.doorLevel p = .ok n := by
  obtain ⟨x, hx, hf⟩ := h p
  simp only [doorLevel, hx]
  exact ceiling_ok hf

end Terrain

end TavernLayout
