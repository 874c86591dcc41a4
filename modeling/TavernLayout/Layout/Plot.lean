import TavernLayout.Layout.Works
import TavernLayout.Terrain.Basic

/-!
# Plots

What a building knows about its plot, and the references and boxes of the rooms around one room.
-/

namespace TavernLayout

structure Plot where
  terrain : Terrain
  interior : Rect
  temperature : Float

/-- The boxes of all rooms but one. -/
def Works.others {σ : Type} (w : Works σ) (id : Ref .room) : List Box :=
  (w.rooms.entries.filter fun e => decide (e.1 ≠ id)).map fun e => e.2.bounds

/-- Adds an event about a failed attempt and gives up. -/
def Build.refuse {σ α : Type} (e : Event) : Build σ (Option α) := do
  note e
  return none

end TavernLayout
