import TavernLayout.Grid.Box
import TavernLayout.Grid.Dir
import TavernLayout.Store

/-!
# Roofs

A roof lies over one room or several of the same height, with an overhang. Where rooms stand on it
it is their floor, and a staircase may lead up to it.
-/

namespace TavernLayout

/-- The shape of a roof. Heights are the layers of the highest point. -/
inductive RoofStyle where
  | flat
  /-- Bars along a direction; only over gardens. -/
  | bars (along : Dir)
  /-- One slope that rises in a direction. -/
  | leanTo (rising : Dir) (height : Int)
  /-- Two slopes and a ridge between them. -/
  | gable (ridge : Dir) (height : Int)
  /-- Slopes on all sides. -/
  | hip (height : Int)
  /-- The floor of the rooms above. -/
  | floor
  deriving DecidableEq, Repr

def RoofStyle.label : RoofStyle → String
  | flat => "FlatRoof"
  | bars _ => "FlatBarsRoof"
  | leanTo .. => "LeanToRoof"
  | gable .. => "GableRoof"
  | hip _ => "HipRoof"
  | floor => "FloorRoof"

/-- A straight staircase that climbs in a direction. -/
structure Stairs where
  bounds : Box
  climbing : Dir
  deriving DecidableEq, Repr

/-- A roof whose lowest layer is `base`. -/
structure Roof where
  bounds : Rect
  base : Int
  style : RoofStyle := .flat
  stairs : Option Stairs := none
  deriving DecidableEq, Repr

end TavernLayout
