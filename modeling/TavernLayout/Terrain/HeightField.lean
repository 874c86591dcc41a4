import TavernLayout.Terrain.Basic

/-!
# Height fields

A terrain given by samples of the altitude and of the temperature on a regular grid. Between four
samples the value is interpolated along both axes; beyond the grid the nearest edge counts.
-/

namespace TavernLayout

/-- Samples on a rectangle of `width` by `height` points. -/
structure SampleGrid where
  width : Nat
  height : Nat
  sample : Nat → Nat → Float

/-- Samples in a list, row after row, with the lengths of their axes. -/
structure SampleArray where
  shape : List Nat
  values : Array Float

/-- Altitudes and temperatures on a grid; neighbouring points are `cellSize` apart and the first
one lies at `origin`. -/
structure HeightField where
  altitudes : SampleGrid
  temperatures : SampleGrid
  origin : Vec2 := ⟨0, 0⟩
  cellSize : Int := 1

namespace SampleGrid

def uniform (width height : Nat) (x : Float) : SampleGrid := ⟨width, height, fun _ _ => x⟩

/-- A position along an axis of `count` samples, drawn to the first sample or to the last one. -/
def confine (x : Float) (count : Nat) : Float :=
  let x := if 0.0 > x then 0.0 else x
  let last := Float.ofInt ((count : Int) - 1)
  if last < x then last else x

/-- The value at a position, from the four samples around it. -/
def interpolate (g : SampleGrid) (fx fy : Float) : Except Fault Float := do
  let i ← Number.truncate fx
  let j ← Number.truncate fy
  if g.width = 0 ∨ g.height = 0 then throw .outOfRange
  let value (i j : Int) := g.sample i.toNat j.toNat
  let iNext := min (i + 1) (g.width - 1)
  let jNext := min (j + 1) (g.height - 1)
  let tx := fx - Float.ofInt i
  let ty := fy - Float.ofInt j
  let top := value i j * (1.0 - tx) + value iNext j * tx
  let bottom := value i jNext * (1.0 - tx) + value iNext jNext * tx
  return top * (1.0 - ty) + bottom * ty

def valueAt (g : SampleGrid) (origin : Vec2) (cellSize : Int) (p : Vec2) : Except Fault Float := do
  let fx := confine (← Number.quotient (p.x - origin.x) cellSize) g.width
  let fy := confine (← Number.quotient (p.y - origin.y) cellSize) g.height
  g.interpolate fx fy

end SampleGrid

namespace HeightField

/-- The most samples that a grid may have: each takes eight bytes of an address space of 2^63. -/
def mostSamples : Nat := 0x0fffffffffffffff

/-- The lengths of a grid's axes. They are not negative and, an empty axis left out, their product
is not too large. -/
def extents (width height : Int) : Except Fault (Nat × Nat) :=
  if width < 0 ∨ height < 0 then .error .negativeSize
  else if mostSamples < max 1 width.toNat * max 1 height.toNat then .error .tooManySamples
  else .ok (width.toNat, height.toNat)

/-- The field over two grids whose samples are a positive distance apart. -/
def ofGrids (altitudes temperatures : SampleGrid) (origin : Vec2) (cellSize : Int) :
    Except Fault HeightField :=
  if cellSize ≤ 0 then .error (.cellSize cellSize)
  else .ok ⟨altitudes, temperatures, origin, cellSize⟩

def flat (width height : Int) (altitude temperature : Float) (origin : Vec2) (cellSize : Int) :
    Except Fault HeightField := do
  let (w, h) ← extents width height
  ofGrids (.uniform w h altitude) (.uniform w h temperature) origin cellSize

/-- A plane that starts at `base` and rises by `slopeX` and `slopeY` per voxel. -/
def sloped (width height : Int) (base slopeX slopeY temperature : Float) (origin : Vec2) :
    Except Fault HeightField := do
  let (w, h) ← extents width height
  let plane (i j : Nat) := base + Float.ofNat i * slopeX + Float.ofNat j * slopeY
  ofGrids ⟨w, h, plane⟩ (.uniform w h temperature) origin 1

/-- The field of two arrays of samples, which have two axes of the same lengths. -/
def ofArrays (altitudes temperatures : SampleArray) (origin : Vec2) (cellSize : Int) :
    Except Fault HeightField :=
  match altitudes.shape with
  | [w, h] =>
    if altitudes.shape ≠ temperatures.shape then
      .error (.shapesDiffer altitudes.shape temperatures.shape)
    else
      let grid (a : SampleArray) : SampleGrid := ⟨w, h, fun i j => a.values.getD (i * h + j) 0.0⟩
      ofGrids (grid altitudes) (grid temperatures) origin cellSize
  | shape => .error (.notPlanar shape)

def toTerrain (f : HeightField) : Terrain where
  altitude := f.altitudes.valueAt f.origin f.cellSize
  temperature := f.temperatures.valueAt f.origin f.cellSize

theorem cellSize_pos_of_ofGrids {a t : SampleGrid} {o : Vec2} {c : Int} {f : HeightField}
    (h : ofGrids a t o c = .ok f) : 0 < f.cellSize := by
  unfold ofGrids at h
  split at h
  · cases h
  · cases h
    dsimp only
    omega

end HeightField

end TavernLayout
