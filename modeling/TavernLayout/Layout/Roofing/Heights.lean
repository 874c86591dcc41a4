import TavernLayout.Building.Room

/-!
# What a roof touches

A roof abuts a rectangle when the rectangle lies along one of its edges, with a small gap at most,
and is about as wide as the roof. Taller rooms that a roof abuts limit its shape.

* `Abuts`: a rectangle lies along an edge of a roof;
* `overlookingTops`: the tops of the taller rooms around a roof.
-/

namespace TavernLayout

/-- How far a roof may stick out of the rectangle it abuts, at either side. -/
def mergeTolerance : Int := 2

/-- The distance from an edge of `roof` to the facing edge of `r`. -/
def gap (roof : Rect) (d : Dir) (r : Rect) : Int := (d.opposite.edge r - d.edge roof) * d.sign

/-- The rectangle `r` lies along an edge of `roof`, at most `maxGap` cells beyond it. -/
def Abuts (roof : Rect) (d : Dir) (r : Rect) (maxGap : Int) : Prop :=
  (0 ≤ gap roof d r ∧ gap roof d r ≤ maxGap) ∧
    d.orthogonal.edge roof ≤ d.orthogonal.edge r + mergeTolerance ∧
    d.orthogonal.opposite.edge r - mergeTolerance ≤ d.orthogonal.opposite.edge roof

instance (roof : Rect) (d : Dir) (r : Rect) (maxGap : Int) : Decidable (Abuts roof d r maxGap) :=
  inferInstanceAs (Decidable ((_ ∧ _) ∧ _ ∧ _))

/-- The room rises above a roof and touches one of its edges. -/
def Overlooks (room : Room) (roof : Rect) (base : Int) (d : Dir) : Prop :=
  base < room.top ∧ Abuts roof d room.footprint 0

instance (room : Room) (roof : Rect) (base : Int) (d : Dir) :
    Decidable (Overlooks room roof base d) := inferInstanceAs (Decidable (_ ∧ _))

/-- The top of the first room that overlooks each edge of a roof. -/
def overlookingTops (rooms : List Room) (roof : Rect) (base : Int) : DirMap (Option Int) :=
  .ofFn fun d => (rooms.find? fun room => decide (Overlooks room roof base d)).map Room.top

theorem overlookingTops_eq_none_iff {rooms : List Room} {roof : Rect} {base : Int} {d : Dir} :
    (overlookingTops rooms roof base).get d = none ↔
      ∀ room ∈ rooms, ¬ Overlooks room roof base d := by
  simp [overlookingTops]

end TavernLayout
