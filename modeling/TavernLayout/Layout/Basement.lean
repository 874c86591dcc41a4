import TavernLayout.Layout.SideRoom

/-!
# Basements

An attempt to dig a room out under another. It lies two layers below the floor above it, anywhere
in the interior as long as it stays under the room above.

* `Basement.layers`: the layers of the basement;
* `Basement.limits`: how far the interior may be cut back.
-/

namespace TavernLayout

namespace Basement

/-- The distance from the floor above to the top of the basement. -/
def drop : Int := 2

def layers (parent : Box) (height : Int) : Span :=
  ⟨parent.min.z - drop - height, parent.min.z - drop⟩

/-- Some of the space under the parent remains, whichever side is cut. -/
def limits (parent : Rect) : Limits := .ofFn fun d => some (d.opposite.edge (parent.grow (-2)))

end Basement

open Basement

def joinBasement {σ : Type} (parent : Ref .room) (room : Rect) (layers : Span) (k : Kind) :
    Build σ (Ref .room) := do
  let id ← Build.addRoom { bounds := .ofRect room layers.lo layers.hi, kind := k }
  Build.offer ⟨id, Dir.all, !k.basementKinds.isEmpty⟩ k
  Build.note (.dug id parent k)
  return id

def digBasement {σ : Type} (src : Source σ) (plot : Plot) (parent : Ref .room) :
    Build σ (Option (Ref .room)) := do
  let room ← Build.room parent
  let height ← Build.draw (src.between SideRoom.heights.lo SideRoom.heights.hi)
  let layers := layers room.bounds height
  match clearSpace (limits room.footprint) layers.lo layers.hi ((← get).others parent)
      plot.interior with
  | none => Build.refuse (.basementRefused parent .blocked)
  | some fitted =>
    match ← room.kind.basementLottery? fitted (← get).counts with
    | none => Build.refuse (.basementRefused parent .nothingFits)
    | some lottery =>
      let k ← Build.draw (lottery.draw src)
      match ← Build.draw (placeUnder src k fitted room.footprint) with
      | none => Build.refuse (.basementRefused parent (.doesNotFit k))
      | some r => return some (← joinBasement parent r layers k)

end TavernLayout
