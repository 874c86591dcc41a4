import TavernLayout.Random.Script
import TavernLayout.Tavern

/-!
# The stages of a tavern

`Tavern.generate` in the parts that can fail on their own: the name, the floor at the door, and the
building with everything that follows from it.

* `Tavern.generate_eq`: the parts in their order;
* `Tavern.smallRequest`: a plot to look at.
-/

namespace TavernLayout.Tavern

variable {σ : Type}

def signName (streams : Streams σ) : Option String → Build σ String
  | some name => return name
  | none => Build.draw (SignName.draw streams.names)

def floorAt (terrain : Terrain) (p : Vec2) : Option Int → Except Fault Int
  | some level => .ok level
  | none => terrain.doorLevel p

def erect (src : Source σ) (plot : Plot) (req : TavernRequest) (bounds : Rect) (name : String)
    (door : Vec3) : Build σ Tavern := do
  let roofs ← layOut src plot door req.facing
  let works ← get
  Build.note (.generated name door works.rooms.size works.walls.size roofs.size)
  return { name, rooms := works.rooms.freeze, walls := works.walls.freeze, roofs := roofs.freeze,
           doorTile := req.doorTile, door, bounds }

theorem generate_eq (streams : Streams σ) (terrain : Terrain) (site : SiteMap)
    (req : TavernRequest) :
    generate streams terrain site req = (do
      let name ← signName streams req.name
      let bounds := plotBounds site req.tiles
      let inside := interior bounds
      let point := doorPoint site req inside
      if inside.Valid then
        let temperature ← terrain.temperature point
        let level ← floorAt terrain point req.level
        erect streams.layout ⟨terrain, inside, temperature⟩ req bounds name (point.atLevel level)
      else throw (.noInterior bounds)) := by
  unfold generate signName floorAt
  funext w
  by_cases hv : (interior (plotBounds site req.tiles)).Valid
  · simp only [hv, not_true_eq_false, if_false, if_true]
    cases req.name <;> cases req.level <;> rfl
  · simp only [hv, not_false_eq_true, if_true, if_false]
    cases req.name <;> rfl

/-! ## A small request -/

def meadow : Terrain := ⟨fun _ => .ok 10.5, fun _ => .ok 0.25⟩

/-- A plot of four by four tiles with its door at the lower edge. -/
def smallRequest : TavernRequest where
  doorTile := ⟨2, 0⟩
  facing := .negY
  tiles := ⟨⟨0, 0⟩, ⟨4, 4⟩⟩

def smallStream : Stream Script := { state := { values := #[3, 1, 4, 1, 5] } }

end TavernLayout.Tavern
