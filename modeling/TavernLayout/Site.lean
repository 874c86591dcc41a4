import TavernLayout.Grid.Rect
import TavernLayout.Fault

/-!
# Sites

A site lays its plots out on a coarse grid of square tiles. A building only asks where a tile
starts and where its centre is (`SiteMap`); `TileGrid` is the regular grid.

* `tileOf_tileStart`: the point where a tile starts belongs to it;
* `tileStart_shift`: moving the grid moves every tile.
-/

namespace TavernLayout

/-- Where the tiles of a site lie. -/
structure SiteMap where
  tileStart : Vec2 → Vec2
  tileCentre : Vec2 → Vec2

/-- Square tiles side by side, the first one starting at `origin`. -/
structure TileGrid where
  origin : Vec2 := ⟨0, 0⟩
  tileSize : Int := 6
  deriving DecidableEq, Repr

namespace TileGrid

/-- The least corner of a tile. -/
def tileStart (g : TileGrid) (tile : Vec2) : Vec2 := g.origin + g.tileSize • tile

def tileCentre (g : TileGrid) (tile : Vec2) : Vec2 := g.tileStart tile + Vec2.diag (g.tileSize / 2)

def tileOf (g : TileGrid) (p : Vec2) : Except Fault Vec2 :=
  if g.tileSize = 0 then .error .divisionByZero
  else .ok ⟨(p.x - g.origin.x).fdiv g.tileSize, (p.y - g.origin.y).fdiv g.tileSize⟩

/-- The rectangle between the starts of two tiles. -/
def tileRect (g : TileGrid) (tiles : Rect) : Rect := ⟨g.tileStart tiles.min, g.tileStart tiles.max⟩

def toMap (g : TileGrid) : SiteMap := ⟨g.tileStart, g.tileCentre⟩

theorem tileOf_tileStart {g : TileGrid} (h : g.tileSize ≠ 0) (tile : Vec2) :
    g.tileOf (g.tileStart tile) = .ok tile := by
  have key (a b : Int) : (a + g.tileSize * b - a).fdiv g.tileSize = b := by
    rw [show a + g.tileSize * b - a = g.tileSize * b by omega, Int.mul_fdiv_cancel_left _ h]
  simp only [tileOf, h, if_false, tileStart, Vec2.x_add, Vec2.y_add, Vec2.x_smul, Vec2.y_smul, key]

theorem tileStart_shift (g : TileGrid) (v tile : Vec2) :
    ({ g with origin := g.origin + v }).tileStart tile = g.tileStart tile + v := by
  ext <;> simp only [tileStart, Vec2.x_add, Vec2.y_add, Vec2.x_smul, Vec2.y_smul] <;> omega

end TileGrid

end TavernLayout
