import TavernLayout.Random.Twister
import TavernLayout.Tavern
import TavernLayout.Terrain.HeightField

/-!
# Benchmark cases

One case lays out a number of taverns on plots of one size, one after the other from the same
streams, and averages the number of rooms and the coverage.
-/

namespace TavernLayout

def twisterGenerator : Generator Twister := ⟨Twister.source, fun n => Twister.seeded n, .seeded 0⟩

namespace Benchmark

def seed : Seed := .text "burrito1"

/-- The streams at the start of a case. -/
def start : Provider Twister := { master := some seed }

/-- The ground: a slope. -/
def terrain : Except Fault Terrain := do
  return (← HeightField.sloped 128 128 20.0 0.05 0.08 0.6 ⟨0, 0⟩).toTerrain

/-- The plot of the given size in tiles, with its door in the middle of the lower edge. -/
def request (width height : Int) : TavernRequest :=
  { doorTile := ⟨width / 2, 0⟩, facing := .negY, tiles := ⟨⟨0, 0⟩, ⟨width - 1, height - 1⟩⟩ }

structure Sample where
  rooms : Nat
  coverage : Float

/-- Lays out one tavern and returns what is left of the streams. -/
def sample (width height : Int) (p : Provider Twister) :
    Except Fault (Sample × Provider Twister) := do
  let t ← terrain
  match Tavern.generate (.ofProvider twisterGenerator) t ({} : TileGrid).toMap
      (request width height) { stream := { state := p } } with
  | .ok tavern works => return (⟨tavern.rooms.size, tavern.coverage⟩, works.stream.state)
  | .error e _ => throw e

structure Totals where
  rooms : Nat := 0
  coverage : Float := 0.0

def Totals.add (t : Totals) (s : Sample) : Totals := ⟨t.rooms + s.rooms, t.coverage + s.coverage⟩

/-- The sums over as many samples as given. -/
def collect (width height : Int) : Nat → Totals → Provider Twister →
    Except Fault (Totals × Provider Twister)
  | 0, t, p => .ok (t, p)
  | n + 1, t, p => do
    let (s, p) ← sample width height p
    collect width height n (t.add s) p

def averages (iterations : Int) (t : Totals) : Except Fault (Float × Float) := do
  let rooms ← Number.quotient t.rooms iterations
  return (rooms, t.coverage / (← Number.ofInt iterations))

/-- The averages over a number of taverns. -/
def caseAverages (iterations width height : Int) : Except Fault (Float × Float) := do
  let (t, _) ← collect width height iterations.toNat {} start
  averages iterations t

end Benchmark

end TavernLayout
