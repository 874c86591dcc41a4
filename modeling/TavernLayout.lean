import TavernLayout.Grid.DirMap
import TavernLayout.Grid.Box
import TavernLayout.Grid.Span
import TavernLayout.Store
import TavernLayout.Number.Text
import TavernLayout.Json.Writer
import TavernLayout.Json.Reader
import TavernLayout.Json.Literal
import TavernLayout.Json.Lookup
import TavernLayout.Random.Twister
import TavernLayout.Random.Script
import TavernLayout.Random.Checksum
import TavernLayout.Random.Provider
import TavernLayout.Lottery
import TavernLayout.Terrain.HeightField
import TavernLayout.Site
import TavernLayout.Building.Room
import TavernLayout.Layout.Placement
import TavernLayout.Layout.Clearance
import TavernLayout.Layout.Works
import TavernLayout.Layout.Growth
import TavernLayout.Layout.Partition
import TavernLayout.Layout.Roofing
import TavernLayout.Tavern
import TavernLayout.Benchmark.Case
import TavernLayout.Benchmark.Report
import TavernLayout.Main
import TavernLayout.Proofs.Clearance
import TavernLayout.Proofs.Works
import TavernLayout.Proofs.Growth.Chances
import TavernLayout.Proofs.Placement
import TavernLayout.Proofs.Growth.Attempts
import TavernLayout.Proofs.Growth.Rounds
import TavernLayout.Proofs.Growth.FrontRoom
import TavernLayout.Proofs.Growth.Settling
import TavernLayout.Proofs.Growth.Separation
import TavernLayout.Proofs.Grid.Packing
import TavernLayout.Proofs.Growth.Bound
import TavernLayout.Proofs.Partition
import TavernLayout.Proofs.Growth.Frontier
import TavernLayout.Proofs.Growth.History
import TavernLayout.Proofs.Walls.Contact
import TavernLayout.Proofs.Walls.Hanging
import TavernLayout.Proofs.Walls.Joining
import TavernLayout.Proofs.Walls.Sources
import TavernLayout.Proofs.Walls.Doors
import TavernLayout.Proofs.Growth.Descent
import TavernLayout.Proofs.Number.Signs
import TavernLayout.Proofs.Growth.Quotas
import TavernLayout.Proofs.Roofing.Canopy
import TavernLayout.Proofs.Roofing.Shapes
import TavernLayout.Proofs.Roofing.Coverage
import TavernLayout.Proofs.Furnishing.FreeFloor
import TavernLayout.Proofs.Furnishing.Sweep
import TavernLayout.Proofs.Furnishing.Pieces
import TavernLayout.Proofs.Furnishing.Reserved
import TavernLayout.Proofs.Furnishing.Rooms
import TavernLayout.Proofs.Shift.Geometry
import TavernLayout.Proofs.Shift.Programs
import TavernLayout.Proofs.Shift.Placement
import TavernLayout.Proofs.Shift.Growth
import TavernLayout.Proofs.Shift.Walls
import TavernLayout.Proofs.Shift.Roofs
import TavernLayout.Proofs.Roofing.Anywhere
import TavernLayout.Proofs.Shift.Floor
import TavernLayout.Proofs.Stages
import TavernLayout.Proofs.Shift.Tavern
import TavernLayout.Proofs.Safety
import TavernLayout.Proofs.Finishing
import TavernLayout.Proofs.Roofing.Ceilings
import TavernLayout.Proofs.Walls.Straight
import TavernLayout.Proofs.Alike.Programs
import TavernLayout.Proofs.Random.Session
import TavernLayout.Proofs.Alike.Growth
import TavernLayout.Proofs.Alike.Finish
import TavernLayout.Proofs.Alike.Taverns
import TavernLayout.Proofs.GroundPlan
import TavernLayout.Proofs.Walls.FrontDoor
import TavernLayout.Proofs.Clearance.Largest
import TavernLayout.Proofs.Growth.Clearing
import TavernLayout.Proofs.Placement.Beside
import TavernLayout.Proofs.Placement.Under
import TavernLayout.Proofs.Growth.Doorways
import TavernLayout.Proofs.Roofing.Spread
import TavernLayout.Proofs.Roofing.Stairways
import TavernLayout.Proofs.Grid.Symmetry
import TavernLayout.Proofs.Roofing.Symmetry
import TavernLayout.Proofs.Lottery
import TavernLayout.Proofs.Grid.Cuts
