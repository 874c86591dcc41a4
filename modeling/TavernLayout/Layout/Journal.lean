import TavernLayout.Building.Room

/-!
# The journal

What happens while a building is laid out is kept as a list of events. Each event has a level and a
message.
-/

namespace TavernLayout

inductive Level where
  | debug
  | info
  deriving DecidableEq, Repr

/-- Why an attempt to add a room failed. -/
inductive Refusal where
  /-- Other rooms leave no space. -/
  | blocked
  /-- No kind of room fits into the space. -/
  | nothingFits
  /-- No door fits between the rooms. -/
  | noDoorSpace
  /-- A room of the drawn kind does not fit after all. -/
  | doesNotFit (kind : Kind)
  /-- The rooms share too little wall. -/
  | noSharedWall
  deriving DecidableEq, Repr

/-- Something that happened while a building was laid out. -/
inductive Event where
  | hallInstead (wanted : Kind)
  | sideRefused (parent : Ref .room) (side : Dir) (why : Refusal)
  | basementRefused (parent : Ref .room) (why : Refusal)
  | grown (room parent : Ref .room) (side : Dir) (kind : Kind)
  | dug (room parent : Ref .room) (kind : Kind)
  | partitioned (rooms : Nat) (walls : Int)
  | roofed (roof : Ref .roof) (rooms : List (Ref .room)) (style : RoofStyle)
  | generated (name : String) (door : Vec3) (rooms walls roofs : Nat)
  deriving DecidableEq, Repr

def Refusal.text : Refusal → String
  | blocked => "blocked"
  | nothingFits => "nothing fits"
  | noDoorSpace => "no door space"
  | doesNotFit kind => kind.label ++ " does not fit"
  | noSharedWall => "no shared wall"

namespace Event

/-- Only the finished building is more than a detail. -/
def level : Event → Level
  | generated .. => .info
  | _ => .debug

def message : Event → String
  | hallInstead wanted => "No space for a " ++ wanted.label ++ " entrance, using a hall"
  | sideRefused parent side why =>
    "Growth " ++ side.label ++ " of room " ++ parent.text ++ ": " ++ why.text
  | basementRefused parent why => "Basement under room " ++ parent.text ++ ": " ++ why.text
  | grown room parent side kind =>
    "Grew " ++ kind.label ++ " " ++ room.text ++ " " ++ side.label ++ " of room " ++ parent.text
  | dug room parent kind =>
    "Dug " ++ kind.label ++ " " ++ room.text ++ " under room " ++ parent.text
  | partitioned rooms walls =>
    "Partitioned " ++ toString rooms ++ " rooms: " ++ toString walls ++ " new walls"
  | roofed roof rooms style =>
    "Roof " ++ roof.text ++ " over rooms [" ++
      String.intercalate ", " (rooms.map fun r => toString r.index) ++ "]: " ++ style.label
  | generated name door rooms walls roofs =>
    "Generated tavern '" ++ name ++ "' at " ++ door.text ++ ": " ++ toString rooms ++ " rooms, " ++
      toString walls ++ " walls, " ++ toString roofs ++ " roofs"

end Event

end TavernLayout
