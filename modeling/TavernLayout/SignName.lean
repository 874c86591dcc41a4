import TavernLayout.Random.Source

/-!
# Sign names

The name on the sign of a tavern: an adjective and a noun, or a noun and its companion.
-/

namespace TavernLayout.SignName

def adjectives : List String :=
  ["Drunken", "Golden", "Rusty", "Sleeping", "Prancing", "Crooked", "Silver", "Laughing",
   "Wandering", "Hungry", "Jolly", "Broken", "Red", "Howling", "Merry", "Lonely"]

def nouns : List String :=
  ["Dragon", "Pony", "Anchor", "Goblet", "Boar", "Lantern", "Giant", "Barrel",
   "Stag", "Crown", "Fiddler", "Kettle", "Raven", "Wheel", "Mermaid", "Tankard"]

/-- What may stand beside a noun. -/
def companions : List String :=
  ["Hound", "Hare", "Feather", "Fox", "Key", "Bell", "Thistle", "Pike"]

/-- Draws a name; one in four has a companion. -/
def draw {σ : Type} (src : Source σ) : Draw σ String := do
  let noun ← src.choose nouns
  if ← src.chance 0.25 then return "The " ++ noun ++ " and " ++ (← src.choose companions)
  else return "The " ++ (← src.choose adjectives) ++ " " ++ noun

end TavernLayout.SignName
