import TavernLayout.Proofs.Furnishing.Pieces
import TavernLayout.Proofs.Furnishing.Reserved
import TavernLayout.Proofs.Growth.Separation
import TavernLayout.Proofs.Roofing.Shapes

/-!
# Furnished buildings

Every room of a building is furnished in turn. Its floor without the ways from its doors and the
staircases is split into areas, and its furniture stands on them: no piece shares a cell with
another one, leaves the room, stands under a staircase or in the way of a door. Rooms that grew
share no voxel, so neither do pieces of different rooms.

* `ends_furnishRoom`, `ends_furnishBuilding`: one room, and all of them;
* `Fitted.pieces_apart`, `Fitted.mem_of_occupies`: the furniture of one room;
* `furniture_partitions_floor`: the furniture of a building that grew.
-/

namespace TavernLayout

variable {σ : Type} {src : Source σ} {P : Fault → Prop} {w w' : Works σ} {walls : Store .wall Wall}
  {roofs : Store .roof Roof} {r r' : Room}

def RoofsKnown (rooms : Store .room Room) (roofs : Store .roof Roof) : Prop :=
  ∀ r ∈ rooms.items, roofs.Resolves (r.floors ++ r.roofs)

namespace Furnishing

/-! ## One room -/

/-- The room after its free floor was split into areas and furnished. -/
def Fitted (walls : Store .wall Wall) (roofs : Store .roof Roof) (r r' : Room) : Prop :=
  ∃ avoid, FreeFloor.reserved walls roofs r = .ok avoid ∧
    Furnished { r with areas := freeFloor r.footprint avoid } r'

def refit (w : Works σ) (i : Nat) (r' : Room) (st : Stream σ) : Works σ :=
  { w with stream := st, rooms := { w.rooms with items := w.rooms.items.modify i fun _ => r' } }

theorem getElem?_refit {i : Nat} {st : Stream σ} (h : w.rooms.items[i]? = some r) :
    (refit w i r' st).rooms.items[i]? = some r' := by
  simp [refit, h]

theorem getElem?_refit_of_ne {i j : Nat} {st : Stream σ} (h : j ≠ i) :
    (refit w i r' st).rooms.items[j]? = w.rooms.items[j]? := by
  simp [refit, Ne.symm h]

theorem ends_furnishRoom {i : Nat} (hr : w.rooms.items[i]? = some r)
    (hwalls : w.walls.Resolves r.wallRefs) (hroofs : roofs.Resolves (r.floors ++ r.roofs)) :
    Ends (fun _ t => ∃ st r', Fitted w.walls roofs r r' ∧ t = refit w i r' st) P
      (furnishRoom src roofs ⟨(i : Int)⟩) w := by
  obtain ⟨avoid, havoid⟩ := FreeFloor.reserved_ok hwalls hroofs
  have hi := (List.getElem?_eq_some_iff.1 hr).1
  unfold furnishRoom
  apply (Build.ends_room hr).bind
  rintro q v ⟨rfl, rfl⟩
  apply Ends.bind_get
  rw [havoid]
  apply Ends.bind_lift
  · intro e he
    cases he
  · intro avoid' heq
    obtain rfl := Except.ok.inj heq
    have hfurnish := ends_furnish (P := P) src { r with areas := freeFloor r.footprint avoid }
      w.stream
    refine .bind_of_ok (Build.faultsIn_draw hfurnish.2) fun r' v hdraw => ?_
    obtain ⟨st, hr', rfl⟩ := Build.draw_eq_ok_iff.1 hdraw
    refine ⟨fun u t ht => ⟨st, r', ⟨avoid, havoid, hfurnish.1 r' st hr'⟩, ?_⟩,
      Build.faultsIn_changeRoom hi⟩
    exact ((Build.changeRoom_eq_ok_iff (w := { w with stream := st }) hi).1 ht).symm

/-! ## All rooms -/

/-- The rooms at the given positions are furnished, the others and everything else are as before. -/
structure Refitted (roofs : Store .roof Roof) (is : List Nat) (w w' : Works σ) : Prop where
  works : w' = { w with stream := w'.stream, rooms := w'.rooms }
  frozen : w'.rooms.frozen = w.rooms.frozen
  size : w'.rooms.size = w.rooms.size
  fitted : ∀ i ∈ is, ∀ r, w.rooms.items[i]? = some r →
    ∃ r', w'.rooms.items[i]? = some r' ∧ Fitted w.walls roofs r r'
  kept : ∀ i, i ∉ is → w'.rooms.items[i]? = w.rooms.items[i]?

theorem Refitted.refl : Refitted roofs [] w w :=
  ⟨rfl, rfl, rfl, fun _ hi => absurd hi List.not_mem_nil, fun _ _ => rfl⟩

theorem Refitted.cons {i : Nat} {is : List Nat} {st : Stream σ} (hi : i ∉ is)
    (hr : w.rooms.items[i]? = some r) (hfit : Fitted w.walls roofs r r')
    (h : Refitted roofs is (refit w i r' st) w') : Refitted roofs (i :: is) w w' := by
  constructor
  · exact h.works
  · exact h.frozen
  · rw [h.size]
    simp [refit, Store.size]
  · intro j hj q hq
    rcases List.mem_cons.1 hj with rfl | hj
    · obtain rfl := Option.some.inj (hr.symm.trans hq)
      refine ⟨r', ?_, hfit⟩
      rw [h.kept j hi, getElem?_refit hr]
    · have hne : j ≠ i := fun heq => hi (heq ▸ hj)
      exact h.fitted j hj q ((getElem?_refit_of_ne hne).trans hq)
  · intro j hj
    rw [List.mem_cons, not_or] at hj
    rw [h.kept j hj.2, getElem?_refit_of_ne hj.1]

theorem ends_furnishEach {is : List Nat} (hnodup : is.Nodup)
    (hres : ∀ i ∈ is, ∃ r, w.rooms.items[i]? = some r ∧ w.walls.Resolves r.wallRefs ∧
      roofs.Resolves (r.floors ++ r.roofs)) :
    Ends (fun _ t => Refitted roofs is w t) P
      (furnishEach src roofs (is.map fun i : Nat => ⟨(i : Int)⟩)) w := by
  induction is generalizing w with
  | nil => exact .pure .refl
  | cons i is ih =>
    obtain ⟨hi, hnodup⟩ := List.nodup_cons.1 hnodup
    obtain ⟨r, hr, hwalls, hroofs⟩ := hres i List.mem_cons_self
    rw [List.map_cons, furnishEach]
    apply (ends_furnishRoom hr hwalls hroofs).bind
    rintro u t ⟨st, r', hfit, rfl⟩
    apply (ih hnodup ?_).mono
    · intro u t h
      exact h.cons hi hr hfit
    · intro j hj
      obtain ⟨q, hq, hqw⟩ := hres j (List.mem_cons_of_mem _ hj)
      have hne : j ≠ i := fun heq => hi (heq ▸ hj)
      exact ⟨q, (getElem?_refit_of_ne hne).trans hq, hqw⟩

/-- Furnishing a building succeeds where all walls and roofs of its rooms are in their stores. -/
theorem ends_furnishBuilding (src : Source σ) (hwalls : Surrounded w.rooms w.walls)
    (hroofs : RoofsKnown w.rooms roofs) :
    Ends (fun _ t => Refitted roofs (List.range w.rooms.size) w t) P
      (furnishBuilding src roofs) w := by
  unfold furnishBuilding
  apply Ends.bind_get
  apply ends_furnishEach List.nodup_range
  intro i hi
  have hlt : i < w.rooms.items.length := List.mem_range.1 hi
  have hmem := List.getElem_mem hlt
  exact ⟨_, List.getElem?_eq_getElem hlt, hwalls _ hmem, hroofs _ hmem⟩

/-! ## Where the furniture stands -/

/-- The cell of the room lies neither under a staircase of its roofs nor in the way of a door. -/
def Passable (walls : Store .wall Wall) (roofs : Store .roof Roof) (r : Room) (p : Vec2) : Prop :=
  (∀ id ∈ r.floors ++ r.roofs, ∀ roof s, roofs.lookup id = .ok roof → roof.stairs = some s →
    p ∉ s.bounds.footprint) ∧
  ∀ d, ∀ id ∈ r.walls.get d, ∀ wall door, walls.lookup id = .ok wall →
    wall.doorRect = some door → ¬ FreeFloor.InFrontOf r.footprint d door p

theorem passable_of_not_covered {avoid : List Rect} {p : Vec2}
    (h : FreeFloor.reserved walls roofs r = .ok avoid) (hp : p ∈ r.footprint)
    (hfree : ¬ FreeFloor.Covered avoid p) : Passable walls roofs r p := by
  constructor
  · intro id hid roof s hroof hs hps
    exact hfree (FreeFloor.covered_of_stairs h hid hroof hs hp hps)
  · intro d id hid wall door hwall hdoor hfront
    exact hfree (FreeFloor.covered_of_inFrontOf h hid hwall hdoor hp hfront)

/-- The furniture of a room that had none: its free floor is split into separate areas, each used
once, and the pieces stand apart from each other on passable cells of the room. -/
structure Tidy (walls : Store .wall Wall) (roofs : Store .roof Roof) (r r' : Room)
    (avoid : List Rect) (best : Option Rect) (seats : List Rect) (tables : List Furniture) :
    Prop where
  room : r' = { r with areas := r'.areas, furniture := pieces r.kind best tables }
  arranged : Arranged r.kind r.footprint (freeFloor r.footprint avoid) best seats r'.areas tables
  separate : (best.toList ++ seats ++ r'.areas).Pairwise Rect.Separate
  floor : ∀ p, FreeFloor.Covered (best.toList ++ seats ++ r'.areas) p ↔
    p ∈ r.footprint ∧ ¬ FreeFloor.Covered avoid p
  apart : r'.furniture.Pairwise Furniture.Apart
  stand : ∀ f ∈ r'.furniture, ∀ p, f.Occupies p → p ∈ r.footprint ∧ Passable walls roofs r p

theorem Fitted.tidy (h : Fitted walls roofs r r') (hempty : r.furniture = []) :
    ∃ avoid best seats tables, FreeFloor.reserved walls roofs r = .ok avoid ∧
      Tidy walls roofs r r' avoid best seats tables := by
  obtain ⟨avoid, havoid, best, seats, tables, heq, harranged⟩ := h
  have hswept := swept_freeFloor r.footprint avoid
  have hroom : r' = { r with areas := r'.areas, furniture := pieces r.kind best tables } := by
    rw [heq]
    simp only [hempty, List.nil_append]
  have hfurniture : r'.furniture = pieces r.kind best tables := by rw [hroom]
  refine ⟨avoid, best, seats, tables, havoid, hroom, harranged, harranged.areas_apart hswept,
    ?_, ?_, ?_⟩
  · intro p
    rw [harranged.covered_iff]
    exact mem_freeFloor_iff
  · rw [hfurniture]
    exact harranged.pieces_apart hswept
  · intro f hf p hp
    rw [hfurniture] at hf
    obtain ⟨hin, hfree⟩ := harranged.mem_of_occupies hswept hf hp
    exact ⟨hin, passable_of_not_covered havoid hin hfree⟩

def StandsAt (r : Room) (f : Furniture) (v : Vec3) : Prop :=
  f ∈ r.furniture ∧ f.Occupies v.plan ∧ r.bottom ≤ v.z ∧ v.z ≤ r.top

theorem Tidy.holds {avoid : List Rect} {best : Option Rect} {seats : List Rect}
    {tables : List Furniture} (h : Tidy walls roofs r r' avoid best seats tables)
    {f : Furniture} {v : Vec3} (hf : StandsAt r' f v) : r.bounds.Holds v := by
  obtain ⟨hmem, hp, h1, h2⟩ := hf
  have hbounds : r'.bounds = r.bounds := by rw [h.room]
  rw [Room.bottom, hbounds] at h1
  rw [Room.top, hbounds] at h2
  exact ⟨(h.stand f hmem _ hp).1, h1, h2⟩

/-- In every building that grew, with walls and roofs from their stores, every room that had no
furniture is furnished so that its free floor is neither lost nor used twice, and no voxel is taken
by two pieces. -/
theorem furniture_partitions_floor {τ : Type} {plot : Plot} {u v : Works τ} {growing : Source τ}
    {n : Nat} (hs : growing.Lawful) (ho : Growth.Opened growing plot u)
    (hg : Growth.Rounds growing plot u n v) (src : Source σ) (w : Works σ)
    (roofs : Store .roof Roof) (hrooms : w.outlines = v.outlines)
    (hwalls : Surrounded w.rooms w.walls) (hroofs : RoofsKnown w.rooms roofs) :
    ∃ w', furnishBuilding src roofs w = .ok () w' ∧
      w' = { w with stream := w'.stream, rooms := w'.rooms } ∧ w'.rooms.size = w.rooms.size ∧
      (∀ (i : Nat) r, w.rooms.items[i]? = some r → r.furniture = [] →
        ∃ r' avoid best seats tables, w'.rooms.items[i]? = some r' ∧
          FreeFloor.reserved w.walls roofs r = .ok avoid ∧
          Tidy w.walls roofs r r' avoid best seats tables) ∧
      ∀ (i j : Nat) a b a' b', i ≠ j → w.rooms.items[i]? = some a → w.rooms.items[j]? = some b →
        a.furniture = [] → b.furniture = [] → w'.rooms.items[i]? = some a' →
        w'.rooms.items[j]? = some b' → ∀ f g x, StandsAt a' f x → ¬ StandsAt b' g x := by
  obtain ⟨⟨⟩, w', hok, hfit⟩ :=
    (ends_furnishBuilding (P := fun _ => False) src hwalls hroofs).exists_ok
  have htidy : ∀ (i : Nat) r, w.rooms.items[i]? = some r → r.furniture = [] →
      ∃ r' avoid best seats tables, w'.rooms.items[i]? = some r' ∧
        FreeFloor.reserved w.walls roofs r = .ok avoid ∧
        Tidy w.walls roofs r r' avoid best seats tables := by
    intro i r hr hempty
    have hi : i ∈ List.range w.rooms.size :=
      List.mem_range.2 (List.getElem?_eq_some_iff.1 hr).1
    obtain ⟨r', hr', hfitted⟩ := hfit.fitted i hi r hr
    obtain ⟨avoid, best, seats, tables, havoid, ht⟩ := hfitted.tidy hempty
    exact ⟨r', avoid, best, seats, tables, hr', havoid, ht⟩
  refine ⟨w', hok, hfit.works, hfit.size, htidy, ?_⟩
  intro i j a b a' b' hne ha hb hae hbe ha' hb' f g x hf hgx
  obtain ⟨a'', _, _, _, _, ha'', -, hta⟩ := htidy i a ha hae
  obtain rfl := Option.some.inj (ha'.symm.trans ha'')
  obtain ⟨b'', _, _, _, _, hb'', -, htb⟩ := htidy j b hb hbe
  obtain rfl := Option.some.inj (hb'.symm.trans hb'')
  have hapart := (Growth.grown_of_rounds hs ho hg).pairwise_apart
  rw [← hrooms, Works.outlines, List.pairwise_map, List.pairwise_iff_getElem] at hapart
  obtain ⟨hi, hia⟩ := List.getElem?_eq_some_iff.1 ha
  obtain ⟨hj, hjb⟩ := List.getElem?_eq_some_iff.1 hb
  rcases Nat.lt_or_gt_of_ne hne with hlt | hlt
  · have hab := (hapart i j hi hj hlt).voxels
    rw [hia, hjb] at hab
    exact hab ⟨x, hta.holds hf, htb.holds hgx⟩
  · have hba := (hapart j i hj hi hlt).voxels
    rw [hia, hjb] at hba
    exact hba ⟨x, htb.holds hgx, hta.holds hf⟩

open Growth

def smallRooms : Works Script where
  stream := smallScript
  rooms := {
    items := [
      { bounds := ⟨⟨12, 1, 0⟩, ⟨18, 4, 4⟩⟩, kind := .entrance,
        walls := { DirMap.const [] with posY := [⟨0⟩] } },
      { bounds := ⟨⟨11, 6, 0⟩, ⟨23, 20, 6⟩⟩, kind := .stage,
        walls := { DirMap.const [] with negY := [⟨0⟩] } },
      { bounds := ⟨⟨0, 0, 0⟩, ⟨10, 16, 5⟩⟩, kind := .bar, roofs := [⟨0⟩] }] }
  walls := {
    items := [
      { start := ⟨11, 5⟩, stop := ⟨19, 5⟩, base := 0, top := 6, behind := some ⟨0⟩,
        ahead := some ⟨1⟩, toward := .posY, door := some ⟨5, 6⟩ }] }

/-- A roof over the bar, with a staircase up to it. -/
def smallRoofs : Store .roof Roof where
  items := [
    { bounds := ⟨⟨-2, -2⟩, ⟨12, 18⟩⟩, base := 6, style := .floor,
      stairs := some ⟨⟨⟨0, 0, 0⟩, ⟨1, 5, 5⟩⟩, .posY⟩ }]

theorem surrounded_smallRooms : Surrounded smallRooms.rooms smallRooms.walls := by
  intro r hr id hid
  have hzero : id = ⟨((0 : Nat) : Int)⟩ := by
    simp [smallRooms] at hr
    rcases hr with rfl | rfl | rfl <;> simp [Room.wallRefs, DirMap.toList, DirMap.const] at hid
    · exact hid
    · exact hid
  rw [hzero]
  exact ⟨_, Store.lookup_natCast rfl⟩

theorem roofsKnown_smallRooms : RoofsKnown smallRooms.rooms smallRoofs := by
  intro r hr id hid
  have hzero : id = ⟨((0 : Nat) : Int)⟩ := by
    simp [smallRooms] at hr
    rcases hr with rfl | rfl | rfl <;> simp at hid
    exact hid
  rw [hzero]
  exact ⟨_, Store.lookup_natCast rfl⟩

/-- The small plot grows these rooms, and all of them are furnished. -/
theorem smallRooms_furnished : ∃ u v : Works Script,
    Opened Script.source smallPlot u ∧ Rounds Script.source smallPlot u 2 v ∧
    smallRooms.outlines = v.outlines ∧
    ∃ w', furnishBuilding Script.source smallRoofs smallRooms = .ok () w' ∧
      ∀ (i : Nat) r, smallRooms.rooms.items[i]? = some r → r.furniture = [] →
        ∃ r' avoid best seats tables, w'.rooms.items[i]? = some r' ∧
          FreeFloor.reserved smallRooms.walls smallRoofs r = .ok avoid ∧
          Tidy smallRooms.walls smallRoofs r r' avoid best seats tables := by
  obtain ⟨u, v, ho, hg, hos⟩ := rounds_of_survey survey_smallPlot
  have hrooms : smallRooms.outlines = v.outlines := by
    rw [hos]
    rfl
  obtain ⟨w', hok, -, -, htidy, -⟩ := furniture_partitions_floor Script.lawful_source ho hg
    Script.source smallRooms smallRoofs hrooms surrounded_smallRooms roofsKnown_smallRooms
  exact ⟨u, v, ho, hg, hrooms, w', hok, htidy⟩

end Furnishing

end TavernLayout
