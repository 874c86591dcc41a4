import TavernLayout.Proofs.Safety
import TavernLayout.Proofs.Shift.Floor
import TavernLayout.Proofs.Shift.Growth
import TavernLayout.Proofs.Shift.Walls

/-!
# Shifted taverns

A layout does not depend on where its plot lies. When plot and ground are shifted together, a
request fails with the same kind of fault, or it is answered with the shifted tavern. No coordinate
has a special meaning, and negative ones are like all others.

* `Tavern.shift`, `SiteMap.shift`: the shifted tavern and the shifted plot;
* `Tavern.shifts_generate`: the two runs, from any two corresponding states;
* `Tavern.generate_shift`: the two runs of a generator.
-/

namespace TavernLayout

variable {σ : Type} {t p : Vec2}

/-! ## Shifted sites -/

def SiteMap.shift (site : SiteMap) (t : Vec2) : SiteMap :=
  ⟨fun tile => site.tileStart tile + t, fun tile => site.tileCentre tile + t⟩

def TileGrid.shift (grid : TileGrid) (t : Vec2) : TileGrid :=
  { grid with origin := grid.origin + t }

theorem TileGrid.toMap_shift {grid : TileGrid} : (grid.shift t).toMap = grid.toMap.shift t := by
  have hstart : ∀ tile, (grid.shift t).tileStart tile = grid.tileStart tile + t :=
    grid.tileStart_shift t
  have hcentre : ∀ tile, (grid.shift t).tileCentre tile = grid.tileCentre tile + t := by
    intro tile
    rw [tileCentre, hstart]
    exact Vec2.add_right_comm
  simp only [toMap, SiteMap.shift, SiteMap.mk.injEq]
  exact ⟨funext hstart, funext hcentre⟩

theorem Terrain.temperature_shift {terrain : Terrain} :
    (terrain.shift t).temperature (p + t) = terrain.temperature p := by
  simp only [shift, Vec2.add_sub_cancel_right]

namespace Tavern

/-- The tavern moved in the plan; its door tile keeps its place in the grid. -/
def shift (tavern : Tavern) (t : Vec2) : Tavern :=
  { tavern with
    rooms := tavern.rooms.map (·.shift t)
    walls := tavern.walls.map (·.shift t)
    roofs := tavern.roofs.map (·.shift t)
    door := tavern.door.shift t
    bounds := tavern.bounds.shift t }

theorem plotBounds_shift {site : SiteMap} {tiles : Rect} :
    plotBounds (site.shift t) tiles = (plotBounds site tiles).shift t := rfl

theorem interior_shift {plot : Rect} : interior (plot.shift t) = (interior plot).shift t := by
  simp only [interior, Rect.min_shift, Rect.max_shift, Vec2.add_right_comm (t := t),
    Vec2.add_sub_right_comm (t := t), Rect.mk_shift]

theorem doorPoint_shift {site : SiteMap} {req : TavernRequest} {inside : Rect} :
    doorPoint (site.shift t) req (inside.shift t) = doorPoint site req inside + t := by
  simp only [doorPoint, SiteMap.shift, Dir.onEdge_shift, Rect.nearest_shift]

/-! ## Two runs -/

theorem shifts_layOut {src : Source σ} (hs : src.Shifting) {plot : Plot} {door : Vec3} {d : Dir} :
    Shifts t (Store.map (·.shift t)) (layOut src plot door d)
      (layOut src (plot.shift t) (door.shift t) d) := by
  refine shifts_addEntrance.discard.bind fun _ => (shifts_grow hs).bind fun _ => ?_
  refine shifts_partitionRooms.bind fun _ => shifts_roofBuilding.bind fun roofs => ?_
  exact shifts_furnishBuilding.bind fun _ => .pure rfl

variable {streams : Streams σ}

theorem shifts_signName (name? : Option String) :
    Shifts t id (signName streams name?) (signName streams name?) := by
  cases name? with
  | some name => exact .pure rfl
  | none => exact Build.shifts_draw (.refl _)

theorem shifts_erect {src : Source σ} (hs : src.Shifting) {plot : Plot} {req : TavernRequest}
    {bounds : Rect} {name : String} {door : Vec3} :
    Shifts t (·.shift t) (erect src plot req bounds name door)
      (erect src (plot.shift t) req (bounds.shift t) name (door.shift t)) := by
  refine (shifts_layOut hs).bind fun roofs => Moves.get.bind fun works => ?_
  rw [Works.rooms_shift, Works.walls_shift, Store.size_map, Store.size_map, Store.size_map]
  exact (Build.shifts_note _).bind fun _ => .pure rfl

theorem shifts_generate (hs : streams.layout.Shifting) (t : Vec2) (terrain : Terrain)
    (site : SiteMap) (req : TavernRequest) :
    Shifts t (·.shift t) (generate streams terrain site req)
      (generate streams (terrain.shift t) (site.shift t) req) := by
  have hlevel : ∀ p, floorAt (terrain.shift t) (p + t) req.level = floorAt terrain p req.level := by
    intro p
    cases req.level with
    | some level => rfl
    | none => exact Terrain.doorLevel_shift
  rw [generate_eq, generate_eq]
  refine (shifts_signName req.name).bind fun name => ?_
  simp only [plotBounds_shift, interior_shift, doorPoint_shift, Terrain.temperature_shift, hlevel,
    Rect.valid_shift]
  refine .ite Iff.rfl (fun _ => ?_) fun _ => .throw trivial
  refine (Moves.lift _).bind fun temperature => (Moves.lift _).bind fun level => ?_
  exact shifts_erect hs

/-- Shifting plot and ground shifts the tavern: both requests fail with similar faults, or both
are answered, the second one with the shifted tavern. -/
theorem generate_shift (hs : streams.layout.Shifting) (t : Vec2) (terrain : Terrain)
    (grid : TileGrid) (req : TavernRequest) (st : Stream σ) :
    (∃ e e' w, generate streams terrain grid.toMap req { stream := st } = .error e w ∧
      generate streams (terrain.shift t) (grid.shift t).toMap req { stream := st } =
        .error e' (w.shift t) ∧ e.Similar e') ∨
    ∃ tavern w, generate streams terrain grid.toMap req { stream := st } = .ok tavern w ∧
      generate streams (terrain.shift t) (grid.shift t).toMap req { stream := st } =
        .ok (tavern.shift t) (w.shift t) := by
  have h := shifts_generate hs t terrain grid.toMap req { stream := st }
  rw [← TileGrid.toMap_shift] at h
  change Moved _ _ _
    (generate streams (terrain.shift t) (grid.shift t).toMap req { stream := st }) at h
  cases hx : generate streams terrain grid.toMap req { stream := st } with
  | ok tavern w =>
    cases hy : generate streams (terrain.shift t) (grid.shift t).toMap req { stream := st } with
    | ok tavern' w' =>
      rw [hx, hy] at h
      obtain ⟨rfl, rfl⟩ := h
      exact .inr ⟨tavern, w, rfl, rfl⟩
    | error e' w' =>
      rw [hx, hy] at h
      exact h.elim
  | error e w =>
    cases hy : generate streams (terrain.shift t) (grid.shift t).toMap req { stream := st } with
    | ok tavern' w' =>
      rw [hx, hy] at h
      exact h.elim
    | error e' w' =>
      rw [hx, hy] at h
      obtain ⟨hsim, rfl⟩ := h
      exact .inl ⟨e, e', w, rfl, rfl, hsim⟩

end Tavern

/-- A scripted answer is counted from the lower bound. -/
theorem Script.shifting_source : source.Shifting := by
  intro s lo hi k h
  have hwidth : hi + k - (lo + k) = hi - lo := Int.add_sub_add_right _ _ _
  simp only [source, hwidth]
  congr 1
  omega

namespace Tavern

/-- The small plot moved across both axes: both requests are answered. -/
theorem generate_smallRequest_shift :
    Script.source.Shifting ∧
    ∃ tavern w, generate (.single Script.source) meadow (TileGrid.toMap {}) smallRequest
        { stream := smallStream } = .ok tavern w ∧
      generate (.single Script.source) (meadow.shift ⟨-31, 17⟩)
        (TileGrid.toMap { origin := ⟨-31, 17⟩ }) smallRequest { stream := smallStream } =
          .ok (tavern.shift ⟨-31, 17⟩) (w.shift ⟨-31, 17⟩) := by
  have hs : (Streams.single Script.source).layout.Lawful := Script.lawful_source
  obtain ⟨tavern, w, hok⟩ := exists_generate hs finiteEverywhere_meadow (by decide) (by decide)
    not_tooSmall_smallRequest smallStream
  have hshift : (Streams.single Script.source).layout.Shifting := Script.shifting_source
  refine ⟨hshift, ?_⟩
  rcases generate_shift hshift ⟨-31, 17⟩ meadow {} smallRequest smallStream with
    ⟨e, e', v, herror, -⟩ | hboth
  · cases hok.symm.trans herror
  · exact hboth

end Tavern

end TavernLayout
