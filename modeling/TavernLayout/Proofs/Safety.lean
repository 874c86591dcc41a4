import TavernLayout.Proofs.Furnishing.Rooms
import TavernLayout.Proofs.Growth.Bound
import TavernLayout.Proofs.Growth.FrontRoom
import TavernLayout.Proofs.Roofing.Anywhere
import TavernLayout.Proofs.Stages
import TavernLayout.Proofs.Walls.Doors

/-!
# Only small plots are refused

A tavern is refused where its plot is too small, and nothing else stops a layout. Each stage leaves
what the next one asks for: growth has enough fuel and too few rooms to overflow a weight, all rooms
lie in the interior without roofs, their walls are in an open store, and roofs and walls are known
when the rooms are furnished.

* `Growth.exists_grow`, `exists_partitionRooms`: growth and walls;
* `Tavern.stages_ok`: everything that follows the entrance;
* `Tavern.faultsIn_layOut`: a layout fails at its entrance only;
* `Tavern.faultsIn_generate`: so does a tavern, or its plot has no interior;
* `Tavern.exists_generate`, `Tavern.generate_ok_or_small`: what comes of every request.
-/

namespace TavernLayout

variable {σ : Type} {src : Source σ} {plot : Plot} {w w' : Works σ}

/-! ## Growth -/

/-- A plot that is not too wide has few cells. -/
theorem Rect.cells_le_of_size {r : Rect} (hx : r.size.x < 2 ^ 53) (hy : r.size.y < 2 ^ 53)
    (hv : r.Valid) : r.cells ≤ 2 ^ 106 := by
  obtain ⟨h1, h2⟩ := hv
  have hmul : (r.size.x + 1) * (r.size.y + 1) ≤ 2 ^ 53 * 2 ^ 53 :=
    Int.mul_le_mul (by omega) (by omega)
      (by simp only [Rect.size, Vec2.y_sub]; omega) (by decide)
  exact hmul

/-- The building behind the front door grows until its frontier is empty. -/
theorem Growth.exists_grow (hs : src.Lawful) (hf : plot.terrain.FiniteAltitudes)
    (ho : Opened src plot w) (hx : plot.interior.size.x < 2 ^ 53)
    (hy : plot.interior.size.y < 2 ^ 53) :
    ∃ k v, Rounds src plot w k v ∧ grow src plot w = .ok () v := by
  have hg := grown_of_opened hs ho
  have hfirst := hg.sound _ (List.getElem_mem hg.length_pos)
  have hcells := Rect.cells_le_of_size hx hy (hfirst.inside.valid hfirst.accepted.1)
  obtain ⟨k, v, hr, -, hok⟩ := grow_ok hs hf ho (by omega)
  exact ⟨k, v, hr, hok⟩

/-! ## The stages that follow -/

theorem surrounded_of_issued (h : Partition.Issued w) : Surrounded w.rooms w.walls := by
  intro r hr id hid
  obtain ⟨d, hd⟩ := Room.mem_wallRefs.1 hid
  obtain ⟨k, rfl, hk⟩ := h r hr d id hd
  exact ⟨_, Store.lookup_natCast (List.getElem?_eq_getElem hk)⟩

open Growth

/-- The partition of a building that grew leaves one that can be roofed. -/
theorem exists_partitionRooms {n : Nat} (hs : src.Lawful) (ho : Opened src plot w)
    (h : Rounds src plot w n w') :
    ∃ t, partitionRooms src w' = .ok () t ∧ Roofing.Roofable plot.interior t := by
  obtain ⟨es, -, hb⟩ := built_of_rounds hs ho h
  have hc := (consistent_of_built hb).1
  have hopen := ((Tended.opened hs ho).rounds hs h).walls
  obtain ⟨hok, hfault⟩ := Partition.ends_partitionRooms hs hc.issued
  cases hrun : partitionRooms src w' with
  | error e t =>
    have hfrozen := (hfault e t hrun).2
    rw [hopen] at hfrozen
    cases hfrozen
  | ok u t =>
    obtain ⟨hbuilds, -⟩ := hok u t hrun
    have hcl := (Partition.joined_of_partitionRooms hs hc hrun).1
    refine ⟨t, rfl, fun r hr => ?_, hcl.unroofed hb.unroofed,
      surrounded_of_issued (hbuilds.issued hc.issued)⟩
    obtain ⟨i, hi⟩ := List.mem_iff_getElem?.1 hr
    obtain ⟨r0, hr0, hsame⟩ := hbuilds.earlier hi
    have hsound := hb.grown.sound r0.outline (List.mem_map_of_mem (List.mem_of_getElem? hr0))
    rw [← hsame]
    exact ⟨hsound.accepted.1, hsound.inside⟩

namespace Tavern

/-- All stages that follow the entrance come to an end. -/
theorem stages_ok (hs : src.Lawful) (hf : plot.terrain.FiniteAltitudes)
    (ho : Opened src plot w) (hx : plot.interior.size.x < 2 ^ 53)
    (hy : plot.interior.size.y < 2 ^ 53) :
    ∃ roofs t, (do
      grow src plot
      partitionRooms src
      let roofs ← roofBuilding src
      furnishBuilding src roofs
      return roofs : Build σ (Store .roof Roof)) w = .ok roofs t := by
  obtain ⟨n, u, hr, hgrow⟩ := exists_grow hs hf ho hx hy
  obtain ⟨v, hpart, hroofable⟩ := exists_partitionRooms hs ho hr
  obtain ⟨roofs, t, hroof, hwalls, hroofs⟩ := hroofable.exists_roofBuilding hs hx hy
  obtain ⟨⟨⟩, t', hfurnish, -⟩ :=
    (Furnishing.ends_furnishBuilding (P := fun _ => False) src hwalls hroofs).exists_ok
  refine ⟨roofs, t', ?_⟩
  rw [bind_eq_of_ok hgrow, bind_eq_of_ok hpart, bind_eq_of_ok hroof, bind_eq_of_ok hfurnish]
  rfl

/-- A layout fails for want of space behind the front door only. -/
theorem faultsIn_layOut {door : Vec3} {facing : Dir} {st : Stream σ} (hs : src.Lawful)
    (hf : plot.terrain.FiniteAltitudes) (hx : plot.interior.size.x < 2 ^ 53)
    (hy : plot.interior.size.y < 2 ^ 53) :
    FaultsIn (Entrance.Refused plot facing) (layOut src plot door facing) { stream := st } := by
  unfold layOut
  refine (Entrance.faultsIn_addEntrance hs rfl rfl).discard.bind fun _ w h => ?_
  obtain ⟨id, h⟩ := discard_eq_ok_iff.1 h
  obtain ⟨roofs, t, hrun⟩ := stages_ok hs hf ⟨st, [], door, facing, id, h⟩ hx hy
  exact .of_ok hrun

/-! ## Requests -/

theorem faultsIn_signName {P : Fault → Prop} (streams : Streams σ) (name? : Option String) :
    FaultsIn P (signName streams name?) w := by
  cases name? with
  | some name => exact .pure name
  | none =>
    refine Build.faultsIn_draw ((Source.faultsIn_choose (by decide)).bind fun noun s1 _ => ?_)
    refine (Source.faultsIn_chance _).bind fun paired s2 _ => ?_
    split
    · exact (Source.faultsIn_choose (by decide)).bind fun _ _ _ => .pure _
    · exact (Source.faultsIn_choose (by decide)).bind fun _ _ _ => .pure _

theorem stream_of_signName {streams : Streams σ} {name? : Option String} {name : String}
    {st : Stream σ} (h : signName streams name? { stream := st } = .ok name w) :
    ∃ st', w = { stream := st' } := by
  cases name? with
  | some s => exact ⟨st, (pure_eq_ok_iff.1 h).2.symm⟩
  | none =>
    obtain ⟨st', -, rfl⟩ := Build.draw_eq_ok_iff.1 h
    exact ⟨st', rfl⟩

theorem floorAt_ok {terrain : Terrain} (h : terrain.FiniteAltitudes) (p : Vec2)
    (level? : Option Int) : ∃ z, floorAt terrain p level? = .ok z := by
  cases level? with
  | some z => exact ⟨z, rfl⟩
  | none => exact Terrain.doorLevel_ok h p

theorem faultsIn_erect {req : TavernRequest} {bounds : Rect} {name : String} {door : Vec3}
    {st : Stream σ} (hs : src.Lawful) (plot : Plot) (hf : plot.terrain.FiniteAltitudes)
    (hx : plot.interior.size.x < 2 ^ 53) (hy : plot.interior.size.y < 2 ^ 53) :
    FaultsIn (Entrance.Refused plot req.facing) (erect src plot req bounds name door)
      { stream := st } := by
  refine (faultsIn_layOut hs hf hx hy).bind fun roofs w1 _ => FaultsIn.get.bind fun works w2 _ => ?_
  exact (Build.faultsIn_note _).bind fun _ _ _ => .pure _

/-- Why the plot is too small for a tavern: the margins leave no interior, or there is no space for
a hall behind the door. -/
def TooSmall (bounds : Rect) (facing : Dir) (e : Fault) : Prop :=
  (e = .noInterior bounds ∧ ¬ (interior bounds).Valid) ∨
  (e = .noEntrance (interior bounds) ∧
    (¬ Kind.entrance.Fits (interior bounds) ∨ Entrance.Strait (interior bounds) facing))

theorem size_interior_le (bounds : Rect) : (interior bounds).size.x ≤ bounds.size.x ∧
    (interior bounds).size.y ≤ bounds.size.y := by
  simp only [interior, Rect.size, Vec2.x_sub, Vec2.y_sub, Vec2.x_add, Vec2.y_add, Vec2.diag,
    marginLow, marginHigh]
  omega

theorem faultsIn_generate {streams : Streams σ} {terrain : Terrain} {site : SiteMap}
    {req : TavernRequest} {st : Stream σ} (hs : streams.layout.Lawful)
    (hf : terrain.FiniteEverywhere) (hx : (plotBounds site req.tiles).size.x < 2 ^ 53)
    (hy : (plotBounds site req.tiles).size.y < 2 ^ 53) :
    FaultsIn (TooSmall (plotBounds site req.tiles) req.facing)
      (generate streams terrain site req) { stream := st } := by
  rw [generate_eq]
  generalize plotBounds site req.tiles = bounds at hx hy ⊢
  refine (faultsIn_signName streams req.name).bind fun name w hname => ?_
  obtain ⟨st, rfl⟩ := stream_of_signName hname
  dsimp only
  split
  · obtain ⟨temperature, htemperature, -⟩ := hf.2 (doorPoint site req (interior bounds))
    obtain ⟨level, hlevel⟩ := floorAt_ok hf.1 (doorPoint site req (interior bounds)) req.level
    refine (FaultsIn.lift fun e he => ?_).bind fun t w1 h1 => ?_
    · rw [htemperature] at he
      cases he
    obtain ⟨-, rfl⟩ := lift_eq_ok_iff.1 h1
    refine (FaultsIn.lift fun e he => ?_).bind fun z w2 h2 => ?_
    · rw [hlevel] at he
      cases he
    obtain ⟨-, rfl⟩ := lift_eq_ok_iff.1 h2
    obtain ⟨hlex, hley⟩ := size_interior_le bounds
    refine fun e w he => .inr (faultsIn_erect hs ⟨terrain, interior bounds, t⟩ hf.1 ?_ ?_ e w he)
    · exact Int.lt_of_le_of_lt hlex hx
    · exact Int.lt_of_le_of_lt hley hy
  · next hempty => exact .throw (.inl ⟨rfl, hempty⟩)

/-- Every request on finite ground is answered with a tavern unless its plot is too small. -/
theorem generate_ok_or_small {streams : Streams σ} (hs : streams.layout.Lawful) {terrain : Terrain}
    (hf : terrain.FiniteEverywhere) (site : SiteMap) (req : TavernRequest)
    (hx : (plotBounds site req.tiles).size.x < 2 ^ 53)
    (hy : (plotBounds site req.tiles).size.y < 2 ^ 53) (st : Stream σ) :
    (∃ tavern w, generate streams terrain site req { stream := st } = .ok tavern w) ∨
    ∃ e w, generate streams terrain site req { stream := st } = .error e w ∧
      TooSmall (plotBounds site req.tiles) req.facing e := by
  cases h : generate streams terrain site req { stream := st } with
  | ok tavern w => exact .inl ⟨tavern, w, rfl⟩
  | error e w => exact .inr ⟨e, w, rfl, faultsIn_generate hs hf hx hy e w h⟩

/-- A plot with space for a hall behind its door gets a tavern. -/
theorem exists_generate {streams : Streams σ} (hs : streams.layout.Lawful) {terrain : Terrain}
    (hf : terrain.FiniteEverywhere) {site : SiteMap} {req : TavernRequest}
    (hx : (plotBounds site req.tiles).size.x < 2 ^ 53)
    (hy : (plotBounds site req.tiles).size.y < 2 ^ 53)
    (hspace : ∀ e, ¬ TooSmall (plotBounds site req.tiles) req.facing e) (st : Stream σ) :
    ∃ tavern w, generate streams terrain site req { stream := st } = .ok tavern w := by
  cases h : generate streams terrain site req { stream := st } with
  | ok tavern w => exact ⟨tavern, w, rfl⟩
  | error e w => exact absurd (faultsIn_generate hs hf hx hy e w h) (hspace e)

theorem finiteEverywhere_meadow : meadow.FiniteEverywhere :=
  ⟨fun _ => ⟨10.5, rfl, false, 21 * 2 ^ 48, -49, by decide +kernel⟩,
    fun _ => ⟨0.25, rfl, false, 2 ^ 52, -54, by decide +kernel⟩⟩

theorem not_tooSmall_smallRequest (e : Fault) :
    ¬ TooSmall (plotBounds (TileGrid.toMap {}) smallRequest.tiles) smallRequest.facing e := by
  rintro (⟨-, hempty⟩ | ⟨-, hstrait⟩)
  · exact hempty (by decide)
  · exact absurd hstrait (by decide)

/-- The small request is answered. -/
theorem generate_smallRequest_ok : ∃ tavern w, generate (.single Script.source) meadow
    (TileGrid.toMap {}) smallRequest { stream := smallStream } = .ok tavern w := by
  have hlawful : (Streams.single Script.source).layout.Lawful := Script.lawful_source
  rcases generate_ok_or_small hlawful finiteEverywhere_meadow (TileGrid.toMap {}) smallRequest
    (by decide) (by decide) smallStream with hok | ⟨e, w, -, hsmall⟩
  · exact hok
  · exact absurd hsmall (not_tooSmall_smallRequest e)

end Tavern

end TavernLayout
