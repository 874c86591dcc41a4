import TavernLayout.Proofs.Furnishing.FreeFloor
import TavernLayout.Proofs.Works

/-!
# What stays free

The rectangles that furniture avoids are found if the walls and roofs of the room are in their
stores. They hold the way from every door to the middle of the room and the floor under every
staircase.

* `reserved_ok`: the rectangles are found;
* `covered_of_inFrontOf`: the strip before a door is among them;
* `covered_of_stairs`: the floor under a staircase is.
-/

namespace TavernLayout

namespace FreeFloor

variable {walls : Store .wall Wall} {roofs : Store .roof Roof} {room : Room} {avoid : List Rect}
  {p : Vec2}

/-- The strip from a door in the side `d` of a room to the middle of the room, as wide as the
door. -/
def InFrontOf (room : Rect) (d : Dir) (door : Rect) (p : Vec2) : Prop :=
  d.sign * d.along room.center ≤ d.sign * d.along p ∧
    d.orthogonal.along door.min ≤ d.orthogonal.along p ∧
    d.orthogonal.along p ≤ d.orthogonal.along door.max

theorem mem_walkway {room door : Rect} {d : Dir} (hp : p ∈ room)
    (h : InFrontOf room d door p) : p ∈ walkway room d door := by
  unfold InFrontOf at h
  rw [Rect.mem_iff] at hp ⊢
  cases d <;>
    simp [Dir.sign, Dir.along, Dir.isY, Dir.orthogonal, walkway, Rect.sorted, Dir.onEdge,
      Dir.edge, Dir.splice] at h ⊢ <;> omega

/-- What stays free is what the ways and the stairs leave in the room. -/
theorem reserved_eq_ok_iff : reserved walls roofs room = .ok avoid ↔
    ∃ ways, walkways walls room = .ok ways ∧
      ∃ stairs, stairways roofs (room.floors ++ room.roofs) = .ok stairs ∧
      ((ways ++ stairs).map fun r => r.inter room.footprint).filter
        (fun r => decide r.Valid) = avoid := by
  simp only [reserved, except_bind_eq_ok_iff, pure, Except.pure, Except.ok.injEq]

theorem walkways_ok (h : walls.Resolves room.wallRefs) :
    ∃ ways, walkways walls room = .ok ways := by
  have hside : ∀ s ∈ room.walls.items,
      ∃ ways, sideWalkways walls room.footprint s.1 s.2 = .ok ways := by
    rintro ⟨d, ids⟩ hs
    obtain ⟨e, -, he⟩ := List.mem_map.1 hs
    cases he
    obtain ⟨wls, hwls⟩ := mapM_ok fun id hid => h id (Room.mem_wallRefs.2 ⟨d, hid⟩)
    exact ⟨_, except_bind_eq_ok_iff.2 ⟨wls, hwls, rfl⟩⟩
  obtain ⟨ways, hways⟩ := mapM_ok hside
  exact ⟨_, except_bind_eq_ok_iff.2 ⟨ways, hways, rfl⟩⟩

theorem stairways_ok {ids : List (Ref .roof)} (h : roofs.Resolves ids) :
    ∃ stairs, stairways roofs ids = .ok stairs := by
  obtain ⟨rs, hrs⟩ := mapM_ok h
  exact ⟨_, except_bind_eq_ok_iff.2 ⟨rs, hrs, rfl⟩⟩

theorem reserved_ok (hw : walls.Resolves room.wallRefs)
    (hr : roofs.Resolves (room.floors ++ room.roofs)) :
    ∃ avoid, reserved walls roofs room = .ok avoid := by
  obtain ⟨ways, hways⟩ := walkways_ok hw
  obtain ⟨stairs, hstairs⟩ := stairways_ok hr
  exact ⟨_, reserved_eq_ok_iff.2 ⟨ways, hways, stairs, hstairs, rfl⟩⟩

/-- The way from every door is found. -/
theorem walkway_mem {ways : List Rect} {d : Dir} {id : Ref .wall} {wall : Wall} {door : Rect}
    (h : walkways walls room = .ok ways) (hid : id ∈ room.walls.get d)
    (hwall : walls.lookup id = .ok wall) (hdoor : wall.doorRect = some door) :
    walkway room.footprint d door ∈ ways := by
  obtain ⟨wss, hwss, hways⟩ := except_bind_eq_ok_iff.1 h
  obtain rfl := Except.ok.inj hways
  have hitem : (d, room.walls.get d) ∈ room.walls.items :=
    List.mem_map.2 ⟨d, Dir.mem_all d, rfl⟩
  obtain ⟨ws, hmem, hws⟩ := exists_of_mapM_ok hwss hitem
  obtain ⟨wls, hwls, hret⟩ := except_bind_eq_ok_iff.1 hws
  obtain rfl := Except.ok.inj hret
  apply List.mem_flatten.2 ⟨_, hmem, _⟩
  obtain ⟨wall', hin, hwall'⟩ := exists_of_mapM_ok hwls hid
  obtain rfl := Except.ok.inj (hwall.symm.trans hwall')
  exact List.mem_map_of_mem (List.mem_filterMap.2 ⟨wall, hin, hdoor⟩)

theorem stairway_mem {ids : List (Ref .roof)} {stairs : List Rect} {id : Ref .roof} {roof : Roof}
    {s : Stairs} (h : stairways roofs ids = .ok stairs) (hid : id ∈ ids)
    (hroof : roofs.lookup id = .ok roof) (hs : roof.stairs = some s) :
    s.bounds.footprint ∈ stairs := by
  obtain ⟨rs, hrs, hret⟩ := except_bind_eq_ok_iff.1 h
  obtain rfl := Except.ok.inj hret
  obtain ⟨roof', hin, hroof'⟩ := exists_of_mapM_ok hrs hid
  obtain rfl := Except.ok.inj (hroof.symm.trans hroof')
  exact List.mem_map_of_mem (List.mem_filterMap.2 ⟨roof, hin, hs⟩)

/-- A cell of the room in one of the rectangles that are clipped to it is avoided. -/
theorem covered_of_clipped {rs : List Rect} {bounds r : Rect} (hr : r ∈ rs) (hp : p ∈ bounds)
    (hpr : p ∈ r) :
    Covered ((rs.map fun r => r.inter bounds).filter fun r => decide r.Valid) p := by
  have hmem : p ∈ r.inter bounds := Rect.mem_inter_iff.2 ⟨hpr, hp⟩
  exact ⟨_, List.mem_filter.2 ⟨List.mem_map_of_mem hr, decide_eq_true (.of_mem hmem)⟩, hmem⟩

/-- The strip before a door stays free. -/
theorem covered_of_inFrontOf (h : reserved walls roofs room = .ok avoid) {d : Dir}
    {id : Ref .wall} {wall : Wall} {door : Rect} (hid : id ∈ room.walls.get d)
    (hwall : walls.lookup id = .ok wall) (hdoor : wall.doorRect = some door)
    (hp : p ∈ room.footprint) (hfront : InFrontOf room.footprint d door p) :
    Covered avoid p := by
  obtain ⟨ways, hways, stairs, -, rfl⟩ := reserved_eq_ok_iff.1 h
  exact covered_of_clipped (List.mem_append_left _ (walkway_mem hways hid hwall hdoor)) hp
    (mem_walkway hp hfront)

/-- The cells under a staircase stay free. -/
theorem covered_of_stairs (h : reserved walls roofs room = .ok avoid) {id : Ref .roof}
    {roof : Roof} {s : Stairs} (hid : id ∈ room.floors ++ room.roofs)
    (hroof : roofs.lookup id = .ok roof) (hs : roof.stairs = some s) (hp : p ∈ room.footprint)
    (hps : p ∈ s.bounds.footprint) : Covered avoid p := by
  obtain ⟨ways, -, stairs, hstairs, rfl⟩ := reserved_eq_ok_iff.1 h
  exact covered_of_clipped (List.mem_append_right _ (stairway_mem hstairs hid hroof hs)) hp hps

end FreeFloor

end TavernLayout
