import TavernLayout.Proofs.Placement.Beside
import TavernLayout.Proofs.Walls.Doors

/-!
# A room beside another one gets its door

What the other rooms leave of the space beside a room, once some kind fits into it, begins two cells
beyond the room and faces at least two cells of its side. So a place for the door can be drawn
inside the side, the new room stays abreast of it wherever it is slid, and the door in the wall
between the two stays at it. Nothing but a lack of space can end an attempt without a room.

* `SideRoom.Fronts`, `fronts_of_cleared`: where the space lies that obstacles and limits leave;
* `SideRoom.facing_eq`: the part of the side that faces the space;
* `SideRoom.Threshold`, `threshold_of_sought`: where the place for the door lies;
* `SideRoom.opens_at`: the door in the shared wall is at that place;
* `growSide_eq`: an attempt up to the choice of a kind;
* `Growth.placed_rooms_join`: every room that finds a place is joined to its parent.
-/

namespace TavernLayout

variable {σ : Type} {src : Source σ} {plot : Plot} {u w w' : Works σ}

namespace SideRoom

variable {interior parent space room : Rect} {d : Dir} {k : Kind} {p : Vec2} {c : Int}
  {st st' : Stream σ}

/-! ## The space in front of a side -/

/-- The space begins two cells beyond the side of the parent and is not past either end of it. -/
structure Fronts (parent space : Rect) (d : Dir) : Prop where
  start : d.opposite.edge space = d.edge parent + 2 * d.sign
  right : d.orthogonal.opposite.edge space < d.orthogonal.edge parent
  left : d.orthogonal.opposite.edge parent < d.orthogonal.edge space

/-- Across the direction the limits keep an edge before the last cell of the parent's side. -/
theorem reach_across_of_keepsTo {all : Rect} {e : Dir} (h1 : e ≠ d) (h2 : e ≠ d.opposite)
    (h : Clearance.KeepsTo (limits parent all d) space) :
    -e.opposite.reach space ≤ e.reach parent - 1 := by
  have hlimit := h e (e.edge (parent.grow (-1))) (by
    rw [limits, DirMap.get_ofFn, if_neg h1, if_neg h2])
  change _ ≤ e.reach (parent.grow (-1)) at hlimit
  rw [Dir.reach_grow] at hlimit
  exact hlimit

theorem fronts_of_cleared (hparent : interior.Encloses parent)
    (hin : (SideRoom.space interior parent d).Encloses space)
    (hkeeps : Clearance.KeepsTo (limits parent (SideRoom.space interior parent d) d) space)
    (hfits : k.Fits space) : Fronts parent space d := by
  have hstart := reach_opposite_of_cleared (Dir.encloses_iff_reach.1 hparent d) hin hkeeps
    (hfits.three_le d)
  have hright := reach_across_of_keepsTo (e := d.orthogonal) (by cases d <;> decide)
    (by cases d <;> decide) hkeeps
  have hleft := reach_across_of_keepsTo (e := d.orthogonal.opposite) (by cases d <;> decide)
    (by cases d <;> decide) hkeeps
  rw [Dir.opposite_opposite] at hleft
  constructor
  · cases d <;> simp [Dir.opposite, Dir.edge, Dir.sign] at hstart ⊢ <;> omega
  · rw [Dir.edge_orthogonal, Dir.edge_orthogonal_opposite]
    omega
  · rw [Dir.edge_orthogonal, Dir.edge_orthogonal_opposite]
    omega

/-- The part of the side that faces the space, from left to right. -/
theorem facing_eq (h : Fronts parent space d)
    (hparent : ∀ e : Dir, 3 ≤ e.reach parent + e.opposite.reach parent)
    (hspace : ∀ e : Dir, 3 ≤ e.reach space + e.opposite.reach space) :
    max (d.orthogonal.opposite.edge parent) (d.orthogonal.opposite.edge space) <
        min (d.orthogonal.edge parent) (d.orthogonal.edge space) ∧
      facing parent space d =
        ⟨max (d.orthogonal.opposite.edge parent) (d.orthogonal.opposite.edge space),
          min (d.orthogonal.edge parent) (d.orthogonal.edge space)⟩ := by
  have hright := h.right
  have hleft := h.left
  have h1 := hparent d.orthogonal
  have h2 := hspace d.orthogonal
  have hlt : max (d.orthogonal.opposite.edge parent) (d.orthogonal.opposite.edge space) <
      min (d.orthogonal.edge parent) (d.orthogonal.edge space) := by
    simp only [Dir.edge_orthogonal, Dir.edge_orthogonal_opposite] at *
    omega
  refine ⟨hlt, ?_⟩
  simp only [facing, Span.between, Span.mk.injEq]
  omega

/-! ## The place for the door -/

/-- The point `p` lies on the line of the wall between a parent and a room that begins two cells
beyond it, inside the side of the parent and abreast of the room. -/
structure Threshold (parent room : Rect) (d : Dir) (p : Vec2) : Prop where
  next : d.opposite.edge room = d.edge parent + 2 * d.sign
  line : d.along p = d.edge parent + d.sign
  inside : d.orthogonal.opposite.edge parent < d.orthogonal.along p ∧
    d.orthogonal.along p < d.orthogonal.edge parent
  abreast : d.orthogonal.opposite.edge room ≤ d.orthogonal.along p ∧
    d.orthogonal.along p ≤ d.orthogonal.edge room

theorem across_wallPoint (parent : Rect) (d : Dir) (c : Int) :
    d.orthogonal.along (wallPoint parent d c) = c := by
  rw [wallPoint, Dir.along_add, Dir.edgePoint, Dir.along_orthogonal_onEdge,
    Partition.along_orthogonal_diag, Partition.along_orthogonal_toVec2, Int.add_zero]

/-- The posts of the shared wall stand one step beyond the part of the side that both rooms have. -/
theorem across_firstPost (parent room : Rect) (d : Dir) :
    d.orthogonal.along (firstPost parent room d) =
      max (d.orthogonal.opposite.edge parent) (d.orthogonal.opposite.edge room) - 1 := by
  have hstep : d.orthogonal.along d.orthogonal.opposite.toVec2 = -1 := by cases d <;> rfl
  rw [firstPost, Dir.along_add, across_wallPoint, hstep]
  rfl

theorem across_lastPost (parent room : Rect) (d : Dir) :
    d.orthogonal.along (lastPost parent room d) =
      min (d.orthogonal.edge parent) (d.orthogonal.edge room) + 1 := by
  rw [lastPost, Dir.along_add, across_wallPoint, Partition.sign_orthogonal]

/-- Wherever a room is found beyond a place for the door, it stays abreast of that place. -/
theorem threshold_of_sought (hs : src.Lawful) (hv : space.Valid) (hf : Fronts parent space d)
    (hparent : ∀ e : Dir, 3 ≤ e.reach parent + e.opposite.reach parent)
    (hspace : ∀ e : Dir, 3 ≤ e.reach space + e.opposite.reach space)
    (h : Sought src parent space d k st c (some room) st') :
    Threshold parent room d (wallPoint parent d c) := by
  obtain ⟨hmem, s, -, hplace⟩ := h
  obtain ⟨hlt, hfacing⟩ := facing_eq hf hparent hspace
  rw [hfacing] at hmem
  dsimp only at hmem
  obtain ⟨a, b, odd, ha, hb, hodd, rfl⟩ := Placement.besides_of_placeBeside hs hplace
  have hsited := Placement.sited_beside (p := wallPoint parent d c) hv ha hb hodd
  have hline : d.along (wallPoint parent d c) = d.edge parent + d.sign := by
    rw [wallPoint, Dir.along_add, Dir.edgePoint, Dir.along_onEdge, Dir.along_toVec2]
  have hcross := across_wallPoint parent d c
  refine ⟨?_, hline, ?_, hsited.abreast ?_ ?_⟩
  · rw [hsited.start ?_, hf.start]
    rw [Dir.along_add, Dir.along_toVec2, hline, hf.start]
    omega
  all_goals
    rw [hcross]
    omega

/-! ## The door -/

theorem wallLength_eq (parent room : Rect) (d : Dir) : wallLength parent room d =
    min (d.orthogonal.edge parent) (d.orthogonal.edge room) -
      max (d.orthogonal.opposite.edge parent) (d.orthogonal.opposite.edge room) + 2 := by
  rw [wallLength, Dir.along_sub, across_lastPost, across_firstPost]
  omega

theorem Threshold.long (h : Threshold parent room d p)
    (hparent : ∀ e : Dir, 3 ≤ e.reach parent + e.opposite.reach parent)
    (hroom : ∀ e : Dir, 3 ≤ e.reach room + e.opposite.reach room) :
    3 ≤ wallLength parent room d := by
  have hinside := h.inside
  have habreast := h.abreast
  have h1 := hparent d.orthogonal
  have h2 := hroom d.orthogonal
  rw [wallLength_eq]
  simp only [Dir.edge_orthogonal, Dir.edge_orthogonal_opposite] at *
  omega

/-- The post of the shared wall at an offset. -/
theorem post_sharedWall (layers : Span) (i j : Ref .room) (offset : Int)
    (hlong : 3 ≤ wallLength parent room d) (o : Int) :
    (sharedWall parent room d layers i j offset).post o = wallPoint parent d
      (max (d.orthogonal.opposite.edge parent) (d.orthogonal.opposite.edge room) - 1 + o) := by
  unfold Wall.post
  rw [(runs_sharedWall layers i j offset hlong).1]
  cases d <;> ext <;> simp [sharedWall, firstPost, wallPoint, Dir.edgePoint, Dir.onEdge,
    Dir.orthogonal, Dir.isY, Dir.opposite, Dir.edge, Dir.toVec2] <;> omega

/-- Neither of the two shifts that keep the door between the posts moves it away from the place it
was drawn for. -/
theorem mem_doorOffset (hlong : 3 ≤ wallLength parent room d)
    (h : Threshold parent room d (wallPoint parent d c)) (lower : Bool) :
    c - max (d.orthogonal.opposite.edge parent) (d.orthogonal.opposite.edge room) + 1 ∈
      (⟨doorOffset parent room d (wallPoint parent d c) lower,
        doorOffset parent room d (wallPoint parent d c) lower + 1⟩ : Span) := by
  have hinside := h.inside
  have habreast := h.abreast
  rw [across_wallPoint] at hinside habreast
  have hoffset : d.orthogonal.along (wallPoint parent d c - firstPost parent room d) =
      c - max (d.orthogonal.opposite.edge parent) (d.orthogonal.opposite.edge room) + 1 := by
    rw [Dir.along_sub, across_wallPoint, across_firstPost]
    omega
  unfold doorOffset
  rw [hoffset]
  rw [wallLength_eq] at hlong ⊢
  rw [Span.mem_iff]
  unfold clamp
  cases lower <;> simp only [if_true, Bool.false_eq_true, if_false] <;> omega

/-- The door in the wall between a parent and a room is two cells wide and at the place that was
drawn for it. -/
theorem opens_at (hlong : 3 ≤ wallLength parent room d)
    (h : Threshold parent room d (wallPoint parent d c)) (layers : Span) (i j : Ref .room)
    (lower : Bool) :
    ∃ opening, (sharedWall parent room d layers i j
        (doorOffset parent room d (wallPoint parent d c) lower)).doorRect = some opening ∧
      opening.cells = 2 ∧ wallPoint parent d c ∈ opening := by
  have hmem := mem_doorOffset hlong h lower
  generalize doorOffset parent room d (wallPoint parent d c) lower = offset at hmem ⊢
  have hpost := post_sharedWall layers i j offset hlong
  refine ⟨_, rfl, ?_, ?_⟩
  · dsimp only [sharedWall] at hpost ⊢
    rw [hpost, hpost]
    cases d <;> simp [Rect.sorted, Rect.cells, Rect.size, wallPoint, Dir.edgePoint, Dir.onEdge,
      Dir.isY, Dir.toVec2] <;> omega
  · have hdoor : (sharedWall parent room d layers i j offset).door =
        some ⟨offset, offset + 1⟩ := rfl
    refine (Wall.mem_doorRect hdoor rfl (show offset ≤ offset + 1 by omega)).2 ⟨_, hmem, ?_⟩
    rw [hpost]
    congr 1
    omega

/-! ## Attempts -/

/-- What is left of the space beside a room of a building that grew lies in front of its side, if
any kind fits into it. -/
theorem fronts_of_left {parent : Room} {layers : Span} {i : Nat}
    (hg : Grown plot.interior w.outlines) (h : Left plot w i d parent layers (some space))
    (hfits : k.Fits space) : space.Valid ∧ parent.outline.Sound plot.interior ∧
      Fronts parent.footprint space d := by
  have helder : w.outlines[i]? = some parent.outline := by
    rw [Works.outlines, List.getElem?_map, h.elder]
    rfl
  have hcleared := h.cleared
  rw [← elders_eraseIdx] at hcleared
  obtain ⟨hv, hin, hkeeps, -⟩ := cleared_ok_of_sound (.beside d) hg.sound helder hcleared
  have hsound := hg.sound _ (List.mem_of_getElem? helder)
  exact ⟨hv, hsound, fronts_of_cleared hsound.inside hin hkeeps hfits⟩

/-- The draws of an attempt beside room `i` up to the choice of a kind for what is left of the
space. -/
structure Picked (src : Source σ) (plot : Plot) (w : Works σ) (i : Nat) (d : Dir) (parent : Room)
    (layers : Span) (space : Rect) (k : Kind) (st : Stream σ) : Prop where
  elder : w.rooms.items[i]? = some parent
  drawn : ∃ height wanted s, src.between heights.lo heights.hi w.stream = .ok height s ∧
    plot.terrain.floorLevel (SideRoom.space plot.interior parent.footprint d).center =
      .ok wanted ∧
    layers = SideRoom.layers parent.bounds (floorLevel parent.bounds
      (SideRoom.space plot.interior parent.footprint d) d wanted) height ∧
    ∃ lottery, parent.kind.sideLottery? space w.counts plot.temperature = .ok (some lottery) ∧
      lottery.draw src s = .ok k st
  cleared : clearSpace
    (limits parent.footprint (SideRoom.space plot.interior parent.footprint d) d) layers.lo
    layers.hi ((w.rooms.items.eraseIdx i).map Room.bounds)
    (SideRoom.space plot.interior parent.footprint d) = some space

theorem Picked.left {parent : Room} {layers : Span} {i : Nat} (hs : src.Lawful)
    (h : Picked src plot w i d parent layers space k st) :
    Left plot w i d parent layers (some space) := by
  obtain ⟨helder, ⟨height, wanted, s, hheight, hwanted, hlayers, -⟩, hcleared⟩ := h
  exact ⟨helder, ⟨height, wanted, Source.mem_of_between hs hheight, hwanted, hlayers⟩, hcleared⟩

theorem Picked.fits {parent : Room} {layers : Span} {i : Nat}
    (h : Picked src plot w i d parent layers space k st) : k.Fits space := by
  obtain ⟨-, ⟨_, _, _, -, -, -, lottery, hlottery, hk⟩, -⟩ := h
  exact (Kind.mem_of_sideLottery hlottery (Lottery.mem_of_draw hk)).2.1

end SideRoom

open SideRoom

/-- Once a kind is picked, the attempt goes on with the space that is left. -/
theorem growSide_eq {i : Nat} {d : Dir} {parent : Room} {layers : Span} {space : Rect} {k : Kind}
    {st : Stream σ} (h : Picked src plot w i d parent layers space k st) :
    growSide src plot ⟨(i : Int)⟩ d w =
      growInto src ⟨(i : Int)⟩ parent.footprint space d layers k { w with stream := st } := by
  obtain ⟨helder, ⟨height, wanted, s, hheight, hwanted, rfl, lottery, hlottery, hk⟩, hcleared⟩ := h
  unfold growSide
  rw [bind_eq_of_ok (Build.room_eq_ok_iff.2 ⟨Store.lookup_natCast helder, rfl⟩)]
  dsimp only
  rw [bind_eq_of_ok (Build.draw_eq_ok_iff.2 ⟨s, hheight, rfl⟩),
    bind_eq_of_ok (lift_eq_ok_iff.2 ⟨hwanted, rfl⟩), bind_eq_of_ok (get_eq_ok_iff.2 ⟨rfl, rfl⟩),
    Works.others_eq, hcleared]
  dsimp only
  rw [bind_eq_of_ok (get_eq_ok_iff.2 ⟨rfl, rfl⟩), bind_eq_of_ok (lift_eq_ok_iff.2 ⟨hlottery, rfl⟩)]
  dsimp only
  rw [bind_eq_of_ok (Build.draw_eq_ok_iff.2 ⟨st, hk, rfl⟩)]

namespace SideRoom

variable {parent : Room} {layers : Span} {space room : Rect} {i : Nat} {d : Dir} {k : Kind}
  {st st' : Stream σ} {c : Int}

/-- The place for the door and the room beyond it are determined by the stream. -/
theorem Sought.unique {r : Rect} {c1 c2 : Int} {found1 found2 : Option Rect} {st1 st2 : Stream σ}
    (h1 : Sought src r space d k st c1 found1 st1) (h2 : Sought src r space d k st c2 found2 st2) :
    c1 = c2 ∧ found1 = found2 := by
  obtain ⟨-, s, hc, hp⟩ := h1
  obtain ⟨-, s', hc', hp'⟩ := h2
  cases hc.symm.trans hc'
  cases hp.symm.trans hp'
  exact ⟨rfl, rfl⟩

/-- A room that is found beside a room of a building that grew shares enough wall with it. -/
theorem threshold_of_left (hs : src.Lawful) (hg : Grown plot.interior w.outlines)
    (hleft : Left plot w i d parent layers (some space)) (hfits : k.Fits space)
    (h : Sought src parent.footprint space d k st c (some room) st') :
    Threshold parent.footprint room d (wallPoint parent.footprint d c) ∧
      3 ≤ wallLength parent.footprint room d := by
  obtain ⟨hv, hsound, hfronts⟩ := fronts_of_left hg hleft hfits
  have hparent := hsound.accepted.three_le
  have hd := threshold_of_sought hs hv hfronts hparent hfits.three_le h
  obtain ⟨-, s, -, hplace⟩ := h
  exact ⟨hd, hd.long hparent (accepts_of_placeBeside hplace).2.three_le⟩

/-- The building `v` is `u` with one more room of kind `k` beyond the side `d` of room `i`, and a
wall between the two with a door of two cells at `p`. -/
structure Annexed (u v : Works σ) (i : Nat) (d : Dir) (room : Rect) (layers : Span) (k : Kind)
    (p : Vec2) : Prop where
  room : v.outlines = u.outlines ++ [⟨k, .ofRect room layers.lo layers.hi⟩]
  wall : ∃ wall opening, v.walls.items = u.walls.items ++ [wall] ∧
    wall.behind = some ⟨(i : Int)⟩ ∧ wall.ahead = some ⟨(u.rooms.size : Int)⟩ ∧ wall.toward = d ∧
    wall.doorRect = some opening ∧ opening.cells = 2 ∧ p ∈ opening

/-- A room that is found and shares enough wall with its parent is added. -/
theorem annexed_of_sought {r : Rect} (hs : src.Lawful) (hi : i < w.rooms.size)
    (hfr : w.rooms.frozen = false) (hfw : w.walls.frozen = false)
    (hd : Threshold r room d (wallPoint r d c)) (hlong : 3 ≤ wallLength r room d)
    (h : Sought src r space d k w.stream c (some room) st') :
    ∃ v, growInto src ⟨(i : Int)⟩ r space d layers k w = .ok (some ⟨(w.rooms.size : Int)⟩) v ∧
      Annexed w v i d room layers k (wallPoint r d c) := by
  have hends : Ends (Course src i r space d layers k w) (fun _ => False)
      (growInto src ⟨(i : Int)⟩ r space d layers k) w := ends_growInto hs hi hfr hfw
  obtain ⟨found, v, hrun, hcourse⟩ := hends.exists_ok
  rw [hrun]
  cases hcourse with
  | noDoor hshort =>
    have := h.inside
    omega
  | noRoom h' =>
    obtain ⟨-, hfound⟩ := h.unique h'
    cases hfound
  | noWall h' hshort =>
    obtain ⟨-, hfound⟩ := h.unique h'
    cases hfound
    omega
  | @joined _ _ _ st' lower h' _ _ =>
    obtain ⟨rfl, hfound⟩ := h.unique h'
    cases hfound
    obtain ⟨opening, hopening⟩ := opens_at hlong hd layers ⟨(i : Int)⟩ ⟨(w.rooms.size : Int)⟩ lower
    refine ⟨_, rfl, ?_, _, opening, rfl, rfl, rfl, rfl, hopening⟩
    exact Works.outlines_addBeside { w with stream := st' } i r room d layers k
      (doorOffset r room d (wallPoint r d c) lower)

end SideRoom

namespace Growth

variable {i n : Nat}

/-- In every building that grows, an attempt beside a room is never refused for want of a shared
wall. What is left of the space, if some kind fits into it, faces the side of the room. If a room is
found beyond the place that is drawn for the door, it begins two cells beyond the side, the place
lies inside the side and abreast of the new room, and the attempt succeeds with a door of two cells
at that place. -/
theorem placed_rooms_join (hs : src.Lawful) (ho : Opened src plot w) (h : Rounds src plot w n w')
    (hrooms : u.rooms = w'.rooms) (hwalls : u.walls = w'.walls) (hi : i < u.rooms.size) (d : Dir) :
    (∀ parent layers space, Left plot u i d parent layers (some space) →
      (∃ k : Kind, k.Fits space) →
      max (d.orthogonal.opposite.edge parent.footprint) (d.orthogonal.opposite.edge space) <
          min (d.orthogonal.edge parent.footprint) (d.orthogonal.edge space) ∧
        facing parent.footprint space d =
          ⟨max (d.orthogonal.opposite.edge parent.footprint) (d.orthogonal.opposite.edge space),
            min (d.orthogonal.edge parent.footprint) (d.orthogonal.edge space)⟩) ∧
    (∀ parent layers space k st c room st', Picked src plot u i d parent layers space k st →
      Sought src parent.footprint space d k st c (some room) st' →
      Threshold parent.footprint room d (wallPoint parent.footprint d c) ∧
      ∃ v, growSide src plot ⟨(i : Int)⟩ d u = .ok (some ⟨(u.rooms.size : Int)⟩) v ∧
        Annexed u v i d room layers k (wallPoint parent.footprint d c)) ∧
    ∀ r v, growSide src plot ⟨(i : Int)⟩ d u = .ok r v →
      ∃ e, v.journal = u.journal ++ [e] ∧ e ≠ .sideRefused ⟨(i : Int)⟩ d .noSharedWall := by
  have hg : Grown plot.interior u.outlines := by
    have := grown_of_rounds hs ho h
    rwa [Works.outlines, ← hrooms] at this
  have ht := (Tended.opened hs ho).rounds hs h
  have hfr : u.rooms.frozen = false := hrooms ▸ ht.rooms
  have hfw : u.walls.frozen = false := hwalls ▸ ht.walls
  refine ⟨?_, ?_, ?_⟩
  · rintro parent layers space hleft ⟨k, hfits⟩
    obtain ⟨-, hsound, hfronts⟩ := fronts_of_left hg hleft hfits
    exact facing_eq hfronts hsound.accepted.three_le hfits.three_le
  · intro parent layers space k st c room st' hpicked hsought
    obtain ⟨hd, hlong⟩ := threshold_of_left hs hg (hpicked.left hs) hpicked.fits hsought
    rw [growSide_eq hpicked]
    obtain ⟨v, hrun, hroom, hwall⟩ :=
      annexed_of_sought (w := { u with stream := st }) hs hi hfr hfw hd hlong hsought
    exact ⟨hd, v, hrun, hroom, hwall⟩
  · intro r v hrun
    have hattempt := (attempt_of_growSide (P := fun _ => True) hs hi hfr hfw (fun _ _ _ => trivial)
      (fun _ _ _ => trivial)).1 r v hrun
    cases hattempt with
    | blocked => exact ⟨_, rfl, by simp⟩
    | barren => exact ⟨_, rfl, by simp⟩
    | drawn hleft _ hfits _ hcourse =>
      cases hcourse with
      | noDoor => exact ⟨_, rfl, by simp⟩
      | noRoom => exact ⟨_, rfl, by simp⟩
      | noWall hsought hshort =>
        have hlong := (threshold_of_left hs hg hleft hfits hsought).2
        omega
      | joined => exact ⟨_, rfl, by simp⟩

/-! ## A side of the hall -/

def sideDraws (n : Nat) : Stream Script :=
  { state := { values := #[1, 2, 3, 5, 0, 1], used := n }, draws := n }

def strip : Rect := ⟨⟨20, 0⟩, ⟨30, 4⟩⟩

/-- Hall, stage and bar of the small plot, before an attempt beside the hall. -/
structure BesideHall (w' u : Works Script) (hall : Room) : Prop where
  rooms : u.rooms = w'.rooms
  walls : u.walls = w'.walls
  size : 0 < u.rooms.size
  picked : Picked Script.source smallPlot u 0 .posX hall ⟨0, 5⟩ strip .seating (sideDraws 2)
  sought : Sought Script.source hall.footprint strip .posX .seating (sideDraws 2) 3 (some strip)
    (sideDraws 6)

theorem exists_besideHall : ∃ (w w' u : Works Script) (hall : Room),
    Opened Script.source smallPlot w ∧ Rounds Script.source smallPlot w 2 w' ∧
    BesideHall w' u hall := by
  obtain ⟨w, w', ho, hr, hos⟩ := rounds_of_survey survey_smallPlot
  have hfirst : w'.outlines[0]? = some ⟨.entrance, ⟨12, 1, 0⟩, ⟨18, 4, 4⟩⟩ := by
    rw [hos]
    rfl
  rw [Works.outlines, List.getElem?_map, Option.map_eq_some_iff] at hfirst
  obtain ⟨hall, hhall, houtline⟩ := hfirst
  obtain ⟨hkind, hbounds⟩ := Outline.mk.inj houtline
  have hfootprint : hall.footprint = ⟨⟨12, 1⟩, ⟨18, 4⟩⟩ := by
    rw [Room.footprint, hbounds]
    rfl
  have hwanted : smallPlot.terrain.floorLevel
      (SideRoom.space smallPlot.interior ⟨⟨12, 1⟩, ⟨18, 4⟩⟩ .posX).center = .ok 1 :=
    except_eq_ok_of_toOption (by decide +kernel)
  obtain ⟨lottery, hlottery⟩ : ∃ lottery, Kind.entrance.sideLottery? strip
      (((Counts.none.add .entrance).add .stage).add .bar) smallPlot.temperature =
        .ok (some lottery) := by
    have hsome : (Kind.entrance.sideLottery? strip
        (((Counts.none.add .entrance).add .stage).add .bar) smallPlot.temperature).toOption.map
          Option.isSome = some true := by decide +kernel
    obtain ⟨found, hfound, hsome⟩ := Option.map_eq_some_iff.1 hsome
    obtain ⟨lottery, rfl⟩ := Option.isSome_iff_exists.1 hsome
    exact ⟨lottery, except_eq_ok_of_toOption hfound⟩
  refine ⟨w, w', { w' with
    stream := sideDraws 0, counts := ((Counts.none.add .entrance).add .stage).add .bar }, hall,
    ho, hr, rfl, rfl, (List.getElem?_eq_some_iff.1 hhall).1, ⟨hhall, ?_, ?_⟩, ?_⟩
  · rw [hfootprint, hkind, hbounds]
    refine ⟨4, 1, sideDraws 1, rfl, hwanted, rfl, lottery, hlottery, ?_⟩
    have hdraw : lottery.draw Script.source (sideDraws 1) = .ok _ (sideDraws 2) := rfl
    obtain ⟨hmem, hfits, -⟩ := Kind.mem_of_sideLottery hlottery (Lottery.mem_of_draw hdraw)
    rw [hdraw]
    revert hmem hfits
    generalize lottery.pick _ = k
    intro hmem hfits
    congr 1
    revert k
    decide
  · rw [hfootprint, ← elders_eraseIdx]
    change clearSpace _ _ _ ((w'.outlines.eraseIdx 0).map Outline.box) _ = _
    rw [hos]
    decide
  · rw [hfootprint]
    exact ⟨by decide, sideDraws 3, rfl, rfl⟩

/-- Seats are added beside the hall, in the strip below the stage. -/
theorem seats_join_hall : ∃ (w w' u v : Works Script) (hall : Room),
    Opened Script.source smallPlot w ∧ Rounds Script.source smallPlot w 2 w' ∧
    BesideHall w' u hall ∧
    Threshold hall.footprint strip .posX (wallPoint hall.footprint .posX 3) ∧
    growSide Script.source smallPlot ⟨0⟩ .posX u = .ok (some ⟨(u.rooms.size : Int)⟩) v ∧
    Annexed u v 0 .posX strip ⟨0, 5⟩ .seating (wallPoint hall.footprint .posX 3) := by
  obtain ⟨w, w', u, hall, ho, hr, h⟩ := exists_besideHall
  obtain ⟨hd, v, hrun, hannexed⟩ := (placed_rooms_join Script.lawful_source ho hr h.rooms h.walls
    h.size .posX).2.1 _ _ _ _ _ _ _ _ h.picked h.sought
  exact ⟨w, w', u, v, hall, ho, hr, h, hd, hrun, hannexed⟩

end Growth

end TavernLayout
