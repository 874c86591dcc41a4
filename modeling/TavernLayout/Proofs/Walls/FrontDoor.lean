import TavernLayout.Proofs.GroundPlan
import TavernLayout.Proofs.Growth.Quotas

/-!
# The front door

The room behind the front door is moved into the plot, and the opening is moved along the front wall
so that the end posts stay free. Yet the door stands right before the room and abreast of the
opening. Nothing that is built later comes between: the plot ends on the line of the door, and a
room that reached the line of the front wall would reach into the first room.

* `Entrance.AtDoor`, `Entrance.atDoor_of_placeBeside`: where the first room is placed;
* `Entrance.Opening`, `Entrance.opening_front`: the opening of the front wall;
* `Entrance.Opening.clear`: a room that is apart from the first one stays clear of the opening;
* `Growth.later_of_rounds`: no room that is added later is an entrance hall;
* `Tavern.door_opens_into_hall`: the front door of every tavern.
-/

namespace TavernLayout

variable {σ : Type} {src : Source σ} {plot : Plot} {u v w w' : Works σ}

/-! ## Where the first room is placed -/

namespace Entrance

variable {interior room : Rect} {p q : Vec2} {d : Dir}

/-- The point lies abreast of the side `d` of the room, on the line of that side or on the next line
beyond it. -/
structure AtDoor (room : Rect) (p : Vec2) (d : Dir) : Prop where
  back : d.reach room ≤ d.sign * d.along p
  near : d.sign * d.along p ≤ d.reach room + 1
  right : d.cw.sign * d.cw.along p ≤ d.cw.reach room
  left : d.ccw.sign * d.ccw.along p ≤ d.ccw.reach room

theorem AtDoor.mem_grow (h : AtDoor room p d) (hdeep : 0 ≤ d.reach room + d.opposite.reach room) :
    p ∈ room.grow 1 := by
  obtain ⟨hback, hnear, hright, hleft⟩ := h
  rw [Rect.mem_iff_reach]
  intro e
  rw [Dir.reach_grow]
  cases d <;> cases e <;>
    simp only [Dir.sign, Dir.along, Dir.isY, Dir.opposite, Dir.cw, Dir.ccw, Bool.false_eq_true,
      if_false, if_true] at * <;> omega

/-- Wherever the door is on the edge of the interior, the first room is placed at it. -/
theorem atDoor_of_placeBeside {k : Kind} {st st' : Stream σ} (hs : src.Lawful) (hp : p ∈ interior)
    (hedge : d.sign * d.along p = d.reach interior)
    (h : placeBeside src k interior d.opposite p st = .ok (some room) st') : AtDoor room p d := by
  obtain ⟨a, b, odd, ha, hb, hodd, rfl⟩ := Placement.besides_of_placeBeside hs h
  have hside : 3 ≤ k.sides.lo := by cases k <;> decide
  rw [Span.mem_iff] at ha hb
  simp only [Placement.alongSides, Placement.acrossSides, Dir.along_opposite] at ha hb
  have hhalf : 0 ≤ b / 2 + b % 2 * odd ∧ b / 2 + b % 2 * odd ≤ b := by
    have hcases : odd = 0 ∨ odd = 1 := by omega
    rcases hcases with rfl | rfl <;> omega
  have hp := Rect.mem_iff_reach.1 hp
  obtain ⟨hback, hnear⟩ := Placement.reach_beside b (b / 2 + b % 2 * odd) hedge
    (show 1 ≤ a by omega) (by omega)
  obtain ⟨hleft, hright⟩ := Placement.across_beside a (hp d.opposite.cw) (hp d.opposite.ccw)
    (show b ≤ _ by omega) hhalf
  rw [Dir.cw_opposite] at hleft
  rw [Dir.ccw_opposite] at hright
  exact ⟨by omega, by omega, hright, hleft⟩

end Entrance

/-! ## Openings -/

namespace Entrance

variable {interior room : Rect} {p q : Vec2} {d : Dir} {layers : Span} {id : Ref .room}

/-- The opening of a front wall: it stands on the line before the room, leads into the room, and
lies abreast of the point. -/
structure Opening (room : Rect) (p : Vec2) (d : Dir) (opening : Rect) : Prop where
  line : ∀ q ∈ opening, d.sign * d.along q = d.reach room + 1
  leads : ∀ q ∈ opening, q + d.opposite.toVec2 ∈ room
  abreast : d.orthogonal.along opening.min ≤ d.orthogonal.along p ∧
    d.orthogonal.along p ≤ d.orthogonal.along opening.max

theorem along_start_front (room : Rect) (layers : Span) (id : Ref .room) (p : Vec2) (d : Dir) :
    d.sign * d.along (front room layers id p d).start = d.reach room + 1 ∧
      d.cw.sign * d.cw.along (front room layers id p d).start = d.cw.reach room + 1 := by
  cases d <;> simp [front, Dir.edgePoint, Dir.onEdge, Dir.edge, Dir.isY, Dir.cw, Dir.toVec2,
    Dir.along, Dir.sign] <;> omega

/-- The offset of the door that the point asks for. -/
theorem offset_front (layers : Span) (id : Ref .room)
    (hright : d.cw.sign * d.cw.along p ≤ d.cw.reach room) :
    ((d.cw.along (p - (front room layers id p d).start)).natAbs : Int) =
      d.cw.reach room + 1 - d.cw.sign * d.cw.along p := by
  obtain ⟨-, hstart⟩ := along_start_front room layers id p d
  rw [Dir.along_sub]
  cases d <;> simp only [Dir.cw, Dir.sign] at hright hstart ⊢ <;> omega

theorem along_post_front (layers : Span) (id : Ref .room) (p : Vec2) (d : Dir) (o : Int)
    (hwide : ∀ d : Dir, 3 ≤ d.reach room + d.opposite.reach room) :
    d.sign * d.along ((front room layers id p d).post o) = d.reach room + 1 ∧
      d.cw.sign * d.cw.along ((front room layers id p d).post o) = d.cw.reach room + 1 - o := by
  obtain ⟨h1, h2⟩ := along_start_front room layers id p d
  unfold Wall.post
  rw [(runs_front layers id p d hwide).1]
  cases d <;> simp [Dir.toVec2, Dir.ccw, Dir.cw, Dir.along, Dir.isY, Dir.sign] at h1 h2 ⊢ <;> omega

/-- An offset that leaves room for the end posts is one of the three that the door takes. -/
theorem mem_of_clamp {n hi : Int} (h1 : 1 ≤ n) (h2 : n ≤ hi + 1) :
    n ∈ (⟨clamp n 2 hi - 1, clamp n 2 hi + 1⟩ : Span) := by
  rw [Span.mem_iff]
  simp only [clamp]
  omega

/-- One of the posts that the door leaves out stands abreast of the point. -/
theorem abreast_front {door : Span} (hat : AtDoor room p d)
    (hwide : ∀ d : Dir, 3 ≤ d.reach room + d.opposite.reach room)
    (hdoor : (front room layers id p d).door = some door) :
    ∃ o ∈ door, d.orthogonal.along ((front room layers id p d).post o) = d.orthogonal.along p := by
  have hright := hat.right
  have hleft := hat.left
  have hopposite : d.ccw.sign * d.ccw.along p = -(d.cw.sign * d.cw.along p) := by
    rw [← Dir.opposite_cw, Dir.sign_opposite, Dir.along_opposite, Int.neg_mul]
  have hoffset := offset_front layers id hright
  have hside : 3 ≤ d.cw.reach room + d.ccw.reach room := by
    rw [← Dir.opposite_cw]
    exact hwide d.cw
  have hwidth := width_front layers id p d (show 0 ≤ d.cw.reach room + d.ccw.reach room by omega)
  obtain rfl := Option.some.inj hdoor
  refine ⟨((d.cw.along (p - (front room layers id p d).start)).natAbs : Int), ?_, ?_⟩
  · simp only [front] at hwidth hoffset ⊢
    rw [hwidth]
    exact mem_of_clamp (by omega) (by omega)
  · have hpost := (along_post_front layers id p d
      ((d.cw.along (p - (front room layers id p d).start)).natAbs : Int) hwide).2
    rw [hoffset] at hpost ⊢
    generalize (front room layers id p d).post _ = q at hpost ⊢
    cases d <;> simp [Dir.cw, Dir.sign, Dir.orthogonal, Dir.along, Dir.isY] at hpost ⊢ <;> omega

theorem opening_front (layers : Span) (id : Ref .room) (hat : AtDoor room p d)
    (hwide : ∀ d : Dir, 3 ≤ d.reach room + d.opposite.reach room) :
    ∃ opening, (front room layers id p d).doorRect = some opening ∧ Opening room p d opening := by
  obtain ⟨door, hdoor⟩ : ∃ door, (front room layers id p d).door = some door := ⟨_, rfl⟩
  obtain ⟨opening, hopening⟩ : ∃ r, (front room layers id p d).doorRect = some r := ⟨_, rfl⟩
  obtain ⟨⟨-, hle, -⟩, hleads⟩ := opens_front hwide hdoor
  have hmem := fun q => Wall.mem_doorRect (q := q) hdoor hopening hle
  refine ⟨opening, hopening, fun q hq => ?_, fun q hq => ?_, ?_⟩
  · obtain ⟨o, -, rfl⟩ := (hmem q).1 hq
    exact (along_post_front layers id p d o hwide).1
  · obtain ⟨o, ho, rfl⟩ := (hmem q).1 hq
    exact hleads o ho
  · obtain ⟨o, ho, habreast⟩ := abreast_front hat hwide hdoor
    rw [← habreast]
    have hpost := (hmem _).2 ⟨o, ho, rfl⟩
    rw [Rect.mem_iff] at hpost
    unfold Dir.along
    split <;> omega

/-- A room of the interior that keeps apart from the first room contains no cell of the opening, and
none of the cells outside it. -/
theorem Opening.clear {opening s : Rect} (h : Opening room p d opening) (hat : AtDoor room p d)
    (hedge : d.sign * d.along p = d.reach interior) (hin : interior.Encloses s)
    (hwide : 3 ≤ d.reach s + d.opposite.reach s) (hapart : s = room ∨ ¬ room.Collides s)
    (hq : q ∈ opening) : q ∉ s ∧ q + d.toVec2 ∉ s := by
  have hline := h.line q hq
  have hleads := h.leads q hq
  have hnear := hat.near
  have hend := Dir.encloses_iff_reach.1 hin d
  constructor
  · intro hmem
    rcases hapart with rfl | hapart
    · have hlast := Rect.mem_iff_reach.1 hmem d
      omega
    · refine hapart ((Rect.collides_iff_exists_mem (.of_mem hleads) (.of_mem hmem)).2
        ⟨q + d.opposite.toVec2, hleads, ?_⟩)
      rw [Rect.mem_iff] at hmem ⊢
      cases d <;> simp [Dir.opposite, Dir.toVec2, Dir.sign, Dir.along, Dir.isY] at * <;> omega
  · intro hmem
    have hlast := Rect.mem_iff_reach.1 hmem d
    rw [Dir.along_add, Dir.along_toVec2, Int.mul_add, Dir.sign_mul_sign] at hlast
    omega

end Entrance

/-! ## Later rooms -/

/-- No room that is added later is an entrance hall. -/
theorem Growth.later_of_rounds {n : Nat} (hs : src.Lawful) (ht : Tended u)
    (h : Rounds src plot u n v) :
    ∃ os, v.outlines = u.outlines ++ os ∧ ∀ o ∈ os, o.kind ≠ .entrance := by
  induction h with
  | zero => exact ⟨[], (List.append_nil _).symm, fun _ ho => absurd ho List.not_mem_nil⟩
  | succ hr hstep ih =>
    obtain ⟨os, hos, hnone⟩ := ih
    rcases added_of_step hs (ht.rounds hs hr) hstep with ⟨hsame, -⟩ | ⟨o, hmore, -, hkind⟩
    · exact ⟨os, hsame.trans hos, hnone⟩
    · refine ⟨os ++ [o], by rw [hmore, hos, List.append_assoc], fun o' ho' hentrance => ?_⟩
      rcases List.mem_append.1 ho' with ho' | ho'
      · exact hnone o' ho' hentrance
      · obtain rfl := List.mem_singleton.1 ho'
        rw [hentrance] at hkind
        exact Kind.not_counting_entrance _ (hkind.resolve_left (by decide))

/-! ## Taverns -/

/-- The point of the interior next to the door tile lies on the edge that the door faces. -/
theorem Tavern.doorPoint_on_edge (site : SiteMap) (req : TavernRequest) {inside : Rect}
    (hv : inside.Valid) : doorPoint site req inside ∈ inside ∧
      req.facing.sign * req.facing.along (doorPoint site req inside) =
        req.facing.reach inside := by
  refine ⟨Rect.mem_nearest hv _, ?_⟩
  simp only [Rect.Valid] at hv
  unfold doorPoint
  cases req.facing <;>
    simp [Rect.nearest, Dir.onEdge, Dir.edge, Dir.sign, Dir.along, Dir.isY] <;> omega

/-- The front door of a tavern: the room behind it, the wall before that room, and its opening. -/
structure Tavern.FrontDoor (tavern : Tavern) (facing : Dir) (hall : Room) (front : Wall)
    (opening : Rect) : Prop where
  first : tavern.rooms.items[0]? = some hall
  kind : hall.kind = .entrance ∨ hall.kind = .garden
  /-- No other room is an entrance hall. -/
  only : ∀ (j : Nat) r, 0 < j → tavern.rooms.items[j]? = some r → r.kind ≠ .entrance
  floor : hall.bottom = tavern.door.z
  beside : tavern.door.plan ∈ hall.footprint.grow 1
  wall : tavern.walls.items[0]? = some front
  behind : front.behind = none
  ahead : front.ahead = some ⟨0⟩
  toward : front.toward = facing.opposite
  opens : front.doorRect = some opening
  /-- The door stands abreast of the opening. -/
  abreast : facing.orthogonal.along opening.min ≤ facing.orthogonal.along tavern.door.plan ∧
    facing.orthogonal.along tavern.door.plan ≤ facing.orthogonal.along opening.max
  /-- No room above ground is in the way. -/
  clear : ∀ r ∈ tavern.rooms.items, r.kind ≠ .cellar → ∀ q ∈ opening,
    q ∉ r.footprint ∧ q + facing.toVec2 ∉ r.footprint

namespace Tavern

open Growth

/-- A finished plan begins with the room and the wall of the entrance. No later room above ground
collides with that room. -/
structure Planned.Begins (w : Works σ) (bounds : Box) (room : Rect) (k : Kind) (door : Vec3)
    (facing : Dir) : Prop where
  rooms : ∃ os, w.outlines = ⟨k, bounds⟩ :: os ∧
    (∀ o ∈ os, o.kind ≠ .entrance) ∧ ∀ o ∈ os, o.kind ≠ .cellar → ¬ room.Collides o.footprint
  wall : w.walls.items[0]? =
    some (Entrance.front room ⟨bounds.min.z, bounds.max.z⟩ ⟨0⟩ door.plan facing)

theorem Planned.begins {door : Vec3} {facing : Dir} {stream : Stream σ} {id : Ref .room}
    (hs : src.Lawful) (h : Planned src plot u v w)
    (hu : addEntrance src plot door facing { stream } = .ok id u) :
    ∃ bounds room k, Entrance.Drawn src plot door facing bounds room k ∧
      Planned.Begins w bounds room k door facing := by
  obtain ⟨bounds, room, k, hd, hi⟩ := drawn_of_addEntrance hs hu
  obtain ⟨n, hr⟩ := h.grown
  obtain ⟨es, hb⟩ := h.built hs
  have ht := Tended.opened hs h.opened
  obtain ⟨os, hos, hnone⟩ := later_of_rounds hs ht hr
  rw [hi.outlines, Works.outlines_addFront] at hos
  have hv : v.outlines = ⟨k, bounds⟩ :: os := hos
  refine ⟨bounds, room, k, hd, ⟨os, (h.outlines hs).trans hv, hnone, ?_⟩, ?_⟩
  · have hground : k ≠ .cellar := by
      rcases hd.kind with rfl | rfl <;> decide
    obtain ⟨height, -, hbounds⟩ := hd.storey
    have hfirst : grounded (⟨k, bounds⟩ :: os) = ⟨k, bounds⟩ :: grounded os :=
      List.filter_cons_of_pos (decide_eq_true hground)
    have hseparate := separate_grounded hs hb
    rw [hv, hfirst, List.map_cons, List.pairwise_cons] at hseparate
    intro o ho hkind
    have hapart := hseparate.1 o.footprint
      (List.mem_map_of_mem (List.mem_filter.2 ⟨ho, decide_eq_true hkind⟩))
    rw [Outline.footprint, hbounds, Box.footprint_ofRect] at hapart
    exact hapart
  · have hwalls := (walls_of_rounds hs ht hr).trans (h.closes hs).1.walls
    rw [hi.walls] at hwalls
    obtain ⟨ws, hws⟩ := hwalls
    rw [← hws]
    rfl

/-- No room above ground stands in the opening or right before it. -/
theorem Planned.Begins.clear {bounds : Box} {room opening interior : Rect} {k : Kind} {door : Vec3}
    {facing : Dir} (h : Planned.Begins w bounds room k door facing)
    (hbounds : bounds.footprint = room) (hopening : Entrance.Opening room door.plan facing opening)
    (hat : Entrance.AtDoor room door.plan facing)
    (hedge : facing.sign * facing.along door.plan = facing.reach interior) {o : Outline}
    (ho : o ∈ w.outlines) (hsound : o.Sound interior) (hkind : o.kind ≠ .cellar) {q : Vec2}
    (hq : q ∈ opening) : q ∉ o.footprint ∧ q + facing.toVec2 ∉ o.footprint := by
  obtain ⟨⟨os, hos, -, hapart⟩, -⟩ := h
  refine hopening.clear hat hedge hsound.inside (hsound.accepted.three_le facing) ?_ hq
  rw [hos] at ho
  rcases List.mem_cons.1 ho with rfl | ho
  · exact .inl hbounds
  · exact .inr (hapart o ho hkind)

theorem Planned.frontDoor {tavern : Tavern} {door : Vec3} {facing : Dir} {stream : Stream σ}
    {id : Ref .room} (hs : src.Lawful) (h : Planned src plot u v w)
    (hu : addEntrance src plot door facing { stream } = .ok id u)
    (hrooms : tavern.rooms.items.map Room.outline = w.outlines)
    (hwalls : tavern.walls.items = w.walls.items) (hdoor : tavern.door = door)
    (hmem : door.plan ∈ plot.interior)
    (hedge : facing.sign * facing.along door.plan = facing.reach plot.interior) :
    ∃ hall front opening, tavern.FrontDoor facing hall front opening := by
  obtain ⟨bounds, room, k, hd, hbegins⟩ := h.begins hs hu
  obtain ⟨height, -, rfl⟩ := hd.storey
  obtain ⟨st, st', hplace⟩ := hd.placed
  have hwide := hd.accepted.three_le
  have hat := Entrance.atDoor_of_placeBeside hs hmem hedge hplace
  obtain ⟨opening, hopening, hfront⟩ :=
    Entrance.opening_front ⟨door.z, door.z + height⟩ ⟨0⟩ hat hwide
  obtain ⟨os, hos, hnone, -⟩ := hbegins.rooms
  obtain ⟨hall, rest, hitems, hhall, hrest⟩ := List.map_eq_cons_iff.1 (hrooms.trans hos)
  obtain ⟨rfl, hbounds⟩ := Outline.mk.inj hhall
  have hfootprint : hall.footprint = room := by
    rw [Room.footprint, hbounds, Box.footprint_ofRect]
  refine ⟨hall, Entrance.front room ⟨door.z, door.z + height⟩ ⟨0⟩ door.plan facing, opening, ?_⟩
  exact {
    first := by rw [hitems]; rfl
    kind := hd.kind.symm
    only := by
      intro j r hj hr
      obtain ⟨j, rfl⟩ := Nat.exists_eq_succ_of_ne_zero (Nat.pos_iff_ne_zero.1 hj)
      rw [hitems, List.getElem?_cons_succ] at hr
      refine hnone r.outline ?_
      rw [← hrest]
      exact List.mem_map_of_mem (List.mem_of_getElem? hr)
    floor := by
      rw [Room.bottom, hbounds, hdoor]
      rfl
    beside := by
      rw [hfootprint, hdoor]
      exact hat.mem_grow (by have h := hwide facing; omega)
    wall := by
      rw [hwalls]
      exact hbegins.wall
    behind := rfl
    ahead := rfl
    toward := rfl
    opens := hopening
    abreast := by
      rw [hdoor]
      exact hfront.abreast
    clear := by
      intro r hr hkind q hq
      have ho : r.outline ∈ w.outlines := by
        rw [← hrooms]
        exact List.mem_map_of_mem hr
      exact hbegins.clear (Box.footprint_ofRect ..) hfront hat hedge ho (h.sound hs ho) hkind hq }

/-- The front door of every tavern leads into its first room, and no room above ground is in the
way. -/
theorem door_opens_into_hall {streams : Streams σ} (hs : streams.layout.Lawful)
    {terrain : Terrain} {site : SiteMap} {req : TavernRequest} {stream : Stream σ}
    {tavern : Tavern} {t : Works σ}
    (h : generate streams terrain site req { stream } = .ok tavern t) :
    ∃ hall front opening, tavern.FrontDoor req.facing hall front opening := by
  obtain ⟨stream', temperature, level, roofs, works, -, hvalid, -, -, hlay, heq⟩ := generate_cases h
  obtain ⟨id, u, v, w, hopen, hplan, hsame⟩ := planned_of_layOut hlay
  obtain ⟨hmem, hedge⟩ := doorPoint_on_edge site req hvalid
  refine hplan.frontDoor hs hopen ?_ ?_ ?_ hmem hedge
  · rw [heq]
    exact hsame.outlines
  · rw [heq]
    show works.walls.items = w.walls.items
    rw [hsame.walls]
  · rw [heq]

/-- The crooked tavern has its door in the middle of the lower edge of the plot. -/
theorem door_of_crookedRequest : ∃ tavern t, generate (.single Script.source) smallPlot.terrain
    crookedSite crookedRequest { stream := smallScript } = .ok tavern t ∧
      ∃ hall front opening, tavern.FrontDoor .negY hall front opening := by
  have hs : (Streams.single Script.source).layout.Lawful := Script.lawful_source
  obtain ⟨tavern, t, h⟩ := crookedRequest_answered
  exact ⟨tavern, t, h, door_opens_into_hall hs h⟩

end Tavern

end TavernLayout
