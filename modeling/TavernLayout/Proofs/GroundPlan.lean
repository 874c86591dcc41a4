import TavernLayout.Proofs.Growth.Bound
import TavernLayout.Proofs.Growth.Descent
import TavernLayout.Proofs.Walls.Straight

/-!
# The ground plan

A room that is added beside another one shares all layers of it, and its floor lies a staircase
deeper at most. So all rooms above ground contain the layers of the first one, and since no two of
them share a voxel, no two of them share a cell of the plan either. The mask that counts the cells
above ground therefore counts every cell of every room once.

* `Growth.borne_of_built`: the layers of two rooms with a wall between them;
* `Growth.Levels`, `Growth.levels_of_built`: the layers of all rooms of a building that grows;
* `Tavern.coveredCells_eq_card`: what the mask counts;
* `Tavern.ground_plan`: the rooms above ground of a building and of a tavern.
-/

namespace TavernLayout

variable {σ : Type} {src : Source σ} {plot : Plot} {u v w w' : Works σ} {es : List Event}

/-! ## Layers -/

/-- The second box contains all layers of the first one and begins a staircase lower at most. -/
def Box.Bears (a b : Box) : Prop :=
  b.min.z ≤ a.min.z ∧ a.max.z ≤ b.max.z ∧ a.min.z - SideRoom.longestStairs ≤ b.min.z

/-- The floor of a new room lies within reach of a staircase. -/
theorem SideRoom.le_floorLevel (parent : Box) (space : Rect) (d : Dir) (wanted : Int) :
    parent.min.z - longestStairs ≤ floorLevel parent space d wanted := by
  refine Int.le_trans ?_ (le_clamp wanted _ _)
  omega

theorem bears_of_found {i : Nat} {d : Dir} {parent : Room} {fitted room : Rect} {layers : Span}
    {k : Kind} {offset : Int}
    (hf : SideRoom.Found src plot u i d parent fitted room layers k offset) :
    parent.bounds.Bears (.ofRect room layers.lo layers.hi) := by
  obtain ⟨height, wanted, -, -, rfl⟩ := hf.storey
  have hfloor := SideRoom.le_floorLevel parent.bounds
    (SideRoom.space plot.interior parent.footprint d) d wanted
  have hstairs : SideRoom.longestStairs = 5 := rfl
  simp only [Box.Bears, SideRoom.layers, Box.ofRect, Vec2.atLevel]
  omega

/-- The room ahead of a wall bears the one behind it. -/
def Wall.Bears (wl : Wall) (boxes : List Box) : Prop :=
  ∀ i j : Nat, wl.behind = some ⟨(i : Int)⟩ → wl.ahead = some ⟨(j : Int)⟩ →
    ∃ a b, boxes[i]? = some a ∧ boxes[j]? = some b ∧ a.Bears b

namespace Growth

/-- As long as the building grows, every wall leads out of a room into one that bears it. -/
theorem borne_of_built (h : Built src plot es w) : EveryWall Wall.Bears w := by
  refine everyWall_of_built ?_ ?_ ?_ h
  · intro wl boxes more hwl i j hi hj
    obtain ⟨a, b, ha, hb, hab⟩ := hwl i j hi hj
    exact ⟨a, b, getElem?_append_of_eq_some ha _, getElem?_append_of_eq_some hb _, hab⟩
  · intro door bounds room k facing hf i j hi
    cases hi
  · intro u i d parent fitted room layers k offset hsound hf i' j hi hj
    obtain rfl : i = i' := Ref.natCast_inj.1 (Option.some.inj hi)
    obtain rfl : u.boxes.length = j := Ref.natCast_inj.1 (Option.some.inj hj)
    refine ⟨parent.bounds, .ofRect room layers.lo layers.hi, ?_, List.getElem?_concat_length,
      bears_of_found hf⟩
    apply getElem?_append_of_eq_some
    rw [Works.boxes, List.getElem?_map, hf.elder]
    rfl

theorem bears_of_grafted (h : Built src plot es w) {i j : Nat}
    (hg : Grafted w.outlines w.walls.items i j) {o p : Outline} (ho : w.outlines[i]? = some o)
    (hp : w.outlines[j]? = some p) : o.box.Bears p.box := by
  obtain ⟨-, ⟨wl, hwl, hbehind, hahead, -⟩, -⟩ := hg
  obtain ⟨a, b, ha, hb, hab⟩ := borne_of_built h wl hwl i j hbehind hahead
  rw [Works.boxes_eq_map, List.getElem?_map] at ha hb
  rw [ho] at ha
  rw [hp] at hb
  cases ha
  cases hb
  exact hab

/-! ## Rooms above ground -/

/-- Every room above ground contains the layers of the first one. -/
theorem contains_first (hs : src.Lawful) (h : Built src plot es w) :
    ∃ o, w.outlines[0]? = some o ∧ ∀ p ∈ w.outlines, p.kind ≠ .cellar →
      p.box.min.z ≤ o.box.min.z ∧ o.box.max.z ≤ p.box.max.z := by
  have hforest := forest_of_built hs h
  obtain ⟨o, ho, -⟩ := hforest.root
  refine ⟨o, ho, fun p hp => ?_⟩
  obtain ⟨j, hj⟩ := List.mem_iff_getElem?.1 hp
  clear hp
  induction j using Nat.strong_induction_on generalizing p with
  | _ j ih =>
    intro hkind
    rcases Nat.eq_zero_or_pos j with rfl | hpos
    · obtain rfl := Option.some.inj (hj.symm.trans ho)
      omega
    · obtain ⟨i, q, hij, hg, hq, hparent⟩ := hforest.parent hj hkind hpos
      have hin := ih i hij q hq hparent
      have hbears := bears_of_grafted h hg hq hj
      unfold Box.Bears at hbears
      omega

def grounded (os : List Outline) : List Outline := os.filter fun o => decide (o.kind ≠ .cellar)

theorem separate_grounded (hs : src.Lawful) (h : Built src plot es w) :
    ((grounded w.outlines).map Outline.footprint).Pairwise fun r s => ¬ r.Collides s := by
  obtain ⟨o, ho, hfirst⟩ := contains_first hs h
  have hhigh := (h.grown.sound o (List.mem_of_getElem? ho)).high
  refine separate_of_layer (z := o.box.min.z) (h.grown.pairwise_apart.filter _) fun p hp => ?_
  obtain ⟨hmem, hkind⟩ := List.mem_filter.1 hp
  have hin := hfirst p hmem (of_decide_eq_true hkind)
  unfold Outline.Around
  omega

/-- How the layers of the rooms of a building depend on each other; `es` tells which of the rooms
were dug out. -/
structure Levels (es : List Event) (w : Works σ) : Prop where
  /-- A room that was added beside another one contains the layers of that one, and its floor is at
  most the longest staircase lower. -/
  beside : ∀ (j : Nat) r, 0 < j → w.rooms.items[j]? = some r → ¬ Dug es j →
    ∃ (i : Nat) (p : Room) (wl : Wall), i < j ∧ w.rooms.items[i]? = some p ∧ wl ∈ w.walls.items ∧
      wl.behind = some ⟨(i : Int)⟩ ∧ wl.ahead = some ⟨(j : Int)⟩ ∧
      r.bottom ≤ p.bottom ∧ p.top ≤ r.top ∧ p.bottom - SideRoom.longestStairs ≤ r.bottom
  /-- A room above ground contains the layers of the first one. -/
  above : ∃ first, w.rooms.items[0]? = some first ∧
    ∀ r ∈ w.rooms.items, r.kind ≠ .cellar → r.bottom ≤ first.bottom ∧ first.top ≤ r.top
  /-- Rooms above ground have no cell of the plan in common. -/
  separate : (w.rooms.items.filter fun r => decide (r.kind ≠ .cellar)).Pairwise fun a b =>
    ¬ ∃ p, p ∈ a.footprint ∧ p ∈ b.footprint

theorem footprints_grounded (rooms : List Room) :
    (grounded (rooms.map Room.outline)).map Outline.footprint =
      (rooms.filter fun r => decide (r.kind ≠ .cellar)).map Room.footprint := by
  rw [grounded, List.filter_map, List.map_map]
  rfl

theorem levels_of_built (hs : src.Lawful) (h : Built src plot es w) : Levels es w := by
  refine ⟨fun j r hpos hr hdug => ?_, ?_, ?_⟩
  · have hlt : j < w.rooms.size := (List.getElem?_eq_some_iff.1 hr).1
    obtain ⟨i, hg⟩ := (forest_of_built hs h).grafted j hpos hlt hdug
    obtain ⟨hij, ⟨wl, hwl, hbehind, hahead, -⟩, o, -, ho, -⟩ := id hg
    obtain ⟨p, hp, rfl⟩ := Works.room_of_outlines ho
    obtain ⟨hbottom, htop, hstairs⟩ :=
      bears_of_grafted h hg (Works.getElem?_outlines hp) (Works.getElem?_outlines hr)
    exact ⟨i, p, wl, hij, hp, hwl, hbehind, hahead, hbottom, htop, hstairs⟩
  · obtain ⟨o, ho, hfirst⟩ := contains_first hs h
    obtain ⟨first, hroom, rfl⟩ := Works.room_of_outlines ho
    exact ⟨first, hroom, fun r hr hkind => hfirst r.outline (List.mem_map_of_mem hr) hkind⟩
  · have hpair := separate_grounded hs h
    rw [Works.outlines, footprints_grounded, List.pairwise_map] at hpair
    refine hpair.imp fun {a b} hab => ?_
    rintro ⟨p, ha, hb⟩
    exact hab ((Rect.collides_iff_exists_mem (.of_mem ha) (.of_mem hb)).2 ⟨p, ha, hb⟩)

end Growth

/-! ## The mask -/

theorem foldl_add_range (f : Nat → Nat) (n : Nat) :
    (List.range n).foldl (fun m i => m + f i) 0 = ∑ i ∈ Finset.range n, f i := by
  induction n with
  | zero => rfl
  | succ n ih => rw [List.range_succ, List.foldl_append, ih, Finset.sum_range_succ]; rfl

theorem countP_range (p : Nat → Bool) (n : Nat) :
    (List.range n).countP p = ∑ i ∈ Finset.range n, if p i then 1 else 0 := by
  induction n with
  | zero => rfl
  | succ n ih => rw [List.range_succ, List.countP_append, ih, Finset.sum_range_succ]; simp

namespace Tavern

open Growth

/-- The mask counts the cells of the given rectangles that lie in the space. -/
theorem coveredCells_eq_card (space : Rect) (rs : List Rect) :
    coveredCells space rs = (space.cellSet ∩ Rect.cover rs).card := by
  have hx : (space.size.x + 1).toNat = (space.max.x + 1 - space.min.x).toNat := by
    simp only [Rect.size, Vec2.x_sub]
    omega
  have hy : (space.size.y + 1).toNat = (space.max.y + 1 - space.min.y).toNat := by
    simp only [Rect.size, Vec2.y_sub]
    omega
  -- both sides are sums over the columns and over the rows of each column
  rw [← Finset.filter_mem_eq_inter, Finset.card_filter, Rect.cellSet, Finset.sum_product,
    Int.Icc_eq_finset_map, Int.Icc_eq_finset_map, Finset.sum_map, coveredCells, foldl_add_range, hx]
  refine Finset.sum_congr rfl fun i _ => ?_
  rw [countP_range, hy, Finset.sum_map]
  refine Finset.sum_congr rfl fun j _ => ?_
  congr 1
  rw [List.any_eq_true, Rect.mem_cover]
  simp only [decide_eq_true_eq, Rect.mem_cellSet]
  rfl

/-- The rooms above ground of a tavern lie in its interior and do not collide. -/
theorem groundRooms_separate {streams : Streams σ} (hs : streams.layout.Lawful)
    {terrain : Terrain} {site : SiteMap} {req : TavernRequest} {stream : Stream σ}
    {tavern : Tavern} {t : Works σ}
    (h : generate streams terrain site req { stream } = .ok tavern t) :
    (∀ r ∈ tavern.groundRooms, (interior tavern.bounds).Encloses r ∧ r.Valid) ∧
      tavern.groundRooms.Pairwise fun r s => ¬ r.Collides s := by
  obtain ⟨temperature, u, v, w, hplan, -, houtlines⟩ := planned_of_generate h
  obtain ⟨es, hb⟩ := hplan.built hs
  have hground : tavern.groundRooms = (grounded w.outlines).map Outline.footprint := by
    rw [← houtlines, footprints_grounded, groundRooms]
  rw [hground]
  refine ⟨fun r hr => ?_, ?_⟩
  · obtain ⟨o, ho, rfl⟩ := List.mem_map.1 hr
    have hsound := hplan.sound hs (List.mem_of_mem_filter ho)
    exact ⟨hsound.inside, hsound.accepted.1⟩
  · rw [hplan.outlines hs]
    exact separate_grounded hs hb

/-- In a building that grows, a room that was added beside another one contains the layers of that
one and begins a staircase lower at most; so all rooms above ground contain the layers of the first
one, and no two of them have a cell in common. In a tavern these rooms lie in the mask of its
interior, where they mark as many cells as they have together. -/
theorem ground_plan {streams : Streams σ} (hs : streams.layout.Lawful) :
    (∀ (plot : Plot) (u v : Works σ) (n : Nat), Opened streams.layout plot u →
      Rounds streams.layout plot u n v → ∃ es, v.journal = u.journal ++ es ∧ Levels es v) ∧
    ∀ (terrain : Terrain) (site : SiteMap) (req : TavernRequest) (stream : Stream σ)
      (tavern : Tavern) (t : Works σ),
      generate streams terrain site req { stream } = .ok tavern t →
      let inside := interior tavern.bounds
      let above := tavern.rooms.items.filter fun r => decide (r.kind ≠ .cellar)
      (∀ r ∈ above,
        (0 ≤ (r.footprint.min - inside.min).x ∧
          (r.footprint.max - inside.min).x < inside.size.x + 1) ∧
        (0 ≤ (r.footprint.min - inside.min).y ∧
          (r.footprint.max - inside.min).y < inside.size.y + 1)) ∧
      (coveredCells inside tavern.groundRooms : Int) =
        (above.map fun r => r.footprint.cells).sum := by
  constructor
  · intro plot u v n ho hr
    obtain ⟨es, hes, hb⟩ := built_of_rounds hs ho hr
    exact ⟨es, hes, levels_of_built hs hb⟩
  · intro terrain site req stream tavern t h inside above
    obtain ⟨hin, hpair⟩ := groundRooms_separate hs h
    have hground : tavern.groundRooms = above.map Room.footprint := rfl
    constructor
    · intro r hr
      have hr := (hin r.footprint (List.mem_map_of_mem hr)).1
      simp only [Rect.Encloses] at hr
      simp only [Rect.size, Vec2.x_sub, Vec2.y_sub, inside]
      omega
    · have hsub := Rect.cover_subset fun r hr => (hin r hr).1
      have hcard := Rect.card_cover hpair fun r hr => (hin r hr).2
      rw [coveredCells_eq_card, Finset.inter_eq_right.2 hsub, hcard, hground, List.map_map]
      rfl

/-- A building with a cellar on the small plot, and the tavern with its stage and its bar. -/
theorem ground_plan_smallPlot :
    (∃ (u v : Works Script) (es : List Event), Opened Script.source smallPlot u ∧
      Rounds Script.source smallPlot u 5 v ∧
      v.outlines.map (·.kind) = [.entrance, .bar, .seating, .cellar] ∧
      v.journal = u.journal ++ es ∧ Levels es v) ∧
    ∃ tavern t, generate (.single Script.source) smallPlot.terrain crookedSite crookedRequest
        { stream := smallScript } = .ok tavern t ∧
      (coveredCells (interior tavern.bounds) tavern.groundRooms : Int) =
        ((tavern.rooms.items.filter fun r => decide (r.kind ≠ .cellar)).map
          fun r => r.footprint.cells).sum := by
  have hs : (Streams.single Script.source).layout.Lawful := Script.lawful_source
  obtain ⟨hgrowth, hmask⟩ := ground_plan hs
  constructor
  · obtain ⟨u, v, ho, hr, hos⟩ := rounds_of_survey survey_cellar
    obtain ⟨es, hes, hlevels⟩ := hgrowth smallPlot u v 5 ho hr
    exact ⟨u, v, es, ho, hr, by rw [hos]; rfl, hes, hlevels⟩
  · obtain ⟨tavern, t, h⟩ := crookedRequest_answered
    exact ⟨tavern, t, h, (hmask _ _ _ _ tavern t h).2⟩

end Tavern

end TavernLayout
