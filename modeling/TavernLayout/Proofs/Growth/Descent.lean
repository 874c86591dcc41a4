import Mathlib.Logic.Relation
import TavernLayout.Proofs.Growth.Separation
import TavernLayout.Proofs.Walls.Hanging

/-!
# How rooms are connected

Rooms form a forest. A room that was added beside another one is reached from it through a door, and
was built later; a room that was dug out lies under a bar. So every room above ground is connected
to the first one by walls with doors, and every cellar to one that was dug out.

* `Grafted`, `Buried`: a room behind a door, and a cellar under a bar;
* `buried_of_found`: a room that was dug out stays under its bar;
* `Forest`, `forest_of_built`: every room of a building is one of these;
* `walls_le_one`: no side has a second wall;
* `Linked`, `rooms_connected`: what this makes of a building that grows.
-/

namespace TavernLayout

variable {σ : Type} {src : Source σ} {plot : Plot} {u v w w' : Works σ} {es fs : List Event}

/-! ## Two ways to add a room -/

/-- A wall with a door leads out of room `i` into the later room `j`; both are cellars or neither
is. -/
def Grafted (os : List Outline) (walls : List Wall) (i j : Nat) : Prop :=
  i < j ∧ (∃ wl ∈ walls, wl.behind = some ⟨(i : Int)⟩ ∧ wl.ahead = some ⟨(j : Int)⟩ ∧
    wl.door.isSome = true) ∧
  ∃ o p, os[i]? = some o ∧ os[j]? = some p ∧ (o.kind = .cellar ↔ p.kind = .cellar)

/-- Room `j` is a cellar two layers under the bar `i`. -/
def Buried (os : List Outline) (i j : Nat) : Prop :=
  ∃ o p, os[i]? = some o ∧ os[j]? = some p ∧ o.kind = .bar ∧ p.kind = .cellar ∧
    p.footprint.Collides o.footprint ∧ p.box.max.z = o.box.min.z - 2

theorem Grafted.append {os os' : List Outline} {walls walls' : List Wall} {i j : Nat}
    (h : Grafted os walls i j) : Grafted (os ++ os') (walls ++ walls') i j := by
  obtain ⟨hlt, ⟨wl, hwl, hjoin⟩, o, p, ho, hp, hkind⟩ := h
  exact ⟨hlt, ⟨wl, List.mem_append_left _ hwl, hjoin⟩, o, p, getElem?_append_of_eq_some ho _,
    getElem?_append_of_eq_some hp _, hkind⟩

theorem Buried.append {os os' : List Outline} {i j : Nat} (h : Buried os i j) :
    Buried (os ++ os') i j := by
  obtain ⟨o, p, ho, hp, hrest⟩ := h
  exact ⟨o, p, getElem?_append_of_eq_some ho _, getElem?_append_of_eq_some hp _, hrest⟩

theorem Works.getElem?_outlines {i : Nat} {r : Room} (h : w.rooms.items[i]? = some r) :
    w.outlines[i]? = some r.outline := by
  rw [Works.outlines, List.getElem?_map, h]
  rfl

/-- The space that is left for a basement contains all of the room above but a rim of two cells. -/
theorem Basement.encloses_rim_of_keepsTo {interior parent fitted : Rect}
    (h : Clearance.KeepsTo (Way.under.limits interior parent) fitted) :
    fitted.Encloses (parent.grow (-2)) := by
  rw [Dir.encloses_iff_reach]
  intro d
  have hlimit := h d.opposite _ (by rw [Way.limits, Basement.limits, DirMap.get_ofFn])
  rw [Dir.sign_mul_edge_opposite, Dir.opposite_opposite] at hlimit
  exact Int.neg_le_neg_iff.1 hlimit

/-- A room that is put into the space that is left for a basement lies under the room above. -/
theorem buried_of_found {i : Nat} {parent : Room} {fitted room : Rect} {layers : Span} {k : Kind}
    (hs : src.Lawful) (hsound : ∀ o ∈ u.outlines, o.Sound plot.interior)
    (hf : Basement.Found src plot u i parent fitted room layers k) :
    Buried (u.outlines ++ [⟨k, .ofRect room layers.lo layers.hi⟩]) i u.rooms.size := by
  have hset := hf.settled
  have hparent := hsound _ (List.mem_of_getElem? hset.elder)
  obtain ⟨-, -, hkeeps, -⟩ := hset.cleared_ok hsound
  obtain ⟨hbar, rfl⟩ := Kind.mem_basementKinds.1 hf.drawn
  have hrim := Basement.encloses_rim_of_keepsTo hkeeps
  have hwide : ∀ d : Dir, 4 ≤ d.reach parent.footprint + d.opposite.reach parent.footprint := by
    intro d
    have haccepted : Kind.bar.Accepts parent.footprint := hbar ▸ hparent.accepted
    exact Int.le_trans (by decide) (Placement.side_le_of_accepts haccepted d)
  obtain ⟨st, st', hplace⟩ := hf.placed
  obtain ⟨a, b, e, orth, ha, hb, horth, hroom⟩ := Placement.underneath_of_placeUnder hs hplace
  have hunder : room.Collides parent.footprint := by
    have hx : 6 ≤ a := ha.1
    have hy : max 6 (35 / a) ≤ b := hb.1
    rw [hroom]
    refine Placement.collides_underneath horth hwide hrim ?_ ?_
    · show 2 ≤ a
      omega
    · show 2 ≤ b
      omega
  obtain ⟨height, -, hlayers⟩ := hf.storey
  refine ⟨parent.outline, ⟨.cellar, .ofRect room layers.lo layers.hi⟩,
    getElem?_append_of_eq_some (Works.getElem?_outlines hf.elder) _, ?_, hbar, rfl, hunder, ?_⟩
  · rw [← u.length_outlines]
    exact List.getElem?_concat_length
  · rw [hlayers]
    rfl

/-! ## The forest -/

def Dug (es : List Event) (j : Nat) : Prop := ∃ e ∈ es, ∃ parent, e.Tells ⟨(j : Int)⟩ parent

/-- The first room is no cellar. Every other room was dug out under a bar or is grafted onto an
older room, and a wall leads into it in the second case only. -/
structure Forest (es : List Event) (w : Works σ) : Prop where
  root : ∃ o, w.outlines[0]? = some o ∧ o.kind ≠ .cellar
  dug : ∀ e ∈ es, ∀ room parent, e.Tells room parent → ∃ i j : Nat, room = ⟨(j : Int)⟩ ∧
    parent = ⟨(i : Int)⟩ ∧ 0 < j ∧ Buried w.outlines i j ∧
    ∀ wl ∈ w.walls.items, wl.ahead ≠ some ⟨(j : Int)⟩
  grafted : ∀ j, 0 < j → j < w.rooms.size → ¬ Dug es j →
    ∃ i, Grafted w.outlines w.walls.items i j
  once : ∀ (k l : Nat) wl wl', w.walls.items[k]? = some wl → w.walls.items[l]? = some wl' →
    ∀ a, wl.ahead = some a → wl'.ahead = some a → k = l

theorem Dug.append {j : Nat} (h : Dug es j) : Dug (es ++ fs) j := by
  obtain ⟨e, he, h⟩ := h
  exact ⟨e, List.mem_append_left _ he, h⟩

theorem Forest.of_same (h : Forest es u) (hquiet : ∀ e ∈ fs, e.Quiet) (hr : v.rooms = u.rooms)
    (hw : v.walls = u.walls) : Forest (es ++ fs) v := by
  have ho : v.outlines = u.outlines := by rw [Works.outlines, hr, Works.outlines]
  obtain ⟨h1, h2, h3, h4⟩ := h
  constructor
  · rw [ho]
    exact h1
  · intro e he room parent ht
    rw [ho, hw]
    rcases List.mem_append.1 he with he | he
    · exact h2 e he room parent ht
    · exact absurd ht (hquiet e he room parent)
  · intro j hj hlt hno
    rw [ho, hw]
    rw [hr] at hlt
    exact h3 j hj hlt fun hd => hno hd.append
  · rw [hw]
    exact h4

theorem lt_or_eq_of_outlines {p : Outline} {j : Nat} (hout : v.outlines = u.outlines ++ [p])
    (hlt : j < v.rooms.size) : j < u.rooms.size ∨ j = u.rooms.size := by
  rw [← v.length_outlines, hout, List.length_append, u.length_outlines, List.length_singleton]
    at hlt
  omega

/-- A room that is grafted onto an older one. -/
theorem Forest.graft (h : Forest es u) (hf : Founded u) (hquiet : ∀ e ∈ fs, e.Quiet)
    {i : Nat} {o p : Outline} {wl : Wall} (hout : v.outlines = u.outlines ++ [p])
    (hwalls : v.walls.items = u.walls.items ++ [wl]) (ho : u.outlines[i]? = some o)
    (hkind : o.kind = .cellar ↔ p.kind = .cellar) (hbehind : wl.behind = some ⟨(i : Int)⟩)
    (hahead : wl.ahead = some ⟨(u.rooms.size : Int)⟩) (hdoor : wl.door.isSome = true) :
    Forest (es ++ fs) v := by
  have hi : i < u.rooms.size := by
    rw [← u.length_outlines]
    exact (List.getElem?_eq_some_iff.1 ho).1
  have hnew : ∀ wl' ∈ u.walls.items, wl'.ahead ≠ some ⟨(u.rooms.size : Int)⟩ := fun wl' hwl' ha =>
    hf.not_mem hwl' (Wall.mem_neighbours.2 (.inr ha))
  constructor
  · obtain ⟨q, hq, hroot⟩ := h.root
    exact ⟨q, by rw [hout]; exact getElem?_append_of_eq_some hq _, hroot⟩
  · intro e he room parent ht
    rcases List.mem_append.1 he with he | he
    · obtain ⟨m, n, hroom, hparent, hpos, hb, hno⟩ := h.dug e he room parent ht
      refine ⟨m, n, hroom, hparent, hpos, by rw [hout]; exact hb.append, fun wl' hwl' => ?_⟩
      rw [hwalls] at hwl'
      rcases List.mem_append.1 hwl' with hwl' | hwl'
      · exact hno wl' hwl'
      · obtain rfl := List.mem_singleton.1 hwl'
        obtain ⟨-, q, -, hq, -⟩ := hb
        have hlt := (List.getElem?_eq_some_iff.1 hq).1
        rw [u.length_outlines] at hlt
        rw [hahead, ne_eq, Option.some.injEq, Ref.mk.injEq]
        omega
    · exact absurd ht (hquiet e he room parent)
  · intro j hj hlt hno
    rw [hout, hwalls]
    rcases lt_or_eq_of_outlines hout hlt with hold | rfl
    · obtain ⟨m, hm⟩ := h.grafted j hj hold fun hd => hno hd.append
      exact ⟨m, hm.append⟩
    · refine ⟨i, hi, ⟨wl, List.mem_append_right _ (List.mem_singleton.2 rfl), hbehind, hahead,
        hdoor⟩, o, p, getElem?_append_of_eq_some ho _, ?_, hkind⟩
      rw [← u.length_outlines]
      exact List.getElem?_concat_length
  · intro k l wl1 wl2 hk hl a h1 h2
    rw [hwalls] at hk hl
    rcases getElem?_append_singleton hk with ⟨-, hold⟩ | ⟨rfl, rfl⟩ <;>
      rcases getElem?_append_singleton hl with ⟨-, hold'⟩ | ⟨rfl, rfl⟩
    · exact h.once k l wl1 wl2 hold hold' a h1 h2
    · rw [hahead] at h2
      exact absurd (h1.trans h2.symm) (hnew wl1 (List.mem_of_getElem? hold))
    · rw [hahead] at h1
      exact absurd (h2.trans h1.symm) (hnew wl2 (List.mem_of_getElem? hold'))
    · rfl

/-- A room that is dug out under a bar. -/
theorem Forest.bury (h : Forest es u) (hf : Founded u) {i : Nat} {p : Outline} {l : Kind}
    (hout : v.outlines = u.outlines ++ [p]) (hwalls : v.walls = u.walls)
    (hpos : 0 < u.rooms.size) (hb : Buried (u.outlines ++ [p]) i u.rooms.size) :
    Forest (es ++ [.dug ⟨(u.rooms.size : Int)⟩ ⟨(i : Int)⟩ l]) v := by
  constructor
  · obtain ⟨q, hq, hroot⟩ := h.root
    exact ⟨q, by rw [hout]; exact getElem?_append_of_eq_some hq _, hroot⟩
  · intro e he room parent ht
    rw [hwalls]
    rcases List.mem_append.1 he with he | he
    · obtain ⟨m, n, hroom, hparent, hpos', hb', hno⟩ := h.dug e he room parent ht
      exact ⟨m, n, hroom, hparent, hpos', by rw [hout]; exact hb'.append, hno⟩
    · obtain rfl := List.mem_singleton.1 he
      obtain ⟨k, hk⟩ := ht
      cases hk
      refine ⟨i, u.rooms.size, rfl, rfl, hpos, by rw [hout]; exact hb, fun wl hwl ha => ?_⟩
      exact hf.not_mem hwl (Wall.mem_neighbours.2 (.inr ha))
  · intro j hj hlt hno
    rw [hout, hwalls, ← List.append_nil u.walls.items]
    rcases lt_or_eq_of_outlines hout hlt with hold | rfl
    · obtain ⟨m, hm⟩ := h.grafted j hj hold fun hd => hno hd.append
      exact ⟨m, hm.append⟩
    · exact absurd ⟨_, List.mem_append_right _ (List.mem_singleton.2 rfl), _, l, rfl⟩ hno
  · rw [hwalls]
    exact h.once

namespace Growth

theorem forest_of_built (hs : src.Lawful) (h : Built src plot es w) : Forest es w := by
  induction h with
  | @front u v door bounds room k facing hr hw hf hi =>
    have hout : v.outlines = [⟨k, bounds⟩] := by
      rw [hi.outlines, Works.outlines_addFront, Works.outlines, hr]
      rfl
    have hwalls : v.walls.items.length = 1 := by
      rw [hi.walls]
      simp [Works.addFront, hw, Store.empty]
    have hroot : k ≠ .cellar := by
      rcases hf.kind with rfl | rfl <;> decide
    constructor
    · exact ⟨⟨k, bounds⟩, by rw [hout]; rfl, hroot⟩
    · intro e he
      cases he
    · intro j hj hlt
      rw [← v.length_outlines, hout, List.length_singleton] at hlt
      omega
    · intro k l wl wl' hk hl a _ _
      have h1 := (List.getElem?_eq_some_iff.1 hk).1
      have h2 := (List.getElem?_eq_some_iff.1 hl).1
      omega
  | idle _ hquiet hr hw ih => exact ih.of_same hquiet hr hw
  | @beside es fs u v i d parent fitted room layers k offset hb hquiet hf _ hr hw ih =>
    refine ih.graft (p := ⟨k, .ofRect room layers.lo layers.hi⟩) (consistent_of_built hb).2 hquiet
      ?_ (by rw [hw]; rfl) (Works.getElem?_outlines hf.elder) (Kind.mem_sideKinds hf.drawn).symm
      rfl rfl rfl
    rw [Works.outlines, hr, ← Works.outlines, Works.outlines_addBeside]
  | @under es u v i parent fitted room layers k l hb hf hr hw ih =>
    refine ih.bury (consistent_of_built hb).2 ?_ hw ?_ (buried_of_found hs hb.grown.sound hf)
    · rw [Works.outlines, hr, ← Works.outlines, Works.outlines_addUnder]
    · exact Nat.lt_of_le_of_lt (Nat.zero_le _) (List.getElem?_eq_some_iff.1 hf.elder).1

/-- No side of a room has a second wall. -/
theorem walls_le_one (h : Built src plot es w) : ∀ r ∈ w.rooms.items, ∀ d,
    (r.walls.get d).length ≤ 1 := by
  have hone : ∀ {r : Room} {id : Ref .wall} {d : Dir}, r.walls.get d = [] →
      (∀ e, (r.walls.get e).length ≤ 1) → ∀ e, ((r.addWall d id).walls.get e).length ≤ 1 := by
    intro r id d hfree hr e
    by_cases he : e = d
    · subst he
      rw [Room.get_addWall_self, hfree]
      exact Nat.le_refl _
    · rw [Room.get_addWall_of_ne he]
      exact hr e
  have hnone : ∀ (bounds : Box) (k : Kind) (e : Dir),
      (({ bounds, kind := k } : Room).walls.get e).length ≤ 1 := by
    intro bounds k e
    rw [walls_get_of_mk]
    exact Nat.zero_le _
  induction h with
  | @front u v door bounds room k facing hr hw hf hi =>
    intro r hmem
    rw [hi.rooms] at hmem
    simp only [Works.addFront, hr, Store.empty, List.nil_append, List.mem_singleton] at hmem
    rw [hmem]
    exact hone (walls_get_of_mk _ _ _) (hnone _ _)
  | idle _ _ hr hw ih =>
    rw [hr]
    exact ih
  | @beside es fs u v i d parent fitted room layers k offset _ _ hf hfree hr hw ih =>
    intro r hmem
    rw [hr] at hmem
    obtain ⟨j, hj⟩ := List.mem_iff_getElem?.1 hmem
    rcases Works.getElem?_addBeside hj with ⟨-, r0, hr0, rfl⟩ | ⟨-, rfl⟩
    · have hold := ih r0 (List.mem_of_getElem? hr0)
      split
      · next hij =>
        subst hij
        obtain rfl : parent = r0 := Option.some.inj (hf.elder.symm.trans hr0)
        exact hone hfree hold
      · exact hold
    · exact hone (walls_get_of_mk _ _ _) (hnone _ _)
  | @under es u v i parent fitted room layers k l _ hf hr hw ih =>
    intro r hmem
    rw [hr] at hmem
    obtain ⟨j, hj⟩ := List.mem_iff_getElem?.1 hmem
    rcases Works.getElem?_addUnder hj with ⟨-, hr0⟩ | ⟨-, rfl⟩
    · exact ih r (List.mem_of_getElem? hr0)
    · exact hnone _ _

end Growth

/-! ## Ways through doors -/

def Doorway (w : Works σ) (a b : Ref .room) : Prop :=
  ∃ wl ∈ w.walls.items, wl.door.isSome = true ∧ wl.Joins a b

/-- There is a way through doors from one room to the other. -/
def Connected (w : Works σ) : Ref .room → Ref .room → Prop := Relation.ReflTransGen (Doorway w)

theorem Grafted.doorway {i j : Nat} (h : Grafted w.outlines w.walls.items i j) :
    Doorway w ⟨(j : Int)⟩ ⟨(i : Int)⟩ := by
  obtain ⟨-, ⟨wl, hwl, hbehind, hahead, hdoor⟩, -⟩ := h
  exact ⟨wl, hwl, hdoor, .inr ⟨hbehind, hahead⟩⟩

/-- A later room that is no cellar is grafted onto an older one that is none. -/
theorem Forest.parent (h : Forest es w) {j : Nat} {o : Outline} (ho : w.outlines[j]? = some o)
    (hkind : o.kind ≠ .cellar) (hpos : 0 < j) :
    ∃ i p, i < j ∧ Grafted w.outlines w.walls.items i j ∧ w.outlines[i]? = some p ∧
      p.kind ≠ .cellar := by
  have hno : ¬ Dug es j := by
    rintro ⟨e, he, parent, ht⟩
    obtain ⟨m, n, hroom, -, -, ⟨p, q, -, hq, -, hcellar, -⟩, -⟩ := h.dug e he _ _ ht
    obtain rfl : j = n := Ref.natCast_inj.1 hroom
    obtain rfl := Option.some.inj (ho.symm.trans hq)
    exact hkind hcellar
  have hlt : j < w.rooms.size := by
    rw [← w.length_outlines]
    exact (List.getElem?_eq_some_iff.1 ho).1
  obtain ⟨i, hg⟩ := h.grafted j hpos hlt hno
  obtain ⟨hij, -, p, q, hp, hq, hiff⟩ := id hg
  obtain rfl := Option.some.inj (ho.symm.trans hq)
  exact ⟨i, p, hij, hg, hp, fun hc => hkind (hiff.1 hc)⟩

/-- Every room but the cellars is connected to the first one. -/
theorem Forest.connected_root (h : Forest es w) (j : Nat) {o : Outline}
    (ho : w.outlines[j]? = some o) (hkind : o.kind ≠ .cellar) :
    Connected w ⟨(j : Int)⟩ ⟨0⟩ := by
  induction j using Nat.strong_induction_on generalizing o with
  | _ j ih =>
    rcases Nat.eq_zero_or_pos j with rfl | hpos
    · exact .refl
    · obtain ⟨i, p, hij, hg, hp, hparent⟩ := h.parent ho hkind hpos
      exact .head hg.doorway (ih i hij hp hparent)

/-- Every cellar is connected to one that was dug out. -/
theorem Forest.connected_dug (h : Forest es w) (j : Nat) {o : Outline}
    (ho : w.outlines[j]? = some o) (hkind : o.kind = .cellar) :
    ∃ c, Dug es c ∧ Connected w ⟨(j : Int)⟩ ⟨(c : Int)⟩ := by
  induction j using Nat.strong_induction_on generalizing o with
  | _ j ih =>
    by_cases hd : Dug es j
    · exact ⟨j, hd, .refl⟩
    · have hpos : 0 < j := by
        rcases Nat.eq_zero_or_pos j with rfl | hpos
        · obtain ⟨p, hp, hroot⟩ := h.root
          obtain rfl := Option.some.inj (ho.symm.trans hp)
          exact absurd hkind hroot
        · exact hpos
      have hlt : j < w.rooms.size := by
        rw [← w.length_outlines]
        exact (List.getElem?_eq_some_iff.1 ho).1
      obtain ⟨i, hg⟩ := h.grafted j hpos hlt hd
      obtain ⟨hij, -, p, q, hp, hq, hiff⟩ := id hg
      obtain rfl := Option.some.inj (ho.symm.trans hq)
      obtain ⟨c, hc, hway⟩ := ih i hij hp (hiff.2 hkind)
      exact ⟨c, hc, .head hg.doorway hway⟩

theorem Works.room_of_outlines {j : Nat} {o : Outline} (h : w.outlines[j]? = some o) :
    ∃ r, w.rooms.items[j]? = some r ∧ r.outline = o := by
  rwa [Works.outlines, List.getElem?_map, Option.map_eq_some_iff] at h

/-- How the rooms of a building are linked; `es` tells which of them were dug out. -/
structure Linked (es : List Event) (w : Works σ) : Prop where
  /-- Exactly one wall leads into a room that is neither the first nor dug out. It has a door, and
  it leads out of an older room. -/
  entered : ∀ j, 0 < j → j < w.rooms.size → ¬ Dug es j →
    ∃ (k : Nat) (wl : Wall) (i : Nat), w.walls.items[k]? = some wl ∧
      wl.ahead = some ⟨(j : Int)⟩ ∧ wl.door.isSome = true ∧ i < j ∧
      wl.behind = some ⟨(i : Int)⟩ ∧
      ∀ (l : Nat) wl', w.walls.items[l]? = some wl' → wl'.ahead = some ⟨(j : Int)⟩ → l = k
  single : ∀ r ∈ w.rooms.items, ∀ d, (r.walls.get d).length ≤ 1
  above : ∀ (j : Nat) (r : Room), w.rooms.items[j]? = some r → r.kind ≠ .cellar →
    Connected w ⟨(j : Int)⟩ ⟨0⟩
  /-- A room that was dug out is a cellar under a bar, two layers below its floor. -/
  dug : ∀ e ∈ es, ∀ room parent, e.Tells room parent → ∃ cellar bar,
    w.rooms.lookup room = .ok cellar ∧ cellar.kind = .cellar ∧
    w.rooms.lookup parent = .ok bar ∧ bar.kind = .bar ∧
    cellar.footprint.Collides bar.footprint ∧ cellar.top = bar.bottom - 2
  below : ∀ (j : Nat) (r : Room), w.rooms.items[j]? = some r → r.kind = .cellar →
    ∃ c, Dug es c ∧ Connected w ⟨(j : Int)⟩ ⟨(c : Int)⟩

namespace Growth

/-- Every room above ground is connected to the first one, and every cellar to one that lies under
its bar, by walls with doors that lead from older rooms into later ones. -/
theorem rooms_connected {n : Nat} (hs : src.Lawful) (ho : Opened src plot w)
    (h : Rounds src plot w n w') : ∃ es, w'.journal = w.journal ++ es ∧ Linked es w' := by
  obtain ⟨es, hes, hb⟩ := built_of_rounds hs ho h
  have hf := forest_of_built hs hb
  refine ⟨es, hes, ?_, walls_le_one hb, fun j r hr hkind => ?_, fun e he room parent ht => ?_,
    fun j r hr hkind => hf.connected_dug j (Works.getElem?_outlines hr) hkind⟩
  · intro j hpos hlt hno
    obtain ⟨i, hij, ⟨wl, hwl, hbehind, hahead, hdoor⟩, -⟩ := hf.grafted j hpos hlt hno
    obtain ⟨k, hk⟩ := List.mem_iff_getElem?.1 hwl
    exact ⟨k, wl, i, hk, hahead, hdoor, hij, hbehind,
      fun l wl' hl hahead' => hf.once l k wl' wl hl hk _ hahead' hahead⟩
  · exact hf.connected_root j (Works.getElem?_outlines hr) hkind
  · obtain ⟨i, j, rfl, rfl, -, ⟨o, p, hbar, hcellar, hbk, hck, hunder, hlayers⟩, -⟩ :=
      hf.dug e he room parent ht
    obtain ⟨b, hb, rfl⟩ := Works.room_of_outlines hbar
    obtain ⟨c, hc, rfl⟩ := Works.room_of_outlines hcellar
    exact ⟨c, b, Store.lookup_natCast_iff.2 hc, hck, Store.lookup_natCast_iff.2 hb, hbk, hunder,
      hlayers⟩

/-- Another building on the small plot: a bar beside the hall, seats beyond it, and a cellar. -/
theorem survey_cellar :
    survey Script.source smallPlot ⟨15, 0, 0⟩ .negY
        { state := { values := #[10, 5, 5, 10, 14] } } 5 =
      some [⟨.entrance, ⟨12, 1, 0⟩, ⟨18, 4, 4⟩⟩, ⟨.bar, ⟨0, 0, 0⟩, ⟨10, 14, 6⟩⟩,
        ⟨.seating, ⟨0, 16, 0⟩, ⟨19, 20, 6⟩⟩, ⟨.cellar, ⟨0, 8, -6⟩, ⟨11, 14, -2⟩⟩] := by
  decide +kernel

theorem rooms_of_smallPlot_connected : ∃ (w w' : Works Script) (es : List Event),
    Opened Script.source smallPlot w ∧ Rounds Script.source smallPlot w 5 w' ∧
    w'.outlines.map (·.kind) = [.entrance, .bar, .seating, .cellar] ∧
    w'.journal = w.journal ++ es ∧ Linked es w' := by
  obtain ⟨w, w', ho, hr, hos⟩ := rounds_of_survey survey_cellar
  obtain ⟨es, hes, hlinked⟩ := rooms_connected Script.lawful_source ho hr
  exact ⟨w, w', es, ho, hr, by rw [hos]; rfl, hes, hlinked⟩

end Growth

end TavernLayout
