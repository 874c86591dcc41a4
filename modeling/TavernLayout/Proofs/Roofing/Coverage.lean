import TavernLayout.Proofs.Roofing.Canopy
import TavernLayout.Proofs.Roofing.Shapes
import TavernLayout.Random.Script

/-!
# Roofs and rooms

Every room ends up under a roof that covers all of it: a room that an older roof covers in part only
gets one of its own when it has its turn. Rooms and roofs name each other. A roof lies one
layer above the rooms under it and one layer below those that stand on it, and which rooms there are
decides its style. Every room that could stand on a roof does.

* `Raises`: one more roof, and the links to it;
* `Roofed`, `Roofed.raise`: what is true of roofs and links, and stays true with each new roof;
* `Borne`, `Borne.raise`: a room one layer above a roof that it meets has it as a floor;
* `Sheltered`, `Keeps`: a room that is covered stays covered;
* `ends_turn`, `roofRooms_cons`: the turn of one room, and of one room after the other;
* `building_roofed`: every building can be roofed.
-/

namespace TavernLayout

def Room.bare (r : Room) : Room := { r with roofs := [], floors := [] }

/-- What does not look at links is the same for rooms that differ in links only. -/
theorem Room.eq_of_bare {β : Type} {g : Room → β} (hg : ∀ r : Room, g r.bare = g r) {r s : Room}
    (h : r.bare = s.bare) : g r = g s := by
  rw [← hg, h, hg]

namespace Roofing

variable {σ : Type} {src : Source σ} {u v w : Works σ} {roofs roofs' : Store .roof Roof}
  {limit : Int} {P : Fault → Prop}

/-! ## Links -/

/-- The rooms that are named are changed, and no others. -/
theorem ends_link (f : Room → Room) {ids : List (Ref .room)} (hn : ids.Nodup)
    (hids : ∀ id ∈ ids, id ∈ w.rooms.refs) :
    Ends (fun _ t => t.walls = w.walls ∧ t.rooms.refs = w.rooms.refs ∧
        ∀ j : Nat, t.rooms.items[j]? =
          (w.rooms.items[j]?).map fun r => if ids.contains ⟨(j : Int)⟩ then f r else r) P
      (link f ids) w := by
  induction ids generalizing w with
  | nil => exact .pure ⟨rfl, rfl, fun j => by simp⟩
  | cons id ids ih =>
    obtain ⟨hnew, hrest⟩ := List.nodup_cons.1 hn
    obtain ⟨i, rfl, hi⟩ := Store.mem_refs (hids id List.mem_cons_self)
    refine .bind_of_ok (Build.faultsIn_changeRoom hi) fun _ t h => ?_
    obtain rfl := (Build.changeRoom_eq_ok_iff hi).1 h
    have hrefs : ({ w.rooms with items := w.rooms.items.modify i f } : Store .room Room).refs =
        w.rooms.refs := by
      rw [Store.refs, Store.refs, Store.size, List.length_modify, Store.size]
    refine (ih hrest fun id hid => ?_).mono fun _ t ht =>
      ⟨ht.1, ht.2.1.trans hrefs, fun j => ?_⟩
    · exact hrefs ▸ hids id (List.mem_cons_of_mem _ hid)
    · rw [ht.2.2 j, List.getElem?_modify, Option.map_eq_map, Option.map_map]
      congr 1
      funext r
      by_cases hij : i = j
      · subst hij
        simp [hnew]
      · have hne : ¬ (⟨(j : Int)⟩ : Ref .room) = ⟨(i : Int)⟩ := by
          rw [Ref.mk.injEq]
          omega
        simp [hij, hne]

def linked (ref : Ref .roof) (covered above : List (Ref .room)) (id : Ref .room) (r : Room) :
    Room :=
  let r := if covered.contains id then r.addRoof ref else r
  if above.contains id then r.addFloor ref else r

theorem bare_linked (ref : Ref .roof) (covered above : List (Ref .room)) (id : Ref .room)
    (r : Room) : (linked ref covered above id r).bare = r.bare := by
  unfold linked
  dsimp only
  split <;> split <;> rfl

theorem mem_roofs_linked {ref id' : Ref .roof} {covered above : List (Ref .room)} {id : Ref .room}
    {r : Room} : id' ∈ (linked ref covered above id r).roofs ↔
      id' ∈ r.roofs ∨ id ∈ covered ∧ id' = ref := by
  unfold linked
  dsimp only
  split <;> split <;> simp_all [Room.addRoof, Room.addFloor]

theorem mem_floors_linked {ref id' : Ref .roof} {covered above : List (Ref .room)} {id : Ref .room}
    {r : Room} : id' ∈ (linked ref covered above id r).floors ↔
      id' ∈ r.floors ∨ id ∈ above ∧ id' = ref := by
  unfold linked
  dsimp only
  split <;> split <;> simp_all [Room.addRoof, Room.addFloor]

/-! ## One more roof -/

/-- One more roof is over the rooms `covered` and under the rooms `above`. -/
structure Raises (w : Works σ) (roofs : Store .roof Roof) (t : Works σ) (roofs' : Store .roof Roof)
    (covered above : List (Ref .room)) (roof : Roof) : Prop where
  walls : t.walls = w.walls
  added : roofs' = { roofs with items := roofs.items ++ [roof] }
  rooms : ∀ j : Nat, t.rooms.items[j]? =
    (w.rooms.items[j]?).map (linked ⟨(roofs.size : Int)⟩ covered above ⟨(j : Int)⟩)

/-- What is true of roofs and of their links to rooms throughout. -/
structure Roofed (w : Works σ) (roofs : Store .roof Roof) : Prop where
  /-- A roof lies one layer above a room under it; bars lie over gardens. -/
  overhead : ∀ r ∈ w.rooms.items, ∀ id ∈ r.roofs, roofs.Names
    (fun roof => roof.base = r.top + 1 ∧ ∀ d, roof.style = .bars d → r.kind = .garden) id
  /-- A roof lies one layer below a room that stands on it. -/
  underfoot : ∀ r ∈ w.rooms.items, ∀ id ∈ r.floors,
    roofs.Names (fun roof => roof.base = r.bottom - 1) id
  floor_iff : ∀ (k : Nat) roof, roofs.items[k]? = some roof →
    (roof.style = .floor ↔ ∃ r ∈ w.rooms.items, ⟨(k : Int)⟩ ∈ r.floors)
  stairs : ∀ roof ∈ roofs.items, roof.stairs ≠ none → roof.style = .floor

/-- Every room one layer above a roof that its footprint meets has the roof as a floor. -/
def Borne (w : Works σ) (roofs : Store .roof Roof) : Prop :=
  ∀ (k : Nat) roof, roofs.items[k]? = some roof → ∀ r ∈ w.rooms.items,
    r.bottom - 1 = roof.base → r.footprint.Collides roof.bounds → ⟨(k : Int)⟩ ∈ r.floors

theorem borne_empty (w : Works σ) : Borne w .empty := by
  intro k roof hk
  cases hk

/-- One of the roofs over the room covers it. -/
def Sheltered (roofs : Store .roof Roof) (r : Room) : Prop :=
  ∃ (k : Nat) (roof : Roof), ⟨(k : Int)⟩ ∈ r.roofs ∧ roofs.items[k]? = some roof ∧
    roof.bounds.Encloses r.footprint

/-- What roofing the rooms leaves alone: everything but links, which are only added. -/
structure Keeps (w : Works σ) (roofs : Store .roof Roof) (t : Works σ)
    (roofs' : Store .roof Roof) : Prop where
  walls : t.walls = w.walls
  rooms : t.rooms.items.map Room.bare = w.rooms.items.map Room.bare
  sheltered : ∀ (j : Nat) r, w.rooms.items[j]? = some r → Sheltered roofs r →
    ∃ r', t.rooms.items[j]? = some r' ∧ Sheltered roofs' r'

theorem Keeps.refl (w : Works σ) (roofs : Store .roof Roof) : Keeps w roofs w roofs :=
  ⟨rfl, rfl, fun _ r hr hs => ⟨r, hr, hs⟩⟩

theorem Keeps.refs (h : Keeps w roofs v roofs') : v.rooms.refs = w.rooms.refs := by
  have hlen := congrArg List.length h.rooms
  rw [List.length_map, List.length_map] at hlen
  rw [Store.refs, Store.size, hlen, Store.refs, Store.size]

theorem Keeps.trans {roofs'' : Store .roof Roof} (h1 : Keeps u roofs v roofs')
    (h2 : Keeps v roofs' w roofs'') : Keeps u roofs w roofs'' := by
  refine ⟨h2.walls.trans h1.walls, h2.rooms.trans h1.rooms, fun j r hr hs => ?_⟩
  obtain ⟨r', hr', hs'⟩ := h1.sheltered j r hr hs
  exact h2.sheltered j r' hr' hs'

section Raising

variable {covered above : List (Ref .room)} {roof : Roof}

theorem Raises.earlier (h : Raises w roofs v roofs' covered above roof) {j : Nat} {r : Room}
    (hr : v.rooms.items[j]? = some r) : ∃ r0, w.rooms.items[j]? = some r0 ∧ r.bare = r0.bare ∧
      (∀ id ∈ r.roofs, id ∈ r0.roofs ∨ ⟨(j : Int)⟩ ∈ covered ∧ id = ⟨(roofs.size : Int)⟩) ∧
      ∀ id ∈ r.floors, id ∈ r0.floors ∨ ⟨(j : Int)⟩ ∈ above ∧ id = ⟨(roofs.size : Int)⟩ := by
  rw [h.rooms, Option.map_eq_some_iff] at hr
  obtain ⟨r0, hr0, rfl⟩ := hr
  exact ⟨r0, hr0, bare_linked .., fun _ => mem_roofs_linked.1, fun _ => mem_floors_linked.1⟩

theorem Raises.later (h : Raises w roofs v roofs' covered above roof) {j : Nat} {r0 : Room}
    (hr : w.rooms.items[j]? = some r0) : ∃ r, v.rooms.items[j]? = some r ∧ r.bare = r0.bare ∧
      (∀ id, id ∈ r0.roofs ∨ ⟨(j : Int)⟩ ∈ covered ∧ id = ⟨(roofs.size : Int)⟩ → id ∈ r.roofs) ∧
      ∀ id, id ∈ r0.floors ∨ ⟨(j : Int)⟩ ∈ above ∧ id = ⟨(roofs.size : Int)⟩ → id ∈ r.floors :=
  ⟨_, by rw [h.rooms, hr]; rfl, bare_linked .., fun _ => mem_roofs_linked.2,
    fun _ => mem_floors_linked.2⟩

theorem Raises.getElem?_roofs (h : Raises w roofs v roofs' covered above roof) :
    roofs'.items[roofs.size]? = some roof := by
  rw [h.added]
  exact List.getElem?_concat_length

theorem Raises.kept (h : Raises w roofs v roofs' covered above roof) {k : Nat} {old : Roof}
    (hk : roofs.items[k]? = some old) : roofs'.items[k]? = some old := by
  rw [h.added]
  exact (List.getElem?_append_left (List.getElem?_eq_some_iff.1 hk).1).trans hk

theorem Raises.keeps (h : Raises w roofs v roofs' covered above roof) :
    Keeps w roofs v roofs' := by
  refine ⟨h.walls, ?_, fun j r hr hs => ?_⟩
  · apply List.ext_getElem?
    intro j
    rw [List.getElem?_map, List.getElem?_map, h.rooms, Option.map_map]
    congr 1
    funext r
    exact bare_linked _ _ _ _ _
  · obtain ⟨k, old, hk, hold, henc⟩ := hs
    obtain ⟨r', hr', hbare, hroofs, -⟩ := h.later hr
    refine ⟨r', hr', k, old, hroofs _ (.inl hk), h.kept hold, ?_⟩
    rwa [Room.eq_of_bare (g := Room.footprint) (fun _ => rfl) hbare]

theorem Raises.exists_floor_iff (h : Raises w roofs v roofs' covered above roof)
    (ha : ∀ id ∈ above, id ∈ w.rooms.refs) {ref : Ref .roof} :
    (∃ r ∈ v.rooms.items, ref ∈ r.floors) ↔
      (∃ r ∈ w.rooms.items, ref ∈ r.floors) ∨ ref = ⟨(roofs.size : Int)⟩ ∧ above ≠ [] := by
  constructor
  · rintro ⟨r, hmem, href⟩
    obtain ⟨j, hj⟩ := List.mem_iff_getElem?.1 hmem
    obtain ⟨r0, hr0, -, -, hfloors⟩ := h.earlier hj
    rcases hfloors ref href with hold | ⟨habove, hself⟩
    · exact .inl ⟨r0, List.mem_of_getElem? hr0, hold⟩
    · exact .inr ⟨hself, List.ne_nil_of_mem habove⟩
  · rintro (⟨r0, hmem, href⟩ | ⟨rfl, habove⟩)
    · obtain ⟨j, hj⟩ := List.mem_iff_getElem?.1 hmem
      obtain ⟨r, hr, -, -, hfloors⟩ := h.later hj
      exact ⟨r, List.mem_of_getElem? hr, hfloors ref (.inl href)⟩
    · obtain ⟨id, hid⟩ := List.exists_mem_of_ne_nil _ habove
      obtain ⟨j, rfl, hlt⟩ := Store.mem_refs (ha id hid)
      obtain ⟨r, hr, -, -, hfloors⟩ := h.later (List.getElem?_eq_getElem hlt)
      exact ⟨r, List.mem_of_getElem? hr, hfloors _ (.inr ⟨hid, rfl⟩)⟩

/-- A new roof is over the rooms under it and under those that stand on it, as its style says. -/
theorem Roofed.raise (h : Roofed w roofs) (hr : Raises w roofs v roofs' covered above roof)
    {bounds : Rect} {base : Int} (hd : Drawn w.rooms covered above bounds base roof)
    (hc : ∀ id ∈ covered, w.rooms.Names (fun r => r.top + 1 = base) id)
    (ha : ∀ id ∈ above, w.rooms.Names (fun r => r.bottom - 1 = base) id) : Roofed v roofs' := by
  constructor
  · intro r hmem id hid
    obtain ⟨j, hj⟩ := List.mem_iff_getElem?.1 hmem
    obtain ⟨r0, hr0, hbare, hroofs, -⟩ := hr.earlier hj
    rw [Room.eq_of_bare (g := Room.top) (fun _ => rfl) hbare,
      Room.eq_of_bare (g := Room.kind) (fun _ => rfl) hbare]
    rcases hroofs id hid with hold | ⟨hcov, rfl⟩
    · obtain ⟨k, old, rfl, hk, hold⟩ := h.overhead r0 (List.mem_of_getElem? hr0) id hold
      exact ⟨k, old, rfl, hr.kept hk, hold⟩
    · obtain ⟨s, hs, hbase⟩ := Store.names_iff.1 (hc _ hcov)
      obtain rfl := Option.some.inj (hr0.symm.trans hs)
      exact ⟨_, roof, rfl, hr.getElem?_roofs, hd.base.trans hbase.symm, fun d hbars =>
        hd.allowed.bars d hbars _ hcov r0 (Store.lookup_natCast_iff.2 hr0)⟩
  · intro r hmem id hid
    obtain ⟨j, hj⟩ := List.mem_iff_getElem?.1 hmem
    obtain ⟨r0, hr0, hbare, -, hfloors⟩ := hr.earlier hj
    rw [Room.eq_of_bare (g := Room.bottom) (fun _ => rfl) hbare]
    rcases hfloors id hid with hold | ⟨hab, rfl⟩
    · obtain ⟨k, old, rfl, hk, hold⟩ := h.underfoot r0 (List.mem_of_getElem? hr0) id hold
      exact ⟨k, old, rfl, hr.kept hk, hold⟩
    · obtain ⟨s, hs, hbase⟩ := Store.names_iff.1 (ha _ hab)
      obtain rfl := Option.some.inj (hr0.symm.trans hs)
      exact ⟨_, roof, rfl, hr.getElem?_roofs, hd.base.trans hbase.symm⟩
  · intro k new hk
    rw [hr.exists_floor_iff fun id hid => (ha id hid).mem_refs]
    rw [hr.added] at hk
    rcases getElem?_append_singleton hk with ⟨hlt, hk⟩ | ⟨rfl, rfl⟩
    · rw [← h.floor_iff k new hk]
      refine ⟨.inl, fun hor => hor.resolve_right fun hself => ?_⟩
      have := Ref.natCast_inj.1 hself.1
      exact absurd this (Nat.ne_of_lt hlt)
    · rw [hd.allowed.floor_iff]
      refine ⟨fun habove => .inr ⟨rfl, habove⟩, fun hor => (hor.resolve_left ?_).2⟩
      rintro ⟨r, hmem, hid⟩
      have hissued := (h.underfoot r hmem _ hid).mem_refs
      exact absurd (Store.mem_refs_iff.1 hissued) (Nat.lt_irrefl _)
  · intro new hmem hstairs
    rw [hr.added] at hmem
    rcases List.mem_append.1 hmem with hold | hnew
    · exact h.stairs new hold hstairs
    · obtain rfl := List.mem_singleton.1 hnew
      exact hd.allowed.floor_iff.2 (hd.stairs hstairs)

/-- The rooms that stand on a new roof are linked to it. -/
theorem Borne.raise (h : Borne w roofs) (hr : Raises w roofs v roofs' covered above roof)
    (ha : ∀ (j : Nat) r, w.rooms.items[j]? = some r → r.bottom - 1 = roof.base →
      r.footprint.Collides roof.bounds → ⟨(j : Int)⟩ ∈ above) : Borne v roofs' := by
  intro k old hk r hmem hbase hmeets
  obtain ⟨j, hj⟩ := List.mem_iff_getElem?.1 hmem
  obtain ⟨r0, hr0, hbare, -, -⟩ := hr.earlier hj
  obtain ⟨r', hr', -, -, hfloors⟩ := hr.later hr0
  obtain rfl := Option.some.inj (hj.symm.trans hr')
  rw [Room.eq_of_bare (g := Room.bottom) (fun _ => rfl) hbare] at hbase
  rw [Room.eq_of_bare (g := Room.footprint) (fun _ => rfl) hbare] at hmeets
  rw [hr.added] at hk
  rcases getElem?_append_singleton hk with ⟨-, hk⟩ | ⟨rfl, rfl⟩
  · exact hfloors _ (.inl (h k old hk r0 (List.mem_of_getElem? hr0) hbase hmeets))
  · exact hfloors _ (.inr ⟨ha j r0 hr0 hbase hmeets, rfl⟩)

end Raising

/-! ## Roofing one room -/

/-- Rooms that can be roofed: none is crossed, none reaches too far, and their walls are there. -/
structure Fit (limit : Int) (w : Works σ) : Prop where
  within : ∀ r ∈ w.rooms.items, Within limit r
  surrounded : Surrounded w.rooms w.walls

theorem Keeps.earlier (h : Keeps w roofs v roofs') {r : Room} (hr : r ∈ v.rooms.items) :
    ∃ r0 ∈ w.rooms.items, r.bare = r0.bare := by
  have hmem := List.mem_map_of_mem (f := Room.bare) hr
  rw [h.rooms, List.mem_map] at hmem
  obtain ⟨r0, hr0, heq⟩ := hmem
  exact ⟨r0, hr0, heq.symm⟩

theorem Keeps.fit (h : Keeps w roofs v roofs') (hf : Fit limit w) : Fit limit v := by
  constructor
  · intro r hr
    obtain ⟨r0, hr0, hbare⟩ := h.earlier hr
    unfold Within
    rw [Room.eq_of_bare (g := Room.footprint) (fun _ => rfl) hbare]
    exact hf.within r0 hr0
  · intro r hr
    obtain ⟨r0, hr0, hbare⟩ := h.earlier hr
    rw [h.walls, Room.eq_of_bare (g := Room.wallRefs) (fun _ => rfl) hbare]
    exact hf.surrounded r0 hr0

/-- A roof over a room has sides that can be compared. -/
theorem moderate_of_encloses {r : Room} {bounds : Rect} (hlimit : limit ≤ 2 ^ 60)
    (hr : Within limit r) (h : bounds.Encloses (r.footprint.grow overhang))
    (hreach : ∀ d : Dir, d.reach bounds ≤ limit) : bounds.size.Moderate := by
  rw [Dir.encloses_iff_reach] at h
  have hvalid := Dir.valid_iff_reach.1 hr.1
  have hover : overhang = 2 := rfl
  simp only [Dir.forall_iff, Dir.reach_grow, Dir.opposite, Dir.reach_posX, Dir.reach_posY,
    Dir.reach_negX, Dir.reach_negY] at h hreach hvalid
  have hx : bounds.size.x = bounds.max.x - bounds.min.x := rfl
  have hy : bounds.size.y = bounds.max.y - bounds.min.y := rfl
  unfold Vec2.Moderate
  omega

theorem names_of_standingOn {rooms : Store .room Room} {bounds : Rect} {base : Int}
    {id : Ref .room} (h : id ∈ standingOn rooms bounds base) :
    rooms.Names (fun r => r.bottom - 1 = base) id := by
  obtain ⟨⟨id', r⟩, he, rfl⟩ := List.mem_map.1 h
  obtain ⟨hmem, hon⟩ := List.mem_filter.1 he
  obtain ⟨i, rfl, hr⟩ := Store.mem_entries hmem
  rw [decide_eq_true_eq] at hon
  exact ⟨i, r, rfl, hr, hon.1⟩

theorem mem_standingOn {rooms : Store .room Room} {bounds : Rect} {base : Int} {j : Nat} {r : Room}
    (hr : rooms.items[j]? = some r) (hbase : r.bottom - 1 = base)
    (hmeets : r.footprint.Collides bounds) : ⟨(j : Int)⟩ ∈ standingOn rooms bounds base :=
  List.mem_map.2 ⟨(_, r), List.mem_filter.2 ⟨Store.mem_entries_of_getElem? hr,
    decide_eq_true ⟨hbase, hmeets⟩⟩, rfl⟩

theorem nodup_standingOn (rooms : Store .room Room) (bounds : Rect) (base : Int) :
    (standingOn rooms bounds base).Nodup := by
  have hfst : rooms.entries.map (·.1) = rooms.refs :=
    List.map_fst_zip (by rw [Store.refs, List.length_map, List.length_range, Store.size])
  exact List.Nodup.sublist (List.Sublist.map _ List.filter_sublist) (hfst ▸ rooms.nodup_refs)

/-- The links to a new roof. -/
theorem ends_links {covered above : List (Ref .room)} (roof : Roof) (e : Event)
    (hc : covered.Nodup) (ha : above.Nodup) (hcr : ∀ id ∈ covered, id ∈ w.rooms.refs)
    (har : ∀ id ∈ above, id ∈ w.rooms.refs) :
    Ends (fun roofs' t => Raises w roofs t roofs' covered above roof) P
      (do
        link (·.addRoof ⟨(roofs.size : Int)⟩) covered
        link (·.addFloor ⟨(roofs.size : Int)⟩) above
        Build.note e
        return { roofs with items := roofs.items ++ [roof] }) w := by
  refine (ends_link _ hc hcr).bind fun _ w1 h1 => ?_
  refine (ends_link _ ha fun id hid => h1.2.1 ▸ har id hid).bind fun _ w2 h2 => ?_
  refine .bind_of_ok (Build.faultsIn_note e) fun _ w3 h3 => .pure ?_
  have hidle := Build.idle_of_note h3
  refine ⟨hidle.walls.trans (h2.1.trans h1.1), rfl, fun j => ?_⟩
  rw [hidle.rooms, h2.2.2, h1.2.2, Option.map_map]
  rfl

/-- What the turn of a room leaves: the room is covered. -/
structure Turned (w : Works σ) (roofs : Store .roof Roof) (i : Nat) (t : Works σ)
    (roofs' : Store .roof Roof) : Prop where
  frozen : roofs'.frozen = false
  roofed : Roofed t roofs'
  borne : Borne t roofs'
  keeps : Keeps w roofs t roofs'
  sheltered : ∃ r, t.rooms.items[i]? = some r ∧ Sheltered roofs' r

/-- Only a roof with sides too long to compare may come to a fault. -/
theorem ends_drawRoof_of_limit {r : Room} {covered above : List (Ref .room)} {bounds : Rect}
    {base : Int} (hf : Fit limit w) (hlimit : limit ≤ 2 ^ 60 ∨ ∀ e, P e)
    (hc : w.rooms.Resolves covered) (ha : w.rooms.Resolves above) (hr : r ∈ w.rooms.items)
    (henc : bounds.Encloses (r.footprint.grow overhang))
    (hreach : ∀ d : Dir, d.reach bounds ≤ limit) (st : Stream σ) :
    Ends (fun roof _ => Drawn w.rooms covered above bounds base roof) P
      (drawRoof src w.rooms w.walls covered above bounds base) st := by
  rcases hlimit with hlimit | hall
  · have hsize := moderate_of_encloses hlimit (hf.within r hr) henc hreach
    exact .of_safe (ends_drawRoof hf.surrounded hc ha hsize st)
  · exact ⟨fun rf st' h => drawn_of_drawRoof hc h, fun e _ _ => hall e⟩

theorem ends_roofRoom (hs : src.Lawful) (hf : Fit limit w) (hlimit : limit ≤ 2 ^ 60 ∨ ∀ e, P e)
    (hopen : roofs.frozen = false) (hroofed : Roofed w roofs) (hborne : Borne w roofs) {i : Nat}
    {r : Room} (hr : w.rooms.items[i]? = some r) :
    Ends (fun roofs' t => Turned w roofs i t roofs') P (roofRoom src ⟨(i : Int)⟩ r roofs) w := by
  have hresolves : ∀ r ∈ w.rooms.items, roofs.Resolves r.roofs := fun s hs =>
    Store.resolves_of_names (hroofed.overhead s hs)
  unfold roofRoom
  refine .bind_get ?_
  refine (Build.ends_draw (.of_safe (ends_merge hs hresolves hf.within hr w.stream))).bind ?_
  rintro ⟨bounds, covered⟩ w1 ⟨hidle1, -, henc, hreach, hnodup, hself, hbeneath⟩
  have habove : ∀ id ∈ standingOn w.rooms bounds (r.top + 1),
      w.rooms.Names (fun s => s.bottom - 1 = r.top + 1) id := fun _ => names_of_standingOn
  refine (Build.ends_draw (ends_drawRoof_of_limit hf hlimit (Store.resolves_of_names hbeneath)
    (Store.resolves_of_names habove) (List.mem_of_getElem? hr) henc hreach w1.stream)).bind ?_
  rintro roof w2 ⟨hidle2, -, hdrawn⟩
  have hinsert : roofs.insert roof = .ok (⟨(roofs.size : Int)⟩,
      { roofs with items := roofs.items ++ [roof] }) :=
    Store.insert_eq_ok_iff.2 ⟨hopen, rfl, rfl⟩
  refine .bind_lift (by simp [hinsert]) fun result hresult => ?_
  obtain rfl := Except.ok.inj (hinsert.symm.trans hresult)
  have hrooms : w2.rooms = w.rooms := hidle2.rooms.trans hidle1.rooms
  refine (ends_links roof _ hnodup (nodup_standingOn _ _ _)
    (fun id hid => hrooms ▸ (hbeneath id hid).mem_refs)
    (fun id hid => hrooms ▸ (habove id hid).mem_refs)).mono fun roofs' t hraise => ?_
  have hraise : Raises w roofs t roofs' covered (standingOn w.rooms bounds (r.top + 1)) roof :=
    ⟨hraise.walls.trans (hidle2.walls.trans hidle1.walls), hraise.added,
      fun j => (hraise.rooms j).trans (by rw [hrooms])⟩
  have hstands : ∀ (j : Nat) s, w.rooms.items[j]? = some s → s.bottom - 1 = roof.base →
      s.footprint.Collides roof.bounds →
        ⟨(j : Int)⟩ ∈ standingOn w.rooms bounds (r.top + 1) := by
    rw [hdrawn.bounds, hdrawn.base]
    exact fun j s => mem_standingOn
  refine ⟨by rw [hraise.added]; exact hopen, hroofed.raise hraise hdrawn hbeneath habove,
    hborne.raise hraise hstands, hraise.keeps, ?_⟩
  obtain ⟨r', hr', hbare, hroofs, -⟩ := hraise.later hr
  refine ⟨r', hr', _, roof, hroofs _ (.inr ⟨hself, rfl⟩), hraise.getElem?_roofs, ?_⟩
  rw [hdrawn.bounds, Room.eq_of_bare (g := Room.footprint) (fun _ => rfl) hbare]
  exact henc.trans (Rect.grow_encloses (by decide))

/-! ## Roofing all rooms -/

theorem sheltered_iff {P : Roof → Prop} {r : Room} (hr : ∀ id ∈ r.roofs, roofs.Names P id) :
    r.coveredBy roofs = .ok true ↔ Sheltered roofs r := by
  rw [Room.coveredBy_iff (Store.resolves_of_names hr)]
  constructor
  · rintro ⟨id, hid, roof, hroof, henc⟩
    obtain ⟨k, roof', rfl, hk, -⟩ := hr id hid
    obtain rfl := Except.ok.inj (hroof.symm.trans (Store.lookup_natCast_iff.2 hk))
    exact ⟨k, roof, hid, hk, henc⟩
  · rintro ⟨k, roof, hid, hk, henc⟩
    exact ⟨_, hid, roof, Store.lookup_natCast_iff.2 hk, henc⟩

def turn (src : Source σ) (id : Ref .room) (roofs : Store .roof Roof) :
    Build σ (Store .roof Roof) := do
  let room ← Build.room id
  if ← room.coveredBy roofs then return roofs else roofRoom src id room roofs

theorem roofRooms_cons (id : Ref .room) (ids : List (Ref .room)) :
    roofRooms src (id :: ids) roofs = turn src id roofs >>= roofRooms src ids := by
  rw [roofRooms, turn, bind_assoc]
  congr 1
  funext room
  rw [bind_assoc]
  congr 1
  funext b
  cases b with
  | true => exact (pure_bind roofs _).symm
  | false => rfl

theorem ends_turn (hs : src.Lawful) (hf : Fit limit w) (hlimit : limit ≤ 2 ^ 60 ∨ ∀ e, P e)
    (hopen : roofs.frozen = false) (hroofed : Roofed w roofs) (hborne : Borne w roofs) {i : Nat}
    (hi : i < w.rooms.size) :
    Ends (fun roofs' t => Turned w roofs i t roofs') P (turn src ⟨(i : Int)⟩ roofs) w := by
  obtain ⟨r, hr⟩ : ∃ r, w.rooms.items[i]? = some r := ⟨_, List.getElem?_eq_getElem hi⟩
  have hnamed := hroofed.overhead r (List.mem_of_getElem? hr)
  unfold turn
  refine (Build.ends_room hr).bind ?_
  rintro r w1 ⟨rfl, rfl⟩
  obtain ⟨b, hb⟩ := Room.coveredBy_ok (Store.resolves_of_names hnamed)
  refine .bind_lift (by simp [hb]) fun b' hb' => ?_
  cases b' with
  | true =>
    exact .pure ⟨hopen, hroofed, hborne, .refl w roofs, r, hr, (sheltered_iff hnamed).1 hb'⟩
  | false => exact ends_roofRoom hs hf hlimit hopen hroofed hborne hr

/-- A room that has had its turn is covered, and stays so. -/
theorem ends_roofRooms (hs : src.Lawful) (hlimit : limit ≤ 2 ^ 60 ∨ ∀ e, P e)
    {ids : List (Ref .room)} (hf : Fit limit w) (hids : ∀ id ∈ ids, id ∈ w.rooms.refs)
    (hopen : roofs.frozen = false) (hroofed : Roofed w roofs) (hborne : Borne w roofs) :
    Ends (fun roofs' t => Roofed t roofs' ∧ Borne t roofs' ∧ Keeps w roofs t roofs' ∧
        ∀ i : Nat, ⟨(i : Int)⟩ ∈ ids → ∃ r, t.rooms.items[i]? = some r ∧ Sheltered roofs' r)
      P (roofRooms src ids roofs) w := by
  induction ids generalizing w roofs with
  | nil => exact .pure ⟨hroofed, hborne, .refl w roofs, fun i hi => by cases hi⟩
  | cons id ids ih =>
    obtain ⟨i, rfl, hi⟩ := Store.mem_refs (hids id List.mem_cons_self)
    rw [roofRooms_cons]
    refine (ends_turn hs hf hlimit hopen hroofed hborne hi).bind fun roofs1 w1 h1 => ?_
    have hrefs : ∀ id ∈ ids, id ∈ w1.rooms.refs := fun id hid =>
      h1.keeps.refs ▸ hids id (List.mem_cons_of_mem _ hid)
    refine (ih (h1.keeps.fit hf) hrefs h1.frozen h1.roofed h1.borne).mono ?_
    rintro roofs2 w2 ⟨hroofed2, hborne2, hkeeps2, hall2⟩
    refine ⟨hroofed2, hborne2, h1.keeps.trans hkeeps2, fun j hj => ?_⟩
    rcases List.mem_cons.1 hj with hj | hj
    · obtain rfl : j = i := Ref.natCast_inj.1 hj
      obtain ⟨r', hr', hshelter⟩ := h1.sheltered
      exact hkeeps2.sheltered j r' hr' hshelter
    · exact hall2 j hj

structure Roofless (w : Works σ) : Prop where
  valid : ∀ r ∈ w.rooms.items, r.footprint.Valid
  near : ∀ r ∈ w.rooms.items, ∀ d : Dir, (d.edge r.footprint).natAbs < 2 ^ 53
  bare : ∀ r ∈ w.rooms.items, r.roofs = [] ∧ r.floors = []
  surrounded : ∀ r ∈ w.rooms.items, ∀ id ∈ r.wallRefs, ∃ wl, w.walls.lookup id = .ok wl

/-- Roofing a building that can be roofed comes to an end. It changes nothing but the links of
rooms, puts every room under a roof that covers all of it, and leaves roofs and links that agree. -/
theorem building_roofed (hs : src.Lawful) (hw : Roofless w) :
    ∃ roofs w', roofBuilding src w = .ok roofs w' ∧ w'.walls = w.walls ∧
      w'.rooms.items.map Room.bare = w.rooms.items.map Room.bare ∧
      (∀ r ∈ w'.rooms.items, Sheltered roofs r) ∧ Roofed w' roofs := by
  obtain ⟨limit, hlimit⟩ : ∃ n : Int, n = 2 ^ 53 + 1 := ⟨_, rfl⟩
  have hfit : Fit limit w := by
    refine ⟨fun r hr => ⟨hw.valid r hr, fun d => ?_⟩, hw.surrounded⟩
    have hnear := hw.near r hr d
    have hover : overhang = 2 := rfl
    unfold Dir.reach
    cases d <;> simp only [Dir.sign] <;> omega
  have hroofed : Roofed w .empty := by
    refine ⟨fun r hr id hid => ?_, fun r hr id hid => ?_, fun k roof hk => ?_, fun roof hroof => ?_⟩
    · rw [(hw.bare r hr).1] at hid
      cases hid
    · rw [(hw.bare r hr).2] at hid
      cases hid
    · cases hk
    · cases hroof
  have hends : Ends (fun roofs t => Roofed t roofs ∧ Keeps w .empty t roofs ∧
      ∀ i : Nat, ⟨(i : Int)⟩ ∈ w.rooms.refs → ∃ r, t.rooms.items[i]? = some r ∧ Sheltered roofs r)
      (fun _ => False) (roofBuilding src) w := by
    unfold roofBuilding
    refine .bind_get ((ends_roofRooms hs (.inl (by omega)) hfit (fun _ => id) rfl hroofed
      (borne_empty w)).mono ?_)
    rintro roofs t ⟨hroofed', -, hkeeps, hall⟩
    exact ⟨hroofed', hkeeps, hall⟩
  obtain ⟨roofs, w', hrun, hroofed', hkeeps, hall⟩ := hends.exists_ok
  refine ⟨roofs, w', hrun, hkeeps.walls, hkeeps.rooms, fun r hr => ?_, hroofed'⟩
  obtain ⟨i, hi⟩ := List.mem_iff_getElem?.1 hr
  have hmem : ⟨(i : Int)⟩ ∈ w.rooms.refs :=
    hkeeps.refs ▸ Store.mem_refs_iff.2 (List.getElem?_eq_some_iff.1 hi).1
  obtain ⟨r', hr', hshelter⟩ := hall i hmem
  obtain rfl := Option.some.inj (hi.symm.trans hr')
  exact hshelter

/-- A room with a door that stands on another one, and a garden beside them. -/
def stackedRooms : Works Script where
  stream := { state := { values := #[2, 7, 1] } }
  rooms := { items := [
    { bounds := ⟨⟨0, 0, 0⟩, ⟨9, 9, 4⟩⟩, kind := .bar },
    { bounds := ⟨⟨1, 2, 6⟩, ⟨9, 9, 10⟩⟩, kind := .seating,
      walls := { posX := [], posY := [], negX := [⟨0⟩], negY := [] } },
    { bounds := ⟨⟨11, 0, 0⟩, ⟨20, 6, 4⟩⟩, kind := .garden }] }
  walls := { items := [
    { start := ⟨0, 1⟩, stop := ⟨0, 10⟩, base := 6, top := 10, behind := none,
      ahead := some ⟨1⟩, toward := .posX, door := some ⟨3, 4⟩ }] }

theorem stackedRooms_roofed : ∃ roofs w', roofBuilding Script.source stackedRooms = .ok roofs w' ∧
    w'.rooms.size = 3 ∧ (∀ r ∈ w'.rooms.items, Sheltered roofs r) ∧ Roofed w' roofs := by
  have hw : Roofless stackedRooms := by
    refine ⟨by decide, ?_, by decide, ?_⟩
    · intro r hr d
      cases d <;> revert r <;> decide
    · intro r hr id hid
      have hzero : id = ⟨0⟩ := by
        revert id
        revert r
        decide
      rw [hzero]
      exact ⟨_, rfl⟩
  obtain ⟨roofs, w', hrun, -, hsame, hall, hroofed⟩ := building_roofed Script.lawful_source hw
  have hsize := congrArg List.length hsame
  rw [List.length_map, List.length_map] at hsize
  exact ⟨roofs, w', hrun, hsize, hall, hroofed⟩

end Roofing

end TavernLayout
