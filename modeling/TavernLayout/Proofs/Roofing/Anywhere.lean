import TavernLayout.Proofs.Roofing.Coverage
import TavernLayout.Proofs.Shift.Roofs
import TavernLayout.Proofs.Walls.Joining

/-!
# Roofs anywhere

A roof needs sides that can be compared, so no building may be too wide; but it may lie anywhere, as
it is roofed like the same building at the origin. Buildings that grow have no roofs yet, and the
partition adds none.

* `Works.Unroofed`: no room is linked to a roof; `Built.unroofed`, `Closes.unroofed`;
* `Roofable`: the buildings that can be roofed;
* `Roofable.exists_roofBuilding`: they are, wherever they lie.
-/

namespace TavernLayout

variable {σ : Type} {src : Source σ} {plot : Plot} {u v w w' : Works σ}

/-! ## Buildings without roofs -/

def Room.links (r : Room) : List (Ref .roof) × List (Ref .roof) := (r.roofs, r.floors)

def Works.Unroofed (w : Works σ) : Prop := ∀ l ∈ w.rooms.items.map Room.links, l = ([], [])

theorem Works.Unroofed.room (h : w.Unroofed) {r : Room} (hr : r ∈ w.rooms.items) :
    r.roofs = [] ∧ r.floors = [] :=
  Prod.mk.injEq .. ▸ h _ (List.mem_map_of_mem hr)

theorem Works.Unroofed.of_same (h : u.Unroofed) (hr : v.rooms = u.rooms) : v.Unroofed := by
  unfold Unroofed
  rw [hr]
  exact h

/-- One more room that has no roof, while walls may be hung on the others. -/
theorem Works.Unroofed.append (h : u.Unroofed) {rs : List Room} {r : Room}
    (hrs : rs.map Room.links = u.rooms.items.map Room.links) (hr : r.links = ([], []))
    (hv : v.rooms.items = rs ++ [r]) : v.Unroofed := by
  intro l hl
  rw [hv, List.map_append, hrs] at hl
  rcases List.mem_append.1 hl with hl | hl
  · exact h l hl
  · obtain rfl := List.mem_singleton.1 hl
    exact hr

theorem links_modify (rs : List Room) (i : Nat) (d : Dir) (id : Ref .wall) :
    (rs.modify i (·.addWall d id)).map Room.links = rs.map Room.links :=
  map_modify_of_eq (g := Room.links) (f := (·.addWall d id)) (fun _ => rfl) rs i

theorem Growth.Built.unroofed {es : List Event} (h : Built src plot es w) : w.Unroofed := by
  induction h with
  | @front u v _ _ _ _ _ hr _ _ hi =>
    have hu : u.Unroofed := by
      unfold Works.Unroofed
      rw [hr]
      exact fun l hl => by cases hl
    exact .of_same (hu.append rfl rfl rfl) hi.rooms
  | idle _ _ hr _ ih => exact ih.of_same hr
  | beside _ _ _ _ hr _ ih => exact .of_same (ih.append (links_modify _ _ _ _) rfl rfl) hr
  | under _ _ hr _ ih => exact .of_same (ih.append rfl rfl rfl) hr

theorem Partition.unroofed_hang (h : w.Unroofed) (i : Nat) (d : Dir) (id : Ref .wall) :
    (hang w i d id).Unroofed := by
  unfold Works.Unroofed hang
  rw [links_modify]
  exact h

theorem Partition.Closes.unroofed (hc : Closes u v) (h : u.Unroofed) : v.Unroofed := by
  induction hc with
  | refl => exact h
  | tail _ hadd ih =>
    cases hadd with
    | idle hi => exact ih.of_same hi.rooms
    | shared => exact unroofed_hang (unroofed_hang ih _ _ _) _ _ _
    | outer => exact unroofed_hang ih _ _ _

/-! ## Shifted buildings -/

theorem Store.resolves_map {e : Entity} {α β : Type} {s : Store e α} {f : α → β}
    {ids : List (Ref e)} : (s.map f).Resolves ids ↔ s.Resolves ids := by
  unfold Resolves
  refine forall₂_congr fun id _ => ?_
  rw [lookup_map]
  cases s.lookup id with
  | ok a => exact ⟨fun _ => ⟨a, rfl⟩, fun _ => ⟨f a, rfl⟩⟩
  | error fault =>
    constructor
    · rintro ⟨b, h⟩
      cases h
    · rintro ⟨a, h⟩
      cases h

theorem surrounded_map {rooms : Store .room Room} {walls : Store .wall Wall} {t : Vec2} :
    Surrounded (rooms.map (·.shift t)) (walls.map (·.shift t)) ↔ Surrounded rooms walls := by
  unfold Surrounded
  simp only [Store.map, List.forall_mem_map]
  exact forall₂_congr fun r _ => Store.resolves_map

/-! ## Roofing -/

namespace Roofing

/-- A building that has no roofs yet, with all rooms in a space and their walls in place. -/
structure Roofable (space : Rect) (w : Works σ) : Prop where
  inside : ∀ r ∈ w.rooms.items, r.footprint.Valid ∧ space.Encloses r.footprint
  unroofed : w.Unroofed
  surrounded : Surrounded w.rooms w.walls

theorem roofed_empty (h : w.Unroofed) : Roofed w .empty := by
  constructor
  · intro r hr id hid
    rw [(h.room hr).1] at hid
    cases hid
  · intro r hr id hid
    rw [(h.room hr).2] at hid
    cases hid
  · intro k roof hk
    cases hk
  · intro roof hroof
    cases hroof

/-- What is roofed within a limit has all its walls and roofs in their stores. -/
theorem ends_roofBuilding {limit : Int} (hs : src.Lawful) (hlimit : limit ≤ 2 ^ 60)
    (hf : Fit limit w) (hw : w.Unroofed) :
    Ends (fun roofs t => Surrounded t.rooms t.walls ∧
      ∀ r ∈ t.rooms.items, roofs.Resolves (r.floors ++ r.roofs)) (fun _ => False)
      (roofBuilding src) w := by
  unfold roofBuilding
  refine .bind_get ((ends_roofRooms hs (.inl hlimit) hf (fun _ => id) rfl (roofed_empty hw)
    (borne_empty w)).mono ?_)
  rintro roofs t ⟨hroofed, -, hkeeps, -⟩
  refine ⟨(hkeeps.fit hf).surrounded, fun r hr id hid => ?_⟩
  rcases List.mem_append.1 hid with hfloor | hroof
  · exact Store.resolves_of_names (hroofed.underfoot r hr) id hfloor
  · exact Store.resolves_of_names (hroofed.overhead r hr) id hroof

/-- A building that starts at the origin lies within a limit if it is not too wide. -/
theorem Roofable.fit {space : Rect} (h : Roofable space w) (hx : space.size.x < 2 ^ 53)
    (hy : space.size.y < 2 ^ 53) : Fit (2 ^ 53 + 2) (w.shift (⟨0, 0⟩ - space.min)) := by
  constructor
  · intro r hr
    rw [Works.rooms_shift, Store.map, List.mem_map] at hr
    obtain ⟨r, hr, rfl⟩ := hr
    obtain ⟨hvalid, hin⟩ := h.inside r hr
    refine ⟨Rect.valid_shift.2 hvalid, fun d => ?_⟩
    have hover : overhang = 2 := rfl
    simp only [Rect.Encloses] at hin
    simp only [Rect.size, Vec2.x_sub, Vec2.y_sub] at hx hy
    cases d <;> simp [Room.footprint_shift, Dir.reach, Dir.sign, Dir.edge] <;> omega
  · exact surrounded_map.2 h.surrounded

/-- Every building that is not too wide is roofed, wherever it lies. -/
theorem Roofable.exists_roofBuilding {space : Rect} (hs : src.Lawful) (h : Roofable space w)
    (hx : space.size.x < 2 ^ 53) (hy : space.size.y < 2 ^ 53) :
    ∃ roofs w', roofBuilding src w = .ok roofs w' ∧ Surrounded w'.rooms w'.walls ∧
      ∀ r ∈ w'.rooms.items, roofs.Resolves (r.floors ++ r.roofs) := by
  have hmoves : Moved (·.shift (⟨0, 0⟩ - space.min)) _ (roofBuilding src w)
      (roofBuilding src (w.shift (⟨0, 0⟩ - space.min))) := shifts_roofBuilding w
  have hunroofed : (w.shift (⟨0, 0⟩ - space.min)).Unroofed := by
    unfold Works.Unroofed
    rw [Works.rooms_shift, Store.map, List.map_map]
    exact h.unroofed
  obtain ⟨roofs', t, hrun, hwalls, hroofs⟩ :=
    (ends_roofBuilding hs (by decide) (h.fit hx hy) hunroofed).exists_ok
  rw [hrun] at hmoves
  cases hok : roofBuilding src w with
  | error e w' =>
    rw [hok] at hmoves
    exact hmoves.elim
  | ok roofs w' =>
    rw [hok] at hmoves
    obtain ⟨rfl, rfl⟩ := hmoves
    refine ⟨roofs, w', rfl, surrounded_map.1 hwalls, fun r hr => ?_⟩
    have := hroofs (r.shift (⟨0, 0⟩ - space.min)) (List.mem_map_of_mem hr)
    exact Store.resolves_map.1 this

end Roofing

end TavernLayout
