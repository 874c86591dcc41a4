import TavernLayout.Proofs.Safety

/-!
# The building of a tavern

A tavern is a building that grew until nothing was left to try and was partitioned then. Roofs and
furniture come later. They leave the walls alone, and of the rooms the kinds and the boxes.

* `Finishes`: programs that keep walls and outlines; closed under sequences;
* `finishes_roofBuilding`, `finishes_furnishBuilding`: roofs and furniture;
* `Growth.rounds_of_grow`: growth is a number of rounds, and empties the frontier;
* `Growth.outlines_of_rounds`, `Growth.walls_of_rounds`: rooms and walls keep their places;
* `Growth.rounds_of_survey_from`, `Growth.Rounds.rest`: the first rounds, found by computation;
* `Tavern.Planned`, `Tavern.planned_of_generate`: the building behind every tavern.
-/

namespace TavernLayout

variable {σ α β : Type} {src : Source σ} {plot : Plot} {u v w : Works σ}

/-! ## Programs that keep the plan -/

/-- The same walls, and rooms of the same kinds and boxes. -/
structure Works.SamePlan (u v : Works σ) : Prop where
  walls : v.walls = u.walls
  outlines : v.outlines = u.outlines

namespace Works.SamePlan

theorem refl (w : Works σ) : w.SamePlan w := ⟨rfl, rfl⟩

theorem trans (h1 : u.SamePlan v) (h2 : v.SamePlan w) : u.SamePlan w :=
  ⟨h2.walls.trans h1.walls, h2.outlines.trans h1.outlines⟩

theorem of_idle (h : u.Idle v) : u.SamePlan v := ⟨h.walls, h.outlines⟩

end Works.SamePlan

/-- Where the program succeeds, it has kept the plan. -/
def Finishes (x : Build σ α) : Prop := ∀ ⦃u a v⦄, x u = .ok a v → u.SamePlan v

namespace Finishes

theorem bind {x : Build σ α} {f : α → Build σ β} (hx : Finishes x) (hf : ∀ a, Finishes (f a)) :
    Finishes (x >>= f) := by
  intro u b w h
  obtain ⟨a, v, h1, h2⟩ := bind_eq_ok_iff.1 h
  exact (hx h1).trans (hf a h2)

theorem pure (a : α) : Finishes (pure a : Build σ α) := by
  intro u b v h
  obtain ⟨-, rfl⟩ := pure_eq_ok_iff.1 h
  exact .refl u

theorem get : Finishes (get : Build σ (Works σ)) := by
  intro u w v h
  obtain ⟨-, rfl⟩ := get_eq_ok_iff.1 h
  exact .refl u

theorem lift (x : Except Fault α) : Finishes (liftM x : Build σ α) := by
  intro u a v h
  obtain ⟨-, rfl⟩ := lift_eq_ok_iff.1 h
  exact .refl u

theorem draw (d : Draw σ α) : Finishes (Build.draw d) := fun _ _ _ h =>
  .of_idle (Build.idle_of_draw h)

theorem note (e : Event) : Finishes (Build.note e : Build σ Unit) := fun _ _ _ h =>
  .of_idle (Build.idle_of_note h)

theorem room (id : Ref .room) : Finishes (Build.room id : Build σ Room) := get.bind fun _ => lift _

end Finishes

/-- Changing one entry leaves alone what it does not change there. -/
theorem map_modify_of_getElem? {g : α → β} {f : α → α} {as : List α} {i : Nat}
    (h : ∀ a, as[i]? = some a → g (f a) = g a) : (as.modify i f).map g = as.map g := by
  apply List.ext_getElem?
  intro j
  rw [List.getElem?_map, List.getElem?_map, List.getElem?_modify]
  split
  · next hij =>
    subst hij
    cases ha : as[i]? with
    | none => rfl
    | some a => exact congrArg some (h a ha)
  · rw [id_map']

/-- A change to the room that a reference names, if it keeps the outline of that room. -/
theorem Works.SamePlan.of_changeRoom {id : Ref .room} {f : Room → Room} {x : Unit}
    (hf : ∀ r, w.rooms.lookup id = .ok r → (f r).outline = r.outline)
    (h : Build.changeRoom id f w = .ok x v) : w.SamePlan v := by
  obtain ⟨u, w1, h1, h⟩ := bind_eq_ok_iff.1 h
  obtain ⟨rfl, rfl⟩ := get_eq_ok_iff.1 h1
  obtain ⟨rooms, w2, h2, h⟩ := bind_eq_ok_iff.1 h
  obtain ⟨hrooms, rfl⟩ := lift_eq_ok_iff.1 h2
  obtain rfl := modify_eq_ok_iff.1 h
  refine ⟨rfl, ?_⟩
  unfold Store.modify at hrooms
  split at hrooms
  · next i hi =>
    cases hrooms
    refine map_modify_of_getElem? fun r hr => hf r ?_
    simp only [Store.lookup, Store.get?, hi, Option.bind_some, hr]
  · cases hrooms

theorem Finishes.changeRoom {f : Room → Room} (hf : ∀ r, (f r).outline = r.outline)
    (id : Ref .room) : Finishes (Build.changeRoom id f : Build σ Unit) := fun _ _ _ h =>
  .of_changeRoom (fun r _ => hf r) h

/-! ## Roofs and furniture -/

namespace Roofing

theorem finishes_link {f : Room → Room} (hf : ∀ r, (f r).outline = r.outline)
    (ids : List (Ref .room)) : Finishes (link f ids : Build σ Unit) := by
  induction ids with
  | nil => exact .pure ()
  | cons id ids ih => exact (Finishes.changeRoom hf id).bind fun _ => ih

theorem finishes_roofRoom (src : Source σ) (id : Ref .room) (room : Room)
    (roofs : Store .roof Roof) : Finishes (roofRoom src id room roofs) := by
  refine Finishes.get.bind fun w => (Finishes.draw _).bind fun p =>
    (Finishes.draw _).bind fun roof => (Finishes.lift _).bind fun q => ?_
  obtain ⟨ref, roofs⟩ := q
  refine (finishes_link (f := (·.addRoof ref)) (fun _ => rfl) _).bind fun _ => ?_
  refine (finishes_link (f := (·.addFloor ref)) (fun _ => rfl) _).bind fun _ => ?_
  exact (Finishes.note _).bind fun _ => .pure _

theorem finishes_roofRooms (src : Source σ) (ids : List (Ref .room)) (roofs : Store .roof Roof) :
    Finishes (roofRooms src ids roofs) := by
  induction ids generalizing roofs with
  | nil => exact .pure roofs
  | cons id ids ih =>
    refine (Finishes.room id).bind fun room => (Finishes.lift _).bind fun covered => ?_
    split
    · exact ih roofs
    · exact (finishes_roofRoom src id room roofs).bind fun roofs => ih roofs

end Roofing

theorem finishes_roofBuilding (src : Source σ) : Finishes (roofBuilding src) :=
  Finishes.get.bind fun _ => Roofing.finishes_roofRooms src _ _

theorem Furnishing.outline_of_furnish {r r' : Room} {st st' : Stream σ}
    (h : furnish src r st = .ok r' st') : r'.outline = r.outline := by
  obtain ⟨best, seats, tables, heq, -⟩ := (ends_furnish (P := fun _ => True) src r st).1 r' st' h
  rw [heq]
  rfl

theorem finishes_furnishRoom (src : Source σ) (roofs : Store .roof Roof) (id : Ref .room) :
    Finishes (furnishRoom src roofs id) := by
  intro u x v h
  obtain ⟨room, w1, h1, h⟩ := bind_eq_ok_iff.1 h
  obtain ⟨hroom, rfl⟩ := Build.room_eq_ok_iff.1 h1
  obtain ⟨works, w2, h2, h⟩ := bind_eq_ok_iff.1 h
  obtain ⟨rfl, rfl⟩ := get_eq_ok_iff.1 h2
  obtain ⟨avoid, w3, h3, h⟩ := bind_eq_ok_iff.1 h
  obtain ⟨-, rfl⟩ := lift_eq_ok_iff.1 h3
  obtain ⟨furnished, w4, h4, h⟩ := bind_eq_ok_iff.1 h
  have hidle := Build.idle_of_draw h4
  obtain ⟨st, hdraw, -⟩ := Build.draw_eq_ok_iff.1 h4
  refine (Works.SamePlan.of_idle hidle).trans (.of_changeRoom (fun r hr => ?_) h)
  rw [hidle.rooms, hroom] at hr
  obtain rfl := Except.ok.inj hr
  have hsame := Furnishing.outline_of_furnish hdraw
  exact hsame

theorem finishes_furnishBuilding (src : Source σ) (roofs : Store .roof Roof) :
    Finishes (furnishBuilding src roofs) := by
  have heach : ∀ ids, Finishes (furnishEach src roofs ids) := by
    intro ids
    induction ids with
    | nil => exact .pure ()
    | cons id ids ih => exact (finishes_furnishRoom src roofs id).bind fun _ => ih
  exact Finishes.get.bind fun _ => heach _

/-! ## Growth -/

namespace Growth

theorem rounds_of_run {fuel : Nat} {x : Unit} (h : run src plot fuel w = .ok x v) :
    ∃ n, Rounds src plot w n v ∧ v.frontier = [] := by
  suffices hgen : ∀ {m : Nat} {u : Works σ}, Rounds src plot w m u → run src plot fuel u = .ok x v →
      ∃ n, Rounds src plot w n v ∧ v.frontier = [] from hgen .zero h
  clear h
  induction fuel with
  | zero =>
    intro m u hm h
    obtain ⟨u', u1, h1, h⟩ := bind_eq_ok_iff.1 h
    obtain ⟨rfl, rfl⟩ := get_eq_ok_iff.1 h1
    split at h
    · exact absurd h (by rw [throw_eq_ok_iff]; exact id)
    · next hnil =>
      obtain ⟨-, rfl⟩ := pure_eq_ok_iff.1 h
      exact ⟨m, hm, by simpa using hnil⟩
  | succ fuel ih =>
    intro m u hm h
    by_cases hnil : u.frontier = []
    · rw [run_of_frontier_nil _ hnil] at h
      cases h
      exact ⟨m, hm, hnil⟩
    · rw [run_succ fuel hnil] at h
      obtain ⟨⟨⟩, u', hstep, h⟩ := bind_eq_ok_iff.1 h
      exact ih (hm.succ hstep) h

theorem rounds_of_grow {x : Unit} (h : grow src plot w = .ok x v) :
    ∃ n, Rounds src plot w n v ∧ v.frontier = [] := by
  obtain ⟨u, w1, h1, h⟩ := bind_eq_ok_iff.1 h
  obtain ⟨rfl, rfl⟩ := get_eq_ok_iff.1 h1
  exact rounds_of_run h

/-- A run begins with its first round. -/
theorem Rounds.first {n : Nat} (h : Rounds src plot u (n + 1) w) :
    ∃ v, step src plot u = .ok () v ∧ Rounds src plot v n w := by
  induction n generalizing w with
  | zero =>
    cases h with
    | succ hr hstep =>
      cases hr
      exact ⟨w, hstep, .zero⟩
  | succ n ih =>
    cases h with
    | succ hr hstep =>
      obtain ⟨v, hv, hrest⟩ := ih hr
      exact ⟨v, hv, hrest.succ hstep⟩

/-- A run that emptied the frontier goes through every building that some rounds lead to. -/
theorem Rounds.rest {m n : Nat} (hs : src.Lawful) (hm : Rounds src plot u m v)
    (hn : Rounds src plot u n w) (hnil : w.frontier = []) : ∃ k, Rounds src plot v k w := by
  induction hm with
  | zero => exact ⟨n, hn⟩
  | succ _ hstep ih =>
    obtain ⟨k, hk⟩ := ih
    cases k with
    | zero =>
      cases hk
      exact absurd hnil (frontier_ne_nil_of_step hs hstep)
    | succ k =>
      obtain ⟨v', hv', hrest⟩ := hk.first
      rw [hstep] at hv'
      cases hv'
      exact ⟨k, hrest⟩

theorem outlines_of_tried {i : Nat} {t : Option Trial} (h : Tried src plot i u v t) :
    u.outlines <+: v.outlines := by
  cases h with
  | idle hi => rw [hi.outlines]
  | beside hf hi =>
    rw [hi.outlines, Works.outlines_addBeside]
    exact List.prefix_append _ _
  | under hf hi =>
    rw [hi.outlines, Works.outlines_addUnder]
    exact List.prefix_append _ _

/-- Rooms keep their places, kinds and boxes. -/
theorem outlines_of_rounds {n : Nat} (hs : src.Lawful) (ht : Tended u)
    (h : Rounds src plot u n v) : u.outlines <+: v.outlines := by
  induction h with
  | zero => exact List.prefix_refl _
  | succ hr hstep ih =>
    obtain ⟨m, p, i, t, q, st, st', x, -, -, -, htried, hend⟩ :=
      step_cases hs (ht.rounds hs hr) hstep
    have hkeep := outlines_of_tried htried
    rw [hend.outlines]
    exact ih.trans hkeep

theorem walls_of_tried {i : Nat} {t : Option Trial} (h : Tried src plot i u v t) :
    u.walls.items <+: v.walls.items := by
  cases h with
  | idle hi => rw [hi.walls]
  | beside hf hi =>
    rw [hi.walls]
    exact List.prefix_append _ _
  | under hf hi =>
    rw [hi.walls]
    exact List.prefix_refl _

/-- Walls keep their places. -/
theorem walls_of_rounds {n : Nat} (hs : src.Lawful) (ht : Tended u) (h : Rounds src plot u n v) :
    u.walls.items <+: v.walls.items := by
  induction h with
  | zero => exact List.prefix_refl _
  | succ hr hstep ih =>
    obtain ⟨m, p, i, t, q, st, st', x, -, -, -, htried, hend⟩ :=
      step_cases hs (ht.rounds hs hr) hstep
    have hkeep := walls_of_tried htried
    rw [hend.walls]
    exact ih.trans hkeep

/-- The rounds of a survey lead on from where its entrance was built. -/
theorem rounds_of_survey_from {door : Vec3} {facing : Dir} {stream : Stream σ} {n : Nat}
    {os : List Outline} {id : Ref .room} (h : survey src plot door facing stream n = some os)
    (hu : addEntrance src plot door facing { stream } = .ok id u) :
    ∃ v, Rounds src plot u n v ∧ v.outlines = os := by
  have hlead : ∀ {n v}, opening src plot door facing n { stream } = .ok () v →
      Rounds src plot u n v := by
    intro n
    induction n with
    | zero =>
      intro v hv
      obtain ⟨id', hid⟩ := discard_eq_ok_iff.1 hv
      rw [hu] at hid
      cases hid
      exact .zero
    | succ n ih =>
      intro v hv
      obtain ⟨x, w1, h1, hv⟩ := bind_eq_ok_iff.1 hv
      exact (ih h1).succ hv
  unfold survey at h
  cases hr : opening src plot door facing n { stream } with
  | error e w1 =>
    rw [hr] at h
    cases h
  | ok x v =>
    rw [hr] at h
    exact ⟨v, hlead hr, Option.some.inj h⟩

end Growth

/-! ## Partition -/

namespace Partition

theorem outlines_hang (w : Works σ) (i : Nat) (d : Dir) (id : Ref .wall) :
    (hang w i d id).outlines = w.outlines :=
  map_modify_of_eq (g := Room.outline) (f := (·.addWall d id)) (fun _ => rfl) _ _

theorem Adds.outlines (h : Adds u v) : v.outlines = u.outlines := by
  cases h with
  | idle hi => exact hi.outlines
  | shared => exact (outlines_hang _ _ _ _).trans (outlines_hang _ _ _ _)
  | outer => exact outlines_hang _ _ _ _

theorem Closes.outlines (h : Closes u v) : v.outlines = u.outlines := by
  induction h with
  | refl => rfl
  | tail _ hadd ih => exact hadd.outlines.trans ih

theorem Closes.walls (h : Closes u v) : u.walls.items <+: v.walls.items := by
  induction h with
  | refl => exact List.prefix_refl _
  | tail _ hadd ih =>
    rcases hadd.raised with hi | ⟨wl, hraised, -⟩
    · rw [hi.walls]
      exact ih
    · rw [hraised.walls]
      exact ih.trans (List.prefix_append _ _)

end Partition

/-! ## Taverns -/

namespace Tavern

open Growth

/-- How the plan of a building came about: `u` was opened by the entrance, grew to `v`, and was
partitioned to `w`. -/
structure Planned (src : Source σ) (plot : Plot) (u v w : Works σ) : Prop where
  opened : Opened src plot u
  grown : ∃ n, Rounds src plot u n v
  finished : v.frontier = []
  partitioned : partitionRooms src v = .ok () w

namespace Planned

theorem built (hs : src.Lawful) (h : Planned src plot u v w) : ∃ es, Built src plot es v := by
  obtain ⟨n, hr⟩ := h.grown
  obtain ⟨es, -, hb⟩ := built_of_rounds hs h.opened hr
  exact ⟨es, hb⟩

/-- The partition adds walls, and joins all rooms that touch. -/
theorem closes (hs : src.Lawful) (h : Planned src plot u v w) :
    Partition.Closes v w ∧ ∀ (i j : Nat) a b, i ≠ j → v.boxes[i]? = some a →
      v.boxes[j]? = some b → Partition.Touches a b → Joined w ⟨(i : Int)⟩ ⟨(j : Int)⟩ := by
  obtain ⟨es, hb⟩ := h.built hs
  exact Partition.joined_of_partitionRooms hs (consistent_of_built hb).1 h.partitioned

theorem outlines (hs : src.Lawful) (h : Planned src plot u v w) : w.outlines = v.outlines :=
  (h.closes hs).1.outlines

theorem sound (hs : src.Lawful) (h : Planned src plot u v w) {o : Outline}
    (ho : o ∈ w.outlines) : o.Sound plot.interior := by
  obtain ⟨es, hb⟩ := h.built hs
  rw [h.outlines hs] at ho
  exact hb.grown.sound o ho

end Planned

theorem planned_of_layOut {door : Vec3} {facing : Dir} {stream : Stream σ}
    {roofs : Store .roof Roof} {t : Works σ}
    (h : layOut src plot door facing { stream } = .ok roofs t) :
    ∃ id u v w, addEntrance src plot door facing { stream } = .ok id u ∧
      Planned src plot u v w ∧ w.SamePlan t := by
  obtain ⟨x, u, h1, h⟩ := bind_eq_ok_iff.1 h
  obtain ⟨id, hopen⟩ := discard_eq_ok_iff.1 h1
  obtain ⟨y, v, h2, h⟩ := bind_eq_ok_iff.1 h
  obtain ⟨n, hrounds, hnil⟩ := rounds_of_grow h2
  obtain ⟨⟨⟩, w, h3, h⟩ := bind_eq_ok_iff.1 h
  obtain ⟨roofs', w1, h4, h⟩ := bind_eq_ok_iff.1 h
  obtain ⟨z, w2, h5, h⟩ := bind_eq_ok_iff.1 h
  obtain ⟨-, rfl⟩ := pure_eq_ok_iff.1 h
  refine ⟨id, u, v, w, hopen, ⟨⟨stream, [], door, facing, id, hopen⟩, ⟨n, hrounds⟩, hnil, h3⟩, ?_⟩
  exact (finishes_roofBuilding src h4).trans (finishes_furnishBuilding src roofs' h5)

/-- The parts of a request that is answered. -/
theorem generate_cases {streams : Streams σ} {terrain : Terrain} {site : SiteMap}
    {req : TavernRequest} {stream : Stream σ} {tavern : Tavern} {t : Works σ}
    (h : generate streams terrain site req { stream } = .ok tavern t) :
    ∃ stream' temperature level roofs works,
      signName streams req.name { stream } = .ok tavern.name { stream := stream' } ∧
      (interior (plotBounds site req.tiles)).Valid ∧
      terrain.temperature (doorPoint site req (interior (plotBounds site req.tiles))) =
        .ok temperature ∧
      floorAt terrain (doorPoint site req (interior (plotBounds site req.tiles))) req.level =
        .ok level ∧
      layOut streams.layout ⟨terrain, interior (plotBounds site req.tiles), temperature⟩
        ((doorPoint site req (interior (plotBounds site req.tiles))).atLevel level) req.facing
        { stream := stream' } = .ok roofs works ∧
      tavern = { tavern with
        rooms := works.rooms.freeze, walls := works.walls.freeze, roofs := roofs.freeze
        door := (doorPoint site req (interior (plotBounds site req.tiles))).atLevel level
        bounds := plotBounds site req.tiles } := by
  rw [generate_eq] at h
  obtain ⟨name, w1, h1, h⟩ := bind_eq_ok_iff.1 h
  obtain ⟨stream', rfl⟩ := stream_of_signName h1
  split at h
  · next hvalid =>
    obtain ⟨temperature, w2, h2, h⟩ := bind_eq_ok_iff.1 h
    obtain ⟨htemperature, rfl⟩ := lift_eq_ok_iff.1 h2
    obtain ⟨level, w3, h3, h⟩ := bind_eq_ok_iff.1 h
    obtain ⟨hlevel, rfl⟩ := lift_eq_ok_iff.1 h3
    obtain ⟨roofs, w4, h4, h⟩ := bind_eq_ok_iff.1 h
    obtain ⟨works, w5, h5, h⟩ := bind_eq_ok_iff.1 h
    obtain ⟨rfl, rfl⟩ := get_eq_ok_iff.1 h5
    obtain ⟨x, w6, h6, h⟩ := bind_eq_ok_iff.1 h
    obtain ⟨rfl, -⟩ := pure_eq_ok_iff.1 h
    exact ⟨stream', temperature, level, roofs, w4, h1, hvalid, htemperature, hlevel, h4, rfl⟩
  · exact absurd h (by rw [throw_eq_ok_iff]; exact id)

/-- Behind every tavern stands a building with the same walls and outlines. -/
theorem planned_of_generate {streams : Streams σ} {terrain : Terrain} {site : SiteMap}
    {req : TavernRequest} {stream : Stream σ} {tavern : Tavern} {t : Works σ}
    (h : generate streams terrain site req { stream } = .ok tavern t) :
    ∃ temperature u v w,
      Planned streams.layout ⟨terrain, interior tavern.bounds, temperature⟩ u v w ∧
      tavern.walls.items = w.walls.items ∧
      tavern.rooms.items.map Room.outline = w.outlines := by
  obtain ⟨stream', temperature, level, roofs, works, -, -, -, -, hlay, heq⟩ := generate_cases h
  obtain ⟨id, u, v, w, -, hplan, hsame⟩ := planned_of_layOut hlay
  rw [heq]
  refine ⟨temperature, u, v, w, hplan, ?_, hsame.outlines⟩
  show works.walls.items = w.walls.items
  rw [hsame.walls]

end Tavern

end TavernLayout
