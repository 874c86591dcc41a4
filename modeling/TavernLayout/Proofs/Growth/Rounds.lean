import TavernLayout.Layout.Growth
import TavernLayout.Proofs.Growth.Attempts

/-!
# The rounds of growth

A building is opened by its entrance and then grows in rounds. One round takes a prospect from the
frontier, gives it a chance, and puts it back unless nothing is left to try.

* `drawn_of_addEntrance`, `addEntrance_cases`: the building behind the front door;
* `Stepped`, `ends_step`: everything that one round can do, and its faults;
* `Tended.rounds`: the stores stay open, and frontier and counts belong to the rooms;
* `rounds_of_survey`: buildings that grow, found by computation.
-/

namespace TavernLayout

variable {σ : Type} {src : Source σ} {plot : Plot} {w w' : Works σ} {P : Fault → Prop}

/-! ## The entrance -/

def Works.addFront (w : Works σ) (bounds : Box) (room : Rect) (k : Kind) (door : Vec2)
    (facing : Dir) : Works σ :=
  let id : Ref .room := ⟨(w.rooms.size : Int)⟩
  let wall : Ref .wall := ⟨(w.walls.size : Int)⟩
  let new : Room := { bounds, kind := k }
  { w with
    rooms := { w.rooms with items := w.rooms.items ++ [new.addWall facing wall] }
    walls := { w.walls with
      items := w.walls.items ++
        [Entrance.front room ⟨bounds.min.z, bounds.max.z⟩ id door facing] }
    frontier := w.frontier ++ [⟨id, Dir.all.filter fun d => decide (d ≠ facing), false⟩]
    counts := w.counts.add k }

structure Entrance.Found (plot : Plot) (door : Vec3) (bounds : Box) (room : Rect) (k : Kind) :
    Prop where
  inside : plot.interior.Encloses room
  accepted : k.Accepts room
  kind : k = .garden ∨ k = .entrance
  storey : ∃ height, (3 ≤ height ∧ height ≤ 4) ∧
    bounds = Box.ofRect room door.z (door.z + height)

/-- What is known of a room behind the front door that was drawn: it was placed at the door, and a
garden was drawn for a warm place only. -/
structure Entrance.Drawn (src : Source σ) (plot : Plot) (door : Vec3) (facing : Dir) (bounds : Box)
    (room : Rect) (k : Kind) : Prop extends Entrance.Found plot door bounds room k where
  warm : k = .garden → 0.0 < plot.temperature
  placed : ∃ st st', placeBeside src k plot.interior facing.opposite door.plan st =
    .ok (some room) st'

theorem mem_entranceLottery {temperature : Float} {space? : Option Rect}
    {l : Lottery Float Kind} {k : Kind} (h : Kind.entranceLottery temperature space? = .ok l)
    (hk : k ∈ l.items) : (k = .garden ∧ 0.0 < temperature) ∨ k = .entrance := by
  unfold Kind.entranceLottery at h
  obtain ⟨e, he, rfl⟩ := List.mem_map.1 hk
  rw [Lottery.entries_build h] at he
  obtain ⟨hm, hcounts⟩ := List.mem_filter.1 he
  simp only [List.mem_cons, List.not_mem_nil, or_false] at hm
  rcases hm with rfl | rfl
  · refine .inl ⟨rfl, ?_⟩
    change Weight.less 0.0 (ite _ _ _) = true at hcounts
    split at hcounts
    · have hpos : 0.0 < 0.5 * temperature := of_decide_eq_true hcounts
      exact Number.pos_of_mul_pos (by decide) hpos
    · exact absurd hcounts (by decide)
  · exact .inr rfl

theorem placed_of_chooseEntrance {wanted : Kind} {door : Vec2} {facing : Dir} {p : Kind × Rect}
    (h : chooseEntrance src plot wanted door facing w = .ok p w') :
    w.Idle w' ∧ (p.1 = wanted ∨ p.1 = .entrance) ∧ ∃ st st',
      placeBeside src p.1 plot.interior facing.opposite door st = .ok (some p.2) st' := by
  unfold chooseEntrance at h
  obtain ⟨found, w1, h1, h⟩ := bind_eq_ok_iff.1 h
  have hidle := Build.idle_of_draw h1
  obtain ⟨st, hp, -⟩ := Build.draw_eq_ok_iff.1 h1
  cases found with
  | some r =>
    obtain ⟨rfl, rfl⟩ := pure_eq_ok_iff.1 h
    exact ⟨hidle, .inl rfl, _, _, hp⟩
  | none =>
    dsimp only at h
    split at h
    · obtain ⟨u, w2, h2, h⟩ := bind_eq_ok_iff.1 h
      exact absurd h2 (by rw [throw_eq_ok_iff]; exact id)
    · obtain ⟨u, w2, h2, h⟩ := bind_eq_ok_iff.1 h
      obtain ⟨found, w3, h3, h⟩ := bind_eq_ok_iff.1 h
      have hidle3 := (hidle.trans (Build.idle_of_note h2)).trans (Build.idle_of_draw h3)
      obtain ⟨st', hp', -⟩ := Build.draw_eq_ok_iff.1 h3
      cases found with
      | some r =>
        obtain ⟨rfl, rfl⟩ := pure_eq_ok_iff.1 h
        exact ⟨hidle3, .inr rfl, _, _, hp'⟩
      | none => exact absurd h (by rw [throw_eq_ok_iff]; exact id)

theorem Box.sorted_ofRect {r : Rect} {lo hi : Int} (hr : r.Valid) (h : lo ≤ hi) :
    (ofRect r lo hi).sorted = ofRect r lo hi := by
  simp only [Rect.Valid] at hr
  ext <;> simp only [sorted, ofRect, Vec2.atLevel] <;> omega

theorem drawn_of_addEntrance {door : Vec3} {facing : Dir} {id : Ref .room} (hs : src.Lawful)
    (h : addEntrance src plot door facing w = .ok id w') :
    ∃ bounds room k, Entrance.Drawn src plot door facing bounds room k ∧
      (w.addFront bounds room k door.plan facing).Idle w' := by
  unfold addEntrance at h
  obtain ⟨lottery, w1, h1, h⟩ := bind_eq_ok_iff.1 h
  obtain ⟨hlottery, rfl⟩ := lift_eq_ok_iff.1 h1
  obtain ⟨wanted, w2, h2, h⟩ := bind_eq_ok_iff.1 h
  obtain ⟨height, w3, h3, h⟩ := bind_eq_ok_iff.1 h
  obtain ⟨⟨k, r⟩, w4, h4, h⟩ := bind_eq_ok_iff.1 h
  obtain ⟨st, hwanted, -⟩ := Build.draw_eq_ok_iff.1 h2
  obtain ⟨st', hheight, -⟩ := Build.draw_eq_ok_iff.1 h3
  obtain ⟨hidle4, hkind, st4, st4', hplace⟩ := placed_of_chooseEntrance h4
  obtain ⟨hin, hacc⟩ := accepts_of_placeBeside hplace
  obtain ⟨e1, e2, e3, e4⟩ := ((Build.idle_of_draw h2).trans (Build.idle_of_draw h3)).trans hidle4
  have hrange := Source.mem_of_between hs hheight
  have hsorted : (Box.ofRect r door.z (door.z + height)).sorted =
      Box.ofRect r door.z (door.z + height) :=
    Box.sorted_ofRect hacc.1 (by simp only [Entrance.heights] at hrange; omega)
  dsimp only at h
  rw [hsorted] at h
  obtain ⟨id', w5, h5, h⟩ := bind_eq_ok_iff.1 h
  obtain ⟨wl, w6, h6, h⟩ := bind_eq_ok_iff.1 h
  obtain ⟨u7, w7, h7, h⟩ := bind_eq_ok_iff.1 h
  obtain ⟨u8, w8, h8, h⟩ := bind_eq_ok_iff.1 h
  obtain ⟨-, rfl⟩ := pure_eq_ok_iff.1 h
  obtain ⟨-, rfl, rfl⟩ := Build.addRoom_eq_ok_iff.1 h5
  obtain ⟨-, rfl, rfl⟩ := Build.addWall_eq_ok_iff.1 h6
  rw [Build.changeRoom_eq_ok_iff (by simp [Store.size])] at h7
  subst h7
  obtain rfl := modify_eq_ok_iff.1 h8
  have hlot : (k = .garden ∧ 0.0 < plot.temperature) ∨ k = .entrance := by
    rcases hkind with rfl | rfl
    · exact mem_entranceLottery hlottery (Lottery.mem_of_draw hwanted)
    · exact .inr rfl
  refine ⟨_, r, k, ⟨⟨hin, hacc, hlot.imp_left And.left, height, hrange, rfl⟩, fun hk => ?_,
    st4, st4', hplace⟩, ?_⟩
  · exact (hlot.resolve_right (by rw [hk]; decide)).2
  · refine ⟨?_, ?_, ?_, ?_⟩ <;>
      simp only [Works.addFront, Store.size, modify_append_length, e1, e2, e3, e4]

theorem addEntrance_cases {door : Vec3} {facing : Dir} {id : Ref .room} (hs : src.Lawful)
    (h : addEntrance src plot door facing w = .ok id w') :
    ∃ bounds room k, Entrance.Found plot door bounds room k ∧
      (w.addFront bounds room k door.plan facing).Idle w' := by
  obtain ⟨bounds, room, k, hd, hi⟩ := drawn_of_addEntrance hs h
  exact ⟨bounds, room, k, hd.toFound, hi⟩

/-! ## Rooms without their walls -/

structure Outline where
  kind : Kind
  box : Box
  deriving DecidableEq, Repr

def Room.outline (r : Room) : Outline := ⟨r.kind, r.bounds⟩

def Works.outlines (w : Works σ) : List Outline := w.rooms.items.map Room.outline

namespace Works

theorem length_outlines (w : Works σ) : w.outlines.length = w.rooms.size := List.length_map _

theorem Idle.outlines (h : w.Idle w') : w'.outlines = w.outlines := by
  rw [Works.outlines, Works.outlines, h.rooms]

theorem outlines_addFront (w : Works σ) (bounds : Box) (room : Rect) (k : Kind) (door : Vec2)
    (facing : Dir) : (w.addFront bounds room k door facing).outlines = w.outlines ++ [⟨k, bounds⟩] :=
  List.map_append

theorem outlines_addBeside (w : Works σ) (i : Nat) (parent room : Rect) (d : Dir) (layers : Span)
    (k : Kind) (offset : Int) : (w.addBeside i parent room d layers k offset).outlines =
      w.outlines ++ [⟨k, .ofRect room layers.lo layers.hi⟩] := by
  have hkeep := map_modify_of_eq (g := Room.outline)
    (f := (·.addWall d ⟨(w.walls.size : Int)⟩)) (fun _ => rfl) w.rooms.items i
  rw [outlines, addBeside, List.map_append, hkeep]
  rfl

theorem outlines_addUnder (w : Works σ) (room : Rect) (layers : Span) (k : Kind) :
    (w.addUnder room layers k).outlines =
      w.outlines ++ [⟨k, .ofRect room layers.lo layers.hi⟩] :=
  List.map_append

end Works

/-! ## One round -/

namespace Growth

/-- The stores take entities, the frontier names rooms that have something left to try, and the
counts are those of the rooms. -/
structure Tended (w : Works σ) : Prop where
  rooms : w.rooms.frozen = false
  walls : w.walls.frozen = false
  offered : ∀ p ∈ w.frontier, p.exhausted = false ∧ ∃ i : Nat, i < w.rooms.size ∧
    p.room = ⟨(i : Int)⟩
  counted : ∀ k, w.counts k = (w.outlines.countP fun o => decide (o.kind = k) : Nat)

theorem nextTrial_cases {p q : Prospect} {t : Option Trial} {st st' : Stream σ} (hs : src.Lawful)
    (h : nextTrial src p st = .ok (t, q) st') :
    (∃ d ∈ p.sides, t = some (.side d) ∧ q = { p with sides := p.sides.erase d }) ∨
    (p.sides = [] ∧ p.basement = true ∧ t = some .basement ∧ q = { p with basement := false }) ∨
    (p.exhausted = true ∧ t = none ∧ q = p) := by
  unfold nextTrial at h
  split at h
  · obtain ⟨d, st1, hd, h⟩ := bind_eq_ok_iff.1 h
    obtain ⟨hp, -⟩ := pure_eq_ok_iff.1 h
    cases hp
    exact .inl ⟨d, Source.mem_of_choose hs hd, rfl, rfl⟩
  · next hsides =>
    have hnil : p.sides = [] := by simpa using hsides
    split at h
    · next hb =>
      obtain ⟨hp, -⟩ := pure_eq_ok_iff.1 h
      cases hp
      exact .inr (.inl ⟨hnil, hb, rfl, rfl⟩)
    · next hb =>
      obtain ⟨hp, -⟩ := pure_eq_ok_iff.1 h
      cases hp
      exact .inr (.inr ⟨by simp [Prospect.exhausted, hnil, hb], rfl, rfl⟩)

end Growth

/-- The building without prospect `n` of its frontier. -/
def Works.take (w : Works σ) (n : Nat) : Works σ :=
  { w with frontier := w.frontier.eraseIdx n }

/-- The building with a prospect back in its frontier, unless nothing is left to try. -/
def Works.giveBack (w : Works σ) (p : Prospect) : Works σ :=
  { w with frontier := w.frontier ++ if p.exhausted then [] else [p] }

/-- What a trial of room `i` makes of a building. -/
inductive Growth.Tried (src : Source σ) (plot : Plot) (i : Nat) (u v : Works σ) :
    Option Trial → Prop
  | idle {t : Option Trial} : u.Idle v → Tried src plot i u v t
  | beside {d : Dir} {parent : Room} {fitted room : Rect} {layers : Span} {k : Kind}
      {offset : Int} : SideRoom.Found src plot u i d parent fitted room layers k offset →
      (u.addBeside i parent.footprint room d layers k offset).Idle v →
      Tried src plot i u v (some (.side d))
  | under {parent : Room} {fitted room : Rect} {layers : Span} {k : Kind} :
      Basement.Found src plot u i parent fitted room layers k →
      (u.addUnder room layers k).Idle v → Tried src plot i u v (some .basement)

theorem SideRoom.Found.of_idle {u v : Works σ} {i : Nat} {d : Dir} {parent : Room}
    {fitted room : Rect} {layers : Span} {k : Kind} {offset : Int} (hi : u.Idle v)
    (h : Found src plot v i d parent fitted room layers k offset) :
    Found src plot u i d parent fitted room layers k offset := by
  obtain ⟨⟨h1, h2, h3⟩, h4, h5, h6⟩ := h
  rw [hi.rooms] at h1 h3
  rw [hi.counts] at h5
  exact ⟨⟨h1, h2, h3⟩, h4, h5, h6⟩

theorem Basement.Found.of_idle {u v : Works σ} {i : Nat} {parent : Room} {fitted room : Rect}
    {layers : Span} {k : Kind} (hi : u.Idle v)
    (h : Found src plot v i parent fitted room layers k) :
    Found src plot u i parent fitted room layers k := by
  obtain ⟨h1, h2, h3, h4, h5⟩ := h
  rw [hi.rooms] at h1 h3
  exact ⟨h1, h2, h3, h4, h5⟩

namespace Growth

theorem Tried.of_idle {i : Nat} {t u v : Works σ} {trial : Option Trial} (ht : t.Idle u)
    (h : Tried src plot i u v trial) : Tried src plot i t v trial := by
  cases h with
  | idle hi => exact .idle (ht.trans hi)
  | beside hf hi => exact .beside (hf.of_idle ht) ((ht.addBeside ..).trans hi)
  | under hf hi => exact .under (hf.of_idle ht) ((ht.addUnder ..).trans hi)

theorem room_nextTrial {p q : Prospect} {t : Option Trial} {st st' : Stream σ} (hs : src.Lawful)
    (h : nextTrial src p st = .ok (t, q) st') : q.room = p.room := by
  rcases nextTrial_cases hs h with ⟨d, -, -, rfl⟩ | ⟨-, -, -, rfl⟩ | ⟨-, -, rfl⟩ <;> rfl

theorem faultsIn_nextTrial {p : Prospect} {st : Stream σ} : FaultsIn P (nextTrial src p) st := by
  unfold nextTrial
  split
  · next hsides => exact (Source.faultsIn_choose hsides).bind fun d st' h => .pure _
  · split
    · exact .pure _
    · exact .pure _

theorem ends_giveBack (w : Works σ) (p : Prospect) :
    Ends (fun _ w' => w' = w.giveBack p) P
      (if ¬p.exhausted = true then modify fun w => { w with frontier := w.frontier ++ [p] }
        else pure () : Build σ Unit) w := by
  unfold Works.giveBack
  by_cases hp : p.exhausted = true
  · rw [if_pos hp, if_neg (not_not_intro hp), List.append_nil]
    exact .pure rfl
  · rw [if_neg hp, if_pos hp]
    exact ⟨fun u w' h => (modify_eq_ok_iff.1 h).symm, .modify _⟩

/-- A round takes a prospect from the frontier, gives it a chance, and puts it back. -/
def Stepped (src : Source σ) (plot : Plot) (w w' : Works σ) : Prop :=
  ∃ (n : Nat) (p : Prospect) (i : Nat) (t : Option Trial) (q : Prospect) (st st' : Stream σ)
    (v : Works σ), w.frontier[n]? = some p ∧ p.room = ⟨(i : Int)⟩ ∧
      nextTrial src p st = .ok (t, q) st' ∧ Tried src plot i (w.take n) v t ∧
      (v.giveBack q).Idle w'

theorem tried_growSide {i : Nat} {d : Dir} (hs : src.Lawful) (hi : i < w.rooms.size)
    (hr : w.rooms.frozen = false) (hw : w.walls.frozen = false)
    (hground : ∀ c e, plot.terrain.floorLevel c = .error e → P e)
    (hweight : ∀ l e, Kind.sideWeight l (w.counts l) plot.temperature = .error e → P e) :
    Ends (fun _ v => Tried src plot i w v (some (.side d))) P
      (growSide src plot ⟨(i : Int)⟩ d) w := by
  refine (ends_growSide hs hi hr hw hground hweight).mono fun r v h => ?_
  rcases h with hidle | ⟨_, _, _, _, _, _, hf, hidle⟩
  · exact .idle hidle
  · exact .beside hf hidle

theorem tried_digBasement {i : Nat} (hs : src.Lawful) (hi : i < w.rooms.size)
    (hr : w.rooms.frozen = false) :
    Ends (fun _ v => Tried src plot i w v (some .basement)) P
      (digBasement src plot ⟨(i : Int)⟩) w := by
  refine (ends_digBasement hs hi hr).mono fun r v h => ?_
  rcases h with hidle | ⟨_, _, _, _, _, hf, hidle⟩
  · exact .idle hidle
  · exact .under hf hidle

/-- A trial of room `i`, after which what is left to try goes back into the frontier. -/
def trial (src : Source σ) (plot : Plot) (i : Nat) (t : Option Trial) (q : Prospect) :
    Build σ Unit := do
  match t with
  | some (.side d) => discard (growSide src plot ⟨(i : Int)⟩ d)
  | some .basement => discard (digBasement src plot ⟨(i : Int)⟩)
  | none => pure ()
  if ¬q.exhausted then modify fun w => { w with frontier := w.frontier ++ [q] }

theorem ends_trial {i : Nat} {t : Option Trial} {q : Prospect} (hs : src.Lawful)
    (hi : i < w.rooms.size) (hr : w.rooms.frozen = false) (hw : w.walls.frozen = false)
    (hground : ∀ c e, plot.terrain.floorLevel c = .error e → P e)
    (hweight : ∀ l e, Kind.sideWeight l (w.counts l) plot.temperature = .error e → P e) :
    Ends (fun _ w' => ∃ v, Tried src plot i w v t ∧ w' = v.giveBack q) P
      (trial src plot i t q) w := by
  have hback : ∀ v, Tried src plot i w v t →
      Ends (fun _ w' => ∃ v, Tried src plot i w v t ∧ w' = v.giveBack q) P
        (if ¬q.exhausted = true then modify fun w => { w with frontier := w.frontier ++ [q] }
          else pure () : Build σ Unit) v :=
    fun v hv => (ends_giveBack v q).mono fun u w' h => ⟨v, hv, h⟩
  unfold trial
  cases t with
  | none => exact hback w (.idle (.refl w))
  | some trial =>
    cases trial with
    | side d =>
      refine (tried_growSide hs hi hr hw hground hweight).discard.bind ?_
      rintro u v ⟨r, htried⟩
      exact hback v htried
    | basement =>
      refine (tried_digBasement hs hi hr).discard.bind ?_
      rintro u v ⟨r, htried⟩
      exact hback v htried

/-- A round fails only where the weight of a kind or the height of the ground cannot be computed. -/
theorem ends_step (hs : src.Lawful) (ht : Tended w) (hne : w.frontier ≠ [])
    (hground : ∀ c e, plot.terrain.floorLevel c = .error e → P e)
    (hweight : ∀ l e, Kind.sideWeight l (w.counts l) plot.temperature = .error e → P e) :
    Ends (fun _ w' => Stepped src plot w w') P (step src plot) w := by
  have hpos := List.length_pos_iff.2 hne
  unfold step
  refine .bind_get ?_
  dsimp only
  refine .bind_of_ok (Build.faultsIn_draw (Source.faultsIn_between (by omega))) fun m w1 h1 => ?_
  have hidle1 := Build.idle_of_draw h1
  obtain ⟨st, hm, -⟩ := Build.draw_eq_ok_iff.1 h1
  have hrange := Source.mem_of_between hs hm
  have hlt : m.toNat < w.frontier.length := by omega
  obtain ⟨p, hp⟩ : ∃ p, w.frontier[m.toNat]? = some p := ⟨_, List.getElem?_eq_getElem hlt⟩
  obtain ⟨-, i, hi, hroom⟩ := ht.offered p (List.mem_of_getElem? hp)
  rw [hp]
  dsimp only
  refine .bind_modify (.bind_of_ok (Build.faultsIn_draw faultsIn_nextTrial) fun tq w2 h2 => ?_)
  obtain ⟨t, q⟩ := tq
  obtain ⟨st', hnext, -⟩ := Build.draw_eq_ok_iff.1 h2
  have hidle : (w.take m.toNat).Idle w2 := by
    refine Works.Idle.trans ?_ (Build.idle_of_draw h2)
    exact ⟨hidle1.rooms, hidle1.walls, hidle1.counts, rfl⟩
  have hi2 : i < w2.rooms.size := by
    rw [hidle.rooms]
    exact hi
  have hrooms : w2.rooms.frozen = false := by
    rw [hidle.rooms]
    exact ht.rooms
  have hwalls : w2.walls.frozen = false := by
    rw [hidle.walls]
    exact ht.walls
  dsimp only
  rw [room_nextTrial hs hnext, hroom]
  refine (ends_trial hs hi2 hrooms hwalls hground ?_).mono ?_
  · rw [hidle.counts]
    exact hweight
  · rintro u w' ⟨v, htried, rfl⟩
    exact ⟨m.toNat, p, i, t, q, _, _, v, hp, hroom, hnext, htried.of_idle hidle, .refl _⟩

theorem frontier_ne_nil_of_step {u : Unit} (hs : src.Lawful)
    (h : step src plot w = .ok u w') : w.frontier ≠ [] := by
  intro hnil
  obtain ⟨v, w1, h1, h⟩ := bind_eq_ok_iff.1 h
  obtain ⟨rfl, rfl⟩ := get_eq_ok_iff.1 h1
  obtain ⟨m, w2, h2, -⟩ := bind_eq_ok_iff.1 h
  obtain ⟨st, hm, -⟩ := Build.draw_eq_ok_iff.1 h2
  have hrange := Source.mem_of_between hs hm
  rw [hnil, List.length_nil] at hrange
  omega

theorem step_cases (hs : src.Lawful) (ht : Tended w) (h : step src plot w = .ok () w') :
    Stepped src plot w w' :=
  (ends_step (P := fun _ => True) hs ht (frontier_ne_nil_of_step hs h) (fun _ _ _ => trivial)
    (fun _ _ _ => trivial)).1 () w' h

end Growth

/-! ## Runs -/

namespace Growth

/-- A new building right after its entrance was built. -/
def Opened (src : Source σ) (plot : Plot) (w : Works σ) : Prop :=
  ∃ stream journal door facing id, addEntrance src plot door facing { stream, journal } = .ok id w

/-- The building `w` after some rounds. -/
inductive Rounds (src : Source σ) (plot : Plot) (w : Works σ) : Nat → Works σ → Prop
  | zero : Rounds src plot w 0 w
  | succ {n : Nat} {u v : Works σ} : Rounds src plot w n u → step src plot u = .ok () v →
      Rounds src plot w (n + 1) v

theorem Tended.of_idle (h : Tended w) (hi : w.Idle w') : Tended w' := by
  obtain ⟨h1, h2, h3, h4⟩ := h
  refine ⟨?_, ?_, ?_, ?_⟩
  · rw [hi.rooms]
    exact h1
  · rw [hi.walls]
    exact h2
  · rw [hi.frontier, hi.rooms]
    exact h3
  · rw [hi.counts, hi.outlines]
    exact h4

theorem countP_append_kind (os : List Outline) (o : Outline) (k : Kind) :
    ((os ++ [o]).countP fun o => decide (o.kind = k) : Int) =
      (os.countP fun o => decide (o.kind = k) : Nat) + if k = o.kind then 1 else 0 := by
  rw [List.countP_append, List.countP_singleton]
  by_cases h : o.kind = k
  · simp [h]
  · simp [h, Ne.symm h]

/-- A new room is offered by itself and counts for its kind. -/
theorem Tended.add (h : Tended w) (hr : w'.rooms.frozen = false) (hw : w'.walls.frozen = false)
    {o : Outline} (ho : w'.outlines = w.outlines ++ [o]) {p : Prospect}
    (hp : p.exhausted = false ∧ p.room = ⟨(w.rooms.size : Int)⟩)
    (hf : w'.frontier = w.frontier ++ [p]) (hc : w'.counts = w.counts.add o.kind) :
    Tended w' := by
  have hsize : w'.rooms.size = w.rooms.size + 1 := by
    rw [← Works.length_outlines, ho, List.length_append, Works.length_outlines]
    rfl
  refine ⟨hr, hw, ?_, ?_⟩
  · intro q hq
    rw [hf] at hq
    rcases List.mem_append.1 hq with hq | hq
    · obtain ⟨hx, i, hi, hroom⟩ := h.offered q hq
      exact ⟨hx, i, by omega, hroom⟩
    · obtain rfl := List.mem_singleton.1 hq
      exact ⟨hp.1, w.rooms.size, by omega, hp.2⟩
  · intro k
    rw [hc, ho, countP_append_kind, Counts.add, h.counted k]
    split <;> simp

theorem length_others (d : Dir) : (Dir.all.filter fun e => decide (e ≠ d)).length = 3 := by
  cases d <;> decide

theorem exhausted_of_sides_ne_nil {p : Prospect} (h : p.sides ≠ []) : p.exhausted = false := by
  cases hs : p.sides with
  | nil => exact absurd hs h
  | cons d ds => simp [Prospect.exhausted, hs]

theorem Tended.tried {i : Nat} {t : Option Trial} (h : Tended w) (ht : Tried src plot i w w' t) :
    Tended w' := by
  cases ht with
  | idle hi => exact h.of_idle hi
  | @beside d _ _ _ _ _ _ hf hi =>
    refine Tended.of_idle ?_ hi
    refine h.add h.rooms h.walls (Works.outlines_addBeside ..) ⟨?_, rfl⟩ rfl rfl
    exact exhausted_of_sides_ne_nil (List.ne_nil_of_length_pos (by rw [length_others]; decide))
  | under hf hi =>
    refine Tended.of_idle ?_ hi
    refine h.add h.rooms h.walls (Works.outlines_addUnder ..) ⟨?_, rfl⟩ rfl rfl
    exact exhausted_of_sides_ne_nil (List.cons_ne_nil _ _)

theorem Tended.take (h : Tended w) (n : Nat) : Tended (w.take n) :=
  ⟨h.rooms, h.walls, fun p hp => h.offered p (List.mem_of_mem_eraseIdx hp), h.counted⟩

theorem Tended.giveBack (h : Tended w) {p : Prospect} {i : Nat} (hi : i < w.rooms.size)
    (hp : p.room = ⟨(i : Int)⟩) : Tended (w.giveBack p) := by
  refine ⟨h.rooms, h.walls, ?_, h.counted⟩
  intro q hq
  rcases List.mem_append.1 hq with hq | hq
  · exact h.offered q hq
  · split at hq
    · cases hq
    · next hx =>
      obtain rfl := List.mem_singleton.1 hq
      exact ⟨by simpa using hx, i, hi, hp⟩

theorem Tended.opened (hs : src.Lawful) (h : Opened src plot w) : Tended w := by
  obtain ⟨stream, journal, door, facing, id, h⟩ := h
  obtain ⟨bounds, room, k, hf, hi⟩ := addEntrance_cases hs h
  refine Tended.of_idle ?_ hi
  have hempty : Tended ({ stream, journal } : Works σ) :=
    ⟨rfl, rfl, fun p hp => absurd hp (List.not_mem_nil), fun k => rfl⟩
  refine hempty.add rfl rfl (Works.outlines_addFront ..) ⟨?_, rfl⟩ rfl rfl
  exact exhausted_of_sides_ne_nil (List.ne_nil_of_length_pos (by rw [length_others]; decide))

theorem rooms_le_of_tried {i : Nat} {t : Option Trial} (h : Tried src plot i w w' t) :
    w.rooms.size ≤ w'.rooms.size := by
  rw [← w.length_outlines, ← w'.length_outlines]
  cases h with
  | idle hi => exact Nat.le_of_eq (congrArg List.length hi.outlines.symm)
  | beside hf hi =>
    rw [hi.outlines, Works.outlines_addBeside, List.length_append]
    exact Nat.le_add_right _ _
  | under hf hi =>
    rw [hi.outlines, Works.outlines_addUnder, List.length_append]
    exact Nat.le_add_right _ _

theorem Tended.step (hs : src.Lawful) (ht : Tended w) (h : step src plot w = .ok () w') :
    Tended w' := by
  obtain ⟨n, p, i, t, q, st, st', v, hp, hi, hnext, htried, hend⟩ := step_cases hs ht h
  obtain ⟨-, j, hj, hpj⟩ := ht.offered p (List.mem_of_getElem? hp)
  have hij : (i : Int) = j := congrArg Ref.index (hi.symm.trans hpj)
  have hlt : i < v.rooms.size := by
    have : (w.take n).rooms.size ≤ v.rooms.size := rooms_le_of_tried htried
    change w.rooms.size ≤ v.rooms.size at this
    omega
  refine Tended.of_idle ?_ hend
  exact ((ht.take n).tried htried).giveBack hlt ((room_nextTrial hs hnext).trans hi)

theorem Tended.rounds {n : Nat} (hs : src.Lawful) (ht : Tended w) (h : Rounds src plot w n w') :
    Tended w' := by
  induction h with
  | zero => exact ht
  | succ _ hstep ih => exact ih.step hs hstep

/-! ## Runs that can be computed -/

def opening (src : Source σ) (plot : Plot) (door : Vec3) (facing : Dir) : Nat → Build σ Unit
  | 0 => discard (addEntrance src plot door facing)
  | n + 1 => do
    opening src plot door facing n
    step src plot

theorem rounds_of_opening {door : Vec3} {facing : Dir} {stream : Stream σ} {n : Nat}
    (h : opening src plot door facing n { stream } = .ok () w') :
    ∃ w, Opened src plot w ∧ Rounds src plot w n w' := by
  induction n generalizing w' with
  | zero =>
    obtain ⟨id, h⟩ := discard_eq_ok_iff.1 h
    exact ⟨w', ⟨stream, [], door, facing, id, h⟩, .zero⟩
  | succ n ih =>
    obtain ⟨u, v, hv, h⟩ := bind_eq_ok_iff.1 h
    obtain ⟨w, ho, hr⟩ := ih hv
    exact ⟨w, ho, .succ hr h⟩

/-- The outlines of the rooms after the entrance and `n` rounds. -/
def survey (src : Source σ) (plot : Plot) (door : Vec3) (facing : Dir) (stream : Stream σ)
    (n : Nat) : Option (List Outline) :=
  match opening src plot door facing n { stream } with
  | .ok _ w => some w.outlines
  | .error _ _ => none

theorem rounds_of_survey {door : Vec3} {facing : Dir} {stream : Stream σ} {n : Nat}
    {os : List Outline} (h : survey src plot door facing stream n = some os) :
    ∃ w w', Opened src plot w ∧ Rounds src plot w n w' ∧ w'.outlines = os := by
  unfold survey at h
  cases hr : opening src plot door facing n { stream } with
  | error e u =>
    rw [hr] at h
    cases h
  | ok u w' =>
    rw [hr] at h
    obtain ⟨w, ho, hrounds⟩ := rounds_of_opening hr
    exact ⟨w, w', ho, hrounds, Option.some.inj h⟩

end Growth

end TavernLayout
