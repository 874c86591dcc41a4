import TavernLayout.Proofs.Growth.Frontier
import TavernLayout.Proofs.Growth.Settling

/-!
# The history of a building

A building that grows is the room behind the front door, to which rooms were added one by one:
beside another room, on a side that had no wall yet, or under one. The journal only gets longer, and
it tells which rooms were dug out, and of no others.

* `Build.Records`: a program adds to the journal but tells of no room that was dug out; closed under
  sequences;
* `digs_of_digBasement`: the journal tells of a room exactly when it was dug out;
* `Built`, `built_of_rounds`: the history of every building that grows.
-/

namespace TavernLayout

variable {σ : Type} {src : Source σ} {plot : Plot} {w w' : Works σ}

/-! ## The journal -/

def Event.Tells (e : Event) (room parent : Ref .room) : Prop := ∃ k, e = .dug room parent k

/-- The event tells of no room that was dug out. -/
def Event.Quiet (e : Event) : Prop := ∀ room parent, ¬ e.Tells room parent

namespace Build

variable {α β : Type}

/-- The program adds to the journal, but tells of no room that was dug out. -/
structure Records (x : Build σ α) : Prop where
  adds : ∀ {w a w'}, x w = .ok a w' → ∃ es, w'.journal = w.journal ++ es ∧ ∀ e ∈ es, e.Quiet

namespace Records

theorem of_eq {x : Build σ α} (h : ∀ w a w', x w = .ok a w' → w'.journal = w.journal) :
    Records x := by
  refine ⟨fun {w a w'} hx => ⟨[], ?_, by simp⟩⟩
  rw [List.append_nil, h w a w' hx]

theorem pure (a : α) : Records (pure a : Build σ α) :=
  of_eq fun _ _ _ h => by rw [(pure_eq_ok_iff.1 h).2]

theorem bind {x : Build σ α} {f : α → Build σ β} (hx : Records x) (hf : ∀ a, Records (f a)) :
    Records (x >>= f) := by
  refine ⟨fun {w b w'} h => ?_⟩
  obtain ⟨a, u, hxa, hfa⟩ := bind_eq_ok_iff.1 h
  obtain ⟨es, hes, hquiet⟩ := hx.adds hxa
  obtain ⟨fs, hfs, hquiet'⟩ := (hf a).adds hfa
  refine ⟨es ++ fs, ?_, fun e he => ?_⟩
  · rw [hfs, hes, List.append_assoc]
  · exact (List.mem_append.1 he).elim (hquiet e) (hquiet' e)

theorem get : Records (get : Build σ (Works σ)) :=
  of_eq fun _ _ _ h => by rw [(get_eq_ok_iff.1 h).2]

theorem lift (x : Except Fault α) : Records (liftM x : Build σ α) :=
  of_eq fun _ _ _ h => by rw [(lift_eq_ok_iff.1 h).2]

theorem draw (d : Draw σ α) : Records (draw d) := by
  refine of_eq fun w a w' h => ?_
  obtain ⟨st, -, rfl⟩ := draw_eq_ok_iff.1 h
  rfl

/-- A change that leaves the journal as it is. -/
theorem modify {f : Works σ → Works σ} (hf : ∀ w, (f w).journal = w.journal) :
    Records (modify f) := by
  refine of_eq fun w a w' h => ?_
  obtain rfl := modify_eq_ok_iff.1 h
  exact hf w

theorem note {e : Event} (he : e.Quiet) : Records (note e : Build σ Unit) := by
  refine ⟨fun {w a w'} h => ⟨[e], ?_, fun e' he' => ?_⟩⟩
  · obtain rfl := modify_eq_ok_iff.1 h
    rfl
  · obtain rfl := List.mem_singleton.1 he'
    exact he

theorem refuse {e : Event} (he : e.Quiet) : Records (refuse e : Build σ (Option α)) :=
  (note he).bind fun _ => pure _

theorem room (id : Ref .room) : Records (room id : Build σ Room) := get.bind fun _ => lift _

theorem addRoom (r : Room) : Records (addRoom r : Build σ (Ref .room)) := by
  refine of_eq fun w id w' h => ?_
  obtain ⟨-, -, rfl⟩ := addRoom_eq_ok_iff.1 h
  rfl

theorem addWall (wl : Wall) : Records (addWall wl : Build σ (Ref .wall)) := by
  refine of_eq fun w id w' h => ?_
  obtain ⟨-, -, rfl⟩ := addWall_eq_ok_iff.1 h
  rfl

theorem changeRoom (id : Ref .room) (f : Room → Room) :
    Records (changeRoom id f : Build σ Unit) :=
  get.bind fun _ => (lift _).bind fun _ => modify fun _ => rfl

theorem offer (p : Prospect) (k : Kind) : Records (offer p k : Build σ Unit) :=
  modify fun _ => rfl

end Records

end Build

open Build

theorem Event.quiet_sideRefused (parent : Ref .room) (side : Dir) (why : Refusal) :
    (Event.sideRefused parent side why).Quiet := by
  rintro room parent ⟨k, h⟩
  cases h

theorem Event.quiet_basementRefused (parent : Ref .room) (why : Refusal) :
    (Event.basementRefused parent why).Quiet := by
  rintro room parent ⟨k, h⟩
  cases h

theorem Event.quiet_grown (room parent : Ref .room) (side : Dir) (kind : Kind) :
    (Event.grown room parent side kind).Quiet := by
  rintro room parent ⟨k, h⟩
  cases h

theorem records_joinSideRoom (parent : Ref .room) (pr room : Rect) (d : Dir) (layers : Span)
    (k : Kind) (offset : Int) :
    Records (joinSideRoom parent pr room d layers k offset : Build σ (Ref .room)) := by
  unfold joinSideRoom
  refine (Records.addRoom _).bind fun id => (Records.addWall _).bind fun wall => ?_
  refine (Records.changeRoom _ _).bind fun _ => (Records.changeRoom _ _).bind fun _ => ?_
  refine (Records.offer _ _).bind fun _ => ?_
  exact (Records.note (Event.quiet_grown _ _ _ _)).bind fun _ => .pure _

theorem records_growInto (parent : Ref .room) (pr space : Rect) (d : Dir) (layers : Span)
    (k : Kind) : Records (growInto src parent pr space d layers k) := by
  unfold growInto
  dsimp only
  split
  · exact .refuse (Event.quiet_sideRefused _ _ _)
  · refine (Records.draw _).bind fun c => (Records.draw _).bind fun found => ?_
    cases found with
    | none => exact .refuse (Event.quiet_sideRefused _ _ _)
    | some room =>
      dsimp only
      split
      · exact .refuse (Event.quiet_sideRefused _ _ _)
      · refine (Records.draw _).bind fun lower => ?_
        exact (records_joinSideRoom _ _ _ _ _ _ _).bind fun id => .pure _

theorem records_growSide (parent : Ref .room) (d : Dir) :
    Records (growSide src plot parent d) := by
  unfold growSide
  refine (Records.room _).bind fun room => (Records.draw _).bind fun height => ?_
  refine (Records.lift _).bind fun wanted => Records.get.bind fun u => ?_
  split
  · exact .refuse (Event.quiet_sideRefused _ _ _)
  · refine Records.get.bind fun v => (Records.lift _).bind fun lottery => ?_
    split
    · exact .refuse (Event.quiet_sideRefused _ _ _)
    · exact (Records.draw _).bind fun k => records_growInto _ _ _ _ _ _

/-- A room was dug out under `parent`, and the journal tells so, or the rooms are as they were. -/
def Digs (parent : Ref .room) (w w' : Works σ) : Prop :=
  ∃ es, w'.journal = w.journal ++ es ∧
    ((w'.rooms = w.rooms ∧ ∀ e ∈ es, e.Quiet) ∨
      (w'.rooms ≠ w.rooms ∧ ∃ k, es = [.dug ⟨(w.rooms.size : Int)⟩ parent k]))

theorem digs_of_refuse {α : Type} {parent : Ref .room} {why : Refusal} {u : Works σ} {r : Option α}
    (h : refuse (.basementRefused parent why) u = .ok r w') (hj : u.journal = w.journal)
    (hr : u.rooms = w.rooms) : Digs parent w w' := by
  obtain ⟨es, hes, hquiet⟩ := (Records.refuse (Event.quiet_basementRefused _ _)).adds h
  obtain ⟨-, rfl⟩ := refuse_eq_ok h
  exact ⟨es, by rw [hes, hj], .inl ⟨hr, hquiet⟩⟩

theorem digs_of_digBasement {parent : Ref .room} {r : Option (Ref .room)}
    (h : digBasement src plot parent w = .ok r w') : Digs parent w w' := by
  unfold digBasement at h
  obtain ⟨room, w1, h1, h⟩ := bind_eq_ok_iff.1 h
  obtain ⟨-, rfl⟩ := room_eq_ok_iff.1 h1
  obtain ⟨height, w2, h2, h⟩ := bind_eq_ok_iff.1 h
  obtain ⟨st2, -, rfl⟩ := draw_eq_ok_iff.1 h2
  obtain ⟨u, w3, h3, h⟩ := bind_eq_ok_iff.1 h
  obtain ⟨-, rfl⟩ := get_eq_ok_iff.1 h3
  generalize clearSpace _ _ _ _ _ = fitted? at h
  cases fitted? with
  | none => exact digs_of_refuse h rfl rfl
  | some fitted =>
    obtain ⟨u, w4, h4, h⟩ := bind_eq_ok_iff.1 h
    obtain ⟨-, rfl⟩ := get_eq_ok_iff.1 h4
    obtain ⟨lottery?, w5, h5, h⟩ := bind_eq_ok_iff.1 h
    obtain ⟨-, rfl⟩ := lift_eq_ok_iff.1 h5
    cases lottery? with
    | none => exact digs_of_refuse h rfl rfl
    | some lottery =>
      obtain ⟨k, w6, h6, h⟩ := bind_eq_ok_iff.1 h
      obtain ⟨st6, -, rfl⟩ := draw_eq_ok_iff.1 h6
      obtain ⟨found, w7, h7, h⟩ := bind_eq_ok_iff.1 h
      obtain ⟨st7, -, rfl⟩ := draw_eq_ok_iff.1 h7
      cases found with
      | none => exact digs_of_refuse h rfl rfl
      | some rect =>
        obtain ⟨id, w8, h8, h⟩ := bind_eq_ok_iff.1 h
        obtain ⟨-, rfl⟩ := pure_eq_ok_iff.1 h
        unfold joinBasement at h8
        obtain ⟨id', w9, h9, h8⟩ := bind_eq_ok_iff.1 h8
        obtain ⟨-, rfl, rfl⟩ := addRoom_eq_ok_iff.1 h9
        obtain ⟨u10, w10, h10, h8⟩ := bind_eq_ok_iff.1 h8
        obtain rfl := modify_eq_ok_iff.1 h10
        obtain ⟨u11, w11, h11, h8⟩ := bind_eq_ok_iff.1 h8
        obtain rfl := modify_eq_ok_iff.1 h11
        obtain ⟨-, rfl⟩ := pure_eq_ok_iff.1 h8
        refine ⟨_, rfl, .inr ⟨fun hsame => ?_, k, rfl⟩⟩
        have := congrArg (fun rooms => rooms.items.length) hsame
        simp at this

/-! ## Rooms that were added -/

namespace Growth

/-- A building with the rooms and walls of its history, and the events since its entrance was
built. -/
inductive Built (src : Source σ) (plot : Plot) : List Event → Works σ → Prop
  | front {u v : Works σ} {door : Vec3} {bounds : Box} {room : Rect} {k : Kind} {facing : Dir} :
      u.rooms = .empty → u.walls = .empty → Entrance.Found plot door bounds room k →
      (u.addFront bounds room k door.plan facing).Idle v → Built src plot [] v
  | idle {es fs : List Event} {u v : Works σ} : Built src plot es u → (∀ e ∈ fs, e.Quiet) →
      v.rooms = u.rooms → v.walls = u.walls → Built src plot (es ++ fs) v
  | beside {es fs : List Event} {u v : Works σ} {i : Nat} {d : Dir} {parent : Room}
      {fitted room : Rect} {layers : Span} {k : Kind} {offset : Int} : Built src plot es u →
      (∀ e ∈ fs, e.Quiet) → SideRoom.Found src plot u i d parent fitted room layers k offset →
      parent.walls.get d = [] →
      v.rooms = (u.addBeside i parent.footprint room d layers k offset).rooms →
      v.walls = (u.addBeside i parent.footprint room d layers k offset).walls →
      Built src plot (es ++ fs) v
  | under {es : List Event} {u v : Works σ} {i : Nat} {parent : Room} {fitted room : Rect}
      {layers : Span} {k l : Kind} : Built src plot es u →
      Basement.Found src plot u i parent fitted room layers k →
      v.rooms = (u.addUnder room layers k).rooms →
      v.walls = (u.addUnder room layers k).walls →
      Built src plot (es ++ [.dug ⟨(u.rooms.size : Int)⟩ ⟨(i : Int)⟩ l]) v

theorem built_of_opened (hs : src.Lawful) (h : Opened src plot w) : Built src plot [] w := by
  obtain ⟨stream, journal, door, facing, id, h⟩ := h
  obtain ⟨bounds, room, k, hf, hi⟩ := addEntrance_cases hs h
  exact .front rfl rfl hf hi

/-- What a trial of room `i` adds to the journal: it tells of the room that was dug out, if one was,
and of no other. -/
def Told (i : Nat) (t : Option Trial) (w w' : Works σ) (es : List Event) : Prop :=
  w'.journal = w.journal ++ es ∧
    (((∀ e ∈ es, e.Quiet) ∧ (t = some .basement → w'.rooms = w.rooms)) ∨
      (w'.rooms ≠ w.rooms ∧ t = some .basement ∧
        ∃ k, es = [.dug ⟨(w.rooms.size : Int)⟩ ⟨(i : Int)⟩ k]))

section Trials

variable {i : Nat} {d : Dir} {r : Option (Ref .room)}

theorem told_idle (w : Works σ) : Told i none w w [] :=
  ⟨(List.append_nil _).symm, .inl ⟨by simp, by simp⟩⟩

theorem told_of_growSide (h : growSide src plot ⟨(i : Int)⟩ d w = .ok r w') :
    ∃ es, Told i (some (.side d)) w w' es := by
  obtain ⟨es, hes, hquiet⟩ := (records_growSide _ _).adds h
  exact ⟨es, hes, .inl ⟨hquiet, by simp⟩⟩

theorem told_of_digBasement (h : digBasement src plot ⟨(i : Int)⟩ w = .ok r w') :
    ∃ es, Told i (some .basement) w w' es := by
  obtain ⟨es, hes, ⟨hsame, hquiet⟩ | ⟨hmore, hk⟩⟩ := digs_of_digBasement h
  · exact ⟨es, hes, .inl ⟨hquiet, fun _ => hsame⟩⟩
  · exact ⟨es, hes, .inr ⟨hmore, rfl, hk⟩⟩

theorem told_of_trial {t : Option Trial} {q : Prospect} (hs : src.Lawful) (ht : Tended w)
    (hi : i < w.rooms.size) (h : trial src plot i t q w = .ok () w') :
    ∃ v es, Tried src plot i w v t ∧ Told i t w v es ∧ w' = v.giveBack q := by
  have hback : ∀ {v : Works σ}, _ → w' = v.giveBack q := fun {v} hv =>
    (ends_giveBack (P := fun _ => True) v q).1 () w' hv
  unfold trial at h
  cases t with
  | none => exact ⟨w, [], .idle (.refl w), told_idle w, hback h⟩
  | some trial =>
    cases trial with
    | side d =>
      obtain ⟨a, v, hv, h⟩ := bind_eq_ok_iff.1 h
      obtain ⟨r, hv⟩ := discard_eq_ok_iff.1 hv
      have htried := (tried_growSide (P := fun _ => True) hs hi ht.rooms ht.walls
        (fun _ _ _ => trivial) fun _ _ _ => trivial).1 r v hv
      obtain ⟨es, htold⟩ := told_of_growSide hv
      exact ⟨v, es, htried, htold, hback h⟩
    | basement =>
      obtain ⟨a, v, hv, h⟩ := bind_eq_ok_iff.1 h
      obtain ⟨r, hv⟩ := discard_eq_ok_iff.1 hv
      have htried := (tried_digBasement (P := fun _ => True) hs hi ht.rooms).1 r v hv
      obtain ⟨es, htold⟩ := told_of_digBasement hv
      exact ⟨v, es, htried, htold, hback h⟩

end Trials

/-- One round is a trial of a room of the frontier, and the journal tells of it. -/
theorem told_of_step (hs : src.Lawful) (ht : Tended w) (h : step src plot w = .ok () w') :
    ∃ (n : Nat) (p : Prospect) (i : Nat) (t : Option Trial) (q : Prospect) (st st' : Stream σ)
      (v : Works σ) (es : List Event), w.frontier[n]? = some p ∧ p.room = ⟨(i : Int)⟩ ∧
      nextTrial src p st = .ok (t, q) st' ∧ Tried src plot i (w.take n) v t ∧
      Told i t w v es ∧ w' = v.giveBack q := by
  unfold step at h
  obtain ⟨u, w1, h1, h⟩ := bind_eq_ok_iff.1 h
  obtain ⟨rfl, rfl⟩ := get_eq_ok_iff.1 h1
  obtain ⟨m, w2, h2, h⟩ := bind_eq_ok_iff.1 h
  obtain ⟨st, hm, rfl⟩ := draw_eq_ok_iff.1 h2
  cases hp : w.frontier[m.toNat]? with
  | none =>
    rw [hp] at h
    exact absurd h (by rw [throw_eq_ok_iff]; exact id)
  | some p =>
    rw [hp] at h
    obtain ⟨-, i, hi, hroom⟩ := ht.offered p (List.mem_of_getElem? hp)
    obtain ⟨u3, w3, h3, h⟩ := bind_eq_ok_iff.1 h
    obtain rfl := modify_eq_ok_iff.1 h3
    obtain ⟨⟨t, q⟩, w4, h4, h⟩ := bind_eq_ok_iff.1 h
    obtain ⟨st4, hnext, rfl⟩ := draw_eq_ok_iff.1 h4
    dsimp only at h
    rw [room_nextTrial hs hnext, hroom] at h
    have hidle := Works.Idle.stream (w.take m.toNat) st4
    have htrial : trial src plot i t q { w.take m.toNat with stream := st4 } = .ok () w' := h
    obtain ⟨v, es, htried, htold, hback⟩ :=
      told_of_trial hs ((ht.take m.toNat).of_idle hidle) hi htrial
    exact ⟨m.toNat, p, i, t, q, _, _, v, es, hp, hroom, hnext, htried.of_idle hidle, htold, hback⟩

theorem Built.step {es : List Event} (hs : src.Lawful) (ht : Tended w) (hu : Untried w)
    (hb : Built src plot es w) (h : step src plot w = .ok () w') :
    ∃ fs, w'.journal = w.journal ++ fs ∧ Built src plot (es ++ fs) w' := by
  obtain ⟨n, p, i, t, q, st, st', v, fs, hp, hi, hnext, htried, ⟨hfs, htold⟩, rfl⟩ :=
    told_of_step hs ht h
  refine ⟨fs, hfs, ?_⟩
  cases htried with
  | idle hv =>
    rcases htold with ⟨hquiet, -⟩ | ⟨hmore, -⟩
    · exact .idle hb hquiet hv.rooms hv.walls
    · exact absurd hv.rooms hmore
  | @beside d parent fitted room layers k offset hf hv =>
    have hfound : SideRoom.Found src plot w i d parent fitted room layers k offset :=
      ⟨⟨hf.elder, hf.storey, hf.cleared⟩, hf.drawn, hf.weight, hf.placed⟩
    rcases htold with ⟨hquiet, -⟩ | ⟨-, ht, -⟩
    · refine .beside hb hquiet hfound ?_ hv.rooms hv.walls
      rcases nextTrial_cases hs hnext with ⟨e, he, ht, -⟩ | ⟨-, -, ht, -⟩ | ⟨-, ht, -⟩
      · cases ht
        exact (hu.offers p (List.mem_of_getElem? hp)).2 i _ hi hf.elder d he
      · cases ht
      · cases ht
    · cases ht
  | @under parent fitted room layers k hf hv =>
    have hfound : Basement.Found src plot w i parent fitted room layers k :=
      ⟨hf.elder, hf.storey, hf.cleared, hf.drawn, hf.placed⟩
    rcases htold with ⟨-, hsame⟩ | ⟨-, -, l, rfl⟩
    · have := congrArg (fun rooms => rooms.items.length) ((hsame rfl).symm.trans hv.rooms)
      simp [Works.addUnder, Works.take] at this
    · exact .under hb hfound hv.rooms hv.walls

/-- Every building that grows has a history, and its journal tells what happened in it. -/
theorem built_of_rounds {n : Nat} (hs : src.Lawful) (ho : Opened src plot w)
    (h : Rounds src plot w n w') :
    ∃ es, w'.journal = w.journal ++ es ∧ Built src plot es w' := by
  induction h with
  | zero => exact ⟨[], (List.append_nil _).symm, built_of_opened hs ho⟩
  | succ hr hstep ih =>
    obtain ⟨es, hes, hb⟩ := ih
    obtain ⟨fs, hfs, hb'⟩ :=
      hb.step hs ((Tended.opened hs ho).rounds hs hr) (.rounds hs ho hr) hstep
    exact ⟨es ++ fs, by rw [hfs, hes, List.append_assoc], hb'⟩

/-- The rooms of a history have settled one after the other. -/
theorem Built.grown {es : List Event} (h : Built src plot es w) :
    Grown plot.interior w.outlines := by
  induction h with
  | front hr hw hf hi =>
    obtain ⟨height, hheight, hbounds⟩ := hf.storey
    rw [hi.outlines, Works.outlines_addFront, hbounds, Works.outlines, hr]
    refine .first ⟨hf.inside, hf.accepted, ?_⟩
    simp only [Box.ofRect, Vec2.atLevel]
    omega
  | idle hb hquiet hrooms hwalls ih =>
    rw [Works.outlines, hrooms]
    exact ih
  | beside hb hquiet hf hfree hrooms hwalls ih =>
    rw [Works.outlines, hrooms, ← Works.outlines, Works.outlines_addBeside]
    exact .next ih hf.settled
  | under hb hf hrooms hwalls ih =>
    rw [Works.outlines, hrooms, ← Works.outlines, Works.outlines_addUnder]
    exact .next ih hf.settled

end Growth

end TavernLayout
