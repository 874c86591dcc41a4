import TavernLayout.Layout.Roofing
import TavernLayout.Proofs.Number.Binary
import TavernLayout.Proofs.Works

/-!
# What is drawn for a roof

A shape can always be drawn: the weights are quotients of sides that have a double, and one of them
is positive. Roofs that rooms stand on are floors and no others are, only floors have stairs, and
bars lie over gardens.

* `possibleStairs_ok`: the doors around the rooms are found;
* `allowed_of_options`, `options_ok`: the shapes that may be drawn, and that there is one;
* `drawn_of_drawRoof`, `ends_drawRoof`: the roof that is drawn.
-/

namespace TavernLayout

variable {rooms : Store .room Room} {walls : Store .wall Wall}
  {ids covered above : List (Ref .room)} {roof bounds : Rect} {base : Int}

/-! ## Stairs -/

def Surrounded (rooms : Store .room Room) (walls : Store .wall Wall) : Prop :=
  ∀ r ∈ rooms.items, walls.Resolves r.wallRefs

namespace Stairs

theorem betweenRooms_ok {lower upper : Room} (hl : walls.Resolves lower.wallRefs)
    (hu : walls.Resolves upper.wallRefs) : ∃ ss, betweenRooms walls lower upper = .ok ss := by
  unfold betweenRooms doors
  split
  · have hboth : walls.Resolves (lower.wallRefs ++ upper.wallRefs) := fun id hid =>
      (List.mem_append.1 hid).elim (hl id) (hu id)
    obtain ⟨wls, hwls⟩ := mapM_ok hboth
    rw [hwls]
    exact ⟨_, rfl⟩
  · exact ⟨_, rfl⟩

theorem toRoom_ok {upper : Room} (hw : Surrounded rooms walls)
    (hu : walls.Resolves upper.wallRefs) (h : rooms.Resolves ids) :
    ∃ ss, toRoom rooms walls upper ids = .ok ss := by
  induction ids with
  | nil => exact ⟨[], rfl⟩
  | cons id ids ih =>
    obtain ⟨lower, hlower⟩ := h id List.mem_cons_self
    obtain ⟨found, hfound⟩ := betweenRooms_ok (hw lower (Store.mem_of_lookup hlower)) hu
    obtain ⟨rest, hrest⟩ := ih fun i hi => h i (List.mem_cons_of_mem _ hi)
    refine ⟨found ++ rest, ?_⟩
    rw [toRoom, hlower]
    simp only [bind, Except.bind, hfound, hrest]
    rfl

end Stairs

theorem possibleStairs_ok (hw : Surrounded rooms walls) (hc : rooms.Resolves covered)
    (ha : rooms.Resolves above) : ∃ ss, possibleStairs rooms walls covered above = .ok ss := by
  induction above with
  | nil => exact ⟨[], rfl⟩
  | cons id ids ih =>
    obtain ⟨upper, hupper⟩ := ha id List.mem_cons_self
    obtain ⟨found, hfound⟩ :=
      Stairs.toRoom_ok hw (hw upper (Store.mem_of_lookup hupper)) hc
    obtain ⟨rest, hrest⟩ := ih fun i hi => ha i (List.mem_cons_of_mem _ hi)
    refine ⟨found ++ rest, ?_⟩
    rw [possibleStairs, hupper]
    simp only [bind, Except.bind, hfound, hrest]
    rfl

/-! ## Weights -/

/-- Sides that are positive and of at most sixty-four bits. -/
def Vec2.Moderate (v : Vec2) : Prop :=
  (0 < v.x ∧ v.x.natAbs < 2 ^ 64) ∧ 0 < v.y ∧ v.y.natAbs < 2 ^ 64

namespace RoofWeight

theorem toFloat_fiveTimes {v : Vec2} (h : v.Moderate) :
    ∃ x, (fiveTimes v.x v.y).toFloat = .ok x := by
  obtain ⟨⟨-, hx⟩, hy, -⟩ := h
  obtain ⟨q, hq⟩ := Number.quotient_ok (b := v.y) (by omega) hx (by decide)
  rw [toFloat, hq]
  exact ⟨_, rfl⟩

theorem toFloat_fiveOver {v : Vec2} (h : v.Moderate) :
    ∃ x, (fiveOver v.x v.y).toFloat = .ok x := by
  obtain ⟨⟨hx, hx'⟩, hy, hy'⟩ := h
  obtain ⟨q, hq⟩ := Number.quotient_ok (b := v.y) (by omega) hx' (by decide)
  have hpos := Number.quotientBits_pos (Int.natAbs_pos.2 (by omega : v.x ≠ 0))
    (Int.natAbs_pos.2 (by omega : v.y ≠ 0)) (Nat.le_of_lt hy') (by decide)
  rw [toFloat, hq]
  simp only [bind, Except.bind]
  rw [if_neg (Nat.pos_iff_ne_zero.1 hpos)]
  exact ⟨_, rfl⟩

end RoofWeight

/-! ## Shapes -/

namespace RoofStyle

/-- A shape with a fixed weight that is neither a floor nor made of bars. -/
def Plain (o : RoofOption) : Prop :=
  (∃ n, o.1 = .tenths n) ∧ o.2 ≠ .floor ∧ ∀ d, o.2 ≠ .bars d

theorem plain_gableOptions {heights : DirMap (Option Int)} {size : Vec2} {d : Dir} {o : RoofOption}
    (h : o ∈ gableOptions heights size base d) : Plain o := by
  unfold gableOptions at h
  split at h
  · cases h
  · obtain ⟨z, -, rfl⟩ := List.mem_map.1 h
    exact ⟨⟨10, rfl⟩, nofun, nofun⟩

theorem plain_leanToOptions {heights : DirMap (Option Int)} {d : Dir} {o : RoofOption}
    (h : o ∈ leanToOptions heights base d) : Plain o := by
  unfold leanToOptions at h
  split at h
  · obtain ⟨z, -, rfl⟩ := List.mem_map.1 h
    exact ⟨⟨10, rfl⟩, nofun, nofun⟩
  · cases h

theorem plain_hipOptions {heights : DirMap (Option Int)} {o : RoofOption}
    (h : o ∈ hipOptions heights base) : Plain o := by
  unfold hipOptions at h
  split at h
  · obtain ⟨z, -, rfl⟩ := List.mem_map.1 h
    exact ⟨⟨8, rfl⟩, nofun, nofun⟩
  · cases h

theorem mem_openOptions {rs : List Room} {gardens : Bool} {o : RoofOption}
    (h : o ∈ openOptions rs gardens roof base) :
    Plain o ∨ gardens = true ∧ o ∈ barOptions roof.size := by
  simp only [openOptions, List.mem_cons, List.mem_append, List.mem_flatMap] at h
  rcases h with rfl | hbars | ⟨d, -, hd⟩ | ⟨d, -, hd⟩ | hhip
  · exact .inl ⟨⟨5, rfl⟩, nofun, nofun⟩
  · split at hbars
    · next hg => exact .inr ⟨hg, hbars⟩
    · cases hbars
  · exact .inl (plain_gableOptions hd)
  · exact .inl (plain_leanToOptions hd)
  · exact .inl (plain_hipOptions hhip)

theorem allGardens_ok (h : rooms.Resolves ids) : ∃ b, allGardens rooms ids = .ok b ∧
    (b = true → ∀ id ∈ ids, ∀ r, rooms.lookup id = .ok r → r.kind = .garden) := by
  induction ids with
  | nil => exact ⟨true, rfl, fun _ id hid => by cases hid⟩
  | cons id ids ih =>
    obtain ⟨r, hr⟩ := h id List.mem_cons_self
    obtain ⟨b, hb, hall⟩ := ih fun i hi => h i (List.mem_cons_of_mem _ hi)
    rw [allGardens, hr]
    simp only [bind, Except.bind]
    split
    · next hgarden =>
      refine ⟨b, hb, fun htrue i hi s hs => ?_⟩
      rcases List.mem_cons.1 hi with rfl | hi
      · obtain rfl := Except.ok.inj (hr.symm.trans hs)
        exact hgarden
      · exact hall htrue i hi s hs
    · exact ⟨false, rfl, fun hfalse => by cases hfalse⟩

/-- What is known of a shape for a roof over `covered` with the rooms `above` on it. -/
structure Allowed (rooms : Store .room Room) (covered above : List (Ref .room))
    (style : RoofStyle) : Prop where
  floor_iff : style = .floor ↔ above ≠ []
  bars : ∀ d, style = .bars d → ∀ id ∈ covered, ∀ r, rooms.lookup id = .ok r → r.kind = .garden

theorem allowed_of_exactOptions {os : List RoofOption} (hc : rooms.Resolves covered)
    (h : exactOptions rooms covered above roof base = .ok os) :
    ∀ o ∈ os, Allowed rooms covered above o.2 := by
  intro o ho
  unfold exactOptions at h
  split at h
  · next habove =>
    obtain rfl := Except.ok.inj h
    obtain rfl := List.mem_singleton.1 ho
    exact ⟨⟨fun _ => habove, fun _ => rfl⟩, nofun⟩
  · next habove =>
    obtain ⟨gardens, hgardens, hall⟩ := allGardens_ok hc
    rw [hgardens] at h
    obtain rfl := Except.ok.inj h
    rcases mem_openOptions ho with ⟨-, hfloor, hbars⟩ | ⟨htrue, hbars⟩
    · exact ⟨⟨fun h => absurd h hfloor, fun h => absurd h habove⟩, fun d h => absurd h (hbars d)⟩
    · simp only [barOptions, List.mem_cons, List.not_mem_nil, or_false] at hbars
      rcases hbars with rfl | rfl
      · exact ⟨⟨nofun, fun h => absurd h habove⟩, fun _ _ => hall htrue⟩
      · exact ⟨⟨nofun, fun h => absurd h habove⟩, fun _ _ => hall htrue⟩

/-- Weights can be computed, and the first one is positive. -/
theorem exactOptions_ok (above : List (Ref .room)) (base : Int) (hc : rooms.Resolves covered)
    (hsize : roof.size.Moderate) :
    ∃ os, exactOptions rooms covered above roof base = .ok os ∧
      (∀ o ∈ os, ∃ x, o.1.toFloat = .ok x) ∧
      ∃ o ∈ os, ∃ x, o.1.toFloat = .ok x ∧ Weight.less 0.0 x = true := by
  unfold exactOptions
  split
  · refine ⟨_, rfl, fun o ho => ?_, _, List.mem_singleton.2 rfl, _, rfl, by decide +kernel⟩
    obtain rfl := List.mem_singleton.1 ho
    exact ⟨_, rfl⟩
  · obtain ⟨gardens, hgardens, -⟩ := allGardens_ok hc
    rw [hgardens]
    refine ⟨_, rfl, fun o ho => ?_, _, List.mem_cons_self, _, rfl, by decide +kernel⟩
    rcases mem_openOptions ho with ⟨⟨n, hn⟩, -, -⟩ | ⟨-, hbars⟩
    · rw [hn]
      exact ⟨_, rfl⟩
    · simp only [barOptions, List.mem_cons, List.not_mem_nil, or_false] at hbars
      rcases hbars with rfl | rfl
      · exact RoofWeight.toFloat_fiveTimes hsize
      · exact RoofWeight.toFloat_fiveOver hsize

def weigh (o : RoofOption) : Except Fault (Float × RoofStyle) := do return (← o.1.toFloat, o.2)

theorem weigh_eq_ok_iff {o : RoofOption} {e : Float × RoofStyle} :
    weigh o = .ok e ↔ o.1.toFloat = .ok e.1 ∧ o.2 = e.2 := by
  unfold weigh
  cases o.1.toFloat with
  | error fault => simp [bind, Except.bind]
  | ok x => simp [bind, Except.bind, pure, Except.pure, Prod.ext_iff]

/-- Only shapes that are allowed take part in the lottery. -/
theorem allowed_of_options {es : List (Float × RoofStyle)} {l : Lottery Float RoofStyle}
    (hc : rooms.Resolves covered) (hes : options rooms covered above roof base = .ok es)
    (hl : Lottery.build es = .ok l) : ∀ style ∈ l.items, Allowed rooms covered above style := by
  intro style hstyle
  unfold options at hes
  obtain ⟨os, hos, hes⟩ := except_bind_eq_ok_iff.1 hes
  change os.mapM weigh = .ok es at hes
  obtain ⟨e, he, rfl⟩ := List.mem_map.1 hstyle
  rw [Lottery.entries_build hl] at he
  obtain ⟨o, ho, hweigh⟩ := (mem_iff_of_mapM_ok hes).1 (List.mem_filter.1 he).1
  rw [← (weigh_eq_ok_iff.1 hweigh).2]
  exact allowed_of_exactOptions hc hos o ho

/-- There is a lottery. -/
theorem options_ok (above : List (Ref .room)) (base : Int) (hc : rooms.Resolves covered)
    (hsize : roof.size.Moderate) :
    ∃ es l, options rooms covered above roof base = .ok es ∧ Lottery.build es = .ok l := by
  obtain ⟨os, hos, hall, o, ho, x, hx, hpos⟩ := exactOptions_ok above base hc hsize
  obtain ⟨es, hes⟩ : ∃ es, os.mapM weigh = .ok es := by
    refine mapM_ok fun o ho => ?_
    obtain ⟨x, hx⟩ := hall o ho
    exact ⟨(x, o.2), weigh_eq_ok_iff.2 ⟨hx, rfl⟩⟩
  have hmem := (mem_iff_of_mapM_ok hes).2 ⟨o, ho, weigh_eq_ok_iff (e := (x, o.2)).2 ⟨hx, rfl⟩⟩
  obtain ⟨l, hl⟩ := Lottery.build_ok hmem hpos
  refine ⟨es, l, ?_, hl⟩
  unfold options
  rw [hos]
  exact hes

end RoofStyle

/-! ## The roof that is drawn -/

namespace Roofing

variable {σ : Type} {src : Source σ}

/-- What is known of the roof over `covered` with the rooms `above` on it. -/
structure Drawn (rooms : Store .room Room) (covered above : List (Ref .room)) (bounds : Rect)
    (base : Int) (roof : Roof) : Prop where
  bounds : roof.bounds = bounds
  base : roof.base = base
  allowed : RoofStyle.Allowed rooms covered above roof.style
  stairs : roof.stairs ≠ none → above ≠ []

/-- The shape is drawn after the staircase. -/
theorem drawn_of_drawStyle (hc : rooms.Resolves covered) {stairs : Option Stairs}
    (hstairs : stairs ≠ none → above ≠ []) {rf : Roof} {st st' : Stream σ}
    (h : (do
        let lottery ← Lottery.build (← RoofStyle.options rooms covered above bounds base)
        let style ← lottery.draw src
        return { bounds, base, style, stairs } : Draw σ Roof) st = .ok rf st') :
    Drawn rooms covered above bounds base rf := by
  obtain ⟨es, st1, h1, h⟩ := bind_eq_ok_iff.1 h
  obtain ⟨hes, rfl⟩ := lift_eq_ok_iff.1 h1
  obtain ⟨l, st2, h2, h⟩ := bind_eq_ok_iff.1 h
  obtain ⟨hl, rfl⟩ := lift_eq_ok_iff.1 h2
  obtain ⟨style, st3, h3, h⟩ := bind_eq_ok_iff.1 h
  obtain ⟨rfl, -⟩ := pure_eq_ok_iff.1 h
  exact ⟨rfl, rfl, RoofStyle.allowed_of_options hc hes hl style (Lottery.mem_of_draw h3), hstairs⟩

/-- What is drawn is allowed, however large the roof is. -/
theorem drawn_of_drawRoof (hc : rooms.Resolves covered) {rf : Roof} {st st' : Stream σ}
    (h : drawRoof src rooms walls covered above bounds base st = .ok rf st') :
    Drawn rooms covered above bounds base rf := by
  obtain ⟨candidates, st1, h1, h⟩ := bind_eq_ok_iff.1 h
  obtain ⟨hcandidates, rfl⟩ := lift_eq_ok_iff.1 h1
  dsimp only at h
  split at h
  · obtain ⟨stairs, st2, h2, h⟩ := bind_eq_ok_iff.1 h
    obtain ⟨rfl, rfl⟩ := pure_eq_ok_iff.1 h2
    exact drawn_of_drawStyle hc (fun hsome => absurd rfl hsome) h
  · next hne =>
    obtain ⟨stairs, st2, h2, h⟩ := bind_eq_ok_iff.1 h
    refine drawn_of_drawStyle hc (fun _ => ?_) h
    rintro rfl
    exact hne (Except.ok.inj hcandidates).symm

/-- A roof with sides that can be compared is drawn. -/
theorem ends_drawRoof (hw : Surrounded rooms walls) (hc : rooms.Resolves covered)
    (ha : rooms.Resolves above) (hsize : bounds.size.Moderate) (st : Stream σ) :
    Ends (fun roof _ => Drawn rooms covered above bounds base roof) (fun _ => False)
      (drawRoof src rooms walls covered above bounds base) st := by
  refine ⟨fun rf st' h => drawn_of_drawRoof hc h, ?_⟩
  obtain ⟨candidates, hcandidates⟩ := possibleStairs_ok hw hc ha
  obtain ⟨es, l, hes, hl⟩ := RoofStyle.options_ok above base hc hsize
  unfold drawRoof
  refine (FaultsIn.lift (by simp [hcandidates])).bind fun ss st1 h1 => ?_
  have hstyle : ∀ (stairs : Option Stairs) st, FaultsIn (fun _ => False) (do
      let lottery ← Lottery.build (← RoofStyle.options rooms covered above bounds base)
      let style ← lottery.draw src
      return { bounds, base, style, stairs } : Draw σ Roof) st := by
    intro stairs st
    refine (FaultsIn.lift (by simp [hes])).bind fun es' st3 h3 => ?_
    obtain ⟨hes', rfl⟩ := lift_eq_ok_iff.1 h3
    obtain rfl := Except.ok.inj (hes.symm.trans hes')
    refine (FaultsIn.lift (by simp [hl])).bind fun l' st4 h4 => ?_
    exact (l'.faultsIn_draw src st4).bind fun style st5 h5 => .pure _
  dsimp only
  split
  · exact (FaultsIn.pure none).bind fun stairs st2 _ => hstyle stairs st2
  · next hne =>
    have hchoose : FaultsIn (fun _ => False)
        (some <$> src.choose ss : Draw σ (Option Stairs)) st1 := by
      rw [map_eq_pure_bind]
      exact (Source.faultsIn_choose hne).bind fun _ _ _ => .pure _
    exact hchoose.bind fun stairs st2 _ => hstyle stairs st2

end Roofing

end TavernLayout
