import TavernLayout.Proofs.Growth.Rounds
import TavernLayout.Random.Script

/-!
# The room behind the front door

An interior with space for an entrance hall gets one, whatever is drawn, unless it is a strait: as
narrow as a hall can be, and so deep that a hall may be drawn too shallow for its area. A hall of
three by three is too small, and a drawn depth of three is stretched only if the interior ends
within two more.

* `strait_of_placeBeside`: where no hall is found, the interior is a strait;
* `faultsIn_addEntrance`: an entrance fails for want of space only;
* `refused_of_strait`: in a strait, the least draws find no hall;
* `entrance_placed_iff`: the interiors that always get an entrance.
-/

namespace TavernLayout

variable {σ : Type} {src : Source σ} {plot : Plot} {space : Rect} {d facing : Dir} {p : Vec2}
  {st st' : Stream σ} {w w' : Works σ}

namespace Entrance

/-- The interior is as narrow across the facing direction as a hall can be, and reaches more than
the snapping distance beyond the shallowest hall. -/
def Strait (interior : Rect) (facing : Dir) : Prop :=
  facing.orthogonal.along interior.size = 3 ∧ 6 ≤ facing.along interior.size

instance (interior : Rect) (facing : Dir) : Decidable (Strait interior facing) :=
  inferInstanceAs (Decidable (_ ∧ _))

theorem strait_opposite {interior : Rect} : Strait interior facing.opposite ↔
    Strait interior facing := by
  unfold Strait
  rw [Dir.orthogonal_opposite, Dir.along_opposite]

theorem valid_of_fits (h : Kind.entrance.Fits space) : space.Valid := by
  obtain ⟨hleast, -⟩ := h
  simp only [Kind.sides, Vec2.least, Rect.size, Vec2.x_sub, Vec2.y_sub] at hleast
  simp only [Rect.Valid]
  omega

/-- The range of a hall's second side is empty only for a hall of depth three in a space of width
three. -/
theorem across_of_empty {a : Int} (hwide : 3 ≤ d.orthogonal.along space.size) (ha : 3 ≤ a)
    (ha' : a ≤ 7) (h : (Placement.acrossSides .entrance space d a).hi <
      (Placement.acrossSides .entrance space d a).lo) :
    a = 3 ∧ d.orthogonal.along space.size = 3 := by
  simp only [Placement.acrossSides, Kind.areas, Kind.sides] at h
  have hcases : a = 3 ∨ a = 4 ∨ a = 5 ∨ a = 6 ∨ a = 7 := by omega
  rcases hcases with rfl | rfl | rfl | rfl | rfl <;> omega

theorem strait_of_placeBeside (hs : src.Lawful) (hfit : Kind.entrance.Fits space)
    (h : placeBeside src .entrance space d p st = .ok none st') : Strait space d := by
  have hv := valid_of_fits hfit
  obtain ⟨hleast, harea⟩ := hfit
  rw [Placement.least_eq d] at hleast
  rw [Placement.product_eq d] at harea
  have h3 : 3 ≤ d.along space.size ∧ 3 ≤ d.orthogonal.along space.size := by
    simp only [Kind.sides] at hleast
    omega
  rcases Placement.empty_of_placeBeside hs hv h with hempty | ⟨n, hn, a, ha, hempty⟩
  · simp only [Placement.alongSides, Kind.sides] at hempty
    omega
  · rw [Span.mem_iff] at hn
    obtain ⟨h1, h2⟩ := snapTo_mem hn.1 hn.2 (Int.min_le_left ..)
    have hsnap := snapTo_cases (Placement.alongSides .entrance space d).hi (d.along space.size) n
    rw [← ha] at h1 h2 hsnap
    simp only [Placement.alongSides, Kind.sides, snapTolerance] at h1 h2 hn hsnap
    -- a depth of three that was not stretched ends far from the end of the space
    obtain ⟨rfl, hacross⟩ := across_of_empty h3.2 h1 (by omega) hempty
    have hdeep : 4 ≤ d.along space.size := by
      rw [hacross] at harea
      simp only [Kind.areas] at harea
      omega
    exact ⟨hacross, by omega⟩

/-! ## Why an entrance fails -/

/-- The lottery for the room behind the front door always has the hall. -/
theorem entranceLottery_ok (temperature : Float) (space? : Option Rect) :
    ∃ l, Kind.entranceLottery temperature space? = .ok l :=
  Lottery.build_ok (e := (2.0, Kind.entrance)) (by simp) (by decide +kernel)

/-- Only the want of space for a hall stops an entrance: the interior has none, or is a strait. -/
def Refused (plot : Plot) (facing : Dir) (e : Fault) : Prop :=
  e = .noEntrance plot.interior ∧
    (¬ Kind.entrance.Fits plot.interior ∨ Strait plot.interior facing)

theorem faultsIn_chooseEntrance {k : Kind} {door : Vec2} (hs : src.Lawful) :
    FaultsIn (Refused plot facing) (chooseEntrance src plot k door facing) w := by
  have hrefused : ∀ st st', placeBeside src .entrance plot.interior facing.opposite door st =
      .ok none st' → Refused plot facing (.noEntrance plot.interior) := by
    intro st st' h
    by_cases hfit : Kind.entrance.Fits plot.interior
    · exact ⟨rfl, .inr (strait_opposite.1 (strait_of_placeBeside hs hfit h))⟩
    · exact ⟨rfl, .inl hfit⟩
  unfold chooseEntrance
  refine (Build.faultsIn_draw faultsIn_placeBeside).bind fun found w1 h1 => ?_
  obtain ⟨st, h1, -⟩ := Build.draw_eq_ok_iff.1 h1
  cases found with
  | some r => exact .pure _
  | none =>
    dsimp only
    split
    · next hk =>
      rw [hk] at h1
      exact (FaultsIn.throw (hrefused _ _ h1)).bind fun u w2 h2 =>
        (throw_eq_ok_iff.1 h2).elim
    · refine (Build.faultsIn_note _).bind fun u w2 _ => ?_
      refine (Build.faultsIn_draw faultsIn_placeBeside).bind fun found w3 h3 => ?_
      obtain ⟨st', h3, -⟩ := Build.draw_eq_ok_iff.1 h3
      cases found with
      | some r => exact .pure _
      | none => exact .throw (hrefused _ _ h3)

/-- An entrance fails for want of space only. -/
theorem faultsIn_addEntrance {door : Vec3} (hs : src.Lawful) (hr : w.rooms.frozen = false)
    (hw : w.walls.frozen = false) :
    FaultsIn (Refused plot facing) (addEntrance src plot door facing) w := by
  obtain ⟨l, hl⟩ := entranceLottery_ok plot.temperature (some plot.interior)
  unfold addEntrance
  rw [hl]
  refine (FaultsIn.lift fun e he => by cases he).bind fun l' w1 h1 => ?_
  obtain ⟨-, rfl⟩ := lift_eq_ok_iff.1 h1
  refine (Build.faultsIn_draw (Lottery.faultsIn_draw _ _ _)).bind fun wanted w2 h2 => ?_
  refine (Build.faultsIn_draw (Source.faultsIn_between (by decide))).bind fun height w3 h3 => ?_
  have hidle := (Build.idle_of_draw h2).trans (Build.idle_of_draw h3)
  refine (faultsIn_chooseEntrance hs).bind fun kr w4 h4 => ?_
  have hidle4 := hidle.trans (placed_of_chooseEntrance h4).1
  refine (Build.faultsIn_addRoom (by rw [hidle4.rooms]; exact hr)).bind fun id w5 h5 => ?_
  obtain ⟨-, rfl, rfl⟩ := Build.addRoom_eq_ok_iff.1 h5
  dsimp only
  refine (Build.faultsIn_addWall (by rw [hidle4.walls]; exact hw)).bind fun wl w6 h6 => ?_
  obtain ⟨-, rfl, rfl⟩ := Build.addWall_eq_ok_iff.1 h6
  refine (Build.faultsIn_changeRoom (by simp [Store.size])).bind fun u w7 h7 => ?_
  exact (FaultsIn.modify _).bind fun u w8 h8 => .pure _

/-- In a space that is no strait a hall never fails. -/
theorem exists_addEntrance {door : Vec3} (hs : src.Lawful) (hr : w.rooms.frozen = false)
    (hw : w.walls.frozen = false) (hfit : Kind.entrance.Fits plot.interior)
    (hstrait : ¬ Strait plot.interior facing) :
    ∃ id w', addEntrance src plot door facing w = .ok id w' := by
  cases h : addEntrance src plot door facing w with
  | ok id w' => exact ⟨id, w', rfl⟩
  | error e w' =>
    rcases (faultsIn_addEntrance hs hr hw e w' h).2 with hsmall | hnarrow
    · exact absurd hfit hsmall
    · exact absurd hnarrow hstrait

/-! ## The least draws -/

def zeros (n : Nat) : Stream Script := ⟨⟨#[0], n⟩, n⟩

theorem between_zeros {lo hi : Int} {n : Nat} (h : lo ≤ hi) :
    Script.source.between lo hi (zeros n) = .ok lo (zeros (n + 1)) := by
  have hn : ¬ hi < lo := by omega
  simp [Source.between, hn, Source.ask, Script.source, Script.take, zeros, Nat.mod_one]

theorem placeBeside_zeros {n : Nat} (h : Strait space d) :
    placeBeside Script.source .entrance space d p (zeros n) = .ok none (zeros (n + 1)) := by
  obtain ⟨hnarrow, hdeep⟩ := h
  have halong : ¬ (Placement.alongSides .entrance space d).hi <
      (Placement.alongSides .entrance space d).lo := by
    simp only [Placement.alongSides, Kind.sides]
    omega
  have hfar : ¬ (d.along space.size ≤ (Placement.alongSides .entrance space d).hi ∧
      d.along space.size - (Placement.alongSides .entrance space d).lo ≤ snapTolerance) := by
    simp only [Placement.alongSides, Kind.sides, snapTolerance]
    omega
  have hdepth : snapped Script.source (Placement.alongSides .entrance space d).lo
      (Placement.alongSides .entrance space d).hi (d.along space.size) (zeros n) =
        .ok 3 (zeros (n + 1)) := by
    rw [snapped, bind_eq_of_ok (between_zeros (by omega)), snapTo, if_neg hfar]
    rfl
  have hacross : (Placement.acrossSides .entrance space d 3).hi <
      (Placement.acrossSides .entrance space d 3).lo := by
    simp only [Placement.acrossSides, Kind.areas, Kind.sides]
    omega
  unfold placeBeside
  dsimp only
  rw [if_neg halong, bind_eq_of_ok hdepth, if_pos hacross]
  rfl

/-- In a strait the least draws find no hall. -/
theorem refused_of_strait (door : Vec3) (h : Strait plot.interior facing) :
    ∃ w', addEntrance Script.source plot door facing { stream := zeros 0 } =
      .error (.noEntrance plot.interior) w' := by
  have hgarden : decide (Kind.garden.Fits plot.interior) = false := by
    rw [decide_eq_false_iff_not, Kind.Fits, Placement.least_eq facing, h.1]
    simp only [Kind.sides]
    omega
  have hlottery : Kind.entranceLottery plot.temperature (some plot.interior) =
      .ok ⟨(2.0, .entrance), []⟩ := by
    have hnone : Lottery.counts ((0.0 : Float), Kind.garden) = false := by decide +kernel
    have hall : Lottery.counts ((2.0 : Float), Kind.entrance) = true := by decide +kernel
    simp [Kind.entranceLottery, hgarden, Lottery.build, hnone, hall]
  have hwanted : Build.draw ((⟨(2.0, .entrance), []⟩ : Lottery Float Kind).draw Script.source)
      { stream := zeros 0 } = .ok .entrance { stream := zeros 1 } := rfl
  have hheight : Build.draw (Script.source.between heights.lo heights.hi) { stream := zeros 1 } =
      .ok 3 { stream := zeros 2 } :=
    Build.draw_eq_ok_iff.2 ⟨_, between_zeros (by decide), rfl⟩
  have hplace : Build.draw (placeBeside Script.source .entrance plot.interior facing.opposite
      door.plan) { stream := zeros 2 } = .ok none { stream := zeros 3 } :=
    Build.draw_eq_ok_iff.2 ⟨_, placeBeside_zeros (strait_opposite.2 h), rfl⟩
  refine ⟨{ stream := zeros 3 }, ?_⟩
  unfold addEntrance chooseEntrance
  rw [hlottery, bind_eq_of_ok (lift_eq_ok_iff.2 ⟨rfl, rfl⟩), bind_eq_of_ok hwanted,
    bind_eq_of_ok hheight, bind_assoc, bind_eq_of_ok hplace]
  rfl

/-- Among the interiors with space for an entrance hall, those that get an entrance from every
source, at every door and temperature, are the ones that are no strait. -/
theorem entrance_placed_iff (plot : Plot) (door : Vec3) (facing : Dir)
    (hfit : Kind.entrance.Fits plot.interior) :
    (∀ (σ : Type) (src : Source σ) (w : Works σ), src.Lawful → w.rooms.frozen = false →
      w.walls.frozen = false → ∃ id w', addEntrance src plot door facing w = .ok id w') ↔
    ¬ Strait plot.interior facing := by
  constructor
  · intro hall hstrait
    obtain ⟨id, w', hok⟩ := hall Script Script.source { stream := zeros 0 } Script.lawful_source
      rfl rfl
    obtain ⟨w'', hrefused⟩ := refused_of_strait door hstrait
    rw [hrefused] at hok
    cases hok
  · intro hstrait σ src w hs hr hw
    exact exists_addEntrance hs hr hw hfit hstrait

def alley : Plot where
  terrain := { altitude := fun _ => .ok 0.0, temperature := fun _ => .ok 0.0 }
  interior := ⟨⟨0, 0⟩, ⟨3, 6⟩⟩
  temperature := 0.0

/-- From its long side the plot always gets an entrance. -/
theorem alley_entered : Kind.entrance.Fits alley.interior ∧
    ∀ (σ : Type) (src : Source σ) (w : Works σ), src.Lawful → w.rooms.frozen = false →
      w.walls.frozen = false → ∃ id w', addEntrance src alley ⟨0, 3, 0⟩ .negX w = .ok id w' :=
  ⟨by decide, (entrance_placed_iff alley ⟨0, 3, 0⟩ .negX (by decide)).2 (by decide)⟩

/-- The whole plot is a hall, with the door at its short side; yet the least draws find none. -/
theorem alley_refused : Kind.entrance.Fits alley.interior ∧
    Kind.entrance.Accepts alley.interior ∧ (⟨1, 0, 0⟩ : Vec3).plan ∈ alley.interior ∧
    Script.source.Lawful ∧
    ∃ w', addEntrance Script.source alley ⟨1, 0, 0⟩ .negY { stream := zeros 0 } =
      .error (.noEntrance alley.interior) w' :=
  ⟨by decide, by decide, by decide, Script.lawful_source, refused_of_strait _ (by decide)⟩

end Entrance

end TavernLayout
