import Mathlib.Algebra.Field.Rat
import Mathlib.Data.List.Find
import Mathlib.Data.Multiset.MapFold
import TavernLayout.Proofs.Grid.Symmetry
import TavernLayout.Proofs.Roofing.Canopy
import TavernLayout.Proofs.Shift.Roofs

/-!
# All sides of a roof are alike

Turning or reflecting the plan turns and reflects everything that decides about the shape of a roof:
what it abuts, the tops of the taller rooms around it, and the shapes that may be drawn. The list of
shapes comes in another order, but with the same exact weights.

* `Symmetry.abuts_iff`, `Symmetry.get_overlookingTops`: what a roof touches;
* `weighed`: options with exact weights, in no order;
* `gableTop?_eq`: a gable in terms of either side, since both sides count alike and so do both ends;
* `weighed_barOptions`: bars, for either axis the ratio of its side to the other one;
* `Symmetry.weighed_openOptions`: the shapes of a roof that no room stands on;
* `shapes_symmetric`: the rules for the shape of a roof treat all sides alike.
-/

namespace TavernLayout

/-! ## Gables

A gable has two sides, which must be free, and two ends. -/

namespace RoofStyle

variable {heights : DirMap (Option Int)} {size : Vec2} {base width : Int} {d side : Dir}
  {left right front back : Option Int}

/-- The greatest height of a gable, given the taller rooms at its sides and at its ends. -/
def peak? (left right front back : Option Int) (width base : Int) : Option Int :=
  if left ≠ none ∨ right ≠ none then none
  else
    let free := base + min (width / 2 - 1) greatestPeak
    match front, back with
    | none, none => some free
    | some front, some back =>
      let lowest := min front back
      some (if base + leastPeak ≤ lowest then min free lowest else free)
    | _, _ => none

theorem peak?_swap_sides :
    peak? right left front back width base = peak? left right front back width base := by
  simp only [peak?, or_comm]

theorem peak?_swap_ends :
    peak? left right back front width base = peak? left right front back width base := by
  cases front <;> cases back <;> simp only [peak?, Int.min_comm]

/-- It does not matter which of the two sides is looked at first. -/
theorem gableTop?_eq (h : side.isY ≠ d.isY) : gableTop? heights size base d =
    peak? (heights.get side) (heights.get side.opposite) (heights.get d) (heights.get d.opposite)
      (side.along size) base := by
  have hside : side = d.orthogonal ∨ side = d.orthogonal.opposite := by
    cases d <;> cases side <;> simp [Dir.isY, Dir.orthogonal, Dir.opposite] at h ⊢
  rcases hside with rfl | rfl
  · rfl
  · rw [Dir.opposite_opposite, Dir.along_opposite, peak?_swap_sides]
    rfl

/-- Only the axis of the ridge matters. -/
theorem gableTop?_axis : gableTop? heights size base d.axis = gableTop? heights size base d := by
  have hback : gableTop? heights size base d.opposite = gableTop? heights size base d := by
    have hside : d.orthogonal.isY ≠ d.isY := by simp
    have hside' : d.orthogonal.isY ≠ d.opposite.isY := by simp
    rw [gableTop?_eq hside, gableTop?_eq hside', Dir.opposite_opposite, peak?_swap_ends]
  cases d with
  | posX => rfl
  | posY => rfl
  | negX => exact hback
  | negY => exact hback

/-! ## Options with exact weights -/

/-- The shapes with their exact weights, in no order. -/
def weighed (os : List RoofOption) : Multiset (Rat × RoofStyle) := os.map fun o => (o.1.toRat, o.2)

theorem weighed_cons (o : RoofOption) (os : List RoofOption) :
    weighed (o :: os) = (o.1.toRat, o.2) ::ₘ weighed os := rfl

theorem weighed_append (os ps : List RoofOption) :
    weighed (os ++ ps) = weighed os + weighed ps := by
  rw [weighed, List.map_append]
  rfl

/-- Bars along an axis weigh five times the ratio of that side to the other one. -/
theorem weighed_barOptions : weighed (barOptions size) = [.posX, .posY].map fun d : Dir =>
    (5 * ((d.along size : Rat) / d.orthogonal.along size), bars d) := by
  have hover : (RoofWeight.fiveOver size.x size.y).toRat = 5 * ((size.y : Rat) / size.x) := by
    rw [RoofWeight.toRat, div_div_eq_mul_div, mul_div_assoc]
  rw [weighed, barOptions, List.map, List.map, hover]
  rfl

end RoofStyle

/-! ## Symmetries -/

namespace Symmetry

open RoofStyle

variable (g : Symmetry) {d : Dir} {roof r : Rect} {rs : List Room} {maxGap : Int}
  {heights heights' : DirMap (Option Int)} {size size' : Vec2}

def room (r : Room) : Room := { r with bounds := .ofRect (g.rect r.footprint) r.bottom r.top }

/-- The shape with its directions turned; a ridge and bars only have an axis. -/
def style : RoofStyle → RoofStyle
  | .flat => .flat
  | .bars d => .bars (g.dir d).axis
  | .leanTo d z => .leanTo (g.dir d) z
  | .gable d z => .gable (g.dir d).axis z
  | .hip z => .hip z
  | .floor => .floor

def option {W : Type} (o : W × RoofStyle) : W × RoofStyle := (o.1, g.style o.2)

/-! ### What a roof touches -/

theorem abuts_iff (hroof : roof.Valid) (hr : r.Valid) :
    Abuts (g.rect roof) (g.dir d) (g.rect r) maxGap ↔ Abuts roof d r maxGap := by
  rw [abuts_iff_reach, abuts_iff_reach, gap_eq, gap_eq, ← dir_opposite, g.reach_rect hr,
    g.reach_rect hroof]
  refine and_congr Iff.rfl ⟨fun h e he => ?_, fun h e he => ?_⟩
  · have hacross := h (g.dir e) fun heq => he ((g.isY_dir_iff e d).1 heq)
    rwa [g.reach_rect hroof, g.reach_rect hr] at hacross
  · obtain ⟨e, rfl⟩ := g.dir_surjective e
    rw [g.reach_rect hroof, g.reach_rect hr]
    exact h e fun heq => he ((g.isY_dir_iff e d).2 heq)

theorem get_overlookingTops (hroof : roof.Valid) (hrs : ∀ r ∈ rs, r.footprint.Valid) (base : Int)
    (d : Dir) : (overlookingTops (rs.map g.room) (g.rect roof) base).get (g.dir d) =
      (overlookingTops rs roof base).get d := by
  have hfind : (rs.find? fun r => decide (Overlooks (g.room r) (g.rect roof) base (g.dir d))) =
      rs.find? fun r => decide (Overlooks r roof base d) := by
    refine List.find?_congr fun r hr => decide_eq_decide.2 (and_congr Iff.rfl ?_)
    exact g.abuts_iff hroof (hrs r hr)
  unfold overlookingTops
  rw [DirMap.get_ofFn, DirMap.get_ofFn, List.find?_map, Option.map_map]
  exact congrArg (Option.map Room.top) hfind

theorem along_size (h : roof.Valid) (d : Dir) :
    (g.dir d).along (g.rect roof).size = d.along roof.size := by
  rw [Dir.along_size, Dir.along_size, ← dir_opposite, g.reach_rect h, g.reach_rect h]

/-! ### Shapes -/

theorem weighed_option (os : List RoofOption) :
    weighed (os.map g.option) = (weighed os).map g.option := by
  simp only [weighed, Multiset.map_coe, List.map_map]
  rfl

/-- Shapes for one direction after another do not depend on the order of the directions. -/
theorem weighed_flatMap {turn : Dir → Dir} {ds : List Dir} {f f' : Dir → List RoofOption}
    (hturn : (ds.map turn).Perm ds) (h : ∀ d, f' (turn d) = (f d).map g.option) :
    weighed (ds.flatMap f') = (weighed (ds.flatMap f)).map g.option := by
  have himage : (ds.flatMap f).map g.option = (ds.map turn).flatMap f' := by
    rw [List.map_flatMap, List.flatMap_map]
    exact congrArg (ds.flatMap ·) (funext fun d => (h d).symm)
  rw [← weighed_option, himage]
  exact Multiset.coe_eq_coe.2 ((hturn.flatMap_right f').map _).symm

theorem perm_axes : ([.posX, .posY].map fun d => (g.dir d).axis).Perm [.posX, .posY] := by
  obtain ⟨right, up, h⟩ := g
  show List.Perm [right.axis, up.axis] _
  revert h
  cases right <;> cases up <;> decide

theorem weighed_barOptions_dir (hsize : ∀ d, (g.dir d).along size' = d.along size) :
    weighed (barOptions size') = (weighed (barOptions size)).map g.option := by
  have hside : ∀ d : Dir, (g.dir d).axis.along size' = d.along size := by
    intro d
    rw [← hsize]
    cases g.dir d <;> rfl
  have hother : ∀ d : Dir, (g.dir d).axis.orthogonal.along size' = d.orthogonal.along size := by
    intro d
    have haxis : (g.dir d).axis.orthogonal.isY = (g.dir d.orthogonal).isY := by
      rw [Dir.isY_orthogonal, isY_dir g d.orthogonal, Dir.isY_orthogonal, Bool.not_xor, ← isY_dir]
      cases g.dir d <;> rfl
    rw [← hsize, Dir.along, Dir.along, haxis]
  rw [weighed_barOptions, weighed_barOptions, Multiset.map_coe, List.map_map]
  refine Multiset.coe_eq_coe.2 ((g.perm_axes.map _).symm.trans (.of_eq ?_))
  rw [List.map_map]
  refine List.map_congr_left fun d _ => ?_
  show (5 * (((g.dir d).axis.along size' : Rat) / (g.dir d).axis.orthogonal.along size'), _) =
    (_, _)
  rw [hside, hother]
  rfl

section Shapes

variable (hget : ∀ d, heights'.get (g.dir d) = heights.get d)
include hget

theorem gableTop?_dir (hsize : ∀ d, (g.dir d).along size' = d.along size) (base : Int) (d : Dir) :
    gableTop? heights' size' base (g.dir d).axis = gableTop? heights size base d := by
  have hside : d.orthogonal.isY ≠ d.isY := by simp
  have hside' : (g.dir d.orthogonal).isY ≠ (g.dir d).isY := mt (g.isY_dir_iff _ _).1 hside
  rw [gableTop?_axis, gableTop?_eq hside', gableTop?_eq hside, ← dir_opposite, ← dir_opposite, hget,
    hget, hget, hget, hsize]

theorem gableOptions_dir (hsize : ∀ d, (g.dir d).along size' = d.along size) (base : Int)
    (d : Dir) : gableOptions heights' size' base (g.dir d).axis =
      (gableOptions heights size base d).map g.option := by
  unfold gableOptions
  rw [g.gableTop?_dir hget hsize]
  cases gableTop? heights size base d with
  | none => rfl
  | some top =>
    rw [List.map_map]
    rfl

theorem leanToOptions_dir (base : Int) (d : Dir) :
    leanToOptions heights' base (g.dir d) = (leanToOptions heights base d).map g.option := by
  unfold leanToOptions
  rw [← dir_opposite, hget, hget]
  split
  · rw [List.map_map]
    rfl
  · rfl

theorem hipOptions_dir (base : Int) :
    hipOptions heights' base = (hipOptions heights base).map g.option := by
  have hall : heights'.toList.all Option.isNone = heights.toList.all Option.isNone := by
    have himage : Dir.all.map heights.get = (Dir.all.map g.dir).map heights'.get := by
      rw [List.map_map]
      exact List.map_congr_left fun d _ => (hget d).symm
    rw [DirMap.toList_eq_map, DirMap.toList_eq_map, himage]
    exact (g.perm_dirs.map heights'.get).symm.all_eq
  unfold hipOptions
  rw [hall]
  split
  · rw [List.map_map]
    rfl
  · rfl

end Shapes

theorem weighed_openOptions (hroof : roof.Valid) (hrs : ∀ r ∈ rs, r.footprint.Valid)
    (gardens : Bool) (base : Int) :
    weighed (openOptions (rs.map g.room) gardens (g.rect roof) base) =
      (weighed (openOptions rs gardens roof base)).map g.option := by
  have hget := g.get_overlookingTops hroof hrs base
  have hsize := g.along_size hroof
  have hbars : weighed (if gardens then barOptions (g.rect roof).size else []) =
      (weighed (if gardens then barOptions roof.size else [])).map g.option := by
    cases gardens with
    | false => rfl
    | true => exact g.weighed_barOptions_dir hsize
  have hgables := g.weighed_flatMap g.perm_axes (g.gableOptions_dir hget hsize base)
  have hleanTos := g.weighed_flatMap g.perm_dirs (g.leanToOptions_dir hget base)
  have hhips := congrArg weighed (g.hipOptions_dir hget base)
  unfold openOptions
  simp only [weighed_cons, weighed_append, Multiset.map_cons, Multiset.map_add, hbars, hgables,
    hleanTos, hhips, weighed_option]
  rfl

end Symmetry

/-! ## All rules together -/

open RoofStyle

/-- The rules for the shape of a roof treat all sides alike: if all footprints and the roof are
turned or reflected, the roof abuts the same rectangles on the turned sides, the same tops overlook
the turned sides, and the same shapes, turned, may be drawn with the same exact weights. -/
theorem shapes_symmetric (g : Symmetry) {rooms : Store .room Room} {roof : Rect}
    (hrooms : ∀ r ∈ rooms.items, r.footprint.Valid) (hx : 0 < roof.size.x) (hy : 0 < roof.size.y)
    (covered above : List (Ref .room)) (base : Int) :
    (∀ (r : Rect) (d : Dir) (maxGap : Int), r.Valid →
      (Abuts (g.rect roof) (g.dir d) (g.rect r) maxGap ↔ Abuts roof d r maxGap)) ∧
    (∀ d, (overlookingTops (rooms.map g.room).items (g.rect roof) base).get (g.dir d) =
      (overlookingTops rooms.items roof base).get d) ∧
    weighed <$> exactOptions (rooms.map g.room) covered above (g.rect roof) base =
      (fun os => (weighed os).map g.option) <$> exactOptions rooms covered above roof base := by
  have hroof : roof.Valid := by
    simp only [Rect.Valid, Rect.size, Vec2.x_sub, Vec2.y_sub] at *
    omega
  refine ⟨fun r d maxGap hr => g.abuts_iff hroof hr, g.get_overlookingTops hroof hrooms base, ?_⟩
  unfold exactOptions
  rw [allGardens_map fun r => (rfl : (g.room r).kind = r.kind)]
  split
  · rfl
  · cases allGardens rooms covered with
    | error fault => rfl
    | ok gardens => exact congrArg Except.ok (g.weighed_openOptions hroof hrooms gardens base)

/-- A garden and a taller room at the right edge of its roof. -/
def gardenBesideStage : Store .room Room where
  items := [
    { bounds := ⟨⟨0, 0, 0⟩, ⟨5, 3, 4⟩⟩, kind := .garden },
    { bounds := ⟨⟨7, -2, 0⟩, ⟨15, 5, 8⟩⟩, kind := .stage }]

def quarterTurn : Symmetry := ⟨.posY, .negX, by decide⟩

/-- After a quarter turn the roof over the garden rises along y, and bars along y have the weight
that bars along x had. -/
theorem gardenBesideStage_turned :
    (∀ r ∈ gardenBesideStage.items, r.footprint.Valid) ∧
    quarterTurn.rect ⟨⟨-2, -2⟩, ⟨7, 5⟩⟩ = ⟨⟨-5, -2⟩, ⟨2, 7⟩⟩ ∧
    (overlookingTops (gardenBesideStage.map quarterTurn.room).items ⟨⟨-5, -2⟩, ⟨2, 7⟩⟩ 5).get
      .posY = some 8 ∧
    weighed <$> exactOptions (gardenBesideStage.map quarterTurn.room) [⟨0⟩] []
        ⟨⟨-5, -2⟩, ⟨2, 7⟩⟩ 5 =
      .ok (([(1 / 2, .flat), (45 / 7, .bars .posY), (35 / 9, .bars .posX), (1, .leanTo .posY 7),
        (1, .leanTo .posY 8)] : List (Rat × RoofStyle)) : Multiset (Rat × RoofStyle)) := by
  have hrooms : ∀ r ∈ gardenBesideStage.items, r.footprint.Valid := by decide
  have hrect : quarterTurn.rect ⟨⟨-2, -2⟩, ⟨7, 5⟩⟩ = ⟨⟨-5, -2⟩, ⟨2, 7⟩⟩ := by decide
  obtain ⟨-, htops, hshapes⟩ := shapes_symmetric quarterTurn hrooms
    (show 0 < (Rect.mk ⟨-2, -2⟩ ⟨7, 5⟩).size.x by decide)
    (show 0 < (Rect.mk ⟨-2, -2⟩ ⟨7, 5⟩).size.y by decide) [⟨0⟩] [] 5
  rw [hrect] at htops hshapes
  refine ⟨hrooms, hrect, (htops .posX).trans rfl, hshapes.trans ?_⟩
  exact congrArg Except.ok (by decide +kernel)

end TavernLayout
