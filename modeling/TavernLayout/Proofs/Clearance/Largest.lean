import TavernLayout.Building.Room
import TavernLayout.Proofs.Clearance

/-!
# The largest space next to an obstacle

Without limits every cut leaves a free line next to the obstacle, and no cut takes more than that.
So a rectangle that keeps the line lies beyond one of the four cuts, or on the very edge of the
space, where it has no area.

* `le_largest`: the largest rectangle of a list;
* `cutBack_free`, `beyond_cut_or_line`: what the four cuts leave, and what lies beyond them;
* `noLarger_avoid`: for one obstacle nothing larger is left;
* `clearSpace_filter`: only the obstacles of nearby layers matter;
* `clearSpace_unlimited_best`: the free line next to every room, and the largest space next to one.
-/

namespace TavernLayout

namespace Rect

variable {r s : Rect}

theorem area_nonneg (h : r.Valid) : 0 ≤ r.area := by
  simp only [Valid] at h
  refine Int.mul_nonneg ?_ ?_ <;> simp only [size, Vec2.x_sub, Vec2.y_sub] <;> omega

theorem area_le_of_encloses (h : r.Encloses s) (hs : s.Valid) : s.area ≤ r.area := by
  simp only [Encloses] at h
  simp only [Valid] at hs
  refine Int.mul_le_mul ?_ ?_ ?_ ?_ <;> simp only [size, Vec2.x_sub, Vec2.y_sub] <;> omega

/-- A rectangle that is one cell wide has no area. -/
theorem area_of_line {d : Dir} (h : d.reach r + d.opposite.reach r = 0) : r.area = 0 := by
  refine Int.mul_eq_zero.2 ?_
  cases d <;>
    simp only [size, Vec2.x_sub, Vec2.y_sub, Dir.opposite, Dir.reach_posX, Dir.reach_posY,
      Dir.reach_negX, Dir.reach_negY] at h ⊢ <;> omega

end Rect

namespace Clearance

/-! ## The largest of several rectangles -/

theorem le_larger (best : Option Rect) (r : Rect) :
    ∃ s, larger best r = some s ∧ r.area ≤ s.area ∧ ∀ b, best = some b → b.area ≤ s.area := by
  unfold larger
  cases best with
  | none => exact ⟨r, rfl, Int.le_refl _, fun b hb => by cases hb⟩
  | some b =>
    dsimp only
    split
    · next hle =>
      refine ⟨r, rfl, Int.le_refl _, fun c hc => ?_⟩
      obtain rfl := Option.some.inj hc
      exact hle
    · next hlt =>
      refine ⟨b, rfl, by omega, fun c hc => ?_⟩
      obtain rfl := Option.some.inj hc
      exact Int.le_refl _

theorem le_foldl_larger (rs : List Rect) {b : Rect} :
    ∃ s, rs.foldl larger (some b) = some s ∧ b.area ≤ s.area ∧ ∀ r ∈ rs, r.area ≤ s.area := by
  induction rs generalizing b with
  | nil => exact ⟨b, rfl, Int.le_refl _, fun r hr => by cases hr⟩
  | cons r rs ih =>
    obtain ⟨c, hc, hr, hb⟩ := le_larger (some b) r
    obtain ⟨s, hs, hcs, hall⟩ := ih (b := c)
    refine ⟨s, by rw [List.foldl_cons, hc, hs], Int.le_trans (hb b rfl) hcs, ?_⟩
    rw [List.forall_mem_cons]
    exact ⟨Int.le_trans hr hcs, hall⟩

theorem le_largest {rs : List Rect} {r : Rect} (hr : r ∈ rs) :
    ∃ s, largest rs = some s ∧ r.area ≤ s.area := by
  cases rs with
  | nil => cases hr
  | cons a rs =>
    obtain ⟨s, hs, ha, hall⟩ := le_foldl_larger rs (b := a)
    refine ⟨s, hs, ?_⟩
    rcases List.mem_cons.1 hr with rfl | hr
    · exact ha
    · exact hall r hr

/-! ## Cuts without limits -/

def unlimited : Limits := .const none

variable {space part s : Rect} {d : Dir} {b : Box} {lo hi : Int}

theorem get_unlimited (d : Dir) : unlimited.get d = none := DirMap.get_const none d

theorem keepsTo_unlimited (space : Rect) : KeepsTo unlimited space := by
  intro d l hl
  rw [get_unlimited] at hl
  cases hl

theorem not_crowded_unlimited {obstacle : Rect} : ¬ Crowded unlimited space part obstacle := by
  rintro ⟨-, d, l, hl, -⟩
  rw [get_unlimited] at hl
  cases hl

/-- Where the space goes on beyond the zone, a cut leaves all of it from the second line after the
obstacle on. -/
theorem cutBack_free {obstacle : Rect} (hs : space.Valid)
    (h : d.reach (zoneOf space obstacle) < d.reach space) :
    ∃ part, cutBack unlimited space (zoneOf space obstacle) obstacle d = some part ∧
      Beyond space d (d.reach obstacle + 2) part := by
  have hstop : stop unlimited (zoneOf space obstacle) d = d.reach obstacle + 2 := by
    rw [stop, get_unlimited]
    dsimp only
    rw [zoneOf, Dir.reach_inter, Dir.reach_grow, margin] at h ⊢
    omega
  have hbey : Beyond space d (stop unlimited (zoneOf space obstacle) d)
      (kept unlimited space (zoneOf space obstacle) d) := beyond_kept hs h
  rw [hstop] at hbey
  refine ⟨_, ?_, hbey⟩
  have hfree : ¬ ((kept unlimited space (zoneOf space obstacle) d).inter obstacle).Valid := by
    intro hv
    have := Dir.valid_iff_reach.1 hv d
    rw [Dir.reach_inter, Dir.reach_inter, hbey.start] at this
    omega
  rw [cutBack_eq, if_neg (by omega), if_neg hfree]

/-- A rectangle of the space that leaves a line free next to the obstacle lies beyond it in some
direction: beyond the cut, or on the last line of the space. -/
theorem beyond_cut_or_line {obstacle : Rect} (hs : s.Valid) (hin : space.Encloses s)
    (hfree : ¬ s.Collides (obstacle.grow 1)) :
    ∃ d : Dir, d.reach obstacle + 2 ≤ -d.opposite.reach s ∧
      (d.reach (zoneOf space obstacle) < d.reach space ∨ s.area = 0) := by
  rw [Dir.collides_iff_reach, Classical.not_forall] at hfree
  obtain ⟨e, he⟩ := hfree
  rw [Dir.reach_grow] at he
  refine ⟨e.opposite, by rw [Dir.opposite_opposite]; omega, ?_⟩
  have hmax := Dir.encloses_iff_reach.1 hin e.opposite
  have hwide := Dir.valid_iff_reach.1 hs e
  rw [zoneOf, Dir.reach_inter, Dir.reach_grow, margin]
  by_cases hlt : e.opposite.reach obstacle + 2 < e.opposite.reach space
  · exact .inl (by omega)
  · exact .inr (Rect.area_of_line (d := e) (by omega))

/-- What a cut leaves encloses every rectangle of the space beyond its line. -/
theorem Beyond.encloses_of_le {n : Int} (h : Beyond space d n part) (hin : space.Encloses s)
    (hn : n ≤ -d.opposite.reach s) : part.Encloses s := by
  rw [Dir.encloses_iff_reach] at *
  intro e
  by_cases he : e = d.opposite
  · subst he
    rw [h.start]
    omega
  · rw [h.rest e he]
    exact hin e

/-- The rectangle is no larger than what is left of a space; where nothing is left, it has no
area. -/
def NoLarger (s : Rect) : Option Rect → Prop
  | some part => s.area ≤ part.area
  | none => s.area = 0

/-- No rectangle of the space that leaves a line free next to the obstacle is larger than what is
left of the space. -/
theorem noLarger_avoid (hs : space.Valid) (hb : b.footprint.Valid) (hv : s.Valid)
    (hin : space.Encloses s) (hfree : ¬ s.Collides (b.footprint.grow 1)) :
    NoLarger s (avoid unlimited lo hi space b) := by
  obtain ⟨d, hd, hcut | hline⟩ := beyond_cut_or_line hv hin hfree
  · obtain ⟨part, hpart, hbey⟩ := cutBack_free hs hcut
    have hle := Rect.area_le_of_encloses (hbey.encloses_of_le hin hd) hv
    unfold avoid
    dsimp only
    split
    · obtain ⟨best, hbest, hle'⟩ :=
        le_largest (List.mem_filterMap.2 ⟨d, Dir.mem_all d, hpart⟩)
      rw [zoneOf] at hbest
      rw [hbest]
      exact Int.le_trans hle hle'
    · exact Rect.area_le_of_encloses hin hv
  · cases hpart : avoid unlimited lo hi space b with
    | none => exact hline
    | some part =>
      show s.area ≤ part.area
      rw [hline]
      exact Rect.area_nonneg (avoid_ok hs hb (keepsTo_unlimited space) hpart).1

end Clearance

open Clearance

variable {limits : Limits} {lo hi : Int}

/-! ## Nearby layers -/

/-- The obstacles of far layers may be left out. -/
theorem clearSpace_filter (bs : List Box) (space : Rect) :
    clearSpace limits lo hi bs space =
      clearSpace limits lo hi (bs.filter fun b => decide (b.Meets lo hi)) space := by
  induction bs generalizing space with
  | nil => rfl
  | cons b bs ih =>
    by_cases hm : b.Meets lo hi
    · rw [List.filter_cons_of_pos (by simpa using hm), clearSpace, clearSpace]
      exact congrArg _ (funext ih)
    · rw [List.filter_cons_of_neg (by simpa using hm), clearSpace, avoid_of_not_meets hm]
      exact ih space

theorem clearSpace_singleton (b : Box) (space : Rect) :
    clearSpace limits lo hi [b] space = avoid limits lo hi space b := by
  rw [clearSpace]
  cases avoid limits lo hi space b <;> rfl

/-- Without limits, what is left is a valid part of the space with a free line next to every room
of nearby layers. Where there is one such room, no other rectangle of the space with that line is
larger; and where nothing is left, all of them are lines. -/
theorem clearSpace_unlimited_best {rooms : List Room} {space : Rect} (hs : space.Valid)
    (hr : ∀ r ∈ rooms, r.footprint.Valid) :
    (∀ part, clearSpace unlimited lo hi (rooms.map Room.bounds) space = some part →
      part.Valid ∧ space.Encloses part ∧
      ∀ r ∈ rooms, r.bounds.Meets lo hi → ¬ part.Collides (r.footprint.grow 1)) ∧
    (∀ r, rooms.filter (fun r => decide (r.bounds.Meets lo hi)) = [r] →
      ∀ s : Rect, s.Valid → space.Encloses s → ¬ s.Collides (r.footprint.grow 1) →
        NoLarger s (clearSpace unlimited lo hi (rooms.map Room.bounds) space)) := by
  have hb : ∀ b ∈ rooms.map Room.bounds, b.footprint.Valid := by
    intro b hm
    obtain ⟨r, hmem, rfl⟩ := List.mem_map.1 hm
    exact hr r hmem
  constructor
  · intro part hpart
    obtain ⟨hv, hin, -, -⟩ := clearSpace_ok hs hb (keepsTo_unlimited space) hpart
    refine ⟨hv, hin, fun r hmem hm hc => ?_⟩
    obtain ⟨pre, post, hsplit⟩ := List.append_of_mem (List.mem_map_of_mem (f := Room.bounds) hmem)
    rw [hsplit] at hb hpart
    obtain ⟨before, after, -, -, hafter, hiff⟩ :=
      turn_of_clearSpace hs hb (keepsTo_unlimited space) hpart hm
    exact not_crowded_unlimited (hiff.1 (hc.mono hafter))
  · intro r hone s hv hin hfree
    have hmem : r ∈ rooms := by
      have : r ∈ rooms.filter fun r => decide (r.bounds.Meets lo hi) := by
        rw [hone]
        exact List.mem_singleton_self r
      exact (List.mem_filter.1 this).1
    have hclear : clearSpace unlimited lo hi (rooms.map Room.bounds) space =
        avoid unlimited lo hi space r.bounds := by
      rw [clearSpace_filter, List.filter_map]
      change clearSpace unlimited lo hi
        ((rooms.filter fun r => decide (r.bounds.Meets lo hi)).map Room.bounds) space = _
      rw [hone]
      exact clearSpace_singleton r.bounds space
    rw [hclear]
    exact noLarger_avoid hs (hr r hmem) hv hin hfree

def courtyard : Rect := ⟨⟨0, 0⟩, ⟨20, 12⟩⟩

/-- A small room in the courtyard, nearer to one side. -/
def hut : Room := { bounds := ⟨⟨8, 3, 0⟩, ⟨12, 5, 4⟩⟩, kind := .seating }

def loft : Room := { bounds := ⟨⟨2, 2, 9⟩, ⟨18, 10, 12⟩⟩, kind := .stage }

theorem courtyard_best :
    (∀ r ∈ [loft, hut], r.footprint.Valid) ∧
    [loft, hut].filter (fun r => decide (r.bounds.Meets 0 4)) = [hut] ∧
    clearSpace unlimited 0 4 ([loft, hut].map Room.bounds) courtyard = some ⟨⟨0, 7⟩, ⟨20, 12⟩⟩ ∧
    ¬ (Rect.mk ⟨0, 7⟩ ⟨20, 12⟩).Collides (hut.footprint.grow 1) ∧
    ∀ s : Rect, s.Valid → courtyard.Encloses s → ¬ s.Collides (hut.footprint.grow 1) →
      s.area ≤ 100 := by
  have hv : ∀ r ∈ [loft, hut], r.footprint.Valid := by decide
  have hone : [loft, hut].filter (fun r => decide (r.bounds.Meets 0 4)) = [hut] := by decide
  have hleft : clearSpace unlimited 0 4 ([loft, hut].map Room.bounds) courtyard =
      some ⟨⟨0, 7⟩, ⟨20, 12⟩⟩ := by decide
  obtain ⟨hfree, hbest⟩ := clearSpace_unlimited_best (show courtyard.Valid by decide) hv
  refine ⟨hv, hone, hleft, (hfree _ hleft).2.2 hut (by decide) (by decide), ?_⟩
  intro s hs hin hline
  have hle := hbest hut hone s hs hin hline
  rw [hleft] at hle
  exact hle

end TavernLayout
