import TavernLayout.Layout.Placement
import TavernLayout.Proofs.Grid.Reach
import TavernLayout.Proofs.Works

/-!
# Where rooms are placed

A placement never fails: no range is drawn from before it is known to have a member. What it finds
is a room of its kind inside the given space, beyond the point that was asked for or under the
given rectangle.

* `accepts_of_placeBeside`, `accepts_of_placeUnder`: what is found;
* `faultsIn_placeBeside`, `faultsIn_placeUnder`: nothing fails;
* `exists_sideDrawn`: a side is drawn from every range that is not empty;
* `besides_of_placeBeside`, `underneath_of_placeUnder`: the drawn sides, and where they are put;
* `accepts_beside`, `empty_of_placeBeside`: nothing is found only where a range is empty;
* `reach_opposite_beside`: a room beyond the line before a space starts where the space starts;
* `reach_beside`, `across_beside`: a room placed from the edge of a space stays at the point;
* `collides_underneath`: a room under another one stays under it.
-/

namespace TavernLayout

section Placement

variable {σ : Type} {src : Source σ} {st st' : Stream σ} {k : Kind} {space parent r : Rect}
  {d : Dir} {p : Vec2} {P : Fault → Prop}

theorem faultsIn_snapped {lo hi reach : Int} (h : lo ≤ hi) :
    FaultsIn P (snapped src lo hi reach) st :=
  (Source.faultsIn_between h).bind fun _ _ _ => .pure _

theorem accepts_of_placeBeside (h : placeBeside src k space d p st = .ok (some r) st') :
    space.Encloses r ∧ k.Accepts r := by
  unfold placeBeside at h
  dsimp only at h
  split at h
  · obtain ⟨hn, -⟩ := pure_eq_ok_iff.1 h
    cases hn
  · obtain ⟨a, s1, -, h⟩ := bind_eq_ok_iff.1 h
    split at h
    · obtain ⟨hn, -⟩ := pure_eq_ok_iff.1 h
      cases hn
    · obtain ⟨b, s2, -, h⟩ := bind_eq_ok_iff.1 h
      obtain ⟨odd, s3, -, h⟩ := bind_eq_ok_iff.1 h
      obtain ⟨hr, -⟩ := pure_eq_ok_iff.1 h
      split at hr
      · next hok =>
        cases hr
        exact hok
      · cases hr

theorem faultsIn_placeBeside : FaultsIn P (placeBeside src k space d p) st := by
  unfold placeBeside
  dsimp only
  split
  · exact .pure _
  · refine (faultsIn_snapped (by omega)).bind fun a s1 _ => ?_
    split
    · exact .pure _
    · refine (faultsIn_snapped (by omega)).bind fun b s2 _ => ?_
      exact (Source.faultsIn_between (by decide)).bind fun odd s3 _ => .pure _

theorem accepts_of_placeUnder (h : placeUnder src k space parent st = .ok (some r) st') :
    space.Encloses r ∧ k.Accepts r := by
  unfold placeUnder at h
  dsimp only at h
  split at h
  · obtain ⟨hn, -⟩ := pure_eq_ok_iff.1 h
    cases hn
  · obtain ⟨a, s1, -, h⟩ := bind_eq_ok_iff.1 h
    split at h
    · obtain ⟨hn, -⟩ := pure_eq_ok_iff.1 h
      cases hn
    · obtain ⟨b, s2, -, h⟩ := bind_eq_ok_iff.1 h
      obtain ⟨e, s3, -, h⟩ := bind_eq_ok_iff.1 h
      obtain ⟨orth, s4, -, h⟩ := bind_eq_ok_iff.1 h
      obtain ⟨hr, -⟩ := pure_eq_ok_iff.1 h
      split at hr
      · next hok =>
        cases hr
        exact ⟨Rect.encloses_inter_right .., hok⟩
      · cases hr

theorem faultsIn_placeUnder : FaultsIn P (placeUnder src k space parent) st := by
  unfold placeUnder
  dsimp only
  split
  · exact .pure _
  · refine (faultsIn_snapped (by omega)).bind fun a s1 _ => ?_
    split
    · exact .pure _
    · refine (faultsIn_snapped (by omega)).bind fun b s2 _ => ?_
      refine (Source.faultsIn_choose (by decide)).bind fun e s3 _ => ?_
      exact (Source.faultsIn_choose (List.cons_ne_nil _ _)).bind fun orth s4 _ => .pure _

/-! ## Drawn sides -/

theorem mem_of_snapped {lo hi reach n : Int} (hs : src.Lawful) (hr : hi ≤ reach)
    (h : snapped src lo hi reach st = .ok n st') : lo ≤ n ∧ n ≤ hi := by
  obtain ⟨m, s1, hm, h⟩ := bind_eq_ok_iff.1 h
  obtain ⟨rfl, -⟩ := pure_eq_ok_iff.1 h
  obtain ⟨h1, h2⟩ := Source.mem_of_between hs hm
  exact snapTo_mem h1 h2 hr

/-- A side is drawn from a range, in a space that ends at `reach`. -/
structure SideDrawn (src : Source σ) (range : Span) (reach : Int) (st : Stream σ) (n : Int)
    (st' : Stream σ) : Prop where
  drawn : snapped src range.lo range.hi reach st = .ok n st'
  mem : n ∈ range

theorem exists_sideDrawn (hs : src.Lawful) {range : Span} {reach : Int}
    (hne : ¬ range.hi < range.lo) (hr : range.hi ≤ reach) (st : Stream σ) :
    ∃ n st', SideDrawn src range reach st n st' := by
  obtain ⟨m, s1, hm, -⟩ := Source.between_ok hs (show range.lo ≤ range.hi by omega) st
  have hdrawn : snapped src range.lo range.hi reach st =
      .ok (snapTo range.hi reach m) s1 := bind_eq_of_ok hm _
  exact ⟨_, s1, hdrawn, mem_of_snapped hs hr hdrawn⟩

/-- A drawn side that is not stretched cannot reach the end of the space, or is far from it. -/
theorem snapTo_cases (hi reach n : Int) : snapTo hi reach n = reach ∨
    (snapTo hi reach n = n ∧ (hi < reach ∨ snapTolerance < reach - n)) := by
  unfold snapTo
  split
  · exact .inl rfl
  · next h => exact .inr ⟨rfl, by omega⟩

namespace Placement

theorem besides_of_placeBeside (hs : src.Lawful)
    (h : placeBeside src k space d p st = .ok (some r) st') :
    ∃ a b odd, a ∈ alongSides k space d ∧ b ∈ acrossSides k space d a ∧ (0 ≤ odd ∧ odd ≤ 1) ∧
      r = beside space d p a b (b / 2 + b % 2 * odd) := by
  unfold placeBeside at h
  dsimp only at h
  split at h
  · obtain ⟨hn, -⟩ := pure_eq_ok_iff.1 h
    cases hn
  · obtain ⟨a, s1, ha, h⟩ := bind_eq_ok_iff.1 h
    split at h
    · obtain ⟨hn, -⟩ := pure_eq_ok_iff.1 h
      cases hn
    · obtain ⟨b, s2, hb, h⟩ := bind_eq_ok_iff.1 h
      obtain ⟨odd, s3, hodd, h⟩ := bind_eq_ok_iff.1 h
      obtain ⟨hr, -⟩ := pure_eq_ok_iff.1 h
      split at hr
      · cases hr
        exact ⟨a, b, odd, mem_of_snapped hs (Int.min_le_left ..) ha,
          mem_of_snapped hs (Int.min_le_left ..) hb, Source.mem_of_between hs hodd, rfl⟩
      · cases hr

theorem underneath_of_placeUnder (hs : src.Lawful)
    (h : placeUnder src k space parent st = .ok (some r) st') :
    ∃ a b e orth, a ∈ xSides k space ∧ b ∈ ySides k space a ∧
      (orth = e.orthogonal ∨ orth = e.orthogonal.opposite) ∧
      r = underneath space parent e orth ⟨a, b⟩ := by
  unfold placeUnder at h
  dsimp only at h
  split at h
  · obtain ⟨hn, -⟩ := pure_eq_ok_iff.1 h
    cases hn
  · obtain ⟨a, s1, ha, h⟩ := bind_eq_ok_iff.1 h
    split at h
    · obtain ⟨hn, -⟩ := pure_eq_ok_iff.1 h
      cases hn
    · obtain ⟨b, s2, hb, h⟩ := bind_eq_ok_iff.1 h
      obtain ⟨e, s3, -, h⟩ := bind_eq_ok_iff.1 h
      obtain ⟨orth, s4, horth, h⟩ := bind_eq_ok_iff.1 h
      obtain ⟨hr, -⟩ := pure_eq_ok_iff.1 h
      split at hr
      · cases hr
        have hmem := Source.mem_of_choose hs horth
        simp only [List.mem_cons, List.not_mem_nil, or_false] at hmem
        exact ⟨a, b, e, orth, mem_of_snapped hs (Int.min_le_left ..) ha,
          mem_of_snapped hs (Int.min_le_left ..) hb, hmem, rfl⟩
      · cases hr

/-! ## Where they are put -/

theorem product_eq (d : Dir) (v : Vec2) : v.product = d.along v * d.orthogonal.along v := by
  cases d <;> first | rfl | exact Int.mul_comm ..

theorem least_eq (d : Dir) (v : Vec2) : v.least = min (d.along v) (d.orthogonal.along v) := by
  cases d <;> first | rfl | exact Int.min_comm ..

theorem greatest_eq (d : Dir) (v : Vec2) : v.greatest = max (d.along v) (d.orthogonal.along v) := by
  cases d <;> first | rfl | exact Int.max_comm ..

/-- A rectangle in which a kind fits is in every direction at least as wide as the kind asks for. -/
theorem side_le_of_fits (h : k.Fits r) (d : Dir) :
    k.sides.lo ≤ d.reach r + d.opposite.reach r := by
  have hleast := h.1
  rw [least_eq d] at hleast
  rw [← Dir.along_size]
  omega

theorem side_le_of_accepts (h : k.Accepts r) (d : Dir) :
    k.sides.lo ≤ d.reach r + d.opposite.reach r :=
  side_le_of_fits h.fits d

/-- A room whose sides fit into the space is moved into it and keeps its sides. -/
theorem sides_beside {a b : Int} (half : Int) (hv : space.Valid) (ha : 0 ≤ a) (hb : 0 ≤ b)
    (hfit : a ≤ d.along space.size) (hfit' : b ≤ d.orthogonal.along space.size) :
    space.Encloses (beside space d p a b half) ∧ d.along (beside space d p a b half).size = a ∧
      d.orthogonal.along (beside space d p a b half).size = b := by
  have hnear := Rect.mem_nearest hv (p + d.toVec2 + half • d.cw.toVec2)
  unfold beside
  generalize space.nearest (p + d.toVec2 + half • d.cw.toVec2) = near at hnear ⊢
  rw [Rect.mem_iff] at hnear
  simp only [Rect.Valid] at hv
  cases d <;>
    simp [Dir.along, Dir.isY, Dir.orthogonal, Rect.size, Dir.toVec2, Dir.cw, Dir.ccw,
      Rect.nearest, Rect.sorted, Rect.Encloses] at hfit hfit' ⊢ <;> omega

/-- Sides from the ranges of a kind make a room of the kind, so the check after the draws of a
placement never rejects. -/
theorem accepts_beside {a b : Int} (half : Int) (hv : space.Valid) (ha : a ∈ alongSides k space d)
    (hb : b ∈ acrossSides k space d a) : space.Encloses (beside space d p a b half) ∧
      k.Accepts (beside space d p a b half) := by
  have hlo : 0 < k.sides.lo := by cases k <;> decide
  simp only [Span.mem_iff, alongSides, acrossSides] at ha hb
  have hpos : 0 < a := by omega
  obtain ⟨hin, h1, h2⟩ := sides_beside (d := d) (p := p) half hv (show 0 ≤ a by omega)
    (show 0 ≤ b by omega) (by omega) (by omega)
  have hleast : k.areas.lo ≤ a * b := by
    have hdiv : (k.areas.lo + a - 1) / a < b + 1 := by omega
    have hmul := (Int.ediv_lt_iff_lt_mul hpos).1 hdiv
    rw [Int.add_mul, Int.one_mul, Int.mul_comm b a] at hmul
    omega
  have hmost : a * b ≤ k.areas.hi := by
    have hmul := (Int.le_ediv_iff_mul_le hpos).1 (show b ≤ k.areas.hi / a by omega)
    rwa [Int.mul_comm b a] at hmul
  refine ⟨hin, ?_, ?_, ?_, ?_, ?_⟩
  · rw [Dir.valid_iff_reach]
    intro e
    rw [← Dir.along_size]
    cases d <;> cases e <;> simp [Dir.along, Dir.isY, Dir.orthogonal] at h1 h2 ⊢ <;> omega
  · rw [least_eq d, h1, h2]
    omega
  · rw [greatest_eq d, h1, h2]
    omega
  · rwa [product_eq d, h1, h2]
  · rwa [product_eq d, h1, h2]

/-- Where a placement finds nothing, one of its two ranges is empty. -/
theorem empty_of_placeBeside (hs : src.Lawful) (hv : space.Valid)
    (h : placeBeside src k space d p st = .ok none st') :
    (alongSides k space d).hi < (alongSides k space d).lo ∨
      ∃ n ∈ alongSides k space d, ∃ a,
        a = snapTo (alongSides k space d).hi (d.along space.size) n ∧
        (acrossSides k space d a).hi < (acrossSides k space d a).lo := by
  unfold placeBeside at h
  dsimp only at h
  split at h
  · next hempty => exact .inl hempty
  · obtain ⟨a, s1, ha, h⟩ := bind_eq_ok_iff.1 h
    obtain ⟨n, s2, hn, hsnap⟩ := bind_eq_ok_iff.1 ha
    obtain ⟨hsnap, -⟩ := pure_eq_ok_iff.1 hsnap
    split at h
    · next hempty => exact .inr ⟨n, Source.mem_of_between hs hn, a, hsnap.symm, hempty⟩
    · obtain ⟨b, s2, hb, h⟩ := bind_eq_ok_iff.1 h
      obtain ⟨odd, s3, -, h⟩ := bind_eq_ok_iff.1 h
      obtain ⟨hr, -⟩ := pure_eq_ok_iff.1 h
      have hok := accepts_beside (p := p) (b / 2 + b % 2 * odd) hv
        (mem_of_snapped hs (Int.min_le_left ..) ha) (mem_of_snapped hs (Int.min_le_left ..) hb)
      rw [if_pos hok] at hr
      cases hr

/-- A room placed beyond a point of the line before the space starts where the space starts. -/
theorem reach_opposite_beside {a b half : Int} (hv : space.Valid) (ha : 0 ≤ a)
    (hfit : a ≤ d.along space.size) (hp : d.sign * d.along p + 1 = -d.opposite.reach space) :
    d.opposite.reach (beside space d p a b half) = d.opposite.reach space := by
  simp only [Rect.Valid] at hv
  cases d <;>
    simp [Dir.along, Dir.isY, Dir.sign, Rect.size, Dir.opposite, beside, Dir.toVec2, Dir.cw,
      Dir.ccw, Rect.nearest, Rect.sorted] at hfit hp ⊢ <;> omega

/-- A room placed inwards from a point of the edge of a space starts at that edge or one cell
further in. -/
theorem reach_beside {a : Int} (b half : Int) (hedge : d.sign * d.along p = d.reach space)
    (ha : 1 ≤ a) (hfit : a ≤ d.along space.size) :
    d.reach (beside space d.opposite p a b half) ≤ d.reach space ∧
      d.reach space ≤ d.reach (beside space d.opposite p a b half) + 1 := by
  cases d <;>
    simp only [beside, Rect.nearest, Rect.sorted, Rect.size, Dir.opposite, Dir.toVec2, Dir.cw,
      Dir.ccw, Dir.along, Dir.isY, Dir.sign, Dir.reach_posX, Dir.reach_posY, Dir.reach_negX,
      Dir.reach_negY, Vec2.x_add, Vec2.y_add, Vec2.x_sub, Vec2.y_sub, Vec2.x_smul, Vec2.y_smul,
      Bool.false_eq_true, if_false, if_true] at hedge hfit ⊢ <;> omega

/-- Across its direction the room is moved no further than the point allows. -/
theorem across_beside (a : Int) {b half : Int}
    (hright : d.cw.sign * d.cw.along p ≤ d.cw.reach space)
    (hleft : d.ccw.sign * d.ccw.along p ≤ d.ccw.reach space)
    (hfit : b ≤ d.orthogonal.along space.size) (hhalf : 0 ≤ half ∧ half ≤ b) :
    d.cw.sign * d.cw.along p ≤ d.cw.reach (beside space d p a b half) ∧
      d.ccw.sign * d.ccw.along p ≤ d.ccw.reach (beside space d p a b half) := by
  cases d <;>
    simp only [beside, Rect.nearest, Rect.sorted, Rect.size, Dir.orthogonal, Dir.toVec2, Dir.cw,
      Dir.ccw, Dir.along, Dir.isY, Dir.sign, Dir.reach_posX, Dir.reach_posY, Dir.reach_negX,
      Dir.reach_negY, Vec2.x_add, Vec2.y_add, Vec2.x_sub, Vec2.y_sub, Vec2.x_smul, Vec2.y_smul,
      Bool.false_eq_true, if_false, if_true] at hright hleft hfit ⊢ <;> omega

/-- A room slid into the space under a corner of its parent stays under it, if the space leaves all
of the parent but a rim of two cells. -/
theorem collides_underneath {e orth : Dir} {size : Vec2}
    (horth : orth = e.orthogonal ∨ orth = e.orthogonal.opposite)
    (hwide : ∀ d : Dir, 4 ≤ d.reach parent + d.opposite.reach parent)
    (hrim : space.Encloses (parent.grow (-2))) (hx : 2 ≤ size.x) (hy : 2 ≤ size.y) :
    (underneath space parent e orth size).Collides parent := by
  have h1 := hwide .posX
  have h2 := hwide .posY
  simp only [Dir.opposite, Dir.reach_posX, Dir.reach_posY, Dir.reach_negX, Dir.reach_negY] at h1 h2
  simp [Rect.Encloses, Rect.grow] at hrim
  rcases horth with rfl | rfl <;> cases e <;>
    simp [underneath, Rect.Collides, Dir.orthogonal, Dir.isY, Dir.opposite, Dir.toVec2,
      Dir.edgePoint, Dir.onEdge, Dir.edge, Rect.sorted, Rect.inter, Rect.shift, Rect.size] <;> omega

end Placement

end Placement

end TavernLayout
