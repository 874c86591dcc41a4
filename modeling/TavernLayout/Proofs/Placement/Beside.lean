import TavernLayout.Proofs.Placement
import TavernLayout.Random.Script

/-!
# Rooms beside a point

A placement beside a point ends in one of three ways: there is no first side to draw, there is no
second side for the first one, or both sides are drawn and the room has exactly these sides. Nothing
that is drawn is rejected.

* `ceiling_areas`: the least second side, computed with doubles;
* `sited_beside`: a room of drawn sides, wherever the point is;
* `placeBeside_ends`: the three ways.
-/

namespace TavernLayout.Placement

variable {σ : Type} {src : Source σ} {st : Stream σ} {k : Kind} {space r : Rect} {d : Dir}
  {p : Vec2} {a b : Int}

/-- The quotient of a least area and a side is the same rounded up as a double and as an integer. -/
theorem ceiling_areas (k : Kind) (ha : a ∈ k.sides) :
    (do Number.ceiling (← Number.quotient k.areas.lo a)) = .ok ((k.areas.lo + a - 1) / a) := by
  have hall : ∀ k ∈ Kind.all, ∀ n ∈ List.range 23, (n : Int) ∈ k.sides →
      (do Number.ceiling (← Number.quotient k.areas.lo n)).toOption =
        some ((k.areas.lo + n - 1) / n) := by decide +kernel
  have hside : 0 ≤ k.sides.lo ∧ k.sides.hi ≤ 22 := by cases k <;> decide
  rw [Span.mem_iff] at ha
  obtain ⟨n, rfl⟩ := Int.eq_ofNat_of_zero_le (show 0 ≤ a by omega)
  exact except_eq_ok_of_toOption (hall k (Kind.mem_all k) n (List.mem_range.2 (by omega)) ha)

/-! ## Where a room of drawn sides is put -/

/-- The rectangle is a room of sides `a` along the direction and `b` across it, placed in the space
beyond the point `p`. -/
structure Sited (k : Kind) (space : Rect) (d : Dir) (p : Vec2) (a b : Int) (r : Rect) : Prop where
  along : d.along r.size = a
  across : d.orthogonal.along r.size = b
  inside : space.Encloses r
  accepted : k.Accepts r
  /-- A point abreast of the space is abreast of the room. -/
  abreast : d.orthogonal.opposite.edge space ≤ d.orthogonal.along p →
    d.orthogonal.along p ≤ d.orthogonal.edge space →
    d.orthogonal.opposite.edge r ≤ d.orthogonal.along p ∧
      d.orthogonal.along p ≤ d.orthogonal.edge r
  /-- From a point just before the space the room starts where the space starts. -/
  start : d.along (p + d.toVec2) = d.opposite.edge space →
    d.opposite.edge r = d.opposite.edge space

/-- Half of a side, rounded down or up. -/
theorem half_le {odd : Int} (hb : 0 ≤ b) (hodd : 0 ≤ odd ∧ odd ≤ 1) :
    0 ≤ b / 2 + b % 2 * odd ∧ b / 2 + b % 2 * odd ≤ b := by
  have hcases : odd = 0 ∨ odd = 1 := by omega
  rcases hcases with rfl | rfl <;> omega

/-- Across its direction a room placed at a point abreast of the space stays abreast of it. -/
theorem abreast_beside (a : Int) {half : Int} (hfit : b ≤ d.orthogonal.along space.size)
    (hhalf : 0 ≤ half ∧ half ≤ b) (hlo : d.orthogonal.opposite.edge space ≤ d.orthogonal.along p)
    (hhi : d.orthogonal.along p ≤ d.orthogonal.edge space) :
    d.orthogonal.opposite.edge (beside space d p a b half) ≤ d.orthogonal.along p ∧
      d.orthogonal.along p ≤ d.orthogonal.edge (beside space d p a b half) := by
  have hright : d.cw.sign * d.cw.along p ≤ d.cw.reach space := by
    cases d <;> simp [Dir.orthogonal, Dir.isY, Dir.opposite, Dir.edge, Dir.along, Dir.cw,
      Dir.sign] at hlo hhi ⊢ <;> omega
  have hleft : d.ccw.sign * d.ccw.along p ≤ d.ccw.reach space := by
    cases d <;> simp [Dir.orthogonal, Dir.isY, Dir.opposite, Dir.edge, Dir.along, Dir.ccw,
      Dir.sign] at hlo hhi ⊢ <;> omega
  obtain ⟨h1, h2⟩ := across_beside a hright hleft hfit hhalf
  cases d <;> simp [Dir.orthogonal, Dir.isY, Dir.opposite, Dir.edge, Dir.along, Dir.cw, Dir.ccw,
    Dir.sign] at h1 h2 ⊢ <;> omega

theorem sited_beside {odd : Int} (hv : space.Valid) (ha : a ∈ alongSides k space d)
    (hb : b ∈ acrossSides k space d a) (hodd : 0 ≤ odd ∧ odd ≤ 1) :
    Sited k space d p a b (beside space d p a b (b / 2 + b % 2 * odd)) := by
  obtain ⟨hin, haccepted⟩ := accepts_beside (p := p) (b / 2 + b % 2 * odd) hv ha hb
  have hside : 0 ≤ k.sides.lo := by cases k <;> decide
  rw [Span.mem_iff] at ha hb
  simp only [alongSides, acrossSides] at ha hb
  obtain ⟨-, halong, hacross⟩ := sides_beside (d := d) (p := p) (b / 2 + b % 2 * odd) hv
    (show 0 ≤ a by omega) (show 0 ≤ b by omega) (by omega) (by omega)
  refine ⟨halong, hacross, hin, haccepted, ?_, fun hp => ?_⟩
  · exact abreast_beside a (by omega) (half_le (by omega) hodd)
  · have hstart : d.sign * d.along p + 1 = -d.opposite.reach space := by
      rw [← Dir.sign_mul_edge_opposite, ← hp, Dir.along_add, Dir.along_toVec2, Int.mul_add,
        Dir.sign_mul_sign]
    have hreach : d.opposite.reach (beside space d p a b (b / 2 + b % 2 * odd)) =
        d.opposite.reach space := reach_opposite_beside hv (show 0 ≤ a by omega) (by omega) hstart
    have hmul := congrArg (d.opposite.sign * ·) hreach
    simpa only [Dir.reach, ← Int.mul_assoc, Dir.sign_mul_sign, Int.one_mul] using hmul

/-! ## The course of a placement -/

inductive Besides (src : Source σ) (k : Kind) (space : Rect) (d : Dir) (p : Vec2)
    (st : Stream σ) : Option Rect → Stream σ → Prop
  /-- The space is not deep enough. -/
  | shallow : (alongSides k space d).hi < (alongSides k space d).lo →
      Besides src k space d p st none st
  /-- The space is not wide enough for the first side that was drawn. -/
  | narrow {a : Int} {s1 : Stream σ} :
      SideDrawn src (alongSides k space d) (d.along space.size) st a s1 →
      (acrossSides k space d a).hi < (acrossSides k space d a).lo →
      Besides src k space d p st none s1
  /-- Both sides are drawn, and where the room goes across the direction. -/
  | placed {a b odd : Int} {s1 s2 s3 : Stream σ} {r : Rect} :
      SideDrawn src (alongSides k space d) (d.along space.size) st a s1 →
      SideDrawn src (acrossSides k space d a) (d.orthogonal.along space.size) s1 b s2 →
      src.between 0 1 s2 = .ok odd s3 → Sited k space d p a b r →
      Besides src k space d p st (some r) s3

/-- A placement beside a point always ends, with nothing only where a range of sides is empty, and
else with a room of exactly the drawn sides. -/
theorem placeBeside_ends (hs : src.Lawful) (hv : space.Valid) (k : Kind) (d : Dir) (p : Vec2)
    (st : Stream σ) : ∃ found st', placeBeside src k space d p st = .ok found st' ∧
      Besides src k space d p st found st' := by
  unfold placeBeside
  dsimp only
  by_cases h1 : (alongSides k space d).hi < (alongSides k space d).lo
  · rw [if_pos h1]
    exact ⟨none, st, rfl, .shallow h1⟩
  · obtain ⟨a, s1, ha⟩ := exists_sideDrawn hs h1 (Int.min_le_left ..) st
    rw [if_neg h1, bind_eq_of_ok ha.drawn]
    by_cases h2 : (acrossSides k space d a).hi < (acrossSides k space d a).lo
    · rw [if_pos h2]
      exact ⟨none, s1, rfl, .narrow ha h2⟩
    · obtain ⟨b, s2, hb⟩ := exists_sideDrawn hs h2 (Int.min_le_left ..) s1
      obtain ⟨odd, s3, hodd, h0, h1, -⟩ := Source.between_ok hs (show (0 : Int) ≤ 1 by decide) s2
      have hsited := sited_beside (p := p) hv ha.mem hb.mem ⟨h0, h1⟩
      rw [if_neg h2, bind_eq_of_ok hb.drawn, bind_eq_of_ok hodd,
        if_pos ⟨hsited.inside, hsited.accepted⟩]
      exact ⟨_, s3, rfl, .placed ha hb hodd hsited⟩

def yard : Rect := ⟨⟨0, 0⟩, ⟨14, 17⟩⟩

def yardDraws : Stream Script := { state := { values := #[1, 2, 3] } }

/-- Beyond a point near the corner of the yard, the bar is moved along the edge of the yard. -/
theorem bar_in_yard : Script.source.Lawful ∧ yard.Valid ∧
    ∃ found st', placeBeside Script.source .bar yard .negX ⟨15, 1⟩ yardDraws = .ok found st' ∧
      Besides Script.source .bar yard .negX ⟨15, 1⟩ yardDraws found st' ∧
      found = some ⟨⟨4, 0⟩, ⟨14, 11⟩⟩ := by
  obtain ⟨found, st', hrun, hends⟩ := placeBeside_ends Script.lawful_source
    (show yard.Valid by decide) .bar .negX ⟨15, 1⟩ yardDraws
  refine ⟨Script.lawful_source, by decide, found, st', hrun, hends, ?_⟩
  cases hrun
  decide

end TavernLayout.Placement
