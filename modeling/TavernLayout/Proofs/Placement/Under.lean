import TavernLayout.Proofs.Placement
import TavernLayout.Random.Script

/-!
# Cellars under a corner of a bar

A cellar is put into a corner of the bar and slid towards that corner by what the space cuts off.
That makes good what is cut off on the far side. Where the corner itself sticks out of the space it
moves the wrong way: then the cellar loses on that axis twice what sticks out, and with a side of
less than six left it is given up.

* `reach_underneath`: where the slide leads, for both axes at once;
* `side_underneath`: each side loses twice the overhang of the corner;
* `placeUnder_ends`: a cellar keeps the drawn sides exactly where the corner lies in the space;
* `cellar_lost`: a drawn cellar that is given up.
-/

namespace TavernLayout.Placement

variable {σ : Type} {src : Source σ} {st : Stream σ} {space parent : Rect} {e orth f : Dir}
  {size : Vec2}

/-! ## The slide -/

def cornered (parent : Rect) (e orth : Dir) (size : Vec2) : Rect :=
  (Rect.mk (e.edgePoint parent (orth.edge parent))
    (e.edgePoint parent (orth.edge parent) - (e.toVec2 + orth.toVec2) * size)).sorted

theorem underneath_eq : underneath space parent e orth size =
    ((cornered parent e orth size).shift
      ((size - ((cornered parent e orth size).inter space).size) *
        (e.toVec2 + orth.toVec2))).inter space := rfl

/-- It ends where the parent ends. -/
theorem reach_cornered (parent : Rect) (horth : orth = e.orthogonal ∨ orth = e.orthogonal.opposite)
    (hx : 0 ≤ size.x) (hy : 0 ≤ size.y) (hf : f = e ∨ f = orth) :
    f.reach (cornered parent e orth size) = f.reach parent ∧
      f.opposite.reach (cornered parent e orth size) = f.along size - f.reach parent := by
  cases e <;> rcases horth with rfl | rfl <;> rcases hf with rfl | rfl <;>
    simp [cornered, Dir.orthogonal, Dir.isY, Dir.opposite, Dir.toVec2, Dir.along, Dir.edgePoint,
      Dir.onEdge, Dir.edge, Rect.sorted] <;> omega

theorem reach_shift (f : Dir) (r : Rect) (v : Vec2) :
    f.reach (r.shift v) = f.reach r + f.sign * f.along v := by
  cases f <;> simp [Rect.shift, Dir.sign, Dir.along, Dir.isY] <;> omega

/-- On the axis of either direction the plane of a corner points in the direction. -/
theorem sign_mul_along_plane (horth : orth = e.orthogonal ∨ orth = e.orthogonal.opposite)
    (hf : f = e ∨ f = orth) (v : Vec2) :
    f.sign * f.along (v * (e.toVec2 + orth.toVec2)) = f.along v := by
  cases e <;> rcases horth with rfl | rfl <;> rcases hf with rfl | rfl <;>
    simp [Dir.orthogonal, Dir.isY, Dir.opposite, Dir.toVec2, Dir.along, Dir.sign]

/-- What the space cuts off a side of length `n` that ends where the parent ends. -/
def cutOff (space parent : Rect) (f : Dir) (n : Int) : Int :=
  n - (min (f.reach parent) (f.reach space) + min (n - f.reach parent) (f.opposite.reach space))

/-- Towards the corner the room is moved by what was cut off, and then it is cut again. -/
theorem reach_underneath (space parent : Rect)
    (horth : orth = e.orthogonal ∨ orth = e.orthogonal.opposite) (hx : 0 ≤ size.x) (hy : 0 ≤ size.y)
    (hf : f = e ∨ f = orth) :
    f.reach (underneath space parent e orth size) =
      min (f.reach parent + cutOff space parent f (f.along size)) (f.reach space) ∧
    f.opposite.reach (underneath space parent e orth size) =
      min (f.along size - f.reach parent - cutOff space parent f (f.along size))
        (f.opposite.reach space) := by
  obtain ⟨h1, h2⟩ := reach_cornered parent horth hx hy hf
  have hslide : f.sign * f.along ((size - ((cornered parent e orth size).inter space).size) *
      (e.toVec2 + orth.toVec2)) = cutOff space parent f (f.along size) := by
    rw [sign_mul_along_plane horth hf, Dir.along_sub, Dir.along_size, Dir.reach_inter,
      Dir.reach_inter, h1, h2, cutOff]
  rw [underneath_eq, Dir.reach_inter, Dir.reach_inter, reach_shift, reach_shift, hslide, h1, h2,
    Dir.sign_opposite, Dir.along_opposite, Int.neg_mul, hslide]
  exact ⟨rfl, rfl⟩

def overhang (space parent : Rect) (e : Dir) : Int := max 0 (e.reach parent - e.reach space)

/-- A side that fits into the space loses twice the overhang of the corner. -/
theorem side_underneath (horth : orth = e.orthogonal ∨ orth = e.orthogonal.opposite)
    (hx : 0 ≤ size.x) (hy : 0 ≤ size.y) (hf : f = e ∨ f = orth)
    (hfit : f.along size ≤ f.along space.size) :
    f.along (underneath space parent e orth size).size =
      f.along size - 2 * overhang space parent f := by
  obtain ⟨h1, h2⟩ := reach_underneath space parent horth hx hy hf
  rw [Dir.along_size, h1, h2]
  rw [Dir.along_size] at hfit
  unfold overhang cutOff
  omega

/-! ## Corners -/

/-- The directions of a corner and their opposites are all directions. -/
theorem forall_iff_corner {P : Dir → Prop}
    (horth : orth = e.orthogonal ∨ orth = e.orthogonal.opposite) :
    (∀ d, P d) ↔ ∀ f, f = e ∨ f = orth → P f ∧ P f.opposite := by
  constructor
  · exact fun h f _ => ⟨h f, h f.opposite⟩
  · intro h d
    have he := h e (.inl rfl)
    have ho := h orth (.inr rfl)
    cases e <;> rcases horth with rfl | rfl <;> cases d <;>
      first | exact he.1 | exact he.2 | exact ho.1 | exact ho.2

/-- One of the directions of a corner lies on the x axis and the other on the y axis. -/
theorem axes_iff_corner {P : Int → Int → Prop} {v w : Vec2}
    (horth : orth = e.orthogonal ∨ orth = e.orthogonal.opposite) :
    P v.x w.x ∧ P v.y w.y ↔ ∀ f, f = e ∨ f = orth → P (f.along v) (f.along w) := by
  constructor
  · rintro ⟨hx, hy⟩ f -
    cases f <;> assumption
  · intro h
    have he := h e (.inl rfl)
    have ho := h orth (.inr rfl)
    cases e <;> rcases horth with rfl | rfl <;> first | exact ⟨he, ho⟩ | exact ⟨ho, he⟩

theorem sign_mul_along_corner (parent : Rect)
    (horth : orth = e.orthogonal ∨ orth = e.orthogonal.opposite) (hf : f = e ∨ f = orth) :
    f.sign * f.along (e.edgePoint parent (orth.edge parent)) = f.reach parent := by
  cases e <;> rcases horth with rfl | rfl <;> rcases hf with rfl | rfl <;>
    simp [Dir.edgePoint, Dir.onEdge, Dir.orthogonal, Dir.opposite, Dir.along, Dir.isY, Dir.edge,
      Dir.sign]

/-- The corner of a parent of which all but a rim of two cells lies in the space, lies in it itself
where the parent sticks out in neither direction. -/
theorem corner_mem_iff (horth : orth = e.orthogonal ∨ orth = e.orthogonal.opposite)
    (hrim : space.Encloses (parent.grow (-2)))
    (hwide : ∀ d : Dir, 4 ≤ d.reach parent + d.opposite.reach parent) :
    e.edgePoint parent (orth.edge parent) ∈ space ↔
      ∀ f, f = e ∨ f = orth → overhang space parent f = 0 := by
  rw [Rect.mem_iff_reach, forall_iff_corner horth]
  refine forall_congr' fun f => imp_congr_right fun hf => ?_
  rw [Dir.sign_opposite, Dir.along_opposite, Int.neg_mul, sign_mul_along_corner parent horth hf]
  have hfar := Dir.encloses_iff_reach.1 hrim f.opposite
  rw [Dir.reach_grow] at hfar
  have := hwide f
  unfold overhang
  omega

/-! ## Cellars -/

/-- What becomes of a cellar of the given size in the corner of a bar between two directions. -/
structure Slid (space parent : Rect) (e orth : Dir) (size : Vec2) (r : Rect) : Prop where
  inside : space.Encloses r
  under : r.Collides parent
  /-- On either axis the cellar loses twice the overhang of the corner. -/
  sides : ∀ f, f = e ∨ f = orth → f.along r.size = f.along size - 2 * overhang space parent f
  /-- It has the drawn size exactly where the corner lies in the space. -/
  whole : r.size = size ↔ e.edgePoint parent (orth.edge parent) ∈ space

theorem slid_underneath (horth : orth = e.orthogonal ∨ orth = e.orthogonal.opposite)
    (hrim : space.Encloses (parent.grow (-2)))
    (hwide : ∀ d : Dir, 4 ≤ d.reach parent + d.opposite.reach parent)
    (hx : 2 ≤ size.x) (hy : 2 ≤ size.y)
    (hfitx : size.x ≤ space.size.x) (hfity : size.y ≤ space.size.y) :
    Slid space parent e orth size (underneath space parent e orth size) := by
  have hsides : ∀ f, f = e ∨ f = orth → f.along (underneath space parent e orth size).size =
      f.along size - 2 * overhang space parent f := by
    intro f hf
    refine side_underneath horth (by omega) (by omega) hf ?_
    cases f <;> assumption
  refine ⟨Rect.encloses_inter_right .., collides_underneath horth hwide hrim hx hy, hsides, ?_⟩
  rw [Vec2.ext_iff, axes_iff_corner horth, corner_mem_iff horth hrim hwide]
  refine forall_congr' fun f => imp_congr_right fun hf => ?_
  rw [hsides f hf]
  omega

theorem Slid.size_le {r : Rect} (h : Slid space parent e orth size r)
    (horth : orth = e.orthogonal ∨ orth = e.orthogonal.opposite) :
    r.size.x ≤ size.x ∧ r.size.y ≤ size.y := by
  rw [axes_iff_corner horth]
  intro f hf
  have hside := h.sides f hf
  have : 0 ≤ overhang space parent f := Int.le_max_left ..
  omega

/-- The area of a cellar whose sides are long enough is large enough, and it is not too large if the
cellar was cut out of one of drawn size. -/
theorem accepts_of_least {r : Rect} (hsize : r.size.x ≤ size.x ∧ r.size.y ≤ size.y)
    (hmost : size.greatest ≤ 12) (harea : size.product ≤ 110) (hleast : 6 ≤ r.size.least) :
    Kind.cellar.Accepts r := by
  simp only [Vec2.least, Vec2.greatest] at hleast hmost
  refine ⟨?_, hleast, ?_, ?_, ?_⟩
  · simp only [Rect.size, Vec2.x_sub, Vec2.y_sub] at hleast
    unfold Rect.Valid
    omega
  · simp only [Vec2.greatest, Kind.sides]
    omega
  · show 35 ≤ r.size.x * r.size.y
    have := Int.mul_le_mul (show 6 ≤ r.size.x by omega) (show 6 ≤ r.size.y by omega) (by decide)
      (by omega)
    omega
  · exact Int.le_trans (Int.mul_le_mul hsize.1 hsize.2 (by omega) (by omega)) harea

/-- The size of a cellar is drawn, and the two directions of the corner it goes to. -/
def Drafted (src : Source σ) (space : Rect) (st : Stream σ) (size : Vec2) (e orth : Dir)
    (st' : Stream σ) : Prop :=
  ∃ s1 s2 s3, SideDrawn src (xSides .cellar space) space.size.x st size.x s1 ∧
    SideDrawn src (ySides .cellar space size.x) space.size.y s1 size.y s2 ∧
    src.choose Dir.all s2 = .ok e s3 ∧
    src.choose [e.orthogonal, e.orthogonal.opposite] s3 = .ok orth st'

theorem sides_of_drafted {st' : Stream σ} (h : Drafted src space st size e orth st') :
    (6 ≤ size.x ∧ size.x ≤ space.size.x) ∧ (6 ≤ size.y ∧ size.y ≤ space.size.y) ∧
      size.greatest ≤ 12 ∧ size.product ≤ 110 := by
  obtain ⟨s1, s2, s3, ⟨-, hx⟩, ⟨-, hy⟩, -⟩ := h
  simp only [Span.mem_iff, xSides, ySides, Kind.sides, Kind.areas] at hx hy
  have harea := (Int.le_ediv_iff_mul_le (show 0 < size.x by omega)).1
    (show size.y ≤ 110 / size.x by omega)
  rw [Int.mul_comm] at harea
  refine ⟨by omega, by omega, ?_, harea⟩
  simp only [Vec2.greatest]
  omega

inductive Unders (src : Source σ) (space parent : Rect) (st : Stream σ) :
    Option Rect → Stream σ → Prop
  /-- The space is too short. -/
  | short : (xSides .cellar space).hi < (xSides .cellar space).lo →
      Unders src space parent st none st
  /-- The space is too narrow for the first side that was drawn. -/
  | narrow {a : Int} {s1 : Stream σ} :
      SideDrawn src (xSides .cellar space) space.size.x st a s1 →
      (ySides .cellar space a).hi < (ySides .cellar space a).lo → Unders src space parent st none s1
  /-- The cellar is wide enough after the slide. -/
  | kept {size : Vec2} {e orth : Dir} {st' : Stream σ} {r : Rect} :
      Drafted src space st size e orth st' → Slid space parent e orth size r →
      6 ≤ r.size.least → Unders src space parent st (some r) st'
  /-- The corner sticks out of the space, and the slide leaves too little. -/
  | lost {size : Vec2} {e orth : Dir} {st' : Stream σ} {r : Rect} :
      Drafted src space st size e orth st' → Slid space parent e orth size r →
      r.size.least < 6 → e.edgePoint parent (orth.edge parent) ∉ space →
      Unders src space parent st none st'

/-- A placement of a cellar under a bar always ends. Once both sides are drawn, the cellar has the
drawn size exactly where the chosen corner of the bar lies in the space; where it sticks out, each
side loses twice the overhang, and a cellar that is left with a side of less than six is given
up. -/
theorem placeUnder_ends (hs : src.Lawful) (hbar : Kind.bar.Accepts parent)
    (hrim : space.Encloses (parent.grow (-2))) (st : Stream σ) :
    ∃ found st', placeUnder src .cellar space parent st = .ok found st' ∧
      Unders src space parent st found st' := by
  have hwide : ∀ d : Dir, 4 ≤ d.reach parent + d.opposite.reach parent := by
    intro d
    exact Int.le_trans (by decide) (side_le_of_accepts hbar d)
  unfold placeUnder
  dsimp only
  by_cases h1 : (xSides .cellar space).hi < (xSides .cellar space).lo
  · rw [if_pos h1]
    exact ⟨none, st, rfl, .short h1⟩
  obtain ⟨a, s1, ha⟩ := exists_sideDrawn hs h1 (Int.min_le_left ..) st
  rw [if_neg h1, bind_eq_of_ok ha.drawn]
  by_cases h2 : (ySides .cellar space a).hi < (ySides .cellar space a).lo
  · rw [if_pos h2]
    exact ⟨none, s1, rfl, .narrow ha h2⟩
  obtain ⟨b, s2, hb⟩ := exists_sideDrawn hs h2 (Int.min_le_left ..) s1
  obtain ⟨e, s3, he, -, -⟩ := Source.choose_ok hs (show Dir.all ≠ [] by decide) s2
  obtain ⟨orth, s4, horth, hmem, -⟩ :=
    Source.choose_ok hs (List.cons_ne_nil e.orthogonal [e.orthogonal.opposite]) s3
  rw [if_neg h2, bind_eq_of_ok hb.drawn, bind_eq_of_ok he, bind_eq_of_ok horth]
  simp only [List.mem_cons, List.not_mem_nil, or_false] at hmem
  have hdraft : Drafted src space st ⟨a, b⟩ e orth s4 := ⟨s1, s2, s3, ha, hb, he, horth⟩
  obtain ⟨hx, hy, hmost, harea⟩ := sides_of_drafted hdraft
  have hslid : Slid space parent e orth ⟨a, b⟩ (underneath space parent e orth ⟨a, b⟩) :=
    slid_underneath hmem hrim hwide (by omega) (by omega) hx.2 hy.2
  by_cases hleast : 6 ≤ (underneath space parent e orth ⟨a, b⟩).size.least
  · rw [if_pos (accepts_of_least (hslid.size_le hmem) hmost harea hleast)]
    exact ⟨_, s4, rfl, .kept hdraft hslid hleast⟩
  · rw [if_neg fun haccepts => hleast haccepts.2.1]
    refine ⟨none, s4, rfl, .lost hdraft hslid (by omega) fun hin => hleast ?_⟩
    rw [hslid.whole.2 hin, Vec2.least]
    omega

def zeros : Stream Script := { state := { values := #[0] } }

/-- Where the space ends one cell before the bar, a cellar in that corner loses two cells. -/
theorem cellar_at_rim : Script.source.Lawful ∧ Kind.bar.Accepts ⟨⟨0, 0⟩, ⟨9, 9⟩⟩ ∧
    (Rect.mk ⟨0, 0⟩ ⟨8, 9⟩).Encloses ((Rect.mk ⟨0, 0⟩ ⟨9, 9⟩).grow (-2)) ∧
    ∃ found st', placeUnder Script.source .cellar ⟨⟨0, 0⟩, ⟨8, 9⟩⟩ ⟨⟨0, 0⟩, ⟨9, 9⟩⟩ zeros =
        .ok found st' ∧
      Unders Script.source ⟨⟨0, 0⟩, ⟨8, 9⟩⟩ ⟨⟨0, 0⟩, ⟨9, 9⟩⟩ zeros found st' ∧
      found = some ⟨⟨2, 3⟩, ⟨8, 9⟩⟩ := by
  obtain ⟨found, st', hrun, hends⟩ := placeUnder_ends Script.lawful_source
    (show Kind.bar.Accepts ⟨⟨0, 0⟩, ⟨9, 9⟩⟩ by decide)
    (show (Rect.mk ⟨0, 0⟩ ⟨8, 9⟩).Encloses ((Rect.mk ⟨0, 0⟩ ⟨9, 9⟩).grow (-2)) by decide) zeros
  refine ⟨Script.lawful_source, by decide, by decide, found, st', hrun, hends, ?_⟩
  cases hrun
  decide

/-- Where the space ends two cells before the bar, a cellar of seven by six cells is given up,
although there is room for one of this size under the bar. -/
theorem cellar_lost : Script.source.Lawful ∧ (Rect.mk ⟨0, 0⟩ ⟨7, 9⟩).Valid ∧
    Kind.bar.Accepts ⟨⟨0, 0⟩, ⟨9, 9⟩⟩ ∧
    (Rect.mk ⟨0, 0⟩ ⟨7, 9⟩).Encloses ((Rect.mk ⟨0, 0⟩ ⟨9, 9⟩).grow (-2)) ∧
    (∃ s1 s2, SideDrawn Script.source (xSides .cellar ⟨⟨0, 0⟩, ⟨7, 9⟩⟩) 7 zeros 7 s1 ∧
      SideDrawn Script.source (ySides .cellar ⟨⟨0, 0⟩, ⟨7, 9⟩⟩ 7) 9 s1 6 s2) ∧
    (∃ st', placeUnder Script.source .cellar ⟨⟨0, 0⟩, ⟨7, 9⟩⟩ ⟨⟨0, 0⟩, ⟨9, 9⟩⟩ zeros =
      .ok none st') ∧
    (Rect.mk ⟨0, 3⟩ ⟨7, 9⟩).size = ⟨7, 6⟩ ∧
    (Rect.mk ⟨0, 0⟩ ⟨7, 9⟩).Encloses ⟨⟨0, 3⟩, ⟨7, 9⟩⟩ ∧
    (Rect.mk ⟨0, 3⟩ ⟨7, 9⟩).Collides ⟨⟨0, 0⟩, ⟨9, 9⟩⟩ := by
  refine ⟨Script.lawful_source, by decide, by decide, by decide, ?_, ⟨_, rfl⟩, by decide,
    by decide, by decide⟩
  exact ⟨_, _, ⟨rfl, by decide⟩, rfl, by decide⟩

end TavernLayout.Placement
