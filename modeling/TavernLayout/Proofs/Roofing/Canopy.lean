import Mathlib.Data.List.Nodup
import Mathlib.Data.List.Perm.Subperm
import TavernLayout.Layout.Roofing
import TavernLayout.Proofs.Grid.Reach
import TavernLayout.Proofs.Works

/-!
# How a roof grows

A roof only grows, and never beyond the rooms it grows over by more than an overhang. All rooms that
come under it have the same height, and none comes under it twice; so it stops growing after as many
attempts as there are sides and rooms.

* `Room.coveredBy_ok`: whether a room is covered can be told;
* `abuts_iff_reach`: what a roof abuts, in the same words for every direction;
* `Canopy.Spans`: a roof that grows, with one lemma for each way it may go on;
* `Turn`, `turn_of_growOn`: what one attempt makes of a roof;
* `ends_mergeLoop`: what every attempt keeps holds of the finished roof;
* `ends_merge`: the roof that started over one room.
-/

namespace TavernLayout

theorem Room.enclosedBy_ok {roofs : Store .roof Roof} {space : Rect} {ids : List (Ref .roof)}
    (h : roofs.Resolves ids) : ∃ b, enclosedBy roofs space ids = .ok b := by
  induction ids with
  | nil => exact ⟨false, rfl⟩
  | cons id ids ih =>
    obtain ⟨roof, hr⟩ := h id List.mem_cons_self
    obtain ⟨b, hb⟩ := ih fun i hi => h i (List.mem_cons_of_mem _ hi)
    rw [enclosedBy, hr]
    simp only [bind, Except.bind]
    split
    · exact ⟨true, rfl⟩
    · exact ⟨b, hb⟩

theorem Room.coveredBy_ok {r : Room} {roofs : Store .roof Roof} (h : roofs.Resolves r.roofs) :
    ∃ b, r.coveredBy roofs = .ok b := enclosedBy_ok h

theorem Store.length_le_size {e : Entity} {α : Type} {s : Store e α} {ids : List (Ref e)}
    (hn : ids.Nodup) (h : ids ⊆ s.refs) : ids.length ≤ s.size := by
  have hle := (List.subperm_of_subset hn h).length_le
  rwa [Store.refs, List.length_map, List.length_range] at hle

theorem gap_eq (roof : Rect) (d : Dir) (r : Rect) :
    gap roof d r = -d.opposite.reach r - d.reach roof := by
  rw [gap, Int.mul_comm, Int.mul_sub, Dir.sign_mul_edge_opposite]
  rfl

/-- Across the side, a roof ends at both ends before the rectangle that it abuts, up to the
tolerance. -/
theorem abuts_iff_reach {roof r : Rect} {d : Dir} {maxGap : Int} :
    Abuts roof d r maxGap ↔ (0 ≤ gap roof d r ∧ gap roof d r ≤ maxGap) ∧
      ∀ e : Dir, e.isY ≠ d.isY → e.reach roof ≤ e.reach r + mergeTolerance := by
  refine and_congr Iff.rfl ?_
  rw [Dir.forall_iff]
  cases d <;> simp [Dir.orthogonal, Dir.isY, Dir.opposite, Dir.edge] <;> omega

namespace Roofing

variable {σ : Type} {src : Source σ} {rooms : Store .room Room} {roofs : Store .roof Roof}
  {base limit : Int} {start : Rect} {c c' : Canopy} {d : Dir}

/-- The room is not crossed, and a roof over it ends within the limit. -/
def Within (limit : Int) (r : Room) : Prop :=
  r.footprint.Valid ∧ ∀ d : Dir, d.reach r.footprint + overhang ≤ limit

/-- A roof that began over `start` and has grown. -/
structure Canopy.Spans (rooms : Store .room Room) (base limit : Int) (start : Rect)
    (c : Canopy) : Prop where
  encloses : c.bounds.Encloses start
  within : ∀ d : Dir, d.reach c.bounds ≤ limit
  nodup : c.covered.Nodup
  beneath : ∀ id ∈ c.covered, rooms.Names (fun r => r.top + 1 = base) id

namespace Canopy

theorem Spans.length_le (h : c.Spans rooms base limit start) : c.covered.length ≤ rooms.size :=
  Store.length_le_size h.nodup fun id hid => (h.beneath id hid).mem_refs

theorem Spans.withSides (h : c.Spans rooms base limit start) (sides : List Dir) :
    Spans rooms base limit start { c with sides } :=
  ⟨h.encloses, h.within, h.nodup, h.beneath⟩

theorem reach_extend (c : Canopy) (d : Dir) (id : Ref .room) (r : Room) :
    d.reach (c.extend d id r).bounds = d.reach r.footprint + overhang := by
  rw [extend, Dir.reach_push, Int.mul_sub]
  show d.reach c.bounds + (d.reach r.footprint - d.reach c.bounds + overhang) = _
  omega

/-- A roof that grows over a room beyond one of its edges covers more than before. -/
theorem encloses_extend {id : Ref .room} {r : Room} (hr : r.footprint.Valid)
    (hj : Joins c base d id r) : (c.extend d id r).bounds.Encloses c.bounds := by
  obtain ⟨-, -, ⟨hgap, -⟩, -, -⟩ := hj
  have hwide := Dir.valid_iff_reach.1 hr d
  rw [gap_eq] at hgap
  have hover : overhang = 2 := rfl
  rw [Dir.encloses_iff_reach]
  intro e
  by_cases he : e = d
  · subst he
    rw [reach_extend]
    omega
  · exact Int.le_of_eq (Dir.reach_push_of_ne he _ _).symm

theorem nodup_extend {id : Ref .room} {r : Room} (h : c.covered.Nodup) (hj : Joins c base d id r) :
    (c.extend d id r).covered.Nodup := by
  refine List.nodup_append.2 ⟨h, List.nodup_singleton _, ?_⟩
  rintro a ha b hb rfl
  obtain rfl := List.mem_singleton.1 hb
  exact hj.1 ha

theorem Spans.extend {i : Nat} {r : Room} (h : c.Spans rooms base limit start)
    (hr : rooms.items[i]? = some r) (hw : Within limit r) (hj : Joins c base d ⟨(i : Int)⟩ r) :
    Spans rooms base limit start (c.extend d ⟨(i : Int)⟩ r) := by
  obtain ⟨hvalid, hlimit⟩ := hw
  refine ⟨(encloses_extend hvalid hj).trans h.encloses, fun e => ?_, nodup_extend h.nodup hj,
    fun id hid => ?_⟩
  · by_cases he : e = d
    · subst he
      rw [reach_extend]
      exact hlimit e
    · exact Int.le_trans (Int.le_of_eq (Dir.reach_push_of_ne he _ _)) (h.within e)
  · rcases List.mem_append.1 hid with hid | hid
    · exact h.beneath id hid
    · obtain rfl := List.mem_singleton.1 hid
      exact ⟨i, r, rfl, hr, hj.2.1⟩

end Canopy

/-! ## Attempts -/

/-- What an attempt to grow on the side `d` makes of a roof. -/
inductive Turn (rooms : Store .room Room) (roofs : Store .roof Roof) (base : Int) (d : Dir)
    (c : Canopy) : Canopy → Prop
  /-- No room may come under the roof on that side. -/
  | nobody : (∀ e ∈ rooms.entries, ¬ Joins c base d e.1 e.2) → Turn rooms roofs base d c c
  /-- The first room that may come under it has a roof already. -/
  | roofed {r : Room} : r ∈ rooms.items → r.top + 1 = base → r.coveredBy roofs = .ok true →
      Turn rooms roofs base d c c
  /-- The roof grows over a room. -/
  | grows {i : Nat} {r : Room} : rooms.items[i]? = some r → Joins c base d ⟨(i : Int)⟩ r →
      r.coveredBy roofs = .ok false → Turn rooms roofs base d c (c.extend d ⟨(i : Int)⟩ r)

theorem turn_of_growOn (hroofs : ∀ r ∈ rooms.items, roofs.Resolves r.roofs) (base : Int) (d : Dir)
    (c : Canopy) : ∃ c', growOn rooms roofs base d c = .ok c' ∧ Turn rooms roofs base d c c' := by
  unfold growOn
  split
  · next hfind =>
    refine ⟨c, rfl, .nobody fun e he hj => ?_⟩
    exact List.find?_eq_none.1 hfind e he (decide_eq_true hj)
  · next id r hfind =>
    obtain ⟨i, rfl, hr⟩ := Store.mem_entries (List.mem_of_find?_eq_some hfind)
    have hj := List.find?_some hfind
    rw [decide_eq_true_eq] at hj
    have hmem := List.mem_of_getElem? hr
    obtain ⟨b, hb⟩ := Room.coveredBy_ok (hroofs r hmem)
    rw [hb]
    cases b with
    | true => exact ⟨c, rfl, .roofed hmem hj.2.1 hb⟩
    | false => exact ⟨_, rfl, .grows hr hj hb⟩

/-- A side is given back for every room that comes under the roof. -/
theorem Turn.length_eq (h : Turn rooms roofs base d c c') :
    c'.sides.length + c.covered.length = c.sides.length + c'.covered.length := by
  cases h with
  | nobody => rfl
  | roofed => rfl
  | grows =>
    simp only [Canopy.extend, List.length_append, List.length_singleton]
    omega

/-- What every attempt keeps holds of the finished roof, if it bounds the number of rooms under the
roof. The roof is finished after one draw for each side and each room that came under it. -/
theorem ends_mergeLoop {I : Canopy → Prop} {most : Nat} (hs : src.Lawful)
    (hroofs : ∀ r ∈ rooms.items, roofs.Resolves r.roofs)
    (hmost : ∀ c, I c → c.covered.length ≤ most)
    (hturn : ∀ c c' d n, I c → c.sides[n]? = some d →
      Turn rooms roofs base d { c with sides := c.sides.eraseIdx n } c' → I c')
    {fuel : Nat} (hc : I c) (hfuel : c.sides.length + (most - c.covered.length) ≤ fuel)
    (st : Stream σ) :
    Ends (fun c' st' => I c' ∧ c'.sides = [] ∧
        st'.draws + c.covered.length = st.draws + c.sides.length + c'.covered.length)
      (fun _ => False) (mergeLoop src rooms roofs base fuel c) st := by
  have hdone : ∀ {c : Canopy}, I c → c.sides = [] → ∀ st : Stream σ,
      Ends (fun c' st' => I c' ∧ c'.sides = [] ∧
          st'.draws + c.covered.length = st.draws + c.sides.length + c'.covered.length)
        (fun _ => False) (pure c) st := by
    intro c hc hnone st
    exact .pure ⟨hc, hnone, by rw [hnone]; rfl⟩
  induction fuel generalizing c st with
  | zero =>
    have hnone : c.sides = [] := List.length_eq_zero_iff.1 (by omega)
    rw [mergeLoop, if_pos hnone]
    exact hdone hc hnone st
  | succ fuel ih =>
    rw [mergeLoop]
    split
    · next hnone => exact hdone hc hnone st
    · next hsides =>
      have hpos : 0 < c.sides.length := List.length_pos_iff.2 hsides
      refine .bind_of_ok (Source.faultsIn_between (by omega)) fun n st1 hn => ?_
      obtain ⟨h0, hlt⟩ := Source.mem_of_between hs hn
      have hdraws := Source.draws_of_between hn
      have hi : n.toNat < c.sides.length := by omega
      rw [List.getElem?_eq_getElem hi]
      dsimp only
      obtain ⟨c1, hc1, ht⟩ := turn_of_growOn hroofs base c.sides[n.toNat]
        { c with sides := c.sides.eraseIdx n.toNat }
      refine .bind_lift (by simp [hc1]) fun c2 hc2 => ?_
      obtain rfl := Except.ok.inj (hc1.symm.trans hc2)
      have hkept := hturn c c1 _ n.toNat hc (List.getElem?_eq_getElem hi) ht
      have hlength := ht.length_eq
      have hmost1 := hmost c hc
      have hmost2 := hmost c1 hkept
      simp only [List.length_eraseIdx_of_lt hi] at hlength
      refine (ih hkept (by omega) st1).mono fun c3 st3 h3 => ⟨h3.1, h3.2.1, ?_⟩
      have := h3.2.2
      omega

/-- The roof that started over one room. -/
theorem ends_merge (hs : src.Lawful) (hroofs : ∀ r ∈ rooms.items, roofs.Resolves r.roofs)
    (hrooms : ∀ r ∈ rooms.items, Within limit r) {i : Nat} {r : Room}
    (hr : rooms.items[i]? = some r) (st : Stream σ) :
    Ends (fun result _ => result.1.Encloses (r.footprint.grow overhang) ∧
        (∀ d : Dir, d.reach result.1 ≤ limit) ∧ result.2.Nodup ∧ ⟨(i : Int)⟩ ∈ result.2 ∧
        ∀ id ∈ result.2, rooms.Names (fun s => s.top + 1 = r.top + 1) id) (fun _ => False)
      (merge src rooms roofs ⟨(i : Int)⟩ (r.footprint.grow overhang) (r.top + 1)) st := by
  have hstart : Canopy.Spans rooms (r.top + 1) limit (r.footprint.grow overhang)
      ⟨r.footprint.grow overhang, [⟨(i : Int)⟩], Dir.all⟩ := by
    refine ⟨Rect.Encloses.refl _, fun d => ?_, List.nodup_singleton _, fun id hid => ?_⟩
    · rw [Dir.reach_grow]
      exact (hrooms r (List.mem_of_getElem? hr)).2 d
    · obtain rfl := List.mem_singleton.1 hid
      exact ⟨i, r, rfl, hr, rfl⟩
  have hturn : ∀ (c c' : Canopy) (d : Dir) (n : Nat),
      c.Spans rooms (r.top + 1) limit (r.footprint.grow overhang) ∧ ⟨(i : Int)⟩ ∈ c.covered →
      c.sides[n]? = some d →
      Turn rooms roofs (r.top + 1) d { c with sides := c.sides.eraseIdx n } c' →
      c'.Spans rooms (r.top + 1) limit (r.footprint.grow overhang) ∧ ⟨(i : Int)⟩ ∈ c'.covered := by
    rintro c c' d n ⟨hspans, hfirst⟩ - ht
    cases ht with
    | nobody => exact ⟨hspans.withSides _, hfirst⟩
    | roofed => exact ⟨hspans.withSides _, hfirst⟩
    | grows hs hj =>
      exact ⟨(hspans.withSides _).extend hs (hrooms _ (List.mem_of_getElem? hs)) hj,
        List.mem_append_left _ hfirst⟩
  refine (ends_mergeLoop hs hroofs (fun c hc => hc.1.length_le) hturn
    ⟨hstart, List.mem_singleton.2 rfl⟩ ?_ st).bind fun c st' hc => .pure ?_
  · exact Nat.add_le_add_left (Nat.sub_le _ _) _
  · obtain ⟨⟨hspans, hfirst⟩, -⟩ := hc
    exact ⟨hspans.encloses, hspans.within, hspans.nodup, hfirst, hspans.beneath⟩

end Roofing

end TavernLayout
