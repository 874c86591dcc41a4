import TavernLayout.Proofs.Roofing.Canopy
import TavernLayout.Random.Script

/-!
# A roof spreads as far as it can

A roof gives up a side the first time that it finds no room there, and never tries it again while it
grows on other sides. Nothing is lost by that. The edge of a side stays where it was when the side
was given up, and a roof that has become wider across abuts no more rooms than before. So the
finished roof has left out a room that it abuts only if, at some attempt, the first room that might
have come under it had a roof already.

* `Abuts.of_wider`: a roof with the same edge that is wider abuts no more rooms;
* `Canopy.Spread`: what is known of a roof that spreads, with one lemma for each way it may go on;
* `merge_maximal`: the finished roof, the rooms under it and the draws it took.
-/

namespace TavernLayout

/-- A roof that is wider but has the same edge on one side abuts no more rooms there. -/
theorem Abuts.of_wider {roof wider r : Rect} {d : Dir} {maxGap : Int}
    (h : Abuts wider d r maxGap) (hin : wider.Encloses roof) (hedge : d.edge wider = d.edge roof) :
    Abuts roof d r maxGap := by
  rw [abuts_iff_reach] at h ⊢
  obtain ⟨hgap, hacross⟩ := h
  refine ⟨?_, fun e he => Int.le_trans (Dir.encloses_iff_reach.1 hin e) (hacross e he)⟩
  unfold gap at hgap ⊢
  rwa [← hedge]

namespace Roofing

variable {σ : Type} {src : Source σ} {rooms : Store .room Room} {roofs : Store .roof Roof}
  {base : Int} {start : Rect} {id : Ref .room} {c c' : Canopy} {d : Dir}

/-- Some room whose top is at the base has a roof already. -/
def RoofedAt (rooms : Store .room Room) (roofs : Store .roof Roof) (base : Int) : Prop :=
  ∃ r ∈ rooms.items, r.top + 1 = base ∧ r.coveredBy roofs = .ok true

def Barred (rooms : Store .room Room) (base : Int) (c : Canopy) (d : Dir) : Prop :=
  ∀ e ∈ rooms.entries, ¬ Joins c base d e.1 e.2

/-- A roof that started over the room `id` and has grown, as long as no room at its base had a roof
already: the sides that it has given up are barred. -/
structure Canopy.Spread (rooms : Store .room Room) (roofs : Store .roof Roof) (base : Int)
    (start : Rect) (id : Ref .room) (c : Canopy) : Prop where
  encloses : c.bounds.Encloses start
  first : c.covered.head? = some id
  nodup : c.covered.Nodup
  beneath : ∀ other ∈ c.covered, other ≠ id →
    rooms.Names (fun r => r.top + 1 = base ∧ r.coveredBy roofs = .ok false) other
  barred : RoofedAt rooms roofs base ∨ ∀ d ∉ c.sides, Barred rooms base c d

namespace Canopy

/-- A side that is barred stays barred while the roof grows on other sides. -/
theorem barred_extend {other : Ref .room} {r : Room} {e : Dir} (hr : r.footprint.Valid)
    (hj : Joins c base d other r) (he : e ≠ d) (h : Barred rooms base c e) :
    Barred rooms base (c.extend d other r) e := by
  rintro ⟨id, s⟩ hs ⟨hnew, hbase, habuts⟩
  refine h _ hs ⟨fun hid => hnew (List.mem_append_left _ hid), hbase, ?_⟩
  exact habuts.of_wider (encloses_extend hr hj) (Dir.edge_push_of_ne he _ _)

/-- Rooms come under the roof once, and all but the first are rooms of the store. -/
theorem Spread.length_le (h : c.Spread rooms roofs base start id) :
    c.covered.length ≤ rooms.size + 1 := by
  obtain ⟨more, hmore⟩ : ∃ more, c.covered = id :: more := List.head?_eq_some_iff.1 h.first
  have hnodup := h.nodup
  have hbeneath := h.beneath
  rw [hmore] at hnodup hbeneath ⊢
  obtain ⟨hid, hnodup⟩ := List.nodup_cons.1 hnodup
  refine Nat.succ_le_succ (Store.length_le_size hnodup fun other hother => ?_)
  have hne : other ≠ id := fun heq => hid (heq ▸ hother)
  exact (hbeneath other (List.mem_cons_of_mem _ hother) hne).mem_refs

theorem Spread.turn {n : Nat} (hvalid : ∀ r ∈ rooms.items, r.footprint.Valid)
    (h : c.Spread rooms roofs base start id) (hd : c.sides[n]? = some d)
    (ht : Turn rooms roofs base d { c with sides := c.sides.eraseIdx n } c') :
    c'.Spread rooms roofs base start id := by
  have hside : ∀ e ∉ c.sides.eraseIdx n, e ≠ d → e ∉ c.sides := fun e he hne hmem =>
    (eq_or_mem_eraseIdx hd hmem).elim hne he
  obtain ⟨hin, hfirst, hnodup, hbeneath, hbarred⟩ := h
  cases ht with
  | nobody hnobody =>
    refine ⟨hin, hfirst, hnodup, hbeneath, hbarred.imp_right fun hall e he => ?_⟩
    by_cases hed : e = d
    · exact hed ▸ hnobody
    · exact hall e (hside e he hed)
  | roofed hr hbase hcovered => exact ⟨hin, hfirst, hnodup, hbeneath, .inl ⟨_, hr, hbase, hcovered⟩⟩
  | @grows i r hr hj hcovered =>
    have hv := hvalid r (List.mem_of_getElem? hr)
    refine ⟨(encloses_extend hv hj).trans hin, ?_, nodup_extend hnodup hj,
      fun other hother hne => ?_, hbarred.imp_right fun hall e he => ?_⟩
    · show (c.covered ++ _).head? = _
      rw [List.head?_append, hfirst]
      rfl
    · rcases List.mem_append.1 hother with hother | hother
      · exact hbeneath other hother hne
      · obtain rfl := List.mem_singleton.1 hother
        exact ⟨i, r, rfl, hr, hj.2.1, hcovered⟩
    · have hed : e ≠ d := by
        rintro rfl
        exact he (List.mem_append_right _ (List.mem_singleton.2 rfl))
      refine barred_extend hv hj hed ?_
      exact hall e (hside e (fun hmem => he (List.mem_append_left _ hmem)) hed)

end Canopy

/-- Every roof that starts over a room and spreads is finished after one draw for each side and for
each other room that came under it. The start comes first among the rooms under it, none comes
twice, all others have their top at the base, and the roof covers its start. If in the end it abuts
a room at its base that is not under it, then some room at its base had a roof already. -/
theorem merge_maximal (hs : src.Lawful) (hvalid : ∀ r ∈ rooms.items, r.footprint.Valid)
    (hroofs : ∀ r ∈ rooms.items, roofs.Resolves r.roofs) (id : Ref .room) (start : Rect)
    (base : Int) (st : Stream σ) :
    ∃ roof covered st', merge src rooms roofs id start base st = .ok (roof, covered) st' ∧
      st'.draws + 1 = st.draws + 4 + covered.length ∧ st'.draws ≤ st.draws + (4 + rooms.size) ∧
      roof.Encloses start ∧ covered.head? = some id ∧ covered.Nodup ∧
      (∀ other ∈ covered, other ≠ id →
        rooms.Names (fun r => r.top + 1 = base ∧ r.coveredBy roofs = .ok false) other) ∧
      ((∃ d, ∃ e ∈ rooms.entries, e.1 ∉ covered ∧ e.2.top + 1 = base ∧
          Abuts roof d e.2.footprint mergeGap) →
        ∃ r ∈ rooms.items, r.top + 1 = base ∧ r.coveredBy roofs = .ok true) := by
  have hstart : Canopy.Spread rooms roofs base start id ⟨start, [id], Dir.all⟩ := by
    refine ⟨.refl _, rfl, List.nodup_singleton _, fun other hother hne => ?_, .inr fun d hd => ?_⟩
    · exact absurd (List.mem_singleton.1 hother) hne
    · exact absurd (Dir.mem_all d) hd
  have hmost : ∀ c : Canopy, c.Spread rooms roofs base start id →
      c.covered.length ≤ rooms.size + 1 := fun c hc => hc.length_le
  obtain ⟨c, st', hrun, hc, hsides, hdraws⟩ := (ends_mergeLoop hs hroofs hmost
    (fun c c' d n hc hd ht => hc.turn hvalid hd ht) hstart (Nat.le_refl _) st).exists_ok
  have hmerge : merge src rooms roofs id start base st = .ok (c.bounds, c.covered) st' :=
    bind_eq_of_ok hrun _
  have hlength := hmost c hc
  simp only [Dir.all, List.length_cons, List.length_nil] at hdraws
  refine ⟨c.bounds, c.covered, st', hmerge, by omega, by omega, hc.encloses, hc.first, hc.nodup,
    hc.beneath, ?_⟩
  rintro ⟨d, e, he, hnew, hbase, habuts⟩
  refine hc.barred.resolve_right fun hall => ?_
  refine hall d ?_ e he ⟨hnew, hbase, habuts⟩
  rw [hsides]
  exact List.not_mem_nil

/-- Four rooms of one height in a row, the last one under a roof of its own, and a taller one. -/
def rowRooms : Store .room Room where
  items := [
    { bounds := ⟨⟨0, 0, 0⟩, ⟨9, 9, 4⟩⟩, kind := .bar },
    { bounds := ⟨⟨11, 1, 0⟩, ⟨20, 9, 4⟩⟩, kind := .seating },
    { bounds := ⟨⟨22, 0, 0⟩, ⟨31, 9, 4⟩⟩, kind := .seating },
    { bounds := ⟨⟨33, 0, 0⟩, ⟨40, 9, 4⟩⟩, kind := .garden, roofs := [⟨0⟩] },
    { bounds := ⟨⟨0, 11, 0⟩, ⟨9, 20, 6⟩⟩, kind := .stage }]

def rowRoofs : Store .roof Roof where
  items := [{ bounds := ⟨⟨31, -2⟩, ⟨42, 11⟩⟩, base := 5, style := .flat, stairs := none }]

/-- From the second room the roof spreads over the first and the third one, and then abuts the last
one, which has a roof already. -/
theorem row_roofed : Script.source.Lawful ∧ (∀ r ∈ rowRooms.items, r.footprint.Valid) ∧
    (∀ r ∈ rowRooms.items, rowRoofs.Resolves r.roofs) ∧
    ∃ roof covered st', merge Script.source rowRooms rowRoofs ⟨1⟩ ⟨⟨9, -1⟩, ⟨22, 11⟩⟩ 5
        { state := { values := #[2, 7, 1] } } = .ok (roof, covered) st' ∧
      roof = ⟨⟨-2, -1⟩, ⟨33, 11⟩⟩ ∧ covered = [⟨1⟩, ⟨0⟩, ⟨2⟩] ∧ st'.draws = 6 ∧
      ∃ r ∈ rowRooms.items, r.top + 1 = 5 ∧ r.coveredBy rowRoofs = .ok true := by
  have hvalid : ∀ r ∈ rowRooms.items, r.footprint.Valid := by decide
  have hroofs : ∀ r ∈ rowRooms.items, rowRoofs.Resolves r.roofs := by
    intro r hr id hid
    obtain rfl : id = ⟨0⟩ := by
      revert id
      revert r
      decide
    exact ⟨_, rfl⟩
  obtain ⟨roof, covered, st', hrun, -, -, -, -, -, -, hmax⟩ :=
    merge_maximal Script.lawful_source hvalid hroofs ⟨1⟩ ⟨⟨9, -1⟩, ⟨22, 11⟩⟩ 5
      { state := { values := #[2, 7, 1] } }
  refine ⟨Script.lawful_source, hvalid, hroofs, roof, covered, st', hrun, ?_⟩
  cases hrun
  exact ⟨rfl, rfl, rfl, hmax ⟨.posX, by decide⟩⟩

end Roofing

end TavernLayout
