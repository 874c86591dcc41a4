import TavernLayout.Proofs.Finishing
import TavernLayout.Proofs.Growth.Descent

/-!
# The ceiling of a cellar is the floor of its bar

A cellar is dug two layers under its bar and stays under it. Whichever roof comes to cover the
cellar lies in the layer between the two and meets the bar, which therefore stands on it; so it is a
floor. That holds wherever the building lies, also for a cellar that came under the roof of another
one.

* `Covered`, `covered_of_roofBuilding`: a building that has been roofed;
* `Ceils`, `Covered.ceils`: the roof between a cellar and its bar;
* `cellars_ceiled`: every cellar that was dug out has one.
-/

namespace TavernLayout

variable {σ : Type} {src : Source σ} {plot : Plot} {u v w t : Works σ}
  {roofs : Store .roof Roof}

namespace Roofing

/-! ## Buildings that have been roofed -/

/-- Every room of the building is covered, its roofs and links agree, and rooms stand on all roofs
that they could stand on. -/
structure Covered (t : Works σ) (roofs : Store .roof Roof) : Prop where
  roofed : Roofed t roofs
  borne : Borne t roofs
  sheltered : ∀ r ∈ t.rooms.items, Sheltered roofs r

/-- Rooms in a space do not reach beyond some limit. -/
theorem exists_within (space : Rect) : ∃ limit, ∀ r : Room,
    r.footprint.Valid ∧ space.Encloses r.footprint → Within limit r := by
  refine ⟨space.max.x.natAbs + space.max.y.natAbs + space.min.x.natAbs + space.min.y.natAbs + 2,
    fun r hr => ⟨hr.1, fun d => ?_⟩⟩
  have hreach := Dir.encloses_iff_reach.1 hr.2 d
  have hover : overhang = 2 := rfl
  cases d <;>
    simp only [Dir.reach_posX, Dir.reach_posY, Dir.reach_negX, Dir.reach_negY] at hreach ⊢ <;>
    omega

/-- A building that is roofed without a fault is covered, wherever it lies. -/
theorem covered_of_roofBuilding {space : Rect} (hs : src.Lawful) (hw : Roofable space w)
    (h : roofBuilding src w = .ok roofs t) : Covered t roofs := by
  obtain ⟨limit, hlimit⟩ := exists_within space
  have hfit : Fit limit w := ⟨fun r hr => hlimit r (hw.inside r hr), hw.surrounded⟩
  have hends := ends_roofRooms (P := fun _ => True) hs (.inr fun _ => trivial) hfit (fun _ => id)
    rfl (roofed_empty hw.unroofed) (borne_empty w)
  obtain ⟨w1, w2, h1, h⟩ := bind_eq_ok_iff.1 h
  obtain ⟨rfl, rfl⟩ := get_eq_ok_iff.1 h1
  obtain ⟨hroofed, hborne, hkeeps, hall⟩ := hends.1 roofs t h
  refine ⟨hroofed, hborne, fun r hr => ?_⟩
  obtain ⟨i, hi⟩ := List.mem_iff_getElem?.1 hr
  have hmem : ⟨(i : Int)⟩ ∈ w.rooms.refs :=
    hkeeps.refs ▸ Store.mem_refs_iff.2 (List.getElem?_eq_some_iff.1 hi).1
  obtain ⟨r', hr', hshelter⟩ := hall i hmem
  obtain rfl := Option.some.inj (hi.symm.trans hr')
  exact hshelter

/-! ## Between a cellar and its bar -/

/-- One of the roofs over the cellar covers all of it and is a floor right below the bar, which
stands on it. -/
def Ceils (roofs : Store .roof Roof) (cellar bar : Room) : Prop :=
  ∃ (k : Nat) (roof : Roof), ⟨(k : Int)⟩ ∈ cellar.roofs ∧ roofs.items[k]? = some roof ∧
    roof.bounds.Encloses cellar.footprint ∧ roof.style = .floor ∧ roof.base = bar.bottom - 1 ∧
    ⟨(k : Int)⟩ ∈ bar.floors

/-- The roof that covers a room two layers under another one, and under it, is the floor of that
one. -/
theorem Covered.ceils {cellar bar : Room} (h : Covered t roofs) (hc : cellar ∈ t.rooms.items)
    (hb : bar ∈ t.rooms.items) (hmeets : cellar.footprint.Collides bar.footprint)
    (hdrop : cellar.top = bar.bottom - 2) : Ceils roofs cellar bar := by
  obtain ⟨k, roof, hk, hroof, henc⟩ := h.sheltered cellar hc
  obtain ⟨rf, hrf, hbase, -⟩ := Store.names_iff.1 (h.roofed.overhead cellar hc _ hk)
  obtain rfl := Option.some.inj (hroof.symm.trans hrf)
  have hbelow : roof.base = bar.bottom - 1 := by omega
  have hstands : ⟨(k : Int)⟩ ∈ bar.floors :=
    h.borne k roof hroof bar hb hbelow.symm (hmeets.mono henc).symm
  have hfloor : roof.style = .floor := (h.roofed.floor_iff k roof hroof).2 ⟨bar, hb, hstands⟩
  exact ⟨k, roof, hk, hroof, henc, hfloor, hbelow, hstands⟩

open Growth Tavern

theorem roofable_of_planned (hs : src.Lawful) (hp : Planned src plot u v w) :
    Roofable plot.interior w := by
  obtain ⟨n, hr⟩ := hp.grown
  obtain ⟨w', hw', hroofable⟩ := exists_partitionRooms hs hp.opened hr
  have hsame := hp.partitioned
  rw [hw'] at hsame
  cases hsame
  exact hroofable

/-- In every building that has grown, been partitioned and been roofed, the ceiling of a cellar that
was dug out under a bar is the floor of that bar; `es` tells which cellars these are. -/
theorem cellars_ceiled (hs : src.Lawful) (hp : Planned src plot u v w)
    (h : roofBuilding src w = .ok roofs t) :
    ∃ es, v.journal = u.journal ++ es ∧ ∀ e ∈ es, ∀ room parent, e.Tells room parent →
      ∃ cellar bar, t.rooms.lookup room = .ok cellar ∧ cellar.kind = .cellar ∧
        t.rooms.lookup parent = .ok bar ∧ bar.kind = .bar ∧ Ceils roofs cellar bar := by
  obtain ⟨n, hr⟩ := hp.grown
  obtain ⟨es, hes, hb⟩ := built_of_rounds hs hp.opened hr
  have hcovered := covered_of_roofBuilding hs (roofable_of_planned hs hp) h
  have hout : t.outlines = v.outlines :=
    (finishes_roofBuilding src h).outlines.trans (hp.outlines hs)
  refine ⟨es, hes, fun e he room parent ht => ?_⟩
  obtain ⟨i, j, rfl, rfl, -, ⟨o, p, ho, hp, hbk, hck, hmeets, hdrop⟩, -⟩ :=
    (forest_of_built hs hb).dug e he room parent ht
  rw [← hout] at ho hp
  obtain ⟨bar, hbar, rfl⟩ := Works.room_of_outlines ho
  obtain ⟨cellar, hcellar, rfl⟩ := Works.room_of_outlines hp
  exact ⟨cellar, bar, Store.lookup_natCast_iff.2 hcellar, hck, Store.lookup_natCast_iff.2 hbar, hbk,
    hcovered.ceils (List.mem_of_getElem? hcellar) (List.mem_of_getElem? hbar) hmeets hdrop⟩

/-- The small plot gets a cellar under its bar, and the building over it is finished. -/
theorem cellar_of_smallPlot : ∃ (u v w t : Works Script) (roofs : Store .roof Roof),
    Planned Script.source smallPlot u v w ∧ roofBuilding Script.source w = .ok roofs t ∧
    ∃ es, v.journal = u.journal ++ es ∧ ∃ e ∈ es, ∃ room parent, e.Tells room parent ∧
      ∃ cellar bar, t.rooms.lookup room = .ok cellar ∧ t.rooms.lookup parent = .ok bar ∧
        Ceils roofs cellar bar := by
  have hs := Script.lawful_source
  obtain ⟨u, x, ho, hx, hos⟩ := rounds_of_survey survey_cellar
  obtain ⟨-, v, -, hgrow⟩ := exists_grow hs finiteAltitudes_smallPlot ho (by decide) (by decide)
  obtain ⟨n, hv, hnil⟩ := rounds_of_grow hgrow
  obtain ⟨w, hw, hroofable⟩ := exists_partitionRooms hs ho hv
  obtain ⟨roofs, t, hroof, -⟩ := hroofable.exists_roofBuilding hs (by decide) (by decide)
  have hp : Planned Script.source smallPlot u v w := ⟨ho, ⟨n, hv⟩, hnil, hw⟩
  obtain ⟨es, hes, hall⟩ := cellars_ceiled hs hp hroof
  obtain ⟨m, hrest⟩ := hx.rest hs hv hnil
  obtain ⟨more, hmore⟩ := outlines_of_rounds hs ((Tended.opened hs ho).rounds hs hx) hrest
  have hcellar : v.outlines[3]? = some ⟨.cellar, ⟨0, 8, -6⟩, ⟨11, 14, -2⟩⟩ := by
    rw [← hmore, hos]
    rfl
  obtain ⟨fs, hfs, hb⟩ := built_of_rounds hs ho hv
  obtain rfl : es = fs := List.append_cancel_left (hes.symm.trans hfs)
  obtain ⟨c, ⟨e, he, parent, ht⟩, -⟩ := (forest_of_built hs hb).connected_dug 3 hcellar rfl
  obtain ⟨cellar, bar, hc, -, hbar, -, hceils⟩ := hall e he _ _ ht
  exact ⟨u, v, w, t, roofs, hp, hroof, es, hes, e, he, _, parent, ht, cellar, bar, hc, hbar, hceils⟩

end Roofing

end TavernLayout
