import TavernLayout.Proofs.Alike.Finish
import TavernLayout.Proofs.Safety

/-!
# Names and layouts

Taverns that are ordered one after the other draw their layouts and their names from two domains of
the shared provider. So the layouts do not depend on which of the orders leave the name open, and
the names do not depend on the layouts, not even on orders that fail.

* `serve_named`, `serve_open`, `serve_layout`: what one order draws in each of the two domains;
* `exists_serve`, `serve_refused`: which orders get a tavern;
* `outcomes_eq`, `names_of_serveAll`: what a list of orders draws;
* `names_do_not_interfere`: both results for two runs that differ in the names asked for.
-/

namespace TavernLayout

namespace SignName

variable {σ τ : Type} {R : σ → τ → Prop}

def drawMany (src : Source σ) : Nat → Draw σ (List String)
  | 0 => return []
  | n + 1 => do
    let name ← draw src
    return name :: (← drawMany src n)

theorem alike_draw {src : Source σ} {src' : Source τ} (h : src.Follows R src') :
    Alike (Source.Kept R) (draw src) (draw src') := by
  apply (Source.alike_choose h nouns).bind
  intro noun
  apply (Source.alike_chance h _).bind
  intro paired
  apply Alike.ite
  · exact (Source.alike_choose h companions).bind fun _ => .pure _
  · exact (Source.alike_choose h adjectives).bind fun _ => .pure _

end SignName

namespace Tavern

structure Order where
  terrain : Terrain
  site : SiteMap
  request : TavernRequest

def Order.unnamed (o : Order) : Order := { o with request := { o.request with name := none } }

def unnamed (t : Tavern) : Tavern := { t with name := "" }

variable {σ τ γ : Type} {R : σ → τ → Prop} {src : Source σ} {src' : Source τ}

/-- What is done for an order once there is a name. -/
def raise (src : Source σ) (o : Order) (name : String) : Build σ Tavern := do
  let bounds := plotBounds o.site o.request.tiles
  let inside := interior bounds
  let point := doorPoint o.site o.request inside
  if inside.Valid then
    let temperature ← o.terrain.temperature point
    let level ← floorAt o.terrain point o.request.level
    erect src ⟨o.terrain, inside, temperature⟩ o.request bounds name (point.atLevel level)
  else throw (.noInterior bounds)

def result : EStateM.Result Fault (Works σ) Tavern → Except Fault Tavern × σ
  | .ok t w => (.ok t, w.stream.state)
  | .error e w => (.error e, w.stream.state)

theorem generate_eq_raise (streams : Streams σ) (o : Order) :
    generate streams o.terrain o.site o.request =
      signName streams o.request.name >>= raise streams.layout o :=
  generate_eq streams o.terrain o.site o.request

/-- Over sources that give the same answers the same tavern is raised. -/
theorem same_raise (h : src.Follows R src') (o : Order) (name : String) :
    Same R (raise src o name) (raise src' o name) := by
  apply Alike.ite
  · refine (Alike.lift _).bind fun temperature => (Alike.lift _).bind fun level => ?_
    apply (same_layOut h _ _ _).bind
    intro roofs
    apply Alike.bind_get
    intro w v hwv
    rw [hwv.rooms, hwv.walls]
    exact (Build.same_note _).bind fun _ => .pure _
  · exact .throw _

/-- With every name the program fails in the same way, or it ends with the same tavern but for the
sign, and with the same stream. -/
def IgnoresName (x : String → EStateM.Result Fault (Works σ) Tavern) : Prop :=
  (∃ e v, ∀ name, x name = .error e v) ∨
    ∃ (t : Tavern) (st : Stream σ), ∀ name, ∃ v, x name = .ok { t with name } v ∧ v.stream = st

theorem ignoresName_erect (plot : Plot) (req : TavernRequest) (bounds : Rect) (door : Vec3)
    (w : Works σ) : IgnoresName fun name => erect src plot req bounds name door w := by
  unfold erect
  simp only [bind, EStateM.bind]
  cases layOut src plot door req.facing w with
  | ok roofs v =>
    right
    exact ⟨⟨"", v.rooms.freeze, v.walls.freeze, roofs.freeze, req.doorTile, door, bounds⟩,
      v.stream, fun name => ⟨_, rfl, rfl⟩⟩
  | error e v => exact .inl ⟨e, v, fun name => rfl⟩

theorem ignoresName_raise (src : Source σ) (o : Order) (w : Works σ) :
    IgnoresName fun name => raise src o name w := by
  unfold raise
  by_cases hvalid : (interior (plotBounds o.site o.request.tiles)).Valid
  · simp only [if_pos hvalid, bind, EStateM.bind]
    cases o.terrain.temperature _ with
    | error e => exact .inl ⟨e, w, fun name => rfl⟩
    | ok temperature =>
      cases floorAt o.terrain _ o.request.level with
      | error e => exact .inl ⟨e, w, fun name => rfl⟩
      | ok level => exact ignoresName_erect _ _ _ _ w
  · simp only [if_neg hvalid]
    exact .inl ⟨_, w, fun name => rfl⟩

/-- The building for an order, drawn from a generator alone. -/
def plain (gen : Generator γ) (o : Order) (g : γ) : Except Fault Tavern × γ :=
  result (raise gen.source o "" { stream := { state := g } })

/-- In a domain of a provider a building is raised as from the generator of the domain. -/
theorem raise_domain (gen : Generator γ) (domain : String) (p : Provider γ) (n : Nat) (o : Order)
    (name : String) :
    let r := result (raise (Provider.stream gen domain) o name { stream := ⟨p, n⟩ })
    let q := plain gen o (p.state gen domain)
    r.1.map unnamed = q.1.map unnamed ∧ Provider.Drawn gen domain p r.2 q.2 ∧
      ∀ t, r.1 = .ok t → t.name = name := by
  intro r q
  have hsame := same_raise (Provider.follows_stream gen domain p) o name { stream := ⟨p, n⟩ }
    { stream := { state := p.state gen domain } } ⟨rfl, rfl, rfl, rfl, rfl, .refl gen domain p⟩
  -- over the generator alone the end is known for every name, so also for the empty one
  rcases ignoresName_raise gen.source o { stream := { state := p.state gen domain } } with
    ⟨e, v, hraise⟩ | ⟨t, st, hraise⟩
  · have hq : q = (.error e, v.stream.state) := by simp only [q, plain, hraise, result]
    rcases hsame.cases with ⟨t, w, v', -, hv, -⟩ | ⟨e', w, v', hw, hv, hwv⟩
    · cases hv.symm.trans (hraise name)
    · cases hv.symm.trans (hraise name)
      have hr : r = (.error e, w.stream.state) := by simp only [r, hw, result]
      rw [hr, hq]
      exact ⟨rfl, hwv.stream, fun t ht => by cases ht⟩
  · obtain ⟨v₀, hplain, hv₀⟩ := hraise ""
    obtain ⟨v, hnamed, hst⟩ := hraise name
    have hq : q = (.ok { t with name := "" }, st.state) := by
      simp only [q, plain, hplain, result, hv₀]
    rcases hsame.cases with ⟨t', w, v', hw, hv, hwv⟩ | ⟨e, w, v', -, hv, -⟩
    · cases hv.symm.trans hnamed
      have hr : r = (.ok { t with name }, w.stream.state) := by simp only [r, hw, result]
      rw [hr, hq]
      refine ⟨rfl, ?_, fun t ht => by cases ht; rfl⟩
      rw [← hst]
      exact hwv.stream
    · cases hv.symm.trans hnamed

/-- In a domain of a provider a name is drawn as from the generator of the domain. -/
theorem draw_domain (gen : Generator γ) (domain : String) (p : Provider γ) :
    ∃ name st, SignName.draw (Provider.stream gen domain) { state := p } = .ok name st ∧
      ∀ n, ∃ st', SignName.draw gen.source ⟨p.state gen domain, n⟩ = .ok name st' ∧
        Provider.Drawn gen domain p st.state st'.state := by
  have hdraws := fun n => SignName.alike_draw (Provider.follows_stream gen domain p)
    { state := p } ⟨p.state gen domain, n⟩ (.refl gen domain p)
  cases hp : SignName.draw (Provider.stream gen domain) { state := p } with
  | ok name st =>
    refine ⟨name, st, rfl, fun n => ?_⟩
    rcases (hdraws n).cases with ⟨s, u, v, hu, hv, huv⟩ | ⟨e, u, v, hu, -, -⟩
    · cases hp.symm.trans hu
      exact ⟨v, hv, huv⟩
    · cases hp.symm.trans hu
  | error e st =>
    have hname : signName (.single (Provider.stream gen domain)) none
        { stream := { state := p } } = .error e { stream := st } := by
      simp only [signName, Streams.single, Build.draw, hp]
    exact (faultsIn_signName (P := fun _ => False) _ none e _ hname).elim

/-! ## One order -/

/-- What comes of an order: the name that was drawn for it, if it was left open, and the tavern. -/
structure Served where
  drawn : Option String
  outcome : Except Fault Tavern

def drawnName (gen : Generator γ) (o : Order) (p : Provider γ) : Option String :=
  match o.request.name with
  | some _ => none
  | none =>
    match SignName.draw (Streams.ofProvider gen).names { state := p } with
    | .ok name _ => some name
    | .error _ _ => none

/-- Serves an order from the shared provider, which keeps its state also when the order fails. -/
def serve (gen : Generator γ) (o : Order) (p : Provider γ) : Served × Provider γ :=
  let (outcome, p') := result
    (generate (.ofProvider gen) o.terrain o.site o.request { stream := { state := p } })
  (⟨drawnName gen o p, outcome⟩, p')

theorem serve_eq_of_named {gen : Generator γ} {o : Order} {p : Provider γ} {name : String}
    (h : o.request.name = some name) :
    serve gen o p =
      let r := result (raise (Provider.stream gen "site.tavern") o name { stream := ⟨p, 0⟩ })
      (⟨none, r.1⟩, r.2) := by
  simp only [serve, drawnName, generate_eq_raise, h]
  rfl

theorem serve_eq_of_open {gen : Generator γ} {o : Order} {p : Provider γ} {name : String}
    {st : Stream (Provider γ)} (h : o.request.name = none)
    (hname : SignName.draw (Provider.stream gen "site.tavern.name") { state := p } = .ok name st) :
    serve gen o p =
      let r := result (raise (Provider.stream gen "site.tavern") o name { stream := st })
      (⟨some name, r.1⟩, r.2) := by
  have hdraw : signName (.ofProvider gen) none { stream := { state := p } } =
      .ok name { stream := st } := by
    simp only [signName, Streams.ofProvider, Build.draw, hname]
  simp only [serve, drawnName, generate_eq_raise, h, bind, EStateM.bind, hdraw]
  simp only [Streams.ofProvider, hname]

/-- An order with a name of its own draws no name, and its building from the other domain. -/
theorem serve_named (gen : Generator γ) (p : Provider γ) {o : Order} {name : String}
    (h : o.request.name = some name) :
    (serve gen o p).1.drawn = none ∧ (∀ t, (serve gen o p).1.outcome = .ok t → t.name = name) ∧
      (serve gen o p).2.state gen "site.tavern.name" = p.state gen "site.tavern.name" := by
  obtain ⟨-, hdrawn, hname⟩ := raise_domain gen "site.tavern" p 0 o name
  rw [serve_eq_of_named h]
  exact ⟨rfl, hname, hdrawn.others _ (by decide)⟩

/-- An order that leaves its name open draws one, whether there will be a tavern or not. -/
theorem serve_open (gen : Generator γ) (p : Provider γ) {o : Order} (h : o.request.name = none) :
    ∃ name, (serve gen o p).1.drawn = some name ∧
      (∀ t, (serve gen o p).1.outcome = .ok t → t.name = name) ∧
      ∀ n, ∃ st, SignName.draw gen.source ⟨p.state gen "site.tavern.name", n⟩ = .ok name st ∧
        (serve gen o p).2.state gen "site.tavern.name" = st.state := by
  obtain ⟨name, st, hdraw, hplain⟩ := draw_domain gen "site.tavern.name" p
  obtain ⟨-, hdrawn, hname⟩ := raise_domain gen "site.tavern" st.state st.draws o name
  rw [serve_eq_of_open h hdraw]
  refine ⟨name, rfl, hname, fun n => ?_⟩
  obtain ⟨st', hst', hnames⟩ := hplain n
  exact ⟨st', hst', (hdrawn.others _ (by decide)).trans hnames.state⟩

/-- What an order draws in the domain of the layouts has nothing to do with its name. -/
theorem serve_layout (gen : Generator γ) (o : Order) (p : Provider γ) :
    (serve gen o p).1.outcome.map unnamed =
        (plain gen o (p.state gen "site.tavern")).1.map unnamed ∧
      (serve gen o p).2.state gen "site.tavern" = (plain gen o (p.state gen "site.tavern")).2 := by
  cases h : o.request.name with
  | some name =>
    obtain ⟨hout, hdrawn, -⟩ := raise_domain gen "site.tavern" p 0 o name
    rw [serve_eq_of_named h]
    exact ⟨hout, hdrawn.state⟩
  | none =>
    obtain ⟨name, st, hdraw, hplain⟩ := draw_domain gen "site.tavern.name" p
    obtain ⟨st', -, hnames⟩ := hplain 0
    obtain ⟨hout, hdrawn, -⟩ := raise_domain gen "site.tavern" st.state st.draws o name
    rw [hnames.others "site.tavern" (by decide)] at hout hdrawn
    rw [serve_eq_of_open h hdraw]
    exact ⟨hout, hdrawn.state⟩

/-! ## Many orders -/

def serveAll (gen : Generator γ) : List Order → Provider γ → List Served
  | [], _ => []
  | o :: os, p => (serve gen o p).1 :: serveAll gen os (serve gen o p).2

theorem plain_unnamed (gen : Generator γ) (o : Order) (g : γ) :
    plain gen o.unnamed g = plain gen o g := rfl

theorem outcomes_eq {gen : Generator γ} {os os' : List Order} {p p' : Provider γ}
    (h : os.map Order.unnamed = os'.map Order.unnamed)
    (hp : p.state gen "site.tavern" = p'.state gen "site.tavern") :
    (serveAll gen os p).map (·.outcome.map unnamed) =
      (serveAll gen os' p').map (·.outcome.map unnamed) := by
  induction os generalizing os' p p' with
  | nil =>
    obtain rfl := List.map_eq_nil_iff.1 h.symm
    rfl
  | cons o os ih =>
    obtain ⟨o', os', rfl, ho, hos⟩ := List.map_eq_cons_iff.1 h.symm
    obtain ⟨hout, hstate⟩ := serve_layout gen o p
    obtain ⟨hout', hstate'⟩ := serve_layout gen o' p'
    have hplain : plain gen o (p.state gen "site.tavern") =
        plain gen o' (p'.state gen "site.tavern") := by
      rw [← plain_unnamed gen o, ← plain_unnamed gen o', ho, hp]
    have hnext : (serve gen o p).2.state gen "site.tavern" =
        (serve gen o' p').2.state gen "site.tavern" := by
      rw [hstate, hstate', hplain]
    simp only [serveAll, List.map_cons]
    rw [hout, hout', hplain, ih hos.symm hnext]

/-- The names that are drawn are those of a stream that nothing else is drawn from. -/
theorem names_of_serveAll (gen : Generator γ) (os : List Order) (p : Provider γ) (n : Nat) :
    ∃ st, SignName.drawMany gen.source (os.countP (·.request.name.isNone))
      ⟨p.state gen "site.tavern.name", n⟩ =
        .ok ((serveAll gen os p).filterMap Served.drawn) st := by
  induction os generalizing p n with
  | nil => exact ⟨_, rfl⟩
  | cons o os ih =>
    cases h : o.request.name with
    | some name =>
      obtain ⟨hnone, -, hstate⟩ := serve_named gen p h
      obtain ⟨st, hst⟩ := ih (serve gen o p).2 n
      rw [hstate] at hst
      refine ⟨st, ?_⟩
      simp only [serveAll, List.filterMap_cons, hnone, List.countP_cons, h]
      exact hst
    | none =>
      obtain ⟨name, hsome, -, hdraw⟩ := serve_open gen p h
      obtain ⟨st, hst, hstate⟩ := hdraw n
      obtain ⟨st', hst'⟩ := ih (serve gen o p).2 st.draws
      rw [hstate] at hst'
      refine ⟨st', ?_⟩
      simp only [serveAll, List.filterMap_cons, hsome, List.countP_cons, h, Option.isNone_none,
        if_true, SignName.drawMany, bind, EStateM.bind, hst, hst']
      rfl

/-- The sign shows the name that was asked for or else the name that was drawn. -/
def Signed (o : Order) (s : Served) : Prop :=
  ∀ t, s.outcome = .ok t → o.request.name.or s.drawn = some t.name

theorem signed_serve (gen : Generator γ) (o : Order) (p : Provider γ) :
    Signed o (serve gen o p).1 := by
  intro t ht
  cases h : o.request.name with
  | some name =>
    obtain ⟨-, hname, -⟩ := serve_named gen p h
    rw [hname t ht, Option.some_or]
  | none =>
    obtain ⟨name, hdrawn, hname, -⟩ := serve_open gen p h
    rw [hname t ht, hdrawn, Option.none_or]

/-- An order on a plot with space for a hall gets a tavern, with the right sign. -/
theorem exists_serve {gen : Generator γ} (hs : gen.source.Lawful) {o : Order}
    (hf : o.terrain.FiniteEverywhere)
    (hx : (plotBounds o.site o.request.tiles).size.x < 2 ^ 53)
    (hy : (plotBounds o.site o.request.tiles).size.y < 2 ^ 53)
    (hspace : ∀ e, ¬ TooSmall (plotBounds o.site o.request.tiles) o.request.facing e)
    (p : Provider γ) : ∃ t, (serve gen o p).1.outcome = .ok t ∧
      o.request.name.or (serve gen o p).1.drawn = some t.name := by
  have hlawful : (Streams.ofProvider gen).layout.Lawful := Provider.lawful_stream hs "site.tavern"
  obtain ⟨t, w, ht⟩ := exists_generate hlawful hf hx hy hspace { state := p }
  have hout : (serve gen o p).1.outcome = .ok t := by simp only [serve, ht, result]
  exact ⟨t, hout, signed_serve gen o p t hout⟩

/-- An order on a plot without an interior gets none. -/
theorem serve_refused (gen : Generator γ) {o : Order} (p : Provider γ)
    (h : ¬ (interior (plotBounds o.site o.request.tiles)).Valid) :
    (serve gen o p).1.outcome = .error (.noInterior (plotBounds o.site o.request.tiles)) := by
  have hplain : (plain gen o (p.state gen "site.tavern")).1 =
      .error (.noInterior (plotBounds o.site o.request.tiles)) := by
    simp only [plain, raise, if_neg h]
    rfl
  have hout := (serve_layout gen o p).1
  rw [hplain] at hout
  cases hserve : (serve gen o p).1.outcome with
  | ok t =>
    rw [hserve] at hout
    cases hout
  | error e =>
    rw [hserve] at hout
    cases hout
    rfl

theorem signed_serveAll (gen : Generator γ) (os : List Order) (p : Provider γ) :
    List.Forall₂ Signed os (serveAll gen os p) := by
  induction os generalizing p with
  | nil => exact .nil
  | cons o os ih => exact .cons (signed_serve gen o p) (ih _)

/-- Two runs of orders that differ in the names asked for end alike, order by order, from the same
seed on. In each of them the names drawn, those of failed orders included, are the names that a
fresh stream of the seed gives one after the other. -/
theorem names_do_not_interfere (gen : Generator γ) (seed : Seed)
    (before before' : Option (Provider γ)) (os os' : List Order)
    (h : os.map Order.unnamed = os'.map Order.unnamed) :
    let p := Provider.init before (some seed)
    let p' := Provider.init before' (some seed)
    (serveAll gen os p).map (·.outcome.map unnamed) =
        (serveAll gen os' p').map (·.outcome.map unnamed) ∧
      ∀ run ∈ [(os, p), (os', p')],
        List.Forall₂ Signed run.1 (serveAll gen run.1 run.2) ∧
        ∃ st, SignName.drawMany gen.source (run.1.countP (·.request.name.isNone))
          { state := gen.seeded (checksumSeed (some seed) "site.tavern.name") } =
            .ok ((serveAll gen run.1 run.2).filterMap Served.drawn) st := by
  have hinit : ∀ (shared : Option (Provider γ)) d,
      (Provider.init shared (some seed)).state gen d = gen.seeded (checksumSeed (some seed) d) := by
    intro shared d
    cases shared with
    | none => rfl
    | some p => exact Provider.state_reseed gen p (some seed) d
  intro p p'
  refine ⟨outcomes_eq h ((hinit before _).trans (hinit before' _).symm), ?_⟩
  have hnames : ∀ shared orders, ∃ st,
      SignName.drawMany gen.source (orders.countP (·.request.name.isNone))
        { state := gen.seeded (checksumSeed (some seed) "site.tavern.name") } =
          .ok ((serveAll gen orders (Provider.init shared (some seed))).filterMap Served.drawn)
            st := by
    intro shared orders
    rw [← hinit shared]
    exact names_of_serveAll gen orders _ 0
  intro run hrun
  rcases List.mem_cons.1 hrun with rfl | hrun
  · exact ⟨signed_serveAll gen os p, hnames before os⟩
  · obtain rfl := List.mem_singleton.1 hrun
    exact ⟨signed_serveAll gen os' p', hnames before' os'⟩

/-- Scripts that start with the seed. -/
def scripted : Generator Script where
  source := Script.source
  seeded n := { values := #[n, 3, 1, 4, 1, 5] }
  unseeded := { values := #[] }

def smallOrder (name : Option String) : Order :=
  ⟨meadow, TileGrid.toMap {}, { smallRequest with name }⟩

/-- A plot without an interior. -/
def emptyOrder (name : Option String) : Order :=
  ⟨meadow, TileGrid.toMap {}, { smallRequest with tiles := ⟨⟨0, 0⟩, ⟨0, 0⟩⟩, name }⟩

theorem serve_emptyOrder (name : Option String) (p : Provider Script) :
    (serve scripted (emptyOrder name) p).1.outcome = .error (.noInterior ⟨⟨0, 0⟩, ⟨0, 0⟩⟩) :=
  serve_refused scripted (o := emptyOrder name) p
    (show ¬ (interior ⟨⟨0, 0⟩, ⟨0, 0⟩⟩).Valid by decide)

theorem serve_smallOrder (name : Option String) (p : Provider Script) :
    ∃ t, (serve scripted (smallOrder name) p).1.outcome = .ok t ∧
      name.or (serve scripted (smallOrder name) p).1.drawn = some t.name := by
  have hx : (plotBounds (TileGrid.toMap {}) smallRequest.tiles).size.x < 2 ^ 53 := by decide
  have hy : (plotBounds (TileGrid.toMap {}) smallRequest.tiles).size.y < 2 ^ 53 := by decide
  exact exists_serve (o := smallOrder name) Script.lawful_source finiteEverywhere_meadow hx hy
    not_tooSmall_smallRequest p

/-- An order that fails, one that is named and one that leaves its name open. -/
theorem serveAll_smallOrders (name : String) (p : Provider Script) :
    let served := serveAll scripted [emptyOrder none, smallOrder (some name), smallOrder none] p
    ∃ n t u, served.map Served.outcome =
        [.error (.noInterior ⟨⟨0, 0⟩, ⟨0, 0⟩⟩), .ok t, .ok u] ∧
      served.filterMap Served.drawn = [n, u.name] ∧ t.name = name := by
  obtain ⟨n, hn, -⟩ := serve_open scripted (o := emptyOrder none) p rfl
  generalize hp1 : (serve scripted (emptyOrder none) p).2 = p1
  obtain ⟨hnamed, -⟩ := serve_named scripted p1 (o := smallOrder (some name)) rfl
  obtain ⟨t, ht, hsign⟩ := serve_smallOrder (some name) p1
  generalize hp2 : (serve scripted (smallOrder (some name)) p1).2 = p2
  obtain ⟨u, hu, hsign'⟩ := serve_smallOrder none p2
  rw [Option.none_or] at hsign'
  refine ⟨n, t, u, ?_, ?_, (Option.some.inj hsign).symm⟩
  · simp only [serveAll, hp1, hp2, List.map_cons, serve_emptyOrder, ht, hu, List.map_nil]
  · simp only [serveAll, hp1, hp2, List.filterMap_cons, hn, hnamed, hsign', List.filterMap_nil]

theorem drawMany_scripted : ∃ st, SignName.drawMany scripted.source 2
    { state := scripted.seeded 234920101 } =
      .ok ["The Lantern and Hare", "The Boar and Bell"] st :=
  ⟨_, rfl⟩

/-- Of the two runs one draws a name for the plot without an interior. Both draw the same two names,
from a seed that is not the one of the buildings, and their buildings are the same. -/
theorem smallOrders_do_not_interfere :
    let p := Provider.init none (some (.number 7))
    let os := [emptyOrder none, smallOrder (some "The Old Mill"), smallOrder none]
    let os' := [emptyOrder (some "The Old Mill"), smallOrder none, smallOrder none]
    checksumSeed (some (.number 7)) "site.tavern" = 3896419989 ∧
      checksumSeed (some (.number 7)) "site.tavern.name" = 234920101 ∧
      (serveAll scripted os p).map (·.outcome.map unnamed) =
        (serveAll scripted os' p).map (·.outcome.map unnamed) ∧
      (serveAll scripted os p).filterMap Served.drawn =
        ["The Lantern and Hare", "The Boar and Bell"] ∧
      (serveAll scripted os' p).filterMap Served.drawn =
        ["The Lantern and Hare", "The Boar and Bell"] ∧
      ∃ t u, (serveAll scripted os p).map Served.outcome =
          [.error (.noInterior ⟨⟨0, 0⟩, ⟨0, 0⟩⟩), .ok t, .ok u] ∧
        t.name = "The Old Mill" ∧ u.name = "The Boar and Bell" := by
  intro p os os'
  have hseed : checksumSeed (some (.number 7)) "site.tavern.name" = 234920101 := by decide +kernel
  obtain ⟨st, hst⟩ := drawMany_scripted
  obtain ⟨houtcomes, hruns⟩ :=
    names_do_not_interfere scripted (.number 7) none none os os' rfl
  rw [hseed] at hruns
  obtain ⟨-, v, hv⟩ := hruns (os, p) (by simp [p])
  obtain ⟨-, v', hv'⟩ := hruns (os', p) (by simp [p])
  have hdrawn : (serveAll scripted os p).filterMap Served.drawn = _ :=
    (EStateM.Result.ok.inj (hv.symm.trans hst)).1
  have hdrawn' : (serveAll scripted os' p).filterMap Served.drawn = _ :=
    (EStateM.Result.ok.inj (hv'.symm.trans hst)).1
  refine ⟨by decide +kernel, hseed, houtcomes, hdrawn, hdrawn', ?_⟩
  obtain ⟨n, t, u, hout, hnames, hname⟩ := serveAll_smallOrders "The Old Mill" p
  have hlist : [n, u.name] = ["The Lantern and Hare", "The Boar and Bell"] :=
    hnames.symm.trans hdrawn
  rw [List.cons_eq_cons, List.cons_eq_cons] at hlist
  exact ⟨t, u, hout, hname, hlist.2.1⟩

end Tavern

end TavernLayout
