import GridWalk.Proofs.Search.Budget
import Mathlib.Logic.Function.Basic

/-!
# What a search asks

A search asks about few cells: each is a neighbour of an expanded cell, none is asked about twice,
and the start never. What it answers rests on nothing else. The main statements hold a route against
the answers that were given for its cells, and say that a probe with the same answers to the same
questions leads to the same report.
-/

namespace GridWalk

/-- Two probes give the same answers in a run of questions, the latest first. -/
def Probe.AgreesAlong (probe other : Probe) (asked : List Cell) : Prop :=
  ∀ (earlier : List Cell) (cell : Cell), cell :: earlier <:+ asked →
    other earlier cell = probe earlier cell

theorem Probe.AgreesAlong.of_suffix {probe other : Probe} {asked earlier : List Cell}
    (agrees : probe.AgreesAlong other asked) (suffix : earlier <:+ asked) :
    probe.AgreesAlong other earlier :=
  fun before cell further => agrees before cell (further.trans suffix)

/-- An answer was given to a question behind some and before others. -/
theorem Probe.exists_of_answer?_eq_some {probe : Probe} {asked : List Cell} {cell : Cell}
    {answer : Bool} (answered : probe.answer? asked cell = some answer) :
    ∃ later earlier, asked = later ++ cell :: earlier ∧ probe earlier cell = answer := by
  induction asked with
  | nil => cases answered
  | cons latest earlier induction =>
      rw [answer?] at answered
      split at answered
      · rename_i same
        subst same
        exact ⟨[], earlier, rfl, Option.some.inj answered⟩
      · obtain ⟨later, before, rfl, answer_eq⟩ := induction answered
        exact ⟨latest :: later, before, rfl, answer_eq⟩

namespace Exploration

variable {size : GridSize} {probe other : Probe} {start goal cell source : Cell}
  {search : Exploration} {finish : Finish} {number expanded limit : Nat} {node : SearchNode}

/-! ## What the questions are about -/

/-- A search that may take out `limit` nodes takes one on the cell out of the frontier and, as the
cell is not the goal, looks at its neighbours. -/
def Expands (size : GridSize) (probe : Probe) (start goal : Cell) (limit : Nat) (cell : Cell) :
    Prop :=
  ∃ (expanded number : Nat) (node : SearchNode) (search taken : Exploration),
    Loop size probe start goal expanded search ∧ expanded < limit ∧
      search.takeBest = some (number, taken) ∧ taken.nodes[number]? = some node ∧
      node.cell = cell ∧ cell ≠ goal

theorem Expands.mono {more : Nat} (expands : Expands size probe start goal limit cell)
    (limit_le : limit ≤ more) : Expands size probe start goal more cell := by
  obtain ⟨expanded, number, node, search, taken, state, within, rest⟩ := expands
  exact ⟨expanded, number, node, search, taken, state, within.trans_le limit_le, rest⟩

theorem mem_asked_visit {next : Cell}
    (member : cell ∈ (visit probe goal number search next).asked) :
    cell ∈ search.asked ∨ cell = next := by
  unfold visit at member
  dsimp only at member
  split at member
  · exact Or.inl member
  · split at member <;> exact (List.mem_cons.mp member).symm

/-- Every question of an expansion is about a neighbour of the expanded cell. -/
theorem mem_asked_expand (member : cell ∈ (search.expand size probe goal number source).asked) :
    cell ∈ search.asked ∨ ∃ direction : Direction, direction.step size source = some cell := by
  refine List.foldlRecOn (motive := fun later : Exploration => cell ∈ later.asked →
    cell ∈ search.asked ∨ ∃ direction : Direction, direction.step size source = some cell) _ _
    Or.inl ?_ member
  intro later earlier next next_mem asked
  rcases mem_asked_visit asked with old | rfl
  · exact earlier old
  · exact Or.inr (Direction.mem_filterMap_step.mp next_mem)

/-- Every question of a search is about a neighbour of an expanded cell. -/
theorem Loop.exists_expands_of_mem_asked (state : Loop size probe start goal expanded search)
    (member : cell ∈ search.asked) :
    ∃ source, Expands size probe start goal expanded source ∧
      ∃ direction : Direction, direction.step size source = some cell := by
  induction state with
  | first => cases member
  | @next expanded number node search taken state took known misses induction =>
      rcases mem_asked_expand member with old | step
      · rw [(eq_of_takeBest took).2] at old
        obtain ⟨source, expands, step⟩ := induction old
        exact ⟨source, expands.mono (Nat.le_succ expanded), step⟩
      · exact ⟨node.cell, ⟨expanded, number, node, search, taken, state, Nat.lt_succ_self expanded,
          took, known, rfl, misses⟩, step⟩

/-- A search has asked at its end what it had asked at the head of its last turn. If a node on the
goal was taken out, it was a node then. -/
theorem Ends.exists_loop (ends : Ends size probe start goal limit finish) :
    ∃ expanded search, Loop size probe start goal expanded search ∧ expanded ≤ limit ∧
      finish.search.asked = search.asked ∧ finish.search.nodes = search.nodes ∧
      ∀ number ∈ finish.reached, ∃ node, search.nodes[number]? = some node := by
  cases ends with
  | @reached expanded number node search taken state took known hits within =>
      obtain ⟨-, rfl⟩ := eq_of_takeBest took
      refine ⟨expanded, search, state, within.le, rfl, rfl, ?_⟩
      rintro _ ⟨⟩
      exact ⟨node, known⟩
  | exhausted state idle within => exact ⟨_, _, state, within, rfl, rfl, nofun⟩
  | spent state => exact ⟨_, _, state, Nat.le_refl limit, rfl, rfl, nofun⟩

/-- Every cell on the way to a node was asked about and answered open. -/
theorem Loop.answer?_of_mem_trail (state : Loop size probe start goal expanded search)
    (known : search.nodes[number]? = some node) (member : cell ∈ trail search.nodes number []) :
    probe.answer? search.asked cell = some false := by
  obtain ⟨other, otherNode, positive, -, otherKnown, rfl⟩ :=
    state.tree.exists_node_of_mem_trail known member
  obtain ⟨estimate, first⟩ := state.tree.root
  refine (state.ledger.node_iff.mp ⟨other, otherNode, otherKnown, rfl⟩).resolve_left ?_
  intro on_start
  have := state.tree.distinct otherKnown first on_start
  omega

/-- Every cell on the way to a node was asked about just once, and the answer then was that it is
open. -/
theorem Loop.asked_of_mem_trail (state : Loop size probe start goal expanded search)
    (known : search.nodes[number]? = some node) (member : cell ∈ trail search.nodes number []) :
    ∃ earlier later, search.asked.reverse = earlier ++ cell :: later ∧ cell ∉ earlier ∧
      cell ∉ later ∧ probe earlier.reverse cell = false := by
  obtain ⟨later, earlier, asked_eq, vacant⟩ :=
    Probe.exists_of_answer?_eq_some (state.answer?_of_mem_trail known member)
  have once : (cell :: (later ++ earlier)).Nodup :=
    List.nodup_middle.mp (asked_eq ▸ state.ledger.nodup)
  simp only [List.nodup_cons, List.mem_append, not_or] at once
  refine ⟨earlier.reverse, later.reverse, by simp [asked_eq], ?_, ?_, ?_⟩
  · rw [List.mem_reverse]
    exact once.1.2
  · rw [List.mem_reverse]
    exact once.1.1
  · rwa [List.reverse_reverse]

/-! ## Probes with the same answers -/

/-- Looking at a neighbour goes the same way if its question is answered alike. -/
theorem visit_congr
    (agrees : probe.AgreesAlong other (visit probe goal number search cell).asked) :
    visit other goal number search cell = visit probe goal number search cell := by
  unfold visit at agrees ⊢
  dsimp only at agrees ⊢
  split
  · rfl
  · rename_i unseen
    have asked_eq : (if probe search.asked cell = true then
        Exploration.markSeen { search with asked := cell :: search.asked } cell
      else
        Exploration.insert { search with asked := cell :: search.asked } goal cell
          (some number)).asked = cell :: search.asked := by
      split <;> rfl
    rw [if_neg unseen, asked_eq] at agrees
    rw [agrees search.asked cell List.suffix_rfl]

theorem foldl_visit_congr {cells : List Cell}
    (agrees : probe.AgreesAlong other (cells.foldl (visit probe goal number) search).asked) :
    cells.foldl (visit other goal number) search =
      cells.foldl (visit probe goal number) search := by
  induction cells generalizing search with
  | nil => rfl
  | cons cell cells induction =>
      have visited := agrees.of_suffix (asked_foldl_visit _ number cells)
      rw [List.foldl_cons, List.foldl_cons, visit_congr visited]
      exact induction agrees

/-- As long as the questions of one run are answered alike, the other run is the same one. -/
theorem run_congr {budget : Nat} (agrees : probe.AgreesAlong other
      (search.run size probe goal budget expanded).search.asked) :
    search.run size other goal budget expanded = search.run size probe goal budget expanded := by
  induction budget generalizing expanded search with
  | zero => rfl
  | succ budget induction =>
      rw [run] at agrees ⊢
      rw [run]
      cases took : search.takeBest with
      | none => rfl
      | some best =>
          obtain ⟨number, taken⟩ := best
          simp only [took] at agrees ⊢
          cases known : taken.nodes[number]? with
          | none => rfl
          | some node =>
              simp only [known] at agrees ⊢
              by_cases hits : node.cell = goal
              · rw [if_pos hits, if_pos hits]
              · rw [if_neg hits] at agrees
                rw [if_neg hits, if_neg hits]
                have expansion := agrees.of_suffix (asked_run _ budget (expanded + 1))
                have same : taken.expand size other goal number node.cell =
                    taken.expand size probe goal number node.cell := foldl_visit_congr expansion
                rw [same]
                exact induction agrees

end Exploration

namespace SearchConfig

open Exploration

variable {config : SearchConfig} {size : GridSize} {start goal : Cell} {probe other : Probe}

theorem asked_of_outside
    (outside : ¬ (size.contains start = true ∧ size.contains goal = true)) :
    (config.findPath size start goal probe).asked = [] := by
  rw [findPath]
  cases first : outside? size start goal with
  | some cell => rfl
  | none => exact absurd (outside?_eq_none_iff.mp first) outside

/-- The questions of a search were asked by the head of its last turn, and a route that it found is
the way to a node that it had then. -/
theorem exists_loop_of_findPath (config : SearchConfig) (probe : Probe)
    (start_inside : size.contains start = true) (goal_inside : size.contains goal = true) :
    ∃ expanded search, Loop size probe start goal expanded search ∧
      expanded ≤ config.iterationCap.toNat ∧
      (config.findPath size start goal probe).asked = search.asked.reverse ∧
      ∀ route, (config.findPath size start goal probe).result = .ok route →
        ∃ number node, search.nodes[number]? = some node ∧
          route.cells = trail search.nodes number [] := by
  rw [findPath_eq start_inside goal_inside]
  obtain ⟨expanded, search, state, within, asked_eq, nodes_eq, reached⟩ :=
    (config.explore_ends size start goal probe).exists_loop
  refine ⟨expanded, search, state, within, by rw [asked_eq], ?_⟩
  intro route found
  generalize config.explore size start goal probe = finish at nodes_eq reached found
  simp only [conclude] at found
  split at found
  · rename_i number reached_eq
    obtain ⟨node, known⟩ := reached number reached_eq
    obtain rfl := Except.ok.inj found
    exact ⟨number, node, known, congrArg (trail · number []) nodes_eq⟩
  · split at found <;> cases found

theorem start_notMem_asked (config : SearchConfig) (probe : Probe) :
    start ∉ (config.findPath size start goal probe).asked := by
  by_cases inside : size.contains start = true ∧ size.contains goal = true
  · obtain ⟨expanded, search, state, -, asked_eq, -⟩ :=
      exists_loop_of_findPath config probe inside.1 inside.2
    rw [asked_eq, List.mem_reverse]
    exact state.ledger.start_unasked
  · rw [asked_of_outside inside]
    exact List.not_mem_nil

/-- Whatever the probe answers by, no cell is asked about twice and the start never, each question
is about a neighbour of an expanded cell, and the cells of a route were answered to be open. -/
theorem findPath_asks_sparingly (config : SearchConfig) (size : GridSize) (start goal : Cell)
    (probe : Probe) :
    let report := config.findPath size start goal probe
    report.asked.Nodup ∧
      (∀ cell ∈ report.asked, cell ≠ start ∧ size.contains cell = true ∧
        ∃ source, Expands size probe start goal config.iterationCap.toNat source ∧
          ∃ direction : Direction, direction.step size source = some cell) ∧
      (∀ route, report.result = .ok route → ∀ cell ∈ route.cells, ∃ earlier later,
        report.asked = earlier ++ cell :: later ∧ cell ∉ earlier ∧ cell ∉ later ∧
          probe earlier.reverse cell = false) ∧
      (size.contains start = false ∨ size.contains goal = false → report.asked = []) := by
  intro report
  by_cases inside : size.contains start = true ∧ size.contains goal = true
  · obtain ⟨expanded, search, state, within, asked_eq, found⟩ :=
      exists_loop_of_findPath config probe inside.1 inside.2
    refine ⟨?_, ?_, ?_, ?_⟩
    · rw [asked_eq, List.nodup_reverse]
      exact state.ledger.nodup
    · intro cell member
      rw [asked_eq, List.mem_reverse] at member
      obtain ⟨source, expands, direction, stepped⟩ := state.exists_expands_of_mem_asked member
      exact ⟨ne_of_mem_of_not_mem member state.ledger.start_unasked,
        Direction.contains_of_step stepped, source, expands.mono within, direction, stepped⟩
    · intro route result_eq cell member
      obtain ⟨number, node, known, cells_eq⟩ := found route result_eq
      rw [asked_eq]
      exact state.asked_of_mem_trail known (cells_eq ▸ member)
    · intro outside
      simp [inside.1, inside.2] at outside
  · have nothing : report.asked = [] := asked_of_outside inside
    refine ⟨by simp [nothing], by simp [nothing], ?_, fun _ => nothing⟩
    intro route found
    exact absurd (inside_of_findPath found (by simp)) inside

/-- A probe that calls the first cell it is asked about blocked sends the route around that cell,
whichever it is; a start outside the grid keeps it silent. -/
theorem findPath_asks_around_first_cell :
    let probe : Probe := fun asked _ => asked.isEmpty
    let report := findPath ⟨9⟩ ⟨3, 3⟩ ⟨0, 0⟩ ⟨2, 0⟩ probe
    report.result = .ok ⟨[⟨0, 1⟩, ⟨1, 1⟩, ⟨2, 1⟩, ⟨2, 0⟩]⟩ ∧
      (∃ earlier later, report.asked = earlier ++ ⟨2, 0⟩ :: later ∧ (⟨2, 0⟩ : Cell) ∉ earlier ∧
        (⟨2, 0⟩ : Cell) ∉ later ∧ probe earlier.reverse ⟨2, 0⟩ = false) ∧
      (⟨3, 3⟩ : GridSize).contains ⟨3, 0⟩ = false ∧
      (findPath ⟨9⟩ ⟨3, 3⟩ ⟨3, 0⟩ ⟨2, 0⟩ probe).asked = [] := by
  intro probe report
  have found : report.result = .ok ⟨[⟨0, 1⟩, ⟨1, 1⟩, ⟨2, 1⟩, ⟨2, 0⟩]⟩ := by decide +kernel
  have outside : (⟨3, 3⟩ : GridSize).contains ⟨3, 0⟩ = false := by decide
  obtain ⟨-, -, heeded, -⟩ := findPath_asks_sparingly ⟨9⟩ ⟨3, 3⟩ ⟨0, 0⟩ ⟨2, 0⟩ probe
  obtain ⟨-, -, -, silent⟩ := findPath_asks_sparingly ⟨9⟩ ⟨3, 3⟩ ⟨3, 0⟩ ⟨2, 0⟩ probe
  exact ⟨found, heeded _ found ⟨2, 0⟩ (by simp), outside, silent (Or.inl outside)⟩

/-! ## What a report rests on -/

/-- A search whose questions are answered alike gives the same report. -/
theorem findPath_congr (config : SearchConfig)
    (agrees : probe.AgreesAlong other (config.findPath size start goal probe).asked.reverse) :
    config.findPath size start goal other = config.findPath size start goal probe := by
  rw [findPath] at agrees ⊢
  rw [findPath]
  cases outside : outside? size start goal with
  | some cell => rfl
  | none =>
      simp only [outside, List.reverse_reverse] at agrees
      have same : config.explore size start goal other = config.explore size start goal probe :=
        run_congr agrees
      rw [same]

/-- A search rests on nothing but the cells that it asks about: a second predicate that agrees with
the first one there leads to the same report. -/
theorem findPath_rests_on_asked (config : SearchConfig) (size : GridSize) (start goal : Cell)
    (isBlocked : Cell → Bool) :
    let report (isBlocked : Cell → Bool) :=
      config.findPath size start goal (Probe.ofPredicate isBlocked)
    (∀ other : Cell → Bool, (∀ cell ∈ (report isBlocked).asked, other cell = isBlocked cell) →
        report other = report isBlocked) ∧
      (∀ cell flag, cell ∉ (report isBlocked).asked →
        report (Function.update isBlocked cell flag) = report isBlocked) ∧
      ∀ flag, report (Function.update isBlocked start flag) = report isBlocked := by
  intro report
  have same (other : Cell → Bool)
      (agrees : ∀ cell ∈ (report isBlocked).asked, other cell = isBlocked cell) :
      report other = report isBlocked := by
    refine findPath_congr config fun earlier cell suffix => agrees cell ?_
    exact List.mem_reverse.mp (suffix.subset List.mem_cons_self)
  have unasked (cell : Cell) (flag : Bool) (notMem : cell ∉ (report isBlocked).asked) :
      report (Function.update isBlocked cell flag) = report isBlocked :=
    same _ fun other member =>
      Function.update_of_ne (ne_of_mem_of_not_mem member notMem) flag isBlocked
  exact ⟨same, unasked, fun flag => unasked start flag (start_notMem_asked config _)⟩

/-- Walls in the rows behind the second one are never noticed on the way along the first, nor is a
wall on the start. -/
theorem findPath_past_unseen_walls :
    let far (cell : Cell) : Bool := 2 ≤ cell.row
    let report (isBlocked : Cell → Bool) :=
      findPath ⟨20⟩ ⟨6, 6⟩ ⟨0, 0⟩ ⟨3, 0⟩ (Probe.ofPredicate isBlocked)
    (report far).result = .ok ⟨[⟨1, 0⟩, ⟨2, 0⟩, ⟨3, 0⟩]⟩ ∧
      (∀ cell ∈ (report far).asked, false = far cell) ∧
      report (fun _ => false) = report far ∧
      report (Function.update far ⟨0, 0⟩ true) = report far := by
  intro far report
  have unseen : ∀ cell ∈ (report far).asked, false = far cell := by decide +kernel
  obtain ⟨same, -, start_free⟩ := findPath_rests_on_asked ⟨20⟩ ⟨6, 6⟩ ⟨0, 0⟩ ⟨3, 0⟩ far
  exact ⟨by decide +kernel, unseen, same _ unseen, start_free true⟩

end SearchConfig
end GridWalk
