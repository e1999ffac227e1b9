import GridWalk.Proofs.Grid.RowMajor
import GridWalk.Proofs.Search.Coverage

/-!
# The budget of a search

A budget cuts a search short and does nothing else. The states at the head of the main loop are the
same for every budget, so a greater budget goes on where a smaller one is spent. The main statement
draws the line: there is one number of expansions after which the search ends by itself. A smaller
budget is spent before, with the first of all questions asked; any other gives the same report.
-/

namespace GridWalk
namespace Exploration

variable {size : GridSize} {probe : Probe} {start goal : Cell} {search : Exploration}
  {finish other : Finish} {expanded limit : Nat}

/-! ## Questions -/

/-- No question is taken back. -/
theorem asked_visit (search : Exploration) (number : Nat) (cell : Cell) :
    search.asked <:+ (visit probe goal number search cell).asked := by
  unfold visit
  dsimp only
  split
  · exact List.suffix_rfl
  · split <;> exact List.suffix_cons cell search.asked

theorem asked_foldl_visit (search : Exploration) (number : Nat) (cells : List Cell) :
    search.asked <:+ (cells.foldl (visit probe goal number) search).asked :=
  List.foldlRecOn (motive := fun later => search.asked <:+ later.asked) _ _ List.suffix_rfl
    fun later earlier next _ => earlier.trans (asked_visit later number next)

theorem asked_expand (search : Exploration) (number : Nat) (cell : Cell) :
    search.asked <:+ (search.expand size probe goal number cell).asked :=
  asked_foldl_visit search number _

theorem asked_run (search : Exploration) (budget expanded : Nat) :
    search.asked <:+ (search.run size probe goal budget expanded).search.asked := by
  induction budget generalizing expanded search with
  | zero => exact List.suffix_rfl
  | succ budget induction =>
      rw [run]
      split
      · exact List.suffix_rfl
      · rename_i number taken took
        have asked_eq : taken.asked = search.asked := by rw [(eq_of_takeBest took).2]
        rw [← asked_eq]
        split
        · exact List.suffix_rfl
        · split
          · exact List.suffix_rfl
          · exact (asked_expand taken number _).trans (induction _ _)

/-! ## The end of a search of its own -/

/-- The main loop comes through all its states, whatever is left of its budget there. -/
theorem Loop.run_first (state : Loop size probe start goal expanded search) (budget : Nat) :
    (empty.insert goal start none).run size probe goal (expanded + budget) 0 =
      search.run size probe goal budget expanded := by
  induction state generalizing budget with
  | first => rw [Nat.zero_add]
  | next _ took known misses induction =>
      rw [Nat.add_assoc, Nat.add_comm 1, induction, run]
      simp only [took, known, misses, if_false]

/-- How a search ends by itself, its budget left aside: the node that is taken out is on the goal,
or no node waits any more. -/
inductive Stops (size : GridSize) (probe : Probe) (start goal : Cell) : Finish → Prop
  | reached {expanded number : Nat} {node : SearchNode} {search taken : Exploration}
      (state : Loop size probe start goal expanded search)
      (took : search.takeBest = some (number, taken))
      (known : taken.nodes[number]? = some node) (hits : node.cell = goal) :
      Stops size probe start goal ⟨taken, expanded + 1, some number⟩
  | exhausted {expanded : Nat} {search : Exploration}
      (state : Loop size probe start goal expanded search) (idle : search.frontier = []) :
      Stops size probe start goal ⟨search, expanded, none⟩

/-- The end of a search that is cut short: so many nodes were taken out, and others wait. -/
inductive CutShort (size : GridSize) (probe : Probe) (start goal : Cell) (limit : Nat) :
    Finish → Prop
  | waiting {search : Exploration} (state : Loop size probe start goal limit search)
      (busy : search.frontier ≠ []) : CutShort size probe start goal limit ⟨search, limit, none⟩

/-- A search that was not cut short has come to its own end. -/
theorem Ends.stops_or_cutShort (ends : Ends size probe start goal limit finish) :
    Stops size probe start goal finish ∧ finish.expanded ≤ limit ∨
      CutShort size probe start goal limit finish := by
  cases ends with
  | reached state took known hits within => exact Or.inl ⟨.reached state took known hits, within⟩
  | exhausted state idle within => exact Or.inl ⟨.exhausted state idle, within⟩
  | @spent search state =>
      by_cases idle : search.frontier = []
      · exact Or.inl ⟨.exhausted state idle, Nat.le_refl limit⟩
      · exact Or.inr (.waiting state idle)

namespace Stops

/-- Every budget that lets a search come to its own end gives this end. -/
theorem run_eq (stops : Stops size probe start goal finish) {budget : Nat}
    (enough : finish.expanded ≤ budget) :
    (empty.insert goal start none).run size probe goal budget 0 = finish := by
  obtain ⟨left, rfl⟩ := Nat.exists_eq_add_of_le enough
  cases stops with
  | reached state took known hits =>
      rw [Nat.add_assoc, Nat.add_comm 1, state.run_first, run]
      simp only [took, known, hits, if_true]
  | exhausted state idle =>
      rw [state.run_first]
      cases left with
      | zero => rfl
      | succ left => rw [run, takeBest_eq_none_iff.mpr idle]

theorem eq (first : Stops size probe start goal finish)
    (second : Stops size probe start goal other) : other = finish := by
  rw [← first.run_eq (Nat.le_max_left finish.expanded other.expanded),
    second.run_eq (Nat.le_max_right finish.expanded other.expanded)]

/-- The first node is always taken out. -/
theorem expanded_pos (stops : Stops size probe start goal finish) : 0 < finish.expanded := by
  cases stops with
  | reached => exact Nat.succ_pos _
  | @exhausted expanded search state idle =>
      have counted := state.count
      obtain ⟨estimate, first⟩ := state.tree.root
      have some_node := (Array.getElem?_eq_some_iff.mp first).1
      rw [idle, List.length_nil] at counted
      show 0 < expanded
      omega

end Stops

/-- No more nodes are found than the grid has cells. -/
theorem Loop.size_le_cellCount (state : Loop size probe start goal expanded search)
    (start_inside : size.contains start = true) : search.nodes.size ≤ size.cellCount := by
  have cells_finite : (size.cells.toFinset : Set Cell).ncard ≤ size.cells.length := by
    rw [Set.ncard_coe_finset]
    exact List.toFinset_card_le size.cells
  have length_eq : size.cells.length = size.cellCount := by
    have numbered := congrArg List.length size.map_index?_cells
    simpa using numbered
  rw [← length_eq, ← state.tree.ncard_nodeCells]
  refine (Set.ncard_le_ncard ?_ (Finset.finite_toSet _)).trans cells_finite
  rintro cell ⟨number, node, known, rfl⟩
  rw [List.coe_toFinset, Set.mem_ofPred_eq, GridSize.mem_cells]
  exact state.tree.contains start_inside known

/-- A search within a grid comes to its own end. -/
theorem exists_stops (start_inside : size.contains start = true) (probe : Probe) (goal : Cell) :
    ∃ finish, Stops size probe start goal finish := by
  have ends := (Loop.first : Loop size probe start goal 0 _).ends size.cellCount
  rcases ends.stops_or_cutShort with ⟨stops, -⟩ | cut
  · exact ⟨_, stops⟩
  · -- All cells of the grid were taken out, so that none can wait.
    rw [Nat.zero_add] at cut
    generalize run size probe goal size.cellCount 0 (empty.insert goal start none) = finish at cut
    obtain ⟨state, busy⟩ := cut
    have counted := state.count
    have size_le := state.size_le_cellCount start_inside
    have positive := List.length_pos_iff.mpr busy
    omega

/-- What a search answers that has come to its own end. -/
def Finish.answer (finish : Finish) : Except NoPath Route :=
  match finish.reached with
  | some number => .ok (finish.search.route number)
  | none => .error (.exhausted finish.expanded)

/-- The report of a search that has come to its own end. -/
def Finish.report (finish : Finish) (start goal : Cell) : SearchReport :=
  ⟨finish.answer, finish.search.asked.reverse, [.searched start goal finish.expanded]⟩

end Exploration

namespace SearchConfig

open Exploration

variable {config : SearchConfig} {size : GridSize} {probe : Probe} {start goal : Cell}
  {finish : Finish}

theorem conclude_of_stops (stops : Stops size probe start goal finish) :
    config.conclude finish = finish.answer := by
  cases stops with
  | reached => rfl
  | exhausted _ idle => simp [conclude, Finish.answer, idle]

theorem conclude_of_cutShort {limit : Nat} (cut : CutShort size probe start goal limit finish) :
    config.conclude finish = .error (.iterationCap config.iterationCap) := by
  obtain ⟨-, busy⟩ := cut
  simp [conclude, busy]

theorem answer_ne_iterationCap (finish : Finish) (cap : UInt32) :
    finish.answer ≠ .error (.iterationCap cap) := by
  unfold Finish.answer
  split <;> simp

section Within

variable (start_inside : size.contains start = true) (goal_inside : size.contains goal = true)

include start_inside goal_inside

theorem findPath_eq (config : SearchConfig) (probe : Probe) :
    config.findPath size start goal probe =
      ⟨config.conclude (config.explore size start goal probe),
        (config.explore size start goal probe).search.asked.reverse,
        [.searched start goal (config.explore size start goal probe).expanded]⟩ := by
  rw [findPath, outside?_eq_none_iff.mpr ⟨start_inside, goal_inside⟩]

/-- A budget for all expansions of a search gives the report of its own end. -/
theorem findPath_of_stops (stops : Stops size probe start goal finish)
    (enough : finish.expanded ≤ config.iterationCap.toNat) :
    config.findPath size start goal probe = finish.report start goal := by
  have explored : config.explore size start goal probe = finish := stops.run_eq enough
  rw [findPath_eq start_inside goal_inside, explored, conclude_of_stops stops]
  rfl

/-- A smaller budget is spent. -/
theorem result_of_lt_expanded (stops : Stops size probe start goal finish)
    (short : config.iterationCap.toNat < finish.expanded) :
    (config.findPath size start goal probe).result =
      .error (.iterationCap config.iterationCap) := by
  rw [findPath_result config start_inside goal_inside]
  rcases (config.explore_ends size start goal probe).stops_or_cutShort with ⟨other, within⟩ | cut
  · rw [stops.eq other] at within
    exact absurd short (Nat.not_lt.mpr within)
  · exact conclude_of_cutShort cut

end Within

/-- A greater budget asks first what a smaller one asks. -/
theorem asked_prefix_of_le {cap more : UInt32} (cap_le : cap ≤ more) (size : GridSize)
    (start goal : Cell) (probe : Probe) :
    (findPath ⟨cap⟩ size start goal probe).asked <+:
      (findPath ⟨more⟩ size start goal probe).asked := by
  rw [findPath, findPath]
  cases outside? size start goal with
  | some cell => exact List.prefix_rfl
  | none =>
      rw [List.reverse_prefix]
      obtain ⟨left, more_eq⟩ := Nat.exists_eq_add_of_le (UInt32.le_iff_toNat_le.mp cap_le)
      have ends := explore_ends ⟨cap⟩ size start goal probe
      rcases ends.stops_or_cutShort with ⟨stops, within⟩ | cut
      · have same : explore ⟨more⟩ size start goal probe = explore ⟨cap⟩ size start goal probe :=
          stops.run_eq (within.trans (UInt32.le_iff_toNat_le.mp cap_le))
        rw [same]
      · -- The greater budget goes on from where the smaller one was spent.
        have goes_on : explore ⟨more⟩ size start goal probe =
            (explore ⟨cap⟩ size start goal probe).search.run size probe goal left cap.toNat := by
          generalize explore ⟨cap⟩ size start goal probe = finish at cut ⊢
          obtain ⟨state, -⟩ := cut
          rw [explore, more_eq, state.run_first]
        rw [goes_on]
        exact asked_run _ _ _

/-- A budget that is not spent gives the report of every greater budget. -/
theorem findPath_eq_of_le {cap more : UInt32} (cap_le : cap ≤ more)
    (unspent : (findPath ⟨cap⟩ size start goal probe).result ≠ .error (.iterationCap cap)) :
    findPath ⟨more⟩ size start goal probe = findPath ⟨cap⟩ size start goal probe := by
  cases outside : outside? size start goal with
  | some cell => rw [findPath, findPath, outside]
  | none =>
      obtain ⟨start_inside, goal_inside⟩ := outside?_eq_none_iff.mp outside
      rw [findPath_result ⟨cap⟩ start_inside goal_inside] at unspent
      have ends := explore_ends ⟨cap⟩ size start goal probe
      rcases ends.stops_or_cutShort with ⟨stops, within⟩ | cut
      · rw [findPath_of_stops start_inside goal_inside stops within,
          findPath_of_stops start_inside goal_inside stops
            (within.trans (UInt32.le_iff_toNat_le.mp cap_le))]
      · exact absurd (conclude_of_cutShort cut) unspent

/-- A budget only cuts a search short, whatever the probe answers. Budgets below one number of
expansions are spent on the first of the questions of the whole search; all others give the same
report. -/
theorem findPath_cut_short_by_budget (size : GridSize) (start goal : Cell) (probe : Probe) :
    (∀ cap more : UInt32, cap ≤ more →
      let short := findPath ⟨cap⟩ size start goal probe
      let long := findPath ⟨more⟩ size start goal probe
      (short.result ≠ .error (.iterationCap cap) → long = short) ∧ short.asked <+: long.asked) ∧
    (size.contains start = true → size.contains goal = true →
      ∃ finish, (∀ other, Stops size probe start goal other ↔ other = finish) ∧
        0 < finish.expanded ∧ ∀ cap : UInt32,
          (cap.toNat < finish.expanded →
            (findPath ⟨cap⟩ size start goal probe).result = .error (.iterationCap cap)) ∧
          (finish.expanded ≤ cap.toNat →
            findPath ⟨cap⟩ size start goal probe = finish.report start goal)) := by
  constructor
  · intro cap more cap_le short long
    exact ⟨findPath_eq_of_le cap_le, asked_prefix_of_le cap_le size start goal probe⟩
  · intro start_inside goal_inside
    obtain ⟨finish, stops⟩ := exists_stops start_inside probe goal
    refine ⟨finish, fun other => ⟨stops.eq, ?_⟩, stops.expanded_pos, fun cap => ⟨?_, ?_⟩⟩
    · rintro rfl
      exact stops
    · exact result_of_lt_expanded start_inside goal_inside stops
    · exact findPath_of_stops start_inside goal_inside stops

/-- Around a wall the goal is taken out with the seventh expansion: a budget of seven is enough and
no greater one changes anything, while with six the search gives up after the same questions. -/
theorem seven_expansions_around_wall :
    let isBlocked (cell : Cell) := cell = ⟨1, 0⟩ || cell = ⟨1, 1⟩
    let probe := Probe.ofPredicate isBlocked
    let report (cap : UInt32) := findPath ⟨cap⟩ ⟨3, 3⟩ ⟨0, 0⟩ ⟨2, 0⟩ probe
    (report 7).result ≠ .error (.iterationCap 7) ∧ report 4294967295 = report 7 ∧
      (report 6).asked <+: (report 7).asked ∧
      ∃ finish, Stops ⟨3, 3⟩ probe ⟨0, 0⟩ ⟨2, 0⟩ finish ∧ finish.expanded = 7 ∧
        report 7 = finish.report ⟨0, 0⟩ ⟨2, 0⟩ := by
  intro isBlocked probe report
  obtain ⟨truncates, threshold⟩ := findPath_cut_short_by_budget ⟨3, 3⟩ ⟨0, 0⟩ ⟨2, 0⟩ probe
  have enough : (report 7).result ≠ .error (.iterationCap 7) := by decide +kernel
  have short : (report 6).result = .error (.iterationCap 6) := by decide +kernel
  obtain ⟨finish, stops_iff, -, capped⟩ := threshold (by decide) (by decide)
  have expanded_le : finish.expanded ≤ 7 := by
    by_contra beyond
    exact enough ((capped 7).1 (Nat.lt_of_not_le beyond))
  have expanded_ge : 6 < finish.expanded := by
    by_contra within
    have same := (capped 6).2 (Nat.le_of_not_lt within)
    exact answer_ne_iterationCap finish 6 ((congrArg SearchReport.result same).symm.trans short)
  exact ⟨enough, (truncates 7 4294967295 (by decide)).1 enough, (truncates 6 7 (by decide)).2,
    finish, (stops_iff finish).mpr rfl, by omega, (capped 7).2 expanded_le⟩

end SearchConfig
end GridWalk
