import ControlBreak.Proofs.Dependency.Reachability
import Mathlib

/-!
# Depth

The depth of a name is measured by going down along its dependencies. A name is marked as entered
only for what is below its dependencies, so one that depends on itself is met twice in a row before it
counts as entered. The entered names do not grow with every step down, but with one of any two in a
row, and this is why the measuring ends in any graph, with circles or without.

Where no circle can be reached, what was entered on the way is never met again. There the depth is
the number of edges of the longest chain of dependencies.

* `measures_iff`: measuring with the entered names ends, in the depth over the other names;
* `isGreatest_depthIn`: over all names that can be reached without circles, this is the length of
  the longest chain, by induction on the measuring;
* `depth_longest`: both, from the first name on.
-/

namespace ControlBreak

/-- The maximum of numbers, and of zero, is one of them and no less than any. -/
theorem isGreatest_foldl_max (ks : List ℕ) :
    IsGreatest {k | k = 0 ∨ k ∈ ks} (ks.foldl max 0) := by
  suffices h : ∀ start, IsGreatest {k | k = start ∨ k ∈ ks} (ks.foldl max start) from h 0
  induction ks with
  | nil =>
    intro start
    exact ⟨.inl rfl, fun k hk => (hk.resolve_right List.not_mem_nil).le⟩
  | cons k rest ih =>
    intro start
    obtain ⟨hmem, hle⟩ := ih (max start k)
    rw [List.foldl_cons]
    constructor
    · rcases hmem with h | h
      · rcases max_choice start k with hmax | hmax
        · exact .inl (h.trans hmax)
        · exact .inr (List.mem_cons.2 (.inl (h.trans hmax)))
      · exact .inr (List.mem_cons_of_mem _ h)
    · rintro j (rfl | hj)
      · exact (le_max_left j k).trans (hle (.inl rfl))
      · rcases List.mem_cons.1 hj with rfl | hj
        · exact (le_max_right start j).trans (hle (.inl rfl))
        · exact hle (.inr hj)

namespace Graph

open Relation

variable {ν : Type} [BEq ν] {g : Graph ν} {unseen entered : List ν} {n m d : ν} {k : ℕ}

/-! ### Measuring -/

/-- The measuring from a name on ends, with a number, when others were entered on the way to it:
    all dependencies that were not are measured, with the name as entered, and the number is one
    more than the greatest of theirs, or zero if there is none. -/
inductive Measures (g : Graph ν) : List ν → ν → ℕ → Prop
  | enter {entered : List ν} {n : ν} {below : ν → ℕ} :
      (∀ d, g.Edge n d → d ∉ entered → Measures g (n :: entered) d (below d)) →
      Measures g entered n
        ((((g.deps n).filter fun d => !entered.contains d).map fun d => below d + 1).foldl max 0)

theorem depthIn_eq (g : Graph ν) (unseen : List ν) (n : ν) :
    g.depthIn unseen n = (((g.deps n).filter fun d => unseen.any (· == d)).map fun d =>
      g.depthIn (without unseen n) d + 1).foldl max 0 := by
  rw [depthIn, List.attach_map_val (f := fun d => g.depthIn (without unseen n) d + 1)]

section Lawful

variable [LawfulBEq ν]

/-- The names that were not entered yet are the unseen ones. -/
def Enters (g : Graph ν) (entered unseen : List ν) : Prop :=
  ∀ d ∈ g.nodes, d ∈ unseen ↔ d ∉ entered

theorem Enters.filter_eq (h : g.Enters entered unseen) (n : ν) :
    ((g.deps n).filter fun d => !entered.contains d) =
      (g.deps n).filter fun d => unseen.any (· == d) := by
  refine List.filter_congr fun d hd => ?_
  have hiff := h d (Edge.mem_nodes hd)
  rw [Bool.eq_iff_iff, any_beq_iff, hiff]
  simp

theorem Enters.cons (h : g.Enters entered unseen) (hu : unseen.Nodup) (n : ν) :
    g.Enters (n :: entered) (without unseen n) := by
  intro d hd
  rw [mem_without hu, h d hd, List.mem_cons, not_or]

/-- The measuring ends, whatever was entered before, and with the depth over the other names. -/
theorem measures_iff (he : g.Enters entered unseen) (hu : unseen.Nodup) :
    g.Measures entered n k ↔ k = g.depthIn unseen n := by
  constructor
  · intro h
    induction h generalizing unseen with
    | @enter entered n below _ ih =>
      rw [depthIn_eq, he.filter_eq]
      congr 1
      refine List.map_congr_left fun d hd => ?_
      rw [← he.filter_eq, List.mem_filter] at hd
      rw [ih d hd.1 (by simpa using hd.2) (he.cons hu n) (nodup_without hu n)]
  · rintro rfl
    -- The induction follows the measuring, whose end the depth was defined by.
    induction unseen, n using depthIn.induct g generalizing entered with
    | case1 unseen n below =>
      rename_i ih
      rw [depthIn_eq, ← he.filter_eq]
      refine .enter fun d hd hm => ih ⟨d, ?_⟩ (he.cons hu n) (nodup_without hu n)
      rw [List.mem_filter, any_beq_iff]
      exact ⟨hd, (he d (Edge.mem_nodes hd)).2 hm⟩

/-! ### Chains -/

/-- The numbers of edges of the chains of dependencies from a name on. -/
def chainLengths (g : Graph ν) (n : ν) : Set ℕ :=
  {k | ∃ names : List ν, (n :: names).IsChain g.Edge ∧ names.length = k}

omit [LawfulBEq ν] in
theorem zero_mem_chainLengths : 0 ∈ g.chainLengths n :=
  ⟨[], .singleton n, rfl⟩

omit [LawfulBEq ν] in
theorem succ_mem_chainLengths :
    k + 1 ∈ g.chainLengths n ↔ ∃ d, g.Edge n d ∧ k ∈ g.chainLengths d := by
  constructor
  · rintro ⟨_ | ⟨d, names⟩, hc, hk⟩
    · cases hk
    · obtain ⟨hd, hc⟩ := List.isChain_cons_cons.1 hc
      exact ⟨d, hd, names, hc, Nat.succ_injective hk⟩
  · rintro ⟨d, hd, names, hc, rfl⟩
    exact ⟨d :: names, .cons_cons hd hc, rfl⟩

/-- No circle can be reached from a name. -/
def Unwinds (g : Graph ν) (n : ν) : Prop :=
  ∀ m, ReflTransGen g.Edge n m → ¬TransGen g.Edge m m

omit [LawfulBEq ν] in
theorem Unwinds.edge (h : g.Unwinds n) (hd : g.Edge n d) : g.Unwinds d :=
  fun m hm => h m (hm.head hd)

/-- Over all names that can be reached, and without circles among them, the depth is the length of
    the longest chain. -/
theorem isGreatest_depthIn (h : g.Unwinds n) (hu : unseen.Nodup)
    (hr : ∀ m, TransGen g.Edge n m → m ∈ unseen) :
    IsGreatest (g.chainLengths n) (g.depthIn unseen n) := by
  induction unseen, n using depthIn.induct g with
  | case1 unseen n _ ih =>
    have hunseen (d : ν) (hd : g.Edge n d) :
        d ∈ (g.deps n).filter fun d => unseen.any (· == d) :=
      List.mem_filter.2 ⟨hd, any_beq_iff.2 (hr d (.single hd))⟩
    have below (d : ν) (hd : g.Edge n d) :
        IsGreatest (g.chainLengths d) (g.depthIn (without unseen n) d) := by
      refine ih ⟨d, hunseen d hd⟩ (h.edge hd) (nodup_without hu n) fun m hm => ?_
      -- Below a dependency the name is not met again: that would be a circle.
      refine (mem_without hu).2 ⟨?_, hr m (hm.head hd)⟩
      rintro rfl
      exact h m .refl (hm.head hd)
    obtain ⟨hmem, hle⟩ := isGreatest_foldl_max <|
      ((g.deps n).filter fun d => unseen.any (· == d)).map fun d =>
        g.depthIn (without unseen n) d + 1
    rw [← depthIn_eq] at hmem hle
    constructor
    · rcases hmem with hzero | hmem
      · exact hzero ▸ zero_mem_chainLengths
      · obtain ⟨d, hd, hk⟩ := List.mem_map.1 hmem
        have hd : g.Edge n d := (List.mem_filter.1 hd).1
        exact hk ▸ succ_mem_chainLengths.2 ⟨d, hd, (below d hd).1⟩
    · intro k hk
      cases k with
      | zero => exact Nat.zero_le _
      | succ k =>
        obtain ⟨d, hd, hk⟩ := succ_mem_chainLengths.1 hk
        exact (Nat.succ_le_succ ((below d hd).2 hk)).trans
          (hle (.inr (List.mem_map_of_mem (hunseen d hd))))

theorem isGreatest_depth (h : g.Unwinds n) : IsGreatest (g.chainLengths n) (g.depth n) := by
  refine isGreatest_depthIn h (nodup_nodes g) fun m hm => ?_
  obtain ⟨k, -, hk⟩ := TransGen.tail'_iff.1 hm
  exact Edge.mem_nodes hk

/-- A name is deeper than each of its dependencies. -/
theorem depth_lt_of_edge (h : g.Unwinds n) (hd : g.Edge n d) : g.depth d < g.depth n :=
  (isGreatest_depth h).2 (succ_mem_chainLengths.2 ⟨d, hd, (isGreatest_depth (h.edge hd)).1⟩)

omit [LawfulBEq ν] in
theorem depth_of_deps_eq_nil (h : g.deps n = []) : g.depth n = 0 := by
  rw [depth, depthIn_eq, h]
  rfl

theorem deps_of_notMem_nodes (h : n ∉ g.nodes) : g.deps n = [] :=
  List.eq_nil_iff_forall_not_mem.2 fun _ hd => h (mem_nodes.2 (.inl (Edge.mem_keys hd)))

end Lawful

/-- Measuring ends for every name of every graph, and in its depth. A name without dependencies, or
    one that the graph does not have, has depth zero. If no circle can be reached from a name, its
    depth is the length of the longest chain of dependencies from it on, and so it is deeper than
    each name that it depends on. -/
theorem depth_longest (g : Graph String) (n : String) :
    (∀ k, g.Measures [] n k ↔ k = g.depth n) ∧
      (g.deps n = [] ∨ n ∉ g.nodes → g.depth n = 0) ∧
      (g.Unwinds n → IsGreatest (g.chainLengths n) (g.depth n) ∧
        ∀ d, g.Edge n d → g.depth d < g.depth n) := by
  refine ⟨fun k => measures_iff (fun d hd => by simpa using hd) (nodup_nodes g), ?_, ?_⟩
  · rintro (h | h)
    exacts [depth_of_deps_eq_nil h, depth_of_deps_eq_nil (deps_of_notMem_nodes h)]
  · exact fun h => ⟨isGreatest_depth h, fun d hd => depth_lt_of_edge h hd⟩

/-- A total that needs a price along two ways, beside a name that depends on itself. -/
def costs : Graph String :=
  ⟨[("total", ["net", "tax"]), ("net", ["price"]), ("tax", ["net"]), ("rest", ["rest"])]⟩

/-- The longer way counts, and the circle that is not reached does not matter. -/
theorem depth_longest_costs : costs.Unwinds "total" ∧ costs.deps "price" = [] ∧
    IsGreatest (costs.chainLengths "total") 3 ∧ costs.depth "tax" < costs.depth "total" ∧
    costs.depth "price" = 0 ∧ costs.Measures [] "rest" 1 := by
  have hall : costs.nodes.all fun m =>
      !((m == "total" || costs.dependsOn "total" m) && costs.dependsOn m m) := by cbv
  have hpath : costs.Unwinds "total" := by
    intro m hm hc
    obtain ⟨k, -, hk⟩ := TransGen.tail'_iff.1 hc
    have hd := dependsOn_iff.2 hc
    have := List.all_eq_true.1 hall m hk.mem_nodes
    rcases reflTransGen_iff_eq_or_transGen.1 hm with rfl | hm
    · simp [hd] at this
    · simp [dependsOn_iff.2 hm, hd] at this
  have htotal : costs.depth "total" = 3 := by cbv
  have hrest : 1 = costs.depth "rest" := by cbv
  obtain ⟨-, -, hlongest⟩ := depth_longest costs "total"
  obtain ⟨hgreatest, hlt⟩ := hlongest hpath
  have hprice : costs.deps "price" = [] := by cbv
  have htax : costs.Edge "total" "tax" := List.contains_iff_mem.1 (by cbv)
  exact ⟨hpath, hprice, htotal ▸ hgreatest, hlt "tax" htax,
    (depth_longest costs "price").2.1 (.inl hprice), (depth_longest costs "rest").1 1 |>.2 hrest⟩

end Graph

end ControlBreak
