import ControlBreak.Dependency.Order
import Mathlib.Data.List.Chain
import Mathlib.Data.List.Nodup
import Mathlib.Logic.Relation
import Mathlib.Tactic.Common

/-!
# Circles of dependencies

A graph has a circle if a name reaches itself along one or more dependencies.
Without circles every chain of dependencies ends: every name is *grounded*, that
is, accessible along its dependencies.

The search goes along a *trail* of names, each of which depends on the one found
after it. What it leaves behind is grounded: a name is left only after all of its
dependencies, so the names on the trail *await* those above them.

The names on the trail differ, and each was found as a dependency of the one before. So when
the search meets one of them again, they are a circle from there on.

* `findCycle_eq_none_iff`: the search finds nothing exactly if there is no circle;
* `findCycle_iff_circular`: it finds something exactly if there is one, and what it finds is one.
-/

namespace ControlBreak

variable {ν : Type} [BEq ν]

/-! ### Lists of names -/

theorem without_eq_erase (names : List ν) (n : ν) : without names n = names.erase n :=
  (List.erase_eq_eraseP' n names).symm

section Lawful

variable [LawfulBEq ν]

theorem mem_foldl_firsts (names seen : List ν) (n : ν) :
    n ∈ names.foldl (fun seen n => if seen.contains n then seen else seen ++ [n]) seen ↔
      n ∈ seen ∨ n ∈ names := by
  induction names generalizing seen with
  | nil => simp
  | cons m rest ih =>
    rw [List.foldl_cons, ih]
    split
    · rename_i h
      have hm : m ∈ seen := by simpa using h
      constructor
      · rintro (h | h)
        exacts [.inl h, .inr (List.mem_cons_of_mem _ h)]
      · rintro (h | h)
        · exact .inl h
        · rcases List.mem_cons.1 h with rfl | h
          exacts [.inl hm, .inr h]
    · simp [or_assoc]

theorem nodup_foldl_firsts (names : List ν) {seen : List ν} (hs : seen.Nodup) :
    (names.foldl (fun seen n => if seen.contains n then seen else seen ++ [n]) seen).Nodup := by
  induction names generalizing seen with
  | nil => exact hs
  | cons m rest ih =>
    rw [List.foldl_cons]
    split
    · exact ih hs
    · rename_i h
      refine ih (List.nodup_append.2 ⟨hs, List.nodup_singleton m, fun a ha b hb => ?_⟩)
      rw [List.mem_singleton] at hb
      rintro rfl
      exact h (by simpa [hb] using ha)

@[simp]
theorem mem_firsts {names : List ν} {n : ν} : n ∈ firsts names ↔ n ∈ names := by
  rw [firsts, mem_foldl_firsts]
  simp

theorem nodup_firsts (names : List ν) : (firsts names).Nodup :=
  nodup_foldl_firsts names List.nodup_nil

theorem mem_without {names : List ν} (hn : names.Nodup) {n m : ν} :
    m ∈ without names n ↔ m ≠ n ∧ m ∈ names := by
  rw [without_eq_erase, hn.mem_erase_iff]

theorem nodup_without {names : List ν} (hn : names.Nodup) (n : ν) : (without names n).Nodup := by
  rw [without_eq_erase]
  exact hn.erase n

theorem any_beq_iff {names : List ν} {n : ν} : names.any (· == n) = true ↔ n ∈ names := by
  rw [List.any_beq', List.contains_iff_mem]

/-- Where keys differ, a member is found by its key. -/
theorem find?_eq_some_of_key {α : Type} {key : α → ν} {as : List α} {a : α}
    (hn : (as.map key).Nodup) (ha : a ∈ as) :
    as.find? (fun other => key other == key a) = some a := by
  cases hf : as.find? fun other => key other == key a with
  | none => simpa using List.find?_eq_none.1 hf a ha
  | some other =>
    have ho : key other = key a := by simpa using List.find?_some hf
    rw [List.inj_on_of_nodup_map hn (List.mem_of_find?_eq_some hf) ha ho]

end Lawful

namespace Graph

variable {g : Graph ν}

/-! ### Edges -/

/-- Whether a name depends on another one directly. -/
def Edge (g : Graph ν) (n d : ν) : Prop := d ∈ g.deps n

/-- No name depends on itself, directly or through others. -/
def IsAcyclic (g : Graph ν) : Prop := ∀ n, ¬Relation.TransGen g.Edge n n

/-- A name from which every chain of dependencies ends. -/
def Grounded (g : Graph ν) (n : ν) : Prop := Acc (fun d m => g.Edge m d) n

theorem Grounded.not_transGen {n : ν} (h : g.Grounded n) : ¬Relation.TransGen g.Edge n n := by
  -- Along a circle there would be a chain without an end.
  induction h with
  | intro n _ ih =>
    intro hc
    obtain ⟨d, hd, hdn⟩ := Relation.TransGen.head'_iff.1 hc
    exact ih d hd (Relation.TransGen.tail' hdn hd)

/-- A circle of dependencies, given by its names from one of them back to it: no other is
    named twice, and each depends on the next. -/
structure IsCircle (g : Graph ν) (cycle : List ν) : Prop where
  two_le_length : 2 ≤ cycle.length
  head?_eq_getLast? : cycle.head? = cycle.getLast?
  nodup : cycle.dropLast.Nodup
  isChain : cycle.IsChain g.Edge

theorem IsCircle.exists_eq {cycle : List ν} (h : g.IsCircle cycle) :
    ∃ n path, cycle = n :: (path ++ [n]) := by
  obtain ⟨hlength, hclosed, -, -⟩ := h
  obtain rfl | ⟨path, last, rfl⟩ := List.eq_nil_or_concat' cycle
  · cases hlength
  cases path with
  | nil => simp at hlength
  | cons n path =>
    rw [List.getLast?_concat, List.cons_append, List.head?_cons, Option.some.injEq] at hclosed
    exact ⟨n, path, by rw [hclosed, List.cons_append]⟩

/-- On a circle there is a name that depends on itself. -/
theorem IsCircle.exists_transGen {cycle : List ν} (h : g.IsCircle cycle) :
    ∃ n ∈ cycle, Relation.TransGen g.Edge n n := by
  obtain ⟨n, path, rfl⟩ := h.exists_eq
  refine ⟨n, List.mem_cons_self, ?_⟩
  cases path with
  | nil => exact .single (List.isChain_cons_cons.1 h.isChain).1
  | cons m path =>
    obtain ⟨hnm, hchain⟩ := List.isChain_cons_cons.1 h.isChain
    exact .head' hnm (List.relationReflTransGen_of_exists_isChain_cons _ hchain (by simp))

/-- On a circle every name is a dependency. -/
theorem IsCircle.exists_edge {cycle : List ν} (h : g.IsCircle cycle) {d : ν} (hd : d ∈ cycle) :
    ∃ n, g.Edge n d := by
  obtain ⟨n, path, rfl⟩ := h.exists_eq
  have hd : d ∈ path ++ [n] := by
    rcases List.mem_cons.1 hd with rfl | hd
    exacts [List.mem_append_right _ (List.mem_singleton_self d), hd]
  obtain ⟨before, after, hp⟩ := List.append_of_mem hd
  have hchain : ((n :: before) ++ d :: after).IsChain g.Edge := by
    have hchain := h.isChain
    rwa [hp] at hchain
  exact ⟨_, hchain.rel_getLast_head_of_append (List.cons_ne_nil _ _) (List.cons_ne_nil _ _)⟩

/-- A circle is one in any graph that has its edges. -/
theorem IsCircle.imp {g' : Graph ν} {cycle : List ν} (h : g.IsCircle cycle)
    (he : ∀ n d, n ∈ cycle → d ∈ cycle → g.Edge n d → g'.Edge n d) : g'.IsCircle cycle :=
  ⟨h.two_le_length, h.head?_eq_getLast?, h.nodup, h.isChain.imp_of_mem_imp he⟩

theorem IsCircle.not_isAcyclic {cycle : List ν} (h : g.IsCircle cycle) : ¬g.IsAcyclic := by
  obtain ⟨n, -, hn⟩ := h.exists_transGen
  exact fun ha => ha n hn

/-! ### The trail of the search -/

/-- The stack of a search: each name is a dependency of the one found before it, and
    what was not looked at yet are dependencies. -/
structure IsTrail (g : Graph ν) (stack : List (ν × List ν)) : Prop where
  chain : stack.IsChain fun x y => g.Edge y.1 x.1
  open_edge : ∀ x ∈ stack, ∀ d ∈ x.2, g.Edge x.1 d

variable {unseen : List ν} {n d : ν} {ds : List ν} {rest : List (ν × List ν)}

theorem isTrail_singleton (n : ν) : g.IsTrail [(n, g.deps n)] :=
  ⟨.singleton _, by simp [Edge]⟩

theorem IsTrail.tail {x : ν × List ν} (h : g.IsTrail (x :: rest)) : g.IsTrail rest :=
  ⟨h.chain.tail, fun y hy => h.open_edge y (List.mem_cons_of_mem _ hy)⟩

theorem IsTrail.edge (h : g.IsTrail ((n, d :: ds) :: rest)) : g.Edge n d :=
  h.open_edge _ List.mem_cons_self _ List.mem_cons_self

/-- The trail once a dependency was looked at. -/
theorem IsTrail.next (h : g.IsTrail ((n, d :: ds) :: rest)) : g.IsTrail ((n, ds) :: rest) := by
  have hc := List.isChain_cons.1 h.chain
  refine ⟨List.isChain_cons.2 hc, fun x hx e he => ?_⟩
  rcases List.mem_cons.1 hx with rfl | hx
  · exact h.open_edge _ List.mem_cons_self _ (List.mem_cons_of_mem _ he)
  · exact h.open_edge x (List.mem_cons_of_mem _ hx) e he

theorem IsTrail.push (h : g.IsTrail ((n, d :: ds) :: rest)) :
    g.IsTrail ((d, g.deps d) :: (n, ds) :: rest) := by
  refine ⟨.cons_cons h.edge h.next.chain, fun x hx e he => ?_⟩
  rcases List.mem_cons.1 hx with rfl | hx
  exacts [he, h.next.open_edge x hx e he]

/-- If the next dependency is on the way already, the names from there on are a circle. -/
theorem IsTrail.isCircle {later earlier : List ν} (h : g.IsTrail ((n, d :: ds) :: rest))
    (hn : (n :: rest.map (·.1)).Nodup) (hp : n :: rest.map (·.1) = later ++ d :: earlier) :
    g.IsCircle (d :: later.reverse ++ [d]) := by
  -- The trail holds the last name first, so a circle is read off backward.
  have hnames : (((n, d :: ds) :: rest).map (·.1)).IsChain fun m k => g.Edge k m :=
    (List.isChain_map _).2 h.chain
  have hback : (d :: (later ++ [d])).IsChain fun m k => g.Edge k m := by
    have hchain : (d :: n :: rest.map (·.1)).IsChain fun m k => g.Edge k m :=
      .cons_cons h.edge hnames
    rw [hp] at hchain
    exact hchain.prefix ⟨earlier, by simp⟩
  rw [hp, List.nodup_middle, List.nodup_cons, List.mem_append, not_or] at hn
  refine ⟨by simp, by rw [List.getLast?_concat]; rfl, ?_, ?_⟩
  · rw [List.dropLast_concat, List.nodup_cons, List.mem_reverse, List.nodup_reverse]
    exact ⟨hn.1.1, hn.2.of_append_left⟩
  · have hrev : d :: later.reverse ++ [d] = (d :: (later ++ [d])).reverse := by simp
    rw [hrev, List.isChain_reverse]
    exact hback

/-! ### What the search leaves behind -/

/-- Each name of a stack has, beside the dependencies that were not looked at yet,
    only grounded ones, once those above it on the stack are grounded. -/
def Awaits (g : Graph ν) : List (ν × List ν) → Prop
  | [] => True
  | (n, ds) :: rest => (∀ d, g.Edge n d → d ∈ ds ∨ g.Grounded d) ∧ (g.Grounded n → g.Awaits rest)

/-- Every name of the graph is unseen, on the stack or grounded. -/
def Accounts (g : Graph ν) (unseen : List ν) (stack : List (ν × List ν)) : Prop :=
  ∀ n ∈ g.nodes, n ∈ unseen ∨ n ∈ stack.map (·.1) ∨ g.Grounded n

theorem Awaits.grounded (h : g.Awaits ((n, []) :: rest)) : g.Grounded n :=
  ⟨n, fun d hd => (h.1 d hd).resolve_left List.not_mem_nil⟩

/-- A stack awaits as before once a dependency on top turns out to be grounded. -/
theorem Awaits.next (h : g.Awaits ((n, d :: ds) :: rest)) (hd : g.Grounded d) :
    g.Awaits ((n, ds) :: rest) := by
  refine ⟨fun e he => ?_, h.2⟩
  rcases h.1 e he with hm | hg
  · rcases List.mem_cons.1 hm with rfl | hm
    exacts [.inr hd, .inl hm]
  · exact .inr hg

theorem Accounts.pop (h : g.Accounts unseen ((n, []) :: rest)) (hn : g.Grounded n) :
    g.Accounts unseen rest := by
  intro m hm
  rcases h m hm with hu | hs | hg
  · exact .inl hu
  · rcases List.mem_cons.1 hs with rfl | hs
    exacts [.inr (.inr hn), .inr (.inl hs)]
  · exact .inr (.inr hg)

section Lawful

variable [LawfulBEq ν]

theorem Accounts.push (h : g.Accounts unseen rest) (hu : unseen.Nodup) (d : ν) (es : List ν) :
    g.Accounts (without unseen d) ((d, es) :: rest) := by
  intro m hm
  by_cases hd : m = d
  · exact .inr (.inl (by simp [hd]))
  · rcases h m hm with hm | hs | hg
    · exact .inl ((mem_without hu).2 ⟨hd, hm⟩)
    · exact .inr (.inl (List.mem_cons_of_mem _ hs))
    · exact .inr (.inr hg)

/-! ### Names and edges -/

theorem mem_nodes : n ∈ g.nodes ↔ n ∈ g.keys ∨ ∃ e ∈ g.entries, n ∈ e.2 := by
  rw [nodes, mem_firsts, List.mem_append, List.mem_flatMap]

theorem nodup_nodes (g : Graph ν) : g.nodes.Nodup := nodup_firsts _

/-- Only a name with an entry has dependencies, and the entry holds them. -/
theorem Edge.exists_entry (h : g.Edge n d) : ∃ e ∈ g.entries, e.1 = n ∧ d ∈ e.2 := by
  rw [Edge, deps] at h
  cases hf : g.entries.find? fun e => e.1 == n with
  | none => simp [hf] at h
  | some e =>
    refine ⟨e, List.mem_of_find?_eq_some hf, ?_, by simpa [hf] using h⟩
    simpa using List.find?_some hf

theorem Edge.mem_keys (h : g.Edge n d) : n ∈ g.keys := by
  obtain ⟨e, he, rfl, _⟩ := h.exists_entry
  exact List.mem_map_of_mem he

theorem Edge.mem_nodes (h : g.Edge n d) : d ∈ g.nodes := by
  obtain ⟨e, he, _, hd⟩ := h.exists_entry
  exact Graph.mem_nodes.2 (.inr ⟨e, he, hd⟩)

/-! ### The steps of the search -/

theorem search_push (h : d ∉ n :: rest.map (·.1)) (hu : d ∈ unseen) :
    g.search unseen ((n, d :: ds) :: rest) =
      g.search (without unseen d) ((d, g.deps d) :: (n, ds) :: rest) := by
  have h : ¬(n :: rest.map (·.1)).contains d = true := by simpa using h
  rw [search, if_neg h, if_pos (any_beq_iff.2 hu)]

theorem search_skip (h : d ∉ n :: rest.map (·.1)) (hu : d ∉ unseen) :
    g.search unseen ((n, d :: ds) :: rest) = g.search unseen ((n, ds) :: rest) := by
  have h : ¬(n :: rest.map (·.1)).contains d = true := by simpa using h
  rw [search, if_neg h, if_neg fun hu' => hu (any_beq_iff.1 hu')]

/-- A name that is met again on the way is reported with those found after it. -/
theorem search_circle (h : d ∈ n :: rest.map (·.1)) :
    ∃ later earlier, n :: rest.map (·.1) = later ++ d :: earlier ∧
      g.search unseen ((n, d :: ds) :: rest) = .error (d :: later.reverse ++ [d]) := by
  have hc : (n :: rest.map (·.1)).contains d = true := by simpa using h
  obtain ⟨later, earlier, hp, hd⟩ := List.eq_append_cons_of_mem h
  refine ⟨later, earlier, hp, ?_⟩
  have hlater : ∀ m ∈ later, (m != d) = true := fun m hm => by
    rw [bne_iff_ne]
    exact ne_of_mem_of_not_mem hm hd
  rw [search, if_pos hc, hp, List.takeWhile_append_of_pos hlater,
    List.takeWhile_cons_of_neg (by simp), List.append_nil]

/-- What the search reports is a circle, as the names on its trail differ. -/
theorem isCircle_of_search {stack : List (ν × List ν)} {cycle : List ν}
    (h : g.search unseen stack = .error cycle) (ht : g.IsTrail stack)
    (hn : (stack.map (·.1)).Nodup) : g.IsCircle cycle := by
  induction unseen, stack using search.induct g with
  | case1 =>
    rw [search] at h
    cases h
  | case2 unseen n rest ih =>
    rw [search] at h
    exact ih h ht.tail (List.nodup_cons.1 hn).2
  | case3 unseen n d ds rest path hd =>
    obtain ⟨later, earlier, hp, hc⟩ : ∃ later earlier, n :: rest.map (·.1) = later ++ d :: earlier ∧
        g.search unseen ((n, d :: ds) :: rest) = .error (d :: later.reverse ++ [d]) :=
      search_circle (by simpa [path] using hd)
    rw [hc] at h
    cases h
    exact ht.isCircle hn hp
  | case4 unseen n d ds rest path hd hu ih =>
    have hd : d ∉ n :: rest.map (·.1) := by simpa [path] using hd
    rw [search_push hd (any_beq_iff.1 hu)] at h
    exact ih h ht.push (List.nodup_cons.2 ⟨hd, hn⟩)
  | case5 unseen n d ds rest path hd hu ih =>
    rw [search_skip (by simpa [path] using hd) fun hm => hu (any_beq_iff.2 hm)] at h
    exact ih h ht.next hn

theorem isCircle_of_searchAll {names cycle : List ν}
    (h : g.searchAll unseen names = some cycle) : g.IsCircle cycle := by
  induction names generalizing unseen with
  | nil => cases h
  | cons n rest ih =>
    rw [searchAll] at h
    split at h
    · split at h
      · rename_i hs
        cases h
        exact isCircle_of_search hs (isTrail_singleton n) (List.nodup_singleton n)
      · exact ih h
    · exact ih h

/-- A search without a circle leaves no name half seen: all that it saw, and all that
    were on its stack, are grounded. -/
theorem accounts_of_search {left : List ν} {stack : List (ν × List ν)}
    (h : g.search unseen stack = .ok left) (hu : unseen.Nodup) (ht : g.IsTrail stack)
    (hw : g.Awaits stack) (ha : g.Accounts unseen stack) :
    left.Nodup ∧ left ⊆ unseen ∧ g.Accounts left [] := by
  induction unseen, stack using search.induct g with
  | case1 unseen =>
    rw [search] at h
    cases h
    exact ⟨hu, List.Subset.refl _, ha⟩
  | case2 unseen n rest ih =>
    rw [search] at h
    exact ih h hu ht.tail (hw.2 hw.grounded) (ha.pop hw.grounded)
  | case3 unseen n d ds rest path hd =>
    obtain ⟨later, earlier, -, hc⟩ : ∃ later earlier,
        n :: rest.map (·.1) = later ++ d :: earlier ∧
        g.search unseen ((n, d :: ds) :: rest) = .error (d :: later.reverse ++ [d]) :=
      search_circle (by simpa [path] using hd)
    rw [hc] at h
    cases h
  | case4 unseen n d ds rest path hd hm ih =>
    rw [search_push (by simpa [path] using hd) (any_beq_iff.1 hm)] at h
    have ha : g.Accounts (without unseen d) ((d, g.deps d) :: (n, ds) :: rest) := ha.push hu d _
    obtain ⟨hl, hs, hg⟩ := ih h (nodup_without hu d) ht.push ⟨fun e he => .inl he, hw.next⟩ ha
    exact ⟨hl, fun m hm => ((mem_without hu).1 (hs hm)).2, hg⟩
  | case5 unseen n d ds rest path hd hm ih =>
    -- A dependency that was seen and is not on the way is grounded.
    have hd : d ∉ n :: rest.map (·.1) := by simpa [path] using hd
    have hm : d ∉ unseen := fun h => hm (any_beq_iff.2 h)
    have hg := ((ha d ht.edge.mem_nodes).resolve_left hm).resolve_left hd
    rw [search_skip hd hm] at h
    exact ih h hu ht.next (hw.next hg) ha

theorem grounded_of_searchAll {names : List ν} (h : g.searchAll unseen names = none)
    (hu : unseen.Nodup) (ha : g.Accounts unseen []) (hn : names ⊆ g.nodes) :
    ∀ n ∈ names, g.Grounded n := by
  induction names generalizing unseen with
  | nil => simp
  | cons n rest ih =>
    obtain ⟨hn, hrest⟩ := List.cons_subset.1 hn
    rw [searchAll] at h
    split at h
    · split at h
      · cases h
      · rename_i left hs
        obtain ⟨hl, hsub, hg⟩ := accounts_of_search hs (nodup_without hu n) (isTrail_singleton n)
          ⟨fun d hd => .inl hd, fun _ => trivial⟩ (ha.push hu n _)
        refine List.forall_mem_cons.2 ⟨?_, ih h hl hg hrest⟩
        have hseen : n ∉ left := fun hm => ((mem_without hu).1 (hsub hm)).1 rfl
        exact ((hg n hn).resolve_left hseen).resolve_left List.not_mem_nil
    · rename_i hm
      refine List.forall_mem_cons.2 ⟨?_, ih h hu ha hrest⟩
      have hseen : n ∉ unseen := fun h => hm (any_beq_iff.2 h)
      exact ((ha n hn).resolve_left hseen).resolve_left List.not_mem_nil

/-- If the search finds no circle, every chain of dependencies ends. -/
theorem grounded_of_findCycle (h : g.findCycle = none) (n : ν) : g.Grounded n := by
  have hkeys := grounded_of_searchAll h (nodup_nodes g) (fun _ hn => .inl hn)
    fun _ hn => mem_nodes.2 (.inl hn)
  exact ⟨n, fun _ hd => (hkeys n hd.mem_keys).inv hd⟩

/-- What the search finds is a circle. -/
theorem isCircle_of_findCycle {cycle : List ν} (h : g.findCycle = some cycle) :
    g.IsCircle cycle :=
  isCircle_of_searchAll h

/-- The search finds a circle exactly if there is one. -/
theorem findCycle_eq_none_iff : g.findCycle = none ↔ g.IsAcyclic := by
  constructor
  · exact fun h n => (grounded_of_findCycle h n).not_transGen
  · intro ha
    cases hc : g.findCycle with
    | none => rfl
    | some cycle => exact absurd ha (isCircle_of_findCycle hc).not_isAcyclic

end Lawful

/-- A circle is found exactly if a name reaches itself along one or more dependencies, and
    what is found is a circle. -/
theorem findCycle_iff_circular (g : Graph String) :
    ((∃ cycle, g.findCycle = some cycle) ↔ ∃ n, Relation.TransGen g.Edge n n) ∧
      ∀ cycle, g.findCycle = some cycle → g.IsCircle cycle := by
  refine ⟨⟨?_, ?_⟩, fun _ => isCircle_of_findCycle⟩
  · rintro ⟨cycle, hc⟩
    obtain ⟨n, -, hn⟩ := (isCircle_of_findCycle hc).exists_transGen
    exact ⟨n, hn⟩
  · rintro ⟨n, hn⟩
    refine Option.ne_none_iff_exists'.1 fun hnone => ?_
    exact findCycle_eq_none_iff.1 hnone n hn

end Graph

end ControlBreak
