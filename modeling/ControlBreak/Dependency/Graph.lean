/-!
# Dependency graphs

A graph gives for each of its names the names that it depends on. Names that
occur only as dependencies belong to the graph as well, and depend on nothing.

Every search through a graph carries the names that it has not seen yet, and ends
because it takes each of them once.

* `dependsOn` and `dependents` follow the edges forward and backward;
* `depth` is the length of the longest chain of dependencies.
-/

namespace ControlBreak

/-- The names of a graph with what each depends on, in order. -/
structure Graph (ν : Type) where
  entries : List (ν × List ν)
  deriving Repr, Inhabited

/-- The members of a list, each at its first place. -/
def firsts {ν : Type} [BEq ν] (names : List ν) : List ν :=
  names.foldl (fun seen n => if seen.contains n then seen else seen ++ [n]) []

/-- A list without its first member that equals `n`. -/
def without {ν : Type} [BEq ν] (names : List ν) (n : ν) : List ν :=
  names.eraseP (· == n)

theorem length_without_lt {ν : Type} [BEq ν] {names : List ν} {n : ν}
    (h : names.any (· == n)) : (without names n).length < names.length := by
  obtain ⟨m, hm, he⟩ := List.any_eq_true.1 h
  have := List.length_eraseP_of_mem (p := (· == n)) hm he
  have := List.length_pos_of_mem hm
  rw [without]
  omega

theorem without_eq_self {ν : Type} [BEq ν] {names : List ν} {n : ν}
    (h : names.any (· == n) = false) : without names n = names :=
  List.eraseP_of_forall_not fun m hm he => by
    rw [List.any_eq_false] at h
    exact h m hm he

namespace Graph

variable {ν : Type} [BEq ν]

/-- The names that have dependencies of their own, even if there are none. -/
def keys (g : Graph ν) : List ν :=
  g.entries.map (·.1)

/-- What a name depends on. -/
def deps (g : Graph ν) (n : ν) : List ν :=
  ((g.entries.find? fun e => e.1 == n).map (·.2)).getD []

/-- All names of the graph: those with entries, then those that only occur as
    dependencies. -/
def nodes (g : Graph ν) : List ν :=
  firsts (g.keys ++ g.entries.flatMap (·.2))

/-- The graph over given names only. -/
def restrict (g : Graph ν) (names : List ν) : Graph ν :=
  let kept := firsts names
  ⟨kept.map fun n => (n, (g.deps n).filter kept.contains)⟩

/-- The dependencies that are not known, each once. -/
def missing (g : Graph ν) (known : List ν) : List ν :=
  firsts ((g.entries.flatMap (·.2)).filter fun d => !known.contains d)

/-- Adds `n` to what the entry of `d` holds; if there is none, it comes last. -/
def link (d n : ν) : List (ν × List ν) → List (ν × List ν)
  | [] => [(d, [n])]
  | (m, ns) :: rest => if m == d then (m, ns ++ [n]) :: rest else (m, ns) :: link d n rest

/-- The graph backward: for each name that others depend on, these in turn. -/
def reversed (g : Graph ν) : Graph ν :=
  ⟨g.entries.foldl (fun entries e => e.2.foldl (fun entries d => link d e.1 entries) entries) []⟩

/-- The unseen names that are met from a queue on, nearest first. -/
def explore (g : Graph ν) (unseen queue : List ν) : List ν :=
  match queue with
  | [] => []
  | n :: rest =>
    if unseen.any (· == n) then n :: explore g (without unseen n) (rest ++ g.deps n)
    else explore g unseen rest
  termination_by (unseen.length, queue.length)
  decreasing_by
    · exact Prod.Lex.left _ _ (length_without_lt (by assumption))
    · exact Prod.Lex.right _ (by simp)

/-- All names that depend on `n`, directly or through others. -/
def dependents (g : Graph ν) (n : ν) : List ν :=
  g.reversed.explore g.nodes (g.reversed.deps n)

/-- Whether `d` is met among unseen names from a stack on, the last one pushed first. -/
def leadsTo (g : Graph ν) (d : ν) (unseen stack : List ν) : Bool :=
  match stack with
  | [] => false
  | n :: rest =>
    if n == d then true
    else if unseen.any (· == n) then leadsTo g d (without unseen n) ((g.deps n).reverse ++ rest)
    else leadsTo g d unseen rest
  termination_by (unseen.length, stack.length)
  decreasing_by
    · exact Prod.Lex.left _ _ (length_without_lt (by assumption))
    · exact Prod.Lex.right _ (by simp)

/-- Whether `n` depends on `d`, directly or through others. -/
def dependsOn (g : Graph ν) (n d : ν) : Bool :=
  g.leadsTo d g.nodes (g.deps n).reverse

/-- The length of the longest chain of dependencies from `n` on that takes only
    unseen names. -/
def depthIn (g : Graph ν) (unseen : List ν) (n : ν) : Nat :=
  let below := (g.deps n).filter fun d => unseen.any (· == d)
  (below.attach.map fun d => depthIn g (without unseen n) d.1 + 1).foldl max 0
  termination_by (unseen.length, if unseen.any (· == n) then 0 else 1)
  decreasing_by
    have hd : unseen.any (· == d.1) := by
      have := d.2
      simp only [below, List.mem_filter] at this
      exact this.2
    by_cases h : unseen.any (· == n)
    · exact Prod.Lex.left _ _ (length_without_lt h)
    · rw [Bool.not_eq_true] at h
      rw [without_eq_self h, h, hd]
      exact Prod.Lex.right _ (by simp)

/-- The length of the longest chain of dependencies from `n` on. Where the chains
    go in circles, no name is taken twice, but for one that depends on itself. -/
def depth (g : Graph ν) (n : ν) : Nat :=
  g.depthIn g.nodes n

end Graph

end ControlBreak
