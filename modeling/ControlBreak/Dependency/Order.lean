import ControlBreak.Dependency.Graph

/-!
# The order of evaluation

Dependencies come before what depends on them. Among the names whose dependencies
are all done, the one that stands first in the graph comes next, so independent
names keep their order. A graph in which a name depends on itself, directly or
through others, has no order; the circle found is reported.

* `findCycle` looks for a circle depth first, in the order of the graph;
* `sort` counts for each name down how many of its dependencies are not done;
* `order` is the order of a graph without circles.
-/

namespace ControlBreak

namespace Graph

variable {ν : Type} [BEq ν]

/-- Looks for a circle depth first. The stack holds the names on the way, the last
    one first, each with those of its dependencies that were not looked at yet.
    The result is a circle, or what stays unseen without one. -/
def search (g : Graph ν) (unseen : List ν) (stack : List (ν × List ν)) :
    Except (List ν) (List ν) :=
  match stack with
  | [] => .ok unseen
  | (_, []) :: rest => search g unseen rest
  | (n, d :: ds) :: rest =>
    let path := n :: rest.map (·.1)
    if path.contains d then .error (d :: (path.takeWhile (· != d)).reverse ++ [d])
    else if unseen.any (· == d) then
      search g (without unseen d) ((d, g.deps d) :: (n, ds) :: rest)
    else search g unseen ((n, ds) :: rest)
  termination_by (unseen.length, (stack.flatMap (·.2)).length + stack.length)
  decreasing_by
    · exact Prod.Lex.right _ (by simp)
    · exact Prod.Lex.left _ _ (length_without_lt (by assumption))
    · exact Prod.Lex.right _ (by simp)

/-- Looks for a circle from each of the names that are still unseen then. -/
def searchAll (g : Graph ν) (unseen : List ν) : List ν → Option (List ν)
  | [] => none
  | n :: rest =>
    if unseen.any (· == n) then
      match g.search (without unseen n) [(n, g.deps n)] with
      | .error cycle => some cycle
      | .ok unseen => searchAll g unseen rest
    else searchAll g unseen rest

/-- A circle of dependencies: its first and its last name are one, and each name
    depends on the next. -/
def findCycle (g : Graph ν) : Option (List ν) :=
  g.searchAll g.nodes g.keys

/-- The place of a name among all names of the graph. -/
def place (g : Graph ν) (n : ν) : Nat :=
  g.nodes.idxOf n

/-- For each name, the names that wait for it: each once, in the order of the graph. -/
def awaited (g : Graph ν) : Graph ν :=
  reversed ⟨g.nodes.map fun n => (n, firsts (g.deps n))⟩

/-- The names that are not done: some wait, each for a number of its dependencies, and some
    are ready, in the order of their places. -/
structure Countdown (ν : Type) where
  waiting : List (ν × Nat)
  ready : List ν

/-- The countdown before any name is done. -/
def countdown (g : Graph ν) : Countdown ν :=
  let counts := g.nodes.map fun n => (n, (firsts (g.deps n)).length)
  ⟨counts.filter (·.2 != 0), (counts.filter (·.2 == 0)).map (·.1)⟩

/-- Ready names with one more, at its place. -/
def enqueue (g : Graph ν) (n : ν) : List ν → List ν
  | [] => [n]
  | m :: rest => if g.place n < g.place m then n :: m :: rest else m :: enqueue g n rest

/-- The countdown when a name has one dependency less to wait for. If that was the last one,
    the name is ready. -/
def release (g : Graph ν) (c : Countdown ν) (n : ν) : Countdown ν :=
  let counts := c.waiting.map fun e => if e.1 == n then (e.1, e.2 - 1) else e
  ⟨counts.filter (·.2 != 0),
    if counts.any fun e => e.1 == n && e.2 == 0 then g.enqueue n c.ready else c.ready⟩

theorem length_enqueue (g : Graph ν) (n : ν) (ready : List ν) :
    (g.enqueue n ready).length = ready.length + 1 := by
  induction ready with
  | nil => rfl
  | cons m rest ih =>
    rw [enqueue]
    split
    · rfl
    · rw [List.length_cons, ih, List.length_cons]

/-- No name is added: one that becomes ready does not wait any more. -/
theorem length_release_le (g : Graph ν) (c : Countdown ν) (n : ν) :
    (g.release c n).waiting.length + (g.release c n).ready.length ≤
      c.waiting.length + c.ready.length := by
  simp only [release]
  generalize hc : c.waiting.map (fun e => if e.1 == n then (e.1, e.2 - 1) else e) = counts
  have hlength : counts.length = c.waiting.length := by rw [← hc, List.length_map]
  split
  · rename_i h
    obtain ⟨e, he, hzero⟩ := List.any_eq_true.1 h
    have hzero : e.2 = 0 := beq_iff_eq.1 (Bool.and_eq_true_iff.1 hzero).2
    have hlt : (counts.filter (·.2 != 0)).length < counts.length :=
      List.length_filter_lt_length_iff_exists.2 ⟨e, he, by simp [hzero]⟩
    rw [length_enqueue]
    omega
  · have hle := List.length_filter_le (fun e : ν × Nat => e.2 != 0) counts
    omega

theorem length_foldl_release_le (g : Graph ν) (names : List ν) (c : Countdown ν) :
    (names.foldl g.release c).waiting.length + (names.foldl g.release c).ready.length ≤
      c.waiting.length + c.ready.length := by
  induction names generalizing c with
  | nil => exact Nat.le_refl _
  | cons n rest ih => exact Nat.le_trans (ih _) (g.length_release_le c n)

/-- The names that are not done, each after its dependencies: always the first one that is
    ready, and then those that it held up have one dependency less to wait for. -/
def sortFrom (g awaited : Graph ν) (c : Countdown ν) : List ν :=
  match _h : c.ready with
  | [] => []
  | n :: rest => n :: sortFrom g awaited ((awaited.deps n).foldl g.release ⟨c.waiting, rest⟩)
  termination_by c.waiting.length + c.ready.length
  decreasing_by
    have := g.length_foldl_release_le (awaited.deps n) ⟨c.waiting, rest⟩
    rw [_h, List.length_cons]
    exact Nat.lt_succ_of_le this

/-- All names of the graph, each after its dependencies. What is on a circle, or depends on
    one, is left out. -/
def sort (g : Graph ν) : List ν :=
  g.sortFrom g.awaited g.countdown

/-- The order of evaluation of all names of the graph, or a circle. -/
def order (g : Graph ν) : Except (List ν) (List ν) :=
  match g.findCycle with
  | some cycle => .error cycle
  | none => .ok g.sort

/-- The part of the graph that changes with some names: they and all that depends
    on them. -/
def affected (g : Graph ν) (changed : List ν) : Graph ν :=
  let touched := changed ++ changed.flatMap g.dependents
  g.restrict (g.nodes.filter touched.contains)

/-- The order of evaluation of what changes with some names. -/
def partialOrder (g : Graph ν) (changed : List ν) : Except (List ν) (List ν) :=
  (g.affected changed).order

end Graph

end ControlBreak
