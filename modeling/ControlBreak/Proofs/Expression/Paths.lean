import ControlBreak.Proofs.Expression.Parts
import ControlBreak.Proofs.Value.Keys

/-!
# The paths that are announced

The relationships that an expression follows can be told without a record, so that what they lead
to can be fetched in advance. Paths are announced once each: a path is left out if an equal one
was found before, in the same call or in one of its arguments.

That is enough. If all announced paths can be *walked* from a record, then no evaluation against
this record ends at a relationship that leads nowhere, whichever branches it takes and whichever
paths were left out.

* `gathers_relationshipPaths`: what is announced for an expression is gathered from its node and
  its arguments;
* `exists_covers`: each path that a part follows is covered by one that is announced;
* `avoids_evaluate`: an evaluation ends at a relationship only if a path of a part does;
* `evaluate_of_walks`: what is announced is enough, and no more than what occurs.
-/

namespace ControlBreak

/-- The relationships that a node follows, if it follows any. -/
def Node.path? : Node → Option (List Value)
  | .related path _ => some path
  | .explicit relationship _ => some [relationship]
  | _ => none

/-- An error of a relationship that leads nowhere: what it names is missing, or is no record. -/
def EvalError.IsDeadEnd (error : EvalError) : Prop :=
  ∃ name, error = .relationshipNotFound name ∨ error = .invalidRelationship name

theorem EvalError.IsDeadEnd.isPreliminary (error : EvalError) (h : error.IsDeadEnd) :
    error.isPreliminary = true := by
  rcases h with ⟨name, rfl | rfl⟩ <;> rfl

namespace Value

variable {e record next step key : Value} {n : Node} {args : List Value}
  {path p q : List Value} {paths found all mid : List (List Value)}

/-- A path can be walked from a record: what each of its steps leads to is there, and is a
    record. -/
inductive Walks : Value → List Value → Prop
  | nil (record : Value) : Walks record []
  | cons {record next step : Value} {path : List Value} : record.lookup step = .ok (some next) →
    next.isRecord = true → Walks next path → Walks record (step :: path)

/-- A path of relationships that a part of an expression follows. -/
def Follows (path : List Value) (e : Value) : Prop :=
  ∃ part n, IsPart part e ∧ part.node? = .ok (some n) ∧ n.path? = some path

/-! ### Paths that lead to the same -/

/-- A path covers another one if each step is the other's, or is one key with it. -/
def Covers (q p : List Value) : Prop :=
  List.Forall₂ (fun step key => step = key ∨ equalMember step key = .ok true) q p

theorem Covers.refl (p : List Value) : Covers p p :=
  List.forall₂_same.2 fun _ _ => .inl rfl

theorem Covers.of_equals (h : equals (.list q) (.list p) = .ok true) : Covers q p := by
  rw [equals] at h
  split at h
  · exact (equalMembers_eq_true_iff.1 h).imp fun _ _ => .inr
  · cases h

theorem Covers.isKey (h : Covers q p) (hq : ∀ step ∈ q, step.IsKey) : ∀ key ∈ p, key.IsKey := by
  induction h with
  | nil => simp
  | cons hstep _ ih =>
    obtain ⟨hk, hq⟩ := List.forall_mem_cons.1 hq
    refine List.forall_mem_cons.2 ⟨?_, ih hq⟩
    rcases hstep with rfl | hstep
    exacts [hk, hk.of_equalMember hstep]

theorem Covers.trans {p' : List Value} (h : Covers q p) (h' : Covers p p')
    (hq : ∀ step ∈ q, step.IsKey) : Covers q p' := by
  induction h generalizing p' with
  | nil => exact h'
  | cons hstep _ ih =>
    obtain ⟨hk, hq⟩ := List.forall_mem_cons.1 hq
    cases h' with
    | cons hstep' h' =>
      refine .cons ?_ (ih h' hq)
      rcases hstep with rfl | hstep
      · exact hstep'
      rcases hstep' with rfl | hstep'
      · exact .inr hstep
      · exact .inr (((hk.of_equalMember hstep).isInterchangeable _ hstep' _).1 hstep)

/-- Only a mapping has anything under a name that is no text. -/
theorem isText_or_dict_of_lookup (h : record.lookup step = .ok (some next)) :
    step.IsText ∨ ∃ entries, record = .dict entries ∧ step.isHashable = true := by
  rw [lookup.eq_def] at h
  split at h
  case h_1 name entries =>
    obtain ⟨key, hk, -⟩ := Host.map_eq_ok.1 h
    rw [asKey] at hk
    split at hk
    · exact .inr ⟨entries, rfl, ‹_›⟩
    · cases hk
  case h_2 layer below name =>
    obtain ⟨key, hk, h⟩ := Host.bind_eq_ok.1 h
    rw [asKey] at hk
    split at hk <;> cases hk
    split at h
    · exact .inl ⟨_, rfl⟩
    · cases h
  case h_3 s _ _ => exact .inl ⟨s, rfl⟩
  case h_4 => cases h

/-- What can be walked leads through keys. -/
theorem Walks.isKey (h : Walks record path)
    (hk : ∀ step ∈ path, step.isHashable = true → step.IsKey) : ∀ step ∈ path, step.IsKey := by
  induction h with
  | nil => simp
  | cons hl _ _ ih =>
    obtain ⟨hstep, hk⟩ := List.forall_mem_cons.1 hk
    refine List.forall_mem_cons.2 ⟨?_, ih hk⟩
    rcases isText_or_dict_of_lookup hl with ⟨s, rfl⟩ | ⟨entries, -, hh⟩
    exacts [.str s, hstep hh]

/-- What is found under a name is found under what is one key with it, unless that is no key. -/
theorem lookup_of_equalMember (hl : record.lookup step = .ok (some next)) (hk : step.IsKey)
    (h : equalMember step key = .ok true) :
    record.lookup key = .ok (some next) ∨ ∃ f, record.lookup key = .error f := by
  rcases isText_or_dict_of_lookup hl with ⟨s, rfl⟩ | ⟨entries, rfl, hh⟩
  · -- Only a text is one key with a text.
    cases key <;> try cases h
    obtain rfl := eq_of_beq (Except.ok.inj h)
    exact .inl hl
  · rw [lookup, asKey]
    split
    · refine .inl ?_
      rw [lookup, asKey, if_pos hh] at hl
      rw [← hl]
      exact congrArg Except.ok (under?_congr hk h entries).symm
    · exact .inr ⟨_, rfl⟩

/-- Where a path can be walked, those that it covers lead to records, too. -/
theorem Walks.avoids_follow (h : Walks record q) (hk : ∀ step ∈ q, step.IsKey)
    (hc : Covers q p) : (record.follow p).Avoids EvalError.IsDeadEnd := by
  induction h generalizing p with
  | nil =>
    cases hc
    exact Evaluation.avoids_pure _
  | @cons record next step path hl hr _ ih =>
    obtain ⟨hstep, hk⟩ := List.forall_mem_cons.1 hk
    cases hc with
    | @cons _ key _ p heq hc =>
      have hlookup : record.lookup key = .ok (some next) ∨ ∃ f, record.lookup key = .error f := by
        rcases heq with rfl | heq
        exacts [.inl hl, lookup_of_equalMember hl hstep heq]
      rcases hlookup with hl | ⟨f, hf⟩
      · rw [follow_of_isRecord hl hr]
        exact ih hk hc
      · -- The host fails, which is no error of a relationship.
        intro error _ he
        rw [follow, hf] at he
        cases he

/-! ### Paths that are gathered -/

/-- Paths are told apart. -/
def Differ (p q : List Value) : Prop :=
  equals (.list p) (.list q) = .ok false

/-- New paths have been added to those that were found, as far as they were not covered. -/
structure Gathers (found : List (List Value)) (new : List Value → Prop)
    (all : List (List Value)) : Prop where
  /-- No path is lost. -/
  kept : ∀ q ∈ found, q ∈ all
  /-- Each new path is covered. -/
  covered : ∀ p, new p → ∃ q ∈ all, Covers q p
  /-- No path comes from elsewhere. -/
  origin : ∀ q ∈ all, q ∈ found ∨ new q
  /-- No path is there twice. -/
  differ : found.Pairwise Differ → all.Pairwise Differ

namespace Gathers

variable {new new' : List Value → Prop}

theorem nothing (h : ∀ p, ¬new p) : Gathers found new found :=
  ⟨fun _ => id, fun p hp => absurd hp (h p), fun _ => .inl, id⟩

theorem single (path : List Value) : Gathers [] (· = path) [path] :=
  ⟨nofun, by rintro _ rfl; exact ⟨_, List.mem_cons_self, .refl _⟩, by simp,
    fun _ => List.pairwise_singleton ..⟩

theorem trans (h : Gathers found new mid) (h' : Gathers mid new' all) :
    Gathers found (fun p => new p ∨ new' p) all where
  kept q hq := h'.kept q (h.kept q hq)
  covered p hp := by
    rcases hp with hp | hp
    · obtain ⟨q, hq, hc⟩ := h.covered p hp
      exact ⟨q, h'.kept q hq, hc⟩
    · exact h'.covered p hp
  origin q hq := by
    rcases h'.origin q hq with hq | hq
    · exact (h.origin q hq).imp_right .inl
    · exact .inr (.inr hq)
  differ hf := h'.differ (h.differ hf)

theorem congr (h : Gathers found new all) (hiff : ∀ p, new p ↔ new' p) :
    Gathers found new' all := by
  rwa [← funext fun p => propext (hiff p)]

end Gathers

theorem isIn_eq_ok {b : Bool} (h : insertPath.isIn path paths = .ok b) :
    (b = true ∧ ∃ q ∈ paths, equals (.list q) (.list path) = .ok true) ∨
      (b = false ∧ ∀ q ∈ paths, Differ q path) := by
  induction paths with
  | nil =>
    cases h
    exact .inr ⟨rfl, by simp⟩
  | cons p rest ih =>
    rw [insertPath.isIn] at h
    obtain ⟨equal, he, h⟩ := Host.bind_eq_ok.1 h
    cases equal with
    | true =>
      cases h
      exact .inl ⟨rfl, p, List.mem_cons_self, he⟩
    | false =>
      rcases ih h with ⟨hb, q, hq, hc⟩ | ⟨hb, hd⟩
      · exact .inl ⟨hb, q, List.mem_cons_of_mem _ hq, hc⟩
      · exact .inr ⟨hb, List.forall_mem_cons.2 ⟨he, hd⟩⟩

/-- A path is added at the end, or an equal one is there already. -/
theorem gathers_insertPath (h : insertPath path found = .ok all) :
    Gathers found (· = path) all := by
  rw [insertPath] at h
  obtain ⟨b, hb, h⟩ := Host.bind_eq_ok.1 h
  rcases isIn_eq_ok hb with ⟨rfl, q, hq, he⟩ | ⟨rfl, hd⟩ <;> cases h
  · exact ⟨fun _ => id, by rintro _ rfl; exact ⟨q, hq, .of_equals he⟩, fun _ => .inl, id⟩
  · refine ⟨fun q => List.mem_append_left _, ?_, fun q hq => by simpa using hq, fun hf => ?_⟩
    · rintro _ rfl
      exact ⟨_, List.mem_append_right _ List.mem_cons_self, .refl _⟩
    · refine List.pairwise_append.2 ⟨hf, List.pairwise_singleton .., fun q hq p hp => ?_⟩
      rw [List.mem_singleton.1 hp]
      exact hd q hq

theorem gathers_foldlM (h : paths.foldlM (fun paths path => insertPath path paths) found =
    .ok all) : Gathers found (· ∈ paths) all := by
  induction paths generalizing found with
  | nil =>
    cases h
    exact .nothing (by simp)
  | cons path rest ih =>
    rw [List.foldlM_cons] at h
    obtain ⟨mid, hm, h⟩ := Host.bind_eq_ok.1 h
    exact ((gathers_insertPath hm).trans (ih h)).congr fun p => List.mem_cons.symm

/-- A path that an expression announces. -/
def Announces (e : Value) (path : List Value) : Prop :=
  ∃ paths, e.relationshipPaths = .ok paths ∧ path ∈ paths

theorem gathers_relationshipPathsOfAll (h : relationshipPathsOfAll found args = .ok all) :
    Gathers found (fun p => ∃ arg ∈ args, arg.Announces p) all ∧
      ∀ arg ∈ args, ∃ new, arg.relationshipPaths = .ok new := by
  induction args generalizing found with
  | nil =>
    rw [relationshipPathsOfAll] at h
    cases h
    exact ⟨.nothing (by simp), by simp⟩
  | cons arg rest ih =>
    rw [relationshipPathsOfAll] at h
    obtain ⟨new, hnew, h⟩ := Host.bind_eq_ok.1 h
    obtain ⟨mid, hm, h⟩ := Host.bind_eq_ok.1 h
    obtain ⟨hg, hrest⟩ := ih h
    refine ⟨((gathers_foldlM hm).trans hg).congr fun p => ?_,
      List.forall_mem_cons.2 ⟨⟨new, hnew⟩, hrest⟩⟩
    simp [Announces, hnew]

/-- What is announced for an expression is what its node follows, and what is announced for its
    arguments. -/
theorem gathers_relationshipPaths (hn : e.node? = .ok (some n))
    (h : e.relationshipPaths = .ok paths) :
    Gathers [] (fun p => n.path? = some p ∨ ∃ arg ∈ n.arguments, arg.Announces p) paths ∧
      ∀ arg ∈ n.arguments, ∃ new, arg.relationshipPaths = .ok new := by
  rw [relationshipPaths] at h
  split at h
  case h_1 hm => cases hn.symm.trans hm
  case h_2 hm | h_3 hm =>
    cases hn.symm.trans hm
    cases h
    refine ⟨(Gathers.single _).congr fun p => ?_, by simp [Node.arguments]⟩
    simp [Node.path?, Node.arguments, eq_comm]
  case h_4 op args hm =>
    cases hn.symm.trans hm
    obtain ⟨hg, hargs⟩ := gathers_relationshipPathsOfAll h
    exact ⟨hg.congr (by simp [Node.path?, Node.arguments]), hargs⟩
  case h_5 found hrelated hexplicit hcall hm =>
    cases hn.symm.trans hm
    cases h
    cases n with
    | related => exact absurd rfl (hrelated _ _)
    | explicit => exact absurd rfl (hexplicit _ _)
    | call => exact absurd rfl (hcall _ _)
    | _ => exact ⟨.nothing (by simp [Node.path?, Node.arguments]), by simp [Node.arguments]⟩

/-! ### What is announced, and what occurs -/

theorem follows_iff (hn : e.node? = .ok (some n)) :
    Follows path e ↔ n.path? = some path ∨ ∃ arg ∈ n.arguments, Follows path arg :=
  exists_part_iff hn

/-- Nothing is announced for what is no node. -/
theorem eq_nil_or_exists_node (h : e.relationshipPaths = .ok paths) :
    paths = [] ∨ ∃ n, e.node? = .ok (some n) := by
  rw [relationshipPaths] at h
  split at h
  case h_1 => cases h
  case h_2 hn | h_3 hn | h_4 hn => exact .inr ⟨_, hn⟩
  case h_5 =>
    cases h
    exact .inl rfl

/-- A path that is announced occurs. -/
theorem follows_of_announces (e : Value) (h : e.Announces path) : Follows path e := by
  obtain ⟨paths, hp, hm⟩ := h
  rcases eq_nil_or_exists_node hp with rfl | ⟨n, hn⟩
  · cases hm
  rcases (gathers_relationshipPaths hn hp).1.origin path hm with hnil | hpath | ⟨arg, ha, harg⟩
  · cases hnil
  · exact (follows_iff hn).2 (.inl hpath)
  · have := sizeOf_lt_of_arguments hn ha
    exact (follows_iff hn).2 (.inr ⟨arg, ha, follows_of_announces arg harg⟩)
  termination_by sizeOf e

/-- A path that occurs is covered by one that is announced, although many may be left out on the
    way: keys that are one key with others stand for what these stand for. -/
theorem exists_covers (e : Value) {paths : List (List Value)}
    (h : e.relationshipPaths = .ok paths) (hk : ∀ q ∈ paths, ∀ step ∈ q, step.IsKey)
    (hf : Follows p e) : ∃ q ∈ paths, Covers q p := by
  obtain ⟨n, hn⟩ : ∃ n, e.node? = .ok (some n) := by
    obtain ⟨part, m, hp, hm, -⟩ := hf
    rcases hp with _ | ⟨hn, -, -⟩
    exacts [⟨m, hm⟩, ⟨_, hn⟩]
  obtain ⟨hg, hargs⟩ := gathers_relationshipPaths hn h
  rcases (follows_iff hn).1 hf with hpath | ⟨arg, ha, hf⟩
  · exact hg.covered p (.inl hpath)
  obtain ⟨new, hnew⟩ := hargs arg ha
  have hcovers : ∀ p' ∈ new, ∃ q ∈ paths, Covers q p' := fun p' hp' =>
    hg.covered p' (.inr ⟨arg, ha, new, hnew, hp'⟩)
  have := sizeOf_lt_of_arguments hn ha
  obtain ⟨p', hp', hc'⟩ := exists_covers arg hnew (fun p' hp' => by
    obtain ⟨q, hq, hc⟩ := hcovers p' hp'
    exact hc.isKey (hk q hq)) hf
  obtain ⟨q, hq, hc⟩ := hcovers p' hp'
  exact ⟨q, hq, hc.trans hc' (hk q hq)⟩
  termination_by sizeOf e

end Value

namespace Registry

open Value Evaluation

/-- An evaluation ends at a relationship only if it does so on the path of a part. -/
theorem avoids_evaluate (r : Registry) (e : Value) {record : Value}
    (h : ∀ path, Follows path e → (record.follow path).Avoids EvalError.IsDeadEnd) :
    (r.evaluate e record).Avoids EvalError.IsDeadEnd := by
  have hP := EvalError.IsDeadEnd.isPreliminary
  rw [evaluate]
  split
  case h_1 f _ => exact avoids_lift (.error f)
  case h_2 => exact avoids_throw (by simp [EvalError.IsDeadEnd])
  case h_3 => exact avoids_pure _
  case h_4 => exact avoids_pure _
  case h_5 name _ => exact avoids_readField hP record name
  case h_6 path last hn =>
    exact (h path ⟨e, _, .self, hn, rfl⟩).bind fun c => avoids_readField hP c last
  case h_7 relationship last hn =>
    exact (h [relationship] ⟨e, _, .self, hn, rfl⟩).bind fun c => avoids_readField hP c last
  case h_8 => exact avoids_captured hP _
  case h_9 op args hn =>
    refine avoids_evaluateCall hP (by simp [EvalError.IsDeadEnd]) fun arg ha => ?_
    have := sizeOf_lt_of_arguments hn ha
    exact avoids_evaluate r arg fun path hf => h path ((follows_iff hn).2 (.inr ⟨arg, ha, hf⟩))
  termination_by sizeOf e

/-- What is announced is enough: if all announced paths can be walked from a record, no
    evaluation against it ends at a relationship. And it is not too much: no path is announced
    twice, and each one occurs in the expression.

    A step that a mapping could be asked for has to be a key, which texts and all other names are
    that do not belong to something that could change. -/
theorem evaluate_of_walks {e : Value} {paths : List (List Value)}
    (h : e.relationshipPaths = .ok paths) :
    (∀ (r : Registry) (record : Value), (∀ path ∈ paths, Walks record path) →
      (∀ path ∈ paths, ∀ step ∈ path, step.isHashable = true → step.IsKey) → ∀ name,
        (r.evaluate e record).run ≠ .ok (.error (.relationshipNotFound name)) ∧
        (r.evaluate e record).run ≠ .ok (.error (.invalidRelationship name))) ∧
    paths.Pairwise (fun p q => equals (.list p) (.list q) = .ok false) ∧
    ∀ path ∈ paths, Follows path e := by
  refine ⟨fun r record hw hk name => ?_, ?_, fun path hp => follows_of_announces e ⟨paths, h, hp⟩⟩
  · have hkeys : ∀ path ∈ paths, ∀ step ∈ path, step.IsKey := fun path hp =>
      (hw path hp).isKey (hk path hp)
    have havoids := avoids_evaluate r e fun path hf => by
      obtain ⟨q, hq, hc⟩ := exists_covers e h hkeys hf
      exact (hw q hq).avoids_follow (hkeys q hq) hc
    exact ⟨havoids _ ⟨name, .inl rfl⟩, havoids _ ⟨name, .inr rfl⟩⟩
  · rcases eq_nil_or_exists_node h with rfl | ⟨n, hn⟩
    exacts [.nil, (gathers_relationshipPaths hn h).1.differ .nil]

/-- The name of a customer and the address, which takes two relationships and two fields. -/
def label : Value :=
  .call (.str "concat") [.tuple [.str "customer", .str "name"],
    .tuple [.str "field", .str "customer", .str "address", .str "street"],
    .tuple [.str "field", .str "customer", .str "address", .str "city"]]

/-- An order of a customer with an address that names no city. -/
def addressed : Value :=
  .dict [(.str "customer", .dict [(.str "name", .str "Ada"),
    (.str "address", .dict [(.str "street", .str "High Street")])])]

/-- A label asks for a customer and an address, and walks both paths. It ends at a field that is
    missing after them, and not at a relationship. -/
theorem evaluate_of_walks_label :
    label.relationshipPaths = .ok [[.str "customer"], [.str "customer", .str "address"]] ∧
    Walks addressed [.str "customer", .str "address"] ∧
    (Registry.builtins.evaluate label addressed).run = .ok (.error (.fieldNotFound (.str "city"))) ∧
    ∀ name, (Registry.builtins.evaluate label addressed).run ≠
      .ok (.error (.relationshipNotFound name)) := by
  have h : label.relationshipPaths =
      .ok [[.str "customer"], [.str "customer", .str "address"]] := by cbv
  have hc : Walks addressed [.str "customer"] := .cons rfl rfl (.nil _)
  have ha : Walks addressed [.str "customer", .str "address"] :=
    .cons rfl rfl (.cons rfl rfl (.nil _))
  refine ⟨h, ha, by cbv, fun name => ?_⟩
  refine ((evaluate_of_walks h).1 .builtins addressed (by simp [hc, ha]) ?_ name).1
  intro path hp step hs _
  have hstep : step = .str "customer" ∨ step = .str "address" := by
    rcases List.mem_pair.1 hp with rfl | rfl <;> simp_all
  rcases hstep with rfl | rfl
  exacts [.str _, .str _]

end Registry

end ControlBreak
