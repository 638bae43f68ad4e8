import ControlBreak.Proofs.Formula.Precedence
import ControlBreak.Proofs.Host
import Mathlib

/-!
# Formulas and their trees

The formulas are exactly the sequences of tokens that have a tree which the table of
precedence admits, and what a formula stands for is read off this tree.

* `isRead_of_obeys`: the tokens of such a tree leave it on the stack, by induction on
  the tree;
* `step_keeps`: whatever tokens the machine reads, it has made trees of just these, all
  of them such trees;
* `parse_eq_ok_iff_derives`: so a formula has one such tree, and all else is an error of
  syntax.
-/

namespace ControlBreak

namespace Formula

namespace Lexeme

variable {l : Lexeme}

theorem binary?_lexeme (op : BinaryOp) : op.lexeme.binary? = some op := by
  cases op <;> rfl

theorem eq_of_binary? {op : BinaryOp} (h : l.binary? = some op) : l = op.lexeme := by
  revert h
  rw [binary?.eq_def]
  split <;> rintro ⟨⟩ <;> rfl

theorem constant?_lexeme (c : Constant) : c.lexeme.constant? = some c := by
  cases c with
  | truth holds spelling => cases holds <;> rfl
  | _ => rfl

theorem eq_of_constant? {c : Constant} (h : l.constant? = some c) : l = c.lexeme := by
  revert h
  rw [constant?.eq_def]
  split <;> rintro ⟨⟩ <;> rfl

end Lexeme

/-- What comes after an operand. -/
def Tree.phase : Tree → Phase
  | .field name => .named name
  | .path first between last => .path first between last
  | t => .value t

/-- An operand by itself, which no operator outside of it can extend or complete. -/
structure Tree.IsOperand (t : Tree) : Prop where
  obeys : t.Obeys
  begins : t.begins = []
  ends : t.ends = []

theorem Tree.IsOperand.fits {t : Tree} {stack : List Frame} (h : t.IsOperand)
    (hs : StackObeys stack) (binding : Binding) : Fits binding stack t :=
  ⟨hs, h.obeys, by simp [h.ends], h.begins ▸ admits_nil⟩

/-- The tokens that a phase was reached by. -/
def Phase.tokens : Phase → List Lexeme
  | .operand => []
  | .named name => [.name name]
  | .opened name => [.name name, .sign .openParen]
  | .dotted first between => .name first :: (pointed between ++ [.sign .dot])
  | .path first between last => .name first :: pointed (between ++ [last])
  | .value t => t.tokens

theorem Tree.tokensRest_cons (arg : Tree) (rest : List Tree) :
    tokensRest (arg :: rest) = .sign .comma :: tokensAll (arg :: rest) := rfl

/-- An argument comes after those before it, each of them with a comma. -/
theorem Tree.tokensAll_append_singleton (args : List Tree) (t : Tree) :
    tokensAll (args ++ [t]) =
      (args.flatMap fun arg => arg.tokens ++ [.sign .comma]) ++ t.tokens := by
  induction args with
  | nil => simp [tokensAll, tokensRest]
  | cons arg rest ih =>
    obtain ⟨next, others, hn⟩ := List.exists_cons_of_ne_nil (List.append_ne_nil_of_right_ne_nil rest
      (List.cons_ne_nil t []))
    rw [List.cons_append, tokensAll, hn, tokensRest_cons, ← hn, ih, List.flatMap_cons]
    simp

namespace Reading

/-- The reading after more tokens, if a formula goes on with them. -/
def read (r : Reading) (tokens : List Lexeme) : Option Reading :=
  tokens.foldlM step r

variable {stack : List Frame} {r r' : Reading} {t : Tree} {l : Lexeme}

theorem read_cons (r : Reading) (l : Lexeme) (rest : List Lexeme) :
    r.read (l :: rest) = (r.step l).bind (·.read rest) := rfl

theorem read_append (r : Reading) (tokens rest : List Lexeme) :
    r.read (tokens ++ rest) = (r.read tokens).bind (·.read rest) := by
  rw [read, List.foldlM_append]
  rfl

theorem read_singleton (r : Reading) (l : Lexeme) : r.read [l] = r.step l := by
  rw [read_cons]
  cases r.step l <;> rfl

/-! ### Trees are read -/

theorem step_phase (hd : l ≠ .sign .dot) (ho : l ≠ .sign .openParen) :
    step ⟨stack, t.phase⟩ l = afterOperand stack t l := by
  cases t with
  | field name => simp [step, Tree.phase]
  | path first between last => simp [step, Tree.phase]
  | _ => rfl

theorem afterOperand_binary (op : BinaryOp) : afterOperand stack t op.lexeme =
    (settle op.binding stack t).map fun (stack, t) => ⟨.operator op t :: stack, .operand⟩ := by
  rw [afterOperand.eq_def, Lexeme.binary?_lexeme]

/-- An operator completes its left operand. -/
theorem step_binary {op : BinaryOp} (h : ∀ b ∈ t.ends, b.Completes op.binding)
    (ha : Admits stack [op.binding]) :
    step ⟨t.spine ++ stack, t.last.phase⟩ op.lexeme = some ⟨.operator op t :: stack, .operand⟩ := by
  have hd : op.lexeme ≠ .sign .dot := by cases op <;> simp [BinaryOp.lexeme]
  have ho : op.lexeme ≠ .sign .openParen := by cases op <;> simp [BinaryOp.lexeme]
  rw [step_phase hd ho, afterOperand_binary, settle_spine h, settle_of_admits ha]
  rfl

/-- The end of what stands in parentheses completes all of it. -/
theorem settle_closing (ha : Admits stack [.closing]) :
    settle .closing (t.spine ++ stack) t.last = some (stack, t) := by
  have hc : ∀ b ∈ t.ends, b.Completes .closing := fun b hb => .inl (t.level_pos_of_mem_ends hb)
  rw [settle_spine hc, settle_of_admits ha]

theorem step_group : step ⟨t.spine ++ .group :: stack, t.last.phase⟩ (.sign .closeParen) =
    some ⟨stack, .value (.group t)⟩ := by
  rw [step_phase (by simp) (by simp), afterOperand.eq_def]
  simp only [Lexeme.binary?, settle_closing (admits_group _)]

theorem step_comma {name : String} {args : List Tree} :
    step ⟨t.spine ++ .call name args :: stack, t.last.phase⟩ (.sign .comma) =
      some ⟨.call name (args ++ [t]) :: stack, .operand⟩ := by
  rw [step_phase (by simp) (by simp), afterOperand.eq_def]
  simp only [Lexeme.binary?, settle_closing (admits_call _ _ _)]

theorem step_call {name : String} {args : List Tree} :
    step ⟨t.spine ++ .call name args :: stack, t.last.phase⟩ (.sign .closeParen) =
      some ⟨stack, .value (.call name (args ++ [t]))⟩ := by
  rw [step_phase (by simp) (by simp), afterOperand.eq_def]
  simp only [Lexeme.binary?, settle_closing (admits_call _ _ _)]

/-- A tree is read: its tokens leave it on the stack. -/
def IsRead (t : Tree) : Prop :=
  ∀ stack, Admits stack t.begins →
    read ⟨stack, .operand⟩ t.tokens = some ⟨t.spine ++ stack, t.last.phase⟩

theorem read_path (first : String) (between : List String) (last : String) :
    read ⟨stack, .named first⟩ (pointed (between ++ [last])) =
      some ⟨stack, .path first between last⟩ := by
  induction between using List.reverseRecOn generalizing last with
  | nil => rfl
  | append_singleton between middle ih =>
    rw [pointed, List.flatMap_append, ← pointed, read_append, ih]
    rfl

/-- The arguments of a call are read, those that came before being on the stack. -/
theorem read_args {name : String} {arg : Tree} {done rest : List Tree}
    (h : ∀ t ∈ arg :: rest, IsRead t) : read ⟨.call name done :: stack, .operand⟩
      (arg.tokens ++ (Tree.tokensRest rest ++ [.sign .closeParen])) =
        some ⟨stack, .value (.call name (done ++ arg :: rest))⟩ := by
  induction rest generalizing arg done with
  | nil =>
    rw [read_append, h arg (List.mem_singleton_self _) _ (admits_call _ _ _)]
    exact (read_singleton _ _).trans step_call
  | cons next rest ih =>
    obtain ⟨harg, hrest⟩ := List.forall_mem_cons.1 h
    rw [read_append, harg _ (admits_call _ _ _), Option.bind_some,
      Tree.tokensRest, List.cons_append, List.cons_append, read_cons, step_comma, Option.bind_some,
      List.append_assoc, ih hrest]
    simp

/-- The first token of a formula does not close a parenthesis. -/
theorem exists_tokens_eq_cons : ∀ t : Tree, ∃ l rest, t.tokens = l :: rest ∧ l ≠ .sign .closeParen
  | .constant c => ⟨c.lexeme, [], rfl, by
    cases c with
    | truth holds spelling => cases holds <;> simp [Constant.lexeme]
    | _ => simp [Constant.lexeme]⟩
  | .field _ => ⟨_, _, rfl, by simp⟩
  | .path .. => ⟨_, _, rfl, by simp⟩
  | .call .. => ⟨_, _, rfl, by simp⟩
  | .group _ => ⟨_, _, rfl, by simp⟩
  | .negation _ => ⟨_, _, rfl, by simp⟩
  | .not .. => ⟨_, _, rfl, by simp⟩
  | .binary op left right => by
    obtain ⟨l, rest, ht, hl⟩ := exists_tokens_eq_cons left
    exact ⟨l, rest ++ op.lexeme :: right.tokens, by rw [Tree.tokens, ht, List.cons_append], hl⟩

/-- The first argument of a call is read as if the call waited for it. -/
theorem read_opened {name : String} (t : Tree) (rest : List Lexeme) :
    read ⟨stack, .opened name⟩ (t.tokens ++ rest) =
      read ⟨.call name [] :: stack, .operand⟩ (t.tokens ++ rest) := by
  obtain ⟨l, tokens, ht, hl⟩ := exists_tokens_eq_cons t
  have hstep : step ⟨stack, .opened name⟩ l = step ⟨.call name [] :: stack, .operand⟩ l := by
    simp [step]
  rw [ht, List.cons_append, read_cons, read_cons, hstep]

/-- All trees that the table of precedence admits are read. -/
theorem isRead_of_obeys : ∀ t : Tree, t.Obeys → IsRead t
  | .constant c, _, stack, _ => by
    rw [Tree.tokens, read_singleton]
    change beginOperand stack c.lexeme = _
    rw [beginOperand.eq_def, Lexeme.constant?_lexeme]
    rfl
  | .field name, _, stack, _ => rfl
  | .path first between last, _, stack, _ => read_path first between last
  | .call name [], _, stack, _ => rfl
  | .call name (arg :: rest), h, stack, _ => by
    -- An open parenthesis ends what the operators in the arguments are compared with.
    have hread : ∀ t ∈ arg :: rest, IsRead t := fun t ht =>
      isRead_of_obeys t (Tree.obeysAll_iff.1 h t ht)
    rw [Tree.tokens, Tree.tokensAll, List.append_assoc]
    exact (read_opened arg _).trans (read_args hread)
  | .group inner, h, stack, _ => by
    rw [Tree.tokens, read_cons]
    change (read ⟨.group :: stack, .operand⟩ (inner.tokens ++ [.sign .closeParen])) = _
    rw [read_append, isRead_of_obeys inner h _ (admits_group _), Option.bind_some, read_singleton,
      step_group]
    rfl
  | .negation operand, ⟨h, hb⟩, stack, _ => by
    have hread := isRead_of_obeys operand h (.negation :: stack)
      (admits_cons.2 fun _ hr => by cases hr; exact hb)
    rw [Tree.tokens, read_cons]
    refine hread.trans ?_
    rw [Tree.spine, List.append_assoc]
    rfl
  | .not spelling operand, ⟨h, hb⟩, stack, _ => by
    have hread := isRead_of_obeys operand h (.not spelling :: stack)
      (admits_cons.2 fun _ hr => by cases hr; exact hb)
    rw [Tree.tokens, read_cons]
    refine hread.trans ?_
    rw [Tree.spine, List.append_assoc]
    rfl
  | .binary op left right, ⟨⟨hl, he⟩, hr, hb⟩, stack, ha => by
    -- The operator starts where its left operand starts, so the stack admits it too.
    have hop : Admits stack [op.binding] := ha.subset (by simp [Tree.begins])
    have hleft := isRead_of_obeys left hl stack (ha.subset (List.subset_cons_self _ _))
    have hright := isRead_of_obeys right hr (.operator op left :: stack)
      (admits_cons.2 fun _ hr => by cases hr; exact hb)
    rw [Tree.tokens, read_append, hleft, Option.bind_some, read_cons, step_binary he hop,
      Option.bind_some, hright, Tree.spine, List.append_assoc]
    rfl
  termination_by t => sizeOf t

theorem operand?_phase : operand? ⟨stack, t.phase⟩ = some t := by
  cases t <;> rfl

/-- The machine ends with the tree whose tokens it reads. -/
theorem finish_of_obeys (h : t.Obeys) : ∃ r, start.read t.tokens = some r ∧ r.finish = some t := by
  refine ⟨⟨t.spine ++ [], t.last.phase⟩, isRead_of_obeys t h [] (admits_empty _), ?_⟩
  rw [finish, operand?_phase, Option.bind_some, settle_closing (admits_empty _)]

/-! ### What is read has trees -/

/-- A reading holds the tokens that were read, in trees that the table of precedence
    admits. -/
structure Keeps (r : Reading) (tokens : List Lexeme) : Prop where
  frames : StackObeys r.stack
  operand : ∀ t, r.operand? = some t → t.IsOperand
  tokens : stackTokens r.stack ++ r.phase.tokens = tokens

theorem Keeps.of_none {tokens : List Lexeme} (hs : StackObeys r.stack) (ho : r.operand? = none)
    (ht : stackTokens r.stack ++ r.phase.tokens = tokens) : r.Keeps tokens := by
  refine ⟨hs, fun t h => ?_, ht⟩
  rw [ho] at h
  cases h

theorem stackTokens_push (f : Frame) :
    stackTokens (f :: stack) ++ Phase.tokens .operand = stackTokens stack ++ f.tokens := by
  rw [stackTokens_cons, Phase.tokens, List.append_nil]

theorem tokens_of_operand? (h : r.operand? = some t) : r.phase.tokens = t.tokens := by
  rw [operand?] at h
  split at h <;> cases h <;> simp [*, Phase.tokens, Tree.tokens]

theorem beginOperand_keeps (hs : StackObeys stack) (h : beginOperand stack l = some r) :
    r.Keeps (stackTokens stack ++ [l]) := by
  rw [beginOperand.eq_def] at h
  split at h
  · rename_i c hc
    cases h
    refine ⟨hs, fun t ht => ?_, ?_⟩
    · cases ht
      exact ⟨trivial, rfl, rfl⟩
    · rw [Lexeme.eq_of_constant? hc]
      rfl
  · cases h
    refine ⟨hs, fun t ht => ?_, rfl⟩
    cases ht
    exact ⟨trivial, rfl, rfl⟩
  · cases h
    exact .of_none hs rfl (stackTokens_push _)
  · cases h
    exact .of_none hs rfl (stackTokens_push _)
  · cases h
    exact .of_none hs rfl (stackTokens_push _)
  · cases h

theorem afterOperand_keeps (hs : StackObeys stack) (ht : t.IsOperand)
    (h : afterOperand stack t l = some r) :
    r.Keeps (stackTokens stack ++ t.tokens ++ [l]) := by
  rw [afterOperand.eq_def] at h
  split at h
  · rename_i op hop
    obtain ⟨⟨stack', t'⟩, hsettle, h⟩ := Option.map_eq_some_iff.1 h
    cases h
    have hn : op.binding ≠ .not := by cases op <;> simp [BinaryOp.binding]
    have hm : op.binding ≠ .negation := by cases op <;> simp [BinaryOp.binding]
    obtain ⟨hfit, hadmits, htokens⟩ := settle_fits hn hm (ht.fits hs _) hsettle
    refine .of_none ⟨⟨hfit.tree, hfit.ends⟩, hadmits.cons hfit.begins, hfit.frames⟩ rfl ?_
    rw [stackTokens_push, Frame.tokens, ← List.append_assoc, htokens, ← Lexeme.eq_of_binary? hop]
  · have hclosing {stack' t'} (hsettle : settle .closing stack t = some (stack', t')) :=
      settle_fits (by decide) (by decide) (ht.fits hs .closing) hsettle
    split at h
    · rename_i hsettle _
      cases h
      obtain ⟨hfit, -, htokens⟩ := hclosing hsettle
      refine .of_none ⟨List.forall_mem_append.2 ⟨hfit.frames.1, by simpa using hfit.tree⟩,
        hfit.frames.2⟩ rfl ?_
      rw [← htokens, stackTokens_push, stackTokens_cons]
      simp [Frame.tokens]
    · rename_i hsettle _
      cases h
      obtain ⟨hfit, -, htokens⟩ := hclosing hsettle
      refine ⟨hfit.frames.2, fun t ht => ?_, ?_⟩
      · cases ht
        exact ⟨Tree.obeysAll_iff.2 (List.forall_mem_append.2
          ⟨hfit.frames.1, by simpa using hfit.tree⟩), rfl, rfl⟩
      · rw [← htokens, stackTokens_cons]
        simp [Frame.tokens, Phase.tokens, Tree.tokens, Tree.tokensAll_append_singleton]
    · rename_i hsettle _
      cases h
      obtain ⟨hfit, -, htokens⟩ := hclosing hsettle
      refine ⟨hfit.frames, fun t ht => ?_, ?_⟩
      · cases ht
        exact ⟨hfit.tree, rfl, rfl⟩
      · rw [← htokens, stackTokens_cons]
        simp [Frame.tokens, Phase.tokens, Tree.tokens]
    · cases h

/-- A reading goes on to hold what is read. -/
theorem step_keeps {tokens : List Lexeme} (hk : r.Keeps tokens) (h : r.step l = some r') :
    r'.Keeps (tokens ++ [l]) := by
  obtain ⟨stack, phase⟩ := r
  have hafter : ∀ t, operand? ⟨stack, phase⟩ = some t → afterOperand stack t l = some r' →
      r'.Keeps (tokens ++ [l]) := fun t ht h => by
    rw [← hk.tokens, tokens_of_operand? ht]
    exact afterOperand_keeps hk.frames (hk.operand t ht) h
  have hother : ∀ phase', (∀ t, operand? ⟨stack, phase'⟩ = some t → t.IsOperand) →
      phase'.tokens = phase.tokens ++ [l] → Keeps ⟨stack, phase'⟩ (tokens ++ [l]) :=
    fun phase' ho ht => ⟨hk.frames, ho, by rw [ht, ← List.append_assoc, hk.tokens]⟩
  cases phase with
  | operand =>
    have htokens := hk.tokens
    rw [Phase.tokens, List.append_nil] at htokens
    rw [← htokens]
    exact beginOperand_keeps hk.frames h
  | named name =>
    by_cases hd : l = .sign .dot
    · subst hd
      cases h
      exact hother (.dotted name []) (fun _ ht => by cases ht) rfl
    by_cases ho : l = .sign .openParen
    · subst ho
      cases h
      exact hother (.opened name) (fun _ ht => by cases ht) rfl
    · have hstep : step ⟨stack, .named name⟩ l = afterOperand stack (.field name) l := by
        simp [step]
      exact hafter (.field name) rfl (hstep ▸ h)
  | opened name =>
    -- Only here may a parenthesis close without an operand before it.
    by_cases hc : l = .sign .closeParen
    · subst hc
      cases h
      exact hother (.value (.call name [])) (fun _ ht => by cases ht; exact ⟨trivial, rfl, rfl⟩) rfl
    · have hstep : step ⟨stack, .opened name⟩ l = beginOperand (.call name [] :: stack) l := by
        simp [step]
      have htokens : stackTokens (.call name [] :: stack) = tokens := by
        rw [stackTokens_cons, ← hk.tokens]
        rfl
      rw [← htokens]
      exact beginOperand_keeps ⟨by simp, hk.frames⟩ (hstep ▸ h)
  | dotted first between =>
    cases l with
    | name s =>
      cases h
      exact hother (.path first between s) (fun _ ht => by cases ht; exact ⟨trivial, rfl, rfl⟩)
        (by simp [Phase.tokens, pointed])
    | _ => cases h
  | path first between last =>
    by_cases hd : l = .sign .dot
    · subst hd
      cases h
      exact hother (.dotted first (between ++ [last])) (fun _ ht => by cases ht) rfl
    · have hstep : step ⟨stack, .path first between last⟩ l =
          afterOperand stack (.path first between last) l := by
        simp [step]
      exact hafter (.path first between last) rfl (hstep ▸ h)
  | value t => exact hafter t rfl h

theorem read_keeps {tokens rest : List Lexeme} (hk : r.Keeps tokens) (h : r.read rest = some r') :
    r'.Keeps (tokens ++ rest) := by
  induction rest generalizing r tokens with
  | nil =>
    cases h
    rwa [List.append_nil]
  | cons l rest ih =>
    rw [read_cons] at h
    obtain ⟨next, hs, h⟩ := Option.bind_eq_some_iff.1 h
    simpa using ih (step_keeps hk hs) h

/-- What the machine ends with is a tree for what it has read. -/
theorem obeys_of_finish {tokens : List Lexeme} (hk : r.Keeps tokens) (h : r.finish = some t) :
    t.Obeys ∧ t.tokens = tokens := by
  rw [finish] at h
  split at h
  · rename_i t' hs
    cases h
    obtain ⟨operand, ho, hs⟩ := Option.bind_eq_some_iff.1 hs
    have hfits : Fits .closing r.stack operand := (hk.operand operand ho).fits hk.frames _
    obtain ⟨hfit, -, htokens⟩ := settle_fits (by decide) (by decide) hfits hs
    refine ⟨hfit.tree, ?_⟩
    rw [← hk.tokens, tokens_of_operand? ho, ← htokens]
    rfl
  · cases h

end Reading

/-! ### Formulas -/

/-- A tree derives tokens: they are its own, and the table of precedence admits it. -/
def Tree.Derives (t : Tree) (tokens : List Lexeme) : Prop :=
  t.tokens = tokens ∧ t.Obeys

/-- The machine ends with the trees that derive what it reads. -/
theorem finish_eq_some_iff {tokens : List Lexeme} {t : Tree} :
    (∃ r, Reading.start.read tokens = some r ∧ r.finish = some t) ↔ t.Derives tokens := by
  constructor
  · rintro ⟨r, hr, hf⟩
    have hstart : Reading.start.Keeps [] := .of_none trivial rfl rfl
    obtain ⟨ho, ht⟩ := Reading.obeys_of_finish (Reading.read_keeps hstart hr) hf
    exact ⟨ht, ho⟩
  · rintro ⟨rfl, ho⟩
    exact Reading.finish_of_obeys ho

theorem Tree.Derives.unique {tokens : List Lexeme} {t t' : Tree} (h : t.Derives tokens)
    (h' : t'.Derives tokens) : t = t' := by
  obtain ⟨r, hr, hf⟩ := finish_eq_some_iff.2 h
  obtain ⟨r', hr', hf'⟩ := finish_eq_some_iff.2 h'
  cases hr.symm.trans hr'
  exact Option.some.inj (hf.symm.trans hf')

theorem readTokens_eq_ok {r r' : Reading} {ts : List Token} :
    readTokens r ts = .ok r' ↔ r.read (ts.map (·.lexeme)) = some r' := by
  induction ts generalizing r with
  | nil => simp [readTokens, Reading.read, pure]
  | cons t rest ih =>
    rw [readTokens, List.map_cons, Reading.read_cons]
    cases r.step t.lexeme with
    | none => simp
    | some next => exact ih

/-- The machine stops at a token only. -/
theorem readTokens_eq_error {r : Reading} {ts : List Token} {e : ParseError}
    (h : readTokens r ts = .error e) : ∃ t, e = .unexpected t := by
  induction ts generalizing r with
  | nil => cases h
  | cons t rest ih =>
    rw [readTokens] at h
    split at h
    · exact ih h
    · cases h
      exact ⟨t, rfl⟩

/-- A text that is not blank is read up to the first token with which no formula goes on, and
    only if there is none does the end of its tokens count. -/
theorem parse_of_tokens {text : String} {ts : List Token} {ending : Ending}
    (hb : allBlank text = false) (ht : tokens text = (ts, ending)) : parse text =
      readTokens .start ts >>= fun r => (ParseError.ofEnding? ending).elim
        (r.finish.elim (.error .unexpectedEnd) (.ok ·.value)) .error := by
  rw [parse, if_neg (by simp [hb]), ht]
  cases he : ParseError.ofEnding? ending <;> simp only [he, Option.elim_none, Option.elim_some]

theorem parse_of_tokenize {text : String} {ts : List Token} (hb : allBlank text = false)
    (hl : tokenize text = .ok ts) : parse text =
      readTokens .start ts >>= fun r => r.finish.elim (.error .unexpectedEnd) (.ok ·.value) := by
  rw [tokenize] at hl
  split at hl
  rename_i ts' ending ht
  rw [parse, if_neg (by simp [hb]), ht]
  split at hl
  · rename_i he
    cases hl
    simp only [he]
  · cases hl

/-- A tree that derives the tokens of a text makes it a formula. -/
theorem parse_of_derives {text : String} {ts : List Token} {t : Tree}
    (hb : allBlank text = false) (hl : tokenize text = .ok ts)
    (ht : t.Derives (ts.map (·.lexeme))) : parse text = .ok t.value := by
  obtain ⟨r, hr, hf⟩ := finish_eq_some_iff.2 ht
  rw [parse_of_tokenize hb hl, readTokens_eq_ok.2 hr]
  change r.finish.elim _ _ = _
  rw [hf]
  rfl

/-- A text that is not blank and has tokens is a formula if and only if some tree derives
    its tokens. Then there is one such tree only, and the formula stands for what this
    tree does; all else is an error of syntax. -/
theorem parse_eq_ok_iff_derives {text : String} {ts : List Token} (hb : allBlank text = false)
    (hl : tokenize text = .ok ts) :
    (∀ v, parse text = .ok v ↔ ∃ t : Tree, t.Derives (ts.map (·.lexeme)) ∧ t.value = v) ∧
      (∀ t t' : Tree, t.Derives (ts.map (·.lexeme)) → t'.Derives (ts.map (·.lexeme)) → t = t') ∧
      ((¬∃ t : Tree, t.Derives (ts.map (·.lexeme))) →
        ∃ e message, parse text = .error e ∧ e.toFault = .raised "SyntaxError" [.str message]) := by
  have hp := parse_of_tokenize hb hl
  refine ⟨fun v => ?_, fun t t' h h' => h.unique h', fun hn => ?_⟩
  · rw [hp, Host.bind_eq_ok]
    constructor
    · rintro ⟨r, hr, h⟩
      cases hf : r.finish with
      | none =>
        rw [hf] at h
        cases h
      | some t =>
        rw [hf] at h
        cases h
        exact ⟨t, finish_eq_some_iff.1 ⟨r, readTokens_eq_ok.1 hr, hf⟩, rfl⟩
    · rintro ⟨t, ht, rfl⟩
      obtain ⟨r, hr, hf⟩ := finish_eq_some_iff.2 ht
      exact ⟨r, readTokens_eq_ok.2 hr, by rw [hf]; rfl⟩
  · cases hr : readTokens .start ts with
    | ok r =>
      have hf : r.finish = none := Option.eq_none_iff_forall_ne_some.2 fun t hf =>
        hn ⟨t, finish_eq_some_iff.1 ⟨r, readTokens_eq_ok.1 hr, hf⟩⟩
      refine ⟨.unexpectedEnd, _, ?_, rfl⟩
      rw [hp, hr]
      change r.finish.elim (Except.error ParseError.unexpectedEnd) _ = _
      rw [hf]
      rfl
    | error e =>
      obtain ⟨t, rfl⟩ := readTokens_eq_error hr
      rw [hr] at hp
      exact ⟨_, _, hp, rfl⟩

/-- A product whose right operand is a `not`, which takes the sum that follows. -/
def productOfNot : Tree :=
  .binary .star (.field "a") (.not "not" (.binary .plus (.field "b") (.field "c")))

theorem parse_product_of_not : ∃ ts, tokenize "a * not b + c" = .ok ts ∧
    allBlank "a * not b + c" = false ∧ productOfNot.Derives (ts.map (·.lexeme)) ∧
    parse "a * not b + c" = .ok (.call (.str "*") [.fieldRef (.str "a"),
      .call (.str "not") [.call (.str "+") [.fieldRef (.str "b"), .fieldRef (.str "c")]]]) ∧
    ∀ t : Tree, t.Derives (ts.map (·.lexeme)) → t = productOfNot := by
  obtain ⟨ts, hl, ht⟩ : ∃ ts, tokenize "a * not b + c" = .ok ts ∧
      productOfNot.tokens = ts.map (·.lexeme) := ⟨_, by cbv, by cbv⟩
  have hb : allBlank "a * not b + c" = false := by cbv
  have ho : productOfNot.Obeys := by decide
  obtain ⟨hparse, hunique, -⟩ := parse_eq_ok_iff_derives hb hl
  exact ⟨ts, hl, hb, ⟨ht, ho⟩, (hparse _).2 ⟨productOfNot, ⟨ht, ho⟩, rfl⟩,
    fun t h => hunique t productOfNot h ⟨ht, ho⟩⟩

end Formula

end ControlBreak
