import Mathlib
import PipeTable.Expr.Literal
import PipeTable.Proofs.Tokens

/-! # The syntax of a written value

The tokens of a plain value's literal are read as the term that stands for the value.  Each rule of
the grammar has a lemma: it takes the lexemes of a value as the rule for its operands does, since
none of its own marks or keywords is there.
-/

namespace PipeTable.Expr

open Rule (here mark? keyword? peek skip size)

/-! ## Terms of plain values -/

mutual

/-- The term that a plain value's literal is read as. -/
def termOf : Value → Term
  | .int n =>
    if n < 0 then .unary .minus (.constant (.int n.natAbs)) else .constant (.int n.natAbs)
  | .tuple items => .tuple (termsOf items)
  | v => .constant v

/-- The terms that literals are read as. -/
def termsOf : List Value → List Term
  | [] => []
  | v :: vs => termOf v :: termsOf vs

end

/-! ## Rules that take lexemes -/

/-- No operand goes on with what comes next: it is the end, a comma or a closing parenthesis. -/
def IsEnd (next : Option Lexeme) : Prop :=
  next = none ∨ next = some (.mark ",") ∨ next = some (.mark ")")

/-- The next lexeme. -/
def headOf (ts : List Token) : Option Lexeme := ts.head?.map Token.lexeme

/-- A rule takes exactly the given lexemes and has a result, if no operand goes on behind them. -/
def Takes {α : Type} (r : Rule α) (ls : List Lexeme) (a : α) : Prop :=
  ∀ ts rest last, ts.map Token.lexeme = ls → IsEnd (headOf rest) →
    ∃ last', r.run ⟨ts ++ rest, last⟩ = some (a, ⟨rest, last'⟩)

/-- The lexemes that names and the literals of plain values start with. -/
inductive Opens : Lexeme → Prop
  | name (id : String) : Opens (.name id)
  | number (v : Value) : Opens (.number v)
  | text (s : String) : Opens (.text s)
  | absent : Opens (.keyword "None")
  | parenthesis : Opens (.mark "(")
  | minus : Opens (.mark "-")

theorem exists_head?_lexemes (v : Value) :
    ∃ l, Opens l ∧ Rule.isName (some l) = false ∧ ∀ more, (lexemes v ++ more).head? = some l := by
  unfold lexemes
  split
  · split
    · exact ⟨_, .minus, rfl, fun _ => rfl⟩
    · exact ⟨_, .number _, rfl, fun _ => rfl⟩
  · exact ⟨_, .text _, rfl, fun _ => rfl⟩
  · exact ⟨_, .parenthesis, rfl, fun _ => rfl⟩
  · exact ⟨_, .parenthesis, rfl, fun _ => rfl⟩
  · exact ⟨_, .absent, rfl, fun _ => rfl⟩

theorem run_bind {α β : Type} {x : Rule α} {f : α → Rule β} {s s' : Rest} {a : α}
    (h : x.run s = some (a, s')) : (x >>= f).run s = (f a).run s' := by
  rw [StateT.run_bind, h]
  rfl

theorem run_peek (ts : List Token) (last : Nat) :
    peek.run ⟨ts, last⟩ = some (headOf ts, ⟨ts, last⟩) :=
  rfl

theorem run_peek_of_eq {l : Lexeme} (ts : List Token) (last : Nat) (h : headOf ts = some l) :
    peek.run ⟨ts, last⟩ = some (some l, ⟨ts, last⟩) := by
  rw [run_peek, h]

theorem run_size (ts : List Token) (last : Nat) :
    size.run ⟨ts, last⟩ = some (ts.length, ⟨ts, last⟩) :=
  rfl

theorem run_mark?_of_ne {symbol : String} {ts : List Token} (last : Nat)
    (h : Rule.isMark symbol (headOf ts) = false) :
    (mark? symbol).run ⟨ts, last⟩ = some (false, ⟨ts, last⟩) := by
  rw [mark?, run_bind (run_peek ts last), h]
  rfl

theorem run_mark?_of_eq {symbol : String} {t : Token} (ts : List Token) (last : Nat)
    (h : t.lexeme = .mark symbol) :
    (mark? symbol).run ⟨t :: ts, last⟩ = some (true, ⟨ts, t.stop⟩) := by
  have hmark : Rule.isMark symbol (headOf (t :: ts)) = true := by simp [headOf, Rule.isMark, h]
  rw [mark?, run_bind (run_peek _ last), hmark]
  rfl

theorem run_mark_of_eq {symbol : String} {t : Token} (ts : List Token) (last : Nat)
    (h : t.lexeme = .mark symbol) :
    (Rule.mark symbol).run ⟨t :: ts, last⟩ = some ((), ⟨ts, t.stop⟩) := by
  rw [Rule.mark, run_bind (run_mark?_of_eq ts last h)]
  rfl

theorem run_keyword?_of_ne {word : String} {ts : List Token} (last : Nat)
    (h : Rule.isKeyword word (headOf ts) = false) :
    (keyword? word).run ⟨ts, last⟩ = some (false, ⟨ts, last⟩) := by
  rw [keyword?, run_bind (run_peek ts last), h]
  rfl

namespace Takes

variable {α β : Type} {f : α → Rule β} {ls : List Lexeme} {a : α} {b : β}

/-- What is behind the lexemes is left alone. -/
theorem bind {r : Rule α} (h : Takes r ls a)
    (hf : ∀ ts last, IsEnd (headOf ts) → (f a).run ⟨ts, last⟩ = some (b, ⟨ts, last⟩)) :
    Takes (r >>= f) ls b := by
  intro ts rest last hts hend
  obtain ⟨last', hrun⟩ := h ts rest last hts hend
  exact ⟨last', (run_bind hrun).trans (hf rest last' hend)⟩

/-- A look at the lexemes leaves them in place. -/
theorem look {x : Rule α} {l : Lexeme} (hls : ls.head? = some l)
    (hx : ∀ ts last, headOf ts = some l → x.run ⟨ts, last⟩ = some (a, ⟨ts, last⟩))
    (h : Takes (f a) ls b) : Takes (x >>= f) ls b := by
  intro ts rest last hts hend
  obtain ⟨last', hrun⟩ := h ts rest last hts hend
  refine ⟨last', (run_bind (hx _ _ ?_)).trans hrun⟩
  cases ts with
  | nil =>
      cases hts
      cases hls
  | cons t ts =>
      cases hts
      exact hls

/-- A look at what comes next leaves it in place, whatever it is. -/
theorem glance {x : Rule α} (hx : ∀ s, ∃ a, x.run s = some (a, s)) (h : ∀ a, Takes (f a) ls b) :
    Takes (x >>= f) ls b := by
  intro ts rest last hts hend
  obtain ⟨a, ha⟩ := hx ⟨ts ++ rest, last⟩
  obtain ⟨last', hrun⟩ := h a ts rest last hts hend
  exact ⟨last', (run_bind ha).trans hrun⟩

theorem here {f : Nat → Rule β} (h : ∀ start, Takes (f start) ls b) :
    Takes (Rule.here >>= f) ls b :=
  .glance (fun ⟨ts, _⟩ => by cases ts <;> exact ⟨_, rfl⟩) h

theorem size {f : Nat → Rule β} (h : ∀ n, ls.length ≤ n → Takes (f n) ls b) :
    Takes (Rule.size >>= f) ls b := by
  intro ts rest last hts hend
  have hle : ls.length ≤ (ts ++ rest).length := by
    rw [← hts, List.length_map, List.length_append]
    exact Nat.le_add_right _ _
  exact h _ hle ts rest last hts hend

/-- A lexeme that is taken by itself. -/
theorem step {x : Rule α} {l : Lexeme}
    (hx : ∀ t ts last, t.lexeme = l → x.run ⟨t :: ts, last⟩ = some (a, ⟨ts, t.stop⟩))
    (h : Takes (f a) ls b) : Takes (x >>= f) (l :: ls) b := by
  intro ts rest last hts hend
  cases ts with
  | nil => cases hts
  | cons t ts =>
      obtain ⟨ht, hts⟩ := List.cons.inj hts
      obtain ⟨last', hrun⟩ := h ts rest t.stop hts hend
      exact ⟨last', (run_bind (hx t (ts ++ rest) last ht)).trans hrun⟩

theorem nothing {r : Rule α}
    (h : ∀ ts last, IsEnd (headOf ts) → r.run ⟨ts, last⟩ = some (a, ⟨ts, last⟩)) :
    Takes r [] a := by
  intro ts rest last hts hend
  cases List.map_eq_nil_iff.mp hts
  exact ⟨last, h rest last hend⟩

theorem pure (a : α) : Takes (pure a) [] a := .nothing fun _ _ _ => rfl

/-- An operand, and what is behind it. -/
theorem append {r : Rule α} (h : Takes r ls a) {l : Lexeme} {more : List Lexeme}
    (hend : IsEnd (some l)) (hf : Takes (f a) (l :: more) b) :
    Takes (r >>= f) (ls ++ l :: more) b := by
  intro ts rest last hts hrest
  obtain ⟨front, back, rfl, hfront, hback⟩ := List.map_eq_append_iff.mp hts
  have hhead : headOf (back ++ rest) = some l := by
    cases back with
    | nil => cases hback
    | cons t back => exact congrArg some (List.cons.inj hback).1
  obtain ⟨last', hrun⟩ := h front (back ++ rest) last hfront (hhead ▸ hend)
  obtain ⟨last'', hrun'⟩ := hf back rest last' hback hrest
  refine ⟨last'', ?_⟩
  rw [List.append_assoc, run_bind hrun, hrun']

end Takes

/-! ## Behind an operand -/

section End

variable {ts : List Token} (h : IsEnd (headOf ts)) (last : Nat)
include h

theorem run_mark?_of_isEnd (symbol : String) (hcomma : symbol ≠ ",") (hclose : symbol ≠ ")") :
    (mark? symbol).run ⟨ts, last⟩ = some (false, ⟨ts, last⟩) := by
  refine run_mark?_of_ne last ?_
  rcases h with h | h | h <;> simp [h, Rule.isMark, hcomma.symm, hclose.symm]

theorem run_keyword?_of_isEnd (word : String) :
    (keyword? word).run ⟨ts, last⟩ = some (false, ⟨ts, last⟩) := by
  refine run_keyword?_of_ne last ?_
  rcases h with h | h | h <;> simp [h, Rule.isKeyword]

theorem run_takeBinaryOp_of_isEnd (level : Nat) :
    (takeBinaryOp level).run ⟨ts, last⟩ = some (none, ⟨ts, last⟩) := by
  have hcomma : binaryOp? level "," = none := by unfold binaryOp?; split <;> simp_all
  have hclose : binaryOp? level ")" = none := by unfold binaryOp?; split <;> simp_all
  rw [takeBinaryOp, run_bind (run_peek ts last)]
  rcases h with h | h | h <;> rw [h]
  · rfl
  · simp only [hcomma]
    rfl
  · simp only [hclose]
    rfl

theorem run_takeCompareOp_of_isEnd :
    takeCompareOp.run ⟨ts, last⟩ = some (none, ⟨ts, last⟩) := by
  rw [takeCompareOp, run_bind (run_peek ts last)]
  rcases h with h | h | h <;> rw [h] <;> rfl

end End

/-! ## Rules between an expression and its primaries -/

section Operators

variable {operand : Rule Term} {l : Lexeme} {ls : List Lexeme} {t : Term}

theorem takes_binaryLevel (level : Nat) (h : Takes operand ls t) :
    Takes (binaryLevel level operand) ls t := by
  refine h.bind fun ts last hend => ?_
  rw [run_bind (run_size ts last), binaryRest,
    run_bind (run_takeBinaryOp_of_isEnd hend last level)]
  rfl

theorem takes_comparison (h : Takes operand ls t) : Takes (comparison operand) ls t := by
  refine h.bind fun ts last hend => ?_
  have hlinks : (compareLinks operand (ts.length + 1)).run ⟨ts, last⟩ = some ([], ⟨ts, last⟩) := by
    rw [compareLinks, run_bind (run_takeCompareOp_of_isEnd hend last)]
    rfl
  rw [run_bind (run_size ts last), run_bind hlinks]
  rfl

/-- No keyword but the absent value's, and no mark but a parenthesis and a minus sign, opens the
literal of a plain value. -/
theorem Opens.run_keyword? (hl : Opens l) {word : String} (hword : word ≠ "None") {ts : List Token}
    (last : Nat) (hts : headOf ts = some l) :
    (keyword? word).run ⟨ts, last⟩ = some (false, ⟨ts, last⟩) := by
  refine run_keyword?_of_ne last ?_
  rw [hts]
  cases hl <;> simp [Rule.isKeyword, hword.symm]

theorem Opens.run_mark? (hl : Opens l) {symbol : String} (hopen : symbol ≠ "(")
    (hminus : symbol ≠ "-") {ts : List Token} (last : Nat) (hts : headOf ts = some l) :
    (mark? symbol).run ⟨ts, last⟩ = some (false, ⟨ts, last⟩) := by
  refine run_mark?_of_ne last ?_
  rw [hts]
  cases hl <;> simp [Rule.isMark, hopen.symm, hminus.symm]

theorem takes_negation (hl : Opens l) (hls : ls.head? = some l) (h : Takes operand ls t)
    (fuel : Nat) : Takes (negation operand (fuel + 1)) ls t :=
  .look hls (fun _ last hts => hl.run_keyword? (by decide) last hts) (takes_comparison h)

theorem takes_joined (word : String) (h : Takes operand ls t) (fuel : Nat) :
    Takes (Rule.joined word operand (fuel + 1)) ls [t] := by
  refine h.bind fun ts last hend => ?_
  rw [run_bind (run_keyword?_of_isEnd hend last word)]
  rfl

theorem takes_connect (connective : List Term → Term) (word : String) (h : Takes operand ls t)
    (fuel : Nat) :
    Takes (do return connect connective (← Rule.joined word operand (fuel + 1))) ls t :=
  (takes_joined word h fuel).bind fun _ _ _ => rfl

/-- A factor without a sign is its primary. -/
theorem takes_factor (hl : Opens l) (hls : ls.head? = some l) (hsign : l ≠ .mark "-")
    (h : Takes operand ls t) (fuel : Nat) : Takes (factor operand (fuel + 1)) ls t := by
  have hawait : ∀ ts last, headOf ts = some l →
      (keyword? "await").run ⟨ts, last⟩ = some (false, ⟨ts, last⟩) :=
    fun _ last hts => hl.run_keyword? (by decide) last hts
  refine .look hls run_peek_of_eq ?_
  cases hl with
  | minus => exact absurd rfl hsign
  | name | number | text | absent | parenthesis =>
      refine .here fun _ => .look hls hawait (h.bind fun ts last hend => ?_)
      simp only [Bool.false_eq_true, if_false, pure_bind]
      rw [run_bind (run_mark?_of_isEnd hend last "**" (by decide) (by decide))]
      rfl

theorem takes_factor_minus {fuel : Nat} (h : Takes (factor operand fuel) ls t) :
    Takes (factor operand (fuel + 1)) (.mark "-" :: ls) (.unary .minus t) := by
  refine .look rfl run_peek_of_eq ?_
  exact .step (fun _ _ _ _ => rfl) (h.bind fun _ _ _ => rfl)

theorem takes_arithmetic (h : ∀ n, ls.length ≤ n → Takes (factor operand (n + 1)) ls t) :
    Takes (arithmetic operand) ls t :=
  .size fun n hn => takes_binaryLevel 0 <| takes_binaryLevel 1 <| takes_binaryLevel 2 <|
    takes_binaryLevel 3 <| takes_binaryLevel 4 <| takes_binaryLevel 5 <| h n hn

theorem takes_disjunction (hl : Opens l) (hls : ls.head? = some l)
    (h : ∀ n, ls.length ≤ n → Takes (factor operand (n + 1)) ls t) :
    Takes (disjunction operand) ls t :=
  .size fun n _ => takes_connect .any "or"
    (takes_connect .all "and" (takes_negation hl hls (takes_arithmetic h) n) n) n

theorem takes_expressionLayer {nested : Nested} (hl : Opens l) (hls : ls.head? = some l)
    (h : ∀ depth n, ls.length ≤ n → Takes (factor (primary nested (depth + 1)) (n + 1)) ls t) :
    Takes (expressionLayer nested) ls t := by
  refine .here fun start => ?_
  refine .look hls (fun _ last hts => hl.run_keyword? (by decide) last hts) ?_
  refine .size fun depth _ => ?_
  refine (takes_disjunction hl hls (h depth)).bind fun ts last hend => ?_
  rw [run_bind (run_keyword?_of_isEnd hend last "if")]
  rfl

end Operators

/-! ## Primaries and items -/

section Items

variable {nested : Nested} {l : Lexeme} {ls : List Lexeme} {t : Term}

theorem run_suffixes (inner : Rule Term) (start fuel : Nat) (t : Term) {ts : List Token}
    (hend : IsEnd (headOf ts)) (last : Nat) :
    (suffixes nested inner start (fuel + 1) t).run ⟨ts, last⟩ = some (t, ⟨ts, last⟩) := by
  have hhere : ∃ opening, here.run ⟨ts, last⟩ = some (opening, ⟨ts, last⟩) := by
    cases ts <;> exact ⟨_, rfl⟩
  obtain ⟨opening, hopening⟩ := hhere
  rw [suffixes, run_bind hopening,
    run_bind (run_mark?_of_isEnd hend last "." (by decide) (by decide))]
  simp only [Bool.false_eq_true, if_false]
  rw [run_bind (run_mark?_of_isEnd hend last "(" (by decide) (by decide))]
  simp only [Bool.false_eq_true, if_false]
  rw [run_bind (run_mark?_of_isEnd hend last "[" (by decide) (by decide))]
  rfl

theorem takes_primary {depth : Nat} (h : Takes (atom nested (primary nested depth)) ls t) :
    Takes (primary nested (depth + 1)) ls t := by
  refine .here fun start => h.bind fun ts last hend => ?_
  rw [run_bind (run_size ts last)]
  exact run_suffixes _ start ts.length t hend last

theorem takes_named (hname : Rule.isName (some l) = false) (hls : ls.head? = some l)
    (h : Takes nested.expression ls t) : Takes (named nested) ls t := by
  have hassignment : ∀ ts last, headOf ts = some l →
      isAssignment.run ⟨ts, last⟩ = some (false, ⟨ts, last⟩) := by
    intro ts last hts
    rw [isAssignment, run_bind (run_peek ts last), hts, hname]
    rfl
  exact .here fun _ => .look hls hassignment h

theorem takes_sequenceItem (hl : Opens l) (hname : Rule.isName (some l) = false)
    (hls : ls.head? = some l) {inner : Rule Term} (h : Takes nested.expression ls t) :
    Takes (sequenceItem nested inner) ls t :=
  .here fun _ => .look hls (fun _ last hts => hl.run_mark? (by decide) (by decide) last hts)
    (takes_named hname hls h)

end Items

/-! ## Atoms -/

section Atoms

variable {nested : Nested} {inner : Rule Term}

theorem takes_atom_number (v : Value) : Takes (atom nested inner) [.number v] (.constant v) := by
  refine .here fun _ => .look rfl run_peek_of_eq ?_
  exact .step (fun _ _ _ _ => rfl) (.pure _)

theorem takes_atom_none : Takes (atom nested inner) [.keyword "None"] (.constant .none) := by
  refine .here fun _ => .look rfl run_peek_of_eq ?_
  exact .step (fun _ _ _ _ => rfl) (.pure _)

theorem takes_literals_nothing (isField : List Char → Bool) (fuel : Nat) :
    Takes (literals isField (fuel + 1)) [] [] := by
  refine .nothing fun ts last hend => ?_
  rw [literals, run_bind (run_peek ts last)]
  rcases hend with h | h | h <;> rw [h] <;> rfl

theorem takes_literals (isField : List Char → Bool) (s : String) (fuel : Nat) :
    Takes (literals isField (fuel + 2)) [.text s] [.text s] := by
  refine .look rfl run_peek_of_eq ?_
  exact .step (fun _ _ _ _ => rfl) ((takes_literals_nothing isField fuel).bind fun _ _ _ => rfl)

theorem takes_atom_text (s : String) :
    Takes (atom nested inner) [.text s] (.constant (.text s)) := by
  refine .here fun _ => .look rfl run_peek_of_eq ?_
  refine .here fun start => .size fun n hn => ?_
  obtain ⟨fuel, rfl⟩ : ∃ fuel, n = fuel + 1 := Nat.exists_eq_add_one.mpr hn
  exact (takes_literals nested.isField s fuel).bind fun _ _ _ => rfl

theorem takes_itemsUntil {items : List Value}
    (h : ∀ v ∈ items, Takes (sequenceItem nested inner) (lexemes v) (termOf v)) (fuel : Nat)
    (hfuel : (closedLexemes items).length ≤ fuel) :
    Takes (Rule.itemsUntil ")" (sequenceItem nested inner) fuel) (closedLexemes items)
      (termsOf items, items.isEmpty) := by
  induction items generalizing fuel with
  | nil =>
      obtain ⟨fuel, rfl⟩ : ∃ n, fuel = n + 1 := Nat.exists_eq_add_one.mpr hfuel
      exact .step (fun _ ts last ht => run_mark?_of_eq ts last ht) (.pure _)
  | cons v items ih =>
      have hv := h v List.mem_cons_self
      obtain ⟨l, hl, -, hhead⟩ := exists_head?_lexemes v
      have hopen : ∀ ts last, headOf ts = some l →
          (mark? ")").run ⟨ts, last⟩ = some (false, ⟨ts, last⟩) :=
        fun _ last hts => hl.run_mark? (by decide) (by decide) last hts
      cases items with
      | nil =>
          rw [closedLexemes, List.length_append, List.length_singleton] at hfuel
          obtain ⟨fuel, rfl⟩ : ∃ n, fuel = n + 1 := Nat.exists_eq_add_one.mpr (by omega)
          rw [closedLexemes]
          refine .look (hhead _) hopen (hv.append (.inr (.inr rfl)) ?_)
          refine .look rfl (fun ts last hts => run_mark?_of_ne last (by rw [hts]; rfl)) ?_
          exact .step (fun _ ts last ht => run_mark_of_eq ts last ht) (.pure _)
      | cons w items =>
          rw [closedLexemes_cons_cons, List.length_append, List.length_cons] at hfuel
          obtain ⟨fuel, rfl⟩ : ∃ n, fuel = n + 1 := Nat.exists_eq_add_one.mpr (by omega)
          have hmore := ih (fun u hu => h u (List.mem_cons_of_mem _ hu)) fuel (by omega)
          rw [closedLexemes_cons_cons]
          refine .look (hhead _) hopen (hv.append (.inr (.inl rfl)) ?_)
          refine .step (fun _ ts last ht => run_mark?_of_eq ts last ht) ?_
          exact hmore.bind fun _ _ _ => rfl

theorem takes_atom_tuple {items : List Value}
    (h : ∀ v ∈ items, Takes (sequenceItem nested inner) (lexemes v) (termOf v)) :
    Takes (atom nested inner) (lexemes (.tuple items)) (termOf (.tuple items)) := by
  cases items with
  | nil =>
      refine .here fun start => .look rfl run_peek_of_eq ?_
      refine .step (fun _ _ _ _ => rfl) ?_
      exact .step (fun _ ts last ht => run_mark?_of_eq ts last ht) (.pure _)
  | cons v items =>
      have hv := h v List.mem_cons_self
      obtain ⟨l, hl, -, hhead⟩ := exists_head?_lexemes v
      rw [lexemes]
      refine .here fun start => .look rfl run_peek_of_eq ?_
      refine .step (fun _ _ _ _ => rfl) ?_
      refine .look (hhead _) (fun _ last hts => hl.run_mark? (by decide) (by decide) last hts) ?_
      refine .here fun _ =>
        .look (hhead _) (fun _ last hts => hl.run_keyword? (by decide) last hts) ?_
      refine hv.append (.inr (.inl rfl)) ?_
      refine .step (fun _ ts last ht => run_mark?_of_eq ts last ht) (.size fun n hn => ?_)
      have hmore := takes_itemsUntil (fun u hu => h u (List.mem_cons_of_mem _ hu)) (n + 1)
        (by omega)
      exact hmore.bind fun _ _ _ => rfl

end Atoms

/-! ## Whole sources -/

theorem length_lt_closedLexemes {v : Value} {vs : List Value} (h : v ∈ vs) :
    (lexemes v).length < (closedLexemes vs).length := by
  induction vs with
  | nil => cases h
  | cons w vs ih =>
      cases vs with
      | nil =>
          rw [List.mem_singleton.mp h, closedLexemes, List.length_append]
          exact Nat.lt_succ_self _
      | cons u vs =>
          rw [closedLexemes_cons_cons, List.length_append, List.length_cons]
          rcases List.mem_cons.mp h with rfl | h
          · omega
          · have := ih h
            omega

theorem length_lt_lexemes {v : Value} {items : List Value} (h : v ∈ items) :
    (lexemes v).length < (lexemes (.tuple items)).length := by
  cases items with
  | nil => cases h
  | cons w items =>
      rw [lexemes, List.length_cons, List.length_append, List.length_cons]
      rcases List.mem_cons.mp h with rfl | h
      · omega
      · have := length_lt_closedLexemes h
        omega

/-- A plain value's literal is read as its term, wherever an expression may stand. -/
theorem takes_expression (isField : List Char → Bool) {depth : Nat} {v : Value} (h : v.Plain depth)
    {fuel : Nat} (hfuel : (lexemes v).length ≤ fuel) :
    Takes (expression isField (fuel + 1)) (lexemes v) (termOf v) := by
  induction h generalizing fuel with
  | none =>
      exact takes_expressionLayer .absent rfl fun _ n _ =>
        takes_factor .absent rfl (by simp) (takes_primary takes_atom_none) n
  | @int _ n _ =>
      have hplain : ∀ {nested depth} fuel, Takes (factor (primary nested (depth + 1)) (fuel + 1))
          [.number (.int n.natAbs)] (.constant (.int n.natAbs)) :=
        takes_factor (.number _) rfl (by simp) (takes_primary (takes_atom_number _))
      rw [lexemes, termOf]
      split
      · refine takes_expressionLayer .minus rfl fun depth fuel hfuel => takes_factor_minus ?_
        obtain ⟨fuel, rfl⟩ : ∃ k, fuel = k + 1 :=
          Nat.exists_eq_add_one.mpr (Nat.lt_of_succ_lt hfuel)
        exact hplain fuel
      · exact takes_expressionLayer (.number _) rfl fun _ fuel _ => hplain fuel
  | text s =>
      exact takes_expressionLayer (.text s) rfl fun _ n _ =>
        takes_factor (.text s) rfl (by simp) (takes_primary (takes_atom_text s)) n
  | @tuple _ items _ ih =>
      have hls : (lexemes (.tuple items)).head? = some (.mark "(") := by cases items <;> rfl
      have hitems : ∀ inner, ∀ v ∈ items,
          Takes (sequenceItem ⟨expression isField fuel, isField⟩ inner) (lexemes v) (termOf v) := by
        intro inner v hv
        have hlt := (length_lt_lexemes hv).trans_le hfuel
        obtain ⟨fuel, rfl⟩ : ∃ k, fuel = k + 1 := Nat.exists_eq_add_one.mpr (by omega)
        obtain ⟨l, hl, hname, hhead⟩ := exists_head?_lexemes v
        have hls : (lexemes v).head? = some l := by simpa using hhead []
        exact takes_sequenceItem hl hname hls (ih v hv (Nat.le_of_lt_succ hlt))
      exact takes_expressionLayer .parenthesis hls fun _ n _ =>
        takes_factor .parenthesis hls (by simp) (takes_primary (takes_atom_tuple (hitems _))) n

/-- Tokens that the rule for expressions takes are read as its result. -/
theorem readTokens?_of_takes {isField : List Char → Bool} {ts : List Token} {ls : List Lexeme}
    {t : Term} (h : Takes (expression isField (ts.length + 1)) ls t)
    (hts : ts.map Token.lexeme = ls) : readTokens? isField ts = some t := by
  obtain ⟨last, hrun⟩ := h ts [] 0 hts (.inl rfl)
  rw [List.append_nil] at hrun
  have hwhole : (whole (expression isField (ts.length + 1))).run ⟨ts, 0⟩ =
      some (t, ⟨[], last⟩) := by
    rw [whole, run_bind hrun]
    rfl
  rw [readTokens?, hwhole, Option.map_some]

/-- The tokens of a plain value's literal are read as its term. -/
theorem readTokens?_of_plain (isField : List Char → Bool) {depth : Nat} {v : Value}
    (h : v.Plain depth) {ts : List Token} (hts : ts.map Token.lexeme = lexemes v) :
    readTokens? isField ts = some (termOf v) := by
  have hlength : (lexemes v).length ≤ ts.length := by rw [← hts, List.length_map]
  exact readTokens?_of_takes (takes_expression isField h hlength) hts

/-! ## Values of terms -/

theorem literalItems_termsOf {items : List Value} (h : ∀ v ∈ items, (termOf v).literal = .ok v) :
    literalItems (termsOf items) = .ok items := by
  induction items with
  | nil => rfl
  | cons v items ih =>
      rw [termsOf, literalItems, h v List.mem_cons_self,
        ih fun w hw => h w (List.mem_cons_of_mem _ hw)]
      rfl

/-- A plain value's term stands for the value. -/
theorem literal_termOf {depth : Nat} {v : Value} (h : v.Plain depth) :
    (termOf v).literal = .ok v := by
  induction h with
  | none => rfl
  | @int _ n _ =>
      rw [termOf]
      split
      next hneg =>
        change Except.ok (Value.int (-n.natAbs)) = _
        rw [show (-n.natAbs : Int) = n by omega]
      next hpos =>
        change Except.ok (Value.int n.natAbs) = _
        rw [show (n.natAbs : Int) = n by omega]
  | text s => rfl
  | tuple hitems ih =>
      rw [termOf, Term.literal, literalItems_termsOf ih]
      rfl

theorem unifyNewlinesChars_of_none {cs : List Char} (h : ∀ c ∈ cs, c ≠ '\r') :
    Text.unifyNewlinesChars cs = cs := by
  induction cs with
  | nil => rfl
  | cons c cs ih =>
      have hc := h c List.mem_cons_self
      rw [Text.unifyNewlinesChars, if_neg hc, ih fun d hd => h d (List.mem_cons_of_mem _ hd)]
      rintro _ rfl
      exact absurd rfl hc

/-- No hidden character stands in the literal of a plain value. -/
theorem ne_hidden_of_pieces {cs : List Char} (h : Value.Pieces cs) {d : Char}
    (hd : Text.Hidden d) : ∀ c ∈ cs, c ≠ d := by
  have hne : ∀ c, Text.isPrintable c = true → c ≠ d := fun _ hc => Text.ne_of_class hc hd.shown
  induction h with
  | outside h =>
      rintro c hc rfl
      have houtside := List.all_eq_true.mp h _ hc
      simp only [Value.isOutside, hd.alphanum, Bool.false_or, Bool.or_eq_true,
        decide_eq_true_eq] at houtside
      rcases houtside with (((rfl | rfl) | rfl) | rfl) | rfl <;> exact hne _ (by decide) rfl
  | quoted cs =>
      have hmark := Text.quoteFor_cases cs
      intro c hc
      simp only [Text.quoteChars, List.mem_cons, List.mem_append, List.mem_flatMap,
        List.not_mem_nil, or_false] at hc
      rcases hc with rfl | ⟨e, -, hc⟩ | rfl
      · rcases hmark with hmark | hmark <;> rw [hmark] <;> exact hne _ (by decide)
      · exact (Text.stands_escapeChar hmark e).ne_hidden hd c hc
      · rcases hmark with hmark | hmark <;> rw [hmark] <;> exact hne _ (by decide)
  | append _ _ ih ih' =>
      intro c hc
      exact (List.mem_append.mp hc).elim (ih c) (ih' c)

/-- A plain value's literal is read as the value. -/
theorem readLiteral_literal {depth : Nat} {v : Value} (h : v.Plain depth)
    (hdepth : depth ≤ maxBrackets) : readLiteral v.literal = .ok v := by
  obtain ⟨ts, htokens, hts⟩ := tokens?_literalChars h hdepth
  have hread : Term.read? v.literalChars = some (termOf v) := by
    rw [Term.read?, htokens]
    exact readTokens?_of_plain _ h hts
  rw [readLiteral, ← Value.literalChars,
    unifyNewlinesChars_of_none (ne_hidden_of_pieces h.pieces Text.hidden_return), hread]
  exact literal_termOf h

end PipeTable.Expr
