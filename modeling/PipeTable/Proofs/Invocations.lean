import Mathlib
import PipeTable.Expr.Eval
import PipeTable.Proofs.Effects
import PipeTable.Proofs.Syntax

/-! # Written calls

A call of a function on plain values that is written with their literals is read as this call, and
if the function may be called so, it compiles.  Its arguments have the values as which they are
written.
-/

namespace PipeTable.Expr

open Rule (mark? peek)

/-! ## Names -/

/-- A name of letters that is no keyword. -/
structure IsPlainName (name : String) : Prop where
  nonempty : name.toList ≠ []
  letters : ∀ c ∈ name.toList, c.isAlpha = true
  free : keywords.contains name = false

/-- The characters of a call of a function on values. -/
def callChars (name : String) (arguments : List Value) : List Char :=
  name.toList ++ '(' :: Value.closedChars arguments

/-- A letter is neither a blank nor a digit, and it can start a token. -/
theorem of_isAlpha {c : Char} (h : c.isAlpha = true) :
    Text.isBlank c = false ∧ c.isDigit = false ∧ isWordChar c = true ∧ IsStart c := by
  have hrange := Text.toNat_of_isAlpha h
  have hne : ∀ d : Char, d.isAlpha = false → c ≠ d := fun _ => Text.ne_of_class h
  refine ⟨?_, ?_, by simp [isWordChar, Char.isAlphanum, h], ?_, hne _ (by decide),
    hne _ (by decide), hne _ (by decide)⟩
  · simp only [Text.isBlank, Bool.or_eq_false_iff, Bool.and_eq_false_iff, decide_eq_false_iff_not]
    omega
  · by_contra hdigit
    have := Text.toNat_of_isDigit (Bool.of_not_eq_false hdigit)
    omega
  · have hfeed : c.toNat ≠ 12 := by omega
    simp [isTokenBlank, hne ' ' (by decide), hne '\t' (by decide), hfeed]

theorem readLexeme?_name {name : String} (h : IsPlainName name) (rest : List Char) :
    readLexeme? (name.toList ++ '(' :: rest) = some (.name name, '(' :: rest) := by
  have hword : ∀ c ∈ name.toList, isWordChar c = true := fun c hc =>
    (of_isAlpha (h.letters c hc)).2.2.1
  have hascii : name.toList.all (fun c => c.val < 0x80) = true :=
    List.all_eq_true.mpr fun c hc => decide_eq_true
      ((Text.toNat_of_isAlpha (h.letters c hc)).2.trans_lt (by decide))
  have htake : (name.toList ++ '(' :: rest).takeWhile isWordChar = name.toList := by
    rw [List.takeWhile_append_of_pos hword, List.takeWhile_cons_of_neg (by decide),
      List.append_nil]
  have hdrop : (name.toList ++ '(' :: rest).dropWhile isWordChar = '(' :: rest := by
    rw [List.dropWhile_append_of_pos hword, List.dropWhile_cons_of_neg (by decide)]
  have hread : readWord? (name.toList ++ '(' :: rest) = some (.name name, '(' :: rest) := by
    simp only [readWord?, htake, hdrop, String.ofList_toList, h.free, hascii,
      Text.compatibilityForm]
    rfl
  obtain ⟨c, cs, heq⟩ := List.exists_cons_of_ne_nil h.nonempty
  obtain ⟨-, hdigit, hwordChar, -⟩ := of_isAlpha (h.letters c (heq ▸ List.mem_cons_self))
  rw [heq, List.cons_append] at hread ⊢
  have hpoint : c ≠ '.' := Text.ne_of_class hwordChar (by decide)
  simp only [readLexeme?, hdigit, hpoint, hwordChar, hread]
  rfl

/-! ## Tokens -/

variable {name : String} {arguments : List Value} {depth : Nat}

/-- A written call is cut into the name, the parenthesis and the lexemes of the arguments. -/
theorem tokens?_callChars (h : IsPlainName name) (harguments : ∀ v ∈ arguments, v.Plain depth)
    (hdepth : depth < maxBrackets) :
    ∃ ts, tokens? (callChars name arguments) = some ts ∧
      ts.map Token.lexeme = .name name :: .mark "(" :: closedLexemes arguments := by
  have hcut : ∀ v ∈ arguments, IsCut [")"] v := fun v hv =>
    isCut_of_plain [")"] (harguments v hv) (by simpa [Nat.add_comm] using hdepth)
  have hclosed := Lexes.nothing.closed hcut (Nat.zero_lt_of_lt hdepth)
  have hopen := hclosed.open (Nat.zero_lt_of_lt hdepth)
  rw [List.append_nil, List.append_nil] at hopen
  have hread := readLexeme?_name h (Value.closedChars arguments)
  obtain ⟨c, cs, heq⟩ := List.exists_cons_of_ne_nil h.nonempty
  obtain ⟨-, -, -, hstart⟩ := of_isAlpha (h.letters c (heq ▸ List.mem_cons_self))
  rw [heq, List.cons_append] at hread
  rw [callChars, heq, List.cons_append]
  have hlexes : Lexes [] (c :: (cs ++ '(' :: Value.closedChars arguments))
      (.name name :: .mark "(" :: closedLexemes arguments) :=
    .lexeme hstart hread (by simp) rfl (Nat.zero_le _) hopen
  exact hlexes.tokens? hstart

/-! ## Syntax -/

section Syntax

variable {nested : Nested} {inner : Rule Term}

/-- No comprehension goes on behind an argument. -/
theorem run_clauses_of_isEnd {ts : List Token} (h : IsEnd (headOf ts)) (last fuel : Nat) :
    (clauses inner (fuel + 1)).run ⟨ts, last⟩ = some (false, ⟨ts, last⟩) := by
  rw [clauses, run_bind (run_peek ts last)]
  rcases h with h | h | h <;> rw [h] <;> rfl

/-- What goes on behind an argument: a comma with further ones, or the closing parenthesis. -/
def argumentsFrom (nested : Nested) (inner : Rule Term) (opening fuel : Nat) (s : CallState) :
    Rule CallState := do
  if ← mark? "," then callArguments nested inner opening fuel s
  else
    Rule.mark ")"
    return s

/-- An argument is taken as its expression. -/
theorem takes_argument (opening : Nat) {v : Value}
    (hv : Takes nested.expression (lexemes v) (termOf v)) (fuel : Nat) (read : List Term)
    {l : Lexeme} {more : List Lexeme} {s : CallState} (hend : IsEnd (some l))
    (hmore : Takes (argumentsFrom nested inner opening fuel { arguments := read ++ [termOf v] })
      (l :: more) s) :
    Takes (callArguments nested inner opening (fuel + 1) { arguments := read })
      (lexemes v ++ l :: more) s := by
  obtain ⟨first, hfirst, hname, hhead⟩ := exists_head?_lexemes v
  have hmark : ∀ symbol, symbol ≠ "(" → symbol ≠ "-" → ∀ ts last, headOf ts = some first →
      (mark? symbol).run ⟨ts, last⟩ = some (false, ⟨ts, last⟩) :=
    fun _ hopen hminus _ last hts => hfirst.run_mark? hopen hminus last hts
  have hitem : Takes (named nested) (lexemes v) (termOf v) :=
    takes_named hname (by simpa using hhead []) hv
  refine .look (hhead _) (hmark ")" (by decide) (by decide)) ?_
  refine .here fun start => ?_
  refine .look (hhead _) (hmark "**" (by decide) (by decide)) ?_
  refine .look (hhead _) (hmark "*" (by decide) (by decide)) ?_
  refine .look (hhead _) run_peek_of_eq (.glance (fun s => ⟨_, rfl⟩) fun afterNext => ?_)
  simp only [hname, Bool.false_and, Bool.false_eq_true, if_false]
  refine hitem.append hend (.size fun n _ => ?_)
  refine .look (a := false) rfl (fun ts last hts => run_clauses_of_isEnd (hts ▸ hend) last n) ?_
  simpa only [argumentsFrom, Bool.false_eq_true, if_false] using hmore

theorem takes_callArguments (opening : Nat)
    (h : ∀ v ∈ arguments, Takes nested.expression (lexemes v) (termOf v)) (fuel : Nat)
    (hfuel : (closedLexemes arguments).length ≤ fuel) (read : List Term) :
    Takes (callArguments nested inner opening fuel { arguments := read }) (closedLexemes arguments)
      { arguments := read ++ termsOf arguments } := by
  induction arguments generalizing fuel read with
  | nil =>
      obtain ⟨fuel, rfl⟩ : ∃ n, fuel = n + 1 := Nat.exists_eq_add_one.mpr hfuel
      rw [termsOf, List.append_nil]
      exact .step (fun _ ts last ht => run_mark?_of_eq ts last ht) (.pure _)
  | cons v arguments ih =>
      have hv := h v List.mem_cons_self
      cases arguments with
      | nil =>
          rw [closedLexemes, List.length_append, List.length_singleton] at hfuel
          obtain ⟨fuel, rfl⟩ : ∃ n, fuel = n + 1 := Nat.exists_eq_add_one.mpr (by omega)
          rw [closedLexemes]
          refine takes_argument opening hv fuel read (.inr (.inr rfl)) ?_
          refine .look rfl (fun ts last hts => run_mark?_of_ne last (by rw [hts]; rfl)) ?_
          exact .step (fun _ ts last ht => run_mark_of_eq ts last ht) (.pure _)
      | cons w arguments =>
          rw [closedLexemes_cons_cons, List.length_append, List.length_cons] at hfuel
          obtain ⟨fuel, rfl⟩ : ∃ n, fuel = n + 1 := Nat.exists_eq_add_one.mpr (by omega)
          have hmore := ih (fun u hu => h u (List.mem_cons_of_mem _ hu)) fuel (by omega)
            (read ++ [termOf v])
          rw [List.append_assoc, List.singleton_append] at hmore
          rw [closedLexemes_cons_cons]
          refine takes_argument opening hv fuel read (.inr (.inl rfl)) ?_
          exact .step (fun _ ts last ht => run_mark?_of_eq ts last ht) hmore

/-- A written call is taken as the call of the name on the terms of the values. -/
theorem takes_primary_call (name : String) {room : Nat}
    (h : ∀ v ∈ arguments, Takes nested.expression (lexemes v) (termOf v)) :
    Takes (primary nested (room + 1)) (.name name :: .mark "(" :: closedLexemes arguments)
      (.call (.name name) (termsOf arguments) false) := by
  refine .here fun start => ?_
  refine .step (l := .name name) (a := .name name) (fun t ts last ht => ?_) (.size fun n hn => ?_)
  · cases t
    cases ht
    rfl
  · obtain ⟨fuel, rfl⟩ : ∃ k, n = k + 1 := Nat.exists_eq_add_one.mpr (Nat.zero_lt_of_lt hn)
    refine .here fun opening => ?_
    refine .look rfl (fun ts last hts => run_mark?_of_ne last (by rw [hts]; rfl)) ?_
    refine .step (fun _ ts last ht => run_mark?_of_eq ts last ht) (.size fun m hm => ?_)
    have harguments : Takes (callArguments nested (primary nested room) opening (m + 1) {})
        (closedLexemes arguments) { arguments := termsOf arguments } :=
      takes_callArguments opening h (m + 1) (Nat.le_succ_of_le hm) []
    exact harguments.bind fun ts last hend => run_suffixes _ start fuel _ hend last

end Syntax

/-- The tokens of a written call are read as the call. -/
theorem readTokens?_of_call (isField : List Char → Bool)
    (harguments : ∀ v ∈ arguments, v.Plain depth) {ts : List Token}
    (hts : ts.map Token.lexeme = .name name :: .mark "(" :: closedLexemes arguments) :
    readTokens? isField ts = some (.call (.name name) (termsOf arguments) false) := by
  have hlength : (closedLexemes arguments).length + 2 = ts.length := by
    have hmap := congrArg List.length hts
    rw [List.length_map] at hmap
    exact hmap.symm
  have htakes : ∀ v ∈ arguments, Takes (expression isField ts.length) (lexemes v) (termOf v) := by
    intro v hv
    have hlt := length_lt_closedLexemes hv
    obtain ⟨fuel, hfuel⟩ : ∃ k, ts.length = k + 1 := Nat.exists_eq_add_one.mpr (by omega)
    rw [hfuel]
    exact takes_expression isField (harguments v hv) (by omega)
  have hcall : Takes (expression isField (ts.length + 1))
      (.name name :: .mark "(" :: closedLexemes arguments)
      (.call (.name name) (termsOf arguments) false) :=
    takes_expressionLayer (.name name) rfl fun _ n _ =>
      takes_factor (.name name) rfl (by simp) (takes_primary_call name htakes) n
  exact readTokens?_of_takes hcall hts

/-! ## Values -/

mutual

/-- The term of a value passes every check, and its formula has this value. -/
theorem exists_check_termOf (s : Surroundings) (level : Nat) : (v : Value) →
    ∃ φ, (termOf v).check s level = .ok φ ∧
      ∀ {σ : Type} (registry : Registry σ) source env, φ.eval registry source env = pure v
  | .int n => by
      rw [termOf]
      split
      next hneg =>
        refine ⟨_, rfl, fun {σ} registry source env => ?_⟩
        change (pure (Value.int (-n.natAbs)) : Eval σ Value) = _
        rw [show (-n.natAbs : Int) = n by omega]
      next hpos =>
        refine ⟨_, rfl, fun registry source env => ?_⟩
        rw [show (n.natAbs : Int) = n by omega]
        rfl
  | .tuple items => by
      obtain ⟨φs, hcheck, heval⟩ := exists_checkAll_termsOf s (level + 1) items
      refine ⟨.tuple φs, ?_, fun registry source env => ?_⟩
      · rw [termOf, Term.check, hcheck]
        rfl
      · rw [Formula.eval, heval]
        rfl
  | .none | .bool _ | .float _ | .complex .. | .text _ | .bytes _ | .ellipsis | .list _ | .set _
  | .dict _ | .slice .. | .expression .. => ⟨_, rfl, fun _ _ _ => rfl⟩

theorem exists_checkAll_termsOf (s : Surroundings) (level : Nat) : (vs : List Value) →
    ∃ φs, checkAll s level (termsOf vs) = .ok φs ∧
      ∀ {σ : Type} (registry : Registry σ) source env, evalList registry source env φs = pure vs
  | [] => ⟨[], rfl, fun _ _ _ => rfl⟩
  | v :: vs => by
      obtain ⟨φ, hcheck, heval⟩ := exists_check_termOf s level v
      obtain ⟨φs, hchecks, hevals⟩ := exists_checkAll_termsOf s level vs
      refine ⟨φ :: φs, ?_, fun registry source env => ?_⟩
      · rw [termsOf, checkAll, hcheck, hchecks]
        rfl
      · rw [evalList, heval, hevals]
        rfl

end

/-! ## Compiling -/

theorem pieces_callChars (h : IsPlainName name) (harguments : ∀ v ∈ arguments, v.Plain depth) :
    Value.Pieces (callChars name arguments) := by
  refine .append (.outside (List.all_eq_true.mpr fun c hc => ?_)) (.cons (by decide) ?_)
  · simp [Value.isOutside, Char.isAlphanum, h.letters c hc]
  · exact Value.pieces_closedChars fun v hv => (harguments v hv).pieces

theorem stripChars_callChars (h : IsPlainName name) (arguments : List Value) :
    Text.stripChars (callChars name arguments) = callChars name arguments := by
  obtain ⟨c, cs, hname⟩ := List.exists_cons_of_ne_nil h.nonempty
  refine Text.dropBothEnds_eq_self (fun d hd => ?_) fun d hd => ?_
  · rw [callChars, hname] at hd
    cases hd
    exact (of_isAlpha (h.letters c (hname ▸ List.mem_cons_self))).1
  · rw [callChars, List.append_cons, List.getLast?_append, Value.getLast?_closedChars] at hd
    cases hd
    decide

theorem length_termsOf (vs : List Value) : (termsOf vs).length = vs.length := by
  induction vs with
  | nil => rfl
  | cons v vs ih => rw [termsOf, List.length_cons, List.length_cons, ih]

/-- A source compiles to a call of a function, and its arguments always have certain values. -/
def SpellsCall {σ : Type} (registry : Registry σ) (source name : String)
    (arguments : List Value) : Prop :=
  ∃ φs, Expression.compile source registry = .ok ⟨source, registry, .call name φs⟩ ∧
    ∀ env, evalList registry source env φs = pure arguments

/-- A written call spells the call, if the registry allows it. -/
theorem spellsCall_of_allow {σ : Type} {registry : Registry σ} {source : String}
    (hsource : source.toList = callChars name arguments) (h : IsPlainName name)
    (harguments : ∀ v ∈ arguments, v.Plain depth) (hdepth : depth < maxBrackets)
    (hallow : registry.allow source name arguments.length = .ok ()) :
    SpellsCall registry source name arguments := by
  obtain ⟨ts, htokens, hts⟩ := tokens?_callChars h harguments hdepth
  have hread : Term.read? (callChars name arguments) =
      some (.call (.name name) (termsOf arguments) false) := by
    rw [Term.read?, htokens]
    exact readTokens?_of_call _ harguments hts
  obtain ⟨φs, hcheck, heval⟩ := exists_checkAll_termsOf
    ⟨source, fragmentOf (callChars name arguments), registry.allow source⟩ 1 arguments
  refine ⟨φs, ?_, fun env => heval registry source env⟩
  have hpieces := pieces_callChars h harguments
  have hnull : (callChars name arguments).contains '\x00' = false := by
    simpa using fun hc => ne_hidden_of_pieces hpieces Text.hidden_null _ hc rfl
  have hempty : (callChars name arguments).isEmpty = false := by simp [callChars]
  simp only [Expression.compile, hsource, stripChars_callChars h, hempty, hnull,
    unifyNewlinesChars_of_none (ne_hidden_of_pieces hpieces Text.hidden_return), hread, Term.check,
    allowCall, length_termsOf, hallow, hcheck]
  rfl

end PipeTable.Expr
