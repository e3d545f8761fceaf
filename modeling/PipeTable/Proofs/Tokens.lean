import Mathlib
import PipeTable.Proofs.Escapes
import PipeTable.Proofs.Lines
import PipeTable.Value.Printer

/-! # The tokens of a written value

The literal of a value that is built from texts, integers, the absent value and tuples is cut into
the tokens that one expects.
-/

namespace PipeTable

/-! ## Plain values -/

/-- A value is built from texts, integers that can be written, the absent value and tuples, which
nest at most as deep as the given number. -/
inductive Value.Plain : Nat → Value → Prop
  | none {depth : Nat} : Plain depth .none
  | int {depth : Nat} {n : Int} (h : Text.isWritable n = true) : Plain depth (.int n)
  | text {depth : Nat} (s : String) : Plain depth (.text s)
  | tuple {depth : Nat} {items : List Value} (h : ∀ v ∈ items, Plain depth v) :
      Plain (depth + 1) (.tuple items)

/-- The characters of a value's literal. -/
def Value.literalChars (v : Value) : List Char := v.literal.toList

/-- The characters of literals between commas, and the closing parenthesis. -/
def Value.closedChars : List Value → List Char
  | [] => [')']
  | [v] => v.literalChars ++ [')']
  | v :: vs => v.literalChars ++ ',' :: ' ' :: closedChars vs

namespace Value

theorem literals_eq_map (vs : List Value) : literals vs = vs.map literal := by
  induction vs with
  | nil => rfl
  | cons v vs ih => rw [literals, ih, List.map_cons]

theorem literalChars_int (n : Int) :
    (Value.int n).literalChars =
      if n < 0 then '-' :: Nat.toDigits 10 n.natAbs else Nat.toDigits 10 n.natAbs := by
  rw [literalChars, literal]
  cases n with
  | ofNat n =>
      rw [if_neg (by simp)]
      exact Text.toList_writeInteger n
  | negSucc n =>
      rw [if_pos (Int.negSucc_lt_zero n)]
      exact String.toList_append.trans (congrArg ('-' :: ·) String.toList_ofList)

theorem literalChars_text (s : String) : (Value.text s).literalChars = Text.quoteChars s.toList :=
  String.toList_ofList

theorem closedChars_eq {vs : List Value} (hne : vs ≠ []) :
    closedChars vs = (", ".intercalate (vs.map literal)).toList ++ [')'] := by
  induction vs with
  | nil => exact absurd rfl hne
  | cons v vs ih =>
      cases vs with
      | nil => simp [closedChars, literalChars]
      | cons w vs =>
          rw [closedChars, ih (List.cons_ne_nil _ _)]
          · simp [literalChars, String.intercalate_cons_cons]
          · exact List.cons_ne_nil _ _

theorem getLast?_closedChars (vs : List Value) : (closedChars vs).getLast? = some ')' := by
  cases vs with
  | nil => rfl
  | cons v vs => rw [closedChars_eq (List.cons_ne_nil _ _), List.getLast?_concat]

theorem literalChars_single (v : Value) :
    (Value.tuple [v]).literalChars = '(' :: (v.literalChars ++ [',', ')']) := by
  simp [literalChars, literal, literals, writeTuple]

theorem literalChars_several (v w : Value) (vs : List Value) :
    (Value.tuple (v :: w :: vs)).literalChars = '(' :: closedChars (v :: w :: vs) := by
  rw [closedChars_eq (List.cons_ne_nil _ _), literalChars, literal, literals_eq_map]
  simp [writeTuple]

/-! ## Characters of literals -/

/-- A character stands outside quotes in the literals of plain values. -/
def isOutside (c : Char) : Bool :=
  c.isAlphanum || c = '(' || c = ')' || c = ',' || c = ' ' || c = '-'

/-- Characters outside quotes and quoted texts, one after the other. -/
inductive Pieces : List Char → Prop
  | outside {cs : List Char} (h : cs.all isOutside = true) : Pieces cs
  | quoted (cs : List Char) : Pieces (Text.quoteChars cs)
  | append {cs ds : List Char} (hcs : Pieces cs) (hds : Pieces ds) : Pieces (cs ++ ds)

theorem Pieces.cons {c : Char} {cs : List Char} (hc : isOutside c = true) (h : Pieces cs) :
    Pieces (c :: cs) := by
  have hsingle : [c].all isOutside = true := by rw [List.all_cons, hc, List.all_nil, Bool.true_and]
  exact .append (.outside hsingle) h

theorem pieces_closedChars {vs : List Value} (h : ∀ v ∈ vs, Pieces v.literalChars) :
    Pieces (closedChars vs) := by
  have hclose : Pieces [')'] := .outside rfl
  induction vs with
  | nil => exact hclose
  | cons v vs ih =>
      have hv := h v List.mem_cons_self
      cases vs with
      | nil => exact hv.append hclose
      | cons w vs =>
          have hmore := ih fun u hu => h u (List.mem_cons_of_mem _ hu)
          exact hv.append (.cons (by decide) (.cons (by decide) hmore))

/-- The literal of a plain value consists of quoted texts and simple characters around them. -/
theorem Plain.pieces {depth : Nat} {v : Value} (h : v.Plain depth) : Pieces v.literalChars := by
  induction h with
  | none => exact .outside rfl
  | @int _ n _ =>
      have hdigits : Pieces (Nat.toDigits 10 n.natAbs) := by
        refine .outside (List.all_eq_true.mpr fun c hc => ?_)
        simp [isOutside, Char.isAlphanum, Nat.isDigit_of_mem_toDigits (by decide) (by decide) hc]
      rw [literalChars_int]
      split
      · exact .cons (by decide) hdigits
      · exact hdigits
  | text s =>
      rw [literalChars_text]
      exact .quoted _
  | @tuple _ items _ ih =>
      match items with
      | [] => exact .outside rfl
      | [v] =>
          rw [literalChars_single]
          exact .cons (by decide) ((ih v List.mem_cons_self).append (.outside rfl))
      | v :: w :: vs =>
          rw [literalChars_several]
          exact .cons (by decide) (pieces_closedChars ih)

end Value

namespace Expr

/-! ## Lexemes -/

/-- What may stand behind an item: the end, a comma or a closing parenthesis. -/
inductive Follows : List Char → Prop
  | nothing : Follows []
  | comma (rest : List Char) : Follows (',' :: rest)
  | close (rest : List Char) : Follows (')' :: rest)

theorem readLexeme?_none {rest : List Char} (h : Follows rest) :
    readLexeme? ('N' :: 'o' :: 'n' :: 'e' :: rest) = some (.keyword "None", rest) := by
  cases h <;> rfl

theorem readLexeme?_minus {c : Char} (h : c.isDigit = true) (rest : List Char) :
    readLexeme? ('-' :: c :: rest) = some (.mark "-", c :: rest) := by
  have hne : ∀ d : Char, d.isDigit = false → (d == c) = false := fun d hd =>
    beq_eq_false_iff_ne.mpr (Text.ne_of_class h hd).symm
  have hmark : marks.find? (fun m => m.toList.isPrefixOf ('-' :: c :: rest)) = some "-" := by
    simp [marks, List.find?, List.isPrefixOf, hne '=' (by decide), hne '>' (by decide)]
  have hword : isWordChar '-' = false := by decide
  simp only [readLexeme?, readMark?, hmark, hword]
  rfl

theorem readLexeme?_quoteChars (cs : List Char) {rest : List Char} (h : Follows rest) :
    readLexeme? (Text.quoteChars cs ++ rest) = some (.text (String.ofList cs), rest) := by
  have hquoted : readQuoted? {} (Text.quoteChars cs ++ rest) =
      some (.text (String.ofList cs), rest) := by
    refine readQuoted?_quoteChars cs ?_
    rcases Text.quoteFor_cases cs with hmark | hmark <;> rw [hmark] <;> cases h <;> simp
  rw [← hquoted]
  rcases Text.quoteFor_cases cs with hmark | hmark <;> rw [Text.quoteChars, hmark] <;> rfl

section Number

variable {digits rest : List Char}

theorem digitRun?_digits (hne : digits ≠ []) (hdigits : ∀ c ∈ digits, c.isDigit = true)
    (h : Follows rest) (fuel : Nat) :
    digitRun? Char.isDigit (fuel + 1) (digits ++ rest) = some (digits, rest) := by
  have htake : (digits ++ rest).takeWhile Char.isDigit = digits := by
    rw [List.takeWhile_append_of_pos hdigits]
    cases h <;> simp [Char.isDigit]
  have hdrop : (digits ++ rest).dropWhile Char.isDigit = rest := by
    rw [List.dropWhile_append_of_pos hdigits]
    cases h <;> simp [Char.isDigit]
  have hempty : digits.isEmpty = false := by simpa using hne
  simp only [digitRun?, htake, hdrop, hempty, Bool.false_eq_true, if_false]
  cases h <;> rfl

theorem numberEnd?_digits (hzero : digits.head? = some '0' → digits = ['0'])
    (hlength : digits.length ≤ Text.maxIntegerDigits) (h : Follows rest) :
    numberEnd? digits [] false rest = some (.int (Number.digitsValue digits), rest) := by
  have hlead : (digits.head? = some '0' && digits.any (· != '0')) = false := by
    by_cases hhead : digits.head? = some '0'
    · rw [hzero hhead]
      rfl
    · rw [decide_eq_false hhead, Bool.false_and]
  have hexponent : exponent? rest = some none := by cases h <;> rfl
  simp only [numberEnd?, hexponent, hlead, if_neg (Nat.not_lt.mpr hlength)]
  cases h <;> rfl

/-- Digits are read as a number up to what may stand behind it. -/
theorem readNumber?_digits (hne : digits ≠ []) (hdigits : ∀ c ∈ digits, c.isDigit = true)
    (hzero : digits.head? = some '0' → digits = ['0'])
    (hlength : digits.length ≤ Text.maxIntegerDigits) (h : Follows rest) :
    readNumber? (digits ++ rest) = some (.int (Number.digitsValue digits), rest) := by
  have hdecimal : readNumber?.decimal? (digits ++ rest) =
      some (.int (Number.digitsValue digits), rest) := by
    simp only [readNumber?.decimal?, digitRun?_digits hne hdigits h]
    rw [← numberEnd?_digits hzero hlength h]
    cases h <;> rfl
  obtain ⟨d, ds, rfl⟩ := List.exists_cons_of_ne_nil hne
  unfold readNumber?
  split
  next heq =>
    rw [(List.cons.inj heq).1] at hdigits
    exact absurd (hdigits '.' List.mem_cons_self) (by decide)
  next c more heq =>
    -- only the number zero starts with a zero, so that no letter of a base follows
    obtain ⟨rfl, htail⟩ := List.cons.inj heq
    obtain ⟨-, rfl⟩ := List.cons.inj (hzero rfl)
    rw [← hdecimal]
    cases h <;> cases htail <;> rfl
  next => exact hdecimal

theorem readLexeme?_digits (hne : digits ≠ []) (hdigits : ∀ c ∈ digits, c.isDigit = true)
    (hzero : digits.head? = some '0' → digits = ['0'])
    (hlength : digits.length ≤ Text.maxIntegerDigits) (h : Follows rest) :
    readLexeme? (digits ++ rest) = some (.number (.int (Number.digitsValue digits)), rest) := by
  have hnumber := readNumber?_digits hne hdigits hzero hlength h
  obtain ⟨d, ds, rfl⟩ := List.exists_cons_of_ne_nil hne
  have hd := hdigits d List.mem_cons_self
  rw [List.cons_append] at hnumber ⊢
  simp only [readLexeme?, hd, Bool.true_or, if_true, hnumber, Option.map_some]

end Number

theorem head?_toDigits {n : Nat} (h : (Nat.toDigits 10 n).head? = some '0') :
    Nat.toDigits 10 n = ['0'] := by
  induction n using Nat.strongRecOn with
  | ind n ih =>
      rw [Nat.toDigits_eq_if (by decide)] at h ⊢
      split at h
      next hlt =>
        rw [if_pos hlt]
        exact congrArg (fun c => [c]) (Option.some.inj h)
      next hge =>
        -- the digits before the last one are those of a number that is not zero
        rw [List.head?_append_of_ne_nil _ (by simp)] at h
        have hvalue := Text.ofDigits_toDigits (n / 10)
        rw [ih (n / 10) (by omega) h] at hvalue
        have hzero : n / 10 = 0 := hvalue.symm
        omega

theorem exists_toDigits_eq_cons (n : Nat) :
    ∃ d ds, Nat.toDigits 10 n = d :: ds ∧ d.isDigit = true := by
  obtain ⟨d, ds, heq⟩ := List.exists_cons_of_ne_nil (l := Nat.toDigits 10 n) (by simp)
  exact ⟨d, ds, heq, Nat.isDigit_of_mem_toDigits (b := 10) (n := n) (by decide) (by decide)
    (heq ▸ List.mem_cons_self)⟩

theorem readLexeme?_toDigits {n : Nat} (hwritable : Text.isWritable n = true)
    {rest : List Char} (h : Follows rest) :
    readLexeme? (Nat.toDigits 10 n ++ rest) = some (.number (.int n), rest) := by
  rw [readLexeme?_digits (by simp) Text.isDigit_of_mem_toDigits
    head?_toDigits ((Text.isWritable_iff_length n).mp hwritable) h, Number.digitsValue,
    Text.ofDigits_toDigits]

/-! ## Plain values -/

mutual

/-- The lexemes of a plain value's literal. -/
def lexemes : Value → List Lexeme
  | .int n =>
    if n < 0 then [.mark "-", .number (.int n.natAbs)] else [.number (.int n.natAbs)]
  | .text s => [.text s]
  | .tuple [] => [.mark "(", .mark ")"]
  | .tuple (v :: vs) => .mark "(" :: (lexemes v ++ .mark "," :: closedLexemes vs)
  | _ => [.keyword "None"]

/-- The lexemes of literals between commas, and the closing parenthesis. -/
def closedLexemes : List Value → List Lexeme
  | [] => [.mark ")"]
  | [v] => lexemes v ++ [.mark ")"]
  | v :: vs => lexemes v ++ .mark "," :: closedLexemes vs

end

theorem closedLexemes_cons_cons (v w : Value) (vs : List Value) :
    closedLexemes (v :: w :: vs) = lexemes v ++ .mark "," :: closedLexemes (w :: vs) := by
  rw [closedLexemes]
  exact List.cons_ne_nil _ _

/-- A lexeme can start with the character. -/
def IsStart (c : Char) : Prop := isTokenBlank c = false ∧ c ≠ '#' ∧ c ≠ '\n' ∧ c ≠ '\\'

instance (c : Char) : Decidable (IsStart c) := inferInstanceAs (Decidable (_ ∧ _ ∧ _ ∧ _))

theorem isStart_of_isDigit {c : Char} (h : c.isDigit = true) : IsStart c := by
  have hne : ∀ d : Char, d.isDigit = false → c ≠ d := fun _ => Text.ne_of_class h
  have hrange := Text.toNat_of_isDigit h
  refine ⟨?_, hne _ (by decide), hne _ (by decide), hne _ (by decide)⟩
  have hfeed : c.toNat ≠ 12 := by omega
  simp [isTokenBlank, hne ' ' (by decide), hne '\t' (by decide), hfeed]

/-- Characters are cut into lexemes up to the end, with the given brackets open before them. -/
inductive Lexes : List String → List Char → List Lexeme → Prop
  | nothing : Lexes [] [] []
  | blank {brackets : List String} {cs : List Char} {ls : List Lexeme} (h : Lexes brackets cs ls) :
      Lexes brackets (' ' :: cs) ls
  | lexeme {brackets inside : List String} {c : Char} {cs rest : List Char} {l : Lexeme}
      {ls : List Lexeme} (hstart : IsStart c) (hread : readLexeme? (c :: cs) = some (l, rest))
      (hshorter : rest.length ≤ cs.length) (hinside : trackBrackets? brackets l = some inside)
      (hdepth : inside.length ≤ maxBrackets) (h : Lexes inside rest ls) :
      Lexes brackets (c :: cs) (l :: ls)

theorem Lexes.tokensFrom? {brackets : List String} {cs : List Char} {ls : List Lexeme}
    (h : Lexes brackets cs ls) (size : Nat) {fuel : Nat} (hfuel : cs.length < fuel) :
    ∃ ts, tokensFrom? size fuel brackets false cs = some ts ∧ ts.map Token.lexeme = ls := by
  induction h generalizing fuel with
  | nothing =>
      cases fuel with
      | zero => cases hfuel
      | succ fuel => exact ⟨[], rfl, rfl⟩
  | blank h ih =>
      cases fuel with
      | zero => cases hfuel
      | succ fuel => exact ih (Nat.lt_of_succ_lt_succ hfuel)
  | @lexeme brackets inside c cs rest l ls hstart hread hshorter hinside hdepth h ih =>
      cases fuel with
      | zero => cases hfuel
      | succ fuel =>
          obtain ⟨ts, hts, hls⟩ := ih (hshorter.trans_lt (Nat.lt_of_succ_lt_succ hfuel))
          obtain ⟨hblank, hhash, hbreak, hslash⟩ := hstart
          have htokens : Expr.tokensFrom? size (fuel + 1) brackets false (c :: cs) =
              some (⟨l, size - (cs.length + 1), size - rest.length⟩ :: ts) := by
            simp only [Expr.tokensFrom?, hblank, hhash, hbreak, hslash, hread, hinside, hts,
              Nat.not_lt.mpr hdepth, Bool.false_eq_true, if_false, bind, Option.bind, pure]
          exact ⟨_, htokens, by rw [List.map_cons, hls]⟩

section Literal

variable {brackets : List String} {rest : List Char} {ls : List Lexeme}

theorem Lexes.close (h : Lexes brackets rest ls) (hdepth : brackets.length ≤ maxBrackets) :
    Lexes (")" :: brackets) (')' :: rest) (.mark ")" :: ls) :=
  .lexeme (by decide) rfl (Nat.le_refl _) rfl hdepth h

theorem Lexes.comma (h : Lexes brackets rest ls) (hdepth : brackets.length ≤ maxBrackets) :
    Lexes brackets (',' :: rest) (.mark "," :: ls) :=
  .lexeme (by decide) rfl (Nat.le_refl _) rfl hdepth h

theorem Lexes.open (h : Lexes (")" :: brackets) rest ls) (hdepth : brackets.length < maxBrackets) :
    Lexes brackets ('(' :: rest) (.mark "(" :: ls) :=
  .lexeme (by decide) rfl (Nat.le_refl _) rfl hdepth h

theorem Lexes.digits (h : Lexes brackets rest ls) (hdepth : brackets.length ≤ maxBrackets)
    (hfollows : Follows rest) {n : Nat} (hwritable : Text.isWritable n = true) :
    Lexes brackets (Nat.toDigits 10 n ++ rest) (.number (.int n) :: ls) := by
  have hread := readLexeme?_toDigits hwritable hfollows
  obtain ⟨d, ds, hdigits, hd⟩ := exists_toDigits_eq_cons n
  rw [hdigits] at hread ⊢
  exact .lexeme (isStart_of_isDigit hd) hread (by simp) rfl hdepth h

/-- The literal of a value is cut into its lexemes, whatever may stand behind it. -/
def IsCut (brackets : List String) (v : Value) : Prop :=
  ∀ rest ls, Follows rest → Lexes brackets rest ls →
    Lexes brackets (v.literalChars ++ rest) (lexemes v ++ ls)

theorem Lexes.closed {items : List Value} (hitems : ∀ v ∈ items, IsCut (")" :: brackets) v)
    (h : Lexes brackets rest ls) (hdepth : brackets.length < maxBrackets) :
    Lexes (")" :: brackets) (Value.closedChars items ++ rest) (closedLexemes items ++ ls) := by
  induction items with
  | nil => exact h.close hdepth.le
  | cons v items ih =>
      have hv := hitems v List.mem_cons_self
      cases items with
      | nil =>
          simp only [Value.closedChars, closedLexemes, List.append_assoc]
          exact hv _ _ (.close _) (h.close hdepth.le)
      | cons w items =>
          have hmore := ih fun u hu => hitems u (List.mem_cons_of_mem _ hu)
          simp only [Value.closedChars, closedLexemes, List.append_assoc]
          exact hv _ _ (.comma _) (.comma (.blank hmore) hdepth)

theorem IsCut.tuple {items : List Value} (hitems : ∀ v ∈ items, IsCut (")" :: brackets) v)
    (hdepth : brackets.length < maxBrackets) : IsCut brackets (.tuple items) := by
  intro rest ls _ hrest
  cases items with
  | nil => exact .open (hrest.close hdepth.le) hdepth
  | cons v items =>
      have hv := hitems v List.mem_cons_self
      cases items with
      | nil =>
          have htail := Lexes.comma (hrest.close hdepth.le) hdepth
          simp only [Value.literalChars_single, lexemes, closedLexemes, List.cons_append,
            List.append_assoc]
          exact .open (hv _ _ (.comma _) htail) hdepth
      | cons w items =>
          have htail := hrest.closed (fun u hu => hitems u (List.mem_cons_of_mem _ hu)) hdepth
          simp only [Value.literalChars_several, Value.closedChars, lexemes, List.cons_append,
            List.append_assoc]
          exact .open (hv _ _ (.comma _) (.comma (.blank htail) hdepth)) hdepth

variable (brackets) in
/-- The literals of plain values are cut into their lexemes. -/
theorem isCut_of_plain {depth : Nat} {v : Value} (h : v.Plain depth)
    (hdepth : brackets.length + depth ≤ maxBrackets) : IsCut brackets v := by
  induction h generalizing brackets with
  | none =>
      intro rest ls hfollows hrest
      have hshorter : rest.length ≤ ('o' :: 'n' :: 'e' :: rest).length := by
        simp only [List.length_cons]
        omega
      exact .lexeme (by decide) (readLexeme?_none hfollows) hshorter rfl (by omega) hrest
  | @int depth n hwritable =>
      intro rest ls hfollows hrest
      have habs : Text.isWritable n.natAbs = true := by
        rwa [Text.isWritable, Int.natAbs_natCast]
      have hdigits := hrest.digits (by omega) hfollows habs
      rw [Value.literalChars_int, lexemes]
      split
      · obtain ⟨d, ds, heq, hd⟩ := exists_toDigits_eq_cons n.natAbs
        have hread := readLexeme?_minus hd (ds ++ rest)
        rw [heq] at hdigits ⊢
        exact .lexeme (by decide) hread (Nat.le_refl _) rfl (by omega) hdigits
      · exact hdigits
  | text s =>
      intro rest ls hfollows hrest
      have hread := readLexeme?_quoteChars s.toList hfollows
      have hstart : IsStart (Text.quoteFor s.toList) := by
        rcases Text.quoteFor_cases s.toList with hmark | hmark <;> rw [hmark] <;> decide
      rw [Value.literalChars_text, lexemes]
      rw [String.ofList_toList] at hread
      exact .lexeme hstart hread (List.sublist_append_right _ _).length_le rfl (by omega) hrest
  | tuple hitems ih =>
      exact .tuple (fun v hv => ih v hv _ (by simp only [List.length_cons]; omega)) (by omega)

end Literal

theorem exists_literalChars_eq_cons {depth : Nat} {v : Value} (h : v.Plain depth) :
    ∃ c cs, v.literalChars = c :: cs ∧ IsStart c ∧ Text.isBlank c = false := by
  cases h with
  | none => exact ⟨'N', ['o', 'n', 'e'], rfl, by decide, by decide⟩
  | @int _ n _ =>
      rw [Value.literalChars_int]
      split
      · exact ⟨'-', _, rfl, by decide, by decide⟩
      · obtain ⟨d, ds, heq, hd⟩ := exists_toDigits_eq_cons n.natAbs
        exact ⟨d, ds, heq, isStart_of_isDigit hd, (Text.of_isDigit hd).2.2.2⟩
  | text s =>
      refine ⟨Text.quoteFor s.toList, _, Value.literalChars_text s, ?_⟩
      rcases Text.quoteFor_cases s.toList with hmark | hmark <;> rw [hmark] <;> decide
  | @tuple _ items _ =>
      match items with
      | [] => exact ⟨'(', _, rfl, by decide, by decide⟩
      | [v] => exact ⟨'(', _, Value.literalChars_single v, by decide, by decide⟩
      | v :: w :: vs => exact ⟨'(', _, Value.literalChars_several v w vs, by decide, by decide⟩

theorem skipLeading?_of_isStart {c : Char} (h : IsStart c) (fuel : Nat) (cs : List Char) :
    skipLeading? (fuel + 1) (c :: cs) = some (c :: cs) := by
  obtain ⟨hblank, hhash, hbreak, hslash⟩ := h
  have hbody : (c :: cs).dropWhile isTokenBlank = c :: cs :=
    List.dropWhile_cons_of_neg (by simp [hblank])
  have hcontinued : skipLeading?.skipContinued? fuel (c :: cs) = some (c :: cs) := by
    unfold skipLeading?.skipContinued?
    split
    next heq => exact absurd (List.cons.inj heq).1 hslash
    next => rfl
  rw [skipLeading?, hbody]
  split
  next heq => exact absurd (List.cons.inj heq).1 hhash
  next heq => exact absurd (List.cons.inj heq).1 hbreak
  next => rw [if_pos rfl, hcontinued]

/-- Characters that are cut into lexemes from the first one on have these tokens. -/
theorem Lexes.tokens? {c : Char} {cs : List Char} {ls : List Lexeme} (h : Lexes [] (c :: cs) ls)
    (hstart : IsStart c) : ∃ ts, Expr.tokens? (c :: cs) = some ts ∧ ts.map Token.lexeme = ls := by
  obtain ⟨ts, hts, hls⟩ := h.tokensFrom? (c :: cs).length (Nat.lt_succ_self _)
  refine ⟨ts, ?_, hls⟩
  rw [Expr.tokens?, List.length_cons, skipLeading?_of_isStart hstart]
  exact hts

/-- A plain value's literal has the expected tokens. -/
theorem tokens?_literalChars {depth : Nat} {v : Value} (h : v.Plain depth)
    (hdepth : depth ≤ maxBrackets) :
    ∃ ts, tokens? v.literalChars = some ts ∧ ts.map Token.lexeme = lexemes v := by
  obtain ⟨c, cs, heq, hstart, -⟩ := exists_literalChars_eq_cons h
  have hcut := isCut_of_plain [] h (by simpa using hdepth) [] [] .nothing .nothing
  rw [List.append_nil, List.append_nil, heq] at hcut
  rw [heq]
  exact hcut.tokens? hstart

end Expr

end PipeTable
