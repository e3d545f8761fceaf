import Mathlib
import PipeTable.Proofs.Progressions
import PipeTable.Proofs.Responses

/-! # Selectors as text

A selector is written as its items with commas and blanks between them.  A number is written in
decimal, a range as its ends and its step with colons between them; what has its default value may
be left out.  The items are read back as they were if none of the numbers has too many digits, so
that the text comes to the same numbers as the list of the items.
-/

namespace PipeTable.Selection

open Text (Numeral isWritable)

/-! ## Numbers of ranges -/

/-- A number of a range, in decimal or, if it is the default, left out. -/
inductive Bound (default : Int) : Int → List Char → Prop
  | written {n : Int} {token : List Char} (h : Numeral n token) : Bound default n token
  | omitted : Bound default default []

/-- Whether a character may stand in a numeral. -/
def isPlain (c : Char) : Bool := c.isDigit || c = '+' || c = '-'

theorem isPlain_of_numeral {n : Int} {token : List Char} (h : Numeral n token) :
    ∀ c ∈ token, isPlain c = true := by
  have hdigits (n : Nat) : ∀ c ∈ Nat.toDigits 10 n, isPlain c = true := fun c hc => by
    rw [isPlain, Text.isDigit_of_mem_toDigits c hc]
    rfl
  cases h with
  | plain n => exact hdigits n
  | plus n => exact List.forall_mem_cons.mpr ⟨rfl, hdigits n⟩
  | minus n => exact List.forall_mem_cons.mpr ⟨rfl, hdigits n⟩

section Cutting

variable {token : List Char} (h : ∀ c ∈ token, isPlain c = true)
include h

theorem ne_colon : ∀ c ∈ token, decide (c = ':') = false := fun c hc =>
  decide_eq_false fun hcolon => by
    have hplain := h c hc
    rw [hcolon] at hplain
    cases hplain

theorem pieces_plain : Text.pieces (· = ':') token = [token] :=
  Text.pieces_of_none (ne_colon h)

theorem pieces_colon (rest : List Char) :
    Text.pieces (· = ':') (token ++ ':' :: rest) = token :: Text.pieces (· = ':') rest :=
  Text.pieces_append (ne_colon h) (decide_eq_true rfl)

end Cutting

theorem isWritable_zero : isWritable 0 = true := Text.isWritable_of_le (by decide)

theorem isWritable_one : isWritable 1 = true := Text.isWritable_of_le (by decide)

/-- A numeral that is read as a part of an atom is its integer, unless it has too many digits. -/
theorem readPart_numeral {n : Int} {token : List Char} (h : Numeral n token) (atom : String)
    (default : Int) : readPart (String.ofList token) atom default =
      if isWritable n then .ok n else .error (.parse (.badSelector (.text atom))) := by
  have hne : String.ofList token ≠ "" := by
    simpa using h.ne_nil
  rw [readPart, if_neg hne, Text.readInteger?, String.toList_ofList, h.read]
  cases isWritable n <;> rfl

namespace Bound

variable {default n : Int} {token : List Char} (h : Bound default n token)
include h

theorem plain : ∀ c ∈ token, isPlain c = true := by
  cases h with
  | written h => exact isPlain_of_numeral h
  | omitted => exact List.forall_mem_nil _

theorem read (hdefault : isWritable default = true) (atom : String) :
    readPart (String.ofList token) atom default =
      if isWritable n then .ok n else .error (.parse (.badSelector (.text atom))) := by
  cases h with
  | written h => exact readPart_numeral h atom default
  | omitted => exact (if_pos rfl).trans (if_pos hdefault).symm

end Bound

/-! ## Items -/

namespace Item

/-- The forms of an item: a numeral; the ends of a range with a colon between them, if the step is
one; or the ends and the step. -/
inductive Token : Item → List Char → Prop
  | single {n : Int} {token : List Char} (h : Numeral n token) : Token (.single n) token
  | pair {start stop : Int} {first last : List Char} {hstep : (1 : Int) ≠ 0}
      (hfirst : Bound 1 start first) (hlast : Bound 0 stop last) :
      Token (.range start stop 1 hstep) (first ++ ':' :: last)
  | triple {start stop step : Int} {first last increment : List Char} {hstep : step ≠ 0}
      (hfirst : Bound 1 start first) (hlast : Bound 0 stop last)
      (hincrement : Bound 1 step increment) :
      Token (.range start stop step hstep) (first ++ ':' :: (last ++ ':' :: increment))

/-- None of the numbers of the item has too many digits. -/
def IsShort : Item → Prop
  | .single n => isWritable n = true
  | .range start stop step _ =>
    isWritable start = true ∧ isWritable stop = true ∧ isWritable step = true

/-- The error that reports an item as a whole. -/
def refused (token : List Char) : Error := .parse (.badSelector (.text (String.ofList token)))

namespace Token

variable {item : Item} {token : List Char} (h : item.Token token)
include h

theorem ne_nil : token ≠ [] := by
  cases h with
  | single h => exact h.ne_nil
  | pair => simp
  | triple => simp

/-- An item is read from its forms, unless one of its numbers has too many digits. -/
theorem read : (item.IsShort → readAtom (String.ofList token) = .ok item.atom) ∧
    (¬ item.IsShort → readAtom (String.ofList token) = .error (refused token)) := by
  cases h with
  | @single n _ h =>
      rw [readAtom, String.toList_ofList, pieces_plain (isPlain_of_numeral h)]
      simp only [List.map_cons, List.map_nil, readPart_numeral h, IsShort]
      by_cases hn : isWritable n = true
      · simp [hn, bind, Except.bind, pure, Except.pure, atom]
      · simp [hn, bind, Except.bind, refused]
  | @pair start stop first last hstep hfirst hlast =>
      rw [readAtom, String.toList_ofList, pieces_colon hfirst.plain, pieces_plain hlast.plain]
      simp only [List.map_cons, List.map_nil, hfirst.read isWritable_one,
        hlast.read isWritable_zero, IsShort, isWritable_one]
      by_cases hstart : isWritable start = true
      · by_cases hstop : isWritable stop = true
        · simp [hstart, hstop, bind, Except.bind, pure, Except.pure, atom]
        · simp [hstart, hstop, bind, Except.bind, refused]
      · simp [hstart, bind, Except.bind, refused]
  | @triple start stop step first last increment hstep hfirst hlast hincrement =>
      rw [readAtom, String.toList_ofList, pieces_colon hfirst.plain, pieces_colon hlast.plain,
        pieces_plain hincrement.plain]
      simp only [List.map_cons, List.map_nil, hfirst.read isWritable_one,
        hlast.read isWritable_zero, hincrement.read isWritable_one, IsShort]
      by_cases hstart : isWritable start = true
      · by_cases hstop : isWritable stop = true
        · by_cases hshort : isWritable step = true
          · simp [hstart, hstop, hshort, hstep, bind, Except.bind, pure, Except.pure, atom]
          · simp [hstart, hstop, hshort, bind, Except.bind, refused]
        · simp [hstart, hstop, bind, Except.bind, refused]
      · simp [hstart, bind, Except.bind, refused]

end Token

end Item

/-! ## Texts -/

/-- Whether a character stands between items. -/
def isSeparator (c : Char) : Bool := c = ',' || Text.isBlank c

theorem atomTexts_eq (text : String) :
    atomTexts text = (Text.runs isSeparator text.toList).map String.ofList := rfl

theorem isSeparator_of_plain {c : Char} (h : isPlain c = true) : isSeparator c = false := by
  simp only [isPlain, Bool.or_eq_true, decide_eq_true_eq] at h
  rcases h with (hdigit | rfl) | rfl
  · have hcomma : c ≠ ',' := by
      rintro rfl
      cases hdigit
    rw [isSeparator, (Text.of_isDigit hdigit).2.2.2, Bool.or_false]
    exact decide_eq_false hcomma
  · rfl
  · rfl

/-- No separator stands within an item. -/
theorem Item.Token.solid {item : Item} {token : List Char} (h : item.Token token) :
    ∀ c ∈ token, isSeparator c = false := by
  have hcolon {rest : List Char} (hrest : ∀ c ∈ rest, isSeparator c = false) :
      ∀ c ∈ ':' :: rest, isSeparator c = false := List.forall_mem_cons.mpr ⟨rfl, hrest⟩
  have hplain {token : List Char} (htoken : ∀ c ∈ token, isPlain c = true) :
      ∀ c ∈ token, isSeparator c = false := fun c hc => isSeparator_of_plain (htoken c hc)
  cases h with
  | single h => exact hplain (isPlain_of_numeral h)
  | pair hfirst hlast =>
      exact List.forall_mem_append.mpr ⟨hplain hfirst.plain, hcolon (hplain hlast.plain)⟩
  | triple hfirst hlast hincrement =>
      exact List.forall_mem_append.mpr ⟨hplain hfirst.plain, hcolon <|
        List.forall_mem_append.mpr ⟨hplain hlast.plain, hcolon (hplain hincrement.plain)⟩⟩

/-- Items one after the other, with separators between them and, perhaps, after the last. -/
inductive Joined : List Item → List Char → Prop
  | nil : Joined [] []
  | cons {item : Item} {items : List Item} {token gap rest : List Char} (htoken : item.Token token)
      (hgap : ∀ c ∈ gap, isSeparator c = true) (hapart : items ≠ [] → gap ≠ [])
      (hrest : Joined items rest) : Joined (item :: items) (token ++ (gap ++ rest))

/-- Items with separators between them and, perhaps, around them. -/
def Spelled (items : List Item) (text : List Char) : Prop :=
  ∃ gap rest, (∀ c ∈ gap, isSeparator c = true) ∧ Joined items rest ∧ text = gap ++ rest

/-- What stands between the separators are the items. -/
theorem Joined.tokens {items : List Item} {text : List Char} (h : Joined items text) :
    List.Forall₂ Item.Token items (Text.runs isSeparator text) := by
  induction h with
  | nil => exact .nil
  | @cons item items token gap rest htoken hgap hapart hrest ih =>
      have hnext : ∀ c ∈ (gap ++ rest).head?, isSeparator c = true := by
        cases gap with
        | nil =>
            -- without separators behind it, the item is the last one
            have hlast : items = [] := by_contra fun hne => hapart hne rfl
            subst hlast
            cases hrest
            nofun
        | cons d gap =>
            rintro c ⟨⟩
            exact hgap d List.mem_cons_self
      rw [Text.runs_append_of_none htoken.ne_nil htoken.solid hnext, Text.runs_append_left hgap]
      exact .cons htoken ih

theorem Spelled.tokens {items : List Item} {text : List Char} (h : Spelled items text) :
    List.Forall₂ Item.Token items (Text.runs isSeparator text) := by
  obtain ⟨gap, rest, hgap, hrest, rfl⟩ := h
  rw [Text.runs_append_left hgap]
  exact hrest.tokens

/-- All items are read from their forms, or one of them is refused. -/
theorem mapM_readAtom {items : List Item} {tokens : List (List Char)}
    (h : List.Forall₂ Item.Token items tokens) :
    ((∀ item ∈ items, item.IsShort) →
      (tokens.map String.ofList).mapM readAtom = .ok (items.map Item.atom)) ∧
    ((∃ item ∈ items, ¬ item.IsShort) →
      ∃ token ∈ tokens, (tokens.map String.ofList).mapM readAtom = .error (Item.refused token)) := by
  induction h with
  | nil => exact ⟨fun _ => rfl, nofun⟩
  | @cons item token items tokens htoken _ ih =>
      obtain ⟨hread, hrefused⟩ := htoken.read
      rw [List.map_cons, List.mapM_cons]
      constructor
      · intro hshort
        obtain ⟨hitem, hitems⟩ := List.forall_mem_cons.mp hshort
        rw [hread hitem, ih.1 hitems]
        rfl
      · intro hlong
        by_cases hitem : item.IsShort
        · have hitems : ∃ item ∈ items, ¬ item.IsShort := by
            simpa [hitem] using hlong
          obtain ⟨other, hother, herror⟩ := ih.2 hitems
          refine ⟨other, List.mem_cons_of_mem _ hother, ?_⟩
          rw [hread hitem, herror]
          rfl
        · refine ⟨token, List.mem_cons_self, ?_⟩
          rw [hrefused hitem]
          rfl

/-- A selector that is written as items with commas and blanks between them is read as these items,
and comes to the same numbers as the list of them, whatever there is to select from.  If a number has
too many digits, the piece of the text that it stands in is refused. -/
theorem parse_spelled {items : List Item} {text : String} (h : Spelled items text.toList) :
    ((∀ item ∈ items, item.IsShort) → parse text = .ok (items.map Item.atom) ∧
      ∀ length, ∃ selected, resolve (.text text) length = .ok selected ∧
        resolve (Item.listed items) length = .ok selected) ∧
    ((∃ item ∈ items, ¬ item.IsShort) → ∃ piece ∈ atomTexts text,
      parse text = .error (.parse (.badSelector (.text piece))) ∧
      ∀ length, resolve (.text text) length = .error (.parse (.badSelector (.text piece)))) := by
  obtain ⟨hread, hrefused⟩ := mapM_readAtom h.tokens
  rw [← atomTexts_eq] at hread hrefused
  refine ⟨fun hshort => ⟨hread hshort, fun length => ?_⟩, fun hlong => ?_⟩
  · obtain ⟨selected, hselected⟩ := (Item.isStepped_listed items).exists_resolve length
    refine ⟨selected, ?_, hselected⟩
    rw [resolve_eq (Item.ofValue_listed items)] at hselected
    rw [resolve_eq (show ofValue (.text text) = _ from hread hshort), hselected]
  · obtain ⟨token, htoken, herror⟩ := hrefused hlong
    refine ⟨String.ofList token, ?_, herror, fun length => ?_⟩
    · rw [atomTexts_eq]
      exact List.mem_map_of_mem htoken
    · rw [resolve, show ofValue (.text text) = _ from herror]
      rfl

/-- All forms of items, with what can be left out and signs, and separators of all kinds, also around
the items. -/
theorem parse_spelled_mixed :
    let items : List Item := [.single (-1), .range 1 0 1 (by decide), .range 3 0 1 (by decide),
      .range 0 1 (-2) (by decide), .range 1 0 (-1) (by decide), .single 5]
    let text := " ,-1,\t: 3:,, 0:1:-2 ::-1 +5\n"
    Spelled items text.toList ∧ (∀ item ∈ items, item.IsShort) ∧
      parse text = .ok (items.map Item.atom) ∧
      ∃ selected, resolve (.text text) 4 = .ok selected ∧
        resolve (Item.listed items) 4 = .ok selected := by
  intro items text
  have hgap (gap : List Char) (h : gap.all isSeparator = true) :
      ∀ c ∈ gap, isSeparator c = true := List.all_eq_true.mp h
  have hjoined : Joined items _ :=
    .cons (.single (.minus 1)) (hgap [',', '\t'] rfl) (fun _ => List.cons_ne_nil _ _) <|
    .cons (.pair .omitted .omitted) (hgap [' '] rfl) (fun _ => List.cons_ne_nil _ _) <|
    .cons (.pair (.written (.plain 3)) .omitted) (hgap [',', ',', ' '] rfl)
      (fun _ => List.cons_ne_nil _ _) <|
    .cons (.triple (.written (.plain 0)) (.written (.plain 1)) (.written (.minus 2)))
      (hgap [' '] rfl) (fun _ => List.cons_ne_nil _ _) <|
    .cons (.triple .omitted .omitted (.written (.minus 1))) (hgap [' '] rfl)
      (fun _ => List.cons_ne_nil _ _) <|
    .cons (.single (.plus 5)) (hgap ['\n'] rfl) (fun h => absurd rfl h) .nil
  have hspelled : Spelled items text.toList := ⟨[' ', ','], _, hgap _ rfl, hjoined, by decide⟩
  have hshort : ∀ item ∈ items, item.IsShort := by
    have hsmall (n : Int) (h : n.natAbs ≤ 4300) : isWritable n = true := Text.isWritable_of_le h
    simp [items, Item.IsShort, hsmall]
  obtain ⟨hparse, hresolve⟩ := (parse_spelled hspelled).1 hshort
  exact ⟨hspelled, hshort, hparse, hresolve 4⟩

section Digits

variable (n : Nat)

theorem spelled_toDigits : Spelled [.single n] (String.ofList (Nat.toDigits 10 n)).toList := by
  have hjoined : Joined [.single n] (Nat.toDigits 10 n ++ ([] ++ [])) :=
    .cons (.single (.plain n)) nofun (fun h => absurd rfl h) .nil
  refine ⟨[], Nat.toDigits 10 n, nofun, ?_, String.toList_ofList⟩
  simpa using hjoined

theorem parse_toDigits (hlong : isWritable n = false) :
    parse (String.ofList (Nat.toDigits 10 n)) =
      .error (.parse (.badSelector (.text (String.ofList (Nat.toDigits 10 n))))) := by
  have htoken : (Item.single n).Token (Nat.toDigits 10 n) := .single (.plain n)
  rw [parse, atomTexts_eq, String.toList_ofList, Text.runs_of_none htoken.ne_nil htoken.solid,
    List.map_singleton, List.mapM_cons, htoken.read.2 (by simp [Item.IsShort, hlong])]
  rfl

end Digits

/-- A number with too many digits is refused. -/
theorem parse_refuses_long_number :
    let n : Nat := 10 ^ Text.maxIntegerDigits
    let text := String.ofList (Nat.toDigits 10 n)
    Spelled [.single n] text.toList ∧ parse text = .error (.parse (.badSelector (.text text))) :=
  ⟨spelled_toDigits _, parse_toDigits _ (Text.not_isWritable_pow rfl)⟩

end PipeTable.Selection
