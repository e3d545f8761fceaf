import Mathlib
import PipeTable.Proofs.Selectors

/-! # Selectors that are refused

A selector as text is refused as it is read, whatever there is to select from.  The ranges of a list
are looked at as they are resolved, so that a step of zero goes unnoticed where there is nothing to
select from, and is refused everywhere else.
-/

namespace PipeTable.Selection

/-- The selector is refused as malformed when it is resolved among `length` elements. -/
def Refused (spec : Value) (length : Nat) : Prop :=
  ∃ cause, resolve spec length = .error (.parse cause)

/-! ## Text -/

/-- If something fails, it is refused as malformed. -/
def OnlyMalformed {α : Type} (x : Except Error α) : Prop :=
  ∀ e, x = .error e → ∃ cause, e = .parse cause

namespace OnlyMalformed

variable {α β : Type}

theorem ok (a : α) : OnlyMalformed (.ok a) := nofun

theorem refused (cause : ParseError) : OnlyMalformed (.error (.parse cause) : Except Error α) := by
  rintro _ ⟨⟩
  exact ⟨cause, rfl⟩

theorem bind {x : Except Error α} {f : α → Except Error β} (hx : OnlyMalformed x)
    (hf : ∀ a, OnlyMalformed (f a)) : OnlyMalformed (x >>= f) := by
  cases x with
  | ok a => exact hf a
  | error e => exact fun _ h => hx _ (congrArg _ (Except.error.inj h))

end OnlyMalformed

theorem readPart_onlyMalformed (text piece : String) (default : Int) :
    OnlyMalformed (readPart text piece default) := by
  unfold readPart
  split
  · exact .ok default
  · split
    · exact .ok _
    · exact .refused _

/-- A piece of a text that cannot be read is refused as malformed. -/
theorem readAtom_onlyMalformed (piece : String) : OnlyMalformed (readAtom piece) := by
  unfold readAtom
  split
  · exact (readPart_onlyMalformed _ _ _).bind fun _ => .ok _
  · refine (readPart_onlyMalformed _ _ _).bind fun start => ?_
    exact (readPart_onlyMalformed _ _ _).bind fun _ => .ok _
  · refine (readPart_onlyMalformed _ _ _).bind fun start => ?_
    refine (readPart_onlyMalformed _ _ _).bind fun stop => ?_
    refine (readPart_onlyMalformed _ _ _).bind fun step => ?_
    split
    · exact .refused _
    · exact .ok _
  · exact .refused _

theorem Atom.IsPlain.isStepped {atom : Atom} (h : atom.IsPlain) : atom.IsStepped := by
  cases atom with
  | index n => trivial
  | range start stop step =>
      obtain ⟨a, b, c, rfl, rfl, rfl, hc⟩ := h
      exact ⟨rfl, rfl, c, rfl, hc⟩

/-- A text is refused for a piece that cannot be read, whatever there is to select from. -/
theorem refused_text_iff (text : String) (length : Nat) :
    Refused (.text text) length ↔
      ∃ piece ∈ atomTexts text, ∃ cause, readAtom piece = .error (.parse cause) := by
  cases hparse : parse text with
  | error e =>
      obtain ⟨before, piece, after, hpieces, -, hpiece⟩ := Outcome.mapM_eq_error.mp hparse
      obtain ⟨cause, rfl⟩ := readAtom_onlyMalformed piece _ hpiece
      refine iff_of_true ⟨cause, ?_⟩ ⟨piece, by simp [hpieces], cause, hpiece⟩
      rw [resolve, ofValue, hparse]
      rfl
  | ok atoms =>
      have hatoms : ofValue (.text text) = .ok atoms := hparse
      have hstepped : IsStepped (.text text) := by
        refine ⟨atoms, hatoms, fun atom hatom => ?_⟩
        obtain ⟨piece, -, hpiece⟩ := Outcome.exists_of_mem_mapM hparse hatom
        exact ((readAtom_gives piece).of_ok hpiece).isStepped
      obtain ⟨numbers, hnumbers⟩ := hstepped.exists_resolve length
      refine iff_of_false ?_ ?_
      · rintro ⟨cause, h⟩
        rw [hnumbers] at h
        cases h
      · rintro ⟨piece, hpiece, cause, h⟩
        obtain ⟨atom, hatom⟩ := Outcome.exists_mapM_iff.mp ⟨atoms, hparse⟩ piece hpiece
        rw [hatom] at h
        cases h

/-- A piece of a text that is a range with a step of zero. -/
inductive IdlePiece : String → Prop
  | range {start stop : Int} {first last increment : List Char} (hfirst : Bound 1 start first)
      (hlast : Bound 0 stop last) (hincrement : Text.Numeral 0 increment) :
      IdlePiece (String.ofList (first ++ ':' :: (last ++ ':' :: increment)))

theorem IdlePiece.refused {piece : String} (h : IdlePiece piece) :
    ∃ cause, readAtom piece = .error (.parse cause) := by
  obtain @⟨start, stop, first, last, increment, hfirst, hlast, hincrement⟩ := h
  rw [readAtom, String.toList_ofList, pieces_colon hfirst.plain, pieces_colon hlast.plain,
    pieces_plain (isPlain_of_numeral hincrement)]
  simp only [List.map_cons, List.map_nil, hfirst.read isWritable_one, hlast.read isWritable_zero,
    readPart_numeral hincrement, isWritable_zero]
  cases Text.isWritable start
  · exact ⟨_, rfl⟩
  · cases Text.isWritable stop <;> exact ⟨_, rfl⟩

/-! ## Lists -/

/-- An entry of a listed selector: an integer, or a tuple of two or three integers. -/
inductive Entry where
  | single (n : Int)
  | pair (start stop : Int)
  | triple (start stop step : Int)

namespace Entry

/-- The entry as a value. -/
def toValue : Entry → Value
  | .single n => .int n
  | .pair start stop => .tuple [.int start, .int stop]
  | .triple start stop step => .tuple [.int start, .int stop, .int step]

/-- The entries as a list. -/
def listed (entries : List Entry) : Value := .list (entries.map toValue)

/-- The atom that the entry is read as. -/
def atom : Entry → Atom
  | .single n => .index n
  | .pair start stop => .range (.int start) (.int stop) (.int 1)
  | .triple start stop step => .range (.int start) (.int stop) (.int step)

/-- Whether the entry is a range with a step of zero. -/
def isIdle : Entry → Bool
  | .triple _ _ step => step = 0
  | _ => false

variable {entries : List Entry} {length : Nat}

theorem ofValue_listed (entries : List Entry) :
    ofValue (listed entries) = .ok (entries.map atom) := by
  have hatom : ∀ entry : Entry, atomOfValue entry.toValue = .ok entry.atom := fun entry => by
    cases entry <;> rfl
  change (entries.map toValue).mapM atomOfValue = _
  rw [List.mapM_map]
  exact Outcome.mapM_eq_ok fun entry _ => hatom entry

theorem isStepped_atom {entry : Entry} (h : entry.isIdle = false) : entry.atom.IsStepped := by
  cases entry with
  | single n => trivial
  | pair start stop => exact ⟨rfl, rfl, 1, rfl, one_ne_zero⟩
  | triple start stop step => exact ⟨rfl, rfl, step, rfl, of_decide_eq_false h⟩

theorem resolve_atom_of_isIdle {entry : Entry} (h : entry.isIdle = true) (length : Nat) :
    entry.atom.resolve length = .error (refuse .zeroStep entry.toValue) := by
  cases entry with
  | triple start stop step =>
      obtain rfl : step = 0 := of_decide_eq_true h
      have hzero : (Value.int 0).equals (.int 0) = true := by simp [Value.equals, Value.places?]
      rw [atom, Atom.resolve, if_pos hzero]
      rfl
  | _ => cases h

theorem resolve_listed_zero (entries : List Entry) : resolve (listed entries) 0 = .ok [] := by
  rw [resolve_eq (ofValue_listed entries)]
  rfl

/-- Without a step of zero a list is resolved whatever there is to select from. -/
theorem exists_resolve (h : entries.find? isIdle = none) (length : Nat) :
    ∃ numbers, resolve (listed entries) length = .ok numbers := by
  refine IsStepped.exists_resolve ⟨_, ofValue_listed entries, fun atom hatom => ?_⟩ length
  obtain ⟨entry, hentry, rfl⟩ := List.mem_map.mp hatom
  exact isStepped_atom (by simpa using List.find?_eq_none.mp h entry hentry)

/-- Where there is something to select from, the first step of zero is refused. -/
theorem resolve_of_find? {entry : Entry} (h : entries.find? isIdle = some entry)
    (hlength : length ≠ 0) :
    resolve (listed entries) length = .error (refuse .zeroStep entry.toValue) := by
  obtain ⟨hidle, before, after, rfl, hbefore⟩ := List.find?_eq_some_iff_append.mp h
  have hatoms : ((before ++ entry :: after).map atom).mapM (Atom.resolve length) =
      .error (refuse .zeroStep entry.toValue) := by
    refine Outcome.mapM_eq_error.mpr ⟨before.map atom, entry.atom, after.map atom, by simp,
      fun a ha => ?_, resolve_atom_of_isIdle hidle length⟩
    obtain ⟨other, hother, rfl⟩ := List.mem_map.mp ha
    exact (isStepped_atom (by simpa using hbefore other hother)).exists_resolve length
  rw [resolve_eq (ofValue_listed _), resolveAtoms, if_neg hlength, if_neg (by simp), hatoms]
  rfl

/-- A list is not resolved for its first step of zero and for nothing else, and only where there is
something to select from. -/
theorem resolve_listed_eq_error_iff {e : Error} :
    resolve (listed entries) length = .error e ↔ length ≠ 0 ∧
      ∃ entry, entries.find? isIdle = some entry ∧ refuse .zeroStep entry.toValue = e := by
  by_cases hlength : length = 0
  · subst hlength
    simp [resolve_listed_zero]
  · rw [and_iff_right hlength]
    cases hfind : entries.find? isIdle with
    | none =>
        obtain ⟨numbers, hnumbers⟩ := exists_resolve hfind length
        simp [hnumbers]
    | some entry => simp [resolve_of_find? hfind hlength]

/-- The first range with a step of zero in a list can be written, as a refusal has to do. -/
def HasIdle (entries : List Entry) : Prop :=
  ∃ entry, entries.find? isIdle = some entry ∧ entry.toValue.isWritable = true

theorem refuse_eq_parse_iff {cause : Value → ParseError} {v : Value} :
    (∃ shown, refuse cause v = .parse shown) ↔ v.isWritable = true := by
  rw [refuse]
  cases v.isWritable <;> simp

theorem refused_listed_iff (entries : List Entry) (length : Nat) :
    Refused (listed entries) length ↔ length ≠ 0 ∧ HasIdle entries := by
  simp only [Refused, resolve_listed_eq_error_iff]
  constructor
  · rintro ⟨cause, hlength, entry, hentry, hcause⟩
    exact ⟨hlength, entry, hentry, refuse_eq_parse_iff.mp ⟨cause, hcause⟩⟩
  · rintro ⟨hlength, entry, hentry, hwritable⟩
    have hparse : ∃ cause, refuse .zeroStep entry.toValue = .parse cause :=
      refuse_eq_parse_iff.mpr hwritable
    obtain ⟨cause, hcause⟩ := hparse
    exact ⟨cause, hlength, entry, hentry, hcause⟩

theorem isWritable_triple {start stop step : Int} (hstart : start.natAbs ≤ Text.maxIntegerDigits)
    (hstop : stop.natAbs ≤ Text.maxIntegerDigits) (hstep : step.natAbs ≤ Text.maxIntegerDigits) :
    (triple start stop step).toValue.isWritable = true := by
  simp [toValue, Value.isWritable, Value.areWritable, Text.isWritable_of_le, hstart, hstop, hstep]

end Entry

open Entry (listed HasIdle)

/-- A text is refused as malformed among any number of elements or among none, and a step of zero
in it is one reason.  A list is refused alike among `m` and among `n` elements unless the first
range with a step of zero in it can be written and just one of the two is nothing at all: a step of
zero is found where there is something to select from, and only there. -/
theorem refused_alike (text : String) (entries : List Entry) (m n : Nat) :
    (Refused (.text text) m ↔ Refused (.text text) n) ∧
      ((∃ piece ∈ atomTexts text, IdlePiece piece) → Refused (.text text) m) ∧
      ((Refused (listed entries) m ↔ Refused (listed entries) n) ↔
        (HasIdle entries → (m = 0 ↔ n = 0))) ∧
      ((∃ e, resolve (listed entries) m = .error e) ↔
        m ≠ 0 ∧ ∃ entry ∈ entries, entry.isIdle = true) := by
  refine ⟨?_, ?_, ?_, ?_⟩
  · rw [refused_text_iff, refused_text_iff]
  · rintro ⟨piece, hpiece, hidle⟩
    exact (refused_text_iff text m).mpr ⟨piece, hpiece, hidle.refused⟩
  · rw [Entry.refused_listed_iff, Entry.refused_listed_iff]
    tauto
  · simp [Entry.resolve_listed_eq_error_iff, ← List.find?_isSome, Option.isSome_iff_exists]

/-- A text with a sign and an omitted end at a step of zero, and a list with two steps of zero
behind other entries. -/
theorem refused_alike_mixed :
    let text := " 3, :-2:+0 x"
    let entries : List Entry := [.single (-1), .pair 1 2, .triple 5 0 0, .triple 0 0 0]
    (∃ piece ∈ atomTexts text, IdlePiece piece) ∧ Refused (.text text) 0 ∧
      Refused (.text text) 7 ∧ HasIdle entries ∧ (2 = 0 ↔ 7 = 0) ∧
      (Refused (listed entries) 2 ↔ Refused (listed entries) 7) := by
  intro text entries
  have hidle : ∃ piece ∈ atomTexts text, IdlePiece piece :=
    ⟨":-2:+0", by decide, .range (.omitted) (.written (.minus 2)) (.plus 0)⟩
  have hfirst : HasIdle entries :=
    ⟨.triple 5 0 0, rfl, Entry.isWritable_triple (by decide) (by decide) (by decide)⟩
  have hlengths : 2 = 0 ↔ 7 = 0 := by decide
  have hrefused := (refused_alike text entries 0 7).2.1 hidle
  exact ⟨hidle, hrefused, (refused_alike text entries 0 7).1.mp hrefused, hfirst, hlengths,
    (refused_alike text entries 2 7).2.2.1.mpr fun _ => hlengths⟩

/-- A step of zero in a list is refused among one element and goes unnoticed among none, unlike the
same step in a text. -/
theorem refused_unlike_among_none :
    let entries : List Entry := [.triple 1 2 0]
    resolve (listed entries) 0 = .ok [] ∧
      resolve (listed entries) 1 =
        .error (.parse (.zeroStep (.tuple [.int 1, .int 2, .int 0]))) ∧
      ¬ (Refused (listed entries) 0 ↔ Refused (listed entries) 1) ∧ Refused (.text "1:2:0") 0 := by
  intro entries
  have hidle : entries.find? Entry.isIdle = some (.triple 1 2 0) := rfl
  have hwritable : (Entry.triple 1 2 0).toValue.isWritable = true :=
    Entry.isWritable_triple (by decide) (by decide) (by decide)
  have hone := Entry.resolve_of_find? hidle one_ne_zero
  rw [refuse, if_pos hwritable] at hone
  refine ⟨Entry.resolve_listed_zero entries, hone, ?_, ?_⟩
  · rw [Entry.refused_listed_iff, Entry.refused_listed_iff]
    exact fun h => (h.mpr ⟨one_ne_zero, _, hidle, hwritable⟩).1 rfl
  · exact (refused_text_iff _ 0).mpr ⟨"1:2:0", by decide, IdlePiece.refused
      (.range (.written (.plain 1)) (.written (.plain 2)) (.plain 0))⟩

end PipeTable.Selection
