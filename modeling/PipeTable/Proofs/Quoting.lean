import Mathlib
import PipeTable.Filter.Params

/-! # Parameters written with quotes and read again

A word in quotes is read as it was before, whatever stands in it.  The reader of parameters tells
keys from values when the quotes are gone already, so what was written comes back unless a name or
a value looks like a key itself.
-/

namespace PipeTable

/-! ## Words -/

namespace Text

/-- A character that means nothing but itself on a command line. -/
def isPlainChar (c : Char) : Bool :=
  c.isAlphanum || ['_', '@', '%', '+', '=', ':', ',', '.', '/', '-'].contains c

/-- The characters of a word between single quotes.  A single quote among them is put between double
ones. -/
def quotedChars (cs : List Char) : List Char :=
  cs.flatMap fun c => if c = '\'' then ['\'', '"', '\'', '"', '\''] else [c]

/-- The characters of a word as they are written: plain ones as they are, any others in quotes. -/
def shellQuoteChars (cs : List Char) : List Char :=
  if cs ≠ [] ∧ cs.all isPlainChar then cs else '\'' :: (quotedChars cs ++ ['\''])

/-- A word as it is written on a command line. -/
def shellQuote (word : String) : String := String.ofList (shellQuoteChars word.toList)

theorem shellQuoteChars_of_plain {cs : List Char} (hne : cs ≠ [])
    (h : ∀ c ∈ cs, isPlainChar c = true) : shellQuoteChars cs = cs :=
  if_pos ⟨hne, List.all_eq_true.mpr h⟩

theorem shellWordsFrom_plainChar {c : Char} (h : isPlainChar c = true)
    (word : Option (List Char)) (rest : List Char) :
    shellWordsFrom .plain word (c :: rest) = shellWordsFrom .plain (pushChar word [c]) rest := by
  have hblank : isShellBlank c = false := by
    by_contra hblank
    simp only [isShellBlank, Bool.not_eq_false, Bool.or_eq_true, decide_eq_true_eq] at hblank
    rcases hblank with ((rfl | rfl) | rfl) | rfl <;> exact absurd h (by decide)
  have hmark : (decide (c = '"') || decide (c = '\'')) = false := by
    by_contra hmark
    simp only [Bool.not_eq_false, Bool.or_eq_true, decide_eq_true_eq] at hmark
    rcases hmark with rfl | rfl <;> exact absurd h (by decide)
  have hescape : c ≠ '\\' := by
    rintro rfl
    exact absurd h (by decide)
  rw [shellWordsFrom, hblank, hmark, if_neg Bool.false_ne_true, if_neg Bool.false_ne_true,
    if_neg hescape]

theorem shellWordsFrom_plain {cs : List Char} (h : ∀ c ∈ cs, isPlainChar c = true)
    (word rest : List Char) :
    shellWordsFrom .plain (some word) (cs ++ rest) =
      shellWordsFrom .plain (some (word ++ cs)) rest := by
  induction cs generalizing word with
  | nil => rw [List.nil_append, List.append_nil]
  | cons c cs ih =>
      obtain ⟨hc, h⟩ := List.forall_mem_cons.mp h
      rw [List.cons_append, shellWordsFrom_plainChar hc]
      exact (ih h (word ++ [c])).trans (by rw [List.append_assoc, List.singleton_append])

/-- What stands between single quotes is kept up to the closing one. -/
theorem shellWordsFrom_quotedChars (cs word rest : List Char) :
    shellWordsFrom (.quoted '\'') (some word) (quotedChars cs ++ '\'' :: rest) =
      shellWordsFrom .plain (some (word ++ cs)) rest := by
  induction cs generalizing word with
  | nil => simp [quotedChars, shellWordsFrom]
  | cons c cs ih =>
      have happend := ih (word ++ [c])
      rw [List.append_assoc, List.singleton_append] at happend
      rw [← happend]
      by_cases hc : c = '\''
      · -- out of the quotes, through the double ones and in again
        subst hc
        simp [quotedChars, shellWordsFrom, isShellBlank, pushChar]
      · simp [quotedChars, shellWordsFrom, pushChar, hc]

/-- A word that was quoted is read as it was. -/
theorem shellWordsFrom_shellQuoteChars (cs rest : List Char) :
    shellWordsFrom .plain none (shellQuoteChars cs ++ rest) =
      shellWordsFrom .plain (some cs) rest := by
  unfold shellQuoteChars
  split
  next h =>
    obtain ⟨hne, hplain⟩ := h
    rw [List.all_eq_true] at hplain
    obtain ⟨c, cs, rfl⟩ := List.exists_cons_of_ne_nil hne
    obtain ⟨hc, hplain⟩ := List.forall_mem_cons.mp hplain
    rw [List.cons_append, shellWordsFrom_plainChar hc]
    exact shellWordsFrom_plain hplain [c] rest
  next =>
    have hopen : shellWordsFrom .plain none ('\'' :: (quotedChars cs ++ '\'' :: rest)) =
        shellWordsFrom (.quoted '\'') (some []) (quotedChars cs ++ '\'' :: rest) := by
      simp [shellWordsFrom, isShellBlank, pushChar]
    rw [List.cons_append, List.append_assoc, List.singleton_append, hopen,
      shellWordsFrom_quotedChars, List.nil_append]

theorem shellWordsFrom_intercalate (words : List (List Char)) :
    shellWordsFrom .plain none ([' '].intercalate (words.map shellQuoteChars)) = .ok words := by
  induction words with
  | nil => rfl
  | cons word words ih =>
      cases words with
      | nil =>
          rw [List.map_singleton, List.intercalate_singleton, ← List.append_nil (shellQuoteChars _),
            shellWordsFrom_shellQuoteChars]
          rfl
      | cons next words =>
          have hblank : ∀ rest, shellWordsFrom .plain (some word) (' ' :: rest) =
              (shellWordsFrom .plain none rest).map (word :: ·) :=
            shellWordsFrom_blank (by decide) (some word)
          rw [List.map_cons, List.map_cons, List.intercalate_cons_cons, List.append_assoc,
            shellWordsFrom_shellQuoteChars, List.singleton_append, hblank, ← List.map_cons, ih]
          rfl

/-- Words that were quoted and joined by blanks are read as they were. -/
theorem shellWords_intercalate (words : List String) :
    shellWords (" ".intercalate (words.map shellQuote)) = .ok words := by
  have hchars : (" ".intercalate (words.map shellQuote)).toList =
      [' '].intercalate ((words.map String.toList).map shellQuoteChars) := by
    rw [String.toList_intercalate, List.map_map, List.map_map]
    refine congrArg _ (List.map_congr_left fun word _ => ?_)
    exact String.toList_ofList
  rw [shellWords, hchars, shellWordsFrom_intercalate]
  refine congrArg Except.ok ?_
  dsimp only
  rw [List.map_map]
  exact (List.map_congr_left fun word _ => String.ofList_toList).trans (List.map_id _)

theorem toNat_lt_of_isPlainChar {c : Char} (h : isPlainChar c = true) : c.toNat < 0x80 := by
  rcases Bool.or_eq_true_iff.mp h with hletter | hsign
  · simp only [Char.isAlphanum, Char.isAlpha, Char.isUpper, Char.isLower, Char.isDigit,
      Bool.or_eq_true, Bool.and_eq_true, decide_eq_true_eq, ge_iff_le,
      UInt32.le_iff_toNat_le] at hletter
    have hZ : 'Z'.val.toNat = 90 := rfl
    have hz : 'z'.val.toNat = 122 := rfl
    have h9 : '9'.val.toNat = 57 := rfl
    change c.val.toNat < 0x80
    omega
  · have hmem := List.contains_iff_mem.mp hsign
    simp only [List.mem_cons, List.not_mem_nil, or_false] at hmem
    rcases hmem with rfl | rfl | rfl | rfl | rfl | rfl | rfl | rfl | rfl | rfl <;> decide

/-- Plain characters that are small already stay as they are in lower case. -/
theorem lowerChars_of_plain {cs : List Char}
    (h : ∀ c ∈ cs, isPlainChar c = true ∧ c.toLower = c) (before : List Char) :
    lowerChars before cs = cs := by
  induction cs generalizing before with
  | nil => rfl
  | cons c cs ih =>
      obtain ⟨⟨hplain, hsmall⟩, h⟩ := List.forall_mem_cons.mp h
      have hnat := toNat_lt_of_isPlainChar hplain
      have hascii : c.val < 0x80 := UInt32.lt_iff_toNat_lt.mpr hnat
      have hchar : lowerChar before c cs = [c] := by
        rw [lowerChar, if_neg (by omega), if_neg (by omega), lowerSimple, if_pos hascii, hsmall]
      rw [lowerChars, hchar, ih h]
      rfl

end Text

/-! ## Parameters -/

namespace Filter

/-- A key with the text that it is to stand for. -/
structure Assignment where
  key : String
  value : String
  key_ne_empty : key ≠ ""
  key_ne_tables : key ≠ "tblnames"
  key_small : ∀ c ∈ key.toList, Text.isPlainChar c = true ∧ c.toLower = c

namespace Assignment

/-- The words that spell an assignment. -/
def words (a : Assignment) : List String := [":" ++ a.key, a.value]

/-- An assignment as a parameter. -/
def setting (a : Assignment) : String × Value := (a.key, .text a.value)

end Assignment

/-- The tables and the assignments as a block spells them, each name and each value in quotes where
it needs them. -/
def writeParams (names : List String) (assignments : List Assignment) : String :=
  " ".intercalate (":tblnames" :: names.map Text.shellQuote ++
    assignments.flatMap fun a => [":" ++ a.key, Text.shellQuote a.value])

/-- The parameters that tables and assignments are to be. -/
def layerOf (names : List String) (assignments : List Assignment) : Layer :=
  ("tblnames", .list (names.map .text)) :: assignments.map Assignment.setting

/-! ### Words of parameters -/

theorem keyOf?_key (a : Assignment) : keyOf? (":" ++ a.key) = some a.key := by
  have hchars : (":" ++ a.key).toList = ':' :: a.key.toList := String.toList_append
  obtain ⟨c, cs, hkey⟩ := List.exists_cons_of_ne_nil fun h =>
    a.key_ne_empty (String.toList_eq_nil_iff.mp h)
  have hlower : Text.lower a.key = a.key := by
    rw [Text.lower, Text.lowerChars_of_plain a.key_small, String.ofList_toList]
  rw [keyOf?, hchars, hkey]
  change some (Text.lower (String.ofList (c :: cs))) = _
  rw [← hkey, String.ofList_toList, hlower]

theorem shellQuote_key (a : Assignment) : Text.shellQuote (":" ++ a.key) = ":" ++ a.key := by
  have hchars : (":" ++ a.key).toList = ':' :: a.key.toList := String.toList_append
  have hplain : ∀ c ∈ (":" ++ a.key).toList, Text.isPlainChar c = true := by
    rw [hchars]
    exact List.forall_mem_cons.mpr ⟨by decide, fun c hc => (a.key_small c hc).1⟩
  have hne : (":" ++ a.key).toList ≠ [] := by
    rw [hchars]
    exact List.cons_ne_nil _ _
  rw [Text.shellQuote, Text.shellQuoteChars_of_plain hne hplain, String.ofList_toList]

/-! ### The reader between two words -/

/-- The reader of parameters once it has met a key: the parameters so far, the key, and the words
that have followed it. -/
structure Scan where
  layer : Layer
  key : String
  values : List String

namespace Scan

/-- The parameters if nothing follows. -/
def close (s : Scan) : Layer := s.layer.put s.key (valueOf s.key s.values)

/-- The reader after one more word. -/
def step (s : Scan) (word : String) : Scan :=
  match keyOf? word with
  | some key => ⟨s.close, key, []⟩
  | none => { s with values := s.values ++ [word] }

theorem layerFrom_eq (s : Scan) (words : List String) :
    layerFrom s.layer (some (s.key, s.values)) words = .ok (words.foldl step s).close := by
  induction words generalizing s with
  | nil => rfl
  | cons word words ih =>
      rw [List.foldl_cons, ← ih]
      cases hword : keyOf? word with
      | none => simp only [layerFrom, step, hword]
      | some key => simp only [layerFrom, step, hword, close]

theorem step_of_key {word key : String} (h : keyOf? word = some key) (s : Scan) :
    s.step word = ⟨s.close, key, []⟩ := by
  rw [step, h]

theorem step_of_word {word : String} (h : keyOf? word = none) (s : Scan) :
    s.step word = { s with values := s.values ++ [word] } := by
  rw [step, h]

theorem foldl_step_words {words : List String} (h : ∀ word ∈ words, keyOf? word = none) (s : Scan) :
    words.foldl step s = { s with values := s.values ++ words } := by
  induction words generalizing s with
  | nil => rw [List.append_nil]; rfl
  | cons word words ih =>
      obtain ⟨hword, h⟩ := List.forall_mem_cons.mp h
      rw [List.foldl_cons, step_of_word hword, ih h, List.append_assoc, List.singleton_append]

end Scan

/-- The reader of a block meets the words as they were before they were quoted. -/
theorem parse_writeParams (names : List String) (assignments : List Assignment) :
    Layer.parse (writeParams names assignments) =
      .ok ((names ++ assignments.flatMap Assignment.words).foldl Scan.step
        ⟨[], "tblnames", []⟩).close := by
  have hquoted : writeParams names assignments = " ".intercalate
      ((":tblnames" :: names ++ assignments.flatMap Assignment.words).map Text.shellQuote) := by
    rw [writeParams, List.map_append, List.map_cons, List.map_flatMap]
    simp only [Assignment.words, List.map_cons, List.map_nil, shellQuote_key]
    rfl
  rw [← Scan.layerFrom_eq, Layer.parse, hquoted, Text.shellWords_intercalate]
  rfl

/-! ### Parameters that come back -/

theorem put_of_notMem {layer : Layer} {key : String} (h : key ∉ layer.map Prod.fst) (v : Value) :
    layer.put key v = layer ++ [(key, v)] := by
  refine if_neg fun hany => h ?_
  obtain ⟨entry, hentry, hkey⟩ := List.any_eq_true.mp hany
  exact List.mem_map.mpr ⟨entry, hentry, of_decide_eq_true hkey⟩

theorem put_of_mem {layer : Layer} {key : String} (h : key ∈ layer.map Prod.fst) (v : Value) :
    layer.put key v = layer.map fun (k, w) => if k = key then (k, v) else (k, w) := by
  obtain ⟨entry, hentry, hkey⟩ := List.mem_map.mp h
  exact if_pos (List.any_eq_true.mpr ⟨entry, hentry, decide_eq_true hkey⟩)

theorem lookup_eq_none_iff {layer : Layer} {key : String} :
    layer.lookup key = none ↔ key ∉ layer.map Prod.fst := by
  rw [List.lookup_eq_none_iff, List.mem_map]
  constructor
  · rintro h ⟨entry, hentry, rfl⟩
    exact bne_iff_ne.mp (h entry hentry) rfl
  · exact fun h entry hentry => bne_iff_ne.mpr fun heq => h ⟨entry, hentry, heq.symm⟩

namespace Scan

/-- Assignments of values that do not look like keys are added one after the other. -/
theorem close_assignments {assignments : List Assignment}
    (hvalues : ∀ a ∈ assignments, keyOf? a.value = none) {s : Scan}
    (hnodup : (s.close.map Prod.fst ++ assignments.map Assignment.key).Nodup) :
    ((assignments.flatMap Assignment.words).foldl step s).close =
      s.close ++ assignments.map Assignment.setting := by
  induction assignments generalizing s with
  | nil => exact (List.append_nil _).symm
  | cons a assignments ih =>
      obtain ⟨hvalue, hvalues⟩ := List.forall_mem_cons.mp hvalues
      have hwords : a.words.foldl step s = ⟨s.close, a.key, [a.value]⟩ := by
        rw [Assignment.words, List.foldl_cons, step_of_key (keyOf?_key a), List.foldl_cons,
          step_of_word hvalue]
        rfl
      have hvalue : valueOf a.key [a.value] = a.setting.2 := if_neg a.key_ne_tables
      have hfresh : a.key ∉ s.close.map Prod.fst := fun hmem =>
        (List.nodup_append.mp hnodup).2.2 _ hmem _ List.mem_cons_self rfl
      have hclose : close ⟨s.close, a.key, [a.value]⟩ = s.close ++ [a.setting] := by
        rw [close, hvalue]
        exact put_of_notMem hfresh _
      rw [List.map_cons, ← List.singleton_append, ← List.append_assoc] at hnodup
      rw [List.flatMap_cons, List.foldl_append, hwords, ih hvalues, hclose, List.append_assoc]
      · rfl
      · rwa [hclose, List.map_append]

end Scan

/-- Without names and values that look like keys, what was written is read. -/
theorem parse_writeParams_of_words {names : List String} {assignments : List Assignment}
    (hnodup : (assignments.map Assignment.key).Nodup) (hnames : ∀ name ∈ names, keyOf? name = none)
    (hvalues : ∀ a ∈ assignments, keyOf? a.value = none) :
    Layer.parse (writeParams names assignments) = .ok (layerOf names assignments) := by
  have hkeys : ("tblnames" :: assignments.map Assignment.key).Nodup := by
    refine List.nodup_cons.mpr ⟨fun hmem => ?_, hnodup⟩
    obtain ⟨a, -, hkey⟩ := List.mem_map.mp hmem
    exact a.key_ne_tables hkey
  have hclose := Scan.close_assignments hvalues (s := ⟨[], "tblnames", names⟩) hkeys
  rw [parse_writeParams, List.foldl_append, Scan.foldl_step_words hnames]
  exact congrArg Except.ok hclose

/-! ### Parameters that are lost -/

theorem lookup_map_put (layer : Layer) (key : String) (v : Value) (other : String) :
    List.lookup other (layer.map fun (k, w) => if k = key then (k, v) else (k, w)) =
      (layer.lookup other).map fun w => if other = key then v else w := by
  induction layer with
  | nil => rfl
  | cons entry layer ih =>
      obtain ⟨k, w⟩ := entry
      have hentry : (if k = key then (k, v) else (k, w)) = (k, if k = key then v else w) := by
        split <;> rfl
      simp only [List.map_cons, hentry, List.lookup_cons, ih]
      by_cases hk : other = k
      · subst hk
        simp only [beq_self_eq_true, Option.map_some]
      · simp only [beq_false_of_ne hk]

theorem lookup_put (layer : Layer) (key : String) (v : Value) (other : String) :
    (layer.put key v).lookup other = if other = key then some v else layer.lookup other := by
  by_cases hmem : key ∈ layer.map Prod.fst
  · rw [put_of_mem hmem, lookup_map_put]
    split
    next heq =>
      subst heq
      obtain ⟨w, hw⟩ := Option.ne_none_iff_exists'.mp fun hnone => lookup_eq_none_iff.mp hnone hmem
      rw [hw, Option.map_some]
    next => exact Option.map_id'
  · rw [put_of_notMem hmem, List.lookup_append]
    by_cases heq : other = key
    · subst heq
      rw [lookup_eq_none_iff.mpr hmem, List.lookup_cons_self, Option.none_or, if_pos rfl]
    · simp only [List.lookup_cons, beq_false_of_ne heq, List.lookup_nil, Option.or_none, if_neg heq]

namespace Scan

/-- A key that is only a switch stays one while assignments of other keys are read. -/
theorem lookup_close_assignments {key : String} (hkey : key ≠ "tblnames")
    {assignments : List Assignment} (hnot : key ∉ assignments.map Assignment.key) {s : Scan}
    (hswitch : s.close.lookup key = some (.bool true)) :
    ((assignments.flatMap Assignment.words).foldl step s).close.lookup key =
      some (.bool true) := by
  induction assignments generalizing s with
  | nil => exact hswitch
  | cons a assignments ih =>
      obtain ⟨hne, hnot⟩ := not_or.mp (List.mem_cons.not.mp hnot)
      rw [List.flatMap_cons, List.foldl_append]
      refine ih hnot ?_
      rw [Assignment.words, List.foldl_cons, step_of_key (keyOf?_key a), List.foldl_cons,
        List.foldl_nil]
      cases hvalue : keyOf? a.value with
      | none => rw [step_of_word hvalue, close, lookup_put, if_neg hne, hswitch]
      | some other =>
          rw [step_of_key hvalue, close, lookup_put]
          split
          next heq =>
            -- the value is this very key, and no word follows it
            subst heq
            rw [valueOf, if_neg hkey]
            rfl
          next => rw [close, lookup_put, if_neg hne, hswitch]

/-- A key whose value looks like a key is read as a switch. -/
theorem lookup_close_of_key {assignments : List Assignment}
    (hnodup : (assignments.map Assignment.key).Nodup) {a : Assignment} (ha : a ∈ assignments)
    {other : String} (hvalue : keyOf? a.value = some other) (s : Scan) :
    ((assignments.flatMap Assignment.words).foldl step s).close.lookup a.key =
      some (.bool true) := by
  obtain ⟨before, after, rfl⟩ := List.append_of_mem ha
  have hnot : a.key ∉ after.map Assignment.key := by
    rw [List.map_append, List.map_cons] at hnodup
    exact (List.nodup_cons.mp (List.nodup_append.mp hnodup).2.1).1
  rw [List.flatMap_append, List.flatMap_cons, List.foldl_append, List.foldl_append]
  refine lookup_close_assignments a.key_ne_tables hnot ?_
  have hswitch : valueOf a.key [] = .bool true := if_neg a.key_ne_tables
  rw [Assignment.words, List.foldl_cons, step_of_key (keyOf?_key a), List.foldl_cons,
    List.foldl_nil, step_of_key hvalue, close, lookup_put]
  split
  next heq =>
    dsimp only at heq ⊢
    rw [← heq, hswitch]
  next => rw [close, lookup_put, if_pos rfl, hswitch]

/-- No word that looks like a key is among the tables, and none waits to be. -/
def NoKeys (s : Scan) : Prop :=
  (∀ word ∈ s.values, keyOf? word = none) ∧
    ∀ v, s.layer.lookup "tblnames" = some v →
      ∃ words : List String, v = .list (words.map .text) ∧ ∀ word ∈ words, keyOf? word = none

theorem NoKeys.lookup_close {s : Scan} (h : s.NoKeys) {v : Value}
    (hv : s.close.lookup "tblnames" = some v) :
    ∃ words : List String, v = .list (words.map .text) ∧ ∀ word ∈ words, keyOf? word = none := by
  rw [close, lookup_put] at hv
  split at hv
  next heq =>
    obtain rfl := Option.some.inj hv
    exact ⟨s.values, if_pos heq.symm, h.1⟩
  next => exact h.2 v hv

theorem NoKeys.step {s : Scan} (h : s.NoKeys) (word : String) : (s.step word).NoKeys := by
  cases hword : keyOf? word with
  | some key =>
      rw [step_of_key hword]
      exact ⟨nofun, fun v hv => h.lookup_close hv⟩
  | none =>
      rw [step_of_word hword]
      refine ⟨fun other hother => ?_, h.2⟩
      rcases List.mem_append.mp hother with hother | hother
      · exact h.1 other hother
      · obtain rfl := List.mem_singleton.mp hother
        exact hword

theorem NoKeys.foldl {s : Scan} (h : s.NoKeys) (words : List String) :
    (words.foldl Scan.step s).NoKeys := by
  induction words generalizing s with
  | nil => exact h
  | cons word words ih => exact ih (h.step word)

end Scan

/-- A block means what was written into it exactly if no name and no value looks like a key, with a
colon and more after it. -/
theorem parse_writeParams_iff (names : List String) {assignments : List Assignment}
    (hnodup : (assignments.map Assignment.key).Nodup) :
    (∃ layer, Layer.parse (writeParams names assignments) = .ok layer ∧
      ∀ key, layer.lookup key = (layerOf names assignments).lookup key) ↔
      (∀ name ∈ names, keyOf? name = none) ∧ ∀ a ∈ assignments, keyOf? a.value = none := by
  constructor
  · rintro ⟨layer, hlayer, hlookup⟩
    rw [parse_writeParams] at hlayer
    obtain rfl := Except.ok.inj hlayer
    constructor
    · have hstart : Scan.NoKeys ⟨[], "tblnames", []⟩ := ⟨nofun, nofun⟩
      obtain ⟨words, hwords, hnone⟩ := (hstart.foldl _).lookup_close (hlookup "tblnames")
      have hsame : names = words :=
        List.map_injective_iff.mpr (fun _ _ => Value.text.inj) (Value.list.inj hwords)
      rw [hsame]
      exact hnone
    · intro a ha
      by_contra hkey
      obtain ⟨other, hother⟩ := Option.ne_none_iff_exists'.mp hkey
      have hswitch := hlookup a.key
      rw [List.foldl_append, Scan.lookup_close_of_key hnodup ha hother, layerOf,
        List.lookup_cons, beq_false_of_ne a.key_ne_tables] at hswitch
      -- a switch is no text, and every assignment is one
      obtain ⟨before, after, hsetting, -⟩ := List.lookup_eq_some_iff.mp hswitch.symm
      have hmem : (a.key, Value.bool true) ∈ assignments.map Assignment.setting := by
        rw [hsetting]
        exact List.mem_append_right _ List.mem_cons_self
      obtain ⟨b, -, hb⟩ := List.mem_map.mp hmem
      cases (Prod.mk.inj hb).2
  · rintro ⟨hnames, hvalues⟩
    exact ⟨_, parse_writeParams_of_words hnodup hnames hvalues, fun _ => rfl⟩

/-- Blanks, quotes, a lone colon and an empty text come back. -/
theorem parse_writeParams_quoted :
    let assignments : List Assignment :=
      [⟨"rows", "1:2", by decide, by decide, by simp [Text.isPlainChar]⟩,
        ⟨"filter", "c1 == 'a \\'", by decide, by decide, by simp [Text.isPlainChar]⟩,
        ⟨"namescol", "", by decide, by decide, by simp [Text.isPlainChar]⟩]
    (assignments.map Assignment.key).Nodup ∧
      ∃ layer, Layer.parse (writeParams ["t 1", ":"] assignments) = .ok layer ∧
        ∀ key, layer.lookup key = (layerOf ["t 1", ":"] assignments).lookup key := by
  intro assignments
  have hnodup : (assignments.map Assignment.key).Nodup := by decide
  have hwords : (∀ name ∈ ["t 1", ":"], keyOf? name = none) ∧
      ∀ a ∈ assignments, keyOf? a.value = none := by decide +kernel
  exact ⟨hnodup, (parse_writeParams_iff _ hnodup).mpr hwords⟩

/-- A range of rows that begins with a colon is taken for a key, and quotes around it do not
help. -/
theorem parse_writeParams_loses_range :
    let rows : Assignment := ⟨"rows", ":2", by decide, by decide, by simp [Text.isPlainChar]⟩
    let read : Layer := [("tblnames", .list [.text "t"]), ("rows", .bool true), ("2", .bool true)]
    writeParams ["t"] [rows] = ":tblnames t :rows :2" ∧
      Layer.parse ":tblnames t :rows :2" = .ok read ∧
      Layer.parse ":tblnames t :rows ':2'" = .ok read ∧
      ¬ ∃ layer, Layer.parse (writeParams ["t"] [rows]) = .ok layer ∧
        ∀ key, layer.lookup key = (layerOf ["t"] [rows]).lookup key := by
  intro rows read
  have hwritten : writeParams ["t"] [rows] = ":tblnames t :rows :2" := by decide
  have hread : Layer.parse ":tblnames t :rows :2" = .ok read := rfl
  refine ⟨hwritten, hread, rfl, ?_⟩
  rintro ⟨layer, hlayer, hlookup⟩
  rw [hwritten, hread] at hlayer
  obtain rfl := Except.ok.inj hlayer
  -- a switch where a text was written
  cases hlookup "rows"

end Filter

end PipeTable
