import Mathlib
import PipeTable.Document
import PipeTable.Proofs.Words

/-! # Lines of documents

A line of a document is a marker that carries a name, a line of a table, a line that may stand
between the two, or any other line.  What each of them looks like is said here without the reader,
and the reader tells them apart in just this way.
-/

namespace PipeTable.Document

/-- `#+NAME:` or `#+TBLNAME:` in any case. -/
def IsOpening (opening : List Char) : Prop :=
  opening.map Char.toLower = "#+name:".toList ∨ opening.map Char.toLower = "#+tblname:".toList

/-- A line `#+NAME: x` or `#+TBLNAME: x` in any case, with blanks before it and around the name.  A
line with nothing but blanks after the colon is no marker. -/
def Marks (line : List Char) (name : String) : Prop :=
  ∃ indent opening gap trail : List Char,
    line = indent ++ (opening ++ (gap ++ name.toList ++ trail)) ∧ IsOpening opening ∧
      (∀ c ∈ indent, Text.isBlank c = true) ∧ (∀ c ∈ gap, Text.isBlank c = true) ∧
      (∀ c ∈ trail, Text.isBlank c = true) ∧ name ≠ "" ∧ Text.strip name = name

/-- A line `#+PROPERTY: key value` in any case, with blanks before it and around the value, which
may be empty.  The key is one word. -/
def Declares (line : List Char) (key value : String) : Prop :=
  ∃ indent opening gap middle trail : List Char,
    line = indent ++ (opening ++ (gap ++ (key.toList ++ (middle ++ value.toList ++ trail)))) ∧
      opening.map Char.toLower = "#+property:".toList ∧
      (∀ c ∈ indent, Text.isBlank c = true) ∧ (∀ c ∈ gap, Text.isBlank c = true) ∧
      (∀ c ∈ middle, Text.isBlank c = true) ∧ (∀ c ∈ trail, Text.isBlank c = true) ∧
      key ≠ "" ∧ (∀ c ∈ key.toList, Text.isBlank c = false) ∧ Text.strip value = value ∧
      (value ≠ "" → middle ≠ [])

/-- A blank line, or one that begins with `#+` after blanks. -/
def IsBetween (line : List Char) : Prop :=
  (∀ c ∈ line, Text.isBlank c = true) ∨
    ∃ indent rest, (∀ c ∈ indent, Text.isBlank c = true) ∧ line = indent ++ '#' :: '+' :: rest

/-! ## Keywords -/

theorem dropKeyword?_eq_some_iff {keyword cs rest : List Char} :
    dropKeyword? keyword cs = some rest ↔
      ∃ opening, cs = opening ++ rest ∧
        opening.map Char.toLower = keyword.map Char.toLower := by
  induction keyword generalizing cs with
  | nil => simp [dropKeyword?]
  | cons k ks ih =>
      cases cs with
      | nil => simp [dropKeyword?]
      | cons c cs =>
          rw [dropKeyword?]
          constructor
          · intro h
            split at h
            next hsame =>
              obtain ⟨opening, rfl, hopening⟩ := ih.mp h
              exact ⟨c :: opening, rfl, by rw [List.map_cons, List.map_cons, hsame, hopening]⟩
            next => cases h
          · rintro ⟨opening, hcs, hopening⟩
            obtain ⟨first, opening, rfl⟩ := List.exists_cons_of_ne_nil
              (show opening ≠ [] by rintro rfl; cases hopening)
            rw [List.map_cons, List.map_cons, List.cons.injEq] at hopening
            rw [List.cons_append, List.cons.injEq] at hcs
            rw [if_pos (by rw [hcs.1, hopening.1])]
            exact ih.mpr ⟨opening, hcs.2, hopening.2⟩

/-- Only letters have a lower case other than themselves. -/
theorem eq_of_toLower_eq {c k : Char} (hk : k.toNat < 97 ∨ 122 < k.toNat) (h : c.toLower = k) :
    c = k := by
  unfold Char.toLower at h
  split at h
  next hupper =>
    subst h
    have hlow : 65 ≤ c.toNat := hupper.1
    have hhigh : c.toNat ≤ 90 := hupper.2
    change (c.val + 32).toNat < 97 ∨ 122 < (c.val + 32).toNat at hk
    rw [UInt32.toNat_add] at hk
    change (c.toNat + 32) % _ < 97 ∨ 122 < (c.toNat + 32) % _ at hk
    omega
  next => exact h

theorem IsOpening.head? {opening : List Char} (h : IsOpening opening) :
    (opening.map Char.toLower).head? = some '#' := by
  rcases h with h | h <;> rw [h] <;> rfl

/-- Blanks before the opening of a marker are dropped, and nothing else. -/
theorem dropWhile_opening {indent opening : List Char}
    (hindent : ∀ c ∈ indent, Text.isBlank c = true)
    (hopening : (opening.map Char.toLower).head? = some '#') (rest : List Char) :
    (indent ++ (opening ++ rest)).dropWhile Text.isBlank = opening ++ rest ∧
      ∃ more, opening ++ rest = '#' :: more := by
  obtain ⟨more, rfl⟩ : ∃ more, opening = '#' :: more := by
    cases opening with
    | nil => cases hopening
    | cons c more =>
        have hsign : c.toLower = '#' := Option.some.inj hopening
        exact ⟨more, by rw [eq_of_toLower_eq (by decide) hsign]⟩
  rw [List.dropWhile_append_of_pos hindent]
  exact ⟨List.dropWhile_cons_of_neg (by decide), _, rfl⟩

theorem markerBody?_eq_some_iff {keyword : String} {line body : List Char} :
    markerBody? keyword line = some body ↔
      ∃ opening rest, line.dropWhile Text.isBlank = opening ++ rest ∧
        opening.map Char.toLower = ("#+" ++ keyword ++ ":").toList.map Char.toLower ∧
        rest.dropWhile Text.isBlank = body := by
  rw [markerBody?, Option.map_eq_some_iff]
  constructor
  · rintro ⟨rest, hrest, hbody⟩
    obtain ⟨opening, hline, hopening⟩ := dropKeyword?_eq_some_iff.mp hrest
    exact ⟨opening, rest, hline, hopening, hbody⟩
  · rintro ⟨opening, rest, hline, hopening, hbody⟩
    exact ⟨rest, dropKeyword?_eq_some_iff.mpr ⟨opening, hline, hopening⟩, hbody⟩

/-- The body of a marker is what follows its opening, whichever of the two it has. -/
theorem nameBody_eq_some_iff {line body : List Char} :
    (markerBody? "NAME" line).or (markerBody? "TBLNAME" line) = some body ↔
      ∃ opening rest, line.dropWhile Text.isBlank = opening ++ rest ∧ IsOpening opening ∧
        rest.dropWhile Text.isBlank = body := by
  rw [Option.or_eq_some_iff]
  constructor
  · rintro (hbody | ⟨-, hbody⟩)
    · obtain ⟨opening, rest, hline, hopening, hrest⟩ := markerBody?_eq_some_iff.mp hbody
      exact ⟨opening, rest, hline, .inl hopening, hrest⟩
    · obtain ⟨opening, rest, hline, hopening, hrest⟩ := markerBody?_eq_some_iff.mp hbody
      exact ⟨opening, rest, hline, .inr hopening, hrest⟩
  · rintro ⟨opening, rest, hline, hopening | hopening, hrest⟩
    · exact .inl (markerBody?_eq_some_iff.mpr ⟨opening, rest, hline, hopening, hrest⟩)
    · refine .inr ⟨?_, markerBody?_eq_some_iff.mpr ⟨opening, rest, hline, hopening, hrest⟩⟩
      -- a line that goes on with the second keyword does not go on with the first
      rw [Option.eq_none_iff_forall_ne_some]
      intro other hother
      obtain ⟨opening', rest', hline', hopening', -⟩ := markerBody?_eq_some_iff.mp hother
      have hsame := congrArg (List.map Char.toLower) (hline.symm.trans hline')
      rw [List.map_append, List.map_append, hopening, hopening'] at hsame
      cases hsame

/-! ## Kinds of lines -/

theorem stripChars_dropWhile (cs : List Char) :
    Text.stripChars (cs.dropWhile Text.isBlank) = Text.stripChars cs := by
  rw [Text.stripChars, List.dropWhile_idempotent, ← Text.stripChars]

theorem stripChars_blanks_around {left right : List Char} {value : String}
    (hleft : ∀ c ∈ left, Text.isBlank c = true) (hright : ∀ c ∈ right, Text.isBlank c = true)
    (hvalue : Text.strip value = value) :
    Text.stripChars (left ++ value.toList ++ right) = value.toList := by
  rw [Text.stripChars_append_right _ hright, Text.stripChars_append_left hleft,
    ← Text.toList_strip, hvalue]

/-- A line gives a name to the table after it exactly if it is a marker with this name. -/
theorem markedName?_eq_some_iff {line : List Char} {name : String} :
    markedName? line = some name ↔ Marks line name := by
  constructor
  · intro h
    unfold markedName? at h
    split at h
    next body hbody =>
      dsimp only at h
      split at h
      next => cases h
      next hne =>
        cases h
        obtain ⟨opening, rest, hline, hopening, rfl⟩ := nameBody_eq_some_iff.mp hbody
        rw [stripChars_dropWhile] at hne ⊢
        obtain ⟨gap, trail, hgap, htrail, hrest⟩ := Text.exists_stripChars rest
        refine ⟨line.takeWhile Text.isBlank, opening, gap, trail, ?_, hopening,
          fun c hc => List.mem_takeWhile_imp hc, hgap, htrail, ?_, ?_⟩
        · rw [String.toList_ofList, hrest, ← hline, List.takeWhile_append_dropWhile]
        · simpa using hne
        · rw [Text.strip, String.toList_ofList, Text.stripChars_stripChars]
    next => cases h
  · rintro ⟨indent, opening, gap, trail, rfl, hopening, hindent, hgap, htrail, hne, hstrip⟩
    have hbody := nameBody_eq_some_iff.mpr ⟨opening, gap ++ name.toList ++ trail,
      (dropWhile_opening hindent hopening.head? _).1, hopening, rfl⟩
    have hname : Text.stripChars ((gap ++ name.toList ++ trail).dropWhile Text.isBlank) =
        name.toList := by
      rw [stripChars_dropWhile, stripChars_blanks_around hgap htrail hstrip]
    simp only [markedName?, hbody, hname]
    rw [if_neg (by simpa using hne), String.ofList_toList]

theorem Marks.isTableLine_eq_false {line : List Char} {name : String} (h : Marks line name) :
    Table.isTableLine line = false := by
  obtain ⟨indent, opening, gap, trail, rfl, hopening, hindent, -⟩ := h
  obtain ⟨hdrop, more, hmore⟩ :=
    dropWhile_opening hindent hopening.head? (gap ++ name.toList ++ trail)
  rw [Table.isTableLine, hdrop, hmore]
  rfl

theorem IsBetween.isTableLine_eq_false {line : List Char} (h : IsBetween line) :
    Table.isTableLine line = false := by
  rcases h with hblank | ⟨indent, rest, hblank, rfl⟩
  · rw [Table.isTableLine, List.dropWhile_eq_nil_iff.mpr hblank]
  · rw [Table.isTableLine, List.dropWhile_append_of_pos hblank,
      List.dropWhile_cons_of_neg (by decide)]
    rfl

theorem lineKind_eq_name_iff {line : List Char} {name : String} :
    lineKind line = .name name ↔ Marks line name := by
  rw [← markedName?_eq_some_iff, lineKind]
  split
  next found hfound => rw [hfound, LineKind.name.injEq, Option.some.injEq]
  next hnone =>
    rw [hnone]
    split_ifs <;> simp

theorem lineKind_eq_table_iff {line : List Char} :
    lineKind line = .table ↔ Table.isTableLine line = true := by
  rw [lineKind]
  split
  next found hfound =>
    have hnot := (markedName?_eq_some_iff.mp hfound).isTableLine_eq_false
    simp [hnot]
  next => split_ifs <;> simp_all

/-- What comes after a word begins with a blank, if it is not all blank. -/
theorem takeWhile_key {key middle value trail : List Char}
    (hkey : ∀ c ∈ key, Text.isBlank c = false) (hmiddle : ∀ c ∈ middle, Text.isBlank c = true)
    (htrail : ∀ c ∈ trail, Text.isBlank c = true) (hparted : value ≠ [] → middle ≠ []) :
    (key ++ (middle ++ value ++ trail)).takeWhile (fun c => !Text.isBlank c) = key ∧
      (key ++ (middle ++ value ++ trail)).dropWhile (fun c => !Text.isBlank c) =
        middle ++ value ++ trail := by
  have hhead : ∀ c ∈ (middle ++ value ++ trail).head?, ¬ (!Text.isBlank c) = true := by
    intro c hc
    have hblank : c ∈ middle ++ trail := by
      cases middle with
      | nil =>
          rw [by_contra fun hne => hparted hne rfl] at hc
          exact List.mem_of_mem_head? hc
      | cons d middle => exact List.mem_append_left _ (List.mem_of_mem_head? hc)
    rcases List.mem_append.mp hblank with hmem | hmem
    · simp [hmiddle c hmem]
    · simp [htrail c hmem]
  have hword : ∀ c ∈ key, (!Text.isBlank c) = true := fun c hc => by rw [hkey c hc]; rfl
  rw [List.takeWhile_append_of_pos hword, List.dropWhile_append_of_pos hword]
  cases hrest : middle ++ value ++ trail with
  | nil => simp
  | cons c rest =>
      have hc := hhead c (by rw [hrest]; rfl)
      rw [List.takeWhile_cons_of_neg (p := fun c => !Text.isBlank c) hc,
        List.dropWhile_cons_of_neg (p := fun c => !Text.isBlank c) hc, List.append_nil]
      exact ⟨rfl, rfl⟩

/-- A line says what the value of a property is exactly if it declares it. -/
theorem property?_eq_some_iff {line : List Char} {key value : String} :
    property? line = some (key, value) ↔ Declares line key value := by
  constructor
  · intro h
    unfold property? at h
    split at h
    next body hbody =>
      obtain ⟨hne, h⟩ := Option.ite_none_left_eq_some.mp h
      obtain ⟨rfl, rfl⟩ := Prod.mk.inj (Option.some.inj h)
      obtain ⟨opening, rest, hline, hopening, rfl⟩ := markerBody?_eq_some_iff.mp hbody
      obtain ⟨middle, trail, hmiddle, htrail, hrest⟩ := Text.exists_stripChars
        ((rest.dropWhile Text.isBlank).dropWhile fun c => !Text.isBlank c)
      refine ⟨line.takeWhile Text.isBlank, opening, rest.takeWhile Text.isBlank, middle, trail, ?_,
        hopening, fun c hc => List.mem_takeWhile_imp hc, fun c hc => List.mem_takeWhile_imp hc,
        hmiddle, htrail, by simpa using hne, fun c hc => ?_, ?_, fun hvalue hnone => ?_⟩
      · rw [String.toList_ofList, String.toList_ofList, hrest, List.takeWhile_append_dropWhile,
          List.takeWhile_append_dropWhile, ← hline, List.takeWhile_append_dropWhile]
      · rw [String.toList_ofList] at hc
        simpa using List.mem_takeWhile_imp hc
      · rw [Text.strip, String.toList_ofList, Text.stripChars_stripChars]
      · -- the value begins where the key ends, with a character that is no blank
        obtain ⟨c, more, hmore⟩ := List.exists_cons_of_ne_nil
          (show Text.stripChars ((rest.dropWhile Text.isBlank).dropWhile fun c =>
            !Text.isBlank c) ≠ [] by simpa using hvalue)
        have hplain := Text.of_mem_head?_stripChars (c := c) (by rw [hmore]; rfl)
        have hstop := Text.of_mem_head?_dropWhile (fun c => !Text.isBlank c)
          (rest.dropWhile Text.isBlank) (c := c) (by rw [← hrest, hnone, hmore]; rfl)
        simp [hplain] at hstop
    next => cases h
  · rintro ⟨indent, opening, gap, middle, trail, rfl, hopening, hindent, hgap, hmiddle, htrail,
      hne, hkey, hvalue, hparted⟩
    have hbody : markerBody? "PROPERTY"
        (indent ++ (opening ++ (gap ++ (key.toList ++ (middle ++ value.toList ++ trail))))) =
          some ((gap ++ (key.toList ++ (middle ++ value.toList ++ trail))).dropWhile
            Text.isBlank) :=
      markerBody?_eq_some_iff.mpr ⟨opening, _,
        (dropWhile_opening hindent (by rw [hopening]; rfl) _).1, hopening, rfl⟩
    have hword : (gap ++ (key.toList ++ (middle ++ value.toList ++ trail))).dropWhile Text.isBlank =
        key.toList ++ (middle ++ value.toList ++ trail) := by
      obtain ⟨c, more, hmore⟩ := List.exists_cons_of_ne_nil
        (show key.toList ≠ [] by simpa using hne)
      rw [List.dropWhile_append_of_pos hgap, hmore]
      exact List.dropWhile_cons_of_neg (by simp [hkey c (by rw [hmore]; exact List.mem_cons_self)])
    have hgap : value.toList ≠ [] → middle ≠ [] := by simpa using hparted
    obtain ⟨htake, hdrop⟩ := takeWhile_key hkey hmiddle htrail hgap
    simp only [property?, hbody, hword, htake, hdrop,
      stripChars_blanks_around hmiddle htrail hvalue]
    rw [if_neg (by simpa using hne), String.ofList_toList, String.ofList_toList]

end PipeTable.Document
