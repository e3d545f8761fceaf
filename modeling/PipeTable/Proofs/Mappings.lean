import Mathlib
import PipeTable.Value.Equality

/-! # Mappings

A text is equal to itself alone, so putting a value for a name changes the value of this name and
of no other one, and the names of a mapping stay distinct.
-/

namespace PipeTable.Value

theorem equals_text_iff {v : Value} {s : String} : equals v (.text s) = true ↔ v = .text s := by
  cases v <;> simp [equals, places?]

/-! ## Values of names -/

theorem findEntry_cons (k v : Value) (entries : List (Value × Value)) (key : Value) :
    findEntry ((k, v) :: entries) key = if equals k key then some v else findEntry entries key := by
  by_cases hkey : equals k key = true <;> simp [findEntry, hkey]

/-- The entries with another value for a key that is among them. -/
theorem findEntry_replaced_of_ne (entries : List (Value × Value)) {key other : String}
    (hne : other ≠ key) (v : Value) :
    findEntry (entries.map fun (k, w) => if equals k (.text key) then (k, v) else (k, w))
      (.text other) = findEntry entries (.text other) := by
  induction entries with
  | nil => rfl
  | cons entry entries ih =>
      obtain ⟨k, w⟩ := entry
      by_cases hkey : equals k (.text key) = true
      · have hother : ¬equals k (.text other) = true := by
          rw [equals_text_iff.1 hkey, equals_text_iff]
          simpa using hne.symm
        simp only [List.map_cons, if_pos hkey, findEntry_cons, if_neg hother, ih]
      · simp only [List.map_cons, if_neg hkey, findEntry_cons, ih]

theorem findEntry_putEntry (entries : List (Value × Value)) (key : String) (v : Value) :
    findEntry (putEntry entries (.text key) v) (.text key) = some v := by
  have hsame : equals (.text key) (.text key) = true := by simp [equals]
  unfold findEntry putEntry
  split
  next hany =>
    induction entries with
    | nil => cases hany
    | cons entry entries ih =>
        by_cases hentry : equals entry.1 (.text key) = true
        · simp [hentry]
        · have hmore : entries.any (fun entry => equals entry.1 (.text key)) = true := by
            simpa [hentry] using hany
          simpa [hentry] using ih hmore
  next hany =>
    have hfind : entries.find? (fun entry => equals entry.1 (.text key)) = Option.none := by
      simpa using hany
    simp [List.find?_append, hfind, hsame]

theorem findEntry_putEntry_of_ne (entries : List (Value × Value)) {key other : String}
    (hne : other ≠ key) (v : Value) :
    findEntry (putEntry entries (.text key) v) (.text other) =
      findEntry entries (.text other) := by
  unfold putEntry
  split
  next => exact findEntry_replaced_of_ne entries hne v
  next =>
    have hother : ¬equals (.text key) (.text other) = true := by
      rw [equals_text_iff]
      simpa using hne.symm
    simp [findEntry, List.find?_append, hother]

/-! ## Names -/

/-- The keys of the entries are distinct texts. -/
def HasNames (entries : List (Value × Value)) : Prop :=
  ∃ names : List String, names.Nodup ∧ entries.map Prod.fst = names.map Value.text

theorem hasNames_nil : HasNames [] := ⟨[], .nil, rfl⟩

theorem HasNames.putEntry {entries : List (Value × Value)} (h : HasNames entries) (key : String)
    (v : Value) : HasNames (putEntry entries (.text key) v) := by
  obtain ⟨names, hdistinct, hkeys⟩ := h
  unfold Value.putEntry
  split
  next =>
    have hsame : (entries.map fun (k, w) =>
        if equals k (.text key) then (k, v) else (k, w)).map Prod.fst =
          entries.map Prod.fst := by
      rw [List.map_map]
      exact List.map_congr_left fun entry _ => by dsimp; split <;> rfl
    exact ⟨names, hdistinct, hsame.trans hkeys⟩
  next hany =>
    have hnew : key ∉ names := fun hkey => hany <| by
      have : Value.text key ∈ entries.map Prod.fst := hkeys ▸ List.mem_map_of_mem hkey
      obtain ⟨entry, hentry, heq⟩ := List.mem_map.1 this
      exact List.any_eq_true.2 ⟨entry, hentry, equals_text_iff.2 heq⟩
    refine ⟨names ++ [key], ?_, by simp [hkeys]⟩
    exact List.nodup_append.2 ⟨hdistinct, by simp, by
      rintro name hname _ (_ | ⟨_, ⟨⟩⟩) rfl
      exact hnew hname⟩

/-- The values of a mapping with a new value for a key are its old values and the new one. -/
theorem mem_putEntry {entries : List (Value × Value)} {key v : Value} {entry : Value × Value}
    (h : entry ∈ putEntry entries key v) : entry ∈ entries ∨ entry.2 = v := by
  unfold putEntry at h
  split at h
  next =>
    obtain ⟨⟨k, w⟩, hmem, rfl⟩ := List.mem_map.1 h
    dsimp
    split
    · exact .inr rfl
    · exact .inl hmem
  next =>
    rcases List.mem_append.1 h with hmem | hmem
    · exact .inl hmem
    · exact .inr (by rw [List.mem_singleton.1 hmem])

end PipeTable.Value
