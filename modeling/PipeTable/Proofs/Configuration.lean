import Mathlib
import PipeTable.CommandLine.Run
import PipeTable.Proofs.Mappings

/-! # Configurations

Whatever is in the file of a configuration, or if there is none, the settings make sense.  Each
setting is read from a place of its own, so another value there, good or bad, changes this setting
and no other one.
-/

namespace PipeTable.Config

open PipeTable.Value (HasNames)

/-! ## What is read is JSON -/

/-- The values that a JSON text can spell. -/
inductive IsJson : Value → Prop where
  | none : IsJson .none
  | bool (b : Bool) : IsJson (.bool b)
  | int (n : Int) : IsJson (.int n)
  | float (x : Float) : IsJson (.float x)
  | text (s : String) : IsJson (.text s)
  | list {items : List Value} (hitems : ∀ v ∈ items, IsJson v) : IsJson (.list items)
  | dict {entries : List (Value × Value)} (hnames : HasNames entries)
      (hvalues : ∀ entry ∈ entries, IsJson entry.2) : IsJson (.dict entries)

theorem isJson_object_nil : IsJson (.dict []) := .dict Value.hasNames_nil nofun

theorem IsJson.putEntry {entries : List (Value × Value)} (h : IsJson (.dict entries))
    (key : String) {v : Value} (hv : IsJson v) :
    IsJson (.dict (Value.putEntry entries (.text key) v)) := by
  cases h with
  | dict hnames hvalues =>
      refine .dict (hnames.putEntry key v) fun entry hentry => ?_
      rcases Value.mem_putEntry hentry with hold | hnew
      · exact hvalues entry hold
      · exact hnew ▸ hv

namespace Json

theorem isJson_of_readUnsigned {negative : Bool} {cs rest : List Char} {v : Value}
    (h : readUnsigned? negative cs = some (v, rest)) : IsJson v := by
  unfold readUnsigned? at h
  dsimp only at h
  split at h
  · cases h
  split at h
  · split at h
    · cases h; exact .int _
    · cases h
  · cases h; exact .float _

theorem isJson_of_readNumber {cs rest : List Char} {v : Value}
    (h : readNumber? cs = some (v, rest)) : IsJson v := by
  unfold readNumber? at h
  split at h <;> exact isJson_of_readUnsigned h

theorem isJson_of_readWord {cs rest : List Char} {v : Value}
    (h : readWord? cs = some (v, rest)) : IsJson v := by
  obtain ⟨⟨word, w⟩, hmem, hword⟩ := List.exists_of_findSome?_eq_some h
  dsimp only at hword
  split at hword
  · cases hword
    simp only [wordValues, List.mem_cons, Prod.mk.injEq, List.not_mem_nil, or_false] at hmem
    obtain ⟨-, rfl⟩ | ⟨-, rfl⟩ | ⟨-, rfl⟩ | ⟨-, rfl⟩ | ⟨-, rfl⟩ | ⟨-, rfl⟩ := hmem
    · exact .none
    · exact .bool true
    · exact .bool false
    all_goals exact .float _
  · cases hword

/-- What the readers that call each other read with some fuel. -/
structure ReadsJson (fuel : Nat) : Prop where
  value : ∀ {cs rest v}, readValue? fuel cs = some (v, rest) → IsJson v
  items : ∀ {cs rest items}, readItems? fuel cs = some (items, rest) → ∀ v ∈ items, IsJson v
  members : ∀ {cs rest entries read}, IsJson (.dict entries) →
    readMembers? fuel entries cs = some (read, rest) → IsJson (.dict read)

theorem ReadsJson.zero : ReadsJson 0 where
  value h := by cases h
  items h := by cases h
  members _ h := by cases h

theorem isJson_of_readValue_succ {fuel : Nat} (ih : ReadsJson fuel) {cs rest : List Char}
    {v : Value} (h : readValue? (fuel + 1) cs = some (v, rest)) : IsJson v := by
  simp only [readValue?] at h
  split at h
  · obtain ⟨⟨s, after⟩, -, heq⟩ := Option.map_eq_some_iff.1 h
    cases heq
    exact .text s
  · split at h
    · cases h
      exact .list nofun
    · obtain ⟨⟨items, after⟩, hread, heq⟩ := Option.map_eq_some_iff.1 h
      cases heq
      exact .list (ih.items hread)
  · split at h
    · cases h
      exact isJson_object_nil
    · obtain ⟨⟨entries, after⟩, hread, heq⟩ := Option.map_eq_some_iff.1 h
      cases heq
      exact ih.members isJson_object_nil hread
  · rcases Option.or_eq_some_iff.1 h with hword | ⟨-, hnumber⟩
    · exact isJson_of_readWord hword
    · exact isJson_of_readNumber hnumber

theorem isJson_of_readItems_succ {fuel : Nat} (ih : ReadsJson fuel) {cs rest : List Char}
    {items : List Value} (h : readItems? (fuel + 1) cs = some (items, rest)) :
    ∀ v ∈ items, IsJson v := by
  simp only [readItems?, Option.bind_eq_bind, Option.bind_eq_some_iff] at h
  obtain ⟨⟨first, afterFirst⟩, hfirst, h⟩ := h
  dsimp only at h
  split at h
  · obtain ⟨⟨more, after⟩, hmore, heq⟩ := Option.bind_eq_some_iff.1 h
    cases heq
    exact List.forall_mem_cons.2 ⟨ih.value hfirst, ih.items hmore⟩
  · cases h
    exact List.forall_mem_singleton.2 (ih.value hfirst)
  · cases h

theorem isJson_of_readMembers_succ {fuel : Nat} (ih : ReadsJson fuel) {cs rest : List Char}
    {entries read : List (Value × Value)} (hentries : IsJson (.dict entries))
    (h : readMembers? (fuel + 1) entries cs = some (read, rest)) : IsJson (.dict read) := by
  simp only [readMembers?] at h
  split at h
  · obtain ⟨⟨key, afterKey⟩, -, h⟩ := Option.bind_eq_some_iff.1 h
    dsimp only at h
    split at h
    · obtain ⟨⟨v, afterValue⟩, hvalue, h⟩ := Option.bind_eq_some_iff.1 h
      have hextended := hentries.putEntry key (ih.value hvalue)
      dsimp only at h
      split at h
      · exact ih.members hextended h
      · cases h
        exact hextended
      · cases h
    · cases h
  · cases h

theorem readsJson (fuel : Nat) : ReadsJson fuel := by
  induction fuel with
  | zero => exact .zero
  | succ fuel ih =>
      exact ⟨isJson_of_readValue_succ ih, isJson_of_readItems_succ ih,
        isJson_of_readMembers_succ ih⟩

theorem isJson_of_read {text : String} {v : Value} (h : read? text = some v) : IsJson v := by
  unfold read? at h
  dsimp only at h
  split at h
  next w rest hread =>
    split at h
    · cases h
      exact (readsJson _).value hread
    · cases h
  · cases h

end Json

/-! ## Settings that make sense -/

theorem isJson_of_member {v w : Value} {key : String} (hv : IsJson v)
    (h : member? v key = some w) : IsJson w := by
  cases hv with
  | dict _ hvalues =>
      obtain ⟨entry, hfind, rfl⟩ := Option.map_eq_some_iff.1 h
      exact hvalues entry (List.mem_of_find?_eq_some hfind)
  | _ => cases h

theorem isJson_of_memberAt {v w : Value} {outer inner : String} (hv : IsJson v)
    (h : memberAt? v outer inner = some w) : IsJson w := by
  obtain ⟨u, hu, hw⟩ := Option.bind_eq_some_iff.1 h
  exact isJson_of_member (isJson_of_member hv hu) hw

/-- The settings can be worked with: a command has words, the deadline is a number above zero,
and the defaults of filter blocks have distinct names and are texts, truth values or lists. -/
structure Settings.MakeSense (s : Settings) : Prop where
  command : ∀ words, s.optimizer.command = some words → words ≠ []
  timeout : (∃ n : Int, 0 < n ∧ s.optimizer.timeout = .int n) ∨
    ∃ x : Float, 0 < x ∧ s.optimizer.timeout = .float x
  names : (s.filterDefaults.map Prod.fst).Nodup
  parameters : ∀ parameter ∈ s.filterDefaults, (∃ text, parameter.2 = .text text) ∨
    (∃ b, parameter.2 = .bool b) ∨ ∃ items, parameter.2 = .list items

theorem ne_nil_of_command {v : Value} {words : List String} (h : command? v = some words) :
    words ≠ [] := by
  cases v with
  | list items =>
      simp only [command?] at h
      split at h
      next hwords =>
        cases h
        simpa using (Bool.and_eq_true_iff.1 hwords).1
      · cases h
  | _ => cases h

theorem isPositive_iff {v : Value} :
    isPositive v = true ↔ (∃ n : Int, 0 < n ∧ v = .int n) ∨ ∃ x : Float, 0 < x ∧ v = .float x := by
  cases v <;> simp [isPositive]

theorem isPositive_readTimeout (v : Option Value) : isPositive (readTimeout v) = true := by
  unfold readTimeout
  split
  · split
    · assumption
    · rfl
  · rfl

theorem isParameter_iff {v : Value} : isParameter v = true ↔ (∃ text, v = .text text) ∨
    (∃ b, v = .bool b) ∨ ∃ items, v = .list items := by
  cases v <;> simp [isParameter]

theorem isParameter_of_mem_parametersIn {v : Option Value} {parameter : String × Value}
    (h : parameter ∈ parametersIn v) : isParameter parameter.2 = true := by
  unfold parametersIn at h
  split at h
  · obtain ⟨⟨key, w⟩, -, hread⟩ := List.mem_filterMap.1 h
    dsimp only at hread
    split at hread
    next hw =>
      obtain ⟨name, -, rfl⟩ := Option.map_eq_some_iff.1 hread
      exact hw
    · cases hread
  · cases h

/-- Parameters are named by keys of the object that they are in, in the same order. -/
theorem sublist_names_parametersIn {entries : List (Value × Value)} {names : List String}
    (h : entries.map Prod.fst = names.map Value.text) :
    ((parametersIn (some (.dict entries))).map Prod.fst).Sublist names := by
  induction entries generalizing names with
  | nil => simp [parametersIn]
  | cons entry entries ih =>
      obtain ⟨key, w⟩ := entry
      cases names with
      | nil => simp at h
      | cons name names =>
          simp only [List.map_cons, List.cons.injEq] at h
          obtain ⟨rfl, hrest⟩ := h
          have hsub := ih hrest
          simp only [parametersIn, List.filterMap_cons] at hsub ⊢
          by_cases hw : isParameter w = true
          · simpa [hw, text?] using hsub
          · simpa [hw] using hsub.cons name

theorem nodup_names_parametersIn {v : Option Value} (h : ∀ w, v = some w → IsJson w) :
    ((parametersIn v).map Prod.fst).Nodup := by
  unfold parametersIn
  split
  next entries =>
    cases h _ rfl with
    | dict hnames _ =>
        obtain ⟨names, hdistinct, hkeys⟩ := hnames
        exact (sublist_names_parametersIn hkeys).nodup hdistinct
  · exact .nil

/-- The optimizer as it is read, for a section that lacks as for one without members. -/
theorem Settings.optimizer_ofValue (v : Value) : (Settings.ofValue v).optimizer =
    readOptimizer ((memberAt? v "narrow" "solver").getD (.dict [])) := by
  unfold Settings.ofValue
  cases memberAt? v "narrow" "solver" <;> rfl

theorem Settings.makeSense_ofValue {v : Value} (h : IsJson v) :
    (Settings.ofValue v).MakeSense where
  command words hwords := by
    rw [optimizer_ofValue] at hwords
    obtain ⟨w, -, hw⟩ := Option.bind_eq_some_iff.1 hwords
    exact ne_nil_of_command hw
  timeout := by
    rw [optimizer_ofValue]
    exact isPositive_iff.1 (isPositive_readTimeout _)
  names := nodup_names_parametersIn fun w hw => isJson_of_memberAt h hw
  parameters parameter hmem := isParameter_iff.1 (isParameter_of_mem_parametersIn hmem)

theorem Settings.makeSense_default : ({} : Settings).MakeSense where
  command words h := by cases h
  timeout := .inl ⟨30, by decide, rfl⟩
  names := .nil
  parameters _ h := by cases h

theorem Settings.load_of_unread {text : String} (h : Json.read? text = none) :
    (load (some text)).1 = {} := by
  simp [load, h]

theorem Settings.load_of_read {text : String} {v : Value} (h : Json.read? text = some v) :
    (load (some text)).1 = ofValue v := by
  simp [load, h]

/-! ## Places in a configuration -/

/-- What stands at the end of a path through objects. -/
def valueAt? : List String → Value → Option Value
  | [], v => some v
  | key :: path, v => (member? v key).bind (valueAt? path)

/-- The member of an object, and an object without members where there is none. -/
def branch (v : Value) (key : String) : Value := (member? v key).getD (.dict [])

/-- The value with another one at the end of a path through objects.  Members that lack on the way
are added; none if something on the way is no object. -/
def replace? : List String → Value → Value → Option Value
  | [], _, w => some w
  | key :: path, .dict entries, w =>
    (replace? path (branch (.dict entries) key) w).map fun inner =>
      .dict (Value.putEntry entries (.text key) inner)
  | _ :: _, _, _ => none

/-- Two paths that part before either of them ends. -/
def Apart (p q : List String) : Prop := ¬p <+: q ∧ ¬q <+: p

instance (p q : List String) : Decidable (Apart p q) := inferInstanceAs (Decidable (_ ∧ _))

/-- One step down a path: the member that lies on it is replaced, the others stay. -/
theorem replace_cons {key : String} {path : List String} {v w v' : Value}
    (h : replace? (key :: path) v w = some v') :
    ∃ inner, replace? path (branch v key) w = some inner ∧ member? v' key = some inner ∧
      ∀ other, other ≠ key → member? v' other = member? v other := by
  cases v with
  | dict entries =>
      obtain ⟨inner, hinner, rfl⟩ := Option.map_eq_some_iff.1 h
      exact ⟨inner, hinner, Value.findEntry_putEntry entries key inner,
        fun other hother => Value.findEntry_putEntry_of_ne entries hother inner⟩
  | _ => cases h

theorem valueAt_singleton (v : Value) (key : String) : valueAt? [key] v = member? v key :=
  Option.bind_fun_some _

theorem valueAt_pair (v : Value) (outer inner : String) :
    valueAt? [outer, inner] v = memberAt? v outer inner := by
  simp only [valueAt?, memberAt?, Option.bind_fun_some]

theorem valueAt_branch (v : Value) (outer inner : String) (path : List String) :
    valueAt? (inner :: path) (branch v outer) = valueAt? (outer :: inner :: path) v := by
  rw [branch, valueAt?, valueAt?]
  cases member? v outer <;> rfl

/-- Below the end of the path stands what the new value has there. -/
theorem valueAt_append_of_replace {p : List String} {v w v' : Value}
    (h : replace? p v w = some v') (q : List String) :
    valueAt? (p ++ q) v' = valueAt? q w := by
  induction p generalizing v v' with
  | nil =>
      cases h
      rfl
  | cons key p ih =>
      obtain ⟨inner, hinner, hmember, -⟩ := replace_cons h
      rw [List.cons_append, valueAt?, hmember, Option.bind_some]
      exact ih hinner

/-- Off the path everything stays. -/
theorem valueAt_of_replace {p q : List String} (hpq : Apart p q) {v w v' : Value}
    (h : replace? p v w = some v') : valueAt? q v' = valueAt? q v := by
  induction p generalizing q v v' with
  | nil => exact absurd List.nil_prefix hpq.1
  | cons key p ih =>
      obtain ⟨inner, hinner, hmember, hothers⟩ := replace_cons h
      cases q with
      | nil => exact absurd List.nil_prefix hpq.2
      | cons other q =>
          by_cases hother : other = key
          · subst hother
            have hrest : Apart p q := by
              simpa only [Apart, List.cons_prefix_cons, true_and] using hpq
            obtain ⟨next, q, rfl⟩ :=
              List.exists_cons_of_ne_nil fun hq : q = [] => hrest.2 (hq ▸ List.nil_prefix)
            calc valueAt? (other :: next :: q) v'
                = valueAt? (next :: q) inner := by rw [valueAt?, hmember, Option.bind_some]
              _ = valueAt? (next :: q) (branch v other) := ih hrest hinner
              _ = valueAt? (other :: next :: q) v := valueAt_branch v other next q
          · rw [valueAt?, valueAt?, hothers other hother]

/-! ## Places of settings -/

/-- A setting that is read on its own. -/
inductive Setting where
  | presets
  | command
  | timeout
  | marker
  | filterDefaults
  | padding
  deriving DecidableEq, Repr

namespace Setting

/-- Where a setting stands in a configuration. -/
def path : Setting → List String
  | .presets => ["jump", "presets"]
  | .command => ["narrow", "solver", "argv"]
  | .timeout => ["narrow", "solver", "timeout_seconds"]
  | .marker => ["narrow", "solver", "success_marker"]
  | .filterDefaults => ["filter", "defaults"]
  | .padding => ["padding"]

/-- The settings with this one read from a value and all others as they are. -/
def update (w : Value) (s : Settings) : Setting → Settings
  | .presets => { s with presets := textsIn (some w) }
  | .command => { s with optimizer.command := command? w }
  | .timeout => { s with optimizer.timeout := readTimeout (some w) }
  | .marker => { s with optimizer.marker := readMarker (some w) }
  | .filterDefaults => { s with filterDefaults := parametersIn (some w) }
  | .padding => { s with padding := (text? w).getD "" }

/-- Whether settings agree in this one. -/
def Same (s t : Settings) : Setting → Prop
  | .presets => s.presets = t.presets
  | .command => s.optimizer.command = t.optimizer.command
  | .timeout => s.optimizer.timeout = t.optimizer.timeout
  | .marker => s.optimizer.marker = t.optimizer.marker
  | .filterDefaults => s.filterDefaults = t.filterDefaults
  | .padding => s.padding = t.padding

theorem apart_path {x y : Setting} (h : x ≠ y) : Apart x.path y.path := by
  cases x <;> cases y <;> first | exact absurd rfl h | decide

end Setting

/-- Every setting is read from its place alone. -/
theorem Settings.ofValue_eq (v : Value) : ofValue v = {
    presets := textsIn (valueAt? Setting.presets.path v)
    optimizer.command := (valueAt? Setting.command.path v).bind command?
    optimizer.timeout := readTimeout (valueAt? Setting.timeout.path v)
    optimizer.marker := readMarker (valueAt? Setting.marker.path v)
    filterDefaults := parametersIn (valueAt? Setting.filterDefaults.path v)
    padding := ((valueAt? Setting.padding.path v).bind text?).getD "" } := by
  have hsolver : ∀ key, valueAt? ["narrow", "solver", key] v =
      (memberAt? v "narrow" "solver").bind fun solver => member? solver key := fun key => by
    simp only [valueAt?, memberAt?, Option.bind_assoc, Option.bind_fun_some]
  simp only [Setting.path, valueAt_pair, valueAt_singleton, hsolver, ofValue]
  cases memberAt? v "narrow" "solver" <;> rfl

theorem Settings.same_ofValue {setting : Setting} {v v' : Value}
    (h : valueAt? setting.path v' = valueAt? setting.path v) :
    setting.Same (ofValue v') (ofValue v) := by
  rw [ofValue_eq, ofValue_eq v]
  cases setting <;> simp [Setting.Same, h]

theorem Settings.ofValue_of_replace {setting : Setting} {v w v' : Value}
    (h : replace? setting.path v w = some v') :
    ofValue v' = setting.update w (ofValue v) := by
  have hat : valueAt? setting.path v' = some w := by
    simpa [valueAt?] using valueAt_append_of_replace h []
  have hothers : ∀ other, setting ≠ other → valueAt? other.path v' = valueAt? other.path v :=
    fun other hother => valueAt_of_replace (Setting.apart_path hother) h
  rw [ofValue_eq, ofValue_eq v]
  cases setting <;> simp [Setting.update, hat, hothers]

/-! ## The settings in a file -/

open CommandLine (Files settingsAt)

/-- The file at a path is there and spells a value. -/
def Spells (files : Files) (path : String) (v : Value) : Prop :=
  ∃ text, files path = .ok text ∧ Json.read? text = some v

theorem settingsAt_of_spells {files : Files} {path : String} {v : Value}
    (h : Spells files path v) : (settingsAt files path).1 = .ofValue v := by
  obtain ⟨text, hfile, hread⟩ := h
  rw [settingsAt, hfile]
  exact Settings.load_of_read hread

theorem settingsAt_of_not_spells {files : Files} {path : String}
    (h : ∀ v, ¬Spells files path v) : (settingsAt files path).1 = {} := by
  unfold settingsAt
  split
  next text hfile =>
    refine Settings.load_of_unread (Option.eq_none_iff_forall_not_mem.2 fun v hread => ?_)
    exact h v ⟨text, hfile, hread⟩
  all_goals rfl

theorem makeSense_settingsAt (files : Files) (path : String) :
    (settingsAt files path).1.MakeSense := by
  by_cases h : ∃ v, Spells files path v
  · obtain ⟨v, hv⟩ := h
    rw [settingsAt_of_spells hv]
    obtain ⟨text, -, hread⟩ := hv
    exact Settings.makeSense_ofValue (Json.isJson_of_read hread)
  · rw [settingsAt_of_not_spells (not_exists.1 h)]
    exact Settings.makeSense_default

/-- Whatever is in the file of a configuration, the settings make sense; a file that is no JSON, or
that cannot be read, leaves the default ones.  Another value in the file, good or bad, changes no
setting that has its place elsewhere, and at the place of a setting it changes this one alone. -/
theorem settings_read_apart (files : Files) (path : String) :
    (settingsAt files path).1.MakeSense ∧
    ((∀ v, ¬Spells files path v) → (settingsAt files path).1 = {}) ∧
    ∀ (files' : Files) (place : List String) (v w v' : Value),
      Spells files path v → replace? place v w = some v' → Spells files' path v' →
      (∀ setting : Setting, Apart place setting.path →
        setting.Same (settingsAt files' path).1 (settingsAt files path).1) ∧
      ∀ setting : Setting, place = setting.path →
        (settingsAt files' path).1 = setting.update w (settingsAt files path).1 := by
  refine ⟨makeSense_settingsAt files path, settingsAt_of_not_spells, ?_⟩
  intro files' place v w v' hv hreplaced hv'
  rw [settingsAt_of_spells hv, settingsAt_of_spells hv']
  refine ⟨fun setting hapart => ?_, fun setting hplace => ?_⟩
  · exact Settings.same_ofValue (valueAt_of_replace hapart hreplaced)
  · subst hplace
    exact Settings.ofValue_of_replace hreplaced

/-- The configuration with a value for the command. -/
def configured (command : Value) : Value :=
  .dict [(.text "narrow", .dict [(.text "solver", .dict [
    (.text "argv", command), (.text "success_marker", .text "DONE")])]),
    (.text "padding", .text "-")]

/-- The command is written as a text and not as a list of words. -/
theorem settings_read_apart_bad_command :
    let files (command : String) : Files := fun _ => .ok
      ("\x7b\"narrow\": \x7b\"solver\": \x7b\"argv\": " ++ command ++
        ", \"success_marker\": \"DONE\"\x7d\x7d, \"padding\": \"-\"\x7d")
    let good := files "[\"solve\"]"
    let bad := files "\"solve\""
    (∃ v v', Spells good "config.json" v ∧
      replace? Setting.command.path v (.text "solve") = some v' ∧ Spells bad "config.json" v') ∧
      (settingsAt good "config.json").1 =
        { optimizer := { command := some ["solve"], marker := some "DONE" }, padding := "-" } ∧
      (settingsAt bad "config.json").1 =
        { optimizer := { command := none, marker := some "DONE" }, padding := "-" } := by
  intro files good bad
  have hgood : Spells good "config.json" (configured (.list [.text "solve"])) := ⟨_, rfl, by cbv⟩
  have hreplaced : replace? Setting.command.path (configured (.list [.text "solve"]))
      (.text "solve") = some (configured (.text "solve")) := by cbv
  have hbad : Spells bad "config.json" (configured (.text "solve")) := ⟨_, rfl, by cbv⟩
  have hbefore : (settingsAt good "config.json").1 =
      { optimizer := { command := some ["solve"], marker := some "DONE" }, padding := "-" } := by
    rw [settingsAt_of_spells hgood]
    rfl
  refine ⟨⟨_, _, hgood, hreplaced, hbad⟩, hbefore, ?_⟩
  have hupdate := ((settings_read_apart good "config.json").2.2 bad _ _ _ _ hgood hreplaced hbad).2
    .command rfl
  rw [hupdate, hbefore]
  rfl

end PipeTable.Config
