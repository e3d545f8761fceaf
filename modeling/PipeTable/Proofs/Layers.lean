import Mathlib
import PipeTable.Filter.Block
import PipeTable.Proofs.Faults
import PipeTable.Proofs.Markers
import PipeTable.Proofs.Quoting

/-! # Layers of parameters

The parameters of a filter block are read from one value for each key: that of the highest layer
that gives the key one, the block itself before the last property line of the document before the
defaults, and else the value that is built in.  Keys that mean nothing change none of them, and a
single mapping of what the layers give says as much as they do.
-/

namespace PipeTable

/-- Searched from the end, a list gives what its last item gives that gives anything. -/
theorem findSome?_reverse_eq_some_iff {α β : Type} {f : α → Option β} {items : List α} {b : β} :
    items.reverse.findSome? f = some b ↔
      ∃ before a after, items = before ++ a :: after ∧ f a = some b ∧ ∀ c ∈ after, f c = none := by
  rw [List.findSome?_eq_some_iff]
  constructor
  · rintro ⟨later, a, earlier, hitems, ha, hlater⟩
    refine ⟨earlier.reverse, a, later.reverse, ?_, ha, fun c hc => hlater c (by simpa using hc)⟩
    rw [← List.reverse_reverse items, hitems]
    simp
  · rintro ⟨before, a, after, rfl, ha, hafter⟩
    exact ⟨after.reverse, a, before.reverse, by simp, ha, fun c hc => hafter c (by simpa using hc)⟩

/-! ## Properties of documents -/

namespace Document

variable {d : Document} {key value : String}

/-- The last line of the document that declares a property, whatever the case of its key, says
this. -/
def LastDeclares (d : Document) (key value : String) : Prop :=
  ∃ before line after k, d.lines = before ++ line :: after ∧ Declares line k value ∧
    Text.lower k = Text.lower key ∧
    ∀ other ∈ after, ∀ k v, Declares other k v → Text.lower k ≠ Text.lower key

/-- No line of the document declares the property. -/
def DeclaresNot (d : Document) (key : String) : Prop :=
  ∀ line ∈ d.lines, ∀ k v, Declares line k v → Text.lower k ≠ Text.lower key

/-- The property of a key that a line declares. -/
def declared? (key : String) (line : List Char) : Option (String × String) :=
  (property? line).filter fun (k, _) => Text.lower k = Text.lower key

theorem declared?_eq_some_iff {line : List Char} {k : String} :
    declared? key line = some (k, value) ↔
      Declares line k value ∧ Text.lower k = Text.lower key := by
  simp only [declared?, Option.filter_eq_some_iff, property?_eq_some_iff, decide_eq_true_eq]

theorem declared?_eq_none_iff {line : List Char} :
    declared? key line = none ↔
      ∀ k v, Declares line k v → Text.lower k ≠ Text.lower key := by
  rw [Option.eq_none_iff_forall_ne_some]
  constructor
  · intro h k v hline hsame
    exact h (k, v) (declared?_eq_some_iff.mpr ⟨hline, hsame⟩)
  · rintro h ⟨k, v⟩ hfound
    obtain ⟨hline, hsame⟩ := declared?_eq_some_iff.mp hfound
    exact h k v hline hsame

theorem propertyValue_eq (d : Document) (key : String) :
    d.propertyValue key = (d.lines.reverse.findSome? (declared? key)).map Prod.snd := by
  rw [propertyValue, List.filter_filterMap, List.getLast?_filterMap]
  rfl

theorem propertyValue_eq_some_iff :
    d.propertyValue key = some value ↔ d.LastDeclares key value := by
  simp only [propertyValue_eq, Option.map_eq_some_iff, Prod.exists, exists_eq_right,
    findSome?_reverse_eq_some_iff, declared?_eq_some_iff, declared?_eq_none_iff]
  constructor
  · rintro ⟨k, before, line, after, hlines, ⟨hline, hsame⟩, hafter⟩
    exact ⟨before, line, after, k, hlines, hline, hsame, hafter⟩
  · rintro ⟨before, line, after, k, hlines, hline, hsame, hafter⟩
    exact ⟨k, before, line, after, hlines, ⟨hline, hsame⟩, hafter⟩

theorem propertyValue_eq_none_iff : d.propertyValue key = none ↔ d.DeclaresNot key := by
  simp only [propertyValue_eq, Option.map_eq_none_iff, List.findSome?_eq_none_iff,
    List.mem_reverse, declared?_eq_none_iff]
  rfl

end Document

namespace Filter

/-! ## Values of keys -/

/-- The value that a layer gives a key: the last one for it that is not absent. -/
def Layer.given? (layer : Layer) (key : String) : Option Value :=
  layer.reverse.findSome? fun (k, v) => if k = key ∧ v.isNone = false then some v else none

/-- The value that layers give a key: that of the last one that gives any. -/
def lastGiven? (layers : List Layer) (key : String) : Option Value :=
  layers.reverse.findSome? fun layer => layer.given? key

/-- The value of a key to which no layer gives one. -/
def builtinValue (key : String) : Value :=
  if key = "tblnames" then .list []
  else if key = "noerrors" then .bool false
  else if key = "namescol" then .text "none"
  else .none

/-- The keys of a layer that mean something, with their values. -/
def Layer.known (layer : Layer) : Layer := layer.filter fun (key, _) => knownKeys.contains key

/-- The layer is a mapping that keeps of each key the last value that layers give it. -/
structure Layer.Keeps (single : Layer) (layers : List Layer) : Prop where
  nodup : (single.map Prod.fst).Nodup
  lookup_eq (key : String) : single.lookup key = lastGiven? layers key

/-- The word for a placement that a value stands for; no word at all if the value is not true. -/
def placementWord (v : Value) : String := if v.isTrue then Text.lower v.toText else ""

/-- The parameters are what the values of the known keys say. -/
structure Params.ReadFrom (p : Params) (value : String → Value) : Prop where
  tables : namesOf (value "tblnames") = .ok p.tables
  rows : p.rows = value "rows"
  columns : p.columns = value "cols"
  condition : p.condition = value "filter"
  tolerant : p.tolerant = isOn (value "noerrors")
  placement : Placement.ofText (placementWord (value "namescol")) = .ok p.placement

theorem Layer.given?_cons (k : String) (v : Value) (layer : Layer) (key : String) :
    Layer.given? ((k, v) :: layer) key =
      (layer.given? key).or (if k = key ∧ v.isNone = false then some v else none) := by
  rw [Layer.given?, List.reverse_cons, List.findSome?_append, ← Layer.given?,
    List.findSome?_singleton]

/-- Putting a layer over another one gives its keys its values. -/
theorem Layer.lookup_over (layer under : Layer) (key : String) :
    (layer.foldl (fun m (k, v) => if v.isNone then m else m.put k v) under).lookup key =
      (layer.given? key).or (under.lookup key) := by
  induction layer generalizing under with
  | nil => rfl
  | cons entry layer ih =>
      obtain ⟨k, v⟩ := entry
      rw [List.foldl_cons, ih, Layer.given?_cons, Option.or_assoc]
      congr 1
      by_cases hnone : v.isNone = true
      · simp [hnone]
      · by_cases hkey : key = k
        · simp [hnone, hkey, lookup_put]
        · simp [hnone, hkey, lookup_put, Ne.symm hkey]

theorem lastGiven?_cons (layer : Layer) (layers : List Layer) (key : String) :
    lastGiven? (layer :: layers) key = (lastGiven? layers key).or (layer.given? key) := by
  rw [lastGiven?, List.reverse_cons, List.findSome?_append, List.findSome?_singleton, lastGiven?]

theorem lastGiven?_concat (layers : List Layer) (layer : Layer) (key : String) :
    lastGiven? (layers ++ [layer]) key = (layer.given? key).or (lastGiven? layers key) := by
  rw [lastGiven?, List.reverse_concat, List.findSome?_cons, lastGiven?]
  cases layer.given? key <;> rfl

/-- What merged layers say of a key is what the last of them says that gives it a value. -/
theorem Layer.lookup_merge (layers : List Layer) (key : String) :
    (Layer.merge layers).lookup key = lastGiven? layers key := by
  suffices h : ∀ under : Layer, (layers.foldl (fun merged layer =>
      layer.foldl (fun m (k, v) => if v.isNone then m else m.put k v) merged) under).lookup key =
        (lastGiven? layers key).or (under.lookup key) by
    rw [Layer.merge, h, List.lookup_nil, Option.or_none]
  induction layers with
  | nil => exact fun _ => rfl
  | cons layer layers ih =>
      intro under
      rw [List.foldl_cons, ih, Layer.lookup_over, lastGiven?_cons, Option.or_assoc]

/-! ## Parameters -/

/-- The word for no placement says what no word says. -/
theorem ofText_placementWord_builtin :
    Placement.ofText (placementWord (builtinValue "namescol")) =
      Placement.ofText (placementWord .none) := by
  have hplain : ∀ c ∈ ['n', 'o', 'n', 'e'], Text.isPlainChar c = true ∧ c.toLower = c := by
    simp [Text.isPlainChar]
  have hlower : Text.lower "none" = "none" :=
    congrArg String.ofList (Text.lowerChars_of_plain hplain [])
  have hword : ("none" : String) ≠ "" := by decide
  change Placement.ofText (Text.lower "none") = Placement.ofText ""
  rw [hlower, Placement.ofText, if_neg hword, hlower, Placement.ofText, if_pos rfl]
  rfl

/-- The parameters are read from what the merged layers say of the known keys. -/
theorem Params.ofLayer_eq_ok_iff {layer : Layer} {p : Params} :
    Params.ofLayer layer = .ok p ↔
      p.ReadFrom fun key => (layer.lookup key).getD (builtinValue key) := by
  have htables : namesOf ((layer.lookup "tblnames").getD (builtinValue "tblnames")) =
      namesOf ((layer.lookup "tblnames").getD .none) := by
    cases layer.lookup "tblnames" <;> rfl
  have hon : isOn ((layer.lookup "noerrors").getD (builtinValue "noerrors")) =
      isOn ((layer.lookup "noerrors").getD .none) := by
    cases layer.lookup "noerrors" <;> rfl
  have hplacement :
      Placement.ofText (placementWord ((layer.lookup "namescol").getD (builtinValue "namescol"))) =
        Placement.ofText (placementWord ((layer.lookup "namescol").getD .none)) := by
    cases layer.lookup "namescol" with
    | none => exact ofText_placementWord_builtin
    | some v => rfl
  rw [Params.ofLayer]
  simp only [Outcome.bind_eq_ok, Outcome.mapError_eq_ok]
  constructor
  · rintro ⟨tables, hnames, placement, hword, hp⟩
    cases hp
    exact ⟨htables.trans hnames, rfl, rfl, rfl, hon.symm, hplacement.trans hword⟩
  · rintro ⟨hnames, hrows, hcolumns, hcondition, htolerant, hword⟩
    refine ⟨p.tables, htables.symm.trans hnames, p.placement, hplacement.symm.trans hword, ?_⟩
    rw [← hon, ← htolerant]
    cases p
    cases hrows
    cases hcolumns
    cases hcondition
    rfl

theorem Params.ofLayers_eq_ok_iff {layers : List Layer} {p : Params} :
    (Params.ofLayers layers).2 = .ok p ↔
      p.ReadFrom fun key => (lastGiven? layers key).getD (builtinValue key) := by
  simp only [Params.ofLayers, Params.ofLayer_eq_ok_iff, Layer.lookup_merge]

/-- Only what is said of known keys counts. -/
theorem Params.ofLayer_congr {layer other : Layer}
    (h : ∀ key ∈ knownKeys, layer.lookup key = other.lookup key) :
    Params.ofLayer layer = Params.ofLayer other := by
  dsimp only [Params.ofLayer]
  rw [h "tblnames" (by decide), h "rows" (by decide), h "cols" (by decide),
    h "filter" (by decide), h "noerrors" (by decide), h "namescol" (by decide)]

theorem Params.ofLayers_congr {layers others : List Layer}
    (h : ∀ key ∈ knownKeys, lastGiven? layers key = lastGiven? others key) :
    (Params.ofLayers layers).2 = (Params.ofLayers others).2 := by
  refine Params.ofLayer_congr fun key hkey => ?_
  rw [Layer.lookup_merge, Layer.lookup_merge, h key hkey]

/-! ## Keys that mean nothing -/

theorem Layer.given?_known (layer : Layer) {key : String} (hkey : key ∈ knownKeys) :
    layer.known.given? key = layer.given? key := by
  induction layer with
  | nil => rfl
  | cons entry layer ih =>
      obtain ⟨k, v⟩ := entry
      by_cases hk : k ∈ knownKeys
      · have hknown : Layer.known ((k, v) :: layer) = (k, v) :: Layer.known layer :=
          List.filter_cons_of_pos (List.contains_iff_mem.mpr hk)
        rw [hknown, Layer.given?_cons, Layer.given?_cons, ih]
      · have hknown : Layer.known ((k, v) :: layer) = Layer.known layer :=
          List.filter_cons_of_neg fun h => hk (List.contains_iff_mem.mp h)
        have hne : ¬ (k = key ∧ v.isNone = false) := fun h => hk (h.1 ▸ hkey)
        rw [hknown, ih, Layer.given?_cons, if_neg hne, Option.or_none]

theorem lastGiven?_known (layers : List Layer) {key : String} (hkey : key ∈ knownKeys) :
    lastGiven? (layers.map Layer.known) key = lastGiven? layers key := by
  induction layers with
  | nil => rfl
  | cons layer layers ih =>
      rw [List.map_cons, lastGiven?_cons, lastGiven?_cons, ih, layer.given?_known hkey]

theorem Params.ofLayers_known (layers : List Layer) :
    (Params.ofLayers (layers.map Layer.known)).2 = (Params.ofLayers layers).2 :=
  Params.ofLayers_congr fun _ hkey => lastGiven?_known layers hkey

/-! ## A single mapping -/

theorem isNone_of_given? {layer : Layer} {key : String} {v : Value}
    (h : layer.given? key = some v) : v.isNone = false := by
  obtain ⟨⟨k, w⟩, -, hw⟩ := List.exists_of_findSome?_eq_some h
  dsimp only at hw
  split at hw
  next hgiven =>
    cases hw
    exact hgiven.2
  next => cases hw

theorem isNone_of_lastGiven? {layers : List Layer} {key : String} {v : Value}
    (h : lastGiven? layers key = some v) : v.isNone = false := by
  obtain ⟨layer, -, hlayer⟩ := List.exists_of_findSome?_eq_some h
  exact isNone_of_given? hlayer

/-- What a mapping gives a key is its value, unless that is absent. -/
theorem Layer.given?_of_nodup {layer : Layer} (h : (layer.map Prod.fst).Nodup) (key : String) :
    layer.given? key = (layer.lookup key).filter fun v => !v.isNone := by
  induction layer with
  | nil => rfl
  | cons entry layer ih =>
      obtain ⟨k, v⟩ := entry
      obtain ⟨hfresh, h⟩ := List.nodup_cons.mp h
      rw [Layer.given?_cons, ih h]
      by_cases hkey : k = key
      · subst hkey
        have hnone : layer.lookup k = none := lookup_eq_none_iff.mpr hfresh
        cases hv : v.isNone <;> simp [hnone, hv, Option.filter]
      · rw [if_neg fun h => hkey h.1, Option.or_none, List.lookup_cons,
          beq_false_of_ne (Ne.symm hkey)]

theorem Layer.Keeps.lastGiven?_eq {single : Layer} {layers : List Layer} (h : single.Keeps layers)
    (key : String) : lastGiven? [single] key = lastGiven? layers key := by
  rw [lastGiven?, List.reverse_singleton, List.findSome?_singleton, Layer.given?_of_nodup h.nodup,
    h.lookup_eq]
  cases hlast : lastGiven? layers key with
  | none => rfl
  | some v => rw [Option.filter_some, isNone_of_lastGiven? hlast]; rfl

theorem Layer.nodup_put {layer : Layer} (h : (layer.map Prod.fst).Nodup) (key : String)
    (v : Value) : ((layer.put key v).map Prod.fst).Nodup := by
  by_cases hmem : key ∈ layer.map Prod.fst
  · have hkeys : Prod.fst ∘ (fun (k, w) => if k = key then (k, v) else (k, w)) =
        (Prod.fst : String × Value → String) := by
      funext entry
      dsimp only [Function.comp_apply]
      split <;> rfl
    rwa [put_of_mem hmem, List.map_map, hkeys]
  · rw [put_of_notMem hmem, List.map_append]
    exact List.nodup_append_comm.mp (List.nodup_cons.mpr ⟨hmem, h⟩)

theorem Layer.nodup_over (layer : Layer) {under : Layer} (h : (under.map Prod.fst).Nodup) :
    ((layer.foldl (fun m (k, v) => if v.isNone then m else m.put k v) under).map
      Prod.fst).Nodup := by
  induction layer generalizing under with
  | nil => exact h
  | cons entry layer ih =>
      obtain ⟨k, v⟩ := entry
      rw [List.foldl_cons]
      refine ih ?_
      dsimp only
      split
      · exact h
      · exact nodup_put h _ _

/-- Merged layers are such a mapping. -/
theorem Layer.keeps_merge (layers : List Layer) : (Layer.merge layers).Keeps layers where
  nodup := by
    suffices h : ∀ under : Layer, (under.map Prod.fst).Nodup → ((layers.foldl (fun merged layer =>
        layer.foldl (fun m (k, v) => if v.isNone then m else m.put k v) merged) under).map
          Prod.fst).Nodup from h [] List.nodup_nil
    induction layers with
    | nil => exact fun _ h => h
    | cons layer layers ih => exact fun under h => ih _ (layer.nodup_over h)
  lookup_eq := Layer.lookup_merge layers

/-! ## Blocks -/

/-- The layer that a document puts over the defaults: nothing, or what its last property line
says. -/
def PropertyLayer (d : Document) (property : Except Error Layer) : Prop :=
  d.DeclaresNot "tblfilter" ∧ property = .ok [] ∨
    ∃ text, d.LastDeclares "tblfilter" text ∧ property = Layer.parse text

theorem exists_propertyLayer (d : Document) : ∃ property, PropertyLayer d property := by
  cases h : d.propertyValue "tblfilter" with
  | none => exact ⟨_, .inl ⟨Document.propertyValue_eq_none_iff.mp h, rfl⟩⟩
  | some text => exact ⟨_, .inr ⟨text, Document.propertyValue_eq_some_iff.mp h, rfl⟩⟩

theorem inherited_eq_error {d : Document} {e : Error} (h : PropertyLayer d (.error e))
    (defaults : Layer) : inherited d defaults = .error e := by
  obtain ⟨-, h⟩ | ⟨text, hlast, hparse⟩ := h
  · cases h
  · have htext : text ≠ "" := by
      rintro rfl
      cases hparse
    rw [inherited, Document.propertyValue_eq_some_iff.mpr hlast]
    dsimp only
    rw [if_neg htext, ← hparse]
    rfl

/-- Under a block lie the defaults, and what the document says over them. -/
theorem exists_inherited {d : Document} {layer : Layer} (h : PropertyLayer d (.ok layer))
    (defaults : Layer) : ∃ under, inherited d defaults = .ok under ∧
      ∀ key, lastGiven? under key = lastGiven? [defaults, layer] key := by
  have hnothing (key : String) : lastGiven? [defaults] key = lastGiven? [defaults, []] key := by
    rw [lastGiven?_cons, lastGiven?_cons]
    rfl
  obtain ⟨hnone, hlayer⟩ | ⟨text, hlast, hparse⟩ := h
  · cases hlayer
    refine ⟨[defaults], ?_, hnothing⟩
    rw [inherited, Document.propertyValue_eq_none_iff.mpr hnone]
  · rw [inherited, Document.propertyValue_eq_some_iff.mpr hlast]
    dsimp only
    split
    next hempty =>
      -- an empty property line is left out, which says as much as a layer without keys
      subst hempty
      cases hparse
      exact ⟨[defaults], rfl, hnothing⟩
    next =>
      rw [← hparse]
      exact ⟨[defaults, layer], rfl, fun _ => rfl⟩

/-- A block is run with the parameters of three layers. -/
theorem runLayer_eq {d : Document} {layer : Layer} (h : PropertyLayer d (.ok layer))
    (explicit defaults : Layer) (padding : String) :
    (runLayer explicit d defaults padding).2 =
      (Params.ofLayers [defaults, layer, explicit]).2.bind fun p => p.run d padding := by
  obtain ⟨under, hunder, hgiven⟩ := exists_inherited h defaults
  have hparams : (Params.ofLayers (under ++ [explicit])).2 =
      (Params.ofLayers ([defaults, layer] ++ [explicit])).2 := by
    refine Params.ofLayers_congr fun key _ => ?_
    rw [lastGiven?_concat, lastGiven?_concat, hgiven key]
  rw [runLayer, hunder]
  exact congrArg (fun params => params.bind fun p => p.run d padding) hparams

theorem runLayer_eq_error {d : Document} {e : Error} (h : PropertyLayer d (.error e))
    (explicit defaults : Layer) (padding : String) :
    (runLayer explicit d defaults padding).2 = .error e := by
  rw [runLayer, inherited_eq_error h]

/-- Keys that mean nothing change no block. -/
theorem runLayer_known (explicit : Layer) (d : Document) (defaults : Layer) (padding : String) :
    (runLayer (Layer.known explicit) d (Layer.known defaults) padding).2 =
      (runLayer explicit d defaults padding).2 := by
  obtain ⟨property, h⟩ := exists_propertyLayer d
  cases property with
  | error e => rw [runLayer_eq_error h, runLayer_eq_error h]
  | ok layer =>
      have hparams : (Params.ofLayers [Layer.known defaults, layer, Layer.known explicit]).2 =
          (Params.ofLayers [defaults, layer, explicit]).2 := by
        refine Params.ofLayers_congr fun key hkey => ?_
        simp only [lastGiven?_cons, Layer.given?_known _ hkey]
      rw [runLayer_eq h, runLayer_eq h, hparams]

/-- A block runs with the parameters that the values of the known keys spell: for each key the value
that the block gives it, else that of the document's last property line, else that of the defaults,
else the built-in one.  Keys that mean nothing change none of this, and a single mapping that keeps
what layers give last says what the layers say. -/
theorem runLayer_layered (d : Document) (defaults explicit : Layer) (padding : String) :
    (∃ property, PropertyLayer d property ∧
      (∀ e, property = .error e → (runLayer explicit d defaults padding).2 = .error e) ∧
      ∀ layer, property = .ok layer → ∃ params : Except Error Params,
        (∀ p, params = .ok p ↔ p.ReadFrom fun key =>
          ((explicit.given? key).or ((layer.given? key).or (defaults.given? key))).getD
            (builtinValue key)) ∧
        (runLayer explicit d defaults padding).2 = params.bind fun p => p.run d padding) ∧
      (runLayer (Layer.known explicit) d (Layer.known defaults) padding).2 =
        (runLayer explicit d defaults padding).2 ∧
      (∀ layers, (Params.ofLayers (layers.map Layer.known)).2 = (Params.ofLayers layers).2) ∧
      ∀ layers, (Layer.merge layers).Keeps layers ∧
        ∀ single : Layer, single.Keeps layers →
          (Params.ofLayers [single]).2 = (Params.ofLayers layers).2 := by
  refine ⟨?_, runLayer_known explicit d defaults padding, Params.ofLayers_known, fun layers =>
    ⟨Layer.keeps_merge layers, fun single h =>
      Params.ofLayers_congr fun key _ => h.lastGiven?_eq key⟩⟩
  obtain ⟨property, h⟩ := exists_propertyLayer d
  refine ⟨property, h, ?_, ?_⟩
  · rintro e rfl
    exact runLayer_eq_error h explicit defaults padding
  · rintro layer rfl
    refine ⟨_, fun p => ?_, runLayer_eq h explicit defaults padding⟩
    have hvalue (key : String) : lastGiven? [defaults, layer, explicit] key =
        (explicit.given? key).or ((layer.given? key).or (defaults.given? key)) := by
      simp only [lastGiven?_cons, Option.or_assoc]
      rfl
    simp only [Params.ofLayers_eq_ok_iff, hvalue]

end Filter

end PipeTable
