import Mathlib.Data.List.Nodup
import Mathlib.Data.List.Perm.Subperm
import ChannelSerde.DevService.Snapshot
import ChannelSerde.Proofs.Config.Listing

/-!
# What the settings of a registry depend on

The settings of the dev service are read from the values of some keys and from the variables under
one start, and they depend on nothing else of a configuration. The variables are special in two
ways. They are the only settings that depend on what is listed and in which order, and since a
configuration hands out texts they are never refused: whatever they are, they go into the settings
as they are, and the other settings are read as if there were none (`ofConfig_eq`).

So two configurations that answer the same keys alike and list the same names give the same settings
up to the order of the variables (`ofConfig_alike`), and a registry is told apart by its snapshot
only up to that order (`Snapshot.same_ofSettings`).
-/

namespace ChannelSerde

open Config

namespace OrderedMap

variable {κ ν : Type} [DecidableEq κ]

/-- **Two maps have the same entries** exactly if every key answers alike. -/
theorem sameEntries_iff [DecidableEq ν] (a b : OrderedMap κ ν) :
    a.sameEntries b = true ↔ ∀ k, a.get? k = b.get? k := by
  have hnodup : ∀ m : OrderedMap κ ν, m.entries.Nodup := fun m => m.nodup.of_map
  -- answering alike is having the same entries in some order
  have halike : (∀ k, a.get? k = b.get? k) ↔ ∀ e, e ∈ a.entries ↔ e ∈ b.entries := by
    refine ⟨fun h e => ?_, fun h k => ?_⟩
    · rw [← get?_eq_some_iff, ← get?_eq_some_iff, h e.1]
    · refine Option.ext fun v => ?_
      rw [get?_eq_some_iff, get?_eq_some_iff]
      exact h (k, v)
  have hsub : (∀ e ∈ a.entries, b.get? e.1 = some e.2) ↔ a.entries ⊆ b.entries := by
    refine forall₂_congr fun e _ => ?_
    rw [get?_eq_some_iff]
  simp only [sameEntries, size, Bool.and_eq_true, beq_iff_eq, List.all_eq_true]
  rw [halike, hsub]
  refine ⟨fun h e => ?_, fun h => ?_⟩
  · exact ((List.subperm_of_subset (hnodup a) h.2).perm_of_length_le (Nat.le_of_eq h.1.symm)).mem_iff
  · have hperm := (List.perm_ext_iff_of_nodup (hnodup a) (hnodup b)).mpr h
    exact ⟨hperm.length_eq, hperm.subset⟩

end OrderedMap

namespace Config

/-- **Two configurations are alike** if they answer every key alike and list the same names, in
whatever order. -/
structure Alike (c d : Config) : Prop where
  get? : ∀ k, c.get? k = d.get? k
  names : ∀ name, name ∈ c.names ↔ name ∈ d.names

theorem Alike.refl (c : Config) : Alike c c := ⟨fun _ => rfl, fun _ => Iff.rfl⟩

theorem Alike.under {c d : Config} (h : Alike c d) (start k : String) :
    (c.under start).get? k = (d.under start).get? k := by
  rw [get?_under, get?_under, h.get?]
  simp only [h.names]

end Config

namespace Settings.DevServices

/-! ## Values that a configuration gives -/

/-- Variables as a value. -/
def variableValue (env : Properties) : Value :=
  .map (env.entries.map fun e => (.text e.1, .text e.2))

/-- The values that a configuration gives under the start of a section, the variables apart. -/
def plainFieldsOf (c : Config) (start : String) : Fields :=
  let text (name : String) : Option Value := (c.get? (start ++ name)).map .text
  let switch (name : String) : Option Value :=
    (c.switch? (start ++ name)).map fun b => .scalar (.bool b)
  let timeout := (nonEmpty (c.get? (start ++ "timeout"))).or (c.get? globalTimeoutKey)
  OrderedMap.ofList ([
      ("enabled", switch "enabled"), ("image_name", text "image-name"), ("port", text "port"),
      ("service_name", text "service-name"), ("timeout_seconds", timeout.map .text),
      ("shared", switch "shared")
    ].filterMap fun e => e.2.map fun v => (e.1, v))

/-- The variables come last. -/
theorem fieldsOf_eq (c : Config) (start : String) :
    fieldsOf c start
      = (plainFieldsOf c start).insert "container_env"
          (variableValue (c.under (start ++ "container-env."))) := by
  have hlast : ∀ (es : List (String × Option Value)) (v : Value),
      OrderedMap.ofList ((es ++ [("container_env", some v)]).filterMap fun e =>
          e.2.map fun v => (e.1, v))
        = (OrderedMap.ofList (es.filterMap fun e => e.2.map fun v => (e.1, v))).insert
            "container_env" v := by
    intro es v
    rw [List.filterMap_append]
    unfold OrderedMap.ofList OrderedMap.insertAll
    rw [List.foldl_append]
    rfl
  exact hlast [_, _, _, _, _, _] _

theorem plainFieldsOf_congr {c d : Config} {start : String}
    (hget : ∀ name, c.get? (start ++ name) = d.get? (start ++ name))
    (htimeout : c.get? globalTimeoutKey = d.get? globalTimeoutKey) :
    plainFieldsOf c start = plainFieldsOf d start := by
  simp only [plainFieldsOf, switch?, hget, htimeout]

/-! ## Variables are not refused -/

theorem variablesOf_variableValue (field : String) (env : Properties) :
    variablesOf field (variableValue env) = .ok env := by
  have hread : ∀ read : Scalar × Value → Checked (String × String),
      (∀ k v, read (.text k, .text v) = .ok (k, v)) → ∀ es : List (String × String),
      (es.map fun e => (Scalar.text e.1, Value.text e.2)).foldr
          (fun e rest => Checked.and ((read e).map List.cons) rest) (.ok []) = .ok es := by
    intro read h es
    induction es with
    | nil => rfl
    | cons e es ih =>
      rw [List.map_cons, List.foldr_cons, ih, h]
      rfl
  unfold variablesOf variableValue
  dsimp only
  rw [hread _ fun _ _ => rfl]
  exact congrArg Except.ok (OrderedMap.ofList_entries env)

variable [TextRules]

/-- **Variables go into the settings as they are**, and nothing else depends on them. -/
theorem ofFields_insert_variables (fs : Fields) (env : Properties) :
    ofFields (fs.insert "container_env" (variableValue env))
      = (ofFields (fs.insert "container_env" (variableValue OrderedMap.empty))).map
          fun s => { s with environment := env } := by
  have htimeout : ∀ env : Properties,
      readTimeout (fs.insert "container_env" (variableValue env)) = readTimeout fs := by
    intro env
    rw [readTimeout, OrderedMap.get?_insert_of_ne fs (by decide)]
    rfl
  have henvironment : ∀ env : Properties,
      readEnvironment (fs.insert "container_env" (variableValue env)) = .ok env := by
    intro env
    rw [readEnvironment, OrderedMap.get?_insert_self]
    exact variablesOf_variableValue _ env
  have hunknown : Fields.unknown (fs.insert "container_env" (variableValue env)) declared
      = Fields.unknown (fs.insert "container_env" (variableValue OrderedMap.empty)) declared := by
    unfold Fields.unknown
    rw [OrderedMap.keys_insert, OrderedMap.keys_insert]
  have hmap : ∀ (c : Checked DevServices) (f : DevServices → DevServices),
      (c.mapError (SettingsError.invalid none)).map f = (c.map f).mapError (.invalid none) := by
    intro c f
    cases c <;> rfl
  rw [ofFields, ofFields, htimeout, htimeout]
  cases readTimeout fs with
  | error e => rfl
  | ok timeout =>
    have hread {α : Type} (name : String) (h : name ≠ "container_env") (v : Value) (default : α) :=
      fs.read_insert_of_ne h v default
    simp only [hread "enabled" (by decide), hread "image_name" (by decide),
      hread "port" (by decide), hread "shared" (by decide), hread "service_name" (by decide),
      henvironment, hunknown, hmap, Checked.and_ok, Checked.map_and, Checked.map_start]
    rfl

/-! ## What settings depend on -/

/-- The settings of a configuration without variables, under the start of a section. -/
def plainSettings (c : Config) (start : String) : Except SettingsError DevServices :=
  (ofFields ((plainFieldsOf c start).insert "container_env"
    (variableValue OrderedMap.empty))).mapError (.under start)

/-- **Settings are read without the variables**, and these go in as they are. -/
theorem ofConfig_eq (c : Config) (start : String) :
    ofConfig c start
      = (plainSettings c (start ++ "devservices.")).map fun s =>
          { s with environment := c.under (start ++ "devservices." ++ "container-env.") } := by
  unfold ofConfig plainSettings
  dsimp only
  rw [fieldsOf_eq, ofFields_insert_variables]
  cases ofFields ((plainFieldsOf c (start ++ "devservices.")).insert "container_env"
    (variableValue OrderedMap.empty)) <;> rfl

/-- The settings other than variables depend on the section's keys and on the timeout for all. -/
theorem plainSettings_congr {c d : Config} {start : String}
    (hget : ∀ name, c.get? (start ++ name) = d.get? (start ++ name))
    (htimeout : c.get? globalTimeoutKey = d.get? globalTimeoutKey) :
    plainSettings c start = plainSettings d start := by
  unfold plainSettings
  rw [plainFieldsOf_congr hget htimeout]

/-- **Settings depend on the section's keys, on the timeout for all and on the variables.** -/
theorem ofConfig_congr {c d : Config} {start : String}
    (hget : ∀ k, Text.startsWith k start = true → c.get? k = d.get? k)
    (htimeout : c.get? globalTimeoutKey = d.get? globalTimeoutKey)
    (hunder : c.under (start ++ "devservices." ++ "container-env.")
      = d.under (start ++ "devservices." ++ "container-env.")) :
    ofConfig c start = ofConfig d start := by
  rw [ofConfig_eq, ofConfig_eq, hunder, plainSettings_congr (fun name => hget _ ?_) htimeout]
  rw [String.append_assoc]
  exact Text.startsWith_append _ _

/-- **Alike configurations give the same settings**, up to the order of the variables. -/
theorem ofConfig_alike {c d : Config} (h : Alike c d) {start : String} {s : DevServices}
    (hs : ofConfig c start = .ok s) :
    ∃ env, ofConfig d start = .ok { s with environment := env }
      ∧ s.environment.sameEntries env = true := by
  rw [ofConfig_eq] at hs
  rw [ofConfig_eq, ← plainSettings_congr (fun name => h.get? _) (h.get? _)]
  cases hp : plainSettings c (start ++ "devservices.") with
  | error e =>
    rw [hp] at hs
    exact absurd hs (by simp [Except.map])
  | ok plain =>
    rw [hp] at hs
    obtain rfl := Except.ok.inj hs
    exact ⟨_, rfl, (OrderedMap.sameEntries_iff _ _).mpr (h.under _)⟩

end Settings.DevServices

namespace Snapshot

/-- **Two snapshots say the same** exactly if they differ in the order of the variables at most. -/
theorem same_iff (a b : Snapshot) :
    a.same b = true
      ↔ a = { b with environment := a.environment }
        ∧ ∀ k, a.environment.get? k = b.environment.get? k := by
  cases a
  simp only [same, Bool.and_eq_true, beq_iff_eq, OrderedMap.sameEntries_iff, mk.injEq, and_true,
    and_assoc]

theorem same_symm {a b : Snapshot} (h : a.same b = true) : b.same a = true := by
  rw [same_iff] at h ⊢
  obtain ⟨hab, henv⟩ := h
  exact ⟨by rw [hab], fun k => (henv k).symm⟩

theorem same_trans {a b c : Snapshot} (hab : a.same b = true) (hbc : b.same c = true) :
    a.same c = true := by
  rw [same_iff] at hab hbc ⊢
  refine ⟨?_, fun k => (hab.2 k).trans (hbc.2 k)⟩
  rw [hab.1, hbc.1]

theorem same_ofSettings {s : Settings.DevServices} {env : Properties}
    (h : s.environment.sameEntries env = true) :
    (ofSettings s).same (ofSettings { s with environment := env }) = true := by
  simp [same, ofSettings, h]

end Snapshot

end ChannelSerde
