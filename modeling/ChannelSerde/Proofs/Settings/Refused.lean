import Mathlib.Data.List.Nodup
import ChannelSerde.Proofs.Settings.Alike
import ChannelSerde.Proofs.Settings.Amount
import ChannelSerde.Settings.LibraryRules

/-!
# What is refused of a configuration

Settings that cannot be read are refused together, each problem with the path of its field. A
configuration hands out texts and switches, under the names of fields that there are, so most of
what settings can be refused for does not come up: of seven fields only the port and the timeout can
be wrong (`ofConfig_ends`).

Some texts of a timeout are not refused and not read either. A number with a unit that has a long s is
recognised as one and then has no seconds. And the rule for spans, which is asked of what is not
recognised, may fail with an error of its own. No reader of settings takes these for a problem.
-/

namespace ChannelSerde

open Text Config

namespace OrderedMap

variable {κ ν : Type} [DecidableEq κ]

/-- Of entries that may have no value, each key answers its own. -/
theorem get?_ofList_given {es : List (κ × Option ν)} (h : (es.map Prod.fst).Nodup) {k : κ}
    {v? : Option ν} (hmem : (k, v?) ∈ es) :
    (ofList (es.filterMap fun e => e.2.map fun v => (e.1, v))).get? k = v? := by
  -- what is filed under the key comes from this entry
  have hentry : ∀ p ∈ es.filterMap fun e => e.2.map fun v => (e.1, v), p.1 = k →
      some p.2 = v? := by
    intro p hp hkey
    obtain ⟨e, he, hp⟩ := List.mem_filterMap.mp hp
    obtain ⟨v, hv, rfl⟩ := Option.map_eq_some_iff.mp hp
    obtain rfl := List.inj_on_of_nodup_map h he hmem hkey
    exact hv.symm
  cases v? with
  | none =>
    rw [get?_eq_none_iff, mem_keys_ofList]
    intro hk
    obtain ⟨p, hp, hkey⟩ := List.mem_map.mp hk
    exact absurd (hentry p hp hkey) (by simp)
  | some v =>
    exact get?_ofList_of_forall (List.mem_filterMap.mpr ⟨_, hmem, rfl⟩) fun p hp hkey =>
      Option.some.inj (hentry p hp hkey)

end OrderedMap

namespace Settings

/-- **A field that can only be given what its reader takes** is read, as what is taken of the value
that is given or of none. -/
theorem Fields.read_of_forall {α β : Type} {fs : Fields} {name : String}
    {reader : Value → Except Refusal α} {given : Option β} (shown : β → Value)
    (taken : Option β → α) (hget : fs.get? name = given.map shown)
    (h : ∀ b, reader (shown b) = .ok (taken (some b))) :
    fs.read name (taken none) reader = .ok (taken given) := by
  unfold Fields.read
  rw [hget]
  cases given with
  | none => rfl
  | some b => exact congrArg (Except.mapError _) (h b)

/-! ## Problems and the fields that have them -/

/-- **Some fields are to blame** where settings read together are refused: there are problems, and
each is with one of these fields. -/
def Checked.Blames {α : Type} (fields : List String) (a : Checked α) : Prop :=
  ∀ ps, a = .error ps → ps ≠ [] ∧ ∀ p ∈ ps, ∃ field ∈ fields, p.path = [field]

section Blame

variable {α β : Type} {fields : List String}

theorem Checked.blames_ok (a : α) : Checked.Blames fields (.ok a) :=
  fun _ h => nomatch h

/-- One field is to blame for its own problem. -/
theorem Checked.blames_mapError {field : String} (hfield : field ∈ fields)
    (read : Except Refusal α) :
    Checked.Blames fields (read.mapError fun cause => [⟨[field], cause⟩]) := by
  intro ps h
  cases read with
  | ok a => exact nomatch h
  | error cause =>
    obtain rfl := Except.error.inj h
    exact ⟨by simp, by simpa using hfield⟩

/-- **Of two settings read together**, the problems are those of each. -/
theorem Checked.Blames.and {f : Checked (α → β)} {a : Checked α} (hf : f.Blames fields)
    (ha : a.Blames fields) : (Checked.and f a).Blames fields := by
  intro ps h
  cases f with
  | ok g =>
    cases a with
    | ok x => exact nomatch h
    | error qs => exact Except.error.inj h ▸ ha qs rfl
  | error qs =>
    cases a with
    | ok x => exact Except.error.inj h ▸ hf qs rfl
    | error rs =>
      obtain rfl : qs ++ rs = ps := Except.error.inj h
      obtain ⟨hne, hqs⟩ := hf qs rfl
      refine ⟨fun hnil => hne (List.append_eq_nil_iff.mp hnil).1, fun p hp => ?_⟩
      exact (List.mem_append.mp hp).elim (hqs p) ((ha rs rfl).2 p)

theorem Fields.blames_read (fs : Fields) {name : String} (hname : name ∈ fields) (default : α)
    (reader : Value → Except Refusal α) : (fs.read name default reader).Blames fields := by
  unfold Fields.read
  cases fs.get? name with
  | none => exact Checked.blames_ok default
  | some v => exact Checked.blames_mapError hname (reader v)

end Blame

namespace DevServices

/-! ## What a configuration gives -/

/-- The values that a configuration gives under the start of a section, or has none of. -/
def given (c : Config) (start : String) : List (String × Option Value) := [
  ("enabled", (c.switch? (start ++ "enabled")).map fun b => .scalar (.bool b)),
  ("image_name", (c.get? (start ++ "image-name")).map .text),
  ("port", (c.get? (start ++ "port")).map .text),
  ("service_name", (c.get? (start ++ "service-name")).map .text),
  ("timeout_seconds",
    ((nonEmpty (c.get? (start ++ "timeout"))).or (c.get? globalTimeoutKey)).map .text),
  ("shared", (c.switch? (start ++ "shared")).map fun b => .scalar (.bool b)),
  ("container_env", some (variableValue (c.under (start ++ "container-env."))))]

variable {c : Config} {start : String}

/-- **Each field has the value that is given for it.** -/
theorem get?_fieldsOf {name : String} {v? : Option Value} (h : (name, v?) ∈ given c start) :
    (fieldsOf c start).get? name = v? := by
  have hnodup : ((given c start).map Prod.fst).Nodup :=
    (by decide : ["enabled", "image_name", "port", "service_name", "timeout_seconds", "shared",
      "container_env"].Nodup)
  exact OrderedMap.get?_ofList_given hnodup h

/-- A configuration gives no fields that there are not. -/
theorem unknown_fieldsOf (c : Config) (start : String) :
    (fieldsOf c start).unknown declared = .ok () := by
  have hkeys : ∀ k ∈ (fieldsOf c start).keys, k ∈ declared := by
    intro k hk
    obtain ⟨p, hp, rfl⟩ := List.mem_map.mp ((OrderedMap.mem_keys_ofList _ _).mp hk)
    obtain ⟨e, he, hp⟩ := List.mem_filterMap.mp hp
    obtain ⟨v, -, rfl⟩ := Option.map_eq_some_iff.mp hp
    have hnames : e.1 ∈ (given c start).map Prod.fst := List.mem_map_of_mem he
    have hdeclared : ∀ k ∈ ["enabled", "image_name", "port", "service_name", "timeout_seconds",
      "shared", "container_env"], k ∈ declared := by decide
    exact hdeclared _ hnames
  have hnone : (fieldsOf c start).keys.filter (fun k => !declared.contains k) = [] := by
    rw [List.filter_eq_nil_iff]
    intro k hk
    simpa using hkeys k hk
  rw [Fields.unknown, hnone]

/-! ## What cannot fail

A switch that is no answer is not given, and texts and variables are taken as they are. -/

theorem read_enabled (c : Config) (start : String) :
    (fieldsOf c start).read "enabled" none (optional switchOf)
      = .ok (c.switch? (start ++ "enabled")) :=
  Fields.read_of_forall (fun b => .scalar (.bool b)) (fun b? => b?)
    (get?_fieldsOf (by simp [given])) fun _ => rfl

theorem read_image (c : Config) (start : String) :
    (fieldsOf c start).read "image_name" none (optional textOf)
      = .ok (c.get? (start ++ "image-name")) :=
  Fields.read_of_forall .text (fun t? => t?) (get?_fieldsOf (by simp [given])) fun _ => rfl

theorem read_shared (c : Config) (start : String) :
    (fieldsOf c start).read "shared" true switchOf
      = .ok ((c.switch? (start ++ "shared")).getD true) :=
  Fields.read_of_forall (fun b => .scalar (.bool b)) (·.getD true)
    (get?_fieldsOf (by simp [given])) fun _ => rfl

theorem read_serviceName (c : Config) (start : String) :
    (fieldsOf c start).read "service_name" defaultServiceName textOf
      = .ok ((c.get? (start ++ "service-name")).getD defaultServiceName) :=
  Fields.read_of_forall .text (·.getD defaultServiceName)
    (get?_fieldsOf (by simp [given])) fun _ => rfl

theorem readEnvironment_fieldsOf (c : Config) (start : String) :
    readEnvironment (fieldsOf c start) = .ok (c.under (start ++ "container-env.")) := by
  have hget : (fieldsOf c start).get? "container_env"
      = some (variableValue (c.under (start ++ "container-env."))) :=
    get?_fieldsOf (by simp [given])
  rw [readEnvironment, hget]
  exact variablesOf_variableValue _ _

/-! ## Timeouts -/

section Ends

variable [TextRules]

/-- **A timeout cannot be answered** exactly if it is a text whose duration cannot. -/
theorem timeoutOf_error_iff {v : Value} {e : Escape} :
    timeoutOf v = .error e ↔ ∃ t, v = .text t ∧ durationSeconds t = .error (.escape e) := by
  constructor
  · intro h
    unfold timeoutOf at h
    split at h
    · next t =>
      split at h
      · exact nomatch h
      · exact nomatch h
      · next e' hescape => exact ⟨t, rfl, hescape.trans (congrArg _ (congrArg _ (Except.error.inj h)))⟩
    · exact nomatch h
  · rintro ⟨t, rfl, h⟩
    rw [timeoutOf, h]

/-- Among fields, a timeout cannot be answered where its value cannot. -/
theorem readTimeout_error_iff {fs : Fields} {e : Escape} :
    readTimeout fs = .error e
      ↔ ∃ t, fs.get? "timeout_seconds" = some (.text t)
          ∧ durationSeconds t = .error (.escape e) := by
  unfold readTimeout
  cases hv : fs.get? "timeout_seconds" with
  | none => exact iff_of_false (fun h => nomatch h) fun ⟨t, h, _⟩ => nomatch h
  | some v =>
    simp only [Option.some.injEq]
    rw [← timeoutOf_error_iff]
    cases timeoutOf v <;> simp [Except.map]

/-- Where a timeout is answered, it is to blame for itself. -/
theorem blames_readTimeout {fs : Fields} {timeout : Checked (Option Float)}
    {fields : List String} (hfield : "timeout_seconds" ∈ fields)
    (h : readTimeout fs = .ok timeout) : timeout.Blames fields := by
  unfold readTimeout at h
  cases hv : fs.get? "timeout_seconds" with
  | none =>
    rw [hv] at h
    obtain rfl := Except.ok.inj h
    exact Checked.blames_ok none
  | some v =>
    rw [hv] at h
    dsimp only at h
    cases ht : timeoutOf v with
    | error e => rw [ht] at h; exact nomatch h
    | ok read =>
      rw [ht] at h
      obtain rfl := Except.ok.inj h
      exact Checked.blames_mapError hfield read

/-! ## How reading ends -/

/-- **The fields to blame for settings of a configuration** are the port and the timeout. -/
theorem ofFields_fieldsOf (c : Config) (start : String) {timeout : Checked (Option Float)}
    (h : readTimeout (fieldsOf c start) = .ok timeout) :
    ∃ settings : Checked DevServices, settings.Blames ["port", "timeout_seconds"]
      ∧ ofFields (fieldsOf c start) = settings.mapError (.invalid none) := by
  refine ⟨_, ?_, by rw [ofFields, h, read_enabled, read_image, read_shared, read_serviceName,
    readEnvironment_fieldsOf, unknown_fieldsOf]⟩
  exact (Checked.blames_ok ofParts)
    |>.and (Checked.blames_ok _)
    |>.and (Checked.blames_ok _)
    |>.and (Fields.blames_read _ (by decide) none _)
    |>.and (Checked.blames_ok _)
    |>.and (Checked.blames_ok _)
    |>.and (Checked.blames_ok _)
    |>.and (blames_readTimeout (by decide) h)
    |>.and (Checked.blames_ok ())

/-- The timeout of a configuration is that of the section if it is not empty and else the one for
all, and it cannot be answered where the duration of its text cannot. -/
theorem readTimeout_fieldsOf_error_iff (c : Config) (start : String) (e : Escape) :
    readTimeout (fieldsOf c start) = .error e
      ↔ ∃ text, (nonEmpty (c.get? (start ++ "timeout"))).or (c.get? globalTimeoutKey) = some text
          ∧ durationSeconds text = .error (.escape e) := by
  have hget : (fieldsOf c start).get? "timeout_seconds"
      = ((nonEmpty (c.get? (start ++ "timeout"))).or (c.get? globalTimeoutKey)).map .text :=
    get?_fieldsOf (by simp [given])
  rw [readTimeout_error_iff, hget]
  simp only [Option.map_eq_some_iff]
  constructor
  · rintro ⟨t, ⟨text, htext, heq⟩, h⟩
    cases heq
    exact ⟨t, htext, h⟩
  · rintro ⟨text, htext, h⟩
    exact ⟨text, ⟨text, htext, rfl⟩, h⟩

/-- **Where the timeout cannot be answered, no settings can.** -/
theorem ofConfig_of_readTimeout_error {c : Config} {start : String} {e : Escape}
    (h : readTimeout (fieldsOf c (start ++ "devservices.")) = .error e) :
    ofConfig c start = .error (.escape e) := by
  have hend : ofConfig c start = (ofFields (fieldsOf c (start ++ "devservices."))).mapError
    (.under (start ++ "devservices.")) := rfl
  rw [hend, ofFields, h]
  rfl

/-- **How settings are read from a configuration.** They are read, or they are refused under the
start of their keys, with problems of the port, of the timeout or of both; unless the timeout, that
of the section if it is not empty and else the one for all, and blanks around it apart, is a number
with a unit that has a long s, or is not recognised as a number with a unit and the rule for spans
fails on it with an error of its own. Then there is no answer at all, and the error is that of the
missing unit or that of the rule. -/
theorem ofConfig_ends (c : Config) (start : String) :
    let place := start ++ "devservices."
    let timeout := (nonEmpty (c.get? (place ++ "timeout"))).or (c.get? globalTimeoutKey)
    let unknown := ∃ text, timeout = some text
      ∧ ∃ unit ∈ longUnits, IsAmount unit (trimChars text.toList)
    let raises (error : String) := ∃ text, timeout = some text
      ∧ ¬ IsRecognised (trimChars text.toList) ∧ TextRules.span (trim text) = .raised error
    (((∃ s, ofConfig c start = .ok s)
        ∨ ∃ ps, ofConfig c start = .error (.invalid (some place) ps) ∧ ps ≠ []
            ∧ ∀ p ∈ ps, p.path = ["port"] ∨ p.path = ["timeout_seconds"])
      ↔ ¬ unknown ∧ ∀ error, ¬ raises error)
    ∧ (ofConfig c start = .error (.escape .unknownUnit) ↔ unknown)
    ∧ ∀ error, ofConfig c start = .error (.escape (.raised error)) ↔ raises error := by
  intro place timeout unknown raises
  have hunknown : readTimeout (fieldsOf c place) = .error .unknownUnit ↔ unknown := by
    rw [readTimeout_fieldsOf_error_iff]
    simp only [durationSeconds_unknownUnit_iff]
    rfl
  have hraises : ∀ error, readTimeout (fieldsOf c place) = .error (.raised error) ↔ raises error := by
    intro error
    rw [readTimeout_fieldsOf_error_iff]
    simp only [durationSeconds_raised_iff]
    rfl
  rw [← hunknown]
  simp only [← hraises]
  cases hread : readTimeout (fieldsOf c place) with
  | error e =>
    rw [ofConfig_of_readTimeout_error hread]
    cases e <;> simp
  | ok timeout =>
    obtain ⟨settings, hblames, hsettings⟩ := ofFields_fieldsOf c place hread
    have hend : ofConfig c start
        = (settings.mapError (.invalid none)).mapError (.under place) := by
      rw [← hsettings]
      rfl
    rw [hend]
    cases settings with
    | ok s => simp [Except.mapError]
    | error ps =>
      obtain ⟨hne, hpaths⟩ := hblames ps rfl
      simpa [Except.mapError, SettingsError.under, hne] using hpaths

end Ends

/-- A configuration with nothing but a timeout for all dev services. -/
def withTimeout (text : String) : Config where
  sources := [.ofProperties "application" (OrderedMap.ofList [(globalTimeoutKey, text)])
    Config.applicationOrdinal]
  ranked := List.pairwise_singleton _ _

/-- **A timeout of five long seconds** is neither read nor refused, with the rules that the library
has. -/
theorem ofConfig_longSeconds :
    letI := TextRules.library
    ¬ ((∃ s, ofConfig (withTimeout "5ſ") sectionStart = .ok s)
      ∨ ∃ start ps, ofConfig (withTimeout "5ſ") sectionStart = .error (.invalid start ps)) := by
  let _ := TextRules.library
  have hamount : IsAmount ['ſ'] (['5'] ++ ([] ++ ['ſ'])) :=
    .intro (.whole ⟨by decide, List.forall_mem_singleton.mpr (by decide +kernel)⟩) (by simp)
  have hend : ofConfig (withTimeout "5ſ") sectionStart = .error (.escape .unknownUnit) := by
    refine ofConfig_of_readTimeout_error ((readTimeout_fieldsOf_error_iff _ _ _).mpr
      ⟨"5ſ", by decide +kernel, (durationSeconds_unknownUnit_iff _).mpr ⟨['ſ'], by decide, ?_⟩⟩)
    rw [show trimChars "5ſ".toList = ['5'] ++ ([] ++ ['ſ']) by decide +kernel]
    exact hamount
  rw [hend]
  simp

/-- **Nor is a timeout below the least span**, where the rule for spans fails with an error of its
own. -/
theorem ofConfig_belowLeastSpan :
    letI := TextRules.library
    ofConfig (withTimeout "-999999999 days, 00:00:01") sectionStart
      = .error (.escape (.raised "OverflowError")) := by
  let _ := TextRules.library
  have hduration : durationSeconds "-999999999 days, 00:00:01"
      = .error (.escape (.raised "OverflowError")) := by
    rw [durationSeconds, show amount? (trimChars "-999999999 days, 00:00:01".toList) = none by rfl]
    rfl
  exact ofConfig_of_readTimeout_error ((readTimeout_fieldsOf_error_iff _ _ _).mpr
    ⟨"-999999999 days, 00:00:01", by decide +kernel, hduration⟩)

end DevServices

end Settings

end ChannelSerde
