import ChannelSerde.Proofs.Settings.Refused

/-!
# What is read of a configuration

Settings are read together, and they are read exactly if each of them is (`ofFields_eq_ok_iff`). Of
a configuration most of them cannot fail. A switch that is no answer leaves the default, a text is
taken as it is, and the variables are what is found under their start. So the settings that come of
a configuration are described field by field, by the value of one key each (`ofConfig_eq_ok_iff`).

The port is the one number among them. Its text is read by the rule for integers, whatever that says,
and what the rule gives is the port or nothing is: no text stands for the default.
-/

namespace ChannelSerde.Settings

open Config

/-! ## Settings that are read -/

section Read

variable {α β : Type}

/-- **Settings read together are read if each of them is.** -/
theorem Checked.and_eq_ok_iff {f : Checked (α → β)} {a : Checked α} {b : β} :
    Checked.and f a = .ok b ↔ ∃ g x, f = .ok g ∧ a = .ok x ∧ g x = b := by
  constructor
  · intro h
    cases f with
    | ok g =>
      cases a with
      | ok x => exact ⟨g, x, rfl, rfl, Except.ok.inj h⟩
      | error qs => exact nomatch h
    | error ps =>
      cases a with
      | ok x => exact nomatch h
      | error qs => exact nomatch h
  · rintro ⟨g, x, rfl, rfl, rfl⟩
    rfl

theorem mapError_eq_ok_iff {ε ε' : Type} {h : ε → ε'} {a : Except ε α} {x : α} :
    a.mapError h = .ok x ↔ a = .ok x := by
  cases a <;> simp [Except.mapError]

theorem Fields.read_eq_ok_iff {fs : Fields} {name : String} {default : α}
    {reader : Value → Except Refusal α} {a : α} :
    fs.read name default reader = .ok a
      ↔ (fs.get? name = none ∧ default = a) ∨ ∃ v, fs.get? name = some v ∧ reader v = .ok a := by
  unfold Fields.read
  cases fs.get? name with
  | none => simp
  | some v => simpa using mapError_eq_ok_iff

end Read

/-! ## Ports -/

variable [TextRules]

/-- **A port is an integer from nought to the greatest port.** -/
theorem portOf_eq_ok_iff {v : Value} {p : Fin (maxPort + 1)} :
    portOf v = .ok p ↔ integerOf v = .ok (p.val : Int) := by
  unfold portOf
  cases integerOf v with
  | error e => exact iff_of_false (fun h => nomatch h) fun h => nomatch h
  | ok i =>
    show (if i < 0 then Except.error Refusal.belowLeast
      else if h : i.toNat < maxPort + 1 then .ok ⟨i.toNat, h⟩ else .error .aboveGreatest) = .ok p
        ↔ Except.ok i = .ok (p.val : Int)
    have hp : p.val < maxPort + 1 := p.isLt
    by_cases hnegative : i < 0
    · rw [if_pos hnegative]
      refine iff_of_false (fun h => nomatch h) fun h => ?_
      have hi := Except.ok.inj h
      omega
    · rw [if_neg hnegative]
      by_cases hgreat : i.toNat < maxPort + 1
      · rw [dif_pos hgreat]
        simp only [Except.ok.injEq, Fin.ext_iff]
        omega
      · rw [dif_neg hgreat]
        refine iff_of_false (fun h => nomatch h) fun h => ?_
        have hi := Except.ok.inj h
        omega

/-- **The port that a text gives**, if there is a text. -/
inductive ReadsPort : Option String → Option (Fin (maxPort + 1)) → Prop
  | unset : ReadsPort none none
  | set {text : String} {p : Fin (maxPort + 1)} (h : TextRules.integer text = .ok (p.val : Int)) :
    ReadsPort (some text) (some p)

/-- A field of a port reads the text that it is given. -/
theorem Fields.read_port_eq_ok_iff {fs : Fields} {name : String} {text? : Option String}
    (hget : fs.get? name = text?.map .text) {port : Option (Fin (maxPort + 1))} :
    fs.read name none (optional portOf) = .ok port ↔ ReadsPort text? port := by
  rw [Fields.read_eq_ok_iff, hget]
  cases text? with
  | none =>
    constructor
    · rintro (⟨-, rfl⟩ | ⟨v, hv, -⟩)
      · exact .unset
      · exact nomatch hv
    · rintro ⟨⟩
      exact .inl ⟨rfl, rfl⟩
  | some text =>
    constructor
    · rintro (⟨hnone, -⟩ | ⟨v, hv, hread⟩)
      · exact nomatch hnone
      · obtain rfl := Option.some.inj hv
        change (portOf (.text text)).map some = .ok port at hread
        cases hp : portOf (.text text) with
        | error e => rw [hp] at hread; exact nomatch hread
        | ok p =>
          rw [hp] at hread
          obtain rfl := Except.ok.inj hread
          exact .set (portOf_eq_ok_iff.mp hp)
    · rintro (_ | ⟨h⟩)
      refine .inr ⟨.text text, rfl, ?_⟩
      show (portOf (.text text)).map some = _
      have hp : portOf (.text text) = .ok _ := portOf_eq_ok_iff.mpr h
      rw [hp]
      rfl

namespace DevServices

/-! ## Settings of the dev service -/

/-- **Settings are read exactly if each of them is.** -/
theorem ofFields_eq_ok_iff {fs : Fields} {s : DevServices} :
    ofFields fs = .ok s ↔
      ∃ enabled image port isShared serviceName environment timeout,
        readTimeout fs = .ok (.ok timeout)
        ∧ fs.read "enabled" none (optional switchOf) = .ok enabled
        ∧ fs.read "image_name" none (optional textOf) = .ok image
        ∧ fs.read "port" none (optional portOf) = .ok port
        ∧ fs.read "shared" true switchOf = .ok isShared
        ∧ fs.read "service_name" defaultServiceName textOf = .ok serviceName
        ∧ readEnvironment fs = .ok environment
        ∧ fs.unknown declared = .ok ()
        ∧ ofParts enabled image port isShared serviceName environment timeout () = s := by
  unfold ofFields
  cases readTimeout fs with
  | error e => simp
  | ok timeout =>
    simp only [mapError_eq_ok_iff, Checked.and_eq_ok_iff, Checked.start, Except.ok.injEq]
    constructor
    · rintro ⟨_, _, ⟨_, t, ⟨_, environment, ⟨_, serviceName, ⟨_, isShared, ⟨_, port, ⟨_, image,
        ⟨_, enabled, rfl, he, rfl⟩, hi, rfl⟩, hp, rfl⟩, hs, rfl⟩, hn, rfl⟩, hv, rfl⟩, ht, rfl⟩,
        hu, rfl⟩
      exact ⟨enabled, image, port, isShared, serviceName, environment, t, ht, he, hi, hp, hs, hn,
        hv, hu, rfl⟩
    · rintro ⟨enabled, image, port, isShared, serviceName, environment, t, ht, he, hi, hp, hs, hn,
        hv, hu, rfl⟩
      exact ⟨_, (), ⟨_, t, ⟨_, environment, ⟨_, serviceName, ⟨_, isShared, ⟨_, port, ⟨_, image,
        ⟨_, enabled, rfl, he, rfl⟩, hi, rfl⟩, hp, rfl⟩, hs, rfl⟩, hn, rfl⟩, hv, rfl⟩, ht, rfl⟩,
        hu, rfl⟩

/-- **Settings are what a configuration says** under the start of a section. -/
structure IsRead (s : DevServices) (c : Config) (place : String) : Prop where
  enabled : s.enabled = c.switch? (place ++ "enabled")
  image : s.image = namedImage (c.get? (place ++ "image-name"))
  port : ReadsPort (c.get? (place ++ "port")) s.port
  isShared : s.isShared = (c.switch? (place ++ "shared")).getD true
  serviceName : s.serviceName = (c.get? (place ++ "service-name")).getD defaultServiceName
  environment : s.environment = c.under (place ++ "container-env.")
  timeout : readTimeout (fieldsOf c place) = .ok (.ok s.timeout)

/-- **Of a configuration come the settings that it says, or none.** -/
theorem ofConfig_eq_ok_iff {c : Config} {start : String} {s : DevServices} :
    ofConfig c start = .ok s ↔ s.IsRead c (start ++ "devservices.") := by
  let place := start ++ "devservices."
  have hport : ∀ port, (fieldsOf c place).read "port" none (optional portOf) = .ok port
      ↔ ReadsPort (c.get? (place ++ "port")) port := fun port =>
    Fields.read_port_eq_ok_iff (get?_fieldsOf (by simp [given]))
  have hend : ofConfig c start = (ofFields (fieldsOf c place)).mapError (.under place) := rfl
  rw [hend, mapError_eq_ok_iff, ofFields_eq_ok_iff, read_enabled, read_image, read_shared,
    read_serviceName, readEnvironment_fieldsOf, unknown_fieldsOf]
  constructor
  · rintro ⟨_, _, port, _, _, _, timeout, ht, ⟨⟩, ⟨⟩, hp, ⟨⟩, ⟨⟩, ⟨⟩, -, rfl⟩
    exact ⟨rfl, rfl, (hport port).mp hp, rfl, rfl, rfl, ht⟩
  · intro h
    refine ⟨_, _, s.port, _, _, _, s.timeout, h.timeout, rfl, rfl, (hport _).mpr h.port, rfl, rfl,
      rfl, rfl, ?_⟩
    show DevServices.mk _ _ _ _ _ _ _ = s
    rw [← h.enabled, ← h.image, ← h.isShared, ← h.serviceName, ← h.environment]

end DevServices

end ChannelSerde.Settings
