import Mathlib.Data.List.TakeWhile
import ChannelSerde.Settings.Duration

/-!
# What is a number with a unit

A duration is first tried as a number with a unit. What such a text is, is said here by its parts
(`IsAmount`): digits of any script, perhaps a point and more digits, blanks, and a unit. The reader
finds the parts one after the other, each as long as it can be, and it finds them wherever they are
(`amount?_iff`), since no part starts with a character that the one before it could go on with.

The unit is told from others with its case left out, and its seconds are looked up in small letters.
The two agree on all units but those with a long s: that counts as an s, has no other small letter
than itself, and is the s of no unit. So these are the texts that are a number with a unit which
does not exist (`durationSeconds_unknownUnit_iff`).
-/

namespace ChannelSerde.Settings

open Text Decimal

/-- A run of digits of any script, one at least. -/
structure IsDigits (ds : List Char) : Prop where
  nonempty : ds ≠ []
  digits : ∀ c ∈ ds, (digit? c).isSome = true

/-- **A number**: digits, and perhaps a point with digits after it. -/
inductive IsNumber : List Char → Prop
  | whole {ds : List Char} (hd : IsDigits ds) : IsNumber ds
  | fractional {ds fs : List Char} (hd : IsDigits ds) (hf : IsDigits fs) :
    IsNumber (ds ++ '.' :: fs)

/-- **A number with a unit**, and perhaps blanks between them. -/
inductive IsAmount (unit : List Char) : List Char → Prop
  | intro {number blanks : List Char} (hn : IsNumber number)
      (hb : ∀ c ∈ blanks, isBlank c = true) : IsAmount unit (number ++ (blanks ++ unit))

/-- The names of the units, by their characters. -/
def unitNames : List (List Char) := timeUnits.map fun u => u.name.toList

/-! ## Digits and numbers -/

theorem leadingDigits_run {ds rest : List Char} (hd : ∀ c ∈ ds, (digit? c).isSome = true)
    (hr : ∀ c ∈ rest.head?, digit? c = none) :
    leadingDigits (ds ++ rest) = (ds.filterMap digit?, rest) := by
  rw [leadingDigits, takeWhile_run hd fun c hc => by rw [hr c hc]; rfl]
  exact Prod.ext rfl List.drop_left

theorem exists_leadingDigits (cs : List Char) :
    ∃ ds rest, cs = ds ++ rest ∧ (∀ c ∈ ds, (digit? c).isSome = true)
      ∧ ∀ c ∈ rest.head?, digit? c = none := by
  refine ⟨cs.takeWhile fun c => (digit? c).isSome, cs.dropWhile fun c => (digit? c).isSome,
    List.takeWhile_append_dropWhile.symm, fun c => List.mem_takeWhile_imp, fun c hc => ?_⟩
  exact Option.not_isSome_iff_eq_none.mp (by simpa using head?_dropWhile hc)

theorem isEmpty_filterMap_digit? {ds : List Char} (hd : ∀ c ∈ ds, (digit? c).isSome = true) :
    (ds.filterMap digit?).isEmpty = ds.isEmpty := by
  cases ds with
  | nil => rfl
  | cons c cs =>
    obtain ⟨v, hv⟩ := Option.isSome_iff_exists.mp (hd c List.mem_cons_self)
    rw [List.filterMap_cons_some hv]
    rfl

theorem IsDigits.isEmpty_values {ds : List Char} (h : IsDigits ds) :
    (ds.filterMap digit?).isEmpty = false := by
  rw [isEmpty_filterMap_digit? h.digits]
  exact List.isEmpty_eq_false_iff.mpr h.nonempty

theorem leadingNumber?_digits {ds rest : List Char} (hd : IsDigits ds)
    (hr : ∀ c ∈ rest.head?, digit? c = none) (hpoint : rest.head? ≠ some '.') :
    leadingNumber? (ds ++ rest) = some (ds.filterMap digit?, 0, rest) := by
  rw [leadingNumber?, leadingDigits_run hd.digits hr]
  dsimp only
  rw [hd.isEmpty_values, if_neg Bool.false_ne_true]
  split
  · exact absurd rfl hpoint
  · rfl

theorem leadingNumber?_point {ds fs : List Char} (hd : IsDigits ds) :
    leadingNumber? (ds ++ '.' :: fs)
      = if (leadingDigits fs).1.isEmpty then some (ds.filterMap digit?, 0, '.' :: fs)
        else some (ds.filterMap digit? ++ (leadingDigits fs).1, (leadingDigits fs).1.length,
          (leadingDigits fs).2) := by
  have hstop : ∀ c ∈ ('.' :: fs).head?, digit? c = none := by
    intro c hc
    obtain rfl := Option.some.inj hc
    decide +kernel
  rw [leadingNumber?, leadingDigits_run hd.digits hstop]
  dsimp only
  rw [hd.isEmpty_values]
  rfl

/-- **A number is found** wherever what comes after it does not go on with it. -/
theorem leadingNumber?_number {number rest : List Char} (h : IsNumber number)
    (hr : ∀ c ∈ rest.head?, digit? c = none ∧ c ≠ '.') :
    ∃ values places, leadingNumber? (number ++ rest) = some (values, places, rest) := by
  cases h with
  | whole hd =>
    exact ⟨_, _, leadingNumber?_digits hd (fun c hc => (hr c hc).1) fun hc => (hr '.' hc).2 rfl⟩
  | @fractional ds fs hd hf =>
    refine ⟨ds.filterMap digit? ++ fs.filterMap digit?, (fs.filterMap digit?).length, ?_⟩
    rw [List.append_assoc, List.cons_append, leadingNumber?_point hd,
      leadingDigits_run hf.digits fun c hc => (hr c hc).1, hf.isEmpty_values]
    rfl

/-- **What is found is a number**, and what is left comes after it. -/
theorem isNumber_of_leadingNumber? {cs rest : List Char} {values : List Nat} {places : Nat}
    (h : leadingNumber? cs = some (values, places, rest)) :
    ∃ number, IsNumber number ∧ cs = number ++ rest := by
  obtain ⟨ds, after, rfl, hd, hr⟩ := exists_leadingDigits cs
  by_cases hds : ds = []
  · subst hds
    rw [leadingNumber?, leadingDigits_run hd hr] at h
    exact absurd h (by simp)
  have hdigits : IsDigits ds := ⟨hds, hd⟩
  have hwhole : ∀ v, some (v, 0, after) = some (values, places, rest) →
      ∃ number, IsNumber number ∧ ds ++ after = number ++ rest := fun v heq =>
    ⟨ds, .whole hdigits, congrArg (ds ++ ·) (congrArg (·.2.2) (Option.some.inj heq))⟩
  by_cases hpoint : after.head? = some '.'
  · obtain ⟨fs, rfl⟩ := List.head?_eq_some_iff.mp hpoint
    obtain ⟨gs, last, rfl, hg, hl⟩ := exists_leadingDigits fs
    rw [leadingNumber?_point hdigits, leadingDigits_run hg hl, isEmpty_filterMap_digit? hg] at h
    by_cases hgs : gs = []
    · rw [if_pos (by simp [hgs])] at h
      exact hwhole _ h
    · rw [if_neg (by simpa using hgs)] at h
      obtain rfl : last = rest := congrArg (·.2.2) (Option.some.inj h)
      exact ⟨ds ++ '.' :: gs, .fractional hdigits ⟨hgs, hg⟩, by simp⟩
  · rw [leadingNumber?_digits hdigits hr hpoint] at h
    exact hwhole _ h

/-! ## Blanks and units -/

theorem digit?_of_isBlank {c : Char} (h : isBlank c = true) : digit? c = none ∧ c ≠ '.' := by
  have hzeros : ∀ z ∈ digitZeros, ∀ i < 10, isBlank (Char.ofNat (z + i)) = false := by
    decide +kernel
  refine ⟨?_, fun hpoint => absurd (hpoint ▸ h) (by decide)⟩
  rw [digit?, Option.map_eq_none_iff, List.find?_eq_none]
  intro z hz hrun
  have hrun : z ≤ c.toNat ∧ c.toNat < z + 10 := by simpa using hrun
  have hblank := hzeros z hz (c.toNat - z) (by omega)
  rw [Nat.add_sub_cancel' hrun.1, Char.ofNat_toNat] at hblank
  exact Bool.false_ne_true (hblank.symm.trans h)

/-- The characters that units are spelled with, whatever their case. -/
def unitLetters : List Char := ['m', 'M', 's', 'S', 'h', 'H', 'ſ']

theorem toLower_eq_self {c : Char} (h : ¬ (65 ≤ c.toNat ∧ c.toNat < 65 + 26)) : c.toLower = c := by
  unfold Char.toLower
  refine dif_neg fun hc => h ?_
  have hlow : 'A'.val.toNat ≤ c.val.toNat := UInt32.le_iff_toNat_le.mp hc.1
  have hhigh : c.val.toNat ≤ 'Z'.val.toNat := UInt32.le_iff_toNat_le.mp hc.2
  exact ⟨hlow, Nat.lt_succ_of_le hhigh⟩

theorem mem_unitLetters {c : Char} (h : caseless c ∈ ['m', 's', 'h']) : c ∈ unitLetters := by
  have hcapitals : ∀ i < 26, (Char.ofNat (65 + i)).toLower ∈ ['m', 's', 'h'] →
      Char.ofNat (65 + i) ∈ unitLetters := by
    decide
  have hsmall : ['m', 's', 'h'] ⊆ unitLetters := by decide
  unfold caseless at h
  split at h
  · next hlong => rw [eq_of_beq hlong]; decide
  · by_cases hc : 65 ≤ c.toNat ∧ c.toNat < 65 + 26
    · have hcapital := hcapitals (c.toNat - 65) (by omega)
      rw [Nat.add_sub_cancel' hc.1, Char.ofNat_toNat] at hcapital
      exact hcapital h
    · rw [toLower_eq_self hc] at h
      exact hsmall h

/-- A letter of a unit is neither a blank nor a digit, and no point. -/
theorem not_blank_of_mem_unitLetters {c : Char} (h : c ∈ unitLetters) :
    isBlank c = false ∧ digit? c = none ∧ c ≠ '.' := by
  have hletters : (unitLetters.all fun c => !isBlank c && (digit? c).isNone && c != '.') = true :=
    by decide +kernel
  simpa [and_assoc] using List.all_eq_true.mp hletters c h

theorem letters_of_mem_unitNames {unit : List Char} (h : unit.map caseless ∈ unitNames) :
    ∀ c ∈ unit, c ∈ unitLetters := by
  have hnames : ∀ name ∈ unitNames, name ⊆ ['m', 's', 'h'] := by decide
  exact fun c hc => mem_unitLetters (hnames _ h (List.mem_map_of_mem hc))

theorem any_timeUnits (name : List Char) :
    (timeUnits.any fun u => u.name.toList == name) = true ↔ name ∈ unitNames := by
  simp only [unitNames, List.any_eq_true, beq_iff_eq, List.mem_map]

/-! ## Numbers with a unit -/

/-- **A text is recognised** as a number with a unit: this is left out, or known in some case. -/
def IsRecognised (cs : List Char) : Prop :=
  ∃ unit, IsAmount unit cs ∧ (unit = [] ∨ unit.map caseless ∈ unitNames)

/-- **A number with a unit is what is read as one**, the unit being left out or known in some
case. -/
theorem amount?_iff {cs unit : List Char} :
    (∃ x, amount? cs = some (x, unit))
      ↔ IsAmount unit cs ∧ (unit = [] ∨ unit.map caseless ∈ unitNames) := by
  constructor
  · rintro ⟨x, h⟩
    obtain ⟨⟨values, places, rest⟩, hnumber, hrest⟩ := Option.bind_eq_some_iff.mp h
    obtain ⟨number, hn, rfl⟩ := isNumber_of_leadingNumber? hnumber
    dsimp only at hrest
    split at hrest
    · next hunit =>
      obtain rfl : rest.dropWhile isBlank = unit := congrArg Prod.snd (Option.some.inj hrest)
      rw [Bool.or_eq_true, any_timeUnits, List.isEmpty_iff] at hunit
      have hamount := @IsAmount.intro (rest.dropWhile isBlank) number (rest.takeWhile isBlank) hn
        fun c => List.mem_takeWhile_imp
      rw [List.takeWhile_append_dropWhile] at hamount
      exact ⟨hamount, hunit⟩
    · exact absurd hrest (by simp)
  · rintro ⟨@⟨number, blanks, hn, hb⟩, hunit⟩
    have hhead : ∀ c ∈ unit.head?, isBlank c = false ∧ digit? c = none ∧ c ≠ '.' := by
      intro c hc
      obtain rfl | hname := hunit
      · exact absurd hc (by simp)
      · exact not_blank_of_mem_unitLetters
          (letters_of_mem_unitNames hname c (List.mem_of_mem_head? hc))
    have hstop : ∀ c ∈ (blanks ++ unit).head?, digit? c = none ∧ c ≠ '.' := by
      intro c hc
      cases blanks with
      | nil => exact (hhead c hc).2
      | cons b bs =>
        obtain rfl := Option.some.inj hc
        exact digit?_of_isBlank (hb b List.mem_cons_self)
    obtain ⟨values, places, hnumber⟩ := leadingNumber?_number hn hstop
    refine ⟨nearestDecimal false (digitsToNat values) (-(places : Int)), ?_⟩
    refine Option.bind_eq_some_iff.mpr ⟨_, hnumber, ?_⟩
    dsimp only
    rw [dropWhile_run hb fun c hc => (hhead c hc).1, if_pos]
    rwa [Bool.or_eq_true, any_timeUnits, List.isEmpty_iff]

/-! ## Units that do not exist -/

/-- The units that are spelled with a long s. -/
def longUnits : List (List Char) := [['ſ'], ['m', 'ſ'], ['M', 'ſ']]

/-- A unit is unknown if it is none of the names in small letters. -/
theorem amountSeconds_unknownUnit_iff {x : Float} {unit : List Char} :
    amountSeconds x unit = .error (.escape .unknownUnit)
      ↔ unit ≠ [] ∧ unit.map Char.toLower ∉ unitNames := by
  have hfind : ∀ name, (timeUnits.find? fun u => u.name.toList == name) = none
      ↔ name ∉ unitNames := fun name => by
    rw [← any_timeUnits, List.find?_eq_none]
    simp only [List.any_eq_true, not_exists, not_and]
  by_cases hunit : unit = []
  · subst hunit
    have hseconds : amountSeconds x [] = .ok (x * floatOfInt 1) := rfl
    simp [hseconds]
  · rw [and_iff_right hunit, ← hfind, amountSeconds, if_neg (by simpa using hunit)]
    cases timeUnits.find? fun u => u.name.toList == unit.map Char.toLower <;> simp

/-- **The units that are known in some case and unknown in small letters** are those with a long
s. -/
theorem mem_longUnits_iff {unit : List Char} :
    unit ∈ longUnits
      ↔ unit.map caseless ∈ unitNames ∧ unit.map Char.toLower ∉ unitNames := by
  have hlong : ∀ unit ∈ longUnits,
      unit.map caseless ∈ unitNames ∧ unit.map Char.toLower ∉ unitNames := by
    decide
  -- all words of one letter or two are tried
  have hone : ∀ word ∈ unitLetters.map ([·]), word.map Char.toLower ∉ unitNames →
      word.map caseless ∈ unitNames → word ∈ longUnits := by
    decide
  have htwo : ∀ word ∈ unitLetters.flatMap fun a => unitLetters.map ([a, ·]),
      word.map Char.toLower ∉ unitNames → word.map caseless ∈ unitNames → word ∈ longUnits := by
    decide
  have hnames : ∀ name ∈ unitNames, name ≠ [] ∧ name.length ≤ 2 := by decide
  refine ⟨hlong unit, fun ⟨hknown, hlower⟩ => ?_⟩
  have hletters := letters_of_mem_unitNames hknown
  obtain ⟨hnonempty, hlength⟩ := hnames _ hknown
  match unit with
  | [] => exact absurd rfl hnonempty
  | [a] => exact hone [a] (List.mem_map_of_mem (hletters a (by simp))) hlower hknown
  | [a, b] =>
    refine htwo [a, b] (List.mem_flatMap.mpr ⟨a, hletters a (by simp), ?_⟩) hlower hknown
    exact List.mem_map_of_mem (hletters b (by simp))
  | a :: b :: c :: rest => simp at hlength

/-- **A text is a number with a unit that does not exist** exactly if, blanks around it apart, it is
a number with a unit that has a long s. -/
theorem durationSeconds_unknownUnit_iff [TextRules] (text : String) :
    durationSeconds text = .error (.escape .unknownUnit)
      ↔ ∃ unit ∈ longUnits, IsAmount unit (trimChars text.toList) := by
  -- what is spelled with a long s is read with it as the unit
  have hread : ∀ unit ∈ longUnits, IsAmount unit (trimChars text.toList) →
      ∃ x, amount? (trimChars text.toList) = some (x, unit) := fun unit hlong h =>
    amount?_iff.mpr ⟨h, .inr (mem_longUnits_iff.mp hlong).1⟩
  unfold durationSeconds
  cases ha : amount? (trimChars text.toList) with
  | none =>
    refine iff_of_false ?_ fun ⟨unit, hlong, h⟩ => ?_
    · cases TextRules.span (trim text) <;> simp
    · obtain ⟨x, hx⟩ := hread unit hlong h
      exact absurd (ha.symm.trans hx) (by simp)
  | some amount =>
    obtain ⟨x, unit⟩ := amount
    obtain ⟨hamount, hknown⟩ := amount?_iff.mp ⟨x, ha⟩
    refine amountSeconds_unknownUnit_iff.trans
      ⟨fun ⟨hunit, hlower⟩ => ?_, fun ⟨unit', hlong, h⟩ => ?_⟩
    · exact ⟨unit, mem_longUnits_iff.mpr ⟨hknown.resolve_left hunit, hlower⟩, hamount⟩
    · obtain ⟨x', hx⟩ := hread unit' hlong h
      obtain rfl : unit = unit' := congrArg Prod.snd (Option.some.inj (ha.symm.trans hx))
      obtain ⟨hname, hlower⟩ := mem_longUnits_iff.mp hlong
      exact ⟨fun hunit => by subst hunit; exact absurd hlong (by decide), hlower⟩

/-! ## Rules that fail -/

/-- **The rule for spans is asked** of what is not recognised as a number with a unit, and only then
can it fail with an error of its own. -/
theorem durationSeconds_raised_iff [TextRules] (text e : String) :
    durationSeconds text = .error (.escape (.raised e))
      ↔ ¬ IsRecognised (trimChars text.toList) ∧ TextRules.span (trim text) = .raised e := by
  unfold durationSeconds
  cases ha : amount? (trimChars text.toList) with
  | none =>
    have hnone : ¬ IsRecognised (trimChars text.toList) := by
      rintro ⟨unit, hunit⟩
      obtain ⟨x, hx⟩ := amount?_iff.mpr hunit
      exact nomatch ha.symm.trans hx
    rw [and_iff_right hnone]
    cases TextRules.span (trim text) <;> simp
  | some amount =>
    obtain ⟨x, unit⟩ := amount
    have hrecognised : IsRecognised (trimChars text.toList) := ⟨unit, amount?_iff.mp ⟨x, ha⟩⟩
    have hseconds : amountSeconds x unit ≠ .error (.escape (.raised e)) := by
      unfold amountSeconds
      dsimp only
      split <;> simp
    exact iff_of_false hseconds fun h => h.1 hrecognised

end ChannelSerde.Settings
