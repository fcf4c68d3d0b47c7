import ChannelSerde.Proofs.Channel.Detection
import ChannelSerde.Text.Blank

/-!
# What is logged about new channels

The first registration of a channel is logged, by hand or in a detection, and no later one. The text
of such a line does not always tell which channel it is about, since a name may hold brackets. So it
is compared with the `Line` it was made from: the lines of a run are those of the channels that
became registered in it, in that order (`announces_run`). A channel becomes registered once, so it
has one line, and this comes from the call that registered it.
-/

namespace ChannelSerde

namespace Channels

open Log Text

/-- **A line about a channel** that is registered for the first time. -/
structure Line where
  direction : Direction
  name : String
  reason : String
  deriving DecidableEq, Repr

/-- The record of a line. -/
def Line.record (l : Line) : Record := newRecord l.direction l.name l.reason

/-- The record says that a channel is configured. -/
def isConfiguring (r : Record) : Bool := startsWith r.message "Configuring "

/-- **Records announce what is new**: they hold one line for each name that a direction has
afterwards and had not before, in order. -/
def Announces (rs : List Record) (before after : Channels) : Prop :=
  ∃ lines : List Line, rs.filter isConfiguring = lines.map Line.record
    ∧ ∀ d, (after.names d).toList
      = (before.names d).toList ++ (lines.filter (·.direction = d)).map (·.name)

/-! ## Which records are lines -/

theorem isConfiguring_newRecord (d : Direction) (name reason : String) :
    isConfiguring (newRecord d name reason) = true := by
  show startsWith ("Configuring " ++ d.word ++ " channel " ++ name ++ " (" ++ _ ++ ")") _ = true
  simp only [String.append_assoc]
  exact startsWith_append _ _

theorem isConfiguring_unknownClassRecord (name : String) :
    isConfiguring (MessageRule.unknownClassRecord name) = false := by
  show startsWith ("Class " ++ name ++ " not found in symbol index") "Configuring " = false
  rw [startsWith, String.append_assoc, String.toList_append]
  rfl

theorem isConfiguring_summary (c : Channels) : isConfiguring (Finding.summary c) = false := by
  show startsWith ("Configured " ++ _ ++ " incoming and " ++ _ ++ _) "Configuring " = false
  rw [startsWith, String.append_assoc, String.append_assoc, String.append_assoc,
    String.toList_append]
  rfl

/-! ## Announcements -/

variable {rs ss : List Record} {a b c : Channels}

theorem announces_of_none (h : rs.filter isConfiguring = []) : Announces rs c c :=
  ⟨[], h, fun _ => (List.append_nil _).symm⟩

theorem Announces.trans (hab : Announces rs a b) (hbc : Announces ss b c) :
    Announces (rs ++ ss) a c := by
  obtain ⟨lines, hrs, hb⟩ := hab
  obtain ⟨more, hss, hc⟩ := hbc
  refine ⟨lines ++ more, ?_, fun d => ?_⟩
  · rw [List.filter_append, hrs, hss, List.map_append]
  · rw [hc, hb, List.append_assoc, List.filter_append, List.map_append]

/-- **A registration announces its channel** if that is new. -/
theorem announces_register (c : Channels) (d : Direction) (name reason : String) :
    Announces (c.register d name reason).2.toList c (c.register d name reason).1 := by
  unfold register
  split
  · exact announces_of_none rfl
  · next hnew =>
    refine ⟨[⟨d, name, reason⟩], ?_, fun d' => ?_⟩
    · exact List.filter_cons_of_pos (isConfiguring_newRecord d name reason)
    · rw [toList_names_add hnew]
      by_cases hd : d = d' <;> simp [hd]

/-- A finding announces its channel if that is new; a class that is missed announces nothing. -/
theorem announces_absorb (acc : Channels × List Record) (f : Finding) :
    ∃ rs, (Finding.absorb acc f).2 = acc.2 ++ rs ∧ Announces rs acc.1 (Finding.absorb acc f).1 := by
  cases f with
  | unknownClass name =>
    exact ⟨_, rfl, announces_of_none
      (List.filter_cons_of_neg (by simp [isConfiguring_unknownClassRecord]))⟩
  | channel d name reason => exact ⟨_, rfl, announces_register acc.1 d name reason⟩

/-- **Findings announce the channels that are new.** -/
theorem announces_foldl_absorb (fs : List Finding) (acc : Channels × List Record) :
    ∃ rs, (fs.foldl Finding.absorb acc).2 = acc.2 ++ rs
      ∧ Announces rs acc.1 (fs.foldl Finding.absorb acc).1 := by
  induction fs generalizing acc with
  | nil => exact ⟨[], (List.append_nil _).symm, announces_of_none rfl⟩
  | cons f fs ih =>
    obtain ⟨rs, hrs, hfirst⟩ := announces_absorb acc f
    obtain ⟨ss, hss, hrest⟩ := ih (Finding.absorb acc f)
    refine ⟨rs ++ ss, ?_, hfirst.trans hrest⟩
    rw [List.foldl_cons, hss, hrs, List.append_assoc]

/-- **A detection announces the channels that are new.** -/
theorem announces_detectBy (k : Classifier) (s : Symbols) (c : Channels) :
    Announces (c.detectBy k s).2 c (c.detectBy k s).1 := by
  obtain ⟨rs, hrs, hnew⟩ := announces_foldl_absorb (Finding.all k s) (c, [])
  have hlog : (c.detectBy k s).2 = rs ++ [Finding.summary (c.detectBy k s).1] :=
    congrArg (· ++ [Finding.summary (c.detectBy k s).1]) hrs
  rw [hlog]
  refine hnew.trans (announces_of_none (List.filter_cons_of_neg ?_))
  rw [isConfiguring_summary]
  exact Bool.false_ne_true

/-! ## Runs -/

/-- **A call on registered channels**: one is registered, or those of an index are detected. -/
inductive Call where
  | register (d : Direction) (name reason : String)
  | detect (k : Classifier) (s : Symbols)

/-- The channels after a call, and what it logs. -/
def call (c : Channels) : Call → Channels × List Record
  | .register d name reason =>
    ((c.register d name reason).1, (c.register d name reason).2.toList)
  | .detect k s => c.detectBy k s

/-- **The channels after calls**, and what these log, one after the other. -/
def run (c : Channels) : List Call → Channels × List Record
  | [] => (c, [])
  | a :: as => (((c.call a).1.run as).1, (c.call a).2 ++ ((c.call a).1.run as).2)

/-- **A call announces the channels that are new.** -/
theorem announces_call (c : Channels) (a : Call) : Announces (c.call a).2 c (c.call a).1 := by
  cases a with
  | register d name reason => exact announces_register c d name reason
  | detect k s => exact announces_detectBy k s c

/-- **A run announces the channels that are new**, each with one line. -/
theorem announces_run (c : Channels) (calls : List Call) :
    Announces (c.run calls).2 c (c.run calls).1 := by
  induction calls generalizing c with
  | nil => exact announces_of_none rfl
  | cons a as ih => exact (announces_call c a).trans (ih (c.call a).1)

/-- **Detection adds the channels that need settings**, whatever is registered already, whichever
index is asked and whatever classifies its types; detecting again changes nothing. In an index of
this library a marker stands where a declaration has it, so of declarations that are found in one
another, up to the order and repetition of their markers, the same channels are detected; nor do the
classes depend on them. And over any calls, registrations and detections alike, what is logged about
configured channels is one line for each channel that was not registered before, in the order in
which they became so. -/
theorem detects_what_needs_settings (k : Classifier) (s : Symbols) (c : Channels) :
    (∀ d v, v ∈ (c.detectBy k s).1.names d ↔ v ∈ c.names d ∨ Needs k s d v)
      ∧ (∀ (i : Index) (site : Site) (name v : String), i.symbols.symbols.Carries site name v
          ↔ site ∈ i.declarations ∧ (⟨name, v⟩ : Marker) ∈ site.markers)
      ∧ (∀ (classes : List ClassRecord) (sites others : List Site), FoundIn sites others →
          FoundIn others sites →
          (Index.ofLists classes sites).classes = (Index.ofLists classes others).classes
          ∧ ∀ d v, v ∈ (c.detectBy k (Index.ofLists classes sites).symbols).1.names d
            ↔ v ∈ (c.detectBy k (Index.ofLists classes others).symbols).1.names d)
      ∧ ((c.detectBy k s).1.detectBy k s).1 = (c.detectBy k s).1
      ∧ ∀ calls, Announces (c.run calls).2 c (c.run calls).1 := by
  refine ⟨mem_names_detectBy k s c, fun i site name v => Index.carries_iff, ?_,
    detectBy_detectBy k s c, announces_run c⟩
  intro classes sites others hsites hothers
  refine ⟨by rw [Index.ofLists_eq, Index.ofLists_eq], fun d v => ?_⟩
  rw [mem_names_detectBy, mem_names_detectBy]
  exact or_congr Iff.rfl ⟨Needs.of_foundIn hsites, Needs.of_foundIn hothers⟩

end Channels

end ChannelSerde
