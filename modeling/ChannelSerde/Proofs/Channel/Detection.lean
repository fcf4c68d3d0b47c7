import ChannelSerde.Channel.Finding
import ChannelSerde.Proofs.Declaration.Edits

/-!
# What detection finds

Detection goes through the uses of six markers, each with conditions of its own on the declaration
and its types, and registers what it finds. `Needs` says the same without an order: which channels
need settings, given where markers stand and what classifies types. Detection adds these channels to
the registered ones and no others (`mem_names_detectBy`).

`Needs` asks on which declarations a marker stands, not how often, and not what stands beside it. So
neither the order nor the repetition of declarations counts, nor that of the markers on one
(`Needs.of_foundIn`).
-/

namespace ChannelSerde

/-- **A marker of a name and a value stands on a declaration**, as the index answers. -/
def Symbols.Carries (s : Symbols) (site : Site) (name value : String) : Prop :=
  ∃ u ∈ s.usages name, u.site = site ∧ u.marker.value = value

/-- **A channel needs settings**, since a marker says so: one for structured payloads whatever the
type, a plain one if what is taken, returned or wrapped is structured. -/
inductive Needs (k : Classifier) (s : Symbols) : Direction → String → Prop where
  | markedIncoming {site : Site} {v : String} (stands : s.Carries site Marker.protobufIncoming v) :
      Needs k s .incoming v
  | markedOutgoing {site : Site} {v : String} (stands : s.Carries site Marker.protobufOutgoing v) :
      Needs k s .outgoing v
  | markedChannel {site : Site} {v : String} (stands : s.Carries site Marker.protobufChannel v) :
      Needs k s .outgoing v
  /-- A method consumes the channel, and one of its parameters is structured. -/
  | consumed {site : Site} {v : String} {r : TypeRef} (stands : s.Carries site Marker.incoming v)
      (kind : site.kind = .method) (parameter : r ∈ site.parameters)
      (structured : k.isStructured r = true) : Needs k s .incoming v
  /-- A method produces the channel, and what it returns is structured. -/
  | produced {site : Site} {v : String} (stands : s.Carries site Marker.outgoing v)
      (kind : site.kind = .method) (structured : k.isStructured site.type = true) :
      Needs k s .outgoing v
  /-- A field or parameter sends to the channel, and the first thing that its type wraps is
  structured. -/
  | sent {site : Site} {v generic : String} {r : TypeRef} {rest : List TypeRef}
      (stands : s.Carries site Marker.channel v)
      (kind : site.kind = .field ∨ site.kind = .parameter)
      (type : site.type = .type generic .parameterized (r :: rest)) (given : r ≠ .missing)
      (structured : k.isStructured r = true) : Needs k s .outgoing v

namespace Finding

variable {k : Classifier} {s : Symbols} {d d' : Direction} {v : String}

/-! ## Findings -/

/-- **Findings register a channel** if it is among them, for whatever reason. -/
def Registers (fs : List Finding) (d : Direction) (v : String) : Prop :=
  ∃ reason, .channel d v reason ∈ fs

theorem registers_append {fs gs : List Finding} :
    Registers (fs ++ gs) d v ↔ Registers fs d v ∨ Registers gs d v := by
  unfold Registers
  simp only [List.mem_append, exists_or]

theorem not_registers_nil : ¬ Registers [] d v := fun ⟨_, h⟩ => List.not_mem_nil h

/-- **What the uses of a marker register**, if each one registers the channel that it names under a
condition on its declaration. -/
theorem registers_uses {name : String} {f : Usage → List Finding} {P : Site → Prop}
    (hf : ∀ u, Registers (f u) d v ↔ d' = d ∧ u.marker.value = v ∧ P u.site) :
    Registers ((s.usages name).flatMap f) d v ↔ d' = d ∧ ∃ site, s.Carries site name v ∧ P site := by
  constructor
  · rintro ⟨reason, h⟩
    obtain ⟨u, hu, hreason⟩ := List.mem_flatMap.mp h
    obtain ⟨hd, hv, hP⟩ := (hf u).mp ⟨reason, hreason⟩
    exact ⟨hd, u.site, ⟨u, hu, rfl, hv⟩, hP⟩
  · rintro ⟨hd, _, ⟨u, hu, rfl, hv⟩, hP⟩
    obtain ⟨reason, h⟩ := (hf u).mpr ⟨hd, hv, hP⟩
    exact ⟨reason, List.mem_flatMap.mpr ⟨u, hu, h⟩⟩

/-- A marker that needs no look at a type registers the channel it names. -/
theorem registers_marked {name reason : String} :
    Registers (marked s name reason d') d v ↔ d' = d ∧ ∃ site, s.Carries site name v := by
  unfold Registers marked Symbols.Carries
  simp only [List.mem_map, channel.injEq]
  constructor
  · rintro ⟨_, u, hu, hd, hv, -⟩
    exact ⟨hd, u.site, u, hu, rfl, hv⟩
  · rintro ⟨hd, _, u, hu, -, hv⟩
    exact ⟨reason, u, hu, hd, hv, rfl⟩

theorem not_registers_missed (types : List TypeRef) : ¬ Registers (missed k types) d v := by
  rintro ⟨reason, h⟩
  induction types with
  | nil => exact List.not_mem_nil h
  | cons r rest ih =>
    obtain h | h := List.mem_append.mp h
    · obtain ⟨name, -, hname⟩ := List.mem_map.mp h
      exact Finding.noConfusion hname
    · split at h
      · exact List.not_mem_nil h
      · exact ih h

/-- A plain marker registers the channel it names if one of the types that decide is structured. -/
theorem registers_classified {word : String} {u : Usage} {types : List TypeRef} :
    Registers (classified k d' word u types) d v
      ↔ d' = d ∧ u.marker.value = v ∧ ∃ r ∈ types, k.isStructured r = true := by
  rw [classified, registers_append, or_iff_right (not_registers_missed types)]
  unfold Registers
  split
  · next h =>
    rw [List.any_eq_true] at h
    simp only [List.mem_singleton, channel.injEq]
    exact ⟨fun ⟨_, hd, hv, _⟩ => ⟨hd.symm, hv.symm, h⟩, fun ⟨hd, hv, _⟩ => ⟨_, hd.symm, hv.symm, rfl⟩⟩
  · next h =>
    rw [List.any_eq_true] at h
    exact iff_of_false (fun ⟨_, hr⟩ => List.not_mem_nil hr) fun ⟨_, _, hr⟩ => h hr

/-- Incoming markers register the channels that methods consume. -/
theorem registers_incoming :
    Registers (incoming k s) d v
      ↔ .incoming = d ∧ ∃ site, s.Carries site Marker.incoming v ∧ site.kind = .method
        ∧ ∃ r ∈ site.parameters, k.isStructured r = true := by
  refine registers_uses fun u => ?_
  split
  · next hkind => rw [registers_classified, and_iff_right hkind]
  · next hkind => exact iff_of_false not_registers_nil fun h => hkind h.2.2.1

/-- Outgoing markers register the channels that methods produce. -/
theorem registers_outgoing :
    Registers (outgoing k s) d v
      ↔ .outgoing = d ∧ ∃ site, s.Carries site Marker.outgoing v ∧ site.kind = .method
        ∧ ∃ r ∈ [site.type], k.isStructured r = true := by
  refine registers_uses fun u => ?_
  split
  · next hkind => rw [registers_classified, and_iff_right hkind]
  · next hkind => exact iff_of_false not_registers_nil fun h => hkind h.2.2.1

/-- Channel markers register the channels that fields and parameters send to. -/
theorem registers_channels :
    Registers (channels k s) d v
      ↔ .outgoing = d ∧ ∃ site, s.Carries site Marker.channel v ∧ site.kind ≠ .method
        ∧ ∃ r ∈ site.type.firstArgument.toList, k.isStructured r = true := by
  refine registers_uses fun u => ?_
  split
  · next hkind => exact iff_of_false not_registers_nil fun h => h.2.2.1 hkind
  · next hkind => rw [registers_classified, and_iff_right hkind]

/-- **Detection finds exactly the channels that need settings.** -/
theorem registers_all : Registers (all k s) d v ↔ Needs k s d v := by
  unfold all
  simp only [registers_append, registers_marked, registers_incoming, registers_outgoing,
    registers_channels, TypeRef.mem_toList_firstArgument, List.mem_singleton, exists_eq_left,
    or_assoc]
  constructor
  · rintro (⟨rfl, site, h⟩ | ⟨rfl, site, h⟩ | ⟨rfl, site, h⟩ | ⟨rfl, site, h, hkind, r, hr, hk⟩
      | ⟨rfl, site, h, hkind, hk⟩ | ⟨rfl, site, h, hkind, r, ⟨hr, generic, rest, ht⟩, hk⟩)
    · exact .markedIncoming h
    · exact .markedOutgoing h
    · exact .markedChannel h
    · exact .consumed h hkind hr hk
    · exact .produced h hkind hk
    · exact .sent h (SiteKind.ne_method_iff.mp hkind) ht hr hk
  · rintro (h | h | h | ⟨h, hkind, hr, hk⟩ | ⟨h, hkind, hk⟩ | ⟨h, hkind, ht, hr, hk⟩)
    · exact .inl ⟨rfl, _, h⟩
    · exact .inr (.inl ⟨rfl, _, h⟩)
    · exact .inr (.inr (.inl ⟨rfl, _, h⟩))
    · exact .inr (.inr (.inr (.inl ⟨rfl, _, h, hkind, _, hr, hk⟩)))
    · exact .inr (.inr (.inr (.inr (.inl ⟨rfl, _, h, hkind, hk⟩))))
    · exact .inr (.inr (.inr (.inr (.inr
        ⟨rfl, _, h, SiteKind.ne_method_iff.mpr hkind, _, ⟨hr, _, _, ht⟩, hk⟩))))

/-! ## Registering what was found -/

/-- **The channels after findings**: those of before and those that the findings register. -/
theorem mem_names_foldl_absorb (fs : List Finding) (acc : Channels × List Log.Record) :
    v ∈ (fs.foldl absorb acc).1.names d ↔ v ∈ acc.1.names d ∨ Registers fs d v := by
  induction fs generalizing acc with
  | nil => exact (or_iff_left not_registers_nil).symm
  | cons f fs ih =>
    have hcons : Registers ([f] ++ fs) d v ↔ Registers [f] d v ∨ Registers fs d v :=
      registers_append
    rw [List.foldl_cons, ih, ← List.singleton_append, hcons, ← or_assoc]
    refine or_congr ?_ Iff.rfl
    cases f with
    | unknownClass name => simp [absorb, Registers]
    | channel d' name reason =>
      show v ∈ (acc.1.register d' name reason).1.names d ↔ _
      rw [Channels.register_fst, Channels.mem_names_add]
      simp [Registers, eq_comm]

/-- Findings that register nothing new leave the channels as they are. -/
theorem foldl_absorb_fst_of_mem {fs : List Finding} {acc : Channels × List Log.Record}
    (h : ∀ d v, Registers fs d v → v ∈ acc.1.names d) : (fs.foldl absorb acc).1 = acc.1 := by
  induction fs generalizing acc with
  | nil => rfl
  | cons f fs ih =>
    have hf : (absorb acc f).1 = acc.1 := by
      cases f with
      | unknownClass name => rfl
      | channel d name reason =>
        show (acc.1.register d name reason).1 = acc.1
        rw [Channels.register_fst]
        exact Channels.add_of_mem (h d name ⟨reason, List.mem_cons_self⟩)
    rw [List.foldl_cons, ih fun d v ⟨reason, hr⟩ => hf ▸ h d v ⟨reason, List.mem_cons_of_mem f hr⟩,
      hf]

end Finding

namespace Channels

/-- **Detection adds the channels that need settings** and no others. -/
theorem mem_names_detectBy (k : Classifier) (s : Symbols) (c : Channels) (d : Direction)
    (v : String) :
    v ∈ (c.detectBy k s).1.names d ↔ v ∈ c.names d ∨ Needs k s d v := by
  show v ∈ ((Finding.all k s).foldl Finding.absorb (c, [])).1.names d ↔ _
  rw [Finding.mem_names_foldl_absorb, Finding.registers_all]

/-- **Detecting again changes nothing.** -/
theorem detectBy_detectBy (k : Classifier) (s : Symbols) (c : Channels) :
    ((c.detectBy k s).1.detectBy k s).1 = (c.detectBy k s).1 := by
  refine Finding.foldl_absorb_fst_of_mem fun d v h => ?_
  exact (mem_names_detectBy k s c d v).mpr (.inr (Finding.registers_all.mp h))

end Channels

/-! ## Order and repetition -/

/-- **Two declarations are alike** if they differ at most in the order and repetition of their
markers. -/
def Site.Alike (s t : Site) : Prop :=
  { s with markers := [] } = { t with markers := [] } ∧ ∀ m, m ∈ s.markers ↔ m ∈ t.markers

/-- **The declarations of one list are found in another**, up to the order and repetition of their
markers. -/
def FoundIn (sites others : List Site) : Prop := ∀ s ∈ sites, ∃ t ∈ others, s.Alike t

theorem Index.carries_iff {i : Index} {site : Site} {name v : String} :
    i.symbols.symbols.Carries site name v
      ↔ site ∈ i.declarations ∧ (⟨name, v⟩ : Marker) ∈ site.markers := by
  show (∃ u ∈ usagesIn i.declarations.toList name, _) ↔ site ∈ i.declarations.toList ∧ _
  unfold usagesIn
  simp only [List.mem_flatMap, List.mem_map, List.mem_filter, beq_iff_eq]
  constructor
  · rintro ⟨_, ⟨t, ht, m, ⟨hm, rfl⟩, rfl⟩, rfl, rfl⟩
    exact ⟨ht, hm⟩
  · rintro ⟨hsite, hm⟩
    exact ⟨⟨_, site⟩, ⟨site, hsite, _, ⟨hm, rfl⟩, rfl⟩, rfl, rfl⟩

/-- Where a declaration with a marker is found again, so is the marker, on a declaration of the same
kind and types. -/
theorem Symbols.Carries.of_foundIn {classes others : List ClassRecord} {sites found : List Site}
    {site : Site} {name v : String} (h : FoundIn sites found)
    (hc : (Index.ofLists classes sites).symbols.symbols.Carries site name v) :
    ∃ t, (Index.ofLists others found).symbols.symbols.Carries t name v
      ∧ t.kind = site.kind ∧ t.type = site.type ∧ t.parameters = site.parameters := by
  rw [Index.carries_iff, Index.ofLists_eq, OrderedSet.mem_ofList] at hc
  obtain ⟨hsite, hm⟩ := hc
  obtain ⟨t, ht, hbare, hmarkers⟩ := h site hsite
  simp only [Site.mk.injEq] at hbare
  obtain ⟨hkind, -, -, htype, hparameters, -, -⟩ := hbare
  refine ⟨t, ?_, hkind.symm, htype.symm, hparameters.symm⟩
  rw [Index.carries_iff, Index.ofLists_eq, OrderedSet.mem_ofList]
  exact ⟨ht, (hmarkers _).mp hm⟩

/-- **Channels that need settings need them still** in an index in which their markers are found
again, on declarations of the same kinds and types, and by a classifier that takes for structured
what was structured before. -/
theorem Needs.mono {k k' : Classifier} {s t : Symbols} {d : Direction} {v : String}
    (hstands : ∀ site name v, s.Carries site name v → ∃ site', t.Carries site' name v
      ∧ site'.kind = site.kind ∧ site'.type = site.type ∧ site'.parameters = site.parameters)
    (hstructured : ∀ r, k.isStructured r = true → k'.isStructured r = true)
    (h : Needs k s d v) : Needs k' t d v := by
  cases h with
  | markedIncoming stands =>
    obtain ⟨site', h', -⟩ := hstands _ _ _ stands
    exact .markedIncoming h'
  | markedOutgoing stands =>
    obtain ⟨site', h', -⟩ := hstands _ _ _ stands
    exact .markedOutgoing h'
  | markedChannel stands =>
    obtain ⟨site', h', -⟩ := hstands _ _ _ stands
    exact .markedChannel h'
  | consumed stands kind parameter structured =>
    obtain ⟨site', h', hkind, -, hparameters⟩ := hstands _ _ _ stands
    exact .consumed h' (hkind.trans kind) (hparameters ▸ parameter) (hstructured _ structured)
  | produced stands kind structured =>
    obtain ⟨site', h', hkind, htype, -⟩ := hstands _ _ _ stands
    exact .produced h' (hkind.trans kind) (hstructured _ (htype ▸ structured))
  | sent stands kind type given structured =>
    obtain ⟨site', h', hkind, htype, -⟩ := hstands _ _ _ stands
    exact .sent h' (hkind ▸ kind) (htype.trans type) given (hstructured _ structured)

/-- Channels that need settings need them still where their declarations are found again. -/
theorem Needs.of_foundIn {k : Classifier} {classes others : List ClassRecord}
    {sites found : List Site} {d : Direction} {v : String} (h : FoundIn sites found)
    (hneeds : Needs k (Index.ofLists classes sites).symbols d v) :
    Needs k (Index.ofLists others found).symbols d v :=
  hneeds.mono (fun _ _ _ stands => stands.of_foundIn h) fun _ => id

end ChannelSerde
