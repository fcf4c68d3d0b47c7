import ChannelSerde.Proofs.Channel.Detection
import ChannelSerde.Proofs.Declaration.ConvertedMarkers

/-!
# What converting does to channels

A marker for structured payloads names a channel that needs settings whatever the types are. Made
plain, it needs a declaration that fits it: a method with the right types, a field or parameter that
wraps the right one. So converting an index can lose the channels of such markers, and it can do
nothing else. It invents no channel, since a declaration that fits the plain marker is one more
reason for what the other marker asks for anyway; and it keeps what plain markers ask for, since
these stay where they are.

All this is about markers. What classifies types is the same in all three runs that are compared,
and that is where an index can go wrong: a result of converting a foreign index asks that index for
classes, and when it is converted in turn it asks no more. `keeps_classes_iff` says which indexes
keep what is known of classes, and `converted_twice_loses_channel` what becomes of the channels of
one that does not.
-/

namespace ChannelSerde

variable {rules : List MarkerRule} {k : Classifier} {s t : Symbols} {d : Direction} {v : String}

/-! ## Consistent indexes -/

/-- **The declaration without its markers for structured payloads.** -/
def Site.plainOnly (site : Site) : Site := { site with markers := site.retained plainRules }

/-- **An index is consistent** if it answers that a marker is used exactly where its declarations
have it. -/
def Symbols.IsConsistent (s : Symbols) : Prop :=
  ∀ name u, u ∈ s.usages name
    ↔ u.site ∈ s.declarations ∧ u.marker ∈ u.site.markers ∧ u.marker.name = name

/-- The index of some declarations, over classes that are answered as they are. -/
def Symbols.ofSites (known : String → Option ClassRecord) (sites : List Site) : Symbols :=
  { classNamed := known, declarations := sites, usages := usagesIn sites }

/-- **The index without its markers for structured payloads.** -/
def Symbols.plainOnly (s : Symbols) : Symbols :=
  .ofSites s.classNamed (s.declarations.map Site.plainOnly)

theorem isConsistent_ofSites (known : String → Option ClassRecord) (sites : List Site) :
    (Symbols.ofSites known sites).IsConsistent := by
  intro name u
  show u ∈ usagesIn sites name ↔ u.site ∈ sites ∧ _
  unfold usagesIn
  simp only [List.mem_flatMap, List.mem_map, List.mem_filter, beq_iff_eq]
  constructor
  · rintro ⟨site, hsite, m, ⟨hm, hname⟩, rfl⟩
    exact ⟨hsite, hm, hname⟩
  · rintro ⟨hsite, hm, hname⟩
    exact ⟨u.site, hsite, u.marker, ⟨hm, hname⟩, rfl⟩

theorem Symbols.IsConsistent.carries_iff (hs : s.IsConsistent) {site : Site} {name : String} :
    s.Carries site name v ↔ site ∈ s.declarations ∧ (⟨name, v⟩ : Marker) ∈ site.markers := by
  constructor
  · rintro ⟨⟨m, site'⟩, hu, rfl, rfl⟩
    obtain ⟨hsite, hm, rfl⟩ := (hs name _).mp hu
    exact ⟨hsite, hm⟩
  · rintro ⟨hsite, hm⟩
    exact ⟨⟨⟨name, v⟩, site⟩, (hs name _).mpr ⟨hsite, hm, rfl⟩, rfl, rfl⟩

/-! ## What one marker asks for -/

/-- **A declaration fits a plain marker** of a name: what it consumes, produces or sends is
structured. -/
inductive Site.Fits (k : Classifier) (site : Site) : String → Prop where
  | consumed {r : TypeRef} (kind : site.kind = .method) (parameter : r ∈ site.parameters)
      (structured : k.isStructured r = true) : Fits k site Marker.incoming
  | produced (kind : site.kind = .method) (structured : k.isStructured site.type = true) :
      Fits k site Marker.outgoing
  | sent {generic : String} {r : TypeRef} {rest : List TypeRef}
      (kind : site.kind = .field ∨ site.kind = .parameter)
      (type : site.type = .type generic .parameterized (r :: rest)) (given : r ≠ .missing)
      (structured : k.isStructured r = true) : Fits k site Marker.channel

/-- The direction of the channels that markers of a name are about. -/
def Marker.direction? (name : String) : Option Direction :=
  [(incoming, .incoming), (outgoing, .outgoing), (channel, .outgoing),
    (protobufIncoming, .incoming), (protobufOutgoing, .outgoing),
    (protobufChannel, .outgoing)].lookup name

/-- **A marker on a declaration asks for settings**: it is one for structured payloads, or the
declaration fits it. -/
def Marker.Asks (k : Classifier) (site : Site) (m : Marker) (d : Direction) : Prop :=
  Marker.direction? m.name = some d ∧ ((ruleFor? plainRules m).isSome = true ∨ site.Fits k m.name)

theorem isSome_ruleFor?_plainRules (m : Marker) :
    (ruleFor? plainRules m).isSome = true
      ↔ m.name = Marker.protobufIncoming ∨ m.name = Marker.protobufOutgoing
        ∨ m.name = Marker.protobufChannel := by
  unfold ruleFor? plainRules
  simp

theorem direction?_markers :
    Marker.direction? Marker.protobufIncoming = some .incoming
      ∧ Marker.direction? Marker.protobufOutgoing = some .outgoing
      ∧ Marker.direction? Marker.protobufChannel = some .outgoing
      ∧ Marker.direction? Marker.incoming = some .incoming
      ∧ Marker.direction? Marker.outgoing = some .outgoing
      ∧ Marker.direction? Marker.channel = some .outgoing := by
  decide

/-- **What needs settings is what some marker asks for.** -/
theorem needs_iff_asks :
    Needs k s d v ↔ ∃ site name, s.Carries site name v ∧ Marker.Asks k site ⟨name, v⟩ d := by
  obtain ⟨hpi, hpo, hpc, hin, hout, hch⟩ := direction?_markers
  have hexplicit : ∀ {site : Site} {name : String}, Marker.direction? name = some d →
      (name = Marker.protobufIncoming ∨ name = Marker.protobufOutgoing
        ∨ name = Marker.protobufChannel) → Marker.Asks k site ⟨name, v⟩ d :=
    fun hd hname => ⟨hd, .inl ((isSome_ruleFor?_plainRules _).mpr hname)⟩
  constructor
  · intro h
    cases h with
    | markedIncoming stands => exact ⟨_, _, stands, hexplicit hpi (.inl rfl)⟩
    | markedOutgoing stands => exact ⟨_, _, stands, hexplicit hpo (.inr (.inl rfl))⟩
    | markedChannel stands => exact ⟨_, _, stands, hexplicit hpc (.inr (.inr rfl))⟩
    | consumed stands kind parameter structured =>
      exact ⟨_, _, stands, hin, .inr (.consumed kind parameter structured)⟩
    | produced stands kind structured =>
      exact ⟨_, _, stands, hout, .inr (.produced kind structured)⟩
    | sent stands kind type given structured =>
      exact ⟨_, _, stands, hch, .inr (.sent kind type given structured)⟩
  · rintro ⟨site, name, stands, hd, hask⟩
    dsimp only at hd hask
    -- the name settles the direction
    obtain hname | hfits := hask
    · obtain rfl | rfl | rfl := (isSome_ruleFor?_plainRules _).mp hname
      · obtain rfl := Option.some.inj (hpi.symm.trans hd)
        exact .markedIncoming stands
      · obtain rfl := Option.some.inj (hpo.symm.trans hd)
        exact .markedOutgoing stands
      · obtain rfl := Option.some.inj (hpc.symm.trans hd)
        exact .markedChannel stands
    · cases hfits with
      | consumed kind parameter structured =>
        obtain rfl := Option.some.inj (hin.symm.trans hd)
        exact .consumed stands kind parameter structured
      | produced kind structured =>
        obtain rfl := Option.some.inj (hout.symm.trans hd)
        exact .produced stands kind structured
      | sent kind type given structured =>
        obtain rfl := Option.some.inj (hch.symm.trans hd)
        exact .sent stands kind type given structured

theorem Needs.of_isStructured {k' : Classifier} (hk : ∀ r, k.isStructured r = k'.isStructured r)
    (h : Needs k s d v) : Needs k' s d v :=
  h.mono (fun site _ _ stands => ⟨site, stands, rfl, rfl, rfl⟩) fun r hr => (hk r).symm.trans hr

/-- What a consistent index needs, by its declarations and their markers. -/
theorem Symbols.IsConsistent.needs_iff (hs : s.IsConsistent) :
    Needs k s d v ↔ ∃ site ∈ s.declarations, ∃ m ∈ site.markers, m.value = v ∧ m.Asks k site d := by
  rw [needs_iff_asks]
  simp only [hs.carries_iff]
  constructor
  · rintro ⟨site, name, ⟨hsite, hm⟩, hask⟩
    exact ⟨site, hsite, _, hm, rfl, hask⟩
  · rintro ⟨site, hsite, ⟨name, _⟩, hm, rfl, hask⟩
    exact ⟨site, name, ⟨hsite, hm⟩, hask⟩

/-- What a declaration fits does not depend on its markers. -/
theorem Site.Fits.of_bare {site site' : Site} {name : String} (h : site.Fits k name)
    (hbare : site.bare = site'.bare) : site'.Fits k name := by
  simp only [Site.bare, Site.mk.injEq] at hbare
  obtain ⟨hkind, -, -, htype, hparameters, -, -⟩ := hbare
  cases h with
  | consumed kind parameter structured =>
    exact .consumed (hkind ▸ kind) (hparameters ▸ parameter) structured
  | produced kind structured => exact .produced (hkind ▸ kind) (htype ▸ structured)
  | sent kind type given structured => exact .sent (hkind ▸ kind) (htype ▸ type) given structured

/-- Nor does what a marker on it asks for. -/
theorem Marker.Asks.of_bare {site site' : Site} {m : Marker} (h : m.Asks k site d)
    (hbare : site.bare = site'.bare) : m.Asks k site' d :=
  ⟨h.1, h.2.imp_right fun hfits => hfits.of_bare hbare⟩

/-- A marker that is made plain is about channels of the same direction. -/
theorem direction?_rename (m : Marker) :
    Marker.direction? (rename plainRules m).name = Marker.direction? m.name := by
  unfold rename
  cases hr : ruleFor? plainRules m with
  | none => rfl
  | some r =>
    have hrules : ∀ r ∈ plainRules, Marker.direction? r.target = Marker.direction? r.source := by
      decide
    have hname : m.name = r.source := by simpa using List.find?_some hr
    show Marker.direction? r.target = _
    rw [hname, hrules r (mem_of_ruleFor?_eq_some hr)]

/-- **What a marker asks for that was made plain, it asked for before.** -/
theorem Marker.Asks.of_rename {site : Site} {m : Marker} (h : (rename plainRules m).Asks k site d) :
    m.Asks k site d := by
  refine ⟨direction?_rename m ▸ h.1, ?_⟩
  cases hr : ruleFor? plainRules m with
  | some r => exact .inl rfl
  | none =>
    rw [← hr, ← rename_of_ruleFor?_eq_none hr]
    exact h.2

theorem Marker.Asks.direction_eq {site : Site} {m : Marker} {d' : Direction} (h : m.Asks k site d)
    (h' : m.Asks k site d') : d = d' :=
  Option.some.inj (h.1.symm.trans h'.1)

/-! ## What a converted index needs -/

section Converted

variable (ht : t.IsConsistent)
  (hdeclarations : ∀ site, site ∈ t.declarations
    ↔ ∃ site' ∈ s.declarations, site'.convert plainRules = site)
include ht hdeclarations

/-- What markers ask for when they are made plain is needed. -/
theorem needs_converted_iff :
    Needs k t d v
      ↔ ∃ site ∈ s.declarations, ∃ m ∈ site.markers, m.value = v
        ∧ (rename plainRules m).Asks k site d := by
  rw [ht.needs_iff]
  constructor
  · rintro ⟨_, hsite, m, hm, rfl, hask⟩
    obtain ⟨site, hsite', rfl⟩ := (hdeclarations _).mp hsite
    obtain ⟨m', hm', rfl⟩ := Site.mem_markers_convert.mp hm
    exact ⟨site, hsite', m', hm', (rename_value _ _).symm, hask.of_bare (site.convert_bare _)⟩
  · rintro ⟨site, hsite, m, hm, rfl, hask⟩
    exact ⟨_, (hdeclarations _).mpr ⟨site, hsite, rfl⟩, _,
      Site.mem_markers_convert.mpr ⟨m, hm, rfl⟩, rename_value _ _, hask.of_bare (site.convert_bare _).symm⟩

/-- **Converting invents no channel.** -/
theorem needs_of_needs_converted (hs : s.IsConsistent) (h : Needs k t d v) : Needs k s d v := by
  rw [needs_converted_iff ht hdeclarations] at h
  obtain ⟨site, hsite, m, hm, hv, hask⟩ := h
  exact hs.needs_iff.mpr ⟨site, hsite, m, hm, hv, hask.of_rename⟩

/-- **Converting loses no channel that plain markers ask for.** -/
theorem needs_converted_of_plainOnly (h : Needs k s.plainOnly d v) : Needs k t d v := by
  rw [Symbols.plainOnly, (isConsistent_ofSites _ _).needs_iff] at h
  obtain ⟨_, hsite, m, hm, hv, hask⟩ := h
  obtain ⟨site, hsite', rfl⟩ := List.mem_map.mp hsite
  obtain ⟨hm', hnone⟩ := List.mem_filter.mp hm
  refine (needs_converted_iff ht hdeclarations).mpr ⟨site, hsite', m, hm', hv, ?_⟩
  rw [rename_of_ruleFor?_eq_none (Option.isNone_iff_eq_none.mp hnone)]
  exact hask.of_bare rfl

/-- **Converting loses no channel at all** where every declaration fits the plain markers that it
gets: alone with such a marker, it is found. -/
theorem needs_converted_of_fits (hs : s.IsConsistent)
    (hfits : ∀ site ∈ s.declarations, ∀ m ∈ site.markers, (ruleFor? plainRules m).isSome = true →
      ∃ d, Needs k (.ofSites s.classNamed [{ site with markers := [rename plainRules m] }]) d
        m.value)
    (h : Needs k s d v) : Needs k t d v := by
  rw [hs.needs_iff] at h
  obtain ⟨site, hsite, m, hm, hv, hask⟩ := h
  refine (needs_converted_iff ht hdeclarations).mpr ⟨site, hsite, m, hm, hv, ?_⟩
  cases hr : ruleFor? plainRules m with
  | none => rwa [rename_of_ruleFor?_eq_none hr]
  | some r =>
    obtain ⟨d', halone⟩ := hfits site hsite m hm (by rw [hr]; rfl)
    rw [(isConsistent_ofSites _ _).needs_iff] at halone
    obtain ⟨_, halone, m', hm', -, hask'⟩ := halone
    obtain rfl := List.mem_singleton.mp halone
    obtain rfl := List.mem_singleton.mp hm'
    have hask'' : (rename plainRules m).Asks k site d' := hask'.of_bare rfl
    obtain rfl : d = d' := hask.direction_eq hask''.of_rename
    exact hask''

end Converted

namespace AnyIndex

/-! ## Any index -/

/-- An index of this library is consistent, and so is the result of converting a foreign one. -/
theorem isConsistent_of_ne_foreign {i : AnyIndex} (h : ∀ s, i ≠ foreign s) :
    i.symbols.IsConsistent := by
  cases i with
  | own i => exact isConsistent_ofSites i.classNamed i.declarations.toList
  | borrowing i lender => exact isConsistent_ofSites lender i.declarations.toList
  | foreign s => exact absurd rfl (h s)

theorem isConsistent_convert (rules : List MarkerRule) (i : AnyIndex) :
    (i.convert rules).symbols.IsConsistent :=
  isConsistent_of_ne_foreign fun s => by cases i <;> exact AnyIndex.noConfusion

/-- **What is known of classes is kept** when an index is converted, unless it is the result of
converting a foreign one: then what it holds is kept, and not what it asked the foreign one for. -/
theorem keeps_classes_iff (rules : List MarkerRule) (i : AnyIndex) :
    (∀ c, (i.convert rules).symbols.classNamed c = i.symbols.classNamed c)
      ↔ ∀ j lender, i = borrowing j lender → ∀ c, j.classNamed c = lender c := by
  cases i with
  | own i => exact iff_of_true (fun _ => rfl) fun _ _ h => AnyIndex.noConfusion h
  | foreign s => exact iff_of_true (fun _ => rfl) fun _ _ h => AnyIndex.noConfusion h
  | borrowing i lender =>
    refine ⟨fun h j l hj => ?_, fun h => h i lender rfl⟩
    obtain ⟨rfl, rfl⟩ := AnyIndex.borrowing.inj hj
    exact h

/-- **What converting does to channels.** In a consistent index, with any rule for messages: what is
known of classes is kept, unless the index is the result of converting a foreign one and holds other
classes than that answers. And whenever the converted index classifies as the index does, as it does
where the classes are kept, the channels found in it are among those found before, and with them are
all that are found without the markers for structured payloads. They are the same as before if every
declaration with such a marker would be found under the plain one. -/
theorem converted_channels (k : MessageRule) (i : AnyIndex) (hi : i.symbols.IsConsistent) :
    let after := i.convert plainRules
    let found := fun s : Symbols => (Channels.none.detectIn k s).1
    ((∀ c, after.symbols.classNamed c = i.symbols.classNamed c)
        ↔ ∀ j lender, i = borrowing j lender → ∀ c, j.classNamed c = lender c)
      ∧ ((∀ r, k.isStructuredIn after.symbols.classNamed r
            = k.isStructuredIn i.symbols.classNamed r) →
          (∀ d, ∀ v ∈ (found i.symbols.plainOnly).names d, v ∈ (found after.symbols).names d)
          ∧ (∀ d, ∀ v ∈ (found after.symbols).names d, v ∈ (found i.symbols).names d)
          ∧ ((∀ site ∈ i.symbols.declarations, ∀ m ∈ site.markers,
                (ruleFor? plainRules m).isSome = true →
                ∃ d, m.value ∈ (found (.ofSites i.symbols.classNamed
                  [{ site with markers := [rename plainRules m] }])).names d) →
              ∀ d v, v ∈ (found after.symbols).names d ↔ v ∈ (found i.symbols).names d)) := by
  intro after found
  refine ⟨keeps_classes_iff plainRules i, fun hclassify => ?_⟩
  have hnone : ∀ d v, v ∉ Channels.none.names d := by
    intro d v
    cases d <;> exact List.not_mem_nil
  have hfound : ∀ (s : Symbols) d v,
      v ∈ (found s).names d ↔ Needs (k.classifierOver s.classNamed) s d v := by
    intro s d v
    exact (Channels.mem_names_detectBy _ _ _ _ _).trans (or_iff_right (hnone d v))
  -- the classifier of the converted index may be taken for that of the index
  have hafter : ∀ d v, v ∈ (found after.symbols).names d
      ↔ Needs (k.classifierOver i.symbols.classNamed) after.symbols d v := by
    intro d v
    rw [hfound]
    exact ⟨Needs.of_isStructured hclassify, Needs.of_isStructured fun r => (hclassify r).symm⟩
  have ht : after.symbols.IsConsistent := isConsistent_convert plainRules i
  have hdeclarations := mem_declarations_convert plainRules i
  have hinvents : ∀ d, ∀ v ∈ (found after.symbols).names d, v ∈ (found i.symbols).names d := by
    intro d v hv
    rw [hafter] at hv
    exact (hfound _ d v).mpr (needs_of_needs_converted ht hdeclarations hi hv)
  refine ⟨fun d v hv => ?_, hinvents, fun hfits d v => ⟨hinvents d v, fun hv => ?_⟩⟩
  · rw [hfound] at hv
    exact (hafter d v).mpr (needs_converted_of_plainOnly ht hdeclarations hv)
  · rw [hfound] at hv
    refine (hafter d v).mpr (needs_converted_of_fits ht hdeclarations hi ?_ hv)
    intro site hsite m hm hr
    obtain ⟨d', hd'⟩ := hfits site hsite m hm hr
    exact ⟨d', (hfound _ d' _).mp hd'⟩

/-! ## A method that takes messages -/

/-- A message. -/
def order : ClassRecord := ⟨"app.Order", some MessageRule.standard.marker, [], .ofClass⟩

/-- A method that takes messages from a channel. -/
def orderConsumer : Site :=
  { kind := .method, owner := "app.Consumer", name := "consume", type := .void
    parameters := [.type "app.Order" .ofClass []], markers := [⟨Marker.incoming, "orders"⟩]
    position := none }

/-- The same method with a marker for structured payloads. -/
def markedConsumer : Site := { orderConsumer with markers := [⟨Marker.protobufIncoming, "orders"⟩] }

/-- A channel is found still when the marker of a method that fits it is made plain. -/
theorem converted_channels_markedConsumer :
    let i := own (Index.ofLists [order] [markedConsumer])
    i.symbols.IsConsistent
      ∧ ∀ d v, v ∈ (Channels.none.detectIn .standard (i.convert plainRules).symbols).1.names d
          ↔ v ∈ (Channels.none.detectIn .standard i.symbols).1.names d := by
  intro i
  have hi : i.symbols.IsConsistent := isConsistent_of_ne_foreign fun _ => AnyIndex.noConfusion
  obtain ⟨-, hchannels⟩ := converted_channels .standard i hi
  refine ⟨hi, (hchannels fun _ => rfl).2.2 fun site hsite m hm _ => ⟨.incoming, ?_⟩⟩
  obtain rfl : site = markedConsumer := List.mem_singleton.mp hsite
  obtain rfl : m = ⟨Marker.protobufIncoming, "orders"⟩ := List.mem_singleton.mp hm
  have hclassifier : MessageRule.standard.classifierOver i.symbols.classNamed
      = MessageRule.standard.classifier (Index.ofLists [order] [markedConsumer]).classes :=
    MessageRule.classifierOver_get? _ _
  show "orders" ∈ (Channels.none.detectBy (MessageRule.standard.classifierOver i.symbols.classNamed)
    (.ofSites i.symbols.classNamed _)).1.incoming
  rw [hclassifier]
  decide +kernel

/-! ## An index that is converted twice -/

/-- A foreign index with that class and the method with a plain marker. -/
def orders : Symbols := (Index.ofLists [order] [orderConsumer]).symbols

/-- **What was converted from a foreign index loses a channel** when it is converted again, though
only a plain marker stands there: before, the channel was found. -/
theorem converted_twice_loses_channel :
    let once := (foreign orders).convert plainRules
    let twice := once.convert plainRules
    once.symbols.IsConsistent
      ∧ "orders" ∈ (Channels.none.detectIn .standard once.symbols.plainOnly).1.incoming
      ∧ "orders" ∈ (Channels.none.detectIn .standard once.symbols).1.incoming
      ∧ "orders" ∉ (Channels.none.detectIn .standard twice.symbols).1.incoming := by
  intro once twice
  have hclassifier : MessageRule.standard.classifierOver once.symbols.classNamed
      = MessageRule.standard.classifier (Index.ofLists [order] [orderConsumer]).classes :=
    MessageRule.classifierOver_get? _ _
  refine ⟨isConsistent_convert plainRules _, ?_, ?_, ?_⟩
  · show "orders" ∈ (Channels.none.detectBy (MessageRule.standard.classifierOver
      once.symbols.classNamed) once.symbols.plainOnly).1.incoming
    rw [hclassifier]
    decide +kernel
  · rw [Channels.detectIn, hclassifier]
    decide +kernel
  · decide +kernel

end AnyIndex

end ChannelSerde
