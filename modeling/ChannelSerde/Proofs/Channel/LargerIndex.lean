import ChannelSerde.Proofs.Channel.Detection

/-!
# A larger index loses no channel

An index may come to know more: further declarations, and further classes. The chain of first bases
of a class then goes on where it broke off, at a name that was not known, and it may run into a
circle there; but it first lists what it listed before (`prefix_chainFrom`). So what was found on it
is found still, and what was a message for one of its own further bases is one for the same reason.
A type that is structured stays structured, and a channel that is detected is detected.
-/

namespace ChannelSerde

namespace MessageRule

variable {classes more : OrderedMap String ClassRecord} {k : MessageRule}

/-- At a known class that was not met a chain lists it and goes on with its first base. -/
theorem chainFrom_of_known {met : List String} {name : String} {c : ClassRecord}
    (hnew : ¬ (name = rootClass ∨ name ∈ met)) (hc : classes.get? name = some c) :
    chainFrom classes met (some name) = name :: chainFrom classes (name :: met) c.parent := by
  rw [chainFrom, dif_neg hnew]
  split
  · next unknown => exact absurd (unknown.symm.trans hc) (Option.some_ne_none c).symm
  · next c' known =>
    obtain rfl : c' = c := Option.some.inj (known.symm.trans hc)
    rfl

/-- **A chain goes on where it broke off**: over more classes it lists what it listed, and perhaps
more behind. -/
theorem prefix_chainFrom (h : ∀ name c, classes.get? name = some c → more.get? name = some c)
    (met : List String) (start : Option String) :
    chainFrom classes met start <+: chainFrom more met start := by
  fun_induction chainFrom classes met start with
  | case1 => exact List.nil_prefix
  | case2 => exact List.nil_prefix
  | case3 met name stop unknown =>
    rw [chainFrom, dif_neg stop]
    split
    · exact List.prefix_rfl
    · exact List.prefix_append [name] _
  | case4 met name stop c known ih =>
    rw [chainFrom_of_known stop (h name c known)]
    exact (List.prefix_cons_inj name).mpr ih

theorem isMessage_mono (h : ∀ name c, classes.get? name = some c → more.get? name = some c)
    {c : ClassRecord} (hc : k.isMessage classes c = true) : k.isMessage more c = true := by
  unfold isMessage at hc ⊢
  rw [Bool.or_eq_true, List.any_eq_true] at hc ⊢
  refine hc.imp ?_ id
  rintro ⟨n, hn, hfound⟩
  exact ⟨n, (prefix_chainFrom h [c.name] c.parent).subset hn, hfound⟩

/-- **A type that is structured is structured over more classes.** -/
theorem isStructured_mono (h : ∀ name c, classes.get? name = some c → more.get? name = some c)
    {r : TypeRef} (hr : k.isStructured classes r = true) : k.isStructured more r = true := by
  unfold isStructured at hr ⊢
  split at hr
  · exact absurd hr Bool.false_ne_true
  · next name _ =>
    rw [Bool.or_eq_true, Option.any_eq_true] at hr ⊢
    refine hr.imp id ?_
    rintro ⟨c, hc, hmessage⟩
    exact ⟨c, h name c hc, isMessage_mono h hmessage⟩

end MessageRule

namespace Index

/-- **An index is within another**: each of its classes has the same record there, and each of its
declarations is one there. -/
structure IsWithin (i j : Index) : Prop where
  classes : ∀ name c, i.classNamed name = some c → j.classNamed name = some c
  declarations : ∀ site ∈ i.declarations, site ∈ j.declarations

theorem IsWithin.trans {i j l : Index} (h : i.IsWithin j) (h' : j.IsWithin l) : i.IsWithin l :=
  ⟨fun name c hc => h'.classes name c (h.classes name c hc),
    fun site hsite => h'.declarations site (h.declarations site hsite)⟩

theorem isWithin_addClass {i : Index} {c : ClassRecord} (hnew : i.classNamed c.name = none) :
    i.IsWithin (i.addClass c) := by
  refine ⟨fun name d hd => ?_, fun _ => id⟩
  have hne : name ≠ c.name := by
    rintro rfl
    exact Option.some_ne_none d (hd.symm.trans hnew)
  exact (OrderedMap.get?_insert_of_ne i.classes hne c).trans hd

theorem isWithin_addSite (i : Index) (site : Site) : i.IsWithin (i.addSite site) :=
  ⟨fun _ _ => id, fun t ht => (i.declarations.mem_insert site t).mpr (.inl ht)⟩

variable {i j : Index}

/-- **What is found in an index is found in a larger one**, by any rule for messages. Every type that
is structured by the classes of the one is structured by those of the other, and in each direction
the channels that are detected, added to registered ones, are among those that are detected in the
larger index and added to these or more. -/
theorem IsWithin.detects_more (h : i.IsWithin j) (k : MessageRule) :
    (∀ r, k.isStructured i.classes r = true → k.isStructured j.classes r = true)
      ∧ ∀ c c' : Channels, (∀ d, ∀ v ∈ c.names d, v ∈ c'.names d) →
          ∀ d, ∀ v ∈ (Channels.detect k i.symbols c).1.names d,
            v ∈ (Channels.detect k j.symbols c').1.names d := by
  have hstructured : ∀ r, k.isStructured i.classes r = true → k.isStructured j.classes r = true :=
    fun r => MessageRule.isStructured_mono h.classes
  refine ⟨hstructured, fun c c' hregistered d v hv => ?_⟩
  rw [Channels.detect, Channels.mem_names_detectBy] at hv ⊢
  refine hv.imp (hregistered d v) fun hneeds => hneeds.mono (fun site name v stands => ?_) hstructured
  rw [carries_iff] at stands
  exact ⟨site, carries_iff.mpr ⟨h.declarations site stands.1, stands.2⟩, rfl, rfl, rfl⟩

/-- A class whose first base is not known, and which is a message for a further base. In the larger
index the chain of first bases goes on from there, and back to the class. -/
theorem detects_more_circle :
    let order : ClassRecord :=
      ⟨"app.Order", some "app.Base", [MessageRule.standard.marker], .ofClass⟩
    let base : ClassRecord := ⟨"app.Base", some "app.Order", [], .ofClass⟩
    let consumer : Site :=
      ⟨.method, "app.Consumer", "consume", .void, [.ofClass "app.Order"],
        [⟨Marker.incoming, "orders"⟩], none⟩
    let i := ofLists [order] [consumer]
    let j := (i.addClass base).addSite { consumer with name := "again" }
    i.IsWithin j
      ∧ "orders" ∈ (Channels.detect .standard i.symbols .none).1.names .incoming
      ∧ "orders" ∈ (Channels.detect .standard j.symbols .none).1.names .incoming := by
  intro order base consumer i j
  have hwithin : i.IsWithin j := (isWithin_addClass (by decide)).trans (isWithin_addSite _ _)
  have hfound : "orders" ∈ (Channels.detect .standard i.symbols .none).1.names .incoming := by
    decide +kernel
  exact ⟨hwithin, hfound,
    (hwithin.detects_more .standard).2 .none .none (fun _ _ => id) .incoming "orders" hfound⟩

end Index

end ChannelSerde
