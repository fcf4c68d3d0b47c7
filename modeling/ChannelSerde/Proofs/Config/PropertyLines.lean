import Mathlib.Data.List.TakeWhile
import ChannelSerde.Config.Properties
import ChannelSerde.Proofs.Text.Lines

/-!
# Property lines are read back

A key and a value can stand on a line if the key has no blank and no separator in it and starts no
comment, and the value has no line break in it and no blanks around it (`IsLineSafe`). Written on a
line each, with any blanks about the separator and around the whole, with blank lines and comments
between them, and with lines ended in any way that lines end, such pairs are read back as they are.
Nothing else is ever read: what a text holds are pairs that can stand on a line.

The key is found as a run that a blank or a separator ends, so it does not matter with what the
value begins: at most one separator is taken off, and a second one belongs to the value.
-/

namespace ChannelSerde.Config

open Text

/-- **A key and a value that can stand on one line.** -/
structure IsLineSafe (key value : String) : Prop where
  nonempty : key.toList ≠ []
  plain : ∀ c ∈ key.toList, c ≠ '=' ∧ c ≠ ':' ∧ isBlank c = false
  noComment : key.toList.head? ≠ some '#' ∧ key.toList.head? ≠ some '!'
  oneLine : ∀ c ∈ value.toList, isLineBreak c = false
  noBlankBefore : ∀ c ∈ value.toList.head?, isBlank c = false
  noBlankAfter : ∀ c ∈ value.toList.getLast?, isBlank c = false

/-- Whether a key and a value can stand on a line is seen from their characters. -/
instance (key value : String) : Decidable (IsLineSafe key value) :=
  decidable_of_iff
    (key.toList ≠ []
      ∧ key.toList.all (fun c => decide (c ≠ '=' ∧ c ≠ ':' ∧ isBlank c = false)) = true
      ∧ (key.toList.head? ≠ some '#' ∧ key.toList.head? ≠ some '!')
      ∧ value.toList.all (fun c => !isLineBreak c) = true
      ∧ value.toList.head?.all (fun c => !isBlank c) = true
      ∧ value.toList.getLast?.all (fun c => !isBlank c) = true)
    (by
      simp only [List.all_eq_true, Option.all_eq_true, decide_eq_true_eq, Bool.not_eq_true']
      exact ⟨fun ⟨h₁, h₂, h₃, h₄, h₅, h₆⟩ => ⟨h₁, h₂, h₃, h₄, h₅, h₆⟩,
        fun ⟨h₁, h₂, h₃, h₄, h₅, h₆⟩ => ⟨h₁, h₂, h₃, h₄, h₅, h₆⟩⟩)

/-- Blanks within a line. -/
def IsGap (cs : List Char) : Prop := ∀ c ∈ cs, isBlank c = true ∧ isLineBreak c = false

instance (cs : List Char) : Decidable (IsGap cs) :=
  decidable_of_iff (cs.all (fun c => isBlank c && !isLineBreak c) = true)
    (by simp only [List.all_eq_true, Bool.and_eq_true, Bool.not_eq_true', IsGap])

/-- **What is written on a line**: nothing, a comment, or a key and a value with a separator between
them, and blanks anywhere but within these. -/
inductive WritesLine : Option (String × String) → List Char → Prop
  | blank {gap} (hgap : IsGap gap) : WritesLine none gap
  | comment {gap mark rest} (hgap : IsGap gap) (hmark : mark = '#' ∨ mark = '!')
    (hrest : ∀ c ∈ rest, isLineBreak c = false) : WritesLine none (gap ++ mark :: rest)
  | entry {front before after back key value separator} (hfront : IsGap front)
    (hbefore : IsGap before) (hseparator : separator = '=' ∨ separator = ':') (hafter : IsGap after)
    (hback : IsGap back) : WritesLine (some (key, value))
      (front ++ (key.toList ++ (before ++ separator :: (after ++ (value.toList ++ back)))))

/-- **What is written in a text**, line by line. The last line may do without a break. -/
inductive Writes : List (String × String) → List Char → Prop
  | last {e line} (hline : WritesLine e line) : Writes e.toList line
  | next {e line br es text} (hline : WritesLine e line) (hbr : IsBreak br) (rest : Writes es text) :
    Writes (e.toList ++ es) (line ++ (br ++ text))

/-! ## Reading a line -/

theorem isKeyChar_iff (c : Char) : isKeyChar c = true ↔ c ≠ '=' ∧ c ≠ ':' ∧ isBlank c = false := by
  simp [isKeyChar, and_assoc]

theorem separator_facts {c : Char} (h : c = '=' ∨ c = ':') :
    isKeyChar c = false ∧ isBlank c = false ∧ ∀ cs, dropSeparator (c :: cs) = cs := by
  obtain rfl | rfl := h
  · exact ⟨by decide, by decide, fun _ => rfl⟩
  · exact ⟨by decide, by decide, fun _ => rfl⟩

theorem not_isBlank_of_mark {c : Char} (h : c = '#' ∨ c = '!') : isBlank c = false := by
  obtain rfl | rfl := h <;> decide

theorem not_isKeyChar_of_isBlank {c : Char} (h : isBlank c = true) : isKeyChar c = false := by
  simp [isKeyChar, h]

/-- **The entry of a line** without blanks around it: its key is the run it starts with, its value is
what follows the separator. -/
theorem entryOfTrimmed_eq_some_iff {line : List Char} {e : String × String} :
    entryOfTrimmed line = some e
      ↔ line.takeWhile isKeyChar ≠ [] ∧ line.head? ≠ some '#' ∧ line.head? ≠ some '!'
        ∧ (String.ofList (line.takeWhile isKeyChar), String.ofList ((dropSeparator
            ((line.dropWhile isKeyChar).dropWhile isBlank)).dropWhile isBlank)) = e := by
  unfold entryOfTrimmed
  dsimp only
  split
  · next hnone =>
    refine iff_of_false (Option.some_ne_none e).symm fun h => ?_
    simp [h.1, h.2.1, h.2.2.1] at hnone
  · next hsome =>
    simp only [Bool.or_eq_true, not_or, List.isEmpty_iff, beq_iff_eq] at hsome
    rw [Option.some_inj]
    exact ⟨fun h => ⟨hsome.1.1, hsome.1.2, hsome.2, h⟩, fun h => h.2.2.2⟩

theorem entryOfLine_of_blank {line : List Char} (h : ∀ c ∈ line, isBlank c = true) :
    entryOfLine line = none := by
  rw [entryOfLine, trimChars_of_blank h]
  rfl

theorem entryOfLine_nil : entryOfLine [] = none :=
  entryOfLine_of_blank fun _ hc => absurd hc List.not_mem_nil

theorem entryOfTrimmed_comment {mark : Char} (hmark : mark = '#' ∨ mark = '!') (rest : List Char) :
    entryOfTrimmed (mark :: rest) = none := by
  rw [Option.eq_none_iff_forall_ne_some]
  intro e h
  obtain ⟨-, hhash, hexclamation, -⟩ := entryOfTrimmed_eq_some_iff.mp h
  obtain rfl | rfl := hmark
  · exact hhash rfl
  · exact hexclamation rfl

/-- **A key, a separator and a value** without blanks around them are an entry. -/
theorem entryOfTrimmed_entry {key value : String} (h : IsLineSafe key value)
    {before after : List Char} {separator : Char} (hbefore : ∀ c ∈ before, isBlank c = true)
    (hseparator : separator = '=' ∨ separator = ':') (hafter : ∀ c ∈ after, isBlank c = true) :
    entryOfTrimmed (key.toList ++ (before ++ separator :: (after ++ value.toList)))
      = some (key, value) := by
  obtain ⟨hnotkey, hnotblank, hdrop⟩ := separator_facts hseparator
  have hkey : ∀ c ∈ key.toList, isKeyChar c = true := fun c hc => (isKeyChar_iff c).mpr (h.plain c hc)
  have hend : ∀ c ∈ (before ++ separator :: (after ++ value.toList)).head?, isKeyChar c = false := by
    intro c hc
    cases before with
    | nil => exact Option.mem_some.mp hc ▸ hnotkey
    | cons b bs => exact Option.mem_some.mp hc ▸ not_isKeyChar_of_isBlank (hbefore b List.mem_cons_self)
  have hseparator' : ∀ c ∈ (separator :: (after ++ value.toList)).head?, isBlank c = false :=
    fun c hc => Option.mem_some.mp hc ▸ hnotblank
  have hhead : (key.toList ++ (before ++ separator :: (after ++ value.toList))).head?
      = key.toList.head? := by
    rw [List.head?_append]
    cases hks : key.toList with
    | nil => exact absurd hks h.nonempty
    | cons c cs => rfl
  rw [entryOfTrimmed_eq_some_iff, takeWhile_run hkey hend, dropWhile_run hkey hend,
    dropWhile_run hbefore hseparator', hdrop, dropWhile_run hafter h.noBlankBefore, hhead,
    String.ofList_toList, String.ofList_toList]
  exact ⟨h.nonempty, h.noComment.1, h.noComment.2, rfl⟩

/-- A line with a key and a value loses the blanks around it. If the value is empty, what stands
between it and the separator is among them. -/
theorem exists_trimChars_entry {key value : String} (h : IsLineSafe key value)
    (before : List Char) {front after back : List Char} {separator : Char}
    (hfront : ∀ c ∈ front, isBlank c = true)
    (hseparator : separator = '=' ∨ separator = ':') (hafter : ∀ c ∈ after, isBlank c = true)
    (hback : ∀ c ∈ back, isBlank c = true) :
    ∃ after', (∀ c ∈ after', isBlank c = true)
      ∧ trimChars (front ++ (key.toList
            ++ (before ++ separator :: (after ++ (value.toList ++ back)))))
          = key.toList ++ (before ++ separator :: (after' ++ value.toList)) := by
  have hne : ∀ rest, key.toList ++ rest ≠ [] := fun rest hnil =>
    h.nonempty (List.append_eq_nil_iff.mp hnil).1
  have hhead : ∀ rest, ∀ c ∈ (key.toList ++ rest).head?, isBlank c = false := by
    intro rest c hc
    cases hks : key.toList with
    | nil => exact absurd hks h.nonempty
    | cons k ks =>
      rw [hks] at hc
      exact Option.mem_some.mp hc ▸ (h.plain k (hks ▸ List.mem_cons_self)).2.2
  by_cases hvalue : value.toList = []
  · have hline : key.toList ++ (before ++ separator :: (after ++ (value.toList ++ back)))
        = (key.toList ++ (before ++ [separator])) ++ (after ++ back) := by simp [hvalue]
    have hblanks : ∀ c ∈ after ++ back, isBlank c = true := fun c hc =>
      (List.mem_append.mp hc).elim (hafter c) (hback c)
    have hlast : ∀ c ∈ (key.toList ++ (before ++ [separator])).getLast?, isBlank c = false := by
      intro c hc
      rw [← List.append_assoc, List.getLast?_append] at hc
      exact Option.mem_some.mp hc ▸ (separator_facts hseparator).2.1
    refine ⟨[], fun _ hc => absurd hc List.not_mem_nil, ?_⟩
    rw [hline, trimChars_append hfront hblanks (hne _) (hhead _) hlast, hvalue]
    rfl
  · have hline : key.toList ++ (before ++ separator :: (after ++ (value.toList ++ back)))
        = (key.toList ++ (before ++ separator :: (after ++ value.toList))) ++ back := by simp
    have hlast : ∀ c ∈ (key.toList ++ (before ++ separator :: (after ++ value.toList))).getLast?,
        isBlank c = false := by
      intro c hc
      rw [show key.toList ++ (before ++ separator :: (after ++ value.toList))
        = (key.toList ++ (before ++ separator :: after)) ++ value.toList by simp,
        List.getLast?_append] at hc
      cases hl : value.toList.getLast? with
      | none => exact absurd (List.getLast?_eq_none_iff.mp hl) hvalue
      | some d =>
        rw [hl] at hc
        exact h.noBlankAfter c (hl.trans hc)
    refine ⟨after, hafter, ?_⟩
    rw [hline, trimChars_append hfront hback (hne _) (hhead _) hlast]

/-- **What is written on a line is read off it**, if it can stand there. -/
theorem WritesLine.entryOfLine_eq {e : Option (String × String)} {line : List Char}
    (h : WritesLine e line) (hsafe : ∀ p ∈ e, IsLineSafe p.1 p.2) : entryOfLine line = e := by
  cases h with
  | blank hgap => exact entryOfLine_of_blank fun c hc => (hgap c hc).1
  | @comment gap mark rest hgap hmark _ =>
    rw [entryOfLine, trimChars_cons (fun c hc => (hgap c hc).1) (not_isBlank_of_mark hmark)]
    exact entryOfTrimmed_comment hmark _
  | @entry front before after back key value separator hfront hbefore hseparator hafter hback =>
    have hs : IsLineSafe key value := hsafe _ rfl
    obtain ⟨after', hafter', htrim⟩ := exists_trimChars_entry hs before (fun c hc => (hfront c hc).1)
      hseparator (fun c hc => (hafter c hc).1) fun c hc => (hback c hc).1
    rw [entryOfLine, htrim]
    exact entryOfTrimmed_entry hs (fun c hc => (hbefore c hc).1) hseparator hafter'

theorem WritesLine.not_isLineBreak {e : Option (String × String)} {line : List Char}
    (h : WritesLine e line) (hsafe : ∀ p ∈ e, IsLineSafe p.1 p.2) :
    ∀ c ∈ line, isLineBreak c = false := by
  cases h with
  | blank hgap => exact fun c hc => (hgap c hc).2
  | @comment gap mark rest hgap hmark hrest =>
    intro c hc
    obtain hc | hc := List.mem_append.mp hc
    · exact (hgap c hc).2
    · obtain rfl | hc := List.mem_cons.mp hc
      · exact not_isLineBreak_of_not_isBlank (not_isBlank_of_mark hmark)
      · exact hrest c hc
  | @entry front before after back key value separator hfront hbefore hseparator hafter hback =>
    have hs : IsLineSafe key value := hsafe _ rfl
    intro c hc
    simp only [List.mem_append, List.mem_cons] at hc
    obtain hc | hc | hc | rfl | hc | hc | hc := hc
    · exact (hfront c hc).2
    · exact not_isLineBreak_of_not_isBlank (hs.plain c hc).2.2
    · exact (hbefore c hc).2
    · exact not_isLineBreak_of_not_isBlank (separator_facts hseparator).2.1
    · exact (hafter c hc).2
    · exact hs.oneLine c hc
    · exact (hback c hc).2

/-! ## What a line holds -/

theorem dropSeparator_suffix (cs : List Char) : dropSeparator cs <:+ cs := by
  unfold dropSeparator
  split
  · exact List.suffix_cons _ _
  · exact List.suffix_cons _ _
  · exact List.suffix_rfl

/-- **What is read off a line can stand on one.** -/
theorem isLineSafe_of_entryOfLine {line : List Char} {e : String × String}
    (hline : ∀ c ∈ line, isLineBreak c = false) (h : entryOfLine line = some e) :
    IsLineSafe e.1 e.2 := by
  obtain ⟨hne, hhash, hexclamation, rfl⟩ := entryOfTrimmed_eq_some_iff.mp h
  -- the value is the end of the line
  have hsuffix : (dropSeparator (((trimChars line).dropWhile isKeyChar).dropWhile isBlank)).dropWhile
      isBlank <:+ trimChars line :=
    (List.dropWhile_suffix _).trans ((dropSeparator_suffix _).trans
      ((List.dropWhile_suffix _).trans (List.dropWhile_suffix _)))
  have hhead : ∀ c, ((trimChars line).takeWhile isKeyChar).head? = some c →
      (trimChars line).head? = some c := by
    intro c hc
    rw [List.head?_takeWhile] at hc
    exact (Option.filter_eq_some_iff.mp hc).1
  refine ⟨?_, ?_, ⟨?_, ?_⟩, ?_, ?_, ?_⟩
  all_goals rw [String.toList_ofList]
  · exact hne
  · exact fun c hc => (isKeyChar_iff c).mp (List.mem_takeWhile_imp hc)
  · exact fun hc => hhash (hhead _ hc)
  · exact fun hc => hexclamation (hhead _ hc)
  · exact fun c hc => hline c (mem_of_mem_trimChars (hsuffix.subset hc))
  · exact fun c hc => head?_dropWhile hc
  · intro c hc
    obtain ⟨front, hfront⟩ := hsuffix
    have hlast : c ∈ (trimChars line).getLast? := by
      rw [← hfront, List.getLast?_append, Option.mem_def.mp hc]
      rfl
    exact getLast?_trimChars hlast

/-! ## What a text holds -/

/-- What is written in a text is read off its lines. -/
theorem Writes.filterMap_lines {es : List (String × String)} {text : List Char} (h : Writes es text)
    (hsafe : ∀ e ∈ es, IsLineSafe e.1 e.2) : (lines text).filterMap entryOfLine = es := by
  induction h with
  | @last e line hline =>
    have hsafe' : ∀ p ∈ e, IsLineSafe p.1 p.2 := fun p hp => hsafe p (Option.mem_toList.mpr hp)
    rw [filterMap_lines_of_no_break entryOfLine_nil (hline.not_isLineBreak hsafe'),
      hline.entryOfLine_eq hsafe']
  | @next e line br es text hline hbr _ ih =>
    have hsafe' : ∀ p ∈ e, IsLineSafe p.1 p.2 := fun p hp =>
      hsafe p (List.mem_append_left _ (Option.mem_toList.mpr hp))
    rw [filterMap_lines_break entryOfLine_nil hbr, ih fun p hp => hsafe p (List.mem_append_right _ hp),
      filterMap_lines_of_no_break entryOfLine_nil (hline.not_isLineBreak hsafe'),
      hline.entryOfLine_eq hsafe']

/-- **Property lines are read back.** Written on a line each, in any layout, pairs that can stand on
a line are read as they are, and a text holds no other pairs. Two texts with a line between them end
up as the entries of the first with those of the second put in, so a key has the second's value, or
the first's where the second has none. -/
theorem properties_read_back :
    (∀ (m : Properties) (text : String), (∀ e ∈ m.entries, IsLineSafe e.1 e.2) →
        Writes m.entries text.toList → readProperties text = m)
      ∧ (∀ text, ∀ e ∈ (readProperties text).entries, IsLineSafe e.1 e.2)
      ∧ ∀ a b, readProperties (a ++ "\n" ++ b)
            = (readProperties a).insertAll (readProperties b).entries
          ∧ ∀ k, (readProperties (a ++ "\n" ++ b)).get? k
              = ((readProperties b).get? k).or ((readProperties a).get? k) := by
  refine ⟨fun m text hsafe h => ?_, fun text e he => ?_, fun a b => ?_⟩
  · rw [readProperties, h.filterMap_lines hsafe, OrderedMap.ofList_entries]
  · obtain ⟨line, hline, he⟩ := List.mem_filterMap.mp (OrderedMap.mem_of_mem_entries_ofList he)
    exact isLineSafe_of_entryOfLine (not_isLineBreak_of_mem_lines hline) he
  · have hbr : IsBreak "\n".toList := .one (by decide)
    have hput : readProperties (a ++ "\n" ++ b)
        = (readProperties a).insertAll (readProperties b).entries := by
      rw [readProperties, String.toList_append, String.toList_append, List.append_assoc,
        filterMap_lines_break entryOfLine_nil hbr, OrderedMap.ofList, OrderedMap.insertAll_append,
        readProperties, readProperties, OrderedMap.insertAll_ofList]
      rfl
    exact ⟨hput, fun k => hput ▸ OrderedMap.get?_insertAll_entries _ _ k⟩

/-- A comment, an entry with a value that starts with a separator, an empty line and an entry with
no value, the lines ended in three ways. -/
theorem properties_read_back_layout :
    let m : Properties := ⟨[("a.b", "=x y"), ("k", "")], by decide⟩
    let text := "  # comment\n\ta.b : =x y \r\n\rk="
    (∀ e ∈ m.entries, IsLineSafe e.1 e.2) ∧ Writes m.entries text.toList
      ∧ readProperties text = m := by
  intro m text
  have hsafe : ∀ e ∈ m.entries, IsLineSafe e.1 e.2 := by decide +kernel
  have hempty : IsGap [] := fun _ hc => absurd hc List.not_mem_nil
  have hspace : IsGap [' '] := by decide +kernel
  have hrest : ∀ c ∈ " comment".toList, isLineBreak c = false := by simp [isLineBreak]
  have hcomment : WritesLine none ([' ', ' '] ++ '#' :: " comment".toList) :=
    .comment (by decide +kernel) (.inl rfl) hrest
  have hfirst : WritesLine (some ("a.b", "=x y"))
      (['\t'] ++ ("a.b".toList ++ ([' '] ++ ':' :: ([' '] ++ ("=x y".toList ++ [' ']))))) :=
    .entry (by decide +kernel) hspace (.inr rfl) hspace hspace
  have hsecond : WritesLine (some ("k", ""))
      ([] ++ ("k".toList ++ ([] ++ '=' :: ([] ++ ("".toList ++ []))))) :=
    .entry hempty hempty (.inl rfl) hempty hempty
  have hlines := Writes.next hcomment (.one (c := '\n') (by decide))
    (.next hfirst .pair (.next (.blank hempty) (.one (c := '\r') (by decide)) (.last hsecond)))
  have hwrites : Writes m.entries text.toList :=
    Eq.subst (motive := Writes m.entries) (by decide +kernel) hlines
  exact ⟨hsafe, hwrites, properties_read_back.1 m text hsafe hwrites⟩

end ChannelSerde.Config
