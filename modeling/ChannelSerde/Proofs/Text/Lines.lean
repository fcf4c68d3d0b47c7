import ChannelSerde.Text.Blank

/-!
# Where lines end

A text is cut at its line breaks. Cut into two texts at a break, it has the lines of the one and
then the lines of the other, but for one case: a carriage return at the end of the first text and
the line feed after it are one break, not two. What is lost is an empty line. So whatever is read
off lines one by one, and off an empty line nothing, is read off the two texts one after the other
(`filterMap_lines_break`).
-/

namespace ChannelSerde.Text

/-- **What ends a line**: a character that does, or a carriage return with a line feed. -/
inductive IsBreak : List Char → Prop
  | one {c} (h : isLineBreak c = true) : IsBreak [c]
  | pair : IsBreak ['\r', '\n']

theorem linesFrom_append {line : List Char} (h : ∀ c ∈ line, isLineBreak c = false)
    (current rest : List Char) :
    linesFrom current (line ++ rest) = linesFrom (line.reverse ++ current) rest := by
  induction line generalizing current with
  | nil => rfl
  | cons c line ih =>
    have hc : isLineBreak c = false := h c List.mem_cons_self
    have hpair : ∀ rest', c = '\r' → line ++ rest = '\n' :: rest' → False := by
      rintro rest' rfl -
      exact absurd hc (by decide)
    rw [List.cons_append, linesFrom.eq_3 current c _ hpair, hc, if_neg Bool.false_ne_true,
      ih (fun d hd => h d (List.mem_cons_of_mem c hd)), List.reverse_cons, List.append_assoc]
    rfl

theorem not_isLineBreak_of_mem_linesFrom {current cs line : List Char}
    (hcurrent : ∀ c ∈ current, isLineBreak c = false) (h : line ∈ linesFrom current cs) :
    ∀ c ∈ line, isLineBreak c = false := by
  have hempty : ∀ c ∈ ([] : List Char), isLineBreak c = false := fun _ hc =>
    absurd hc List.not_mem_nil
  fun_induction linesFrom current cs with
  | case1 current _ => exact absurd h List.not_mem_nil
  | case2 current _ =>
    obtain rfl := List.mem_singleton.mp h
    exact fun c hc => hcurrent c (List.mem_reverse.mp hc)
  | case3 current rest ih | case4 current c rest _ _ ih =>
    obtain rfl | h := List.mem_cons.mp h
    · exact fun c hc => hcurrent c (List.mem_reverse.mp hc)
    · exact ih hempty h
  | case5 current c rest _ hc ih =>
    refine ih (fun d hd => ?_) h
    obtain rfl | hd := List.mem_cons.mp hd
    · exact Bool.eq_false_iff.mpr hc
    · exact hcurrent d hd

theorem not_isLineBreak_of_mem_lines {cs line : List Char} (h : line ∈ lines cs) :
    ∀ c ∈ line, isLineBreak c = false :=
  not_isLineBreak_of_mem_linesFrom (fun _ hc => absurd hc List.not_mem_nil) h

section Reading

variable {β : Type} {f : List Char → Option β}

theorem filterMap_cons_line (f : List Char → Option β) (line : List Char) (ls : List (List Char)) :
    (line :: ls).filterMap f = (f line).toList ++ ls.filterMap f := by
  rw [List.filterMap_cons]
  cases f line <;> rfl

theorem filterMap_linesFrom_nil (hf : f [] = none) (current : List Char) :
    (linesFrom current []).filterMap f = (f current.reverse).toList := by
  cases current with
  | nil =>
    rw [List.reverse_nil, hf]
    rfl
  | cons c current => exact (filterMap_cons_line f _ []).trans (List.append_nil _)

/-- **A text without a break** is read as one line. -/
theorem filterMap_lines_of_no_break (hf : f [] = none) {line : List Char}
    (h : ∀ c ∈ line, isLineBreak c = false) : (lines line).filterMap f = (f line).toList := by
  have happend := linesFrom_append h [] []
  rw [List.append_nil, List.append_nil] at happend
  rw [lines, happend, filterMap_linesFrom_nil hf, List.reverse_reverse]

/-- A break ends the line that has begun. -/
theorem filterMap_linesFrom_break (hf : f [] = none) {br : List Char} (hbr : IsBreak br)
    (current rest : List Char) : (linesFrom current (br ++ rest)).filterMap f
      = (f current.reverse).toList ++ (lines rest).filterMap f := by
  cases hbr with
  | pair => exact filterMap_cons_line f _ _
  | @one c hc =>
    by_cases hpair : ∃ rest', c = '\r' ∧ rest = '\n' :: rest'
    · -- the break is half of one, and the other half ends an empty line
      obtain ⟨rest', rfl, rfl⟩ := hpair
      have hrest : (lines ('\n' :: rest')).filterMap f = (linesFrom [] rest').filterMap f := by
        show List.filterMap f ([] :: linesFrom [] rest') = _
        rw [filterMap_cons_line, hf]
        rfl
      rw [hrest]
      exact filterMap_cons_line f _ _
    · have hpair' : ∀ rest', c = '\r' → rest = '\n' :: rest' → False := fun rest' h h' =>
        hpair ⟨rest', h, h'⟩
      rw [List.singleton_append, linesFrom.eq_3 current c rest hpair', if_pos hc]
      exact filterMap_cons_line f _ _

/-- **Two texts with a break between them** are read one after the other. -/
theorem filterMap_lines_break (hf : f [] = none) {br : List Char} (hbr : IsBreak br)
    (cs rest : List Char) : (lines (cs ++ (br ++ rest))).filterMap f
      = (lines cs).filterMap f ++ (lines rest).filterMap f := by
  have hall : ∀ current, (linesFrom current (cs ++ (br ++ rest))).filterMap f
      = (linesFrom current cs).filterMap f ++ (lines rest).filterMap f := by
    intro current
    fun_induction linesFrom current cs with
    | case1 current hcurrent =>
      obtain rfl := List.isEmpty_iff.mp hcurrent
      rw [List.nil_append, filterMap_linesFrom_break hf hbr, List.reverse_nil, hf]
      rfl
    | case2 current hcurrent =>
      rw [List.nil_append, filterMap_linesFrom_break hf hbr, filterMap_cons_line, List.filterMap_nil,
        List.append_nil]
    | case3 current cs ih =>
      show List.filterMap f (linesFrom current (['\r', '\n'] ++ (cs ++ (br ++ rest)))) = _
      rw [filterMap_linesFrom_break hf .pair, lines, ih, filterMap_cons_line, List.append_assoc]
    | case4 current c cs _ hc ih =>
      show List.filterMap f (linesFrom current ([c] ++ (cs ++ (br ++ rest)))) = _
      rw [filterMap_linesFrom_break hf (.one hc), lines, ih, filterMap_cons_line, List.append_assoc]
    | case5 current c cs _ hc ih =>
      have hline : ∀ d ∈ [c], isLineBreak d = false := fun d hd =>
        List.mem_singleton.mp hd ▸ Bool.eq_false_iff.mpr hc
      show List.filterMap f (linesFrom current ([c] ++ (cs ++ (br ++ rest)))) = _
      rw [linesFrom_append hline]
      exact ih
  exact hall []

end Reading

end ChannelSerde.Text
