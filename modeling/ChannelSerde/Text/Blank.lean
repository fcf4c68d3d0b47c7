/-!
# Blanks and lines

Three questions about a text recur everywhere: is a character blank, what is left of a text without
the blanks around it, and where do its lines end. The answers differ from the ASCII ones: the
no-break space and the ideographic space are blank, the zero-width space is not, and a line may end
in any of eleven ways. They are given on lists of characters, where they are plain recursion, and
lifted to strings.
-/

namespace ChannelSerde.Text

/-- **Blank characters**: the white space of the whole character set, the four separators U+001C to
U+001F and the next-line character included. -/
def isBlank (c : Char) : Bool :=
  let n := c.toNat
  (0x9 ≤ n && n ≤ 0xD) || (0x1C ≤ n && n ≤ 0x20) || n == 0x85 || n == 0xA0 || n == 0x1680
    || (0x2000 ≤ n && n ≤ 0x200A) || n == 0x2028 || n == 0x2029 || n == 0x202F || n == 0x205F
    || n == 0x3000

/-- A text without the blanks before and after it. -/
def trimChars (cs : List Char) : List Char :=
  ((cs.dropWhile isBlank).reverse.dropWhile isBlank).reverse

/-- The blanks that may stand around a numeral: the separators U+001C to U+001F are none of them. -/
def isNumeralGap (c : Char) : Bool :=
  isBlank c && !(0x1C ≤ c.toNat && c.toNat ≤ 0x1F)

/-- A numeral without the blanks around it. -/
def trimNumeral (cs : List Char) : List Char :=
  ((cs.dropWhile isNumeralGap).reverse.dropWhile isNumeralGap).reverse

/-- A text without the blanks before and after it. -/
def trim (s : String) : String :=
  String.ofList (trimChars s.toList)

/-- **A blank text** has nothing but blanks, or nothing at all. -/
def isBlankText (s : String) : Bool :=
  s.toList.all isBlank

/-- The key starts with the given text. -/
def startsWith (s head : String) : Bool :=
  head.toList.isPrefixOf s.toList

/-- The key ends with the given text. -/
def endsWith (s tail : String) : Bool :=
  tail.toList.isSuffixOf s.toList

/-- What follows the first `n` characters. -/
def dropChars (s : String) (n : Nat) : String :=
  String.ofList (s.toList.drop n)

/-- What follows the last full stop, the whole text when it has none. -/
def lastComponent (s : String) : String :=
  String.ofList (s.toList.reverse.takeWhile (· != '.')).reverse

/-! ## Lines -/

/-- **The characters that end a line** by themselves. A carriage return and a line feed together
end one line, not two. -/
def isLineBreak (c : Char) : Bool :=
  let n := c.toNat
  (0xA ≤ n && n ≤ 0xD) || (0x1C ≤ n && n ≤ 0x1E) || n == 0x85 || n == 0x2028 || n == 0x2029

/-- The lines of a text, given the characters of the current line met so far, last one first. -/
def linesFrom (current : List Char) : List Char → List (List Char)
  | [] => if current.isEmpty then [] else [current.reverse]
  | '\r' :: '\n' :: rest => current.reverse :: linesFrom [] rest
  | c :: rest =>
    if isLineBreak c then current.reverse :: linesFrom [] rest else linesFrom (c :: current) rest

/-- **The lines of a text**, without their breaks. A break at the very end starts no further
line. -/
def lines (cs : List Char) : List (List Char) :=
  linesFrom [] cs

/-- A text with every carriage return, alone or before a line feed, turned into a line feed. -/
def unifyNewlines : List Char → List Char
  | [] => []
  | '\r' :: '\n' :: rest => '\n' :: unifyNewlines rest
  | '\r' :: rest => '\n' :: unifyNewlines rest
  | c :: rest => c :: unifyNewlines rest

/-! ## Small lemmas -/

theorem not_isLineBreak_of_not_isBlank {c : Char} (h : isBlank c = false) : isLineBreak c = false := by
  simp only [isBlank, isLineBreak, Bool.or_eq_false_iff, Bool.and_eq_false_iff, decide_eq_false_iff_not,
    beq_eq_false_iff_ne] at *
  omega

section Runs

variable {p : Char → Bool} {w rest : List Char}

theorem takeWhile_run (hw : ∀ c ∈ w, p c = true) (hr : ∀ c ∈ rest.head?, p c = false) :
    (w ++ rest).takeWhile p = w := by
  rw [List.takeWhile_append_of_pos hw]
  cases rest with
  | nil => exact List.append_nil w
  | cons c cs => rw [List.takeWhile_cons, hr c rfl]; exact List.append_nil w

theorem dropWhile_run (hw : ∀ c ∈ w, p c = true) (hr : ∀ c ∈ rest.head?, p c = false) :
    (w ++ rest).dropWhile p = rest := by
  rw [List.dropWhile_append_of_pos hw]
  cases rest with
  | nil => rfl
  | cons c cs => rw [List.dropWhile_cons, hr c rfl]; rfl

theorem head?_dropWhile {c : Char} (h : c ∈ (rest.dropWhile p).head?) : p c = false := by
  have hstop := List.head?_dropWhile_not p rest
  rwa [show (rest.dropWhile p).head? = some c from h] at hstop

end Runs

theorem trimChars_append {front body back : List Char} (hfront : ∀ c ∈ front, isBlank c = true)
    (hback : ∀ c ∈ back, isBlank c = true) (hne : body ≠ [])
    (hhead : ∀ c ∈ body.head?, isBlank c = false) (hlast : ∀ c ∈ body.getLast?, isBlank c = false) :
    trimChars (front ++ (body ++ back)) = body := by
  have hstart : ∀ c ∈ (body ++ back).head?, isBlank c = false := by
    cases body with
    | nil => exact absurd rfl hne
    | cons d ds => exact hhead
  have hend : ∀ c ∈ body.reverse.head?, isBlank c = false := by
    rwa [List.head?_reverse]
  have hback' : ∀ c ∈ back.reverse, isBlank c = true := fun c hc => hback c (List.mem_reverse.mp hc)
  rw [trimChars, dropWhile_run hfront hstart, List.reverse_append, dropWhile_run hback' hend,
    List.reverse_reverse]

theorem trimChars_of_blank {cs : List Char} (h : ∀ c ∈ cs, isBlank c = true) : trimChars cs = [] := by
  have hdrop : (cs ++ []).dropWhile isBlank = [] :=
    dropWhile_run h fun _ hc => absurd hc (Option.not_mem_none _)
  rw [List.append_nil] at hdrop
  rw [trimChars, hdrop]
  rfl

theorem trimChars_cons {front : List Char} {c : Char} (hfront : ∀ d ∈ front, isBlank d = true)
    (hc : isBlank c = false) (rest : List Char) :
    trimChars (front ++ c :: rest) = c :: (rest.reverse.dropWhile isBlank).reverse := by
  have hstart : ∀ d ∈ (c :: rest).head?, isBlank d = false := fun d hd =>
    Option.mem_some.mp hd ▸ hc
  rw [trimChars, dropWhile_run hfront hstart, List.reverse_cons, List.dropWhile_append]
  split
  · next hempty =>
    rw [List.isEmpty_iff.mp hempty, List.dropWhile_cons, hc]
    rfl
  · rw [List.reverse_append]
    rfl

theorem getLast?_trimChars {cs : List Char} {c : Char} (h : c ∈ (trimChars cs).getLast?) :
    isBlank c = false := by
  rw [trimChars, List.getLast?_reverse] at h
  exact head?_dropWhile h

theorem mem_of_mem_trimChars {cs : List Char} {c : Char} (h : c ∈ trimChars cs) : c ∈ cs := by
  rw [trimChars, List.mem_reverse] at h
  have h' := List.mem_reverse.mp ((List.dropWhile_suffix _).subset h)
  exact (List.dropWhile_suffix _).subset h'

@[simp] theorem isBlankText_empty : isBlankText "" = true := rfl

theorem isBlankText_append (a b : String) :
    isBlankText (a ++ b) = (isBlankText a && isBlankText b) := by
  rw [isBlankText, String.toList_append, List.all_append]
  rfl

theorem startsWith_append (head rest : String) : startsWith (head ++ rest) head = true := by
  rw [startsWith, String.toList_append, List.isPrefixOf_iff_prefix]
  exact List.prefix_append _ _

theorem startsWith_of_append {s head rest : String} (h : startsWith s (head ++ rest) = true) :
    startsWith s head = true := by
  rw [startsWith, List.isPrefixOf_iff_prefix] at *
  rw [String.toList_append] at h
  exact (List.prefix_append _ _).trans h

/-- A text has no two starts of which neither is one of the other. -/
theorem startsWith_exclusive {s a b : String} (h : startsWith s a = true)
    (hab : startsWith a b = false) (hba : startsWith b a = false) : startsWith s b = false := by
  rw [← Bool.not_eq_true, startsWith, List.isPrefixOf_iff_prefix] at *
  exact fun hb => (List.prefix_or_prefix_of_prefix h hb).elim hba hab

theorem dropChars_append (head rest : String) : dropChars (head ++ rest) head.length = rest := by
  rw [dropChars, String.toList_append, ← String.length_toList, List.drop_left, String.ofList_toList]

theorem append_dropChars {s head : String} (h : startsWith s head = true) :
    head ++ dropChars s head.length = s := by
  obtain ⟨rest, hrest⟩ := List.isPrefixOf_iff_prefix.mp h
  obtain rfl : head ++ String.ofList rest = s := by
    rw [← String.toList_inj, String.toList_append, String.toList_ofList, hrest]
  rw [dropChars_append]

theorem endsWith_append (front tail : String) : endsWith (front ++ tail) tail = true := by
  rw [endsWith, String.toList_append, List.isSuffixOf_iff_suffix]
  exact List.suffix_append _ _

theorem endsWith_append_of_le {s t tail : String} (h : tail.toList.length ≤ t.toList.length) :
    endsWith (s ++ t) tail = endsWith t tail := by
  rw [Bool.eq_iff_iff]
  unfold endsWith
  rw [List.isSuffixOf_iff_suffix, List.isSuffixOf_iff_suffix, String.toList_append]
  refine ⟨fun hs => List.suffix_of_suffix_length_le hs (List.suffix_append _ _) h, fun hs => ?_⟩
  exact hs.trans (List.suffix_append _ _)

/-- **A text with a given start and a given end** has them apart, or the first part of the end is the
last part of the start. -/
theorem apart_or_shared {s head tail : String} (hhead : startsWith s head = true)
    (htail : endsWith s tail = true) :
    (∃ mid, s = head ++ mid ++ tail)
      ∨ ∃ n, n ≤ tail.toList.length ∧ tail.toList.take n <:+ head.toList
          ∧ s = head ++ dropChars tail n := by
  obtain ⟨rest, hrest⟩ := List.isPrefixOf_iff_prefix.mp hhead
  obtain ⟨front, hfront⟩ := List.isSuffixOf_iff_suffix.mp htail
  obtain ⟨shared, hshared, htail⟩ | ⟨mid, -, hmid⟩ :=
    List.append_eq_append_iff.mp (hfront.trans hrest.symm)
  · refine .inr ⟨shared.length, ?_, ?_, ?_⟩
    · rw [htail, List.length_append]
      exact Nat.le_add_right _ _
    · rw [htail, List.take_left, hshared]
      exact List.suffix_append _ _
    · rw [← String.toList_inj, dropChars, String.toList_append, String.toList_ofList, htail,
        List.drop_left, hrest]
  · refine .inl ⟨String.ofList mid, ?_⟩
    rw [← String.toList_inj, String.toList_append, String.toList_append, String.toList_ofList,
      List.append_assoc, ← hmid, hrest]

end ChannelSerde.Text
