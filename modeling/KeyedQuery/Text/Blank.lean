/-!
Blank characters and trimming.

The table is the Unicode property White_Space: twenty-five code points, of which six are ASCII.
`trimChars` removes the blanks at both ends of a text and nothing else: `trimChars_blank_append`
and `trimChars_append_blank` say that padding on either side is ignored,
`trimChars_eq_self` that a text which neither begins nor ends with a blank is kept, and
`trimChars_eq_nil_iff` that a text is trimmed to nothing just when all of it is blank.
`trimChars_eq_iff` puts them together: of the parts that have only blanks around them, the one
without a blank at either end is what is left.
-/

set_option autoImplicit false

namespace KeyedQuery.Text

/-- The inclusive ranges of code points that are blank. -/
def blankRanges : List (Nat × Nat) :=
  [(0x09, 0x0D), (0x20, 0x20), (0x85, 0x85), (0xA0, 0xA0), (0x1680, 0x1680), (0x2000, 0x200A),
    (0x2028, 0x2029), (0x202F, 0x202F), (0x205F, 0x205F), (0x3000, 0x3000)]

def isBlank (character : Char) : Bool :=
  blankRanges.any fun range => range.1 ≤ character.toNat && character.toNat ≤ range.2

def trimEnd (text : List Char) : List Char :=
  (text.reverse.dropWhile isBlank).reverse

def trimChars (text : List Char) : List Char :=
  trimEnd (text.dropWhile isBlank)

def trim (text : String) : String :=
  String.ofList (trimChars text.toList)

/-! ### Padding -/

theorem dropWhile_blank_append (padding text : List Char)
    (blank : ∀ character ∈ padding, isBlank character = true) :
    (padding ++ text).dropWhile isBlank = text.dropWhile isBlank := by
  induction padding with
  | nil => rfl
  | cons head tail ih =>
      have headBlank : isBlank head = true := blank head (by simp)
      have tailBlank : ∀ character ∈ tail, isBlank character = true :=
        fun character member => blank character (by simp [member])
      simp only [List.cons_append, List.dropWhile_cons, headBlank, if_true]
      exact ih tailBlank

theorem trimEnd_append_blank (text padding : List Char)
    (blank : ∀ character ∈ padding, isBlank character = true) :
    trimEnd (text ++ padding) = trimEnd text := by
  unfold trimEnd
  rw [List.reverse_append]
  rw [dropWhile_blank_append padding.reverse text.reverse
    (fun character member => blank character (by simpa using member))]

theorem trimChars_blank_append (padding text : List Char)
    (blank : ∀ character ∈ padding, isBlank character = true) :
    trimChars (padding ++ text) = trimChars text := by
  unfold trimChars
  rw [dropWhile_blank_append padding text blank]

theorem trimChars_append_blank (text padding : List Char)
    (blank : ∀ character ∈ padding, isBlank character = true) :
    trimChars (text ++ padding) = trimChars text := by
  unfold trimChars
  rw [List.dropWhile_append]
  split
  · rename_i allBlank
    rw [List.isEmpty_iff.mp allBlank]
    have nothing := dropWhile_blank_append padding [] blank
    rw [List.append_nil] at nothing
    rw [nothing]
    rfl
  · exact trimEnd_append_blank _ _ blank

theorem all_blank_dropWhile (text : List Char) :
    (text.dropWhile isBlank).all isBlank = text.all isBlank := by
  have visible := @List.any_dropWhile Char isBlank text
  rw [← List.not_all_eq_any_not] at visible
  exact Bool.not_inj visible

theorem all_blank_trimChars (text : List Char) :
    (trimChars text).all isBlank = text.all isBlank := by
  unfold trimChars trimEnd
  rw [List.all_reverse, all_blank_dropWhile, List.all_reverse, all_blank_dropWhile]

/-- Nothing is left of a text just when all of it is blank. -/
theorem trimChars_eq_nil_iff (text : List Char) :
    trimChars text = [] ↔ ∀ character ∈ text, isBlank character = true := by
  constructor
  · intro nothing
    have allBlank := all_blank_trimChars text
    rw [nothing] at allBlank
    exact List.all_eq_true.mp allBlank.symm
  · exact trimChars_append_blank [] text

theorem trimChars_eq_self (text : List Char)
    (first : ∀ character, text.head? = some character → isBlank character = false)
    (last : ∀ character, text.getLast? = some character → isBlank character = false) :
    trimChars text = text := by
  have kept : ∀ list : List Char,
      (∀ character, list.head? = some character → isBlank character = false) →
        list.dropWhile isBlank = list := by
    intro list notBlank
    cases list with
    | nil => rfl
    | cons head tail => simp [notBlank head rfl]
  unfold trimChars trimEnd
  rw [kept text first]
  rw [kept text.reverse (fun character isHead => last character (by simpa using isHead))]
  exact List.reverse_reverse text

/-! ### What is left -/

/-- No blank stands at either end of the text. -/
structure IsTrimmed (text : List Char) : Prop where
  first : ∀ character, text.head? = some character → isBlank character = false
  last : ∀ character, text.getLast? = some character → isBlank character = false

theorem isBlank_of_mem_takeWhile {text : List Char} {character : Char}
    (member : character ∈ text.takeWhile isBlank) : isBlank character = true :=
  List.all_eq_true.mp List.all_takeWhile character member

theorem not_isBlank_of_head?_dropWhile {text : List Char} {character : Char}
    (isFirst : (text.dropWhile isBlank).head? = some character) : isBlank character = false := by
  have kept := List.head?_dropWhile_not isBlank text
  rw [isFirst] at kept
  exact kept

/-- Only blanks are removed at the end. -/
theorem exists_trimEnd_append (text : List Char) :
    ∃ after, text = trimEnd text ++ after ∧ ∀ character ∈ after, isBlank character = true := by
  refine ⟨(text.reverse.takeWhile isBlank).reverse, ?_, ?_⟩
  · unfold trimEnd
    rw [← List.reverse_append, List.takeWhile_append_dropWhile, List.reverse_reverse]
  · intro character member
    exact isBlank_of_mem_takeWhile (List.mem_reverse.mp member)

/-- Only blanks are removed at both ends. -/
theorem exists_append_trimChars (text : List Char) :
    ∃ before after, text = before ++ trimChars text ++ after ∧
      (∀ character ∈ before, isBlank character = true) ∧
      ∀ character ∈ after, isBlank character = true := by
  obtain ⟨after, ended, afterBlank⟩ := exists_trimEnd_append (text.dropWhile isBlank)
  refine ⟨text.takeWhile isBlank, after, ?_, fun _ => isBlank_of_mem_takeWhile, afterBlank⟩
  calc
    text = text.takeWhile isBlank ++ text.dropWhile isBlank :=
      List.takeWhile_append_dropWhile.symm
    _ = text.takeWhile isBlank ++ (trimChars text ++ after) := congrArg _ ended
    _ = text.takeWhile isBlank ++ trimChars text ++ after := (List.append_assoc _ _ _).symm

theorem isTrimmed_trimChars (text : List Char) : IsTrimmed (trimChars text) := by
  constructor
  · intro character isFirst
    obtain ⟨after, ended, _⟩ := exists_trimEnd_append (text.dropWhile isBlank)
    have isFirstBehind : (text.dropWhile isBlank).head? = some character := by
      rw [ended, List.head?_append]
      exact congrArg (·.or after.head?) isFirst
    exact not_isBlank_of_head?_dropWhile isFirstBehind
  · intro character isLast
    unfold trimChars trimEnd at isLast
    rw [List.getLast?_reverse] at isLast
    exact not_isBlank_of_head?_dropWhile isLast

/-- A text is trimmed to the part of it that has only blanks around it and none at its own ends. -/
theorem trimChars_eq_iff (text trimmed : List Char) :
    trimChars text = trimmed ↔
      IsTrimmed trimmed ∧ ∃ before after, text = before ++ trimmed ++ after ∧
        (∀ character ∈ before, isBlank character = true) ∧
        ∀ character ∈ after, isBlank character = true := by
  constructor
  · intro same
    rw [← same]
    exact ⟨isTrimmed_trimChars text, exists_append_trimChars text⟩
  · intro parts
    obtain ⟨isTrimmed, before, after, written, beforeBlank, afterBlank⟩ := parts
    rw [written, trimChars_append_blank _ after afterBlank,
      trimChars_blank_append before _ beforeBlank]
    exact trimChars_eq_self trimmed isTrimmed.first isTrimmed.last

end KeyedQuery.Text
