import Mathlib.Data.List.Infix

/-!
# Patterns

A pattern is read as a function that takes its match off the front of a text and says what
stands in its place. A replacement goes through the text from left to right, and behind a
match it goes on with what the match left. A text is split at every occurrence of a word; put
together again with a marker between the pieces, it holds the word no longer.
-/

namespace Scan

variable {α : Type}

/-- What replaces a match at the front, and the text behind the match. -/
abbrev Pattern (α : Type) := List α → Option (List α × List α)

/-- Every match takes something, so the length of a text is fuel enough. -/
def replaceFrom (pattern : Pattern α) : Nat → List α → List α
  | 0, text => text
  | _ + 1, [] => []
  | fuel + 1, a :: rest =>
    match pattern (a :: rest) with
    | some (replacement, rest) => replacement ++ replaceFrom pattern fuel rest
    | none => a :: replaceFrom pattern fuel rest

def replaceAll (pattern : Pattern α) (text : List α) : List α :=
  replaceFrom pattern text.length text

/-- The pattern matches somewhere. -/
def containsMatch (pattern : Pattern α) (text : List α) : Bool :=
  text.tails.any fun suffix => (pattern suffix).isSome

/-- The text before and behind the first occurrence of a word. -/
def breakOn [BEq α] (word : List α) : List α → Option (List α × List α)
  | [] => if word.isEmpty then some ([], []) else none
  | a :: rest =>
    if word.isPrefixOf (a :: rest) then some ([], (a :: rest).drop word.length)
    else (breakOn word rest).map fun (before, behind) => (a :: before, behind)

theorem breakOn_eq_none [DecidableEq α] {word text : List α} (none_ : breakOn word text = none) :
    ¬word <:+: text := by
  induction text with
  | nil =>
    intro inside
    simp [breakOn, List.infix_nil.mp inside] at none_
  | cons a rest ih =>
    rw [breakOn] at none_
    split_ifs at none_ with front
    rw [Option.map_eq_none_iff] at none_
    rw [List.infix_cons_iff, not_or]
    exact ⟨fun begins => front (List.isPrefixOf_iff_prefix.mpr begins), ih none_⟩

theorem breakOn_eq_some [DecidableEq α] {word text before behind : List α}
    (nonempty : word ≠ []) (found : breakOn word text = some (before, behind)) :
    text = before ++ word ++ behind ∧ ¬word <:+: before := by
  induction text generalizing before with
  | nil => simp [breakOn, nonempty] at found
  | cons a rest ih =>
    rw [breakOn] at found
    split_ifs at found with front
    · obtain ⟨rfl, rfl⟩ : [] = before ∧ _ = behind := Prod.mk.inj (Option.some.inj found)
      obtain ⟨tail, split⟩ := List.isPrefixOf_iff_prefix.mp front
      refine ⟨?_, fun inside => nonempty (List.infix_nil.mp inside)⟩
      rw [← split, List.drop_left, List.nil_append]
    · obtain ⟨⟨first, _⟩, inner, same⟩ := Option.map_eq_some_iff.mp found
      obtain ⟨rfl, rfl⟩ := Prod.mk.inj same
      obtain ⟨whole, outside⟩ := ih inner
      refine ⟨by rw [whole]; rfl, ?_⟩
      rw [List.infix_cons_iff, not_or]
      refine ⟨fun begins => front (List.isPrefixOf_iff_prefix.mpr ?_), outside⟩
      rw [whole, List.append_assoc]
      exact begins.trans (List.prefix_append (a :: first) _)

/-- Every occurrence takes something, so the length of a text is fuel enough. -/
def splitFrom [BEq α] (word : List α) : Nat → List α → List (List α)
  | 0, text => [text]
  | fuel + 1, text =>
    match breakOn word text with
    | some (before, behind) => before :: splitFrom word fuel behind
    | none => [text]

/-- The pieces of the text between the occurrences of the word. -/
def split [BEq α] (word text : List α) : List (List α) := splitFrom word text.length text

theorem mem_splitFrom [DecidableEq α] {word : List α} (nonempty : word ≠ []) {fuel : Nat}
    {text piece : List α} (enough : text.length ≤ fuel) (member : piece ∈ splitFrom word fuel text) :
    piece <:+: text ∧ ¬word <:+: piece := by
  induction fuel generalizing text with
  | zero =>
    obtain rfl : text = [] := List.length_eq_zero_iff.mp (Nat.le_zero.mp enough)
    obtain rfl := List.mem_singleton.mp member
    exact ⟨List.infix_rfl, fun inside => nonempty (List.infix_nil.mp inside)⟩
  | succ fuel ih =>
    rw [splitFrom] at member
    cases found : breakOn word text with
    | none =>
      rw [found] at member
      obtain rfl := List.mem_singleton.mp member
      exact ⟨List.infix_rfl, breakOn_eq_none found⟩
    | some parts =>
      obtain ⟨before, behind⟩ := parts
      rw [found] at member
      obtain ⟨rfl, outside⟩ := breakOn_eq_some nonempty found
      rcases List.mem_cons.mp member with rfl | later
      · rw [List.append_assoc]
        exact ⟨(List.prefix_append _ _).isInfix, outside⟩
      · have taken : 0 < word.length := List.length_pos_iff.mpr nonempty
        have shorter : behind.length ≤ fuel := by
          simp only [List.length_append] at enough
          omega
        obtain ⟨inside, without⟩ := ih shorter later
        exact ⟨inside.trans (List.suffix_append _ _).isInfix, without⟩

theorem mem_split [DecidableEq α] {word text piece : List α} (nonempty : word ≠ [])
    (member : piece ∈ split word text) : piece <:+: text ∧ ¬word <:+: piece :=
  mem_splitFrom nonempty (Nat.le_refl _) member

theorem prefix_of_prefix_append_cons {w before behind : List α} {border : α} (avoids : border ∉ w)
    (begins : w <+: before ++ border :: behind) : w <+: before := by
  by_cases short : w.length ≤ before.length
  · exact List.prefix_of_prefix_length_le begins (List.prefix_append _ _) short
  · have across : before ++ [border] <+: w := by
      refine List.prefix_of_prefix_length_le ?_ begins ?_
      · exact ⟨behind, by rw [List.append_assoc]; rfl⟩
      · rw [List.length_append, List.length_singleton]
        omega
    exact absurd (across.subset (List.mem_append_right _ (List.mem_singleton_self border))) avoids

theorem infix_of_infix_append_cons {w before behind : List α} {border : α} (avoids : border ∉ w)
    (inside : w <:+: before ++ border :: behind) : w <:+: before ∨ w <:+: behind := by
  induction before with
  | nil =>
    rcases List.infix_cons_iff.mp inside with begins | later
    · have front : w <+: [] := prefix_of_prefix_append_cons avoids begins
      exact .inl front.isInfix
    · exact .inr later
  | cons a rest ih =>
    rcases List.infix_cons_iff.mp inside with begins | later
    · have front : w <+: a :: rest := prefix_of_prefix_append_cons avoids begins
      exact .inl front.isInfix
    · exact (ih later).imp (fun inner => List.infix_cons inner) id

theorem infix_of_infix_intercalate {w body : List α} {first last : α} (avoidsFirst : first ∉ w)
    (avoidsLast : last ∉ w) {pieces : List (List α)}
    (inside : w <:+: List.intercalate (first :: body ++ [last]) pieces) :
    (∃ piece ∈ pieces, w <:+: piece) ∨ w <:+: body := by
  induction pieces with
  | nil =>
    have empty : w = [] := by simpa [List.intercalate] using inside
    exact .inr (empty ▸ List.nil_infix)
  | cons piece rest ih =>
    cases rest with
    | nil =>
      have whole : w <:+: piece := by simpa [List.intercalate] using inside
      exact .inl ⟨piece, List.mem_singleton_self _, whole⟩
    | cons next rest =>
      have apart : w <:+: piece ++ first :: (body ++ last ::
          List.intercalate (first :: body ++ [last]) (next :: rest)) := by
        simpa [List.intercalate] using inside
      rcases infix_of_infix_append_cons avoidsFirst apart with here | behind
      · exact .inl ⟨piece, List.mem_cons_self, here⟩
      · rcases infix_of_infix_append_cons avoidsLast behind with within | later
        · exact .inr within
        · exact (ih later).imp (fun ⟨other, member, found⟩ =>
            ⟨other, List.mem_cons_of_mem _ member, found⟩) id

end Scan
