import Opslane.Lib.Scan

/-!
# First occurrences

The first occurrence of a word is where a text is cut. A word taken out at its first
occurrence and put back elsewhere gives the text again only where the two places differ by a
text that the word commutes with, and a word without a border commutes with its own copies
alone.
-/

namespace Scan

variable {α : Type}

structure FirstAt (word text before behind : List α) : Prop where
  split : text = before ++ word ++ behind
  first : ∀ earlier later, text = earlier ++ word ++ later → before.length ≤ earlier.length

theorem FirstAt.not_infix {word text before behind : List α} (nonempty : word ≠ [])
    (here : FirstAt word text before behind) : ¬word <:+: before := by
  rintro ⟨earlier, later, inside⟩
  have bound := here.first earlier (later ++ word ++ behind) (by rw [here.split, ← inside]; simp)
  have length := congrArg List.length inside
  have taken := List.length_pos_iff.mpr nonempty
  simp only [List.length_append] at length
  omega

theorem FirstAt.unique {word text before behind before' behind' : List α}
    (one : FirstAt word text before behind) (other : FirstAt word text before' behind') :
    before = before' ∧ behind = behind' := by
  have same : before.length = before'.length :=
    Nat.le_antisymm (one.first _ _ other.split) (other.first _ _ one.split)
  have split : before ++ (word ++ behind) = before' ++ (word ++ behind') := by
    rw [← List.append_assoc, ← one.split, other.split, List.append_assoc]
  obtain ⟨equal, rest⟩ := List.append_inj split same
  exact ⟨equal, (List.append_right_inj word).mp rest⟩

theorem breakOn_firstAt [DecidableEq α] {word text before behind : List α}
    (found : breakOn word text = some (before, behind)) : FirstAt word text before behind := by
  induction text generalizing before with
  | nil =>
    rw [breakOn] at found
    split_ifs at found with empty
    obtain ⟨rfl, rfl⟩ : [] = before ∧ [] = behind := Prod.mk.inj (Option.some.inj found)
    obtain rfl := List.isEmpty_iff.mp empty
    exact ⟨rfl, fun _ _ _ => Nat.zero_le _⟩
  | cons a rest ih =>
    rw [breakOn] at found
    split_ifs at found with front
    · obtain ⟨rfl, rfl⟩ : [] = before ∧ _ = behind := Prod.mk.inj (Option.some.inj found)
      obtain ⟨tail, split⟩ := List.isPrefixOf_iff_prefix.mp front
      refine ⟨?_, fun _ _ _ => Nat.zero_le _⟩
      rw [← split, List.drop_left, List.nil_append]
    · obtain ⟨⟨first, _⟩, inner, same⟩ := Option.map_eq_some_iff.mp found
      obtain ⟨rfl, rfl⟩ := Prod.mk.inj same
      have here := ih inner
      refine ⟨by rw [here.split]; rfl, ?_⟩
      intro earlier later whole
      cases earlier with
      | nil =>
        refine absurd (List.isPrefixOf_iff_prefix.mpr ⟨later, ?_⟩) front
        rw [whole, List.nil_append]
      | cons b earlier =>
        obtain ⟨-, whole⟩ := List.cons.inj whole
        exact Nat.succ_le_succ (here.first earlier later whole)

theorem breakOn_eq_some_iff [DecidableEq α] {word text before behind : List α} :
    breakOn word text = some (before, behind) ↔ FirstAt word text before behind := by
  refine ⟨breakOn_firstAt, fun here => ?_⟩
  cases found : breakOn word text with
  | none => exact absurd ⟨before, behind, here.split.symm⟩ (breakOn_eq_none found)
  | some parts =>
    obtain ⟨rfl, rfl⟩ := (breakOn_firstAt found).unique here
    rfl

theorem breakOn_eq_none_iff [DecidableEq α] {word text : List α} :
    breakOn word text = none ↔ ¬word <:+: text := by
  refine ⟨breakOn_eq_none, fun outside => ?_⟩
  cases found : breakOn word text with
  | none => rfl
  | some parts => exact absurd ⟨_, _, (breakOn_firstAt found).split.symm⟩ outside

/-- The place behind `head` and the place behind `before` cannot be told apart by the word. -/
def SamePlace (word before head : List α) : Prop :=
  ∃ between, head = before ++ between ∧ between ++ word = word ++ between

section
variable {word text before behind head rest : List α}

theorem FirstAt.samePlace (here : FirstAt word text before behind)
    (restored : text = head ++ word ++ rest) (removed : before ++ behind = head ++ rest) :
    SamePlace word before head := by
  have inside : before <+: head := by
    have whole : before <+: head ++ rest := ⟨behind, removed⟩
    exact List.prefix_of_prefix_length_le whole (List.prefix_append head rest)
      (here.first head rest restored)
  obtain ⟨between, rfl⟩ := inside
  refine ⟨between, rfl, ?_⟩
  obtain rfl : behind = between ++ rest := by
    simpa only [List.append_assoc, List.append_cancel_left_eq] using removed
  have both := restored.symm.trans here.split
  simp only [List.append_assoc, List.append_cancel_left_eq] at both
  simp only [← List.append_assoc] at both
  exact List.append_cancel_right both

theorem FirstAt.restored_iff (here : FirstAt word text before behind)
    (removed : before ++ behind = head ++ rest) :
    head ++ word ++ rest = text ↔ SamePlace word before head := by
  refine ⟨fun restored => here.samePlace restored.symm removed, ?_⟩
  rintro ⟨between, rfl, commutes⟩
  obtain rfl : behind = between ++ rest := by
    simpa only [List.append_assoc, List.append_cancel_left_eq] using removed
  calc before ++ between ++ word ++ rest
      = before ++ (between ++ word) ++ rest := by simp only [List.append_assoc]
    _ = before ++ (word ++ between) ++ rest := by rw [commutes]
    _ = text := by
        rw [here.split]
        simp only [List.append_assoc]

end

/-- No end of the word is a beginning of it. -/
def Unbordered (word : List α) : Prop :=
  ∀ front back, word = front ++ back → back <+: word → front = [] ∨ back = []

theorem unbordered_of_last {line : List α} {last : α} (fresh : last ∉ line) :
    Unbordered (line ++ [last]) := by
  intro front back split begins
  refine or_iff_not_imp_right.mpr fun nonempty => ?_
  rcases List.prefix_concat_iff.mp begins with whole | inner
  · have length := congrArg List.length (split.trans (congrArg (front ++ ·) whole))
    simp only [List.length_append] at length
    exact List.length_eq_zero_iff.mp (by omega)
  · have final : (front ++ back).getLast? = some last := by
      rw [← split, List.getLast?_append]
      rfl
    rw [List.getLast?_append_of_ne_nil _ nonempty] at final
    exact absurd (inner.subset (List.mem_of_getLast? final)) fresh

def copies (n : Nat) (word : List α) : List α := (List.replicate n word).flatten

theorem copies_commute (n : Nat) (word : List α) : copies n word ++ word = word ++ copies n word := by
  induction n with
  | zero => simp [copies]
  | succ n ih =>
    have step : copies (n + 1) word = word ++ copies n word := by
      rw [copies, List.replicate_succ, List.flatten_cons]
      rfl
    rw [step, List.append_assoc, ih]

theorem Unbordered.eq_copies {word : List α} (unbordered : Unbordered word) (nonempty : word ≠ [])
    (between : List α) (commutes : between ++ word = word ++ between) :
    ∃ n, between = copies n word := by
  by_cases short : between.length < word.length
  · have begins : between <+: word := by
      have whole : between <+: word ++ between := ⟨word, commutes⟩
      exact List.prefix_of_prefix_length_le whole (List.prefix_append word between) short.le
    obtain ⟨back, rfl⟩ := begins
    have turned : between ++ back = back ++ between := by
      simpa only [List.append_assoc, List.append_cancel_left_eq] using commutes
    refine ⟨0, ?_⟩
    rcases unbordered between back rfl ⟨between, turned.symm⟩ with none_ | rfl
    · exact none_
    · simp at short
  · have begins : word <+: between := by
      have whole : word <+: between ++ word := ⟨between, commutes.symm⟩
      exact List.prefix_of_prefix_length_le whole (List.prefix_append between word) (by omega)
    obtain ⟨rest, rfl⟩ := begins
    have taken := List.length_pos_iff.mpr nonempty
    have inner : rest ++ word = word ++ rest := by
      simpa only [List.append_assoc, List.append_cancel_left_eq] using commutes
    obtain ⟨n, rfl⟩ := unbordered.eq_copies nonempty rest inner
    exact ⟨n + 1, by rw [copies, copies, List.replicate_succ, List.flatten_cons]⟩
termination_by between.length
decreasing_by
  subst between
  rw [List.length_append]
  omega

theorem Unbordered.firstAt {word before : List α} (unbordered : Unbordered word)
    (outside : ¬word <:+: before) (behind : List α) :
    FirstAt word (before ++ word ++ behind) before behind where
  split := rfl
  first earlier later whole := by
    by_contra shorter
    have begins : earlier <+: before := by
      have front : before <+: before ++ word ++ behind := by
        rw [List.append_assoc]
        exact List.prefix_append before _
      have other : earlier <+: before ++ word ++ behind := by
        rw [whole, List.append_assoc]
        exact List.prefix_append earlier _
      exact List.prefix_of_prefix_length_le other front (by omega)
    obtain ⟨gap, rfl⟩ := begins
    have here : gap ++ (word ++ behind) = word ++ later := by
      simpa only [List.append_assoc, List.append_cancel_left_eq] using whole
    rcases List.append_eq_append_iff.mp here with ⟨back, split, rest⟩ | ⟨more, rfl, -⟩
    · -- The gap ends inside the word, and what is left of the word begins the next one.
      have border : back <+: word := by
        have ahead : back <+: word ++ behind := ⟨later, rest.symm⟩
        refine List.prefix_of_prefix_length_le ahead (List.prefix_append word behind) ?_
        rw [split, List.length_append]
        omega
      rcases unbordered gap back split border with rfl | rfl
      · simp at shorter
      · refine outside ⟨earlier, [], ?_⟩
        rw [split, List.append_nil, List.append_nil]
    · exact outside ⟨earlier, more, by rw [List.append_assoc]⟩

end Scan
