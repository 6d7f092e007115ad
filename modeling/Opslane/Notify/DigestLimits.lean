import Mathlib.Algebra.Order.BigOperators.Group.List
import Mathlib.Tactic.Linarith
import Opslane.Notify.SlackDigest

/-!
# What Slack accepts of a digest

Slack takes fifty blocks. A card with its context line, its buttons and a divider is four, so nine
of them leave room for the rest of schema 4 where receipts share the cap. Where they do not, five
receipts of three blocks each come on top, and a full digest is too long. Schema 5 gives its footer
the blocks that are left.
-/

namespace Opslane.Notify.SlackDigest

def Block.Within : Block → Prop
  | .header text => text.length ≤ headerMax
  | .section text | .context text => text.length ≤ sectionMax
  | .divider => True
  | .actions elements => ∀ button ∈ elements, button.text.length ≤ buttonMax

theorem length_truncate_le {max : Nat} (room : 0 < max) (value : String) :
    (truncate value max).length ≤ max := by
  unfold truncate
  split
  · assumption
  · rw [String.length_append, String.length_ofList, List.length_take]
    have one : ("…" : String).length = 1 := by rfl
    omega

theorem truncate_of_le {value : String} {max : Nat} (short : value.length ≤ max) :
    truncate value max = value := if_pos short

theorem within_digestSectionBlock (text : String) : (digestSectionBlock text).Within :=
  length_truncate_le (by decide) text

theorem within_digestContextBlock (text : String) : (digestContextBlock text).Within :=
  length_truncate_le (by decide) text

/-- Every block of the list is within its limit. -/
abbrev AllWithin (blocks : List Block) : Prop := ∀ block ∈ blocks, block.Within

theorem AllWithin.append {first second : List Block} (before : AllWithin first)
    (behind : AllWithin second) : AllWithin (first ++ second) :=
  List.forall_mem_append.mpr ⟨before, behind⟩

theorem AllWithin.nil : AllWithin [] := List.forall_mem_nil _

theorem AllWithin.single {block : Block} (within : block.Within) : AllWithin [block] :=
  List.forall_mem_singleton.mpr within

theorem AllWithin.cons {block : Block} {rest : List Block} (within : block.Within)
    (behind : AllWithin rest) : AllWithin (block :: rest) :=
  List.forall_mem_cons.mpr ⟨within, behind⟩

theorem AllWithin.ite {p : Prop} [Decidable p] {first second : List Block} (yes : AllWithin first)
    (no : AllWithin second) : AllWithin (if p then first else second) := by
  split
  · exact yes
  · exact no

theorem allWithin_withDividers {items : List (List Block)} (all : ∀ item ∈ items, AllWithin item) :
    AllWithin (withDividers items) := by
  induction items with
  | nil => exact .nil
  | cons item rest ih =>
    obtain ⟨first, later⟩ := List.forall_mem_cons.mp all
    cases rest with
    | nil => simpa [withDividers, List.intercalate] using first
    | cons next rest =>
      have split : withDividers (item :: next :: rest) =
          item ++ .divider :: withDividers (next :: rest) := by
        simp [withDividers, List.intercalate]
      rw [split]
      exact first.append (.cons trivial (ih later))

theorem length_withDividers (items : List (List Block)) :
    (withDividers items).length = (items.map List.length).sum + (items.length - 1) := by
  induction items with
  | nil => rfl
  | cons item rest ih =>
    cases rest with
    | nil => simp [withDividers, List.intercalate]
    | cons next rest =>
      have split : withDividers (item :: next :: rest) =
          item ++ .divider :: withDividers (next :: rest) := by
        simp [withDividers, List.intercalate]
      rw [split, List.length_append, List.length_cons, ih]
      simp only [List.map_cons, List.sum_cons, List.length_cons]
      omega

def one (p : Prop) [Decidable p] : Nat := if p then 1 else 0

theorem one_le (p : Prop) [Decidable p] : one p ≤ 1 := by
  unfold one
  split <;> decide

theorem one_congr {p q : Prop} [Decidable p] [Decidable q] (same : p ↔ q) : one p = one q :=
  if_congr same rfl rfl

theorem length_ite_single (p : Prop) [Decidable p] (block : Block) :
    (if p then [block] else []).length = one p := by
  unfold one
  split <;> rfl

section Counts

variable (prose : Prose) (payload : EventPayload) (digest : DigestPayload)

/-- The blocks of a card: its text, and the lines it has. -/
def cardSize (card : GeneratedDigestCard) : Nat :=
  1 + one (digestV4CardContext prose digest card ≠ "")
    + one (digestV4CardButtons prose payload card 0 ≠ [])

theorem digestV4CardButtons_eq_nil_iff (card : GeneratedDigestCard) (position : Nat) :
    digestV4CardButtons prose payload card position = [] ↔
      digestV4CardButtons prose payload card 0 = [] := by
  unfold digestV4CardButtons
  simp only [List.append_eq_nil_iff]
  refine and_congr (and_congr ?_ ?_) ?_ <;> (split <;> simp)

theorem length_digestV4CardBlocks (card : GeneratedDigestCard) (position : Nat) (leadIn : String) :
    (digestV4CardBlocks prose payload digest card position leadIn).length =
      cardSize prose payload digest card := by
  have same : one (digestV4CardButtons prose payload card position ≠ []) =
      one (digestV4CardButtons prose payload card 0 ≠ []) :=
    one_congr (not_congr (digestV4CardButtons_eq_nil_iff prose payload card position))
  unfold digestV4CardBlocks cardSize
  simp only [List.length_append, List.length_singleton, length_ite_single, same]

theorem lengths_digestV4Cards (leadIn : String) (first : Nat) (cards : List GeneratedDigestCard) :
    (digestV4Cards prose payload digest leadIn first cards).map List.length =
      cards.map (cardSize prose payload digest) := by
  unfold digestV4Cards
  rw [List.map_map]
  have sizes : (List.length ∘ fun (entry : GeneratedDigestCard × Nat) =>
      digestV4CardBlocks prose payload digest entry.1 entry.2 leadIn) =
      cardSize prose payload digest ∘ Prod.fst := by
    funext entry
    exact length_digestV4CardBlocks prose payload digest entry.1 entry.2 leadIn
  rw [sizes, ← List.map_map, List.zipIdx_map_fst]

/-- The blocks of a titled part: a title and the dividers make one more for each card. -/
def partSize (cards : List GeneratedDigestCard) : Nat :=
  (cards.map (cardSize prose payload digest)).sum + cards.length

theorem length_cardPart (title leadIn : String) (first : Nat) (cards : List GeneratedDigestCard) :
    (cardPart prose payload digest title leadIn first cards).length =
      partSize prose payload digest cards := by
  unfold cardPart partSize
  by_cases empty : cards = []
  · simp [empty]
  · have some_ : 0 < cards.length := List.length_pos_iff.mpr empty
    have count : (digestV4Cards prose payload digest leadIn first cards).length = cards.length := by
      simp [digestV4Cards]
    rw [if_neg empty, List.length_append, List.length_singleton, length_withDividers,
      lengths_digestV4Cards, count]
    omega

/-- The blocks under the decision title: a full receipt is two, a compact one is a line below a
title and a divider of their own. -/
def decisionSize (regular : List GeneratedDigestCard) (receipts : List RenderableReceipt) : Nat :=
  let full := (receipts.filter fun r => !isCompact r).length
  let compact := (receipts.filter isCompact).length
  partSize prose payload digest regular + 3 * full
    + (if compact = 0 then 0 else 2 + compact + one (regular.length + full = 0))

theorem length_decisionBlocks (regular : List GeneratedDigestCard)
    (receipts : List RenderableReceipt) :
    (decisionBlocks prose payload digest regular receipts).length =
      decisionSize prose payload digest regular receipts := by
  unfold decisionBlocks decisionSize partSize
  by_cases empty : regular = [] ∧ receipts = []
  · obtain ⟨rfl, rfl⟩ := empty
    rfl
  · have parts : (receipts.filter isCompact).length + (receipts.filter fun r => !isCompact r).length =
        receipts.length := (List.length_eq_length_filter_add isCompact).symm
    have some_ : 0 < regular.length + receipts.length := by
      rw [not_and_or] at empty
      rcases empty with regular_ | receipts_
      · have := List.length_pos_iff.mpr regular_
        omega
      · have := List.length_pos_iff.mpr receipts_
        omega
    have count : (digestV4Cards prose payload digest "Needs you" 0 regular).length =
        regular.length := by
      simp [digestV4Cards]
    have receiptSizes : (((receipts.filter fun r => !isCompact r).map
        (digestReceiptCardBlocks prose payload digest)).map List.length).sum =
        2 * (receipts.filter fun r => !isCompact r).length := by
      generalize (receipts.filter fun r => !isCompact r) = full
      induction full with
      | nil => rfl
      | cons r rest ih =>
        rw [List.map_cons, List.map_cons, List.sum_cons, ih, List.length_cons]
        have two : (digestReceiptCardBlocks prose payload digest r).length = 2 := rfl
        omega
    rw [if_neg empty]
    simp only [List.length_append, List.length_singleton, length_withDividers, List.map_append,
      List.sum_append, lengths_digestV4Cards, receiptSizes, count, List.length_map]
    by_cases none_ : receipts.filter isCompact = []
    · have zero : (receipts.filter isCompact).length = 0 := by rw [none_]; rfl
      rw [if_pos none_, if_pos zero, List.length_nil]
      omega
    · have positive := List.length_pos_iff.mpr none_
      rw [if_neg none_, if_neg (by omega)]
      unfold one
      simp only [List.length_append, List.length_cons, List.length_nil, List.length_map]
      split <;> omega

/-- The parts of a selection, counted. -/
def selectionSize (selection : V4Selection) : Nat :=
  decisionSize prose payload digest (selection.decisions.filter fun card => !isObservation card)
      selection.receipts
    + partSize prose payload digest (selection.decisions.filter isObservation)
    + partSize prose payload digest selection.fixes

def selectionOf : V4Selection :=
  if digest.unifiedCards then selectUnified digest else selectSeparate digest

/-- The lines that stand for themselves. -/
def lineSize : Nat :=
  one ((decisionCards digest).length + (renderableDigestReceipts digest).length
      + (fixCards digest).length = 0)
    + one (!digest.unifiedCards ∧ 0 < digest.receiptOverflow) + one (digest.deliveryAlert ≠ "")
    + one (0 < (selectionOf digest).overflow)

theorem length_formatSlackDigestV4 :
    (formatSlackDigestV4 prose payload digest).length =
      2 + lineSize digest + selectionSize prose payload digest (selectionOf digest) := by
  unfold formatSlackDigestV4 lineSize selectionSize selectionOf
  simp only [List.length_append, List.length_cons, List.length_nil, length_ite_single,
    length_decisionBlocks, length_cardPart]
  omega

theorem cardSize_le (card : GeneratedDigestCard) : cardSize prose payload digest card ≤ 3 := by
  have context := one_le (digestV4CardContext prose digest card ≠ "")
  have buttons := one_le (digestV4CardButtons prose payload card 0 ≠ [])
  unfold cardSize
  omega

theorem partSize_le (cards : List GeneratedDigestCard) :
    partSize prose payload digest cards ≤ 4 * cards.length := by
  have sum : (cards.map (cardSize prose payload digest)).sum ≤ cards.length * 3 := by
    refine (List.sum_le_card_nsmul _ 3 fun n member => ?_).trans_eq ?_
    · obtain ⟨card, -, rfl⟩ := List.mem_map.mp member
      exact cardSize_le prose payload digest card
    · simp
  unfold partSize
  omega

theorem selectionSize_le {selection : V4Selection}
    (capped : selection.decisions.length + selection.receipts.length + selection.fixes.length ≤
      digestV4CardCap) : selectionSize prose payload digest selection ≤ 40 := by
  have regular := partSize_le prose payload digest
    (selection.decisions.filter fun card => !isObservation card)
  have observed := partSize_le prose payload digest (selection.decisions.filter isObservation)
  have fixes := partSize_le prose payload digest selection.fixes
  have decisions := List.length_eq_length_filter_add isObservation (l := selection.decisions)
  have receipts := List.length_eq_length_filter_add isCompact (l := selection.receipts)
  have alone := one_le ((selection.decisions.filter fun card => !isObservation card).length
    + (selection.receipts.filter fun r => !isCompact r).length = 0)
  unfold digestV4CardCap at capped
  unfold selectionSize decisionSize
  dsimp only
  split <;> omega

theorem selectUnified_capped :
    (selectUnified digest).decisions.length + (selectUnified digest).receipts.length
      + (selectUnified digest).fixes.length ≤ digestV4CardCap := by
  unfold selectUnified
  simp only [List.length_take]
  omega

theorem lineSize_le : lineSize digest ≤ 4 := by
  unfold lineSize
  have first := one_le ((decisionCards digest).length + (renderableDigestReceipts digest).length
    + (fixCards digest).length = 0)
  have second := one_le (!digest.unifiedCards ∧ 0 < digest.receiptOverflow)
  have third := one_le (digest.deliveryAlert ≠ "")
  have fourth := one_le (0 < (selectionOf digest).overflow)
  omega

theorem allWithin_digestV4Cards (leadIn : String) (first : Nat) (cards : List GeneratedDigestCard) :
    ∀ item ∈ digestV4Cards prose payload digest leadIn first cards, AllWithin item := by
  intro item member
  obtain ⟨⟨card, position⟩, -, rfl⟩ := List.mem_map.mp member
  refine ((AllWithin.single (within_digestSectionBlock _)).append
    (.ite (.single (within_digestContextBlock _)) .nil)).append (.ite (.single ?_) .nil)
  intro button button_
  unfold digestV4CardButtons at button_
  simp only [List.mem_append] at button_
  rcases button_ with (replay | pr) | issue
  · split at replay
    · rw [List.mem_singleton.mp replay]
      exact length_truncate_le (by decide) _
    · cases replay
  · split at pr
    · rw [List.mem_singleton.mp pr]
      exact length_truncate_le (by decide) _
    · cases pr
  · split at issue
    · rw [List.mem_singleton.mp issue]
      exact length_truncate_le (by decide) _
    · cases issue

theorem allWithin_cardPart (title leadIn : String) (first : Nat) (cards : List GeneratedDigestCard) :
    AllWithin (cardPart prose payload digest title leadIn first cards) :=
  .ite .nil ((AllWithin.single (within_digestSectionBlock title)).append
    (allWithin_withDividers (allWithin_digestV4Cards prose payload digest leadIn first cards)))

theorem allWithin_decisionBlocks (regular : List GeneratedDigestCard)
    (receipts : List RenderableReceipt) :
    AllWithin (decisionBlocks prose payload digest regular receipts) := by
  refine .ite .nil (((AllWithin.single (within_digestSectionBlock _)).append
    (allWithin_withDividers fun item member => ?_)).append (.ite .nil ?_))
  · rcases List.mem_append.mp member with card | receipt
    · exact allWithin_digestV4Cards prose payload digest _ _ _ item card
    · obtain ⟨r, -, rfl⟩ := List.mem_map.mp receipt
      exact .cons (within_digestSectionBlock _) (.single (within_digestContextBlock _))
  · refine AllWithin.append (.cons trivial (.single (within_digestContextBlock _)))
      fun block member => ?_
    obtain ⟨r, -, rfl⟩ := List.mem_map.mp member
    exact within_digestContextBlock _

theorem allWithin_formatSlackDigestV4 : AllWithin (formatSlackDigestV4 prose payload digest) ↔
    (digestV4Summary prose digest.date
      ((decisionCards digest).length + (renderableDigestReceipts digest).length)
      (fixCards digest).length).length ≤ sectionMax := by
  constructor
  · intro all
    exact all (.context _) (by simp [formatSlackDigestV4])
  · intro short
    have top : AllWithin [digestHeader prose payload, .context (digestV4Summary prose digest.date
        ((decisionCards digest).length + (renderableDigestReceipts digest).length)
        (fixCards digest).length)] :=
      .cons (length_truncate_le (by decide) _) (.single short)
    have line : ∀ (p : Prop) [Decidable p] (text : String),
        AllWithin (if p then [digestContextBlock text] else []) := fun p _ text =>
      .ite (.single (within_digestContextBlock text)) .nil
    have none_ := AllWithin.ite (p := (decisionCards digest).length
      + (renderableDigestReceipts digest).length + (fixCards digest).length = 0)
      (.single (within_digestSectionBlock "Nothing needs your attention today.")) .nil
    exact ((((((top.append none_).append (allWithin_decisionBlocks prose payload digest _ _)).append
      (allWithin_cardPart prose payload digest _ _ _ _)).append (line _ _)).append (line _ _)).append
        (allWithin_cardPart prose payload digest _ _ _ _)).append (line _ _)

theorem length_digestV5CardBlocks_le (c : GeneratedDigestCard) (i : Nat) :
    (digestV5CardBlocks prose payload c i).length ≤ 3 := by
  have part : ∀ (p : Prop) [Decidable p] (block : Block),
      (if p then [] else [block]).length ≤ 1 ∧ (if p then [block] else []).length ≤ 1 := by
    intro p _ block
    split <;> simp
  unfold digestV5CardBlocks
  dsimp only
  rw [List.length_append, List.length_append]
  exact Nat.add_le_add (Nat.add_le_add (Nat.le_refl 1) (part _ _).1) (part _ _).2

theorem allWithin_digestV5CardBlocks (c : GeneratedDigestCard) (i : Nat) :
    AllWithin (digestV5CardBlocks prose payload c i) :=
  ((AllWithin.single (within_digestSectionBlock _)).append
    (.ite .nil (.single (within_digestContextBlock _)))).append
    (.ite (.single (List.forall_mem_singleton.mpr (length_truncate_le (by decide) _))) .nil)

theorem length_digestV5Top_le : (digestV5Top prose payload digest).length ≤ 37 := by
  unfold digestV5Top
  dsimp only
  simp only [List.length_append, List.length_cons, List.length_nil, length_withDividers]
  generalize cards_ : digest.generatedCards ++ digest.receiptItems.map receiptCard = cards
  have few : (cards.take digestV4CardCap).length ≤ 9 := List.length_take_le _ _
  have sum : (((cards.take digestV4CardCap).zipIdx.map fun entry =>
      digestV5CardBlocks prose payload entry.1 entry.2).map List.length).sum ≤
      (cards.take digestV4CardCap).length * 3 := by
    refine (List.sum_le_card_nsmul _ 3 fun n member => ?_).trans_eq ?_
    · obtain ⟨item, inside, rfl⟩ := List.mem_map.mp member
      obtain ⟨⟨card, i⟩, -, rfl⟩ := List.mem_map.mp inside
      exact length_digestV5CardBlocks_le prose payload card i
    · simp
  by_cases empty : cards = []
  · subst empty
    simp
  · rw [if_neg empty, List.length_map, List.length_zipIdx]
    rw [List.length_nil]
    omega

theorem allWithin_digestV5Top : AllWithin (digestV5Top prose payload digest) := by
  refine AllWithin.append (.append (.cons (length_truncate_le (by decide) _)
    (.single (within_digestContextBlock _))) (.ite (.single (within_digestSectionBlock _)) .nil))
    (allWithin_withDividers fun item member => ?_)
  obtain ⟨⟨card, i⟩, -, rfl⟩ := List.mem_map.mp member
  exact allWithin_digestV5CardBlocks prose payload card i

/-- A section of whole lines. -/
def linesSection (lines : List String) : Block := .section ("\n".intercalate lines)

/-- The sections hold the title and the lines of the merged requests, one each and in order, up to
one from which on they are counted. -/
def ListsMerged (merged : List DigestPRMerged) (sections : List (List String)) : Prop :=
  ∃ shown ≤ merged.length, sections.flatten =
    mergedTitle :: (merged.take shown).map (mergedLine prose) ++
      if shown = merged.length then [] else [mergedRest (merged.length - shown)]

theorem length_mergedRest_le {count : Nat} (fits : count < 2 ^ 63) :
    (mergedRest count).length ≤ 57 := by
  have digits : (toString count).length ≤ 19 :=
    (Nat.length_repr_le_iff (by decide)).mpr (Nat.lt_of_lt_of_le fits (by decide))
  have first : ("And " : String).length = 4 := by rfl
  have second : (" more merged PRs on the dashboard" : String).length = 33 := by rfl
  rw [mergedRest, String.length_append, String.length_append]
  omega

theorem intercalate_concat {lines : List String} (some_ : lines ≠ []) (line : String) :
    "\n".intercalate (lines ++ [line]) = "\n".intercalate lines ++ "\n" ++ line := by
  rw [String.intercalate_append_of_ne_nil some_ (by simp), String.intercalate_singleton]

theorem digestSectionBlock_lines {lines : List String}
    (short : ("\n".intercalate lines).length ≤ sectionMax) :
    digestSectionBlock ("\n".intercalate lines) = linesSection lines := by
  rw [digestSectionBlock, linesSection, truncate_of_le short]

theorem mergedFooterFrom_spec {budget : Int} (merged : List DigestPRMerged)
    (fits : merged.length < 2 ^ 63) (sections : List (List String)) (open_ : List String)
    (some_ : open_ ≠ []) (short : ("\n".intercalate open_).length ≤ footerMax)
    (room : (sections.length : Int) + 1 ≤ budget) :
    ∃ result : List (List String), mergedFooterFrom prose budget (sections.map linesSection)
        ("\n".intercalate open_) merged = result.map linesSection ∧
      (result.length : Int) ≤ budget ∧ ∃ shown ≤ merged.length,
        result.flatten = sections.flatten ++ open_ ++ (merged.take shown).map (mergedLine prose) ++
          if shown = merged.length then [] else [mergedRest (merged.length - shown)] := by
  have newline : ("\n" : String).length = 1 := by rfl
  induction merged generalizing sections open_ with
  | nil =>
    refine ⟨sections ++ [open_], ?_, ?_, 0, Nat.le_refl 0, ?_⟩
    · rw [mergedFooterFrom, digestSectionBlock_lines (short.trans (by decide)), List.map_append]
      rfl
    · simpa using room
    · simp
  | cons item rest ih =>
    have fits' : rest.length < 2 ^ 63 := by
      rw [List.length_cons] at fits
      omega
    rw [mergedFooterFrom]
    split
    · rename_i full
      split
      · have more := length_mergedRest_le fits
        rw [List.length_cons] at more
        refine ⟨sections ++ [open_ ++ [mergedRest (rest.length + 1)]], ?_, ?_, 0, Nat.zero_le _, ?_⟩
        · rw [← intercalate_concat some_, digestSectionBlock_lines, List.map_append]
          · rfl
          · rw [intercalate_concat some_, String.length_append, String.length_append, newline]
            unfold footerMax at short
            unfold sectionMax
            omega
        · simpa using room
        · simp
      · rename_i more
        rw [not_or] at more
        have closed : digestSectionBlock ("\n".intercalate open_) = linesSection open_ :=
          digestSectionBlock_lines (short.trans (by decide))
        obtain ⟨result, same, few, shown, inside, lines⟩ := ih fits' (sections ++ [open_])
          [mergedLine prose item] (by simp)
          (by rw [String.intercalate_singleton]; exact Nat.le_of_not_lt more.2)
          (by simp only [List.length_map, List.length_append, List.length_singleton] at more ⊢
              omega)
        refine ⟨result, ?_, few, shown + 1, Nat.succ_le_succ inside, ?_⟩
        · rw [closed, ← same, List.map_append, String.intercalate_singleton]
          rfl
        · rw [lines]
          simp
    · rename_i fitting
      obtain ⟨result, same, few, shown, inside, lines⟩ := ih fits' sections
        (open_ ++ [mergedLine prose item]) (by simp)
        (by rw [intercalate_concat some_, String.length_append, String.length_append, newline]
            omega) room
      refine ⟨result, ?_, few, shown + 1, Nat.succ_le_succ inside, ?_⟩
      · rw [← same, intercalate_concat some_]
      · rw [lines]
        simp

theorem allWithin_mergedFooterFrom (budget : Int) (merged : List DigestPRMerged) {blocks : List Block}
    (within : AllWithin blocks) (current : String) :
    AllWithin (mergedFooterFrom prose budget blocks current merged) := by
  induction merged generalizing blocks current with
  | nil => exact within.append (.single (within_digestSectionBlock _))
  | cons item rest ih =>
    rw [mergedFooterFrom]
    split
    · split
      · exact within.append (.single (within_digestSectionBlock _))
      · exact ih (within.append (.single (within_digestSectionBlock _))) _
    · exact ih within _

theorem allWithin_mergedFooter : AllWithin (mergedFooter prose payload digest) :=
  .ite .nil (allWithin_mergedFooterFrom prose _ _ .nil _)

theorem mergedFooterBlocks_spec {merged : List DigestPRMerged} (some_ : merged ≠ [])
    (fits : merged.length < 2 ^ 63) {budget : Int} (room : 1 ≤ budget) :
    ∃ sections : List (List String),
      mergedFooterBlocks prose merged budget = sections.map linesSection ∧
      (sections.length : Int) ≤ budget ∧ ListsMerged prose merged sections := by
  have title : "\n".intercalate [mergedTitle] = mergedTitle := String.intercalate_singleton
  obtain ⟨sections, same, few, shown, inside, lines⟩ := mergedFooterFrom_spec prose merged fits []
    [mergedTitle] (by simp) (by rw [title]; decide +kernel) (by simpa using room)
  refine ⟨sections, ?_, few, shown, inside, ?_⟩
  · rw [mergedFooterBlocks, if_neg (not_or.mpr ⟨some_, by omega⟩), ← same, title]
    rfl
  · rw [lines]
    rfl

/-- What a message must be: blocks that Slack takes, and of schema 5 a footer that leaves no merged
request out. -/
structure Deliverable (blocks : List Block) : Prop where
  few : blocks.length ≤ slackBlockMax
  within : AllWithin blocks
  merged : 5 ≤ digest.schemaVersion → digest.mergedThisWeek ≠ [] →
    ∃ (before behind : List Block) (sections : List (List String)),
      blocks = before ++ sections.map linesSection ++ behind ∧
        ListsMerged prose digest.mergedThisWeek sections

def noted : Prop :=
  payload.previewNote ≠ "" ∧ cleanProse prose payload.previewNote digestDetailMax ≠ ""
  deriving Decidable

/-- The blocks of a schema 4 digest without unified cards whose cards are within the cap. -/
def separateSize : Nat :=
  2 + one ((decisionCards digest).length + (renderableDigestReceipts digest).length
      + (fixCards digest).length = 0)
    + decisionSize prose payload digest ((decisionCards digest).filter fun card => !isObservation card)
        (renderableDigestReceipts digest)
    + partSize prose payload digest ((decisionCards digest).filter isObservation)
    + partSize prose payload digest (fixCards digest)
    + one (0 < digest.receiptOverflow) + one (digest.deliveryAlert ≠ "")
    + one (0 < digest.overflowCount) + one (noted prose payload)

/-- Schema 5 always fits. Schema 4 fits where its summary line is short and, without unified cards,
the cards and receipts are few. -/
def Fits : Prop :=
  5 ≤ digest.schemaVersion ∨
    ((digestV4Summary prose digest.date
        ((decisionCards digest).length + (renderableDigestReceipts digest).length)
        (fixCards digest).length).length ≤ sectionMax ∧
      (digest.unifiedCards ∨ separateSize prose payload digest ≤ slackBlockMax))
  deriving Decidable

variable {prose payload digest}

theorem length_cards_le (cards : digest.generatedCards.length ≤ digestV4CardCap) :
    (decisionCards digest).length + (fixCards digest).length ≤ digestV4CardCap := by
  refine Nat.le_trans ?_ cards
  have apart : (fixCards digest).length ≤
      (digest.generatedCards.filter fun card => !decide (card.outcome = "needs_human")).length := by
    refine (List.monotone_filter_right digest.generatedCards fun card fix => ?_).length_le
    rw [of_decide_eq_true fix]
    rfl
  have parts := List.length_eq_length_filter_add (l := digest.generatedCards)
    (fun card => decide (card.outcome = "needs_human"))
  unfold decisionCards
  omega

theorem selectSeparate_eq (cards : digest.generatedCards.length ≤ digestV4CardCap) :
    selectSeparate digest = ⟨decisionCards digest, renderableDigestReceipts digest, fixCards digest,
      max digest.overflowCount 0⟩ := by
  have few : (decisionCards digest ++ fixCards digest).length ≤ digestV4CardCap := by
    rw [List.length_append]
    exact length_cards_le cards
  have decisions : (decisionCards digest ++ fixCards digest).filter (·.outcome = "needs_human") =
      decisionCards digest := by
    unfold decisionCards fixCards
    rw [List.filter_append, List.filter_filter, List.filter_filter]
    simp only [Bool.and_self, List.append_right_eq_self]
    refine List.filter_eq_nil_iff.mpr fun card _ both => ?_
    rw [Bool.and_eq_true] at both
    have first := of_decide_eq_true both.1
    have second := of_decide_eq_true both.2
    exact absurd (first.symm.trans second) (by decide)
  have fixes : (decisionCards digest ++ fixCards digest).filter (·.outcome ≠ "needs_human") =
      fixCards digest := by
    unfold decisionCards fixCards
    rw [List.filter_append, List.filter_filter, List.filter_filter]
    have none_ : digest.generatedCards.filter (fun card =>
        decide (card.outcome ≠ "needs_human") && decide (card.outcome = "needs_human")) = [] := by
      refine List.filter_eq_nil_iff.mpr fun card _ both => ?_
      rw [Bool.and_eq_true] at both
      exact of_decide_eq_true both.1 (of_decide_eq_true both.2)
    rw [none_, List.nil_append]
    refine List.filter_congr fun card _ => ?_
    by_cases fix : card.outcome = "verified_fix"
    · rw [fix]
      decide
    · simp [fix]
  unfold selectSeparate
  dsimp only
  rw [List.take_of_length_le few, decisions, fixes, Int.sub_self]

theorem length_of_separate (cards : digest.generatedCards.length ≤ digestV4CardCap)
    (separate : digest.unifiedCards = false) :
    (formatSlackDigestV4 prose payload digest).length + one (noted prose payload) =
      separateSize prose payload digest := by
  have overflows : one (0 < max digest.overflowCount 0) = one (0 < digest.overflowCount) :=
    one_congr (by omega)
  have receipts : one (!digest.unifiedCards ∧ 0 < digest.receiptOverflow) =
      one (0 < digest.receiptOverflow) := one_congr (by simp [separate])
  rw [length_formatSlackDigestV4]
  unfold lineSize selectionOf separateSize selectionSize
  rw [receipts, separate]
  simp only [Bool.false_eq_true, if_false, selectSeparate_eq cards, overflows]
  omega

theorem length_of_unified (unified : digest.unifiedCards = true) :
    (formatSlackDigestV4 prose payload digest).length + 1 ≤ slackBlockMax := by
  have lines := lineSize_le digest
  have parts := selectionSize_le prose payload digest (selectUnified_capped digest)
  rw [length_formatSlackDigestV4]
  unfold selectionOf
  rw [if_pos unified]
  unfold slackBlockMax
  omega

theorem deliverable_formatSlackDigestV5 (note : List Block) (single : note.length ≤ 1)
    (absent : payload.previewNote = "" → note = []) (within : AllWithin note) :
    Deliverable prose digest (note ++ formatSlackDigestV5 prose payload digest) := by
  have top := length_digestV5Top_le prose payload digest
  have noteLength : (note.length : Int) ≤ if payload.previewNote ≠ "" then 1 else 0 := by
    by_cases empty : payload.previewNote = ""
    · rw [absent empty, empty]
      decide
    · rw [if_pos empty]
      exact_mod_cast single
  generalize alert_ : (if digest.deliveryAlert ≠ "" then
    [digestContextBlock (cleanProse prose digest.deliveryAlert 300)] else []) = alert
  have alertWithin : AllWithin alert :=
    alert_ ▸ .ite (.single (within_digestContextBlock _)) .nil
  have alertLength : (alert.length : Int) = if digest.deliveryAlert ≠ "" then 1 else 0 := by
    rw [← alert_]
    split <;> rfl
  have alertFew : (if digest.deliveryAlert ≠ "" then (1 : Int) else 0) ≤ 1 := by
    split <;> decide
  have noteFew : (if payload.previewNote ≠ "" then (1 : Int) else 0) ≤ 1 := by
    split <;> decide
  have all : AllWithin (note ++ formatSlackDigestV5 prose payload digest) := by
    unfold formatSlackDigestV5
    rw [alert_]
    exact within.append (((allWithin_digestV5Top prose payload digest).append
      (allWithin_mergedFooter prose payload digest)).append alertWithin)
  by_cases empty : digest.mergedThisWeek = []
  · have none_ : mergedFooter prose payload digest = [] := by
      rw [mergedFooter, mergedFooterBlocks, if_pos (.inl empty)]
    refine ⟨?_, all, fun _ some_ => absurd empty some_⟩
    unfold formatSlackDigestV5
    rw [none_, List.append_nil, alert_, List.length_append, List.length_append]
    unfold slackBlockMax
    omega
  · have room : (1 : Int) ≤ slackBlockMax - (digestV5Top prose payload digest).length
        - (if digest.deliveryAlert ≠ "" then 1 else 0)
        - (if payload.previewNote ≠ "" then 1 else 0) := by
      unfold slackBlockMax
      omega
    obtain ⟨sections, same, few, lists⟩ :=
      mergedFooterBlocks_spec prose empty digest.mergedFits room
    have footer : mergedFooter prose payload digest = sections.map linesSection := same
    have whole : note ++ formatSlackDigestV5 prose payload digest =
        (note ++ digestV5Top prose payload digest) ++ sections.map linesSection ++ alert := by
      unfold formatSlackDigestV5
      rw [footer, alert_]
      simp only [List.append_assoc]
    refine ⟨?_, all, fun _ _ => ⟨_, alert, sections, whole, lists⟩⟩
    rw [whole]
    simp only [List.length_append, List.length_map]
    omega

theorem formatSlackDigest_eq {older : EventPayload → DigestPayload → List Block}
    (found : payload.digest = some digest) (version : 4 ≤ digest.schemaVersion) :
    ∃ note : List Block, note.length = one (noted prose payload) ∧
      (payload.previewNote = "" → note = []) ∧ AllWithin note ∧
      formatSlackDigest prose older payload = .ok (note ++
        if 5 ≤ digest.schemaVersion then formatSlackDigestV5 prose payload digest
        else formatSlackDigestV4 prose payload digest) := by
  rw [formatSlackDigest, found]
  dsimp only
  rw [if_pos version]
  by_cases quiet : payload.previewNote = ""
  · refine ⟨[], ?_, fun _ => rfl, .nil, ?_⟩
    · exact (if_neg fun both => both.1 quiet).symm
    · rw [if_pos quiet]
      rfl
  · rw [if_neg quiet]
    by_cases clean : cleanProse prose payload.previewNote digestDetailMax = ""
    · refine ⟨[], ?_, fun _ => rfl, .nil, ?_⟩
      · exact (if_neg fun both => both.2 clean).symm
      · rw [if_pos clean]
        rfl
    · refine ⟨[digestContextBlock (cleanProse prose payload.previewNote digestDetailMax)], ?_,
        fun empty => absurd empty quiet, .single (within_digestContextBlock _), ?_⟩
      · exact (if_pos ⟨quiet, clean⟩).symm
      · rw [if_neg clean]
        rfl

/-- A digest with at most nine cards is deliverable exactly where it fits. -/
theorem deliverable_iff_fits (prose : Prose) (older : EventPayload → DigestPayload → List Block)
    (payload : EventPayload) (digest : DigestPayload) (blocks : List Block)
    (found : payload.digest = some digest) (version : 4 ≤ digest.schemaVersion)
    (cards : digest.generatedCards.length ≤ digestV4CardCap)
    (formatted : formatSlackDigest prose older payload = .ok blocks) :
    Deliverable prose digest blocks ↔ Fits prose payload digest := by
  obtain ⟨note, noteLength, absent, within, same⟩ :=
    @formatSlackDigest_eq prose payload digest older found version
  obtain rfl := Except.ok.inj (formatted.symm.trans same)
  have single : note.length ≤ 1 := noteLength.trans_le (one_le _)
  by_cases five : 5 ≤ digest.schemaVersion
  · rw [if_pos five]
    exact iff_of_true (deliverable_formatSlackDigestV5 note single absent within) (.inl five)
  · rw [if_neg five]
    have texts := allWithin_formatSlackDigestV4 prose payload digest
    unfold Fits
    rw [or_iff_right five]
    constructor
    · intro deliverable
      obtain ⟨few, all, -⟩ := deliverable
      refine ⟨texts.mp (List.forall_mem_append.mp all).2, ?_⟩
      cases unified : digest.unifiedCards with
      | true => exact .inl rfl
      | false =>
        rw [List.length_append, noteLength, Nat.add_comm, length_of_separate cards unified] at few
        exact .inr few
    · rintro ⟨short, room⟩
      refine ⟨?_, within.append (texts.mpr short), fun five_ => absurd five_ five⟩
      rw [List.length_append, noteLength, Nat.add_comm]
      cases unified : digest.unifiedCards with
      | true =>
        have fitting := @length_of_unified prose payload digest unified
        have := one_le (noted prose payload)
        omega
      | false =>
        rw [length_of_separate cards unified]
        exact room.resolve_left (by simp [unified])

end Counts

/-- Cleaning keeps plain texts as they are. -/
def plainProse : Prose where
  clean value := value
  redactURL raw := raw
  buildIncidentURL base id project := base ++ "/incidents/" ++ id ++ "?project_id=" ++ project
  calendarDate date := if date = "2026-08-27" then some "Aug 27" else none
  parseTime _ := none
  dayIn _ _ := ""

def checkoutCard : GeneratedDigestCard where
  incidentID := "i"
  kind := "error"
  title := "Checkout fails"
  outcome := "needs_human"
  copy := "Checkout stops before payment."
  action := "Decide how to handle this."
  affectedUsers := 2

def cartReceipt : ReceiptItem where
  kind := "error"
  incidentID := "r"
  title := "Cart is empty"
  occurrenceCount := 4
  receiptState := "report_ready"
  hasValidatedDiagnosis := true

def cardsAndReceipts (receipts : Nat) : DigestPayload where
  date := "2026-08-27"
  schemaVersion := 4
  generatedCards := List.replicate 9 checkoutCard
  receiptItems := List.replicate receipts cartReceipt

def shopPayload (digest : DigestPayload) : EventPayload where
  projectID := "p"
  projectName := "Shop"
  dashboardURL := "https://app.example"
  digest := some digest

theorem deliverable_fourReceipts : ∃ blocks,
    formatSlackDigest plainProse (fun _ _ => []) (shopPayload (cardsAndReceipts 4)) = .ok blocks ∧
      Deliverable plainProse (cardsAndReceipts 4) blocks :=
  ⟨_, rfl, (deliverable_iff_fits plainProse (fun _ _ => []) (shopPayload (cardsAndReceipts 4))
    (cardsAndReceipts 4) _ rfl (by decide) (by decide) rfl).mpr (by decide +kernel)⟩

def actionableReceiptCap : Nat := 5

/-- Nine cards and five receipts are fifty-three blocks. -/
theorem not_deliverable : ¬∀ (prose : Prose) (older : EventPayload → DigestPayload → List Block)
    (payload : EventPayload) (digest : DigestPayload) (blocks : List Block),
    payload.digest = some digest → 4 ≤ digest.schemaVersion →
    digest.generatedCards.length ≤ digestV4CardCap →
    digest.receiptItems.length ≤ actionableReceiptCap →
    formatSlackDigest prose older payload = .ok blocks → Deliverable prose digest blocks := by
  intro all
  obtain ⟨few, -, -⟩ := all plainProse (fun _ _ => []) (shopPayload (cardsAndReceipts 5)) _ _ rfl
    (by decide) (by decide) (by decide) rfl
  exact absurd few (by decide +kernel)

end Opslane.Notify.SlackDigest
