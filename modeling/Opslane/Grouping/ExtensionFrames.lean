import Opslane.Grouping.Suppress

/-!
# Extension frames

A stack is dropped as one of an extension where the first location of each of its lines is an
extension's. Two things are left open: a header that names a location counts as a frame, and a
line can name more than one location.
-/

namespace Opslane.Grouping

open GoStrings

/-- The schemes of all locations, behind the first letter of a scheme or not. -/
def locationsFrom : Bool → Bytes → List Bytes
  | _, [] => []
  | inside, b :: rest =>
    (if inside then [] else (locationAt (b :: rest)).toList) ++
      locationsFrom ((inside || isLetter b) && isSchemeByte b) rest

/-- The scheme of every location that occurs in a line. -/
def locations (line : Bytes) : List Bytes := locationsFrom false line

example : locations (Bytes.ascii "at f (moz-extension://a/b.js:1:2) https://a.com/c.js:3:4") =
    [Bytes.ascii "moz-extension", Bytes.ascii "https"] := by decide +kernel

theorem findSome?_locationAt (text : Bytes) :
    text.tails.findSome? locationAt = (locationsFrom false text).head? ∧
      (endsLocation (text.dropWhile isSchemeByte) = false →
        text.tails.findSome? locationAt = (locationsFrom true text).head?) := by
  induction text with
  | nil => exact ⟨rfl, fun _ => rfl⟩
  | cons b rest ih =>
    have next : isSchemeByte b = true → (b :: rest).dropWhile isSchemeByte = rest.dropWhile isSchemeByte :=
      fun scheme => List.dropWhile_cons_of_pos scheme
    rw [List.tails_cons, List.findSome?_cons, locationsFrom, locationsFrom]
    refine ⟨?_, fun fails => ?_⟩
    · rw [if_neg (by simp)]
      cases here : locationAt (b :: rest) with
      | some scheme => rfl
      | none =>
        rw [Option.toList_none, List.nil_append, Bool.false_or]
        by_cases letter : isLetter b = true
        · have scheme : isSchemeByte b = true := by simp [isSchemeByte, letter]
          have fails : endsLocation ((b :: rest).dropWhile isSchemeByte) = false := by
            simpa [locationAt, letter] using here
          rw [letter, scheme]
          exact ih.2 (by rwa [next scheme] at fails)
        · rw [Bool.not_eq_true] at letter
          rw [letter]
          exact ih.1
    · have here : locationAt (b :: rest) = none := by
        rw [locationAt, fails, Bool.and_false, if_neg (by simp)]
      rw [here, if_pos rfl, List.nil_append, Bool.true_or, Bool.true_and]
      cases scheme : isSchemeByte b with
      | true => exact ih.2 (by rwa [next scheme] at fails)
      | false => exact ih.1

theorem frameScheme_eq (line : Bytes) : frameScheme line = (locations line).head? :=
  (findSome?_locationAt line).1

/-- The leading header. -/
def header (stack : Bytes) : Option Bytes := (stackLines stack).head?.filter (isErrorHeader ·)

/-- The lines but the leading header. -/
def body (stack : Bytes) : List Bytes :=
  match stackLines stack with
  | [] => []
  | first :: rest => if isErrorHeader first then rest else first :: rest

/-- What the claim says of one event. -/
def FailsClosed (platform errorMessage stack : Bytes) : Prop :=
  suppress platform errorMessage stack = some .extensionOnly →
    (∃ line ∈ body stack, (locations line).length ≠ 0) ∧
    (∀ line ∈ body stack, (locations line).length ≠ 0) ∧
    ∀ line ∈ body stack, ∀ scheme ∈ locations line, isExtension scheme

/-- The first location of a line is an extension's. -/
def startsInExtension (line : Bytes) : Bool := (frameScheme line).any isExtension

/-- Another platform, the message of another rule, or a line that the rule does not know. -/
def KeptOtherwise (platform errorMessage stack : Bytes) : Prop :=
  platform ≠ Bytes.ascii "javascript" ∨ isResizeObserver errorMessage ∨
    isScriptError errorMessage stack ∨ (∃ line ∈ body stack, startsInExtension line = false) ∨
    ∃ line, header stack = some line ∧ frameScheme line ≠ none ∧ startsInExtension line = false

/-- A header that stands alone names no location, and behind the first location of each other line
there are only an extension's. -/
def NothingHidden (stack : Bytes) : Prop :=
  (body stack = [] → ∀ line, header stack = some line → frameScheme line = none) ∧
    ∀ line ∈ body stack, ∀ scheme ∈ (locations line).tail, isExtension scheme

theorem classifyFrom_false (ls : List Bytes) (found : List Bytes × Nat) :
    classifyFrom false ls found =
      (found.1 ++ ls.filterMap fun line => (frameScheme line).map (·.map lower),
        found.2 + (ls.filter fun line => (frameScheme line).isNone).length) := by
  induction ls generalizing found with
  | nil => simp [classifyFrom]
  | cons line rest ih =>
    rw [classifyFrom, ih]
    cases read : frameScheme line with
    | none => simp [classifyLine, read, Nat.add_assoc, Nat.add_comm 1]
    | some scheme => simp [classifyLine, read]

theorem classifyStackLines_eq (stack : Bytes) :
    classifyStackLines stack =
      ((((header stack).toList ++ body stack).filterMap fun line => (frameScheme line).map (·.map lower)),
        ((body stack).filter fun line => (frameScheme line).isNone).length) := by
  rw [classifyStackLines, header, body]
  cases stackLines stack with
  | nil => rfl
  | cons first rest =>
    rw [classifyFrom, classifyFrom_false]
    cases leading : isErrorHeader first with
    | true => cases read : frameScheme first <;> simp [classifyLine, read, leading, Option.filter]
    | false =>
      cases read : frameScheme first <;>
        simp [classifyLine, read, leading, Option.filter, Nat.add_comm]

theorem startsInExtension_iff (line : Bytes) :
    startsInExtension line = true ↔ ∃ scheme, frameScheme line = some scheme ∧ isExtension scheme = true :=
  Option.any_eq_true _ _

theorem suppress_extensionOnly_iff (platform errorMessage stack : Bytes) :
    suppress platform errorMessage stack = some .extensionOnly ↔
      ¬KeptOtherwise platform errorMessage stack ∧
        ∃ line ∈ (header stack).toList ++ body stack, frameScheme line ≠ none := by
  unfold suppress KeptOtherwise
  by_cases javascript : platform = Bytes.ascii "javascript"
  · rw [if_neg (not_not.mpr javascript)]
    cases observer : isResizeObserver errorMessage with
    | true => simp
    | false =>
      cases script : isScriptError errorMessage stack with
      | true => simp
      | false =>
        rw [classifyStackLines_eq]
        dsimp only
        have unread : ((body stack).filter fun line => (frameScheme line).isNone).length ≠ 0 ↔
            ∃ line ∈ body stack, frameScheme line = none := by
          simp [List.filter_eq_nil_iff]
        have schemes : (((header stack).toList ++ body stack).filterMap
            fun line => (frameScheme line).map (·.map lower)).length = 0 ↔
              ¬∃ line ∈ (header stack).toList ++ body stack, frameScheme line ≠ none := by
          simp [List.filterMap_eq_nil_iff, or_imp, forall_and]
        have all : (((header stack).toList ++ body stack).filterMap
            fun line => (frameScheme line).map (·.map lower)).all (· ∈ extensionSchemes) = true ↔
              ∀ line ∈ (header stack).toList ++ body stack, frameScheme line ≠ none →
                startsInExtension line = true := by
          rw [List.all_eq_true]
          constructor
          · intro inside line member read
            obtain ⟨scheme, found⟩ := Option.ne_none_iff_exists'.mp read
            refine (startsInExtension_iff line).mpr ⟨scheme, found, ?_⟩
            exact inside _ (List.mem_filterMap.mpr ⟨line, member, by rw [found]; rfl⟩)
          · intro inside lowered member
            obtain ⟨line, present, found⟩ := List.mem_filterMap.mp member
            obtain ⟨scheme, read, rfl⟩ := Option.map_eq_some_iff.mp found
            obtain ⟨scheme', read', extension⟩ :=
              (startsInExtension_iff line).mp (inside line present (by rw [read]; nofun))
            rw [read] at read'
            cases read'
            exact extension
        simp only [Bool.false_eq_true, if_false, false_or, javascript, ne_eq, not_true_eq_false]
        constructor
        · intro dropped
          split at dropped
          · cases dropped
          · rename_i read
            rw [not_or, schemes, not_not] at read
            split at dropped
            · rename_i inside
              have inside := all.mp inside
              refine ⟨?_, read.1⟩
              rintro (⟨line, member, fails⟩ | ⟨line, leading, some_, fails⟩)
              · have known : frameScheme line ≠ none := fun none_ =>
                  read.2 (unread.mpr ⟨line, member, none_⟩)
                rw [inside line (List.mem_append_right _ member) known] at fails
                cases fails
              · rw [inside line (List.mem_append_left _ (by rw [leading]; simp)) some_] at fails
                cases fails
            · cases dropped
        · rintro ⟨none_, some_⟩
          rw [not_or] at none_
          have extension : ∀ line ∈ (header stack).toList ++ body stack, frameScheme line ≠ none →
              startsInExtension line = true := by
            intro line member read
            by_contra fails
            rw [Bool.not_eq_true] at fails
            rcases List.mem_append.mp member with leading | rest
            · exact none_.2 ⟨line, Option.mem_toList.mp leading, read, fails⟩
            · exact none_.1 ⟨line, rest, fails⟩
          have known : ¬∃ line ∈ body stack, frameScheme line = none := by
            rintro ⟨line, member, missing⟩
            exact none_.1 ⟨line, member, by rw [startsInExtension, missing]; rfl⟩
          rw [if_neg (not_or.mpr ⟨by rw [schemes]; exact not_not.mpr some_, fun unparsed =>
            known (unread.mp unparsed)⟩), if_pos (all.mpr extension)]
  · rw [if_pos javascript]
    simp [javascript]

/-- A dropped event has a frame beside a leading header, only frames behind it and no location but an
extension's, if and only if it is kept otherwise or nothing of its stack is hidden. -/
theorem failsClosed_iff (platform errorMessage stack : Bytes) :
    FailsClosed platform errorMessage stack ↔
      KeptOtherwise platform errorMessage stack ∨ NothingHidden stack := by
  have first (line : Bytes) : (locations line).length ≠ 0 ↔ frameScheme line ≠ none := by
    rw [frameScheme_eq]
    cases locations line <;> simp
  rw [FailsClosed, suppress_extensionOnly_iff]
  constructor
  · intro closed
    by_cases kept : KeptOtherwise platform errorMessage stack
    · exact Or.inl kept
    · refine Or.inr ⟨fun none_ line leading => ?_, fun line member scheme later => ?_⟩
      · by_contra read
        obtain ⟨⟨line', member, -⟩, -⟩ := closed ⟨kept, line, by rw [leading]; simp, read⟩
        rw [none_] at member
        cases member
      · have starts : startsInExtension line = true := by
          by_contra fails
          rw [Bool.not_eq_true] at fails
          exact kept (Or.inr (Or.inr (Or.inr (Or.inl ⟨line, member, fails⟩))))
        obtain ⟨scheme', read, -⟩ := (startsInExtension_iff line).mp starts
        obtain ⟨-, -, all⟩ := closed ⟨kept, line, List.mem_append_right _ member, by rw [read]; nofun⟩
        exact all line member scheme (List.mem_of_mem_tail later)
  · rintro possible ⟨notKept, line, member, read⟩
    obtain ⟨alone, later⟩ := possible.resolve_left notKept
    have starts : ∀ line ∈ body stack, ∃ scheme, frameScheme line = some scheme ∧
        isExtension scheme = true := by
      intro line member
      rw [← startsInExtension_iff]
      by_contra fails
      rw [Bool.not_eq_true] at fails
      exact notKept (Or.inr (Or.inr (Or.inr (Or.inl ⟨line, member, fails⟩))))
    have frames : ∀ line ∈ body stack, (locations line).length ≠ 0 := by
      intro line member
      obtain ⟨scheme, read, -⟩ := starts line member
      rw [first, read]
      nofun
    refine ⟨?_, frames, fun line member scheme occurs => ?_⟩
    · cases rest : body stack with
      | nil =>
        rw [rest, List.append_nil] at member
        exact absurd (alone rest line (Option.mem_toList.mp member)) read
      | cons line' more =>
        exact ⟨line', List.mem_cons_self, frames line' (by rw [rest]; exact List.mem_cons_self)⟩
    · obtain ⟨scheme', read, extension⟩ := starts line member
      rw [frameScheme_eq] at read
      obtain ⟨more, all⟩ := List.head?_eq_some_iff.mp read
      have behind := later line member scheme
      rw [all] at occurs behind
      rcases List.mem_cons.mp occurs with rfl | further
      · exact extension
      · exact behind further

/-- A header that names a location of an extension, with no frame behind it. -/
theorem not_failsClosed : ¬∀ platform errorMessage stack : Bytes,
    FailsClosed platform errorMessage stack := by
  intro closed
  have dropped := closed (Bytes.ascii "javascript") (Bytes.ascii "boom")
    (Bytes.ascii "TypeError: boom at chrome-extension://abcdef/content.js:10:5") (by decide +kernel)
  obtain ⟨⟨line, member, -⟩, -⟩ := dropped
  revert member
  have none_ : body (Bytes.ascii "TypeError: boom at chrome-extension://abcdef/content.js:10:5") = [] := by
    decide +kernel
  rw [none_]
  exact nofun

end Opslane.Grouping
