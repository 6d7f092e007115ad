import Mathlib.Data.List.Count
import Opslane.Lib.Occurrence
import Opslane.Sdk.StampLines

/-!
# Reversing a stamp

A chunk that was stamped by another build is unstamped before it is stamped again: the
trailer goes, and the prelude goes at its first occurrence. A prologue that shared its line
with code was written twice, and one of the two stays; a chunk that held the text of a
prelude already may lose that one.
-/

namespace Opslane.Sdk.Stamp

open CodeUnits Scan

/-- `prelude.split(DEBUG_ID_PLACEHOLDER).join(debugId)` -/
def Prelude.stamped (p : Prelude) (debugId : CodeUnits) : CodeUnits :=
  p.statement debugId ++ [newline]

def candidates (format : Option String) : List Prelude :=
  (preludeForFormat format).toList ++ [Prelude.esm, Prelude.script]

structure Unstamped where
  code : CodeUnits
  prelude : Prelude
  deriving DecidableEq

def unstamp (code debugId : CodeUnits) (format : Option String) : Option Unstamped :=
  let trailer := newline :: trailer debugId
  if trailer.isSuffixOf code then
    let body := code.take (code.length - trailer.length)
    (candidates format).findSome? fun prelude =>
      (breakOn (prelude.stamped debugId) body).map fun (before, behind) =>
        { code := before ++ behind, prelude }
  else none

def firstCandidate (format : Option String) : Prelude := (preludeForFormat format).getD .esm

/-- The trailer ends the text, and before it stands the prelude, first at this place; the
candidate tried before it does not stand there at all. -/
structure Found (text debugId : CodeUnits) (format : Option String) (p : Prelude)
    (before behind : CodeUnits) : Prop where
  split : text = before ++ p.stamped debugId ++ behind ++ newline :: trailer debugId
  first : FirstAt (p.stamped debugId) (before ++ p.stamped debugId ++ behind) before behind
  preferred : firstCandidate format ≠ p →
    ¬(firstCandidate format).stamped debugId <:+: before ++ p.stamped debugId ++ behind

theorem findSome?_candidates {β : Type} (format : Option String) (found : Prelude → Option β)
    (result : β) :
    (candidates format).findSome? found = some result ↔
      ∃ p, found p = some result ∧
        (firstCandidate format ≠ p → found (firstCandidate format) = none) := by
  have either : ∀ P : Prelude → Prop, (∃ p, P p) ↔ P .esm ∨ P .script := by
    refine fun P => ⟨?_, ?_⟩
    · rintro ⟨p, holds⟩
      cases p
      · exact .inl holds
      · exact .inr holds
    · rintro (holds | holds)
      · exact ⟨_, holds⟩
      · exact ⟨_, holds⟩
  rw [either, candidates, firstCandidate]
  cases preludeForFormat format with
  | none => cases esm : found .esm <;> simp [esm]
  | some p =>
    cases p <;> cases esm : found .esm <;> cases script : found .script <;> simp [esm, script]

theorem unstamp_eq_some_iff (text debugId : CodeUnits) (format : Option String) (r : Unstamped) :
    unstamp text debugId format = some r ↔
      ∃ before behind, Found text debugId format r.prelude before behind
        ∧ r.code = before ++ behind := by
  have none_iff : ∀ (body : CodeUnits) (q : Prelude),
      (breakOn (q.stamped debugId) body).map (fun (before, behind) =>
        ({ code := before ++ behind, prelude := q } : Unstamped)) = none
      ↔ ¬q.stamped debugId <:+: body := by
    intro body q
    rw [Option.map_eq_none_iff, breakOn_eq_none_iff]
  have ending : ∀ body : CodeUnits, (body ++ newline :: trailer debugId).take
      ((body ++ newline :: trailer debugId).length - (newline :: trailer debugId).length) = body := by
    intro body
    rw [List.length_append, Nat.add_sub_cancel, List.take_left]
  unfold unstamp
  constructor
  · intro unstamped
    dsimp only at unstamped
    split_ifs at unstamped with ends
    obtain ⟨body, rfl⟩ := List.isSuffixOf_iff_suffix.mp ends
    rw [ending, findSome?_candidates] at unstamped
    obtain ⟨p, taken, preferred⟩ := unstamped
    obtain ⟨⟨before, behind⟩, cut, rfl⟩ := Option.map_eq_some_iff.mp taken
    have first := breakOn_firstAt cut
    obtain rfl := first.split
    exact ⟨before, behind, ⟨rfl, first, fun other => (none_iff _ _).mp (preferred other)⟩, rfl⟩
  · rintro ⟨before, behind, found, code⟩
    obtain rfl := found.split
    have ends : (newline :: trailer debugId).isSuffixOf
        (before ++ r.prelude.stamped debugId ++ behind ++ newline :: trailer debugId) = true :=
      List.isSuffixOf_iff_suffix.mpr (List.suffix_append _ _)
    dsimp only
    rw [if_pos ends, ending, findSome?_candidates]
    refine ⟨r.prelude, ?_, fun other => (none_iff _ _).mpr (found.preferred other)⟩
    rw [breakOn_eq_some_iff.mpr found.first, Option.map_some, ← code]

theorem unbordered_stamped (p : Prelude) (f : Fingerprint) : Unbordered (p.stamped f.debugId) :=
  unbordered_of_last (newline_not_mem_statement p f)

theorem stamped_ne_nil (p : Prelude) (debugId : CodeUnits) : p.stamped debugId ≠ [] := by
  simp [Prelude.stamped]

theorem length_stamped_inj {p q : Prelude} (debugId : CodeUnits)
    (same : (p.stamped debugId).length = (q.stamped debugId).length) : p = q := by
  have keys : p.key.length = q.key.length := by
    simp only [Prelude.stamped, Prelude.statement, List.length_append] at same
    omega
  have apart : Prelude.esm.key.length ≠ Prelude.script.key.length := by
    rw [Prelude.key, Prelude.key, codeUnits_ofList, codeUnits_ofList]
    decide +kernel
  cases p <;> cases q
  · rfl
  · exact absurd keys apart
  · exact absurd keys.symm apart
  · rfl

theorem count_stamped (p : Prelude) (f : Fingerprint) :
    (p.stamped f.debugId).count newline = 1 := by
  rw [Prelude.stamped, List.count_append,
    List.count_eq_zero_of_not_mem (newline_not_mem_statement p f)]
  rfl

theorem stampCode_of_endsLine {code : CodeUnits} (ends : EndsLine code) (p : Prelude)
    (debugId : CodeUnits) :
    stampCode code p debugId = (shebang code ++ prologue code) ++ p.stamped debugId ++ body code
      ++ newline :: trailer debugId := by
  rw [stampCode, preludeInsertion_of_endsLine ends]
  rfl

theorem stampCode_of_not_endsLine {code : CodeUnits} (shared : ¬EndsLine code) (p : Prelude)
    (debugId : CodeUnits) :
    stampCode code p debugId = (shebang code ++ prologue code ++ [newline]) ++ p.stamped debugId
      ++ (prologue code ++ body code) ++ newline :: trailer debugId := by
  rw [stampCode, preludeInsertion_of_not_endsLine shared, ← drop_shebangEnd]
  rfl

/-- The prelude behind the prologue is the one that is found, but for copies of it that end
the prologue. -/
structure Recoverable (code : CodeUnits) (p : Prelude) (debugId : CodeUnits)
    (format : Option String) : Prop where
  endsLine : EndsLine code
  clear : ∃ before n, shebang code ++ prologue code = before ++ copies n (p.stamped debugId) ∧
    ¬p.stamped debugId <:+: before
  preferred : firstCandidate format ≠ p → ¬(firstCandidate format).stamped debugId <:+:
    shebang code ++ prologue code ++ p.stamped debugId ++ body code

/-- The text is the stamp of what stands around the prelude that is found. -/
structure Reinserted (p : Prelude) (debugId before behind : CodeUnits) : Prop where
  endsLine : EndsLine (before ++ behind)
  samePlace : SamePlace (p.stamped debugId) before
    (shebang (before ++ behind) ++ prologue (before ++ behind))

theorem count_lt_of_not_endsLine {code before behind : CodeUnits} {p q : Prelude} {f : Fingerprint}
    {format : Option String} (shared : ¬EndsLine code)
    (found : Found (stampCode code p f.debugId) f.debugId format q before behind) :
    code.count newline < (before ++ behind).count newline := by
  have original := congrArg (List.count newline) (code_eq code)
  have stamped := congrArg (List.count newline) found.split
  rw [stampCode_of_not_endsLine shared] at stamped
  simp only [List.count_append, count_stamped, List.count_singleton_self] at original stamped ⊢
  omega

theorem unstamp_stampCode_iff (code : CodeUnits) (p : Prelude) (f : Fingerprint)
    (format : Option String) :
    (unstamp (stampCode code p f.debugId) f.debugId format).map Unstamped.code = some code
      ↔ Recoverable code p f.debugId format := by
  constructor
  · intro unstamped
    obtain ⟨r, taken, same⟩ := Option.map_eq_some_iff.mp unstamped
    obtain ⟨before, behind, found, joined⟩ := (unstamp_eq_some_iff _ _ _ _).mp taken
    have removed : before ++ behind = code := joined.symm.trans same
    have ends : EndsLine code := by
      by_contra shared
      have more := count_lt_of_not_endsLine shared found
      rw [removed] at more
      exact Nat.lt_irrefl _ more
    have split := found.split
    rw [stampCode_of_endsLine ends] at split
    replace split := List.append_cancel_right split
    have whole : code = shebang code ++ prologue code ++ body code := by
      rw [List.append_assoc, ← code_eq]
    have kind : r.prelude = p := by
      apply length_stamped_inj f.debugId
      have stamped := congrArg List.length split
      have original := congrArg List.length (removed.trans whole)
      simp only [List.length_append] at stamped original
      omega
    rw [kind] at found split
    obtain ⟨between, place, commutes⟩ :=
      found.first.samePlace split.symm (removed.trans whole)
    obtain ⟨n, rfl⟩ := (unbordered_stamped p f).eq_copies (stamped_ne_nil p _) between commutes
    refine ⟨ends, ⟨before, n, place, found.first.not_infix (stamped_ne_nil p _)⟩, ?_⟩
    rw [split]
    exact found.preferred
  · rintro ⟨ends, ⟨before, n, place, clear⟩, preferred⟩
    have stamped : shebang code ++ prologue code ++ p.stamped f.debugId ++ body code
        = before ++ p.stamped f.debugId ++ (copies n (p.stamped f.debugId) ++ body code) := by
      rw [place, List.append_assoc before, copies_commute]
      simp only [List.append_assoc]
    have found : Found (stampCode code p f.debugId) f.debugId format p before
        (copies n (p.stamped f.debugId) ++ body code) := by
      refine ⟨?_, (unbordered_stamped p f).firstAt clear _, ?_⟩
      · rw [stampCode_of_endsLine ends, stamped]
      · rw [← stamped]
        exact preferred
    have taken : unstamp (stampCode code p f.debugId) f.debugId format
        = some ⟨before ++ (copies n (p.stamped f.debugId) ++ body code), p⟩ :=
      (unstamp_eq_some_iff _ _ _ _).mpr ⟨_, _, found, rfl⟩
    rw [taken, Option.map_some, ← List.append_assoc, ← place, List.append_assoc, ← code_eq]

theorem stampCode_eq_iff {text debugId before behind : CodeUnits} {format : Option String}
    {p : Prelude} (found : Found text debugId format p before behind) :
    stampCode (before ++ behind) p debugId = text ↔ Reinserted p debugId before behind := by
  by_cases ends : EndsLine (before ++ behind)
  · have removed : before ++ behind = (shebang (before ++ behind) ++ prologue (before ++ behind))
        ++ body (before ++ behind) := by
      rw [List.append_assoc, ← code_eq]
    have place := found.first.restored_iff removed
    rw [stampCode_of_endsLine ends, found.split, List.append_left_inj, place]
    exact ⟨fun same => ⟨ends, same⟩, fun reinserted => reinserted.samePlace⟩
  · refine iff_of_false (fun same => ?_) fun reinserted => ends reinserted.endsLine
    have original := congrArg List.length (code_eq (before ++ behind))
    have stamped := congrArg List.length (same.trans found.split)
    rw [stampCode_of_not_endsLine ends] at stamped
    simp only [List.length_append, List.length_cons, List.length_nil] at original stamped
    omega

section
variable {Fields : Type} {tools : MapTools Fields} {input : StampInput}
  {result : StampResult Fields}

theorem stampCodeAndMap_prelude (accepted : stampCodeAndMap tools input = .ok result) :
    ∃ p, input.preludeOverride.or (preludeForFormat input.format) = some p ∧
      result.code = stampCode input.code p result.fingerprint.debugId := by
  unfold stampCodeAndMap at accepted
  split at accepted
  · cases accepted
  · rename_i p selected
    obtain ⟨-, accepted⟩ := Except.of_guard accepted
    obtain ⟨-, -, accepted⟩ := Except.of_bind accepted
    obtain ⟨parsed, -, accepted⟩ := Except.of_bind accepted
    obtain ⟨-, -, accepted⟩ := Except.of_bind accepted
    obtain ⟨fingerprint, -, accepted⟩ := Except.of_bind accepted
    obtain rfl := Except.ok.inj accepted
    exact ⟨p, selected, by dsimp only⟩

/-- A stamp is reversed where the prologue ends a line and no other prelude is found first;
what a text is unstamped to is stamped to that text where the place is the same. -/
theorem unstamp_exact_iff (accepted : stampCodeAndMap tools input = .ok result) :
    (∃ p, input.preludeOverride.or (preludeForFormat input.format) = some p ∧
      ∀ format, (unstamp result.code result.fingerprint.debugId format).map Unstamped.code
          = some input.code
        ↔ Recoverable input.code p result.fingerprint.debugId format) ∧
    ∀ text debugId format,
      (∀ r ∈ unstamp text debugId format, stampCode r.code r.prelude debugId = text) ↔
        ∀ p before behind, Found text debugId format p before behind →
          Reinserted p debugId before behind := by
  refine ⟨?_, fun text debugId format => ⟨?_, ?_⟩⟩
  · obtain ⟨p, selected, code⟩ := stampCodeAndMap_prelude accepted
    refine ⟨p, selected, fun format => ?_⟩
    rw [code]
    exact unstamp_stampCode_iff input.code p result.fingerprint format
  · intro exact_ p before behind found
    have taken := (unstamp_eq_some_iff text debugId format ⟨before ++ behind, p⟩).mpr
      ⟨before, behind, found, rfl⟩
    have back := exact_ _ taken
    dsimp only at back
    exact (stampCode_eq_iff found).mp back
  · intro reinserted r taken
    obtain ⟨before, behind, found, code⟩ := (unstamp_eq_some_iff text debugId format r).mp taken
    rw [code]
    exact (stampCode_eq_iff found).mpr (reinserted _ _ _ found)

end

def oneLineAdded : MapTools Unit :=
  { oneMapping with
    computeDebugId := fun bytes =>
      if bytes = mapText (codeUnits ";AAAA") then
        .ok ⟨[207, 6, 213, 118, 33, 0, 233, 89, 57, 85, 207, 78, 253, 178, 236, 1, 134, 246, 87, 227,
          173, 173, 164, 152, 52, 97, 248, 203, 191, 134, 36, 68]⟩
      else oneMapping.computeDebugId bytes }

theorem unstamp_exact_of_plain : ∃ result,
    stampCodeAndMap oneLineAdded (oneMappingInput (codeUnits "a()")) = .ok result ∧
      (unstamp result.code result.fingerprint.debugId (some "es")).map Unstamped.code
        = some (codeUnits "a()") := by
  obtain ⟨result, accepted⟩ : ∃ result,
      stampCodeAndMap oneLineAdded (oneMappingInput (codeUnits "a()")) = .ok result :=
    Except.exists_of_isOk (by decide +kernel)
  obtain ⟨⟨p, selected, reversed⟩, -⟩ := unstamp_exact_iff accepted
  obtain rfl : Prelude.esm = p := Option.some.inj selected
  have start : shebang (codeUnits "a()") ++ prologue (codeUnits "a()") = [] := by decide +kernel
  refine ⟨result, accepted, (reversed (some "es")).mpr ⟨by unfold EndsLine; decide +kernel, ?_, ?_⟩⟩
  · refine ⟨[], 0, start, fun inside => stamped_ne_nil _ _ (List.infix_nil.mp inside)⟩
  · exact fun other => absurd rfl other

/-- The directive was written twice, and the copy is left with its line. -/
theorem unstamp_keeps_copy : ∃ result,
    stampCodeAndMap oneMapping (oneMappingInput sharedLine) = .ok result ∧
      (unstamp result.code result.fingerprint.debugId (some "es")).map Unstamped.code
        = some (codeUnits "\"use strict\";\n\"use strict\";a()") ∧
      codeUnits "\"use strict\";\n\"use strict\";a()" ≠ sharedLine := by
  obtain ⟨result, accepted⟩ :
      ∃ result, stampCodeAndMap oneMapping (oneMappingInput sharedLine) = .ok result :=
    Except.exists_of_isOk (by decide +kernel)
  have computed : (stampCodeAndMap oneMapping (oneMappingInput sharedLine)).toOption.bind
      (fun result => (unstamp result.code result.fingerprint.debugId (some "es")).map
        Unstamped.code) = some (codeUnits "\"use strict\";\n\"use strict\";a()") := by
    decide +kernel
  rw [accepted] at computed
  exact ⟨result, accepted, computed, by decide +kernel⟩

end Opslane.Sdk.Stamp
