import Opslane.Lib.Result
import Opslane.Sdk.Stamp

/-!
# Lines of a stamped chunk

The prelude is one line of its own. Behind a prologue that ends a line it is the only line
added; a prologue that shares its line with code is written a second time above it, and
then the source map counts one line for the copy, whatever its length.
-/

namespace Opslane.Sdk.Stamp

open CodeUnits

def shebang (code : CodeUnits) : CodeUnits := code.take (shebangEnd code)

/-- The directives at the head of the code. -/
def prologue (code : CodeUnits) : CodeUnits :=
  (code.drop (shebangEnd code)).take (directivesLength (code.drop (shebangEnd code)))

def body (code : CodeUnits) : CodeUnits := code.drop (prologueEnd code)

theorem drop_shebangEnd (code : CodeUnits) :
    code.drop (shebangEnd code) = prologue code ++ body code := by
  rw [prologue, body, prologueEnd, ← List.drop_drop, List.take_append_drop]

theorem take_prologueEnd (code : CodeUnits) :
    code.take (prologueEnd code) = shebang code ++ prologue code := by
  rw [prologueEnd, List.take_add]
  rfl

theorem code_eq (code : CodeUnits) : code = shebang code ++ (prologue code ++ body code) := by
  rw [← drop_shebangEnd, shebang, List.take_append_drop]

theorem shebangEnd_le (code : CodeUnits) : shebangEnd code ≤ code.length := by
  unfold shebangEnd
  split
  · split
    · rename_i member
      have inside := List.idxOf_lt_length_of_mem member
      omega
    · exact Nat.le_refl _
  · exact Nat.zero_le _

theorem prologueEnd_le (code : CodeUnits) : prologueEnd code ≤ code.length := by
  have first := shebangEnd_le code
  have second : directivesLength (code.drop (shebangEnd code)) ≤ code.length - shebangEnd code := by
    unfold directivesLength
    rw [List.length_drop]
    omega
  unfold prologueEnd
  omega

theorem shebang_cases (code : CodeUnits) :
    (Complete (shebang code) ∧ (hasShebang code → newline ∈ code)) ∨
      (hasShebang code ∧ newline ∉ code ∧ shebangEnd code = code.length) := by
  by_cases starts : hasShebang code = true
  · by_cases member : newline ∈ code
    · refine .inl ⟨?_, fun _ => member⟩
      apply (complete_take (shebangEnd_le code)).mpr
      simp only [shebangEnd, starts, member, if_true]
      exact .inr (List.getElem?_idxOf member)
    · exact .inr ⟨starts, member, by simp [shebangEnd, starts, member]⟩
  · refine .inl ⟨.inl ?_, fun present => absurd present starts⟩
    simp [shebang, shebangEnd, starts]

/-- The prologue ends a line. -/
def EndsLine (code : CodeUnits) : Prop := Complete (shebang code ++ prologue code)

theorem preludeInsertion_of_endsLine {code : CodeUnits} (ends : EndsLine code) :
    preludeInsertion code =
      { head := shebang code ++ prologue code
        offset := prologueEnd code
        generatedLine := (closedLines (shebang code ++ prologue code)).length
        addedLines := 1 } := by
  rw [EndsLine, ← take_prologueEnd, complete_take (prologueEnd_le code)] at ends
  rw [preludeInsertion, if_pos ends, take_prologueEnd, length_closedLines]

theorem preludeInsertion_of_not_endsLine {code : CodeUnits} (shared : ¬ EndsLine code) :
    preludeInsertion code =
      { head := shebang code ++ prologue code ++ [newline]
        offset := shebangEnd code
        generatedLine := (closedLines (shebang code)).length
        addedLines := 2 } := by
  rw [EndsLine, ← take_prologueEnd, complete_take (prologueEnd_le code)] at shared
  rw [preludeInsertion, if_neg shared, take_prologueEnd, length_closedLines]
  rfl

theorem newline_not_mem_toHex (bytes : List UInt8) : newline ∉ toHex bytes := by
  have digits : ∀ n < 16, newline ≠ hexDigit n := by decide
  intro member
  obtain ⟨byte, -, inside⟩ := List.mem_flatMap.mp member
  have bound := byte.toNat_lt
  simp only [List.mem_cons, List.not_mem_nil, or_false] at inside
  rcases inside with high | low
  · exact digits _ (by omega) high
  · exact digits _ (Nat.mod_lt _ (by decide)) low

theorem newline_not_mem_debugId (f : Fingerprint) : newline ∉ f.debugId := by
  have slice : ∀ start count, newline ∉ (f.contentSha256.drop start).take count := by
    intro start count member
    exact newline_not_mem_toHex f.digest (List.mem_of_mem_drop (List.mem_of_mem_take member))
  have dash : newline ≠ codeUnit '-' := by decide
  have first := slice 0 8
  rw [List.drop_zero] at first
  simp [Fingerprint.debugId, dash, first, slice]

theorem newline_not_mem_statement (p : Prelude) (f : Fingerprint) :
    newline ∉ p.statement f.debugId := by
  have id := newline_not_mem_debugId f
  have global : newline ∉ registryGlobal := newline_not_mem_codeUnits _ (by decide)
  have key : newline ∉ p.key := by
    cases p <;> exact newline_not_mem_codeUnits _ (by decide)
  simp only [Prelude.statement, List.mem_append, not_or]
  refine ⟨⟨⟨⟨⟨⟨⟨⟨⟨⟨?_, global⟩, ?_⟩, global⟩, ?_⟩, key⟩, ?_⟩, id⟩, ?_⟩, id⟩, ?_⟩
  all_goals exact newline_not_mem_codeUnits _ (by decide)

theorem head?_statement (p : Prelude) (debugId : CodeUnits) :
    (p.statement debugId).head? = some semicolon := by
  have nonempty (c : Char) (chars : List Char) :
      (codeUnits (String.ofList (c :: chars))).head? = some (codeUnit c) := by
    rw [codeUnits, String.toList_ofList]
    rfl
  simp only [Prelude.statement, List.append_assoc, List.head?_append]
  rw [nonempty]
  rfl

theorem newline_not_mem_trailer (f : Fingerprint) : newline ∉ trailer f.debugId := by
  simp only [trailer, List.mem_append, not_or]
  exact ⟨newline_not_mem_codeUnits _ (by decide), newline_not_mem_debugId f⟩

variable {code : CodeUnits} (p : Prelude) (f : Fingerprint)

theorem lines_stamped (head rest : CodeUnits) (complete : Complete head) :
    lines (head ++ (p.statement f.debugId ++ [newline]) ++ rest
        ++ ([newline] ++ trailer f.debugId))
      = closedLines head ++ [p.statement f.debugId] ++ lines rest ++ [trailer f.debugId] := by
  have shape : head ++ (p.statement f.debugId ++ [newline]) ++ rest
        ++ ([newline] ++ trailer f.debugId)
      = head ++ (p.statement f.debugId ++ newline :: (rest ++ newline :: trailer f.debugId)) := by
    simp
  rw [shape, lines_append complete, lines_append_newline, lines_append_newline,
    lines_of_not_mem (newline_not_mem_statement p f), lines_of_not_mem (newline_not_mem_trailer f)]
  simp only [List.append_assoc]

theorem inserted_of_endsLine (ends : EndsLine code) :
    InsertedAt (lines code) (lines (stampCode code p f.debugId))
      (preludeInsertion code).generatedLine (preludeInsertion code).addedLines := by
  have original : lines code = closedLines (shebang code ++ prologue code) ++ lines (body code) := by
    conv_lhs => rw [code_eq code, ← List.append_assoc]
    exact lines_append ends _
  rw [stampCode, preludeInsertion_of_endsLine ends, lines_stamped p f _ _ ends, original]
  exact InsertedAt.intro

theorem lines_stampCode_shared (shared : ¬ EndsLine code) (complete : Complete (shebang code)) :
    lines (stampCode code p f.debugId) =
      closedLines (shebang code) ++ (lines (prologue code) ++ [p.statement f.debugId])
        ++ lines (prologue code ++ body code) ++ [trailer f.debugId] := by
  have whole : Complete (shebang code ++ prologue code ++ [newline]) := .inr (by simp)
  have closed : closedLines (shebang code ++ prologue code ++ [newline])
      = closedLines (shebang code) ++ lines (prologue code) := by
    rw [closedLines, lines_append_newline, lines_append complete]
    simp [lines]
  rw [stampCode, preludeInsertion_of_not_endsLine shared, lines_stamped p f _ _ whole, closed,
    drop_shebangEnd]
  simp only [List.append_assoc]

theorem inserted_of_shared (shared : ¬ EndsLine code) (complete : Complete (shebang code)) :
    InsertedAt (lines code) (lines (stampCode code p f.debugId))
        (preludeInsertion code).generatedLine (preludeInsertion code).addedLines
      ↔ newline ∉ prologue code := by
  have original : lines code = closedLines (shebang code) ++ lines (prologue code ++ body code) := by
    conv_lhs => rw [code_eq code]
    exact lines_append complete _
  rw [lines_stampCode_shared p f shared complete, original,
    preludeInsertion_of_not_endsLine shared]
  constructor
  · intro inserted member
    have total := inserted.length
    have several := length_lines_of_mem member
    simp only [List.length_append, List.length_singleton] at total
    omega
  · intro single
    rw [lines_of_not_mem single]
    exact InsertedAt.intro

theorem not_inserted_of_unterminated (starts : hasShebang code) (single : newline ∉ code)
    (whole : shebangEnd code = code.length) :
    ¬ InsertedAt (lines code) (lines (stampCode code p f.debugId))
      (preludeInsertion code).generatedLine (preludeInsertion code).addedLines := by
  have nonempty : code ≠ [] := by
    rintro rfl
    cases starts
  have shebangEq : shebang code = code := by rw [shebang, whole, List.take_length]
  have prologueEq : prologue code = [] := by
    simp [prologue, whole]
  have shared : ¬ EndsLine code := by
    rw [EndsLine, shebangEq, prologueEq, List.append_nil]
    rintro (empty | ending)
    · exact nonempty empty
    · exact single (List.mem_of_getLast? ending)
  have complete : Complete (code ++ [newline]) := .inr (by simp)
  have closed : closedLines (code ++ [newline]) = [code] := by
    rw [closedLines, lines_append_newline, lines_of_not_mem single]
    rfl
  have rest : code.drop (shebangEnd code) = [] := by rw [whole, List.drop_length]
  rw [stampCode, preludeInsertion_of_not_endsLine shared, shebangEq, prologueEq, List.append_nil,
    lines_stamped p f _ _ complete, closed, rest, lines_of_not_mem single]
  intro inserted
  have moved := inserted.after 0 (by simp [closedLines, lines_of_not_mem single]) (by simp)
  simp [lines] at moved
  exact nonempty moved

/-- A hashbang ends with a newline, and a prologue of several lines does too. -/
def OneLinePrologue (code : CodeUnits) : Prop :=
  (hasShebang code → newline ∈ code) ∧
    (newline ∈ prologue code → (prologue code).getLast? = some newline)
  deriving Decidable

theorem endsLine_of_complete (complete : Complete (shebang code)) :
    EndsLine code ↔ Complete (prologue code) := by
  unfold EndsLine Complete
  by_cases empty : prologue code = []
  · simpa [empty, Complete] using complete
  · rw [List.getLast?_append_of_ne_nil _ empty]
    simp [empty]

theorem inserted_iff (code : CodeUnits) :
    InsertedAt (lines code) (lines (stampCode code p f.debugId))
        (preludeInsertion code).generatedLine (preludeInsertion code).addedLines
      ↔ OneLinePrologue code := by
  rcases shebang_cases code with ⟨complete, terminated⟩ | ⟨starts, single, whole⟩
  · have ends := endsLine_of_complete complete
    by_cases here : EndsLine code
    · refine iff_of_true (inserted_of_endsLine p f here) ⟨terminated, fun member => ?_⟩
      rcases ends.mp here with empty | ending
      · rw [empty] at member
        cases member
      · exact ending
    · rw [inserted_of_shared p f here complete]
      have open' : (prologue code).getLast? ≠ some newline := fun ending => here (ends.mpr (.inr ending))
      constructor
      · exact fun single => ⟨terminated, fun member => absurd member single⟩
      · exact fun condition member => open' (condition.2 member)
  · apply iff_of_false (not_inserted_of_unterminated p f starts single whole)
    exact fun condition => single (condition.1 starts)

/-- Where a generated line of the original stands in the stamped chunk. -/
def Insertion.moved (insertion : Insertion) (line : Nat) : Nat :=
  if line < insertion.generatedLine then line else line + insertion.addedLines

theorem mappingLines_insertMappingLines (mappings : CodeUnits) (line count : Nat) :
    mappingLines (insertMappingLines mappings line count) =
      (mappingLines mappings).take line ++ List.replicate count []
        ++ (mappingLines mappings).drop line := by
  have position : ∀ lines : List CodeUnits, lines.take (min line lines.length) = lines.take line
      ∧ lines.drop (min line lines.length) = lines.drop line := by
    intro lines
    rcases Nat.le_total line lines.length with inside | past
    · rw [Nat.min_eq_left inside]
      exact ⟨rfl, rfl⟩
    · rw [Nat.min_eq_right past, List.take_length, List.drop_length, List.take_of_length_le past,
        List.drop_of_length_le past]
      exact ⟨rfl, rfl⟩
  obtain ⟨taken, dropped⟩ := position (mappingLines mappings)
  simp only [insertMappingLines, taken, dropped]
  apply List.splitOn_intercalate
  · intro piece member
    have original := List.not_mem_of_mem_splitOn semicolon mappings
    rcases List.mem_append.mp member with first | last
    · rcases List.mem_append.mp first with before | added
      · exact original piece (List.mem_of_mem_take before)
      · rw [List.eq_of_mem_replicate added]
        exact List.not_mem_nil
    · exact original piece (List.mem_of_mem_drop last)
  · intro none
    obtain ⟨front, back⟩ := List.append_eq_nil_iff.mp none
    have all := List.take_append_drop line (mappingLines mappings)
    rw [(List.append_eq_nil_iff.mp front).1, back] at all
    exact List.splitOn_ne_nil semicolon mappings all.symm

theorem mapping_moved (mappings : CodeUnits) (insertion : Insertion) (line : Nat)
    (inside : line < (mappingLines mappings).length) :
    (mappingLines (insertMappingLines mappings insertion.generatedLine
        insertion.addedLines))[insertion.moved line]? = (mappingLines mappings)[line]? := by
  rw [mappingLines_insertMappingLines, Insertion.moved]
  split
  · rename_i above
    have taken : line < ((mappingLines mappings).take insertion.generatedLine).length := by
      rw [List.length_take]
      omega
    rw [List.append_assoc, List.getElem?_append_left taken, List.getElem?_take_of_lt above]
  · rename_i below
    have front : ((mappingLines mappings).take insertion.generatedLine
        ++ List.replicate insertion.addedLines []).length
          = insertion.generatedLine + insertion.addedLines := by
      rw [List.length_append, List.length_take, List.length_replicate]
      omega
    rw [List.getElem?_append_right (by omega), front, List.getElem?_drop]
    congr 1
    omega

/-- Every line of the original map is read at the line the stamp moved it to, and the lines
of the code moved likewise: those the map says were added were, and none else. -/
structure MappingsKept (code mappings stamped stampedMappings : CodeUnits)
    (insertion : Insertion) : Prop where
  mapped : ∀ line < (mappingLines mappings).length,
    (mappingLines stampedMappings)[insertion.moved line]? = (mappingLines mappings)[line]?
  text : InsertedAt (lines code) (lines stamped) insertion.generatedLine insertion.addedLines

section
variable {Fields : Type} {tools : MapTools Fields} {input : StampInput}
  {result : StampResult Fields}

theorem parse_of_parseMap {raw : List UInt8} {parsed : SourceMap Fields}
    (read : parseMap tools raw = .ok parsed) : tools.parse raw = .ok (some parsed) := by
  unfold parseMap at read
  split at read
  · cases read
  · cases read
  · rename_i map found
    split at read
    · rw [found, Except.ok.inj read]
    · cases read

theorem stampCodeAndMap_ok (accepted : stampCodeAndMap tools input = .ok result) :
    ∃ p parsed, tools.parse input.mapSource = .ok (some parsed) ∧
      result.code = stampCode input.code p result.fingerprint.debugId ∧
      result.map.mappings = insertMappingLines parsed.mappings
        (preludeInsertion input.code).generatedLine (preludeInsertion input.code).addedLines := by
  unfold stampCodeAndMap at accepted
  split at accepted
  · cases accepted
  · rename_i p _
    obtain ⟨-, accepted⟩ := Except.of_guard accepted
    obtain ⟨-, -, accepted⟩ := Except.of_bind accepted
    obtain ⟨parsed, read, accepted⟩ := Except.of_bind accepted
    obtain ⟨-, -, accepted⟩ := Except.of_bind accepted
    obtain ⟨fingerprint, -, accepted⟩ := Except.of_bind accepted
    obtain rfl := Except.ok.inj accepted
    -- Only the projections are to be reduced here, not the texts.
    refine ⟨p, parsed, parse_of_parseMap read, by dsimp only, by dsimp only [correctMap]⟩

theorem stampCodeAndMap_keeps_mappings (accepted : stampCodeAndMap tools input = .ok result) :
    ∃ parsed, tools.parse input.mapSource = .ok (some parsed) ∧
      (MappingsKept input.code parsed.mappings result.code result.map.mappings
        (preludeInsertion input.code) ↔ OneLinePrologue input.code) := by
  obtain ⟨p, parsed, read, code, mappings⟩ := stampCodeAndMap_ok accepted
  refine ⟨parsed, read, ?_⟩
  rw [code, mappings, ← inserted_iff p result.fingerprint input.code]
  constructor
  · exact fun kept => kept.text
  · exact fun inserted => ⟨mapping_moved parsed.mappings _, inserted⟩

end

/-- `{"version":3,"sources":[],"names":[],"mappings":..}` -/
def mapText (mappings : CodeUnits) : List UInt8 :=
  (codeUnits "\x7b\"version\":3,\"sources\":[],\"names\":[],\"mappings\":\"" ++ mappings
    ++ codeUnits "\"\x7d").map UInt16.toUInt8

/-- A map with one mapping, with its fingerprint before and after two lines are added. -/
def oneMapping : MapTools Unit where
  computeDebugId bytes :=
    if bytes = mapText (codeUnits "AAAA") then
      .ok ⟨[50, 153, 52, 106, 143, 99, 139, 226, 232, 42, 181, 40, 12, 37, 129, 49, 217, 198, 231, 4,
        211, 225, 212, 189, 236, 138, 156, 144, 164, 144, 98, 115]⟩
    else
      .ok ⟨[174, 175, 224, 205, 29, 86, 134, 67, 252, 139, 66, 124, 76, 56, 182, 44, 101, 112, 17, 161,
        26, 230, 190, 39, 20, 236, 110, 105, 214, 244, 141, 251]⟩
  parse _ := .ok (some { mappings := codeUnits "AAAA", fields := () })
  stringify map := mapText map.mappings
  normalizeSources := id

def oneMappingInput (code : CodeUnits) : StampInput where
  code := code
  mapSource := mapText (codeUnits "AAAA")
  format := some "es"
  preludeOverride := none
  maxMapBytes := 1024

/-- `"use strict";a()` -/
def sharedLine : CodeUnits := codeUnits "\"use strict\";a()"

def sharedTwoLines : CodeUnits := codeUnits "\"use strict\";\n\"use asm\";a()"

theorem keeps_mappings_of_shared_line : ∃ result,
    stampCodeAndMap oneMapping (oneMappingInput sharedLine) = .ok result ∧
      MappingsKept sharedLine (codeUnits "AAAA") result.code result.map.mappings
        (preludeInsertion sharedLine) := by
  obtain ⟨result, accepted⟩ :
      ∃ result, stampCodeAndMap oneMapping (oneMappingInput sharedLine) = .ok result :=
    Except.exists_of_isOk (by decide +kernel)
  obtain ⟨parsed, read, kept⟩ := stampCodeAndMap_keeps_mappings accepted
  cases read
  dsimp only [oneMappingInput] at kept
  exact ⟨result, accepted, kept.mpr (by decide +kernel)⟩

/-- The map says two lines were put in at the first line of the code. Two lines down stands
the prelude, which is not that line. -/
theorem displaced_by_two_lines : ∃ result,
    stampCodeAndMap oneMapping (oneMappingInput sharedTwoLines) = .ok result ∧
      mappingLines result.map.mappings = [[], [], codeUnits "AAAA"] ∧
      (lines result.code)[0 + 2]? ≠ (lines sharedTwoLines)[0]? := by
  obtain ⟨result, accepted⟩ :
      ∃ result, stampCodeAndMap oneMapping (oneMappingInput sharedTwoLines) = .ok result :=
    Except.exists_of_isOk (by decide +kernel)
  obtain ⟨p, parsed, read, code, mappings⟩ := stampCodeAndMap_ok accepted
  cases read
  dsimp only [oneMappingInput] at code mappings
  refine ⟨result, accepted, ?_, ?_⟩
  · rw [mappings]
    decide +kernel
  · have shared : ¬ EndsLine sharedTwoLines := by
      unfold EndsLine
      decide +kernel
    have complete : Complete (shebang sharedTwoLines) := by decide +kernel
    have noShebang : closedLines (shebang sharedTwoLines) = [] := by decide +kernel
    have copy : (lines (prologue sharedTwoLines)).length = 2 := by decide +kernel
    have first : ((lines sharedTwoLines)[0]?.bind List.head?) = some (codeUnit '"') := by
      decide +kernel
    rw [code, lines_stampCode_shared p result.fingerprint shared complete, noShebang]
    intro same
    rw [← same] at first
    simp only [List.nil_append, List.append_assoc] at first
    rw [List.getElem?_append_right (by omega), copy] at first
    have prelude : (p.statement result.fingerprint.debugId).head? = some (codeUnit '"') := first
    rw [head?_statement] at prelude
    revert prelude
    decide

end Opslane.Sdk.Stamp
