import Mathlib.Data.List.TakeWhile
import Opslane.Harness.RepoPaths
import Opslane.Lib.GitDiff

/-!
# What the gate sees of a patch

The targets of a printed diff, section by section: a name in a file header is read up to its first
space, a rename or copy header with a space in its name is not read at all, and a quoted name is
never read as the name it stands for. So a patch is gated on every file it writes exactly when the
names of these are plain, or the diff is refused.
-/

namespace Opslane.Harness

open GitDiff

/-- The gate has seen every file that the diff writes. -/
def Gated (quotePath : Bool) (sections : List FileSection) : Prop :=
  diffTargets (print quotePath sections) ≠ [] →
    ∀ s ∈ sections, ∀ path ∈ s.written, path ∈ diffTargets (print quotePath sections)

/-- A name whose file header is refused: it is quoted, or starts with a space. -/
def Misplaced (quotePath : Bool) (name : CodeUnits) : Bool :=
  needsQuoting quotePath name || firstWord name = []

def sideNames (s : FileSection) : List CodeUnits :=
  if s.hunks = [] then [] else s.change.sides.1.toList ++ s.change.sides.2.toList

/-- A section that has the whole diff refused. -/
def Refused (quotePath : Bool) (s : FileSection) : Bool :=
  s.modes.isSome || (sideNames s).any (Misplaced quotePath)

/-- The name that is read of a rename or copy header. -/
def extendedTarget (quotePath : Bool) (name : CodeUnits) : Option CodeUnits :=
  wholeWord ((spelled quotePath name).dropWhile isSpaceUnit)

/-- What is read of a section that is not refused. -/
def sectionTargets (quotePath : Bool) (s : FileSection) : List CodeUnits :=
  s.change.extendedNames.filterMap (extendedTarget quotePath) ++ (sideNames s).map firstWord

/-- The names the gate reads as they are; a quoted one only where another name is its spelling. -/
def Readable (quotePath : Bool) (sections : List FileSection) (path : CodeUnits) : Prop :=
  path ≠ [] ∧ path.any isSpaceUnit = false ∧
    (needsQuoting quotePath path = false ∨
      ∃ s ∈ sections, ∃ name ∈ s.change.extendedNames,
        needsQuoting quotePath name = true ∧ spelled quotePath name = path)

/-- A section of which no name is read: it has no file header, and its names have spaces in them. -/
def Unread (quotePath : Bool) (s : FileSection) : Bool :=
  sideNames s = [] && s.change.extendedNames.all fun name =>
    let text := (spelled quotePath name).dropWhile isSpaceUnit
    text = [] || text.any isSpaceUnit

/-- A diff whose written files are all readable, or that has no targets. -/
def Accountable (quotePath : Bool) (sections : List FileSection) : Prop :=
  (∃ s ∈ sections, Refused quotePath s = true) ∨ (∀ s ∈ sections, Unread quotePath s = true) ∨
    ∀ s ∈ sections, ∀ path ∈ s.written, Readable quotePath sections path

/-- The two texts differ where both have a unit. -/
def clash (word text : CodeUnits) : Bool := (word.zip text).any fun p => p.1 ≠ p.2

theorem dropPrefix?_of_clash {word text : CodeUnits} (differ : clash word text = true)
    (rest : CodeUnits) : (text ++ rest).dropPrefix? word = none := by
  induction text generalizing word with
  | nil => cases word <;> simp [clash] at differ
  | cons u text ih =>
    cases word with
    | nil => simp [clash] at differ
    | cons v word =>
      simp only [List.cons_append, List.dropPrefix?]
      split
      · rename_i same
        obtain rfl : u = v := by simpa using same
        exact ih (by simpa [clash] using differ)
      · rfl

theorem dropPrefix?_append (word rest : CodeUnits) : (word ++ rest).dropPrefix? word = some rest :=
  List.dropPrefix?_append_of_beq rest (beq_self_eq_true word)

/-- The words the patterns of `readHeader` start with. -/
def headerWords : List CodeUnits :=
  [codeUnits "@@ -", codeUnits "+++", codeUnits "---", codeUnits "rename", codeUnits "copy",
    codeUnits "deleted file mode", codeUnits "new file mode", codeUnits "old mode", codeUnits "new mode"]

theorem readHeader_neutral (text : CodeUnits)
    (neutral : (headerWords.all fun word => clash word text) = true) (s : DiffReading) (rest : CodeUnits) :
    readHeader s (text ++ rest) = some s := by
  have differ : ∀ word ∈ headerWords, (text ++ rest).dropPrefix? word = none := fun word member =>
    dropPrefix?_of_clash (List.all_eq_true.mp neutral word member) rest
  simp only [headerWords, List.forall_mem_cons] at differ
  obtain ⟨hunk, plus, minus, rename, copy, deleted, new, oldMode, newMode, -⟩ := differ
  simp [readHeader, hunkStart, fileHeader, extendedHeader, modeHeader, hunk, plus, minus, rename, copy,
    deleted, new, oldMode, newMode]

def neutralLines : List CodeUnits :=
  [codeUnits "diff --git ", codeUnits "index ", codeUnits "similarity index ",
    codeUnits "\\ No newline at end of file"]

theorem neutralLines_clash :
    ∀ text ∈ neutralLines, (headerWords.all fun word => clash word text) = true :=
  List.all_eq_true.mp (by decide +kernel)

theorem readHeader_diffLine (s : DiffReading) (rest : CodeUnits) :
    readHeader s (codeUnits "diff --git " ++ rest) = some s :=
  readHeader_neutral _ (neutralLines_clash _ (.head _)) s rest

theorem readHeader_index (s : DiffReading) (rest : CodeUnits) :
    readHeader s (codeUnits "index " ++ rest) = some s :=
  readHeader_neutral _ (neutralLines_clash _ (.tail _ (.head _))) s rest

theorem readHeader_similarity (s : DiffReading) (rest : CodeUnits) :
    readHeader s (codeUnits "similarity index " ++ rest) = some s :=
  readHeader_neutral _ (neutralLines_clash _ (.tail _ (.tail _ (.head _)))) s rest

theorem readHeader_noNewline (s : DiffReading) :
    readHeader s (codeUnits "\\ No newline at end of file") = some s := by
  have neutral := readHeader_neutral _ (neutralLines_clash _ (.tail _ (.tail _ (.tail _ (.head _))))) s []
  rwa [List.append_nil] at neutral

def wordsBeforeModes : List CodeUnits :=
  [codeUnits "@@ -", codeUnits "+++", codeUnits "---", codeUnits "rename", codeUnits "copy"]

def modeLines : List CodeUnits :=
  [codeUnits "new file mode ", codeUnits "deleted file mode ", codeUnits "old mode "]

theorem modeLines_clash :
    ∀ text ∈ modeLines, (wordsBeforeModes.all fun word => clash word text) = true :=
  List.all_eq_true.mp (by decide +kernel)

theorem readHeader_mode (text : CodeUnits)
    (passes : (wordsBeforeModes.all fun word => clash word text) = true) (s : DiffReading) (rest : CodeUnits) :
    readHeader s (text ++ rest) =
      if modeHeader (text ++ rest) = true ∧ ¬fileComesOrGoes (text ++ rest) = true then none else some s := by
  have differ := fun word member => dropPrefix?_of_clash (List.all_eq_true.mp passes word member) rest
  simp only [wordsBeforeModes, List.forall_mem_cons] at differ
  obtain ⟨hunk, plus, minus, rename, copy, -⟩ := differ
  simp [readHeader, hunkStart, fileHeader, extendedHeader, hunk, plus, minus, rename, copy]

theorem readHeader_newFile (s : DiffReading) (mode : CodeUnits) :
    readHeader s (codeUnits "new file mode " ++ mode) = some s := by
  rw [readHeader_mode _ (modeLines_clash _ (.head _))]
  apply if_neg
  have spelled : codeUnits "new file mode " = codeUnits "new file" ++ codeUnits " mode " := by
    rw [codeUnits_ofList, codeUnits_ofList, codeUnits_ofList]
    rfl
  have new : (codeUnits "new file mode " ++ mode).dropPrefix? (codeUnits "new file") =
      some (codeUnits " mode " ++ mode) := by
    rw [spelled, List.append_assoc, dropPrefix?_append]
  have deleted : (codeUnits "new file mode " ++ mode).dropPrefix? (codeUnits "deleted file") = none :=
    dropPrefix?_of_clash (by decide +kernel) mode
  simp [fileComesOrGoes, new, deleted]

theorem readHeader_deletedFile (s : DiffReading) (mode : CodeUnits) :
    readHeader s (codeUnits "deleted file mode " ++ mode) = some s := by
  rw [readHeader_mode _ (modeLines_clash _ (.tail _ (.head _)))]
  apply if_neg
  have spelled : codeUnits "deleted file mode " = codeUnits "deleted file" ++ codeUnits " mode " := by
    rw [codeUnits_ofList, codeUnits_ofList, codeUnits_ofList]
    rfl
  have deleted : (codeUnits "deleted file mode " ++ mode).dropPrefix? (codeUnits "deleted file") =
      some (codeUnits " mode " ++ mode) := by
    rw [spelled, List.append_assoc, dropPrefix?_append]
  simp [fileComesOrGoes, deleted]

theorem readHeader_oldMode (s : DiffReading) (mode : CodeUnits) :
    readHeader s (codeUnits "old mode " ++ mode) = none := by
  rw [readHeader_mode _ (modeLines_clash _ (.tail _ (.tail _ (.head _))))]
  apply if_pos
  have absent (word : CodeUnits) (differ : clash word (codeUnits "old mode ") = true) :
      (codeUnits "old mode " ++ mode).dropPrefix? word = none := dropPrefix?_of_clash differ mode
  have spelled : codeUnits "old mode " = codeUnits "old mode" ++ codeUnits " " := by
    rw [codeUnits_ofList, codeUnits_ofList, codeUnits_ofList]
    rfl
  have old : (codeUnits "old mode " ++ mode).dropPrefix? (codeUnits "old mode") =
      some (codeUnits " " ++ mode) := by
    rw [spelled, List.append_assoc, dropPrefix?_append]
  have boundary : atBoundary (codeUnits " " ++ mode) = true := rfl
  have others : ([codeUnits "deleted file mode", codeUnits "new file mode", codeUnits "deleted file",
      codeUnits "new file"].all fun word => clash word (codeUnits "old mode ")) = true := by
    decide +kernel
  have absent := fun word member => absent word (List.all_eq_true.mp others word member)
  simp only [List.forall_mem_cons] at absent
  obtain ⟨deletedMode, newMode, deleted, new, -⟩ := absent
  simp [modeHeader, fileComesOrGoes, old, boundary, deletedMode, newMode, deleted, new]

theorem needsQuoting_side (quotePath : Bool) {side : CodeUnits}
    (isSide : side = codeUnits "a/" ∨ side = codeUnits "b/") (name : CodeUnits) :
    needsQuoting quotePath (side ++ name) = needsQuoting quotePath name := by
  have plain : needsQuoting quotePath side = false := by
    rcases isSide with rfl | rfl <;> cases quotePath <;> decide
  rw [needsQuoting, List.any_append]
  exact (congrArg (· || _) plain).trans (Bool.false_or _)

variable {u : UInt16}

theorem firstWord_append_space (text : CodeUnits) (space : isSpaceUnit u = true) :
    firstWord (text ++ [u]) = firstWord text := by
  induction text with
  | nil => simp [firstWord, space]
  | cons v text ih =>
    by_cases ends : isSpaceUnit v = true
    · simp [firstWord, ends]
    · simpa [firstWord, ends] using ih

theorem firstWord_label (quotePath : Bool) (side name : CodeUnits) :
    firstWord (label quotePath side name) = firstWord (spelled quotePath (side ++ name)) := by
  unfold label
  simp only
  split
  · exact firstWord_append_space _ (by decide)
  · rw [List.append_nil]

theorem readHeader_fileHeader {word : CodeUnits}
    (isWord : word = codeUnits "--- " ∨ word = codeUnits "+++ ") (s : DiffReading) (u : UInt16)
    (rest : CodeUnits) (solid : isSpaceUnit u = false) :
    readHeader s (word ++ u :: rest) =
      if firstWord (u :: rest) = codeUnits "/dev/null" then some s
      else (stripped (firstWord (u :: rest))).map s.add := by
  have hunk : (word ++ u :: rest).dropPrefix? (codeUnits "@@ -") = none := by
    rcases isWord with rfl | rfl <;> exact dropPrefix?_of_clash (by decide) _
  have header : ((word ++ u :: rest).dropPrefix? (codeUnits "+++") <|>
      (word ++ u :: rest).dropPrefix? (codeUnits "---")) = some (codeUnit ' ' :: u :: rest) := by
    rcases isWord with rfl | rfl
    · have plus : (codeUnits "--- " ++ u :: rest).dropPrefix? (codeUnits "+++") = none :=
        dropPrefix?_of_clash (by decide) _
      have minus : (codeUnits "--- " ++ u :: rest).dropPrefix? (codeUnits "---") =
          some (codeUnit ' ' :: u :: rest) := dropPrefix?_append (codeUnits "---") _
      simp [plus, minus]
    · have plus : (codeUnits "+++ " ++ u :: rest).dropPrefix? (codeUnits "+++") =
          some (codeUnit ' ' :: u :: rest) := dropPrefix?_append (codeUnits "+++") _
      simp [plus]
  have skipped : spaces (codeUnit ' ' :: u :: rest) = some (u :: rest) := by
    have space : isSpaceUnit (codeUnit ' ') = true := by decide
    simp [spaces, space, solid]
  have nonempty : firstWord (u :: rest) ≠ [] := by simp [firstWord, solid]
  have read : fileHeader (word ++ u :: rest) = some (firstWord (u :: rest)) := by
    simp [fileHeader, header, skipped, nonempty]
  simp [readHeader, hunkStart, hunk, read]

theorem readHeader_devNull {word : CodeUnits}
    (isWord : word = codeUnits "--- " ∨ word = codeUnits "+++ ") (s : DiffReading) :
    readHeader s (word ++ FileSection.devNull) = some s := by
  have read := readHeader_fileHeader isWord s (codeUnit '/') (codeUnits "dev/null") (by decide)
  rwa [if_pos (by decide)] at read

theorem stripped_quote (word : CodeUnits) : stripped (codeUnit '"' :: word) = none := by
  match word with
  | [] => rfl
  | [_] => rfl
  | v :: w :: rest =>
    have other : ¬(codeUnit '"' = codeUnit 'a' ∨ codeUnit '"' = codeUnit 'b') := by decide
    simp [stripped, other]

theorem stripped_side {side : CodeUnits} (isSide : side = codeUnits "a/" ∨ side = codeUnits "b/")
    (word : CodeUnits) : stripped (side ++ word) = if word = [] then none else some word := by
  cases word with
  | nil => rcases isSide with rfl | rfl <;> rfl
  | cons u word => rcases isSide with rfl | rfl <;> rfl

theorem readHeader_label (quotePath : Bool) {word side : CodeUnits}
    (isWord : word = codeUnits "--- " ∨ word = codeUnits "+++ ")
    (isSide : side = codeUnits "a/" ∨ side = codeUnits "b/") (s : DiffReading) (name : CodeUnits) :
    readHeader s (word ++ label quotePath side name) =
      if Misplaced quotePath name then none else some (s.add (firstWord name)) := by
  have read := firstWord_label quotePath side name
  rw [spelled, needsQuoting_side quotePath isSide] at read
  cases quoting : needsQuoting quotePath name with
  | true =>
    obtain ⟨rest, starts⟩ : ∃ rest, label quotePath side name = codeUnit '"' :: rest := by
      rw [label, spelled, needsQuoting_side quotePath isSide, if_pos quoting]
      exact ⟨_, rfl⟩
    have word_ : firstWord (codeUnit '"' :: rest) = codeUnit '"' :: firstWord rest := by
      simp [firstWord, show isSpaceUnit (codeUnit '"') = false by decide]
    rw [starts, readHeader_fileHeader isWord s _ _ (by decide), word_, stripped_quote,
      if_neg (by simp [codeUnits, codeUnit])]
    simp [Misplaced, quoting]
  | false =>
    rw [if_neg (by simp [quoting])] at read
    obtain ⟨u, rest, starts, solid, slash⟩ : ∃ u rest, label quotePath side name = u :: rest ∧
        isSpaceUnit u = false ∧ u ≠ codeUnit '/' := by
      rw [label, spelled, needsQuoting_side quotePath isSide, if_neg (by simp [quoting])]
      rcases isSide with rfl | rfl
      · exact ⟨_, _, rfl, by decide, by decide⟩
      · exact ⟨_, _, rfl, by decide, by decide⟩
    have side_ : firstWord (side ++ name) = side ++ firstWord name := by
      rcases isSide with rfl | rfl <;> rfl
    rw [starts, readHeader_fileHeader isWord s _ _ solid, ← starts, read, side_, stripped_side isSide]
    have there : side ++ firstWord name ≠ codeUnits "/dev/null" := by
      intro same
      rcases isSide with rfl | rfl
      · have head : some (codeUnit 'a') = some (codeUnit '/') := congrArg List.head? same
        exact absurd head (by decide)
      · have head : some (codeUnit 'b') = some (codeUnit '/') := congrArg List.head? same
        exact absurd head (by decide)
    rw [if_neg there]
    by_cases empty : firstWord name = []
    · simp [Misplaced, empty]
    · simp [Misplaced, empty, quoting]

theorem spaces_literal (text : CodeUnits) :
    spaces (codeUnit ' ' :: text) = some (text.dropWhile isSpaceUnit) := by
  have space : isSpaceUnit (codeUnit ' ') = true := by decide
  simp [spaces, space]

variable {verb side : CodeUnits}

theorem extendedHeader_append (isVerb : verb = codeUnits "rename" ∨ verb = codeUnits "copy")
    (isSide : side = codeUnits "from" ∨ side = codeUnits "to") (name : CodeUnits) :
    extendedHeader (verb ++ codeUnit ' ' :: (side ++ codeUnit ' ' :: name)) =
      wholeWord (name.dropWhile isSpaceUnit) := by
  have first (rest : CodeUnits) : ((verb ++ rest).dropPrefix? (codeUnits "rename") <|>
      (verb ++ rest).dropPrefix? (codeUnits "copy")) = some rest := by
    rcases isVerb with rfl | rfl
    · simp [dropPrefix?_append]
    · have rename : (codeUnits "copy" ++ rest).dropPrefix? (codeUnits "rename") = none :=
        dropPrefix?_of_clash (by decide) rest
      simp [rename, dropPrefix?_append]
  have second (rest : CodeUnits) : ((side ++ rest).dropPrefix? (codeUnits "from") <|>
      (side ++ rest).dropPrefix? (codeUnits "to")) = some rest := by
    rcases isSide with rfl | rfl
    · simp [dropPrefix?_append]
    · have from_ : (codeUnits "to" ++ rest).dropPrefix? (codeUnits "from") = none :=
        dropPrefix?_of_clash (by decide) rest
      simp [from_, dropPrefix?_append]
  have solid (rest : CodeUnits) : (side ++ rest).dropWhile isSpaceUnit = side ++ rest := by
    rcases isSide with rfl | rfl <;> rfl
  simp only [extendedHeader, first, Option.bind_eq_bind, Option.bind_some, spaces_literal, solid, second]

theorem readHeader_extended (isVerb : verb = codeUnits "rename" ∨ verb = codeUnits "copy")
    (isSide : side = codeUnits "from" ∨ side = codeUnits "to") (s : DiffReading)
    (name : CodeUnits) :
    readHeader s (verb ++ codeUnit ' ' :: (side ++ codeUnit ' ' :: name)) =
      some ((wholeWord (name.dropWhile isSpaceUnit)).elim s s.add) := by
  have absent (word : CodeUnits) (differs : clash word (codeUnits "rename") = true ∧
      clash word (codeUnits "copy") = true) (rest : CodeUnits) : (verb ++ rest).dropPrefix? word = none := by
    rcases isVerb with rfl | rfl
    · exact dropPrefix?_of_clash differs.1 rest
    · exact dropPrefix?_of_clash differs.2 rest
  have mode (rest : CodeUnits) : modeHeader (verb ++ rest) = false := by
    simp [modeHeader, absent (codeUnits "deleted file mode") (by decide),
      absent (codeUnits "new file mode") (by decide), absent (codeUnits "old mode") (by decide),
      absent (codeUnits "new mode") (by decide)]
  simp only [readHeader, hunkStart, fileHeader, absent (codeUnits "@@ -") (by decide),
    absent (codeUnits "+++") (by decide), absent (codeUnits "---") (by decide), Option.bind_eq_bind,
    Option.bind_none, extendedHeader_append isVerb isSide, mode]
  cases wholeWord (name.dropWhile isSpaceUnit) <;> simp

theorem number_decimal (n : Nat) : number (decimal n) = n := by
  have digit : ∀ c ∈ Nat.toDigits 10 n, (codeUnit c).toNat = c.toNat := by
    intro c member
    have isDigit := Nat.isDigit_of_mem_toDigits (by decide) (by decide) member
    simp only [Char.isDigit, Bool.and_eq_true, decide_eq_true_eq, ge_iff_le,
      UInt32.le_iff_toNat_le] at isDigit
    have high : c.toNat ≤ 57 := isDigit.2
    exact CodeUnits.toNat_toUInt16 (by omega)
  have folded (cs : List Char) (init : Nat) (digits : ∀ c ∈ cs, (codeUnit c).toNat = c.toNat) :
      (cs.map codeUnit).foldl (fun n u => 10 * n + (u.toNat - 48)) init = Nat.ofDigitChars 10 cs init := by
    induction cs generalizing init with
    | nil => rfl
    | cons c cs ih =>
      rw [List.map_cons, List.foldl_cons, digits c List.mem_cons_self, Nat.ofDigitChars_cons]
      exact ih _ fun d later => digits d (List.mem_cons_of_mem _ later)
  rw [number, decimal, codeUnits, Nat.toString_eq_ofList_toDigits, String.toList_ofList,
    folded _ _ digit, Nat.ofDigitChars_ten_toDigits]

theorem isDigit_decimal (n : Nat) : ∀ u ∈ decimal n, isDigit u = true := by
  intro u member
  obtain ⟨low, high⟩ := decimal_digits member
  simp [isDigit, low, high]

theorem head_decimal (n : Nat) (rest : CodeUnits) : (decimal n ++ rest).head?.any isDigit = true := by
  obtain ⟨u, tail, starts⟩ := List.exists_cons_of_ne_nil (decimal_ne_nil n)
  have digit := isDigit_decimal n u (by simp [starts])
  simp [starts, digit]

theorem dropWhile_decimal (n : Nat) (ends : isDigit u = false) (rest : CodeUnits) :
    (decimal n ++ u :: rest).dropWhile isDigit = u :: rest := by
  rw [List.dropWhile_append_of_pos (isDigit_decimal n), List.dropWhile_cons_of_neg (by simp [ends])]

theorem takeWhile_decimal (n : Nat) (ends : isDigit u = false) (rest : CodeUnits) :
    (decimal n ++ u :: rest).takeWhile isDigit = decimal n := by
  rw [List.takeWhile_append_of_pos (isDigit_decimal n), List.takeWhile_cons_of_neg (by simp [ends]),
    List.append_nil]

theorem hunkRange_range (start count : Nat) (rest : CodeUnits) :
    hunkRange (Hunk.range start count ++ codeUnit ' ' :: rest) =
      some (if count = 1 then none else some count, codeUnit ' ' :: rest) := by
  have space : isDigit (codeUnit ' ') = false := by decide
  have comma : isDigit (codeUnit ',') = false := by decide
  unfold Hunk.range
  by_cases one : count = 1
  · rw [if_pos one, if_pos one, List.append_nil, hunkRange, if_pos (head_decimal start _),
      dropWhile_decimal start space, if_neg (by simp [codeUnit])]
  · rw [if_neg one, if_neg one, List.append_assoc, List.append_assoc, hunkRange,
      if_pos (head_decimal start _)]
    have behind := dropWhile_decimal start comma (decimal count ++ codeUnit ' ' :: rest)
    have shape : codeUnits "," ++ (decimal count ++ codeUnit ' ' :: rest) =
        codeUnit ',' :: (decimal count ++ codeUnit ' ' :: rest) := rfl
    rw [shape, behind, if_pos ⟨rfl, head_decimal count _⟩]
    simp only [List.tail_cons]
    rw [takeWhile_decimal count space, dropWhile_decimal count space, number_decimal]

theorem hunkStart_header (h : Hunk) : ∃ old new, hunkStart h.header = some (old, new) ∧
    old.getD 1 = h.lines.countP HunkLine.isOld ∧ new.getD 1 = h.lines.countP HunkLine.isNew := by
  have count (n : Nat) : (if n = 1 then none else some n).getD 1 = n := by
    by_cases one : n = 1 <;> simp [one]
  refine ⟨_, _, ?_, count _, count _⟩
  have plus (rest : CodeUnits) : codeUnits " +" ++ rest = codeUnit ' ' :: (codeUnits "+" ++ rest) := rfl
  have ends (rest : CodeUnits) : codeUnits " @@" ++ rest = codeUnit ' ' :: (codeUnits "@@" ++ rest) := rfl
  simp only [hunkStart, Hunk.header, dropPrefix?_append, Option.bind_eq_bind, Option.bind_some]
  rw [plus, hunkRange_range, ← plus]
  simp only [dropPrefix?_append, Option.bind_some]
  rw [ends, hunkRange_range, ← ends]
  simp only [dropPrefix?_append, Option.bind_some]
  rfl

/-- Outside of the hunks. -/
def idle (out : List CodeUnits) : DiffReading := ⟨out, 0, 0⟩

theorem readLine_hunkLine (out : List CodeUnits) (line : HunkLine) (old new : Nat) :
    readLine ⟨out, (old + if line.isOld then 1 else 0 : Nat), (new + if line.isNew then 1 else 0 : Nat)⟩
      line.text = some ⟨out, old, new⟩ := by
  cases line with
  | context content =>
    rw [readLine, if_pos (by simp [DiffReading.inHunk, HunkLine.isOld])]
    simp [readBody, HunkLine.text, HunkLine.isOld, HunkLine.isNew, codeUnit]
  | blank =>
    rw [readLine, if_pos (by simp [DiffReading.inHunk, HunkLine.isOld])]
    simp [readBody, HunkLine.text, HunkLine.isOld, HunkLine.isNew]
  | removed content =>
    rw [readLine, if_pos (by simp [DiffReading.inHunk, HunkLine.isOld])]
    simp [readBody, HunkLine.text, HunkLine.isOld, HunkLine.isNew, codeUnit]
  | added content =>
    rw [readLine, if_pos (by simp [DiffReading.inHunk, HunkLine.isNew])]
    simp [readBody, HunkLine.text, HunkLine.isOld, HunkLine.isNew, codeUnit]
  | noNewline =>
    -- Behind the last counted line, the mark stands outside of the hunk.
    simp only [HunkLine.isOld, HunkLine.isNew, HunkLine.text, readLine, Bool.false_eq_true, if_false,
      Nat.add_zero]
    split
    · rw [readBody, if_pos (by rfl)]
    · exact readHeader_noNewline _

theorem readLine_body (out : List CodeUnits) (lines : List HunkLine) :
    (lines.map HunkLine.text).foldlM readLine
      ⟨out, (lines.countP HunkLine.isOld : Nat), (lines.countP HunkLine.isNew : Nat)⟩ =
        some (idle out) := by
  induction lines with
  | nil => rfl
  | cons line rest ih =>
    rw [List.map_cons, List.foldlM_cons, List.countP_cons, List.countP_cons, readLine_hunkLine]
    exact ih

theorem readLine_idle (out : List CodeUnits) (line : CodeUnits) :
    readLine (idle out) line = readHeader (idle out) line := by
  rw [readLine, if_neg (by simp [DiffReading.inHunk, idle])]

theorem foldlM_hunk (out : List CodeUnits) (h : Hunk) :
    h.text.foldlM readLine (idle out) = some (idle out) := by
  obtain ⟨old, new, start, oldCount, newCount⟩ := hunkStart_header h
  rw [Hunk.text, List.foldlM_cons, readLine_idle, readHeader, start]
  simp only [oldCount, newCount, Option.bind_eq_bind, Option.bind_some]
  exact readLine_body out h.lines

theorem foldlM_hunks (out : List CodeUnits) (hunks : List Hunk) :
    (hunks.flatMap Hunk.text).foldlM readLine (idle out) = some (idle out) := by
  induction hunks with
  | nil => rfl
  | cons h rest ih =>
    rw [List.flatMap_cons, List.foldlM_append, foldlM_hunk]
    exact ih

/-- `out.add` of one path after the other. -/
def addAll (out : List CodeUnits) (paths : List CodeUnits) : List CodeUnits :=
  paths.foldl (fun out path => if path ∈ out then out else out ++ [path]) out

variable {path : CodeUnits}

theorem mem_addAll {out paths : List CodeUnits} :
    path ∈ addAll out paths ↔ path ∈ out ∨ path ∈ paths := by
  induction paths generalizing out with
  | nil => simp [addAll]
  | cons first rest ih =>
    have step := @ih (if first ∈ out then out else out ++ [first])
    rw [addAll, List.foldl_cons, ← addAll, step, List.mem_cons]
    by_cases here : first ∈ out
    · rw [if_pos here]
      constructor
      · rintro (before | later)
        · exact Or.inl before
        · exact Or.inr (Or.inr later)
      · rintro (before | rfl | later)
        · exact Or.inl before
        · exact Or.inl here
        · exact Or.inr later
    · rw [if_neg here, List.mem_append, List.mem_singleton, or_assoc]

theorem add_idle (out : List CodeUnits) (path : CodeUnits) :
    (idle out).add path = idle (addAll out [path]) := rfl

theorem addAll_append (out first second : List CodeUnits) :
    addAll out (first ++ second) = addAll (addAll out first) second := List.foldl_append

theorem readLine_extended (quotePath : Bool)
    (isVerb : verb = codeUnits "rename" ∨ verb = codeUnits "copy")
    (isSide : side = codeUnits "from" ∨ side = codeUnits "to") (out : List CodeUnits)
    (name : CodeUnits) :
    readLine (idle out) (verb ++ codeUnit ' ' :: (side ++ codeUnit ' ' :: spelled quotePath name)) =
      some (idle (addAll out ((extendedTarget quotePath name).toList))) := by
  rw [readLine_idle, readHeader_extended isVerb isSide]
  change some ((extendedTarget quotePath name).elim (idle out) (idle out).add) = _
  cases extendedTarget quotePath name <;> rfl

theorem filterMap_pair {f : CodeUnits → Option CodeUnits} (first second : CodeUnits) :
    [first, second].filterMap f = (f first).toList ++ (f second).toList := by
  cases one : f first <;> cases other : f second <;> simp [one, other]

theorem foldlM_extendedHeader (quotePath : Bool) (out : List CodeUnits) (s : FileSection) :
    (s.extendedHeader quotePath).foldlM readLine (idle out) =
      some (idle (addAll out (s.change.extendedNames.filterMap (extendedTarget quotePath)))) := by
  have similarity : readLine (idle out)
      (codeUnits "similarity index " ++ decimal s.similarity ++ codeUnits "%") = some (idle out) := by
    rw [readLine_idle, List.append_assoc, readHeader_similarity]
  have both {verb : CodeUnits} (isVerb : verb = codeUnits "rename" ∨ verb = codeUnits "copy")
      (source target : CodeUnits) :
      [codeUnits "similarity index " ++ decimal s.similarity ++ codeUnits "%",
        verb ++ codeUnit ' ' :: (codeUnits "from" ++ codeUnit ' ' :: spelled quotePath source),
        verb ++ codeUnit ' ' :: (codeUnits "to" ++ codeUnit ' ' :: spelled quotePath target)].foldlM
          readLine (idle out) =
        some (idle (addAll out ([source, target].filterMap (extendedTarget quotePath)))) := by
    rw [List.foldlM_cons, similarity, filterMap_pair, addAll_append]
    simp only [Option.bind_eq_bind, Option.bind_some, List.foldlM_cons, List.foldlM_nil,
      readLine_extended quotePath isVerb (Or.inl rfl), readLine_extended quotePath isVerb (Or.inr rfl)]
    rfl
  unfold FileSection.extendedHeader
  cases s.change with
  | modified path => rfl
  | added path =>
    rw [List.foldlM_cons, readLine_idle, readHeader_newFile]
    rfl
  | deleted path =>
    rw [List.foldlM_cons, readLine_idle, readHeader_deletedFile]
    rfl
  | renamed source target => exact both (Or.inl rfl) source target
  | copied source target => exact both (Or.inr rfl) source target

theorem readLine_side (quotePath : Bool) {word side : CodeUnits}
    (isWord : word = codeUnits "--- " ∨ word = codeUnits "+++ ")
    (isSide : side = codeUnits "a/" ∨ side = codeUnits "b/") (out : List CodeUnits)
    (name : Option CodeUnits) :
    readLine (idle out) (word ++ name.elim FileSection.devNull (label quotePath side)) =
      if name.toList.any (Misplaced quotePath) then none
      else some (idle (addAll out (name.toList.map firstWord))) := by
  rw [readLine_idle]
  cases name with
  | none => exact readHeader_devNull isWord _
  | some name =>
    simp only [Option.elim_some, readHeader_label quotePath isWord isSide, Option.toList_some,
      List.any_cons, List.any_nil, Bool.or_false, add_idle, List.map_cons, List.map_nil]

theorem foldlM_fileHeader (quotePath : Bool) (out : List CodeUnits) (s : FileSection) :
    (s.fileHeader quotePath).foldlM readLine (idle out) =
      let names := s.change.sides.1.toList ++ s.change.sides.2.toList
      if names.any (Misplaced quotePath) then none else some (idle (addAll out (names.map firstWord))) := by
  simp only [FileSection.fileHeader, List.foldlM_cons, List.foldlM_nil,
    readLine_side quotePath (Or.inl rfl) (Or.inl rfl), List.any_append, List.map_append, addAll_append]
  by_cases old : s.change.sides.1.toList.any (Misplaced quotePath) = true
  · simp [old]
  · simp only [old, Bool.false_or, Bool.false_eq_true, if_false, Option.bind_eq_bind, Option.bind_some,
      readLine_side quotePath (Or.inr rfl) (Or.inr rfl)]
    split <;> rfl

theorem foldlM_body (quotePath : Bool) (out : List CodeUnits) (s : FileSection) :
    (if s.hunks = [] then [] else s.fileHeader quotePath ++ s.hunks.flatMap Hunk.text).foldlM readLine
        (idle out) =
      if (sideNames s).any (Misplaced quotePath) then none
      else some (idle (addAll out ((sideNames s).map firstWord))) := by
  unfold sideNames
  by_cases bare : s.hunks = []
  · simp only [bare, if_true]
    rfl
  · simp only [bare, if_false, List.foldlM_append, foldlM_fileHeader]
    split
    · rfl
    · exact foldlM_hunks _ _

theorem foldlM_section (quotePath : Bool) (out : List CodeUnits) (s : FileSection) :
    (s.text quotePath).foldlM readLine (idle out) =
      if Refused quotePath s then none else some (idle (addAll out (sectionTargets quotePath s))) := by
  have start (rest : CodeUnits) : readLine (idle out) (codeUnits "diff --git " ++ rest) =
      some (idle out) := by
    rw [readLine_idle, readHeader_diffLine]
  have index (out : List CodeUnits) : (s.index.elim [] fun index => [codeUnits "index " ++ index.1]).foldlM
      readLine (idle out) = some (idle out) := by
    cases s.index with
    | none => rfl
    | some text =>
      rw [Option.elim_some, List.foldlM_cons, readLine_idle, readHeader_index]
      rfl
  simp only [FileSection.text, List.foldlM_append, List.foldlM_cons, List.foldlM_nil, List.append_assoc,
    start, Option.bind_eq_bind, Option.bind_some]
  cases changed : s.modes with
  | some modes =>
    have refused : readLine (idle out) (codeUnits "old mode " ++ modes.1.1) = none := by
      rw [readLine_idle, readHeader_oldMode]
    simp [refused, Refused, changed]
  | none =>
    have reads := foldlM_body quotePath
      (addAll out (s.change.extendedNames.filterMap (extendedTarget quotePath))) s
    simp only [Option.elim_none, List.foldlM_nil, Option.pure_def, Option.bind_some,
      foldlM_extendedHeader, index, reads, sectionTargets, addAll_append]
    simp [Refused, changed]

theorem foldlM_sections (quotePath : Bool) (out : List CodeUnits) (sections : List FileSection) :
    (sections.flatMap (FileSection.text quotePath)).foldlM readLine (idle out) =
      if sections.any (Refused quotePath) then none
      else some (idle (addAll out (sections.flatMap (sectionTargets quotePath)))) := by
  induction sections generalizing out with
  | nil => rfl
  | cons s rest ih =>
    rw [List.flatMap_cons, List.foldlM_append, foldlM_section, List.any_cons, List.flatMap_cons,
      addAll_append]
    by_cases refused : Refused quotePath s = true
    · simp [refused]
    · simp only [refused, Bool.false_eq_true, if_false, Bool.false_or]
      exact ih _

theorem diffTargets_print (quotePath : Bool) (sections : List FileSection) :
    diffTargets (print quotePath sections) =
      if sections.any (Refused quotePath) then []
      else addAll [] (sections.flatMap (sectionTargets quotePath)) := by
  have read : (print quotePath sections).lines.foldlM readLine {} =
      (if sections.any (Refused quotePath) then none
        else some (idle (addAll [] (sections.flatMap (sectionTargets quotePath))))) >>= fun s =>
          List.foldlM readLine s [[]] := by
    rw [← foldlM_sections, lines_print, List.foldlM_append]
    rfl
  rw [diffTargets, read]
  cases sections.any (Refused quotePath) with
  | true => rfl
  | false => rfl

theorem wholeWord_eq_some {text path : CodeUnits} (read : wholeWord text = some path) :
    path = text ∧ path ≠ [] ∧ path.any isSpaceUnit = false := by
  unfold wholeWord at read
  split at read
  · cases read
  · rename_i word
    obtain rfl := Option.some.inj read
    rw [not_or, Bool.not_eq_true] at word
    exact ⟨rfl, word⟩

theorem dropWhile_of_solid {text : CodeUnits} (solid : text.any isSpaceUnit = false) :
    text.dropWhile isSpaceUnit = text := by
  cases text with
  | nil => rfl
  | cons u rest =>
    rw [List.any_cons, Bool.or_eq_false_iff] at solid
    exact List.dropWhile_cons_of_neg (by simp [solid.1])

theorem firstWord_of_solid {text : CodeUnits} (solid : text.any isSpaceUnit = false) :
    firstWord text = text := by
  rw [List.any_eq_false] at solid
  exact List.takeWhile_eq_self_iff.mpr fun u member => by simpa using solid u member

variable {quotePath : Bool}

theorem extendedTarget_of_solid {name path : CodeUnits} (isPath : spelled quotePath name = path)
    (nonempty : path ≠ []) (solid : path.any isSpaceUnit = false) :
    extendedTarget quotePath name = some path := by
  rw [extendedTarget, isPath, dropWhile_of_solid solid, wholeWord, if_neg (by simp [nonempty, solid])]

theorem needsQuoting_of_subset {text name : CodeUnits} (inside : text ⊆ name)
    (plain : needsQuoting quotePath name = false) : needsQuoting quotePath text = false := by
  rw [needsQuoting, List.any_eq_false] at plain ⊢
  exact fun u member => plain u (inside member)

theorem readable_of_mem {sections : List FileSection} {s : FileSection} (member : s ∈ sections)
    (accepted : Refused quotePath s = false) (read : path ∈ sectionTargets quotePath s) :
    Readable quotePath sections path := by
  rw [Refused, Bool.or_eq_false_iff, List.any_eq_false] at accepted
  rcases List.mem_append.mp read with extended | side
  · obtain ⟨name, isName, target⟩ := List.mem_filterMap.mp extended
    obtain ⟨isPath, nonempty, solid⟩ := wholeWord_eq_some target
    refine ⟨nonempty, solid, ?_⟩
    cases quoting : needsQuoting quotePath name with
    | true =>
      refine Or.inr ⟨s, member, name, isName, quoting, ?_⟩
      rw [isPath, spelled, if_pos quoting]
      rfl
    | false =>
      rw [spelled, if_neg (by simp [quoting])] at isPath
      refine Or.inl (needsQuoting_of_subset ?_ quoting)
      rw [isPath]
      exact (List.dropWhile_suffix _).subset
  · obtain ⟨name, isName, rfl⟩ := List.mem_map.mp side
    have placed := accepted.2 name isName
    rw [Bool.not_eq_true, Misplaced, Bool.or_eq_false_iff, decide_eq_false_iff_not] at placed
    refine ⟨placed.2, List.any_eq_false.mpr fun u inside => ?_,
      Or.inl (needsQuoting_of_subset (List.takeWhile_prefix _).subset placed.1)⟩
    simpa using List.mem_takeWhile_imp inside

theorem mem_of_readable {s : FileSection} (written : path ∈ s.written) (nonempty : path ≠ [])
    (solid : path.any isSpaceUnit = false) (plain : needsQuoting quotePath path = false) :
    path ∈ sectionTargets quotePath s := by
  have spells : spelled quotePath path = path := by rw [spelled, if_neg (by simp [plain])]
  have target := extendedTarget_of_solid spells nonempty solid
  have extended (member : path ∈ s.change.extendedNames) : path ∈ sectionTargets quotePath s :=
    List.mem_append_left _ (List.mem_filterMap.mpr ⟨path, member, target⟩)
  have side (member : path ∈ sideNames s) : path ∈ sectionTargets quotePath s :=
    List.mem_append_right _ (List.mem_map.mpr ⟨path, member, firstWord_of_solid solid⟩)
  cases change : s.change with
  | modified name | added name | deleted name =>
    simp only [FileSection.written, change] at written
    split at written
    · cases written
    · rename_i hunks
      apply side
      simpa [sideNames, hunks, change, FileChange.sides] using written
  | renamed source new =>
    apply extended
    simpa [FileSection.written, change, FileChange.extendedNames] using written
  | copied source new =>
    apply extended
    obtain rfl : path = new := by simpa [FileSection.written, change] using written
    simp [change, FileChange.extendedNames]

theorem sectionTargets_eq_nil_iff (quotePath : Bool) (s : FileSection) :
    sectionTargets quotePath s = [] ↔ Unread quotePath s = true := by
  simp only [sectionTargets, List.append_eq_nil_iff, List.map_eq_nil_iff, List.filterMap_eq_nil_iff,
    Unread, Bool.and_eq_true, decide_eq_true_eq, List.all_eq_true, Bool.or_eq_true, extendedTarget,
    wholeWord]
  rw [and_comm]
  refine and_congr_right fun _ => forall₂_congr fun name _ => ?_
  split
  · rename_i unread
    exact iff_of_true rfl unread
  · rename_i read
    exact iff_of_false (by simp) read

/-- The gate sees every file that a patch writes exactly when their names are readable, unless the
patch is refused. -/
theorem gated_iff (quotePath : Bool) (sections : List FileSection) :
    Gated quotePath sections ↔ Accountable quotePath sections := by
  unfold Gated Accountable
  rw [diffTargets_print]
  by_cases refused : sections.any (Refused quotePath) = true
  · rw [if_pos refused]
    exact iff_of_true (fun targets => absurd rfl targets) (Or.inl (List.any_eq_true.mp refused))
  · rw [if_neg refused]
    have accepted : ∀ s ∈ sections, Refused quotePath s = false := by
      simpa using refused
    have target (path : CodeUnits) : path ∈ addAll [] (sections.flatMap (sectionTargets quotePath)) ↔
        ∃ s ∈ sections, path ∈ sectionTargets quotePath s := by
      simp [mem_addAll]
    constructor
    · intro gated
      refine Or.inr ?_
      by_cases unread : ∀ s ∈ sections, Unread quotePath s = true
      · exact Or.inl unread
      · refine Or.inr fun s member path written => ?_
        have targets : addAll [] (sections.flatMap (sectionTargets quotePath)) ≠ [] := by
          intro none
          apply unread
          intro s member
          rw [← sectionTargets_eq_nil_iff, List.eq_nil_iff_forall_not_mem]
          intro path read
          exact absurd ((target path).mpr ⟨s, member, read⟩) (by simp [none])
        obtain ⟨s', member', read⟩ := (target path).mp (gated targets s member path written)
        exact readable_of_mem member' (accepted s' member') read
    · rintro (⟨s, member, refused⟩ | unread | readable) targets s' member' path written
      · simp [accepted s member] at refused
      · obtain ⟨first, rest, starts⟩ := List.exists_cons_of_ne_nil targets
        obtain ⟨s, member, read⟩ := (target first).mp (by simp [starts])
        rw [(sectionTargets_eq_nil_iff quotePath s).mpr (unread s member)] at read
        cases read
      · rw [target]
        obtain ⟨nonempty, solid, plain | ⟨s, member, name, isName, -, spells⟩⟩ :=
          readable s' member' path written
        · exact ⟨s', member', mem_of_readable written nonempty solid plain⟩
        · refine ⟨s, member, List.mem_append_left _ (List.mem_filterMap.mpr ⟨name, isName, ?_⟩)⟩
          exact extendedTarget_of_solid spells nonempty solid

/-- A line of a file changes whose name has a space in it. -/
def spacedFile : FileSection where
  change := .modified (codeUnits "src/my page.ts")
  mode := ⟨[], by decide⟩
  modes := none
  similarity := 0
  index := none
  hunks := [⟨1, 1, none, [.removed ⟨codeUnits "a", by decide⟩, .added ⟨codeUnits "b", by decide⟩]⟩]

/-- The gate sees `src/my`, and the patch is applied to `src/my page.ts`. -/
theorem spaced_file_ungated : ¬Gated true [spacedFile] := by
  have targets : diffTargets (print true [spacedFile]) = [codeUnits "src/my"] := by decide +kernel
  intro gated
  rw [Gated, targets] at gated
  have seen := gated (by decide) spacedFile (by simp) (codeUnits "src/my page.ts") (by
    simp [FileSection.written, spacedFile])
  revert seen
  decide +kernel

theorem gated_iff_patch (quotePath : Bool) (sections : List FileSection) :
    Gated quotePath sections ↔ ∀ gate, patch gate (print quotePath sections) = true →
      ∀ s ∈ sections, ∀ path ∈ s.written, gate path = true := by
  simp only [patch, Bool.and_eq_true, decide_eq_true_eq, List.all_eq_true]
  constructor
  · rintro gated gate ⟨targets, authorized⟩ s member path written
    exact authorized path (gated targets s member path written)
  · intro applied targets s member path written
    have seen := applied (fun path => path ∈ diffTargets (print quotePath sections)) ⟨targets, by simp⟩
      s member path written
    exact of_decide_eq_true seen

end Opslane.Harness
