import Opslane.Lib.Bytes

/-!
# Git diffs

A diff is a list of sections, one for each file that changes, and its text is what git prints for
them. A name with a control character, a quote or a backslash is printed in quotes and with escapes,
and so is a name outside ASCII where `core.quotePath` is on; a space stands as it is.
-/

namespace GitDiff

/-- A text without a newline. -/
abbrev Line := { text : CodeUnits // CodeUnits.newline ∉ text }

def decimal (n : Nat) : CodeUnits := codeUnits (toString n)

def needsQuoting (quotePath : Bool) (name : CodeUnits) : Bool :=
  name.any fun u => u < 0x20 || u == 0x7f || u == codeUnit '"' || u == codeUnit '\\' ||
    quotePath && 0x80 ≤ u

def octal (n : Nat) : CodeUnits :=
  codeUnits "\\" ++ [n / 64, n / 8 % 8, n % 8].map fun d => (48 + d).toUInt16

/-- The escape of a character below 128. -/
def escapeAscii (n : Nat) : CodeUnits :=
  match n with
  | 7 => codeUnits "\\a"
  | 8 => codeUnits "\\b"
  | 9 => codeUnits "\\t"
  | 10 => codeUnits "\\n"
  | 11 => codeUnits "\\v"
  | 12 => codeUnits "\\f"
  | 13 => codeUnits "\\r"
  | 34 => codeUnits "\\\""
  | 92 => codeUnits "\\\\"
  | n => if n < 32 ∨ n = 127 then octal n else [n.toUInt16]

def escape (quotePath : Bool) (n : Nat) : CodeUnits :=
  if n < 0x80 then escapeAscii n
  else if quotePath then (Bytes.ofScalar n).flatMap fun b => octal b.toNat
  else CodeUnits.ofScalar n

def quoted (quotePath : Bool) (name : CodeUnits) : CodeUnits :=
  codeUnits "\"" ++ name.scalars.flatMap (escape quotePath) ++ codeUnits "\""

/-- A name as git prints it. -/
def spelled (quotePath : Bool) (name : CodeUnits) : CodeUnits :=
  if needsQuoting quotePath name then quoted quotePath name else name

/-- A name in a file header; a tab ends a name with a space in it. -/
def label (quotePath : Bool) (side name : CodeUnits) : CodeUnits :=
  let text := spelled quotePath (side ++ name)
  text ++ if codeUnit ' ' ∈ text then codeUnits "\t" else []

inductive HunkLine where
  | context (content : Line)
  /-- An empty line of the context that is printed without its space. -/
  | blank
  | removed (content : Line)
  | added (content : Line)
  /-- The line before has no newline at its end. -/
  | noNewline

namespace HunkLine

def text : HunkLine → CodeUnits
  | context content => codeUnit ' ' :: content.1
  | blank => []
  | removed content => codeUnit '-' :: content.1
  | added content => codeUnit '+' :: content.1
  | noNewline => codeUnits "\\ No newline at end of file"

def isOld : HunkLine → Bool
  | context _ | blank | removed _ => true
  | added _ | noNewline => false

def isNew : HunkLine → Bool
  | context _ | blank | added _ => true
  | removed _ | noNewline => false

end HunkLine

structure Hunk where
  oldStart : Nat
  newStart : Nat
  heading : Option Line
  lines : List HunkLine

namespace Hunk

/-- A count of one is left out. -/
def range (start count : Nat) : CodeUnits :=
  decimal start ++ if count = 1 then [] else codeUnits "," ++ decimal count

def header (h : Hunk) : CodeUnits :=
  codeUnits "@@ -" ++ (range h.oldStart (h.lines.countP HunkLine.isOld) ++
    (codeUnits " +" ++ (range h.newStart (h.lines.countP HunkLine.isNew) ++
      (codeUnits " @@" ++ h.heading.elim [] fun heading => codeUnits " " ++ heading.1))))

def text (h : Hunk) : List CodeUnits := h.header :: h.lines.map HunkLine.text

end Hunk

inductive FileChange where
  | modified (path : CodeUnits)
  | added (path : CodeUnits)
  | deleted (path : CodeUnits)
  | renamed (source target : CodeUnits)
  | copied (source target : CodeUnits)

/-- A section. Without a hunk it has no file headers. -/
structure FileSection where
  change : FileChange
  /-- The mode of a file that comes or goes. -/
  mode : Line
  /-- The old and the new mode, where a file that stays changes its mode. -/
  modes : Option (Line × Line)
  similarity : Nat
  index : Option Line
  hunks : List Hunk

namespace FileChange

def old : FileChange → CodeUnits
  | modified path | added path | deleted path => path
  | renamed source _ | copied source _ => source

def new : FileChange → CodeUnits
  | modified path | added path | deleted path => path
  | renamed _ target | copied _ target => target

/-- The names behind `---` and `+++`; the side that is missing is `/dev/null`. -/
def sides : FileChange → Option CodeUnits × Option CodeUnits
  | modified path => (some path, some path)
  | added path => (none, some path)
  | deleted path => (some path, none)
  | renamed source target | copied source target => (some source, some target)

/-- The names of the rename and copy headers. -/
def extendedNames : FileChange → List CodeUnits
  | renamed source target | copied source target => [source, target]
  | _ => []

end FileChange

namespace FileSection

def extendedHeader (quotePath : Bool) (s : FileSection) : List CodeUnits :=
  match s.change with
  | .modified _ => []
  | .added _ => [codeUnits "new file mode " ++ s.mode.1]
  | .deleted _ => [codeUnits "deleted file mode " ++ s.mode.1]
  | .renamed source target =>
    [codeUnits "similarity index " ++ decimal s.similarity ++ codeUnits "%",
      codeUnits "rename from " ++ spelled quotePath source,
      codeUnits "rename to " ++ spelled quotePath target]
  | .copied source target =>
    [codeUnits "similarity index " ++ decimal s.similarity ++ codeUnits "%",
      codeUnits "copy from " ++ spelled quotePath source,
      codeUnits "copy to " ++ spelled quotePath target]

def devNull : CodeUnits := codeUnits "/dev/null"

def fileHeader (quotePath : Bool) (s : FileSection) : List CodeUnits :=
  [codeUnits "--- " ++ s.change.sides.1.elim devNull (label quotePath (codeUnits "a/")),
    codeUnits "+++ " ++ s.change.sides.2.elim devNull (label quotePath (codeUnits "b/"))]

/-- The lines of a section. -/
def text (quotePath : Bool) (s : FileSection) : List CodeUnits :=
  [codeUnits "diff --git " ++ spelled quotePath (codeUnits "a/" ++ s.change.old) ++ codeUnits " " ++
    spelled quotePath (codeUnits "b/" ++ s.change.new)] ++
  (s.modes.elim [] fun modes =>
    [codeUnits "old mode " ++ modes.1.1, codeUnits "new mode " ++ modes.2.1]) ++
  s.extendedHeader quotePath ++
  (s.index.elim [] fun index => [codeUnits "index " ++ index.1]) ++
  if s.hunks = [] then [] else s.fileHeader quotePath ++ s.hunks.flatMap Hunk.text

/-- What applying the section creates, modifies or deletes, by its file, rename and copy headers. -/
def written (s : FileSection) : List CodeUnits :=
  match s.change with
  | .modified path | .added path | .deleted path => if s.hunks = [] then [] else [path]
  | .renamed source target => [source, target]
  | .copied _ target => [target]

end FileSection

/-- The text of a diff. -/
def print (quotePath : Bool) (sections : List FileSection) : CodeUnits :=
  (sections.flatMap (FileSection.text quotePath)).flatMap fun line => line ++ [CodeUnits.newline]

theorem decimal_digits {n : Nat} {u : UInt16} (member : u ∈ decimal n) :
    codeUnit '0' ≤ u ∧ u ≤ codeUnit '9' := by
  obtain ⟨c, digit, rfl⟩ := List.mem_map.mp member
  rw [Nat.toString_eq_ofList_toDigits, String.toList_ofList] at digit
  have isDigit := Nat.isDigit_of_mem_toDigits (by decide) (by decide) digit
  simp only [Char.isDigit, Bool.and_eq_true, decide_eq_true_eq, ge_iff_le,
    UInt32.le_iff_toNat_le] at isDigit
  have low : 48 ≤ c.toNat := isDigit.1
  have high : c.toNat ≤ 57 := isDigit.2
  have value : (codeUnit c).toNat = c.toNat := CodeUnits.toNat_toUInt16 (by omega)
  rw [UInt16.le_iff_toNat_le, UInt16.le_iff_toNat_le, value]
  exact ⟨low, high⟩

theorem decimal_ne_nil (n : Nat) : decimal n ≠ [] := by
  simp [decimal, codeUnits]

theorem newline_not_mem_decimal (n : Nat) : CodeUnits.newline ∉ decimal n := by
  intro member
  exact absurd (decimal_digits member).1 (by decide)

theorem newline_not_mem_escape (quotePath : Bool) {n : Nat} (valid : CodeUnits.IsScalar n) :
    CodeUnits.newline ∉ escape quotePath n := by
  have ascii : ∀ n < 0x80, CodeUnits.newline ∉ escapeAscii n := by decide +kernel
  have bytes : ∀ n < 0x100, CodeUnits.newline ∉ octal n := by decide +kernel
  unfold escape
  split
  · exact ascii n ‹_›
  · rename_i wide
    split
    · intro member
      obtain ⟨b, -, inside⟩ := List.mem_flatMap.mp member
      exact bytes b.toNat b.toNat_lt inside
    · have bound : n < 0x110000 := by
        rcases valid with low | high <;> omega
      have other {k : Nat} (fits : k < 0x10000) (large : 0x80 ≤ k) :
          CodeUnits.newline ≠ k.toUInt16 := by
        intro same
        have := congrArg UInt16.toNat same
        rw [CodeUnits.toNat_toUInt16 fits] at this
        have : CodeUnits.newline.toNat = 10 := by decide
        omega
      unfold CodeUnits.ofScalar
      split
      · rw [List.mem_singleton]
        exact other (by omega) (by omega)
      · rw [List.mem_pair, not_or]
        exact ⟨other (by omega) (by omega), other (by omega) (by omega)⟩

theorem newline_not_mem_spelled (quotePath : Bool) (name : CodeUnits) :
    CodeUnits.newline ∉ spelled quotePath name := by
  unfold spelled
  split
  · have quote : CodeUnits.newline ∉ codeUnits "\"" := CodeUnits.newline_not_mem_codeUnits _ (by decide)
    rw [quoted, List.mem_append, List.mem_append, not_or, not_or]
    refine ⟨⟨quote, ?_⟩, quote⟩
    intro member
    obtain ⟨n, scalar, inside⟩ := List.mem_flatMap.mp member
    exact newline_not_mem_escape quotePath (CodeUnits.isScalar_of_mem_scalars name n scalar) inside
  · rename_i plain
    intro member
    apply plain
    exact List.any_eq_true.mpr ⟨_, member, by simp [CodeUnits.newline, codeUnit]⟩

/-- The line has no newline in it. -/
def IsLine (text : CodeUnits) : Prop := CodeUnits.newline ∉ text

theorem IsLine.append {first second : CodeUnits} (one : IsLine first) (other : IsLine second) :
    IsLine (first ++ second) :=
  fun member => (List.mem_append.mp member).elim one other

theorem isLine_literal (chars : List Char)
    (single : chars.all (fun c => CodeUnits.newline ≠ codeUnit c) = true) :
    IsLine (codeUnits (String.ofList chars)) :=
  CodeUnits.newline_not_mem_codeUnits chars single

theorem isLine_label (quotePath : Bool) (side name : CodeUnits) : IsLine (label quotePath side name) := by
  unfold label
  refine IsLine.append (newline_not_mem_spelled quotePath _) ?_
  split
  · exact isLine_literal _ (by decide)
  · exact List.not_mem_nil

theorem isLine_range (start count : Nat) : IsLine (Hunk.range start count) := by
  unfold Hunk.range
  refine IsLine.append (newline_not_mem_decimal start) ?_
  split
  · exact List.not_mem_nil
  · exact (isLine_literal _ (by decide)).append (newline_not_mem_decimal count)

theorem isLine_hunkLine (line : HunkLine) : IsLine line.text := by
  cases line with
  | context content => exact (isLine_literal [' '] (by decide)).append content.2
  | blank => exact List.not_mem_nil
  | removed content => exact (isLine_literal ['-'] (by decide)).append content.2
  | added content => exact (isLine_literal ['+'] (by decide)).append content.2
  | noNewline => exact isLine_literal _ (by decide)

theorem isLine_hunk (h : Hunk) : ∀ line ∈ h.text, IsLine line := by
  intro line member
  rcases List.mem_cons.mp member with rfl | body
  · refine IsLine.append (isLine_literal _ (by decide)) ?_
    refine (isLine_range _ _).append (IsLine.append (isLine_literal _ (by decide)) ?_)
    refine (isLine_range _ _).append (IsLine.append (isLine_literal _ (by decide)) ?_)
    cases h.heading with
    | none => exact List.not_mem_nil
    | some heading => exact IsLine.append (isLine_literal _ (by decide)) heading.2
  · obtain ⟨hunkLine, -, rfl⟩ := List.mem_map.mp body
    exact isLine_hunkLine hunkLine

theorem isLine_extendedHeader (quotePath : Bool) (s : FileSection) :
    ∀ line ∈ s.extendedHeader quotePath, IsLine line := by
  have name (word : List Char) (path : CodeUnits)
      (single : word.all (fun c => CodeUnits.newline ≠ codeUnit c) = true) :
      IsLine (codeUnits (String.ofList word) ++ spelled quotePath path) :=
    (isLine_literal word single).append (newline_not_mem_spelled quotePath path)
  have similarity : IsLine (codeUnits "similarity index " ++ decimal s.similarity ++ codeUnits "%") :=
    ((isLine_literal _ (by decide)).append (newline_not_mem_decimal _)).append
      (isLine_literal _ (by decide))
  unfold FileSection.extendedHeader
  cases s.change with
  | modified path => simp
  | added path => simpa using (isLine_literal _ (by decide)).append s.mode.2
  | deleted path => simpa using (isLine_literal _ (by decide)).append s.mode.2
  | renamed source target =>
    simpa using ⟨similarity, name _ source (by decide), name _ target (by decide)⟩
  | copied source target =>
    simpa using ⟨similarity, name _ source (by decide), name _ target (by decide)⟩

theorem isLine_fileHeader (quotePath : Bool) (s : FileSection) :
    ∀ line ∈ s.fileHeader quotePath, IsLine line := by
  have side (word : List Char) (p : CodeUnits) (name : Option CodeUnits)
      (single : word.all (fun c => CodeUnits.newline ≠ codeUnit c) = true) :
      IsLine (codeUnits (String.ofList word) ++ name.elim FileSection.devNull (label quotePath p)) := by
    refine (isLine_literal word single).append ?_
    cases name with
    | none => exact isLine_literal _ (by decide)
    | some name => exact isLine_label quotePath p name
  simpa [FileSection.fileHeader] using ⟨side _ (codeUnits "a/") s.change.sides.1 (by decide),
    side _ (codeUnits "b/") s.change.sides.2 (by decide)⟩

theorem isLine_section (quotePath : Bool) (s : FileSection) : ∀ line ∈ s.text quotePath, IsLine line := by
  intro line member
  simp only [FileSection.text, List.mem_append] at member
  rcases member with (((start | modes) | extended) | index) | body
  · obtain rfl := List.mem_singleton.mp start
    have word : IsLine (codeUnits "diff --git ") := isLine_literal _ (by decide)
    have space : IsLine (codeUnits " ") := isLine_literal _ (by decide)
    exact ((word.append (newline_not_mem_spelled quotePath _)).append space).append
      (newline_not_mem_spelled quotePath _)
  · cases changed : s.modes with
    | none => simp [changed] at modes
    | some pair =>
      rw [changed] at modes
      rcases List.mem_pair.mp modes with rfl | rfl
      · exact IsLine.append (isLine_literal _ (by decide)) pair.1.2
      · exact IsLine.append (isLine_literal _ (by decide)) pair.2.2
  · exact isLine_extendedHeader quotePath s line extended
  · cases indexed : s.index with
    | none => simp [indexed] at index
    | some text =>
      rw [indexed] at index
      obtain rfl := List.mem_singleton.mp index
      exact IsLine.append (isLine_literal _ (by decide)) text.2
  · split at body
    · cases body
    · rcases List.mem_append.mp body with header | hunks
      · exact isLine_fileHeader quotePath s line header
      · obtain ⟨h, -, inside⟩ := List.mem_flatMap.mp hunks
        exact isLine_hunk h line inside

theorem lines_flatMap {texts : List CodeUnits} (single : ∀ text ∈ texts, IsLine text) :
    CodeUnits.lines (texts.flatMap fun line => line ++ [CodeUnits.newline]) = texts ++ [[]] := by
  induction texts with
  | nil => rfl
  | cons text rest ih =>
    rw [List.flatMap_cons, List.append_assoc, List.singleton_append, CodeUnits.lines_append_newline,
      CodeUnits.lines_of_not_mem (single text List.mem_cons_self),
      ih fun line later => single line (List.mem_cons_of_mem _ later)]
    rfl

theorem lines_print (quotePath : Bool) (sections : List FileSection) :
    (print quotePath sections).lines = sections.flatMap (FileSection.text quotePath) ++ [[]] := by
  refine lines_flatMap fun line member => ?_
  obtain ⟨s, -, inside⟩ := List.mem_flatMap.mp member
  exact isLine_section quotePath s line inside

end GitDiff
