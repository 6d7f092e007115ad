import Opslane.Grouping.ImageOrder

/-!
# The parts of a rewritten line

A line that is being rewritten consists of bytes of its own, some of which are cut out in the end, and
of references, each of which stands for the file of an image and is written as the image's token. A
file that cannot be read across the edge of a token, or inside one, is only replaced where it consists
of bytes of the line.
-/

namespace Opslane.Grouping

open GoStrings Scan

inductive Part where
  | byte (b : UInt8)
  | cut (b : UInt8)
  | ref (image : SourceImage)
  deriving DecidableEq

/-- What the part is of the original line. -/
def Part.original : Part → Bytes
  | .byte b | .cut b => [b]
  | .ref image => image.codeFile

/-- What the part is written as. -/
def Part.rendered : Part → Bytes
  | .byte b => [b]
  | .cut _ => []
  | .ref image => image.token

def original (parts : List Part) : Bytes := parts.flatMap Part.original

def rendered (parts : List Part) : Bytes := parts.flatMap Part.rendered

/-- The references to an image spelled out again. -/
def Part.expand (image : SourceImage) : Part → List Part
  | .ref other => if other = image then image.codeFile.map .byte else [.ref other]
  | part => [part]

/-- Nothing is cut out yet. -/
def Plain (parts : List Part) : Prop := ∀ b, .cut b ∉ parts

/-- A part of a token is a part of the file: on each side only one of the two goes on, and where the
file ends inside the token a frame token may end. -/
def ReadsInto (codeFile token : Bytes) : Prop :=
  ∃ front inner back left right, token = front ++ inner ++ back ∧ inner ≠ [] ∧
    codeFile = left ++ inner ++ right ∧ (left = [] ∨ front = []) ∧ (right = [] ∨ back = []) ∧
    front.getLast?.all isTokenBoundary ∧ back.head?.all isTokenBoundary

@[simp] theorem rendered_nil : rendered [] = [] := rfl

@[simp] theorem rendered_cons (part : Part) (parts : List Part) :
    rendered (part :: parts) = part.rendered ++ rendered parts := rfl

@[simp] theorem rendered_append (parts more : List Part) :
    rendered (parts ++ more) = rendered parts ++ rendered more := List.flatMap_append

@[simp] theorem original_nil : original [] = [] := rfl

@[simp] theorem original_cons (part : Part) (parts : List Part) :
    original (part :: parts) = part.original ++ original parts := rfl

@[simp] theorem original_append (parts more : List Part) :
    original (parts ++ more) = original parts ++ original more := List.flatMap_append

@[simp] theorem rendered_bytes (text : Bytes) : rendered (text.map .byte) = text := by
  induction text with
  | nil => rfl
  | cons b rest ih => rw [List.map_cons, rendered_cons, ih]; rfl

@[simp] theorem original_bytes (text : Bytes) : original (text.map .byte) = text := by
  induction text with
  | nil => rfl
  | cons b rest ih => rw [List.map_cons, original_cons, ih]; rfl

theorem original_expand (image : SourceImage) (parts : List Part) :
    original (parts.flatMap (Part.expand image)) = original parts := by
  induction parts with
  | nil => rfl
  | cons part rest ih =>
    rw [List.flatMap_cons, original_append, ih, original_cons]
    refine congrArg (· ++ original rest) ?_
    cases part with
    | byte b => rfl
    | cut b => rfl
    | ref other =>
      rw [Part.expand]
      split
      · rename_i same
        rw [original_bytes, same]
        rfl
      · exact List.append_nil _

variable {parts : List Part}

theorem Plain.of_cons {part : Part} (plain : Plain (part :: parts)) : Plain parts :=
  fun b member => plain b (List.mem_cons_of_mem _ member)

theorem token_ne_nil (image : SourceImage) : image.token ≠ [] := by
  intro empty
  rw [SourceImage.token] at empty
  cases empty

theorem prefix_cases {a b c : Bytes} (begins : a <+: b ++ c) :
    (∃ z, b = a ++ z) ∨ ∃ r, a = b ++ r := by
  obtain ⟨rest, same⟩ := begins
  rcases List.append_eq_append_iff.mp same with ⟨z, left, -⟩ | ⟨r, left, -⟩
  · exact Or.inl ⟨z, left⟩
  · exact Or.inr ⟨r, left⟩

theorem replaceFrom_skip (codeFile token : Bytes) (skipped text : Bytes) (previous : Option UInt8) :
    replaceFrom codeFile token skipped.length previous (skipped ++ text) =
      replaceFrom codeFile token 0 (skipped.getLast?.or previous) text := by
  induction skipped generalizing previous with
  | nil => rfl
  | cons b rest ih =>
    rw [List.length_cons, List.cons_append, replaceFrom, ih]
    congr 1
    cases rest with
    | nil => rfl
    | cons c more => simp [List.getLast?_cons]

theorem replaceFrom_token (token : Bytes) {codeFile : Bytes} {image : SourceImage} (some_ : codeFile ≠ [])
    (apart : ¬ReadsInto codeFile image.token) (front inner text : Bytes)
    (split_ : image.token = front ++ inner) (previous : Option UInt8)
    (before : front ≠ [] → previous = front.getLast?) :
    ∃ previous', replaceFrom codeFile token 0 previous (inner ++ text) =
      inner ++ replaceFrom codeFile token 0 previous' text := by
  induction inner generalizing front previous with
  | nil => exact ⟨previous, rfl⟩
  | cons c inner ih =>
    have clear : ¬(codeFile.isPrefixOf (c :: (inner ++ text)) ∧ previous.all isTokenBoundary ∧
        ((c :: (inner ++ text)).drop codeFile.length).head?.all isTokenBoundary) := by
      rintro ⟨begins, boundary, behind⟩
      have leading : front.getLast?.all isTokenBoundary := by
        cases front with
        | nil => rfl
        | cons d front => rwa [before (List.cons_ne_nil _ _)] at boundary
      rcases prefix_cases (b := c :: inner) (c := text) (List.isPrefixOf_iff_prefix.mp begins) with
        ⟨back, inside⟩ | ⟨right, beyond⟩
      · refine apart ⟨front, codeFile, back, [], [], ?_, some_, by simp, Or.inl rfl, Or.inl rfl, leading, ?_⟩
        · rw [split_, inside, List.append_assoc]
        · rw [← List.cons_append, inside, List.append_assoc, List.drop_left] at behind
          cases back with
          | nil => rfl
          | cons d back => exact behind
      · exact apart ⟨front, c :: inner, [], [], right, by rw [split_, List.append_nil],
          List.cons_ne_nil _ _, beyond, Or.inl rfl, Or.inr rfl, leading, rfl⟩
    obtain ⟨previous', rest⟩ := ih (front ++ [c]) (by rw [split_, List.append_assoc]; rfl) (some c)
      fun _ => by rw [List.getLast?_concat]
    exact ⟨previous', by rw [List.cons_append, replaceFrom, if_neg clear, rest, List.cons_append]⟩

theorem bytes_of_prefix {codeFile right : Bytes} (left : Bytes) (plain : Plain parts)
    (apart : ∀ image, .ref image ∈ parts → ¬ReadsInto codeFile image.token)
    (split_ : codeFile = left ++ right) (begun : left ≠ []) (begins : right <+: rendered parts)
    (behind : ((rendered parts).drop right.length).head?.all isTokenBoundary) :
    ∃ rest, parts = right.map .byte ++ rest := by
  induction right generalizing left parts with
  | nil => exact ⟨parts, rfl⟩
  | cons c right ih =>
    cases parts with
    | nil => exact absurd (List.prefix_nil.mp begins) (List.cons_ne_nil _ _)
    | cons part parts =>
      cases part with
      | byte b =>
        rw [rendered_cons] at begins behind
        obtain ⟨rfl, later⟩ := List.cons_prefix_cons.mp begins
        obtain ⟨rest, rfl⟩ := ih (left ++ [c]) plain.of_cons
          (fun image member => apart image (List.mem_cons_of_mem _ member)) (by rw [split_, List.append_assoc]; rfl) (by simp) later behind
        exact ⟨rest, rfl⟩
      | cut b => exact absurd List.mem_cons_self (plain b)
      | ref image =>
        exfalso
        rw [rendered_cons] at begins behind
        rcases prefix_cases begins with ⟨back, inside⟩ | ⟨over_, beyond⟩
        · have inside : image.token = (c :: right) ++ back := inside
          refine apart image List.mem_cons_self ⟨[], c :: right, back, left, [], inside,
            List.cons_ne_nil _ _, by rw [split_, List.append_nil], Or.inr rfl, Or.inl rfl, rfl, ?_⟩
          rw [Part.rendered, inside, List.append_assoc, List.drop_left] at behind
          cases back with
          | nil => rfl
          | cons d back => exact behind
        · have beyond : c :: right = image.token ++ over_ := beyond
          exact apart image List.mem_cons_self ⟨[], image.token, [], left, over_, by simp,
            token_ne_nil image, by rw [split_, beyond, List.append_assoc], Or.inr rfl, Or.inr rfl, rfl, rfl⟩

theorem replaceFrom_parts {image : SourceImage} (some_ : image.codeFile ≠ []) (plain : Plain parts)
    (new : .ref image ∉ parts)
    (apart : ∀ other, .ref other ∈ parts → ¬ReadsInto image.codeFile other.token)
    (previous : Option UInt8) :
    ∃ parts', rendered parts' = replaceFrom image.codeFile image.token 0 previous (rendered parts) ∧
      parts'.flatMap (Part.expand image) = parts ∧ Plain parts' := by
  generalize size : parts.length = n
  induction n using Nat.strongRecOn generalizing parts previous with
  | ind n ih =>
    subst size
    cases parts with
    | nil => exact ⟨[], rfl, rfl, plain⟩
    | cons part rest =>
      have restNew : .ref image ∉ rest := fun member => new (List.mem_cons_of_mem _ member)
      have restApart (other : SourceImage) (member : .ref other ∈ rest) :=
        apart other (List.mem_cons_of_mem _ member)
      cases part with
      | cut b => exact absurd List.mem_cons_self (plain b)
      | byte b =>
        have text : rendered (.byte b :: rest) = b :: rendered rest := rfl
        rw [text, replaceFrom]
        split
        · rename_i found
          obtain ⟨begins, -, behind⟩ := found
          obtain ⟨c, tail, file⟩ := List.exists_cons_of_ne_nil some_
          rw [file] at begins behind
          obtain ⟨same, tailBegins⟩ := List.cons_prefix_cons.mp (List.isPrefixOf_iff_prefix.mp begins)
          subst same
          obtain ⟨rest', rfl⟩ := bytes_of_prefix [c] plain.of_cons restApart file
            (List.cons_ne_nil _ _) tailBegins behind
          have shorter : rest'.length < (Part.byte c :: (tail.map .byte ++ rest')).length := by
            rw [List.length_cons, List.length_append]
            omega
          obtain ⟨parts', render, expand, plain'⟩ := ih rest'.length shorter
            (fun d member => plain d (List.mem_cons_of_mem _ (List.mem_append_right _ member)))
            (fun member => restNew (List.mem_append_right _ member))
            (fun other member => restApart other (List.mem_append_right _ member))
            (tail.getLast?.or (some c)) rfl
          refine ⟨.ref image :: parts', ?_, ?_, fun d member => ?_⟩
          · have length : image.codeFile.length - 1 = tail.length := by rw [file]; rfl
            rw [rendered_cons, render, rendered_append, rendered_bytes, length, replaceFrom_skip]
            rfl
          · rw [List.flatMap_cons, expand, Part.expand, if_pos rfl, file]
            rfl
          · exact plain' d ((List.mem_cons.mp member).resolve_left (by simp))
        · obtain ⟨parts', render, expand, plain'⟩ := ih rest.length (Nat.lt_succ_self _) plain.of_cons
            restNew restApart (some b) rfl
          refine ⟨.byte b :: parts', ?_, ?_, fun d member => ?_⟩
          · rw [rendered_cons, render]
            rfl
          · rw [List.flatMap_cons, expand]
            rfl
          · exact plain' d ((List.mem_cons.mp member).resolve_left (by simp))
      | ref other =>
        obtain ⟨previous', passed⟩ := replaceFrom_token image.token some_
          (apart other List.mem_cons_self) [] other.token (rendered rest) rfl previous
          (fun begun => absurd rfl begun)
        obtain ⟨parts', render, expand, plain'⟩ := ih rest.length (Nat.lt_succ_self _) plain.of_cons
          restNew restApart previous' rfl
        refine ⟨.ref other :: parts', ?_, ?_, fun d member => ?_⟩
        · rw [rendered_cons, render, rendered_cons]
          exact passed.symm
        · have different : other ≠ image := fun same => new (by rw [← same]; exact List.mem_cons_self)
          rw [List.flatMap_cons, expand, Part.expand, if_neg different]
          rfl
        · exact plain' d ((List.mem_cons.mp member).resolve_left (by simp))

end Opslane.Grouping
