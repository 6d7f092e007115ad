import Mathlib.Data.List.TakeWhile
import Opslane.Grouping.Images

/-!
# What a fingerprint depends on

Which images an event has decides its fingerprint, in whatever order and however often they came.
Where none of them stands in a leading line the fingerprint is that of the stack alone; and where the
platform is not Python, only the leading lines count.
-/

namespace Opslane.Grouping

open GoStrings Scan

/-- A file stands in a line as a frame's file reference. -/
def StandsIn (codeFile line : Bytes) : Prop :=
  ∃ front behind, line = front ++ codeFile ++ behind ∧ front.getLast?.all isTokenBoundary ∧
    behind.head?.all isTokenBoundary

/-- No image has a file in a leading line that can be rewritten. -/
def NoImageMatches (stack : Bytes) (images : List SourceImage) : Prop :=
  ∀ line ∈ (lines stack).take hashedFrameCount, collapsesHashedAsset line = false →
    ∀ codeFile debugID, StandsFor images codeFile debugID → ¬StandsIn codeFile line

theorem replaceFrom_of_absent {codeFile : Bytes} (token front text : Bytes)
    (absent : ¬StandsIn codeFile (front ++ text)) :
    replaceFrom codeFile token 0 front.getLast? text = text := by
  induction text generalizing front with
  | nil => rfl
  | cons b rest ih =>
    rw [replaceFrom, if_neg]
    · have next := ih (front ++ [b]) (by rwa [List.append_assoc])
      rw [List.getLast?_concat] at next
      rw [next]
    · rintro ⟨begins, before, behind⟩
      obtain ⟨behind_, split_⟩ := List.isPrefixOf_iff_prefix.mp begins
      rw [← split_, List.drop_left] at behind
      refine absent ⟨front, behind_, ?_, before, behind⟩
      rw [← split_, List.append_assoc]

variable {images : List SourceImage}

variable {line : Bytes}

theorem substitute_of_absent (absent : ∀ image ∈ images, ¬StandsIn image.codeFile line) :
    substitute images line = line := by
  induction images with
  | nil => rfl
  | cons image rest ih =>
    have first : replaceFrameToken line image.codeFile image.token = line :=
      replaceFrom_of_absent image.token [] line (absent image List.mem_cons_self)
    rw [substitute, List.foldl_cons, first]
    exact ih fun other member => absent other (List.mem_cons_of_mem _ member)

theorem applyDebugIDs_of_absent {stack : Bytes} (absent : NoImageMatches stack images) :
    applyDebugIDs stack images = (stack, false) := by
  have none_ : ((lines stack).take hashedFrameCount).any (rewrites (usableImages images)) = false := by
    rw [List.any_eq_false]
    intro line member
    cases collapses : collapsesHashedAsset line with
    | true => simp [rewrites, collapses]
    | false =>
      have same : substitute (usableImages images) line = line :=
        substitute_of_absent fun image usable =>
          absent line member collapses _ _ ((mem_usableImages images image).mp usable)
      simp [rewrites, same]
  unfold applyDebugIDs
  split
  · rfl
  · dsimp only
    rw [none_]
    exact if_pos (Or.inr rfl)

variable {b : UInt8}

theorem mem_replaceFrom {codeFile token text : Bytes} {skip : Nat} {previous : Option UInt8}
    (member : b ∈ replaceFrom codeFile token skip previous text) : b ∈ text ∨ b ∈ token := by
  induction text generalizing skip previous with
  | nil => cases member
  | cons c rest ih =>
    have later {skip : Nat} {previous : Option UInt8}
        (member : b ∈ replaceFrom codeFile token skip previous rest) : b ∈ c :: rest ∨ b ∈ token :=
      (ih member).imp_left (List.mem_cons_of_mem c)
    cases skip with
    | succ skip => exact later member
    | zero =>
      rw [replaceFrom] at member
      split at member
      · rcases List.mem_append.mp member with inserted | rest_
        · exact Or.inr inserted
        · exact later rest_
      · rcases List.mem_cons.mp member with rfl | rest_
        · exact Or.inl List.mem_cons_self
        · exact later rest_

theorem debugQuery_spec {text kept rest : Bytes} (found : debugQuery text = some (kept, rest)) :
    ∃ query, text = kept ++ byte '?' :: query ++ rest ∧
      (∀ b ∈ query, isBlank b = false ∧ b ≠ byte ':' ∧ b ≠ byte ')') ∧
      ∃ inner, byte '>' ∉ inner ∧ kept = Bytes.ascii "<debug:" ++ inner ++ [byte '>'] := by
  have after_spec {beginning text rest : Bytes} (found : after beginning text = some rest) :
      text = beginning ++ rest := by
    unfold after at found
    split at found
    · rename_i begins
      obtain ⟨rest', split_⟩ := List.isPrefixOf_iff_prefix.mp begins
      cases found
      rw [← split_, List.drop_left]
    · cases found
  unfold debugQuery at found
  obtain ⟨opened, first, found⟩ := Option.bind_eq_some_iff.mp found
  dsimp only at found
  obtain ⟨closed, second, found⟩ := Option.bind_eq_some_iff.mp found
  obtain ⟨asked, third, found⟩ := Option.bind_eq_some_iff.mp found
  cases found
  refine ⟨asked.takeWhile fun b => !(isBlank b || b == byte ':' || b == byte ')'), ?_,
    fun b member => ?_, (opened.span (· ≠ byte '>')).1, fun member => ?_, rfl⟩
  · have inner : opened = (opened.span (· ≠ byte '>')).1 ++ (opened.span (· ≠ byte '>')).2 := by
      rw [List.span_eq_takeWhile_dropWhile]
      exact List.takeWhile_append_dropWhile.symm
    rw [after_spec first]
    nth_rewrite 1 [inner]
    rw [after_spec second, after_spec third]
    nth_rewrite 1 [← List.takeWhile_append_dropWhile (p := fun b => !(isBlank b || b == byte ':' || b == byte ')'))
      (l := asked)]
    simp
  · have inside := List.mem_takeWhile_imp member
    simpa [and_assoc] using inside
  · rw [List.span_eq_takeWhile_dropWhile] at member
    simpa using List.mem_takeWhile_imp member

theorem mem_replaceAll_debugQuery {text : Bytes} (member : b ∈ replaceAll debugQuery text) :
    b ∈ text := by
  rw [replaceAll] at member
  generalize text.length = fuel at member
  induction fuel generalizing text with
  | zero => exact member
  | succ fuel ih =>
    cases text with
    | nil => exact member
    | cons c rest =>
      rw [Scan.replaceFrom] at member
      split at member
      · rename_i kept behind found
        obtain ⟨query, split_, -⟩ := debugQuery_spec found
        rw [split_]
        rcases List.mem_append.mp member with kept_ | later
        · exact List.mem_append_left _ (List.mem_append_left _ kept_)
        · exact List.mem_append_right _ (ih later)
      · rcases List.mem_cons.mp member with rfl | later
        · exact List.mem_cons_self
        · exact List.mem_cons_of_mem _ (ih later)

theorem mem_substitute (member : b ∈ substitute images line) :
    b ∈ line ∨ ∃ image ∈ images, b ∈ image.token := by
  induction images generalizing line with
  | nil => exact Or.inl member
  | cons image rest ih =>
    rcases ih member with replaced | ⟨other, member', inside⟩
    · rcases mem_replaceFrom replaced with kept | inserted
      · exact Or.inl kept
      · exact Or.inr ⟨image, List.mem_cons_self, inserted⟩
    · exact Or.inr ⟨other, List.mem_cons_of_mem _ member', inside⟩

theorem newline_not_mem_rewriteLine (single : byte '\n' ∉ line) :
    byte '\n' ∉ rewriteLine (usableImages images) line := by
  have clean : byte '\n' ∉ substitute (usableImages images) line := by
    intro member
    rcases mem_substitute member with own | ⟨image, usable, inside⟩
    · exact single own
    · obtain ⟨⟨source, -, facts, id⟩, -⟩ := (mem_usableImages images image).mp usable
      have plain := facts.2.1
      rw [id] at plain
      rw [SourceImage.token, List.mem_append, List.mem_append] at inside
      rcases inside with (opening | own) | closing
      · exact absurd opening (by decide)
      · simp only [usableDebugID, Bool.and_eq_true, Bool.not_eq_true', List.any_eq_false] at plain
        exact plain.2 _ own (by decide)
      · exact absurd closing (by decide)
  unfold rewriteLine
  split
  · exact single
  · split
    · exact fun member => clean (mem_replaceAll_debugQuery member)
    · exact single

theorem rewriteLine_of_not_rewrites (stays : rewrites images line = false) :
    rewriteLine images line = line := by
  unfold rewriteLine
  split
  · rfl
  · rename_i writable
    have same : substitute images line = line := by simpa [rewrites, writable] using stays
    rw [if_neg (not_not.mpr same)]

theorem substitute_nil (images : List SourceImage) : substitute images [] = [] := by
  induction images with
  | nil => rfl
  | cons image rest ih => exact ih

theorem lines_applyDebugIDs (stack : Bytes) (images : List SourceImage) :
    lines (applyDebugIDs stack images).1 =
      ((lines stack).take hashedFrameCount).map (rewriteLine (usableImages images)) ++
        (lines stack).drop hashedFrameCount := by
  have unchanged (stay : ∀ line ∈ (lines stack).take hashedFrameCount,
      rewrites (usableImages images) line = false) : lines stack =
        ((lines stack).take hashedFrameCount).map (rewriteLine (usableImages images)) ++
          (lines stack).drop hashedFrameCount := by
    rw [List.map_congr_left fun line member => rewriteLine_of_not_rewrites (stay line member),
      List.map_id', List.take_append_drop]
  have nothing (none_ : usableImages images = []) (line : Bytes) :
      rewrites (usableImages images) line = false := by
    rw [none_]
    simp [rewrites, substitute]
  unfold applyDebugIDs
  split
  · rename_i empty
    refine unchanged fun line member => ?_
    rcases empty with rfl | rfl
    · have blank : line = [] := List.mem_singleton.mp member
      rw [blank, rewrites, substitute_nil]
      rfl
    · exact nothing rfl line
  · dsimp only
    split
    · rename_i idle
      refine unchanged fun line member => ?_
      rcases idle with none_ | stays
      · exact nothing none_ line
      · rw [Bool.not_eq_true'] at stays
        simpa using List.any_eq_false.mp stays line member
    · rw [joinLines, lines, splitByte_intercalate]
      · intro empty
        have length := congrArg List.length empty
        rw [List.length_append, List.length_map, ← List.length_append, List.take_append_drop] at length
        exact splitByte_ne_nil _ _ (List.length_eq_zero_iff.mp length)
      · intro piece member
        rcases List.mem_append.mp member with rewritten | tail
        · obtain ⟨line, original, rfl⟩ := List.mem_map.mp rewritten
          exact newline_not_mem_rewriteLine (not_mem_of_mem_splitByte (List.mem_of_mem_take original))
        · exact not_mem_of_mem_splitByte (List.mem_of_mem_drop tail)

theorem topFrames_applyDebugIDs (stack : Bytes) (images : List SourceImage) :
    topFrames (applyDebugIDs stack images).1 hashedFrameCount =
      (((lines stack).take hashedFrameCount).map (rewriteLine (usableImages images))).map
        normalizeVolatile := by
  rw [topFrames, lines_applyDebugIDs]
  refine congrArg (List.map normalizeVolatile) ?_
  rcases Nat.le_total hashedFrameCount (lines stack).length with long | short
  · exact List.take_left' (by rw [List.length_map, List.length_take, Nat.min_eq_left long])
  · rw [List.drop_of_length_le short, List.append_nil, List.take_of_length_le]
    rw [List.length_map]
    exact List.length_take_le _ _

theorem hashedFrames_of_ne {platform : Bytes} (other : platform ≠ Bytes.ascii "python") (stack : Bytes) :
    hashedFrames (if platform = [] then Bytes.ascii "javascript" else platform) stack =
      topFrames stack hashedFrameCount := by
  rw [hashedFrames, if_neg]
  split
  · decide
  · exact other

/-- Which images there are decides the fingerprint and its flag; where none matches, it is that of the
stack alone; on every platform but Python only the first five lines count; and a line whose hashed
asset is normalized is never rewritten. -/
theorem fingerprintWithImages_stable (sha256 : Bytes → Vector UInt8 32) (toLower : Bytes → Bytes)
    (platform errorType errorMessage : Bytes) :
    (∀ stack images images', (∀ image, image ∈ images' ↔ image ∈ images) →
      FingerprintWithImages sha256 toLower platform errorType errorMessage stack images' =
        FingerprintWithImages sha256 toLower platform errorType errorMessage stack images) ∧
    (∀ stack images, NoImageMatches stack images →
      FingerprintWithImages sha256 toLower platform errorType errorMessage stack images =
        (Fingerprint sha256 toLower platform errorType errorMessage stack, false)) ∧
    (platform ≠ Bytes.ascii "python" → ∀ stack stack' images,
      (lines stack).take hashedFrameCount = (lines stack').take hashedFrameCount →
      (FingerprintWithImages sha256 toLower platform errorType errorMessage stack images).1 =
        (FingerprintWithImages sha256 toLower platform errorType errorMessage stack' images).1) ∧
    ∀ stack images (i : Nat) line, (lines stack)[i]? = some line → collapsesHashedAsset line = true →
      (lines (applyDebugIDs stack images).1)[i]? = some line := by
  refine ⟨fun stack images images' same => ?_, fun stack images absent => ?_,
    fun other stack stack' images same => ?_, fun stack images i line at_ collapses => ?_⟩
  · have empty : images' = [] ↔ images = [] := by
      simp only [List.eq_nil_iff_forall_not_mem, same]
    have applied : applyDebugIDs stack images' = applyDebugIDs stack images := by
      simp only [applyDebugIDs, empty, usableImages_congr same]
    rw [FingerprintWithImages, FingerprintWithImages, applied]
  · rw [FingerprintWithImages, applyDebugIDs_of_absent absent]
  · rw [FingerprintWithImages, FingerprintWithImages]
    dsimp only [Fingerprint]
    rw [hashedFrames_of_ne other, hashedFrames_of_ne other, topFrames_applyDebugIDs,
      topFrames_applyDebugIDs, same]
  · have stays : rewriteLine (usableImages images) line = line := if_pos collapses
    rw [lines_applyDebugIDs]
    rcases Nat.lt_or_ge i hashedFrameCount with leading | behind
    · have window : ((lines stack).take hashedFrameCount)[i]? = some line := by
        rw [List.getElem?_take_of_lt leading, at_]
      rw [List.getElem?_append_left, List.getElem?_map, window, Option.map_some, stays]
      rw [List.length_map]
      exact (List.getElem?_eq_some_iff.mp window).1
    · have long : i < (lines stack).length := (List.getElem?_eq_some_iff.mp at_).1
      have window : (((lines stack).take hashedFrameCount).map
          (rewriteLine (usableImages images))).length = hashedFrameCount := by
        rw [List.length_map, List.length_take]
        omega
      rw [List.getElem?_append_right (by rw [window]; exact behind), window, List.getElem?_drop,
        Nat.add_sub_cancel' behind, at_]

/-- A Python stack that is no traceback is hashed as a whole. -/
theorem fingerprint_python_tail : ¬∀ (sha256 : Bytes → Vector UInt8 32) (toLower : Bytes → Bytes)
    (platform errorType errorMessage stack stack' : Bytes) (images : List SourceImage),
    (lines stack).take hashedFrameCount = (lines stack').take hashedFrameCount →
      (FingerprintWithImages sha256 toLower platform errorType errorMessage stack images).1 =
        (FingerprintWithImages sha256 toLower platform errorType errorMessage stack' images).1 := by
  intro same
  have equal := same (fun input => Vector.replicate 32 input.length.toUInt8) id (Bytes.ascii "python")
    (Bytes.ascii "E") (Bytes.ascii "m") (Bytes.ascii "a\nb\nc\nd\ne\nf") (Bytes.ascii "a\nb\nc\nd\ne") []
    (by decide +kernel)
  revert equal
  decide +kernel

end Opslane.Grouping
