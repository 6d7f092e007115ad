import Opslane.Grouping.Queries

/-!
# Tokens are kept

An inserted token is never rewritten where no file that is looked for later reads into it, and where
no reference begins in a query behind a token. Then each reference that is replaced ends up with the
debug id of its own file.
-/

namespace Opslane.Grouping

open GoStrings Scan

/-- One image after the other replaces bytes of the line by references to it; the references that are
there stay. -/
inductive Substituted : List SourceImage → List Part → List Part → Prop
  | nil (parts : List Part) : Substituted [] parts parts
  | cons {image : SourceImage} {rest : List SourceImage} {parts next last : List Part}
      (text : rendered next = replaceFrameToken (rendered parts) image.codeFile image.token)
      (kept : next.flatMap (Part.expand image) = parts) (later : Substituted rest next last) :
      Substituted (image :: rest) parts last

/-- The images that the parts refer to. -/
def references (parts : List Part) : List SourceImage :=
  parts.filterMap fun
    | .ref image => some image
    | _ => none

structure TokensKept (stack : Bytes) (images : List SourceImage) : Prop where
  /-- No token that one image inserted is changed by a later image. -/
  substitution : ∀ line ∈ (lines stack).take hashedFrameCount, collapsesHashedAsset line = false →
    ∃ parts, Substituted (usableImages images) (line.map .byte) parts
  /-- Each replaced reference ends up with the debug id of its own file, and the text grows by no more
  than the tokens. -/
  result : ∃ parts, original parts = stack ∧ rendered parts = (applyDebugIDs stack images).1 ∧
    (∀ image ∈ references parts, StandsFor images image.codeFile image.debugID) ∧
    (applyDebugIDs stack images).1.length ≤
      stack.length + ((references parts).map fun image => image.token.length).sum

/-- A file stands in the query of another reference, or of what looks like a token. -/
def RefInQuery (images : List SourceImage) (line : Bytes) : Prop :=
  ∃ (front query : Bytes) (image : SourceImage) (behind : Bytes),
    StandsFor images image.codeFile image.debugID ∧
    line = front ++ byte '?' :: query ++ image.codeFile ++ behind ∧ QueryBytes query ∧
    (EndsWithTag front ∨
      ∃ other : SourceImage, StandsFor images other.codeFile other.debugID ∧ other.codeFile <:+ front)

/-- What keeps the tokens of a line apart. -/
structure Apart (images : List SourceImage) (line : Bytes) : Prop where
  /-- No file reads into the token of an image that is looked for before it. -/
  later : ∀ image other : SourceImage, StandsFor images image.codeFile image.debugID →
    StandsFor images other.codeFile other.debugID → image.before other = true →
      image.codeFile <:+: line → ¬ReadsInto other.codeFile image.token
  queries : ¬RefInQuery images line

/-- The leading lines that can be rewritten keep their tokens apart. -/
def TokensApart (stack : Bytes) (images : List SourceImage) : Prop :=
  ∀ line ∈ (lines stack).take hashedFrameCount, collapsesHashedAsset line = false → Apart images line

variable {parts : List Part} {image : SourceImage}

theorem mem_references :
    image ∈ references parts ↔ .ref image ∈ parts := by
  rw [references, List.mem_filterMap]
  constructor
  · rintro ⟨part, member, found⟩
    cases part with
    | byte b => cases found
    | cut b => cases found
    | ref other =>
      cases found
      exact member
  · exact fun member => ⟨_, member, rfl⟩

theorem ref_of_expand {image other : SourceImage} (member : .ref other ∈ parts) :
    other = image ∨ .ref other ∈ parts.flatMap (Part.expand image) := by
  by_cases same : other = image
  · exact Or.inl same
  · refine Or.inr (List.mem_flatMap.mpr ⟨_, member, ?_⟩)
    rw [Part.expand, if_neg same]
    exact List.mem_singleton_self _

theorem codeFile_infix_of_ref (member : .ref image ∈ parts) :
    image.codeFile <:+: original parts := by
  obtain ⟨before, after_, rfl⟩ := List.append_of_mem member
  refine ⟨original before, original after_, ?_⟩
  rw [original_append, original_cons, List.append_assoc]
  rfl

variable {images : List SourceImage}

variable {line : Bytes}

theorem substituted_of_apart (parts : List Part) (line_ : original parts = line)
    (plain : Plain parts) (some_ : ∀ image ∈ images, image.codeFile ≠ []) (distinct : images.Nodup)
    (earlier : ∀ image, .ref image ∈ parts → image ∉ images ∧
      ∀ other ∈ images, ¬ReadsInto other.codeFile image.token)
    (apart : images.Pairwise fun image other =>
      image.codeFile <:+: line → ¬ReadsInto other.codeFile image.token) :
    ∃ last, Substituted images parts last ∧ original last = line ∧ Plain last ∧
      rendered last = substitute images (rendered parts) ∧
      ∀ image, .ref image ∈ last → .ref image ∈ parts ∨ image ∈ images := by
  induction images generalizing parts with
  | nil => exact ⟨parts, .nil parts, line_, plain, rfl, fun image member => Or.inl member⟩
  | cons image rest ih =>
    rw [List.nodup_cons] at distinct
    rw [List.pairwise_cons] at apart
    obtain ⟨next, text, kept, plain'⟩ := replaceFrom_parts (some_ image List.mem_cons_self) plain
      (fun member => (earlier image member).1 List.mem_cons_self)
      (fun other member => (earlier other member).2 image List.mem_cons_self) none
    have line' : original next = line := by rw [← line_, ← kept, original_expand]
    have old {other : SourceImage} (member : .ref other ∈ next) : other = image ∨ .ref other ∈ parts := by
      rw [← kept]
      exact ref_of_expand member
    obtain ⟨last, later, line'', plain'', text', refs⟩ := ih next line' plain'
      (fun other member => some_ other (List.mem_cons_of_mem _ member)) distinct.2
      (fun other member => by
        rcases old member with rfl | before
        · exact ⟨distinct.1, fun more inside => apart.1 more inside (line' ▸ codeFile_infix_of_ref member)⟩
        · obtain ⟨absent, reads⟩ := earlier other before
          exact ⟨fun inside => absent (List.mem_cons_of_mem _ inside),
            fun more inside => reads more (List.mem_cons_of_mem _ inside)⟩)
      apart.2
    refine ⟨last, .cons text kept later, line'', plain'', ?_, fun other member => ?_⟩
    · rw [text', text]
      rfl
    · rcases refs other member with inside | inside
      · rcases old inside with rfl | before
        · exact Or.inr List.mem_cons_self
        · exact Or.inl before
      · exact Or.inr (List.mem_cons_of_mem _ inside)

theorem allKept_of_outside (front begun : Bytes)
    (outside : ∀ begun b rest, image.token = begun ++ b :: rest → ¬EndsInQuery (front ++ (begun ++ [b])))
    {mask more : Mask} (token : image.token = begun ++ mask.text)
    (cuts : CutsQueries (front ++ begun) (mask ++ more)) :
    mask = allKept mask.text ∧ CutsQueries (front ++ (begun ++ mask.text)) more := by
  induction mask generalizing begun with
  | nil =>
    refine ⟨rfl, ?_⟩
    rwa [Mask.text, List.map_nil, List.append_nil]
  | cons e mask ih =>
    obtain ⟨b, kept⟩ := e
    have token' : image.token = begun ++ b :: Mask.text mask := token
    obtain ⟨own, later⟩ := cuts
    rw [List.append_assoc] at own later
    have kept_ : kept = true := by
      by_contra cut
      exact outside begun b (Mask.text mask) token' (own (by simpa using cut))
    obtain ⟨same, rest⟩ := ih (begun ++ [b]) (by rw [token']; simp) later
    refine ⟨?_, ?_⟩
    · rw [kept_]
      exact congrArg ((b, true) :: ·) same
    · rwa [List.append_assoc] at rest

theorem parts_of_mask (before : List Part) {mask : Mask} (text : mask.text = rendered parts)
    (cuts : CutsQueries (rendered before) mask) (plain : Plain (before ++ parts))
    (clean : ∀ image, .ref image ∈ before ++ parts → CleanID image)
    (outside : ∀ front image behind, before ++ parts = front ++ Part.ref image :: behind →
      ¬∃ start query, front = start ++ (byte '?' :: query).map Part.byte ∧ EndsWithTag (rendered start) ∧
        QueryBytes query) :
    ∃ parts', original parts' = original parts ∧ rendered parts' = mask.kept ∧
      ∀ image, .ref image ∈ parts' → .ref image ∈ parts := by
  induction parts generalizing before mask with
  | nil =>
    obtain rfl : mask = [] := List.map_eq_nil_iff.mp text
    exact ⟨[], rfl, rfl, nofun⟩
  | cons part rest ih =>
    have next : before ++ part :: rest = before ++ [part] ++ rest := by simp
    rw [next] at plain clean outside
    cases part with
    | cut b =>
      exact absurd (List.mem_append_left _ (List.mem_append_right _ List.mem_cons_self)) (plain b)
    | byte b =>
      cases mask with
      | nil => cases text
      | cons e mask =>
        obtain ⟨c, kept⟩ := e
        obtain ⟨same, later⟩ := List.cons.inj text
        have same : c = b := same
        subst same
        obtain ⟨parts', original_, rendered_, refs⟩ := ih (before ++ [Part.byte c]) later
          (by rw [rendered_append]; exact cuts.2) plain clean outside
        cases kept with
        | true =>
          refine ⟨.byte c :: parts', ?_, ?_, fun image member => ?_⟩
          · rw [original_cons, original_, original_cons]
          · rw [rendered_cons, rendered_]
            rfl
          · exact List.mem_cons_of_mem _ (refs image ((List.mem_cons.mp member).resolve_left nofun))
        | false =>
          refine ⟨.cut c :: parts', ?_, ?_, fun image member => ?_⟩
          · rw [original_cons, original_, original_cons]
            rfl
          · rw [rendered_cons, rendered_]
            rfl
          · exact List.mem_cons_of_mem _ (refs image ((List.mem_cons.mp member).resolve_left nofun))
    | ref image =>
      obtain ⟨own, more, rfl, ownText, moreText⟩ := List.map_eq_append_iff.mp text
      have member : Part.ref image ∈ before ++ [Part.ref image] ++ rest :=
        List.mem_append_left _ (List.mem_append_right _ List.mem_cons_self)
      have split_ : image.token = [] ++ Mask.text own := ownText.symm
      obtain ⟨kept, cuts'⟩ := allKept_of_outside (rendered before) [] (fun begun b behind token query =>
          outside before image rest (by simp) (query_of_token
            (fun c inside => plain c (List.mem_append_left _ (List.mem_append_left _ inside)))
            (fun other inside => clean other (List.mem_append_left _ (List.mem_append_left _ inside)))
            (clean image member) token query))
        split_ (by rwa [List.append_nil])
      have ownText : Mask.text own = image.token := ownText
      rw [List.nil_append, ownText] at cuts'
      rw [ownText] at kept
      obtain ⟨parts', original_, rendered_, refs⟩ := ih (before ++ [Part.ref image]) moreText
        (by rw [rendered_append, rendered_cons, rendered_nil, List.append_nil]; exact cuts') plain clean outside
      refine ⟨.ref image :: parts', ?_, ?_, fun other inside => ?_⟩
      · rw [original_cons, original_, original_cons]
      · rw [rendered_cons, rendered_, kept_append, kept, kept_allKept]
        rfl
      · rcases List.mem_cons.mp inside with same | later
        · rw [same]
          exact List.mem_cons_self
        · exact List.mem_cons_of_mem _ (refs other later)

theorem tag_of_rendered (plain : Plain parts) (tag : EndsWithTag (rendered parts)) :
    EndsWithTag (original parts) ∨ ∃ image, .ref image ∈ parts ∧ image.codeFile <:+ original parts := by
  obtain ⟨inner, clean, front, render⟩ := tag
  rcases List.eq_nil_or_concat' parts with rfl | ⟨init, last, rfl⟩
  · simp at render
  · rw [rendered_append, ← List.append_assoc] at render
    cases last with
    | byte b =>
      obtain ⟨init_, same⟩ := List.append_inj' render.symm rfl
      obtain rfl : b = byte '>' := by simpa [Part.rendered] using same
      obtain ⟨before, rfl, -⟩ := bytes_of_no_bracket
        (fun c member => plain c (List.mem_append_left _ member)) init_ (by
          rw [List.mem_append, not_or]
          exact ⟨by decide, clean⟩)
      refine Or.inl ⟨inner, clean, original before, ?_⟩
      rw [original_append, original_append, original_bytes, List.append_assoc, List.append_assoc]
      rfl
    | cut b => exact absurd (List.mem_append_right _ List.mem_cons_self) (plain b)
    | ref image =>
      refine Or.inr ⟨image, List.mem_append_right _ List.mem_cons_self, original init, ?_⟩
      rw [original_append, original_cons, original_nil, List.append_nil]
      rfl

theorem not_readsInto {codeFile : Bytes} (noOpening : byte '<' ∉ codeFile)
    (noClosing : byte '>' ∉ codeFile) (plain : ∀ b ∈ image.debugID, isLowerHex b || b == byte '-') :
    ¬ReadsInto codeFile image.token := by
  rintro ⟨front, inner, back, left, right, token, some_, file, leftOr, rightOr, before, behind⟩
  have boundary : ∀ b ∈ image.token, isTokenBoundary b = true → b = byte ':' := by
    have opening : ∀ b ∈ Bytes.ascii "<debug:", isTokenBoundary b = true → b = byte ':' :=
      Bytes.forall_mem (by decide +kernel)
    have digits : ∀ b ∈ Bytes.ascii "()@?: \t\n\r'\",", (isLowerHex b || b == byte '-') = false :=
      Bytes.forall_mem (by decide +kernel)
    intro b member ends
    have parts : b ∈ Bytes.ascii "<debug:" ∨ b ∈ image.debugID ∨ b = byte '>' := by
      simpa [SourceImage.token, or_assoc] using member
    rcases parts with first | id | rfl
    · exact opening b first ends
    · have listed : b ∈ Bytes.ascii "()@?: \t\n\r'\"," := by simpa [isTokenBoundary] using ends
      have kind := plain b id
      rw [digits b listed] at kind
      cases kind
    · exact absurd ends (by decide)
  have once : image.token.count (byte ':') = 1 := by
    have id : image.debugID.count (byte ':') = 0 := by
      refine List.count_eq_zero.mpr fun member => ?_
      exact absurd (plain _ member) (by decide)
    rw [SourceImage.token, List.count_append, List.count_append, id]
    decide
  have inside : ∀ b ∈ inner, b ∈ codeFile := fun b member => by
    rw [file]
    exact List.mem_append_left _ (List.mem_append_right _ member)
  -- The token begins and ends outside the file.
  have front_ : front ≠ [] := by
    rintro rfl
    obtain ⟨b, rest, rfl⟩ := List.exists_cons_of_ne_nil some_
    exact noOpening (token_head image token ▸ inside b List.mem_cons_self)
  have back_ : back ≠ [] := by
    rintro rfl
    obtain ⟨rest, b, rfl⟩ := (List.eq_nil_or_concat' inner).resolve_left some_
    have last := congrArg List.getLast? token
    rw [List.append_nil, ← List.append_assoc, List.getLast?_concat, SourceImage.token,
      List.getLast?_concat] at last
    refine noClosing ?_
    rw [Option.some.inj last]
    exact inside b (List.mem_append_right _ List.mem_cons_self)
  obtain ⟨opening, c, rfl⟩ := (List.eq_nil_or_concat' front).resolve_left front_
  obtain ⟨d, closing, rfl⟩ := List.exists_cons_of_ne_nil back_
  rw [List.getLast?_concat] at before
  have first : c = byte ':' := boundary c (by rw [token]; simp) before
  have second : d = byte ':' := boundary d (by rw [token]; simp) behind
  rw [token, first, second] at once
  simp only [List.count_append, List.count_cons_self, List.count_nil] at once
  omega

theorem StandsFor.usable {codeFile debugID : Bytes} (stands : StandsFor images codeFile debugID) :
    codeFile ≠ [] ∧ byte '>' ∉ debugID := by
  obtain ⟨⟨image, -, ⟨file, id, rfl⟩, rfl⟩, -⟩ := stands
  refine ⟨fun empty => ?_, fun member => ?_⟩
  · rw [empty] at file
    cases file
  · simp only [usableDebugID, Bool.and_eq_true, Bool.not_eq_true', List.any_eq_false] at id
    exact id.2 _ member (by decide)

theorem substituted_usable (apart : Apart images line) :
    ∃ parts, Substituted (usableImages images) (line.map .byte) parts ∧ original parts = line ∧
      Plain parts ∧ rendered parts = substitute (usableImages images) line ∧
      ∀ image, .ref image ∈ parts → StandsFor images image.codeFile image.debugID := by
  have ordered := pairwise_usableImages images
  have stands (image : SourceImage) (member : image ∈ usableImages images) :
      StandsFor images image.codeFile image.debugID := (mem_usableImages images image).mp member
  have distinct : (usableImages images).Nodup := ordered.imp fun {image other} before same => by
    rw [same, other.not_before_self] at before
    cases before
  have unread : (usableImages images).Pairwise fun image other =>
      image.codeFile <:+: line → ¬ReadsInto other.codeFile image.token :=
    ordered.imp_of_mem fun {image other} member member' before inside =>
      apart.later image other (stands image member) (stands other member') before inside
  obtain ⟨parts, chain, line_, plain, text, refs⟩ := substituted_of_apart (line.map .byte)
    (original_bytes line) (fun b member => by simp at member)
    (fun image member => (stands image member).usable.1) distinct
    (fun image member => by simp at member) unread
  rw [rendered_bytes] at text
  refine ⟨parts, chain, line_, plain, text, fun image member => ?_⟩
  rcases refs image member with old | new
  · simp at old
  · exact stands image new

theorem rewriteLine_parts (apart : collapsesHashedAsset line = false → Apart images line) :
    ∃ parts, original parts = line ∧ rendered parts = rewriteLine (usableImages images) line ∧
      ∀ image, .ref image ∈ parts → StandsFor images image.codeFile image.debugID := by
  have same : ∃ parts, original parts = line ∧ rendered parts = line ∧
      ∀ image, .ref image ∈ parts → StandsFor images image.codeFile image.debugID :=
    ⟨line.map .byte, original_bytes line, rendered_bytes line, fun image member => by simp at member⟩
  unfold rewriteLine
  split
  · exact same
  · rename_i writable
    rw [Bool.not_eq_true] at writable
    split
    · obtain ⟨parts, -, line_, plain, text, refs⟩ := substituted_usable (apart writable)
      obtain ⟨mask, text', kept, cuts⟩ :=
        replaceFrom_debugQuery (substitute (usableImages images) line).length [] (substitute (usableImages images) line)
      obtain ⟨parts', original_, rendered_, refs'⟩ := parts_of_mask []
        (by rw [text', text]) cuts plain (fun image member => (refs image member).usable.2) (by
          rintro front image behind split_ ⟨start, query, rfl, tag, bytes⟩
          have split_ : parts = start ++ (byte '?' :: query).map Part.byte ++ Part.ref image :: behind := split_
          subst split_
          have startPlain : Plain start := fun b member =>
            plain b (List.mem_append_left _ (List.mem_append_left _ member))
          refine (apart writable).queries ⟨original start, query, image, original behind,
            refs image (by simp), ?_, bytes, ?_⟩
          · rw [← line_, original_append, original_append, original_bytes, original_cons]
            simp [Part.original]
          · rcases tag_of_rendered startPlain tag with written | ⟨other, member, suffix⟩
            · exact Or.inl written
            · exact Or.inr ⟨other, refs other (by simp [member]), suffix⟩)
      exact ⟨parts', by rw [original_, line_], by rw [rendered_, kept, replaceAll],
        fun image member => refs image (refs' image member)⟩
    · exact same

theorem joinLines_parts {p : SourceImage → Prop} (pairs : List (Bytes × Bytes))
    (each : ∀ pair ∈ pairs, ∃ parts, original parts = pair.1 ∧ rendered parts = pair.2 ∧
      ∀ image, .ref image ∈ parts → p image) :
    ∃ parts, original parts = joinLines (pairs.map Prod.fst) ∧
      rendered parts = joinLines (pairs.map Prod.snd) ∧ ∀ image, .ref image ∈ parts → p image := by
  induction pairs with
  | nil => exact ⟨[], rfl, rfl, by simp⟩
  | cons pair rest ih =>
    obtain ⟨first, original_, rendered_, refs⟩ := each pair List.mem_cons_self
    obtain ⟨parts, originals, renders, others⟩ := ih fun other member => each other (List.mem_cons_of_mem _ member)
    cases rest with
    | nil =>
      refine ⟨first, ?_, ?_, refs⟩
      · rw [original_]
        exact (List.intercalate_singleton ..).symm
      · rw [rendered_]
        exact (List.intercalate_singleton ..).symm
    | cons next rest =>
      refine ⟨first ++ Part.byte (byte '\n') :: parts, ?_, ?_, fun image member => ?_⟩
      · rw [original_append, original_cons, originals, original_]
        simp [joinLines, Part.original]
      · rw [rendered_append, rendered_cons, renders, rendered_]
        simp [joinLines, Part.rendered]
      · rcases List.mem_append.mp member with own | later
        · exact refs image own
        · exact others image ((List.mem_cons.mp later).resolve_left (by simp))

theorem length_rendered_le (parts : List Part) : (rendered parts).length ≤
    (original parts).length + ((references parts).map fun image => image.token.length).sum := by
  induction parts with
  | nil => exact Nat.zero_le _
  | cons part rest ih =>
    rw [rendered_cons, original_cons, List.length_append, List.length_append]
    cases part with
    | byte b =>
      simp only [references, Part.rendered, Part.original, List.length_singleton, List.filterMap_cons] at ih ⊢
      omega
    | cut b =>
      simp only [references, Part.rendered, Part.original, List.length_nil, List.length_singleton,
        List.filterMap_cons] at ih ⊢
      omega
    | ref image =>
      simp only [references, Part.rendered, Part.original, List.filterMap_cons, List.map_cons,
        List.sum_cons] at ih ⊢
      omega

def plainStack : Bytes := Bytes.ascii "TypeError: boom\n    at f (https://app.test/static/a.js:1:2)"

def plainImages : List SourceImage :=
  [⟨Bytes.ascii "https://app.test/static/a.js", Bytes.ascii "0f9a"⟩,
    ⟨Bytes.ascii "https://app.test/b.js", Bytes.ascii "77c1"⟩]

/-- The second file is the end of the first image's token and what follows it. -/
def mixedImages : List SourceImage :=
  [⟨Bytes.ascii "https://app.test/static/js/main-bundle-for-checkout.js",
      Bytes.ascii "11111111-1111-4111-8111-111111111111"⟩,
    ⟨Bytes.ascii "11111111-1111-4111-8111-111111111111>:1.5",
      Bytes.ascii "22222222-2222-4222-8222-222222222222"⟩]

def mixedStack : Bytes := Bytes.ascii "at f (https://app.test/static/js/main-bundle-for-checkout.js:1.5)"

theorem byte_of_rendered {b : UInt8} (member : b ∈ rendered parts) :
    b ∈ original parts ∨ ∃ image, .ref image ∈ parts := by
  obtain ⟨part, inside, own⟩ := List.mem_flatMap.mp member
  cases part with
  | byte c => exact Or.inl (List.mem_flatMap.mpr ⟨_, inside, own⟩)
  | cut c => cases own
  | ref image => exact Or.inr ⟨image, inside⟩

end Opslane.Grouping
