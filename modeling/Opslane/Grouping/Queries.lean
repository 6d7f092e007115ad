import Opslane.Grouping.Parts

/-!
# Queries behind tokens

Behind a token, and behind what looks like one, a query is cut out up to a blank, a colon or a closing
parenthesis. A token that begins in such a query loses its opening.
-/

namespace Opslane.Grouping

open GoStrings Scan

/-- What a query goes on with. -/
def QueryBytes (query : Bytes) : Prop := ∀ b ∈ query, isBlank b = false ∧ b ≠ byte ':' ∧ b ≠ byte ')'

/-- A text ends with something like a token. -/
def EndsWithTag (text : Bytes) : Prop :=
  ∃ inner, byte '>' ∉ inner ∧ Bytes.ascii "<debug:" ++ inner ++ [byte '>'] <:+ text

/-- The last byte of a text stands in a query that is cut out. -/
def EndsInQuery (text : Bytes) : Prop :=
  ∃ front query, text = front ++ byte '?' :: query ∧ EndsWithTag front ∧ QueryBytes query

/-- The bytes of a text, each kept or not. -/
abbrev Mask := List (UInt8 × Bool)

def Mask.text (mask : Mask) : Bytes := mask.map Prod.fst

def Mask.kept (mask : Mask) : Bytes := (mask.filter Prod.snd).map Prod.fst

def allKept (text : Bytes) : Mask := text.map (·, true)

def allCut (text : Bytes) : Mask := text.map (·, false)

/-- What is not kept stands in a query, behind a beginning. -/
def CutsQueries : Bytes → Mask → Prop
  | _, [] => True
  | front, (b, kept) :: rest => (kept = false → EndsInQuery (front ++ [b])) ∧ CutsQueries (front ++ [b]) rest

theorem CutsQueries.allKept_append {front text : Bytes} {rest : Mask}
    (cuts : CutsQueries (front ++ text) rest) : CutsQueries front (allKept text ++ rest) := by
  induction text generalizing front with
  | nil => rwa [List.append_nil] at cuts
  | cons b text ih => exact ⟨nofun, ih (by rwa [List.append_assoc])⟩

theorem CutsQueries.allCut_append (begun : Bytes) {front query : Bytes} {rest : Mask} (tag : EndsWithTag front)
    (bytes : QueryBytes (begun ++ query)) (cuts : CutsQueries (front ++ byte '?' :: (begun ++ query)) rest) :
    CutsQueries (front ++ byte '?' :: begun) (allCut query ++ rest) := by
  induction query generalizing begun with
  | nil => rwa [List.append_nil] at cuts
  | cons b query ih =>
    have next : front ++ byte '?' :: begun ++ [b] = front ++ byte '?' :: (begun ++ [b]) := by simp
    refine ⟨fun _ => ⟨front, begun ++ [b], next, tag, fun c member => bytes c ?_⟩, ?_⟩
    · rcases List.mem_append.mp member with early | own
      · exact List.mem_append_left _ early
      · exact List.mem_append_right _ (List.mem_singleton.mp own ▸ List.mem_cons_self)
    · rw [next]
      exact ih (begun ++ [b]) (by rwa [List.append_assoc]) (by rwa [List.append_assoc])

theorem text_append (mask more : Mask) : (mask ++ more : Mask).text = mask.text ++ more.text := List.map_append

theorem kept_append (mask more : Mask) : (mask ++ more : Mask).kept = mask.kept ++ more.kept := by
  rw [Mask.kept, List.filter_append, List.map_append]
  rfl

@[simp] theorem text_allKept (text : Bytes) : (allKept text).text = text := by
  rw [Mask.text, allKept, List.map_map]
  exact List.map_id text

@[simp] theorem kept_allKept (text : Bytes) : (allKept text).kept = text := by
  have all : (allKept text).filter Prod.snd = allKept text := List.filter_eq_self.mpr fun e member => by
    obtain ⟨b, -, rfl⟩ := List.mem_map.mp member
    rfl
  rw [Mask.kept, all]
  exact text_allKept text

@[simp] theorem text_allCut (text : Bytes) : (allCut text).text = text := by
  rw [Mask.text, allCut, List.map_map]
  exact List.map_id text

@[simp] theorem kept_allCut (text : Bytes) : (allCut text).kept = [] := by
  have none_ : (allCut text).filter Prod.snd = [] := List.filter_eq_nil_iff.mpr fun e member => by
    obtain ⟨b, -, rfl⟩ := List.mem_map.mp member
    simp
  rw [Mask.kept, none_]
  rfl

theorem replaceFrom_debugQuery (fuel : Nat) (front text : Bytes) :
    ∃ mask : Mask, mask.text = text ∧ mask.kept = Scan.replaceFrom debugQuery fuel text ∧
      CutsQueries front mask := by
  induction fuel generalizing front text with
  | zero => exact ⟨allKept text, text_allKept text, kept_allKept text, by
      rw [← List.append_nil (allKept text)]
      exact CutsQueries.allKept_append trivial⟩
  | succ fuel ih =>
    cases text with
    | nil => exact ⟨[], rfl, rfl, trivial⟩
    | cons b rest =>
      rw [Scan.replaceFrom]
      split
      · rename_i kept behind found
        obtain ⟨query, split_, bytes, tag⟩ := debugQuery_spec found
        obtain ⟨mask, text, kept_, cuts⟩ := ih (front ++ kept ++ byte '?' :: query) behind
        have ends : EndsWithTag (front ++ kept) := by
          obtain ⟨inner, clean, same⟩ := tag
          exact ⟨inner, clean, by rw [same]; exact List.suffix_append _ _⟩
        refine ⟨allKept kept ++ (allCut (byte '?' :: query) ++ mask), ?_, ?_, ?_⟩
        · rw [text_append, text_append, text_allKept, text_allCut, text, split_, List.append_assoc]
        · rw [kept_append, kept_append, kept_allKept, kept_allCut, kept_, List.nil_append]
        · refine CutsQueries.allKept_append ⟨fun _ => ⟨front ++ kept, [], rfl, ends,
            fun _ member => absurd member List.not_mem_nil⟩, ?_⟩
          exact CutsQueries.allCut_append [] ends bytes cuts
      · obtain ⟨mask, text, kept_, cuts⟩ := ih (front ++ [b]) rest
        refine ⟨allKept [b] ++ mask, ?_, ?_, CutsQueries.allKept_append cuts⟩
        · rw [text_append, text_allKept, text]
          rfl
        · rw [kept_append, kept_allKept, kept_]
          rfl

/-- The debug id of a reference ends where its token does. -/
def CleanID (image : SourceImage) : Prop := byte '>' ∉ image.debugID

theorem CleanID.token {image : SourceImage} (clean : CleanID image) {front back : Bytes}
    (split_ : image.token = front ++ back) (some_ : back ≠ []) : byte '>' ∉ front := by
  have before : front <+: Bytes.ascii "<debug:" ++ image.debugID := by
    rw [SourceImage.token] at split_
    obtain ⟨init, last, rfl⟩ := (List.eq_nil_or_concat' back).resolve_left some_
    rw [← List.append_assoc] at split_
    exact ⟨init, (List.append_inj_left' split_ rfl).symm⟩
  intro member
  rcases List.mem_append.mp (before.subset member) with opening | id
  · exact absurd opening (by decide)
  · exact clean id

theorem token_head (image : SourceImage) {b : UInt8} {rest : Bytes} (split_ : image.token = b :: rest) :
    b = byte '<' := by
  have head := congrArg List.head? split_
  exact (Option.some.inj head).symm

theorem colon_mem_token (image : SourceImage) : byte ':' ∈ image.token :=
  List.mem_append_left _ (List.mem_append_left _ (by decide))

variable {parts : List Part}

theorem bytes_of_no_bracket (plain : Plain parts) {front text : Bytes}
    (render : rendered parts = front ++ text) (none_ : byte '>' ∉ text) :
    ∃ before, parts = before ++ text.map .byte ∧ rendered before = front := by
  induction text using List.reverseRecOn generalizing parts with
  | nil => exact ⟨parts, by simp, by simpa using render⟩
  | append_singleton text b ih =>
    rcases List.eq_nil_or_concat' parts with rfl | ⟨init, last, rfl⟩
    · simp at render
    · rw [rendered_append, ← List.append_assoc] at render
      cases last with
      | byte c =>
        obtain ⟨init_, same⟩ := List.append_inj' render rfl
        obtain rfl : c = b := by simpa [Part.rendered] using same
        obtain ⟨before, rfl, front_⟩ := ih (fun d member => plain d (List.mem_append_left _ member)) init_
          (fun member => none_ (List.mem_append_left _ member))
        exact ⟨before, by simp, front_⟩
      | cut c => exact absurd (List.mem_append_right _ List.mem_cons_self) (plain c)
      | ref image =>
        exfalso
        have ends := congrArg List.getLast? render
        rw [List.getLast?_concat, rendered_cons, rendered_nil, List.append_nil, Part.rendered,
          SourceImage.token, ← List.append_assoc, List.getLast?_concat] at ends
        exact none_ (List.mem_append_right _ (List.mem_singleton.mpr (Option.some.inj ends)))

theorem bytes_of_query (plain : Plain parts) (clean : ∀ image, .ref image ∈ parts → CleanID image)
    {front query : Bytes} (render : rendered parts = front ++ byte '?' :: query)
    (ends : front.getLast? = some (byte '>')) (bytes : QueryBytes query) :
    ∃ before, parts = before ++ (byte '?' :: query).map .byte ∧ rendered before = front := by
  induction parts using List.reverseRecOn generalizing query with
  | nil => simp at render
  | append_singleton parts last ih =>
    rw [rendered_append] at render
    cases last with
    | byte c =>
      rcases List.eq_nil_or_concat' query with rfl | ⟨query, d, rfl⟩
      · obtain ⟨init, same⟩ := List.append_inj' render rfl
        obtain rfl : c = byte '?' := by simpa [Part.rendered] using same
        exact ⟨parts, by simp, init⟩
      · rw [← List.cons_append, ← List.append_assoc] at render
        obtain ⟨init, same⟩ := List.append_inj' render rfl
        obtain rfl : c = d := by simpa [Part.rendered] using same
        obtain ⟨before, rfl, front_⟩ := ih (fun d member => plain d (List.mem_append_left _ member))
          (fun image member => clean image (List.mem_append_left _ member)) init
          (fun b member => bytes b (List.mem_append_left _ member))
        exact ⟨before, by simp, front_⟩
    | cut c => exact absurd (List.mem_append_right _ List.mem_cons_self) (plain c)
    | ref image =>
      exfalso
      have own := clean image (List.mem_append_right _ List.mem_cons_self)
      rw [rendered_cons, rendered_nil, List.append_nil, Part.rendered] at render
      rcases List.append_eq_append_iff.mp render with ⟨first, front_, token⟩ | ⟨more, -, query_⟩
      · -- The query begins inside the token, behind its closing bracket.
        cases first using List.reverseRecOn with
        | nil => exact absurd (token_head image token) (by decide)
        | append_singleton first b =>
          rw [front_, ← List.append_assoc, List.getLast?_concat] at ends
          refine own.token token (List.cons_ne_nil _ _) (List.mem_append_right _ ?_)
          rw [Option.some.inj ends]
          exact List.mem_singleton_self _
      · -- The whole token stands in the query.
        cases more with
        | nil => exact absurd (token_head image query_.symm) (by decide)
        | cons b more =>
          have query_ := (List.cons.inj query_).2
          have colon : byte ':' ∈ query := by
            rw [query_]
            exact List.mem_append_right _ (colon_mem_token image)
          exact (bytes _ colon).2.1 rfl

theorem query_of_token (plain : Plain parts) (clean : ∀ image, .ref image ∈ parts → CleanID image)
    {image : SourceImage} (own : CleanID image) {begun rest : Bytes} {b : UInt8}
    (token : image.token = begun ++ b :: rest)
    (inside : EndsInQuery (rendered parts ++ (begun ++ [b]))) :
    ∃ before query, parts = before ++ (byte '?' :: query).map .byte ∧ EndsWithTag (rendered before) ∧
      QueryBytes query := by
  obtain ⟨front, query, same, tag, bytes⟩ := inside
  have ends : front.getLast? = some (byte '>') := by
    obtain ⟨inner, -, first, rfl⟩ := tag
    rw [← List.append_assoc, List.getLast?_concat]
  rcases List.append_eq_append_iff.mp same with ⟨first, front_, begun_⟩ | ⟨more, parts_, query_⟩
  · -- The question mark stands in the token.
    exfalso
    have token' : image.token = first ++ (byte '?' :: (query ++ rest)) := by
      rw [token, show begun ++ b :: rest = begun ++ [b] ++ rest by simp, begun_]
      simp
    cases first using List.reverseRecOn with
    | nil => exact absurd (token_head image token') (by decide)
    | append_singleton first c =>
      rw [front_, ← List.append_assoc, List.getLast?_concat] at ends
      refine own.token token' (List.cons_ne_nil _ _) (List.mem_append_right _ ?_)
      rw [Option.some.inj ends]
      exact List.mem_singleton_self _
  · cases more with
    | nil =>
      exfalso
      have token' : image.token = byte '?' :: (query ++ rest) := by
        rw [token, show begun ++ b :: rest = begun ++ [b] ++ rest by simp, ← List.nil_append (begun ++ [b]),
          ← query_]
        rfl
      exact absurd (token_head image token') (by decide)
    | cons c more =>
      obtain ⟨rfl, behind⟩ := List.cons.inj query_
      have more_ : QueryBytes more := fun d member => bytes d (by
        rw [behind]
        exact List.mem_append_left _ member)
      obtain ⟨before, parts_', front_⟩ := bytes_of_query plain clean parts_ ends more_
      exact ⟨before, more, parts_', by rwa [front_], more_⟩

end Opslane.Grouping
