import Opslane.Priority.PageUrl

/-!
# Patterns that stay

A pattern is normalized again wherever it is read back. It stays as it is where the segments it
was made from are settled: what each was replaced by or decoded to is made of pieces that would be
kept as they are.
-/

namespace Opslane.Priority

open GoStrings (byte splitByte)

/-- A piece of a pattern that would be kept as it is. -/
def Settled (piece : Bytes) : Prop :=
  isRouteSegment piece = true ∧ byte '?' ∉ piece ∧ byte '#' ∉ piece ∧ templateSegment piece = piece
  deriving Decidable

/-- Nothing is left to replace or decode in the pattern of a page, or it is over the cap. -/
def Settles (raw : Bytes) : Prop :=
  ∀ path fragment, pathAndFragment raw = some (path, fragment) →
    maxPatternBytes < (patternOf (routeSegments path fragment)).length ∨
      ∀ s ∈ routeSegments path fragment, ∀ piece ∈ splitByte (byte '/') (templateSegment s), Settled piece

theorem ne_nil_of_isRouteSegment {piece : Bytes} (kept : isRouteSegment piece = true) : piece ≠ [] := by
  rintro rfl
  cases kept

theorem Settled.kept_as_is {piece : Bytes} (settled : Settled piece) : isOpaque piece = false := by
  have id : isOpaque (Bytes.ascii ":id") = false := by decide +kernel
  have token : isOpaque (Bytes.ascii ":token") = false := by decide +kernel
  have same := settled.2.2.2
  rw [Bool.eq_false_iff]
  intro replaced
  rcases (Bool.or_eq_true _ _).mp replaced with isId_ | isToken_
  · rw [templateSegment, if_pos isId_] at same
    rw [← same, id] at replaced
    cases replaced
  · rw [templateSegment] at same
    split_ifs at same
    · rw [← same, id] at replaced
      cases replaced
    · rw [← same, token] at replaced
      cases replaced

variable {body : Bytes}

theorem trimSlashes_of_pieces (pieces : ∀ piece ∈ splitByte (byte '/') body, piece ≠ []) :
    trimSlashes (byte '/' :: body) = body := by
  have front : body.dropWhile (· == byte '/') = body := by
    cases body with
    | nil => rfl
    | cons b rest =>
      refine List.dropWhile_cons_of_neg fun slash => ?_
      have first : [] ∈ splitByte (byte '/') (b :: rest) := by
        rw [splitByte, if_pos (beq_iff_eq.mp slash)]
        exact List.mem_cons_self
      exact pieces [] first rfl
  have back : body.reverse.dropWhile (· == byte '/') = body.reverse := by
    cases turned : body.reverse with
    | nil => rfl
    | cons b rest =>
      refine List.dropWhile_cons_of_neg fun slash => ?_
      have whole : body = rest.reverse ++ byte '/' :: [] := by
        rw [← beq_iff_eq.mp slash, ← List.reverse_cons, ← turned, List.reverse_reverse]
      have last : [] ∈ splitByte (byte '/') body := by
        rw [whole, GoStrings.splitByte_append]
        exact List.mem_append_right _ List.mem_cons_self
      exact pieces [] last rfl
  have first : (byte '/' :: body).dropWhile (· == byte '/') = body := by
    rw [List.dropWhile_cons_of_pos (by decide), front]
  rw [trimSlashes, first, back, List.reverse_reverse]

theorem normalizePageURL_of_settled (short : (byte '/' :: body).length ≤ maxPatternBytes)
    (pieces : ∀ piece ∈ splitByte (byte '/') body, Settled piece) :
    normalizePageURL (byte '/' :: body) = byte '/' :: body := by
  have noQuery : byte '?' ∉ body := fun member => by
    obtain ⟨piece, inPieces, inPiece⟩ := GoStrings.exists_mem_splitByte member (show _ ≠ byte '/' by decide)
    exact (pieces piece inPieces).2.1 inPiece
  have noFragment : byte '#' ∉ body := fun member => by
    obtain ⟨piece, inPieces, inPiece⟩ := GoStrings.exists_mem_splitByte member (show _ ≠ byte '/' by decide)
    exact (pieces piece inPieces).2.2.1 inPiece
  have path : pathAndFragment (byte '/' :: body) = some (byte '/' :: body, []) := by
    have clean : byte '#' ∉ byte '/' :: body := by
      rw [List.mem_cons, not_or]
      exact ⟨by decide, noFragment⟩
    have begins : (byte '/' :: body).head? = some (byte '/') := rfl
    rw [pathAndFragment, if_pos begins, NetUrl.cut_eq_none.mpr ⟨rfl, clean⟩]
  have route : routePath (byte '/' :: body) [] = byte '/' :: body := by
    refine List.takeWhile_eq_self_iff.mpr (List.forall_mem_cons.mpr ⟨by decide, fun b member => ?_⟩)
    refine decide_eq_true ⟨?_, ?_⟩
    · rintro rfl
      exact noQuery member
    · rintro rfl
      exact noFragment member
  have kept : (splitByte (byte '/') body).filter isRouteSegment = splitByte (byte '/') body :=
    List.filter_eq_self.mpr fun piece member => (pieces piece member).1
  have same : (splitByte (byte '/') body).map templateSegment = splitByte (byte '/') body :=
    (List.map_congr_left fun piece member => (pieces piece member).2.2.2).trans (List.map_id _)
  have trimmed := trimSlashes_of_pieces fun piece member => ne_nil_of_isRouteSegment (pieces piece member).1
  rw [normalizePageURL, if_neg (List.cons_ne_nil _ _), path]
  show boundPattern (patternOf (routeSegments (byte '/' :: body) [])) = _
  rw [routeSegments, route, trimmed, kept, patternOf, same, GoStrings.intercalate_splitByte, boundPattern,
    if_neg (Nat.not_lt.mpr short)]

theorem boundPattern_cases (pattern : Bytes) :
    boundPattern pattern = Bytes.ascii "/too-long" ∨
      pattern.length ≤ maxPatternBytes ∧ boundPattern pattern = pattern := by
  by_cases long : maxPatternBytes < pattern.length
  · exact .inl (if_pos long)
  · exact .inr ⟨Nat.le_of_not_lt long, if_neg long⟩

variable {raw : Bytes}

theorem normalizePageURL_shape (some_ : raw ≠ []) :
    (normalizePageURL raw).head? = some (byte '/') ∧ (normalizePageURL raw).length ≤ maxPatternBytes := by
  rw [normalizePageURL, if_neg some_]
  split
  · decide
  · rename_i path fragment _
    rcases boundPattern_cases (patternOf (routeSegments path fragment)) with long | ⟨short, same⟩
    · rw [long]
      decide
    · rw [same]
      exact ⟨rfl, short⟩

/-- A pattern and its pieces are as they should be: normalized again it stays, and nothing in it
would be replaced. -/
def Stays (pattern : Bytes) : Prop :=
  normalizePageURL pattern = pattern ∧ ∀ piece ∈ splitByte (byte '/') pattern, isOpaque piece = false
  deriving Decidable

theorem stays_of_pieces (short : (byte '/' :: body).length ≤ maxPatternBytes)
    (pieces : ∀ piece ∈ splitByte (byte '/') body, Settled piece) : Stays (byte '/' :: body) := by
  refine ⟨normalizePageURL_of_settled short pieces, fun piece member => ?_⟩
  rw [splitByte, if_pos rfl] at member
  rcases List.mem_cons.mp member with rfl | inBody
  · decide +kernel
  · exact (pieces piece inBody).kept_as_is

variable {segments : List Bytes}

theorem stays_patternOf (short : (patternOf segments).length ≤ maxPatternBytes)
    (settled : ∀ s ∈ segments, ∀ piece ∈ splitByte (byte '/') (templateSegment s), Settled piece) :
    Stays (patternOf segments) := by
  cases segments with
  | nil => decide +kernel
  | cons first rest =>
    refine stays_of_pieces short fun piece member => ?_
    have some_ : (first :: rest).map templateSegment ≠ [] := List.cons_ne_nil _ _
    rw [GoStrings.splitByte_intercalate_flatMap some_, List.mem_flatMap] at member
    obtain ⟨text, templated, inside⟩ := member
    obtain ⟨s, known, rfl⟩ := List.mem_map.mp templated
    exact settled s known piece inside

theorem stays_of_settles (settles : Settles raw) : Stays (normalizePageURL raw) := by
  by_cases empty : raw = []
  · rw [empty]
    decide +kernel
  · rw [normalizePageURL, if_neg empty]
    split
    · decide +kernel
    · rename_i path fragment read
      rcases boundPattern_cases (patternOf (routeSegments path fragment)) with long | ⟨short, same⟩
      · rw [long]
        decide +kernel
      · rw [same]
        refine stays_patternOf short ((settles path fragment read).resolve_left ?_)
        exact Nat.not_lt.mpr short

theorem count_unescape {s t : Bytes} (read : NetUrl.unescape .path s = some t) :
    t.count (byte '%') ≤ s.count (byte '%') ∧
      (t.count (byte '%') = s.count (byte '%') → ∀ b ∈ t, b = byte '%' ∨ b ∈ s) ∧ (s ≠ [] → t ≠ []) := by
  induction long : s.length using Nat.strong_induction_on generalizing s t with
  | h n ih =>
    cases s with
    | nil =>
      obtain rfl := Option.some.inj read
      exact ⟨Nat.le_refl _, fun _ => nofun, fun some_ => absurd rfl some_⟩
    | cons c rest =>
      rcases NetUrl.unescape_cons_eq_some read with
        ⟨rfl, high, low, more, t', rfl, -, -, -, tail, rfl⟩ | ⟨-, -, t', tail, rfl⟩
      · simp only [List.length_cons] at long
        obtain ⟨fewer, kept, -⟩ := ih more.length (by omega) tail rfl
        have behind : more.count (byte '%') ≤ (high :: low :: more).count (byte '%') :=
          List.Sublist.count_le _ ((List.sublist_cons_self _ _).trans (List.sublist_cons_self _ _))
        have front : (NetUrl.char '%' :: high :: low :: more).count (byte '%') =
            (high :: low :: more).count (byte '%') + 1 := List.count_cons_self
        have first := List.count_cons (a := byte '%') (b := NetUrl.unhex high * 16 + NetUrl.unhex low) (l := t')
        rw [front, first]
        refine ⟨?_, fun same => List.forall_mem_cons.mpr ⟨?_, fun b member => ?_⟩, fun _ => List.cons_ne_nil _ _⟩
        · split_ifs
          · omega
          · omega
        · left
          by_contra other
          rw [if_neg (by simpa using other)] at same
          omega
        · have equal : t'.count (byte '%') = more.count (byte '%') := by
            split_ifs at same
            · omega
            · omega
          exact (kept equal b member).imp_right fun inside =>
            List.mem_cons_of_mem _ (List.mem_cons_of_mem _ (List.mem_cons_of_mem _ inside))
      · simp only [List.length_cons] at long
        obtain ⟨fewer, kept, -⟩ := ih rest.length (by omega) tail rfl
        rw [List.count_cons, List.count_cons]
        refine ⟨by omega, fun same => List.forall_mem_cons.mpr ⟨.inr List.mem_cons_self, fun b member => ?_⟩,
          fun _ => List.cons_ne_nil _ _⟩
        exact (kept (by omega) b member).imp_right (List.mem_cons_of_mem _)

/-- What ends a path or a segment. -/
def IsDelimiter (b : UInt8) : Prop := b = byte '/' ∨ b = byte '?' ∨ b = byte '#'

theorem count_templateSegment {s : Bytes} (some_ : s ≠ []) (clean : ∀ b ∈ s, ¬IsDelimiter b) :
    (templateSegment s).count (byte '%') ≤ s.count (byte '%') ∧
      ((templateSegment s).count (byte '%') = s.count (byte '%') → ∀ b ∈ templateSegment s, ¬IsDelimiter b) ∧
      templateSegment s ≠ [] := by
  have id : (Bytes.ascii ":id").count (byte '%') = 0 ∧ ∀ b ∈ Bytes.ascii ":id", ¬IsDelimiter b := by
    unfold IsDelimiter
    decide +kernel
  have token : (Bytes.ascii ":token").count (byte '%') = 0 ∧ ∀ b ∈ Bytes.ascii ":token", ¬IsDelimiter b := by
    unfold IsDelimiter
    decide +kernel
  have percent : ¬IsDelimiter (byte '%') := by
    unfold IsDelimiter
    decide
  unfold templateSegment
  split_ifs
  · rw [id.1]
    exact ⟨Nat.zero_le _, fun _ => id.2, by decide⟩
  · rw [token.1]
    exact ⟨Nat.zero_le _, fun _ => token.2, by decide⟩
  · unfold decoded
    cases read : NetUrl.unescape .path s with
    | none => exact ⟨Nat.le_refl _, fun _ => clean, some_⟩
    | some t =>
      obtain ⟨fewer, kept, nonempty⟩ := count_unescape read
      refine ⟨fewer, fun same b member => ?_, nonempty some_⟩
      rcases kept same b member with rfl | inside
      · exact percent
      · exact clean b inside

theorem count_intercalate (texts : List Bytes) :
    ([byte '/'].intercalate texts).count (byte '%') = (texts.map (·.count (byte '%'))).sum := by
  induction texts with
  | nil => rfl
  | cons text rest ih =>
    cases rest with
    | nil => simp
    | cons next rest =>
      have slash : [byte '/'].count (byte '%') = 0 := by decide
      rw [List.intercalate_cons_cons, List.count_append, List.count_append, ih, slash, List.map_cons, List.sum_cons]
      rfl

theorem sum_templates (clean : ∀ s ∈ segments, s ≠ [] ∧ ∀ b ∈ s, ¬IsDelimiter b) :
    ((segments.map templateSegment).map (·.count (byte '%'))).sum ≤ (segments.map (·.count (byte '%'))).sum ∧
      (((segments.map templateSegment).map (·.count (byte '%'))).sum = (segments.map (·.count (byte '%'))).sum →
        ∀ s ∈ segments, ∀ b ∈ templateSegment s, ¬IsDelimiter b) := by
  induction segments with
  | nil => exact ⟨Nat.le_refl _, fun _ => nofun⟩
  | cons s rest ih =>
    obtain ⟨some_, plain⟩ := clean s List.mem_cons_self
    obtain ⟨fewer, kept, -⟩ := count_templateSegment some_ plain
    obtain ⟨fewer', kept'⟩ := ih fun t member => clean t (List.mem_cons_of_mem _ member)
    simp only [List.map_cons, List.sum_cons]
    refine ⟨by omega, fun same => List.forall_mem_cons.mpr ⟨kept (by omega), kept' (by omega)⟩⟩

theorem trimSlashes_sublist (s : Bytes) : (trimSlashes s).Sublist s := by
  rw [← List.reverse_sublist, trimSlashes, List.reverse_reverse]
  exact (List.dropWhile_sublist _).trans ((List.dropWhile_sublist _).reverse)

theorem routePath_sublist (path fragment : Bytes) :
    (routePath path fragment).Sublist path ∨ (routePath path fragment).Sublist fragment := by
  unfold routePath
  split
  · exact .inl (List.takeWhile_sublist _)
  · split_ifs
    · exact .inr ((List.takeWhile_sublist _).trans (List.sublist_cons_self _ _))
    · exact .inl (List.takeWhile_sublist _)

theorem not_delimiter_of_mem_routeSegments {path fragment s : Bytes} (member : s ∈ routeSegments path fragment) :
    s ≠ [] ∧ ∀ b ∈ s, ¬IsDelimiter b := by
  obtain ⟨split_, kept⟩ := List.mem_filter.mp member
  refine ⟨ne_nil_of_isRouteSegment kept, fun b inside delimiter => ?_⟩
  rcases delimiter with rfl | other
  · exact GoStrings.not_mem_of_mem_splitByte split_ inside
  · have inRoute := (trimSlashes_sublist _).mem (GoStrings.mem_of_mem_splitByte split_ inside)
    unfold routePath at inRoute
    have neither := List.mem_takeWhile_imp inRoute
    rw [decide_eq_true_eq] at neither
    exact other.elim neither.1 neither.2

theorem sum_filter_le (keep : Bytes → Bool) (weight : Bytes → Nat) (texts : List Bytes) :
    ((texts.filter keep).map weight).sum ≤ (texts.map weight).sum := by
  induction texts with
  | nil => exact Nat.le_refl _
  | cons text rest ih =>
    rw [List.filter_cons]
    split_ifs
    · exact Nat.add_le_add_left ih _
    · exact Nat.le_trans ih (Nat.le_add_left _ _)

theorem sum_routeSegments_le (path fragment : Bytes) :
    ((routeSegments path fragment).map (·.count (byte '%'))).sum ≤ (routePath path fragment).count (byte '%') := by
  have all_ := count_intercalate (splitByte (byte '/') (trimSlashes (routePath path fragment)))
  rw [GoStrings.intercalate_splitByte] at all_
  have kept : ((routeSegments path fragment).map (·.count (byte '%'))).sum ≤
      ((splitByte (byte '/') (trimSlashes (routePath path fragment))).map (·.count (byte '%'))).sum :=
    sum_filter_le ..
  rw [← all_] at kept
  exact Nat.le_trans kept ((trimSlashes_sublist _).count_le _)

theorem pathAndFragment_slash {r path fragment : Bytes} (read : pathAndFragment r = some (path, fragment))
    (begins : r.head? = some (byte '/')) :
    path = r ∧ fragment = [] ∧ byte '#' ∉ r ∨ r = path ++ byte '#' :: fragment := by
  rw [pathAndFragment, if_pos begins] at read
  split at read
  · rename_i cut_
    obtain ⟨rfl, rfl⟩ := Prod.mk.inj (Option.some.inj read)
    exact .inr (NetUrl.cut_eq_some cut_).1
  · rename_i cut_
    obtain ⟨rfl, rfl⟩ := Prod.mk.inj (Option.some.inj read)
    obtain ⟨same, clean⟩ := NetUrl.cut_eq_none.mp cut_
    exact .inl ⟨same, rfl, same ▸ clean⟩

theorem settled_of_plain (some_ : body ≠ [])
    (spelled : body = [byte '/'].intercalate (segments.map templateSegment))
    (route : byte '?' ∉ body → byte '#' ∉ body →
      segments = (splitByte (byte '/') (trimSlashes (byte '/' :: body))).filter isRouteSegment)
    (plain : ∀ s ∈ segments, (∀ b ∈ templateSegment s, ¬IsDelimiter b) ∧ templateSegment s ≠ []) :
    ∀ piece ∈ splitByte (byte '/') body, Settled piece := by
  have nonempty : segments.map templateSegment ≠ [] := by
    intro none_
    rw [none_] at spelled
    exact some_ spelled
  have inTemplates : ∀ t ∈ segments.map templateSegment, (∀ b ∈ t, ¬IsDelimiter b) ∧ t ≠ [] := by
    intro t member
    obtain ⟨s, known, rfl⟩ := List.mem_map.mp member
    exact plain s known
  have pieces : splitByte (byte '/') body = segments.map templateSegment := by
    rw [spelled]
    exact GoStrings.splitByte_intercalate nonempty fun t member slash => (inTemplates t member).1 _ slash (.inl rfl)
  have clean {b : UInt8} (delimiter : IsDelimiter b) (other : b ≠ byte '/') : b ∉ body := by
    intro member
    obtain ⟨piece, inside, found⟩ := GoStrings.exists_mem_splitByte member other
    rw [pieces] at inside
    exact (inTemplates piece inside).1 b found delimiter
  have noQuery : byte '?' ∉ body := clean (.inr (.inl rfl)) (by decide)
  have noFragment : byte '#' ∉ body := clean (.inr (.inr rfl)) (by decide)
  have trimmed : trimSlashes (byte '/' :: body) = body := by
    refine trimSlashes_of_pieces fun piece member => ?_
    rw [pieces] at member
    exact (inTemplates piece member).2
  have kept := route noQuery noFragment
  rw [trimmed, pieces] at kept
  have all_ : ∀ t ∈ segments.map templateSegment, isRouteSegment t = true := by
    refine List.length_filter_eq_length_iff.mp ?_
    rw [← kept, List.length_map]
  rw [List.filter_eq_self.mpr all_] at kept
  have fixed : ∀ t ∈ segments, templateSegment t = id t := by
    refine List.map_inj_left.mp ?_
    rw [List.map_id]
    exact kept.symm
  rw [pieces, ← kept]
  rw [← kept] at all_
  intro piece member
  have inBody : piece ∈ splitByte (byte '/') body := by rwa [pieces, ← kept]
  refine ⟨all_ piece member, fun query => ?_, fun fragment => ?_, fixed piece member⟩
  · exact noQuery (GoStrings.mem_of_mem_splitByte inBody query)
  · exact noFragment (GoStrings.mem_of_mem_splitByte inBody fragment)

theorem settled_of_fixed (some_ : body ≠ [])
    (fixed : normalizePageURL (byte '/' :: body) = byte '/' :: body) :
    ∀ piece ∈ splitByte (byte '/') body, Settled piece := by
  have begins : (byte '/' :: body).head? = some (byte '/') := rfl
  rw [normalizePageURL, if_neg (List.cons_ne_nil _ _)] at fixed
  split at fixed
  · rename_i nothing
    rw [pathAndFragment, if_pos begins] at nothing
    split at nothing
    all_goals cases nothing
  · rename_i path fragment read
    have parts := pathAndFragment_slash read begins
    rcases boundPattern_cases (patternOf (routeSegments path fragment)) with long | ⟨-, same⟩
    · rw [long] at fixed
      have word : body = Bytes.ascii "too-long" := (List.cons.inj fixed).2.symm
      rw [word]
      decide +kernel
    · rw [same] at fixed
      have clean := fun s (member : s ∈ routeSegments path fragment) => not_delimiter_of_mem_routeSegments member
      obtain ⟨fewer, kept⟩ := sum_templates clean
      have counted : (patternOf (routeSegments path fragment)).count (byte '%') =
          (((routeSegments path fragment).map templateSegment).map (·.count (byte '%'))).sum := by
        rw [← count_intercalate, patternOf, List.count_cons_of_ne (by decide)]
      have inRoute := sum_routeSegments_le path fragment
      have inText : (routePath path fragment).count (byte '%') ≤ (byte '/' :: body).count (byte '%') := by
        rcases parts with ⟨rfl, rfl, -⟩ | whole
        · exact (List.takeWhile_sublist _).count_le _
        · rw [whole]
          rcases routePath_sublist path fragment with front | back
          · exact (front.trans (List.sublist_append_left _ _)).count_le _
          · exact (back.trans ((List.sublist_cons_self _ _).trans (List.sublist_append_right _ _))).count_le _
      rw [fixed] at counted
      have plain := kept (by omega)
      refine settled_of_plain some_ (List.cons.inj fixed).2.symm (fun noQuery noFragment => ?_) fun s member =>
        ⟨plain s member, (count_templateSegment (clean s member).1 (clean s member).2).2.2⟩
      rcases parts with ⟨rfl, rfl, -⟩ | whole
      · have route : routePath (byte '/' :: body) [] = byte '/' :: body := by
          refine List.takeWhile_eq_self_iff.mpr (List.forall_mem_cons.mpr ⟨by decide, fun b member => ?_⟩)
          refine decide_eq_true ⟨?_, ?_⟩
          · rintro rfl
            exact noQuery member
          · rintro rfl
            exact noFragment member
        rw [routeSegments, route]
      · have inside : byte '#' ∈ byte '/' :: body := by
          rw [whole]
          exact List.mem_append_right _ List.mem_cons_self
        exact absurd ((List.mem_cons.mp inside).resolve_left (by decide)) noFragment

theorem body_ne_nil (some_ : segments ≠ []) (nonempty : ∀ s ∈ segments, templateSegment s ≠ []) :
    [byte '/'].intercalate (segments.map templateSegment) ≠ [] := by
  cases segments with
  | nil => exact absurd rfl some_
  | cons s rest =>
    have first := nonempty s List.mem_cons_self
    cases rest with
    | nil => simpa using first
    | cons t rest => simp [first]

theorem fixed_iff (some_ : raw ≠ []) :
    normalizePageURL (normalizePageURL raw) = normalizePageURL raw ↔ Settles raw := by
  constructor
  · intro fixed path fragment read
    by_cases long : maxPatternBytes < (patternOf (routeSegments path fragment)).length
    · exact .inl long
    right
    rw [normalizePageURL.eq_def raw, if_neg some_, read] at fixed
    dsimp only at fixed
    rw [boundPattern, if_neg long] at fixed
    intro s known
    have clean := fun s (member : s ∈ routeSegments path fragment) => not_delimiter_of_mem_routeSegments member
    have body := body_ne_nil (List.ne_nil_of_mem known) fun s member =>
      (count_templateSegment (clean s member).1 (clean s member).2).2.2
    have settled := settled_of_fixed body fixed
    intro piece member
    refine settled piece ?_
    have nonempty : (routeSegments path fragment).map templateSegment ≠ [] :=
      List.ne_nil_of_mem (List.mem_map_of_mem known)
    rw [GoStrings.splitByte_intercalate_flatMap nonempty, List.mem_flatMap]
    exact ⟨_, List.mem_map_of_mem known, member⟩
  · exact fun settles => (stays_of_settles settles).1

end Opslane.Priority
