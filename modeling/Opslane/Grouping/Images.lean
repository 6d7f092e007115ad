import Opslane.Grouping.Fingerprint

/-!
# The images that are looked for

A file is looked for where all usable images of it, their queries cut off, carry one debug id. The
files are looked for in one order, whatever order the images came in.
-/

namespace Opslane.Grouping

open GoStrings

/-- The image names a file that may be looked for. -/
def SourceImage.Usable (image : SourceImage) (codeFile : Bytes) : Prop :=
  usableCodeFile (cutQuery image.codeFile) ∧ usableDebugID image.debugID ∧
    cutQuery image.codeFile = codeFile
  deriving Decidable

/-- The one debug id of a file. -/
def StandsFor (images : List SourceImage) (codeFile debugID : Bytes) : Prop :=
  (∃ image ∈ images, image.Usable codeFile ∧ image.debugID = debugID) ∧
    ∀ image ∈ images, image.Usable codeFile → image.debugID = debugID

theorem ImageFiles.add_spec (s : ImageFiles) (image : SourceImage) (codeFile : Bytes) :
    (s.add image).byFile.get? codeFile =
        (s.byFile.get? codeFile).or (if image.Usable codeFile then some image.debugID else none) ∧
      (codeFile ∈ (s.add image).ambiguous ↔ codeFile ∈ s.ambiguous ∨
        image.Usable codeFile ∧ ∃ id, s.byFile.get? codeFile = some id ∧ id ≠ image.debugID) := by
  unfold ImageFiles.add
  dsimp only
  split
  · rename_i unusable
    have never : ¬image.Usable codeFile := by
      rintro ⟨file, id, -⟩
      simp [file, id] at unusable
    simp [never]
  · rename_i usable
    simp only [Bool.or_eq_true, Bool.not_eq_true', not_or, Bool.not_eq_false] at usable
    have own : image.Usable codeFile ↔ cutQuery image.codeFile = codeFile := by
      simp [SourceImage.Usable, usable]
    simp only [own]
    split
    · rename_i clash
      obtain ⟨existing, found, differs⟩ := (Option.any_eq_true _ _).mp clash
      have differs : existing ≠ image.debugID := by simpa using differs
      dsimp only
      rw [List.mem_cons]
      by_cases same : cutQuery image.codeFile = codeFile
      · subst same
        simp [found, differs]
      · simp [same, Ne.symm same]
    · rename_i agrees
      dsimp only
      rw [EntryMap.get?_set]
      by_cases same : cutQuery image.codeFile = codeFile
      · subst same
        cases found : s.byFile.get? (cutQuery image.codeFile) with
        | none => simp
        | some existing =>
          rw [found] at agrees
          have equal : existing = image.debugID := by simpa using agrees
          simp [equal]
      · simp [same, Ne.symm same]

theorem foldl_add_spec (images : List SourceImage) (s : ImageFiles) (codeFile : Bytes) :
    (images.foldl ImageFiles.add s).byFile.get? codeFile =
        (s.byFile.get? codeFile).or ((images.find? (·.Usable codeFile)).map SourceImage.debugID) ∧
      (codeFile ∈ (images.foldl ImageFiles.add s).ambiguous ↔ codeFile ∈ s.ambiguous ∨
        ∃ image ∈ images, image.Usable codeFile ∧
          (images.foldl ImageFiles.add s).byFile.get? codeFile ≠ some image.debugID) := by
  induction images generalizing s with
  | nil => simp
  | cons image rest ih =>
    obtain ⟨stored, clash⟩ := s.add_spec image codeFile
    obtain ⟨found, ambiguous⟩ := ih (s.add image)
    rw [List.foldl_cons]
    refine ⟨?_, ?_⟩
    · rw [found, stored, Option.or_assoc, List.find?_cons]
      by_cases usable : image.Usable codeFile <;> simp [usable]
    · rw [ambiguous, clash, or_assoc, List.exists_mem_cons_iff]
      refine or_congr_right (or_congr_left (and_congr_right fun usable => ?_))
      rw [found, stored, if_pos usable]
      cases s.byFile.get? codeFile <;> simp

theorem get?_foldl_delete (ks : List Bytes) (m : EntryMap Bytes Bytes) (k : Bytes) :
    (ks.foldl EntryMap.delete m).get? k = if k ∈ ks then none else m.get? k := by
  induction ks generalizing m with
  | nil => simp
  | cons first rest ih =>
    rw [List.foldl_cons, ih, EntryMap.get?_delete]
    by_cases own : k = first <;> by_cases later : k ∈ rest <;> simp [own, later]

theorem get?_usableFiles (images : List SourceImage) (codeFile debugID : Bytes) :
    (usableFiles images).get? codeFile = some debugID ↔ StandsFor images codeFile debugID := by
  obtain ⟨found, ambiguous⟩ := foldl_add_spec images ⟨.empty, []⟩ codeFile
  rw [EntryMap.get?_empty, Option.none_or] at found
  simp only [List.not_mem_nil, false_or] at ambiguous
  rw [usableFiles]
  dsimp only [imageFiles]
  rw [get?_foldl_delete]
  simp only [ambiguous, found]
  constructor
  · intro stored
    split at stored
    · cases stored
    · rename_i unambiguous
      rw [not_exists] at unambiguous
      obtain ⟨image, first, rfl⟩ := Option.map_eq_some_iff.mp stored
      refine ⟨⟨image, List.mem_of_find?_eq_some first, ?_, rfl⟩, fun other member usable => ?_⟩
      · simpa using List.find?_some first
      · by_contra differs
        refine unambiguous other ⟨member, usable, ?_⟩
        rw [first]
        exact fun same => differs (Option.some.inj same).symm
  · rintro ⟨⟨image, member, usable, rfl⟩, all⟩
    have first : (images.find? (·.Usable codeFile)).map SourceImage.debugID = some image.debugID := by
      cases found : images.find? (·.Usable codeFile) with
      | none => exact absurd usable (by simpa using List.find?_eq_none.mp found image member)
      | some other =>
        rw [Option.map_some, all other (List.mem_of_find?_eq_some found) (by simpa using List.find?_some found)]
    rw [if_neg, first]
    rintro ⟨other, member', usable', differs⟩
    rw [first, all other member' usable'] at differs
    exact differs rfl

theorem SourceImage.before_iff (image other : SourceImage) : image.before other = true ↔
    other.codeFile.length < image.codeFile.length ∨
      image.codeFile.length = other.codeFile.length ∧ image.codeFile < other.codeFile := by
  unfold SourceImage.before
  split
  · rename_i differ
    simp [differ]
  · rename_i same
    rw [ne_eq, not_not] at same
    simp [same]

theorem SourceImage.not_before_self (image : SourceImage) : image.before image = false := by
  rw [← Bool.not_eq_true, SourceImage.before_iff]
  rintro (shorter | ⟨-, less⟩)
  · exact Nat.lt_irrefl _ shorter
  · exact List.lt_irrefl _ less

theorem SourceImage.before_trans {a b c : SourceImage} (first : ¬b.before a) (second : ¬c.before b) :
    ¬c.before a := by
  simp only [SourceImage.before_iff, not_or, not_and, Nat.not_lt] at *
  refine ⟨Nat.le_trans second.1 first.1, fun same less => ?_⟩
  have ab : b.codeFile.length = a.codeFile.length := by omega
  have bc : c.codeFile.length = b.codeFile.length := by omega
  have smaller := first.2 ab
  have larger := second.2 bc
  rcases Std.lt_trichotomy a.codeFile b.codeFile with lt | eq | gt
  · exact larger (List.lt_trans less lt)
  · exact larger (eq ▸ less)
  · exact smaller gt

theorem SourceImage.before_total (a b : SourceImage) : ¬b.before a ∨ ¬a.before b := by
  by_contra both
  rw [not_or, not_not, not_not, SourceImage.before_iff, SourceImage.before_iff] at both
  obtain ⟨shorter | ⟨same, less⟩, shorter' | ⟨same', less'⟩⟩ := both
  · omega
  · omega
  · omega
  · exact List.lt_asymm less less'

theorem SourceImage.eq_of_not_before {a b : SourceImage} (first : ¬b.before a) (second : ¬a.before b) :
    a.codeFile = b.codeFile := by
  simp only [SourceImage.before_iff, not_or, not_and, Nat.not_lt] at first second
  have same : a.codeFile.length = b.codeFile.length := by omega
  exact List.le_antisymm (first.2 same.symm) (second.2 same)

theorem mem_usableImages (images : List SourceImage) (image : SourceImage) :
    image ∈ usableImages images ↔ StandsFor images image.codeFile image.debugID := by
  rw [usableImages, List.mem_insertionSort, ← get?_usableFiles, ← EntryMap.mem_entries, List.mem_map]
  constructor
  · rintro ⟨e, member, rfl⟩
    exact member
  · exact fun member => ⟨_, member, rfl⟩

theorem pairwise_usableImages (images : List SourceImage) :
    (usableImages images).Pairwise fun image other => image.before other = true := by
  have total : Std.Total fun image other : SourceImage => ¬other.before image = true :=
    ⟨fun a b => SourceImage.before_total a b⟩
  have trans : IsTrans SourceImage fun image other => ¬other.before image = true :=
    ⟨fun _ _ _ => SourceImage.before_trans⟩
  have sorted := List.pairwise_insertionSort (fun image other : SourceImage => ¬other.before image = true)
    ((usableFiles images).entries.map fun e => ⟨e.1, e.2⟩)
  have distinct : (usableImages images).Pairwise fun image other => image.codeFile ≠ other.codeFile := by
    have keys : (((usableFiles images).entries.map fun e => (⟨e.1, e.2⟩ : SourceImage)).map
        SourceImage.codeFile).Nodup := by
      rw [List.map_map]
      exact EntryMap.nodup_keys (usableFiles images)
    rw [← List.pairwise_map (f := SourceImage.codeFile) (R := (· ≠ ·))]
    exact ((List.perm_insertionSort _ _).map _).nodup_iff.mpr keys
  refine (sorted.and distinct).imp fun {image other} facts => ?_
  by_contra no
  exact facts.2 (SourceImage.eq_of_not_before facts.1 no)

theorem usableImages_congr {images images' : List SourceImage} (same : ∀ image, image ∈ images' ↔ image ∈ images) :
    usableImages images' = usableImages images := by
  have irreflexive : Std.Irrefl fun image other : SourceImage => image.before other = true :=
    ⟨fun image => by rw [image.not_before_self]; nofun⟩
  have antisymmetric : Std.Antisymm fun image other : SourceImage => image.before other = true :=
    ⟨fun a b before after => ((SourceImage.before_total a b).elim (fun no => no after) fun no => no before).elim⟩
  refine (pairwise_usableImages images').eq_of_mem_iff (pairwise_usableImages images) fun image => ?_
  simp only [mem_usableImages, StandsFor, same]

end Opslane.Grouping
