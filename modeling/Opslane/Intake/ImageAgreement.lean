import Opslane.Intake.DebugMeta
import Opslane.Sdk.DebugImages

/-!
# Images the SDK sends

The images the SDK assembles name each file once, with one id. The intake reads the file's
UTF-8 bytes, and two texts have the same bytes when they differ in halves of surrogate
pairs only: then two files become one.
-/

namespace Opslane.Sdk.DebugImages

open CodeUnits

structure DebugImage.Valid (image : DebugImage) : Prop where
  codeFile : validCodeFile image.codeFile = true
  debugId : isDebugId (image.debugId.map UInt16.toNat) = true

theorem validEntries_valid (registry : Registry) : ∀ image ∈ validEntries registry, image.Valid := by
  intro image member
  obtain ⟨⟨codeFile, ids⟩, -, inside⟩ := List.mem_flatMap.mp member
  dsimp only at inside
  split at inside
  · cases inside
  · rename_i valid
    split at inside
    · cases inside
    · obtain ⟨id, kept, rfl⟩ := List.mem_map.mp inside
      exact ⟨by simpa using valid, (List.mem_filter.mp kept).2⟩

theorem candidates_subset (entries : List DebugImage) (stack : CodeUnits) :
    candidates entries stack ⊆ entries := by
  intro image member
  obtain ⟨line, -, inside⟩ := List.mem_flatMap.mp member
  split at inside
  · cases inside
  · exact (List.mem_filter.mp inside).1

theorem popWhileTooLong_prefix (fuel : Nat) (images : List DebugImage) :
    popWhileTooLong fuel images <+: images := by
  induction fuel generalizing images with
  | zero => exact List.prefix_rfl
  | succ fuel ih =>
    rw [popWhileTooLong]
    split
    · exact (ih _).trans (List.dropLast_prefix images)
    · exact List.prefix_rfl

/-- Each file stands in the message once. -/
structure Assembled (images : List DebugImage) : Prop where
  valid : ∀ image ∈ images, image.Valid
  files : (images.map (·.codeFile)).Nodup
  length : images.length ≤ maxImages

theorem assembleDebugMeta_assembled {registry : Option Registry} {stack : CodeUnits}
    {images : List DebugImage} (sent : assembleDebugMeta registry stack = some images) :
    Assembled images := by
  unfold assembleDebugMeta at sent
  split at sent
  · cases sent
  · cases sent
  · rename_i registry _
    obtain rfl := Option.some.inj sent
    have distinct : (unique (candidates (validEntries registry) stack)).Nodup :=
      List.nodup_nil.foldl_addNew _
    have from_ : ∀ image ∈ unique (candidates (validEntries registry) stack),
        image ∈ candidates (validEntries registry) stack := by
      intro image member
      exact (List.mem_foldl_addNew.mp member).resolve_left List.not_mem_nil
    generalize unique (candidates (validEntries registry) stack) = found at distinct from_ ⊢
    have part : popWhileTooLong ((found.filter (isUnambiguous found)).take maxImages).length
        ((found.filter (isUnambiguous found)).take maxImages)
          <+: (found.filter (isUnambiguous found)).take maxImages := popWhileTooLong_prefix _ _
    have sub := part.sublist.trans (List.take_sublist maxImages _)
    have inside := fun image member => List.mem_filter.mp (sub.subset (a := image) member)
    refine ⟨fun image member => ?_, ?_, ?_⟩
    · exact validEntries_valid registry image
        (candidates_subset _ _ (from_ image (inside image member).1))
    · refine List.Nodup.map_on ?_ ((distinct.filter _).sublist sub)
      intro image member other otherMember sameFile
      have alone := List.all_eq_true.mp (inside image member).2 other (inside other otherMember).1
      simp only [sameFile, bne_self_eq_false, Bool.false_or, beq_iff_eq] at alone
      obtain ⟨file, id⟩ := image
      obtain ⟨file', id'⟩ := other
      simp_all
    · exact part.length_le.trans (List.length_take_le _ _)

end Opslane.Sdk.DebugImages

namespace Opslane.Intake

open CodeUnits Sdk.DebugImages

def imageMessage (image : DebugImage) : ImageMessage where
  type := .value (Bytes.ascii "sourcemap")
  codeFile := .value image.codeFile.encode
  debugId := .value image.debugId.encode

def unchangedImage (image : DebugImage) : ValidatedDebugImage where
  codeFile := image.codeFile.encode
  debugId := image.debugId.encode

theorem validCodeFile_encode {codeFile : CodeUnits}
    (valid : Sdk.DebugImages.validCodeFile codeFile = true) :
    validCodeFile codeFile.encode = true := by
  simp only [Sdk.DebugImages.validCodeFile, Bool.and_eq_true, Bool.not_eq_true'] at valid
  obtain ⟨length, controls⟩ := valid
  have bytes : codeFile.encode.any Bytes.isControl = false := by
    rw [List.any_eq_false] at controls ⊢
    intro b member control
    have small : b.toNat < 0x20 ∨ b.toNat = 0x7f := by
      simpa [Bytes.isControl, UInt8.lt_iff_toNat_lt, ← UInt8.toNat_inj] using control
    have ascii : b < 0x80 := by
      rw [UInt8.lt_iff_toNat_lt]
      exact lt_of_le_of_lt (by omega : b.toNat ≤ 0x7f) (by decide)
    obtain ⟨u, inside, same⟩ := mem_of_mem_encode ascii member
    apply controls u inside
    simpa [isControl, UInt16.lt_iff_toNat_lt, ← UInt16.toNat_inj, same] using small
  simp only [validCodeFile, bytes, Bool.not_false, Bool.and_true]
  exact Bool.and_eq_true_iff.mpr length

theorem isDebugId_getElem {debugId : CodeUnits} (valid : isDebugId (debugId.map UInt16.toNat) = true)
    {i : Nat} {u : UInt16} (here : debugId[i]? = some u) (inside : i < 36) :
    if i ∈ [8, 13, 18, 23] then u.toNat = 45 else Sdk.DebugImages.isLowerHex u.toNat = true := by
  simp only [isDebugId, Bool.and_eq_true, List.all_eq_true, List.mem_range] at valid
  have place := valid.2 i inside
  simp only [List.getD_eq_getElem?_getD, List.getElem?_map, here, Option.map_some,
    Option.getD_some] at place
  split at place <;> simp_all

theorem isDebugID_encode {debugId : CodeUnits} (valid : isDebugId (debugId.map UInt16.toNat) = true) :
    isDebugID debugId.encode = true := by
  have digits : ∀ n < 0x80, Sdk.DebugImages.isLowerHex n = true →
      isLowerHex n.toUInt8 = true := by decide
  have length : debugId.length = 36 := by
    simp only [isDebugId, Bool.and_eq_true, decide_eq_true_eq, List.length_map] at valid
    exact valid.1
  have small {u : UInt16} (hex : Sdk.DebugImages.isLowerHex u.toNat = true) : u.toNat < 0x80 := by
    simp only [Sdk.DebugImages.isLowerHex, Bool.or_eq_true, Bool.and_eq_true, decide_eq_true_eq] at hex
    omega
  have ascii : debugId.encode = debugId.map UInt16.toUInt8 := by
    apply encode_ascii
    intro u member
    obtain ⟨i, bound, rfl⟩ := List.getElem_of_mem member
    have place := isDebugId_getElem valid (List.getElem?_eq_getElem bound) (length ▸ bound)
    rw [UInt16.lt_iff_toNat_lt]
    split at place
    · rw [place]
      decide
    · exact small place
  rw [isDebugID, ascii, List.length_map, length]
  simp only [decide_true, Bool.true_and, List.all_eq_true, List.mem_range]
  intro i inside
  obtain ⟨u, here⟩ : ∃ u, debugId[i]? = some u :=
    ⟨_, List.getElem?_eq_getElem (length ▸ inside)⟩
  have place := isDebugId_getElem valid here inside
  simp only [List.getD_eq_getElem?_getD, List.getElem?_map, here, Option.map_some, Option.getD_some]
  split at place
  · rename_i dash
    have byte : u.toUInt8 = Masking.byte '-' := by
      rw [← UInt8.toNat_inj, UInt16.toNat_toUInt8, place]
      decide
    simp [dash, byte]
  · rename_i digit
    have hex : isLowerHex u.toUInt8 = true := digits u.toNat (small place) place
    simp [digit, hex]

theorem checkImage_imageMessage {image : DebugImage} (valid : image.Valid) :
    checkImage (some (imageMessage image)) = .ok (unchangedImage image) := by
  have file := validCodeFile_encode valid.codeFile
  have id := isDebugID_encode valid.debugId
  simp [checkImage, imageMessage, Field.string, unchangedImage, file, id]

theorem foldl_collect (images : List DebugImage) (valid : ∀ image ∈ images, image.Valid)
    (s : SanitizedImages) :
    (images.map fun i => some (imageMessage i)).foldl SanitizedImages.collect s =
      { s with retained := (images.map unchangedImage).foldl List.addNew s.retained } := by
  induction images generalizing s with
  | nil => rfl
  | cons image rest ih =>
    rw [List.map_cons, List.foldl_cons, ih fun i member => valid i (List.mem_cons_of_mem _ member),
      SanitizedImages.collect, checkImage_imageMessage (valid image List.mem_cons_self)]
    rfl

theorem foldl_retain_sublist (valid images : List ValidatedDebugImage) (s : SanitizedImages) :
    (images.foldl (SanitizedImages.retain valid) s).retained.Sublist
      (s.retained ++ images.filter fun image => !isAmbiguous valid image) := by
  induction images generalizing s with
  | nil => simp
  | cons image rest ih =>
    rw [List.foldl_cons]
    refine (ih _).trans ?_
    unfold SanitizedImages.retain
    split
    · rename_i ambiguous
      simp [ambiguous]
    · rename_i alone
      split
      · simp only [List.filter_cons, alone, Bool.not_false, if_true]
        exact List.Sublist.append_left (List.sublist_cons_self image _) _
      · simp [alone]

theorem foldl_retain_eq (valid images : List ValidatedDebugImage) (s : SanitizedImages)
    (alone : ∀ image ∈ images, isAmbiguous valid image = false)
    (room : s.retained.length + images.length ≤ 64) :
    images.foldl (SanitizedImages.retain valid) s =
      { s with retained := s.retained ++ images } := by
  induction images generalizing s with
  | nil => simp
  | cons image rest ih =>
    rw [List.length_cons] at room
    have free : ¬ s.retained.length = 64 := by omega
    rw [List.foldl_cons, SanitizedImages.retain, alone image List.mem_cons_self,
      if_neg Bool.false_ne_true, if_neg free,
      ih _ fun i member => alone i (List.mem_cons_of_mem _ member)]
    · simp
    · simp only [List.length_append, List.length_singleton]
      omega

def imagesMessage (images : List DebugImage) : MetaMessage :=
  .images (images.map fun i => some (imageMessage i))

/-- The intake keeps every image and counts no discard. -/
def KeepsImages (images : List DebugImage) : Prop :=
  (sanitizeDebugMeta (imagesMessage images)).retained = images.map unchangedImage ∧
    (sanitizeDebugMeta (imagesMessage images)).discards = []

/-- Files with the same bytes are the same. -/
def FilesApart (images : List DebugImage) : Prop :=
  ∀ image ∈ images, ∀ other ∈ images,
    image.codeFile.encode = other.codeFile.encode → image.codeFile = other.codeFile
  deriving Decidable

theorem sanitizeDebugMeta_imagesMessage {images : List DebugImage}
    (valid : ∀ image ∈ images, image.Valid) (nonempty : images ≠ []) :
    sanitizeDebugMeta (imagesMessage images) =
      ((images.map unchangedImage).foldl List.addNew []).foldl
        (SanitizedImages.retain ((images.map unchangedImage).foldl List.addNew [])) {} := by
  obtain ⟨image, rest, rfl⟩ := List.exists_cons_of_ne_nil nonempty
  rw [imagesMessage, List.map_cons, sanitizeDebugMeta, ← List.map_cons (f := fun i => some (imageMessage i)),
    foldl_collect _ valid]
  simp

theorem filesApart_of_keepsImages {images : List DebugImage} (assembled : Assembled images)
    (nonempty : images ≠ []) (kept : KeepsImages images) : FilesApart images := by
  obtain ⟨retained, -⟩ := kept
  rw [sanitizeDebugMeta_imagesMessage assembled.valid nonempty] at retained
  generalize collectedEq : (images.map unchangedImage).foldl List.addNew [] = collected at retained
  have part := foldl_retain_sublist collected collected {}
  rw [retained, List.nil_append] at part
  have distinct : collected.Nodup := collectedEq ▸ List.nodup_nil.foldl_addNew _
  have once : (images.map unchangedImage).Nodup := (distinct.filter _).sublist part
  intro image member other otherMember sameBytes
  have here := List.mem_filter.mp (part.subset (List.mem_map_of_mem member))
  have there := List.mem_filter.mp (part.subset (List.mem_map_of_mem otherMember))
  have sameId : image.debugId.encode = other.debugId.encode := by
    have alone := here.2
    rw [Bool.not_eq_true', isAmbiguous, List.any_eq_false] at alone
    have pair := alone _ there.1
    simp only [unchangedImage, sameBytes, beq_self_eq_true, Bool.true_and, bne_iff_ne, ne_eq,
      not_not] at pair
    exact pair.symm
  have sameImage : unchangedImage image = unchangedImage other := by
    simp [unchangedImage, sameBytes, sameId]
  rw [List.inj_on_of_nodup_map once member otherMember sameImage]

theorem keepsImages_of_filesApart {images : List DebugImage} (assembled : Assembled images)
    (nonempty : images ≠ []) (apart : FilesApart images) : KeepsImages images := by
  have same : ∀ image ∈ images, ∀ other ∈ images,
      image.codeFile.encode = other.codeFile.encode → image = other := fun i here j there bytes =>
    List.inj_on_of_nodup_map assembled.files here there (apart i here j there bytes)
  have once : (images.map unchangedImage).Nodup := by
    refine List.Nodup.map_on ?_ (List.Nodup.of_map _ assembled.files)
    intro image here other there equal
    exact same image here other there (congrArg ValidatedDebugImage.codeFile equal)
  have alone : ∀ image ∈ images.map unchangedImage,
      isAmbiguous (images.map unchangedImage) image = false := by
    intro a here
    obtain ⟨image, member, rfl⟩ := List.mem_map.mp here
    rw [isAmbiguous, List.any_eq_false]
    intro b there
    obtain ⟨other, otherMember, rfl⟩ := List.mem_map.mp there
    by_cases bytes : other.codeFile.encode = image.codeFile.encode
    · rw [same other otherMember image member bytes]
      simp
    · simp [unchangedImage, bytes]
  have room : ({} : SanitizedImages).retained.length + (images.map unchangedImage).length ≤ 64 := by
    rw [List.length_map]
    exact (Nat.zero_add _).trans_le assembled.length
  have collected : (images.map unchangedImage).foldl List.addNew [] = images.map unchangedImage :=
    List.foldl_addNew_of_nodup once
  rw [KeepsImages, sanitizeDebugMeta_imagesMessage assembled.valid nonempty, collected,
    foldl_retain_eq _ _ _ alone room]
  exact ⟨rfl, rfl⟩

theorem keepsImages_iff {images : List DebugImage} (assembled : Assembled images) :
    KeepsImages images ↔ FilesApart images := by
  by_cases nonempty : images = []
  · subst nonempty
    exact iff_of_true ⟨rfl, rfl⟩ (by simp [FilesApart])
  · exact ⟨filesApart_of_keepsImages assembled nonempty, keepsImages_of_filesApart assembled nonempty⟩

end Opslane.Intake
