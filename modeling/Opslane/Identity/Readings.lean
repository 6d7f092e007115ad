import Mathlib.Algebra.Group.Int.Defs
import Opslane.Identity.Canonical
import Opslane.Lib.Text

/-!
# What a canonical string can be read as

The parts of a canonical string are joined with `|`, and a part is a file and a tail joined with
`#`. Both separators can stand in a file and in the name of a function, and a name can be written
like the line of an anonymous function. The string of an envelope stands for it alone exactly
where its one frame can be read in one way.
-/

namespace Opslane.Identity

/-- What a frame is called by. -/
inductive FrameName
  | named (function : String)
  | anonymous (line : Int)
  deriving DecidableEq

structure FrameIdentity where
  file : String
  name : FrameName
  deriving DecidableEq

def Frame.identity (frame : Frame) : FrameIdentity where
  file := slashed frame.originalFile
  name :=
    if frame.originalFunction = "" ∨ frame.originalFunction = "<anonymous>" then
      .anonymous frame.originalLine
    else .named frame.originalFunction

/-- The same version, and the same identities of the first frames. -/
def SameIdentity (env env' : Envelope) : Prop :=
  env.version = env'.version ∧
    (env.frames.take maxIdentityFrames).map Frame.identity =
      (env'.frames.take maxIdentityFrames).map Frame.identity

/-- A Go `int`. -/
def FitsInt (n : Int) : Prop := -2 ^ 63 ≤ n ∧ n < 2 ^ 63
  deriving Decidable

structure Envelope.Fits (env : Envelope) : Prop where
  version : FitsInt env.version
  lines : ∀ frame ∈ env.frames, FitsInt frame.originalLine

/-- What can be the tail of a part: a name, or the line of an anonymous function. -/
def IsTail (text : List Char) : Prop := text ≠ [] ∧ text ≠ "<anonymous>".toList

/-- The part of a frame has no second reading. -/
structure Frame.ReadOnce (frame : Frame) : Prop where
  named : IsTail frame.originalFunction.toList
  file : '#' ∉ frame.originalFile.toList
  /-- The name is not written like a line. -/
  noLine : ∀ line, FitsInt line → frame.originalFunction ≠ "L" ++ toString line
  /-- No beginning of the name can belong to the file. -/
  noFile : ∀ y z, frame.originalFunction.toList = y ++ '#' :: z → '\\' ∈ y ∨ ¬IsTail z
  /-- No end of the name can be a frame of its own. -/
  noFrame : ∀ y x z, frame.originalFunction.toList = y ++ '|' :: (x ++ '#' :: z) →
    ¬IsTail y ∨ '\\' ∈ x ∨ ¬IsTail z

/-- No frame, or one that can be read in one way. -/
def OneReading : List Frame → Prop
  | [] => True
  | [frame] => frame.ReadOnce
  | _ => False

def Frame.tail (frame : Frame) : List Char :=
  if frame.originalFunction = "" ∨ frame.originalFunction = "<anonymous>" then
    'L' :: (toString frame.originalLine).toList
  else frame.originalFunction.toList

theorem Frame.isTail_tail (frame : Frame) : IsTail frame.tail := by
  unfold Frame.tail
  split
  · exact ⟨List.cons_ne_nil _ _, by simp⟩
  · rename_i named
    rw [not_or] at named
    refine ⟨fun empty => named.1 (String.toList_inj.mp empty), fun same => named.2 ?_⟩
    exact String.toList_inj.mp same

theorem Frame.toList_part (frame : Frame) :
    frame.part.toList = (slashed frame.originalFile).toList ++ '#' :: frame.tail := by
  unfold Frame.part Frame.tail
  split
  · rw [String.toList_append, String.toList_append, List.append_assoc]
    rfl
  · rw [String.toList_append, String.toList_append, List.append_assoc]
    rfl

theorem toList_slashed (file : String) :
    (slashed file).toList = file.toList.map fun c => if c = '\\' then '/' else c :=
  String.toList_map

theorem not_mem_slashed (file : String) : '\\' ∉ (slashed file).toList := by
  rw [toList_slashed, List.mem_map]
  rintro ⟨c, -, same⟩
  split at same
  · cases same
  · contradiction

theorem slashed_of_not_mem {file : String} (none_ : '\\' ∉ file.toList) : slashed file = file := by
  refine String.toList_inj.mp ?_
  rw [toList_slashed]
  conv => rhs; rw [← List.map_id file.toList]
  refine List.map_congr_left fun c member => if_neg ?_
  rintro rfl
  exact none_ member

theorem mem_slashed_hash {file : String} : '#' ∈ (slashed file).toList ↔ '#' ∈ file.toList := by
  rw [toList_slashed, List.mem_map]
  constructor
  · rintro ⟨c, member, same⟩
    split at same
    · cases same
    · rwa [← same]
  · exact fun member => ⟨'#', member, rfl⟩

/-- The parts of the frames, each behind its separator. -/
def partsText : List Frame → List Char
  | [] => []
  | frame :: rest => '|' :: ((slashed frame.originalFile).toList ++ '#' :: frame.tail) ++ partsText rest

theorem toList_intercalate_parts (head : String) (frames : List Frame) :
    ("|".intercalate (head :: frames.map Frame.part)).toList = head.toList ++ partsText frames := by
  induction frames generalizing head with
  | nil => simp [partsText]
  | cons frame rest ih =>
    rw [List.map_cons, String.intercalate_cons_cons, String.toList_append, ih, String.toList_append,
      Frame.toList_part, partsText]
    simp

theorem toList_canonicalString (env : Envelope) : (CanonicalString env).toList =
    'v' :: (toString env.version).toList ++ partsText (env.frames.take maxIdentityFrames) := by
  rw [CanonicalString, toList_intercalate_parts, String.toList_append]
  rfl

theorem partsText_head (frames : List Frame) :
    partsText frames = [] ∨ ∃ rest, partsText frames = '|' :: rest := by
  cases frames with
  | nil => exact Or.inl rfl
  | cons frame rest => exact Or.inr ⟨_, rfl⟩

theorem canonicalString_eq_iff (env env' : Envelope) : CanonicalString env = CanonicalString env' ↔
    env.version = env'.version ∧ partsText (env.frames.take maxIdentityFrames) =
      partsText (env'.frames.take maxIdentityFrames) := by
  have noBar (n : Int) : ∀ c ∈ 'v' :: (toString n).toList, c ≠ '|' := by
    intro c member
    rcases List.mem_cons.mp member with rfl | digit
    · decide
    · rintro rfl
      rcases Text.mem_toString_int digit with same | digit
      · cases same
      · exact absurd digit (by decide)
  have head (n : Int) (frames : List Frame) :
      ('v' :: (toString n).toList ++ partsText frames).takeWhile (· ≠ '|') =
        'v' :: (toString n).toList := by
    rw [List.takeWhile_append_of_pos (by simpa using noBar n)]
    rcases partsText_head frames with none_ | ⟨rest, some_⟩
    · rw [none_, List.takeWhile_nil, List.append_nil]
    · rw [some_, List.takeWhile_cons_of_neg (by simp), List.append_nil]
  rw [← String.toList_inj, toList_canonicalString, toList_canonicalString]
  constructor
  · intro same
    have version := congrArg (List.takeWhile (· ≠ '|')) same
    rw [head, head] at version
    have version := Text.toString_int_inj.mp (List.cons.inj version).2
    rw [version] at same
    exact ⟨version, List.append_cancel_left same⟩
  · rintro ⟨version, parts⟩
    rw [version, parts]

theorem isTail_of_mem {text : List Char} {c : Char} (separator : c = '#' ∨ c = '|') (member : c ∈ text) :
    IsTail text := by
  refine ⟨List.ne_nil_of_mem member, ?_⟩
  rintro rfl
  rcases separator with rfl | rfl <;> exact absurd member (by decide)

theorem isTail_append (frame : Frame) (rest : List Frame) : IsTail (frame.tail ++ partsText rest) := by
  rcases partsText_head rest with none_ | ⟨more, some_⟩
  · rw [none_, List.append_nil]
    exact frame.isTail_tail
  · rw [some_]
    exact isTail_of_mem (Or.inr rfl) (List.mem_append_right _ List.mem_cons_self)

/-- A frame that is called by its name. -/
def asNamed (file name : List Char) : Frame where
  originalFile := String.ofList file
  originalFunction := String.ofList name
  originalLine := 0
  generated := ⟨0, 0⟩

variable {frame : Frame}

theorem tail_of_isTail (named : IsTail frame.originalFunction.toList) :
    frame.tail = frame.originalFunction.toList ∧
      frame.identity = ⟨slashed frame.originalFile, .named frame.originalFunction⟩ := by
  have names : ¬(frame.originalFunction = "" ∨ frame.originalFunction = "<anonymous>") := by
    rintro (empty | same)
    · exact named.1 (by rw [empty]; rfl)
    · exact named.2 (by rw [same])
  exact ⟨if_neg names, by rw [Frame.identity, if_neg names]⟩

theorem tail_of_not_isTail (unnamed : ¬IsTail frame.originalFunction.toList) :
    frame.tail = 'L' :: (toString frame.originalLine).toList ∧
      frame.identity = ⟨slashed frame.originalFile, .anonymous frame.originalLine⟩ := by
  have names : frame.originalFunction = "" ∨ frame.originalFunction = "<anonymous>" := by
    by_contra names
    rw [not_or] at names
    exact unnamed ⟨fun empty => names.1 (String.toList_inj.mp empty),
      fun same => names.2 (String.toList_inj.mp same)⟩
  exact ⟨if_pos names, by rw [Frame.identity, if_pos names]⟩

theorem partsText_asNamed {file name : List Char} (clean : '\\' ∉ file) (named : IsTail name) :
    partsText [asNamed file name] = '|' :: (file ++ '#' :: name) ∧
      (asNamed file name).identity = ⟨String.ofList file, .named (String.ofList name)⟩ := by
  have slash : slashed (asNamed file name).originalFile = String.ofList file :=
    slashed_of_not_mem (by rwa [asNamed, String.toList_ofList])
  have known : IsTail (asNamed file name).originalFunction.toList := by
    rwa [asNamed, String.toList_ofList]
  obtain ⟨tail, identity⟩ := tail_of_isTail known
  refine ⟨?_, by rw [identity, slash]; rfl⟩
  rw [partsText, slash, tail, asNamed, partsText, String.toList_ofList, String.toList_ofList,
    List.append_nil]

theorem asNamed_fits (file name : List Char) : FitsInt (asNamed file name).originalLine := by
  change FitsInt 0
  decide

/-- The frames of every other envelope with the same parts are the same. -/
def Alone (frames : List Frame) : Prop :=
  ∀ frames', frames'.length ≤ maxIdentityFrames → (∀ frame ∈ frames', FitsInt frame.originalLine) →
    partsText frames = partsText frames' → frames.map Frame.identity = frames'.map Frame.identity

theorem not_alone_cons_cons (frame next : Frame) (rest : List Frame) :
    ¬Alone (frame :: next :: rest) := by
  intro alone
  obtain ⟨text, -⟩ :=
    partsText_asNamed (not_mem_slashed frame.originalFile) (isTail_append frame (next :: rest))
  have same := alone [asNamed (slashed frame.originalFile).toList (frame.tail ++ partsText (next :: rest))]
    (by simp [maxIdentityFrames]) (by simpa using asNamed_fits _ _) (by
      rw [text, partsText]
      simp)
  simpa using congrArg List.length same

theorem readOnce_of_alone (alone : Alone [frame]) : frame.ReadOnce := by
  have text : partsText [frame] = '|' :: ((slashed frame.originalFile).toList ++ '#' :: frame.tail) := by
    rw [partsText, partsText, List.append_nil]
  -- Another reading as one frame has the same file and name.
  have other (file name : List Char) (clean : '\\' ∉ file) (isTail : IsTail name)
      (same : (slashed frame.originalFile).toList ++ '#' :: frame.tail = file ++ '#' :: name) :
      frame.identity = ⟨String.ofList file, .named (String.ofList name)⟩ := by
    obtain ⟨text', identity⟩ := partsText_asNamed clean isTail
    have read := alone [asNamed file name] (by simp [maxIdentityFrames])
      (by simpa using asNamed_fits file name) (by rw [text, text', same])
    rw [← identity]
    exact (List.cons.inj read).1
  have named : IsTail frame.originalFunction.toList := by
    by_contra unnamed
    obtain ⟨-, identity⟩ := tail_of_not_isTail unnamed
    have read := other _ _ (not_mem_slashed _) frame.isTail_tail rfl
    rw [identity] at read
    cases congrArg FrameIdentity.name read
  obtain ⟨tail, identity⟩ := tail_of_isTail named
  rw [tail] at other
  refine ⟨named, fun hash => ?_, fun line fitsLine same => ?_, fun y z same => ?_, fun y x z same => ?_⟩
  · obtain ⟨y, x, split⟩ := List.append_of_mem (mem_slashed_hash.mpr hash)
    have read := other y (x ++ '#' :: frame.originalFunction.toList)
      (fun member => not_mem_slashed frame.originalFile (by
        rw [split]
        exact List.mem_append_left _ member))
      (isTail_of_mem (Or.inl rfl) (List.mem_append_right _ List.mem_cons_self))
      (by rw [split]; simp)
    rw [identity] at read
    have file := congrArg (fun i => i.file.toList.length) read
    simp only [String.toList_ofList, split, List.length_append, List.length_cons] at file
    omega
  · have read := alone [⟨frame.originalFile, "", line, ⟨0, 0⟩⟩] (by simp [maxIdentityFrames])
      (by simpa using fitsLine) (by
        rw [text, tail, same, partsText, partsText, List.append_nil, String.toList_append]
        rfl)
    have first := (List.cons.inj read).1
    rw [identity] at first
    cases congrArg FrameIdentity.name first
  · by_contra reading
    rw [not_or, not_not] at reading
    have read := other ((slashed frame.originalFile).toList ++ '#' :: y) z
      (fun member => by
        rcases List.mem_append.mp member with file | name
        · exact not_mem_slashed _ file
        · exact reading.1 ((List.mem_cons.mp name).resolve_left (by decide)))
      reading.2 (by rw [same]; simp)
    rw [identity] at read
    have file := congrArg (fun i => i.file.toList.length) read
    simp only [String.toList_ofList, List.length_append, List.length_cons] at file
    omega
  · by_contra reading
    rw [not_or, not_or, not_not, not_not] at reading
    obtain ⟨first, -⟩ := partsText_asNamed (not_mem_slashed frame.originalFile) reading.1
    obtain ⟨second, -⟩ := partsText_asNamed reading.2.1 reading.2.2
    have both (f g : Frame) : partsText [f, g] = partsText [f] ++ partsText [g] := by
      simp [partsText]
    have read := alone [asNamed (slashed frame.originalFile).toList y, asNamed x z]
      (by simp [maxIdentityFrames])
      (by simpa using And.intro (asNamed_fits (slashed frame.originalFile).toList y) (asNamed_fits x z)) (by
        rw [text, tail, same, both, first, second]
        simp)
    simpa using congrArg List.length read

theorem split_at_first {file file' name name' : List Char} (first : '#' ∉ file)
    (same : file ++ '#' :: name = file' ++ '#' :: name') :
    (file' = file ∧ name' = name) ∨ ∃ y, file' = file ++ '#' :: y ∧ name = y ++ '#' :: name' := by
  rcases List.append_eq_append_iff.mp same with ⟨_ | ⟨c, y⟩, file_, rest⟩ | ⟨_ | ⟨c, y⟩, file_, rest⟩
  · rw [List.append_nil] at file_
    exact Or.inl ⟨file_, (List.cons.inj rest).2.symm⟩
  · obtain ⟨rfl, -⟩ := List.cons.inj rest
    exact Or.inr ⟨y, file_, (List.cons.inj rest).2⟩
  · rw [List.append_nil] at file_
    exact Or.inl ⟨file_.symm, (List.cons.inj rest).2⟩
  · obtain ⟨rfl, -⟩ := List.cons.inj rest
    refine absurd ?_ first
    rw [file_]
    exact List.mem_append_right _ List.mem_cons_self

theorem alone_of_readOnce (once : frame.ReadOnce) : Alone [frame] := by
  have clean : '#' ∉ (slashed frame.originalFile).toList := fun hash => once.file (mem_slashed_hash.mp hash)
  obtain ⟨tail, identity⟩ := tail_of_isTail once.named
  -- Where a file is longer, its end with the text behind it is another reading of the name.
  have longer {file' y name' : List Char} (noSlash : '\\' ∉ file') (isTail : IsTail name')
      (file_ : file' = (slashed frame.originalFile).toList ++ '#' :: y)
      (name : frame.originalFunction.toList = y ++ '#' :: name') : False := by
    rcases once.noFile y name' name with slash | noTail
    · refine noSlash ?_
      rw [file_]
      exact List.mem_append_right _ (List.mem_cons_of_mem _ slash)
    · exact noTail isTail
  intro frames' short fits same
  rw [partsText, partsText, List.append_nil, tail] at same
  cases frames' with
  | nil => cases same
  | cons frame' rest =>
    have lines := fits frame' List.mem_cons_self
    rw [partsText, List.cons_append, List.append_assoc, List.cons_append] at same
    rcases split_at_first clean (List.cons.inj same).2 with ⟨file_, name⟩ | ⟨y, file_, name⟩
    · cases rest with
      | nil =>
        rw [partsText, List.append_nil] at name
        have file_ := String.toList_inj.mp file_
        by_cases named : IsTail frame'.originalFunction.toList
        · obtain ⟨tail', identity'⟩ := tail_of_isTail named
          rw [tail'] at name
          rw [List.map_singleton, List.map_singleton, identity, identity', file_,
            String.toList_inj.mp name]
        · obtain ⟨tail', -⟩ := tail_of_not_isTail named
          rw [tail'] at name
          refine absurd ?_ (once.noLine frame'.originalLine lines)
          refine String.toList_inj.mp ?_
          rw [← name, String.toList_append]
          rfl
      | cons next rest =>
        exfalso
        rw [partsText, List.cons_append, List.append_assoc, List.cons_append] at name
        rcases once.noFrame _ _ _ name.symm with noTail | slash | noTail
        · exact noTail frame'.isTail_tail
        · exact not_mem_slashed _ slash
        · exact noTail (isTail_append next rest)
    · exact (longer (not_mem_slashed frame'.originalFile) (isTail_append frame' rest) file_ name).elim

theorem alone_iff (frames : List Frame) : Alone frames ↔ OneReading frames := by
  cases frames with
  | nil =>
    refine iff_of_true (fun frames' _ _ same => ?_) trivial
    cases frames' with
    | nil => rfl
    | cons frame rest => cases same
  | cons frame rest =>
    cases rest with
    | nil => exact ⟨readOnce_of_alone, alone_of_readOnce⟩
    | cons next rest => exact iff_of_false (not_alone_cons_cons frame next rest) id

theorem part_of_identity {frame frame' : Frame} (same : frame.identity = frame'.identity) :
    slashed frame.originalFile = slashed frame'.originalFile ∧ frame.tail = frame'.tail := by
  refine ⟨congrArg FrameIdentity.file same, ?_⟩
  have name := congrArg FrameIdentity.name same
  by_cases named : IsTail frame.originalFunction.toList <;>
    by_cases named' : IsTail frame'.originalFunction.toList
  · obtain ⟨tail, identity⟩ := tail_of_isTail named
    obtain ⟨tail', identity'⟩ := tail_of_isTail named'
    rw [identity, identity'] at name
    rw [tail, tail', FrameName.named.inj name]
  · rw [(tail_of_isTail named).2, (tail_of_not_isTail named').2] at name
    cases name
  · rw [(tail_of_not_isTail named).2, (tail_of_isTail named').2] at name
    cases name
  · obtain ⟨tail, identity⟩ := tail_of_not_isTail named
    obtain ⟨tail', identity'⟩ := tail_of_not_isTail named'
    rw [identity, identity'] at name
    rw [tail, tail', FrameName.anonymous.inj name]

theorem partsText_of_identities {frames frames' : List Frame}
    (same : frames.map Frame.identity = frames'.map Frame.identity) :
    partsText frames = partsText frames' := by
  induction frames generalizing frames' with
  | nil =>
    cases frames' with
    | nil => rfl
    | cons frame' rest' => cases same
  | cons frame rest ih =>
    cases frames' with
    | nil => cases same
    | cons frame' rest' =>
      obtain ⟨first, rest_⟩ := List.cons.inj same
      obtain ⟨file, tail⟩ := part_of_identity first
      rw [partsText, partsText, file, tail, ih rest_]

/-- The canonical string of an envelope belongs to its frame identities alone if and only if it has
no frame, or one that can be read in one way. -/
theorem canonicalString_injective_iff (env : Envelope) (fits : env.Fits) :
    (∀ env' : Envelope, env'.Fits → (CanonicalString env = CanonicalString env' ↔ SameIdentity env env')) ↔
      OneReading (env.frames.take maxIdentityFrames) := by
  rw [← alone_iff]
  constructor
  · intro injective frames' short fits' same
    have whole : frames'.take maxIdentityFrames = frames' := List.take_of_length_le short
    have identical := (injective ⟨env.version, frames'⟩ ⟨fits.version, fits'⟩).mp
      ((canonicalString_eq_iff _ _).mpr ⟨rfl, by rw [whole, same]⟩)
    rw [identical.2, whole]
  · intro alone env' fits'
    rw [canonicalString_eq_iff]
    refine ⟨fun ⟨version, parts⟩ => ⟨version, alone _ ?_ ?_ parts⟩, fun ⟨version, identities⟩ =>
      ⟨version, partsText_of_identities identities⟩⟩
    · exact List.length_take_le _ _
    · exact fun frame member => fits'.lines frame (List.mem_of_mem_take member)

theorem fits_singleton {version : Int} (fits : FitsInt version)
    (line : FitsInt frame.originalLine) : Envelope.Fits ⟨version, [frame]⟩ :=
  ⟨fits, fun frame' member => by rwa [List.mem_singleton.mp member]⟩

/-- One frame of a plain name. -/
def rendered : Envelope := ⟨IdentityVersion, [⟨"src/App.tsx", "render", 12, ⟨1, 40⟩⟩]⟩

theorem canonicalString_injective_rendered : rendered.Fits ∧ OneReading rendered.frames ∧
    ∀ env' : Envelope, env'.Fits →
      (CanonicalString rendered = CanonicalString env' ↔ SameIdentity rendered env') := by
  have fits : rendered.Fits := fits_singleton (by decide) (by decide)
  -- Neither separator stands in the name, and it begins with another character than a line.
  have once : OneReading rendered.frames := by
    refine ⟨⟨by decide, by decide⟩, by decide, fun line _ same => ?_, fun y z same => ?_,
      fun y x z same => ?_⟩
    · have first := congrArg (fun name => name.toList.head?) same
      rw [String.toList_append] at first
      cases first
    · exact absurd (same ▸ List.mem_append_right y List.mem_cons_self : '#' ∈ "render".toList) (by decide)
    · exact absurd (same ▸ List.mem_append_right y List.mem_cons_self : '|' ∈ "render".toList) (by decide)
  exact ⟨fits, once, (canonicalString_injective_iff rendered fits).mpr once⟩

/-- A function can be named like the line of an anonymous one. -/
theorem canonicalString_merges : ¬∀ env env' : Envelope, env.Fits → env'.Fits →
    (CanonicalString env = CanonicalString env' ↔ SameIdentity env env') := by
  intro injective
  have same := (injective ⟨2, [⟨"src/map.ts", "", 7, ⟨1, 1⟩⟩]⟩ ⟨2, [⟨"src/map.ts", "L7", 7, ⟨1, 1⟩⟩]⟩
    (fits_singleton (by decide) (by decide)) (fits_singleton (by decide) (by decide))).mp
      (by decide +kernel)
  exact absurd same.2 (by decide +kernel)

end Opslane.Identity
