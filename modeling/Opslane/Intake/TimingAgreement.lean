import Mathlib.Data.List.Flatten
import Opslane.Intake.NetworkTimings
import Opslane.Sdk.NetworkTiming

/-!
# Timings the SDK sends

Every record the SDK keeps is one the intake takes, as far as its method, its outcome, its
status and its times go. What is left to check is its URL, which the intake masks again, and
that its clock does not stand before its epoch.
-/

theorem List.filterMap_eq_map_iff {α β : Type} {f : α → Option β} {g : α → β} {l : List α} :
    l.filterMap f = l.map g ↔ ∀ a ∈ l, f a = some (g a) := by
  constructor
  · intro same
    induction l with
    | nil => simp
    | cons a rest ih =>
      cases image : f a with
      | none =>
        have length := congrArg List.length same
        have fewer := List.length_filterMap_le f rest
        simp only [List.filterMap_cons, image, List.map_cons, List.length_cons, List.length_map] at length
        omega
      | some b =>
        simp only [List.filterMap_cons, image, List.map_cons, List.cons.injEq] at same
        obtain ⟨rfl, tail⟩ := same
        intro c member
        rcases List.mem_cons.mp member with rfl | later
        · exact image
        · exact ih tail c later
  · intro images
    induction l with
    | nil => rfl
    | cons a rest ih =>
      rw [List.filterMap_cons, images a List.mem_cons_self, List.map_cons,
        ih fun c member => images c (List.mem_cons_of_mem _ member)]

namespace Opslane.Sdk.Network

open CodeUnits

variable {URL : Type} {platform : Platform URL}

theorem length_fitting_le (ns : List Nat) (room : Nat) :
    ((fitting ns room).flatMap Bytes.ofScalar).length ≤ room := by
  fun_induction fitting ns room with
  | case1 => simp
  | case2 n ns room fits ih =>
    simp only [List.flatMap_cons, List.length_append]
    omega
  | case3 => simp

theorem fitting_sublist (ns : List Nat) (room : Nat) : (fitting ns room).Sublist ns := by
  fun_induction fitting ns room with
  | case1 => exact List.Sublist.slnil
  | case2 n ns room fits ih => exact ih.cons_cons n
  | case3 n ns room => exact List.nil_sublist _

theorem rdropWhile_decodeFirst_sublist (ns : List Nat) (room : Nat) :
    ((decodeFirst ns room).rdropWhile (· == replacement)).Sublist (fitting ns room) := by
  obtain ⟨marks, read, few⟩ : ∃ marks, decodeFirst ns room
        = (if (fitting ns room ++ marks).head? = some 0xfeff then (fitting ns room ++ marks).tail
          else fitting ns room ++ marks) ∧ (marks = [] ∨ marks = [replacement]) :=
    ⟨_, rfl, by split <;> simp⟩
  have drops (kept : List Nat) :
      ((kept ++ marks).rdropWhile (· == replacement)).Sublist kept := by
    have prefix_ := (List.rdropWhile_prefix (p := (· == replacement)) kept).sublist
    rcases few with rfl | rfl
    · simpa using prefix_
    · rwa [List.rdropWhile_concat_pos _ _ _ (by simp)]
  rw [read]
  split
  · rename_i marked
    cases kept : fitting ns room with
    | nil =>
      rw [kept] at marked
      rcases few with rfl | rfl <;> simp [replacement] at marked
    | cons n rest =>
      rw [List.cons_append, List.tail_cons]
      exact (drops rest).cons n
  · exact drops _

theorem length_encode_capBytes_le (value : CodeUnits) (maxBytes : Nat) :
    (capBytes platform value maxBytes).encode.length ≤ maxBytes := by
  unfold capBytes
  split
  · have units := length_encode_le (value.take (maxBytes / 3))
    rw [List.length_take] at units
    omega
  · split
    · assumption
    · have part := rdropWhile_decodeFirst_sublist value.scalars maxBytes
      have bytes := (List.Sublist.flatMap part Bytes.ofScalar).length_le
      have room := length_fitting_le value.scalars maxBytes
      rw [encode_flatMap_ofScalar fun n member => isScalar_of_mem_scalars value n
        ((part.trans (fitting_sublist _ _)).subset member)]
      omega

structure ActiveRecord.Valid (r : ActiveRecord) : Prop where
  method : isToken r.method = true
  url : r.url ≠ []
  urlBytes : r.url.encode.length ≤ maxUrlBytes
  ttfb : ∀ ms ∈ r.ttfbMs, ms ≤ maxElapsedMs

structure NetworkTiming.Valid (e : NetworkTiming) : Prop where
  method : isToken e.method = true
  url : e.url ≠ []
  urlBytes : e.url.encode.length ≤ maxUrlBytes
  ttfb : ∀ ms ∈ e.ttfbMs, ms ≤ maxElapsedMs
  duration : e.durationMs ≤ maxElapsedMs
  status : ∀ code ∈ e.status, 100 ≤ code ∧ code ≤ 599

structure Timings.Valid (s : Timings) : Prop where
  active : ∀ entry ∈ s.active, entry.2.Valid
  completed : ∀ e ∈ s.completed, e.Valid
  activeLength : s.active.length ≤ maxEntries
  completedLength : s.completed.length ≤ maxEntries

theorem elapsed_le (start stop : Rat) : elapsed start stop ≤ maxElapsedMs := Nat.min_le_left _ _

theorem ActiveRecord.Valid.completedTiming {r : ActiveRecord} (valid : r.Valid) (outcome : Outcome)
    {status : Option Nat} (storable : ∀ code ∈ status, 100 ≤ code ∧ code ≤ 599) (mark : Rat) :
    (Timings.completedTiming r outcome status mark).Valid where
  method := valid.method
  url := valid.url
  urlBytes := valid.urlBytes
  ttfb := valid.ttfb
  duration := elapsed_le _ _
  status := storable

theorem trackable_spec {method url scrubbed safeMethod : CodeUnits}
    (tracked : Timings.trackable platform method url = some (scrubbed, safeMethod)) :
    isToken safeMethod = true ∧ scrubbed ≠ [] ∧ scrubbed.encode.length ≤ maxUrlBytes := by
  unfold Timings.trackable at tracked
  dsimp only at tracked
  split at tracked
  · cases tracked
  · rename_i nonempty
    split at tracked
    · rename_i token
      cases tracked
      exact ⟨token, nonempty, length_encode_capBytes_le _ _⟩
    · cases tracked

theorem Report.status_storable (report : Report) :
    ∀ code ∈ report.status, 100 ≤ code ∧ code ≤ 599 := by
  intro code stored
  unfold Report.status at stored
  split at stored
  · split at stored
    · rename_i range
      cases stored
      exact range
    · cases stored
  · cases stored

variable {s : Timings}

theorem Timings.Valid.startTiming (valid : s.Valid) (transport : Transport) (method url : CodeUnits)
    (now : Int) (mark : Rat) :
    (s.startTiming platform transport method url now mark).Valid := by
  unfold Timings.startTiming
  split
  · exact valid
  · rename_i scrubbed safeMethod tracked
    obtain ⟨token, nonempty, bytes⟩ := trackable_spec tracked
    split
    · exact valid
    · rename_i room
      refine ⟨?_, valid.completed, ?_, valid.completedLength⟩
      · intro entry member
        rcases List.mem_append.mp member with before | new
        · exact valid.active entry before
        · rw [List.mem_singleton.mp new]
          exact ⟨token, nonempty, bytes, fun ms stored => nomatch stored⟩
      · rw [List.length_append, List.length_singleton]
        omega

theorem Timings.Valid.markHeaders (valid : s.Valid) (handle : Nat) (mark : Rat) :
    (s.markHeaders handle mark).Valid := by
  refine ⟨?_, valid.completed, ?_, valid.completedLength⟩
  · intro entry member
    obtain ⟨before, inside, rfl⟩ := List.mem_map.mp member
    have record := valid.active before inside
    split
    · refine { record with ttfb := ?_ }
      intro ms stored
      cases stored
      exact elapsed_le _ _
    · exact record
  · exact (List.length_map _).trans_le valid.activeLength

theorem Timings.Valid.delete (valid : s.Valid) (handle : Nat) :
    (s.delete handle).Valid where
  active entry member := valid.active entry (List.mem_filter.mp member).1
  completed := valid.completed
  activeLength := (List.length_filter_le _ _).trans valid.activeLength
  completedLength := valid.completedLength

theorem Timings.Valid.get (valid : s.Valid) {handle : Nat} {r : ActiveRecord}
    (found : s.get handle = some r) : r.Valid := by
  obtain ⟨entry, here, rfl⟩ := Option.map_eq_some_iff.mp found
  exact valid.active entry (List.mem_of_find?_eq_some here)

theorem Timings.Valid.finalizeTiming (valid : s.Valid) (handle : Nat) (report : Report)
    (mark : Rat) :
    (s.finalizeTiming handle report.outcome report.status mark).Valid := by
  unfold Timings.finalizeTiming
  split
  · exact valid
  · rename_i r found
    have record := valid.get found
    refine ⟨(valid.delete handle).active, ?_, (valid.delete handle).activeLength, ?_⟩
    · intro e member
      rcases List.mem_append.mp (List.mem_of_mem_drop member) with before | new
      · exact valid.completed e before
      · rw [List.mem_singleton.mp new]
        exact record.completedTiming _ report.status_storable mark
    · rw [List.length_drop]
      omega

theorem step_valid (valid : s.Valid) (action : Action) :
    (step platform s action).Valid := by
  cases action with
  | startTiming transport method url now mark =>
    exact valid.startTiming transport method url now mark
  | markHeaders handle mark => exact valid.markHeaders handle mark
  | finalizeTiming handle report mark => exact valid.finalizeTiming handle report mark
  | discardTiming handle => exact valid.delete handle
  | clear => exact ⟨by simp [step], by simp [step], Nat.zero_le _, Nat.zero_le _⟩

theorem run_valid (platform : Platform URL) (actions : List Action) :
    (run platform actions).Valid := by
  have continues (s : Timings) (valid : s.Valid) : (actions.foldl (step platform) s).Valid := by
    induction actions generalizing s with
    | nil => exact valid
    | cons action rest ih => exact ih _ (step_valid valid action)
  exact continues {} ⟨by simp, by simp, Nat.zero_le _, Nat.zero_le _⟩

theorem snapshot_valid (valid : s.Valid) (mark : Rat) :
    (∀ e ∈ s.snapshotNetworkTimings mark, e.Valid) ∧
      (s.snapshotNetworkTimings mark).length ≤ maxEntries := by
  have inFlight : ∀ e ∈ (((s.active.map (·.2)).mergeSort fun a b => a.startMark ≤ b.startMark).take
      maxEntries).map (Timings.inFlightTiming mark), e.Valid := by
    intro e member
    obtain ⟨r, taken, rfl⟩ := List.mem_map.mp member
    obtain ⟨entry, inside, rfl⟩ := List.mem_map.mp (List.mem_mergeSort.mp (List.mem_of_mem_take taken))
    exact (valid.active entry inside).completedTiming .inFlight (by simp) mark
  unfold Timings.snapshotNetworkTimings
  dsimp only
  split
  · refine ⟨inFlight, ?_⟩
    rw [List.length_map, List.length_take]
    omega
  · constructor
    · intro e member
      rcases List.mem_append.mp member with flying | done
      · exact inFlight e flying
      · exact valid.completed e (List.mem_of_mem_drop (List.mem_reverse.mp done))
    · rw [List.length_append, List.length_reverse, List.length_drop]
      omega

end Opslane.Sdk.Network

namespace Opslane.Intake

open CodeUnits Sdk.Network

def transportText (t : Transport) : Bytes :=
  match t with
  | .fetch => Bytes.ascii "fetch"
  | .xhr => Bytes.ascii "xhr"

def outcomeText (o : Outcome) : Bytes :=
  match o with
  | .ok => Bytes.ascii "ok"
  | .httpError => Bytes.ascii "http_error"
  | .timeout => Bytes.ascii "timeout"
  | .abort => Bytes.ascii "abort"
  | .networkError => Bytes.ascii "network_error"
  | .inFlight => Bytes.ascii "in_flight"

/-- The entry as JSON; a field the SDK leaves out is missing. -/
def timingMessage (e : NetworkTiming) : TimingMessage where
  transport := .value (transportText e.transport)
  method := .value e.method.encode
  url := .value e.url.encode
  startedAtMs := .value e.startedAtMs
  durationMs := .value e.durationMs
  ttfbMs := match e.ttfbMs with | none => .missing | some ms => .value ms
  outcome := .value (outcomeText e.outcome)
  status := match e.status with | none => .missing | some code => .value code

/-- The entry as it is stored when nothing about it changes. -/
def unchangedTiming (e : NetworkTiming) : ValidatedNetworkTiming where
  transport := transportText e.transport
  method := e.method.encode
  url := e.url.encode
  startedAtMs := some e.startedAtMs
  durationMs := some e.durationMs
  ttfbMs := e.ttfbMs.map fun ms => (ms : Rat)
  outcome := outcomeText e.outcome
  status := e.status.map fun code => (code : Int)

theorem unmarshal_timingMessage (e : NetworkTiming) :
    (timingMessage e).unmarshal = some (unchangedTiming e) := by
  obtain ⟨transport, method, url, startedAtMs, durationMs, ttfbMs, outcome, status⟩ := e
  cases ttfbMs <;> cases status <;> rfl

/-- The URL has no control character and masking leaves it as it is, and the request did not
start before the epoch. -/
structure Storable (e : NetworkTiming) : Prop where
  controls : e.url.encode.any Bytes.isControl = false
  masked : Masking.redactRequestURL e.url.encode = e.url.encode
  started : 0 ≤ e.startedAtMs

instance (e : NetworkTiming) : Decidable (Storable e) :=
  decidable_of_iff (e.url.encode.any Bytes.isControl = false
      ∧ Masking.redactRequestURL e.url.encode = e.url.encode ∧ 0 ≤ e.startedAtMs)
    ⟨fun ⟨controls, masked, started⟩ => ⟨controls, masked, started⟩,
      fun s => ⟨s.controls, s.masked, s.started⟩⟩

theorem round_int (n : Int) : round n = n := by
  unfold round
  split
  · have half : ⌊(n : Rat) + 1 / 2⌋ = n := by
      rw [Int.floor_eq_iff]
      constructor <;> norm_num
    rw [half]
  · have half : ⌈(n : Rat) - 1 / 2⌉ = n := by
      rw [Int.ceil_eq_iff]
      constructor <;> norm_num
    rw [half]

theorem rounded_unchangedTiming (e : NetworkTiming) : rounded (unchangedTiming e) = unchangedTiming e := by
  have natural (n : Nat) : round n = n := round_int n
  cases ttfb : e.ttfbMs <;> simp [rounded, unchangedTiming, ttfb, round_int, natural]

theorem isTokenUnit_ascii {u : UInt16} (token : isTokenUnit u = true) : u.toNat < 0x80 := by
  have marks : (codeUnits "!#$%&'*+.^_`|~-").all (fun v => v.toNat < 0x80) = true := by decide +kernel
  simp only [isTokenUnit, Bool.or_eq_true, Bool.and_eq_true, decide_eq_true_eq,
    UInt16.le_iff_toNat_le] at token
  have letter : (codeUnit 'Z').toNat = 90 := by decide
  have digit : (codeUnit '9').toNat = 57 := by decide
  rcases token with (⟨-, upper⟩ | ⟨-, upper⟩) | mark
  · omega
  · omega
  · exact of_decide_eq_true (List.all_eq_true.mp marks u mark)

theorem isTokenUnit_byte {u : UInt16} (token : isTokenUnit u = true) :
    u.toUInt8 < 0x80 ∧ Masking.isLowerLetter u.toUInt8 = false ∧ u.toUInt8 ∈ timingMethodBytes := by
  have table : ∀ n : Nat, n < 0x80 → isTokenUnit n.toUInt16 = true → n.toUInt8 < 0x80 ∧
      Masking.isLowerLetter n.toUInt8 = false ∧ n.toUInt8 ∈ timingMethodBytes := by decide +kernel
  have entry := table u.toNat (isTokenUnit_ascii token)
  have same : u.toNat.toUInt16 = u := UInt16.ofNat_toNat
  have byte : u.toNat.toUInt8 = u.toUInt8 := rfl
  rw [same, byte] at entry
  exact entry token

theorem toUpper_eq_self {value : Bytes}
    (plain : ∀ b ∈ value, b < 0x80 ∧ Masking.isLowerLetter b = false) : toUpper value = value := by
  fun_induction toUpper value with
  | case1 rest =>
    obtain ⟨small, -⟩ := plain 0xc4 List.mem_cons_self
    exact absurd small (by decide)
  | case2 rest =>
    obtain ⟨small, -⟩ := plain 0xc5 List.mem_cons_self
    exact absurd small (by decide)
  | case3 b rest _ _ ih =>
    obtain ⟨-, upper⟩ := plain b List.mem_cons_self
    rw [ih fun c member => plain c (List.mem_cons_of_mem _ member)]
    simp [upper]
  | case4 => rfl

theorem validTimingMethod_of_isToken {method : CodeUnits} (token : isToken method = true) :
    toUpper method.encode = method.encode ∧ validTimingMethod method.encode = true := by
  simp only [isToken, Bool.and_eq_true, decide_eq_true_eq, List.all_eq_true] at token
  obtain ⟨⟨nonempty, short⟩, units⟩ := token
  have ascii : method.encode = method.map UInt16.toUInt8 :=
    encode_ascii fun u member => UInt16.lt_iff_toNat_lt.mpr (isTokenUnit_ascii (units u member))
  have bytes : ∀ b ∈ method.encode, b < 0x80 ∧ Masking.isLowerLetter b = false ∧
      b ∈ timingMethodBytes := by
    intro b member
    rw [ascii] at member
    obtain ⟨u, inside, rfl⟩ := List.mem_map.mp member
    exact isTokenUnit_byte (units u inside)
  have length : method.encode.length = method.length := by rw [ascii, List.length_map]
  constructor
  · exact toUpper_eq_self fun b member => ⟨(bytes b member).1, (bytes b member).2.1⟩
  · simp only [validTimingMethod, length, Bool.and_eq_true, decide_eq_true_eq, List.all_eq_true]
    exact ⟨⟨by omega, short⟩, fun b member => (bytes b member).2.2⟩

variable {e : NetworkTiming}

theorem validTimingURL_iff (valid : e.Valid) :
    validTimingURL e.url.encode = true ↔ e.url.encode.any Bytes.isControl = false := by
  have nonempty : e.url.encode.length ≠ 0 := by
    intro none
    exact valid.url ((encode_eq_nil_iff _).mp (List.length_eq_zero_iff.mp none))
  have short : e.url.encode.length ≤ maxTimingURLBytes := valid.urlBytes
  simp [validTimingURL, nonempty, short]

theorem validElapsed_of_le {ms : Nat} (bound : ms ≤ maxElapsedMs) : validElapsed ms = true := by
  have upper : (ms : Rat) ≤ maxTimingElapsedMs := by
    have cast : (ms : Rat) ≤ (maxElapsedMs : Nat) := by exact_mod_cast bound
    exact cast
  simp [validElapsed, upper]

theorem checkTiming_eq (valid : e.Valid) :
    checkTiming (unchangedTiming e) =
      if e.url.encode.any Bytes.isControl then .error .badURL
      else if e.startedAtMs < 0 then .error .badStartedAt
      else if !validTimingURL (Masking.redactRequestURL e.url.encode) then .error .badURL
      else .ok { unchangedTiming e with url := Masking.redactRequestURL e.url.encode } := by
  obtain ⟨upper, method⟩ := validTimingMethod_of_isToken valid.method
  have transport : (unchangedTiming e).transport ∈ validTransports := by
    cases h : e.transport <;> simp [unchangedTiming, transportText, validTransports, h]
  have outcome : (unchangedTiming e).outcome ∈ validTimingOutcome := by
    cases h : e.outcome <;> simp [unchangedTiming, outcomeText, validTimingOutcome, h]
  have sameMethod : toUpper (unchangedTiming e).method = (unchangedTiming e).method := upper
  have validMethod : validTimingMethod (unchangedTiming e).method = true := method
  have duration : (unchangedTiming e).durationMs.any validElapsed = true := by
    simpa [unchangedTiming] using validElapsed_of_le valid.duration
  have ttfb : (unchangedTiming e).ttfbMs.all validElapsed = true := by
    cases h : e.ttfbMs with
    | none => simp [unchangedTiming, h]
    | some ms => simpa [unchangedTiming, h] using validElapsed_of_le (valid.ttfb ms h)
  have status : (unchangedTiming e).status.all (fun status => 100 ≤ status && status ≤ 599) = true := by
    cases h : e.status with
    | none => simp [unchangedTiming, h]
    | some code =>
      have range : (100 : Int) ≤ code ∧ (code : Int) ≤ 599 := by
        exact_mod_cast valid.status code h
      simpa [unchangedTiming, h] using range
  have roundedMasked (url : Bytes) :
      rounded { unchangedTiming e with url } = { unchangedTiming e with url } :=
    congrArg (fun timing : ValidatedNetworkTiming => { timing with url }) (rounded_unchangedTiming e)
  have url := validTimingURL_iff valid
  have started : (unchangedTiming e).startedAtMs.any (fun x => decide (0 ≤ x)) = true
      ↔ ¬ e.startedAtMs < 0 := by
    simp [unchangedTiming]
  rw [checkTiming, if_neg (not_not.mpr transport)]
  dsimp only
  rw [sameMethod]
  simp only [outcome, validMethod, duration, ttfb, status, not_true_eq_false, Bool.not_true,
    Bool.false_eq_true, if_false]
  have maskedAgain : rounded { unchangedTiming e with
        url := Masking.redactRequestURL (unchangedTiming e).url }
      = { unchangedTiming e with url := Masking.redactRequestURL e.url.encode } := roundedMasked _
  have sameUrl : (unchangedTiming e).url = e.url.encode := rfl
  rw [maskedAgain, sameUrl]
  by_cases controls : e.url.encode.any Bytes.isControl = true
  · have invalid : validTimingURL e.url.encode = false := by
      rw [Bool.eq_false_iff, ne_eq, url, controls]
      decide
    simp [controls, invalid]
  · have ok : validTimingURL e.url.encode = true := url.mpr (Bool.eq_false_iff.mpr controls)
    by_cases early : e.startedAtMs < 0
    · have refused := Bool.eq_false_iff.mpr fun present => started.mp present early
      simp [controls, ok, early, refused]
    · simp [controls, ok, early, started.mpr early]

theorem sanitizeTiming_iff (valid : e.Valid) :
    sanitizeTiming (some (timingMessage e)) = .ok (unchangedTiming e) ↔ Storable e := by
  have read : (some (timingMessage e)).bind TimingMessage.unmarshal = some (unchangedTiming e) :=
    unmarshal_timingMessage e
  have url := validTimingURL_iff valid
  rw [sanitizeTiming, read]
  dsimp only
  rw [checkTiming_eq valid]
  constructor
  · intro stored
    split at stored
    · cases stored
    · rename_i controls
      split at stored
      · cases stored
      · rename_i late
        split at stored
        · cases stored
        · have masked := congrArg ValidatedNetworkTiming.url (Except.ok.inj stored)
          exact ⟨Bool.eq_false_iff.mpr controls, masked, Int.not_lt.mp late⟩
  · intro storable
    have ok := url.mpr storable.controls
    rw [storable.masked, storable.controls, ok]
    simp [Int.not_lt.mpr storable.started, unchangedTiming]

theorem foldl_add (entries : List (Option TimingMessage)) (s : SanitizedTimings)
    (room : s.retained.length + entries.length ≤ maxNetworkTimings) :
    entries.foldl SanitizedTimings.add s =
      { retained := s.retained ++ entries.filterMap fun e => (sanitizeTiming e).toOption
        discards := s.discards ++ entries.filterMap fun e =>
          match sanitizeTiming e with | .ok _ => none | .error discard => some discard } := by
  induction entries generalizing s with
  | nil => simp
  | cons e rest ih =>
    rw [List.length_cons] at room
    have free : ¬ s.retained.length = maxNetworkTimings := by omega
    rw [List.foldl_cons, SanitizedTimings.add, if_neg free]
    cases checked : sanitizeTiming e with
    | ok timing =>
      rw [ih]
      · simp [Except.toOption, checked]
      · simp only [List.length_append, List.length_singleton]
        omega
    | error discard =>
      rw [ih]
      · simp [Except.toOption, checked]
      · simp only
        omega

/-- The entries as a message. -/
def timingsMessage (entries : List NetworkTiming) : Option (Option (List (Option TimingMessage))) :=
  some (some (entries.map fun e => some (timingMessage e)))

/-- The intake keeps every entry, in order and as it is, and counts no discard. -/
def KeepsTimings (entries : List NetworkTiming) : Prop :=
  sanitizeNetworkTimings (timingsMessage entries) = { retained := entries.map unchangedTiming }

theorem keepsTimings_iff {entries : List NetworkTiming} (valid : ∀ e ∈ entries, e.Valid)
    (short : entries.length ≤ maxEntries) :
    KeepsTimings entries ↔ ∀ e ∈ entries, Storable e := by
  have room : ({} : SanitizedTimings).retained.length
      + (entries.map fun e => some (timingMessage e)).length ≤ maxNetworkTimings := by
    rw [List.length_map]
    exact (Nat.zero_add _).trans_le short
  rw [KeepsTimings, timingsMessage, sanitizeNetworkTimings, foldl_add _ _ room]
  simp only [List.nil_append, List.filterMap_map, SanitizedTimings.mk.injEq]
  have all : (∀ e ∈ entries, Storable e) ↔ ∀ e ∈ entries,
      ((fun entry => (sanitizeTiming entry).toOption) ∘ fun e => some (timingMessage e)) e
        = some (unchangedTiming e) := by
    refine forall₂_congr fun e member => ?_
    rw [← sanitizeTiming_iff (valid e member)]
    cases h : sanitizeTiming (some (timingMessage e)) <;> simp [h, Except.toOption]
  rw [all, ← List.filterMap_eq_map_iff]
  constructor
  · exact fun kept => kept.1
  · intro kept
    refine ⟨kept, ?_⟩
    rw [List.filterMap_eq_nil_iff]
    intro e member
    have stored := List.filterMap_eq_map_iff.mp kept e member
    simp only [Function.comp_apply] at stored ⊢
    cases h : sanitizeTiming (some (timingMessage e)) with
    | ok timing => rfl
    | error discard =>
      rw [h] at stored
      cases stored

end Opslane.Intake
