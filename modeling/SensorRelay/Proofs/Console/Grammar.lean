import SensorRelay.Console.Line
import SensorRelay.Proofs.Text.Numeral
import SensorRelay.Proofs.Text.Words

/-!
# The grammar of input lines

Which words mean which command, and how a command is written. A line is read by its words alone, and
a command that was read is read again from any line that it is written on.
-/

namespace SensorRelay.Console

open Text

/-- A period of at least a millisecond that fits into sixty-four bits. -/
def IsPeriod (word : String) (period : Nat) : Prop :=
  IsUnsigned word.toList period ∧ 0 < period ∧ period < UInt64.size

/-- A depth that fits into thirty-two bits with a sign. -/
def IsDepth (word : String) (depth : Int32) : Prop :=
  IsSigned word.toList depth.toInt

variable {word : String}

theorem readPeriod_eq_some_iff {period : Nat} :
    readPeriod word = some period ↔ IsPeriod word period := by
  have hlimit : period ≤ UInt64.size - 1 ↔ period < UInt64.size :=
    Nat.le_sub_one_iff_lt (by decide)
  rw [readPeriod, Option.filter_eq_some_iff, readUnsigned_eq_some_iff, decide_eq_true_iff, hlimit,
    IsPeriod, and_assoc, and_comm (b := 0 < period)]

theorem readDepth_eq_some_iff {depth : Int32} :
    readDepth word = some depth ↔ IsDepth word depth := by
  rw [readDepth, Option.map_eq_some_iff]
  constructor
  · rintro ⟨k, hk, rfl⟩
    obtain ⟨hsigned, hleast, hgreatest⟩ := readSigned_eq_some_iff.mp hk
    rwa [IsDepth, Int32.toInt_ofInt_of_le hleast (Int.lt_of_le_of_lt hgreatest (by decide))]
  · intro h
    refine ⟨depth.toInt, readSigned_eq_some_iff.mpr ⟨h, ?_, ?_⟩, Int32.ofInt_toInt depth⟩
    · exact depth.minValue_le_toInt
    · exact depth.toInt_le

theorem isPeriod_numeral {period : Nat} (h : IsPeriod word period) :
    IsPeriod (numeral period) period :=
  ⟨isUnsigned_numeral period, h.2⟩

theorem isDepth_signedNumeral (depth : Int32) : IsDepth (signedNumeral depth.toInt) depth :=
  isSigned_signedNumeral depth.toInt

namespace SensorLine

/-- The words that mean a command to a sensor. -/
inductive Means : List String → SensorLine → Prop
  | empty : Means [] empty
  | register (name location : String) (tags : List String) :
      Means ("-register" :: name :: location :: tags) (register name location tags)
  | whoAmI : Means ["-whoami"] whoAmI
  | startStream : Means ["-startstream"] (startStream none none)
  | startStreamEvery {ms : String} {period : Nat} : IsPeriod ms period →
      Means ["-startstream", ms] (startStream (some period) none)
  | startStreamWith {ms : String} {period : Nat} (token : String) : IsPeriod ms period →
      Means ["-startstream", ms, token] (startStream (some period) (some token))
  | endStream : Means ["-endstream"] endStream
  | quit : Means ["-quit"] quit

/-- A command as words. -/
def written : SensorLine → List String
  | .empty => []
  | .register name location tags => "-register" :: name :: location :: tags
  | .whoAmI => ["-whoami"]
  | .startStream period token => "-startstream" :: ((period.map numeral).toList ++ token.toList)
  | .endStream => ["-endstream"]
  | .quit => ["-quit"]

variable {ws : List String} {l : SensorLine}

theorem ofWords?_eq_some_iff : ofWords? ws = some l ↔ Means ws l := by
  constructor
  · intro h
    unfold ofWords? at h
    split at h
    · cases h
      exact .empty
    · cases h
      exact .register _ _ _
    · cases h
      exact .whoAmI
    · cases h
      exact .startStream
    · obtain ⟨period, hperiod, rfl⟩ := Option.map_eq_some_iff.mp h
      exact .startStreamEvery (readPeriod_eq_some_iff.mp hperiod)
    · obtain ⟨period, hperiod, rfl⟩ := Option.map_eq_some_iff.mp h
      exact .startStreamWith _ (readPeriod_eq_some_iff.mp hperiod)
    · cases h
      exact .endStream
    · cases h
      exact .quit
    · cases h
  · intro h
    cases h with
    | startStreamEvery hperiod =>
      exact congrArg (Option.map _) (readPeriod_eq_some_iff.mpr hperiod)
    | startStreamWith token hperiod =>
      exact congrArg (Option.map _) (readPeriod_eq_some_iff.mpr hperiod)
    | _ => rfl

theorem Means.written (h : Means ws l) : Means l.written l := by
  cases h with
  | startStreamEvery hperiod => exact .startStreamEvery (isPeriod_numeral hperiod)
  | startStreamWith token hperiod => exact .startStreamWith token (isPeriod_numeral hperiod)
  | empty => exact .empty
  | register name location tags => exact .register name location tags
  | whoAmI => exact .whoAmI
  | startStream => exact .startStream
  | endStream => exact .endStream
  | quit => exact .quit

theorem Means.isWord (h : Means ws l) (hws : ∀ w ∈ ws, IsWord w) : ∀ w ∈ l.written, IsWord w := by
  have hcommand : IsWord "-startstream" := by decide
  cases h with
  | @startStreamEvery ms period hperiod =>
    have hnumeral := isWord_numeral period
    simp [SensorLine.written, hcommand, hnumeral]
  | @startStreamWith ms period token hperiod =>
    have hnumeral := isWord_numeral period
    have htoken := hws token (by simp)
    simp [SensorLine.written, hcommand, hnumeral, htoken]
  | _ => exact hws

end SensorLine

namespace SubscriberLine

/-- The words that mean a command to a subscriber. -/
inductive Means : List String → SubscriberLine → Prop
  | empty : Means [] empty
  | register (login password email : String) :
      Means ["-register", login, password, email] (register login password email)
  | logIn (login password : String) : Means ["-login", login, password] (logIn login password)
  | list : Means ["-list"] list
  | history (sensorId : String) {word : String} {depth : Int32} : IsDepth word depth →
      Means ["-history", sensorId, word] (history sensorId depth)
  | subscribeOn (sensorId : String) : Means ["-subscribeon", sensorId] (subscribeOn sensorId)
  | unsubscribeFrom (sensorId : String) :
      Means ["-unsubscribefrom", sensorId] (unsubscribeFrom sensorId)
  | disconnect : Means ["-disconnect"] disconnect
  | quit : Means ["-quit"] quit

/-- A command as words. -/
def written : SubscriberLine → List String
  | .empty => []
  | .register login password email => ["-register", login, password, email]
  | .logIn login password => ["-login", login, password]
  | .list => ["-list"]
  | .history sensorId depth => ["-history", sensorId, signedNumeral depth.toInt]
  | .subscribeOn sensorId => ["-subscribeon", sensorId]
  | .unsubscribeFrom sensorId => ["-unsubscribefrom", sensorId]
  | .disconnect => ["-disconnect"]
  | .quit => ["-quit"]

variable {ws : List String} {l : SubscriberLine}

theorem ofWords?_eq_some_iff : ofWords? ws = some l ↔ Means ws l := by
  constructor
  · intro h
    unfold ofWords? at h
    split at h
    · cases h
      exact .empty
    · cases h
      exact .register _ _ _
    · cases h
      exact .logIn _ _
    · cases h
      exact .list
    · obtain ⟨depth, hdepth, rfl⟩ := Option.map_eq_some_iff.mp h
      exact .history _ (readDepth_eq_some_iff.mp hdepth)
    · cases h
      exact .subscribeOn _
    · cases h
      exact .unsubscribeFrom _
    · cases h
      exact .disconnect
    · cases h
      exact .quit
    · cases h
  · intro h
    cases h with
    | history sensorId hdepth =>
      exact congrArg (Option.map _) (readDepth_eq_some_iff.mpr hdepth)
    | _ => rfl

theorem Means.written (h : Means ws l) : Means l.written l := by
  cases h with
  | history sensorId hdepth => exact .history sensorId (isDepth_signedNumeral _)
  | empty => exact .empty
  | register login password email => exact .register login password email
  | logIn login password => exact .logIn login password
  | list => exact .list
  | subscribeOn sensorId => exact .subscribeOn sensorId
  | unsubscribeFrom sensorId => exact .unsubscribeFrom sensorId
  | disconnect => exact .disconnect
  | quit => exact .quit

theorem Means.isWord (h : Means ws l) (hws : ∀ w ∈ ws, IsWord w) : ∀ w ∈ l.written, IsWord w := by
  cases h with
  | @history sensorId word depth hdepth =>
    have hcommand := hws "-history" (by simp)
    have hsensor := hws sensorId (by simp)
    have hnumeral := isWord_signedNumeral depth.toInt
    simp [SubscriberLine.written, hcommand, hsensor, hnumeral]
  | _ => exact hws

end SubscriberLine

/-- How a peer reads lines: by their words alone, as the one command that the words mean, or else
with all its commands for an answer. A command that was read is read again from every line that it
is written on. -/
structure ReadsLines {α : Type} (parse : String → Except Error α) (Means : List String → α → Prop)
    (empty : α) (written : α → List String) (usage : String) : Prop where
  read_iff : ∀ {line ws l}, LaidOut line.toList ws → (parse line = .ok l ↔ Means ws l)
  refused_iff : ∀ {line ws e}, LaidOut line.toList ws →
    (parse line = .error e ↔ (∀ l, ¬ Means ws l) ∧ e = ⟨.usage, usage⟩)
  empty_iff : ∀ {line ws}, LaidOut line.toList ws → (parse line = .ok empty ↔ ws = [])
  isWord_written : ∀ {line l}, parse line = .ok l → ∀ w ∈ written l, IsWord w
  read_again : ∀ {line l start ps}, parse line = .ok l → ps.map Prod.fst = written l →
    IsGap start → (∀ p ∈ ps, IsGap p.2) → (∀ p ∈ ps.dropLast, p.2 ≠ []) →
    parse (String.ofList (start ++ layOut ps)) = .ok l

section Grammar

variable {α : Type} {ofWords? : List String → Option α} {Means : List String → α → Prop}
  {empty : α} {written : α → List String} {usage : String}

/-- A peer that looks up the words of a line reads lines. -/
theorem readsLines_of_ofWords?
    (hmeans : ∀ {ws l}, ofWords? ws = some l ↔ Means ws l)
    (hempty : ∀ {ws}, Means ws empty ↔ ws = [])
    (hwritten : ∀ {ws l}, Means ws l → Means (written l) l)
    (hwords : ∀ {ws l}, Means ws l → (∀ w ∈ ws, IsWord w) → ∀ w ∈ written l, IsWord w)
    {parse : String → Except Error α}
    (hparse : ∀ line, parse line = match ofWords? (words line) with
      | some l => .ok l
      | none => .error ⟨.usage, usage⟩) :
    ReadsLines parse Means empty written usage := by
  have hread : ∀ {line l}, parse line = .ok l ↔ Means (words line) l := by
    intro line l
    rw [hparse, ← hmeans]
    cases ofWords? (words line) <;> simp
  have hrefused : ∀ {line e}, parse line = .error e ↔
      (∀ l, ¬ Means (words line) l) ∧ e = ⟨.usage, usage⟩ := by
    intro line e
    simp only [hparse, ← hmeans]
    cases ofWords? (words line) <;> simp [eq_comm]
  have hword : ∀ {line l}, parse line = .ok l → ∀ w ∈ written l, IsWord w := fun h =>
    hwords (hread.mp h) fun _ => isWord_of_mem_words
  constructor
  · intro line ws l hlaid
    rw [hread, words_of_laidOut hlaid]
  · intro line ws e hlaid
    rw [hrefused, words_of_laidOut hlaid]
  · intro line ws hlaid
    rw [hread, words_of_laidOut hlaid, hempty]
  · exact hword
  · intro line l start ps h hps hstart hgaps hinner
    have hlaid : LaidOut (start ++ layOut ps) (ps.map Prod.fst) := by
      refine laidOut_layOut hstart (fun p hp => hword h p.1 ?_) hgaps hinner
      rw [← hps]
      exact List.mem_map_of_mem hp
    rw [hps, ← String.toList_ofList (l := start ++ layOut ps)] at hlaid
    rw [hread, words_of_laidOut hlaid]
    exact hwritten (hread.mp h)

end Grammar

theorem SensorLine.readsLines :
    ReadsLines SensorLine.parse SensorLine.Means .empty SensorLine.written sensorUsage :=
  readsLines_of_ofWords? SensorLine.ofWords?_eq_some_iff
    ⟨fun h => by cases h; rfl, fun h => h ▸ .empty⟩ SensorLine.Means.written
    SensorLine.Means.isWord fun line => by
      unfold SensorLine.parse
      cases SensorLine.ofWords? (words line) <;> rfl

theorem SubscriberLine.readsLines :
    ReadsLines SubscriberLine.parse SubscriberLine.Means .empty SubscriberLine.written
      subscriberUsage :=
  readsLines_of_ofWords? SubscriberLine.ofWords?_eq_some_iff
    ⟨fun h => by cases h; rfl, fun h => h ▸ .empty⟩ SubscriberLine.Means.written
    SubscriberLine.Means.isWord fun line => by
      unfold SubscriberLine.parse
      cases SubscriberLine.ofWords? (words line) <;> rfl

/-- Every line has one sequence of words, and both peers read it by them. No stream is started with
a token but without a period. -/
theorem lines_are_read_by_their_words :
    (∀ line : String, ∃ ws, LaidOut line.toList ws ∧ ∀ ws', LaidOut line.toList ws' → ws' = ws) ∧
    ReadsLines SensorLine.parse SensorLine.Means .empty SensorLine.written sensorUsage ∧
    ReadsLines SubscriberLine.parse SubscriberLine.Means .empty SubscriberLine.written
      subscriberUsage ∧
    ∀ line token, SensorLine.parse line ≠ .ok (.startStream none (some token)) := by
  refine ⟨fun line => ⟨words line, laidOut_words line, fun ws' => LaidOut.eq_wordsOf⟩,
    SensorLine.readsLines, SubscriberLine.readsLines, fun line token h => ?_⟩
  have hmeans := (SensorLine.readsLines.read_iff (laidOut_words line)).mp h
  generalize words line = ws at hmeans
  cases hmeans

end SensorRelay.Console
