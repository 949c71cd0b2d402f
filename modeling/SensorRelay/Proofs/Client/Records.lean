import SensorRelay.Proofs.Client.LifeCycle
import SensorRelay.Proofs.Client.Sheets

/-!
# Records on the wire

Every order of steps on one measurement stream, with a service that may answer as it likes and do
what it likes in between. What arrives at the service on a call is what its sheet says.
-/

namespace SensorRelay.Network.Recording

open Auth Client Rpc

/-- What can be done with a stream, one emitter tick or passage of time, or something that others do
to the service. -/
inductive Step (α : Type)
  | start (token : Token)
  | push (value : Double) (madeAt : Instant)
  | attach (period : Nat) (source : ValueSource)
  | tick (limit : Nat)
  | rest (time : Nat)
  | finish
  | serve (a : α)

section Steps

variable {σ α : Type} [Service σ]

/-- What others do: what comes back, the service afterwards, and the number of the next call. -/
abbrev Doing (σ α : Type) := α → Network (Tapped σ) → List Signal × σ × CallId

/-- No signal but an answer ends a measurement call. -/
def served (doing : Doing σ α) (a : α) (n : Network (Tapped σ)) : List Signal :=
  (doing a n).1.filter (!terminates ·)

def afterDoing (doing : Doing σ α) (a : α) (n : Network (Tapped σ)) : Network (Tapped σ) :=
  { n with
    service := { n.service with inner := (doing a n).2.1 }
    nextCall := max n.nextCall (doing a n).2.2 }

variable (doing : Doing σ α) (name : String)

namespace Step

def perform : Step α → NetworkM (Tapped σ) Measuring.Outcome
  | start token => return .starting (← Network.start name token)
  | push value madeAt => return .pushing (← Network.push name value madeAt)
  | attach period source => return .attaching (← Network.emit name period source)
  | tick limit => do
    runEmitters limit 1
    return .passed
  | rest time => do
    modify fun n => { n with elapsed := time }
    return .passed
  | finish => return .ending (← Network.finish name)
  | serve a => do
    let n ← get
    set (afterDoing doing a n)
    receiveAll (served doing a n)
    return .passed

/-- How a step is answered. -/
def expected (book : List Sheet) : Step α → Measuring.Outcome
  | start token =>
    .starting (if (current? book).isSome then .ok .alreadyStreaming
      else token.attach.map fun _ => .started)
  | push _ _ =>
    .pushing (if isOpen book then .ok () else .error MeasurementStream.noStreamError)
  | attach _ _ =>
    .attaching (if isOpen book then .ok () else .error MeasurementStream.noStreamError)
  | finish => .ending (if (current? book).isSome then .ending else .noStream)
  | tick _ | rest _ | serve _ => .passed

/-- What comes back during a step. -/
def replies (n : Network (Tapped σ)) : Step α → List Signal
  | start token =>
    match (n.stream name).isStreaming, token.attach with
    | false, .ok header => ((Service.openMeasurements n.nextCall (some header)).run n.service).1
    | _, _ => []
  | push value madeAt =>
    flushReplies name (n.setStream name ((n.stream name).push value madeAt).2)
  | tick limit => emitterReplies limit 1 n
  | finish => flushReplies name (n.setStream name (n.stream name).finish.2)
  | serve a => served doing a n
  | attach _ _ | rest _ => []

/-- What is written down for a step that was answered like this. -/
def entered (n : Network (Tapped σ)) (book : List Sheet) : Step α → Measuring.Outcome → List Sheet
  | start _, .starting (.ok .started) => .blank n.nextCall :: book
  | push value madeAt, .pushing (.ok ()) => book.modifyHead (·.push value madeAt)
  | attach period source, .attaching (.ok ()) =>
    book.modifyHead (·.attach ⟨period, n.elapsed + period, source⟩)
  | tick limit, _ => book.modifyHead (·.tick limit n.clock.read.1)
  | finish, .ending .ending => book.modifyHead (·.finish)
  | _, _ => book

/-- The book after a step. -/
def written (n : Network (Tapped σ)) (book : List Sheet) (m : Step α) : List Sheet :=
  hearAll (m.replies doing name n) (m.entered n book ((m.perform doing name).run n).1)

end Step

/-- The network after some steps. -/
def after (steps : List (Step α)) (n : Network (Tapped σ)) : Network (Tapped σ) :=
  steps.foldl (fun n m => ((m.perform doing name).run n).2) n

theorem after_append (steps more : List (Step α)) (n : Network (Tapped σ)) :
    after doing name (steps ++ more) n = after doing name more (after doing name steps n) :=
  List.foldl_append

/-- The book after some steps. -/
def bookAfter : List (Step α) → Network (Tapped σ) → List Sheet → List Sheet
  | [], _, book => book
  | m :: steps, n, book =>
    bookAfter steps ((m.perform doing name).run n).2 (m.written doing name n book)

end Steps

variable {σ : Type} {name : String} {n n' : Network (Tapped σ)} {book : List Sheet} {s s' : Sheet}

/-- A network whose one stream has this book, and on whose wire stands what the book says. -/
structure Kept (name : String) (n : Network (Tapped σ)) (book : List Sheet) : Prop where
  openings : n.service.openings = (book.map (·.call)).reverse
  sent : ∀ s ∈ book, n.service.sentOn s.call = s.arriving
  unsent : ∀ k, k ∉ book.map (·.call) → n.service.sentOn k = []
  stream : n.stream name = streamOf book []
  owner : ∀ k, n.owners.lookup k =
    ((current? book).filter (·.call = k)).map fun _ => .stream name book.length
  older : ∀ s ∈ book.tail, s.answered = true
  numbered : ∀ s ∈ book, s.call < n.nextCall
  distinct : (book.map (·.call)).Nodup
  single : n.Single name

theorem kept_around (name : String) (service : σ) (clock : Clock) (randomness : RandomSource) :
    Kept name (around ⟨service, []⟩ clock randomness) [] where
  openings := rfl
  sent := List.forall_mem_nil _
  unsent _ _ := rfl
  stream := rfl
  owner _ := rfl
  older := List.forall_mem_nil _
  numbered := List.forall_mem_nil _
  distinct := List.nodup_nil
  single := .inl rfl

namespace Kept

/-- Nothing changed that the book tells. -/
theorem like (h : Kept name n book) (hwire : n'.service.wire = n.service.wire)
    (hstream : n'.stream name = n.stream name) (howners : n'.owners = n.owners)
    (hnext : n.nextCall ≤ n'.nextCall) (hsingle : n'.Single name) : Kept name n' book where
  openings := (congrArg (List.filterMap _) hwire).trans h.openings
  sent s hs := (congrArg (List.filterMap _) hwire).trans (h.sent s hs)
  unsent k hk := (congrArg (List.filterMap _) hwire).trans (h.unsent k hk)
  stream := hstream.trans h.stream
  owner k := by rw [howners, h.owner]
  older := h.older
  numbered s hs := Nat.lt_of_lt_of_le (h.numbered s hs) hnext
  distinct := h.distinct
  single := hsingle

/-- Only streams were bound again to what they were bound to, and the time changed. -/
theorem same_streams (h : Kept name n book) (hwire : n'.service.wire = n.service.wire)
    (hstreams : n'.streams = n.streams) (howners : n'.owners = n.owners)
    (hnext : n.nextCall ≤ n'.nextCall) : Kept name n' book := by
  have hstream : n'.stream name = n.stream name := by
    unfold Network.stream
    rw [hstreams]
  refine h.like hwire hstream howners hnext ?_
  unfold Single
  rw [hstreams, hstream]
  exact h.single

theorem setStream_self (h : Kept name n book) : Kept name (n.setStream name (n.stream name)) book :=
  h.like rfl (stream_setStream name _ n) rfl (Nat.le_refl _)
    (single_of_streams (h.single.streams_setStream _)).2

/-- The sheet of the live call changed, and what is new on it was sent. -/
theorem changed {book : List Sheet} {us : List (Upload MeasurementRequest)}
    (h : Kept name n (s :: book)) (hcall : s'.call = s.call) (hs : s.answered = false)
    (hs' : s'.answered = false) (huploads : s'.uploads = s.uploads ++ us)
    (hopenings : n'.service.openings = n.service.openings)
    (hsent : ∀ k, n'.service.sentOn k = n.service.sentOn k ++
      if k = s.call then us.map (Upload.map MeasurementRequest.transmitted) else [])
    (hstreams : n'.streams = [(name, streamOf (s' :: book) [])])
    (howners : n'.owners = n.owners) (hnext : n.nextCall ≤ n'.nextCall) :
    Kept name n' (s' :: book) := by
  have hcalls : (s' :: book).map (·.call) = (s :: book).map (·.call) := by
    rw [List.map_cons, List.map_cons, hcall]
  have hdistinct : s.call ∉ book.map (·.call) := (List.nodup_cons.mp h.distinct).1
  obtain ⟨hstream, hsingle⟩ := single_of_streams hstreams
  constructor
  case openings => rw [hopenings, hcalls, h.openings]
  case sent =>
    intro t ht
    rcases List.mem_cons.mp ht with rfl | ht
    · rw [hsent, hcall, if_pos rfl, h.sent s List.mem_cons_self, Sheet.arriving, Sheet.arriving,
        huploads, List.map_append]
    · have hne : t.call ≠ s.call := fun heq => hdistinct (heq ▸ List.mem_map_of_mem ht)
      rw [hsent, if_neg hne, List.append_nil, h.sent t (List.mem_cons_of_mem s ht)]
  case unsent =>
    intro k hk
    rw [hcalls] at hk
    have hne : k ≠ s.call := fun heq => hk (heq ▸ List.mem_cons_self)
    rw [hsent, if_neg hne, List.append_nil, h.unsent k hk]
  case stream => exact hstream
  case owner =>
    intro k
    rw [howners, h.owner, current?_cons hs, current?_cons hs', Option.filter_some,
      Option.filter_some, hcall]
    split_ifs <;> rfl
  case older => exact h.older
  case numbered =>
    intro t ht
    refine Nat.lt_of_lt_of_le ?_ hnext
    rcases List.mem_cons.mp ht with rfl | ht
    · rw [hcall]
      exact h.numbered s List.mem_cons_self
    · exact h.numbered t (List.mem_cons_of_mem s ht)
  case distinct =>
    rw [hcalls]
    exact h.distinct
  case single => exact hsingle

/-- The sheet of the live call changed, and nothing is new on it that is sent. -/
theorem amended {book : List Sheet} (h : Kept name n (s :: book)) (hcall : s'.call = s.call)
    (hs : s.answered = false) (hs' : s'.answered = false) (huploads : s'.uploads = s.uploads) :
    Kept name (n.setStream name (streamOf (s' :: book) [])) (s' :: book) := by
  refine h.changed hcall hs hs' (huploads.trans (List.append_nil _).symm) rfl (fun k => ?_)
    (h.single.streams_setStream _) rfl (Nat.le_refl _)
  rw [List.map_nil, ite_self, List.append_nil]
  rfl

theorem all_answered (h : Kept name n book) {c : CallId}
    (hnone : (current? book).filter (·.call = c) = none) :
    ∀ s ∈ book, s.call = c → s.answered = true := by
  intro s hs hcall
  cases book with
  | nil => cases hs
  | cons t rest =>
    rcases List.mem_cons.mp hs with rfl | hs
    · by_contra hanswered
      rw [current?_cons (by simpa using hanswered)] at hnone
      simp [hcall] at hnone
    · exact h.older s hs

theorem lookup_of_unanswered {book : List Sheet} (h : Kept name n (s :: book))
    (hs : s.answered = false) :
    n.owners.lookup s.call = some (.stream name (book.length + 1)) := by
  rw [h.owner, current?_cons hs]
  simp

variable [Service σ]

theorem answered {book : List Sheet} (h : Kept name n (s :: book)) (hs : s.answered = false)
    (r : Except Status Unit) :
    Kept name ((receive (.answered s.call r)).run n).2 ({ s with answered := true } :: book) := by
  have hlive : ((n.stream name).answered (book.length + 1) (Rpc.answered r)).2 =
      streamOf ({ s with answered := true } :: book) [] := by
    rw [h.stream, streamOf_of_unanswered hs, streamOf_of_current?_eq_none rfl]
    simp [MeasurementStream.answered, Sheet.live]
  rw [receive_answered r (h.lookup_of_unanswered hs)]
  have hstreams := h.single.streams_setStream (streamOf ({ s with answered := true } :: book) [])
  rw [← hlive] at hstreams
  obtain ⟨hstream, hsingle⟩ := single_of_streams hstreams
  constructor
  case openings => exact h.openings
  case sent =>
    intro t ht
    rcases List.mem_cons.mp ht with rfl | ht
    · exact h.sent s List.mem_cons_self
    · exact h.sent t (List.mem_cons_of_mem s ht)
  case unsent => exact h.unsent
  case stream => exact hstream.trans hlive
  case owner =>
    intro k
    change (n.owners.filter (·.1 ≠ s.call)).lookup k = none
    rw [lookup_filter_ne, h.owner, current?_cons hs]
    split_ifs with hk
    · rfl
    · rw [Option.filter_some, if_neg (by simpa using Ne.symm hk), Option.map_none]
  case older => exact h.older
  case numbered =>
    intro t ht
    rcases List.mem_cons.mp ht with rfl | ht
    · exact h.numbered s List.mem_cons_self
    · exact h.numbered t (List.mem_cons_of_mem s ht)
  case distinct => exact h.distinct
  case single => exact hsingle

theorem receive (h : Kept name n book) {x : Signal} (hx : terminates x = false) :
    Kept name ((receive x).run n).2 (hear book x) := by
  cases x with
  | frame c f =>
    have hbook : hear book (.frame c f) = book := List.map_id book
    obtain ⟨log, hlog⟩ := receive_frame c f n
    rw [hlog, hbook]
    exact h.same_streams rfl rfl rfl (Nat.le_refl _)
  | ended c => cases hx
  | failed c s => cases hx
  | answered c r =>
    cases hs : (current? book).filter (·.call = c) with
    | none =>
      -- nobody owns a call that was answered before, or that the stream never opened
      have hnobody : n.owners.lookup c = none := by rw [h.owner, hs, Option.map_none]
      have hsame : ((Network.receive (.answered c r)).run n).2 = n := receive_of_nobody hnobody
      rw [hsame, hear_of_all_answered (h.all_answered hs)]
      exact h
    | some s =>
      obtain ⟨hcurrent, hcall⟩ := Option.filter_eq_some_iff.mp hs
      obtain ⟨hanswered, rest, rfl⟩ := exists_cons_of_current? hcurrent
      obtain rfl : s.call = c := by simpa using hcall
      have hrest : hear (s :: rest) (.answered s.call r) = { s with answered := true } :: rest := by
        have holder : hear rest (.answered s.call r) = rest :=
          hear_of_all_answered fun t ht _ => h.older t ht
        rw [hear, List.map_cons, ← hear, holder]
        simp [Sheet.hear]
      rw [hrest]
      exact h.answered hanswered r

theorem receiveAll {xs : List Signal} (h : Kept name n book)
    (hxs : ∀ x ∈ xs, terminates x = false) :
    Kept name ((receiveAll xs).run n).2 (hearAll xs book) := by
  induction xs generalizing n book with
  | nil => exact h
  | cons x xs ih =>
    exact ih (h.receive (hxs x List.mem_cons_self)) fun y hy => hxs y (List.mem_cons_of_mem x hy)

/-- Something more is sent on the live call, which may be answered then. -/
theorem send {book : List Sheet} {u : Upload MeasurementRequest} (h : Kept name n (s :: book))
    (hcall : s'.call = s.call) (hs : s.answered = false) (hs' : s'.answered = false)
    (huploads : s'.uploads = s.uploads ++ [u])
    (hn' : n' = n.setStream name (streamOf (s' :: book) [])) :
    Kept name ((sendMeasurement s'.call u).run n').2
      (hearAll (repliesTo s'.call u n') (s' :: book)) := by
  have hlive : n'.isLive s'.call = true := by
    rw [hn', hcall]
    exact congrArg Option.isSome (h.lookup_of_unanswered hs)
  have hstreams : n'.streams = [(name, streamOf (s' :: book) [])] := by
    rw [hn']
    exact h.single.streams_setStream _
  obtain ⟨hrun, hreplies⟩ := run_sendMeasurement_of_live u hlive
  rw [hrun, hreplies]
  refine receiveAll (h.changed hcall hs hs' huploads ?_ (fun k => ?_) hstreams ?_ ?_) fun x hx => ?_
  · rw [hn']
    exact (Tapped.openings_noted rfl).trans (List.append_nil _)
  · rw [hn']
    refine (Tapped.sentOn_noted rfl k).trans (congrArg _ ?_)
    simp only [Note.upload?, hcall, eq_comm (a := k)]
    split_ifs <;> rfl
  · rw [hn']
    rfl
  · rw [hn']
    exact Nat.le_refl _
  · simpa using (List.mem_filter.mp hx).2

/-- Something of the live call is queued and sent, whatever the service answers. -/
theorem flush {book : List Sheet} (h : Kept name n (s :: book)) (s' : Sheet)
    (u? : Option (Upload MeasurementRequest)) (hcall : s'.call = s.call) (hs : s.answered = false)
    (hs' : s'.answered = false) (huploads : s'.uploads = s.uploads ++ u?.toList)
    (hn' : n' = n.setStream name (streamOf (s' :: book) u?.toList)) :
    Kept name ((Network.flush name).run n').2 (hearAll (flushReplies name n') (s' :: book)) := by
  have hstream : n'.stream name =
      ⟨book.length + 1, some (s'.live (book.length + 1) u?.toList)⟩ := by
    rw [hn', stream_setStream, streamOf_of_unanswered hs']
  obtain ⟨hrun, hreplies⟩ := run_flush_of_live (congrArg MeasurementStream.live hstream)
  have hemptied : n'.setStream name { n'.stream name with
      live := some { s'.live (book.length + 1) u?.toList with outgoing := [] } } =
      n.setStream name (streamOf (s' :: book) []) := by
    rw [hstream, hn', setStream_setStream, streamOf_of_unanswered hs']
    rfl
  rw [hrun, hreplies, hemptied]
  cases u? with
  | none =>
    exact h.amended hcall hs hs' (huploads.trans (List.append_nil _))
  | some u =>
    have hsent := h.send hcall hs hs' huploads rfl
    rwa [← List.append_nil (repliesTo _ _ _)] at hsent

theorem flush_nothing (h : Kept name n book) :
    let n' := n.setStream name (n.stream name)
    ((Network.flush name).run n').2 = n' ∧ flushReplies name n' = [] := by
  intro n'
  have hstream : n'.stream name = streamOf book [] := (stream_setStream name _ n).trans h.stream
  cases hs : current? book with
  | none =>
    have hidle : (n'.stream name).live = none := by
      rw [hstream, streamOf_of_current?_eq_none hs]
    refine ⟨run_flush_of_idle hidle, ?_⟩
    rw [flushReplies, hidle]
  | some s =>
    obtain ⟨hanswered, rest, rfl⟩ := exists_cons_of_current? hs
    rw [streamOf_of_unanswered hanswered] at hstream
    obtain ⟨hrun, hreplies⟩ := run_flush_of_live (congrArg MeasurementStream.live hstream)
    refine ⟨hrun.trans ?_, hreplies⟩
    have hsame : { n'.stream name with live := some (s.live (rest.length + 1) []) } =
        n.stream name := by
      rw [hstream, h.stream, streamOf_of_unanswered hanswered]
    exact (setStream_setStream name _ _ n).trans (congrArg (n.setStream name) hsame)

omit [Service σ] in
theorem nextDue_eq (h : Kept name n book) (limit : Nat) :
    n.nextDue limit = ((current? book).bind (·.due? limit)).map fun e => (e.due, name) := by
  rw [h.single.nextDue_eq, h.stream]
  cases hs : current? book with
  | none =>
    rw [streamOf_of_current?_eq_none hs]
    rfl
  | some s =>
    obtain ⟨hanswered, rest, rfl⟩ := exists_cons_of_current? hs
    rw [due?_streamOf hanswered rest, Option.map_map]
    rfl

end Kept

section Accounts

variable {α : Type} [Service σ]

/-- A step that was answered as expected, after which the network still has its book. -/
structure Accounted (doing : Doing σ α) (name : String) (n : Network (Tapped σ))
    (book : List Sheet) (m : Step α) (answer : Measuring.Outcome × Network (Tapped σ)) : Prop where
  outcome : answer.1 = m.expected book
  kept : Kept name answer.2
    (hearAll (m.replies doing name n) (m.entered n book (m.expected book)))

namespace Kept

variable (h : Kept name n book) (doing : Doing σ α)

include h

theorem run_push_of_not_isOpen (hopen : isOpen book = false) (value : Double) (madeAt : Instant) :
    (Network.push name value madeAt).run n =
      (.error MeasurementStream.noStreamError, n.setStream name (n.stream name)) ∧
    flushReplies name (n.setStream name ((n.stream name).push value madeAt).2) = [] := by
  have hsilent : (n.stream name).Silent := by
    rw [h.stream]
    exact silent_streamOf hopen []
  have hpush := MeasurementStream.push_of_silent hsilent value madeAt
  obtain ⟨hflush, hreplies⟩ := h.flush_nothing
  rw [run_push, hpush]
  exact ⟨congrArg (Prod.mk _) hflush, hreplies⟩

omit [Service σ] in
theorem run_emit_of_not_isOpen (hopen : isOpen book = false) (period : Nat) (source : ValueSource) :
    (Network.emit name period source).run n =
      (.error MeasurementStream.noStreamError, n.setStream name (n.stream name)) := by
  have hsilent : (n.stream name).Silent := by
    rw [h.stream]
    exact silent_streamOf hopen []
  have hattach := MeasurementStream.attachEmitter_of_silent hsilent
    ⟨period, n.elapsed + period, source⟩
  rw [run_emit, hattach]

theorem accounted_push (value : Double) (madeAt : Instant) :
    Accounted doing name n book (.push value madeAt)
      (((Step.push value madeAt).perform doing name).run n) := by
  change Accounted doing name n book (.push value madeAt)
    (.pushing ((Network.push name value madeAt).run n).1,
      ((Network.push name value madeAt).run n).2)
  cases hopen : isOpen book with
  | false =>
    obtain ⟨hrun, hreplies⟩ := h.run_push_of_not_isOpen hopen value madeAt
    have hexpected : (Step.push value madeAt : Step α).expected book =
        .pushing (.error MeasurementStream.noStreamError) := by
      rw [Step.expected, hopen]
      rfl
    constructor
    · rw [hrun, hexpected]
    · rw [hrun, hexpected, Step.replies, hreplies]
      exact h.setStream_self
  | true =>
    obtain ⟨s, rest, rfl, hended, hs⟩ := exists_cons_of_isOpen hopen
    have hexpected : (Step.push value madeAt : Step α).expected (s :: rest) =
        .pushing (.ok ()) := by
      rw [Step.expected, hopen]
      rfl
    have hpush := push_streamOf hs hended rest value madeAt
    rw [← h.stream] at hpush
    constructor
    · rw [hexpected]
      exact congrArg (fun x => Measuring.Outcome.pushing x.1) hpush
    · rw [hexpected]
      exact h.flush (s.push value madeAt) (some (Sheet.recordOf (value, madeAt))) rfl hs hs
        (Sheet.uploads_push hended value madeAt) (congrArg (fun x => n.setStream name x.2) hpush)

theorem accounted_attach (period : Nat) (source : ValueSource) :
    Accounted doing name n book (.attach period source)
      (((Step.attach period source).perform doing name).run n) := by
  change Accounted doing name n book (.attach period source)
    (.attaching ((Network.emit name period source).run n).1,
      ((Network.emit name period source).run n).2)
  cases hopen : isOpen book with
  | false =>
    have hrun := h.run_emit_of_not_isOpen hopen period source
    have hexpected : (Step.attach period source : Step α).expected book =
        .attaching (.error MeasurementStream.noStreamError) := by
      rw [Step.expected, hopen]
      rfl
    constructor
    · rw [hrun, hexpected]
    · rw [hrun, hexpected]
      exact h.setStream_self
  | true =>
    obtain ⟨s, rest, rfl, hended, hs⟩ := exists_cons_of_isOpen hopen
    have hexpected : (Step.attach period source : Step α).expected (s :: rest) =
        .attaching (.ok ()) := by
      rw [Step.expected, hopen]
      rfl
    have hattach := attachEmitter_streamOf hs hended rest
      ⟨period, n.elapsed + period, source⟩
    rw [← h.stream] at hattach
    have hrun : (Network.emit name period source).run n =
        (.ok (), n.setStream name
          (streamOf (s.attach ⟨period, n.elapsed + period, source⟩ :: rest) [])) := by
      rw [run_emit, hattach]
    constructor
    · rw [hrun, hexpected]
    · rw [hrun, hexpected]
      exact h.amended rfl hs hs rfl

theorem accounted_finish :
    Accounted doing name n book .finish ((Step.finish.perform doing name).run n) := by
  change Accounted doing name n book .finish
    (.ending ((Network.finish name).run n).1, ((Network.finish name).run n).2)
  cases hs : current? book with
  | none =>
    have hidle : (n.stream name).live = none := by
      rw [h.stream, streamOf_of_current?_eq_none hs]
    have hexpected : (Step.finish : Step α).expected book = .ending .noStream := by
      rw [Step.expected, hs]
      rfl
    have hreplies : flushReplies name (n.setStream name (n.stream name).finish.2) = [] := by
      rw [MeasurementStream.finish, hidle]
      exact h.flush_nothing.2
    rw [run_finish_of_idle hidle]
    constructor
    · rw [hexpected]
    · rw [hexpected, Step.replies, hreplies]
      exact h.setStream_self
  | some s =>
    obtain ⟨hanswered, rest, rfl⟩ := exists_cons_of_current? hs
    have hexpected : (Step.finish : Step α).expected (s :: rest) = .ending .ending := by
      rw [Step.expected, hs]
      rfl
    have hfinish := finish_streamOf hanswered rest
    rw [← h.stream] at hfinish
    constructor
    · rw [hexpected]
      exact congrArg (fun x => Measuring.Outcome.ending x.1) hfinish
    · rw [hexpected]
      refine h.flush s.finish (if s.ended then none else some .halfClose) rfl hanswered hanswered
        ?_ (congrArg (fun x => n.setStream name x.2) hfinish)
      cases hended : s.ended with
      | true => simp [Sheet.uploads, Sheet.finish, hended]
      | false => exact Sheet.uploads_finish hended

theorem accounted_tick (limit : Nat) :
    Accounted doing name n book (.tick limit)
      (((Step.tick limit).perform doing name).run n) := by
  refine ⟨rfl, ?_⟩
  change Kept name ((runEmitters limit 1).run n).2
    (hearAll (emitterReplies limit 1 n) (book.modifyHead (·.tick limit n.clock.read.1)))
  cases hdue : (current? book).bind (·.due? limit) with
  | none =>
    have hnext : n.nextDue limit = none := by
      rw [h.nextDue_eq, hdue]
      rfl
    rw [run_runEmitters_succ, emitterReplies, hnext, modifyHead_tick_of_none hdue]
    exact h
  | some e =>
    obtain ⟨s, hs, he⟩ := Option.bind_eq_some_iff.mp hdue
    obtain ⟨hanswered, rest, rfl⟩ := exists_cons_of_current? hs
    have hnext : n.nextDue limit = some (e.due, name) := by
      rw [h.nextDue_eq, hdue]
      rfl
    rw [run_runEmitters_succ, emitterReplies, hnext]
    have hread : Kept name { n with elapsed := e.due, clock := n.clock.read.2 } (s :: rest) :=
      h.same_streams rfl rfl rfl (Nat.le_refl _)
    have htick := tick_streamOf he rest n.clock.read.1
    rw [← h.stream] at htick
    have huploads := s.uploads_tick limit n.clock.read.1
    rw [Sheet.ticked, he] at huploads
    have hsent := hread.flush (s.tick limit n.clock.read.1) (some _) (Sheet.call_tick _ _) hanswered
      ((Sheet.answered_tick _ _).trans hanswered) huploads
      (congrArg (fun m => Network.setStream name m _) htick)
    rwa [← List.append_nil (flushReplies _ _)] at hsent

omit [Service σ] in
theorem isStreaming_eq : (n.stream name).isStreaming = (current? book).isSome := by
  rw [h.stream]
  exact Option.isSome_map

omit [Service σ] in
theorem fresh : n.nextCall ∉ book.map (·.call) := by
  intro hmem
  obtain ⟨s, hs, hcall⟩ := List.mem_map.mp hmem
  exact Nat.lt_irrefl _ (hcall ▸ h.numbered s hs)

omit [Service σ] in
theorem withCall (hnone : current? book = none) (header : Option HeaderValue)
    (service : Tapped σ)
    (hwire : service.wire = n.service.wire ++ [.opened n.nextCall header n.service.inner]) :
    Kept name (n.withCall name service) (.blank n.nextCall :: book) := by
  have hfresh := h.fresh
  have hsent (k : CallId) : service.sentOn k = n.service.sentOn k :=
    (Tapped.sentOn_noted hwire k).trans (List.append_nil _)
  have hbegin : (n.stream name).begin n.nextCall = streamOf (.blank n.nextCall :: book) [] := by
    rw [h.stream, streamOf_of_unanswered rfl]
    rfl
  have hstreams := h.single.streams_setStream ((n.stream name).begin n.nextCall)
  obtain ⟨hstream, hsingle⟩ := single_of_streams (n := n.withCall name service) hstreams
  constructor
  case openings =>
    rw [List.map_cons, List.reverse_cons, ← h.openings]
    exact Tapped.openings_noted hwire
  case sent =>
    intro s hs
    refine (hsent s.call).trans ?_
    rcases List.mem_cons.mp hs with rfl | hs
    · exact h.unsent n.nextCall hfresh
    · exact h.sent s hs
  case unsent =>
    intro k hk
    exact (hsent k).trans (h.unsent k fun hmem => hk (List.mem_cons_of_mem _ hmem))
  case stream => exact hstream.trans hbegin
  case owner =>
    intro k
    have hold := h.owner k
    rw [hnone] at hold
    have hstarted : (n.stream name).started = book.length := by
      rw [h.stream]
      rfl
    change ((n.nextCall, Owner.stream name ((n.stream name).started + 1)) :: n.owners).lookup k = _
    rw [current?_cons rfl, Option.filter_some, List.lookup_cons, hold, hstarted]
    by_cases hk : k = n.nextCall
    · simp [hk, Sheet.blank]
    · have hbeq : (k == n.nextCall) = false := by simpa using hk
      simp [hbeq, Sheet.blank, Ne.symm hk]
  case older =>
    intro s hs
    refine h.all_answered ?_ s hs rfl
    rw [hnone]
    rfl
  case numbered =>
    intro s hs
    rcases List.mem_cons.mp hs with rfl | hs
    · exact Nat.lt_succ_self _
    · exact Nat.lt_succ_of_lt (h.numbered s hs)
  case distinct => exact List.nodup_cons.mpr ⟨hfresh, h.distinct⟩
  case single => exact hsingle

theorem accounted_start (token : Token) :
    Accounted doing name n book (.start token)
      (((Step.start token).perform doing name).run n) := by
  change Accounted doing name n book (.start token)
    (.starting ((Network.start name token).run n).1, ((Network.start name token).run n).2)
  have hunopened : Kept name
      ({ n with nextCall := n.nextCall + 1 }.setStream name (n.stream name)) book := by
    have hnext : Kept name { n with nextCall := n.nextCall + 1 } book :=
      h.same_streams rfl rfl rfl (Nat.le_succ _)
    exact hnext.setStream_self
  have hstreaming := h.isStreaming_eq
  cases hs : current? book with
  | some s =>
    rw [hs, Option.isSome_some] at hstreaming
    have hexpected : (Step.start token : Step α).expected book =
        .starting (.ok .alreadyStreaming) := by
      rw [Step.expected, hs]
      rfl
    have hreplies : (Step.start token).replies doing name n = [] := by
      rw [Step.replies, hstreaming]
    rw [start_of_streaming token hstreaming]
    exact ⟨hexpected.symm, by rwa [hexpected, hreplies]⟩
  | none =>
    rw [hs, Option.isSome_none] at hstreaming
    cases htoken : token.attach with
    | error e =>
      have hexpected : (Step.start token : Step α).expected book = .starting (.error e) := by
        rw [Step.expected, hs, htoken]
        rfl
      have hreplies : (Step.start token).replies doing name n = [] := by
        rw [Step.replies, hstreaming, htoken]
      rw [start_of_unattachable hstreaming htoken]
      exact ⟨hexpected.symm, by rwa [hexpected, hreplies]⟩
    | ok header =>
      have hexpected : (Step.start token : Step α).expected book = .starting (.ok .started) := by
        rw [Step.expected, hs, htoken]
        rfl
      have hreplies : (Step.start token).replies doing name n =
          ((Service.openMeasurements n.nextCall (some header)).run n.service).1 := by
        rw [Step.replies, hstreaming, htoken]
      rw [start_of_idle hstreaming htoken]
      constructor
      · exact hexpected.symm
      · rw [hexpected, hreplies]
        have hopened := h.withCall hs (some header)
          ((Service.openMeasurements n.nextCall (some header)).run n.service).2 rfl
        exact hopened.receiveAll fun x hx => by simpa using (List.mem_filter.mp hx).2

theorem accounted_serve (a : α) :
    Accounted doing name n book (.serve a) (((Step.serve a).perform doing name).run n) := by
  have hdone : Kept name (afterDoing doing a n) book :=
    h.same_streams rfl rfl rfl (Nat.le_max_left _ _)
  refine ⟨rfl, hdone.receiveAll fun x hx => ?_⟩
  simpa using (List.mem_filter.mp hx).2

theorem perform (m : Step α) : Accounted doing name n book m ((m.perform doing name).run n) := by
  cases m with
  | start token => exact h.accounted_start doing token
  | push value madeAt => exact h.accounted_push doing value madeAt
  | attach period source => exact h.accounted_attach doing period source
  | tick limit => exact h.accounted_tick doing limit
  | rest time => exact ⟨rfl, h.same_streams rfl rfl rfl (Nat.le_refl _)⟩
  | finish => exact h.accounted_finish doing
  | serve a => exact h.accounted_serve doing a

theorem written (m : Step α) :
    Kept name ((m.perform doing name).run n).2 (m.written doing name n book) := by
  have hm := h.perform doing m
  rw [Step.written, hm.outcome]
  exact hm.kept

theorem after (steps : List (Step α)) :
    Kept name (Recording.after doing name steps n) (Recording.bookAfter doing name steps n book) := by
  induction steps generalizing n book with
  | nil => exact h
  | cons m steps ih => exact ih (h.written doing m)

end Kept

/-- How a stream answers and what is on its wire, by its book. There is one sheet for every call
that was opened, in this order, and only the newest call can be unanswered. What arrived on a call is
what its sheet says, and nothing arrived on any other call. Pushes and emitters are accepted while
the newest call is neither ended nor answered; otherwise they are refused and change nothing. A tick
sends one record at most, for the emitter that was attached last to the newest call. -/
structure Faithful (doing : Doing σ α) (name : String) (n : Network (Tapped σ))
    (book : List Sheet) : Prop where
  openings : n.service.openings = (book.map (·.call)).reverse
  distinct : (book.map (·.call)).Nodup
  older : ∀ s ∈ book.tail, s.answered = true
  sent : ∀ s ∈ book, n.service.sentOn s.call = s.arriving
  unsent : ∀ k, k ∉ book.map (·.call) → n.service.sentOn k = []
  answers : ∀ m : Step α, ((m.perform doing name).run n).1 = m.expected book
  refused : isOpen book = false →
    (∀ value madeAt, Unmoved n (((Step.push value madeAt).perform doing name).run n).2) ∧
    ∀ period source, Unmoved n (((Step.attach period source).perform doing name).run n).2
  ticked : ∀ limit k, (((Step.tick limit).perform doing name).run n).2.service.sentOn k =
    n.service.sentOn k ++ (tickedOn limit n.clock.read.1 book k).map
      (Upload.map MeasurementRequest.transmitted)

namespace Kept

variable (h : Kept name n book) (doing : Doing σ α)

include h

theorem ticked (limit : Nat) (k : CallId) :
    (((Step.tick limit).perform doing name).run n).2.service.sentOn k =
      n.service.sentOn k ++ (tickedOn limit n.clock.read.1 book k).map
        (Upload.map MeasurementRequest.transmitted) := by
  have hm := (h.accounted_tick doing limit).kept
  cases book with
  | nil =>
    have hnone (xs : List Signal) : k ∉ (hearAll xs []).map (·.call) := by
      rw [calls_hearAll]
      exact List.not_mem_nil
    rw [hm.unsent k (hnone _), h.unsent k List.not_mem_nil]
    rfl
  | cons s rest =>
    have hsent {t : Sheet} (ht : t ∈ s.tick limit n.clock.read.1 :: rest) :
        (((Step.tick limit).perform doing name).run n).2.service.sentOn t.call = t.arriving := by
      obtain ⟨u, hu, hcall, harriving⟩ := mem_hearAll _ ht
      rw [← hcall, ← harriving]
      exact hm.sent u hu
    have hcall := Sheet.call_tick (s := s) limit n.clock.read.1
    rw [tickedOn, List.head?_cons, Option.filter_some]
    by_cases hk : s.call = k
    · have harriving := hsent List.mem_cons_self
      rw [hcall, hk] at harriving
      rw [harriving, Sheet.arriving_tick, ← h.sent s List.mem_cons_self, hk]
      simp
    · rw [if_neg (by simpa using hk)]
      refine Eq.trans ?_ (List.append_nil _).symm
      by_cases hmem : k ∈ rest.map (·.call)
      · obtain ⟨t, ht, rfl⟩ := List.mem_map.mp hmem
        rw [hsent (List.mem_cons_of_mem _ ht), h.sent t (List.mem_cons_of_mem s ht)]
      · have hno : k ∉ (s :: rest).map (·.call) := by
          rintro (_ | ⟨_, hin⟩)
          · exact hk rfl
          · exact hmem hin
        have hno' (xs : List Signal) :
            k ∉ (hearAll xs (s.tick limit n.clock.read.1 :: rest)).map (·.call) := by
          rw [calls_hearAll, List.map_cons, hcall]
          exact hno
        rw [hm.unsent k (hno' _), h.unsent k hno]

theorem faithful : Faithful doing name n book where
  openings := h.openings
  distinct := h.distinct
  older := h.older
  sent := h.sent
  unsent := h.unsent
  answers m := (h.perform doing m).outcome
  refused hopen := by
    constructor
    · intro value madeAt
      have hrun := (h.run_push_of_not_isOpen hopen value madeAt).1
      change Unmoved n ((Network.push name value madeAt).run n).2
      rw [hrun]
      exact unmoved_setStream name n n.nextCall
    · intro period source
      have hrun := h.run_emit_of_not_isOpen hopen period source
      change Unmoved n ((Network.emit name period source).run n).2
      rw [hrun]
      exact unmoved_setStream name n n.nextCall
  ticked := h.ticked doing

end Kept

theorem runEmitters_of_none {limit : Nat} (h : n.nextDue limit = none) (fuel : Nat) :
    ((runEmitters limit fuel).run n).2 = n := by
  cases fuel with
  | zero => rfl
  | succ fuel => rw [run_runEmitters_succ, h]

theorem runEmitters_eq_after (doing : Doing σ α) (name : String) (limit fuel : Nat)
    (n : Network (Tapped σ)) : ((runEmitters limit fuel).run n).2 =
      after doing name (List.replicate fuel (.tick limit)) n := by
  induction fuel generalizing n with
  | zero => rfl
  | succ fuel ih =>
    rw [List.replicate_succ]
    change _ = after doing name _ ((runEmitters limit 1).run n).2
    rw [← ih, run_runEmitters_succ, run_runEmitters_succ]
    cases hdue : n.nextDue limit with
    | none => exact (runEmitters_of_none hdue fuel).symm
    | some p => rfl

/-- Waiting is a series of ticks, after which the time has passed. -/
theorem wait_eq_after (doing : Doing σ α) (name : String) (ms : Nat) (n : Network (Tapped σ)) :
    ((wait ms).run n).2 = after doing name (List.replicate (n.ticksUntil (n.elapsed + ms))
      (.tick (n.elapsed + ms)) ++ [.rest (n.elapsed + ms)]) n := by
  have happend := after_append doing name (List.replicate (n.ticksUntil (n.elapsed + ms))
    (.tick (n.elapsed + ms))) [.rest (n.elapsed + ms)] n
  rw [happend, ← runEmitters_eq_after]
  rfl

end Accounts
end SensorRelay.Network.Recording
