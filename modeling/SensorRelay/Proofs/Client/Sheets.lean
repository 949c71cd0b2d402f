import SensorRelay.Proofs.Network.Tap

/-!
# Sheets

What should be sent on every call of a measurement stream, as its user would write it down: one
sheet for a call, with the pushes that were accepted since it was started. The stream itself follows
from its sheets.
-/

namespace SensorRelay.Network.Recording

open Client Rpc

/-- One call. `pushed` are the accepted values and their instants, oldest first; `emitter` was
attached last. -/
structure Sheet where
  call : CallId
  pushed : List (Double × Instant)
  ended : Bool
  answered : Bool
  emitter : Option Emitter

namespace Sheet

variable (s : Sheet)

def blank (call : CallId) : Sheet := ⟨call, [], false, false, none⟩

/-- Neither ended nor answered. -/
def isOpen : Bool := !s.ended && !s.answered

def push (value : Double) (madeAt : Instant) : Sheet :=
  { s with pushed := s.pushed ++ [(value, madeAt)] }

def attach (e : Emitter) : Sheet := { s with emitter := some e }

def finish : Sheet := { s with ended := true }

/-- The emitter, if the call is open and a value is due until `limit`. -/
def due? (limit : Nat) : Option Emitter :=
  s.emitter.filter fun e => s.isOpen && e.period ≠ 0 && e.due ≤ limit

/-- The emitter pushes a value that is due. -/
def tick (limit : Nat) (moment : Instant) : Sheet :=
  match s.due? limit with
  | none => s
  | some e => { s.push e.source.next.1 moment with
      emitter := some { e with due := e.due + e.period, source := e.source.next.2 } }

/-- Only an answer to its own call is heard. -/
def hear (x : Signal) : Sheet :=
  match x with
  | .answered c _ => if c = s.call then { s with answered := true } else s
  | _ => s

/-- What is sent for a push. -/
def recordOf (p : Double × Instant) : Upload MeasurementRequest :=
  .message ⟨p.1, some p.2.timestamp⟩

/-- What is sent: a record for every push, and the half-close after an end. -/
def uploads : List (Upload MeasurementRequest) :=
  s.pushed.map recordOf ++ if s.ended then [.halfClose] else []

/-- What arrives of a record. -/
def arrivalOf (p : Double × Instant) : Upload MeasurementRequest :=
  .message ⟨p.1.unsignedZero, some p.2.timestamp⟩

/-- What arrives of all that is sent. -/
def arriving : List (Upload MeasurementRequest) :=
  s.uploads.map (Upload.map MeasurementRequest.transmitted)

/-- What is sent for a tick: one record, if a value is due. -/
def ticked (limit : Nat) (moment : Instant) : List (Upload MeasurementRequest) :=
  ((s.due? limit).map fun e => recordOf (e.source.next.1, moment)).toList

/-- The live call, with something queued. -/
def live (generation : Nat) (queue : List (Upload MeasurementRequest)) : LiveStream :=
  ⟨generation, s.call, !s.ended, queue, if s.ended then none else s.emitter⟩

variable {s}

theorem isOpen_iff : s.isOpen = true ↔ s.ended = false ∧ s.answered = false := by
  simp [isOpen]

theorem arriving_eq (s : Sheet) :
    s.arriving = s.pushed.map arrivalOf ++ if s.ended then [.halfClose] else [] := by
  rw [arriving, uploads, List.map_append, List.map_map]
  cases s.ended <;> rfl

theorem call_hear (x : Signal) : (s.hear x).call = s.call := by
  unfold hear
  split
  · split_ifs <;> rfl
  · rfl

theorem arriving_hear (x : Signal) : (s.hear x).arriving = s.arriving := by
  unfold hear
  split
  · split_ifs <;> rfl
  · rfl

theorem uploads_push (h : s.ended = false) (value : Double) (madeAt : Instant) :
    (s.push value madeAt).uploads = s.uploads ++ [recordOf (value, madeAt)] := by
  simp [uploads, push, h]

theorem uploads_finish (h : s.ended = false) : s.finish.uploads = s.uploads ++ [.halfClose] := by
  simp [uploads, finish, h]

theorem due?_eq_some_iff {limit : Nat} {e : Emitter} : s.due? limit = some e ↔
    s.emitter = some e ∧ s.isOpen = true ∧ e.period ≠ 0 ∧ e.due ≤ limit := by
  simp [due?, Option.filter_eq_some_iff, and_assoc]

theorem tick_of_due? {limit : Nat} {e : Emitter} (h : s.due? limit = some e) (moment : Instant) :
    s.tick limit moment = { s.push e.source.next.1 moment with
      emitter := some { e with due := e.due + e.period, source := e.source.next.2 } } := by
  rw [tick, h]

theorem call_tick (limit : Nat) (moment : Instant) : (s.tick limit moment).call = s.call := by
  unfold tick
  split <;> rfl

theorem answered_tick (limit : Nat) (moment : Instant) :
    (s.tick limit moment).answered = s.answered := by
  unfold tick
  split <;> rfl

theorem uploads_tick (limit : Nat) (moment : Instant) :
    (s.tick limit moment).uploads = s.uploads ++ s.ticked limit moment := by
  cases h : s.due? limit with
  | none => simp [tick, ticked, h]
  | some e =>
    have hended : s.ended = false := (isOpen_iff.mp (due?_eq_some_iff.mp h).2.1).1
    rw [tick_of_due? h, ticked, h]
    exact uploads_push hended _ _

theorem arriving_tick (limit : Nat) (moment : Instant) :
    (s.tick limit moment).arriving = s.arriving ++
      (s.ticked limit moment).map (Upload.map MeasurementRequest.transmitted) := by
  rw [arriving, uploads_tick, List.map_append]
  rfl

end Sheet

/-- The newest call, while it is unanswered. -/
def current? (book : List Sheet) : Option Sheet :=
  book.head?.filter (!·.answered)

/-- Can anything be pushed? -/
def isOpen (book : List Sheet) : Bool :=
  (current? book).any (·.isOpen)

def hear (book : List Sheet) (x : Signal) : List Sheet :=
  book.map (·.hear x)

def hearAll (xs : List Signal) (book : List Sheet) : List Sheet :=
  xs.foldl hear book

/-- What a tick sends on a call: nothing, unless it is the newest one. -/
def tickedOn (limit : Nat) (moment : Instant) (book : List Sheet) (k : CallId) :
    List (Upload MeasurementRequest) :=
  (book.head?.filter (·.call = k)).elim [] (·.ticked limit moment)

/-- The stream of a book, with something queued. -/
def streamOf (book : List Sheet) (queue : List (Upload MeasurementRequest)) : MeasurementStream :=
  ⟨book.length, (current? book).map (·.live book.length queue)⟩

variable {book : List Sheet} {s : Sheet}

theorem current?_cons (hs : s.answered = false) (book : List Sheet) :
    current? (s :: book) = some s := by
  simp [current?, hs]

theorem current?_eq_some_iff :
    current? book = some s ↔ book.head? = some s ∧ s.answered = false := by
  simp [current?, Option.filter_eq_some_iff]

/-- A book with a newest call that is unanswered begins with its sheet. -/
theorem exists_cons_of_current? (h : current? book = some s) :
    s.answered = false ∧ ∃ rest, book = s :: rest := by
  obtain ⟨hhead, hs⟩ := current?_eq_some_iff.mp h
  exact ⟨hs, List.head?_eq_some_iff.mp hhead⟩

theorem hear_of_all_answered {c : CallId} {r : Except Status Unit}
    (hall : ∀ s ∈ book, s.call = c → s.answered = true) : hear book (.answered c r) = book := by
  refine (List.map_congr_left fun s hs => ?_).trans (List.map_id _)
  change (if c = s.call then { s with answered := true } else s) = s
  split_ifs with hcall
  · rw [← hall s hs hcall.symm]
  · rfl

theorem exists_cons_of_isOpen (h : isOpen book = true) :
    ∃ s rest, book = s :: rest ∧ s.ended = false ∧ s.answered = false := by
  obtain ⟨s, hs, hopen⟩ := (Option.any_eq_true _ _).mp h
  obtain ⟨-, rest, rfl⟩ := exists_cons_of_current? hs
  exact ⟨s, rest, rfl, Sheet.isOpen_iff.mp hopen⟩

theorem ended_of_not_isOpen (h : isOpen book = false) (hs : current? book = some s) :
    s.ended = true := by
  obtain ⟨hanswered, -⟩ := exists_cons_of_current? hs
  rw [isOpen, hs, Option.any_some] at h
  simpa [Sheet.isOpen, hanswered] using h

/-- What is heard changes neither the call of a sheet nor what is sent on it. -/
theorem mem_hearAll (xs : List Signal) {s : Sheet} (hs : s ∈ book) :
    ∃ t ∈ hearAll xs book, t.call = s.call ∧ t.arriving = s.arriving := by
  induction xs generalizing book s with
  | nil => exact ⟨s, hs, rfl, rfl⟩
  | cons x xs ih =>
    obtain ⟨t, ht, hcall, harriving⟩ := ih (List.mem_map_of_mem hs)
    exact ⟨t, ht, hcall.trans (Sheet.call_hear x), harriving.trans (Sheet.arriving_hear x)⟩

theorem calls_hearAll (xs : List Signal) (book : List Sheet) :
    (hearAll xs book).map (·.call) = book.map (·.call) := by
  induction xs generalizing book with
  | nil => rfl
  | cons x xs ih =>
    refine (ih (hear book x)).trans ?_
    rw [hear, List.map_map]
    exact List.map_congr_left fun s _ => Sheet.call_hear x

theorem streamOf_of_unanswered (hs : s.answered = false) (book : List Sheet)
    (queue : List (Upload MeasurementRequest)) :
    streamOf (s :: book) queue = ⟨book.length + 1, some (s.live (book.length + 1) queue)⟩ := by
  rw [streamOf, current?_cons hs]
  rfl

theorem streamOf_of_current?_eq_none (h : current? book = none)
    (queue : List (Upload MeasurementRequest)) : streamOf book queue = ⟨book.length, none⟩ := by
  rw [streamOf, h]
  rfl

theorem silent_streamOf (h : isOpen book = false) (queue : List (Upload MeasurementRequest)) :
    (streamOf book queue).Silent := by
  intro l hl
  obtain ⟨s, hs, rfl⟩ := Option.map_eq_some_iff.mp hl
  simp [Sheet.live, ended_of_not_isOpen h hs]

theorem push_streamOf (hs : s.answered = false) (hended : s.ended = false) (book : List Sheet)
    (value : Double) (madeAt : Instant) : (streamOf (s :: book) []).push value madeAt =
      (.ok (), streamOf (s.push value madeAt :: book) [Sheet.recordOf (value, madeAt)]) := by
  have hs' : (s.push value madeAt).answered = false := hs
  rw [streamOf_of_unanswered hs, streamOf_of_unanswered hs']
  simp [MeasurementStream.push, Sheet.live, Sheet.push, hended, MeasurementStream.queueLimit,
    Sheet.recordOf]

theorem attachEmitter_streamOf (hs : s.answered = false) (hended : s.ended = false)
    (book : List Sheet) (e : Emitter) :
    (streamOf (s :: book) []).attachEmitter e = (.ok (), streamOf (s.attach e :: book) []) := by
  have hs' : (s.attach e).answered = false := hs
  rw [streamOf_of_unanswered hs, streamOf_of_unanswered hs']
  simp [MeasurementStream.attachEmitter, Sheet.live, Sheet.attach, hended]

theorem finish_streamOf (hs : s.answered = false) (book : List Sheet) :
    (streamOf (s :: book) []).finish = (.ending,
      streamOf (s.finish :: book) (if s.ended then none else some Upload.halfClose).toList) := by
  have hs' : s.finish.answered = false := hs
  rw [streamOf_of_unanswered hs, streamOf_of_unanswered hs']
  cases hended : s.ended <;> simp [MeasurementStream.finish, Sheet.live, Sheet.finish, hended]

theorem due?_streamOf (hs : s.answered = false) (book : List Sheet) (limit : Nat) :
    (streamOf (s :: book) []).due?.filter (· ≤ limit) = (s.due? limit).map (·.due) := by
  rw [streamOf_of_unanswered hs]
  simp only [MeasurementStream.due?, Sheet.live, Sheet.due?, Sheet.isOpen, hs]
  cases s.ended with
  | true => cases s.emitter <;> simp
  | false =>
    cases s.emitter with
    | none => rfl
    | some e => by_cases hp : e.period = 0 <;> by_cases hd : e.due ≤ limit <;>
      simp [Option.filter_some, hp, hd]

theorem tick_streamOf {limit : Nat} {e : Emitter} (he : s.due? limit = some e)
    (book : List Sheet) (moment : Instant) : (streamOf (s :: book) []).tick moment =
      streamOf (s.tick limit moment :: book) [Sheet.recordOf (e.source.next.1, moment)] := by
  obtain ⟨hemitter, hopen, -⟩ := Sheet.due?_eq_some_iff.mp he
  obtain ⟨hended, hs⟩ := Sheet.isOpen_iff.mp hopen
  rw [streamOf_of_unanswered hs, streamOf_of_unanswered ((Sheet.answered_tick _ _).trans hs),
    Sheet.tick_of_due? he]
  simp [MeasurementStream.tick, MeasurementStream.push, Sheet.live, Sheet.push, hended, hemitter,
    MeasurementStream.queueLimit, Sheet.recordOf]

/-- Nothing is pushed when no emitter is due. -/
theorem modifyHead_tick_of_none {limit : Nat}
    (h : (current? book).bind (·.due? limit) = none) (moment : Instant) :
    book.modifyHead (·.tick limit moment) = book := by
  cases book with
  | nil => rfl
  | cons s rest =>
    have hdue : s.due? limit = none := by
      cases hs : s.answered with
      | false => rwa [current?_cons hs] at h
      | true => simp [Sheet.due?, Sheet.isOpen, hs]
    rw [List.modifyHead_cons, Sheet.tick, hdue]

end SensorRelay.Network.Recording
