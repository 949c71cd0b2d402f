import SensorRelay.Client.SubscriptionSession
import Mathlib.Data.List.Nodup
import Mathlib.Data.String.Basic
import Mathlib.Tactic.SplitIfs

/-!
# Ledgers of a session

What became of every stream that a session opened, as it would be written down by somebody who
sees the calls, the control frames and the signals but not the session. A stream hears what comes
back on its own call until that call is over, whatever was opened since. The session itself is read
off the newest stream.
-/

namespace SensorRelay.Client

open Rpc

/-- What a session reports when a signal arrives on one of its streams. -/
def sessionEvent? (stream : Nat) : Signal → Option SessionEvent
  | .frame _ f => some (.event (.decode (f.map Frame.transmitted)))
  | .ended _ => some (.ended stream)
  | .failed _ s => some (.failed stream (Error.ofStreamStatus s))
  | .answered .. => none

/-- Is this the end or the failure of a stream? -/
def terminates : Signal → Bool
  | .ended _ | .failed .. => true
  | _ => false

/-- The number in the announcement of a new stream. -/
def opening? : SessionEvent → Option Nat
  | .opened stream => some stream
  | _ => none

/-- The ids asked for once a control frame was sent. -/
def remember (r : SubscribeRequest) (ids : List String) : List String :=
  if r.disconnect then ids.filter (· ≠ r.sensorId)
  else r.sensorId :: ids.filter (· ≠ r.sensorId)

/-- One stream of a session. The control frames stand newest first, the signals oldest first. -/
structure StreamRecord where
  number : Nat
  call : CallId
  asked : List SubscribeRequest
  closed : Bool
  inbound : List Signal

namespace StreamRecord

variable (s : StreamRecord)

/-- Nothing follows on the call. -/
def isOver : Bool := s.inbound.any Signal.isLast

def isTerminated : Bool := s.inbound.any terminates

/-- The stream was neither closed nor has it terminated. -/
def isOpen : Bool := !s.closed && !s.isTerminated

/-- Was this id subscribed, and not unsubscribed since? -/
def follows (id : String) : Bool :=
  (s.asked.find? (·.sensorId = id)).any (!·.disconnect)

def listensTo (k : CallId) : Bool := s.call = k && !s.isOver

def receive (x : Signal) : StreamRecord :=
  if s.listensTo x.call then { s with inbound := s.inbound ++ [x] } else s

/-- The stream as its session holds it while it is open. -/
def active? : Option ActiveStream :=
  if s.isOpen then some ⟨s.number, s.call, s.asked.foldr remember []⟩ else none

end StreamRecord

/-- What a session has to do with its streams. -/
inductive Happening
  | opened (call : CallId)
  | sent (r : SubscribeRequest)
  | closed
  | arrived (x : Signal)

/-- The streams of a session, newest first, and its reports, oldest first, each with the number of
the stream that it is about. -/
structure Ledger where
  streams : List StreamRecord
  reported : List (Nat × SessionEvent)

namespace Ledger

def empty : Ledger := ⟨[], []⟩

variable (l : Ledger)

def newest? : Option StreamRecord := l.streams.head?

/-- The stream that still listens to a call. -/
def listening? (k : CallId) : Option StreamRecord :=
  l.streams.find? (·.listensTo k)

def onNewest (f : StreamRecord → StreamRecord) : Ledger :=
  { l with streams := l.streams.modifyHead f }

/-- What a session reported about one stream. -/
def reportsOn (stream : Nat) : List SessionEvent :=
  (l.reported.filter (·.1 = stream)).map (·.2)

/-- A change that does not touch what a stream has heard and still hears. -/
def Annotates (f : StreamRecord → StreamRecord) : Prop :=
  ∀ s, (f s).number = s.number ∧ (f s).call = s.call ∧ (f s).inbound = s.inbound

def write : Happening → Ledger
  | .opened k =>
    let g := l.streams.length + 1
    ⟨⟨g, k, [], false, []⟩ :: l.streams, l.reported ++ [(g, .opened g)]⟩
  | .sent r => l.onNewest fun s => { s with asked := r :: s.asked }
  | .closed => l.onNewest fun s => { s with closed := true }
  | .arrived x =>
    match l.listening? x.call with
    | none => l
    | some s => ⟨l.streams.map (·.receive x),
        l.reported ++ ((sessionEvent? s.number x).map (s.number, ·)).toList⟩

def writeAll (hs : List Happening) : Ledger := hs.foldl write l

/-- The session that has such a ledger. -/
def session : SubscriptionSession :=
  ⟨l.streams.length, l.newest?.bind StreamRecord.active?⟩

/-- Streams are numbered in the order of their opening and have calls of their own, nothing follows
the end of a call, and the reports on a stream are its opening and then one for each signal. -/
structure Orderly (l : Ledger) : Prop where
  numbers : l.streams.map (·.number) = (List.range' 1 l.streams.length).reverse
  calls : (l.streams.map (·.call)).Nodup
  single : ∀ s ∈ l.streams, ∀ x ∈ s.inbound.dropLast, x.isLast = false
  openings : l.reported.filterMap (opening? ·.2) = List.range' 1 l.streams.length
  story : ∀ s ∈ l.streams,
    l.reportsOn s.number = .opened s.number :: s.inbound.filterMap (sessionEvent? s.number)
  reported : ∀ p ∈ l.reported, p.1 ≤ l.streams.length

end Ledger

theorem mem_remember (r : SubscribeRequest) (ids : List String) (id : String) :
    id ∈ remember r ids ↔ if r.sensorId = id then r.disconnect = false else id ∈ ids := by
  unfold remember
  by_cases hid : r.sensorId = id
  · cases hd : r.disconnect <;> simp [hid]
  · cases hd : r.disconnect <;> simp [hid, Ne.symm hid]

theorem nodup_remember (r : SubscribeRequest) {ids : List String} (h : ids.Nodup) :
    (remember r ids).Nodup := by
  have hothers : (ids.filter (· ≠ r.sensorId)).Nodup := h.filter _
  unfold remember
  split_ifs
  · exact hothers
  · exact List.nodup_cons.mpr ⟨by simp, hothers⟩

/-- The last frame about an id decides. -/
theorem mem_foldr_remember_iff (rs : List SubscribeRequest) (id : String) :
    id ∈ rs.foldr remember [] ↔
      (rs.find? (·.sensorId = id)).any (!·.disconnect) = true := by
  induction rs with
  | nil => simp
  | cons r rs ih =>
    rw [List.foldr_cons, mem_remember, List.find?_cons]
    by_cases hid : r.sensorId = id
    · simp [hid]
    · simp [hid, ih]

theorem nodup_foldr_remember (rs : List SubscribeRequest) : (rs.foldr remember []).Nodup := by
  induction rs with
  | nil => exact List.nodup_nil
  | cons r rs ih => exact nodup_remember r ih

namespace StreamRecord

variable {s : StreamRecord} {x : Signal} {k : CallId}

theorem listensTo_iff : s.listensTo k = true ↔ s.call = k ∧ s.isOver = false := by
  simp [listensTo]

theorem receive_of_listensTo (h : s.listensTo x.call = true) :
    s.receive x = { s with inbound := s.inbound ++ [x] } :=
  if_pos h

theorem receive_of_not_listensTo (h : ¬ s.listensTo x.call = true) : s.receive x = s :=
  if_neg h

@[simp]
theorem number_receive (s : StreamRecord) (x : Signal) : (s.receive x).number = s.number := by
  unfold receive
  split_ifs <;> rfl

@[simp]
theorem call_receive (s : StreamRecord) (x : Signal) : (s.receive x).call = s.call := by
  unfold receive
  split_ifs <;> rfl

/-- The last signal is heard by everybody who listens to the call, and nobody does so afterwards. -/
theorem listensTo_receive (s : StreamRecord) (x : Signal) (k : CallId) :
    (s.receive x).listensTo k = (s.listensTo k && !(x.isLast && decide (k = x.call))) := by
  by_cases h : s.listensTo x.call = true
  · obtain ⟨hcall, hover⟩ := listensTo_iff.mp h
    have hover' : s.inbound.any Signal.isLast = false := hover
    rw [receive_of_listensTo h]
    simp only [listensTo, isOver, List.any_append, hover', hcall, List.any_cons, List.any_nil]
    by_cases hk : k = x.call
    · simp [hk]
    · simp [hk, Ne.symm hk]
  · rw [receive_of_not_listensTo h]
    by_cases hk : k = x.call
    · subst hk
      simp [h]
    · simp [hk]

theorem active?_receive_of_not_terminates (hx : terminates x = false) :
    (s.receive x).active? = s.active? := by
  by_cases h : s.listensTo x.call = true
  · rw [receive_of_listensTo h]
    simp [active?, isOpen, isTerminated, hx]
  · rw [receive_of_not_listensTo h]

theorem active?_receive_of_terminates (h : s.listensTo x.call = true)
    (hx : terminates x = true) : (s.receive x).active? = none := by
  rw [receive_of_listensTo h]
  simp [active?, isOpen, isTerminated, hx]

theorem number_of_active? {a : ActiveStream} (h : s.active? = some a) :
    a.generation = s.number := by
  unfold active? at h
  split_ifs at h
  rw [← Option.some.inj h]

end StreamRecord

namespace Ledger

variable {l : Ledger} {s : StreamRecord} {x : Signal} {k : CallId}

/-- The number of the stream that still listens to a call. -/
def listener? (l : Ledger) (k : CallId) : Option Nat :=
  (l.listening? k).map (·.number)

theorem listening?_spec (h : l.listening? k = some s) :
    s ∈ l.streams ∧ s.listensTo k = true := by
  unfold listening? at h
  have hlistens := List.find?_some h
  exact ⟨List.mem_of_find?_eq_some h, hlistens⟩

theorem listening?_eq_none_of_fresh (h : ∀ s ∈ l.streams, s.call ≠ k) :
    l.listening? k = none := by
  rw [listening?, List.find?_eq_none]
  intro s hs hlistens
  exact h s hs (StreamRecord.listensTo_iff.mp hlistens).1

theorem listener?_opened (l : Ledger) (k j : CallId) :
    (l.write (.opened k)).listener? j =
      if j = k then some (l.streams.length + 1) else l.listener? j := by
  simp only [listener?, listening?, write, List.find?_cons]
  by_cases h : j = k
  · simp [h, StreamRecord.listensTo, StreamRecord.isOver]
  · simp [h, Ne.symm h, StreamRecord.listensTo]

theorem listener?_onNewest {f : StreamRecord → StreamRecord} (hf : Annotates f) (k : CallId) :
    (l.onNewest f).listener? k = l.listener? k := by
  obtain ⟨streams, reported⟩ := l
  cases streams with
  | nil => rfl
  | cons s rest =>
    obtain ⟨hnumber, hcall, hinbound⟩ := hf s
    have hlistens : (f s).listensTo k = s.listensTo k := by
      simp only [StreamRecord.listensTo, StreamRecord.isOver, hcall, hinbound]
    simp only [listener?, listening?, onNewest, List.modifyHead_cons, List.find?_cons, hlistens]
    cases s.listensTo k
    · rfl
    · exact congrArg some hnumber

theorem calls_onNewest {f : StreamRecord → StreamRecord} (hf : Annotates f) :
    (l.onNewest f).streams.map (·.call) = l.streams.map (·.call) := by
  obtain ⟨streams, reported⟩ := l
  cases streams with
  | nil => rfl
  | cons s rest => simp [onNewest, (hf s).2.1]

theorem write_arrived_of_none (h : l.listening? x.call = none) : l.write (.arrived x) = l := by
  simp only [write, h]

theorem write_arrived_of_some (h : l.listening? x.call = some s) :
    l.write (.arrived x) = ⟨l.streams.map (·.receive x),
      l.reported ++ ((sessionEvent? s.number x).map (s.number, ·)).toList⟩ := by
  simp only [write, h]

theorem listener?_arrived (l : Ledger) (x : Signal) (k : CallId) :
    (l.write (.arrived x)).listener? k =
      if x.isLast = true ∧ k = x.call then none else l.listener? k := by
  cases h : l.listening? x.call with
  | none =>
    rw [write_arrived_of_none h]
    split_ifs with hk
    · rw [hk.2, listener?, h, Option.map_none]
    · rfl
  | some s =>
    rw [write_arrived_of_some h]
    simp only [listener?, listening?, List.find?_map, Option.map_map, Function.comp_def,
      StreamRecord.listensTo_receive, StreamRecord.number_receive]
    split_ifs with hk
    · simp [hk]
    · have hkeep : (x.isLast && decide (k = x.call)) = false := by simpa using hk
      simp [hkeep]

namespace Orderly

theorem empty : Ledger.empty.Orderly where
  numbers := rfl
  calls := List.nodup_nil
  single _ hs := nomatch hs
  openings := rfl
  story _ hs := nomatch hs
  reported _ hp := nomatch hp

variable (h : l.Orderly)

include h

theorem number_le (hs : s ∈ l.streams) : s.number ≤ l.streams.length := by
  have hmem : s.number ∈ (List.range' 1 l.streams.length).reverse :=
    h.numbers ▸ List.mem_map_of_mem hs
  rw [List.mem_reverse, List.mem_range'_1] at hmem
  omega

theorem eq_of_number {t : StreamRecord} (hs : s ∈ l.streams) (ht : t ∈ l.streams)
    (heq : s.number = t.number) : s = t := by
  have hnodup : (l.streams.map (·.number)).Nodup := by
    rw [h.numbers, List.nodup_reverse]
    exact List.nodup_range'
  exact List.inj_on_of_nodup_map hnodup hs ht heq

theorem eq_of_call {t : StreamRecord} (hs : s ∈ l.streams) (ht : t ∈ l.streams)
    (heq : s.call = t.call) : s = t :=
  List.inj_on_of_nodup_map h.calls hs ht heq

theorem reportsOn_eq_nil {g : Nat} (hg : l.streams.length < g) : l.reportsOn g = [] := by
  rw [reportsOn, List.map_eq_nil_iff, List.filter_eq_nil_iff]
  intro p hp heq
  have hle := h.reported p hp
  simp only [decide_eq_true_eq] at heq
  omega

theorem opened (hk : ∀ s ∈ l.streams, s.call ≠ k) : (l.write (.opened k)).Orderly where
  numbers := by
    simp only [write, List.map_cons, List.length_cons, h.numbers]
    rw [List.range'_concat, List.reverse_append, Nat.one_mul, Nat.add_comm 1]
    rfl
  calls := by
    simp only [write, List.map_cons, List.nodup_cons]
    refine ⟨fun hmem => ?_, h.calls⟩
    obtain ⟨s, hs, hcall⟩ := List.mem_map.mp hmem
    exact hk s hs hcall
  single s hs := by
    rcases List.mem_cons.mp hs with rfl | hs
    · exact fun x hx => nomatch hx
    · exact h.single s hs
  openings := by
    simp only [write, List.filterMap_append, h.openings, List.length_cons]
    rw [List.range'_concat, Nat.one_mul, Nat.add_comm 1]
    rfl
  story s hs := by
    have happend (g : Nat) : (l.write (.opened k)).reportsOn g = l.reportsOn g ++
        if l.streams.length + 1 = g then [.opened g] else [] := by
      simp only [write, reportsOn, List.filter_append, List.map_append, List.filter_cons]
      split_ifs <;> simp_all
    rw [happend]
    rcases List.mem_cons.mp hs with rfl | hs
    · rw [h.reportsOn_eq_nil (Nat.lt_succ_self _), if_pos rfl]
      rfl
    · have hle := h.number_le hs
      rw [if_neg (by omega), List.append_nil, h.story s hs]
  reported p hp := by
    rcases List.mem_append.mp hp with hp | hp
    · exact Nat.le_succ_of_le (h.reported p hp)
    · rw [List.mem_singleton.mp hp]
      exact Nat.le_refl _

/-- What was sent on the newest stream, or that it was closed, is not reported. -/
theorem onNewest {f : StreamRecord → StreamRecord} (hf : Annotates f) :
    (l.onNewest f).Orderly := by
  have hcalls := calls_onNewest (l := l) hf
  obtain ⟨streams, reported⟩ := l
  cases streams with
  | nil => exact h
  | cons s rest =>
    obtain ⟨hnumber, -, hinbound⟩ := hf s
    refine ⟨?_, hcalls ▸ h.calls, ?_, h.openings, ?_, h.reported⟩
    · simpa [Ledger.onNewest, hnumber] using h.numbers
    · intro t ht
      rcases List.mem_cons.mp ht with rfl | ht
      · rw [hinbound]
        exact h.single s List.mem_cons_self
      · exact h.single t (List.mem_cons_of_mem s ht)
    · intro t ht
      rcases List.mem_cons.mp ht with rfl | ht
      · rw [hinbound, hnumber]
        exact h.story s List.mem_cons_self
      · exact h.story t (List.mem_cons_of_mem s ht)

/-- A stream listens to the call of another only if it is the same stream. -/
theorem listensTo_iff_eq (hs : l.listening? k = some s) {t : StreamRecord} (ht : t ∈ l.streams) :
    t.listensTo k = true ↔ t = s := by
  obtain ⟨hmem, hlistens⟩ := listening?_spec hs
  refine ⟨fun htl => h.eq_of_call ht hmem ?_, fun heq => heq ▸ hlistens⟩
  exact (StreamRecord.listensTo_iff.mp htl).1.trans (StreamRecord.listensTo_iff.mp hlistens).1.symm

theorem arrived (x : Signal) : (l.write (.arrived x)).Orderly := by
  cases hs : l.listening? x.call with
  | none => rwa [write_arrived_of_none hs]
  | some s =>
    obtain ⟨hmem, hlistens⟩ := listening?_spec hs
    have hover := (StreamRecord.listensTo_iff.mp hlistens).2
    rw [write_arrived_of_some hs]
    refine ⟨?_, ?_, ?_, ?_, ?_, ?_⟩
    · simpa [Function.comp_def] using h.numbers
    · simpa [Function.comp_def] using h.calls
    · intro t' ht' y hy
      obtain ⟨t, ht, rfl⟩ := List.mem_map.mp ht'
      by_cases htl : t.listensTo x.call = true
      · -- what came before the new signal was not the last
        rw [StreamRecord.receive_of_listensTo htl, List.dropLast_concat] at hy
        have hnone := (StreamRecord.listensTo_iff.mp htl).2
        simpa using (List.any_eq_false.mp hnone) y hy
      · rw [StreamRecord.receive_of_not_listensTo htl] at hy
        exact h.single t ht y hy
    · simp only [List.filterMap_append, h.openings, List.length_map]
      cases x <;> simp [sessionEvent?, opening?]
    · intro t' ht'
      obtain ⟨t, ht, rfl⟩ := List.mem_map.mp ht'
      have hstory := h.story t ht
      simp only [reportsOn, List.filter_append, List.map_append] at hstory ⊢
      rw [StreamRecord.number_receive, hstory]
      by_cases htl : t.listensTo x.call = true
      · have heq := (h.listensTo_iff_eq hs ht).mp htl
        rw [StreamRecord.receive_of_listensTo htl, heq]
        cases hx : sessionEvent? s.number x <;> simp [hx]
      · have hne : s.number ≠ t.number := fun heq =>
          htl ((h.listensTo_iff_eq hs ht).mpr (h.eq_of_number ht hmem heq.symm))
        rw [StreamRecord.receive_of_not_listensTo htl]
        cases hx : sessionEvent? s.number x <;> simp [hne]
    · intro p hp
      rw [List.length_map]
      rcases List.mem_append.mp hp with hp | hp
      · exact h.reported p hp
      · obtain ⟨e, -, rfl⟩ : ∃ e, sessionEvent? s.number x = some e ∧ (s.number, e) = p := by
          simpa using hp
        exact h.number_le hmem

end Orderly

end Ledger

namespace SubscriptionSession

variable {s : SubscriptionSession} {g : Nat}

theorem controlled_of_not_open (h : s.active = none) (r : SubscribeRequest) :
    s.controlled r = s := by
  obtain ⟨opened, active⟩ := s
  subst h
  rfl

theorem close_of_not_open (h : s.active = none) : s.close = (.notOpen, s) := by
  obtain ⟨opened, active⟩ := s
  subst h
  rfl

theorem close_of_open {a : ActiveStream} (h : s.active = some a) :
    s.close = (.closing, ⟨s.opened, none⟩) := by
  simp [close, isOpen, h]

theorem release_of_current (h : ∀ a, s.active = some a → a.generation = g) :
    s.release g = ⟨s.opened, none⟩ := by
  obtain ⟨opened, active⟩ := s
  cases active with
  | none => rfl
  | some a => exact if_pos (by simpa using h a rfl)

theorem release_of_other (h : ∀ a, s.active = some a → a.generation ≠ g) : s.release g = s := by
  obtain ⟨opened, active⟩ := s
  cases active with
  | none => rfl
  | some a => exact if_neg (by simpa using h a rfl)

theorem pairwise_le_subscriptions (s : SubscriptionSession) :
    s.subscriptions.Pairwise (· ≤ ·) := by
  have hsorted : s.subscriptions.Pairwise fun a b => decide (a ≤ b) = true := by
    apply List.pairwise_mergeSort
    · intro a b c hab hbc
      exact decide_eq_true (le_trans (of_decide_eq_true hab) (of_decide_eq_true hbc))
    · intro a b
      simpa using le_total a b
  exact hsorted.imp of_decide_eq_true

end SubscriptionSession

namespace Ledger

variable {l : Ledger} {s : StreamRecord} {x : Signal}

theorem session_opened (l : Ledger) (k : CallId) :
    (l.write (.opened k)).session = l.session.connected k :=
  rfl

theorem session_sent (l : Ledger) (r : SubscribeRequest) :
    (l.write (.sent r)).session = l.session.controlled r := by
  obtain ⟨streams, reported⟩ := l
  cases streams with
  | nil => rfl
  | cons s rest =>
    by_cases hs : s.isOpen = true
    · have hsent : ({ s with asked := r :: s.asked } : StreamRecord).isOpen = true := hs
      simp [session, newest?, write, onNewest, SubscriptionSession.controlled,
        StreamRecord.active?, hs, hsent, remember]
    · have hsent : ¬ ({ s with asked := r :: s.asked } : StreamRecord).isOpen = true := hs
      simp [session, newest?, write, onNewest, SubscriptionSession.controlled,
        StreamRecord.active?, hs, hsent]

theorem session_closed (l : Ledger) : (l.write .closed).session = l.session.close.2 := by
  obtain ⟨streams, reported⟩ := l
  cases streams with
  | nil => rfl
  | cons s rest =>
    simp [session, newest?, write, onNewest, SubscriptionSession.close, StreamRecord.active?,
      StreamRecord.isOpen]

theorem session_arrived_of_not_terminates (l : Ledger) (hx : terminates x = false) :
    (l.write (.arrived x)).session = l.session := by
  cases hs : l.listening? x.call with
  | none => rw [write_arrived_of_none hs]
  | some s =>
    rw [write_arrived_of_some hs]
    obtain ⟨streams, reported⟩ := l
    cases streams with
    | nil => rfl
    | cons t rest =>
      simp [session, newest?, StreamRecord.active?_receive_of_not_terminates hx]

/-- Whatever arrives on an older stream, the session stays as it is. -/
theorem session_arrived_of_older (hx : ∀ s, l.newest? = some s → s.call ≠ x.call) :
    (l.write (.arrived x)).session = l.session := by
  cases hs : l.listening? x.call with
  | none => rw [write_arrived_of_none hs]
  | some s =>
    rw [write_arrived_of_some hs]
    obtain ⟨streams, reported⟩ := l
    cases streams with
    | nil => rfl
    | cons t rest =>
      have hdeaf : ¬ t.listensTo x.call = true := fun htl =>
        hx t rfl (StreamRecord.listensTo_iff.mp htl).1
      simp [session, newest?, StreamRecord.receive_of_not_listensTo hdeaf]

/-- Only the end of the newest stream closes a session. -/
theorem session_arrived_of_terminates (h : l.Orderly) (hs : l.listening? x.call = some s)
    (hx : terminates x = true) :
    (l.write (.arrived x)).session = l.session.release s.number := by
  have hsame {t : StreamRecord} := h.listensTo_iff_eq hs (t := t)
  have hunique {t : StreamRecord} (ht : t ∈ l.streams) (heq : t.number = s.number) : t = s :=
    h.eq_of_number ht (listening?_spec hs).1 heq
  rw [write_arrived_of_some hs]
  obtain ⟨streams, reported⟩ := l
  cases streams with
  | nil => rfl
  | cons t rest =>
    have ht : t ∈ t :: rest := List.mem_cons_self
    by_cases htl : t.listensTo x.call = true
    · have hnone := StreamRecord.active?_receive_of_terminates htl hx
      rw [SubscriptionSession.release_of_current]
      · simp [session, newest?, hnone]
      · intro a ha
        rw [StreamRecord.number_of_active? ha, (hsame ht).mp htl]
    · rw [SubscriptionSession.release_of_other]
      · simp [session, newest?, StreamRecord.receive_of_not_listensTo htl]
      · intro a ha hg
        rw [StreamRecord.number_of_active? ha] at hg
        exact htl ((hsame ht).mpr (hunique ht hg))

theorem Orderly.session_arrived (h : l.Orderly) (x : Signal) :
    (l.write (.arrived x)).session = l.session ∨
      (l.write (.arrived x)).session = ⟨l.session.opened, none⟩ := by
  cases hx : terminates x with
  | false => exact .inl (session_arrived_of_not_terminates l hx)
  | true =>
    cases hs : l.listening? x.call with
    | none => exact .inl (by rw [write_arrived_of_none hs])
    | some s =>
      rw [session_arrived_of_terminates h hs hx, SubscriptionSession.release]
      split_ifs
      · exact .inr rfl
      · exact .inl rfl

theorem isOpen_session (l : Ledger) : l.session.isOpen = true ↔
    ∃ s, l.newest? = some s ∧ s.closed = false ∧ s.isTerminated = false := by
  cases hs : l.newest? with
  | none => simp [session, SubscriptionSession.isOpen, hs]
  | some s =>
    simp only [session, SubscriptionSession.isOpen, hs, Option.bind_some, StreamRecord.active?]
    split_ifs with ho
    · simpa [StreamRecord.isOpen] using ho
    · simpa [StreamRecord.isOpen] using ho

theorem mem_subscriptions_iff (l : Ledger) (id : String) :
    id ∈ l.session.subscriptions ↔
      ∃ s, l.newest? = some s ∧ s.isOpen = true ∧ s.follows id = true := by
  cases hs : l.newest? with
  | none => simp [Ledger.session, SubscriptionSession.subscriptions, hs]
  | some s =>
    by_cases ho : s.isOpen = true
    · simp [Ledger.session, SubscriptionSession.subscriptions, hs, StreamRecord.active?, ho,
        StreamRecord.follows, mem_foldr_remember_iff]
    · simp [Ledger.session, SubscriptionSession.subscriptions, hs, StreamRecord.active?, ho]

theorem nodup_subscriptions (l : Ledger) : l.session.subscriptions.Nodup := by
  unfold SubscriptionSession.subscriptions
  rw [(List.mergeSort_perm _ _).nodup_iff]
  cases ha : l.session.active with
  | none => exact List.nodup_nil
  | some a => 
    obtain ⟨s, -, hs⟩ := Option.bind_eq_some_iff.mp ha
    unfold StreamRecord.active? at hs
    split_ifs at hs
    rw [← Option.some.inj hs]
    exact nodup_foldr_remember s.asked

theorem pairwise_lt_subscriptions (l : Ledger) :
    l.session.subscriptions.Pairwise (· < ·) := by
  have hle := l.session.pairwise_le_subscriptions
  refine (hle.and l.nodup_subscriptions).imp ?_
  intro a b h
  exact lt_of_le_of_ne h.1 h.2

end Ledger
end SensorRelay.Client
