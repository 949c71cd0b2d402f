import SensorRelay.Client.MeasurementStream
import Mathlib.Tactic.SplitIfs

/-!
# Histories of a measurement stream

What became of every call that a measurement stream opened, as it would be written down by somebody
who sees the calls and what comes back on them but not the stream. A call is live until it is
answered. What the stream holds and what it has announced is read off its calls.
-/

namespace SensorRelay.Client

open Rpc

/-- The answer that a signal brings. -/
def answer? : Signal → Option (Except Status Unit)
  | .answered _ r => some r
  | _ => none

/-- One call of a stream, and what was heard on it, oldest first. -/
structure CallRecord where
  generation : Nat
  call : CallId
  inbound : List Signal

namespace CallRecord

variable (s : CallRecord)

def answer? : Option (Except Status Unit) := s.inbound.findSome? Client.answer?

def isLive : Bool := s.answer?.isNone

/-- Nothing follows on the call. -/
def isOver : Bool := s.inbound.any Signal.isLast

def listensTo (k : CallId) : Bool := s.call = k && !s.isOver

def receive (x : Signal) : CallRecord :=
  if s.listensTo x.call then { s with inbound := s.inbound ++ [x] } else s

/-- A call is announced when it is opened and once more when it is answered. -/
def notices : List StreamNotice :=
  .opened :: (s.answer?.map MeasurementStream.noticeOf).toList

variable {s} {x : Signal} {k : CallId}

theorem listensTo_iff : s.listensTo k = true ↔ s.call = k ∧ s.isOver = false := by
  simp [listensTo]

theorem isLast_of_answer? {r : Except Status Unit} (h : Client.answer? x = some r) :
    x.isLast = true := by
  cases x with
  | answered call r => rfl
  | _ => cases h

/-- An answer is the last thing that is heard on a call. -/
theorem isLive_of_listensTo (h : s.listensTo k = true) : s.isLive = true := by
  have hover := (listensTo_iff.mp h).2
  rw [isLive, answer?, Option.isNone_iff_eq_none, List.findSome?_eq_none_iff]
  intro x hx
  cases hr : Client.answer? x with
  | none => rfl
  | some r =>
    have hlast := List.any_eq_true.mpr ⟨x, hx, isLast_of_answer? hr⟩
    rw [isOver, hlast] at hover
    cases hover

theorem receive_of_not_listensTo (h : s.listensTo x.call = false) : s.receive x = s :=
  if_neg (by simp [h])

theorem receive_of_listensTo (h : s.listensTo x.call = true) :
    s.receive x = { s with inbound := s.inbound ++ [x] } :=
  if_pos h

theorem generation_receive (s : CallRecord) (x : Signal) :
    (s.receive x).generation = s.generation := by
  unfold receive
  split_ifs <;> rfl

theorem call_receive (s : CallRecord) (x : Signal) : (s.receive x).call = s.call := by
  unfold receive
  split_ifs <;> rfl

/-- Of a call that listens, the answer is what the signal brings. -/
theorem answer?_receive (h : s.listensTo x.call = true) :
    (s.receive x).answer? = Client.answer? x := by
  have hlive := isLive_of_listensTo h
  rw [isLive, Option.isNone_iff_eq_none, answer?] at hlive
  rw [receive_of_listensTo h, answer?, List.findSome?_append, hlive]
  cases hx : Client.answer? x <;> simp [hx]

theorem listensTo_receive (h : s.listensTo x.call = true) (k : CallId) :
    (s.receive x).listensTo k = (decide (k = x.call) && !x.isLast) := by
  obtain ⟨hcall, hover⟩ := listensTo_iff.mp h
  have hover' : s.inbound.any Signal.isLast = false := hover
  rw [receive_of_listensTo h]
  simp [listensTo, isOver, List.any_append, hover', hcall, eq_comm]

end CallRecord

/-- The calls of a stream, newest first. -/
structure CallHistory where
  calls : List CallRecord

namespace CallHistory

def empty : CallHistory := ⟨[]⟩

variable (h : CallHistory)

def opened (k : CallId) : CallHistory :=
  ⟨⟨h.calls.length + 1, k, []⟩ :: h.calls⟩

def arrived (x : Signal) : CallHistory :=
  ⟨h.calls.map (·.receive x)⟩

def arrivedAll (xs : List Signal) : CallHistory := xs.foldl arrived h

/-- The newest call, while it is live. -/
def current? : Option CallRecord := h.calls.head?.filter (·.isLive)

/-- The call that still listens to this number. -/
def listening? (k : CallId) : Option CallRecord := h.current?.filter (·.listensTo k)

/-- The announcements, oldest first. -/
def notices : List StreamNotice := h.calls.reverse.flatMap CallRecord.notices

/-- Calls are counted in the order of their opening, and only the newest one can be live. -/
structure Orderly (h : CallHistory) : Prop where
  generations : h.calls.map (·.generation) = (List.range' 1 h.calls.length).reverse
  settled : ∀ s ∈ h.calls.tail, s.isLive = false

variable {h} {s : CallRecord} {x : Signal} {k : CallId}

theorem current?_eq_some_iff :
    h.current? = some s ↔ h.calls.head? = some s ∧ s.isLive = true := by
  rw [current?, Option.filter_eq_some_iff]

theorem listening?_eq_some_iff :
    h.listening? k = some s ↔ h.calls.head? = some s ∧ s.listensTo k = true := by
  rw [listening?, Option.filter_eq_some_iff, current?_eq_some_iff, and_assoc]
  constructor
  · rintro ⟨hhead, -, hlistens⟩
    exact ⟨hhead, hlistens⟩
  · rintro ⟨hhead, hlistens⟩
    exact ⟨hhead, CallRecord.isLive_of_listensTo hlistens, hlistens⟩

namespace Orderly

theorem empty : CallHistory.empty.Orderly where
  generations := rfl
  settled _ hs := nomatch hs

/-- The live calls are the newest one or none. -/
theorem filter_isLive (ho : h.Orderly) : h.calls.filter (·.isLive) = h.current?.toList := by
  have hsettled := ho.settled
  obtain ⟨calls⟩ := h
  cases calls with
  | nil => rfl
  | cons s rest =>
    have hrest : rest.filter (·.isLive) = [] :=
      List.filter_eq_nil_iff.mpr fun t ht => by simp [hsettled t ht]
    rw [List.filter_cons, hrest, current?, List.head?_cons, Option.filter_some]
    split_ifs <;> rfl

theorem tail_arrived (ho : h.Orderly) (x : Signal) :
    h.calls.tail.map (·.receive x) = h.calls.tail := by
  refine (List.map_congr_left fun s hs => ?_).trans (List.map_id _)
  refine CallRecord.receive_of_not_listensTo ?_
  cases hl : s.listensTo x.call with
  | false => rfl
  | true =>
    have hlive := CallRecord.isLive_of_listensTo hl
    rw [ho.settled s hs] at hlive
    cases hlive

/-- What nobody listens to changes nothing. -/
theorem arrived_of_none (ho : h.Orderly) (hx : h.listening? x.call = none) : h.arrived x = h := by
  have htail := ho.tail_arrived x
  obtain ⟨calls⟩ := h
  cases calls with
  | nil => rfl
  | cons s rest =>
    have hs : s.listensTo x.call = false := by
      cases hl : s.listensTo x.call with
      | false => rfl
      | true =>
        have hsome := listening?_eq_some_iff.mpr
          (show (CallHistory.mk (s :: rest)).calls.head? = some s ∧ _ from ⟨rfl, hl⟩)
        rw [hx] at hsome
        cases hsome
    rw [arrived, List.map_cons, CallRecord.receive_of_not_listensTo hs]
    exact congrArg (fun t => CallHistory.mk (s :: t)) htail

/-- Whoever listens is the newest call. -/
theorem arrived_of_some (ho : h.Orderly) (hs : h.listening? x.call = some s) :
    ∃ rest, h.calls = s :: rest ∧ h.arrived x = ⟨s.receive x :: rest⟩ := by
  have htail := ho.tail_arrived x
  obtain ⟨rest, hrest⟩ := List.head?_eq_some_iff.mp (listening?_eq_some_iff.mp hs).1
  refine ⟨rest, hrest, ?_⟩
  rw [hrest] at htail
  rw [arrived, hrest, List.map_cons]
  exact congrArg (fun t => CallHistory.mk (s.receive x :: t)) htail

theorem opened (ho : h.Orderly) (hnone : h.current? = none) (k : CallId) :
    (h.opened k).Orderly where
  generations := by
    change _ :: h.calls.map (·.generation) = (List.range' 1 (h.calls.length + 1)).reverse
    rw [ho.generations, List.range'_concat, List.reverse_append]
    simp [Nat.add_comm]
  settled := by
    intro s hs
    have hfilter := ho.filter_isLive
    rw [hnone] at hfilter
    have hno := List.filter_eq_nil_iff.mp hfilter s hs
    simpa using hno

theorem arrived (ho : h.Orderly) (x : Signal) : (h.arrived x).Orderly where
  generations := by
    rw [CallHistory.arrived, List.map_map, List.length_map, ← ho.generations]
    exact List.map_congr_left fun s _ => CallRecord.generation_receive s x
  settled := by
    intro s hs
    rw [CallHistory.arrived, ← List.map_tail, ho.tail_arrived x] at hs
    exact ho.settled s hs

end Orderly

theorem current?_opened (h : CallHistory) (k : CallId) :
    (h.opened k).current? = some ⟨h.calls.length + 1, k, []⟩ := rfl

theorem listening?_opened (h : CallHistory) (k j : CallId) :
    (h.opened k).listening? j =
      if j = k then some ⟨h.calls.length + 1, k, []⟩ else none := by
  rw [listening?, current?_opened]
  by_cases hj : j = k
  · simp [hj, CallRecord.listensTo, CallRecord.isOver]
  · simp [hj, CallRecord.listensTo, Ne.symm hj]

theorem Orderly.current?_arrived (ho : h.Orderly) (hs : h.listening? x.call = some s) :
    (h.arrived x).current? = if (answer? x).isNone then some (s.receive x) else none := by
  obtain ⟨rest, -, harrived⟩ := ho.arrived_of_some hs
  rw [harrived, current?, List.head?_cons, Option.filter_some, CallRecord.isLive,
    CallRecord.answer?_receive (listening?_eq_some_iff.mp hs).2]

theorem listening?_of_some (hs : h.listening? x.call = some s) (k : CallId) :
    h.listening? k = if k = x.call then some s else none := by
  obtain ⟨hhead, hlistens⟩ := listening?_eq_some_iff.mp hs
  by_cases hk : k = x.call
  · rw [hk, hs, if_pos rfl]
  · rw [if_neg hk, Option.eq_none_iff_forall_ne_some]
    intro t ht
    obtain ⟨hhead', hlistens'⟩ := listening?_eq_some_iff.mp ht
    rw [hhead, Option.some.injEq] at hhead'
    have hcall := (CallRecord.listensTo_iff.mp hlistens').1
    rw [← hhead', (CallRecord.listensTo_iff.mp hlistens).1] at hcall
    exact hk hcall.symm

theorem Orderly.listening?_arrived (ho : h.Orderly) (hs : h.listening? x.call = some s)
    (k : CallId) : (h.arrived x).listening? k =
      if k = x.call ∧ x.isLast = false then some (s.receive x) else none := by
  have hlistens := (listening?_eq_some_iff.mp hs).2
  rw [listening?, ho.current?_arrived hs]
  cases hx : answer? x with
  | none =>
    rw [Option.isNone_none, if_pos rfl, Option.filter_some, CallRecord.listensTo_receive hlistens]
    simp
  | some r =>
    rw [CallRecord.isLast_of_answer? hx]
    simp

theorem length_arrivedAll (h : CallHistory) (xs : List Signal) :
    (h.arrivedAll xs).calls.length = h.calls.length := by
  induction xs generalizing h with
  | nil => rfl
  | cons x xs ih =>
    refine (ih (h.arrived x)).trans ?_
    rw [arrived, List.length_map]

theorem notices_opened (h : CallHistory) (k : CallId) :
    (h.opened k).notices = h.notices ++ [.opened] := by
  rw [notices, opened, List.reverse_cons, List.flatMap_append]
  rfl

theorem Orderly.notices_arrived (ho : h.Orderly) (hs : h.listening? x.call = some s) :
    (h.arrived x).notices =
      h.notices ++ ((answer? x).map MeasurementStream.noticeOf).toList := by
  obtain ⟨rest, hcalls, harrived⟩ := ho.arrived_of_some hs
  have hlistens := (listening?_eq_some_iff.mp hs).2
  have hlive := CallRecord.isLive_of_listensTo hlistens
  rw [CallRecord.isLive, Option.isNone_iff_eq_none] at hlive
  rw [harrived, notices, notices, hcalls, List.reverse_cons, List.reverse_cons,
    List.flatMap_append, List.flatMap_append, List.append_assoc]
  simp [CallRecord.notices, CallRecord.answer?_receive hlistens, hlive]

/-- Openings and answers take turns, an opening first. -/
def Alternates : List StreamNotice → Prop
  | [] => True
  | [n] => n = .opened
  | n :: m :: rest => n = .opened ∧ m ≠ .opened ∧ Alternates rest

theorem alternates_append {ss : List CallRecord} (hss : ∀ s ∈ ss, s.isLive = false)
    {rest : List StreamNotice} (hrest : Alternates rest) :
    Alternates (ss.flatMap CallRecord.notices ++ rest) := by
  induction ss with
  | nil => exact hrest
  | cons s ss ih =>
    have hs := hss s List.mem_cons_self
    have htail := ih fun t ht => hss t (List.mem_cons_of_mem s ht)
    rw [CallRecord.isLive, Option.isNone_eq_false_iff, Option.isSome_iff_exists] at hs
    obtain ⟨r, hr⟩ := hs
    rw [List.flatMap_cons, CallRecord.notices, hr]
    refine ⟨rfl, ?_, htail⟩
    cases r <;> simp [MeasurementStream.noticeOf]

/-- Every call but the newest is announced twice. -/
theorem Orderly.alternates (ho : h.Orderly) : Alternates h.notices := by
  have hsettled := ho.settled
  obtain ⟨calls⟩ := h
  cases calls with
  | nil => trivial
  | cons s rest =>
    rw [notices, List.reverse_cons, List.flatMap_append]
    refine alternates_append (fun t ht => hsettled t (List.mem_reverse.mp ht)) ?_
    rw [List.flatMap_singleton, CallRecord.notices]
    cases s.answer? with
    | none => rfl
    | some r =>
      refine ⟨rfl, ?_, trivial⟩
      cases r <;> simp [MeasurementStream.noticeOf]

theorem count_opened_notices (h : CallHistory) : h.notices.count .opened = h.calls.length := by
  have hone (s : CallRecord) : s.notices.count .opened = 1 := by
    rw [CallRecord.notices, List.count_cons_self]
    cases s.answer? with
    | none => rfl
    | some r => cases r <;> simp [MeasurementStream.noticeOf]
  have hmap : h.calls.reverse.map (List.count .opened ∘ CallRecord.notices) =
      List.replicate h.calls.length 1 :=
    List.eq_replicate_iff.mpr ⟨by simp, by simp [hone]⟩
  rw [notices, List.count_flatMap, hmap]
  simp

end CallHistory
end SensorRelay.Client
