import SensorRelay.Proofs.Server.Run
import SensorRelay.Proofs.Server.Subscriber
import Mathlib.Tactic.ByContra

/-!
# Subscription calls in a run

What is heard on one subscription call, and what it follows, after each step of a server: an answer
to its own control frame, or one event of a sensor that it follows.
-/

namespace SensorRelay

open Auth Rpc

/-- What comes back on one call. -/
def heard (k : CallId) (xs : List Signal) : List Signal :=
  xs.filter (·.call = k)

theorem heard_cons (k : CallId) (x : Signal) (xs : List Signal) :
    heard k (x :: xs) = if x.call = k then x :: heard k xs else heard k xs := by
  rw [heard, List.filter_cons]
  split_ifs <;> simp_all [heard]

theorem heard_append (k : CallId) (xs ys : List Signal) :
    heard k (xs ++ ys) = heard k xs ++ heard k ys :=
  List.filter_append xs ys

namespace Host

variable (h : Host)

/-- The set of sensors that a live subscription call follows. -/
def followed? (k : CallId) : Option (Finset Uuid) :=
  (h.server.subscriber? k).map Subscriber.followed

/-- Is a subscription call with this header accepted? -/
def admits (header : Option HeaderValue) : Bool :=
  (h.server.openSubscription h.nextCall header).1.toOption.isSome

/-- What an action says by itself on open calls, and the subscribers that it leaves. -/
def direct : Action → List Signal × List Subscriber
  | .openMeasurements header =>
    (match (h.server.openMeasurements h.nextCall header).1 with
      | .ok _ => []
      | .error r => [.answered h.nextCall (.error r.status)], h.server.subscribers)
  | .uploadMeasurement call u _ =>
    (if (h.server.measuring.lookup call).isNone then []
      else match u with
        | .halfClose => [.answered call (.ok ())]
        | .broken => [.answered call (.error Refusal.sensorStreamFailed.status)]
        | _ => [], h.server.subscribers)
  | .openSubscription header =>
    ([], (h.server.openSubscription h.nextCall header).2.subscribers)
  | .uploadControl call u =>
    if (h.server.subscriber? call).isNone then ([], h.server.subscribers)
    else match u with
      | .message r =>
        let x := h.server.control call r
        (x.1, x.2.subscribers)
      | .halfClose =>
        ([.frame call (some Server.farewell), .ended call], (h.server.dismiss call).subscribers)
      | .broken =>
        ([.failed call Refusal.clientStreamFailed.status], (h.server.dismiss call).subscribers)
      | .abandoned => ([], (h.server.dismiss call).subscribers)
  | _ => ([], h.server.subscribers)

/-- The numbers of the live subscription calls. -/
def subscriptions : List CallId :=
  h.server.subscribers.map Subscriber.call

/-- Live subscription calls have numbers of their own, and have read everything. -/
structure Attentive (h : Host) : Prop where
  numbered : ∀ k ∈ h.subscriptions, k < h.nextCall
  distinct : h.subscriptions.Nodup
  apart : ∀ k ∈ h.subscriptions, ∀ p ∈ h.server.measuring, p.1 ≠ k
  current : ∀ c ∈ h.server.subscribers, c.Current h.server.directory

variable {h}

section Upload

variable {call : CallId} {c : Subscriber}

theorem direct_of_subscriber?_eq_none (hc : h.server.subscriber? call = none)
    (u : Upload SubscribeRequest) :
    h.direct (.uploadControl call u) = ([], h.server.subscribers) := by
  simp only [direct, hc, Option.isNone_none, if_true]

theorem direct_message (hc : h.server.subscriber? call = some c) (r : SubscribeRequest) :
    h.direct (.uploadControl call (.message r)) =
      ([.frame call (some (c.control h.server.directory r).1)],
        h.server.subscribers.map fun x =>
          if x.call = call then (c.control h.server.directory r).2 else x) := by
  simp only [direct, hc, Option.isNone_some, Bool.false_eq_true, if_false, Server.control]

theorem direct_last (hc : h.server.subscriber? call = some c) {u : Upload SubscribeRequest}
    (hu : u.isLast = true) :
    (h.direct (.uploadControl call u)).2 = h.server.subscribers.filter (·.call ≠ call) := by
  cases u with
  | message r => cases hu
  | _ => simp only [direct, hc, Option.isNone_some, Bool.false_eq_true, if_false, Server.dismiss]

theorem mem_of_subscriber? (hc : h.server.subscriber? call = some c) :
    c ∈ h.server.subscribers ∧ c.call = call :=
  ⟨List.mem_of_find?_eq_some hc, by simpa using List.find?_some hc⟩

end Upload

theorem attentive_fresh (issuer : Issuer) (historyCapacity eventBuffer : Nat) :
    (fresh issuer historyCapacity eventBuffer).Attentive where
  numbered _ hc := nomatch hc
  distinct := List.nodup_nil
  apart _ hc := nomatch hc
  current _ hc := nomatch hc

/-- The frames that a delivery hands to these subscribers. -/
def deliveries (d : Directory) (cs : List Subscriber) : List Signal :=
  cs.flatMap fun c => (c.pending d).map fun e => .frame c.call (some e.frame)

theorem heard_deliveries (d : Directory) {cs : List Subscriber}
    (hcs : (cs.map Subscriber.call).Nodup) (k : CallId) :
    heard k (deliveries d cs) = match cs.find? (·.call = k) with
      | some c => (c.pending d).map fun e => .frame k (some e.frame)
      | none => [] := by
  induction cs with
  | nil => rfl
  | cons c cs ih =>
    rw [List.map_cons, List.nodup_cons] at hcs
    rw [deliveries, List.flatMap_cons, heard_append, List.find?_cons]
    change _ ++ heard k (deliveries d cs) = _
    rw [ih hcs.2]
    by_cases hc : c.call = k
    · have hno : cs.find? (·.call = k) = none := by
        rw [List.find?_eq_none]
        intro x hx
        simpa using fun heq => hcs.1 (List.mem_map.mpr ⟨x, hx, heq.trans hc.symm⟩)
      rw [hno, List.append_nil]
      simp [heard, hc, Signal.call, List.filter_map, Function.comp_def]
    · simp [heard, hc, Signal.call, List.filter_map, Function.comp_def]

theorem deliveries_eq_nil {d : Directory} {cs : List Subscriber} (hcs : ∀ c ∈ cs, c.Current d) :
    deliveries d cs = [] := by
  rw [deliveries, List.flatMap_eq_nil_iff]
  intro c hc
  rw [(hcs c hc).pending_eq_nil, List.map_nil]

theorem map_caughtUp_eq {d : Directory} {cs : List Subscriber} (hcs : ∀ c ∈ cs, c.Current d) :
    cs.map (·.caughtUp d) = cs :=
  (List.map_congr_left fun c hc => (hcs c hc).caughtUp_eq).trans (List.map_id cs)

theorem settle_eq (r : List Signal × Server) :
    Server.settle r = (r.1 ++ deliveries r.2.directory r.2.subscribers,
      { r.2 with subscribers := r.2.subscribers.map (·.caughtUp r.2.directory) }) := rfl

theorem subscribers_openMeasurements (s : Server) (k : CallId) (header : Option HeaderValue) :
    (s.openMeasurements k header).2.subscribers = s.subscribers := by
  unfold Server.openMeasurements
  split
  · rfl
  · split
    · rfl
    · split <;> rfl

/-- A step speaks for itself first, and then it hands out what was published. -/
theorem settle_step (hh : h.Sound) (ha : h.Attentive) (a : Action) :
    (h.step a).1.signals =
        (h.direct a).1 ++ deliveries (h.step a).2.server.directory (h.direct a).2 ∧
      (h.step a).2.server.subscribers =
        (h.direct a).2.map (·.caughtUp (h.step a).2.server.directory) := by
  have hquiet {d : Directory} (hd : ∀ c ∈ h.server.subscribers, c.Current d) :
      [] = [] ++ deliveries d h.server.subscribers ∧
        h.server.subscribers = h.server.subscribers.map (·.caughtUp d) :=
    ⟨(deliveries_eq_nil hd).symm, (map_caughtUp_eq hd).symm⟩
  cases a with
  | registerSensor r o =>
    simp only [step, act, Service.registerSensor, Server.registerSensor, direct]
    split_ifs
    · exact hquiet ha.current
    · cases hreg : h.server.directory.register o.freshId r with
      | ok d => exact hquiet fun c hc => (ha.current c hc).register hh.directory hreg
      | error e => cases e <;> exact hquiet ha.current
  | registerClient r o =>
    simp only [step, act, Service.registerClient, Server.registerClient, direct]
    split_ifs
    · exact hquiet ha.current
    · split <;> exact hquiet ha.current
  | logIn login password o => exact hquiet ha.current
  | roster tags => exact hquiet ha.current
  | history r => exact hquiet ha.current
  | openMeasurements header =>
    have hsub := subscribers_openMeasurements h.server h.nextCall header
    constructor
    · change _ ++ deliveries _ (h.server.openMeasurements h.nextCall header).2.subscribers = _
      rw [hsub]
      rfl
    · change (h.server.openMeasurements h.nextCall header).2.subscribers.map _ = _
      rw [hsub]
      rfl
  | uploadMeasurement call u o =>
    simp only [step, act, Service.uploadMeasurement, Server.uploadMeasurement, direct]
    split_ifs with hno
    · exact hquiet ha.current
    · cases u <;> simp only [settle_eq, Server.recordMeasurement, Server.release] <;>
        split <;> exact ⟨rfl, rfl⟩
  | openSubscription header =>
    simp only [step, act, Service.openSubscription, Server.openSubscription, direct]
    cases h.server.loginOf header with
    | error r => exact hquiet ha.current
    | ok login =>
      dsimp only
      split_ifs
      · exact hquiet ha.current
      · have hcurrent : ∀ c ∈ h.server.subscribers ++ [.admitted h.nextCall login],
            c.Current h.server.directory := by
          intro c hc
          rcases List.mem_append.mp hc with hc | hc
          · exact ha.current c hc
          · rw [List.mem_singleton.mp hc]
            exact Subscriber.current_admitted _ _
        exact ⟨(deliveries_eq_nil hcurrent).symm, (map_caughtUp_eq hcurrent).symm⟩
  | uploadControl call u =>
    simp only [step, act, Service.uploadControl, Server.uploadControl, direct]
    split_ifs with hno
    · exact hquiet ha.current
    · cases u <;> exact ⟨rfl, rfl⟩

theorem admits_cases (h : Host) (header : Option HeaderValue) :
    (h.admits header = false ∧
      (h.server.openSubscription h.nextCall header).2.subscribers = h.server.subscribers) ∨
    (h.admits header = true ∧ ∃ login,
      (h.server.openSubscription h.nextCall header).2.subscribers =
        h.server.subscribers ++ [.admitted h.nextCall login]) := by
  unfold admits Server.openSubscription
  split
  · exact Or.inl ⟨rfl, rfl⟩
  · split_ifs
    · exact Or.inl ⟨rfl, rfl⟩
    · exact Or.inr ⟨rfl, _, rfl⟩

/-- The subscribers that an action leaves. -/
theorem direct_cases (h : Host) (a : Action) :
    (h.direct a).2 = h.server.subscribers ∨
    (∃ header login, a = .openSubscription header ∧
      (h.direct a).2 = h.server.subscribers ++ [.admitted h.nextCall login]) ∨
    (∃ call r c, h.server.subscriber? call = some c ∧ a = .uploadControl call (.message r) ∧
      (h.direct a).2 = h.server.subscribers.map fun x =>
        if x.call = call then (c.control h.server.directory r).2 else x) ∨
    (∃ call u, a = .uploadControl call u ∧ u.isLast = true ∧
      (h.direct a).2 = h.server.subscribers.filter (·.call ≠ call)) := by
  cases a with
  | openSubscription header =>
    rcases h.admits_cases header with ⟨-, hsub⟩ | ⟨-, login, hsub⟩
    · exact Or.inl hsub
    · exact Or.inr (Or.inl ⟨header, login, rfl, hsub⟩)
  | uploadControl call u =>
    cases hc : h.server.subscriber? call with
    | none => exact Or.inl (by rw [direct_of_subscriber?_eq_none hc])
    | some c =>
      refine Or.inr (Or.inr ?_)
      cases u with
      | message r => exact Or.inl ⟨call, r, c, hc, rfl, by rw [direct_message hc]⟩
      | _ => exact Or.inr ⟨call, _, rfl, rfl, direct_last hc rfl⟩
  | _ => exact Or.inl rfl

namespace Attentive

theorem current_direct (ha : h.Attentive) (hh : h.Sound) (a : Action) :
    ∀ c ∈ (h.direct a).2, c.Current h.server.directory := by
  intro c hc
  rcases h.direct_cases a with hd | ⟨header, login, -, hd⟩ | ⟨call, r, x, hx, -, hd⟩ |
    ⟨call, u, -, -, hd⟩ <;> rw [hd] at hc
  · exact ha.current c hc
  · rcases List.mem_append.mp hc with hc | hc
    · exact ha.current c hc
    · rw [List.mem_singleton.mp hc]
      exact Subscriber.current_admitted _ _
  · obtain ⟨y, hy, rfl⟩ := List.mem_map.mp hc
    split_ifs
    · exact (ha.current x (mem_of_subscriber? hx).1).control hh.directory r
    · exact ha.current y hy
  · exact ha.current c (List.mem_filter.mp hc).1

/-- The numbers of the subscribers that an action leaves. -/
theorem calls_direct (h : Host) (a : Action) :
    ((h.direct a).2.map Subscriber.call).Sublist h.subscriptions ∨
    (∃ header, a = .openSubscription header ∧
      (h.direct a).2.map Subscriber.call = h.subscriptions ++ [h.nextCall]) := by
  unfold subscriptions
  rcases h.direct_cases a with hd | ⟨header, login, ha, hd⟩ | ⟨call, r, x, hx, -, hd⟩ |
    ⟨call, u, -, -, hd⟩ <;> rw [hd]
  · exact Or.inl (List.Sublist.refl _)
  · exact Or.inr ⟨header, ha, by simp [Subscriber.admitted]⟩
  · refine Or.inl ?_
    rw [List.map_map, List.map_congr_left (g := Subscriber.call)]
    intro y _
    simp only [Function.comp_apply]
    split_ifs with hy
    · rw [Subscriber.call_control, (mem_of_subscriber? hx).2, hy]
    · rfl
  · exact Or.inl (List.filter_sublist.map _)

theorem subscriptions_step (ha : h.Attentive) (hh : h.Sound) (a : Action) :
    (h.step a).2.subscriptions.Sublist h.subscriptions ∨
    (∃ header, a = .openSubscription header ∧
      (h.step a).2.subscriptions = h.subscriptions ++ [h.nextCall]) := by
  have hcalls : (h.step a).2.subscriptions = (h.direct a).2.map Subscriber.call := by
    rw [subscriptions, (settle_step hh ha a).2, List.map_map]
    rfl
  rw [hcalls]
  exact calls_direct h a

theorem step (ha : h.Attentive) (hh : h.Sound) (a : Action) : (h.step a).2.Attentive where
  numbered k hk := by
    rcases ha.subscriptions_step hh a with hs | ⟨header, rfl, hs⟩
    · exact Nat.lt_of_lt_of_le (ha.numbered k (hs.subset hk)) (h.nextCall_le_step a)
    · rw [hs] at hk
      rw [nextCall_step]
      rcases List.mem_append.mp hk with hk | hk
      · exact Nat.lt_succ_of_lt (ha.numbered k hk)
      · rw [List.mem_singleton.mp hk]
        exact Nat.lt_succ_self _
  distinct := by
    rcases ha.subscriptions_step hh a with hs | ⟨header, rfl, hs⟩
    · exact ha.distinct.sublist hs
    · rw [hs]
      refine List.nodup_append.mpr ⟨ha.distinct, by simp, ?_⟩
      intro k hk l hl
      rw [List.mem_singleton.mp hl]
      exact Nat.ne_of_lt (ha.numbered k hk)
  apart k hk p hp := by
    rcases ha.subscriptions_step hh a with hs | ⟨header, rfl, hs⟩
    · have hold := hs.subset hk
      rcases h.measuring_step a with hm | ⟨id, hm, -, -⟩ | ⟨call, hm⟩ <;> rw [hm] at hp
      · exact ha.apart k hold p hp
      · rcases List.mem_append.mp hp with hp | hp
        · exact ha.apart k hold p hp
        · rw [List.mem_singleton.mp hp]
          exact (Nat.ne_of_lt (ha.numbered k hold)).symm
      · exact ha.apart k hold p (List.mem_filter.mp hp).1
    · rw [h.measuring_step_of_change?_eq_none rfl] at hp
      rw [hs] at hk
      rcases List.mem_append.mp hk with hk | hk
      · exact ha.apart k hk p hp
      · rw [List.mem_singleton.mp hk]
        exact Nat.ne_of_lt (hh.numbered p hp)
  current c hc := by
    rw [(settle_step hh ha a).2] at hc
    obtain ⟨x, hx, rfl⟩ := List.mem_map.mp hc
    have hcurrent := ha.current_direct hh a x hx
    exact Subscriber.Placed.caughtUp
      ⟨hcurrent.once, fun p hp => hh.isSome_get?_step a (hcurrent.registered p hp)⟩

theorem after (ha : h.Attentive) (hh : h.Sound) (as : List Action) : (h.after as).Attentive :=
  (after_keeps (P := fun h => h.Sound ∧ h.Attentive)
    (fun a hk => ⟨hk.1.step a, hk.2.step hk.1 a⟩) ⟨hh, ha⟩ as).2

end Attentive

theorem followed?_eq_none_iff {k : CallId} : h.followed? k = none ↔ k ∉ h.subscriptions := by
  simp [followed?, Server.subscriber?, subscriptions]

theorem find?_map_replace {cs : List Subscriber} {call k : CallId} {c : Subscriber}
    (hc : c.call = call) :
    (cs.map fun x => if x.call = call then c else x).find? (·.call = k) =
      if call = k then (cs.find? (·.call = k)).map fun _ => c else cs.find? (·.call = k) := by
  induction cs with
  | nil => simp
  | cons x cs ih =>
    rw [List.map_cons, List.find?_cons, List.find?_cons, ih]
    by_cases hx : x.call = call
    · by_cases hk : call = k <;> simp [hx, hc, hk]
    · by_cases hk : call = k
      · simp [hx, ← hk]
      · simp [hx, hk]

theorem find?_filter_call_ne {cs : List Subscriber} {call k : CallId} :
    (cs.filter (·.call ≠ call)).find? (·.call = k) =
      if call = k then none else cs.find? (·.call = k) := by
  rw [List.find?_filter]
  split_ifs with hk
  · rw [List.find?_eq_none]
    simp [hk]
  · congr 1
    funext x
    by_cases hx : x.call = k <;> simp [hx, Ne.symm hk]

theorem mem_subscriptions {k : CallId} {f : Finset Uuid} (hf : h.followed? k = some f) :
    k ∈ h.subscriptions := by
  by_contra hno
  rw [followed?_eq_none_iff.mpr hno] at hf
  cases hf

theorem Attentive.followed?_step_eq (ha : h.Attentive) (hh : h.Sound) (a : Action) (k : CallId) :
    (h.step a).2.followed? k = ((h.direct a).2.find? (·.call = k)).map Subscriber.followed := by
  rw [followed?, Server.subscriber?, (settle_step hh ha a).2, List.find?_map, Option.map_map]
  exact congrArg (Option.map · _) (funext fun c => Subscriber.followed_caughtUp)

/-- What a call follows after an action. -/
theorem Attentive.followed?_step (ha : h.Attentive) (hh : h.Sound) (a : Action) (k : CallId) :
    (h.step a).2.followed? k = match a with
      | .openSubscription header =>
        if k = h.nextCall ∧ h.admits header = true then some ∅ else h.followed? k
      | .uploadControl call u =>
        if call = k then (h.followed? k).bind fun f =>
          match u with
          | .message r => some ((Verdict.of h.server.directory.has f r).next f)
          | _ => none
        else h.followed? k
      | _ => h.followed? k := by
  rw [ha.followed?_step_eq hh]
  cases a with
  | openSubscription header =>
    have hnew : h.server.subscribers.find? (·.call = h.nextCall) = none := by
      rw [List.find?_eq_none]
      intro c hc
      simpa using Nat.ne_of_lt (ha.numbered c.call (List.mem_map_of_mem hc))
    rcases h.admits_cases header with ⟨hno, hsub⟩ | ⟨hyes, login, hsub⟩
    · simp [direct, hsub, hno, followed?, Server.subscriber?]
    · simp only [direct, hsub, hyes, and_true]
      split_ifs with hk
      · rw [hk, List.find?_append, hnew]
        simp [Subscriber.admitted, Subscriber.followed]
      · rw [List.find?_append]
        simp [Subscriber.admitted, followed?, Server.subscriber?, Ne.symm hk]
  | uploadControl call u =>
    dsimp only
    cases hc : h.server.subscriber? call with
    | none =>
      rw [direct_of_subscriber?_eq_none hc]
      split_ifs with hk
      · subst hk
        simp only [followed?, hc, Option.map_none, Option.bind_none]
        exact congrArg (Option.map _) hc
      · rfl
    | some c =>
      obtain ⟨-, hcall⟩ := mem_of_subscriber? hc
      cases u with
      | message r =>
        rw [direct_message hc, find?_map_replace (by rw [Subscriber.call_control, hcall])]
        split_ifs with hk
        · subst hk
          rw [show h.server.subscribers.find? (·.call = call) = some c from hc]
          simp [followed?, hc, Subscriber.followed_control hh.directory]
        · rfl
      | _ =>
        rw [direct_last hc rfl, find?_filter_call_ne]
        split_ifs with hk
        · simp [← hk, followed?, hc]
        · rfl
  | _ => rfl

/-- The event that a call is handed after an action, if it follows the sensor. -/
def forwarded (h : Host) (k : CallId) (a : Action) : List Signal :=
  match h.change? a, h.followed? k with
  | some (id, c), some f => if id ∈ f then [.frame k (some (c.event id).frame)] else []
  | _, _ => []

theorem forwarded_eq_nil {k : CallId} {a : Action} (hf : h.followed? k = none) :
    h.forwarded k a = [] := by
  unfold forwarded
  rw [hf]
  split
  · rename_i heq
    cases heq
  · rfl

namespace Attentive

theorem nodup_direct (ha : h.Attentive) (a : Action) :
    ((h.direct a).2.map Subscriber.call).Nodup := by
  rcases calls_direct h a with hs | ⟨header, -, hs⟩
  · exact ha.distinct.sublist hs
  · rw [hs]
    refine List.nodup_append.mpr ⟨ha.distinct, by simp, ?_⟩
    intro k hk l hl
    rw [List.mem_singleton.mp hl]
    exact Nat.ne_of_lt (ha.numbered k hk)

theorem pending_direct (ha : h.Attentive) (hh : h.Sound) (a : Action) :
    ∀ c ∈ (h.direct a).2, c.pending (h.step a).2.server.directory =
      match h.change? a with
      | some (id, ch) => if id ∈ c.followed then [ch.event id] else []
      | none => [] := by
  intro c hc
  have hcurrent := ha.current_direct hh a c hc
  rcases h.directory_step a with ⟨hno, hd⟩ | ⟨r, o, rfl, hd⟩ | ⟨id, ch, hch, hd⟩
  · rw [hno, hd]
    exact hcurrent.pending_eq_nil
  · exact (hcurrent.register hh.directory hd).pending_eq_nil
  · rw [hch, hd]
    exact hcurrent.pending_modify hh.directory hh.ready ch

theorem heard_step (ha : h.Attentive) (hh : h.Sound) (a : Action) (k : CallId) :
    heard k (h.step a).1.signals = heard k (h.direct a).1 ++ h.forwarded k a := by
  rw [(settle_step hh ha a).1, heard_append, heard_deliveries _ (ha.nodup_direct a)]
  congr 1
  have hpending := ha.pending_direct hh a
  unfold forwarded
  cases hc : h.change? a with
  | none =>
    rw [hc] at hpending
    split
    · rename_i c hfind
      rw [hpending c (List.mem_of_find?_eq_some hfind), List.map_nil]
    · rfl
  | some e =>
    obtain ⟨id, ch⟩ := e
    have hsame : (h.direct a).2 = h.server.subscribers := by
      cases a with
      | openMeasurements header => rfl
      | uploadMeasurement call u o => rfl
      | _ => cases hc
    rw [hc, hsame] at hpending
    rw [hsame, followed?, Server.subscriber?]
    cases hfind : h.server.subscribers.find? (·.call = k) with
    | none => rfl
    | some c =>
      simp only [hpending c (List.mem_of_find?_eq_some hfind), Option.map_some]
      split_ifs <;> rfl

end Attentive

/-- Whose call a step speaks on by itself. -/
theorem direct_source (a : Action) {x : Signal} (hx : x ∈ (h.direct a).1) :
    (∃ r, x = .answered h.nextCall r) ∨
    (∃ call r, (h.server.measuring.lookup call).isSome ∧ x = .answered call r) ∨
    (∃ call u, a = .uploadControl call u ∧ (h.followed? call).isSome ∧ x.call = call) := by
  cases a with
  | openMeasurements header =>
    simp only [direct] at hx
    split at hx
    · cases hx
    · exact Or.inl ⟨_, List.mem_singleton.mp hx⟩
  | uploadMeasurement call u o =>
    simp only [direct] at hx
    split_ifs at hx with hno
    · cases hx
    · have hlive : (h.server.measuring.lookup call).isSome := by simpa using hno
      refine Or.inr (Or.inl ⟨call, ?_⟩)
      cases u with
      | halfClose => exact ⟨_, hlive, List.mem_singleton.mp hx⟩
      | broken => exact ⟨_, hlive, List.mem_singleton.mp hx⟩
      | _ => cases hx
  | uploadControl call u =>
    refine Or.inr (Or.inr ⟨call, u, rfl, ?_⟩)
    cases hc : h.server.subscriber? call with
    | none =>
      rw [direct_of_subscriber?_eq_none hc] at hx
      cases hx
    | some c =>
      refine ⟨by simp [followed?, hc], ?_⟩
      cases u with
      | message r =>
        rw [direct_message hc] at hx
        rw [List.mem_singleton.mp hx]
        rfl
      | halfClose =>
        simp only [direct, hc, Option.isNone_some, Bool.false_eq_true, if_false, List.mem_cons,
          List.not_mem_nil, or_false] at hx
        rcases hx with rfl | rfl <;> rfl
      | broken =>
        simp only [direct, hc, Option.isNone_some, Bool.false_eq_true, if_false] at hx
        rw [List.mem_singleton.mp hx]
        rfl
      | abandoned =>
        simp only [direct, hc, Option.isNone_some, Bool.false_eq_true, if_false] at hx
        cases hx
  | _ => cases hx

/-- A step says nothing by itself on a call that it is not about. -/
theorem heard_direct_eq_nil (hh : h.Sound) {a : Action} {k : CallId} (hk : k < h.nextCall)
    (hidle : ∀ p ∈ h.server.measuring, p.1 ≠ k)
    (hown : ∀ u, a = .uploadControl k u → h.followed? k = none) :
    heard k (h.direct a).1 = [] := by
  rw [heard, List.filter_eq_nil_iff]
  intro x hx
  rw [decide_eq_true_eq]
  rcases direct_source a hx with ⟨r, rfl⟩ | ⟨call, r, hlive, rfl⟩ | ⟨call, u, rfl, hlive, rfl⟩
  · exact hk.ne'
  · obtain ⟨id, hid⟩ := Option.isSome_iff_exists.mp hlive
    exact hidle (call, id) (hh.lookup_measuring_iff.mp hid)
  · rintro rfl
    rw [hown u rfl] at hlive
    cases hlive

namespace Attentive

/-- What a live subscription call hears after an action: the answer to its own control frame or the
end of its request half, or one event. -/
theorem heard_step_of_followed? (ha : h.Attentive) (hh : h.Sound) (a : Action) {k : CallId}
    {f : Finset Uuid} (hf : h.followed? k = some f) :
    heard k (h.step a).1.signals = (match a with
      | .uploadControl call u =>
        if call = k then
          match u with
          | .message r => [.frame k (some (Verdict.of h.server.directory.has f r).frame)]
          | .halfClose => [.frame k (some Server.farewell), .ended k]
          | .broken => [.failed k Refusal.clientStreamFailed.status]
          | .abandoned => []
        else []
      | _ => []) ++ h.forwarded k a := by
  rw [ha.heard_step hh]
  congr 1
  have hk := mem_subscriptions hf
  obtain ⟨c, hc, rfl⟩ := Option.map_eq_some_iff.mp hf
  have hother (hne : ∀ u, a ≠ .uploadControl k u) : heard k (h.direct a).1 = [] :=
    heard_direct_eq_nil hh (ha.numbered k hk) (ha.apart k hk) fun u heq => absurd heq (hne u)
  cases a with
  | uploadControl call u =>
    dsimp only
    split_ifs with hcall
    · subst hcall
      cases u with
      | message r =>
        rw [direct_message hc, Subscriber.fst_control hh.directory]
        simp [heard, Signal.call]
      | _ => simp [direct, hc, heard, Signal.call]
    · exact hother fun v heq => hcall (by cases heq; rfl)
  | _ => exact hother fun u heq => nomatch heq

theorem lt_nextCall (ha : h.Attentive) {k : CallId} {f : Finset Uuid}
    (hf : h.followed? k = some f) : k < h.nextCall :=
  ha.numbered k (mem_subscriptions hf)

/-- Whatever does not happen on its own request half leaves what a call follows as it is. -/
theorem step_elsewhere (ha : h.Attentive) (hh : h.Sound) {a : Action} {k : CallId} {f : Finset Uuid}
    (hf : h.followed? k = some f) (hne : ∀ u, a ≠ .uploadControl k u) :
    (h.step a).2.followed? k = some f ∧ heard k (h.step a).1.signals = h.forwarded k a := by
  rw [ha.followed?_step hh, ha.heard_step_of_followed? hh a hf]
  cases a with
  | openSubscription header => exact ⟨by simp [(ha.lt_nextCall hf).ne, hf], rfl⟩
  | uploadControl call u =>
    have hcall : call ≠ k := by
      rintro rfl
      exact hne u rfl
    simp [hcall, hf]
  | _ => exact ⟨hf, rfl⟩

/-- A call that is no live subscription hears the answer to a measurement call at most. -/
theorem heard_step_of_followed?_eq_none (ha : h.Attentive) (hh : h.Sound) (a : Action) {k : CallId}
    (hf : h.followed? k = none) :
    ∀ x ∈ heard k (h.step a).1.signals, ∃ r, x = .answered k r := by
  intro x hx
  rw [ha.heard_step hh, forwarded_eq_nil hf, List.append_nil] at hx
  obtain ⟨hmem, hcall⟩ := List.mem_filter.mp hx
  rw [decide_eq_true_eq] at hcall
  rcases direct_source a hmem with ⟨r, rfl⟩ | ⟨call, r, -, rfl⟩ | ⟨call, u, -, hlive, rfl⟩
  · exact ⟨r, by rw [← hcall]; rfl⟩
  · exact ⟨r, by rw [← hcall]; rfl⟩
  · rw [hcall, hf] at hlive
    cases hlive

end Attentive

end Host
end SensorRelay
