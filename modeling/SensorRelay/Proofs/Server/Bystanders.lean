import SensorRelay.Proofs.Server.ControlPlane

/-!
# A run without one subscription call

Whoever else calls the server cannot tell whether a subscription call was ever opened. A run from
which the call and all that happened on it is left out shows everybody else the same, and leaves
the same sensors and accounts. Only the numbers of later calls close the gap.
-/

namespace SensorRelay

open Auth Rpc

variable {k c d : Nat}

/-- The number of another call if number `k` had not been given. -/
def numberWithout (k c : Nat) : Nat :=
  if k < c then c - 1 else c

theorem numberWithout_inj (hc : c ≠ k) (hd : d ≠ k) :
    numberWithout k c = numberWithout k d ↔ c = d := by
  unfold numberWithout
  split_ifs <;> omega

theorem numberWithout_of_lt (hk : k < c) : numberWithout k c = c - 1 :=
  if_pos hk

theorem numberWithout_of_le (hk : c ≤ k) : numberWithout k c = c :=
  if_neg (Nat.not_lt.mpr hk)

/-- A subscription call under its new number. -/
def Subscriber.renumbered (k : CallId) (x : Subscriber) : Subscriber :=
  { x with call := numberWithout k x.call }

namespace Signal

def renumbered (k : CallId) : Signal → Signal
  | frame c f => frame (numberWithout k c) f
  | ended c => ended (numberWithout k c)
  | failed c s => failed (numberWithout k c) s
  | answered c r => answered (numberWithout k c) r

/-- Nothing is left of what is heard on call `k`. -/
def without? (k : CallId) (x : Signal) : Option Signal :=
  if x.call = k then none else some (x.renumbered k)

theorem without?_of_ne {x : Signal} (hx : x.call ≠ k) : x.without? k = some (x.renumbered k) :=
  if_neg hx

theorem without?_of_eq {x : Signal} (hx : x.call = k) : x.without? k = none :=
  if_pos hx

end Signal

namespace Action

/-- Nothing is left of what happens on call `k`; ids and times stay as they are. -/
def without? (k : CallId) : Action → Option Action
  | uploadMeasurement c u o =>
    if c = k then none else some (uploadMeasurement (numberWithout k c) u o)
  | uploadControl c u => if c = k then none else some (uploadControl (numberWithout k c) u)
  | a => some a

end Action

def Reply.without (k : CallId) : Reply → Reply
  | measurements c => measurements (numberWithout k c)
  | subscription c r =>
    subscription (numberWithout k c) (r.map (·.filterMap (Signal.without? k)))
  | r => r

def Moment.without? (k : CallId) (m : Moment) : Option Moment :=
  (m.action.without? k).map fun a =>
    ⟨a, m.published, m.reply.without k, m.signals.filterMap (Signal.without? k)⟩

/-- Nobody but call `k` is told anything. -/
structure Moment.Private (m : Moment) (k : CallId) : Prop where
  published : m.published = none
  signals : ∀ x ∈ m.signals, x.call = k

/-- The server if call `k` had not been opened. -/
def Server.without (k : CallId) (s : Server) : Server :=
  { s with
    measuring := s.measuring.map fun p => (numberWithout k p.1, p.2)
    subscribers := (s.subscribers.filter (·.call ≠ k)).map (·.renumbered k) }

def Host.without (k : CallId) (h : Host) : Host :=
  ⟨h.server.without k, h.nextCall - 1⟩

namespace Server

variable {s : Server}

@[simp] theorem directory_without (k : CallId) (s : Server) :
    (s.without k).directory = s.directory := rfl

@[simp] theorem sensorOf_without (k : CallId) (s : Server) (header : Option HeaderValue) :
    (s.without k).sensorOf header = s.sensorOf header := rfl

@[simp] theorem loginOf_without (k : CallId) (s : Server) (header : Option HeaderValue) :
    (s.without k).loginOf header = s.loginOf header := rfl

theorem deliveries_without (k : CallId) (d : Directory) (cs : List Subscriber) :
    Host.deliveries d ((cs.filter (·.call ≠ k)).map (·.renumbered k)) =
      (Host.deliveries d cs).filterMap (Signal.without? k) := by
  induction cs with
  | nil => rfl
  | cons x cs ih =>
    have hhead : Host.deliveries d (x :: cs) =
        (x.pending d).map (fun e => .frame x.call (some e.frame)) ++ Host.deliveries d cs := rfl
    rw [hhead, List.filterMap_append, ← ih, List.filterMap_map]
    by_cases hx : x.call = k
    · have hnone : (x.pending d).filterMap
          (Signal.without? k ∘ fun e => .frame x.call (some e.frame)) = [] :=
        List.filterMap_eq_nil_iff.mpr fun e _ => Signal.without?_of_eq hx
      rw [hnone, List.filter_cons_of_neg (by simpa using hx), List.nil_append]
    · have hsome : (Signal.without? k ∘ fun e : SensorEvent => .frame x.call (some e.frame)) =
          some ∘ fun e => .frame (numberWithout k x.call) (some e.frame) :=
        funext fun e => Signal.without?_of_ne hx
      rw [hsome, List.filterMap_eq_map, List.filter_cons_of_pos (by simpa using hx), List.map_cons]
      rfl

theorem settle_without (k : CallId) (r : List Signal × Server) :
    settle (r.1.filterMap (Signal.without? k), r.2.without k) =
      ((settle r).1.filterMap (Signal.without? k), (settle r).2.without k) := by
  have hcaught : ((r.2.subscribers.filter (·.call ≠ k)).map (·.renumbered k)).map
      (·.caughtUp r.2.directory) =
        ((r.2.subscribers.map (·.caughtUp r.2.directory)).filter (·.call ≠ k)).map
          (·.renumbered k) := by
    rw [List.filter_map, List.map_map, List.map_map]
    rfl
  rw [Host.settle_eq, Host.settle_eq, List.filterMap_append, ← deliveries_without]
  simp only [without, hcaught]

theorem subscriber?_without (hc : c ≠ k) :
    (s.without k).subscriber? (numberWithout k c) =
      (s.subscriber? c).map (·.renumbered k) := by
  unfold subscriber? without
  dsimp only
  induction s.subscribers with
  | nil => rfl
  | cons x cs ih =>
    by_cases hx : x.call = k
    · have hne : x.call ≠ c := fun heq => hc (heq.symm.trans hx)
      rw [List.filter_cons_of_neg (by simpa using hx), ih,
        List.find?_cons_of_neg (by simpa using hne)]
    · rw [List.filter_cons_of_pos (by simpa using hx), List.map_cons]
      by_cases hxc : x.call = c
      · have hsame : (x.renumbered k).call = numberWithout k c := congrArg (numberWithout k) hxc
        rw [List.find?_cons_of_pos (by simpa using hsame),
          List.find?_cons_of_pos (by simpa using hxc)]
        rfl
      · have hne : (x.renumbered k).call ≠ numberWithout k c :=
          fun heq => hxc ((numberWithout_inj hx hc).mp heq)
        rw [List.find?_cons_of_neg (by simpa using hne),
          List.find?_cons_of_neg (by simpa using hxc), ih]

/-- Replacing a subscriber under its own number. -/
theorem without_replace (hc : c ≠ k) {x : Subscriber} (hx : x.call = c) (s : Server) :
    ({ s with subscribers := s.subscribers.map fun y => if y.call = c then x else y } :
        Server).without k =
      { s.without k with subscribers := (s.without k).subscribers.map fun y =>
          if y.call = numberWithout k c then x.renumbered k else y } := by
  unfold without
  dsimp only
  congr 1
  induction s.subscribers with
  | nil => rfl
  | cons y cs ih =>
    by_cases hy : y.call = c
    · have hyk : y.call ≠ k := fun heq => hc (hy.symm.trans heq)
      have hsame : (y.renumbered k).call = numberWithout k c := congrArg (numberWithout k) hy
      rw [List.map_cons, if_pos hy, List.filter_cons_of_pos (by simpa [hx] using hc),
        List.filter_cons_of_pos (by simpa using hyk), List.map_cons, List.map_cons, List.map_cons,
        if_pos hsame, ih]
    · rw [List.map_cons, if_neg hy]
      by_cases hyk : y.call = k
      · rw [List.filter_cons_of_neg (by simpa using hyk),
          List.filter_cons_of_neg (by simpa using hyk), ih]
      · have hne : (y.renumbered k).call ≠ numberWithout k c :=
          fun heq => hy ((numberWithout_inj hyk hc).mp heq)
        rw [List.filter_cons_of_pos (by simpa using hyk),
          List.filter_cons_of_pos (by simpa using hyk), List.map_cons, List.map_cons,
          List.map_cons, if_neg hne, ih]

theorem control_without (hc : c ≠ k) (s : Server) (r : SubscribeRequest) :
    (s.without k).control (numberWithout k c) r =
      ((s.control c r).1.filterMap (Signal.without? k), (s.control c r).2.without k) := by
  unfold control
  rw [subscriber?_without hc]
  cases hx : s.subscriber? c with
  | none => rfl
  | some x =>
    have hcall : (x.control s.directory r).2.call = c :=
      (Subscriber.call_control r).trans (by simpa using List.find?_some hx)
    have hanswer : (x.renumbered k).control (s.without k).directory r =
        ((x.control s.directory r).1, (x.control s.directory r).2.renumbered k) := by
      have hfollows (id : Uuid) : (x.renumbered k).follows id = x.follows id := rfl
      unfold Subscriber.control
      rw [directory_without]
      cases (Uuid.parse? r.sensorId).bind s.directory.get? with
      | none => rfl
      | some sensor =>
        dsimp only
        rw [hfollows]
        cases r.disconnect <;> cases x.follows sensor.id <;> rfl
    have hheard : (Signal.frame c (some (x.control s.directory r).1)).without? k =
        some (.frame (numberWithout k c) (some (x.control s.directory r).1)) :=
      Signal.without?_of_ne hc
    simp only [Option.map_some, hanswer, List.filterMap_cons, hheard, List.filterMap_nil,
      without_replace hc hcall]

theorem dismiss_without (hc : c ≠ k) (s : Server) :
    (s.without k).dismiss (numberWithout k c) = (s.dismiss c).without k := by
  have hkept : ∀ x ∈ s.subscribers, (decide ((x.renumbered k).call ≠ numberWithout k c) &&
      decide (x.call ≠ k)) = (decide (x.call ≠ k) && decide (x.call ≠ c)) := by
    intro x _
    by_cases hx : x.call = k
    · simp [hx]
    · have hsame : (x.renumbered k).call = numberWithout k c ↔ x.call = c :=
        numberWithout_inj hx hc
      simp [hx, hsame]
  unfold dismiss without
  dsimp only
  rw [List.filter_map, List.filter_filter, List.filter_filter, ← List.filter_congr hkept]
  rfl

section Measuring

variable (hidle : ∀ p ∈ s.measuring, p.1 ≠ k)

include hidle

theorem lookup_without (hc : c ≠ k) :
    (s.without k).measuring.lookup (numberWithout k c) = s.measuring.lookup c := by
  unfold without
  dsimp only
  generalize s.measuring = ms at hidle ⊢
  induction ms with
  | nil => rfl
  | cons p ms ih =>
    have hp : p.1 ≠ k := hidle p List.mem_cons_self
    have hsame : (numberWithout k c == numberWithout k p.1) = (c == p.1) := by
      rw [Bool.eq_iff_iff, beq_iff_eq, beq_iff_eq, numberWithout_inj hc hp]
    rw [List.map_cons, List.lookup_cons, List.lookup_cons, hsame,
      ih fun q hq => hidle q (List.mem_cons_of_mem p hq)]

theorem filter_without (hc : c ≠ k) :
    (s.without k).measuring.filter (·.1 ≠ numberWithout k c) =
      (s.measuring.filter (·.1 ≠ c)).map fun p => (numberWithout k p.1, p.2) := by
  unfold without
  dsimp only
  rw [List.filter_map]
  refine congrArg _ (List.filter_congr fun p hp => ?_)
  simp [numberWithout_inj (hidle p hp) hc]

theorem recordMeasurement_without (hc : c ≠ k) (m : MeasurementRequest) (receipt : Instant) :
    (s.without k).recordMeasurement (numberWithout k c) m receipt =
      (s.recordMeasurement c m receipt).without k := by
  unfold recordMeasurement
  rw [lookup_without hidle hc]
  cases s.measuring.lookup c <;> rfl

theorem release_without (hc : c ≠ k) (announced : OnlineStatus) :
    (s.without k).release (numberWithout k c) announced = (s.release c announced).without k := by
  unfold release
  rw [lookup_without hidle hc, filter_without hidle hc]
  cases s.measuring.lookup c <;> rfl

theorem uploadMeasurement_without (hc : c ≠ k) (u : Upload MeasurementRequest)
    (receipt : Instant) :
    (s.without k).uploadMeasurement (numberWithout k c) u receipt =
      ((s.uploadMeasurement c u receipt).1.filterMap (Signal.without? k),
        (s.uploadMeasurement c u receipt).2.without k) := by
  have hheard (r : Except Status Unit) :
      [Signal.answered (numberWithout k c) r] = [.answered c r].filterMap (Signal.without? k) := by
    have hanswered : (Signal.answered c r).call ≠ k := hc
    rw [List.filterMap_cons_some (Signal.without?_of_ne hanswered)]
    rfl
  unfold uploadMeasurement
  rw [lookup_without hidle hc]
  split_ifs
  · rfl
  · rw [← settle_without]
    cases u with
    | message m => rw [← recordMeasurement_without hidle hc]; rfl
    | halfClose => rw [← release_without hidle hc, ← hheard]
    | broken => rw [← release_without hidle hc, ← hheard]
    | abandoned => rw [← release_without hidle hc]; rfl

end Measuring

theorem registerSensor_without (k : CallId) (s : Server) (r : SensorRegistration) (o : Occasion) :
    (s.without k).registerSensor r o =
      ((s.registerSensor r o).1, (s.registerSensor r o).2.without k) := by
  unfold registerSensor
  rw [directory_without]
  split_ifs
  · rfl
  · cases s.directory.register o.freshId r with
    | ok d => rfl
    | error e => cases e <;> rfl

theorem registerClient_without (k : CallId) (s : Server) (r : ClientRegistration) (o : Occasion) :
    (s.without k).registerClient r o =
      ((s.registerClient r o).1, (s.registerClient r o).2.without k) := by
  unfold registerClient
  rw [show (s.without k).accounts = s.accounts from rfl]
  split_ifs
  · rfl
  · cases s.accounts.register? r <;> rfl

theorem openMeasurements_without (hk : k < c) (s : Server) (header : Option HeaderValue) :
    (s.without k).openMeasurements (c - 1) header =
      ((s.openMeasurements c header).1, (s.openMeasurements c header).2.without k) := by
  unfold openMeasurements
  rw [sensorOf_without, directory_without]
  cases s.sensorOf header with
  | error r => rfl
  | ok id =>
    dsimp only
    cases s.directory.get? id with
    | none => rfl
    | some sensor =>
      dsimp only
      cases sensor.goOnline? with
      | none => rfl
      | some online =>
        simp only [without, List.map_append, List.map_singleton, numberWithout_of_lt hk]

/-- The refusal of an attempt carries the number of the attempt. -/
theorem run_openMeasurements_without (hk : k < c) (s : Server) (header : Option HeaderValue) :
    Service.openMeasurements (c - 1) header (s.without k) =
      ((Service.openMeasurements c header s).1.filterMap (Signal.without? k),
        (Service.openMeasurements c header s).2.without k) := by
  simp only [Service.openMeasurements, openMeasurements_without hk]
  have hne : c ≠ k := Nat.ne_of_gt hk
  cases (s.openMeasurements c header).1 with
  | ok _ => exact settle_without k ([], (s.openMeasurements c header).2)
  | error r =>
    have hanswered : (Signal.answered c (.error r.status)).without? k =
        some (.answered (c - 1) (.error r.status)) := by
      rw [Signal.without?_of_ne (by exact hne), Signal.renumbered, numberWithout_of_lt hk]
    rw [← settle_without, List.filterMap_cons, hanswered, List.filterMap_nil]

theorem uploadControl_without (hc : c ≠ k) (s : Server) (u : Upload SubscribeRequest) :
    (s.without k).uploadControl (numberWithout k c) u =
      ((s.uploadControl c u).1.filterMap (Signal.without? k),
        (s.uploadControl c u).2.without k) := by
  unfold uploadControl
  rw [subscriber?_without hc, Option.isNone_map]
  split_ifs
  · rfl
  · rw [← settle_without]
    cases u with
    | message r => dsimp only; rw [control_without hc]
    | halfClose =>
      rw [dismiss_without hc]
      simp [Signal.without?, Signal.call, Signal.renumbered, hc]
    | broken =>
      rw [dismiss_without hc]
      simp [Signal.without?, Signal.call, Signal.renumbered, hc]
    | abandoned => rw [dismiss_without hc]; rfl

theorem openSubscription_without (hk : k < c) (s : Server) (header : Option HeaderValue) :
    (s.without k).openSubscription (c - 1) header =
      ((s.openSubscription c header).1, (s.openSubscription c header).2.without k) := by
  unfold openSubscription
  rw [loginOf_without, directory_without]
  cases s.loginOf header with
  | error r => rfl
  | ok login =>
    dsimp only
    split_ifs
    · rfl
    · have hne : c ≠ k := Nat.ne_of_gt hk
      simp [without, Subscriber.admitted, Subscriber.renumbered, hne, numberWithout_of_lt hk]

end Server

namespace Host

variable {h : Host}

/-- What comes of an action, but for what is said on call `k`. -/
def sparing (k : CallId) (x : Reply × List Signal × Host) : Reply × List Signal × Host :=
  (x.1.without k, x.2.1.filterMap (Signal.without? k), x.2.2.without k)

theorem act_without (hk : h.Idle k) {a b : Action} (hab : a.without? k = some b) :
    (h.without k).act b = sparing k (h.act a) := by
  have hnumber : h.nextCall - 1 + 1 = h.nextCall :=
    Nat.sub_add_cancel (Nat.one_le_of_lt hk.given)
  have hgap := numberWithout_of_lt hk.given
  cases a with
  | registerSensor r o =>
    obtain rfl := Option.some.inj hab
    simp only [act, without, sparing, Service.registerSensor, Server.registerSensor_without]
    rfl
  | registerClient r o =>
    obtain rfl := Option.some.inj hab
    simp only [act, without, sparing, Service.registerClient, Server.registerClient_without]
    rfl
  | logIn login password o =>
    obtain rfl := Option.some.inj hab
    rfl
  | roster tags =>
    obtain rfl := Option.some.inj hab
    rfl
  | history r =>
    obtain rfl := Option.some.inj hab
    rfl
  | openMeasurements header =>
    obtain rfl := Option.some.inj hab
    simp only [act, without, sparing, Reply.without, Server.run_openMeasurements_without hk.given,
      hgap, hnumber, Nat.add_sub_cancel]
  | uploadMeasurement c u o =>
    simp only [Action.without?] at hab
    split_ifs at hab with hc
    obtain rfl := Option.some.inj hab
    simp only [act, without, sparing, Service.uploadMeasurement,
      Server.uploadMeasurement_without hk.absent hc]
    rfl
  | openSubscription header =>
    obtain rfl := Option.some.inj hab
    simp only [act, without, sparing, Service.openSubscription, Reply.without,
      Server.openSubscription_without hk.given, hgap, hnumber, Nat.add_sub_cancel]
    cases (h.server.openSubscription h.nextCall header).1 <;> rfl
  | uploadControl c u =>
    simp only [Action.without?] at hab
    split_ifs at hab with hc
    obtain rfl := Option.some.inj hab
    simp only [act, without, sparing, Service.uploadControl,
      Server.uploadControl_without hc]
    rfl

/-- A step that is kept shows the same and leads to the same. -/
theorem step_without (hk : h.Idle k) {a b : Action} (hab : a.without? k = some b) :
    (h.step a).1.without? k = some ((h.without k).step b).1 ∧
      ((h.without k).step b).2 = (h.step a).2.without k := by
  have hact := act_without hk hab
  have hpublished : (h.without k).published b = h.published a := by
    rw [published, hact]
    rfl
  simp only [step, Moment.without?, hab, hact, hpublished, sparing, Option.map_some, and_self]

theorem dismiss_left_out (k : CallId) (s : Server) : (s.dismiss k).without k = s.without k := by
  unfold Server.dismiss Server.without
  dsimp only
  rw [List.filter_filter]
  simp only [Bool.and_self]

theorem control_left_out (k : CallId) (s : Server) (r : SubscribeRequest) :
    (∀ x ∈ (s.control k r).1, x.call = k) ∧ (s.control k r).2.without k = s.without k := by
  unfold Server.control
  cases hx : s.subscriber? k with
  | none => exact ⟨List.forall_mem_nil _, rfl⟩
  | some x =>
    have hcall : (x.control s.directory r).2.call = k :=
      (Subscriber.call_control r).trans (by simpa using List.find?_some hx)
    refine ⟨fun y hy => by rw [List.mem_singleton.mp hy]; rfl, ?_⟩
    unfold Server.without
    dsimp only
    congr 2
    induction s.subscribers with
    | nil => rfl
    | cons y cs ih =>
      rw [List.map_cons]
      by_cases hy : y.call = k
      · rw [if_pos hy, List.filter_cons_of_neg (by simpa using hcall),
          List.filter_cons_of_neg (by simpa using hy), ih]
      · rw [if_neg hy, List.filter_cons_of_pos (by simpa using hy),
          List.filter_cons_of_pos (by simpa using hy), ih]

/-- A delivery that only call `k` brings about is heard on call `k` only. -/
theorem settle_left_out {s : Server} (hs : ∀ c ∈ s.subscribers, c.Current s.directory)
    {r : List Signal × Server} (hsaid : ∀ x ∈ r.1, x.call = k) (hr : r.2.without k = s.without k) :
    (∀ x ∈ (Server.settle r).1, x.call = k) ∧ (Server.settle r).2.without k = s.without k := by
  have hidle : Server.settle ([], s) = ([], s) := by
    rw [settle_eq, deliveries_eq_nil hs, map_caughtUp_eq hs]
    rfl
  have hnone : r.1.filterMap (Signal.without? k) = [] :=
    List.filterMap_eq_nil_iff.mpr fun x hx => Signal.without?_of_eq (hsaid x hx)
  have hsettled := Server.settle_without k r
  rw [hnone, hr] at hsettled
  have hkept := Server.settle_without k ([], s)
  rw [hidle, List.filterMap_nil] at hkept
  rw [hkept, Prod.mk.injEq] at hsettled
  refine ⟨fun x hx => ?_, hsettled.2.symm⟩
  by_contra hne
  have hgone := List.filterMap_eq_nil_iff.mp hsettled.1.symm x hx
  rw [Signal.without?_of_ne hne] at hgone
  cases hgone

theorem uploadControl_left_out {s : Server} (hs : ∀ c ∈ s.subscribers, c.Current s.directory)
    (u : Upload SubscribeRequest) :
    (∀ x ∈ (s.uploadControl k u).1, x.call = k) ∧
      (s.uploadControl k u).2.without k = s.without k := by
  unfold Server.uploadControl
  split_ifs
  · exact ⟨List.forall_mem_nil _, rfl⟩
  · cases u with
    | message r =>
      obtain ⟨hsaid, hkept⟩ := control_left_out k s r
      exact settle_left_out hs hsaid hkept
    | halfClose =>
      refine settle_left_out hs ?_ (dismiss_left_out k s)
      simp [Signal.call]
    | broken =>
      refine settle_left_out hs ?_ (dismiss_left_out k s)
      simp [Signal.call]
    | abandoned => exact settle_left_out hs (List.forall_mem_nil _) (dismiss_left_out k s)

/-- A step that is left out is private to its call. -/
theorem step_left_out (hk : h.Idle k) (hh : h.Sound) (ha : h.Attentive) {a : Action}
    (hnone : a.without? k = none) :
    (h.step a).1.Private k ∧ (h.step a).2.without k = h.without k := by
  cases a with
  | uploadMeasurement c u o =>
    simp only [Action.without?] at hnone
    split_ifs at hnone with hc
    subst hc
    have hstep : h.step (.uploadMeasurement c u o) =
        (⟨.uploadMeasurement c u o, none, .nothing, []⟩, h) := by
      simp [step, act, Service.uploadMeasurement, Server.uploadMeasurement, published,
        Directory.publishedSince_self, hk.lookup_eq_none]
    rw [hstep]
    exact ⟨⟨rfl, List.forall_mem_nil _⟩, rfl⟩
  | uploadControl c u =>
    simp only [Action.without?] at hnone
    split_ifs at hnone with hc
    subst hc
    obtain ⟨hsaid, hkept⟩ := uploadControl_left_out (k := c) ha.current u
    exact ⟨⟨hh.published_eq _, hsaid⟩, congrArg (Host.mk · (h.nextCall - 1)) hkept⟩
  | _ => cases hnone

/-- A call that was not opened yet leaves nothing to be left out. -/
theorem without_unopened {s : Server} (hm : ∀ p ∈ s.measuring, p.1 < k)
    (hc : ∀ x ∈ s.subscribers, x.call < k) : s.without k = s := by
  have hmeasuring : s.measuring.map (fun p => (numberWithout k p.1, p.2)) = s.measuring := by
    refine (List.map_congr_left fun p hp => ?_).trans (List.map_id _)
    rw [numberWithout_of_le (Nat.le_of_lt (hm p hp))]
    rfl
  have hkept : s.subscribers.filter (·.call ≠ k) = s.subscribers :=
    List.filter_eq_self.mpr fun x hx => by simpa using Nat.ne_of_lt (hc x hx)
  have hsubscribers : s.subscribers.map (·.renumbered k) = s.subscribers := by
    refine (List.map_congr_left fun x hx => ?_).trans (List.map_id _)
    unfold Subscriber.renumbered
    rw [numberWithout_of_le (Nat.le_of_lt (hc x hx))]
    rfl
  unfold Server.without
  rw [hmeasuring, hkept, hsubscribers]

theorem idle_opening (hh : h.Sound) (header : Option HeaderValue) :
    (h.step (.openSubscription header)).2.Idle h.nextCall where
  given := by
    rw [nextCall_step]
    exact Nat.lt_succ_self _
  absent p hp := by
    rw [h.measuring_step_of_change?_eq_none rfl] at hp
    exact Nat.ne_of_lt (hh.numbered p hp)

/-- To open the call is private to it. -/
theorem opening_left_out (hh : h.Sound) (ha : h.Attentive) (header : Option HeaderValue) :
    (h.step (.openSubscription header)).1.Private h.nextCall ∧
      (h.step (.openSubscription header)).2.without h.nextCall = h := by
  refine ⟨⟨hh.published_eq _, List.forall_mem_nil _⟩, ?_⟩
  have hnumbered : ∀ x ∈ h.server.subscribers, x.call < h.nextCall :=
    fun x hx => ha.numbered _ (List.mem_map_of_mem hx)
  have hunopened : h.server.without h.nextCall = h.server :=
    without_unopened hh.numbered hnumbered
  have hserver : (h.server.openSubscription h.nextCall header).2.without h.nextCall =
      h.server := by
    unfold Server.openSubscription
    cases h.server.loginOf header with
    | error r => exact hunopened
    | ok login =>
      dsimp only
      split_ifs
      · exact hunopened
      · refine Eq.trans ?_ hunopened
        simp [Server.without, Subscriber.admitted]
  change Host.mk ((h.server.openSubscription h.nextCall header).2.without h.nextCall) _ = h
  rw [hserver]
  rfl

theorem run_without (hk : h.Idle k) (hh : h.Sound) (ha : h.Attentive) (as : List Action) :
    (h.without k).run (as.filterMap (Action.without? k)) =
      ((h.run as).1.filterMap (Moment.without? k), (h.after as).without k) := by
  induction as generalizing h with
  | nil => rfl
  | cons a as ih =>
    have hrest := ih (hk.step a) (hh.step a) (ha.step hh a)
    cases hab : a.without? k with
    | none =>
      have hgone : (h.step a).1.without? k = none := congrArg (Option.map _) hab
      rw [List.filterMap_cons_none hab, moments_cons, List.filterMap_cons_none hgone, after_cons,
        ← hrest, (step_left_out hk hh ha hab).2]
    | some b =>
      obtain ⟨hmoment, hnext⟩ := step_without hk hab
      rw [List.filterMap_cons_some hab, moments_cons, List.filterMap_cons_some hmoment, after_cons]
      simp only [run, hnext, hrest]

theorem private_run (hk : h.Idle k) (hh : h.Sound) (ha : h.Attentive) (as : List Action) :
    ∀ m ∈ (h.run as).1, m.action.without? k = none → m.Private k := by
  induction as generalizing h with
  | nil => exact List.forall_mem_nil _
  | cons a as ih =>
    intro m hm hnone
    rcases List.mem_cons.mp hm with rfl | hm
    · exact (step_left_out hk hh ha hnone).1
    · exact ih (hk.step a) (hh.step a) (ha.step hh a) m hm hnone

theorem heard_without (hc : c ≠ k) (xs : List Signal) :
    heard (numberWithout k c) (xs.filterMap (Signal.without? k)) =
      (heard c xs).map (Signal.renumbered k) := by
  induction xs with
  | nil => rfl
  | cons x xs ih =>
    rw [heard_cons]
    by_cases hx : x.call = k
    · have hne : x.call ≠ c := fun heq => hc (heq.symm.trans hx)
      rw [List.filterMap_cons_none (Signal.without?_of_eq hx), if_neg hne, ih]
    · have hcall : (x.renumbered k).call = numberWithout k x.call := by cases x <;> rfl
      rw [List.filterMap_cons_some (Signal.without?_of_ne hx), heard_cons, hcall, ih]
      simp only [numberWithout_inj hx hc]
      split_ifs <;> rfl

theorem signals_without (hk : h.Idle k) (hh : h.Sound) (ha : h.Attentive) (as : List Action) :
    (h.without k).signals (as.filterMap (Action.without? k)) =
      (h.signals as).filterMap (Signal.without? k) := by
  have hprivate := private_run hk hh ha as
  unfold signals
  rw [run_without hk hh ha]
  generalize (h.run as).1 = ms at hprivate
  induction ms with
  | nil => rfl
  | cons m ms ih =>
    have hrest := ih fun n hn => hprivate n (List.mem_cons_of_mem m hn)
    rw [List.flatMap_cons, List.filterMap_append, ← hrest]
    cases hab : m.action.without? k with
    | none =>
      have hgone : m.without? k = none := congrArg (Option.map _) hab
      have hsaid : m.signals.filterMap (Signal.without? k) = [] :=
        List.filterMap_eq_nil_iff.mpr fun x hx =>
          Signal.without?_of_eq ((hprivate m List.mem_cons_self hab).signals x hx)
      rw [List.filterMap_cons_none hgone, hsaid, List.nil_append]
    | some b =>
      have hkept : m.without? k = some
          ⟨b, m.published, m.reply.without k, m.signals.filterMap (Signal.without? k)⟩ :=
        congrArg (Option.map _) hab
      rw [List.filterMap_cons_some hkept, List.flatMap_cons]

theorem run_append (h : Host) (as bs : List Action) :
    h.run (as ++ bs) =
      ((h.run as).1 ++ ((h.after as).run bs).1, ((h.after as).run bs).2) := by
  induction as generalizing h with
  | nil => rfl
  | cons a as ih =>
    rw [List.cons_append]
    simp only [run, ih]
    rfl

/-- A subscription call can be taken out of a run, with all that happens on it. Its own steps are
private to it. All others are answered and told the same, and the sensors and the accounts are the
same after each of their steps. -/
theorem run_without_subscriber (issuer : Issuer) (historyCapacity eventBuffer : Nat)
    (as bs : List Action) (header : Option HeaderValue) :
    let start := fresh issuer historyCapacity eventBuffer
    let before := start.after as
    let k := before.nextCall
    let opened := before.step (.openSubscription header)
    let rest := bs.filterMap (Action.without? k)
    (opened.1.Private k ∧
      ∀ m ∈ (opened.2.run bs).1, m.action.without? k = none → m.Private k) ∧
    ((start.run (as ++ .openSubscription header :: bs)).1 =
        (start.run as).1 ++ opened.1 :: (opened.2.run bs).1 ∧
      (start.run (as ++ rest)).1 =
        (start.run as).1 ++ (opened.2.run bs).1.filterMap (Moment.without? k)) ∧
    (∀ c, c ≠ k → heard (numberWithout k c) (before.signals rest) =
      (heard c (opened.2.signals bs)).map (Signal.renumbered k)) ∧
    ∀ n,
      let whole := start.after (as ++ .openSubscription header :: bs.take n)
      let spared := start.after (as ++ (bs.take n).filterMap (Action.without? k))
      spared = whole.without k ∧ spared.server.directory = whole.server.directory ∧
        spared.server.accounts = whole.server.accounts := by
  intro start before k opened rest
  have hh : before.Sound := (sound_fresh issuer historyCapacity eventBuffer).after as
  have ha : before.Attentive := (attentive_fresh issuer historyCapacity eventBuffer).after
    (sound_fresh issuer historyCapacity eventBuffer) as
  have hk : opened.2.Idle k := idle_opening hh header
  have hopened : opened.2.Sound := hh.step _
  have hcurrent : opened.2.Attentive := ha.step hh _
  obtain ⟨hprivate, hbefore⟩ := opening_left_out hh ha header
  have hrun (cs : List Action) : before.run (cs.filterMap (Action.without? k)) =
      ((opened.2.run cs).1.filterMap (Moment.without? k), (opened.2.after cs).without k) := by
    rw [← run_without hk hopened hcurrent]
    exact congrArg (run · _) hbefore.symm
  refine ⟨⟨hprivate, private_run hk hopened hcurrent bs⟩, ⟨?_, ?_⟩, ?_, ?_⟩
  · rw [run_append]
    rfl
  · rw [run_append]
    exact congrArg (_ ++ Prod.fst ·) (hrun bs)
  · intro c hc
    rw [← heard_without hc, ← signals_without hk hopened hcurrent]
    exact congrArg (fun x => heard _ (signals x _)) hbefore.symm
  · intro n whole spared
    have hspared : spared = whole.without k := by
      change start.after _ = (start.after _).without k
      rw [after_append, after_append]
      exact congrArg Prod.snd (hrun (bs.take n))
    rw [hspared]
    exact ⟨rfl, rfl, rfl⟩

end Host
end SensorRelay
