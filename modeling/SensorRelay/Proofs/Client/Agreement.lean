import SensorRelay.Proofs.Network.Hosted
import SensorRelay.Proofs.Server.Relay
import Mathlib.Data.List.Find

/-!
# The two subscription sets

A session keeps the texts that it asked for on its open stream, the server the sensors that it
forwards there. Both sets follow from the control frames alone, but not in the same way: the session
goes by the text, at once, and the server by the sensor that the text names, if there is one yet.
-/

namespace SensorRelay

open Auth Client Rpc

/-- A control frame that was sent, and the registered sensor that it named then. -/
structure Sent where
  request : SubscribeRequest
  found : Option Uuid

namespace Sent

def named (e : Sent) : Option Uuid :=
  Uuid.parse? e.request.sensorId

/-- What the server forwards after the frame. -/
def applied (e : Sent) (f : Finset Uuid) : Finset Uuid :=
  match e.found with
  | none => f
  | some id => if e.request.disconnect then f.erase id else insert id f

variable {e : Sent} {f : Finset Uuid} {id : Uuid}

theorem mem_applied_iff :
    id ∈ e.applied f ↔ if e.found = some id then e.request.disconnect = false else id ∈ f := by
  unfold applied
  cases he : e.found with
  | none => simp
  | some j =>
    by_cases hj : j = id
    · cases hd : e.request.disconnect <;> simp [hj]
    · cases hd : e.request.disconnect <;> simp [hj, Ne.symm hj]

/-- The last frame that found a sensor decides whether it is forwarded. -/
theorem mem_foldr_applied_iff (t : List Sent) (id : Uuid) :
    id ∈ t.foldr applied ∅ ↔
      (t.find? (·.found = some id)).any (!·.request.disconnect) = true := by
  induction t with
  | nil => simp
  | cons e t ih =>
    rw [List.foldr_cons, mem_applied_iff, List.find?_cons]
    by_cases he : e.found = some id
    · simp [he]
    · simp [he, ih]

/-- The verdict on a frame moves on the set as the frame does. -/
theorem next_verdict (registered : Uuid → Bool) (f : Finset Uuid) (r : SubscribeRequest) :
    (Verdict.of registered f r).next f =
      applied ⟨r, (Uuid.parse? r.sensorId).filter registered⟩ f := by
  unfold Verdict.of applied
  dsimp only
  cases (Uuid.parse? r.sensorId).filter registered with
  | none => rfl
  | some id =>
    dsimp only
    by_cases hid : id ∈ f
    · cases r.disconnect <;> simp [hid, Verdict.next]
    · cases r.disconnect <;> simp [hid, Verdict.next]

end Sent

/-- Nothing is handed out on a control frame but the answer to it. -/
theorem Host.Attentive.signals_uploadControl {h : Host} (ha : h.Attentive) (hh : h.Sound)
    (k : CallId) (u : Upload SubscribeRequest) :
    (h.step (.uploadControl k u)).1.signals = (h.direct (.uploadControl k u)).1 := by
  have hdirectory : (h.step (.uploadControl k u)).2.server.directory = h.server.directory :=
    h.directory_step_eq rfl (by simp)
  rw [(Host.settle_step hh ha _).1, hdirectory, Host.deliveries_eq_nil (ha.current_direct hh _),
    List.append_nil]

namespace Network

variable {name : String} {n : Network Server} {t : List Sent} {a : ActiveStream}

/-- What is done with a session, and what others do with its server. -/
inductive Deed
  | openSession (token : Token)
  | control (token : Token) (r : SubscribeRequest)
  | close
  | elsewhere (a : Action)

/-- The registered sensor that a control frame names. -/
def found (n : Network Server) (r : SubscribeRequest) : Option Uuid :=
  (Uuid.parse? r.sensorId).filter n.service.directory.has

namespace Deed

def perform (name : String) : Deed → NetworkM Server Unit
  | openSession token => do
    let _ ← Network.openSession name token
  | control token r => do
    let _ ← Network.control name token r
  | close => do
    let _ ← Network.close name
  | elsewhere a => Network.elsewhere a

/-- The frames on the open stream after a deed, newest first. -/
def sent (name : String) (n : Network Server) (t : List Sent) : Deed → List Sent
  | openSession _ | elsewhere _ => t
  | control token r =>
    if (((Network.control name token r).run n).2.session name).isOpen then ⟨r, n.found r⟩ :: t
    else t
  | close => []

end Deed

def played (name : String) (ds : List Deed) (n : Network Server) : Network Server :=
  ds.foldl (fun n d => ((d.perform name).run n).2) n

theorem played_append (name : String) (ds es : List Deed) (n : Network Server) :
    played name (ds ++ es) n = played name es (played name ds n) :=
  List.foldl_append

/-- The frames on the open stream after some deeds. -/
def transcript (name : String) : List Deed → Network Server → List Sent → List Sent
  | [], _, t => t
  | d :: ds, n, t => transcript name ds ((d.perform name).run n).2 (d.sent name n t)

/-- The one call of the network is that of the open stream, and both sets are what its frames make
of them. A sensor that was found once is found by every later frame that names it. -/
structure Tracks (name : String) (n : Network Server) (t : List Sent) : Prop where
  sound : n.host.Sound
  attentive : n.host.Attentive
  owner : ∀ k, n.owners.lookup k =
    ((n.session name).active.filter (·.call = k)).map fun a => .session name a.generation
  idle : (n.session name).active = none → t = []
  asked : ∀ a, (n.session name).active = some a →
    a.subscriptions = (t.map (·.request)).foldr remember []
  followed : ∀ a, (n.session name).active = some a →
    n.host.followed? a.call = some (t.foldr Sent.applied ∅)
  found : ∀ e ∈ t, ∀ id, e.found = some id →
    e.named = some id ∧ n.service.directory.has id = true
  lasting : t.Pairwise fun newer older =>
    ∀ id, older.found = some id → newer.named = some id → newer.found = some id

theorem has_step {h : Host} (hh : h.Sound) (a : Action) {id : Uuid}
    (hid : h.server.directory.has id = true) : (h.step a).2.server.directory.has id = true :=
  hh.isSome_get?_step a hid

theorem tracks_of_closed (hsound : n.host.Sound) (hattentive : n.host.Attentive)
    (ha : (n.session name).active = none) (howner : ∀ k, n.owners.lookup k = none) :
    Tracks name n [] where
  sound := hsound
  attentive := hattentive
  owner k := by
    rw [howner, ha]
    rfl
  idle _ := rfl
  asked a ha' := by
    rw [ha] at ha'
    cases ha'
  followed a ha' := by
    rw [ha] at ha'
    cases ha'
  found := List.forall_mem_nil _
  lasting := List.Pairwise.nil

namespace Tracks

variable (h : Tracks name n t)

include h

theorem with_log (log : List Report) : Tracks name { n with log := log } t :=
  ⟨h.sound, h.attentive, h.owner, h.idle, h.asked, h.followed, h.found, h.lasting⟩

theorem lookup_of_active (ha : (n.session name).active = some a) :
    n.owners.lookup a.call = some (.session name a.generation) := by
  rw [h.owner, ha]
  simp

/-- Only frames come back on the stream until its request half ends. -/
theorem frames {b : Action} (hb : ∀ a u, (n.session name).active = some a →
      b = .uploadControl a.call u → ∃ r, u = .message r) :
    ∀ x ∈ (n.host.step b).1.signals,
      n.owners.lookup x.call = none ∨ ∃ f, x = .frame x.call f := by
  intro x hx
  cases ha : (n.session name).active with
  | none =>
    left
    rw [h.owner, ha]
    rfl
  | some a =>
    by_cases hcall : a.call = x.call
    · right
      have hheard := h.attentive.heard_step_of_followed? h.sound b (h.followed a ha)
      have hmem : x ∈ heard a.call (n.host.step b).1.signals :=
        List.mem_filter.mpr ⟨hx, by simpa using hcall.symm⟩
      rw [hheard, hcall] at hmem
      rcases List.mem_append.mp hmem with hmem | hmem
      · cases b with
        | uploadControl call u =>
          dsimp only at hmem
          split_ifs at hmem with hown
          · obtain ⟨r, rfl⟩ := hb a u ha (by rw [hown, hcall])
            rw [List.mem_singleton.mp hmem]
            exact ⟨_, rfl⟩
          · cases hmem
        | _ => cases hmem
      · unfold Host.forwarded at hmem
        split at hmem
        · split_ifs at hmem
          · rw [List.mem_singleton.mp hmem]
            exact ⟨_, rfl⟩
          · cases hmem
        · cases hmem
    · left
      rw [h.owner, ha, Option.filter_some, if_neg (by simpa using hcall)]
      rfl

theorem stepped {b : Action}
    (hb : ∀ a u, (n.session name).active = some a → b ≠ .uploadControl a.call u) :
    Tracks name (n.stepped b) t where
  sound := h.sound.step b
  attentive := h.attentive.step h.sound b
  owner := h.owner
  idle := h.idle
  asked := h.asked
  followed a ha :=
    (h.attentive.step_elsewhere h.sound (h.followed a ha) fun u => hb a u ha).1
  found e he id hid := ⟨(h.found e he id hid).1, has_step h.sound b (h.found e he id hid).2⟩
  lasting := h.lasting

theorem elsewhere_cases (b : Action) :
    (b.call?.any n.isLive = true ∧ ((Network.elsewhere b).run n).2 = n) ∨
    ((∀ a u, (n.session name).active = some a → b ≠ .uploadControl a.call u) ∧
      ∃ log, ((Network.elsewhere b).run n).2 = { n.stepped b with log := log }) := by
  rw [run_elsewhere]
  split_ifs with hlive
  · exact .inl ⟨hlive, rfl⟩
  · have hb : ∀ a u, (n.session name).active = some a → b ≠ .uploadControl a.call u := by
      rintro a u ha rfl
      refine hlive ?_
      simp [Action.call?, isLive, h.lookup_of_active ha]
    exact .inr ⟨hb, receiveAll_frames (n := n.stepped b)
      (h.frames fun a u ha heq => absurd heq (hb a u ha))⟩

theorem elsewhere (b : Action) : Tracks name ((Network.elsewhere b).run n).2 t := by
  rcases h.elsewhere_cases b with ⟨-, hsame⟩ | ⟨hb, log, hlog⟩
  · rw [hsame]
    exact h
  · rw [hlog]
    exact (h.stepped hb).with_log log

theorem unowned (ha : (n.session name).active = none) (k : CallId) :
    n.owners.lookup k = none := by
  rw [h.owner, ha]
  rfl

theorem refused (ha : (n.session name).active = none) {header : Option HeaderValue} :
    Tracks name
      (n.withoutStream (n.host.step (.openSubscription header)).2.server) t where
  sound := h.sound.step (.openSubscription header)
  attentive := h.attentive.step h.sound (.openSubscription header)
  owner k := by
    change (n.owners.filter (·.1 ≠ n.nextCall)).lookup k = ((n.session name).active.filter _).map _
    rw [lookup_filter_ne, h.unowned ha, ha, ite_self]
    rfl
  idle := h.idle
  asked := h.asked
  followed a ha' := by
    change (n.session name).active = some a at ha'
    rw [ha] at ha'
    cases ha'
  found e he := by
    rw [h.idle ha] at he
    cases he
  lasting := h.lasting

/-- A stream that opens follows nothing, and nothing was asked on it. -/
theorem opened (ha : (n.session name).active = none) {header : Option HeaderValue}
    (hadmits : n.host.admits header = true) :
    Tracks name
      (n.withStream name (n.host.step (.openSubscription header)).2.server) t := by
  have hnil := h.idle ha
  subst hnil
  have hactive : ((n.withStream name (n.host.step (.openSubscription header)).2.server).session
      name).active = some ⟨(n.session name).opened + 1, n.nextCall, []⟩ := by
    rw [session_withStream]
    rfl
  refine ⟨h.sound.step (.openSubscription header),
    h.attentive.step h.sound (.openSubscription header), fun k => ?_, fun _ => rfl, fun a ha' => ?_,
    fun a ha' => ?_, List.forall_mem_nil _, List.Pairwise.nil⟩
  · rw [hactive]
    change ((n.nextCall, Owner.session name ((n.session name).opened + 1)) ::
      n.owners).lookup k = _
    by_cases hk : k = n.nextCall
    · subst hk
      rw [List.lookup_cons_self, Option.filter_some, if_pos (by simp)]
      rfl
    · have hne : (k == n.nextCall) = false := by simpa using hk
      rw [List.lookup_cons, hne, h.unowned ha, Option.filter_some,
        if_neg (by simpa using Ne.symm hk)]
      rfl
  · rw [hactive] at ha'
    obtain rfl := Option.some.inj ha'
    rfl
  · rw [hactive] at ha'
    obtain rfl := Option.some.inj ha'
    have hfollowed := h.attentive.followed?_step h.sound (.openSubscription header) n.nextCall
    exact hfollowed.trans (if_pos ⟨rfl, hadmits⟩)

theorem ensureOpen (token : Token) :
    (((n.session name).isOpen || n.takes token) = false ∧
      ∃ e n', (ensureOpen name token).run n = (.error e, n') ∧
        (n'.session name).active = none ∧ n'.service.directory = n.service.directory ∧
        Tracks name n' t) ∨
    (((n.session name).isOpen || n.takes token) = true ∧
      ∃ outcome n', (ensureOpen name token).run n = (.ok (outcome, []), n') ∧
        (n'.session name).active.isSome ∧ n'.service.directory = n.service.directory ∧
        Tracks name n' t) := by
  have hrun : (Network.ensureOpen name token).run n =
      if (n.session name).isOpen then (.ok (.reused, []), n)
      else (((connect name token).run n).1.map (.opened, ·), ((connect name token).run n).2) := by
    simp only [Network.ensureOpen, StateT.run_bind, StateT.run_get, pure_bind]
    split_ifs <;> rfl
  rw [hrun]
  cases ha : (n.session name).active with
  | some a =>
    have hopen : (n.session name).isOpen = true := by rw [SubscriptionSession.isOpen, ha]; rfl
    rw [if_pos hopen, hopen]
    exact .inr ⟨rfl, .reused, n, rfl, by rw [ha]; rfl, rfl, h⟩
  | none =>
    have hopen : (n.session name).isOpen = false := by rw [SubscriptionSession.isOpen, ha]; rfl
    have hsame (header : Option HeaderValue) :
        (n.host.step (.openSubscription header)).2.server.directory = n.service.directory :=
      n.host.directory_step_eq rfl (by simp)
    rw [if_neg (by simp [hopen]), hopen, Bool.false_or]
    rcases connect_server name token n with
      ⟨htakes, e, n', hconnect, rfl | ⟨header, rfl⟩⟩ | ⟨htakes, header, hadmits, hconnect⟩
    · rw [hconnect]
      exact .inl ⟨htakes, e, n', rfl, ha, rfl, h⟩
    · rw [hconnect]
      exact .inl ⟨htakes, e, _, rfl, ha, hsame header, h.refused ha⟩
    · rw [hconnect]
      refine .inr ⟨htakes, .opened, _, rfl, ?_, hsame header, h.opened ha hadmits⟩
      rw [session_withStream]
      rfl

theorem sent (ha : (n.session name).active = some a) (r : SubscribeRequest) :
    Tracks name ((n.stepped (.uploadControl a.call (.message r))).setSession name
      ((n.session name).controlled r)) (⟨r, n.found r⟩ :: t) := by
  have hactive : (((n.stepped (.uploadControl a.call (.message r))).setSession name
      ((n.session name).controlled r)).session name).active =
        some { a with subscriptions := remember r a.subscriptions } := by
    rw [session_setSession, SubscriptionSession.controlled, ha]
    rfl
  have hstep := h.attentive.followed?_step h.sound (.uploadControl a.call (.message r)) a.call
  rw [h.followed a ha] at hstep
  constructor
  case sound => exact h.sound.step (.uploadControl a.call (.message r))
  case attentive => exact h.attentive.step h.sound (.uploadControl a.call (.message r))
  case owner =>
    intro k
    rw [hactive]
    refine (h.owner k).trans ?_
    rw [ha, Option.filter_some, Option.filter_some]
    split_ifs <;> rfl
  case idle =>
    intro hnone
    rw [hactive] at hnone
    cases hnone
  case asked =>
    intro b hb
    rw [hactive] at hb
    obtain rfl := Option.some.inj hb
    rw [List.map_cons, List.foldr_cons, ← h.asked a ha]
  case followed =>
    intro b hb
    rw [hactive] at hb
    obtain rfl := Option.some.inj hb
    rw [List.foldr_cons, Network.found, ← Sent.next_verdict]
    exact hstep.trans (if_pos rfl)
  case found =>
    intro e he id hid
    rcases List.mem_cons.mp he with rfl | he
    · obtain ⟨hnamed, hhas⟩ := Option.filter_eq_some_iff.mp hid
      exact ⟨hnamed, has_step h.sound _ hhas⟩
    · exact ⟨(h.found e he id hid).1, has_step h.sound _ (h.found e he id hid).2⟩
  case lasting =>
    refine List.pairwise_cons.mpr ⟨?_, h.lasting⟩
    intro e he id hid hnamed
    exact Option.filter_eq_some_iff.mpr ⟨hnamed, (h.found e he id hid).2⟩

omit h in
theorem run_sendControl_open (ha : (n.session name).active = some a) (r : SubscribeRequest) :
    (sendControl name r).run n =
      ((n.host.step (.uploadControl a.call (.message r))).1.signals,
        (n.stepped (.uploadControl a.call (.message r))).setSession name
          ((n.session name).controlled r)) := by
  rw [run_sendControl, ha]
  rfl

theorem received (ha : (n.session name).active = some a) (r : SubscribeRequest) :
    ∃ log, ((receiveAll ((sendControl name r).run n).1).run ((sendControl name r).run n).2).2 =
      { (n.stepped (.uploadControl a.call (.message r))).setSession name
          ((n.session name).controlled r) with log := log } := by
  rw [run_sendControl_open ha]
  refine receiveAll_frames (h.frames (b := .uploadControl a.call (.message r)) ?_)
  intro b u _ heq
  exact ⟨r, (Action.uploadControl.inj heq).2.symm⟩

/-- A frame is sent exactly if there is an open stream for it. It changes no sensor. -/
theorem control (token : Token) (r : SubscribeRequest) :
    let n' := ((Network.control name token r).run n).2
    (n'.session name).isOpen = ((n.session name).isOpen || n.takes token) ∧
      n'.service.directory = n.service.directory ∧
      Tracks name n' (Deed.sent name n t (.control token r)) := by
  intro n'
  have hrun := run_control name token r n
  rcases h.ensureOpen token with
    ⟨htakes, e, m, hensure, ha, hd, hm⟩ | ⟨htakes, outcome, m, hensure, ha, hd, hm⟩
  · have hafter : n' = m := by
      change ((Network.control name token r).run n).2 = m
      rw [hrun, hensure]
    have hclosed : (n'.session name).isOpen = false := by
      rw [hafter, SubscriptionSession.isOpen, ha]
      rfl
    refine ⟨hclosed.trans htakes.symm, by rw [hafter, hd], ?_⟩
    rw [Deed.sent, if_neg (by rw [hclosed]; exact Bool.false_ne_true), hafter]
    exact hm
  · obtain ⟨a, ha⟩ := Option.isSome_iff_exists.mp ha
    obtain ⟨log, hlog⟩ := hm.received ha r
    have hafter : n' = { (m.stepped (.uploadControl a.call (.message r))).setSession name
        ((m.session name).controlled r) with log := log } := by
      change ((Network.control name token r).run n).2 = _
      rw [hrun, hensure]
      exact hlog
    have hopen : (n'.session name).isOpen = true := by
      rw [hafter]
      change (((m.stepped (.uploadControl a.call (.message r))).setSession name
        ((m.session name).controlled r)).session name).isOpen = true
      rw [session_setSession, SubscriptionSession.isOpen, SubscriptionSession.controlled, ha]
      rfl
    have hfound : n.found r = m.found r := by
      unfold Network.found
      rw [hd]
    refine ⟨hopen.trans htakes.symm, ?_, ?_⟩
    · rw [hafter]
      have hsame : (m.host.step (.uploadControl a.call (.message r))).2.server.directory =
          m.service.directory := m.host.directory_step_eq rfl (by simp)
      exact hsame.trans hd
    · rw [Deed.sent, if_pos hopen, hafter, hfound]
      exact (hm.sent ha r).with_log log

theorem openSession (token : Token) :
    Tracks name ((Network.openSession name token).run n).2 t := by
  rw [run_openSession]
  rcases h.ensureOpen token with ⟨-, e, n', hrun, -, -, hn'⟩ | ⟨-, outcome, n', hrun, -, -, hn'⟩
  · rw [hrun]
    exact hn'
  · rw [hrun]
    exact hn'

theorem signals_halfClose (ha : (n.session name).active = some a) :
    (n.host.step (.uploadControl a.call .halfClose)).1.signals =
      [.frame a.call (some Server.farewell), .ended a.call] := by
  obtain ⟨c, hc, -⟩ := Option.map_eq_some_iff.mp (h.followed a ha)
  rw [h.attentive.signals_uploadControl h.sound]
  simp only [Host.direct, hc, Option.isNone_some, Bool.false_eq_true, if_false]

theorem close : Tracks name ((Network.close name).run n).2 [] := by
  rw [run_close]
  cases ha : (n.session name).active with
  | none =>
    refine tracks_of_closed h.sound h.attentive ?_ (h.unowned ha)
    exact (congrArg SubscriptionSession.active (session_setSession name _ n)).trans rfl
  | some a =>
    let m := (n.stepped (.uploadControl a.call .halfClose)).setSession name (n.session name).close.2
    change Tracks name
      ((receiveAll (n.host.step (.uploadControl a.call .halfClose)).1.signals).run m).2 []
    rw [h.signals_halfClose ha]
    obtain ⟨log, hlog⟩ := receive_frame a.call (some Server.farewell) m
    have howner : ({ m with log := log } : Network Server).owners.lookup a.call = _ :=
      h.lookup_of_active ha
    change Tracks name ((receive (.ended a.call)).run
      ((receive (.frame a.call (some Server.farewell))).run m).2).2 []
    rw [hlog, receive_ended howner]
    have hh := h.sound.step (.uploadControl a.call .halfClose)
    have hattentive := h.attentive.step h.sound (.uploadControl a.call .halfClose)
    refine tracks_of_closed (hh.step (.uploadControl a.call .abandoned))
      (hattentive.step hh (.uploadControl a.call .abandoned)) ?_ fun k => ?_
    · change ((hand (.session name a.generation) (.ended a.call) { m with log := log }).session
        name).active = none
      have hclosed : ({ m with log := log } : Network Server).session name =
          (n.session name).close.2 := session_setSession name _ _
      rw [session_hand, hclosed]
      rfl
    · change (n.owners.filter (·.1 ≠ a.call)).lookup k = none
      rw [lookup_filter_ne, h.owner, ha, Option.filter_some]
      split_ifs with hk hcall
      · rfl
      · exact absurd (by simpa using hcall) (Ne.symm hk)
      · rfl

theorem perform (d : Deed) :
    Tracks name ((d.perform name).run n).2 (d.sent name n t) := by
  cases d with
  | openSession token => exact h.openSession token
  | control token r => exact (h.control token r).2.2
  | close => exact h.close
  | elsewhere b => exact h.elsewhere b

theorem played (ds : List Deed) :
    Tracks name (Network.played name ds n) (transcript name ds n t) := by
  induction ds generalizing n t with
  | nil => exact h
  | cons d ds ih => exact ih (h.perform d)

end Tracks

/-- The sensors that the server forwards on the open stream of a session. -/
def forwarded? (name : String) (n : Network Server) : Option (Finset Uuid) :=
  (n.session name).active.bind fun a => n.host.followed? a.call

/-- Do both sets name the same registered sensors, and the session none of them twice? -/
def SetsMatch (name : String) (n : Network Server) : Prop :=
  ∀ f, n.forwarded? name = some f →
    (∀ id, n.service.directory.has id = true →
      (id ∈ f ↔ ∃ text ∈ (n.session name).subscriptions, Uuid.parse? text = some id)) ∧
    ∀ text ∈ (n.session name).subscriptions, ∀ other ∈ (n.session name).subscriptions,
      ∀ id, Uuid.parse? text = some id → Uuid.parse? other = some id → text = other

/-- All frames that name the sensor spell its id in the same way. -/
def SpelledOnce (t : List Sent) (id : Uuid) : Prop :=
  ∀ e ∈ t, ∀ e' ∈ t, e.named = some id → e'.named = some id →
    e.request.sensorId = e'.request.sensorId

/-- If the last frame that names the sensor subscribes, then the sensor was registered. -/
def FoundLast (t : List Sent) (id : Uuid) : Prop :=
  ∀ e, t.find? (·.named = some id) = some e → e.request.disconnect = false → e.found = some id

/-- How the two sets stand to the frames on the open stream, and to each other. -/
structure Agreement (name : String) (n : Network Server) (t : List Sent) : Prop where
  isOpen : (n.session name).isOpen = (n.forwarded? name).isSome
  forwarded : ∀ f, n.forwarded? name = some f → ∀ id,
    id ∈ f ↔ (t.find? (·.found = some id)).any (!·.request.disconnect) = true
  subscribed : ∀ text, text ∈ (n.session name).subscriptions ↔
    (t.find? (·.request.sensorId = text)).any (!·.request.disconnect) = true
  nodup : (n.session name).subscriptions.Nodup
  named : ∀ f, n.forwarded? name = some f → ∀ id ∈ f, n.service.directory.has id = true ∧
    ∃ text ∈ (n.session name).subscriptions, Uuid.parse? text = some id
  same : ∀ f, n.forwarded? name = some f → ∀ id, SpelledOnce t id → FoundLast t id →
    (id ∈ f ↔ ∃ text ∈ (n.session name).subscriptions, Uuid.parse? text = some id)
  once : ∀ id, SpelledOnce t id → ∀ text ∈ (n.session name).subscriptions,
    ∀ other ∈ (n.session name).subscriptions,
      Uuid.parse? text = some id → Uuid.parse? other = some id → text = other

end Network

namespace Sent

variable {t : List Sent} {e : Sent} {id : Uuid}

theorem find?_text (hlasting : t.Pairwise fun newer older =>
      ∀ id, older.found = some id → newer.named = some id → newer.found = some id)
    (hfound : ∀ e ∈ t, ∀ id, e.found = some id → e.named = some id)
    (he : t.find? (·.found = some id) = some e) :
    t.find? (·.request.sensorId = e.request.sensorId) = some e := by
  induction t with
  | nil => cases he
  | cons x t ih =>
    rw [List.pairwise_cons] at hlasting
    rw [List.find?_cons] at he ⊢
    by_cases hx : x.found = some id
    · simp only [hx, decide_true, Option.some.injEq] at he
      subst he
      simp
    · simp only [hx, decide_false] at he
      have hmem := List.mem_of_find?_eq_some he
      have hefound : e.found = some id := by simpa using List.find?_some he
      have hne : x.request.sensorId ≠ e.request.sensorId := by
        intro heq
        refine hx (hlasting.1 e hmem id hefound ?_)
        rw [named, heq]
        exact hfound e (List.mem_cons_of_mem x hmem) id hefound
      simp only [hne, decide_false]
      exact ih hlasting.2 (fun y hy => hfound y (List.mem_cons_of_mem x hy)) he

theorem find?_named (honce : Network.SpelledOnce t id) {text : String}
    (htext : Uuid.parse? text = some id) (he : t.find? (·.request.sensorId = text) = some e) :
    t.find? (·.named = some id) = some e := by
  have hmem := List.mem_of_find?_eq_some he
  have hspelled : e.request.sensorId = text := by simpa using List.find?_some he
  have hnamed : e.named = some id := by rw [named, hspelled, htext]
  rw [← he]
  refine List.find?_congr fun x hx => decide_eq_decide.mpr ⟨fun hid => ?_, fun heq => ?_⟩
  · rw [← hspelled]
    exact honce x hx e hmem hid hnamed
  · rw [named, heq, htext]

theorem find?_found (hfound : ∀ e ∈ t, ∀ id, e.found = some id → e.named = some id)
    (he : t.find? (·.named = some id) = some e) (hid : e.found = some id) :
    t.find? (·.found = some id) = some e := by
  induction t with
  | nil => cases he
  | cons x t ih =>
    rw [List.find?_cons] at he ⊢
    by_cases hx : x.named = some id
    · simp only [hx, decide_true, Option.some.injEq] at he
      subst he
      simp [hid]
    · simp only [hx, decide_false] at he
      have hne : x.found ≠ some id := fun heq => hx (hfound x List.mem_cons_self id heq)
      simp only [hne, decide_false]
      exact ih (fun y hy => hfound y (List.mem_cons_of_mem x hy)) he

end Sent

namespace Network

variable {name : String} {n : Network Server} {t : List Sent}

namespace Tracks

variable (h : Tracks name n t)

include h

theorem forwarded?_eq : n.forwarded? name =
    if (n.session name).isOpen then some (t.foldr Sent.applied ∅) else none := by
  unfold forwarded? SubscriptionSession.isOpen
  cases ha : (n.session name).active with
  | none => rfl
  | some a => exact h.followed a ha

theorem mem_subscriptions_iff (text : String) : text ∈ (n.session name).subscriptions ↔
    (t.find? (·.request.sensorId = text)).any (!·.request.disconnect) = true := by
  unfold SubscriptionSession.subscriptions
  rw [List.mem_mergeSort]
  cases ha : (n.session name).active with
  | none => simp [h.idle ha]
  | some a =>
    rw [Option.elim_some, h.asked a ha, mem_foldr_remember_iff, List.find?_map, Option.any_map]
    rfl

theorem nodup_subscriptions : (n.session name).subscriptions.Nodup := by
  unfold SubscriptionSession.subscriptions
  rw [(List.mergeSort_perm _ _).nodup_iff]
  cases ha : (n.session name).active with
  | none => exact List.nodup_nil
  | some a =>
    rw [Option.elim_some, h.asked a ha]
    exact nodup_foldr_remember _

theorem eq_of_forwarded? {f : Finset Uuid} (hf : n.forwarded? name = some f) :
    t.foldr Sent.applied ∅ = f := by
  rw [h.forwarded?_eq] at hf
  split_ifs at hf
  exact Option.some.inj hf

theorem named_of_found : ∀ e ∈ t, ∀ id, e.found = some id → e.named = some id :=
  fun e he id hid => (h.found e he id hid).1

theorem mem_foldr_of_subscribed {id : Uuid} (honce : SpelledOnce t id) (hlast : FoundLast t id)
    {text : String} (htext : text ∈ (n.session name).subscriptions)
    (hid : Uuid.parse? text = some id) : id ∈ t.foldr Sent.applied ∅ := by
  obtain ⟨e, he, hsubscribes⟩ :=
    (Option.any_eq_true _ _).mp ((h.mem_subscriptions_iff text).mp htext)
  have hnamed := Sent.find?_named honce hid he
  have hfound := hlast e hnamed (by simpa using hsubscribes)
  rw [Sent.mem_foldr_applied_iff, Sent.find?_found h.named_of_found hnamed hfound]
  exact hsubscribes

theorem exists_text_of_mem {id : Uuid} (hid : id ∈ t.foldr Sent.applied ∅) :
    n.service.directory.has id = true ∧
      ∃ text ∈ (n.session name).subscriptions, Uuid.parse? text = some id := by
  rw [Sent.mem_foldr_applied_iff] at hid
  obtain ⟨e, he, hsubscribes⟩ := (Option.any_eq_true _ _).mp hid
  obtain ⟨hnamed, hhas⟩ :=
    h.found e (List.mem_of_find?_eq_some he) id (by simpa using List.find?_some he)
  refine ⟨hhas, e.request.sensorId, (h.mem_subscriptions_iff _).mpr ?_, hnamed⟩
  rw [Sent.find?_text h.lasting h.named_of_found he]
  exact hsubscribes

theorem agreement : Agreement name n t where
  isOpen := by
    rw [h.forwarded?_eq]
    cases (n.session name).isOpen <;> rfl
  forwarded f hf id := by
    rw [← h.eq_of_forwarded? hf]
    exact Sent.mem_foldr_applied_iff t id
  subscribed := h.mem_subscriptions_iff
  nodup := h.nodup_subscriptions
  named f hf id hid := by
    rw [← h.eq_of_forwarded? hf] at hid
    exact h.exists_text_of_mem hid
  same f hf id honce hlast := by
    rw [← h.eq_of_forwarded? hf]
    refine ⟨fun hid => (h.exists_text_of_mem hid).2, ?_⟩
    rintro ⟨text, htext, hid⟩
    exact h.mem_foldr_of_subscribed honce hlast htext hid
  once id honce text htext other hother hid hid' := by
    obtain ⟨e, he, -⟩ := (Option.any_eq_true _ _).mp ((h.mem_subscriptions_iff text).mp htext)
    obtain ⟨e', he', -⟩ := (Option.any_eq_true _ _).mp ((h.mem_subscriptions_iff other).mp hother)
    have hspelled : e.request.sensorId = text := by simpa using List.find?_some he
    have hspelled' : e'.request.sensorId = other := by simpa using List.find?_some he'
    rw [← hspelled, ← hspelled']
    refine honce e (List.mem_of_find?_eq_some he) e' (List.mem_of_find?_eq_some he') ?_ ?_
    · rw [Sent.named, hspelled, hid]
    · rw [Sent.named, hspelled', hid']

end Tracks

/-- A network of the server, before anything happened. -/
def hosting (issuer : Issuer) (historyCapacity eventBuffer : Nat) (clock : Clock)
    (randomness : RandomSource) : Network Server :=
  around (.empty issuer historyCapacity eventBuffer) clock randomness

theorem tracks_hosting (name : String) (issuer : Issuer) (historyCapacity eventBuffer : Nat)
    (clock : Clock) (randomness : RandomSource) :
    Tracks name (hosting issuer historyCapacity eventBuffer clock randomness) [] :=
  tracks_of_closed (Host.sound_fresh issuer historyCapacity eventBuffer)
    (Host.attentive_fresh issuer historyCapacity eventBuffer) rfl fun _ => rfl

/-- Whatever is done with a session and its server, the server forwards the sensors that were
subscribed by the last frame that found them, and the session lists the texts that were subscribed
by the last frame with that text. So both agree on every sensor that was spelled in one way only and
not subscribed too early. -/
theorem sets_agree (name : String) (issuer : Issuer) (historyCapacity eventBuffer : Nat)
    (clock : Clock) (randomness : RandomSource) (ds : List Deed) :
    let start := hosting issuer historyCapacity eventBuffer clock randomness
    Agreement name (played name ds start) (transcript name ds start []) :=
  ((tracks_hosting name issuer historyCapacity eventBuffer clock randomness).played ds).agreement

def asks (token : Token) (rs : List SubscribeRequest) : List Deed :=
  rs.map (.control token)

theorem Tracks.controls (h : Tracks name n t) {token : Token}
    (htakes : ((n.session name).isOpen || n.takes token) = true) (rs : List SubscribeRequest) :
    let n' := Network.played name (asks token rs) n
    (rs = [] ∨ (n'.session name).isOpen = true) ∧
      n'.service.directory = n.service.directory ∧
      Tracks name n' ((rs.map fun r => ⟨r, n.found r⟩).reverse ++ t) := by
  induction rs generalizing n t with
  | nil => exact ⟨.inl rfl, rfl, h⟩
  | cons r rs ih =>
    obtain ⟨hopen, hd, hsent⟩ := h.control token r
    have hopen := hopen.trans htakes
    rw [Deed.sent, if_pos hopen] at hsent
    have hfound : ((Network.control name token r).run n).2.found = n.found := by
      funext r'
      unfold Network.found
      rw [hd]
    obtain ⟨hrest, hdirectory, htracks⟩ := ih hsent (by rw [hopen, Bool.true_or])
    rw [hfound] at htracks
    refine ⟨.inr ?_, hdirectory.trans hd, ?_⟩
    · rcases hrest with rfl | hrest
      · exact hopen
      · exact hrest
    · have hsplit : ((r :: rs).map fun r => Sent.mk r (n.found r)).reverse ++ t =
          (rs.map fun r => ⟨r, n.found r⟩).reverse ++ ⟨r, n.found r⟩ :: t := by
        simp
      rw [hsplit]
      exact htracks

/-- A server with room takes a stream of everyone who is registered. -/
theorem takes_issue {login : String} (hlogin : n.service.accounts.contains login = true)
    (hroom : n.service.directory.eventBuffer ≠ 0)
    (hqueue : n.service.directory.eventBuffer ≤ Server.greatestQueue) (moment : Instant) :
    n.takes (n.service.issuer.issue (.client login) moment.seconds) = true := by
  have hid := n.service.issuer.identify_presented (.client login) moment
  unfold takes Token.attach
  unfold Issuer.presented at hid
  cases hv : HeaderValue.ofBytes?
      (Text.utf8 (n.service.issuer.issue (.client login) moment.seconds).text) with
  | none =>
    rw [hv] at hid
    cases hid
  | some header =>
    rw [hv] at hid
    exact Host.admits_of_identify hid hlogin hroom hqueue

def sensorRegisters : Deed :=
  .elsewhere (.registerSensor ⟨"north", "roof", []⟩ ⟨Host.epoch, ⟨10⟩⟩)

def clientRegisters : Deed :=
  .elsewhere (.registerClient ⟨"eve", "pw", "e"⟩ ⟨Host.epoch, ⟨6⟩⟩)

def clientToken : Token :=
  Host.impatientIssuer.issue (.client "eve") Host.epoch.seconds

def populated (ds : List Deed) : Network Server :=
  played "s" ds (hosting Host.impatientIssuer 4 4 (.startingAt Host.epoch) (.seeded 0))

/-- The id of the sensor in small letters and in capitals. -/
def smallId : String := "00000000-0000-0000-0000-00000000000a"
def capitalId : String := "00000000-0000-0000-0000-00000000000A"

theorem parse?_smallId : Uuid.parse? smallId = some ⟨10⟩ := by
  decide +kernel

theorem parse?_capitalId : Uuid.parse? capitalId = some ⟨10⟩ := by
  decide +kernel

theorem asked_twice (r r' : SubscribeRequest) :
    let n := populated ([sensorRegisters, clientRegisters] ++ asks clientToken [r, r'])
    let start := populated [sensorRegisters, clientRegisters]
    (n.session "s").isOpen = true ∧ n.service.directory.has ⟨10⟩ = true ∧
      Tracks "s" n [⟨r', start.found r'⟩, ⟨r, start.found r⟩] := by
  intro n start
  have hstart : Tracks "s" start [] :=
    (tracks_hosting "s" _ 4 4 _ _).played [sensorRegisters, clientRegisters]
  have htakes : start.takes clientToken = true := takes_issue rfl (show 4 ≠ 0 by decide)
    (show 4 ≤ Server.greatestQueue by decide) Host.epoch
  obtain ⟨hopen, hd, htracks⟩ := hstart.controls (Bool.or_eq_true_iff.mpr (.inr htakes)) [r, r']
  have hhas : start.service.directory.has ⟨10⟩ = true := rfl
  have hn : n = played "s" (asks clientToken [r, r']) start := played_append "s" _ _ _
  rw [← hd] at hhas
  rw [hn]
  exact ⟨hopen.resolve_left (List.cons_ne_nil r [r']), hhas, htracks⟩

/-- A sensor is still listed once it was unsubscribed under another spelling, and listed twice once
it was subscribed under both. -/
theorem sets_part_after_respelling :
    ¬ SetsMatch "s" (populated ([sensorRegisters, clientRegisters] ++
        asks clientToken [⟨smallId, false⟩, ⟨capitalId, true⟩])) ∧
      ¬ SetsMatch "s" (populated ([sensorRegisters, clientRegisters] ++
        asks clientToken [⟨smallId, false⟩, ⟨capitalId, false⟩])) := by
  have hne : smallId ≠ capitalId := by decide
  have hsmall : (populated [sensorRegisters, clientRegisters]).found ⟨smallId, false⟩ =
      some ⟨10⟩ := by
    rw [Network.found, parse?_smallId]
    rfl
  have hcapital (disconnect : Bool) : (populated [sensorRegisters, clientRegisters]).found
      ⟨capitalId, disconnect⟩ = some ⟨10⟩ := by
    rw [Network.found, parse?_capitalId]
    rfl
  constructor
  · obtain ⟨hopen, hhas, htracks⟩ := asked_twice ⟨smallId, false⟩ ⟨capitalId, true⟩
    rw [hsmall, hcapital] at htracks
    intro hmatch
    have hforwarded := htracks.forwarded?_eq
    rw [if_pos hopen] at hforwarded
    have hiff := (hmatch _ hforwarded).1 ⟨10⟩ hhas
    have hin := hiff.mpr ⟨smallId, (htracks.mem_subscriptions_iff smallId).mpr ?_, parse?_smallId⟩
    · rw [List.foldr_cons, Sent.mem_applied_iff, if_pos rfl] at hin
      cases hin
    · simp [hne.symm]
  · obtain ⟨hopen, hhas, htracks⟩ := asked_twice ⟨smallId, false⟩ ⟨capitalId, false⟩
    intro hmatch
    have hforwarded := htracks.forwarded?_eq
    rw [if_pos hopen] at hforwarded
    refine hne ((hmatch _ hforwarded).2 smallId ?_ capitalId ?_ ⟨10⟩ parse?_smallId
      parse?_capitalId)
    · rw [htracks.mem_subscriptions_iff]
      simp [hne.symm]
    · rw [htracks.mem_subscriptions_iff]
      simp

theorem Tracks.part_after_registration
    (h : Tracks "s" n [⟨⟨smallId, false⟩, none⟩]) (hopen : (n.session "s").isOpen = true)
    (hd : n.service.directory = .empty 4 4) :
    ¬ SetsMatch "s" (Network.played "s" [sensorRegisters] n) := by
  change ¬ SetsMatch "s" ((Network.elsewhere
    (.registerSensor ⟨"north", "roof", []⟩ ⟨Host.epoch, ⟨10⟩⟩)).run n).2
  have hafter := h.elsewhere (.registerSensor ⟨"north", "roof", []⟩ ⟨Host.epoch, ⟨10⟩⟩)
  rcases h.elsewhere_cases (.registerSensor ⟨"north", "roof", []⟩ ⟨Host.epoch, ⟨10⟩⟩) with
    ⟨hlive, -⟩ | ⟨-, log, hlog⟩
  · cases hlive
  · rw [hlog] at hafter ⊢
    have hhas : (n.service.registerSensor ⟨"north", "roof", []⟩
        ⟨Host.epoch, ⟨10⟩⟩).2.directory.has ⟨10⟩ = true := by
      unfold Server.registerSensor
      rw [hd]
      rfl
    intro hmatch
    have hforwarded := hafter.forwarded?_eq
    rw [if_pos (by exact hopen)] at hforwarded
    have hin := ((hmatch _ hforwarded).1 ⟨10⟩ hhas).mpr
      ⟨smallId, (hafter.mem_subscriptions_iff smallId).mpr (by simp), parse?_smallId⟩
    cases hin

/-- A sensor that was subscribed before it registered is listed and not forwarded. -/
theorem sets_part_after_registration :
    ¬ SetsMatch "s" (populated ([clientRegisters] ++ asks clientToken [⟨smallId, false⟩] ++
      [sensorRegisters])) := by
  have hstart : Tracks "s" (populated [clientRegisters]) [] :=
    (tracks_hosting "s" _ 4 4 _ _).played [clientRegisters]
  have htakes : (populated [clientRegisters]).takes clientToken = true := takes_issue rfl
    (show 4 ≠ 0 by decide) (show 4 ≤ Server.greatestQueue by decide) Host.epoch
  have hnone : (populated [clientRegisters]).found ⟨smallId, false⟩ = none := by
    rw [Network.found, parse?_smallId]
    rfl
  obtain ⟨hopen, hd, hasked⟩ := hstart.controls (Bool.or_eq_true_iff.mpr (.inr htakes))
    [⟨smallId, false⟩]
  have hsplit : populated ([clientRegisters] ++ asks clientToken [⟨smallId, false⟩] ++
      [sensorRegisters]) = played "s" [sensorRegisters] (played "s"
        (asks clientToken [⟨smallId, false⟩]) (populated [clientRegisters])) := by
    unfold populated
    rw [played_append, played_append]
  rw [List.map_singleton, hnone] at hasked
  rw [hsplit]
  have hempty : (populated [clientRegisters]).service.directory = .empty 4 4 := rfl
  exact Tracks.part_after_registration hasked (hopen.resolve_left (List.cons_ne_nil _ []))
    (hd.trans hempty)

/-- The sets need not match: a spelling or a frame that came too early tells them apart. -/
theorem sets_part :
    ¬ SetsMatch "s" (populated ([sensorRegisters, clientRegisters] ++
        asks clientToken [⟨smallId, false⟩, ⟨capitalId, true⟩])) ∧
      ¬ SetsMatch "s" (populated ([sensorRegisters, clientRegisters] ++
        asks clientToken [⟨smallId, false⟩, ⟨capitalId, false⟩])) ∧
      ¬ SetsMatch "s" (populated ([clientRegisters] ++ asks clientToken [⟨smallId, false⟩] ++
        [sensorRegisters])) :=
  ⟨sets_part_after_respelling.1, sets_part_after_respelling.2, sets_part_after_registration⟩

end Network
end SensorRelay
