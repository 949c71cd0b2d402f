import SensorRelay.Proofs.Client.Records
import SensorRelay.Proofs.Instant
import SensorRelay.Proofs.Server.Exclusion
import SensorRelay.Proofs.Server.Retention

/-!
# What the server records

A measurement stream against the server, with others around it. On a call that the server accepted,
the feed of its sensor takes a measurement for every record that is sent, for as long as nothing was
sent that ends the call; and whatever a feed takes as a measurement, the history has.
-/

namespace SensorRelay

open Auth Client Rpc

namespace Host

variable {h : Host} {a : Action} {k : CallId} {id : Uuid}

theorem Sound.renumbered {s : Server} {k' : CallId} (hh : (Host.mk s k).Sound) (hk : k ≤ k') :
    (Host.mk s k').Sound where
  directory := hh.directory
  ready := hh.ready
  roomy := hh.roomy
  numbered p hp := Nat.lt_of_lt_of_le (hh.numbered p hp) hk
  distinct := hh.distinct
  registered := hh.registered

theorem Sound.lookup_step (hh : h.Sound) (hk : h.server.measuring.lookup k = some id)
    (hends : a.ends k = false) : (h.step a).2.server.measuring.lookup k = some id := by
  rw [(hh.step a).lookup_eq_some_iff_mem_live, hh.live_step]
  refine List.mem_append_left _ (List.mem_filter.mpr ⟨?_, by rw [hends]; rfl⟩)
  exact hh.lookup_eq_some_iff_mem_live.mp hk

/-- The sensor of a call that the server would accept now. -/
def admitted? (s : Server) (call : CallId) (header : Option HeaderValue) : Option Uuid :=
  if (s.openMeasurements call header).1.isOk then (s.sensorOf header).toOption else none

/-- A call is accepted for a registered sensor whose token the header carries and which is not
online. -/
theorem admitted?_eq_some_iff {s : Server} {call : CallId} {header : Option HeaderValue} :
    admitted? s call header = some id ↔ s.sensorOf header = .ok id ∧
      ∃ sensor, s.directory.get? id = some sensor ∧ sensor.status ≠ .online := by
  unfold admitted?
  cases hid : s.sensorOf header with
  | error e => simp [Except.toOption]
  | ok j =>
    have hok : (s.openMeasurements call header).1.isOk =
        (s.directory.get? j).any (·.status ≠ .online) := by
      simp only [Server.openMeasurements, hid]
      cases s.directory.get? j with
      | none => rfl
      | some sensor =>
        by_cases hon : sensor.status = .online
        · simp [Sensor.goOnline?_eq, hon, Except.isOk, Except.toBool]
        · simp [Sensor.goOnline?_eq, hon, Except.isOk, Except.toBool]
    rw [hok]
    constructor
    · intro h
      split_ifs at h with hany
      obtain rfl := Option.some.inj h
      obtain ⟨sensor, hs, hoff⟩ := (Option.any_eq_true _ _).mp hany
      exact ⟨rfl, sensor, hs, by simpa using hoff⟩
    · rintro ⟨⟨⟩, sensor, hs, hoff⟩
      rw [if_pos]
      · rfl
      · simp [hs, hoff]

theorem change?_of_admitted? {header : Option HeaderValue}
    (hadmitted : admitted? h.server h.nextCall header = some id) :
    h.change? (.openMeasurements header) = some (id, .goOnline) := by
  obtain ⟨hid, sensor, hs, hoff⟩ := admitted?_eq_some_iff.mp hadmitted
  simp [change?, hid, hs, hoff]

theorem Sound.lookup_of_admitted? (hh : h.Sound) {header : Option HeaderValue}
    (hadmitted : admitted? h.server h.nextCall header = some id) :
    (h.step (.openMeasurements header)).2.server.measuring.lookup h.nextCall = some id := by
  rw [(hh.step _).lookup_eq_some_iff_mem_live, hh.live_step, change?_of_admitted? hadmitted,
    if_pos rfl]
  exact List.mem_append_right _ (List.mem_singleton.mpr rfl)

end Host

namespace Note

/-- The sensor of a call, if this is the note of its opening and the server accepted it. -/
def accepted? (k : CallId) : Note Server → Option Uuid
  | opened call header before => if call = k then Host.admitted? before call header else none
  | uploaded .. => none

def before : Note Server → Server
  | opened _ _ s => s
  | uploaded _ _ _ s => s

/-- The server after it did what was asked. -/
def after : Note Server → Server
  | opened call header s => ((Service.openMeasurements call header).run s).2
  | uploaded call u o s => ((Service.uploadMeasurement call u o).run s).2

/-- What the feed of a sensor took of what was asked. -/
def news (e : Note Server) (id : Uuid) : Batch SensorEvent :=
  e.after.directory.newsSince e.before.directory id

/-- The measurements that the feed of a sensor took of an upload on call `k`. -/
def recorded (k : CallId) (id : Uuid) (e : Note Server) : List Measurement :=
  if (e.upload? k).isSome then SensorEvent.measurements (e.news id).events else []

/-- Nothing that a feed took is lost, and of the measurements every history has as many as it can
keep, and at least the last. -/
structure Entered (e : Note Server) : Prop where
  lost : ∀ id, (e.news id).lost = 0
  kept : ∀ id s, e.before.directory.get? id = some s →
    0 < s.history.window.capacity ∧ ∃ s', e.after.directory.get? id = some s' ∧
      s'.history.kept = (s.history.kept ++ SensorEvent.measurements (e.news id).events).rtake
        s.history.window.capacity

end Note

theorem Host.Sound.entered {h : Host} (hh : h.Sound) (a : Action) {e : Note Server}
    (hbefore : e.before = h.server) (hafter : e.after = (h.step a).2.server) : e.Entered := by
  have hnews (id : Uuid) : e.news id = h.news a id := by
    rw [Note.news, hbefore, hafter]
    rfl
  constructor
  · intro id
    rw [hnews]
    exact congrArg Batch.lost (hh.news_eq a id)
  · intro id s hs
    rw [hbefore] at hs
    obtain ⟨s', hs'⟩ := Option.isSome_iff_exists.mp
      (hh.isSome_get?_step a (Option.isSome_iff_exists.mpr ⟨s, hs⟩))
    refine ⟨hh.roomy hs, s', ?_, ?_⟩
    · rw [hafter, hs']
    · rw [hnews]
      exact hh.history_step hs hs'

namespace Tapped

/-- The sensor for which the server accepted a call. -/
def acceptedOn (s : Tapped Server) (k : CallId) : Option Uuid :=
  s.wire.findSome? (Note.accepted? k)

/-- The measurements that the feed of a sensor took of the uploads on a call, oldest first. -/
def recordedOn (s : Tapped Server) (k : CallId) (id : Uuid) : List Measurement :=
  s.wire.flatMap (Note.recorded k id)

variable {s s' : Tapped Server} {k : CallId} {e : Note Server}

theorem acceptedOn_noted (h : s'.wire = s.wire ++ [e]) (k : CallId) :
    s'.acceptedOn k = (s.acceptedOn k).or (e.accepted? k) := by
  rw [acceptedOn, acceptedOn, h, List.findSome?_append, List.findSome?_singleton]

theorem recordedOn_noted (h : s'.wire = s.wire ++ [e]) (k : CallId) (id : Uuid) :
    s'.recordedOn k id = s.recordedOn k id ++ e.recorded k id := by
  rw [recordedOn, recordedOn, h, List.flatMap_append, List.flatMap_singleton]

/-- The server ends a measurement call with an answer only. -/
theorem filter_settle (r : List Signal × Server) (hr : ∀ x ∈ r.1, terminates x = false) :
    (Server.settle r).1.filter (!terminates ·) = (Server.settle r).1 := by
  refine List.filter_eq_self.mpr fun x hx => ?_
  rcases List.mem_append.mp hx with hx | hx
  · rw [hr x hx]
    rfl
  · obtain ⟨c, -, hx⟩ := List.mem_flatMap.mp hx
    obtain ⟨e, -, rfl⟩ := List.mem_map.mp hx
    rfl

/-- The server does behind its notes what it does without them. -/
theorem run_openMeasurements (s : Tapped Server) (call : CallId) (header : Option HeaderValue) :
    (Service.openMeasurements call header).run s =
      (((Service.openMeasurements call header).run s.inner).1,
        ⟨((Service.openMeasurements call header).run s.inner).2,
          s.wire ++ [.opened call header s.inner]⟩) := by
  refine congrArg (·, _) (filter_settle _ fun x hx => ?_)
  split at hx
  · cases hx
  · rw [List.mem_singleton.mp hx]
    rfl

theorem run_uploadMeasurement (s : Tapped Server) (call : CallId) (u : Upload MeasurementRequest)
    (o : Occasion) : (Service.uploadMeasurement call u o).run s =
      (((Service.uploadMeasurement call u o).run s.inner).1,
        ⟨((Service.uploadMeasurement call u o).run s.inner).2,
          s.wire ++ [.uploaded call u o s.inner]⟩) := by
  refine congrArg (·, _) ?_
  change (s.inner.uploadMeasurement call u o.now).1.filter (!terminates ·) =
    (s.inner.uploadMeasurement call u o.now).1
  unfold Server.uploadMeasurement
  split_ifs
  · rfl
  · refine filter_settle _ ?_
    cases u <;> simp [terminates]

theorem acceptedOn_of_unopened (h : k ∉ s.openings) : s.acceptedOn k = none := by
  rw [acceptedOn, List.findSome?_eq_none_iff]
  intro e he
  cases e with
  | uploaded => rfl
  | opened call header before =>
    refine if_neg ?_
    rintro rfl
    exact h (List.mem_filterMap.mpr ⟨_, he, rfl⟩)

theorem recordedOn_of_unsent (h : s.sentOn k = []) (id : Uuid) : s.recordedOn k id = [] := by
  rw [sentOn, List.filterMap_eq_nil_iff] at h
  rw [recordedOn, List.flatMap_eq_nil_iff]
  intro e he
  rw [Note.recorded, h e he]
  rfl

end Tapped

namespace Network.Recording

/-- The measurement that a sensor makes of an upload with a valid time. -/
def reading? (id : Uuid) : Upload MeasurementRequest → Option Measurement
  | .message m => (m.madeAt.bind Instant.ofTimestamp?).map fun i => ⟨id.text, m.value, i⟩
  | _ => none

/-- Every record has a valid time, and nothing follows on the end of the request half. -/
structure Plain (us : List (Upload MeasurementRequest)) : Prop where
  sending : ∀ u ∈ us.dropLast, u.isLast = false
  dated : ∀ m, .message m ∈ us → ∃ i : Instant, m.madeAt = some i.timestamp

variable {us : List (Upload MeasurementRequest)} {u : Upload MeasurementRequest}

theorem Plain.sending_append (h : Plain (us ++ [u])) : ∀ v ∈ us, v.isLast = false := by
  have hsending := h.sending
  rwa [List.dropLast_concat] at hsending

theorem Plain.of_append (h : Plain (us ++ [u])) : Plain us where
  sending v hv := h.sending_append v (List.mem_of_mem_dropLast hv)
  dated m hm := h.dated m (List.mem_append_left _ hm)

/-- The feed of its sensor takes of a record on a live call what can be read off it. -/
theorem recorded_uploaded {s : Server} {k j : CallId} {id : Uuid} (hh : (Host.mk s j).Sound)
    (hlookup : s.measuring.lookup k = some id)
    (hdated : ∀ m, u = .message m → ∃ i : Instant, m.madeAt = some i.timestamp) (o : Occasion)
    (i : Uuid) : (Note.uploaded k u o s).recorded k i =
      if i = id then (reading? id u).toList else [] := by
  have hchange : Host.change? ⟨s, j⟩ (.uploadMeasurement k u o) =
      some (id, Host.changeOf id o u) := by
    simp only [Host.change?, hlookup, Option.map_some]
  have hnews : (Note.uploaded k u o s).news i =
      ⟨0, if id = i then [(Host.changeOf id o u).event id] else []⟩ := by
    refine (hh.news_eq (.uploadMeasurement k u o) i).trans ?_
    rw [hchange]
  rw [Note.recorded, Note.upload?, if_pos rfl, Option.isSome_some, if_pos rfl, hnews]
  by_cases hi : i = id
  · rw [if_pos hi, if_pos hi.symm]
    cases u with
    | message m =>
      obtain ⟨t, ht⟩ := hdated m rfl
      simp [SensorEvent.measurements, SensorEvent.measurement?, Host.changeOf, Sensor.Change.event,
        reading?, Server.measurementOf, ht]
    | _ => rfl
  · rw [if_neg hi, if_neg (Ne.symm hi)]
    rfl

/-- The server and the number of its next call. -/
def behind (n : Network (Tapped Server)) : Host := ⟨n.service.inner, n.nextCall⟩

/-- A network of the server. An accepted call that is live on the network is live on the server, as
long as nothing was sent that ends it. What was recorded of an accepted call can be read off what
was sent, and was recorded for its sensor only. -/
structure Served (n : Network (Tapped Server)) : Prop where
  sound : (behind n).Sound
  lasting : ∀ k id, n.isLive k = true → n.service.acceptedOn k = some id →
    (∀ u ∈ n.service.sentOn k, u.isLast = false) →
      n.service.inner.measuring.lookup k = some id
  recorded : ∀ k id, n.service.acceptedOn k = some id → Plain (n.service.sentOn k) →
    ∀ i, n.service.recordedOn k i =
      if i = id then (n.service.sentOn k).filterMap (reading? id) else []
  entered : ∀ e ∈ n.service.wire, e.Entered

namespace Served

variable {n n' : Network (Tapped Server)} {name : String}

theorem same (h : Served n) (hservice : n'.service = n.service) (hnext : n.nextCall ≤ n'.nextCall)
    (hlive : ∀ k, n'.isLive k = true → n.isLive k = true) : Served n' where
  sound := by
    unfold behind
    rw [hservice]
    exact h.sound.renumbered hnext
  lasting k id hk := by
    rw [hservice]
    exact h.lasting k id (hlive k hk)
  recorded := by
    rw [hservice]
    exact h.recorded
  entered := by
    rw [hservice]
    exact h.entered

/-- A step of the server of which no note was taken, and which ends no live call. -/
theorem turned (h : Served n) (a : Action) (hwire : n'.service.wire = n.service.wire)
    (hinner : n'.service.inner = ((behind n).step a).2.server)
    (hnext : ((behind n).step a).2.nextCall ≤ n'.nextCall)
    (hlive : ∀ k, n'.isLive k = true → n.isLive k = true ∧ a.ends k = false) : Served n' where
  sound := by
    unfold behind
    rw [hinner]
    exact (h.sound.step a).renumbered hnext
  lasting k id hk haccepted hsending := by
    obtain ⟨hk, hends⟩ := hlive k hk
    unfold Tapped.acceptedOn at haccepted
    unfold Tapped.sentOn at hsending
    rw [hwire] at haccepted hsending
    rw [hinner]
    exact h.sound.lookup_step (h.lasting k id hk haccepted hsending) hends
  recorded := by
    unfold Tapped.acceptedOn Tapped.sentOn Tapped.recordedOn
    rw [hwire]
    exact h.recorded
  entered := by
    rw [hwire]
    exact h.entered

theorem sent (h : Served n) {k : CallId} (u : Upload MeasurementRequest) (o : Occasion)
    (hk : n.isLive k = true)
    (hwire : n'.service.wire = n.service.wire ++ [.uploaded k u o n.service.inner])
    (hinner : n'.service.inner = ((behind n).step (.uploadMeasurement k u o)).2.server)
    (hnext : n'.nextCall = n.nextCall) (howners : n'.owners = n.owners) : Served n' := by
  have haccepted (j : CallId) : n'.service.acceptedOn j = n.service.acceptedOn j :=
    (Tapped.acceptedOn_noted hwire j).trans Option.or_none
  have hsent (j : CallId) : n'.service.sentOn j =
      n.service.sentOn j ++ if k = j then [u] else [] := by
    rw [Tapped.sentOn_noted hwire]
    by_cases hj : k = j <;> simp [Note.upload?, hj]
  constructor
  case sound =>
    unfold behind
    rw [hinner, hnext]
    exact h.sound.step (.uploadMeasurement k u o)
  case lasting =>
    intro j id hj hid hsending
    rw [haccepted] at hid
    rw [hsent] at hsending
    rw [hinner]
    have hlookup := h.lasting j id (by rwa [isLive, howners] at hj) hid fun v hv =>
      hsending v (List.mem_append_left _ hv)
    refine h.sound.lookup_step hlookup ?_
    by_cases hkj : k = j
    · have hu := hsending u (by simp [hkj])
      simp [Action.ends, hu]
    · simp [Action.ends, hkj]
  case recorded =>
    intro j id hid hplain i
    rw [haccepted] at hid
    rw [hsent] at hplain ⊢
    rw [Tapped.recordedOn_noted hwire, List.filterMap_append]
    by_cases hkj : k = j
    · subst hkj
      rw [if_pos rfl] at hplain ⊢
      have hlookup := h.lasting k id hk hid hplain.sending_append
      have hdated (m : MeasurementRequest) (hm : u = .message m) :
          ∃ i : Instant, m.madeAt = some i.timestamp :=
        hplain.dated m (by simp [hm])
      rw [h.recorded k id hid hplain.of_append, recorded_uploaded h.sound hlookup hdated]
      split_ifs
      · cases hread : reading? id u <;> simp [hread]
      · rfl
    · rw [if_neg hkj, List.append_nil] at hplain
      rw [h.recorded j id hid hplain, Note.recorded, Note.upload?, if_neg hkj]
      simp [hkj]
  case entered =>
    rw [hwire, List.forall_mem_append, List.forall_mem_singleton]
    exact ⟨h.entered, h.sound.entered (.uploadMeasurement k u o) rfl rfl⟩

theorem opened (h : Served n) (header : Option HeaderValue)
    (hwire : n'.service.wire = n.service.wire ++ [.opened n.nextCall header n.service.inner])
    (hinner : n'.service.inner = ((behind n).step (.openMeasurements header)).2.server)
    (hnext : n'.nextCall = n.nextCall + 1)
    (hlive : ∀ k, n'.isLive k = true → k = n.nextCall ∨ n.isLive k = true)
    (hunopened : n.nextCall ∉ n.service.openings) (hunsent : n.service.sentOn n.nextCall = []) :
    Served n' := by
  have hsent (k : CallId) : n'.service.sentOn k = n.service.sentOn k :=
    (Tapped.sentOn_noted hwire k).trans (List.append_nil _)
  have hrecorded (k : CallId) (i : Uuid) :
      n'.service.recordedOn k i = n.service.recordedOn k i :=
    (Tapped.recordedOn_noted hwire k i).trans (List.append_nil _)
  have haccepted (k : CallId) : n'.service.acceptedOn k = if k = n.nextCall then
      Host.admitted? n.service.inner n.nextCall header else n.service.acceptedOn k := by
    rw [Tapped.acceptedOn_noted hwire]
    by_cases hk : k = n.nextCall
    · rw [hk, Tapped.acceptedOn_of_unopened hunopened, if_pos rfl, Note.accepted?, if_pos rfl]
      rfl
    · rw [if_neg hk, Note.accepted?, if_neg (Ne.symm hk), Option.or_none]
  constructor
  case sound =>
    unfold behind
    rw [hinner, hnext]
    exact h.sound.step (.openMeasurements header)
  case lasting =>
    intro k id hk hid hsending
    rw [haccepted] at hid
    rw [hsent] at hsending
    rw [hinner]
    split_ifs at hid with hnew
    · rw [hnew]
      exact h.sound.lookup_of_admitted? hid
    · exact h.sound.lookup_step (h.lasting k id ((hlive k hk).resolve_left hnew) hid hsending) rfl
  case recorded =>
    intro k id hid hplain i
    rw [hsent] at hplain
    rw [haccepted] at hid
    rw [hsent, hrecorded]
    split_ifs at hid with hnew
    · rw [hnew, hunsent, Tapped.recordedOn_of_unsent hunsent]
      exact (ite_self _).symm
    · exact h.recorded k id hid hplain i
  case entered =>
    rw [hwire, List.forall_mem_append, List.forall_mem_singleton]
    exact ⟨h.entered, h.sound.entered (.openMeasurements header) rfl rfl⟩

theorem receive (h : Served n) (x : Signal) : Served ((receive x).run n).2 := by
  cases ho : n.owners.lookup x.delivered.call with
  | none =>
    rw [receive_of_nobody ho]
    exact h
  | some o =>
    obtain ⟨hservice, howners, hnext⟩ := calls_of_hand o x.delivered n
    rw [run_receive_of_owner ho]
    split_ifs
    · refine h.turned (.uploadControl x.delivered.call .abandoned) rfl rfl (Nat.le_of_eq hnext.symm)
        fun k hk => ⟨?_, rfl⟩
      change ((n.owners.filter (·.1 ≠ x.delivered.call)).lookup k).isSome = true at hk
      rw [lookup_filter_ne] at hk
      split_ifs at hk
      · cases hk
      · exact hk
    · refine h.same hservice (Nat.le_of_eq hnext.symm) fun k hk => ?_
      rwa [isLive, howners] at hk

theorem receiveAll (h : Served n) (xs : List Signal) : Served ((receiveAll xs).run n).2 := by
  induction xs generalizing n with
  | nil => exact h
  | cons x xs ih => exact ih (h.receive x)

theorem setStream (h : Served n) (name : String) (m : MeasurementStream) :
    Served (n.setStream name m) :=
  h.same rfl (Nat.le_refl _) fun _ => id

theorem send (h : Served n) (k : CallId) (u : Upload MeasurementRequest) :
    Served ((sendMeasurement k u).run n).2 := by
  cases hk : n.isLive k with
  | false =>
    rw [run_sendMeasurement_of_not_live u hk]
    exact h
  | true =>
    rw [(run_sendMeasurement_of_live u hk).1]
    have hsent : Served { (occasion.run n).2 with
        service := ((Service.uploadMeasurement k (u.map MeasurementRequest.transmitted)
          (occasion.run n).1).run n.service).2 } :=
      h.sent (u.map MeasurementRequest.transmitted) (occasion.run n).1 hk rfl rfl rfl rfl
    exact hsent.receiveAll _

theorem sendAll (h : Served n) (k : CallId) (us : List (Upload MeasurementRequest)) :
    Served ((us.forM (sendMeasurement k)).run n).2 := by
  induction us generalizing n with
  | nil => exact h
  | cons u us ih => exact ih (h.send k u)

theorem flush (h : Served n) (name : String) : Served ((Network.flush name).run n).2 := by
  cases hlive : (n.stream name).live with
  | none =>
    rw [run_flush_of_idle hlive]
    exact h
  | some l =>
    rw [(run_flush_of_live hlive).1]
    exact (h.setStream name _).sendAll _ _

theorem start {book : List Sheet} (h : Served n) (hk : Kept name n book) (token : Token) :
    Served ((Network.start name token).run n).2 := by
  have hunopened : Served
      ({ n with nextCall := n.nextCall + 1 }.setStream name (n.stream name)) :=
    h.same rfl (Nat.le_succ _) fun _ => id
  cases hs : (n.stream name).isStreaming with
  | true =>
    rw [start_of_streaming token hs]
    exact hunopened
  | false =>
    cases htoken : token.attach with
    | error e =>
      rw [start_of_unattachable hs htoken]
      exact hunopened
    | ok header =>
      rw [start_of_idle hs htoken]
      refine receiveAll (h.opened (some header) rfl rfl rfl (fun k hlive => ?_) ?_
        (hk.unsent _ hk.fresh)) _
      · change (((n.nextCall, _) :: n.owners).lookup k).isSome = true at hlive
        by_cases hnew : k = n.nextCall
        · exact .inl hnew
        · have hne : (k == n.nextCall) = false := by simpa using hnew
          rw [List.lookup_cons, hne] at hlive
          exact .inr hlive
      · rw [hk.openings, List.mem_reverse]
        exact hk.fresh

end Served

/-- Others act on the server. None of them has a call of the network. -/
def others : Doing Server Action := fun a n =>
  if a.call?.any n.isLive then ([], n.service.inner, n.nextCall)
  else
    let x := (behind n).step a
    (x.1.signals, x.2.server, x.2.nextCall)

namespace Served

variable {n : Network (Tapped Server)} {name : String} {book : List Sheet}

theorem serve (h : Served n) (a : Action) : Served (afterDoing others a n) := by
  by_cases hlive : a.call?.any n.isLive = true
  · have hnothing : others a n = ([], n.service.inner, n.nextCall) := if_pos hlive
    refine h.same ?_ (Nat.le_max_left _ _) fun _ => id
    change { n.service with inner := (others a n).2.1 } = n.service
    rw [hnothing]
  · have hstep : others a n = (((behind n).step a).1.signals, ((behind n).step a).2.server,
        ((behind n).step a).2.nextCall) := if_neg hlive
    refine h.turned a rfl ?_ ?_ fun k hk => ⟨hk, ?_⟩
    · exact congrArg (·.2.1) hstep
    · refine Nat.le_trans (Nat.le_of_eq ?_) (Nat.le_max_right _ _)
      exact congrArg (·.2.2) hstep.symm
    · cases a with
      | uploadMeasurement c u o =>
        have hne : c ≠ k := by
          rintro rfl
          exact hlive hk
        simp [Action.ends, hne]
      | _ => rfl

theorem perform (h : Served n) (hk : Kept name n book) (m : Step Action) :
    Served ((m.perform others name).run n).2 := by
  cases m with
  | start token => exact h.start hk token
  | push value madeAt => exact (h.setStream name _).flush name
  | attach period source => exact h.setStream name _
  | tick limit =>
    change Served ((runEmitters limit 1).run n).2
    rw [run_runEmitters_succ]
    cases n.nextDue limit with
    | none => exact h
    | some p =>
      have hread : Served { n with elapsed := p.1, clock := n.clock.read.2 } :=
        h.same rfl (Nat.le_refl _) fun _ => id
      exact (hread.setStream p.2 _).flush p.2
  | rest time => exact h.same rfl (Nat.le_refl _) fun _ => id
  | finish => exact (h.setStream name _).flush name
  | serve a => exact (h.serve a).receiveAll _

theorem after (h : Served n) (hk : Kept name n book) (steps : List (Step Action)) :
    Served (Recording.after others name steps n) := by
  induction steps generalizing n book with
  | nil => exact h
  | cons m steps ih => exact ih (h.perform hk m) (hk.written others m)

end Served

theorem served_around (issuer : Issuer) (historyCapacity eventBuffer : Nat) (clock : Clock)
    (randomness : RandomSource) :
    Served (around ⟨.empty issuer historyCapacity eventBuffer, []⟩ clock randomness) where
  sound := Host.sound_fresh issuer historyCapacity eventBuffer
  lasting _ _ hk := nomatch hk
  recorded _ _ hid := nomatch hid
  entered := List.forall_mem_nil _

/-- What the server should record of a call: what was pushed, without the sign of a zero. -/
def Sheet.records (s : Sheet) (id : Uuid) : List Measurement :=
  s.pushed.map fun p => ⟨id.text, p.1.unsignedZero, p.2⟩

theorem plain_arriving (s : Sheet) : Plain s.arriving := by
  rw [Sheet.arriving_eq]
  constructor
  · intro u hu
    have hpushed : u ∈ s.pushed.map Sheet.arrivalOf := by
      cases hended : s.ended with
      | true => simpa [hended] using hu
      | false => exact List.mem_of_mem_dropLast (by simpa [hended] using hu)
    obtain ⟨p, -, rfl⟩ := List.mem_map.mp hpushed
    rfl
  · intro m hm
    rcases List.mem_append.mp hm with hm | hm
    · obtain ⟨p, -, hp⟩ := List.mem_map.mp hm
      obtain rfl := Upload.message.inj hp
      exact ⟨p.2, rfl⟩
    · split_ifs at hm <;> simp at hm

theorem readings_arriving (s : Sheet) (id : Uuid) :
    s.arriving.filterMap (reading? id) = s.records id := by
  have hread (p : Double × Instant) : reading? id (Sheet.arrivalOf p) =
      some ⟨id.text, p.1.unsignedZero, p.2⟩ := by
    simp [reading?, Sheet.arrivalOf]
  have hpushed : (s.pushed.map Sheet.arrivalOf).filterMap (reading? id) = s.records id := by
    rw [List.filterMap_map, Sheet.records, ← List.filterMap_eq_map]
    exact List.filterMap_congr fun p _ => hread p
  rw [Sheet.arriving_eq, List.filterMap_append, hpushed]
  cases s.ended <;> simp [reading?]

/-- What arrives on every call of a stream is a record for every push that was accepted while the
call was neither ended nor answered, and then the half-close if it was ended. Of a call that the
server accepted, the feed of its sensor takes exactly these as measurements, no other feed takes
any, and what a feed takes as a measurement enters the history. The server is not disturbed by the
notes that are taken. -/
theorem accepted_pushes_are_recorded (name : String) :
    (∀ {σ α : Type} [Service σ] (doing : Doing σ α) (service : σ) (clock : Clock)
      (randomness : RandomSource) (steps : List (Step α)),
      let start : Network (Tapped σ) := around ⟨service, []⟩ clock randomness
      Faithful doing name (after doing name steps start) (bookAfter doing name steps start [])) ∧
    (∀ (issuer : Issuer) (historyCapacity eventBuffer : Nat) (clock : Clock)
      (randomness : RandomSource) (steps : List (Step Action)),
      let start : Network (Tapped Server) :=
        around ⟨.empty issuer historyCapacity eventBuffer, []⟩ clock randomness
      let server := (after others name steps start).service
      (∀ s ∈ bookAfter others name steps start [], ∀ id, server.acceptedOn s.call = some id →
        ∀ i, server.recordedOn s.call i = if i = id then s.records id else []) ∧
      ∀ e ∈ server.wire, e.Entered) ∧
    ∀ (s : Tapped Server) (call : CallId),
      (∀ header, (Service.openMeasurements call header).run s =
        (((Service.openMeasurements call header).run s.inner).1,
          ⟨((Service.openMeasurements call header).run s.inner).2,
            s.wire ++ [.opened call header s.inner]⟩)) ∧
      ∀ u o, (Service.uploadMeasurement call u o).run s =
        (((Service.uploadMeasurement call u o).run s.inner).1,
          ⟨((Service.uploadMeasurement call u o).run s.inner).2,
            s.wire ++ [.uploaded call u o s.inner]⟩) := by
  refine ⟨?_, ?_, fun s call => ⟨s.run_openMeasurements call, s.run_uploadMeasurement call⟩⟩
  · intro σ α _ doing service clock randomness steps start
    exact ((kept_around name service clock randomness).after doing steps).faithful doing
  · intro issuer historyCapacity eventBuffer clock randomness steps start server
    have hkept := kept_around name (Server.empty issuer historyCapacity eventBuffer) clock
      randomness
    have hserved := (served_around issuer historyCapacity eventBuffer clock randomness).after
      hkept steps
    refine ⟨fun s hs id hid i => ?_, hserved.entered⟩
    have hsent := (hkept.after others steps).sent s hs
    have hrecorded := hserved.recorded s.call id hid
    rw [hsent, readings_arriving] at hrecorded
    exact hrecorded (plain_arriving s) i

end Network.Recording
end SensorRelay
