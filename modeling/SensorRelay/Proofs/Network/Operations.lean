import SensorRelay.Network.Session
import SensorRelay.Proofs.Client.Ledger

/-!
# Operations on the session of a network

What receiving a signal, opening a stream, sending a control frame and closing do to a network,
whatever its service answers.
-/

namespace SensorRelay.Network

open Auth Client Rpc

variable {σ : Type} {name : String} {n : Network σ} {x : Signal}

@[simp]
theorem session_setSession (name : String) (s : SubscriptionSession) (n : Network σ) :
    (n.setSession name s).session name = s := by
  simp [session, setSession]

theorem session_setSession_of_ne {key : String} (h : key ≠ name) (s : SubscriptionSession)
    (n : Network σ) : (n.setSession name s).session key = n.session key := by
  simp only [session, setSession, lookup_bindName_of_ne h]

theorem lookup_filter_ne (owners : List (CallId × Owner)) (k j : CallId) :
    (owners.filter (·.1 ≠ k)).lookup j = if j = k then none else owners.lookup j := by
  induction owners with
  | nil => simp
  | cons o rest ih =>
    obtain ⟨i, owner⟩ := o
    by_cases hi : i = k
    · rw [List.filter_cons_of_neg (by simpa using hi), ih, hi]
      by_cases hj : j = k
      · rw [if_pos hj, if_pos hj]
      · have hne : (j == k) = false := by simpa using hj
        simp only [if_neg hj, List.lookup_cons, hne]
    · rw [List.filter_cons_of_pos (by simpa using hi)]
      by_cases hj : j = i
      · rw [hj, if_neg hi, List.lookup_cons_self, List.lookup_cons_self]
      · have hne : (j == i) = false := by simpa using hj
        simp only [List.lookup_cons, hne, ih]

theorem call_delivered (x : Signal) : x.delivered.call = x.call := by
  cases x with
  | failed c s => cases hs : s.failure? <;> simp [Signal.delivered, Signal.call, hs]
  | _ => rfl

theorem session_hand (name : String) (g : Nat) (x : Signal) (n : Network σ) :
    (hand (.session name g) x n).session name =
      if terminates x then (n.session name).release g else n.session name := by
  cases x <;> simp [hand, terminates, report, session, setSession]

theorem log_hand (name : String) (g : Nat) (x : Signal) (n : Network σ) :
    (hand (.session name g) x n).log =
      ((sessionEvent? g x).map (.event name)).toList ++ n.log := by
  cases x <;> rfl

theorem calls_hand (name : String) (g : Nat) (x : Signal) (n : Network σ) :
    (hand (.session name g) x n).owners = n.owners ∧
      (hand (.session name g) x n).nextCall = n.nextCall := by
  cases x <;> exact ⟨rfl, rfl⟩

section Receive

variable [Service σ]

theorem run_receive (x : Signal) (n : Network σ) :
    (receive x).run n = ((),
      match n.owners.lookup x.delivered.call with
      | none => n
      | some o =>
        let n' := hand o x.delivered n
        if x.delivered.isLast then
          { forget x.delivered.call n' with
            service := ((Service.uploadControl x.delivered.call .abandoned).run n'.service).2 }
        else n') := by
  simp only [receive, StateT.run_bind, StateT.run_get, pure_bind]
  cases n.owners.lookup x.delivered.call with
  | none => rfl
  | some o => cases x.delivered.isLast <;> rfl

theorem receive_of_nobody (h : n.owners.lookup x.delivered.call = none) :
    ((receive x).run n).2 = n := by
  rw [run_receive, h]

theorem receive_of_owner {o : Owner} (h : n.owners.lookup x.delivered.call = some o) :
    ∃ service, ((receive x).run n).2 = { hand o x.delivered n with
      service := service
      owners := if x.delivered.isLast then
        (hand o x.delivered n).owners.filter (·.1 ≠ x.delivered.call)
        else (hand o x.delivered n).owners } := by
  rw [run_receive, h]
  cases x.delivered.isLast with
  | false => exact ⟨_, rfl⟩
  | true => exact ⟨_, rfl⟩

end Receive

theorem run_ask {α : Type} (f : StateM σ α) (n : Network σ) :
    (ask f).run n = pure ((f.run n.service).1, { n with service := (f.run n.service).2 }) :=
  rfl

theorem run_newCall (owner : Owner) (n : Network σ) : (newCall owner).run n =
    pure (n.nextCall, { n with
      nextCall := n.nextCall + 1
      owners := (n.nextCall, owner) :: n.owners }) :=
  rfl

/-- The network once its service took a new call of a session. -/
def withStream (name : String) (service : σ) (n : Network σ) : Network σ :=
  let s := (n.session name).connected n.nextCall
  (({ n with
      service := service
      nextCall := n.nextCall + 1
      owners := (n.nextCall, .session name s.opened) :: n.owners }).setSession name s).report
    (.event name (.opened s.opened))

@[simp]
theorem session_withStream (name : String) (service : σ) (n : Network σ) :
    (n.withStream name service).session name = (n.session name).connected n.nextCall :=
  session_setSession name _ _

/-- The network once its service refused a new call. -/
def withoutStream (service : σ) (n : Network σ) : Network σ :=
  { n with
    service := service
    nextCall := n.nextCall + 1
    owners := n.owners.filter (·.1 ≠ n.nextCall) }

/-- An attempt failed, before it reached the service or there. -/
def Refused (n n' : Network σ) : Prop :=
  n' = n ∨ ∃ service, n' = n.withoutStream service

theorem Refused.session {n n' : Network σ} (h : Refused n n') (name : String) :
    n'.session name = n.session name := by
  rcases h with rfl | ⟨service, rfl⟩ <;> rfl

theorem Refused.log {n n' : Network σ} (h : Refused n n') : n'.log = n.log := by
  rcases h with rfl | ⟨service, rfl⟩ <;> rfl

variable [Service σ]

/-- What an attempt to open a stream comes to. The token may fit into no header, and the service may
refuse the call. -/
def offer (token : Token) (n : Network σ) : Except Error (List Signal) :=
  match token.attach with
  | .error e => .error e
  | .ok header =>
    (accepted n.nextCall
      ((Service.openSubscription n.nextCall (some header)).run n.service).1).mapError
      Error.ofStreamStatus

theorem run_connect (name : String) (token : Token) (n : Network σ) :
    (connect name token).run n =
      match token.attach with
      | .error e => (.error e, n)
      | .ok header =>
        let x := (Service.openSubscription n.nextCall (some header)).run n.service
        match accepted n.nextCall x.1 with
        | .error s => (.error (Error.ofStreamStatus s), n.withoutStream x.2)
        | .ok early => (.ok early, n.withStream name x.2) := by
  unfold connect
  cases token.attach with
  | error e => rfl
  | ok header =>
    simp only [StateT.run_bind, StateT.run_get, pure_bind, run_newCall, run_ask]
    generalize (Service.openSubscription n.nextCall (some header)).run n.service = answer
    cases accepted n.nextCall answer.1 with
    | error s =>
      have hforget (o : Owner) : ((n.nextCall, o) :: n.owners).filter (·.1 ≠ n.nextCall) =
          n.owners.filter (·.1 ≠ n.nextCall) := List.filter_cons_of_neg (by simp)
      dsimp only
      rw [withoutStream, ← hforget (.session name ((n.session name).opened + 1))]
      rfl
    | ok early => rfl

theorem connect_cases (name : String) (token : Token) (n : Network σ) :
    (∃ e n', offer token n = .error e ∧
      (connect name token).run n = (.error e, n') ∧ Refused n n') ∨
    (∃ early service, offer token n = .ok early ∧
      (connect name token).run n = (.ok early, n.withStream name service)) := by
  rw [run_connect]
  unfold offer
  cases token.attach with
  | error e => exact .inl ⟨e, n, rfl, rfl, .inl rfl⟩
  | ok header =>
    dsimp only
    generalize (Service.openSubscription n.nextCall (some header)).run n.service = answer
    cases accepted n.nextCall answer.1 with
    | error s => exact .inl ⟨_, _, rfl, rfl, .inr ⟨_, rfl⟩⟩
    | ok early => exact .inr ⟨early, _, rfl, rfl⟩

theorem run_ensureOpen (name : String) (token : Token) (n : Network σ) :
    (ensureOpen name token).run n =
      if (n.session name).isOpen then (.ok (.reused, []), n)
      else (((connect name token).run n).1.map (.opened, ·), ((connect name token).run n).2) := by
  simp only [ensureOpen, StateT.run_bind, StateT.run_get, pure_bind]
  split_ifs <;> rfl

/-- A session that is open is used as it is. -/
theorem ensureOpen_cases (name : String) (token : Token) (n : Network σ) :
    ((n.session name).isOpen = true ∧
      (ensureOpen name token).run n = (.ok (.reused, []), n)) ∨
    ((n.session name).isOpen = false ∧ ∃ e n', offer token n = .error e ∧
      (ensureOpen name token).run n = (.error e, n') ∧ Refused n n') ∨
    ((n.session name).isOpen = false ∧ ∃ early service, offer token n = .ok early ∧
      (ensureOpen name token).run n = (.ok (.opened, early), n.withStream name service)) := by
  rw [run_ensureOpen]
  cases (n.session name).isOpen with
  | true => exact .inl ⟨rfl, rfl⟩
  | false =>
    right
    rcases connect_cases name token n with
      ⟨e, n', hoffer, h, hrefused⟩ | ⟨early, service, hoffer, h⟩
    · exact .inl ⟨rfl, e, n', hoffer, by rw [h]; rfl, hrefused⟩
    · exact .inr ⟨rfl, early, service, hoffer, by rw [h]; rfl⟩

theorem run_openSession (name : String) (token : Token) (n : Network σ) :
    (openSession name token).run n =
      match (ensureOpen name token).run n with
      | (.error e, n') => (.error e, n')
      | (.ok (outcome, early), n') => (.ok outcome, ((receiveAll early).run n').2) := by
  unfold openSession
  rw [StateT.run_bind]
  generalize (ensureOpen name token).run n = x
  obtain ⟨r, n'⟩ := x
  cases r <;> rfl

theorem run_control (name : String) (token : Token) (r : SubscribeRequest) (n : Network σ) :
    (control name token r).run n =
      match (ensureOpen name token).run n with
      | (.error e, n') => (.error e, n')
      | (.ok (outcome, early), n') =>
        let x := (sendControl name r).run n'
        (.ok outcome, ((receiveAll (early ++ x.1)).run x.2).2) := by
  unfold control
  rw [StateT.run_bind]
  generalize (ensureOpen name token).run n = x
  obtain ⟨r, n'⟩ := x
  cases r <;> rfl

theorem run_sendControl (name : String) (r : SubscribeRequest) (n : Network σ) :
    (sendControl name r).run n =
      match (n.session name).active with
      | none => ([], n)
      | some a =>
        let x := (Service.uploadControl a.call (.message r)).run n.service
        (x.1, ({ n with service := x.2 } : Network σ).setSession name
          ((n.session name).controlled r)) := by
  simp only [sendControl, StateT.run_bind, StateT.run_get, pure_bind]
  cases (n.session name).active <;> rfl

theorem run_close (name : String) (n : Network σ) :
    (close name).run n =
      let n' := n.setSession name (n.session name).close.2
      match (n.session name).active with
      | none => ((n.session name).close.1, n')
      | some a =>
        let x := (Service.uploadControl a.call .halfClose).run n.service
        ((n.session name).close.1, ((receiveAll x.1).run { n' with service := x.2 }).2) := by
  simp only [close, StateT.run_bind, StateT.run_get, pure_bind]
  cases (n.session name).active <;> rfl

end SensorRelay.Network
