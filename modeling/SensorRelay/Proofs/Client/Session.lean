import SensorRelay.Proofs.Network.Operations

/-!
# A session against any service

Every order of steps on one session, with a service that may answer as it likes and send what it
likes on any call at any time. The ledger of such a run says what the session holds, what it has
reported and what it answers next.
-/

namespace SensorRelay.Network

open Auth Client Rpc

variable {σ : Type} [Service σ]

/-- What can be done with a session, and what its service may do on its own. -/
inductive Move (σ : Type)
  | openSession (token : Token)
  | control (token : Token) (r : SubscribeRequest)
  | close
  | serve (f : StateM σ (List Signal))

inductive Outcome
  | opening (r : Except Error OpenOutcome)
  | closing (r : CloseOutcome)
  | served

def arrivals (xs : List Signal) : List Happening :=
  xs.map fun x => .arrived x.delivered

/-- What it takes to have an open stream, and what comes back on the way, unless there is none. -/
def reached (name : String) (token : Token) (n : Network σ) :
    Option (List Happening × List Signal) :=
  if (n.session name).isOpen then some ([], [])
  else (offer token n).toOption.map fun early => ([.opened n.nextCall], early)

namespace Move

def perform (name : String) : Move σ → NetworkM σ Outcome
  | openSession token => return .opening (← Network.openSession name token)
  | control token r => return .opening (← Network.control name token r)
  | close => return .closing (← Network.close name)
  | serve f => do
    receiveAll (← ask f)
    return .served

/-- How a move is answered. -/
def expected (name : String) (n : Network σ) : Move σ → Outcome
  | openSession token | control token _ =>
    .opening (if (n.session name).isOpen then .ok .reused else (offer token n).map fun _ => .opened)
  | close => .closing (if (n.session name).isOpen then .closing else .notOpen)
  | serve _ => .served

/-- What a move has to do with the streams of the session. -/
def happenings (name : String) (n : Network σ) : Move σ → List Happening
  | openSession token =>
    match reached name token n with
    | none => []
    | some (hs, early) => hs ++ arrivals early
  | control token r =>
    match reached name token n with
    | none => []
    | some (hs, early) =>
      let n' := ((ensureOpen name token).run n).2
      hs ++ .sent r :: arrivals (early ++ ((sendControl name r).run n').1)
  | close =>
    .closed :: arrivals (match (n.session name).active with
      | none => []
      | some a => ((Service.uploadControl a.call .halfClose).run n.service).1)
  | serve f => arrivals (f.run n.service).1

end Move

/-- The network after some moves. -/
def after (name : String) (moves : List (Move σ)) (n : Network σ) : Network σ :=
  moves.foldl (fun n m => ((m.perform name).run n).2) n

/-- The ledger of a session after some moves. -/
def ledger (name : String) : List (Move σ) → Network σ → Ledger → Ledger
  | [], _, l => l
  | m :: moves, n, l =>
    ledger name moves ((m.perform name).run n).2 (l.writeAll (m.happenings name n))

/-- What an answer says about the session before the move and after it. Only an answer that a
stream was opened counts one; a failed attempt leaves the session and its reports alone. -/
def Outcome.Tells (name : String) (n n' : Network σ) : Outcome → Prop
  | .opening (.ok .reused) => (n'.session name).opened = (n.session name).opened
  | .opening (.ok .opened) => (n'.session name).opened = (n.session name).opened + 1
  | .opening (.error _) => n'.session name = n.session name ∧ n'.log = n.log
  | .closing .closing =>
    (n'.session name).opened = (n.session name).opened ∧ (n'.session name).isOpen = false
  | .closing .notOpen => n'.session name = n.session name ∧ n'.log = n.log
  | .served => (n'.session name).opened = (n.session name).opened

/-- A network whose one session has this ledger. -/
structure Mirrors (name : String) (n : Network σ) (l : Ledger) : Prop where
  orderly : l.Orderly
  session : n.session name = l.session
  owner : ∀ k, n.owners.lookup k = (l.listener? k).map (.session name)
  log : n.log.reverse = l.reported.map fun p => .event name p.2
  numbered : ∀ s ∈ l.streams, s.call < n.nextCall

variable {name : String} {n : Network σ} {l : Ledger}

omit [Service σ] in
theorem mirrors_around (name : String) (service : σ) (clock : Clock) (randomness : RandomSource) :
    Mirrors name (around service clock randomness) .empty where
  orderly := .empty
  session := rfl
  owner _ := rfl
  log := rfl
  numbered _ hs := nomatch hs

namespace Mirrors

variable (h : Mirrors name n l)

include h

omit [Service σ] in
theorem count : (n.session name).opened = l.streams.length := by
  rw [h.session]
  rfl

/-- Streams hear what the network hands to its session. -/
theorem arrived (x : Signal) :
    Mirrors name ((receive x).run n).2 (l.write (.arrived x.delivered)) := by
  cases hs : l.listening? x.delivered.call with
  | none =>
    -- nobody owns a call that is over or was never accepted
    have hnobody : n.owners.lookup x.delivered.call = none := by
      rw [h.owner, Ledger.listener?, hs]
      rfl
    rwa [receive_of_nobody hnobody, Ledger.write_arrived_of_none hs]
  | some s =>
    have howner : n.owners.lookup x.delivered.call = some (.session name s.number) := by
      rw [h.owner, Ledger.listener?, hs]
      rfl
    -- the rest of the network plays no part, so the service may answer the end as it likes
    obtain ⟨howners, hnext⟩ := calls_hand name s.number x.delivered n
    obtain ⟨service, heq⟩ := receive_of_owner howner
    rw [heq]
    refine ⟨h.orderly.arrived _, ?_, fun k => ?_, ?_, fun t' ht' => ?_⟩
    · change (hand (.session name s.number) x.delivered n).session name = _
      rw [session_hand, h.session]
      cases hx : terminates x.delivered with
      | false => exact (Ledger.session_arrived_of_not_terminates l hx).symm
      | true => exact (Ledger.session_arrived_of_terminates h.orderly hs hx).symm
    · rw [Ledger.listener?_arrived, howners]
      cases hx : x.delivered.isLast with
      | false => simpa using h.owner k
      | true =>
        simp only [if_true, lookup_filter_ne, true_and]
        split_ifs
        · rfl
        · exact h.owner k
    · change (hand (.session name s.number) x.delivered n).log.reverse = _
      rw [log_hand, List.reverse_append, h.log, Ledger.write_arrived_of_some hs, List.map_append]
      cases sessionEvent? s.number x.delivered <;> rfl
    · change t'.call < (hand (.session name s.number) x.delivered n).nextCall
      rw [Ledger.write_arrived_of_some hs] at ht'
      obtain ⟨t, ht, rfl⟩ := List.mem_map.mp ht'
      rw [hnext, StreamRecord.call_receive]
      exact h.numbered t ht

theorem receiveAll (xs : List Signal) :
    Mirrors name ((Network.receiveAll xs).run n).2 (l.writeAll (arrivals xs)) := by
  induction xs generalizing n l with
  | nil => exact h
  | cons x xs ih => exact ih (h.arrived x)

omit [Service σ] in
theorem serviced (service : σ) : Mirrors name { n with service := service } l :=
  ⟨h.orderly, h.session, h.owner, h.log, h.numbered⟩

omit [Service σ] in
theorem fresh {k : CallId} (hk : n.nextCall ≤ k) : ∀ s ∈ l.streams, s.call ≠ k := by
  intro s hs heq
  have hlt : k < n.nextCall := heq ▸ h.numbered s hs
  exact Nat.not_le.mpr hlt hk

omit [Service σ] in
theorem opened (service : σ) :
    Mirrors name (n.withStream name service) (l.write (.opened n.nextCall)) where
  orderly := h.orderly.opened (h.fresh (Nat.le_refl _))
  session := by
    rw [Ledger.session_opened, ← h.session]
    exact session_withStream name service n
  owner k := by
    rw [Ledger.listener?_opened]
    change ((n.nextCall, Owner.session name ((n.session name).opened + 1)) ::
      n.owners).lookup k = _
    by_cases hk : k = n.nextCall
    · rw [hk, List.lookup_cons_self, if_pos rfl, h.count]
      rfl
    · have hne : (k == n.nextCall) = false := by simpa using hk
      rw [if_neg hk, ← h.owner k]
      simp only [List.lookup_cons, hne]
  log := by
    change (Report.event name (.opened ((n.session name).opened + 1)) :: n.log).reverse = _
    rw [List.reverse_cons, h.log, h.count]
    simp [Ledger.write]
  numbered s hs := by
    rcases List.mem_cons.mp hs with rfl | hs
    · exact Nat.lt_succ_self _
    · exact Nat.lt_succ_of_lt (h.numbered s hs)

omit [Service σ] in
theorem refused {n' : Network σ} (hrefused : Refused n n') : Mirrors name n' l := by
  rcases hrefused with rfl | ⟨service, rfl⟩
  · exact h
  · refine ⟨h.orderly, h.session, fun k => ?_, h.log, fun s hs =>
      Nat.lt_succ_of_lt (h.numbered s hs)⟩
    change (n.owners.filter (·.1 ≠ n.nextCall)).lookup k = _
    rw [lookup_filter_ne, ← h.owner k]
    split_ifs with hk
    · rw [h.owner, Ledger.listener?,
        Ledger.listening?_eq_none_of_fresh (h.fresh (Nat.le_of_eq hk.symm))]
      rfl
    · rfl

omit [Service σ] in
theorem onNewest {f : StreamRecord → StreamRecord} (hf : Ledger.Annotates f)
    {s : SubscriptionSession} (hs : (l.onNewest f).session = s) :
    Mirrors name (n.setSession name s) (l.onNewest f) where
  orderly := h.orderly.onNewest hf
  session := by rw [session_setSession, hs]
  owner k := (h.owner k).trans (by rw [Ledger.listener?_onNewest hf])
  log := h.log
  numbered t ht := by
    have hmem : t.call ∈ (l.onNewest f).streams.map (·.call) := List.mem_map_of_mem ht
    rw [Ledger.calls_onNewest hf] at hmem
    obtain ⟨u, hu, heq⟩ := List.mem_map.mp hmem
    exact heq ▸ h.numbered u hu

theorem sent (r : SubscribeRequest) :
    Mirrors name ((sendControl name r).run n).2 (l.write (.sent r)) := by
  have hsent := Ledger.session_sent l r
  rw [← h.session] at hsent
  have hmirrors := h.onNewest (f := fun s => { s with asked := r :: s.asked })
    (fun _ => ⟨rfl, rfl, rfl⟩) hsent
  rw [run_sendControl]
  cases ha : (n.session name).active with
  | none =>
    have hsame := SubscriptionSession.controlled_of_not_open ha r
    exact ⟨hmirrors.orderly, (hsent.trans hsame).symm, hmirrors.owner, h.log, hmirrors.numbered⟩
  | some a => exact hmirrors.serviced _

omit [Service σ] in
theorem closed :
    Mirrors name (n.setSession name (n.session name).close.2) (l.write .closed) := by
  have hclosed := Ledger.session_closed l
  rw [← h.session] at hclosed
  exact h.onNewest (f := fun s => { s with closed := true }) (fun _ => ⟨rfl, rfl, rfl⟩) hclosed

/-- What arrives never opens a stream, and never reopens one. -/
theorem session_receiveAll (xs : List Signal) :
    ((Network.receiveAll xs).run n).2.session name = n.session name ∨
      ((Network.receiveAll xs).run n).2.session name = ⟨(n.session name).opened, none⟩ := by
  induction xs generalizing n l with
  | nil => exact .inl rfl
  | cons x xs ih =>
    have hx := h.arrived x
    have hone := h.orderly.session_arrived x.delivered
    rw [← hx.session, ← h.session] at hone
    change ((Network.receiveAll xs).run ((receive x).run n).2).2.session name = _ ∨
      ((Network.receiveAll xs).run ((receive x).run n).2).2.session name = _
    rcases ih hx with hrest | hrest
    · rw [hrest]
      exact hone
    · right
      rw [hrest]
      rcases hone with heq | heq <;> rw [heq]

theorem session_receiveAll_of_not_open (ha : (n.session name).active = none) (xs : List Signal) :
    ((Network.receiveAll xs).run n).2.session name = n.session name := by
  rcases h.session_receiveAll xs with heq | heq
  · exact heq
  · rw [heq, ← ha]

theorem opened_receiveAll (xs : List Signal) :
    (((Network.receiveAll xs).run n).2.session name).opened = (n.session name).opened := by
  rcases h.session_receiveAll xs with heq | heq <;> rw [heq]

theorem opened_sendControl (r : SubscribeRequest) :
    (((sendControl name r).run n).2.session name).opened = (n.session name).opened := by
  rw [(h.sent r).session, Ledger.session_sent, h.session]
  rfl

/-- A move is answered as expected, the ledger is kept, and the answer tells what became of the
session. -/
theorem perform (m : Move σ) :
    ((m.perform name).run n).1 = m.expected name n ∧
      Mirrors name ((m.perform name).run n).2 (l.writeAll (m.happenings name n)) ∧
      (m.expected name n).Tells name n ((m.perform name).run n).2 := by
  cases m with
  | openSession token =>
    change Outcome.opening ((Network.openSession name token).run n).1 = _ ∧
      Mirrors name ((Network.openSession name token).run n).2 _ ∧
      Outcome.Tells name n ((Network.openSession name token).run n).2 _
    rw [run_openSession, Move.expected, Move.happenings, reached]
    rcases ensureOpen_cases name token n with
      ⟨ho, hrun⟩ | ⟨ho, e, n', hoffer, hrun, hrefused⟩ | ⟨ho, early, service, hoffer, hrun⟩
    · rw [hrun, ho]
      exact ⟨rfl, h, rfl⟩
    · rw [hrun, ho, hoffer]
      exact ⟨rfl, h.refused hrefused, hrefused.session name, hrefused.log⟩
    · have hnew := h.opened service
      rw [hrun, ho, hoffer]
      refine ⟨rfl, hnew.receiveAll early, (hnew.opened_receiveAll early).trans ?_⟩
      rw [session_withStream]
      rfl
  | control token r =>
    change Outcome.opening ((Network.control name token r).run n).1 = _ ∧
      Mirrors name ((Network.control name token r).run n).2 _ ∧
      Outcome.Tells name n ((Network.control name token r).run n).2 _
    rw [run_control, Move.expected, Move.happenings, reached]
    rcases ensureOpen_cases name token n with
      ⟨ho, hrun⟩ | ⟨ho, e, n', hoffer, hrun, hrefused⟩ | ⟨ho, early, service, hoffer, hrun⟩
    · rw [hrun, ho]
      refine ⟨rfl, (h.sent r).receiveAll _, ?_⟩
      exact ((h.sent r).opened_receiveAll _).trans (h.opened_sendControl r)
    · rw [hrun, ho, hoffer]
      exact ⟨rfl, h.refused hrefused, hrefused.session name, hrefused.log⟩
    · have hnew := h.opened service
      have hsent := hnew.sent r
      rw [hrun, ho, hoffer]
      refine ⟨rfl, hsent.receiveAll _, (hsent.opened_receiveAll _).trans ?_⟩
      rw [hnew.opened_sendControl, session_withStream]
      rfl
  | close =>
    change Outcome.closing ((Network.close name).run n).1 = _ ∧
      Mirrors name ((Network.close name).run n).2 _ ∧
      Outcome.Tells name n ((Network.close name).run n).2 _
    have hclosed := h.closed
    rw [run_close, Move.expected, Move.happenings, SubscriptionSession.isOpen]
    cases ha : (n.session name).active with
    | none =>
      rw [SubscriptionSession.close_of_not_open ha] at hclosed ⊢
      exact ⟨rfl, hclosed, session_setSession name _ n, rfl⟩
    | some a =>
      rw [SubscriptionSession.close_of_open ha] at hclosed ⊢
      dsimp only
      generalize (Service.uploadControl a.call .halfClose).run n.service = answer
      have hserviced := hclosed.serviced answer.2
      have hsession := session_setSession name ⟨(n.session name).opened, none⟩ n
      -- nothing that arrives after the close opens the session again
      have hrest : _ = SubscriptionSession.mk (n.session name).opened none :=
        (hserviced.session_receiveAll_of_not_open
          (congrArg SubscriptionSession.active hsession) answer.1).trans hsession
      have hopened := congrArg SubscriptionSession.opened hrest
      exact ⟨rfl, hserviced.receiveAll answer.1, hopened,
        congrArg SubscriptionSession.isOpen hrest⟩
  | serve f =>
    have hserviced := h.serviced (f.run n.service).2
    exact ⟨rfl, hserviced.receiveAll _, hserviced.opened_receiveAll _⟩

theorem after (moves : List (Move σ)) :
    Mirrors name (Network.after name moves n) (ledger name moves n l) := by
  induction moves generalizing n l with
  | nil => exact h
  | cons m moves ih => exact ih (h.perform m).2.1

end Mirrors

/-- How a session stands to the ledger of its streams. The reports are those of the ledger, and the
openings among them count up to the number of streams. The session is open exactly when the newest
stream was neither closed nor has it terminated; nothing that arrives on an older one changes it.
The subscriptions are the ids of the newest stream whose last control frame subscribed them. Every
move is answered as the service and the token allow, and the answer tells what became of it. -/
structure Accounts (name : String) (n : Network σ) (l : Ledger) : Prop where
  orderly : l.Orderly
  events : n.log.reverse = l.reported.map fun p => .event name p.2
  opened : (n.session name).opened = l.streams.length
  isOpen : (n.session name).isOpen = true ↔
    ∃ s, l.newest? = some s ∧ s.closed = false ∧ s.isTerminated = false
  older : ∀ s ∈ l.streams.tail, ∀ x : Signal, x.call = s.call →
    ((receive x).run n).2.session name = n.session name
  sorted : (n.session name).subscriptions.Pairwise (· < ·)
  subscribed : ∀ id, id ∈ (n.session name).subscriptions ↔
    ∃ s, l.newest? = some s ∧ s.isOpen = true ∧ s.follows id = true
  answers : ∀ m : Move σ, ((m.perform name).run n).1 = m.expected name n ∧
    (m.expected name n).Tells name n ((m.perform name).run n).2

theorem Mirrors.accounts (h : Mirrors name n l) : Accounts name n l where
  orderly := h.orderly
  events := h.log
  opened := h.count
  isOpen := by rw [h.session]; exact l.isOpen_session
  older s hs x hx := by
    rw [(h.arrived x).session, h.session]
    apply Ledger.session_arrived_of_older
    intro t ht heq
    obtain ⟨rest, hrest⟩ := List.head?_eq_some_iff.mp ht
    have hcalls := h.orderly.calls
    rw [hrest] at hs hcalls
    rw [List.map_cons, List.nodup_cons] at hcalls
    rw [call_delivered, hx] at heq
    exact hcalls.1 (heq ▸ List.mem_map_of_mem hs)
  sorted := by rw [h.session]; exact l.pairwise_lt_subscriptions
  subscribed id := by rw [h.session]; exact l.mem_subscriptions_iff id
  answers m := ⟨(h.perform m).1, (h.perform m).2.2⟩

/-- Whatever is done with a session and whatever its service does, the ledger accounts for it. -/
theorem accounts_after (name : String) (service : σ) (clock : Clock) (randomness : RandomSource)
    (moves : List (Move σ)) :
    Accounts name (after name moves (around service clock randomness))
      (ledger name moves (around service clock randomness) .empty) :=
  ((mirrors_around name service clock randomness).after moves).accounts

end SensorRelay.Network
