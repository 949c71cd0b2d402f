import SensorRelay.Proofs.Network.Operations
import SensorRelay.Proofs.Server.Refused

/-!
# Networks of the server

A network whose service is the server. What its peers do are steps of the server, and so is what
others do who are not on the network. A step of others never happens on a call of the network.
-/

namespace SensorRelay

open Auth Client Rpc

def Action.call? : Action → Option CallId
  | uploadMeasurement c _ _ | uploadControl c _ => some c
  | _ => none

theorem Refusal.failure?_status (r : Refusal) : r.status.failure? = some r.status := by
  have hplain : 0x25 ∉ Text.utf8 r.status.message := by
    cases r <;> decide +kernel
  have hbad : r.status.code ≠ .ok := by
    cases r <;> decide
  rw [Status.failure?, Status.delivered_eq_self hplain, if_neg hbad]

namespace Network

section Signals

variable {σ : Type} [Service σ] {n : Network σ}

/-- A frame is reported at most. -/
theorem receive_frame (c : CallId) (f : SubscriptionResponse) (n : Network σ) :
    ∃ log, ((receive (.frame c f)).run n).2 = { n with log := log } := by
  cases ho : n.owners.lookup c with
  | none => exact ⟨n.log, receive_of_nobody ho⟩
  | some o =>
    have hrun : ((receive (.frame c f)).run n).2 = hand o (.frame c f) n := by
      simp only [run_receive, Signal.delivered, Signal.call, ho]
      rfl
    rw [hrun]
    cases o with
    | stream name g => exact ⟨n.log, rfl⟩
    | nobody => exact ⟨n.log, rfl⟩
    | _ => exact ⟨_, rfl⟩

/-- The end of a subscription is reported, and its request half is dropped. -/
theorem receive_ended {c : CallId} {name : String} {g : Nat}
    (ho : n.owners.lookup c = some (.session name g)) :
    ((receive (.ended c)).run n).2 = { hand (.session name g) (.ended c) n with
      service := ((Service.uploadControl c .abandoned).run n.service).2
      owners := n.owners.filter (·.1 ≠ c) } := by
  simp only [run_receive, Signal.delivered, Signal.call, ho]
  rfl

theorem receiveAll_frames {xs : List Signal}
    (hxs : ∀ x ∈ xs, n.owners.lookup x.call = none ∨ ∃ f, x = .frame x.call f) :
    ∃ log, ((receiveAll xs).run n).2 = { n with log := log } := by
  induction xs generalizing n with
  | nil => exact ⟨n.log, rfl⟩
  | cons x xs ih =>
    have hfirst : ∃ log, ((receive x).run n).2 = { n with log := log } := by
      rcases hxs x List.mem_cons_self with hnobody | ⟨f, hf⟩
      · exact ⟨n.log, receive_of_nobody (by rwa [call_delivered])⟩
      · rw [hf]
        exact receive_frame x.call f n
    obtain ⟨log, hlog⟩ := hfirst
    change ∃ log', ((receiveAll xs).run ((receive x).run n).2).2 = _
    rw [hlog]
    exact ih fun y hy => hxs y (List.mem_cons_of_mem x hy)

end Signals

variable {n : Network Server} {name : String}

def host (n : Network Server) : Host := ⟨n.service, n.nextCall⟩

/-- Somebody acts who is not on the network. -/
def elsewhere (a : Action) : NetworkM Server Unit := do
  let n ← get
  -- nobody else has a call of the network
  if a.call?.any n.isLive then return
  let (moment, h) := n.host.step a
  set { n with service := h.server, nextCall := h.nextCall }
  receiveAll moment.signals

/-- The network after a step of its server, before anything is received. -/
def stepped (n : Network Server) (a : Action) : Network Server :=
  { n with service := (n.host.step a).2.server, nextCall := (n.host.step a).2.nextCall }

theorem run_elsewhere (a : Action) (n : Network Server) :
    ((elsewhere a).run n).2 = if a.call?.any n.isLive then n
      else ((receiveAll (n.host.step a).1.signals).run (n.stepped a)).2 := by
  simp only [elsewhere, StateT.run_bind, StateT.run_get, pure_bind]
  split_ifs <;> rfl

theorem accepted_statusOf {α : Type} (c : CallId) (r : Except Refusal α) :
    accepted c (Server.statusOf (r.map fun _ => [])) =
      (match r with
        | .ok _ => .ok []
        | .error f => .error f.status) := by
  cases r with
  | ok a => rfl
  | error f =>
    change ((f.status.failure?.map Except.error).getD _) = _
    rw [f.failure?_status]
    rfl

def takes (n : Network Server) (token : Token) : Bool :=
  match token.attach with
  | .ok header => n.host.admits (some header)
  | .error _ => false

/-- An attempt to connect fails, or it is a step of the server that brings nothing at once. -/
theorem connect_server (name : String) (token : Token) (n : Network Server) :
    (n.takes token = false ∧ ∃ e n', (connect name token).run n = (.error e, n') ∧
      (n' = n ∨ ∃ header,
        n' = n.withoutStream (n.host.step (.openSubscription header)).2.server)) ∨
    (n.takes token = true ∧ ∃ header, n.host.admits header = true ∧
      (connect name token).run n =
        (.ok [], n.withStream name (n.host.step (.openSubscription header)).2.server)) := by
  unfold connect takes
  cases token.attach with
  | error e => exact .inl ⟨rfl, e, n, rfl, .inl rfl⟩
  | ok header =>
    have hask : (Service.openSubscription n.nextCall (some header)).run n.service =
        (Server.statusOf ((n.service.openSubscription n.nextCall (some header)).1.map fun _ => []),
          (n.host.step (.openSubscription (some header))).2.server) := rfl
    have hadmits : n.host.admits (some header) =
        (n.service.openSubscription n.nextCall (some header)).1.toOption.isSome := rfl
    simp only [StateT.run_bind, StateT.run_get, pure_bind, run_newCall, run_ask, hask,
      accepted_statusOf, hadmits]
    cases hanswer : (n.service.openSubscription n.nextCall (some header)).1 with
    | error f =>
      have hforget (o : Owner) : ((n.nextCall, o) :: n.owners).filter (·.1 ≠ n.nextCall) =
          n.owners.filter (·.1 ≠ n.nextCall) := List.filter_cons_of_neg (by simp)
      refine .inl ⟨rfl, Error.ofStreamStatus f.status, _, rfl, .inr ⟨some header, ?_⟩⟩
      rw [withoutStream, ← hforget (.session name ((n.session name).opened + 1))]
      rfl
    | ok _ =>
      refine .inr ⟨rfl, some header, ?_, rfl⟩
      rw [hadmits, hanswer]
      rfl

end Network
end SensorRelay
