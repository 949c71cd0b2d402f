import SensorRelay.Client.Handshake
import SensorRelay.Client.Query
import SensorRelay.Proofs.Network.Operations

/-!
# Overheard services

A service on which somebody listens in. The tokens that it gives, the headers under which
subscription calls are asked for and the control frames on these calls are put down in their order;
the service itself is asked as ever, so whoever asks it notices nothing.
-/

namespace SensorRelay

open Auth Client Rpc

/-- What was overheard: a token was given, a subscription call was asked for under a header, or a
control frame was sent on a call. -/
inductive Remark
  | granted (token : Token)
  | called (call : CallId) (header : Option HeaderValue)
  | sent (call : CallId) (r : SubscribeRequest)
deriving DecidableEq

namespace Remark

def token? : Remark → Option Token
  | granted token => some token
  | _ => none

/-- The token that was given last. -/
def inForce (wire : List Remark) : Option Token :=
  (wire.filterMap token?).getLast?

theorem inForce_append (wire es : List Remark) :
    inForce (wire ++ es) = (inForce es).or (inForce wire) := by
  rw [inForce, List.filterMap_append, List.getLast?_append]
  rfl

theorem inForce_eq_none {es : List Remark} (h : ∀ token, granted token ∉ es) :
    inForce es = none := by
  rw [inForce, List.getLast?_eq_none_iff, List.filterMap_eq_nil_iff]
  intro e he
  cases e with
  | granted token => exact absurd he (h token)
  | _ => rfl

end Remark

/-- A service and what was overheard, oldest first. -/
structure Overheard (σ : Type) where
  inner : σ
  wire : List Remark

namespace Overheard

variable {σ : Type}

/-- Asks, and puts down what the answer shows. -/
def overhear {α : Type} (remarks : α → List Remark) (f : StateM σ α) : StateM (Overheard σ) α :=
  fun s =>
    let x := f.run s.inner
    (x.1, ⟨x.2, s.wire ++ remarks x.1⟩)

/-- Asks without listening. -/
def pass {α : Type} (f : StateM σ α) : StateM (Overheard σ) α := fun s =>
  let x := f.run s.inner
  (x.1, { s with inner := x.2 })

def grants : Except Status Token → List Remark
  | .ok token => [.granted token]
  | .error _ => []

def uploads (call : CallId) : Upload SubscribeRequest → List Remark
  | .message r => [.sent call r]
  | _ => []

instance [Service σ] : Service (Overheard σ) where
  registerSensor r o := pass (Service.registerSensor r o)
  registerClient r o := overhear grants (Service.registerClient r o)
  logIn login password o := overhear grants (Service.logIn login password o)
  roster tags := pass (Service.roster tags)
  history r := pass (Service.history r)
  openMeasurements call header := pass (Service.openMeasurements call header)
  uploadMeasurement call u o := pass (Service.uploadMeasurement call u o)
  openSubscription call header :=
    overhear (fun _ => [.called call header]) (Service.openSubscription call header)
  uploadControl call u := overhear (fun _ => uploads call u) (Service.uploadControl call u)

/-- What is heard when somebody takes over an identity. -/
def acquires : Except Error ClientIdentity → List Remark
  | .ok client => [.granted client.token]
  | .error _ => []

theorem overhear_bind {α β : Type} (remarks : α → List Remark) (f : StateM σ α)
    (g : α → StateM (Overheard σ) β) (s : Overheard σ) :
    (overhear remarks f >>= g) s = (g (f.run s.inner).1).run
      ⟨(f.run s.inner).2, s.wire ++ remarks (f.run s.inner).1⟩ :=
  rfl

/-- The token that is heard is the token of the identity. -/
theorem overhear_identity (f : StateM σ (Except Status Token)) (identity : Token → ClientIdentity)
    (hidentity : ∀ token, (identity token).token = token) :
    (do match answered (← overhear grants f) with
      | .ok token => return .ok (identity token)
      | .error s => return .error (Error.ofAuthStatus s)) =
    overhear acquires (do match answered (← f) with
      | .ok token => return .ok (identity token)
      | .error s => return .error (Error.ofAuthStatus s)) := by
  funext s
  rw [overhear_bind, overhear, StateT.run_bind]
  generalize f.run s.inner = x
  obtain ⟨answer, inner⟩ := x
  cases answer with
  | ok token =>
    change (_, (⟨inner, s.wire ++ [.granted token]⟩ : Overheard σ)) =
      (_, ⟨inner, s.wire ++ [.granted (identity token).token]⟩)
    rw [hidentity]
    rfl
  | error e => rfl

theorem pass_bind {α β : Type} {f : StateM σ α} {g : α → StateM σ β}
    {h : α → StateM (Overheard σ) β} (hg : ∀ a, h a = pass (g a)) :
    pass f >>= h = pass (f >>= g) := by
  rw [funext hg]
  rfl

section Questions

variable [Service σ]

theorem registerClient_eq (r : ClientRegistration) (o : Occasion) :
    (registerClient r o : StateM (Overheard σ) _) = overhear acquires (registerClient r o) :=
  overhear_identity _ _ fun _ => rfl

theorem logIn_eq (login password : String) (o : Occasion) :
    (logIn login password o : StateM (Overheard σ) _) =
      overhear acquires (logIn login password o) :=
  overhear_identity _ _ fun _ => rfl

theorem roster_eq (tags : List String) :
    (roster tags : StateM (Overheard σ) _) = pass (roster tags) := by
  refine pass_bind fun answer => ?_
  cases answer with
  | ok r => rfl
  | error s =>
    dsimp only
    cases s.failure? <;> rfl

theorem history_eq (sensorId : String) (depth : Int32) :
    (history sensorId depth : StateM (Overheard σ) _) = pass (history sensorId depth) := by
  have hfetch (r : HistoryRequest) :
      (fetchHistory r : StateM (Overheard σ) _) = pass (fetchHistory r) := by
    refine pass_bind fun answer => ?_
    cases answered answer <;> rfl
  unfold history
  split_ifs
  · rfl
  · rw [hfetch]
    refine pass_bind fun answer => ?_
    cases answer <;> rfl

end Questions

end Overheard

namespace Network

variable {σ : Type}

/-- The call of the open stream of a session. -/
def callOf? (n : Network σ) (name : String) : Option CallId :=
  (n.session name).active.map (·.call)

theorem isOpen_eq (n : Network σ) (name : String) :
    (n.session name).isOpen = (n.callOf? name).isSome := by
  rw [callOf?, Option.isSome_map]
  rfl

/-- Nothing was overheard, no call was made and no stream was opened, though one may be over. -/
structure Calm (name : String) (n n' : Network (Overheard σ)) : Prop where
  wire : n'.service.wire = n.service.wire
  nextCall : n'.nextCall = n.nextCall
  callOf? : n'.callOf? name = n.callOf? name ∨ n'.callOf? name = none

namespace Calm

variable {name : String} {n n' n'' : Network (Overheard σ)}

theorem refl (name : String) (n : Network (Overheard σ)) : Calm name n n :=
  ⟨rfl, rfl, .inl rfl⟩

theorem trans (h : Calm name n n') (h' : Calm name n' n'') : Calm name n n'' where
  wire := h'.wire.trans h.wire
  nextCall := h'.nextCall.trans h.nextCall
  callOf? := by
    rcases h'.callOf? with heq | heq
    · rw [heq]
      exact h.callOf?
    · exact .inr heq

end Calm

theorem callOf?_setSession_release (name key : String) (g : Nat) (n : Network σ) :
    (n.setSession key ((n.session key).release g)).callOf? name = n.callOf? name ∨
      (n.setSession key ((n.session key).release g)).callOf? name = none := by
  by_cases hkey : name = key
  · subst hkey
    rw [callOf?, session_setSession, SubscriptionSession.release]
    split_ifs
    · exact .inr rfl
    · exact .inl rfl
  · rw [callOf?, session_setSession_of_ne hkey]
    exact .inl rfl

theorem calm_hand (name : String) (o : Owner) (x : Signal) (n : Network (Overheard σ)) :
    Calm name n (hand o x n) := by
  cases o with
  | session key g =>
    cases x with
    | ended k => exact ⟨rfl, rfl, callOf?_setSession_release name key g n⟩
    | failed k s => exact ⟨rfl, rfl, callOf?_setSession_release name key g n⟩
    | _ => exact ⟨rfl, rfl, .inl rfl⟩
  | _ => cases x <;> exact ⟨rfl, rfl, .inl rfl⟩

variable [Service σ] {name : String}

/-- The service may be told that a call is over, which is no control frame. -/
theorem calm_receive (name : String) (x : Signal) (n : Network (Overheard σ)) :
    Calm name n ((receive x).run n).2 := by
  rw [run_receive]
  cases n.owners.lookup x.delivered.call with
  | none => exact .refl name n
  | some o =>
    have hhand := calm_hand name o x.delivered n
    cases x.delivered.isLast with
    | false => exact hhand
    | true => exact ⟨(List.append_nil _).trans hhand.wire, hhand.nextCall, hhand.callOf?⟩

theorem calm_receiveAll (name : String) (xs : List Signal) (n : Network (Overheard σ)) :
    Calm name n ((receiveAll xs).run n).2 := by
  induction xs generalizing n with
  | nil => exact .refl name n
  | cons x xs ih => exact (calm_receive name x n).trans (ih _)

theorem calm_close (name : String) (n : Network (Overheard σ)) :
    Calm name n ((close name).run n).2 := by
  have hclosed (s : Overheard σ) (hs : s.wire = n.service.wire) :
      Calm name n { n.setSession name (n.session name).close.2 with service := s } := by
    refine ⟨hs, rfl, .inr ?_⟩
    change (((n.setSession name (n.session name).close.2).session name).active.map _) = none
    rw [session_setSession]
    rfl
  rw [run_close]
  cases (n.session name).active with
  | none => exact hclosed n.service rfl
  | some a => exact (hclosed _ (List.append_nil _)).trans (calm_receiveAll name _ _)

/-- What a control frame under a token comes to: what is overheard, the number of the next call and
the call of the session's stream afterwards. -/
inductive Conveyed (name : String) (token : Token) (r : SubscribeRequest)
    (n : Network (Overheard σ)) : List Remark → CallId → Option CallId → Prop
  | unfit {e : Error} : n.callOf? name = none → token.attach = .error e →
      Conveyed name token r n [] n.nextCall none
  | refused {header : HeaderValue} {e : Error} : n.callOf? name = none →
      token.attach = .ok header → offer token n = .error e →
      Conveyed name token r n [.called n.nextCall (some header)] (n.nextCall + 1) none
  | opened {header : HeaderValue} {early : List Signal} {after : Option CallId} :
      n.callOf? name = none → token.attach = .ok header → offer token n = .ok early →
      after = some n.nextCall ∨ after = none →
      Conveyed name token r n [.called n.nextCall (some header), .sent n.nextCall r]
        (n.nextCall + 1) after
  | reused {k : CallId} {after : Option CallId} : n.callOf? name = some k →
      after = some k ∨ after = none → Conveyed name token r n [.sent k r] n.nextCall after

/-- The network once a control frame was sent and all that came back was received. -/
def afterFrame (name : String) (r : SubscribeRequest) (early : List Signal)
    (n : Network (Overheard σ)) : Network (Overheard σ) :=
  let x := (sendControl name r).run n
  ((receiveAll (early ++ x.1)).run x.2).2

section Frame

variable {token : Token} {n n' : Network (Overheard σ)} {early : List Signal} {k : CallId}

theorem control_of_open (r : SubscribeRequest) (h : (n.session name).isOpen = true) :
    ((control name token r).run n).2 = n.afterFrame name r [] := by
  rw [run_control, run_ensureOpen, if_pos h]
  rfl

theorem control_of_error {e : Error} (r : SubscribeRequest)
    (h : (n.session name).isOpen = false) (hc : (connect name token).run n = (.error e, n')) :
    ((control name token r).run n).2 = n' := by
  rw [run_control, run_ensureOpen, if_neg (by rw [h]; decide), hc]
  rfl

theorem control_of_ok (r : SubscribeRequest) (h : (n.session name).isOpen = false)
    (hc : (connect name token).run n = (.ok early, n')) :
    ((control name token r).run n).2 = n'.afterFrame name r early := by
  rw [run_control, run_ensureOpen, if_neg (by rw [h]; decide), hc]
  rfl

/-- The frame travels on the stream that is open. What comes back may end it. -/
theorem afterFrame_spec (r : SubscribeRequest) (early : List Signal)
    (hk : n.callOf? name = some k) :
    (n.afterFrame name r early).service.wire = n.service.wire ++ [.sent k r] ∧
      (n.afterFrame name r early).nextCall = n.nextCall ∧
      ((n.afterFrame name r early).callOf? name = some k ∨
        (n.afterFrame name r early).callOf? name = none) := by
  obtain ⟨a, ha, rfl⟩ := Option.map_eq_some_iff.mp hk
  have hrun := run_sendControl name r n
  rw [ha] at hrun
  have hcalm := calm_receiveAll name (early ++ ((sendControl name r).run n).1)
    ((sendControl name r).run n).2
  have hcall : ((sendControl name r).run n).2.callOf? name = some a.call := by
    rw [hrun]
    dsimp only
    rw [callOf?, session_setSession, SubscriptionSession.controlled, ha]
    rfl
  rw [← hcall]
  exact ⟨hcalm.wire.trans (by rw [hrun]; rfl), hcalm.nextCall.trans (by rw [hrun]; rfl),
    hcalm.callOf?⟩

end Frame

theorem conveyed_control (name : String) (token : Token) (r : SubscribeRequest)
    (n : Network (Overheard σ)) :
    let n' := ((control name token r).run n).2
    ∃ es, n'.service.wire = n.service.wire ++ es ∧
      Conveyed name token r n es n'.nextCall (n'.callOf? name) := by
  dsimp only
  have hopen := n.isOpen_eq name
  cases hk : n.callOf? name with
  | some k =>
    rw [hk] at hopen
    rw [control_of_open r hopen]
    obtain ⟨hwire, hnext, hcall⟩ := afterFrame_spec r [] hk
    rw [hnext]
    exact ⟨_, hwire, .reused hk hcall⟩
  | none =>
    rw [hk] at hopen
    have hconnect := run_connect name token n
    cases htoken : token.attach with
    | error e =>
      rw [htoken] at hconnect
      rw [control_of_error r hopen hconnect, hk]
      exact ⟨[], (List.append_nil _).symm, .unfit hk htoken⟩
    | ok header =>
      rw [htoken] at hconnect
      dsimp only at hconnect
      generalize hanswer : (Service.openSubscription n.nextCall (some header)).run n.service =
        answer at hconnect
      have hoffer : offer token n =
          (accepted n.nextCall answer.1).mapError Error.ofStreamStatus := by
        rw [offer, htoken, ← hanswer]
      have hwire : answer.2.wire = n.service.wire ++ [.called n.nextCall (some header)] := by
        rw [← hanswer]
        rfl
      cases haccepted : accepted n.nextCall answer.1 with
      | error s =>
        rw [haccepted] at hconnect hoffer
        rw [control_of_error r hopen hconnect]
        refine ⟨_, hwire, ?_⟩
        change Conveyed name token r n _ (n.nextCall + 1) (n.callOf? name)
        rw [hk]
        exact .refused hk htoken hoffer
      | ok early =>
        rw [haccepted] at hconnect hoffer
        rw [control_of_ok r hopen hconnect]
        have hcall : (n.withStream name answer.2).callOf? name = some n.nextCall := by
          rw [callOf?, session_withStream]
          rfl
        obtain ⟨hsent, hnext, hafter⟩ := afterFrame_spec r early hcall
        rw [hnext]
        refine ⟨_, hsent.trans ?_, .opened hk htoken hoffer hafter⟩
        change answer.2.wire ++ _ = _
        rw [hwire, List.append_assoc]
        rfl

end Network

/-- A program does the same when something in its state is forgotten. -/
def Forgets {S T α : Type} (forget : S → T) (f : StateM S α) (g : StateM T α) : Prop :=
  ∀ s, g.run (forget s) = ((f.run s).1, forget (f.run s).2)

namespace Forgets

variable {S T α β : Type} {forget : S → T} {f : StateM S α} {g : StateM T α}

theorem pure (a : α) : Forgets forget (Pure.pure a : StateM S α) (Pure.pure a : StateM T α) :=
  fun _ => rfl

theorem bind {f' : α → StateM S β} {g' : α → StateM T β} (h : Forgets forget f g)
    (h' : ∀ a, Forgets forget (f' a) (g' a)) : Forgets forget (f >>= f') (g >>= g') := by
  intro s
  rw [StateT.run_bind, StateT.run_bind, h s]
  exact h' _ _

end Forgets

namespace Network

variable {σ : Type}

/-- The network around the service itself. -/
def unheard (n : Network (Overheard σ)) : Network σ :=
  { n with service := n.service.inner }

theorem forgets_ask {α : Type} {f : StateM (Overheard σ) α} {g : StateM σ α}
    (h : Forgets Overheard.inner f g) : Forgets unheard (ask f) (ask g) := by
  intro n
  have hservice := h n.service
  rw [run_ask, run_ask]
  change Pure.pure ((g.run n.service.inner).1,
    ({ n.unheard with service := (g.run n.service.inner).2 } : Network σ)) = _
  rw [hservice]
  rfl

theorem hand_unheard (o : Owner) (x : Signal) (n : Network (Overheard σ)) :
    hand o x n.unheard = (hand o x n).unheard := by
  cases o <;> cases x <;> rfl

variable [Service σ]

theorem forgets_receive (x : Signal) :
    Forgets unheard (receive (σ := Overheard σ) x) (receive x) := by
  intro n
  have howners : n.unheard.owners = n.owners := rfl
  rw [run_receive, run_receive, howners]
  cases n.owners.lookup x.delivered.call with
  | none => rfl
  | some o =>
    dsimp only
    rw [hand_unheard]
    cases x.delivered.isLast <;> rfl

theorem forgets_receiveAll (xs : List Signal) :
    Forgets unheard (receiveAll (σ := Overheard σ) xs) (receiveAll xs) := by
  induction xs with
  | nil => exact .pure ()
  | cons x xs ih => exact (forgets_receive x).bind fun _ => ih

theorem forgets_connect (name : String) (token : Token) :
    Forgets unheard (connect (σ := Overheard σ) name token) (connect name token) := by
  intro n
  rw [run_connect, run_connect]
  cases token.attach with
  | error e => rfl
  | ok header =>
    have hnext : n.unheard.nextCall = n.nextCall := rfl
    have hask : (Service.openSubscription n.nextCall (some header)).run n.unheard.service =
        (((Service.openSubscription n.nextCall (some header)).run n.service).1,
          ((Service.openSubscription n.nextCall (some header)).run n.service).2.inner) := rfl
    dsimp only
    rw [hnext, hask]
    generalize (Service.openSubscription n.nextCall (some header)).run n.service = x
    cases accepted n.nextCall x.1 <;> rfl

theorem forgets_ensureOpen (name : String) (token : Token) :
    Forgets unheard (ensureOpen (σ := Overheard σ) name token) (ensureOpen name token) := by
  intro n
  have hsession : n.unheard.session name = n.session name := rfl
  rw [run_ensureOpen, run_ensureOpen, forgets_connect name token n, hsession]
  split_ifs <;> rfl

theorem forgets_sendControl (name : String) (r : SubscribeRequest) :
    Forgets unheard (sendControl (σ := Overheard σ) name r) (sendControl name r) := by
  intro n
  have hsession : n.unheard.session name = n.session name := rfl
  rw [run_sendControl, run_sendControl, hsession]
  cases (n.session name).active <;> rfl

theorem forgets_control (name : String) (token : Token) (r : SubscribeRequest) :
    Forgets unheard (control (σ := Overheard σ) name token r) (control name token r) := by
  refine (forgets_ensureOpen name token).bind fun answer => ?_
  cases answer with
  | error e => exact .pure _
  | ok x =>
    refine (forgets_sendControl name r).bind fun signals => ?_
    exact (forgets_receiveAll _).bind fun _ => .pure _

theorem forgets_close (name : String) :
    Forgets unheard (close (σ := Overheard σ) name) (close name) := by
  intro n
  have hsession : n.unheard.session name = n.session name := rfl
  rw [run_close, run_close, hsession]
  cases (n.session name).active with
  | none => rfl
  | some a =>
    have hreceived := congrArg Prod.snd (forgets_receiveAll
      ((Service.uploadControl a.call .halfClose).run n.service).1
      { n.setSession name (n.session name).close.2 with
        service := ((Service.uploadControl a.call .halfClose).run n.service).2 })
    exact Prod.ext rfl hreceived

end Network
end SensorRelay
