import SensorRelay.Proofs.Server.Subscription
import SensorRelay.Proofs.Uuid

/-!
# The control plane

To its client a subscription call is a set of ids. Every control frame is answered at once by the
verdict on it, nothing is heard after the end, and a frame may spell its id in any way.
-/

namespace SensorRelay

open Auth Rpc

/-- A subscription call as its client knows it. -/
inductive Phase
  | unopened
  | following (f : Finset Uuid)
  | finished

namespace Phase

def followed? : Phase → Option (Finset Uuid)
  | following f => some f
  | _ => none

/-- What something on the request half does to call `k`, and the answers to it. -/
def upload (k : CallId) (registered : Uuid → Bool) :
    Phase → Upload SubscribeRequest → Phase × List Signal
  | following f, .message r =>
    let v := Verdict.of registered f r
    (following (v.next f), [.frame k (some v.frame)])
  | following _, .halfClose => (finished, [.frame k (some Server.farewell), .ended k])
  | following _, .broken => (finished, [.failed k Refusal.clientStreamFailed.status])
  | following _, .abandoned => (finished, [])
  | p, _ => (p, [])

end Phase

/-- Is it an answer on a subscription call, or its end, and no event? -/
def Signal.isControl : Signal → Bool
  | .frame _ (some (.action _)) | .ended _ | .failed .. => true
  | _ => false

/-- The answers on a subscription call. -/
def answers (k : CallId) (xs : List Signal) : List Signal :=
  (heard k xs).filter Signal.isControl

theorem answers_append (k : CallId) (xs ys : List Signal) :
    answers k (xs ++ ys) = answers k xs ++ answers k ys := by
  rw [answers, heard_append, List.filter_append]
  rfl

/-- What a moment shows, whatever was asked. -/
def Moment.shown (m : Moment) : Option (Uuid × SensorEvent) × Reply × List Signal :=
  (m.published, m.reply, m.signals)

namespace Host

variable {h : Host}

/-- What an action does to a call, and the answers that its client expects. -/
def controlled (h : Host) (k : CallId) (p : Phase) : Action → Phase × List Signal
  | .openSubscription header =>
    match p with
    | .unopened => (if k = h.nextCall ∧ h.admits header = true then .following ∅ else p, [])
    | _ => (p, [])
  | .uploadControl call u => if call = k then p.upload k h.server.directory.has u else (p, [])
  | _ => (p, [])

def controlRun (h : Host) (k : CallId) (p : Phase) : List Action → Phase × List Signal
  | [] => (p, [])
  | a :: as =>
    let first := h.controlled k p a
    let rest := (h.step a).2.controlRun k first.1 as
    (rest.1, first.2 ++ rest.2)

/-- All that comes back in a run. -/
def signals (h : Host) (as : List Action) : List Signal :=
  (h.run as).1.flatMap Moment.signals

theorem signals_cons (a : Action) (as : List Action) :
    h.signals (a :: as) = (h.step a).1.signals ++ (h.step a).2.signals as := rfl

/-- Nobody has the number, and nobody will have it again. -/
structure Spent (h : Host) (k : CallId) : Prop where
  unfollowed : h.followed? k = none
  taken : k < h.nextCall
  idle : ∀ p ∈ h.server.measuring, p.1 ≠ k

/-- The phase that a call is in. -/
def InPhase (h : Host) (k : CallId) : Phase → Prop
  | .unopened => h.followed? k = none
  | .following f => h.followed? k = some f
  | .finished => h.Spent k

theorem InPhase.followed?_eq {k : CallId} {p : Phase} (hp : h.InPhase k p) :
    h.followed? k = p.followed? := by
  cases p with
  | unopened => exact hp
  | following f => exact hp
  | finished => exact hp.unfollowed

theorem Spent.step {k : CallId} (hs : h.Spent k) (hh : h.Sound) (ha : h.Attentive) (a : Action) :
    (h.step a).2.Spent k ∧ heard k (h.step a).1.signals = [] := by
  refine ⟨⟨?_, Nat.lt_of_lt_of_le hs.taken (h.nextCall_le_step a), ?_⟩, ?_⟩
  · rw [ha.followed?_step hh]
    cases a with
    | openSubscription header => simp [hs.taken.ne, hs.unfollowed]
    | uploadControl call u => simp [hs.unfollowed]
    | _ => exact hs.unfollowed
  · intro p hp
    rcases h.measuring_step a with hm | ⟨id, hm, -, -⟩ | ⟨call, hm⟩ <;> rw [hm] at hp
    · exact hs.idle p hp
    · rcases List.mem_append.mp hp with hp | hp
      · exact hs.idle p hp
      · rw [List.mem_singleton.mp hp]
        exact hs.taken.ne'
    · exact hs.idle p (List.mem_filter.mp hp).1
  · rw [ha.heard_step hh, forwarded_eq_nil hs.unfollowed, List.append_nil]
    exact heard_direct_eq_nil hh hs.taken hs.idle fun u _ => hs.unfollowed

theorem answers_forwarded (h : Host) (k : CallId) (a : Action) :
    (h.forwarded k a).filter Signal.isControl = [] := by
  unfold forwarded
  split
  · rename_i id c f _ _
    split_ifs
    · cases c <;> rfl
    · rfl
  · rfl

theorem isControl_verdict (k : CallId) (v : Verdict) :
    (Signal.frame k (some v.frame)).isControl = true := by
  cases v <;> rfl

theorem InPhase.step {k : CallId} {p : Phase} (hp : h.InPhase k p) (hh : h.Sound)
    (ha : h.Attentive) (a : Action) :
    (h.step a).2.InPhase k (h.controlled k p a).1 ∧
      answers k (h.step a).1.signals = (h.controlled k p a).2 := by
  have hafter := ha.followed?_step hh a k
  cases p with
  | unopened =>
    have hquiet : answers k (h.step a).1.signals = [] := by
      rw [answers, List.filter_eq_nil_iff]
      intro x hx
      obtain ⟨r, rfl⟩ := ha.heard_step_of_followed?_eq_none hh a hp x hx
      simp [Signal.isControl]
    have hnone : h.followed? k = none := hp
    rw [hquiet]
    cases a with
    | openSubscription header =>
      refine ⟨?_, rfl⟩
      simp only [controlled]
      split_ifs with hopen
      · exact hafter.trans (if_pos hopen)
      · exact (hafter.trans (if_neg hopen)).trans hnone
    | uploadControl call u =>
      have hstay : h.controlled k .unopened (.uploadControl call u) = (.unopened, []) := by
        simp only [controlled]
        split_ifs <;> rfl
      rw [hstay]
      refine ⟨hafter.trans ?_, rfl⟩
      simp [hnone]
    | _ => exact ⟨hafter.trans hnone, rfl⟩
  | following f =>
    by_cases hown : ∃ u, a = .uploadControl k u
    · obtain ⟨u, rfl⟩ := hown
      have hheard := ha.heard_step_of_followed? hh (.uploadControl k u) hp
      have hf : h.followed? k = some f := hp
      simp only [if_true, hf, Option.bind_some] at hheard hafter
      rw [answers, hheard, List.filter_append, answers_forwarded, List.append_nil, controlled,
        if_pos rfl]
      have hspent (hend : (h.step (.uploadControl k u)).2.followed? k = none) :
          (h.step (.uploadControl k u)).2.Spent k := by
        refine ⟨hend, Nat.lt_of_lt_of_le (ha.lt_nextCall hf) (h.nextCall_le_step _), ?_⟩
        rw [h.measuring_step_of_change?_eq_none rfl]
        exact ha.apart k (mem_subscriptions hf)
      cases u with
      | message r =>
        refine ⟨hafter, ?_⟩
        simp [Phase.upload, isControl_verdict]
      | _ => exact ⟨hspent hafter, rfl⟩
    · have hne : ∀ u, a ≠ .uploadControl k u := fun u heq => hown ⟨u, heq⟩
      obtain ⟨hsame, hheard⟩ := ha.step_elsewhere hh hp hne
      have hstay : h.controlled k (.following f) a = (.following f, []) := by
        cases a with
        | uploadControl call u =>
          refine if_neg ?_
          rintro rfl
          exact hne u rfl
        | _ => rfl
      rw [hstay, answers, hheard, answers_forwarded]
      exact ⟨hsame, rfl⟩
  | finished =>
    obtain ⟨hspent, hheard⟩ := Spent.step hp hh ha a
    have hstay : h.controlled k .finished a = (.finished, []) := by
      cases a with
      | uploadControl call u =>
        simp only [controlled]
        split_ifs
        · rfl
        · rfl
      | _ => rfl
    rw [hstay, answers, hheard]
    exact ⟨hspent, rfl⟩

theorem InPhase.run {k : CallId} {p : Phase} (hp : h.InPhase k p) (hh : h.Sound)
    (ha : h.Attentive) (as : List Action) :
    (h.after as).InPhase k (h.controlRun k p as).1 ∧
      answers k (h.signals as) = (h.controlRun k p as).2 := by
  induction as generalizing h p with
  | nil => exact ⟨hp, rfl⟩
  | cons a as ih =>
    obtain ⟨hnext, hanswers⟩ := hp.step hh ha a
    obtain ⟨hlast, hrest⟩ := ih hnext (hh.step a) (ha.step hh a)
    refine ⟨hlast, ?_⟩
    rw [signals_cons, answers_append, hanswers, hrest]
    rfl

theorem Spent.run {k : CallId} (hs : h.Spent k) (hh : h.Sound) (ha : h.Attentive)
    (as : List Action) : heard k (h.signals as) = [] := by
  induction as generalizing h with
  | nil => rfl
  | cons a as ih =>
    obtain ⟨hnext, hheard⟩ := hs.step hh ha a
    rw [signals_cons, heard_append, hheard, ih hnext (hh.step a) (ha.step hh a), List.nil_append]

/-- Two actions that are the same but for the spelling of an id in a control frame. -/
inductive Respelled : Action → Action → Prop
  | same (a : Action) : Respelled a a
  | spelled {u : Uuid} {text text' : String} {form form' : Uuid.Form} (call : CallId)
      (disconnect : Bool) (htext : Text.lower text.toList = u.spelled form)
      (htext' : Text.lower text'.toList = u.spelled form') :
      Respelled (.uploadControl call (.message ⟨text, disconnect⟩))
        (.uploadControl call (.message ⟨text', disconnect⟩))

theorem Respelled.act_eq {a b : Action} (hab : Respelled a b) (h : Host) : h.act a = h.act b := by
  cases hab with
  | same => rfl
  | spelled call disconnect htext htext' =>
    have hparse := Uuid.parse?_eq_some_iff.mpr ⟨_, htext⟩
    have hparse' := Uuid.parse?_eq_some_iff.mpr ⟨_, htext'⟩
    simp only [act, Service.uploadControl, Server.uploadControl, Server.control,
      Subscriber.control, hparse, hparse']

theorem Respelled.step_eq {a b : Action} (hab : Respelled a b) (h : Host) :
    (h.step a).1.shown = (h.step b).1.shown ∧ (h.step a).2 = (h.step b).2 := by
  simp only [step, Moment.shown, published, hab.act_eq h, and_self]

theorem Respelled.run_eq {as bs : List Action} (hab : List.Forall₂ Respelled as bs) (h : Host) :
    (h.run as).1.map Moment.shown = (h.run bs).1.map Moment.shown ∧ h.after as = h.after bs := by
  induction hab generalizing h with
  | nil => exact ⟨rfl, rfl⟩
  | cons hhead htail ih =>
    obtain ⟨hshown, hnext⟩ := hhead.step_eq h
    obtain ⟨hrest, hafter⟩ := ih (h.step _).2
    rw [moments_cons, moments_cons, List.map_cons, List.map_cons, after_cons, after_cons, hshown,
      ← hnext, hrest]
    exact ⟨rfl, hafter⟩

/-- The answers on a subscription call are those of a set of ids that starts empty. Once it is over
nothing more is heard on it. An id has four spellings in any case, and none of them makes a
difference. -/
theorem answers_eq_controlRun (issuer : Issuer) (historyCapacity eventBuffer : Nat)
    (as : List Action) (k : CallId) :
    let start := fresh issuer historyCapacity eventBuffer
    let expected := start.controlRun k .unopened as
    (start.after as).followed? k = expected.1.followed? ∧
      answers k (start.signals as) = expected.2 ∧
      (expected.1 = .finished → ∀ bs, heard k ((start.after as).signals bs) = []) ∧
      (∀ text u, Uuid.parse? text = some u ↔ ∃ form, Text.lower text.toList = u.spelled form) ∧
      ∀ bs, List.Forall₂ Respelled as bs →
        (start.run as).1.map Moment.shown = (start.run bs).1.map Moment.shown ∧
          start.after as = start.after bs := by
  intro start expected
  have hsound := sound_fresh issuer historyCapacity eventBuffer
  have hattentive := attentive_fresh issuer historyCapacity eventBuffer
  obtain ⟨hphase, hanswers⟩ :=
    InPhase.run (p := .unopened) (k := k) (h := start) rfl hsound hattentive as
  refine ⟨hphase.followed?_eq, hanswers, ?_, fun _ _ => Uuid.parse?_eq_some_iff,
    fun bs hbs => Respelled.run_eq hbs start⟩
  intro hover bs
  have hspent : (start.after as).InPhase k .finished := hover ▸ hphase
  exact Spent.run hspent (hsound.after as) (hattentive.after hsound as) bs

end Host
end SensorRelay
