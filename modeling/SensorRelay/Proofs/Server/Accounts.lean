import SensorRelay.Proofs.Server.Authorization

/-!
# Accounts

The accounts of a server are the registrations that it accepted, whatever else is asked of it in
between, and which it accepts can be told from the calls alone. A token that a call brought is its
login's for good, and opens subscriptions wherever there is room for their frames.
-/

namespace SensorRelay

open Auth Rpc

namespace ClientRegistration

/-- Nothing is empty, and neither the login nor the email was given before. -/
def IsAcceptable (r : ClientRegistration) (rs : List ClientRegistration) : Prop :=
  r.login ≠ "" ∧ r.password ≠ "" ∧ r.email ≠ "" ∧
    ∀ q ∈ rs, q.login ≠ r.login ∧ q.email ≠ r.email

instance (r : ClientRegistration) (rs : List ClientRegistration) : Decidable (r.IsAcceptable rs) :=
  inferInstanceAs (Decidable (_ ∧ _ ∧ _ ∧ _))

def account (r : ClientRegistration) : Account :=
  ⟨r.login, Accounts.digest r.password, r.email⟩

end ClientRegistration

namespace Action

/-- The registrations in force after one more action. -/
def enrol (rs : List ClientRegistration) : Action → List ClientRegistration
  | registerClient r _ => if r.IsAcceptable rs then rs ++ [r] else rs
  | _ => rs

/-- The login that an action asks a token for. -/
def login? : Action → Option String
  | registerClient r _ => some r.login
  | logIn login _ _ => some login
  | _ => none

theorem enrol_of_ne {a : Action} (ha : ∀ r o, a ≠ .registerClient r o)
    (rs : List ClientRegistration) : a.enrol rs = rs := by
  cases a with
  | registerClient r o => exact absurd rfl (ha r o)
  | _ => rfl

end Action

/-- The registrations that some actions leave in force. -/
def registrations (as : List Action) : List ClientRegistration :=
  as.foldl Action.enrol []

theorem registrations_concat (as : List Action) (a : Action) :
    registrations (as ++ [a]) = a.enrol (registrations as) :=
  List.foldl_append

namespace Accounts

/-- The accounts are these registrations, in their order. -/
structure Represents (a : Accounts) (rs : List ClientRegistration) : Prop where
  entries : a.entries = rs.map (·.account)
  logins : (rs.map (·.login)).Nodup
  emails : (rs.map (·.email)).Nodup

theorem represents_empty : empty.Represents [] where
  entries := rfl
  logins := List.nodup_nil
  emails := List.nodup_nil

namespace Represents

variable {a a' : Accounts} {rs : List ClientRegistration} {r : ClientRegistration} {login : String}

theorem contains_iff (h : a.Represents rs) :
    a.contains login = true ↔ ∃ r ∈ rs, r.login = login := by
  rw [contains, find?, h.entries, List.find?_isSome]
  simp [ClientRegistration.account]

/-- A login has one registration at most, so it does not matter that only the first is looked at. -/
theorem verify_iff (h : a.Represents rs) (password : String) :
    a.verify login password = true ↔
      ∃ r ∈ rs, r.login = login ∧ digest r.password = digest password := by
  have hfind : a.find? login = (rs.find? (·.login = login)).map (·.account) := by
    rw [find?, h.entries, List.find?_map]
    rfl
  rw [verify, hfind]
  cases hr : rs.find? (·.login = login) with
  | none =>
    rw [List.find?_eq_none] at hr
    refine ⟨fun hfalse => absurd hfalse (by simp), fun ⟨r, hmem, hlogin, _⟩ => ?_⟩
    exact absurd (decide_eq_true hlogin) (hr r hmem)
  | some r =>
    have hlogin : r.login = login := by simpa using List.find?_some hr
    have hmem := List.mem_of_find?_eq_some hr
    simp only [Option.map_some, ClientRegistration.account, decide_eq_true_eq]
    refine ⟨fun hdigest => ⟨r, hmem, hlogin, hdigest⟩, fun ⟨q, hq, hlogin', hdigest⟩ => ?_⟩
    have hsame : q = r := List.inj_on_of_nodup_map h.logins hq hmem (hlogin'.trans hlogin.symm)
    rwa [hsame] at hdigest

theorem register?_eq (h : a.Represents rs) (r : ClientRegistration) :
    a.register? r = if ∀ q ∈ rs, q.login ≠ r.login ∧ q.email ≠ r.email then
      some ⟨a.entries ++ [r.account]⟩ else none := by
  have htaken : (a.contains r.login || a.entries.any (·.email = r.email)) = true ↔
      ¬ ∀ q ∈ rs, q.login ≠ r.login ∧ q.email ≠ r.email := by
    have hemail : a.entries.any (·.email = r.email) = true ↔ ∃ q ∈ rs, q.email = r.email := by
      rw [h.entries]
      simp [ClientRegistration.account]
    rw [Bool.or_eq_true, h.contains_iff, hemail]
    constructor
    · rintro (⟨q, hq, heq⟩ | ⟨q, hq, heq⟩) hnew
      · exact (hnew q hq).1 heq
      · exact (hnew q hq).2 heq
    · intro hnew
      by_contra hfree
      rw [not_or] at hfree
      exact hnew fun q hq => ⟨fun heq => hfree.1 ⟨q, hq, heq⟩, fun heq => hfree.2 ⟨q, hq, heq⟩⟩
  rw [register?]
  by_cases hnew : ∀ q ∈ rs, q.login ≠ r.login ∧ q.email ≠ r.email
  · rw [if_neg (by rw [htaken]; exact not_not.mpr hnew), if_pos hnew]
    rfl
  · rw [if_pos (htaken.mpr hnew), if_neg hnew]

theorem concat (h : a.Represents rs) (hr : r.IsAcceptable rs) :
    Represents ⟨a.entries ++ [r.account]⟩ (rs ++ [r]) where
  entries := by rw [h.entries, List.map_append, List.map_singleton]
  logins := by
    rw [List.map_append]
    apply h.logins.append (List.nodup_singleton _)
    apply List.disjoint_singleton.mpr
    intro hmem
    obtain ⟨q, hq, heq⟩ := List.mem_map.mp hmem
    exact (hr.2.2.2 q hq).1 heq
  emails := by
    rw [List.map_append]
    apply h.emails.append (List.nodup_singleton _)
    apply List.disjoint_singleton.mpr
    intro hmem
    obtain ⟨q, hq, heq⟩ := List.mem_map.mp hmem
    exact (hr.2.2.2 q hq).2 heq

end Represents
end Accounts

namespace Server

variable {s : Server} {rs : List ClientRegistration} {r : ClientRegistration}

theorem registerClient_of_isAcceptable (hs : s.accounts.Represents rs) (hr : r.IsAcceptable rs)
    (o : Occasion) : s.registerClient r o =
      (.ok (s.tokenFor r.login o), { s with accounts := ⟨s.accounts.entries ++ [r.account]⟩ }) := by
  obtain ⟨hlogin, hpassword, hemail, hnew⟩ := hr
  have hfull : ¬ (r.login.isEmpty || r.password.isEmpty || r.email.isEmpty) = true := by
    simp [hlogin, hpassword, hemail]
  rw [registerClient, if_neg hfull, hs.register?_eq, if_pos hnew]

/-- The same refusal for a taken login as for a taken email. -/
theorem registerClient_of_not_isAcceptable (hs : s.accounts.Represents rs)
    (hr : ¬ r.IsAcceptable rs) (o : Occasion) :
    s.registerClient r o = (.error (if r.login = "" ∨ r.password = "" ∨ r.email = "" then
      .clientDetailsMissing else .clientTaken), s) := by
  have hempty : (r.login.isEmpty || r.password.isEmpty || r.email.isEmpty) = true ↔
      r.login = "" ∨ r.password = "" ∨ r.email = "" := by
    simp [or_assoc]
  rw [registerClient]
  by_cases hmissing : r.login = "" ∨ r.password = "" ∨ r.email = ""
  · rw [if_pos (hempty.mpr hmissing), if_pos hmissing]
  · have htaken : ¬ ∀ q ∈ rs, q.login ≠ r.login ∧ q.email ≠ r.email := by
      intro hnew
      rw [not_or, not_or] at hmissing
      exact hr ⟨hmissing.1, hmissing.2.1, hmissing.2.2, hnew⟩
    rw [if_neg (hempty.not.mpr hmissing), hs.register?_eq, if_neg htaken, if_neg hmissing]

end Server

namespace Host

variable {h : Host} {rs : List ClientRegistration}

theorem represents_step (hh : h.server.accounts.Represents rs) (a : Action) :
    (h.step a).2.server.accounts.Represents (a.enrol rs) := by
  by_cases ha : ∃ r o, a = .registerClient r o
  · obtain ⟨r, o, rfl⟩ := ha
    by_cases hr : r.IsAcceptable rs
    · simp only [step, act, Service.registerClient,
        Server.registerClient_of_isAcceptable hh hr, Action.enrol, if_pos hr]
      exact hh.concat hr
    · simp only [step, act, Service.registerClient,
        Server.registerClient_of_not_isAcceptable hh hr, Action.enrol, if_neg hr]
      exact hh
  · have hne : ∀ r o, a ≠ .registerClient r o := fun r o heq => ha ⟨r, o, heq⟩
    rw [accounts_step hne, Action.enrol_of_ne hne]
    exact hh

theorem represents_after (issuer : Issuer) (historyCapacity eventBuffer : Nat) (as : List Action) :
    ((fresh issuer historyCapacity eventBuffer).after as).server.accounts.Represents
      (registrations as) := by
  induction as using List.reverseRecOn with
  | nil => exact Accounts.represents_empty
  | append_singleton as a ih =>
    rw [after_append, after_cons, after_nil, registrations_concat]
    exact represents_step ih a

theorem registerClient_accepted (hh : h.server.accounts.Represents rs) {r : ClientRegistration}
    (hr : r.IsAcceptable rs) (o : Occasion) :
    (h.step (.registerClient r o)).1.reply =
      .token (.ok (h.server.issuer.issue (.client r.login) o.now.seconds)) := by
  simp only [step, act, Service.registerClient, Server.registerClient_of_isAcceptable hh hr]
  rfl

/-- A refused registration leaves nothing behind. -/
theorem registerClient_not_accepted (hh : h.server.accounts.Represents rs) {r : ClientRegistration}
    (hr : ¬ r.IsAcceptable rs) (o : Occasion) :
    (h.step (.registerClient r o)).1.reply = .token (.error (Refusal.status
      (if r.login = "" ∨ r.password = "" ∨ r.email = "" then .clientDetailsMissing
        else .clientTaken))) ∧
      (h.step (.registerClient r o)).2 = h := by
  simp only [step, act, Service.registerClient, Server.registerClient_of_not_isAcceptable hh hr,
    and_true]
  rfl

theorem reply_logIn (hh : h.server.accounts.Represents rs) (login password : String)
    (o : Occasion) :
    (h.step (.logIn login password o)).1.reply = .token
      (if ∃ r ∈ rs, r.login = login ∧ Accounts.digest r.password = Accounts.digest password then
        .ok (h.server.issuer.issue (.client login) o.now.seconds)
      else .error Refusal.wrongCredentials.status) := by
  simp only [step, act, Service.logIn, Server.logIn, hh.verify_iff]
  split_ifs <;> rfl

/-- A token is given to the login that asks for it, which has an account by then. -/
theorem token_of_step (hh : h.server.accounts.Represents rs) {a : Action} {t : Token}
    (ht : (h.step a).1.reply = .token (.ok t)) :
    ∃ login moment, a.login? = some login ∧
      t = h.server.issuer.issue (.client login) (Instant.seconds moment) ∧
      (h.step a).2.server.accounts.contains login = true := by
  cases a with
  | registerClient r o =>
    refine ⟨r.login, o.now, rfl, ?_⟩
    by_cases hr : r.IsAcceptable rs
    · rw [registerClient_accepted hh hr] at ht
      refine ⟨(Except.ok.inj (Reply.token.inj ht)).symm, ?_⟩
      rw [(represents_step hh _).contains_iff, Action.enrol, if_pos hr]
      exact ⟨r, List.mem_append_right _ (List.mem_singleton_self r), rfl⟩
    · rw [(registerClient_not_accepted hh hr o).1] at ht
      cases ht
  | logIn login password o =>
    refine ⟨login, o.now, rfl, ?_⟩
    rw [reply_logIn hh] at ht
    split_ifs at ht with hverified
    · obtain ⟨r, hr, hlogin, -⟩ := hverified
      refine ⟨(Except.ok.inj (Reply.token.inj ht)).symm, ?_⟩
      exact contains_step _ (hh.contains_iff.mpr ⟨r, hr, hlogin⟩)
    · cases ht
  | _ => cases ht

theorem token_of_mem_run (hh : h.server.accounts.Represents rs) {as : List Action} {m : Moment}
    (hm : m ∈ (h.run as).1) {t : Token} (ht : m.reply = .token (.ok t)) :
    ∃ login moment, m.action.login? = some login ∧
      t = h.server.issuer.issue (.client login) (Instant.seconds moment) ∧
      (h.after as).server.accounts.contains login = true := by
  induction as generalizing h rs with
  | nil => cases hm
  | cons a as ih =>
    rw [moments_cons] at hm
    rcases List.mem_cons.mp hm with rfl | hm
    · obtain ⟨login, moment, hlogin, heq, hknown⟩ := token_of_step hh ht
      exact ⟨login, moment, hlogin, heq,
        after_keeps (P := fun x => x.server.accounts.contains login = true)
          (fun a hx => contains_step a hx) hknown as⟩
    · obtain ⟨login, moment, hlogin, heq, hknown⟩ := ih (represents_step hh a) hm
      rw [issuer_step] at heq
      exact ⟨login, moment, hlogin, heq, hknown⟩

theorem eventBuffer_step (a : Action) :
    (h.step a).2.server.directory.eventBuffer = h.server.directory.eventBuffer := by
  rcases h.directory_step a with ⟨-, hd⟩ | ⟨r, o, -, hd⟩ | ⟨id, c, -, hd⟩
  · rw [hd]
  · obtain ⟨-, -, hd⟩ := Directory.register_eq_ok_iff.mp hd
    rw [← hd]
  · rw [hd]
    exact (Directory.capacities_modify _ id _).2

/-- The queue of frames of a subscription can be made. -/
def HasQueue (eventBuffer : Nat) : Prop :=
  eventBuffer ≠ 0 ∧ eventBuffer ≤ Server.greatestQueue

variable {header : Option HeaderValue} {login : String}

theorem request_subscription (hlogin : h.server.loginOf header = .ok login)
    (hqueue : HasQueue h.server.directory.eventBuffer) :
    (h.request header .subscription).refusal? = none ∧
      (h.request header .subscription).host.server.subscribers =
        h.server.subscribers ++ [.admitted h.nextCall login] := by
  have hroom : ¬ (h.server.directory.eventBuffer = 0 ∨
      Server.greatestQueue < h.server.directory.eventBuffer) := by
    rw [not_or, not_lt]
    exact hqueue
  rw [request_eq_outcome (Server.authenticate_of_loginOf hlogin).1]
  simp only [outcome, Call.action, step, act, Service.openSubscription, Server.openSubscription,
    hlogin, if_neg hroom]
  exact ⟨rfl, trivial⟩

theorem request_subscription_without_queue (hlogin : h.server.loginOf header = .ok login)
    (hqueue : ¬ HasQueue h.server.directory.eventBuffer) :
    (h.request header .subscription).refusal? = some Refusal.unbuffered.status ∧
      (h.request header .subscription).host.server = h.server := by
  have hfull : h.server.directory.eventBuffer = 0 ∨
      Server.greatestQueue < h.server.directory.eventBuffer := by
    by_contra hroom
    rw [not_or, not_lt] at hroom
    exact hqueue hroom
  rw [request_eq_outcome (Server.authenticate_of_loginOf hlogin).1]
  simp only [outcome, Call.action, step, act, Service.openSubscription, Server.openSubscription,
    hlogin, if_pos hfull]
  exact ⟨rfl, trivial⟩

theorem loginOf_of_authenticate
    (hauth : h.server.issuer.authenticate header = .ok (some (.client login)))
    (hknown : h.server.accounts.contains login = true) : h.server.loginOf header = .ok login := by
  rw [Server.loginOf_of_authenticate hauth]
  exact if_pos hknown

/-- After any run the accounts are the registrations accepted so far, all of them with logins and
emails of their own: those decide what registers next and who logs in, a refused registration leaves
the host as it was, and every token that was given is its login's and opens subscriptions wherever
there is a queue for them. -/
theorem accounts_refine_registrations (issuer : Issuer) (historyCapacity eventBuffer : Nat)
    (as : List Action) :
    let start := fresh issuer historyCapacity eventBuffer
    let h := start.after as
    let rs := registrations as
    h.server.accounts.entries = rs.map (·.account) ∧
    (rs.map (·.login)).Nodup ∧ (rs.map (·.email)).Nodup ∧
    (∀ r o, r.IsAcceptable rs →
      (h.step (.registerClient r o)).1.reply =
          .token (.ok (issuer.issue (.client r.login) o.now.seconds)) ∧
        registrations (as ++ [.registerClient r o]) = rs ++ [r]) ∧
    (∀ r o, ¬ r.IsAcceptable rs →
      (h.step (.registerClient r o)).1.reply = .token (.error (Refusal.status
          (if r.login = "" ∨ r.password = "" ∨ r.email = "" then .clientDetailsMissing
            else .clientTaken))) ∧
        (h.step (.registerClient r o)).2 = h ∧
        registrations (as ++ [.registerClient r o]) = rs) ∧
    (∀ login password o, (h.step (.logIn login password o)).1.reply = .token
      (if ∃ r ∈ rs, r.login = login ∧ Accounts.digest r.password = Accounts.digest password then
        .ok (issuer.issue (.client login) o.now.seconds)
      else .error Refusal.wrongCredentials.status)) ∧
    ∀ m ∈ (start.run as).1, ∀ t, m.reply = .token (.ok t) → ∃ login v,
      m.action.login? = some login ∧ issuer.validate t.text = .ok (.client login) ∧
      t.attach = .ok v ∧
      let x := h.request (some v) .subscription
      (HasQueue eventBuffer → x.refusal? = none ∧
        x.host.server.subscribers = h.server.subscribers ++ [.admitted h.nextCall login]) ∧
      (¬ HasQueue eventBuffer →
        x.refusal? = some Refusal.unbuffered.status ∧ x.host.server = h.server) := by
  intro start h rs
  have hh : h.server.accounts.Represents rs :=
    represents_after issuer historyCapacity eventBuffer as
  have hissuer : h.server.issuer = issuer := after_keeps (P := fun x => x.server.issuer = issuer)
    (fun a hx => (issuer_step _ a).trans hx) rfl as
  have hbuffer : h.server.directory.eventBuffer = eventBuffer :=
    after_keeps (P := fun x => x.server.directory.eventBuffer = eventBuffer)
      (fun a hx => (eventBuffer_step a).trans hx) rfl as
  refine ⟨hh.entries, hh.logins, hh.emails, fun r o hr => ?_, fun r o hr => ?_, ?_, ?_⟩
  · rw [registerClient_accepted hh hr, hissuer, registrations_concat, Action.enrol, if_pos hr]
    exact ⟨rfl, rfl⟩
  · obtain ⟨hreply, hsame⟩ := registerClient_not_accepted hh hr o
    rw [registrations_concat, Action.enrol, if_neg hr]
    exact ⟨hreply, hsame, rfl⟩
  · intro login password o
    rw [reply_logIn hh, hissuer]
  · intro m hm t ht
    obtain ⟨login, moment, hlogin, rfl, hknown⟩ :=
      token_of_mem_run Accounts.represents_empty hm ht
    obtain ⟨v, hv, hauth⟩ := issuer.exists_attach_issue (.client login) moment
    have hopener : h.server.loginOf (some v) = .ok login :=
      loginOf_of_authenticate (by rw [hissuer]; exact hauth) hknown
    have hvalid := issuer.principalOf?_issue (.client login) (Issuer.seconds_mem moment)
    rw [← hbuffer]
    exact ⟨login, v, hlogin, Issuer.validate_eq_ok_iff.mpr hvalid, hv,
      request_subscription hopener, request_subscription_without_queue hopener⟩

/-- A token is given and opens nothing where the queue would be too long. -/
theorem token_opens_nothing_without_queue :
    let start := fresh impatientIssuer 10 (2 ^ 63)
    let register := Action.registerClient ⟨"alice", "p", "e"⟩ ⟨epoch, ⟨5⟩⟩
    ∃ t v, (start.step register).1.reply = .token (.ok t) ∧ t.attach = .ok v ∧
      ((start.after [register]).request (some v) .subscription).refusal? =
        some Refusal.unbuffered.status := by
  intro start register
  obtain ⟨v, hv, hauth⟩ := impatientIssuer.exists_attach_issue (.client "alice") epoch
  have hknown : (start.after [register]).server.accounts.contains "alice" = true := rfl
  have hqueue : ¬ HasQueue (2 ^ 63) := fun h => absurd h.2 (by decide)
  exact ⟨_, v, rfl, hv, (request_subscription_without_queue
    (loginOf_of_authenticate hauth hknown) hqueue).1⟩

end Host
end SensorRelay
