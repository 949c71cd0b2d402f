import SensorRelay.Config.Load
import SensorRelay.Proofs.Config.Layers

/-!
# Where settings come from

Each setting has the value of the highest source that gives it one, whatever the sources say about
the others, and no setting that must not be zero is.
-/

namespace SensorRelay.Config

namespace Reading

variable {V α : Type} {r : Reading V} {v : V} {m : String → Option V}

theorem orDefault_eq (default : α) (read : V → Option α) (o : Option V) :
    orDefault default read o = o.elim (some default) read := by
  cases o <;> rfl

theorem bind_eq_elim (o : Option V) (read : V → Option α) : o.bind read = o.elim none read := by
  cases o <;> rfl

theorem server_iff (hm : r.members ["host", "port", "history_capacity", "event_buffer"] v = some m)
    {s : ServerSettings} : r.server v = some s ↔
      (m "host").elim none r.text = some s.host ∧ (m "port").elim none r.port = some s.port ∧
      (m "history_capacity").elim (some 50) r.word64 = some s.historyCapacity ∧
      (m "event_buffer").elim (some 256) r.word64 = some s.eventBuffer := by
  obtain ⟨host, port, historyCapacity, eventBuffer⟩ := s
  rw [server, hm]
  simp only [Option.bind_eq_bind, Option.bind_some, bind_eq_elim (m "host"), bind_eq_elim (m "port"),
    orDefault_eq, Option.bind_eq_some_iff, Option.some.injEq, ServerSettings.mk.injEq]
  constructor
  · rintro ⟨_, hhost, _, hport, _, hcapacity, _, hbuffer, rfl, rfl, rfl, rfl⟩
    exact ⟨hhost, hport, hcapacity, hbuffer⟩
  · rintro ⟨hhost, hport, hcapacity, hbuffer⟩
    exact ⟨_, hhost, _, hport, _, hcapacity, _, hbuffer, rfl, rfl, rfl, rfl⟩

theorem auth_iff (hm : r.members ["secret"] v = some m) {s : AuthSettings} :
    r.auth v = some s ↔ (m "secret").elim (some none) r.optionalText = some s.secret := by
  obtain ⟨secret⟩ := s
  rw [auth, hm]
  simp only [Option.bind_eq_bind, Option.bind_some, orDefault_eq, Option.bind_eq_some_iff,
    Option.some.injEq, AuthSettings.mk.injEq]
  exact ⟨fun ⟨_, hsecret, heq⟩ => heq ▸ hsecret, fun hsecret => ⟨_, hsecret, rfl⟩⟩

theorem client_iff (hm : r.members ["endpoint", "measurement_period_ms"] v = some m)
    {s : ClientSettings} : r.client v = some s ↔
      (m "endpoint").elim none r.text = some s.endpoint ∧
      (m "measurement_period_ms").elim (some 1000) r.word64 = some s.measurementPeriod := by
  obtain ⟨endpoint, measurementPeriod⟩ := s
  rw [client, hm]
  simp only [Option.bind_eq_bind, Option.bind_some, bind_eq_elim (m "endpoint"), orDefault_eq,
    Option.bind_eq_some_iff, Option.some.injEq, ClientSettings.mk.injEq]
  constructor
  · rintro ⟨_, hendpoint, _, hperiod, rfl, rfl⟩
    exact ⟨hendpoint, hperiod⟩
  · rintro ⟨hendpoint, hperiod⟩
    exact ⟨_, hendpoint, _, hperiod, rfl, rfl⟩

theorem logging_iff (hm : r.members ["level", "filter"] v = some m) {s : LoggingSettings} :
    r.logging v = some s ↔
      (m "level").elim (some "info") r.text = some s.level ∧
      (m "filter").elim (some none) r.optionalText = some s.filter := by
  obtain ⟨level, filter⟩ := s
  rw [logging, hm]
  simp only [Option.bind_eq_bind, Option.bind_some, orDefault_eq, Option.bind_eq_some_iff,
    Option.some.injEq, LoggingSettings.mk.injEq]
  constructor
  · rintro ⟨_, hlevel, _, hfilter, rfl, rfl⟩
    exact ⟨hlevel, hfilter⟩
  · rintro ⟨hlevel, hfilter⟩
    exact ⟨_, hlevel, _, hfilter, rfl, rfl⟩

theorem settings_iff (hm : r.members ["server", "auth", "client", "logging"] v = some m)
    {s : Settings} : r.settings v = some s ↔
      (m "server").elim none r.server = some s.server ∧
      (m "auth").elim (some {}) r.auth = some s.auth ∧
      (m "client").elim none r.client = some s.client ∧
      (m "logging").elim (some {}) r.logging = some s.logging := by
  obtain ⟨server, auth, client, logging⟩ := s
  rw [settings, hm]
  simp only [Option.bind_eq_bind, Option.bind_some, bind_eq_elim (m "server"),
    bind_eq_elim (m "client"), orDefault_eq, Option.bind_eq_some_iff, Option.some.injEq,
    Settings.mk.injEq]
  constructor
  · rintro ⟨_, hserver, _, hauth, _, hclient, _, hlogging, rfl, rfl, rfl, rfl⟩
    exact ⟨hserver, hauth, hclient, hlogging⟩
  · rintro ⟨hserver, hauth, hclient, hlogging⟩
    exact ⟨_, hserver, _, hauth, _, hclient, _, hlogging, rfl, rfl, rfl, rfl⟩

end Reading

open Value Layer

/-- What can be read only from a value that is neither a table nor a list. -/
structure Plain {α : Type} (read : Value → Option α) : Prop where
  plain : ∀ v, read v.plain = read v
  illegible : read illegible = none

theorem plain_text : Plain reading.text where
  plain v := by cases v <;> rfl
  illegible := rfl

theorem plain_optionalText : Plain reading.optionalText where
  plain v := by cases v <;> rfl
  illegible := rfl

theorem plain_port : Plain reading.port where
  plain v := by cases v <;> rfl
  illegible := rfl

theorem plain_word64 : Plain reading.word64 where
  plain v := by cases v <;> rfl
  illegible := rfl

/-- A setting has the value that the highest layer gives it, or its default if no layer gives it
any. -/
def Takes {α : Type} (ls : List Layer) (place : String × String) (read : Value → Option α)
    (default : Option α) (a : α) : Prop :=
  (∃ v, highest? ls place = some v ∧ read v = some a) ∨
    ls.flatMap (·.values place) = [] ∧ default = some a

theorem takes_iff {α : Type} {ls : List Layer} (place : String × String) {root : Value}
    {read : Value → Option α} (hread : Plain read) (default : Option α) {a : α}
    (htable : ∀ l ∈ ls, l.IsTabular place.1) (hcombine : combine ls = some root) :
    (root.at? place).elim default read = some a ↔ Takes ls place read default a := by
  obtain ⟨-, hat⟩ := combine_at? place htable hcombine
  have hplain : (root.at? place).elim default read =
      ((root.at? place).map Value.plain).elim default read := by
    cases root.at? place with
    | none => rfl
    | some v => exact (hread.plain v).symm
  rw [hplain, hat, Takes]
  -- A setting that is given only as an empty table is there, but cannot be read.
  cases hhighest : highest? ls place with
  | none =>
    by_cases hnil : ls.flatMap (·.values place) = []
    · simp [hnil]
    · simp [hnil, hread.illegible]
  | some v =>
    have hne := values_ne_nil_of_highest? hhighest
    simp [hne, hread.plain]

/-- The settings of a server that layers determine. -/
structure ServerTakes (ls : List Layer) (s : ServerSettings) : Prop where
  host : Takes ls ("server", "host") reading.text none s.host
  port : Takes ls ("server", "port") reading.port none s.port
  historyCapacity :
    Takes ls ("server", "history_capacity") reading.word64 (some 50) s.historyCapacity
  eventBuffer : Takes ls ("server", "event_buffer") reading.word64 (some 256) s.eventBuffer

structure AuthTakes (ls : List Layer) (s : AuthSettings) : Prop where
  secret : Takes ls ("auth", "secret") reading.optionalText (some none) s.secret

structure ClientTakes (ls : List Layer) (s : ClientSettings) : Prop where
  endpoint : Takes ls ("client", "endpoint") reading.text none s.endpoint
  measurementPeriod :
    Takes ls ("client", "measurement_period_ms") reading.word64 (some 1000) s.measurementPeriod

structure LoggingTakes (ls : List Layer) (s : LoggingSettings) : Prop where
  level : Takes ls ("logging", "level") reading.text (some "info") s.level
  filter : Takes ls ("logging", "filter") reading.optionalText (some none) s.filter

section Sections

variable {ls : List Layer} {root : Value}

/-- A section that layers give as a table. -/
theorem section_cases {name : String} (htable : ∀ l ∈ ls, l.IsTabular name)
    (hcombine : combine ls = some root) :
    root.member? name = none ∧ (∀ key, root.at? (name, key) = none) ∨
      ∃ v m, root.member? name = some v ∧ (∀ names, reading.members names v = some m) ∧
        ∀ key, root.at? (name, key) = m key := by
  obtain ⟨hroot, -⟩ := combine_at? (name, name) htable hcombine
  cases hv : root.member? name with
  | none => exact .inl ⟨rfl, fun key => by rw [at?, hv]; rfl⟩
  | some v =>
    obtain ⟨ms, rfl⟩ := hroot v hv
    exact .inr ⟨_, _, rfl, fun names => rfl, fun key => by rw [at?, hv]; rfl⟩

theorem server_iff_takes (htable : ∀ l ∈ ls, l.IsTabular "server")
    (hcombine : combine ls = some root) {s : ServerSettings} :
    (root.member? "server").elim none reading.server = some s ↔ ServerTakes ls s := by
  have hhost := takes_iff ("server", "host") plain_text none htable hcombine (a := s.host)
  have hport := takes_iff ("server", "port") plain_port none htable hcombine (a := s.port)
  have hcapacity := takes_iff ("server", "history_capacity") plain_word64 (some 50) htable hcombine
    (a := s.historyCapacity)
  have hbuffer := takes_iff ("server", "event_buffer") plain_word64 (some 256) htable hcombine
    (a := s.eventBuffer)
  obtain ⟨hnone, hat⟩ | ⟨v, m, hv, hm, hat⟩ := section_cases htable hcombine
  · rw [hnone]
    rw [hat] at hhost
    exact ⟨nofun, fun h => nomatch hhost.mpr h.host⟩
  · rw [hat] at hhost hport hcapacity hbuffer
    rw [hv, Option.elim_some, Reading.server_iff (hm _), hhost, hport, hcapacity, hbuffer]
    exact ⟨fun ⟨h₁, h₂, h₃, h₄⟩ => ⟨h₁, h₂, h₃, h₄⟩,
      fun h => ⟨h.host, h.port, h.historyCapacity, h.eventBuffer⟩⟩

theorem auth_iff_takes (htable : ∀ l ∈ ls, l.IsTabular "auth")
    (hcombine : combine ls = some root) {s : AuthSettings} :
    (root.member? "auth").elim (some {}) reading.auth = some s ↔ AuthTakes ls s := by
  have hsecret := takes_iff ("auth", "secret") plain_optionalText (some none) htable hcombine
    (a := s.secret)
  obtain ⟨secret⟩ := s
  obtain ⟨hnone, hat⟩ | ⟨v, m, hv, hm, hat⟩ := section_cases htable hcombine
  · rw [hat] at hsecret
    rw [hnone]
    refine ⟨fun h => ⟨hsecret.mp ?_⟩, fun h => ?_⟩
    · cases h
      rfl
    · cases hsecret.mpr h.secret
      rfl
  · rw [hat] at hsecret
    rw [hv, Option.elim_some, Reading.auth_iff (hm _), hsecret]
    exact ⟨fun h => ⟨h⟩, fun h => h.secret⟩

theorem client_iff_takes (htable : ∀ l ∈ ls, l.IsTabular "client")
    (hcombine : combine ls = some root) {s : ClientSettings} :
    (root.member? "client").elim none reading.client = some s ↔ ClientTakes ls s := by
  have hendpoint := takes_iff ("client", "endpoint") plain_text none htable hcombine
    (a := s.endpoint)
  have hperiod := takes_iff ("client", "measurement_period_ms") plain_word64 (some 1000) htable
    hcombine (a := s.measurementPeriod)
  obtain ⟨hnone, hat⟩ | ⟨v, m, hv, hm, hat⟩ := section_cases htable hcombine
  · rw [hnone]
    rw [hat] at hendpoint
    exact ⟨nofun, fun h => nomatch hendpoint.mpr h.endpoint⟩
  · rw [hat] at hendpoint hperiod
    rw [hv, Option.elim_some, Reading.client_iff (hm _), hendpoint, hperiod]
    exact ⟨fun ⟨h₁, h₂⟩ => ⟨h₁, h₂⟩, fun h => ⟨h.endpoint, h.measurementPeriod⟩⟩

theorem logging_iff_takes (htable : ∀ l ∈ ls, l.IsTabular "logging")
    (hcombine : combine ls = some root) {s : LoggingSettings} :
    (root.member? "logging").elim (some {}) reading.logging = some s ↔ LoggingTakes ls s := by
  have hlevel := takes_iff ("logging", "level") plain_text (some "info") htable hcombine
    (a := s.level)
  have hfilter := takes_iff ("logging", "filter") plain_optionalText (some none) htable hcombine
    (a := s.filter)
  obtain ⟨level, filter⟩ := s
  obtain ⟨hnone, hat⟩ | ⟨v, m, hv, hm, hat⟩ := section_cases htable hcombine
  · rw [hat] at hlevel hfilter
    rw [hnone]
    refine ⟨fun h => ?_, fun h => ?_⟩
    · cases h
      exact ⟨hlevel.mp rfl, hfilter.mp rfl⟩
    · cases hlevel.mpr h.level
      cases hfilter.mpr h.filter
      rfl
  · rw [hat] at hlevel hfilter
    rw [hv, Option.elim_some, Reading.logging_iff (hm _), hlevel, hfilter]
    exact ⟨fun ⟨h₁, h₂⟩ => ⟨h₁, h₂⟩, fun h => ⟨h.level, h.filter⟩⟩

/-- The sections that settings stand in. -/
def sectionNames : List String := ["server", "auth", "client", "logging"]

/-- Settings that layers determine. A section counts only where no layer gives it in another form
than a table. -/
structure Effective (ls : List Layer) (x : Settings) : Prop where
  server : (∀ l ∈ ls, l.IsTabular "server") → ServerTakes ls x.server
  auth : (∀ l ∈ ls, l.IsTabular "auth") → AuthTakes ls x.auth
  client : (∀ l ∈ ls, l.IsTabular "client") → ClientTakes ls x.client
  logging : (∀ l ∈ ls, l.IsTabular "logging") → LoggingTakes ls x.logging

theorem settings_iff_sections (hcombine : combine ls = some root) {x : Settings} :
    reading.settings root = some x ↔
      (root.member? "server").elim none reading.server = some x.server ∧
      (root.member? "auth").elim (some {}) reading.auth = some x.auth ∧
      (root.member? "client").elim none reading.client = some x.client ∧
      (root.member? "logging").elim (some {}) reading.logging = some x.logging := by
  obtain ⟨ms, rfl⟩ := isTable_combine hcombine
  exact Reading.settings_iff (r := reading) (v := table ms) (m := fun name => ms.lookup name) rfl

theorem effective_of_settings (hcombine : combine ls = some root) {x : Settings}
    (h : reading.settings root = some x) : Effective ls x := by
  obtain ⟨hserver, hauth, hclient, hlogging⟩ := (settings_iff_sections hcombine).mp h
  exact ⟨fun ht => (server_iff_takes ht hcombine).mp hserver,
    fun ht => (auth_iff_takes ht hcombine).mp hauth,
    fun ht => (client_iff_takes ht hcombine).mp hclient,
    fun ht => (logging_iff_takes ht hcombine).mp hlogging⟩

theorem settings_of_effective (hcombine : combine ls = some root)
    (htable : ∀ name ∈ sectionNames, ∀ l ∈ ls, l.IsTabular name) {x : Settings}
    (h : Effective ls x) : reading.settings root = some x := by
  have hserver := htable "server" (by decide)
  have hauth := htable "auth" (by decide)
  have hclient := htable "client" (by decide)
  have hlogging := htable "logging" (by decide)
  exact (settings_iff_sections hcombine).mpr
    ⟨(server_iff_takes hserver hcombine).mpr (h.server hserver),
      (auth_iff_takes hauth hcombine).mpr (h.auth hauth),
      (client_iff_takes hclient hcombine).mpr (h.client hclient),
      (logging_iff_takes hlogging hcombine).mpr (h.logging hlogging)⟩

end Sections

section Documents

variable {ms : List (String × Value)}

/-- A document with plain names gives what stands in its sections. -/
theorem values_ofTable (hplain : ∀ m ∈ ms, Key.ofText m.1 = ⟨m.1, []⟩) (place : String × String) :
    (ofTable (table ms)).values place =
      (allOf place.1 ms).flatMap fun v => allOf place.2 v.members := by
  rw [values, ofTable, List.flatMap_map]
  change ms.flatMap _ = _
  induction ms with
  | nil => rfl
  | cons m ms ih =>
    rw [List.flatMap_cons, ih fun m hm => hplain m (List.mem_cons_of_mem _ hm),
      hplain m List.mem_cons_self, given]
    by_cases hname : m.1 = place.1
    · simp [allOf, givenInside, hname]
    · simp [allOf, hname]

theorem isTabular_ofTable (hplain : ∀ m ∈ ms, Key.ofText m.1 = ⟨m.1, []⟩) {name : String}
    (h : ∀ m ∈ ms, m.1 = name → m.2.IsTable) : (ofTable (table ms)).IsTabular name := by
  intro a ha hhead
  obtain ⟨m, hm, rfl⟩ := List.mem_map.mp ha
  dsimp only at hhead ⊢
  rw [hplain m hm] at hhead ⊢
  exact ⟨fun _ => h m hm hhead, nofun⟩

end Documents

/-- Where settings stand. -/
def settingPlaces : List (String × String) := [
  ("server", "host"), ("server", "port"), ("server", "history_capacity"),
  ("server", "event_buffer"), ("auth", "secret"), ("client", "endpoint"),
  ("client", "measurement_period_ms"), ("logging", "level"), ("logging", "filter")]

/-- The variable of a setting. -/
def variableOf (place : String × String) : String :=
  String.ofList (("sensorstream_" ++ place.1 ++ "__" ++ place.2).toList.map Char.toUpper)

example : variableOf ("logging", "level") = "SENSORSTREAM_LOGGING__LEVEL" := by decide +kernel

theorem keyOfVariable?_variableOf {place : String × String} (h : place ∈ settingPlaces) :
    keyOfVariable? (variableOf place) = some ⟨place.1, [.member place.2]⟩ := by
  have hall : ∀ place ∈ settingPlaces,
      keyOfVariable? (variableOf place) = some ⟨place.1, [.member place.2]⟩ := by decide +kernel
  exact hall place h

/-- A variable gives its text to its setting, and nothing to any other. -/
theorem values_ofEnvironment_concat {place : String × String} (h : place ∈ settingPlaces)
    (environment : List (String × String)) (s : String) (other : String × String) :
    (ofEnvironment (environment ++ [(variableOf place, s)])).values other =
      (ofEnvironment environment).values other ++ if other = place then [text s] else [] := by
  have hone : (ofEnvironment [(variableOf place, s)]).values other =
      if other = place then [text s] else [] := by
    rw [ofEnvironment, List.filterMap_cons, keyOfVariable?_variableOf h]
    simp only [Option.map_some, List.filterMap_nil, values, List.flatMap_singleton, given,
      givenInside]
    obtain ⟨name, key⟩ := place
    obtain ⟨name', key'⟩ := other
    simp only [Prod.mk.injEq, eq_comm (a := name'), eq_comm (a := key')]
    by_cases hname : name = name' <;> by_cases hkey : key = key' <;> simp [hname, hkey]
  rw [← hone, ofEnvironment, List.filterMap_append]
  exact List.flatMap_append

theorem isTabular_ofEnvironment {environment : List (String × String)}
    (h : ∀ v ∈ environment, ∃ place ∈ settingPlaces, v.1 = variableOf place) (name : String) :
    (ofEnvironment environment).IsTabular name := by
  intro a ha _
  obtain ⟨v, hv, hkey⟩ := List.mem_filterMap.mp ha
  obtain ⟨place, hplace, hname⟩ := h v hv
  rw [hname, keyOfVariable?_variableOf hplace] at hkey
  obtain rfl := Option.some.inj hkey
  exact ⟨nofun, nofun⟩

end Config

theorem Settings.zero?_eq_none_iff {x : Settings} : x.zero? = none ↔
    x.server.historyCapacity ≠ 0 ∧ x.server.eventBuffer ≠ 0 ∧ x.client.measurementPeriod ≠ 0 := by
  unfold zero?
  split_ifs with hcapacity hbuffer hperiod <;> simp [*]

namespace Config

open Layer

namespace Sources

variable {s : Sources} {x : Settings}

theorem layers_eq_some_iff {ls : List Layer} : s.layers = some ls ↔
    ∃ system user, s.systemLayer = some system ∧ s.userLayer = some user ∧
      ls = [ofTable defaults, system, user, ofEnvironment s.environment] := by
  simp only [layers, Option.bind_eq_bind, Option.bind_eq_some_iff, Option.some.injEq]
  constructor
  · rintro ⟨system, hsystem, user, huser, rfl⟩
    exact ⟨system, user, hsystem, huser, rfl⟩
  · rintro ⟨system, user, hsystem, huser, rfl⟩
    exact ⟨system, hsystem, user, huser, rfl⟩

theorem load_of_settings {ls : List Layer} {root : Value} (hlayers : s.layers = some ls)
    (hcombine : combine ls = some root) (hsettings : Value.reading.settings root = some x) :
    s.load = match (s.override x).zero? with
      | some setting => .error (.zero setting)
      | none => .ok (s.override x) := by
  cases hzero : (s.override x).zero? <;> simp [load, hlayers, hcombine, hsettings, hzero]

theorem load_eq_ok (h : s.load = .ok x) : ∃ ls root y, s.layers = some ls ∧
    combine ls = some root ∧ Value.reading.settings root = some y ∧ x = s.override y ∧
    x.zero? = none := by
  cases hlayers : s.layers with
  | none => simp [load, hlayers] at h
  | some ls =>
    cases hcombine : combine ls with
    | none => simp [load, hlayers, hcombine] at h
    | some root =>
      cases hsettings : Value.reading.settings root with
      | none => simp [load, hlayers, hcombine, hsettings] at h
      | some y =>
        rw [load_of_settings hlayers hcombine hsettings] at h
        cases hzero : (s.override y).zero? with
        | some setting =>
          rw [hzero] at h
          cases h
        | none =>
          rw [hzero] at h
          obtain rfl := Except.ok.inj h
          exact ⟨ls, root, y, rfl, hcombine, hsettings, rfl, hzero⟩

/-- Each setting has the value that the highest layer gives it, but the command line has the last
word on the endpoint and the level. A setting that must not be zero never is; where it would be, there
are no settings at all. A document gives what stands in its sections, and a variable says something
about one setting only. -/
theorem settings_come_from_highest_layers (s : Sources) :
    (∀ x, s.load = .ok x →
      (x.server.historyCapacity ≠ 0 ∧ x.server.eventBuffer ≠ 0 ∧ x.client.measurementPeriod ≠ 0) ∧
      ∃ system user y, s.systemLayer = some system ∧ s.userLayer = some user ∧
        Effective [ofTable defaults, system, user, ofEnvironment s.environment] y ∧
        x = { y with
          client := { y.client with endpoint := s.endpoint.getD y.client.endpoint }
          logging := { y.logging with level := s.logLevel.getD y.logging.level } }) ∧
    (∀ system user y, s.systemLayer = some system → s.userLayer = some user →
      let ls := [ofTable defaults, system, user, ofEnvironment s.environment]
      combine ls ≠ none → (∀ name ∈ sectionNames, ∀ l ∈ ls, l.IsTabular name) → Effective ls y →
      (y.server.historyCapacity ≠ 0 ∧ y.server.eventBuffer ≠ 0 ∧ y.client.measurementPeriod ≠ 0 →
        ∃ x, s.load = .ok x) ∧
      (y.server.historyCapacity = 0 ∨ y.server.eventBuffer = 0 ∨ y.client.measurementPeriod = 0 →
        ∃ setting, s.load = .error (.zero setting) ∧
          (LoadError.zero setting).error.kind = .config)) ∧
    (∀ ms, (∀ m ∈ ms, Key.ofText m.1 = ⟨m.1, []⟩) →
      (∀ name, (∀ m ∈ ms, m.1 = name → m.2.IsTable) → (ofTable (.table ms)).IsTabular name) ∧
      ∀ place, (ofTable (.table ms)).values place =
        (Value.allOf place.1 ms).flatMap fun v => Value.allOf place.2 v.members) ∧
    (∀ environment, (∀ v ∈ environment, ∃ place ∈ settingPlaces, v.1 = variableOf place) →
      ∀ name, (ofEnvironment environment).IsTabular name) ∧
    ∀ place ∈ settingPlaces, ∀ environment text other,
      (ofEnvironment (environment ++ [(variableOf place, text)])).values other =
        (ofEnvironment environment).values other ++ if other = place then [.text text] else [] := by
  refine ⟨fun x h => ?_, ?_,
    fun ms hplain => ⟨fun name => isTabular_ofTable hplain, values_ofTable hplain⟩,
    fun environment => isTabular_ofEnvironment,
    fun place hplace => values_ofEnvironment_concat hplace⟩
  · obtain ⟨ls, root, y, hlayers, hcombine, hsettings, rfl, hzero⟩ := load_eq_ok h
    obtain ⟨system, user, hsystem, huser, rfl⟩ := layers_eq_some_iff.mp hlayers
    exact ⟨Settings.zero?_eq_none_iff.mp hzero, system, user, y, hsystem, huser,
      effective_of_settings hcombine hsettings, rfl⟩
  · intro system user y hsystem huser ls hcombine htable hy
    obtain ⟨root, hcombine⟩ := Option.ne_none_iff_exists'.mp hcombine
    have hlayers : s.layers = some ls := layers_eq_some_iff.mpr ⟨system, user, hsystem, huser, rfl⟩
    have hload := load_of_settings hlayers hcombine (settings_of_effective hcombine htable hy)
    have hiff : (s.override y).zero? = none ↔ _ := Settings.zero?_eq_none_iff
    constructor
    · intro hpos
      rw [hiff.mpr hpos] at hload
      exact ⟨_, hload⟩
    · intro hzero
      cases hfirst : (s.override y).zero? with
      | none =>
        obtain ⟨hcapacity, hbuffer, hperiod⟩ := hiff.mp hfirst
        rcases hzero with h | h | h
        · exact absurd h hcapacity
        · exact absurd h hbuffer
        · exact absurd h hperiod
      | some setting =>
        rw [hfirst] at hload
        exact ⟨setting, hload, rfl⟩

/-- A user's file and an environment, and nothing else. -/
def ofUserFile (document : String) (environment : List (String × String)) : Sources where
  files path := if path = "user.toml" then some document.toUTF8.data.toList else none
  userFile := some "user.toml"
  environment := environment
  endpoint := none
  logLevel := none

/-- The port is the file's, the capacity the environment's, and the host the default one. -/
example : (ofUserFile "[server]\nport = 9100\nhistory_capacity = 5\n"
    [("SENSORSTREAM_SERVER__HISTORY_CAPACITY", "7")]).load.map (·.server) =
      .ok ⟨"127.0.0.1", 9100, 7, 256⟩ := by decide +kernel

/-- A section that is given as a list is discarded by a key above it. -/
theorem list_of_settings_is_discarded_by_key :
    let load environment :=
      (ofUserFile "logging = [\"debug\", \"x=trace\"]\n" environment).load.map (·.logging)
    load [] = .ok ⟨"debug", some "x=trace"⟩ ∧
      load [("SENSORSTREAM_LOGGING__LEVEL", "warn")] = .ok ⟨"warn", none⟩ := by
  decide +kernel

end Sources
end SensorRelay.Config
