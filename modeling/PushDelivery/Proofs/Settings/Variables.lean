import PushDelivery.Proofs.Settings.Spellings
import PushDelivery.Settings.Load

/-!
# Settings from one variable of the environment

With no files, and one variable in the environment that names a text setting, all settings are the
defaults but that one. The setting is what the text of the variable is respelled as, so that it is
the text itself for some texts only.

## Conventions

Any name of a variable that spells the path of the setting names it, in letters of any case. Other
variables do not matter as long as they name none of the sections.

## Main definitions

* `TextSetting`: the settings that are texts, with the variable, the path and the value of each.
* `Aside`: names of variables that name no section.

## Main results

* `read_congr`: reading depends on the sections only.
* `TextSetting.load_variable`: what is loaded, and the texts for which it is the text of the
  variable.
-/

namespace PushDelivery.Settings

/-! ### Sections -/

/-- The sections that settings are read from. -/
def sections : List String :=
  ["server", "rabbitmq", "redis", "push", "template", "circuit_breaker", "retry", "rate_limit",
    "otel"]

/-- Two tables have the same sections. -/
def SameSections (t u : Table) : Prop := ∀ name ∈ sections, t.lookup name = u.lookup name

/-- Reading depends on the sections only. -/
theorem read_congr {t u : Table} (h : SameSections t u) : read t = read u := by
  simp only [SameSections, sections, List.forall_mem_cons] at h
  obtain ⟨server, broker, guardStore, push, templates, breaker, retry, limit, telemetry, -⟩ := h
  simp only [read, readServer, readBroker, readGuardStore, readPush, readTemplates,
    readCircuitBreaker, readRetry, readRateLimit, readTelemetry, Section.read, server, broker,
    guardStore, push, templates, breaker, retry, limit, telemetry]

/-! ### Placing -/

namespace Table

/-- What is found in a table after a value was put at a key. -/
theorem lookup_put (key : String) (v : Value) (t : Table) (other : String) :
    (put key v t).lookup other = if other = key then some v else t.lookup other := by
  induction t with
  | nil =>
      simp only [put, List.lookup_cons, List.lookup_nil]
      split <;> simp_all
  | cons field rest ih =>
      obtain ⟨k, w⟩ := field
      rw [put]
      by_cases same : k = key
      · subst k
        simp only [if_true, List.lookup_cons]
        split <;> simp_all
      · simp only [if_neg same, List.lookup_cons, ih]
        split <;> simp_all

/-- A value without parts is put in place of what is there. -/
theorem assign_scalar (key : String) (origin : Option String) (v : Scalar) (t : Table) :
    assign key (.scalar origin v) t = put key (.scalar origin v) t := by
  rw [assign]
  rintro _ _ ⟨⟩

end Table

namespace Value

@[simp] theorem fields_withFields (v : Value) (t : Table) : (v.withFields t).fields = t := by
  cases v <;> rfl

@[simp] theorem fields_table (origin : Option String) (t : Table) :
    (Value.table origin t).fields = t := rfl

@[simp] theorem fields_nothing : nothing.fields = [] := rfl

@[simp] theorem withFields_table (origin : Option String) (t u : Table) :
    (Value.table origin t).withFields u = .table origin u := rfl

@[simp] theorem withFields_nothing (t : Table) : nothing.withFields t = .table none t := rfl

/-- **A value without parts, placed at a path**, is put at the first key of the path: something is,
and nothing else changes. -/
theorem exists_place_eq_put (key : String) (rest : List Step) (origin : Option String) (v : Scalar)
    (old : Value) :
    ∃ w, (place (.key key :: rest) (.scalar origin v) old).fields = Table.put key w old.fields := by
  cases rest with
  | nil => exact ⟨_, by rw [place, fields_withFields, Table.assign_scalar]⟩
  | cons step rest =>
      exact ⟨_, by rw [place, fields_withFields]; exact fun h => absurd h (List.cons_ne_nil _ _)⟩

/-- A value without parts, placed at a key of a section, is put at that key of what the section
was. -/
theorem fields_place_pair (name key : String) (origin : Option String) (v : Scalar) (old : Value) :
    (place [.key name, .key key] (.scalar origin v) old).fields =
      let inner := (old.fields.lookup name).getD nothing
      Table.put name (inner.withFields (Table.put key (.scalar origin v) inner.fields))
        old.fields := by
  rw [place, fields_withFields, place, Table.assign_scalar]
  exact fun h => absurd h (List.cons_ne_nil _ _)

end Value

/-! ### Variables -/

/-- The path that the name of a variable spells. -/
def variablePath (name : String) : List Step := Path.ofChars (pointed (Text.toLower name).toList)

/-- A variable names no section. -/
def Aside (name : String) : Prop :=
  ∃ key rest, variablePath name = .key key :: rest ∧ key ∉ sections

/-- A variable that names no section changes none. -/
theorem sameSections_aside {name : String} (h : Aside name) (origin : Option String) (v : Scalar)
    (old : Value) :
    SameSections (Value.place (variablePath name) (.scalar origin v) old).fields old.fields := by
  obtain ⟨key, rest, path, outside⟩ := h
  obtain ⟨w, hput⟩ := Value.exists_place_eq_put key rest origin v old
  intro other inside
  have hne : other ≠ key := fun same => outside (same ▸ inside)
  rw [path, hput, Table.lookup_put, if_neg hne]

/-- A variable is placed at its path, before those behind it. -/
theorem overlay_cons (v : Value) (name text : String) (rest : Environment) :
    overlay v (environmentLayer ((name, text) :: rest)) =
      overlay (Value.place (variablePath name) (.scalar (some "the environment") (.ofText text)) v)
        (environmentLayer rest) := by
  rw [environmentLayer, List.map_cons, overlay, List.foldl_cons]
  rfl

/-- Variables are placed one after the other. -/
theorem overlay_append (v : Value) (before after : Environment) :
    overlay v (environmentLayer (before ++ after)) =
      overlay (overlay v (environmentLayer before)) (environmentLayer after) := by
  rw [environmentLayer, List.map_append, overlay, List.foldl_append]
  rfl

/-- Other variables change no section. -/
theorem sameSections_overlay {environment : Environment} (h : ∀ v ∈ environment, Aside v.1)
    (old : Value) :
    SameSections (overlay old (environmentLayer environment)).fields old.fields := by
  induction environment generalizing old with
  | nil => exact fun _ _ => rfl
  | cons entry rest ih =>
      obtain ⟨first, others⟩ := List.forall_mem_cons.mp h
      intro name inside
      rw [overlay_cons, ih others _ name inside]
      exact sameSections_aside first _ _ old name inside

/-- A section changes with itself only: a value at a key of a section changes the sections of two
tables to the same. -/
theorem sameSections_place_pair {old new : Value} (h : SameSections old.fields new.fields)
    {name : String} (inside : name ∈ sections) (key : String) (origin : Option String)
    (v : Scalar) :
    SameSections (Value.place [.key name, .key key] (.scalar origin v) old).fields
      (Value.place [.key name, .key key] (.scalar origin v) new).fields := by
  intro other hother
  simp only [Value.fields_place_pair, Table.lookup_put, h name inside, h other hother]

/-! ### Text settings -/

/-- The settings that are texts. -/
inductive TextSetting
  | serverHost
  | brokerBackend
  | brokerUrl
  | exchange
  | pushQueue
  | failedQueue
  | statusQueue
  | guardStoreBackend
  | guardStoreUrl
  | gatewayUrl
  | apiKey
  | templateServiceUrl
  | telemetryEndpoint
  | telemetryServiceName
  deriving DecidableEq, Repr

namespace TextSetting

/-- The section of a setting, and its key there. -/
def place : TextSetting → String × String
  | serverHost => ("server", "host")
  | brokerBackend => ("rabbitmq", "backend")
  | brokerUrl => ("rabbitmq", "url")
  | exchange => ("rabbitmq", "exchange")
  | pushQueue => ("rabbitmq", "push_queue")
  | failedQueue => ("rabbitmq", "failed_queue")
  | statusQueue => ("rabbitmq", "status_queue")
  | guardStoreBackend => ("redis", "backend")
  | guardStoreUrl => ("redis", "url")
  | gatewayUrl => ("push", "gateway_url")
  | apiKey => ("push", "api_key")
  | templateServiceUrl => ("template", "service_url")
  | telemetryEndpoint => ("otel", "endpoint")
  | telemetryServiceName => ("otel", "service_name")

/-- The variable of a setting. -/
def variableName : TextSetting → String
  | serverHost => "SERVER__HOST"
  | brokerBackend => "RABBITMQ__BACKEND"
  | brokerUrl => "RABBITMQ__URL"
  | exchange => "RABBITMQ__EXCHANGE"
  | pushQueue => "RABBITMQ__PUSH_QUEUE"
  | failedQueue => "RABBITMQ__FAILED_QUEUE"
  | statusQueue => "RABBITMQ__STATUS_QUEUE"
  | guardStoreBackend => "REDIS__BACKEND"
  | guardStoreUrl => "REDIS__URL"
  | gatewayUrl => "PUSH__GATEWAY_URL"
  | apiKey => "PUSH__API_KEY"
  | templateServiceUrl => "TEMPLATE__SERVICE_URL"
  | telemetryEndpoint => "OTEL__ENDPOINT"
  | telemetryServiceName => "OTEL__SERVICE_NAME"

/-- The text of a setting. -/
def get (t : Settings) : TextSetting → Option String
  | serverHost => t.server.host
  | brokerBackend => t.broker.backend
  | brokerUrl => t.broker.url
  | exchange => t.broker.exchange
  | pushQueue => t.broker.pushQueue
  | failedQueue => t.broker.failedQueue
  | statusQueue => t.broker.statusQueue
  | guardStoreBackend => t.guardStore.backend
  | guardStoreUrl => t.guardStore.url
  | gatewayUrl => t.push.gatewayUrl
  | apiKey => t.push.apiKey
  | templateServiceUrl => t.templates.serviceUrl
  | telemetryEndpoint => t.telemetry.endpoint
  | telemetryServiceName => t.telemetry.serviceName

/-- Settings with a text for one of them. -/
def put (s : String) (t : Settings) : TextSetting → Settings
  | serverHost => { t with server := { t.server with host := s } }
  | brokerBackend => { t with broker := { t.broker with backend := s } }
  | brokerUrl => { t with broker := { t.broker with url := s } }
  | exchange => { t with broker := { t.broker with exchange := s } }
  | pushQueue => { t with broker := { t.broker with pushQueue := s } }
  | failedQueue => { t with broker := { t.broker with failedQueue := s } }
  | statusQueue => { t with broker := { t.broker with statusQueue := s } }
  | guardStoreBackend => { t with guardStore := { t.guardStore with backend := s } }
  | guardStoreUrl => { t with guardStore := { t.guardStore with url := s } }
  | gatewayUrl => { t with push := { t.push with gatewayUrl := s } }
  | apiKey => { t with push := { t.push with apiKey := some s } }
  | templateServiceUrl => { t with templates := { t.templates with serviceUrl := s } }
  | telemetryEndpoint => { t with telemetry := { t.telemetry with endpoint := s } }
  | telemetryServiceName => { t with telemetry := { t.telemetry with serviceName := s } }

/-- What was put is got. -/
theorem get_put (x : TextSetting) (s : String) (t : Settings) : x.get (x.put s t) = some s := by
  cases x <;> rfl

/-- A setting lies in a section. -/
theorem place_mem (x : TextSetting) : x.place.1 ∈ sections := by
  cases x <;> decide

/-- The variable of a setting spells its path. -/
theorem variablePath_variableName (x : TextSetting) :
    variablePath x.variableName = [.key x.place.1, .key x.place.2] := by
  cases x <;> decide +kernel

end TextSetting

namespace Section

theorem field_keyed {α : Type} (name : String) (fields : Table) (position : Nat) (key : String)
    (default : α) (convert : String → Value → Except Error α) :
    (keyed name fields).field position key default convert =
      ((fields.lookup key).map (convert (name ++ "." ++ key))).getD (.ok default) := by
  simp only [field, raw?]
  cases fields.lookup key <;> rfl

theorem nullable_keyed (name : String) (fields : Table) (position : Nat) (key kind : String) :
    (keyed name fields).nullable position key kind =
      ((fields.lookup key).map (Value.textOrNull? (name ++ "." ++ key))).getD (.ok none) := by
  simp only [nullable, raw?]
  cases fields.lookup key <;> rfl

end Section

theorem Value.text?_str (origin : Option String) (key s : String) :
    (Value.scalar origin (.str s)).text? key = .ok s := rfl

/-! ### Loading -/

namespace TextSetting

/-- **Reading.** Over the defaults, what is placed at the path of a setting is read as its text, and
all other settings are read as their defaults. -/
theorem read_place (x : TextSetting) {origin : Option String} {v : Scalar} {r : String}
    (text : ∀ key, (Value.scalar origin v).text? key = .ok r)
    (textOrNull : ∀ key, (Value.scalar origin v).textOrNull? key = .ok (some r)) :
    read (Value.place [.key x.place.1, .key x.place.2] (.scalar origin v) defaults).fields =
      .ok (x.put r {}) := by
  rw [Value.fields_place_pair]
  -- The section of each setting is looked up, and each of its keys in turn.
  cases x <;>
    simp [place, put, defaults, Table.lookup_put, List.lookup_cons, List.lookup_nil, text,
      textOrNull, read, readServer, readBroker, readGuardStore, readPush, readTemplates,
      readCircuitBreaker, readRetry, readRateLimit, readTelemetry, Section.read,
      Section.field_keyed, Section.nullable_keyed, Value.text?_str, Value.natural?, Value.word?,
      Decimal.wordSize, bind, Except.bind, pure, Except.pure]

end TextSetting

/-- Without files, the layers are those of the environment. -/
theorem gather_eq {src : Source} (common : src.files.find? "default" = none)
    (special : src.files.find? src.runMode = none) :
    gather src = .ok (overlay defaults (environmentLayer src.loaded)).fields := by
  have layer {name : String} (h : src.files.find? name = none) : fileLayer src name = .ok [] := by
    rw [fileLayer, h]
  rw [gather, layer common, layer special]
  rfl

namespace TextSetting

/-- What is loaded from one variable that names a text setting, among others that name none. -/
theorem load_eq (x : TextSetting) (s : String) {src : Source} {name : String}
    {before after : Environment} (names : variablePath name = [.key x.place.1, .key x.place.2])
    (loaded : src.loaded = before ++ (name, s) :: after)
    (others : ∀ v ∈ before ++ after, Aside v.1)
    (common : src.files.find? "default" = none) (special : src.files.find? src.runMode = none) :
    load src = .ok (x.put (respelled s) {}) := by
  obtain ⟨earlier, later⟩ := List.forall_mem_append.mp others
  let origin := some "the environment"
  let placed := Value.place (variablePath name) (.scalar origin (.ofText s))
  have layers : overlay defaults (environmentLayer src.loaded) =
      overlay (placed (overlay defaults (environmentLayer before))) (environmentLayer after) := by
    rw [loaded, overlay_append, overlay_cons]
  have sections : SameSections (overlay defaults (environmentLayer src.loaded)).fields
      (Value.place [.key x.place.1, .key x.place.2] (.scalar origin (.ofText s))
        defaults).fields := by
    have first := sameSections_overlay earlier defaults
    have last := sameSections_overlay later (placed (overlay defaults (environmentLayer before)))
    have middle := sameSections_place_pair first x.place_mem x.place.2 origin (.ofText s)
    rw [← names] at middle
    rw [layers, ← names]
    exact fun other inside => (last other inside).trans (middle other inside)
  calc load src = read (overlay defaults (environmentLayer src.loaded)).fields := by
        rw [load, gather_eq common special]
        rfl
    _ = _ := read_congr sections
    _ = .ok (x.put (respelled s) {}) :=
        x.read_place (Value.text?_ofText origin · s) (Value.textOrNull?_ofText origin · s)

/-- **One variable.** Without files, and with one variable that names a text setting among others
that name none, settings are loaded: they are the defaults, but for the setting, which is what the
text of the variable is respelled as. So it is the text itself exactly for the texts that are
kept. -/
theorem load_variable (x : TextSetting) (s : String) {src : Source} {name : String}
    {before after : Environment} (names : variablePath name = [.key x.place.1, .key x.place.2])
    (loaded : src.loaded = before ++ (name, s) :: after)
    (others : ∀ v ∈ before ++ after, Aside v.1)
    (common : src.files.find? "default" = none) (special : src.files.find? src.runMode = none) :
    ∃ t, load src = .ok t ∧ t = x.put (respelled s) {} ∧ (x.get t = some s ↔ Kept s) := by
  refine ⟨_, load_eq x s names loaded others common special, rfl, ?_⟩
  rw [x.get_put, Option.some.injEq, respelled_eq_self_iff]

/-- A source with one variable of a setting, among others. -/
def cacheSource : Source where
  environment := [("PATH", "/usr/bin"), ("Redis__URL", "redis://cache:6379"), ("RUN_MODE", "test")]

/-- An address is kept. -/
theorem load_variable_address :
    Kept "redis://cache:6379" ∧
      ∃ t, load cacheSource = .ok t ∧ t.guardStore.url = "redis://cache:6379" := by
  have names : variablePath "Redis__URL" = [.key "redis", .key "url"] := by decide +kernel
  have loaded : cacheSource.loaded =
      [("PATH", "/usr/bin")] ++ ("Redis__URL", "redis://cache:6379") :: [("RUN_MODE", "test")] :=
    rfl
  have others : ∀ v ∈ [("PATH", "/usr/bin")] ++ [("RUN_MODE", "test")], Aside v.1 := by
    simp only [List.singleton_append, List.forall_mem_cons]
    exact ⟨⟨"path", [], by decide +kernel, by decide⟩,
      ⟨"run_mode", [], by decide +kernel, by decide⟩, by simp⟩
  have kept : Kept "redis://cache:6379" := .other (by decide +kernel)
  obtain ⟨t, hload, -, hget⟩ := load_variable guardStoreUrl _ names loaded others rfl rfl
  exact ⟨kept, t, hload, Option.some.inj (hget.mpr kept)⟩

/-- A source with a key that looks like a number. -/
def keySource : Source where
  environment := [("PUSH__API_KEY", "007")]

/-- It loses its zeros. -/
theorem load_apiKey_zeros : load keySource = .ok { push := { apiKey := some "7" } } := by
  have respelled : respelled "007" = "7" := by decide +kernel
  have loaded : keySource.loaded = [] ++ ("PUSH__API_KEY", "007") :: [] := rfl
  have hload := load_eq apiKey _ (variablePath_variableName apiKey) loaded (by simp) rfl rfl
  rw [respelled] at hload
  exact hload

end TextSetting

end PushDelivery.Settings
