import OsfmEdm.Api.Audit
import OsfmEdm.Library.PathRouter
import OsfmEdm.Library.UrlText

/-!
The router of the server (`api/mod.rs`, the `router` of each of its modules, and `main`), the
requests that the comments of the handlers name, and the URLs of the routes.
-/

namespace OsfmEdm

open JsonText PathRouter

/-- The handlers that the routers name. -/
inductive HandlerName where
  | healthHandler
  | caCrtHandler
  | caFpHandler
  | enrollShHandler
  | enrollPs1Handler
  | wsHandler
  | login
  | refresh
  | logout
  | me
  | mfaSetup
  | mfaVerify
  | createEnrollmentToken
  | enrollDevice
  | listDevices
  | getDevice
  | updateDevice
  | deleteDevice
  | getTelemetry
  | requestInventory
  | requestTelemetry
  | createPolicy
  | listPolicies
  | getPolicy
  | updatePolicy
  | deletePolicy
  | assignPolicy
  | unassignPolicy
  | createJob
  | listJobs
  | getJob
  | cancelJob
  | createGroup
  | listGroups
  | getGroup
  | deleteGroup
  | listMembers
  | addMember
  | removeMember
  | listDeviceSoftware
  | devicePatchStatus
  | fleetPatchSummary
  | fleetCompliance
  | deviceCompliance
  | getSettings
  | serverStatus
  | openShell
  | closeShell
  | sendInput
  | streamShell
  | createRule
  | listRules
  | getRule
  | updateRule
  | deleteRule
  | listEvents
  | resolveEvent
deriving DecidableEq

/-- Paths and the handlers of their methods; calls of `route` with one path are one row. -/
abbrev Router := List (Pattern × List (Method × HandlerName))

namespace Router

def nest (first : String) (router : Router) : Router :=
  router.map fun row => (.literal first :: row.1, row.2)

def auth : Router :=
  [(pattern ["login"], [(.post, .login)]),
    (pattern ["refresh"], [(.post, .refresh)]),
    (pattern ["logout"], [(.post, .logout)]),
    (pattern ["me"], [(.get, .me)]),
    (pattern ["mfa", "setup"], [(.post, .mfaSetup)]),
    (pattern ["mfa", "verify"], [(.post, .mfaVerify)])]

def enroll : Router :=
  [(pattern ["token"], [(.post, .createEnrollmentToken)]),
    (pattern [], [(.post, .enrollDevice)])]

def devices : Router :=
  [(pattern [], [(.get, .listDevices)]),
    (pattern [":id"], [(.get, .getDevice), (.patch, .updateDevice), (.delete, .deleteDevice)]),
    (pattern [":id", "telemetry"], [(.get, .getTelemetry)]),
    (pattern [":id", "request-inventory"], [(.post, .requestInventory)]),
    (pattern [":id", "request-telemetry"], [(.post, .requestTelemetry)])]

def policies : Router :=
  [(pattern [], [(.get, .listPolicies), (.post, .createPolicy)]),
    (pattern [":id"], [(.get, .getPolicy), (.patch, .updatePolicy), (.delete, .deletePolicy)]),
    (pattern [":id", "assign"], [(.post, .assignPolicy)]),
    (pattern [":id", "unassign"], [(.post, .unassignPolicy)])]

def jobs : Router :=
  [(pattern [], [(.get, .listJobs), (.post, .createJob)]),
    (pattern [":id"], [(.get, .getJob)]),
    (pattern [":id", "cancel"], [(.post, .cancelJob)])]

def groups : Router :=
  [(pattern [], [(.get, .listGroups), (.post, .createGroup)]),
    (pattern [":id"], [(.get, .getGroup), (.delete, .deleteGroup)]),
    (pattern [":id", "members"], [(.get, .listMembers), (.post, .addMember)]),
    (pattern [":id", "members", ":device_id"], [(.delete, .removeMember)])]

def software : Router := [(pattern ["device", ":device_id"], [(.get, .listDeviceSoftware)])]

def patches : Router :=
  [(pattern ["device", ":device_id"], [(.get, .devicePatchStatus)]),
    (pattern ["summary"], [(.get, .fleetPatchSummary)])]

def reports : Router :=
  [(pattern ["compliance"], [(.get, .fleetCompliance)]),
    (pattern ["compliance", ":device_id"], [(.get, .deviceCompliance)])]

def settings : Router :=
  [(pattern [], [(.get, .getSettings)]), (pattern ["status"], [(.get, .serverStatus)])]

def shell : Router :=
  [(pattern [":device_id"], [(.post, .openShell)]),
    (pattern [":session_id", "close"], [(.delete, .closeShell)]),
    (pattern [":session_id", "input"], [(.post, .sendInput)]),
    (pattern [":session_id", "stream"], [(.get, .streamShell)])]

def alerts : Router :=
  [(pattern ["rules"], [(.get, .listRules), (.post, .createRule)]),
    (pattern ["rules", ":id"], [(.get, .getRule), (.patch, .updateRule), (.delete, .deleteRule)]),
    (pattern ["events"], [(.get, .listEvents)]),
    (pattern ["events", ":id", "resolve"], [(.post, .resolveEvent)])]

/-- `api::router`. -/
def api : Router :=
  nest "auth" auth ++ nest "enroll" enroll ++ nest "devices" devices ++ nest "policies" policies ++
    nest "jobs" jobs ++ nest "groups" groups ++ nest "software" software ++
    nest "patches" patches ++ nest "reports" reports ++ nest "settings" settings ++
    nest "shell" shell ++ nest "alerts" alerts

def app : Router :=
  [(pattern ["health"], [(.get, .healthHandler)]),
    (pattern ["ca.crt"], [(.get, .caCrtHandler)]),
    (pattern ["ca.fingerprint"], [(.get, .caFpHandler)]),
    (pattern ["enroll.sh"], [(.get, .enrollShHandler)]),
    (pattern ["enroll.ps1"], [(.get, .enrollPs1Handler)]),
    (pattern ["ws"], [(.get, .wsHandler)])] ++ nest "api" (nest "v1" api)

end Router

/-- A `GET` handler also answers `HEAD`. -/
def Method.serves (own method : Method) : Bool :=
  own = method || (own = .get && method = .head)

inductive Served where
  | handler (name : HandlerName) (captured : List String)
  | methodNotAllowed
  | notFound
deriving DecidableEq

def Router.serve (router : Router) (method : Method) (path : String) : Served :=
  match lookup router (parts path) with
  | none => .notFound
  | some found =>
      match found.2.find? fun own => own.1.serves method with
      | none => .methodNotAllowed
      | some own => .handler own.2 found.1

example : Router.app.serve .head "/api/v1/devices/7" = .handler .getDevice ["7"] := by decide

/-! ## The requests that the comments name -/

namespace HandlerName

def v1 (texts : List String) : Pattern := pattern ("api" :: "v1" :: texts)

/-- The method and the path in the comment of the handler. The five handlers of `main` that serve
files have no comment. -/
def documented : HandlerName → Method × Pattern
  | healthHandler => (.get, pattern ["health"])
  | caCrtHandler => (.get, pattern ["ca.crt"])
  | caFpHandler => (.get, pattern ["ca.fingerprint"])
  | enrollShHandler => (.get, pattern ["enroll.sh"])
  | enrollPs1Handler => (.get, pattern ["enroll.ps1"])
  | wsHandler => (.get, pattern ["ws"])
  | login => (.post, v1 ["auth", "login"])
  | refresh => (.post, v1 ["auth", "refresh"])
  | logout => (.post, v1 ["auth", "logout"])
  | me => (.get, v1 ["auth", "me"])
  | mfaSetup => (.post, v1 ["auth", "mfa", "setup"])
  | mfaVerify => (.post, v1 ["auth", "mfa", "verify"])
  | createEnrollmentToken => (.post, v1 ["enroll", "token"])
  | enrollDevice => (.post, v1 ["enroll"])
  | listDevices => (.get, v1 ["devices"])
  | getDevice => (.get, v1 ["devices", ":id"])
  | updateDevice => (.patch, v1 ["devices", ":id"])
  | deleteDevice => (.delete, v1 ["devices", ":id"])
  | getTelemetry => (.get, v1 ["devices", ":id", "telemetry"])
  | requestInventory => (.post, v1 ["devices", ":id", "request-inventory"])
  | requestTelemetry => (.post, v1 ["devices", ":id", "request-telemetry"])
  | createPolicy => (.post, v1 ["policies"])
  | listPolicies => (.get, v1 ["policies"])
  | getPolicy => (.get, v1 ["policies", ":id"])
  | updatePolicy => (.patch, v1 ["policies", ":id"])
  | deletePolicy => (.delete, v1 ["policies", ":id"])
  | assignPolicy => (.post, v1 ["policies", ":id", "assign"])
  | unassignPolicy => (.post, v1 ["policies", ":id", "unassign"])
  | createJob => (.post, v1 ["jobs"])
  | listJobs => (.get, v1 ["jobs"])
  | getJob => (.get, v1 ["jobs", ":id"])
  | cancelJob => (.post, v1 ["jobs", ":id", "cancel"])
  | createGroup => (.post, v1 ["groups"])
  | listGroups => (.get, v1 ["groups"])
  | getGroup => (.get, v1 ["groups", ":id"])
  | deleteGroup => (.delete, v1 ["groups", ":id"])
  | listMembers => (.get, v1 ["groups", ":id", "members"])
  | addMember => (.post, v1 ["groups", ":id", "members"])
  | removeMember => (.delete, v1 ["groups", ":id", "members", ":device_id"])
  | listDeviceSoftware => (.get, v1 ["software", "device", ":device_id"])
  | devicePatchStatus => (.get, v1 ["patches", "device", ":device_id"])
  | fleetPatchSummary => (.get, v1 ["patches", "summary"])
  | fleetCompliance => (.get, v1 ["reports", "compliance"])
  | deviceCompliance => (.get, v1 ["reports", "compliance", ":device_id"])
  | getSettings => (.get, v1 ["settings"])
  | serverStatus => (.get, v1 ["settings", "status"])
  | openShell => (.post, v1 ["shell", ":device_id"])
  | closeShell => (.delete, v1 ["shell", ":session_id", "close"])
  | sendInput => (.post, v1 ["shell", ":session_id", "input"])
  | streamShell => (.get, v1 ["shell", ":session_id", "stream"])
  | createRule => (.post, v1 ["alerts", "rules"])
  | listRules => (.get, v1 ["alerts", "rules"])
  | getRule => (.get, v1 ["alerts", "rules", ":id"])
  | updateRule => (.patch, v1 ["alerts", "rules", ":id"])
  | deleteRule => (.delete, v1 ["alerts", "rules", ":id"])
  | listEvents => (.get, v1 ["alerts", "events"])
  | resolveEvent => (.post, v1 ["alerts", "events", ":id", "resolve"])

/-- What the path captures, if it is one of the handler's. -/
def captured (name : HandlerName) (path : String) : Option (List String) :=
  captures name.documented.2 (parts path)

end HandlerName

namespace Router

theorem app_distinct : Distinct app := by decide +kernel

/-- A row has the handlers whose comments name its path, each with its own method. -/
theorem app_rows : ∀ row ∈ app, row.2 ≠ [] ∧ ∀ own ∈ row.2,
    own.2.documented = (own.1, row.1) ∧ own.1 ≠ .head ∧
      ∀ other ∈ row.2, own.1 = other.1 → own = other := by
  decide +kernel

variable {row : Pattern × List (Method × HandlerName)} {own other : Method × HandlerName}
  {method : Method} {path : String} {name : HandlerName} {captured : List String}

theorem app_sound (there : row ∈ app) (member : own ∈ row.2) :
    own.2.documented = (own.1, row.1) :=
  ((app_rows row there).2 own member).1

/-- No two handlers of a path serve one method. -/
theorem app_one (there : row ∈ app) (member : own ∈ row.2) (also : other ∈ row.2)
    (serves : own.1.serves method) (serves' : other.1.serves method) : own = other := by
  obtain ⟨-, plain, alone⟩ := (app_rows row there).2 own member
  obtain ⟨-, plain', -⟩ := (app_rows row there).2 other also
  refine alone other also ?_
  simp only [Method.serves, Bool.or_eq_true, Bool.and_eq_true, decide_eq_true_eq] at serves serves'
  rcases serves with same | ⟨get, head⟩ <;> rcases serves' with same' | ⟨get', head'⟩
  · rw [same, same']
  · exact absurd (same.trans head') plain
  · exact absurd (same'.trans head) plain'
  · rw [get, get']

theorem app_complete (name : HandlerName) :
    ∃ handlers, (name.documented.2, handlers) ∈ app ∧ (name.documented.1, name) ∈ handlers := by
  have there : ∃ row ∈ app, ∃ own ∈ row.2, own.2 = name := by cases name <;> decide
  obtain ⟨row, there, own, member, rfl⟩ := there
  rw [app_sound there member]
  exact ⟨row.2, there, member⟩

theorem lookup_documented (matched : name.captured path = some captured) :
    ∃ handlers, (name.documented.2, handlers) ∈ app ∧ (name.documented.1, name) ∈ handlers ∧
      lookup app (parts path) = some (captured, handlers) := by
  obtain ⟨handlers, row, own⟩ := app_complete name
  exact ⟨handlers, row, own, (lookup_eq_some_iff app_distinct).mpr ⟨_, row, matched⟩⟩

theorem serve_handler_iff : app.serve method path = .handler name captured ↔
    name.captured path = some captured ∧ name.documented.1.serves method := by
  constructor
  · intro served
    rw [serve] at served
    split at served
    · cases served
    · rename_i found there
      split at served
      · cases served
      · rename_i own first
        cases served
        obtain ⟨pattern, row, matched⟩ := lookup_sound there
        have named := app_sound row (List.mem_of_find?_eq_some first)
        have serves : own.1.serves method := by simpa using List.find?_some first
        rw [HandlerName.captured, named]
        exact ⟨matched, serves⟩
  · rintro ⟨matched, serves⟩
    obtain ⟨handlers, row, own, there⟩ := lookup_documented matched
    have first : handlers.find? (fun own => own.1.serves method) =
        some (name.documented.1, name) := by
      obtain ⟨other, found⟩ := Option.isSome_iff_exists.mp
        (List.find?_isSome.mpr ⟨_, own, serves⟩ :
          (handlers.find? fun own => own.1.serves method).isSome)
      have same := app_one row own (List.mem_of_find?_eq_some found) serves
        (by simpa using List.find?_some found)
      rw [found, same]
    rw [serve, there]
    simp only [first]

theorem serve_notFound_iff : app.serve method path = .notFound ↔
    ∀ name : HandlerName, name.captured path = none := by
  constructor
  · intro served name
    by_contra matched
    obtain ⟨captured, matched⟩ := Option.ne_none_iff_exists'.mp matched
    obtain ⟨handlers, -, -, there⟩ := lookup_documented matched
    rw [serve, there] at served
    dsimp only at served
    split at served <;> cases served
  · intro none
    rw [serve]
    split
    · rfl
    · rename_i found there
      obtain ⟨pattern, row, matched⟩ := lookup_sound there
      obtain ⟨own, member⟩ := List.exists_mem_of_ne_nil found.2 (app_rows _ row).1
      have named := app_sound row member
      have unmatched := none own.2
      rw [HandlerName.captured, named] at unmatched
      cases unmatched.symm.trans matched

end Router

/-- The ids that `Path` gives a handler. -/
def pathIds (captured : List String) : Option (List Uuid) :=
  captured.mapM fun part => (UrlText.pathText part).bind fun text => Uuid.parseStr text.toList

namespace Route

/-- None for a request that an extractor has refused. -/
def handlerName : Route → Option HandlerName
  | .refused _ => none
  | .listDevices => some .listDevices
  | .getDevice _ => some .getDevice
  | .updateDevice .. => some .updateDevice
  | .deleteDevice _ => some .deleteDevice
  | .getTelemetry .. => some .getTelemetry
  | .requestInventory _ => some .requestInventory
  | .requestTelemetry _ => some .requestTelemetry
  | .createPolicy _ => some .createPolicy
  | .listPolicies => some .listPolicies
  | .getPolicy _ => some .getPolicy
  | .updatePolicy .. => some .updatePolicy
  | .deletePolicy _ => some .deletePolicy
  | .assignPolicy .. => some .assignPolicy
  | .unassignPolicy .. => some .unassignPolicy
  | .createJob _ => some .createJob
  | .listJobs _ => some .listJobs
  | .getJob _ => some .getJob
  | .cancelJob _ => some .cancelJob
  | .createGroup _ => some .createGroup
  | .listGroups => some .listGroups
  | .getGroup _ => some .getGroup
  | .deleteGroup _ => some .deleteGroup
  | .listMembers _ => some .listMembers
  | .addMember .. => some .addMember
  | .removeMember .. => some .removeMember
  | .listDeviceSoftware _ => some .listDeviceSoftware
  | .devicePatchStatus _ => some .devicePatchStatus
  | .fleetPatchSummary => some .fleetPatchSummary
  | .fleetCompliance => some .fleetCompliance
  | .deviceCompliance _ => some .deviceCompliance
  | .getSettings => some .getSettings
  | .serverStatus => some .serverStatus
  | .openShell _ => some .openShell
  | .closeShell _ => some .closeShell
  | .sendInput .. => some .sendInput
  | .streamShell _ => some .streamShell
  | .createRule _ => some .createRule
  | .listRules => some .listRules
  | .getRule _ => some .getRule
  | .updateRule .. => some .updateRule
  | .deleteRule _ => some .deleteRule
  | .listEvents _ => some .listEvents
  | .resolveEvent _ => some .resolveEvent
  | .createEnrollmentToken => some .createEnrollmentToken

/-- The ids in the path. -/
def ids : Route → List Uuid
  | .getDevice id | .updateDevice id _ | .deleteDevice id | .getTelemetry id _
  | .requestInventory id | .requestTelemetry id | .getPolicy id | .updatePolicy id _
  | .deletePolicy id | .assignPolicy id _ | .unassignPolicy id _ | .getJob id | .cancelJob id
  | .getGroup id | .deleteGroup id | .listMembers id | .addMember id _ | .listDeviceSoftware id
  | .devicePatchStatus id | .deviceCompliance id | .openShell id | .closeShell id
  | .sendInput id _ | .streamShell id | .getRule id | .updateRule id _ | .deleteRule id
  | .resolveEvent id => [id]
  | .removeMember id device => [id, device]
  | _ => []

def url (route : Route) : Option String :=
  route.handlerName.map fun name =>
    slashed (fill name.documented.2 (route.ids.map Uuid.text))

variable {route : Route} {name : HandlerName} {method : Method}

theorem servedBy_documented (named : route.handlerName = some name) :
    route.servedBy method = name.documented.1.serves method := by
  cases route <;> cases named <;> cases method <;> rfl

theorem ids_length (named : route.handlerName = some name) :
    route.ids.length = name.documented.2.count .capture := by
  cases route <;> cases named <;> rfl

end Route

theorem hexDigit_path : ∀ value < 16, hexDigit value ≠ '/' ∧ hexDigit value ≠ '%' := by decide

namespace Uuid

theorem hexBytes_path {bytes : List UInt8} {char : Char} (member : char ∈ hexBytes bytes) :
    char ≠ '/' ∧ char ≠ '%' := by
  obtain ⟨byte, -, digit⟩ := List.mem_flatMap.mp member
  have bound := byte.toNat_lt
  rcases List.mem_cons.mp digit with rfl | low
  · exact hexDigit_path _ (by omega)
  · rw [List.mem_singleton.mp low]
    exact hexDigit_path _ (by omega)

theorem hyphenated_path {id : Uuid} {char : Char} (member : char ∈ id.hyphenated) :
    char ≠ '/' ∧ char ≠ '%' := by
  have hyphen : '-' ≠ '/' ∧ '-' ≠ '%' := by decide
  simp only [hyphenated, List.mem_append, List.mem_cons] at member
  rcases member with m | rfl | m | rfl | m | rfl | m | rfl | m
  all_goals first | exact hyphen | exact hexBytes_path m

theorem text_path (id : Uuid) : '/' ∉ id.text.toList ∧ '%' ∉ id.text.toList := by
  rw [text, String.toList_ofList]
  exact ⟨fun member => (hyphenated_path member).1 rfl, fun member => (hyphenated_path member).2 rfl⟩

theorem text_ne_empty (id : Uuid) : id.text ≠ "" := by
  intro empty
  have none : id.hyphenated = [] := by simpa [text] using congrArg String.toList empty
  have length := hyphenated_length id
  rw [none] at length
  cases length

end Uuid

theorem pathIds_text (ids : List Uuid) : pathIds (ids.map Uuid.text) = some ids := by
  induction ids with
  | nil => rfl
  | cons id ids ih =>
      rw [pathIds] at ih ⊢
      rw [List.map_cons, List.mapM_cons, ih, UrlText.pathText_plain (Uuid.text_path id).2]
      simp [Uuid.text, Uuid.parseStr_hyphenated]

namespace Route

variable {route other : Route} {name : HandlerName} {method : Method} {path : String}

theorem documented_plain (name : HandlerName) (text : String)
    (member : .literal text ∈ name.documented.2) : '/' ∉ text.toList := by
  have plain : ∀ part ∈ name.documented.2, part.text?.all ('/' ∉ ·.toList) := by
    cases name <;> decide
  simpa [Part.text?] using plain _ member

theorem captured_url (named : route.handlerName = some name) (own : route.url = some path) :
    name.captured path = some (route.ids.map Uuid.text) := by
  rw [url, named] at own
  cases own
  rw [HandlerName.captured, parts_slashed, captures_fill]
  · rw [List.length_map, ids_length named]
  · intro empty
    obtain ⟨id, -, same⟩ := List.mem_map.mp empty
    exact id.text_ne_empty same
  · intro part member
    rcases mem_fill member with literal | arg
    · exact documented_plain name part literal
    · obtain ⟨id, -, rfl⟩ := List.mem_map.mp arg
      exact id.text_path.1

end Route

/-- The URL of a route leads to its handler with its ids, for the methods of the route and no other;
two routes with one method and one URL are one handler with the same ids. -/
theorem url_served {route : Route} {name : HandlerName} {path : String} (method : Method)
    (named : route.handlerName = some name) (own : route.url = some path) :
    ((∃ captured, Router.app.serve method path = .handler name captured) ↔
      route.servedBy method = true) ∧
    (∀ captured, Router.app.serve method path = .handler name captured →
      pathIds captured = some route.ids) ∧
    ∀ other : Route, other.url = some path → route.servedBy method = true →
      other.servedBy method = true →
        other.handlerName = some name ∧ other.ids = route.ids := by
  have matched := Route.captured_url named own
  have served := (Route.servedBy_documented named : route.servedBy method = _)
  refine ⟨⟨fun ⟨_, reached⟩ => ?_, fun serves => ?_⟩, fun captured reached => ?_,
    fun other same serves serves' => ?_⟩
  · rw [served]
    exact (Router.serve_handler_iff.mp reached).2
  · exact ⟨_, Router.serve_handler_iff.mpr ⟨matched, served ▸ serves⟩⟩
  · have found := (Router.serve_handler_iff.mp reached).1
    rw [← Option.some.inj (matched.symm.trans found), pathIds_text]
  · obtain ⟨name', named', _⟩ := Option.map_eq_some_iff.mp same
    have reached := Router.serve_handler_iff.mpr ⟨matched, served ▸ serves⟩
    have reached' := Router.serve_handler_iff.mpr
      ⟨Route.captured_url named' same, Route.servedBy_documented named' ▸ serves'⟩
    obtain ⟨rfl, texts⟩ := Served.handler.inj (reached.symm.trans reached')
    refine ⟨named', ?_⟩
    have read := pathIds_text other.ids
    rw [← texts, pathIds_text] at read
    exact (Option.some.inj read).symm

theorem url_served_member :
    ∃ captured, Router.app.serve .delete ("/api/v1/groups/00000000-0000-0000-0000-000000000001" ++
      "/members/00000000-0000-0000-0000-000000000002") = .handler .removeMember captured := by
  have named : (Route.removeMember (.small 1) (.small 2)).handlerName = some .removeMember := rfl
  exact (url_served .delete named (by decide)).1.mpr rfl

end OsfmEdm
