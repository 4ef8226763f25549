import OsfmEdm.Api.Routes
import OsfmEdm.Library.Interleaving

/-!
Authenticated requests beside each other and beside whatever else the server does. A step is one
step of a handler.
-/

namespace OsfmEdm

open Interleaving Resumption

/-- Something the server does outside the handlers of these routes: log in a user, enroll a device,
serve an agent's connection. Only `open_shell` inserts into `shell_sessions`. -/
structure Activity where
  change : ApiServer → ApiServer
  keeps_opened : ∀ s, (change s).opened = s.opened
  opens_none : ∀ s session found, (change s).app.shellSessions session = some found →
    s.app.shellSessions session = some found

namespace Activity

def register (device : Uuid) (tx : Nat) : Activity where
  change s := { s with app := s.app.register device tx }
  keeps_opened _ := rfl
  opens_none _ _ _ found := found

/-- An operator's `UPDATE users SET role = $1 WHERE id = $2`. -/
def setRole (user : Uuid) (role : String) : Activity where
  change s := { s with users := s.users.update user fun row => { row with role } }
  keeps_opened _ := rfl
  opens_none _ _ _ found := found

end Activity

/-- `arrives` is a request with the user its access token names, `runs` its handler after the
lookup of the user. -/
inductive ApiTask where
  | arrives (user : Uuid) (route : Route)
  | runs (auth : AuthUser) (route : Route) (code : Proc ApiServer ApiChoice (Except ApiError Unit))
  | elsewhere (activity : Activity)
  | answered (answer : Except ApiError Unit)

namespace ApiServer

/-- `from_request_parts` after the token is decoded. -/
def authenticate (s : ApiServer) (user : Uuid) : Except ApiError AuthUser :=
  match s.users.find? user with
  | none => .error (.unauthorized "User no longer exists")
  | some row => .ok { userId := user, username := row.username, role := row.role }

def turn (context : ApiContext) (s : ApiServer) (choice : ApiChoice) :
    ApiTask → Option (ApiServer × List ApiTask)
  | .arrives user route =>
      match choice with
      | .proceeds =>
          match s.authenticate user with
          | .ok auth => some (s, [.runs auth route (route.handler context auth).run])
          | .error error => some (s, [.answered (.error error)])
      | .fails => some (s, [.answered (.error .database)])
      | _ => none
  | .runs _ _ (.done answer) => some (s, [.answered answer])
  | .runs auth route code =>
      (code.advance s choice).map fun (after, rest) => (after, [.runs auth route rest])
  | .elsewhere activity => some (activity.change s, [])
  | .answered _ => none

end ApiServer

def ApiTask.request : ApiTask → Bool
  | .arrives .. | .elsewhere _ => true
  | _ => false

def apiProgram (context : ApiContext) : Program ApiServer ApiTask ApiChoice where
  request := ApiTask.request
  step s task choice := s.turn context choice task

end OsfmEdm
