import OsfmEdm.Common.Uuid

/-!
What every request handler has: the authenticated user (`middleware/auth.rs`) and the errors
it answers with (`error.rs`). The texts of database and bcrypt errors are left out.
-/

namespace OsfmEdm

def Uuid.text (id : Uuid) : String := String.ofList id.hyphenated

inductive ApiError where
  | notFound (text : String)
  | badRequest (text : String)
  | unauthorized (text : String)
  | forbidden (text : String)
  | conflict (text : String)
  | rateLimited (text : String)
  | internal (text : String)
  | database
  | bcrypt
deriving DecidableEq

structure AuthUser where
  userId : Uuid
  username : String
  role : String
deriving DecidableEq

namespace AuthUser

def isAdmin (auth : AuthUser) : Bool := auth.role = "admin"

/-- `require_admin`. -/
def requireAdmin (auth : AuthUser) : Except ApiError Unit :=
  if auth.role = "admin" then .ok ()
  else
    .error (.forbidden
      ("User '" ++ auth.username ++ "' (role: " ++ auth.role ++
        ") does not have admin privileges"))

end AuthUser

end OsfmEdm
