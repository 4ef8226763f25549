import OsfmEdm.Server.Api

/-!
The refresh token in a request's Cookie headers, as `refresh` and as `logout` look for it
(`api/auth.rs`).
-/

namespace OsfmEdm

/-- The values of the Cookie headers of a request, in their order. -/
abbrev CookieHeaders := List (List UInt8)

namespace Cookies

/-- `HeaderValue::to_str`: visible ASCII, spaces and tabs. -/
def toStr (value : List UInt8) : Option (List Char) :=
  if value.all fun byte => (32 ≤ byte ∧ byte < 127) ∨ byte = 9 then
    some (value.map fun byte => Char.ofNat byte.toNat)
  else none

/-- `headers.get(COOKIE)`, as text; empty where there is none or it is no text. -/
def header (headers : CookieHeaders) : List Char := ((headers.head?).bind toStr).getD []

def trim (text : List Char) : List Char :=
  ((text.dropWhile Char.isWhitespace).reverse.dropWhile Char.isWhitespace).reverse

def stripHead (head text : List Char) : Option (List Char) :=
  if head.isPrefixOf text then some (text.drop head.length) else none

def tokenName : List Char := "refresh_token=".toList

end Cookies

/-- The token `refresh` finds. -/
def refreshCookie (headers : CookieHeaders) : Except ApiError String :=
  match ((Cookies.header headers).splitOn ';').findSome? fun cookie =>
      let cookie := Cookies.trim cookie
      Cookies.stripHead Cookies.tokenName cookie with
  | some token => .ok (String.ofList token)
  | none => .error (.unauthorized "Missing refresh token cookie")

/-- The token `logout` finds. -/
def logoutCookie (headers : CookieHeaders) : Option String :=
  (((Cookies.header headers).splitOn ';').findSome? fun cookie =>
    Cookies.stripHead Cookies.tokenName (Cookies.trim cookie)).map String.ofList

/-- A cookie among those of the first header, its surrounding whitespace gone, is the first to
start with the name; the token is the rest of it. -/
def FirstRefreshCookie (headers : CookieHeaders) (token : String) : Prop :=
  ∃ before cookie after, (Cookies.header headers).splitOn ';' = before ++ cookie :: after ∧
    Cookies.trim cookie = Cookies.tokenName ++ token.toList ∧
    ∀ other ∈ before, ¬ Cookies.tokenName <+: Cookies.trim other

theorem stripHead_eq_some {head text rest : List Char} :
    Cookies.stripHead head text = some rest ↔ text = head ++ rest := by
  unfold Cookies.stripHead
  split
  · rename_i starts
    obtain ⟨own, rfl⟩ := List.isPrefixOf_iff_prefix.mp starts
    simp
  · rename_i other
    simp only [reduceCtorEq, false_iff]
    rintro rfl
    exact other (List.isPrefixOf_iff_prefix.mpr (List.prefix_append head rest))

theorem stripHead_eq_none {head text : List Char} :
    Cookies.stripHead head text = none ↔ ¬ head <+: text := by
  simp [Cookies.stripHead]

/-- Both handlers find the same token, or both find none. -/
theorem refreshCookie_eq_ok {headers : CookieHeaders} {token : String} :
    refreshCookie headers = .ok token ↔ logoutCookie headers = some token := by
  unfold refreshCookie logoutCookie
  split
  · rename_i own found
    simp [found]
  · rename_i none
    simp [none]

theorem logoutCookie_eq_some {headers : CookieHeaders} {token : String} :
    logoutCookie headers = some token ↔ FirstRefreshCookie headers token := by
  simp only [logoutCookie, FirstRefreshCookie, Option.map_eq_some_iff, List.findSome?_eq_some_iff,
    stripHead_eq_some, stripHead_eq_none]
  constructor
  · rintro ⟨rest, ⟨before, cookie, after, split, own, others⟩, rfl⟩
    exact ⟨before, cookie, after, split, by rw [String.toList_ofList]; exact own, others⟩
  · rintro ⟨before, cookie, after, split, own, others⟩
    exact ⟨token.toList, ⟨before, cookie, after, split, own, others⟩, String.ofList_toList⟩

theorem FirstRefreshCookie.unique {headers : CookieHeaders} {token other : String}
    (first : FirstRefreshCookie headers token) (second : FirstRefreshCookie headers other) :
    token = other := by
  rw [← logoutCookie_eq_some] at first second
  exact Option.some.inj (first.symm.trans second)

end OsfmEdm
