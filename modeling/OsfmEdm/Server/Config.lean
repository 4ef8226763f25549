import Mathlib.Data.List.Basic

/-!
The names on the server's own certificate (`Config::tls_hostnames` in `config.rs`), and the URLs
an operator may configure.
-/

namespace OsfmEdm

/-- The part before the first separator, and what follows the separator. -/
def cut (separator : List Char) : List Char → List Char × Option (List Char)
  | [] => ([], none)
  | char :: rest =>
      if separator.isPrefixOf (char :: rest) then
        ([], some ((char :: rest).drop separator.length))
      else (char :: (cut separator rest).1, (cut separator rest).2)

def schemeEnd : List Char := [':', '/', '/']

/-- `server_url.split("://").nth(1)`. -/
def afterScheme (serverUrl : List Char) : Option (List Char) :=
  (cut schemeEnd serverUrl).2.map fun rest => (cut schemeEnd rest).1

def hostOf (rest : List Char) : List Char := rest.takeWhile fun char => char ≠ '/' && char ≠ ':'

def tlsHostnames (serverUrl : String) : List String :=
  let hosts := ["localhost", "127.0.0.1"]
  match afterScheme serverUrl.toList with
  | none => hosts
  | some rest =>
      let host := String.ofList (hostOf rest)
      if hostOf rest ≠ [] && !hosts.contains host then host :: hosts else hosts

/-! ## Addresses -/

inductive IpAddr where
  | v4 (a b c d : UInt8)
  | v6 (segments : List UInt16)
deriving DecidableEq

def octet (text : List Char) : Option UInt8 :=
  let value := text.foldl (fun value char => value * 10 + (char.toNat - 48)) 0
  if text.all Char.isDigit && 0 < text.length && text.length ≤ 3 &&
      (text.head? ≠ some '0' || text.length = 1) && value < 256 then
    some (UInt8.ofNat value)
  else none

/-- `parse::<IpAddr>()` of a text without a colon, which is no IPv6 address. -/
def parseIpAddr (text : List Char) : Option IpAddr :=
  match cut ['.'] text with
  | (first, some rest) =>
      match cut ['.'] rest with
      | (second, some rest) =>
          match cut ['.'] rest with
          | (third, some fourth) => do
              return .v4 (← octet first) (← octet second) (← octet third) (← octet fourth)
          | _ => none
      | _ => none
  | _ => none

def octetText (value : UInt8) : List Char := Nat.toDigits 10 value.toNat

def ipv4Text (a b c d : UInt8) : List Char :=
  octetText a ++ '.' :: octetText b ++ '.' :: octetText c ++ '.' :: octetText d

/-! ## Configured URLs -/

def isNameChar (char : Char) : Bool := char.isAlphanum || char = '-' || char = '.' || char = '_'

/-- A DNS name: what it is made of, and no IPv4 address. -/
structure DnsName where
  text : List Char
  notEmpty : text ≠ []
  chars : ∀ char ∈ text, isNameChar char = true
  noAddress : parseIpAddr text = none

inductive UrlHost where
  | dns (name : DnsName)
  | ipv4 (a b c d : UInt8)
  /-- In brackets, by its text and its value. -/
  | ipv6 (text : List Char) (segments : List UInt16)

def UrlHost.text : UrlHost → List Char
  | .dns name => name.text
  | .ipv4 a b c d => ipv4Text a b c d
  | .ipv6 text _ => '[' :: text ++ [']']

/-- `scheme://host[:port][/path]`. -/
structure ServerUrl where
  scheme : List Char
  schemeValid : ':' ∉ scheme
  host : UrlHost
  port : Option Nat
  path : Option (List Char)

def ServerUrl.tail (url : ServerUrl) : List Char :=
  (match url.port with
    | some port => ':' :: Nat.toDigits 10 port
    | none => []) ++
  (match url.path with
    | some path => '/' :: path
    | none => [])

def ServerUrl.text (url : ServerUrl) : String :=
  String.ofList (url.scheme ++ schemeEnd ++ (url.host.text ++ url.tail))

/-! ## Splitting -/

theorem cut_separator {text rest : List Char} (absent : ':' ∉ text) :
    cut schemeEnd (text ++ schemeEnd ++ rest) = (text, some rest) := by
  induction text with
  | nil => rfl
  | cons char text ih =>
      simp only [List.mem_cons, not_or] at absent
      have different : schemeEnd.isPrefixOf (char :: (text ++ schemeEnd ++ rest)) = false := by
        simp [schemeEnd, List.isPrefixOf, absent.1]
      simp only [List.cons_append, cut, different, Bool.false_eq_true, if_false, ih absent.2]

theorem cut_append {text rest : List Char} (absent : ':' ∉ text) :
    (cut schemeEnd (text ++ rest)).1 = text ++ (cut schemeEnd rest).1 := by
  induction text with
  | nil => rfl
  | cons char text ih =>
      simp only [List.mem_cons, not_or] at absent
      have different : schemeEnd.isPrefixOf (char :: (text ++ rest)) = false := by
        simp [schemeEnd, List.isPrefixOf, absent.1]
      simp only [List.cons_append, cut, different, Bool.false_eq_true, if_false, ih absent.2]

theorem cut_dot {text rest : List Char} (absent : '.' ∉ text) :
    cut ['.'] (text ++ '.' :: rest) = (text, some rest) := by
  induction text with
  | nil => rfl
  | cons char text ih =>
      simp only [List.mem_cons, not_or] at absent
      have different : ['.'].isPrefixOf (char :: (text ++ '.' :: rest)) = false := by
        simp [List.isPrefixOf, absent.1]
      simp only [List.cons_append, cut, different, Bool.false_eq_true, if_false, ih absent.2]

theorem octet_octetText (value : UInt8) : octet (octetText value) = some value := by
  have table : (List.range 256).all (fun index =>
      octet (octetText (UInt8.ofNat index)) = some (UInt8.ofNat index)) = true := by decide +kernel
  simpa using List.all_eq_true.mp table value.toNat (List.mem_range.mpr value.toNat_lt)

theorem octetText_chars (value : UInt8) : ∀ char ∈ octetText value, char.isDigit = true := by
  have table : (List.range 256).all (fun index =>
      (octetText (UInt8.ofNat index)).all Char.isDigit) = true := by decide +kernel
  simpa using List.all_eq_true.mp table value.toNat (List.mem_range.mpr value.toNat_lt)

theorem parseIpAddr_ipv4Text (a b c d : UInt8) :
    parseIpAddr (ipv4Text a b c d) = some (.v4 a b c d) := by
  have noDot : ∀ value, '.' ∉ octetText value := by
    intro value member
    exact absurd (octetText_chars value _ member) (by decide)
  simp only [parseIpAddr, ipv4Text, List.append_assoc, List.cons_append, cut_dot (noDot _),
    octet_octetText]
  rfl

/-! ## Hostnames -/

theorem isNameChar_ascii {char : Char} (named : isNameChar char = true) : char.toNat < 128 := by
  delta isNameChar Char.isAlphanum Char.isAlpha Char.isUpper Char.isLower Char.isDigit at named
  simp only [Bool.or_eq_true, Bool.and_eq_true, decide_eq_true_eq] at named
  rcases named with ((((upper | lower) | digit) | rfl) | rfl) | rfl
  · exact Nat.lt_of_le_of_lt (UInt32.le_iff_toNat_le.mp upper.2) (by decide)
  · exact Nat.lt_of_le_of_lt (UInt32.le_iff_toNat_le.mp lower.2) (by decide)
  · exact Nat.lt_of_le_of_lt (UInt32.le_iff_toNat_le.mp digit.2) (by decide)
  all_goals decide

theorem isNameChar_plain {char : Char} (named : isNameChar char = true) :
    char ≠ '/' ∧ char ≠ ':' := by
  constructor <;>
    · rintro rfl
      exact absurd named (by decide)

theorem ipv4Text_plain (a b c d : UInt8) :
    ∀ char ∈ ipv4Text a b c d, char ≠ '/' ∧ char ≠ ':' := by
  have digits : ∀ value, ∀ char ∈ octetText value, char ≠ '/' ∧ char ≠ ':' := by
    intro value char member
    have digit := octetText_chars value char member
    constructor <;>
      · rintro rfl
        exact absurd digit (by decide)
  intro char member
  simp only [ipv4Text, List.mem_append, List.mem_cons, or_assoc] at member
  rcases member with inA | rfl | inB | rfl | inC | rfl | inD
  · exact digits a char inA
  · decide
  · exact digits b char inB
  · decide
  · exact digits c char inC
  · decide
  · exact digits d char inD

theorem hostOf_tail (url : ServerUrl) : hostOf (cut schemeEnd url.tail).1 = [] := by
  have stops : ∀ char rest, char = ':' ∨ char = '/' →
      hostOf (cut schemeEnd (char :: rest)).1 = [] := by
    intro char rest stop
    simp only [cut]
    split
    · rfl
    · rcases stop with rfl | rfl <;> rfl
  unfold ServerUrl.tail
  cases url.port with
  | some port => exact stops _ _ (.inl rfl)
  | none =>
      cases url.path with
      | some path => exact stops _ _ (.inr rfl)
      | none => rfl

theorem tlsHostnames_host (url : ServerUrl) (notEmpty : url.host.text ≠ [])
    (plain : ∀ char ∈ url.host.text, char ≠ '/' ∧ char ≠ ':') :
    String.ofList url.host.text ∈ tlsHostnames url.text := by
  have absent : ':' ∉ url.host.text := fun member => (plain _ member).2 rfl
  have found : afterScheme url.text.toList =
      some (url.host.text ++ (cut schemeEnd url.tail).1) := by
    rw [ServerUrl.text, String.toList_ofList, afterScheme, cut_separator url.schemeValid,
      Option.map_some, cut_append absent]
  have whole : hostOf (url.host.text ++ (cut schemeEnd url.tail).1) = url.host.text := by
    have passes : ∀ char ∈ url.host.text, (char ≠ '/' && char ≠ ':') = true := by
      intro char member
      simpa using plain char member
    have rest := hostOf_tail url
    unfold hostOf at rest ⊢
    rw [List.takeWhile_append_of_pos passes, rest, List.append_nil]
  simp only [tlsHostnames, found, whole]
  split
  · exact List.mem_cons_self
  · rename_i known
    by_contra absent
    exact known (by simpa [notEmpty] using absent)

theorem tlsHostnames_localhost (serverUrl : String) : "localhost" ∈ tlsHostnames serverUrl := by
  unfold tlsHostnames
  split
  · simp
  · dsimp only
    split <;> simp

theorem tlsHostnames_noColon (serverUrl : String) :
    ∀ host ∈ tlsHostnames serverUrl, ':' ∉ host.toList := by
  have fixed : ∀ host ∈ ["localhost", "127.0.0.1"], ':' ∉ host.toList := by decide
  intro host member
  unfold tlsHostnames at member
  split at member
  · exact fixed host member
  · rename_i rest _
    dsimp only at member
    split at member
    · rcases List.mem_cons.mp member with rfl | known
      · rw [String.toList_ofList]
        intro colon
        have passed := List.all_eq_true.mp List.all_takeWhile _ colon
        simp at passed
      · exact fixed host known
    · exact fixed host member

end OsfmEdm
