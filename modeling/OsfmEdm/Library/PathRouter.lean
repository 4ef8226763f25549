import Mathlib.Data.List.Pairwise

/-!
Routers that take a path apart at its slashes. A pattern has a literal or a capture for each part;
where both could follow, the literal goes first.
-/

namespace PathRouter

/-! ## Paths -/

/-- The path with these parts. -/
def slashed (parts : List String) : String :=
  String.ofList (parts.flatMap fun part => '/' :: part.toList)

/-- A path begins with a slash. -/
def parts (path : String) : List String := (path.toList.splitOn '/').tail.map String.ofList

theorem splitOn_flatMap {first : List Char} {rest : List String} (plain : '/' ∉ first)
    (others : ∀ part ∈ rest, '/' ∉ part.toList) :
    (first ++ rest.flatMap fun part => '/' :: part.toList).splitOn '/' =
      first :: rest.map String.toList := by
  induction rest generalizing first with
  | nil => simpa using List.splitOn_eq_singleton plain
  | cons part rest ih =>
      rw [List.flatMap_cons, List.cons_append, List.splitOn_append_cons_self_of_not_mem plain,
        ih (others part List.mem_cons_self)
          fun part member => others part (List.mem_cons_of_mem _ member)]
      rfl

theorem parts_slashed {path : List String} (plain : ∀ part ∈ path, '/' ∉ part.toList) :
    parts (slashed path) = path := by
  have split : (path.flatMap fun part => '/' :: part.toList).splitOn '/' =
      [] :: path.map String.toList := splitOn_flatMap List.not_mem_nil plain
  simp [parts, slashed, split]

/-! ## Patterns -/

inductive Part where
  | literal (text : String)
  | capture
deriving DecidableEq

abbrev Pattern := List Part

def Part.text? : Part → Option String
  | .literal text => some text
  | .capture => none

/-- A part that begins with a colon is a capture. -/
def Part.ofText (text : String) : Part :=
  if text.toList.head? = some ':' then .capture else .literal text

def pattern (texts : List String) : Pattern := texts.map Part.ofText

/-- What a pattern captures of the parts of a path. An empty part is not captured. -/
def captures : Pattern → List String → Option (List String)
  | [], [] => some []
  | .literal text :: pattern, part :: path => if part = text then captures pattern path else none
  | .capture :: pattern, part :: path =>
      if part = "" then none else (captures pattern path).map (part :: ·)
  | _, _ => none

/-- The parts of a path that matches, with the arguments for the captures in order. -/
def fill : Pattern → List String → List String
  | .literal text :: pattern, args => text :: fill pattern args
  | .capture :: pattern, arg :: args => arg :: fill pattern args
  | _, _ => []

theorem captures_fill {pattern : Pattern} {args : List String}
    (all : args.length = pattern.count .capture) (nonempty : "" ∉ args) :
    captures pattern (fill pattern args) = some args := by
  induction pattern generalizing args with
  | nil => simp [List.length_eq_zero_iff.mp all, fill, captures]
  | cons part pattern ih =>
      cases part with
      | literal text =>
          have others : args.length = pattern.count .capture := by
            simpa [List.count_cons] using all
          simpa [fill, captures] using ih others nonempty
      | capture =>
          cases args with
          | nil => simp at all
          | cons arg args =>
              have others : args.length = pattern.count .capture := by simpa using all
              simp only [List.mem_cons, not_or] at nonempty
              simp [fill, captures, ih others nonempty.2, Ne.symm nonempty.1]

theorem mem_fill {pattern : Pattern} {args : List String} {part : String}
    (member : part ∈ fill pattern args) : .literal part ∈ pattern ∨ part ∈ args := by
  induction pattern generalizing args with
  | nil => exact absurd member List.not_mem_nil
  | cons first pattern ih =>
      cases first with
      | literal text =>
          rcases List.mem_cons.mp member with rfl | later
          · exact .inl List.mem_cons_self
          · exact (ih later).imp_left (List.mem_cons_of_mem _)
      | capture =>
          cases args with
          | nil => exact absurd member List.not_mem_nil
          | cons arg args =>
              rcases List.mem_cons.mp member with rfl | later
              · exact .inr List.mem_cons_self
              · exact (ih later).imp (List.mem_cons_of_mem _) (List.mem_cons_of_mem _)

/-! ## Routes -/

section Lookup

variable {α : Type} {routes : List (Pattern × α)} {path captured : List String}
  {pattern other : Pattern} {value : α}

/-- What follows a part in the routes. -/
def under (part : Part) (routes : List (Pattern × α)) : List (Pattern × α) :=
  routes.filterMap fun route =>
    if route.1.head? = some part then some (route.1.tail, route.2) else none

def lookup (routes : List (Pattern × α)) : List String → Option (List String × α)
  | [] => (routes.find? fun route => route.1 = []).map fun route => ([], route.2)
  | part :: path =>
      (lookup (under (.literal part) routes) path).or
        (if part = "" then none
        else (lookup (under .capture routes) path).map fun found => (part :: found.1, found.2))

theorem mem_under {part : Part} :
    (pattern, value) ∈ under part routes ↔ (part :: pattern, value) ∈ routes := by
  constructor
  · intro member
    obtain ⟨⟨whole, own⟩, there, same⟩ := List.mem_filterMap.mp member
    split at same
    · rename_i begins
      cases same
      cases whole with
      | nil => cases begins
      | cons first rest =>
          cases begins
          exact there
    · cases same
  · exact fun member => List.mem_filterMap.mpr ⟨_, member, if_pos rfl⟩

theorem lookup_sound (found : lookup routes path = some (captured, value)) :
    ∃ pattern, (pattern, value) ∈ routes ∧ captures pattern path = some captured := by
  induction path generalizing routes captured with
  | nil =>
      obtain ⟨⟨pattern, own⟩, there, same⟩ := Option.map_eq_some_iff.mp found
      cases same
      have empty : pattern = [] := by simpa using List.find?_some there
      exact ⟨pattern, List.mem_of_find?_eq_some there, by rw [empty]; rfl⟩
  | cons part path ih =>
      rcases Option.or_eq_some_iff.mp found with literal | ⟨_, capture⟩
      · obtain ⟨pattern, member, matched⟩ := ih literal
        exact ⟨_, mem_under.mp member, by simpa [captures] using matched⟩
      · split at capture
        · cases capture
        · rename_i nonempty
          obtain ⟨⟨rest, own⟩, there, same⟩ := Option.map_eq_some_iff.mp capture
          cases same
          obtain ⟨pattern, member, matched⟩ := ih there
          exact ⟨_, mem_under.mp member, by simp [captures, nonempty, matched]⟩

theorem lookup_complete (member : (pattern, value) ∈ routes)
    (matched : captures pattern path = some captured) : (lookup routes path).isSome := by
  induction path generalizing routes pattern captured with
  | nil =>
      cases pattern with
      | nil =>
          rw [lookup, Option.isSome_map, List.find?_isSome]
          exact ⟨_, member, decide_eq_true rfl⟩
      | cons part pattern => cases part <;> cases matched
  | cons part path ih =>
      rw [lookup, Option.isSome_or, Bool.or_eq_true]
      cases pattern with
      | nil => cases matched
      | cons first pattern =>
          cases first with
          | literal text =>
              rw [captures] at matched
              split at matched
              · rename_i same
                cases same
                exact .inl (ih (mem_under.mpr member) matched)
              · cases matched
          | capture =>
              rw [captures] at matched
              split at matched
              · cases matched
              · rename_i nonempty
                obtain ⟨rest, later, _⟩ := Option.map_eq_some_iff.mp matched
                right
                rw [if_neg nonempty, Option.isSome_map]
                exact ih (mem_under.mpr member) later

/-- No path matches both patterns: they differ in length, or in a literal. -/
def apart : Pattern → Pattern → Bool
  | [], [] => false
  | .literal text :: pattern, .literal other :: rest => text ≠ other || apart pattern rest
  | _ :: pattern, _ :: rest => apart pattern rest
  | _, _ => true

theorem apart_captures (different : apart pattern other = true)
    (matched : captures pattern path = some captured) : captures other path = none := by
  induction path generalizing pattern other captured with
  | nil =>
      cases pattern with
      | nil =>
          cases other with
          | nil => cases different
          | cons part other => cases part <;> rfl
      | cons part pattern => cases part <;> cases matched
  | cons part path ih =>
      cases pattern with
      | nil => cases matched
      | cons first pattern =>
          cases other with
          | nil => rfl
          | cons second other =>
              cases first with
              | literal text =>
                  rw [captures] at matched
                  split at matched
                  · rename_i same
                    cases second with
                    | literal own =>
                        rw [captures]
                        split
                        · rename_i same'
                          rcases Bool.or_eq_true_iff.mp different with unlike | later
                          · exact absurd (same.symm.trans same') (of_decide_eq_true unlike)
                          · exact ih later matched
                        · rfl
                    | capture =>
                        have later : apart pattern other = true := different
                        simp [captures, ih later matched]
                  · cases matched
              | capture =>
                  rw [captures] at matched
                  split at matched
                  · cases matched
                  · obtain ⟨rest, later, _⟩ := Option.map_eq_some_iff.mp matched
                    have none : captures other path = none := by
                      cases second <;> exact ih different later
                    cases second <;> simp [captures, none]

/-- Routes no two of which match one path. -/
def Distinct (routes : List (Pattern × α)) : Prop :=
  routes.Pairwise fun route other => apart route.1 other.1 = true

instance (routes : List (Pattern × α)) : Decidable (Distinct routes) :=
  inferInstanceAs (Decidable (routes.Pairwise _))

theorem Distinct.one_of (distinct : Distinct routes) {own : α} (member : (pattern, value) ∈ routes)
    (there : (other, own) ∈ routes) (different : (pattern, value) ≠ (other, own)) :
    captures pattern path = none ∨ captures other path = none := by
  have one : routes.Pairwise fun route other =>
      captures route.1 path = none ∨ captures other.1 path = none := by
    refine distinct.imp fun {route other} apart => ?_
    cases known : captures route.1 path with
    | none => exact .inl rfl
    | some _ => exact .inr (apart_captures apart known)
  have : Std.Symm fun (route other : Pattern × α) =>
      captures route.1 path = none ∨ captures other.1 path = none := ⟨fun _ _ => Or.symm⟩
  exact one.forall member there different

theorem lookup_eq_some_iff (distinct : Distinct routes) :
    lookup routes path = some (captured, value) ↔
      ∃ pattern, (pattern, value) ∈ routes ∧ captures pattern path = some captured := by
  refine ⟨lookup_sound, fun ⟨pattern, member, matched⟩ => ?_⟩
  obtain ⟨⟨rest, own⟩, found⟩ := Option.isSome_iff_exists.mp (lookup_complete member matched)
  obtain ⟨other, there, also⟩ := lookup_sound found
  have same : (pattern, value) = (other, own) := by
    by_contra different
    rcases distinct.one_of member there different with none | none
    · cases matched.symm.trans none
    · cases also.symm.trans none
  cases same
  rw [found, Option.some.inj (matched.symm.trans also)]

end Lookup

example : lookup [(pattern ["jobs", ":id"], 1), (pattern ["jobs", "new"], 2)]
    (parts "/jobs/new") = some ([], 2) := by decide

end PathRouter
