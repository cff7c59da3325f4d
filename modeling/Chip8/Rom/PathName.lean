/-
  Path names: texts that name files by the folders that lead to them.

  `parts` cuts a name at its slashes, and joining the parts with slashes gives the name back
  (`join_parts`).  `leads` says where parts lead, one after the other; a PLACE is the list of the parts
  that lead there from the root, without any that go nowhere or up.  `normalize` is
  the form in which a path value shows its name: single slashes, no parts that stand for the folder they
  are in, and a lone point for the empty path.
-/

namespace Chip8.PathName

/-- The parts of a name between its slashes; there is always at least one. -/
def parts : List Char → List (List Char)
  | [] => [[]]
  | c :: cs =>
    if c = '/' then [] :: parts cs
    else
      match parts cs with
      | [] => [[c]]
      | p :: ps => (c :: p) :: ps

/-- Parts put together with slashes between them. -/
def join : List (List Char) → List Char
  | [] => []
  | [p] => p
  | p :: q :: ps => p ++ '/' :: join (q :: ps)

/-- The part that stands for the folder that it is in. -/
def here : List Char := ['.']

/-- The part that stands for the folder above. -/
def above : List Char := ['.', '.']

/-- The parts of a name that are not empty. -/
def proper (name : List Char) : List (List Char) := (parts name).filter fun p => !p.isEmpty

/-- The parts that lead somewhere else. -/
def steps (name : List Char) : List (List Char) := (proper name).filter fun p => p != here

/-- Where parts lead from a place, one after the other.  Above the root there is nothing but the root. -/
def leads (place : List (List Char)) : List (List Char) → List (List Char)
  | [] => place
  | part :: rest =>
    leads (if part = here then place
      else if part = above then place.dropLast
      else place ++ [part]) rest

/-- The slashes that a normalized name begins with.  Two slashes are kept, more count as one. -/
def root (name : List Char) : List Char :=
  match (name.takeWhile (· == '/')).length with
  | 0 => []
  | 2 => ['/', '/']
  | _ => ['/']

/-- The normalized form of a name. -/
def normalize (name : String) : String :=
  match root name.toList ++ join (steps name.toList) with
  | [] => "."
  | cs => String.ofList cs

/-- Cutting a name and joining the parts loses nothing. -/
theorem join_parts (name : List Char) : join (parts name) = name := by
  induction name with
  | nil => rfl
  | cons c cs ih =>
    have nonempty : parts cs ≠ [] := by
      cases cs with
      | nil => simp [parts]
      | cons d ds => simp only [parts]; split <;> (try split) <;> simp
    rw [parts]
    cases h : parts cs with
    | nil => exact absurd h nonempty
    | cons p ps =>
      rw [h] at ih
      by_cases slash : c = '/'
      · rw [if_pos slash, slash]
        simp only [join, List.nil_append, ih]
      · rw [if_neg slash]
        cases ps <;> simp_all [join]

example : normalize "a//./b/" = "a/b" := by decide +kernel
example : normalize "" = "." := by decide +kernel
example : normalize "///x/../y" = "/x/../y" := by decide +kernel

end Chip8.PathName
