/-
  Colours, and the named pairs of colours that screens are shown in.
-/
import Chip8.Text.Quoted

namespace Chip8

/-- A colour by its red, green and blue parts. -/
structure Color where
  red : UInt8
  green : UInt8
  blue : UInt8
deriving DecidableEq, Repr

/-- The colour of three numbers, all from 0 to 255. -/
def Color.ofIntegers? (red green blue : Int) : Option Color :=
  let part (v : Int) : Option UInt8 :=
    if 0 ≤ v ∧ v < 256 then some (UInt8.ofNat v.toNat) else none
  match part red, part green, part blue with
  | some r, some g, some b => some ⟨r, g, b⟩
  | _, _, _ => none

/-- The named pairs of colours. -/
inductive Scheme
  /-- Light blue on navy. -/
  | classic
  /-- Green on black. -/
  | green
  /-- Amber on black. -/
  | amber
  /-- White on black. -/
  | white
  /-- Yellow on purple. -/
  | retro
deriving DecidableEq, Repr

namespace Scheme

/-- The schemes in the order in which they are offered. -/
def all : List Scheme := [.classic, .green, .amber, .white, .retro]

/-- The name of a scheme. -/
def name : Scheme → String
  | .classic => "classic"
  | .green => "green"
  | .amber => "amber"
  | .white => "white"
  | .retro => "retro"

/-- The colour of lit pixels. -/
def lit : Scheme → Color
  | .classic => ⟨130, 204, 221⟩
  | .green => ⟨0, 255, 0⟩
  | .amber => ⟨255, 176, 0⟩
  | .white => ⟨255, 255, 255⟩
  | .retro => ⟨255, 255, 0⟩

/-- The colour of dark pixels. -/
def dark : Scheme → Color
  | .classic => ⟨10, 61, 98⟩
  | .green | .amber | .white => ⟨0, 0, 0⟩
  | .retro => ⟨64, 0, 64⟩

/-- A name of no scheme. -/
structure Unknown where
  name : String
deriving DecidableEq, Repr

/-- Says which name is not known, and which ones are. -/
def Unknown.message (e : Unknown) : String :=
  "Unknown color scheme '" ++ e.name ++ "'. Available: " ++ Quoted.encodeList (all.map Scheme.name)

/-- The scheme of a name. -/
def ofName (name : String) : Except Unknown Scheme :=
  match all.find? (·.name == name) with
  | some s => .ok s
  | none => .error ⟨name⟩

theorem ofName_name (s : Scheme) : ofName s.name = .ok s := by
  cases s <;> rfl

end Scheme

end Chip8
