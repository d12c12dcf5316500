import ActionPlan.Json.Tree
import ActionPlan.Text.Quoted

/-!
# Reading Faults

A reader that expects certain types can be refused for one of three reasons: the text
is malformed, a sound value does not fit the type that is expected in its place, or
the value fits but breaks a rule of the type that is being built. The texts of the
second kind name what was found and what was expected.

## Main definitions

* `Shape`: What was found where something else was expected.
* `Misfit`: Why a value does not fit a type.
* `Fault`: Why reading failed.
-/

namespace ActionPlan

namespace Json

/-- What was found where something else was expected. -/
inductive Shape
  | null
  | bool (b : Bool)
  | number (n : Number)
  | string (s : String)
  | sequence
  | map
  deriving DecidableEq

/-- The shape as a message names it. -/
def Shape.text : Shape → String
  | .null => "null"
  | .bool b => "boolean `" ++ (if b then "true" else "false") ++ "`"
  | .number (.binary x) => "floating point `" ++ (Number.binary x).text ++ "`"
  | .number n => "integer `" ++ n.text ++ "`"
  | .string s => "string " ++ Text.quote s
  | .sequence => "sequence"
  | .map => "map"

/-- The shape of a value. -/
def Value.shape : Value → Shape
  | .null => .null
  | .bool b => .bool b
  | .number n => .number n
  | .string s => .string s
  | .array _ => .sequence
  | .object _ => .map

/-- The shape at the root of a tree; none if already that part of the text is unusable. -/
def Tree.shape? : Tree → Option Shape
  | .null => some .null
  | .bool b => some (.bool b)
  | .number n => n.map .number
  | .string s => s.map .string
  | .array _ _ => some .sequence
  | .object _ _ => some .map
  | .broken => none

/-- Why a value does not fit a type. -/
inductive Misfit
  | wrongType (found : Shape) (expected : String)
  | wrongValue (found : Shape) (expected : String)
  | wrongLength (length : Nat) (expected : String)
  | missing (field : String)
  | duplicate (field : String)
  deriving DecidableEq

/-- The text of a misfit. -/
def Misfit.message : Misfit → String
  | .wrongType found expected => "invalid type: " ++ found.text ++ ", expected " ++ expected
  | .wrongValue found expected => "invalid value: " ++ found.text ++ ", expected " ++ expected
  | .wrongLength length expected =>
    "invalid length " ++ toString length ++ ", expected " ++ expected
  | .missing field => "missing field `" ++ field ++ "`"
  | .duplicate field => "duplicate field `" ++ field ++ "`"

/-- Why reading failed; `ρ` are the reasons of the type that is being built. -/
inductive Fault (ρ : Type)
  | malformed
  | misfit (misfit : Misfit)
  | rejected (reason : ρ)

/-- The fault of a tree whose root has not the expected type. -/
def Tree.mismatch {ρ : Type} (tree : Tree) (expected : String) : Fault ρ :=
  match tree.shape? with
  | none => .malformed
  | some found => .misfit (.wrongType found expected)

end Json

end ActionPlan
