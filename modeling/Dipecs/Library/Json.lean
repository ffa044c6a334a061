import Mathlib.Algebra.Group.Nat.Defs
import Mathlib.Data.List.Basic

/-! JSON values as a parser leaves them: objects are lists of fields in key order, and a
float is known by its bits. -/

namespace Dipecs.Library

inductive Json
  | null
  | bool (b : Bool)
  | posInt (n : UInt64)
  | negInt (n : Int)
  | float (bits : UInt64)
  | str (s : String)
  | arr (items : List Json)
  | obj (fields : List (String × Json))

namespace Json

def get (key : String) : Json → Option Json
  | obj fields => (fields.find? fun (k, _) => k == key).map Prod.snd
  | _ => none

def asStr : Json → Option String
  | str s => some s
  | _ => none

/-- Integers that fit a signed 64-bit value. -/
def asI64 : Json → Option Int
  | posInt n => if n.toNat < 2 ^ 63 then some n.toNat else none
  | negInt n => some n
  | _ => none

def isNull : Json → Bool
  | null => true
  | _ => false

end Json

end Dipecs.Library
