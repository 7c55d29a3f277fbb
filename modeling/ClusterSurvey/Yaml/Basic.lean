/-! YAML values. The keys of a mapping may be values of any kind, and numbers are told apart by
their value and not by how they are written. -/
namespace ClusterSurvey

inductive Fractional where
  /-- `digits` · 10 ^ `power`, with no zero at the end of the digits. -/
  | finite (digits power : Int)
  | infinite (isNegative : Bool)
  | notANumber
  deriving DecidableEq, Repr

inductive Yaml where
  | null
  | bool (b : Bool)
  | int (n : Int)
  | real (x : Fractional)
  | str (s : String)
  | seq (items : List Yaml)
  | map (entries : List (Yaml × Yaml))
  | tagged (tag : String) (value : Yaml)
  deriving Inhabited, Repr

namespace Yaml

mutual

def same : Yaml → Yaml → Bool
  | null, null => true
  | bool a, bool b => a = b
  | int a, int b => a = b
  | real a, real b => a = b
  | str a, str b => a = b
  | seq l, seq m => sameItems l m
  | map l, map m => l.length = m.length && holdsAll m l
  | tagged s a, tagged t b => s = t && same a b
  | _, _ => false

def sameItems : List Yaml → List Yaml → Bool
  | [], [] => true
  | a :: l, b :: m => same a b && sameItems l m
  | _, _ => false

def holdsAll (m : List (Yaml × Yaml)) : List (Yaml × Yaml) → Bool
  | [] => true
  | (key, value) :: rest => (m.any fun e => same key e.1 && same value e.2) && holdsAll m rest

end

def hasDistinctKeys : List (Yaml × Yaml) → Bool
  | [] => true
  | (key, _) :: rest => (rest.all fun e => !same key e.1) && hasDistinctKeys rest

def untagged : Yaml → Yaml
  | tagged _ v => untagged v
  | v => v

end Yaml

end ClusterSurvey
