/-! A gate in front of the nodes: it lets at most a fixed number of visitors in at once, and the
others in the order in which they came. -/
namespace ClusterSurvey

def Gate.capacity : Nat := 0x1FFFFFFFFFFFFFFF

structure Gate where
  limit : Nat
  held : List String
  waiting : List String
  deriving DecidableEq, Repr

inductive GateStep where
  | enter (visitor : String)
  | drop (visitor : String)
  deriving DecidableEq, Repr

namespace Gate

/-- A gate that lets in `limit` visitors, at least one; nothing if that is beyond any gate. -/
def ofLimit? (limit : Nat) : Option Gate :=
  if limit ≤ capacity then some ⟨max limit 1, [], []⟩ else none

def available (g : Gate) : Nat := g.limit - g.held.length

/-- Lets in those who have waited longest, as far as there is room. -/
def refill (g : Gate) : Gate :=
  { g with
    held := g.held ++ g.waiting.take g.available
    waiting := g.waiting.drop g.available }

def step (g : Gate) : GateStep → Gate
  | .enter visitor =>
    if 0 < g.available then { g with held := g.held ++ [visitor] }
    else { g with waiting := g.waiting ++ [visitor] }
  | .drop visitor =>
    refill { g with
      held := g.held.filter (· ≠ visitor)
      waiting := g.waiting.filter (· ≠ visitor) }

def run (g : Gate) (steps : List GateStep) : Gate := steps.foldl step g

end Gate

end ClusterSurvey
