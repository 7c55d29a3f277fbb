import ClusterSurvey.Explorer.Bare
import ClusterSurvey.Explorer.Dispatch
import ClusterSurvey.Explorer.Label
import ClusterSurvey.Explorer.StaticPod

/-! The table of explorers. Its order is the order in which they are tried, and registering a
strategy again replaces its factory in place. -/
namespace ClusterSurvey

structure ExplorerContext where
  component : ComponentConfig
  nodes : List String
  executor : Option NodeExecutor

abbrev ExplorerFactory := ExplorerContext → Option Explorer

structure Registry where
  entries : List (Strategy × ExplorerFactory)

namespace Registry

instance : EmptyCollection Registry := ⟨⟨[]⟩⟩

/-- The entries with a factory for a strategy, in place of the one it had. -/
def place (strategy : Strategy) (factory : ExplorerFactory) :
    List (Strategy × ExplorerFactory) → List (Strategy × ExplorerFactory)
  | [] => [(strategy, factory)]
  | e :: rest =>
    if e.1 = strategy then (strategy, factory) :: rest else e :: place strategy factory rest

def register (r : Registry) (strategy : Strategy) (factory : ExplorerFactory) : Registry :=
  ⟨place strategy factory r.entries⟩

def strategies (r : Registry) : List Strategy := r.entries.map (·.1)

def permitted (r : Registry) (source : Source) : List (Strategy × ExplorerFactory) :=
  r.entries.filter fun e => source.permits e.1

/-- The explorers of a component, in the order in which they are tried. -/
def chain (r : Registry) (ctx : ExplorerContext) : List Explorer :=
  (r.permitted ctx.component.source).filterMap fun e => e.2 ctx

end Registry

def labelFactory : ExplorerFactory := fun ctx =>
  (ctx.component.source.labels?.filter fun labels => !labels.isEmpty).map
    (Explorer.byLabels ctx.component.name ctx.component.ns)

def staticPodFactory : ExplorerFactory := fun ctx =>
  if ctx.component.source.targetsNodes then
    some (.byStaticPods ctx.component.name ctx.component.ns ctx.nodes)
  else none

def bareFactory : ExplorerFactory := fun ctx =>
  ctx.executor.map fun executor => .byProcess executor ctx.component.name ctx.nodes

def Registry.builtin : Registry :=
  (((∅ : Registry).register .label labelFactory).register .staticPod staticPodFactory).register
    .bare bareFactory

end ClusterSurvey
