/-! The kinds of objects that a survey lists, in the order in which they are listed. -/
namespace ClusterSurvey

inductive ObjectKind where
  | nodes
  | namespaces
  | pods
  | deployments
  | daemonSets
  | statefulSets
  | jobs
  | cronJobs
  | services
  | ingresses
  | networkPolicies
  | serviceAccounts
  | roles
  | clusterRoles
  | roleBindings
  | clusterRoleBindings
  | secrets
  | configMaps
  | persistentVolumes
  | persistentVolumeClaims
  | limitRanges
  | resourceQuotas
  | podDisruptionBudgets
  | horizontalPodAutoscalers
  deriving DecidableEq, Repr

namespace ObjectKind

def all : List ObjectKind :=
  [nodes, namespaces, pods, deployments, daemonSets, statefulSets, jobs, cronJobs, services,
    ingresses, networkPolicies, serviceAccounts, roles, clusterRoles, roleBindings,
    clusterRoleBindings, secrets, configMaps, persistentVolumes, persistentVolumeClaims,
    limitRanges, resourceQuotas, podDisruptionBudgets, horizontalPodAutoscalers]

theorem mem_all (kind : ObjectKind) : kind ∈ all := by cases kind <;> decide

theorem nodup_all : all.Nodup := by decide

def name : ObjectKind → String
  | nodes => "nodes"
  | namespaces => "namespaces"
  | pods => "pods"
  | deployments => "deployments"
  | daemonSets => "daemonsets"
  | statefulSets => "statefulsets"
  | jobs => "jobs"
  | cronJobs => "cronjobs"
  | services => "services"
  | ingresses => "ingresses"
  | networkPolicies => "networkpolicies"
  | serviceAccounts => "serviceaccounts"
  | roles => "roles"
  | clusterRoles => "clusterroles"
  | roleBindings => "rolebindings"
  | clusterRoleBindings => "clusterrolebindings"
  | secrets => "secrets"
  | configMaps => "configmaps"
  | persistentVolumes => "persistentvolumes"
  | persistentVolumeClaims => "persistentvolumeclaims"
  | limitRanges => "limitranges"
  | resourceQuotas => "resourcequotas"
  | podDisruptionBudgets => "poddisruptionbudgets"
  | horizontalPodAutoscalers => "horizontalpodautoscalers"

/-- The key of the kind's list in a written snapshot. -/
def snapshotKey : ObjectKind → String
  | daemonSets => "daemon_sets"
  | statefulSets => "stateful_sets"
  | cronJobs => "cron_jobs"
  | networkPolicies => "network_policies"
  | serviceAccounts => "service_accounts"
  | clusterRoles => "cluster_roles"
  | roleBindings => "role_bindings"
  | clusterRoleBindings => "cluster_role_bindings"
  | configMaps => "config_maps"
  | persistentVolumes => "persistent_volumes"
  | persistentVolumeClaims => "persistent_volume_claims"
  | limitRanges => "limit_ranges"
  | resourceQuotas => "resource_quotas"
  | podDisruptionBudgets => "pod_disruption_budgets"
  | horizontalPodAutoscalers => "horizontal_pod_autoscalers"
  | kind => kind.name

def apiVersion : ObjectKind → String
  | deployments | daemonSets | statefulSets => "apps/v1"
  | jobs | cronJobs => "batch/v1"
  | ingresses | networkPolicies => "networking.k8s.io/v1"
  | roles | clusterRoles | roleBindings | clusterRoleBindings => "rbac.authorization.k8s.io/v1"
  | podDisruptionBudgets => "policy/v1"
  | horizontalPodAutoscalers => "autoscaling/v2"
  | _ => "v1"

def objectName : ObjectKind → String
  | nodes => "Node"
  | namespaces => "Namespace"
  | pods => "Pod"
  | deployments => "Deployment"
  | daemonSets => "DaemonSet"
  | statefulSets => "StatefulSet"
  | jobs => "Job"
  | cronJobs => "CronJob"
  | services => "Service"
  | ingresses => "Ingress"
  | networkPolicies => "NetworkPolicy"
  | serviceAccounts => "ServiceAccount"
  | roles => "Role"
  | clusterRoles => "ClusterRole"
  | roleBindings => "RoleBinding"
  | clusterRoleBindings => "ClusterRoleBinding"
  | secrets => "Secret"
  | configMaps => "ConfigMap"
  | persistentVolumes => "PersistentVolume"
  | persistentVolumeClaims => "PersistentVolumeClaim"
  | limitRanges => "LimitRange"
  | resourceQuotas => "ResourceQuota"
  | podDisruptionBudgets => "PodDisruptionBudget"
  | horizontalPodAutoscalers => "HorizontalPodAutoscaler"

def ofName? (s : String) : Option ObjectKind := all.find? fun kind => kind.name = s

end ObjectKind

end ClusterSurvey
