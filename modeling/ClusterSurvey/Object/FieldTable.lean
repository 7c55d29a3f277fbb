import ClusterSurvey.Json.Basic
import ClusterSurvey.Object.Kind

/-! The fields that the API has beside those that a survey reads. They are passed on: an object is
written with what it came with under these names, whatever that is, and without what it came with
under any other. Of a spec or a status only the first level is told apart in this way. -/
namespace ClusterSurvey

/-- The names that fields can have, and those among them that are written in any case, each with the
least value it has. -/
structure FieldTable where
  names : List String
  least : List (String × Json) := []

namespace FieldTable

def metadata : FieldTable where
  names := ["creationTimestamp", "deletionGracePeriodSeconds", "deletionTimestamp", "finalizers",
    "generateName", "generation", "managedFields", "ownerReferences", "resourceVersion",
    "selfLink", "uid"]

def environment : FieldTable where
  names := ["valueFrom"]

def container : FieldTable where
  names := ["envFrom", "image", "imagePullPolicy", "lifecycle", "livenessProbe", "ports",
    "readinessProbe", "resizePolicy", "resources", "restartPolicy", "securityContext",
    "startupProbe", "stdin", "stdinOnce", "terminationMessagePath", "terminationMessagePolicy",
    "tty", "volumeDevices", "volumeMounts", "workingDir"]

def podSpec : FieldTable where
  names := ["activeDeadlineSeconds", "affinity", "automountServiceAccountToken", "dnsConfig",
    "dnsPolicy", "enableServiceLinks", "ephemeralContainers", "hostAliases", "hostIPC",
    "hostNetwork", "hostPID", "hostUsers", "hostname", "imagePullSecrets", "initContainers",
    "nodeSelector", "os", "overhead", "preemptionPolicy", "priority", "priorityClassName",
    "readinessGates", "resourceClaims", "resources", "restartPolicy", "runtimeClassName",
    "schedulerName", "schedulingGates", "securityContext", "serviceAccount",
    "serviceAccountName", "setHostnameAsFQDN", "shareProcessNamespace", "subdomain",
    "terminationGracePeriodSeconds", "tolerations", "topologySpreadConstraints", "volumes"]

def podStatus : FieldTable where
  names := ["conditions", "containerStatuses", "ephemeralContainerStatuses", "hostIP", "hostIPs",
    "initContainerStatuses", "message", "nominatedNodeName", "phase", "podIP", "podIPs",
    "qosClass", "reason", "resize", "resourceClaimStatuses", "startTime"]

def configMap : FieldTable where
  names := ["binaryData", "immutable"]

def counters (names others : List String) : FieldTable where
  names := names ++ others
  least := names.map fun name => (name, .ofNat 0)

end FieldTable

namespace ObjectKind

/-- The fields of a spec; none if objects of the kind have no spec that is passed on as a whole. -/
def specTable : ObjectKind → FieldTable
  | nodes => ⟨["configSource", "externalID", "podCIDR", "podCIDRs", "providerID", "taints",
      "unschedulable"], []⟩
  | namespaces => ⟨["finalizers"], []⟩
  | deployments =>
    ⟨["minReadySeconds", "paused", "progressDeadlineSeconds", "replicas",
      "revisionHistoryLimit", "selector", "strategy", "template"],
      [("selector", .obj []), ("template", .obj [])]⟩
  | daemonSets =>
    ⟨["minReadySeconds", "revisionHistoryLimit", "selector", "template", "updateStrategy"],
      [("selector", .obj []), ("template", .obj [])]⟩
  | statefulSets =>
    ⟨["minReadySeconds", "ordinals", "persistentVolumeClaimRetentionPolicy",
      "podManagementPolicy", "replicas", "revisionHistoryLimit", "selector", "serviceName",
      "template", "updateStrategy", "volumeClaimTemplates"],
      [("selector", .obj []), ("serviceName", .str ""), ("template", .obj [])]⟩
  | jobs =>
    ⟨["activeDeadlineSeconds", "backoffLimit", "backoffLimitPerIndex", "completionMode",
      "completions", "managedBy", "manualSelector", "maxFailedIndexes", "parallelism",
      "podFailurePolicy", "podReplacementPolicy", "selector", "successPolicy", "suspend",
      "template", "ttlSecondsAfterFinished"], [("template", .obj [])]⟩
  | cronJobs =>
    ⟨["concurrencyPolicy", "failedJobsHistoryLimit", "jobTemplate", "schedule",
      "startingDeadlineSeconds", "successfulJobsHistoryLimit", "suspend", "timeZone"],
      [("jobTemplate", .obj []), ("schedule", .str "")]⟩
  | services =>
    ⟨["allocateLoadBalancerNodePorts", "clusterIP", "clusterIPs", "externalIPs",
      "externalName", "externalTrafficPolicy", "healthCheckNodePort", "internalTrafficPolicy",
      "ipFamilies", "ipFamilyPolicy", "loadBalancerClass", "loadBalancerIP",
      "loadBalancerSourceRanges", "ports", "publishNotReadyAddresses", "selector",
      "sessionAffinity", "sessionAffinityConfig", "trafficDistribution", "type"], []⟩
  | ingresses => ⟨["defaultBackend", "ingressClassName", "rules", "tls"], []⟩
  | networkPolicies =>
    ⟨["egress", "ingress", "podSelector", "policyTypes"], [("podSelector", .obj [])]⟩
  | persistentVolumes =>
    ⟨["accessModes", "awsElasticBlockStore", "azureDisk", "azureFile", "capacity", "cephfs",
      "cinder", "claimRef", "csi", "fc", "flexVolume", "flocker", "gcePersistentDisk",
      "glusterfs", "hostPath", "iscsi", "local", "mountOptions", "nfs", "nodeAffinity",
      "persistentVolumeReclaimPolicy", "photonPersistentDisk", "portworxVolume", "quobyte",
      "rbd", "scaleIO", "storageClassName", "storageos", "volumeAttributesClassName",
      "volumeMode", "vsphereVolume"], []⟩
  | persistentVolumeClaims =>
    ⟨["accessModes", "dataSource", "dataSourceRef", "resources", "selector",
      "storageClassName", "volumeAttributesClassName", "volumeMode", "volumeName"], []⟩
  | limitRanges => ⟨["limits"], [("limits", .arr [])]⟩
  | resourceQuotas => ⟨["hard", "scopeSelector", "scopes"], []⟩
  | podDisruptionBudgets =>
    ⟨["maxUnavailable", "minAvailable", "selector", "unhealthyPodEvictionPolicy"], []⟩
  | horizontalPodAutoscalers =>
    ⟨["behavior", "maxReplicas", "metrics", "minReplicas", "scaleTargetRef"],
      [("maxReplicas", .ofNat 0),
        ("scaleTargetRef", .obj [("kind", .str ""), ("name", .str "")])]⟩
  | pods | secrets | configMaps | serviceAccounts | roles | clusterRoles | roleBindings
  | clusterRoleBindings => ⟨[], []⟩

def statusTable : ObjectKind → FieldTable
  | nodes =>
    ⟨["addresses", "allocatable", "capacity", "conditions", "config", "daemonEndpoints",
      "features", "images", "nodeInfo", "phase", "runtimeHandlers", "volumesAttached",
      "volumesInUse"], []⟩
  | namespaces => ⟨["conditions", "phase"], []⟩
  | pods => .podStatus
  | deployments =>
    ⟨["availableReplicas", "collisionCount", "conditions", "observedGeneration",
      "readyReplicas", "replicas", "unavailableReplicas", "updatedReplicas"], []⟩
  | daemonSets =>
    .counters ["currentNumberScheduled", "desiredNumberScheduled", "numberMisscheduled",
        "numberReady"]
      ["collisionCount", "conditions", "numberAvailable", "numberUnavailable",
        "observedGeneration", "updatedNumberScheduled"]
  | statefulSets =>
    .counters ["replicas"]
      ["availableReplicas", "collisionCount", "conditions", "currentReplicas",
        "currentRevision", "observedGeneration", "readyReplicas", "updateRevision",
        "updatedReplicas"]
  | jobs =>
    ⟨["active", "completedIndexes", "completionTime", "conditions", "failed", "failedIndexes",
      "ready", "startTime", "succeeded", "terminating", "uncountedTerminatedPods"], []⟩
  | cronJobs => ⟨["active", "lastScheduleTime", "lastSuccessfulTime"], []⟩
  | services => ⟨["conditions", "loadBalancer"], []⟩
  | ingresses => ⟨["loadBalancer"], []⟩
  | persistentVolumes => ⟨["lastPhaseTransitionTime", "message", "phase", "reason"], []⟩
  | persistentVolumeClaims =>
    ⟨["accessModes", "allocatedResourceStatuses", "allocatedResources", "capacity",
      "conditions", "currentVolumeAttributesClassName", "modifyVolumeStatus", "phase"], []⟩
  | resourceQuotas => ⟨["hard", "used"], []⟩
  | podDisruptionBudgets =>
    .counters ["currentHealthy", "desiredHealthy", "disruptionsAllowed", "expectedPods"]
      ["conditions", "disruptedPods", "observedGeneration"]
  | horizontalPodAutoscalers =>
    .counters ["desiredReplicas"]
      ["conditions", "currentMetrics", "currentReplicas", "lastScaleTime", "observedGeneration"]
  | secrets | configMaps | serviceAccounts | roles | clusterRoles | roleBindings
  | clusterRoleBindings | limitRanges | networkPolicies => ⟨[], []⟩

def noRole : Json := .obj [("apiGroup", .str ""), ("kind", .str ""), ("name", .str "")]

def otherTable : ObjectKind → FieldTable
  | serviceAccounts => ⟨["automountServiceAccountToken", "imagePullSecrets", "secrets"], []⟩
  | roles => ⟨["rules"], []⟩
  | clusterRoles => ⟨["aggregationRule", "rules"], []⟩
  | roleBindings | clusterRoleBindings => ⟨["roleRef", "subjects"], [("roleRef", noRole)]⟩
  | configMaps => .configMap
  | _ => ⟨[], []⟩

end ObjectKind

end ClusterSurvey
