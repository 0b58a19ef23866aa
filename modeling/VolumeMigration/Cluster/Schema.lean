import VolumeMigration.Cluster.Kind
import VolumeMigration.Cluster.Shape
/-!
# The fields of each kind

What a cluster keeps of an object: the fields of the core, apps, batch and
networking APIs, and those of routes that a migration reads or writes.
-/

namespace VolumeMigration.Schema

open Shape

/-- Text under text keys. -/
def texts : Shape := .map .text

/-! ## Metadata -/

def ownerReference : Shape := .record
  [filled "apiVersion" .text, field "blockOwnerDeletion" .flag, field "controller" .flag, filled "kind" .text,
    filled "name" .text, filled "uid" .text]

def metadata : Shape := .record
  [field "annotations" texts, field "creationTimestamp" .time, field "deletionGracePeriodSeconds" .int64,
    field "deletionTimestamp" .time, field "finalizers" (.list .text), field "generateName" .text,
    field "generation" .int64, field "labels" texts,
    field "managedFields" (.list (.record
      [field "apiVersion" .text, field "fieldsType" .text, field "fieldsV1" .any, field "manager" .text,
        field "operation" .text, field "subresource" .text, field "time" .time])),
    field "name" .text, field "namespace" .text, field "ownerReferences" (.list ownerReference),
    field "resourceVersion" .text, field "selfLink" .text, field "uid" .text]

def condition (more : List (String × Presence × Shape)) : Shape := .record
  ([field "lastTransitionTime" .time, field "message" .text, field "reason" .text, filled "status" .text,
    filled "type" .text] ++ more)

def labelSelector : Shape := .record
  [field "matchExpressions" (.list (.record
      [filled "key" .text, filled "operator" .text, field "values" (.list .text)])),
    field "matchLabels" texts]

/-! ## Volumes -/

def localReference : Shape := .record [filled "name" .text]

def keyToPath : Shape := .record [filled "key" .text, field "mode" .int32, filled "path" .text]

def fieldReference : Shape := .record [field "apiVersion" .text, filled "fieldPath" .text]

def resourceReference : Shape := .record
  [field "containerName" .text, field "divisor" .text, filled "resource" .text]

def downwardFile : Shape := .record
  [field "fieldRef" fieldReference, field "mode" .int32, filled "path" .text,
    field "resourceFieldRef" resourceReference]

def typedReference : Shape := .record
  [field "apiGroup" .text, filled "kind" .text, filled "name" .text, field "namespace" .text]

def resources : Shape := .record
  [field "claims" (.list (.record [filled "name" .text, field "request" .text])), field "limits" texts,
    field "requests" texts]

def claimSpec : Shape := .record
  [field "accessModes" (.list .text), field "dataSource" typedReference, field "dataSourceRef" typedReference,
    field "resources" resources, field "selector" labelSelector, field "storageClassName" .text,
    field "volumeAttributesClassName" .text, field "volumeMode" .text, field "volumeName" .text]

def claimStatus : Shape := .record
  [field "accessModes" (.list .text), field "allocatedResourceStatuses" texts, field "allocatedResources" texts,
    field "capacity" texts, field "conditions" (.list (condition [field "lastProbeTime" .time])),
    field "currentVolumeAttributesClassName" .text,
    field "modifyVolumeStatus" (.record [filled "status" .text, field "targetVolumeAttributesClassName" .text]),
    field "phase" .text]

/-- Volumes of storage systems outside the cluster. -/
def storageVolumes : List (String × Presence × Shape) :=
  [field "awsElasticBlockStore" (.record
      [field "fsType" .text, field "partition" .int32, field "readOnly" .flag, filled "volumeID" .text]),
    field "azureDisk" (.record
      [field "cachingMode" .text, filled "diskName" .text, filled "diskURI" .text, field "fsType" .text,
        field "kind" .text, field "readOnly" .flag]),
    field "azureFile" (.record [field "readOnly" .flag, filled "secretName" .text, filled "shareName" .text]),
    field "cephfs" (.record
      [filled "monitors" (.list .text), field "path" .text, field "readOnly" .flag, field "secretFile" .text,
        field "secretRef" localReference, field "user" .text]),
    field "cinder" (.record
      [field "fsType" .text, field "readOnly" .flag, field "secretRef" localReference, filled "volumeID" .text]),
    field "fc" (.record
      [field "fsType" .text, field "lun" .int32, field "readOnly" .flag, field "targetWWNs" (.list .text),
        field "wwids" (.list .text)]),
    field "flexVolume" (.record
      [filled "driver" .text, field "fsType" .text, field "options" texts, field "readOnly" .flag,
        field "secretRef" localReference]),
    field "flocker" (.record [field "datasetName" .text, field "datasetUUID" .text]),
    field "gcePersistentDisk" (.record
      [field "fsType" .text, field "partition" .int32, filled "pdName" .text, field "readOnly" .flag]),
    field "gitRepo" (.record [field "directory" .text, filled "repository" .text, field "revision" .text]),
    field "glusterfs" (.record [filled "endpoints" .text, filled "path" .text, field "readOnly" .flag]),
    field "iscsi" (.record
      [field "chapAuthDiscovery" .flag, field "chapAuthSession" .flag, field "fsType" .text,
        field "initiatorName" .text, filled "iqn" .text, field "iscsiInterface" .text, filled "lun" .int32,
        field "portals" (.list .text), field "readOnly" .flag, field "secretRef" localReference,
        filled "targetPortal" .text]),
    field "photonPersistentDisk" (.record [field "fsType" .text, filled "pdID" .text]),
    field "portworxVolume" (.record [field "fsType" .text, field "readOnly" .flag, filled "volumeID" .text]),
    field "quobyte" (.record
      [field "group" .text, field "readOnly" .flag, filled "registry" .text, field "tenant" .text,
        field "user" .text, filled "volume" .text]),
    field "rbd" (.record
      [field "fsType" .text, filled "image" .text, field "keyring" .text, filled "monitors" (.list .text),
        field "pool" .text, field "readOnly" .flag, field "secretRef" localReference, field "user" .text]),
    field "scaleIO" (.record
      [field "fsType" .text, filled "gateway" .text, field "protectionDomain" .text, field "readOnly" .flag,
        filled "secretRef" localReference, field "sslEnabled" .flag, field "storageMode" .text,
        field "storagePool" .text, filled "system" .text, field "volumeName" .text]),
    field "storageos" (.record
      [field "fsType" .text, field "readOnly" .flag, field "secretRef" localReference, field "volumeName" .text,
        field "volumeNamespace" .text]),
    field "vsphereVolume" (.record
      [field "fsType" .text, field "storagePolicyID" .text, field "storagePolicyName" .text,
        filled "volumePath" .text])]

def volume : Shape := .record (storageVolumes ++
  [filled "name" .text,
    field "configMap" (.record
      [field "defaultMode" .int32, field "items" (.list keyToPath), filled "name" .text, field "optional" .flag]),
    field "csi" (.record
      [filled "driver" .text, field "fsType" .text, field "nodePublishSecretRef" localReference,
        field "readOnly" .flag, field "volumeAttributes" texts]),
    field "downwardAPI" (.record [field "defaultMode" .int32, field "items" (.list downwardFile)]),
    field "emptyDir" (.record [field "medium" .text, field "sizeLimit" .text]),
    field "ephemeral" (.record
      [field "volumeClaimTemplate" (.record [field "metadata" metadata, filled "spec" claimSpec])]),
    field "hostPath" (.record [filled "path" .text, field "type" .text]),
    field "image" (.record [field "pullPolicy" .text, field "reference" .text]),
    field "nfs" (.record [filled "path" .text, field "readOnly" .flag, filled "server" .text]),
    field "persistentVolumeClaim" (.record [filled "claimName" .text, field "readOnly" .flag]),
    field "projected" (.record
      [field "defaultMode" .int32,
        field "sources" (.list (.record
          [field "clusterTrustBundle" (.record
              [field "labelSelector" labelSelector, field "name" .text, field "optional" .flag,
                filled "path" .text, field "signerName" .text]),
            field "configMap" (.record
              [field "items" (.list keyToPath), filled "name" .text, field "optional" .flag]),
            field "downwardAPI" (.record [field "items" (.list downwardFile)]),
            field "secret" (.record
              [field "items" (.list keyToPath), filled "name" .text, field "optional" .flag]),
            field "serviceAccountToken" (.record
              [field "audience" .text, field "expirationSeconds" .int64, filled "path" .text])]))]),
    field "secret" (.record
      [field "defaultMode" .int32, field "items" (.list keyToPath), field "optional" .flag,
        field "secretName" .text])])

/-! ## Containers and pods -/

def keyReference : Shape := .record [filled "key" .text, filled "name" .text, field "optional" .flag]

def envVar : Shape := .record
  [filled "name" .text, field "value" .text,
    field "valueFrom" (.record
      [field "configMapKeyRef" keyReference, field "fieldRef" fieldReference,
        field "resourceFieldRef" resourceReference, field "secretKeyRef" keyReference])]

def envSource : Shape := .record
  [field "configMapRef" (.record [filled "name" .text, field "optional" .flag]), field "prefix" .text,
    field "secretRef" (.record [filled "name" .text, field "optional" .flag])]

def containerPort : Shape := .record
  [filled "containerPort" .int32, field "hostIP" .text, field "hostPort" .int32, field "name" .text,
    field "protocol" .text]

def httpGet : Shape := .record
  [field "host" .text, field "httpHeaders" (.list (.record [filled "name" .text, filled "value" .text])),
    field "path" .text, filled "port" .intOrText, field "scheme" .text]

def execAction : Shape := .record [field "command" (.list .text)]

def tcpSocket : Shape := .record [field "host" .text, filled "port" .intOrText]

def handler : Shape := .record
  [field "exec" execAction, field "httpGet" httpGet, field "sleep" (.record [filled "seconds" .int64]),
    field "tcpSocket" tcpSocket]

def probe : Shape := .record
  [field "exec" execAction, field "failureThreshold" .int32,
    field "grpc" (.record [filled "port" .int32, field "service" .text]), field "httpGet" httpGet,
    field "initialDelaySeconds" .int32, field "periodSeconds" .int32, field "successThreshold" .int32,
    field "tcpSocket" tcpSocket, field "terminationGracePeriodSeconds" .int64, field "timeoutSeconds" .int32]

def seLinuxOptions : Shape := .record
  [field "level" .text, field "role" .text, field "type" .text, field "user" .text]

def profile : Shape := .record [field "localhostProfile" .text, filled "type" .text]

def windowsOptions : Shape := .record
  [field "gmsaCredentialSpec" .text, field "gmsaCredentialSpecName" .text, field "hostProcess" .flag,
    field "runAsUserName" .text]

def securityContext : Shape := .record
  [field "allowPrivilegeEscalation" .flag, field "appArmorProfile" profile,
    field "capabilities" (.record [field "add" (.list .text), field "drop" (.list .text)]),
    field "privileged" .flag, field "procMount" .text, field "readOnlyRootFilesystem" .flag,
    field "runAsGroup" .int64, field "runAsNonRoot" .flag, field "runAsUser" .int64,
    field "seLinuxOptions" seLinuxOptions, field "seccompProfile" profile,
    field "windowsOptions" windowsOptions]

def podSecurityContext : Shape := .record
  [field "appArmorProfile" profile, field "fsGroup" .int64, field "fsGroupChangePolicy" .text,
    field "runAsGroup" .int64, field "runAsNonRoot" .flag, field "runAsUser" .int64,
    field "seLinuxChangePolicy" .text, field "seLinuxOptions" seLinuxOptions, field "seccompProfile" profile,
    field "supplementalGroups" (.list .int64), field "supplementalGroupsPolicy" .text,
    field "sysctls" (.list (.record [filled "name" .text, filled "value" .text])),
    field "windowsOptions" windowsOptions]

def volumeMount : Shape := .record
  [filled "mountPath" .text, field "mountPropagation" .text, filled "name" .text, field "readOnly" .flag,
    field "recursiveReadOnly" .text, field "subPath" .text, field "subPathExpr" .text]

def volumeDevice : Shape := .record [filled "devicePath" .text, filled "name" .text]

def containerFields : List (String × Presence × Shape) :=
  [filled "name" .text, field "args" (.list .text), field "command" (.list .text), field "env" (.list envVar),
    field "envFrom" (.list envSource), field "image" .text, field "imagePullPolicy" .text,
    field "lifecycle" (.record [field "postStart" handler, field "preStop" handler]),
    field "livenessProbe" probe, field "ports" (.list containerPort), field "readinessProbe" probe,
    field "resizePolicy" (.list (.record [filled "resourceName" .text, filled "restartPolicy" .text])),
    field "resources" resources, field "restartPolicy" .text, field "securityContext" securityContext,
    field "startupProbe" probe, field "stdin" .flag, field "stdinOnce" .flag,
    field "terminationMessagePath" .text, field "terminationMessagePolicy" .text, field "tty" .flag,
    field "volumeDevices" (.list volumeDevice), field "volumeMounts" (.list volumeMount),
    field "workingDir" .text]

def container : Shape := .record containerFields

/-- A container that is added to a pod that runs. -/
def ephemeralContainer : Shape := .record (field "targetContainerName" .text :: containerFields)

def nodeSelectorTerm : Shape :=
  let requirements : Shape := .list (.record
    [filled "key" .text, filled "operator" .text, field "values" (.list .text)])
  .record [field "matchExpressions" requirements, field "matchFields" requirements]

def podAffinityTerm : Shape := .record
  [field "labelSelector" labelSelector, field "matchLabelKeys" (.list .text),
    field "mismatchLabelKeys" (.list .text), field "namespaceSelector" labelSelector,
    field "namespaces" (.list .text), filled "topologyKey" .text]

def podAffinity : Shape := .record
  [field "preferredDuringSchedulingIgnoredDuringExecution"
      (.list (.record [filled "podAffinityTerm" podAffinityTerm, filled "weight" .int32])),
    field "requiredDuringSchedulingIgnoredDuringExecution" (.list podAffinityTerm)]

def affinity : Shape := .record
  [field "nodeAffinity" (.record
      [field "preferredDuringSchedulingIgnoredDuringExecution"
          (.list (.record [filled "preference" nodeSelectorTerm, filled "weight" .int32])),
        field "requiredDuringSchedulingIgnoredDuringExecution"
          (.record [filled "nodeSelectorTerms" (.list nodeSelectorTerm)])]),
    field "podAffinity" podAffinity, field "podAntiAffinity" podAffinity]

def toleration : Shape := .record
  [field "effect" .text, field "key" .text, field "operator" .text, field "tolerationSeconds" .int64,
    field "value" .text]

def topologySpread : Shape := .record
  [field "labelSelector" labelSelector, field "matchLabelKeys" (.list .text), filled "maxSkew" .int32,
    field "minDomains" .int32, field "nodeAffinityPolicy" .text, field "nodeTaintsPolicy" .text,
    filled "topologyKey" .text, filled "whenUnsatisfiable" .text]

def podSpec : Shape := .record
  [field "activeDeadlineSeconds" .int64, field "affinity" affinity, field "automountServiceAccountToken" .flag,
    filled "containers" (.list container),
    field "dnsConfig" (.record
      [field "nameservers" (.list .text),
        field "options" (.list (.record [field "name" .text, field "value" .text])),
        field "searches" (.list .text)]),
    field "dnsPolicy" .text, field "enableServiceLinks" .flag, field "ephemeralContainers" (.list ephemeralContainer),
    field "hostAliases" (.list (.record [field "hostnames" (.list .text), filled "ip" .text])),
    field "hostIPC" .flag, field "hostNetwork" .flag, field "hostPID" .flag, field "hostUsers" .flag,
    field "hostname" .text, field "imagePullSecrets" (.list localReference),
    field "initContainers" (.list container), field "nodeName" .text, field "nodeSelector" texts,
    field "os" (.record [filled "name" .text]), field "overhead" texts, field "preemptionPolicy" .text,
    field "priority" .int32, field "priorityClassName" .text,
    field "readinessGates" (.list (.record [filled "conditionType" .text])),
    field "resourceClaims" (.list (.record
      [filled "name" .text, field "resourceClaimName" .text, field "resourceClaimTemplateName" .text])),
    field "resources" resources, field "restartPolicy" .text, field "runtimeClassName" .text,
    field "schedulerName" .text, field "schedulingGates" (.list (.record [filled "name" .text])),
    field "securityContext" podSecurityContext, field "serviceAccount" .text,
    field "serviceAccountName" .text, field "setHostnameAsFQDN" .flag, field "shareProcessNamespace" .flag,
    field "subdomain" .text, field "terminationGracePeriodSeconds" .int64,
    field "tolerations" (.list toleration), field "topologySpreadConstraints" (.list topologySpread),
    field "volumes" (.list volume)]

def podTemplate : Shape := .record [field "metadata" metadata, field "spec" podSpec]

def containerState : Shape := .record
  [field "running" (.record [field "startedAt" .time]),
    field "terminated" (.record
      [field "containerID" .text, filled "exitCode" .int32, field "finishedAt" .time, field "message" .text,
        field "reason" .text, field "signal" .int32, field "startedAt" .time]),
    field "waiting" (.record [field "message" .text, field "reason" .text])]

def containerStatus : Shape := .record
  [field "allocatedResources" texts,
    field "allocatedResourcesStatus" (.list (.record
      [filled "name" .text,
        field "resources" (.list (.record [field "health" .text, filled "resourceID" .text]))])),
    field "containerID" .text, filled "image" .text, filled "imageID" .text,
    field "lastState" containerState, filled "name" .text, filled "ready" .flag, field "resources" resources,
    filled "restartCount" .int32, field "started" .flag, field "state" containerState,
    field "user" (.record
      [field "linux" (.record
        [filled "gid" .int64, field "supplementalGroups" (.list .int64), filled "uid" .int64])]),
    field "volumeMounts" (.list (.record
      [filled "mountPath" .text, filled "name" .text, field "readOnly" .flag,
        field "recursiveReadOnly" .text]))]

def podStatus : Shape := .record
  [field "conditions" (.list (condition [field "lastProbeTime" .time])),
    field "containerStatuses" (.list containerStatus), field "ephemeralContainerStatuses" (.list containerStatus),
    field "hostIP" .text, field "hostIPs" (.list (.record [filled "ip" .text])),
    field "initContainerStatuses" (.list containerStatus), field "message" .text,
    field "nominatedNodeName" .text, field "phase" .text, field "podIP" .text,
    field "podIPs" (.list (.record [filled "ip" .text])), field "qosClass" .text, field "reason" .text,
    field "resize" .text,
    field "resourceClaimStatuses" (.list (.record [filled "name" .text, field "resourceClaimName" .text])),
    field "startTime" .time]

/-! ## Workload controllers -/

def rollingUpdate : Shape := .record
  [field "maxSurge" .intOrText, field "maxUnavailable" .intOrText, field "partition" .int32]

def strategy : Shape := .record [field "rollingUpdate" rollingUpdate, field "type" .text]

def deploymentSpec : Shape := .record
  [field "minReadySeconds" .int32, field "paused" .flag, field "progressDeadlineSeconds" .int32,
    field "replicas" .int32, field "revisionHistoryLimit" .int32, filled "selector" labelSelector,
    field "strategy" strategy, filled "template" podTemplate]

def deploymentStatus : Shape := .record
  [field "availableReplicas" .int32, field "collisionCount" .int32,
    field "conditions" (.list (condition [field "lastUpdateTime" .time])), field "observedGeneration" .int64,
    field "readyReplicas" .int32, field "replicas" .int32, field "unavailableReplicas" .int32,
    field "updatedReplicas" .int32]

def replicaSetSpec : Shape := .record
  [field "minReadySeconds" .int32, field "replicas" .int32, filled "selector" labelSelector,
    field "template" podTemplate]

def replicaSetStatus : Shape := .record
  [field "availableReplicas" .int32, field "conditions" (.list (condition [])),
    field "fullyLabeledReplicas" .int32, field "observedGeneration" .int64, field "readyReplicas" .int32,
    filled "replicas" .int32]

def claim : Shape := .record
  [filled "apiVersion" .text, filled "kind" .text, filled "metadata" metadata, field "spec" claimSpec,
    field "status" claimStatus]

def statefulSetSpec : Shape := .record
  [field "minReadySeconds" .int32, field "ordinals" (.record [field "start" .int32]),
    field "persistentVolumeClaimRetentionPolicy"
      (.record [field "whenDeleted" .text, field "whenScaled" .text]),
    field "podManagementPolicy" .text, field "replicas" .int32, field "revisionHistoryLimit" .int32,
    filled "selector" labelSelector, field "serviceName" .text, filled "template" podTemplate,
    field "updateStrategy" strategy, field "volumeClaimTemplates" (.list claim)]

def statefulSetStatus : Shape := .record
  [field "availableReplicas" .int32, field "collisionCount" .int32, field "conditions" (.list (condition [])),
    field "currentReplicas" .int32, field "currentRevision" .text, field "observedGeneration" .int64,
    field "readyReplicas" .int32, filled "replicas" .int32, field "updateRevision" .text,
    field "updatedReplicas" .int32]

def daemonSetSpec : Shape := .record
  [field "minReadySeconds" .int32, field "revisionHistoryLimit" .int32, filled "selector" labelSelector,
    filled "template" podTemplate, field "updateStrategy" strategy]

def daemonSetStatus : Shape := .record
  [field "collisionCount" .int32, field "conditions" (.list (condition [])),
    filled "currentNumberScheduled" .int32, filled "desiredNumberScheduled" .int32,
    field "numberAvailable" .int32, filled "numberMisscheduled" .int32, filled "numberReady" .int32,
    field "numberUnavailable" .int32, field "observedGeneration" .int64, field "updatedNumberScheduled" .int32]

def jobSpec : Shape := .record
  [field "activeDeadlineSeconds" .int64, field "backoffLimit" .int32, field "backoffLimitPerIndex" .int32,
    field "completionMode" .text, field "completions" .int32, field "managedBy" .text,
    field "manualSelector" .flag, field "maxFailedIndexes" .int32, field "parallelism" .int32,
    field "podFailurePolicy" (.record
      [filled "rules" (.list (.record
        [filled "action" .text,
          field "onExitCodes" (.record
            [field "containerName" .text, filled "operator" .text, filled "values" (.list .int32)]),
          field "onPodConditions" (.list (.record [filled "status" .text, filled "type" .text]))]))]),
    field "podReplacementPolicy" .text, field "selector" labelSelector,
    field "successPolicy" (.record
      [filled "rules" (.list (.record [field "succeededCount" .int32, field "succeededIndexes" .text]))]),
    field "suspend" .flag, filled "template" podTemplate, field "ttlSecondsAfterFinished" .int32]

def jobStatus : Shape := .record
  [field "active" .int32, field "completedIndexes" .text, field "completionTime" .time,
    field "conditions" (.list (condition [field "lastProbeTime" .time])), field "failed" .int32,
    field "failedIndexes" .text, field "ready" .int32, field "startTime" .time, field "succeeded" .int32,
    field "terminating" .int32,
    field "uncountedTerminatedPods" (.record [field "failed" (.list .text), field "succeeded" (.list .text)])]

def cronJobSpec : Shape := .record
  [field "concurrencyPolicy" .text, field "failedJobsHistoryLimit" .int32,
    filled "jobTemplate" (.record [field "metadata" metadata, field "spec" jobSpec]), filled "schedule" .text,
    field "startingDeadlineSeconds" .int64, field "successfulJobsHistoryLimit" .int32, field "suspend" .flag,
    field "timeZone" .text]

def cronJobStatus : Shape := .record
  [field "active" (.list (.record
      [field "apiVersion" .text, field "fieldPath" .text, field "kind" .text, field "name" .text,
        field "namespace" .text, field "resourceVersion" .text, field "uid" .text])),
    field "lastScheduleTime" .time, field "lastSuccessfulTime" .time]

/-! ## Networking -/

def loadBalancer : Shape := .record
  [field "ingress" (.list (.record
    [field "hostname" .text, field "ip" .text, field "ipMode" .text,
      field "ports" (.list (.record [field "error" .text, filled "port" .int32, filled "protocol" .text]))]))]

def serviceSpec : Shape := .record
  [field "allocateLoadBalancerNodePorts" .flag, field "clusterIP" .text, field "clusterIPs" (.list .text),
    field "externalIPs" (.list .text), field "externalName" .text, field "externalTrafficPolicy" .text,
    field "healthCheckNodePort" .int32, field "internalTrafficPolicy" .text, field "ipFamilies" (.list .text),
    field "ipFamilyPolicy" .text, field "loadBalancerClass" .text, field "loadBalancerIP" .text,
    field "loadBalancerSourceRanges" (.list .text),
    field "ports" (.list (.record
      [field "appProtocol" .text, field "name" .text, field "nodePort" .int32, filled "port" .int32,
        field "protocol" .text, field "targetPort" .intOrText])),
    field "publishNotReadyAddresses" .flag, field "selector" texts, field "sessionAffinity" .text,
    field "sessionAffinityConfig" (.record [field "clientIP" (.record [field "timeoutSeconds" .int32])]),
    field "trafficDistribution" .text, field "type" .text]

def serviceStatus : Shape := .record
  [field "conditions" (.list (.record
      [filled "lastTransitionTime" .time, filled "message" .text, field "observedGeneration" .int64,
        filled "reason" .text, filled "status" .text, filled "type" .text])),
    field "loadBalancer" loadBalancer]

def ingressBackend : Shape := .record
  [field "resource" (.record [field "apiGroup" .text, filled "kind" .text, filled "name" .text]),
    field "service" (.record
      [filled "name" .text, field "port" (.record [field "name" .text, field "number" .int32])])]

def ingressSpec : Shape := .record
  [field "defaultBackend" ingressBackend, field "ingressClassName" .text,
    field "rules" (.list (.record
      [field "host" .text,
        field "http" (.record
          [filled "paths" (.list (.record
            [filled "backend" ingressBackend, field "path" .text, filled "pathType" .text]))])])),
    field "tls" (.list (.record [field "hosts" (.list .text), field "secretName" .text]))]

def ingressStatus : Shape := .record [field "loadBalancer" loadBalancer]

/-- The fields of a route that a migration knows; all others are dropped. -/
def routeSpec : Shape := .record
  [field "host" .text,
    demanded "to" (.record [demanded "kind" .text, demanded "name" .text, field "weight" .int32]),
    field "port" (.record [demanded "targetPort" .intOrText]),
    field "tls" (.record [demanded "termination" .text, field "insecureEdgeTerminationPolicy" .text])]

def routeStatus : Shape := .record
  [omittable "ingress" (.list (.record [field "host" .text, field "routerName" .text]))]

/-! ## Objects -/

/-- The top-level fields of a kind, besides `apiVersion` and `kind`. -/
def topFields : Kind → List (String × Presence × Shape)
  | .configMap =>
    [filled "metadata" metadata, field "binaryData" (.map .bytes), field "data" texts, field "immutable" .flag]
  | .cronJob => [filled "metadata" metadata, field "spec" cronJobSpec, field "status" cronJobStatus]
  | .daemonSet => [filled "metadata" metadata, field "spec" daemonSetSpec, field "status" daemonSetStatus]
  | .deployment => [filled "metadata" metadata, field "spec" deploymentSpec, field "status" deploymentStatus]
  | .deploymentConfig => [demanded "metadata" metadata, demanded "spec" .any]
  | .ingress => [filled "metadata" metadata, field "spec" ingressSpec, field "status" ingressStatus]
  | .job => [filled "metadata" metadata, field "spec" jobSpec, field "status" jobStatus]
  | .persistentVolumeClaim => [filled "metadata" metadata, field "spec" claimSpec, field "status" claimStatus]
  | .pod => [filled "metadata" metadata, field "spec" podSpec, field "status" podStatus]
  | .replicaSet => [filled "metadata" metadata, field "spec" replicaSetSpec, field "status" replicaSetStatus]
  | .route => [demanded "metadata" metadata, demanded "spec" routeSpec, field "status" routeStatus]
  | .secret =>
    [filled "metadata" metadata, field "data" (.map .bytes), field "immutable" .flag, field "stringData" texts,
      field "type" .text]
  | .service => [filled "metadata" metadata, field "spec" serviceSpec, field "status" serviceStatus]
  | .statefulSet => [filled "metadata" metadata, field "spec" statefulSetSpec, field "status" statefulSetStatus]

/-- The top-level fields of the cluster's ingress configuration. -/
def clusterIngressFields : List (String × Presence × Shape) := [demanded "metadata" metadata, demanded "spec" .any]

end VolumeMigration.Schema
