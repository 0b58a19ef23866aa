import VolumeMigration.Cluster.Metadata
/-!
# Pods

Containers, the volumes they mount, and the specification and state of a pod.
Fields that a migration does not look at are kept in `rest`.
-/

namespace VolumeMigration

/-- A key of a Secret. -/
structure SecretKey where
  name : String
  key : String
  optional : Option Bool := none
deriving BEq, Repr

/-- An environment variable, with its value or the Secret key that holds it. -/
structure EnvVar where
  name : String
  value : Option String := none
  secretKey : Option SecretKey := none
  /-- Other sources of the value. -/
  sources : Option Fields := none
deriving BEq, Repr

structure ContainerPort where
  containerPort : Int
  name : Option String := none
  protocol : Option String := none
  rest : Fields := []
deriving BEq, Repr

/-- A volume of the pod at a path of the container's file system. -/
structure VolumeMount where
  name : String
  mountPath : String
  subPath : Option String := none
  readOnly : Option Bool := none
  rest : Fields := []
deriving BEq, Repr

/-- A volume of the pod as a raw device. -/
structure VolumeDevice where
  name : String
  devicePath : String
deriving BEq, Repr

structure Container where
  name : String
  image : Option String := none
  command : Option (List String) := none
  ports : Option (List ContainerPort) := none
  env : Option (List EnvVar) := none
  volumeMounts : Option (List VolumeMount) := none
  volumeDevices : Option (List VolumeDevice) := none
  rest : Fields := []
deriving BEq, Repr

/-- A key of a ConfigMap or Secret as a file of a volume. -/
structure KeyPath where
  key : String
  path : String
  rest : Fields := []
deriving BEq, Repr

structure ClaimSource where
  claimName : String
  readOnly : Option Bool := none
deriving BEq, Repr

structure SecretSource where
  secretName : Option String := none
  defaultMode : Option Int := none
  items : Option (List KeyPath) := none
  rest : Fields := []
deriving BEq, Repr

structure ConfigMapSource where
  name : String
  rest : Fields := []
deriving BEq, Repr

/-- A volume of a pod. -/
structure Volume where
  name : String
  claim : Option ClaimSource := none
  configMap : Option ConfigMapSource := none
  secret : Option SecretSource := none
  /-- A directory that lives as long as the pod. -/
  emptyDir : Option Fields := none
  rest : Fields := []
deriving BEq, Repr

structure PodSpec where
  containers : List Container := []
  volumes : Option (List Volume) := none
  nodeName : Option String := none
  nodeSelector : Option StringMap := none
  serviceAccountName : Option String := none
  restartPolicy : Option String := none
  rest : Fields := []
deriving BEq, Repr, Inhabited

structure PodStatus where
  phase : Option String := none
  rest : Fields := []
deriving BEq, Repr

/-- The pods that a controller makes. -/
structure PodTemplate where
  metadata : Option Metadata := none
  spec : Option PodSpec := none
deriving BEq, Repr, Inhabited

/-! ## JSON forms -/

instance : JsonForm SecretKey where
  toJson k := .obj (Fields.member "name" k.name ++ Fields.member "key" k.key ++ Fields.present "optional" k.optional)
  ofJson? j := do
    let fs ← j.obj?
    some { name := ← fs.value? "name", key := ← fs.value? "key", optional := ← fs.optional? "optional" }

instance : JsonForm EnvVar where
  toJson v :=
    let source := match v.secretKey, v.sources with
      | none, none => []
      | key, sources => [("valueFrom", Json.obj (Fields.present "secretKeyRef" key ++ sources.getD []))]
    .obj (Fields.member "name" v.name ++ Fields.present "value" v.value ++ source)
  ofJson? j := do
    let fs ← j.obj?
    let source := (fs.get? "valueFrom").bind Json.obj?
    some {
      name := ← fs.value? "name"
      value := ← fs.optional? "value"
      secretKey := ← (source.getD []).optional? "secretKeyRef"
      sources := source.map (·.without ["secretKeyRef"]) }

instance : JsonForm ContainerPort where
  toJson p := .obj
    (Fields.member "containerPort" p.containerPort ++ Fields.present "name" p.name ++
      Fields.present "protocol" p.protocol ++ p.rest)
  ofJson? j := do
    let fs ← j.obj?
    some {
      containerPort := ← fs.value? "containerPort"
      name := ← fs.optional? "name"
      protocol := ← fs.optional? "protocol"
      rest := fs.without ["containerPort", "name", "protocol"] }

instance : JsonForm VolumeMount where
  toJson m := .obj
    (Fields.member "name" m.name ++ Fields.member "mountPath" m.mountPath ++ Fields.present "subPath" m.subPath ++
      Fields.present "readOnly" m.readOnly ++ m.rest)
  ofJson? j := do
    let fs ← j.obj?
    some {
      name := ← fs.value? "name"
      mountPath := ← fs.value? "mountPath"
      subPath := ← fs.optional? "subPath"
      readOnly := ← fs.optional? "readOnly"
      rest := fs.without ["name", "mountPath", "subPath", "readOnly"] }

instance : JsonForm VolumeDevice where
  toJson d := .obj (Fields.member "name" d.name ++ Fields.member "devicePath" d.devicePath)
  ofJson? j := do
    let fs ← j.obj?
    some { name := ← fs.value? "name", devicePath := ← fs.value? "devicePath" }

instance : JsonForm Container where
  toJson c := .obj
    (Fields.member "name" c.name ++ Fields.present "image" c.image ++ Fields.present "command" c.command ++
      Fields.present "ports" c.ports ++ Fields.present "env" c.env ++
      Fields.present "volumeMounts" c.volumeMounts ++ Fields.present "volumeDevices" c.volumeDevices ++ c.rest)
  ofJson? j := do
    let fs ← j.obj?
    some {
      name := ← fs.value? "name"
      image := ← fs.optional? "image"
      command := ← fs.optional? "command"
      ports := ← fs.optional? "ports"
      env := ← fs.optional? "env"
      volumeMounts := ← fs.optional? "volumeMounts"
      volumeDevices := ← fs.optional? "volumeDevices"
      rest := fs.without ["name", "image", "command", "ports", "env", "volumeMounts", "volumeDevices"] }

instance : JsonForm KeyPath where
  toJson k := .obj (Fields.member "key" k.key ++ Fields.member "path" k.path ++ k.rest)
  ofJson? j := do
    let fs ← j.obj?
    some { key := ← fs.value? "key", path := ← fs.value? "path", rest := fs.without ["key", "path"] }

instance : JsonForm ClaimSource where
  toJson s := .obj (Fields.member "claimName" s.claimName ++ Fields.present "readOnly" s.readOnly)
  ofJson? j := do
    let fs ← j.obj?
    some { claimName := ← fs.value? "claimName", readOnly := ← fs.optional? "readOnly" }

instance : JsonForm SecretSource where
  toJson s := .obj
    (Fields.present "secretName" s.secretName ++ Fields.present "defaultMode" s.defaultMode ++
      Fields.present "items" s.items ++ s.rest)
  ofJson? j := do
    let fs ← j.obj?
    some {
      secretName := ← fs.optional? "secretName"
      defaultMode := ← fs.optional? "defaultMode"
      items := ← fs.optional? "items"
      rest := fs.without ["secretName", "defaultMode", "items"] }

instance : JsonForm ConfigMapSource where
  toJson s := .obj (Fields.member "name" s.name ++ s.rest)
  ofJson? j := do
    let fs ← j.obj?
    some { name := ← fs.value? "name", rest := fs.without ["name"] }

instance : JsonForm Volume where
  toJson v := .obj
    (Fields.member "name" v.name ++ Fields.present "persistentVolumeClaim" v.claim ++
      Fields.present "configMap" v.configMap ++ Fields.present "secret" v.secret ++
      Fields.opt "emptyDir" .obj v.emptyDir ++ v.rest)
  ofJson? j := do
    let fs ← j.obj?
    some {
      name := ← fs.value? "name"
      claim := ← fs.optional? "persistentVolumeClaim"
      configMap := ← fs.optional? "configMap"
      secret := ← fs.optional? "secret"
      emptyDir := (fs.get? "emptyDir").bind Json.obj?
      rest := fs.without ["name", "persistentVolumeClaim", "configMap", "secret", "emptyDir"] }

instance : JsonForm PodSpec where
  toJson s := .obj
    (Fields.member "containers" s.containers ++ Fields.present "volumes" s.volumes ++
      Fields.present "nodeName" s.nodeName ++ Fields.present "nodeSelector" s.nodeSelector ++
      Fields.present "serviceAccountName" s.serviceAccountName ++
      Fields.present "restartPolicy" s.restartPolicy ++ s.rest)
  ofJson? j := do
    let fs ← j.obj?
    some {
      containers := ← fs.value? "containers"
      volumes := ← fs.optional? "volumes"
      nodeName := ← fs.optional? "nodeName"
      nodeSelector := ← fs.optional? "nodeSelector"
      serviceAccountName := ← fs.optional? "serviceAccountName"
      restartPolicy := ← fs.optional? "restartPolicy"
      rest := fs.without
        ["containers", "volumes", "nodeName", "nodeSelector", "serviceAccountName", "restartPolicy"] }

instance : JsonForm PodStatus where
  toJson s := .obj (Fields.present "phase" s.phase ++ s.rest)
  ofJson? j := do
    let fs ← j.obj?
    some { phase := ← fs.optional? "phase", rest := fs.without ["phase"] }

instance : JsonForm PodTemplate where
  toJson t := .obj (Fields.present "metadata" t.metadata ++ Fields.present "spec" t.spec)
  ofJson? j := do
    let fs ← j.obj?
    some { metadata := ← fs.optional? "metadata", spec := ← fs.optional? "spec" }

end VolumeMigration
