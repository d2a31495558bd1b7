import InferenceReconciler.WireForm

/-!
# Containers

A container with every field that version 1.33 of the core interface gives it. The containers of
a stored runtime are read and sent back whole, so what a container here cannot hold would be lost
on the way. A field that has to be there stands for its empty value where it is absent.
-/

namespace InferenceReconciler.PodFields

/-- One entry of a config map or of a secret. -/
structure KeySelector where
  key : String
  name : String
  optional : Option Bool := none
  deriving DecidableEq, Inhabited

instance : Wire KeySelector where
  read? j := do
    let m ← j.members?
    return {
      key := ← m.orDefault "key" ""
      name := ← m.orDefault "name" ""
      optional := ← m.optional "optional" }
  write s := .record [
    field "key" s.key,
    field "name" s.name,
    optionalField "optional" s.optional]

/-- A field of the pod itself. -/
structure FieldSelector where
  apiVersion : Option String := none
  fieldPath : String
  deriving DecidableEq, Inhabited

instance : Wire FieldSelector where
  read? j := do
    let m ← j.members?
    return {
      apiVersion := ← m.optional "apiVersion"
      fieldPath := ← m.orDefault "fieldPath" "" }
  write s := .record [optionalField "apiVersion" s.apiVersion, field "fieldPath" s.fieldPath]

/-- A quantity of a container, in units of the divisor. -/
structure ResourceSelector where
  containerName : Option String := none
  divisor : Option String := none
  resource : String
  deriving DecidableEq, Inhabited

instance : Wire ResourceSelector where
  read? j := do
    let m ← j.members?
    return {
      containerName := ← m.optional "containerName"
      divisor := ← m.optional "divisor"
      resource := ← m.orDefault "resource" "" }
  write s := .record [
    optionalField "containerName" s.containerName,
    optionalField "divisor" s.divisor,
    field "resource" s.resource]

structure VariableSource where
  configMapKeyRef : Option KeySelector := none
  fieldRef : Option FieldSelector := none
  resourceFieldRef : Option ResourceSelector := none
  secretKeyRef : Option KeySelector := none
  deriving DecidableEq, Inhabited

instance : Wire VariableSource where
  read? j := do
    let m ← j.members?
    return {
      configMapKeyRef := ← m.optional "configMapKeyRef"
      fieldRef := ← m.optional "fieldRef"
      resourceFieldRef := ← m.optional "resourceFieldRef"
      secretKeyRef := ← m.optional "secretKeyRef" }
  write s := .record [
    optionalField "configMapKeyRef" s.configMapKeyRef,
    optionalField "fieldRef" s.fieldRef,
    optionalField "resourceFieldRef" s.resourceFieldRef,
    optionalField "secretKeyRef" s.secretKeyRef]

/-- A variable whose value may come from elsewhere. -/
structure Variable where
  name : String
  value : Option String := none
  valueFrom : Option VariableSource := none
  deriving DecidableEq, Inhabited

instance : Wire Variable where
  read? j := do
    let m ← j.members?
    return {
      name := ← m.orDefault "name" ""
      value := ← m.optional "value"
      valueFrom := ← m.optional "valueFrom" }
  write v := .record [
    field "name" v.name,
    optionalField "value" v.value,
    optionalField "valueFrom" v.valueFrom]

/-- A config map or a secret as a whole. -/
structure SourceRef where
  name : String
  optional : Option Bool := none
  deriving DecidableEq, Inhabited

instance : Wire SourceRef where
  read? j := do
    let m ← j.members?
    return { name := ← m.orDefault "name" "", optional := ← m.optional "optional" }
  write s := .record [field "name" s.name, optionalField "optional" s.optional]

/-- A variable for each entry of a source, with something put before its name. -/
structure VariableGroup where
  configMapRef : Option SourceRef := none
  namePrefix : Option String := none
  secretRef : Option SourceRef := none
  deriving DecidableEq, Inhabited

instance : Wire VariableGroup where
  read? j := do
    let m ← j.members?
    return {
      configMapRef := ← m.optional "configMapRef"
      namePrefix := ← m.optional "prefix"
      secretRef := ← m.optional "secretRef" }
  write g := .record [
    optionalField "configMapRef" g.configMapRef,
    optionalField "prefix" g.namePrefix,
    optionalField "secretRef" g.secretRef]

structure ContainerPort where
  containerPort : Int32
  hostIP : Option String := none
  hostPort : Option Int32 := none
  name : Option String := none
  protocol : Option String := none
  deriving DecidableEq, Inhabited

instance : Wire ContainerPort where
  read? j := do
    let m ← j.members?
    return {
      containerPort := ← m.orDefault "containerPort" 0
      hostIP := ← m.optional "hostIP"
      hostPort := ← m.optional "hostPort"
      name := ← m.optional "name"
      protocol := ← m.optional "protocol" }
  write p := .record [
    field "containerPort" p.containerPort,
    optionalField "hostIP" p.hostIP,
    optionalField "hostPort" p.hostPort,
    optionalField "name" p.name,
    optionalField "protocol" p.protocol]

structure ResourceClaim where
  name : String
  request : Option String := none
  deriving DecidableEq, Inhabited

instance : Wire ResourceClaim where
  read? j := do
    let m ← j.members?
    return { name := ← m.orDefault "name" "", request := ← m.optional "request" }
  write c := .record [field "name" c.name, optionalField "request" c.request]

/-- Quantities by resource name, and claims of devices. -/
structure Resources where
  claims : Option (List ResourceClaim) := none
  limits : Option (Dict String) := none
  requests : Option (Dict String) := none
  deriving DecidableEq, Inhabited

instance : Wire Resources where
  read? j := do
    let m ← j.members?
    return {
      claims := ← m.optional "claims"
      limits := ← m.optional "limits"
      requests := ← m.optional "requests" }
  write r := .record [
    optionalField "claims" r.claims,
    optionalField "limits" r.limits,
    optionalField "requests" r.requests]

structure ResizeRule where
  resourceName : String
  restartPolicy : String
  deriving DecidableEq, Inhabited

instance : Wire ResizeRule where
  read? j := do
    let m ← j.members?
    return {
      resourceName := ← m.orDefault "resourceName" ""
      restartPolicy := ← m.orDefault "restartPolicy" "" }
  write r := .record [
    field "resourceName" r.resourceName,
    field "restartPolicy" r.restartPolicy]

structure VolumeMount where
  mountPath : String
  mountPropagation : Option String := none
  name : String
  readOnly : Option Bool := none
  recursiveReadOnly : Option String := none
  subPath : Option String := none
  subPathExpr : Option String := none
  deriving DecidableEq, Repr, Inhabited

instance : Wire VolumeMount where
  read? j := do
    let m ← j.members?
    return {
      mountPath := ← m.orDefault "mountPath" ""
      mountPropagation := ← m.optional "mountPropagation"
      name := ← m.orDefault "name" ""
      readOnly := ← m.optional "readOnly"
      recursiveReadOnly := ← m.optional "recursiveReadOnly"
      subPath := ← m.optional "subPath"
      subPathExpr := ← m.optional "subPathExpr" }
  write v := .record [
    field "mountPath" v.mountPath,
    optionalField "mountPropagation" v.mountPropagation,
    field "name" v.name,
    optionalField "readOnly" v.readOnly,
    optionalField "recursiveReadOnly" v.recursiveReadOnly,
    optionalField "subPath" v.subPath,
    optionalField "subPathExpr" v.subPathExpr]

structure VolumeDevice where
  devicePath : String
  name : String
  deriving DecidableEq, Inhabited

instance : Wire VolumeDevice where
  read? j := do
    let m ← j.members?
    return { devicePath := ← m.orDefault "devicePath" "", name := ← m.orDefault "name" "" }
  write v := .record [field "devicePath" v.devicePath, field "name" v.name]

/-- A port by its number or by its name. -/
inductive PortRef where
  | number (n : Int32)
  | name (s : String)
  deriving DecidableEq

namespace PortRef

instance : Inhabited PortRef := ⟨.number 0⟩

instance : Wire PortRef where
  read? j := (Wire.read? j).map number <|> (Wire.read? j).map name
  write
    | number n => Wire.write n
    | name s => Wire.write s

end PortRef

structure ExecAction where
  command : Option (List String) := none
  deriving DecidableEq, Inhabited

instance : Wire ExecAction where
  read? j := do
    let m ← j.members?
    return { command := ← m.optional "command" }
  write a := .record [optionalField "command" a.command]

structure GrpcAction where
  port : Int32
  service : Option String := none
  deriving DecidableEq, Inhabited

instance : Wire GrpcAction where
  read? j := do
    let m ← j.members?
    return { port := ← m.orDefault "port" 0, service := ← m.optional "service" }
  write a := .record [field "port" a.port, optionalField "service" a.service]

structure HttpHeader where
  name : String
  value : String
  deriving DecidableEq, Inhabited

instance : Wire HttpHeader where
  read? j := do
    let m ← j.members?
    return { name := ← m.orDefault "name" "", value := ← m.orDefault "value" "" }
  write h := .record [field "name" h.name, field "value" h.value]

structure HttpGetAction where
  host : Option String := none
  httpHeaders : Option (List HttpHeader) := none
  path : Option String := none
  port : PortRef
  scheme : Option String := none
  deriving DecidableEq, Inhabited

instance : Wire HttpGetAction where
  read? j := do
    let m ← j.members?
    return {
      host := ← m.optional "host"
      httpHeaders := ← m.optional "httpHeaders"
      path := ← m.optional "path"
      port := ← m.orDefault "port" default
      scheme := ← m.optional "scheme" }
  write a := .record [
    optionalField "host" a.host,
    optionalField "httpHeaders" a.httpHeaders,
    optionalField "path" a.path,
    field "port" a.port,
    optionalField "scheme" a.scheme]

structure TcpSocketAction where
  host : Option String := none
  port : PortRef
  deriving DecidableEq, Inhabited

instance : Wire TcpSocketAction where
  read? j := do
    let m ← j.members?
    return { host := ← m.optional "host", port := ← m.orDefault "port" default }
  write a := .record [optionalField "host" a.host, field "port" a.port]

structure SleepAction where
  seconds : Int64
  deriving DecidableEq, Inhabited

instance : Wire SleepAction where
  read? j := do
    let m ← j.members?
    return { seconds := ← m.orDefault "seconds" 0 }
  write a := .record [field "seconds" a.seconds]

/-- What is done when a container starts or stops. -/
structure Hook where
  exec : Option ExecAction := none
  httpGet : Option HttpGetAction := none
  sleep : Option SleepAction := none
  tcpSocket : Option TcpSocketAction := none
  deriving DecidableEq, Inhabited

instance : Wire Hook where
  read? j := do
    let m ← j.members?
    return {
      exec := ← m.optional "exec"
      httpGet := ← m.optional "httpGet"
      sleep := ← m.optional "sleep"
      tcpSocket := ← m.optional "tcpSocket" }
  write h := .record [
    optionalField "exec" h.exec,
    optionalField "httpGet" h.httpGet,
    optionalField "sleep" h.sleep,
    optionalField "tcpSocket" h.tcpSocket]

structure Hooks where
  postStart : Option Hook := none
  preStop : Option Hook := none
  stopSignal : Option String := none
  deriving DecidableEq, Inhabited

instance : Wire Hooks where
  read? j := do
    let m ← j.members?
    return {
      postStart := ← m.optional "postStart"
      preStop := ← m.optional "preStop"
      stopSignal := ← m.optional "stopSignal" }
  write h := .record [
    optionalField "postStart" h.postStart,
    optionalField "preStop" h.preStop,
    optionalField "stopSignal" h.stopSignal]

structure Probe where
  exec : Option ExecAction := none
  failureThreshold : Option Int32 := none
  grpc : Option GrpcAction := none
  httpGet : Option HttpGetAction := none
  initialDelaySeconds : Option Int32 := none
  periodSeconds : Option Int32 := none
  successThreshold : Option Int32 := none
  tcpSocket : Option TcpSocketAction := none
  terminationGracePeriodSeconds : Option Int64 := none
  timeoutSeconds : Option Int32 := none
  deriving DecidableEq, Inhabited

instance : Wire Probe where
  read? j := do
    let m ← j.members?
    return {
      exec := ← m.optional "exec"
      failureThreshold := ← m.optional "failureThreshold"
      grpc := ← m.optional "grpc"
      httpGet := ← m.optional "httpGet"
      initialDelaySeconds := ← m.optional "initialDelaySeconds"
      periodSeconds := ← m.optional "periodSeconds"
      successThreshold := ← m.optional "successThreshold"
      tcpSocket := ← m.optional "tcpSocket"
      terminationGracePeriodSeconds := ← m.optional "terminationGracePeriodSeconds"
      timeoutSeconds := ← m.optional "timeoutSeconds" }
  write p := .record [
    optionalField "exec" p.exec,
    optionalField "failureThreshold" p.failureThreshold,
    optionalField "grpc" p.grpc,
    optionalField "httpGet" p.httpGet,
    optionalField "initialDelaySeconds" p.initialDelaySeconds,
    optionalField "periodSeconds" p.periodSeconds,
    optionalField "successThreshold" p.successThreshold,
    optionalField "tcpSocket" p.tcpSocket,
    optionalField "terminationGracePeriodSeconds" p.terminationGracePeriodSeconds,
    optionalField "timeoutSeconds" p.timeoutSeconds]

/-- A profile of the system's own, or one from a file of the node. -/
structure Profile where
  localhostProfile : Option String := none
  type : String
  deriving DecidableEq, Inhabited

instance : Wire Profile where
  read? j := do
    let m ← j.members?
    return {
      localhostProfile := ← m.optional "localhostProfile"
      type := ← m.orDefault "type" "" }
  write p := .record [
    optionalField "localhostProfile" p.localhostProfile,
    field "type" p.type]

structure Capabilities where
  add : Option (List String) := none
  drop : Option (List String) := none
  deriving DecidableEq, Inhabited

instance : Wire Capabilities where
  read? j := do
    let m ← j.members?
    return { add := ← m.optional "add", drop := ← m.optional "drop" }
  write c := .record [optionalField "add" c.add, optionalField "drop" c.drop]

structure SeLinuxOptions where
  level : Option String := none
  role : Option String := none
  type : Option String := none
  user : Option String := none
  deriving DecidableEq, Inhabited

instance : Wire SeLinuxOptions where
  read? j := do
    let m ← j.members?
    return {
      level := ← m.optional "level"
      role := ← m.optional "role"
      type := ← m.optional "type"
      user := ← m.optional "user" }
  write o := .record [
    optionalField "level" o.level,
    optionalField "role" o.role,
    optionalField "type" o.type,
    optionalField "user" o.user]

structure WindowsOptions where
  gmsaCredentialSpec : Option String := none
  gmsaCredentialSpecName : Option String := none
  hostProcess : Option Bool := none
  runAsUserName : Option String := none
  deriving DecidableEq, Inhabited

instance : Wire WindowsOptions where
  read? j := do
    let m ← j.members?
    return {
      gmsaCredentialSpec := ← m.optional "gmsaCredentialSpec"
      gmsaCredentialSpecName := ← m.optional "gmsaCredentialSpecName"
      hostProcess := ← m.optional "hostProcess"
      runAsUserName := ← m.optional "runAsUserName" }
  write o := .record [
    optionalField "gmsaCredentialSpec" o.gmsaCredentialSpec,
    optionalField "gmsaCredentialSpecName" o.gmsaCredentialSpecName,
    optionalField "hostProcess" o.hostProcess,
    optionalField "runAsUserName" o.runAsUserName]

structure SecurityContext where
  allowPrivilegeEscalation : Option Bool := none
  appArmorProfile : Option Profile := none
  capabilities : Option Capabilities := none
  privileged : Option Bool := none
  procMount : Option String := none
  readOnlyRootFilesystem : Option Bool := none
  runAsGroup : Option Int64 := none
  runAsNonRoot : Option Bool := none
  runAsUser : Option Int64 := none
  seLinuxOptions : Option SeLinuxOptions := none
  seccompProfile : Option Profile := none
  windowsOptions : Option WindowsOptions := none
  deriving DecidableEq, Inhabited

instance : Wire SecurityContext where
  read? j := do
    let m ← j.members?
    return {
      allowPrivilegeEscalation := ← m.optional "allowPrivilegeEscalation"
      appArmorProfile := ← m.optional "appArmorProfile"
      capabilities := ← m.optional "capabilities"
      privileged := ← m.optional "privileged"
      procMount := ← m.optional "procMount"
      readOnlyRootFilesystem := ← m.optional "readOnlyRootFilesystem"
      runAsGroup := ← m.optional "runAsGroup"
      runAsNonRoot := ← m.optional "runAsNonRoot"
      runAsUser := ← m.optional "runAsUser"
      seLinuxOptions := ← m.optional "seLinuxOptions"
      seccompProfile := ← m.optional "seccompProfile"
      windowsOptions := ← m.optional "windowsOptions" }
  write c := .record [
    optionalField "allowPrivilegeEscalation" c.allowPrivilegeEscalation,
    optionalField "appArmorProfile" c.appArmorProfile,
    optionalField "capabilities" c.capabilities,
    optionalField "privileged" c.privileged,
    optionalField "procMount" c.procMount,
    optionalField "readOnlyRootFilesystem" c.readOnlyRootFilesystem,
    optionalField "runAsGroup" c.runAsGroup,
    optionalField "runAsNonRoot" c.runAsNonRoot,
    optionalField "runAsUser" c.runAsUser,
    optionalField "seLinuxOptions" c.seLinuxOptions,
    optionalField "seccompProfile" c.seccompProfile,
    optionalField "windowsOptions" c.windowsOptions]

structure Container where
  args : Option (List String) := none
  command : Option (List String) := none
  env : Option (List Variable) := none
  envFrom : Option (List VariableGroup) := none
  image : Option String := none
  imagePullPolicy : Option String := none
  lifecycle : Option Hooks := none
  livenessProbe : Option Probe := none
  name : String
  ports : Option (List ContainerPort) := none
  readinessProbe : Option Probe := none
  resizePolicy : Option (List ResizeRule) := none
  resources : Option Resources := none
  restartPolicy : Option String := none
  securityContext : Option SecurityContext := none
  startupProbe : Option Probe := none
  stdin : Option Bool := none
  stdinOnce : Option Bool := none
  terminationMessagePath : Option String := none
  terminationMessagePolicy : Option String := none
  tty : Option Bool := none
  volumeDevices : Option (List VolumeDevice) := none
  volumeMounts : Option (List VolumeMount) := none
  workingDir : Option String := none
  deriving DecidableEq, Inhabited

instance : Wire Container where
  read? j := do
    let m ← j.members?
    return {
      args := ← m.optional "args"
      command := ← m.optional "command"
      env := ← m.optional "env"
      envFrom := ← m.optional "envFrom"
      image := ← m.optional "image"
      imagePullPolicy := ← m.optional "imagePullPolicy"
      lifecycle := ← m.optional "lifecycle"
      livenessProbe := ← m.optional "livenessProbe"
      name := ← m.orDefault "name" ""
      ports := ← m.optional "ports"
      readinessProbe := ← m.optional "readinessProbe"
      resizePolicy := ← m.optional "resizePolicy"
      resources := ← m.optional "resources"
      restartPolicy := ← m.optional "restartPolicy"
      securityContext := ← m.optional "securityContext"
      startupProbe := ← m.optional "startupProbe"
      stdin := ← m.optional "stdin"
      stdinOnce := ← m.optional "stdinOnce"
      terminationMessagePath := ← m.optional "terminationMessagePath"
      terminationMessagePolicy := ← m.optional "terminationMessagePolicy"
      tty := ← m.optional "tty"
      volumeDevices := ← m.optional "volumeDevices"
      volumeMounts := ← m.optional "volumeMounts"
      workingDir := ← m.optional "workingDir" }
  write c := .record [
    optionalField "args" c.args,
    optionalField "command" c.command,
    optionalField "env" c.env,
    optionalField "envFrom" c.envFrom,
    optionalField "image" c.image,
    optionalField "imagePullPolicy" c.imagePullPolicy,
    optionalField "lifecycle" c.lifecycle,
    optionalField "livenessProbe" c.livenessProbe,
    field "name" c.name,
    optionalField "ports" c.ports,
    optionalField "readinessProbe" c.readinessProbe,
    optionalField "resizePolicy" c.resizePolicy,
    optionalField "resources" c.resources,
    optionalField "restartPolicy" c.restartPolicy,
    optionalField "securityContext" c.securityContext,
    optionalField "startupProbe" c.startupProbe,
    optionalField "stdin" c.stdin,
    optionalField "stdinOnce" c.stdinOnce,
    optionalField "terminationMessagePath" c.terminationMessagePath,
    optionalField "terminationMessagePolicy" c.terminationMessagePolicy,
    optionalField "tty" c.tty,
    optionalField "volumeDevices" c.volumeDevices,
    optionalField "volumeMounts" c.volumeMounts,
    optionalField "workingDir" c.workingDir]

end InferenceReconciler.PodFields
