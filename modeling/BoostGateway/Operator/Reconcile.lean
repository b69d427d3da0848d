import BoostGateway.Base.Json

/-!
# The operator's reconciliation

`Reconcile` of the BoostGatewayCluster controller (`boostgatewaycluster_controller.go`) with the
summaries of Deployments and StatefulSets. A run meets the answers of the API server and four
readings of the clock, one for each condition of the status it wants. It goes through the six
components, sums their replicas in 32 bits and gathers their rollouts, and writes the status
when it differs from the stored one.

The readings of the clock are part of the status that is compared. After a run without error
every later run that gets as far as the comparison therefore writes the status again, unless
its clock shows the readings that are stored. The Ready condition is true as soon as no replica
is wanted in sum, and a workload that is not there takes no part in the rollouts, so that the
replicas of another one can stand in for it : `reconcile_settles_iff`.
-/

namespace BoostGateway.Operator

/-! ## The cluster and its workloads -/

/-- What is wanted of a component. -/
structure ComponentSpec where
  enabled : Option Bool := none
  replicas : Option Int32 := none

/-- What is wanted of the certificates. -/
structure TLSConfig where
  enabled : Bool := false
  secretName : String := ""
  certManagerIssuer : String := ""
  managedByCertManager : Bool := false

/-- What is wanted of a cluster. -/
structure BoostGatewayClusterSpec where
  gateway : ComponentSpec := {}
  login : ComponentSpec := {}
  room : ComponentSpec := {}
  battle : ComponentSpec := {}
  match_ : ComponentSpec := {}
  leaderboard : ComponentSpec := {}
  tls : TLSConfig := {}

/-- What there is of a component. -/
structure ComponentStatus where
  name : String
  kind : String
  desiredReplicas : Int32
  readyReplicas : Int32
  updatedReplicas : Int32
  availableReplicas : Int32
  observedGeneration : Int64
  deriving DecidableEq

/-- `metav1.ConditionStatus`. -/
inductive ConditionStatus where
  | true
  | false
  | unknown
  deriving DecidableEq

/-- A time. -/
abbrev Time := ℕ

/-- A condition in a status. -/
structure Condition where
  type : String
  status : ConditionStatus
  observedGeneration : Int64 := 0
  lastTransitionTime : Time
  reason : String
  message : String
  deriving DecidableEq

/-- The status of a cluster. -/
structure BoostGatewayClusterStatus where
  phase : String := ""
  readyReplicas : Int32 := 0
  desiredReplicas : Int32 := 0
  components : List ComponentStatus := []
  conditions : List Condition := []
  deriving DecidableEq

/-- A cluster, as the API server keeps it. -/
structure BoostGatewayCluster where
  name : String
  spec : BoostGatewayClusterSpec := {}
  status : BoostGatewayClusterStatus := {}

/-- What the summaries read of a Deployment or a StatefulSet. -/
structure Workload where
  generation : Int64
  replicas : Option Int32
  observedGeneration : Int64
  readyReplicas : Int32
  updatedReplicas : Int32
  availableReplicas : Int32

/-- A workload without storage. -/
abbrev Deployment := Workload

/-- A workload with storage. -/
abbrev StatefulSet := Workload

/-- A component, with its name and ports. -/
structure ManagedComponent where
  name : String
  spec : ComponentSpec

/-- The component has storage. -/
def ManagedComponent.usesStatefulSet (component : ManagedComponent) : Bool :=
  component.name == "match" || component.name == "leaderboard"

/-- The components of a cluster. -/
def BoostGatewayClusterSpec.components (spec : BoostGatewayClusterSpec) : List ManagedComponent :=
  [⟨"gateway", spec.gateway⟩, ⟨"login", spec.login⟩, ⟨"room", spec.room⟩,
    ⟨"battle", spec.battle⟩, ⟨"match", spec.match_⟩, ⟨"leaderboard", spec.leaderboard⟩]

/-- `isEnabled`. -/
def isEnabled (spec : ComponentSpec) : Bool := spec.enabled.getD true

/-- `replicasOrDefault`. -/
def replicasOrDefault (spec : ComponentSpec) (fallback : Int32) : Int32 :=
  spec.replicas.getD fallback

/-- The name of a workload. -/
def componentResourceName (clusterName componentName : String) : String :=
  clusterName ++ "-" ++ componentName

/-- The name of a config map. -/
def componentConfigMapName (clusterName componentName : String) : String :=
  clusterName ++ "-" ++ componentName ++ "-config"

/-! ## The summaries of the rollouts -/

/-- How far a component is rolled out. -/
structure ComponentRolloutStatus where
  status : ComponentStatus
  ready : Bool
  degraded : Bool
  degradedReason : String

/-- `summarizeDeployment`. -/
def summarizeDeployment (name : String) (deployment : Deployment) : ComponentRolloutStatus :=
  let desired := deployment.replicas.getD 0
  let degradedReason :=
    if deployment.observedGeneration < deployment.generation then
      name ++ " deployment has stale observedGeneration"
    else if deployment.updatedReplicas < desired then
      name ++ " deployment has insufficient updated replicas"
    else if deployment.availableReplicas < deployment.readyReplicas then
      name ++ " deployment has fewer available than ready replicas"
    else ""
  { status :=
      { name := name
        kind := "Deployment"
        desiredReplicas := desired
        readyReplicas := deployment.readyReplicas
        updatedReplicas := deployment.updatedReplicas
        availableReplicas := deployment.availableReplicas
        observedGeneration := deployment.observedGeneration }
    ready := deployment.observedGeneration ≥ deployment.generation &&
      deployment.readyReplicas ≥ desired && deployment.updatedReplicas ≥ desired &&
      deployment.availableReplicas ≥ desired
    degraded := deployment.observedGeneration < deployment.generation ||
      deployment.updatedReplicas < desired ||
      deployment.availableReplicas < deployment.readyReplicas
    degradedReason := degradedReason }

/-- `summarizeStatefulSet`. -/
def summarizeStatefulSet (name : String) (statefulSet : StatefulSet) : ComponentRolloutStatus :=
  let desired := statefulSet.replicas.getD 0
  let degradedReason :=
    if statefulSet.observedGeneration < statefulSet.generation then
      name ++ " statefulset has stale observedGeneration"
    else if statefulSet.updatedReplicas < desired then
      name ++ " statefulset has insufficient updated replicas"
    else ""
  { status :=
      { name := name
        kind := "StatefulSet"
        desiredReplicas := desired
        readyReplicas := statefulSet.readyReplicas
        updatedReplicas := statefulSet.updatedReplicas
        availableReplicas := statefulSet.availableReplicas
        observedGeneration := statefulSet.observedGeneration }
    ready := statefulSet.observedGeneration ≥ statefulSet.generation &&
      statefulSet.readyReplicas ≥ desired && statefulSet.updatedReplicas ≥ desired
    degraded := statefulSet.observedGeneration < statefulSet.generation ||
      statefulSet.updatedReplicas < desired
    degradedReason := degradedReason }

/-! ## The calls to the API server -/

/-- How a call of the API server fails. -/
inductive ApiError where
  | notFound
  | other (message : String)

/-- The kinds of workloads. -/
inductive ResourceKind where
  | deployment
  | statefulSet
  | service
  | configMap
  | secret
  | certificate

/-- The answers of the API server during one run. -/
structure ApiServer where
  getCluster : Except ApiError Unit
  getDeployment : String → Except ApiError Deployment
  getStatefulSet : String → Except ApiError StatefulSet
  createOrUpdate : ResourceKind → String → Except ApiError Unit
  delete : ResourceKind → String → Except ApiError Unit
  updateStatus : Except ApiError Unit

/-- `client.IgnoreNotFound`. -/
def ignoreNotFound : Except ApiError Unit → Except ApiError Unit
  | .error .notFound => .ok ()
  | r => r

/-- The secret has to be there. -/
def reconcileClusterTLSSecret (api : ApiServer) (tls : TLSConfig) : Except ApiError Unit := do
  if !tls.enabled || tls.secretName == "" then
    return ()
  if tls.managedByCertManager && tls.certManagerIssuer != "" then
    api.createOrUpdate .certificate tls.secretName
  api.createOrUpdate .secret tls.secretName

/-- A disabled component is deleted. -/
def deleteComponent (api : ApiServer) (clusterName componentName : String) :
    Except ApiError Unit := do
  let name := componentResourceName clusterName componentName
  ignoreNotFound (api.delete .deployment name)
  ignoreNotFound (api.delete .statefulSet name)
  ignoreNotFound (api.delete .service name)

/-- Its config map is deleted. -/
def deleteComponentConfig (api : ApiServer) (clusterName componentName : String) :
    Except ApiError Unit :=
  ignoreNotFound (api.delete .configMap (componentConfigMapName clusterName componentName))

/-- The config map of a component. -/
def reconcileComponentConfigMap (api : ApiServer) (clusterName : String)
    (component : ManagedComponent) : Except ApiError Unit :=
  api.createOrUpdate .configMap (componentConfigMapName clusterName component.name)

/-- `reconcileStatefulSet` or `reconcileDeployment`. -/
def reconcileWorkload (api : ApiServer) (clusterName : String) (component : ManagedComponent) :
    Except ApiError Unit :=
  api.createOrUpdate (if component.usesStatefulSet then .statefulSet else .deployment)
    (componentResourceName clusterName component.name)

/-- The service of a component. -/
def reconcileService (api : ApiServer) (clusterName : String) (component : ManagedComponent) :
    Except ApiError Unit :=
  api.createOrUpdate .service (componentResourceName clusterName component.name)

/-- The summary of the component's workload, none when the workload is not found. -/
def getRollout (api : ApiServer) (clusterName : String) (component : ManagedComponent) :
    Except ApiError (Option ComponentRolloutStatus) :=
  let name := componentResourceName clusterName component.name
  let rollout :=
    if component.usesStatefulSet then
      (api.getStatefulSet name).map (summarizeStatefulSet component.name)
    else (api.getDeployment name).map (summarizeDeployment component.name)
  match rollout with
  | .ok rollout => .ok (some rollout)
  | .error .notFound => .ok none
  | .error (.other message) => .error (.other message)

/-! ## The loop over the components -/

/-- What the loop over the components counts. -/
structure Totals where
  totalReady : Int32 := 0
  totalDesired : Int32 := 0
  componentStatuses : List ComponentStatus := []
  allRolloutsReady : Bool := true
  degradedReasons : List String := []

/-- A component is counted. -/
def Totals.addRollout (totals : Totals) : Option ComponentRolloutStatus → Totals
  | none => totals
  | some rollout =>
    { totals with
      componentStatuses := totals.componentStatuses ++ [rollout.status]
      totalReady := totals.totalReady + rollout.status.readyReplicas
      allRolloutsReady := totals.allRolloutsReady && rollout.ready
      degradedReasons :=
        if rollout.degraded then totals.degradedReasons ++ [rollout.degradedReason]
        else totals.degradedReasons }

/-- One turn of the loop. -/
def reconcileComponent (api : ApiServer) (clusterName : String) (totals : Totals)
    (component : ManagedComponent) : Except ApiError Totals :=
  if !isEnabled component.spec then do
    deleteComponent api clusterName component.name
    deleteComponentConfig api clusterName component.name
    return totals
  else do
    reconcileComponentConfigMap api clusterName component
    reconcileWorkload api clusterName component
    let totals :=
      { totals with totalDesired := totals.totalDesired + replicasOrDefault component.spec 1 }
    reconcileService api clusterName component
    let rollout ← getRollout api clusterName component
    return totals.addRollout rollout

/-- The loop over the components. -/
def reconcileComponents (api : ApiServer) (cluster : BoostGatewayCluster) :
    Except ApiError Totals := do
  reconcileClusterTLSSecret api cluster.spec.tls
  cluster.spec.components.foldlM (reconcileComponent api cluster.name) {}

/-! ## The status -/

/-- The readings of `metav1.Now`, in the order of the conditions. -/
structure Clock where
  ready : Time
  progressing : Time
  degraded : Time
  tlsReady : Time
  deriving DecidableEq

/-- The status of `TLSReady`. -/
def tlsConditionStatus (tls : TLSConfig) : ConditionStatus :=
  if !tls.enabled then .false else .true

/-- The reason of `TLSReady`. -/
def tlsConditionReason (tls : TLSConfig) : String :=
  if !tls.enabled then "TLSDisabled"
  else if tls.managedByCertManager && tls.certManagerIssuer != "" then "CertManagerConfigured"
  else "StaticSecretConfigured"

/-- `quote` is the verb `%q` of `fmt.Sprintf`. -/
def tlsConditionMessage (quote : String → String) (tls : TLSConfig) : String :=
  if !tls.enabled then "TLS is disabled."
  else if tls.managedByCertManager && tls.certManagerIssuer != "" then
    "TLS secret is managed by cert-manager issuer " ++ quote tls.certManagerIssuer ++ "."
  else "TLS secret is reconciled as a placeholder/static secret."

/-- The replicas, as a message shows them. -/
def Totals.replicas (totals : Totals) : String :=
  toString totals.totalReady.toInt ++ "/" ++ toString totals.totalDesired.toInt

/-- The test on which the Ready condition is true. -/
def Totals.running (totals : Totals) : Bool :=
  totals.totalDesired == 0 ||
    (totals.totalReady ≥ totals.totalDesired && totals.allRolloutsReady)

/-- The condition `Ready`. -/
def readyCondition (now : Time) (totals : Totals) : Condition :=
  { type := "Ready"
    status := if totals.running then .true else .false
    reason := if totals.running then "ComponentsReady" else "WaitingForReplicas"
    message :=
      if totals.running then "All enabled components are ready."
      else "Ready replicas " ++ totals.replicas
    lastTransitionTime := now }

/-- The condition `Progressing`. -/
def progressingCondition (now : Time) (totals : Totals) : Condition :=
  { type := "Progressing"
    status := if totals.running then .false else .true
    reason := if totals.running then "RolloutComplete" else "RolloutInProgress"
    message :=
      if totals.running then "No rollout in progress."
      else "Rollout progressing: ready replicas " ++ totals.replicas ++ "."
    lastTransitionTime := now }

/-- The condition `Degraded`. -/
def degradedCondition (now : Time) (totals : Totals) : Condition :=
  if !totals.running && totals.degradedReasons.length > 0 then
    { type := "Degraded"
      status := .true
      reason := "RolloutHealthIssue"
      message := "; ".intercalate totals.degradedReasons
      lastTransitionTime := now }
  else if !totals.running && totals.totalReady == 0 && totals.totalDesired > 0 then
    { type := "Degraded"
      status := .true
      reason := "NoReadyReplicas"
      message := "No enabled component currently reports ready replicas."
      lastTransitionTime := now }
  else
    { type := "Degraded"
      status := .false
      reason := "NoIssuesDetected"
      message := "No degraded components detected."
      lastTransitionTime := now }

/-- The condition `TLSReady`. -/
def tlsReadyCondition (quote : String → String) (now : Time) (tls : TLSConfig) : Condition :=
  { type := "TLSReady"
    status := tlsConditionStatus tls
    reason := tlsConditionReason tls
    message := tlsConditionMessage quote tls
    lastTransitionTime := now }

/-- The status that is written. -/
def desiredStatus (quote : String → String) (now : Clock) (tls : TLSConfig) (totals : Totals) :
    BoostGatewayClusterStatus :=
  { phase := if totals.running then "Running" else "Progressing"
    readyReplicas := totals.totalReady
    desiredReplicas := totals.totalDesired
    components := totals.componentStatuses
    conditions :=
      [readyCondition now.ready totals, progressingCondition now.progressing totals,
        degradedCondition now.degraded totals, tlsReadyCondition quote now.tlsReady tls] }

/-! ## A run -/

/-- What a run of `Reconcile` meets. -/
structure Run where
  api : ApiServer
  now : Clock

/-- What a run leaves : the stored cluster, whether it issued a status update, and the error it
returned. -/
structure Outcome where
  cluster : BoostGatewayCluster
  updated : Bool
  err : Option ApiError

/-- `Reconcile`. -/
def reconcile (quote : String → String) (run : Run) (cluster : BoostGatewayCluster) : Outcome :=
  match run.api.getCluster with
  | .error .notFound => { cluster := cluster, updated := false, err := none }
  | .error (.other message) =>
    { cluster := cluster, updated := false, err := some (.other message) }
  | .ok () =>
    match reconcileComponents run.api cluster with
    | .error e => { cluster := cluster, updated := false, err := some e }
    | .ok totals =>
      let desired := desiredStatus quote run.now cluster.spec.tls totals
      if cluster.status ≠ desired then
        match run.api.updateStatus with
        | .error e => { cluster := cluster, updated := true, err := some e }
        | .ok () => { cluster := { cluster with status := desired }, updated := true, err := none }
      else { cluster := cluster, updated := false, err := none }

/-! ## What the loop gathers -/

/-- The summary of a component whose workload is found. -/
def foundRollout (api : ApiServer) (clusterName : String) (component : ManagedComponent) :
    Option ComponentRolloutStatus :=
  match getRollout api clusterName component with
  | .ok rollout => rollout
  | .error _ => none

/-- Every call that a run makes for the component is answered. -/
def ComponentAnswered (api : ApiServer) (clusterName : String) (component : ManagedComponent) :
    Prop :=
  if isEnabled component.spec then
    Returns (reconcileComponentConfigMap api clusterName component) ∧
      Returns (reconcileWorkload api clusterName component) ∧
      Returns (reconcileService api clusterName component) ∧
      Returns (getRollout api clusterName component)
  else
    Returns (deleteComponent api clusterName component.name) ∧
      Returns (deleteComponentConfig api clusterName component.name)

/-- Every call that a run makes before it compares the status is answered. -/
def Answered (api : ApiServer) (name : String) (spec : BoostGatewayClusterSpec) : Prop :=
  Returns api.getCluster ∧ Returns (reconcileClusterTLSSecret api spec.tls) ∧
    ∀ component ∈ spec.components, ComponentAnswered api name component

/-- What a component adds to the totals. -/
def Totals.observe (totals : Totals) (component : ManagedComponent)
    (rollout : Option ComponentRolloutStatus) : Totals :=
  if isEnabled component.spec then
    { totals with
      totalDesired :=
        totals.totalDesired + replicasOrDefault component.spec 1 }.addRollout rollout
  else totals

/-- The totals of the components whose calls are answered. -/
def observeAll (api : ApiServer) (clusterName : String) (totals : Totals)
    (components : List ManagedComponent) : Totals :=
  components.foldl (fun t component => t.observe component (foundRollout api clusterName component))
    totals

theorem bind_eq_ok {α β : Type} {x : Except ApiError α} {f : α → Except ApiError β} {b : β} :
    (x >>= f) = .ok b ↔ ∃ a, x = .ok a ∧ f a = .ok b := by
  cases x with
  | error e => simp [bind, Except.bind]
  | ok a => simp [bind, Except.bind]

theorem unit_bind_eq_ok {β : Type} {x : Except ApiError Unit} {f : Unit → Except ApiError β}
    {b : β} : (x >>= f) = .ok b ↔ Returns x ∧ f () = .ok b := by
  rw [bind_eq_ok]
  exact ⟨fun ⟨a, ha, hb⟩ => ⟨⟨a, ha⟩, hb⟩, fun ⟨⟨a, ha⟩, hb⟩ => ⟨a, ha, hb⟩⟩

variable {api : ApiServer}

theorem reconcileComponent_eq_ok {name : String} {totals totals' : Totals}
    {component : ManagedComponent} :
    reconcileComponent api name totals component = .ok totals' ↔
      ComponentAnswered api name component ∧
        totals' = totals.observe component (foundRollout api name component) := by
  by_cases henabled : isEnabled component.spec = true
  · simp only [reconcileComponent, ComponentAnswered, Totals.observe, henabled, Bool.not_true,
      Bool.false_eq_true, if_false, if_true, unit_bind_eq_ok]
    simp only [bind_eq_ok]
    constructor
    · rintro ⟨hconfig, hworkload, hservice, rollout, hrollout, htotals⟩
      have hfound : foundRollout api name component = rollout := by
        simp [foundRollout, hrollout]
      exact ⟨⟨hconfig, hworkload, hservice, rollout, hrollout⟩,
        by rw [hfound]; exact (Except.ok.inj htotals).symm⟩
    · rintro ⟨⟨hconfig, hworkload, hservice, rollout, hrollout⟩, rfl⟩
      have hfound : foundRollout api name component = rollout := by
        simp [foundRollout, hrollout]
      exact ⟨hconfig, hworkload, hservice, rollout, hrollout, by rw [hfound]; rfl⟩
  · simp only [reconcileComponent, ComponentAnswered, Totals.observe, henabled, Bool.not_false,
      if_true, Bool.false_eq_true, if_false, unit_bind_eq_ok, and_assoc]
    refine and_congr_right fun _ => and_congr_right fun _ => ?_
    exact ⟨fun h => (Except.ok.inj h).symm, fun h => h ▸ rfl⟩

theorem foldlM_reconcileComponent {api : ApiServer} {name : String} {totals' : Totals} :
    ∀ (components : List ManagedComponent) (totals : Totals),
      components.foldlM (reconcileComponent api name) totals = .ok totals' ↔
        (∀ component ∈ components, ComponentAnswered api name component) ∧
          totals' = observeAll api name totals components
  | [], totals => by
    simp only [List.foldlM_nil, observeAll, List.foldl_nil, List.not_mem_nil, false_implies,
      implies_true, true_and]
    exact ⟨fun h => (Except.ok.inj h).symm, fun h => h ▸ rfl⟩
  | component :: components, totals => by
    simp only [List.foldlM_cons, bind_eq_ok, List.forall_mem_cons, reconcileComponent_eq_ok,
      foldlM_reconcileComponent components]
    constructor
    · rintro ⟨t, ⟨hcomponent, rfl⟩, hrest, rfl⟩
      exact ⟨⟨hcomponent, hrest⟩, rfl⟩
    · rintro ⟨⟨hcomponent, hrest⟩, rfl⟩
      exact ⟨_, ⟨hcomponent, rfl⟩, hrest, rfl⟩

/-- The totals of a run. -/
def gathered (api : ApiServer) (name : String) (spec : BoostGatewayClusterSpec) : Totals :=
  observeAll api name {} spec.components

theorem reconcileComponents_eq_ok {cluster : BoostGatewayCluster} {totals : Totals} :
    reconcileComponents api cluster = .ok totals ↔
      (Returns (reconcileClusterTLSSecret api cluster.spec.tls) ∧
        ∀ component ∈ cluster.spec.components, ComponentAnswered api cluster.name component) ∧
      totals = gathered api cluster.name cluster.spec := by
  simp only [reconcileComponents, unit_bind_eq_ok, foldlM_reconcileComponent, gathered, and_assoc]

/-- The replicas that the enabled components want, in 32 bits. -/
def wantedReplicas : List ManagedComponent → Int32
  | [] => 0
  | component :: components =>
    (if isEnabled component.spec then replicasOrDefault component.spec 1 else 0) +
      wantedReplicas components

/-- The ready replicas of the workloads that are found, in 32 bits. -/
def foundReplicas (api : ApiServer) (name : String) : List ManagedComponent → Int32
  | [] => 0
  | component :: components =>
    (if isEnabled component.spec then
        ((foundRollout api name component).map (·.status.readyReplicas)).getD 0
      else 0) + foundReplicas api name components

theorem observeAll_totalDesired (api : ApiServer) (name : String) :
    ∀ (components : List ManagedComponent) (totals : Totals),
      (observeAll api name totals components).totalDesired =
        totals.totalDesired + wantedReplicas components
  | [], totals => by simp [observeAll, wantedReplicas]
  | component :: components, totals => by
    have hstep : (totals.observe component (foundRollout api name component)).totalDesired =
        totals.totalDesired +
          if isEnabled component.spec then replicasOrDefault component.spec 1 else 0 := by
      cases foundRollout api name component <;>
        by_cases henabled : isEnabled component.spec = true <;>
        simp [Totals.observe, Totals.addRollout, henabled]
    have hrest := observeAll_totalDesired api name components
      (totals.observe component (foundRollout api name component))
    rw [wantedReplicas, ← Int32.add_assoc, ← hstep, ← hrest]
    rfl

theorem observeAll_totalReady (api : ApiServer) (name : String) :
    ∀ (components : List ManagedComponent) (totals : Totals),
      (observeAll api name totals components).totalReady =
        totals.totalReady + foundReplicas api name components
  | [], totals => by simp [observeAll, foundReplicas]
  | component :: components, totals => by
    have hstep : (totals.observe component (foundRollout api name component)).totalReady =
        totals.totalReady +
          if isEnabled component.spec then
            ((foundRollout api name component).map (·.status.readyReplicas)).getD 0 else 0 := by
      cases foundRollout api name component <;>
        by_cases henabled : isEnabled component.spec = true <;>
        simp [Totals.observe, Totals.addRollout, henabled]
    have hrest := observeAll_totalReady api name components
      (totals.observe component (foundRollout api name component))
    rw [foundReplicas, ← Int32.add_assoc, ← hstep, ← hrest]
    rfl

/-- The workload of the component is found and not ready. -/
def FoundUnready (api : ApiServer) (name : String) (component : ManagedComponent) : Prop :=
  ∃ rollout, foundRollout api name component = some rollout ∧ rollout.ready = false

/-- The workload of the component is found and ready. -/
def FoundReady (api : ApiServer) (name : String) (component : ManagedComponent) : Prop :=
  ∃ rollout, foundRollout api name component = some rollout ∧ rollout.ready = true

theorem observe_allRolloutsReady {name : String} {totals : Totals} {component : ManagedComponent} :
    (totals.observe component (foundRollout api name component)).allRolloutsReady = true ↔
      totals.allRolloutsReady = true ∧
        (isEnabled component.spec = true → ¬FoundUnready api name component) := by
  cases hfound : foundRollout api name component <;>
    by_cases henabled : isEnabled component.spec = true <;>
    simp [Totals.observe, Totals.addRollout, henabled, FoundUnready, hfound]

theorem observeAll_allRolloutsReady (api : ApiServer) (name : String) :
    ∀ (components : List ManagedComponent) (totals : Totals),
      (observeAll api name totals components).allRolloutsReady = true ↔
        totals.allRolloutsReady = true ∧ ∀ component ∈ components,
          isEnabled component.spec = true → ¬FoundUnready api name component
  | [], totals => by simp [observeAll]
  | component :: components, totals => by
    have hrest := observeAll_allRolloutsReady api name components
      (totals.observe component (foundRollout api name component))
    rw [List.forall_mem_cons, ← and_assoc, ← observe_allRolloutsReady, ← hrest]
    rfl

/-- The Ready condition is true exactly when no replica is wanted in sum, or when enough are
ready in sum and no workload that is found is not ready. -/
theorem gathered_running_iff {name : String} {spec : BoostGatewayClusterSpec} :
    (gathered api name spec).running = true ↔
      wantedReplicas spec.components = 0 ∨
        wantedReplicas spec.components ≤ foundReplicas api name spec.components ∧
          ∀ component ∈ spec.components,
            isEnabled component.spec = true → ¬FoundUnready api name component := by
  have hready := observeAll_allRolloutsReady api name spec.components {}
  simp only [true_and] at hready
  rw [Totals.running, Bool.or_eq_true, Bool.and_eq_true, beq_iff_eq, decide_eq_true_eq, gathered,
    observeAll_totalDesired, observeAll_totalReady, hready]
  simp

/-! ## Later runs -/

/-- The workload objects are the same in both runs. -/
def SameObjects (api api' : ApiServer) : Prop :=
  api'.getDeployment = api.getDeployment ∧ api'.getStatefulSet = api.getStatefulSet

theorem SameObjects.foundRollout_eq {api' : ApiServer} (h : SameObjects api api') :
    foundRollout api' = foundRollout api := by
  funext name component
  simp only [foundRollout, getRollout, h.1, h.2]

theorem SameObjects.gathered_eq {api' : ApiServer} (h : SameObjects api api') :
    gathered api' = gathered api := by
  funext name spec
  simp only [gathered, observeAll, h.foundRollout_eq]

variable {quote : String → String}

/-- The status that a run wants shows each of its four readings of the clock. -/
theorem desiredStatus_inj {now now' : Clock} {tls : TLSConfig} {totals : Totals} :
    desiredStatus quote now tls totals = desiredStatus quote now' tls totals ↔ now = now' := by
  refine ⟨fun h => ?_, fun h => h ▸ rfl⟩
  have hdegraded (t : Time) : (degradedCondition t totals).lastTransitionTime = t := by
    unfold degradedCondition
    split_ifs <;> rfl
  have htimes := congrArg (fun status => status.conditions.map (·.lastTransitionTime)) h
  obtain ⟨r, p, d, t⟩ := now
  obtain ⟨r', p', d', t'⟩ := now'
  simpa [desiredStatus, readyCondition, progressingCondition, tlsReadyCondition, hdegraded]
    using htimes

/-- The cluster shows the status that a run with these answers and readings wants. -/
def Stored (quote : String → String) (run : Run) (cluster : BoostGatewayCluster) : Prop :=
  cluster.status = desiredStatus quote run.now cluster.spec.tls
    (gathered run.api cluster.name cluster.spec)

theorem reconcile_cluster (quote : String → String) (run : Run) (cluster : BoostGatewayCluster) :
    (reconcile quote run cluster).cluster.name = cluster.name ∧
      (reconcile quote run cluster).cluster.spec = cluster.spec := by
  cases hget : run.api.getCluster with
  | error e => cases e <;> simp [reconcile, hget]
  | ok =>
    cases hloop : reconcileComponents run.api cluster with
    | error e => simp [reconcile, hget, hloop]
    | ok totals =>
      by_cases hsame : cluster.status = desiredStatus quote run.now cluster.spec.tls totals
      · simp [reconcile, hget, hloop, ← hsame]
      · cases hupdate : run.api.updateStatus <;> simp [reconcile, hget, hloop, hsame, hupdate]

/-- A run without error, of a cluster that is found, leaves the status it wants. -/
theorem stored_reconcile {run : Run} {cluster : BoostGatewayCluster}
    (hget : run.api.getCluster = .ok ()) (hrun : (reconcile quote run cluster).err = none) :
    Answered run.api cluster.name cluster.spec ∧
      Stored quote run (reconcile quote run cluster).cluster := by
  cases hloop : reconcileComponents run.api cluster with
  | error e => simp [reconcile, hget, hloop] at hrun
  | ok totals =>
    obtain ⟨hcalls, rfl⟩ := reconcileComponents_eq_ok.mp hloop
    refine ⟨⟨⟨(), hget⟩, hcalls⟩, ?_⟩
    by_cases hsame : cluster.status = desiredStatus quote run.now cluster.spec.tls
        (gathered run.api cluster.name cluster.spec)
    · simp only [reconcile, hget, hloop, hsame, ne_eq, not_true, if_false]
      exact hsame
    · cases hupdate : run.api.updateStatus with
      | error e => simp [reconcile, hget, hloop, hsame, hupdate] at hrun
      | ok => simp [reconcile, hget, hloop, hsame, hupdate, Stored]

/-- With the workload objects of the run that left the status, a run issues a status update
exactly when its calls are answered and its clock shows other readings. Otherwise it leaves
the cluster as it is. -/
theorem reconcile_stored {first run : Run}
    {cluster : BoostGatewayCluster} (hstored : Stored quote first cluster)
    (hobjects : SameObjects first.api run.api) :
    ((reconcile quote run cluster).updated = true ↔
      Answered run.api cluster.name cluster.spec ∧ run.now ≠ first.now) ∧
    ((reconcile quote run cluster).updated = false →
      (reconcile quote run cluster).cluster = cluster) := by
  cases hget : run.api.getCluster with
  | error e => cases e <;> simp [reconcile, hget, Answered]
  | ok =>
    cases hloop : reconcileComponents run.api cluster with
    | error e =>
      have hnot : ¬Answered run.api cluster.name cluster.spec := by
        rintro ⟨-, hcalls⟩
        have hok := reconcileComponents_eq_ok.mpr ⟨hcalls, rfl⟩
        rw [hloop] at hok
        cases hok
      simp [reconcile, hget, hloop, hnot]
    | ok totals =>
      obtain ⟨hcalls, rfl⟩ := reconcileComponents_eq_ok.mp hloop
      have hanswered : Answered run.api cluster.name cluster.spec := ⟨⟨(), hget⟩, hcalls⟩
      have hdiffer : cluster.status ≠ desiredStatus quote run.now cluster.spec.tls
          (gathered run.api cluster.name cluster.spec) ↔ run.now ≠ first.now := by
        rw [hobjects.gathered_eq, hstored, Ne, desiredStatus_inj, eq_comm]
      by_cases hnow : run.now = first.now
      · have hsame := not_not.mp (mt hdiffer.mp (not_not.mpr hnow))
        simp only [reconcile, hget, hloop, hsame, ne_eq, not_true, if_false, hnow]
        simp
      · have hne := hdiffer.mpr hnow
        cases hupdate : run.api.updateStatus <;>
          simp [reconcile, hget, hloop, hne, hupdate, hanswered, hnow]

/-- The outcomes of the runs, each on the cluster that the one before leaves. -/
def reconcileAll (quote : String → String) : List Run → BoostGatewayCluster → List Outcome
  | [], _ => []
  | run :: runs, cluster =>
    let outcome := reconcile quote run cluster
    outcome :: reconcileAll quote runs outcome.cluster

/-- The runs issue no status update exactly when each that gets to the comparison reads the
clock as the stored status shows it. -/
theorem reconcileAll_quiet_iff {quote : String → String} {first : Run}
    {cluster : BoostGatewayCluster} (hstored : Stored quote first cluster) :
    ∀ runs : List Run, (∀ run ∈ runs, SameObjects first.api run.api) →
      ((∀ outcome ∈ reconcileAll quote runs cluster, outcome.updated = false) ↔
        ∀ run ∈ runs, Answered run.api cluster.name cluster.spec → run.now = first.now)
  | [], _ => by simp [reconcileAll]
  | run :: runs, hobjects => by
    rw [List.forall_mem_cons] at hobjects
    obtain ⟨hupdated, hkept⟩ := reconcile_stored hstored hobjects.1
    have hrest := reconcileAll_quiet_iff hstored runs hobjects.2
    simp only [reconcileAll, List.forall_mem_cons]
    constructor
    · rintro ⟨hquiet, hlater⟩
      rw [hkept hquiet] at hlater
      refine ⟨fun hanswered => by_contra fun hnow => ?_, hrest.mp hlater⟩
      rw [hupdated.mpr ⟨hanswered, hnow⟩] at hquiet
      cases hquiet
    · rintro ⟨hnow, hlater⟩
      have hquiet : (reconcile quote run cluster).updated = false :=
        Bool.eq_false_iff.mpr fun h => (hupdated.mp h).2 (hnow (hupdated.mp h).1)
      rw [hkept hquiet]
      exact ⟨hquiet, hrest.mpr hlater⟩

/-! ## Settling, and what Ready says -/

/-- The Ready condition of the status is true. -/
def BoostGatewayClusterStatus.IsReady (status : BoostGatewayClusterStatus) : Prop :=
  ∃ condition ∈ status.conditions, condition.type = "Ready" ∧ condition.status = .true

theorem isReady_desiredStatus {now : Clock} {tls : TLSConfig}
    {totals : Totals} : (desiredStatus quote now tls totals).IsReady ↔ totals.running = true := by
  have hdegraded : (degradedCondition now.degraded totals).type = "Degraded" := by
    unfold degradedCondition
    split_ifs <;> rfl
  simp [BoostGatewayClusterStatus.IsReady, desiredStatus, readyCondition, progressingCondition,
    tlsReadyCondition, hdegraded]

/-- A run that returned without error is followed by quiet runs, as long as the workload objects
stay the same, exactly when each of these that gets to the comparison reads the clock as the
first one did. The same run at any later time issues another status update. The Ready condition
that was stored is true only if every enabled component's workload was found and is ready
exactly when they all are, or when some replica is wanted in sum and too few are ready in sum or
one of the workloads found is not ready. -/
theorem reconcile_settles_iff (quote : String → String) (first : Run)
    (cluster : BoostGatewayCluster) (hget : first.api.getCluster = .ok ())
    (hrun : (reconcile quote first cluster).err = none) :
    (∀ now : Clock, first.now.ready < now.ready →
      (reconcile quote { first with now := now }
        (reconcile quote first cluster).cluster).updated = true) ∧
    (∀ runs : List Run, (∀ run ∈ runs, SameObjects first.api run.api) →
      ((∀ outcome ∈ reconcileAll quote runs (reconcile quote first cluster).cluster,
          outcome.updated = false) ↔
        ∀ run ∈ runs, Answered run.api cluster.name cluster.spec → run.now = first.now)) ∧
    (((reconcile quote first cluster).cluster.status.IsReady →
        ∀ component ∈ cluster.spec.components, isEnabled component.spec = true →
          FoundReady first.api cluster.name component) ↔
      (∀ component ∈ cluster.spec.components, isEnabled component.spec = true →
          FoundReady first.api cluster.name component) ∨
        wantedReplicas cluster.spec.components ≠ 0 ∧
          (foundReplicas first.api cluster.name cluster.spec.components <
              wantedReplicas cluster.spec.components ∨
            ∃ component ∈ cluster.spec.components, isEnabled component.spec = true ∧
              FoundUnready first.api cluster.name component)) := by
  obtain ⟨hanswered, hstored⟩ := stored_reconcile hget hrun
  obtain ⟨hname, hspec⟩ := reconcile_cluster quote first cluster
  refine ⟨fun now hnow => ?_, fun runs hobjects => ?_, ?_⟩
  · have hobjects : SameObjects first.api { first with now := now }.api := ⟨rfl, rfl⟩
    refine (reconcile_stored hstored hobjects).1.mpr ⟨by rwa [hname, hspec], fun h => ?_⟩
    exact Nat.ne_of_lt hnow (congrArg Clock.ready h).symm
  · have hquiet := reconcileAll_quiet_iff hstored runs hobjects
    rwa [hname, hspec] at hquiet
  · rw [hstored, isReady_desiredStatus, hname, hspec, gathered_running_iff, imp_iff_not_or,
      or_comm]
    refine or_congr_right ?_
    rw [not_or, not_and_or, Int32.not_le]
    refine and_congr_right fun _ => or_congr_right ?_
    simp only [not_forall, not_not, exists_prop]

/-- Every call is answered. The Deployments have two ready replicas where one is wanted, and no
StatefulSet is found. -/
def surplusApi : ApiServer where
  getCluster := .ok ()
  getDeployment := fun _ => .ok
    { generation := 1, replicas := some 1, observedGeneration := 1
      readyReplicas := 2, updatedReplicas := 2, availableReplicas := 2 }
  getStatefulSet := fun _ => .error .notFound
  createOrUpdate := fun _ _ => .ok ()
  delete := fun _ _ => .ok ()
  updateStatus := .ok ()

theorem reconcile_settles_surplus :
    (reconcile String.quote ⟨surplusApi, ⟨7, 7, 7, 7⟩⟩ { name := "demo" }).err = none ∧
    (reconcile String.quote ⟨surplusApi, ⟨8, 8, 8, 8⟩⟩
      (reconcile String.quote ⟨surplusApi, ⟨7, 7, 7, 7⟩⟩ { name := "demo" }).cluster).updated =
        true :=
  ⟨rfl, (reconcile_settles_iff String.quote ⟨surplusApi, ⟨7, 7, 7, 7⟩⟩ { name := "demo" } rfl
    rfl).1 ⟨8, 8, 8, 8⟩ (by decide)⟩

/-- The same run one tick later issues a status update, and the Ready condition stored by the
first one is true although no workload of `match` is found. -/
theorem not_reconcile_settles :
    (¬∀ (quote : String → String) (first : Run) (cluster : BoostGatewayCluster),
      first.api.getCluster = .ok () → (reconcile quote first cluster).err = none →
      ∀ runs : List Run,
        (∀ run ∈ runs, SameObjects first.api run.api ∧ first.now.ready < run.now.ready) →
        ∀ outcome ∈ reconcileAll quote runs (reconcile quote first cluster).cluster,
          outcome.updated = false) ∧
    ¬∀ (quote : String → String) (first : Run) (cluster : BoostGatewayCluster),
      first.api.getCluster = .ok () → (reconcile quote first cluster).err = none →
      (reconcile quote first cluster).cluster.status.IsReady →
      ∀ component ∈ cluster.spec.components, isEnabled component.spec = true →
        FoundReady first.api cluster.name component := by
  constructor
  · intro h
    have hquiet := h String.quote ⟨surplusApi, ⟨7, 7, 7, 7⟩⟩ { name := "demo" } rfl rfl
      [⟨surplusApi, ⟨8, 8, 8, 8⟩⟩] (by simp [SameObjects])
    simp only [reconcileAll, List.forall_mem_cons] at hquiet
    exact absurd hquiet.1 (by decide)
  · intro h
    have hready := h String.quote ⟨surplusApi, ⟨7, 7, 7, 7⟩⟩ { name := "demo" } rfl rfl
      ⟨_, List.mem_cons_self, rfl, rfl⟩
    obtain ⟨rollout, hfound, -⟩ := hready ⟨"match", {}⟩ (.tail _ (.tail _ (.tail _ (.tail _
      (.head _))))) rfl
    cases hfound

end BoostGateway.Operator
