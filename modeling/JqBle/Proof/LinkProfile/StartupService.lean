import JqBle.Proof.LinkProfile.Changes
import JqBle.Proof.LinkProfile.Startup

/-!
# Advertising and the registered service

While the node advertises, the identity service is on the radio and shows the PSM of its listener, as
long as no call of `try_startup` takes the word of the restored state, of an earlier listener or of
`AlreadyAdvertising` for it.
-/

namespace JqBle.Proof.LinkProfile
open Std Host Library JqBle.LinkProfile

variable {δ : Type}

/-! ## Advertising with a fresh, matching service -/

def CarriesPsm (service : GattService) : Prop :=
  ∃ characteristic ∈ service.characteristics, characteristic.uuid = jacquardPsmCharUuid

/-- The identity service is on the radio since the latest power-off, and the one registered last shows
the PSM of a started listener and no other. -/
structure FreshService (record : StartupRecord δ) : Prop where
  present : record.fresh = true ∨ (record.poweredOff = false ∧
    jacquardIdentityServiceUuid ∈ record.task.restoredState.peripheralServiceUuids)
  identity : ∀ service, record.registered = some service →
    service.uuid = jacquardIdentityServiceUuid
  carries : ∀ service, record.registered = some service →
    (CarriesPsm service ↔ record.task.startup.l2capListener = .started)
  current : ∀ service, record.registered = some service →
    ∀ characteristic ∈ service.characteristics, characteristic.uuid = jacquardPsmCharUuid →
      ∃ psm, record.listenerPsm = some psm ∧ characteristic.value = psmBytes psm

/-- A call of `try_startup` under power finds the restored services only before the first power-off,
is not told that advertising already runs when it registers a service, and does not lose a listener
it had. -/
def StartsFresh (record : StartupRecord δ) (turn : Turn) : Prop :=
  startsUp turn.event = true → turn.backend.peripheralIsPowered = .ok true →
    (listenerTried (poweredSteps record.task.startup turn.event) = true →
      turn.backend.l2capListener = .error .notSupported → record.task.localPsm = none) ∧
    (due (poweredSteps record.task.startup turn.event).gattService = true →
      listenerSettled (poweredSteps record.task.startup turn.event) turn.backend = true →
      if record.task.restoredState.peripheralServiceUuids.contains jacquardIdentityServiceUuid then
        record.poweredOff = false
      else turn.backend.addService ≠ .error .alreadyAdvertising)

instance (record : StartupRecord δ) (turn : Turn) : Decidable (StartsFresh record turn) :=
  inferInstanceAs (Decidable (_ → _ → _ ∧ (_ → _ → ite _ _ _)))

/-- What the startup steps say about the service on the radio. -/
structure Coherent (record : StartupRecord δ) : Prop where
  psm : record.task.localPsm = record.listenerPsm
  started : record.task.startup.l2capListener = .started → record.task.localPsm.isSome
  unsupported : record.task.startup.l2capListener = .unsupported → record.task.localPsm = none
  waiting : record.task.startup.l2capListener = .waitingForPower →
    record.task.startup.gattService = .waitingForPower
  settled : record.task.startup.gattService = .started → record.task.startup.l2capListener = .started ∨
    record.task.startup.l2capListener = .unsupported
  advertised : record.task.startup.advertising = .started → record.task.startup.gattService = .started
  restored : jacquardIdentityServiceUuid ∈ record.task.restoredState.peripheralServiceUuids →
    record.registered = none
  present : record.task.startup.gattService = .started →
    (record.fresh = true ∧ record.registered = some record.task.startupGattService) ∨
      (record.poweredOff = false ∧ record.registered = none ∧
        jacquardIdentityServiceUuid ∈ record.task.restoredState.peripheralServiceUuids)

theorem psm_of_mem_startupGattService {task : BleRuntimeTask δ} {characteristic : GattCharacteristic}
    (member : characteristic ∈ task.startupGattService.characteristics)
    (carried : characteristic.uuid = jacquardPsmCharUuid) :
    ∃ psm, task.localPsm = some psm ∧ characteristic.value = psmBytes psm := by
  have others : jacquardNodeIdCharUuid ≠ jacquardPsmCharUuid ∧
      jacquardC2pCharUuid ≠ jacquardPsmCharUuid ∧ jacquardP2cCharUuid ≠ jacquardPsmCharUuid := by
    decide
  unfold BleRuntimeTask.startupGattService at member
  cases known : task.localPsm with
  | none =>
      simp only [known, gattFallbackService, transportGattService, List.append_nil, List.mem_cons,
        List.not_mem_nil, or_false] at member
      rcases member with rfl | rfl | rfl
      · exact absurd carried others.1
      · exact absurd carried others.2.1
      · exact absurd carried others.2.2
  | some psm =>
      simp only [known, gattL2capService, transportGattService, List.cons_append, List.nil_append,
        List.mem_cons, List.not_mem_nil, or_false] at member
      rcases member with rfl | rfl | rfl | rfl
      · exact absurd carried others.1
      · exact absurd carried others.2.1
      · exact absurd carried others.2.2
      · exact ⟨psm, rfl, rfl⟩

theorem carriesPsm_startupGattService {task : BleRuntimeTask δ} :
    CarriesPsm task.startupGattService ↔ task.localPsm.isSome := by
  constructor
  · rintro ⟨characteristic, member, carried⟩
    obtain ⟨psm, known, -⟩ := psm_of_mem_startupGattService member carried
    simp [known]
  · intro known
    obtain ⟨psm, known⟩ := Option.isSome_iff_exists.mp known
    refine ⟨⟨jacquardPsmCharUuid, [.read], [.read], psmBytes psm⟩, ?_, rfl⟩
    simp [BleRuntimeTask.startupGattService, known, gattL2capService, transportGattService]

theorem Coherent.freshService {record : StartupRecord δ} (coherent : Coherent record)
    (advertising : record.task.startup.advertising = .started) : FreshService record := by
  have gatt := coherent.advertised advertising
  have same : ∀ service, record.registered = some service →
      service = record.task.startupGattService := by
    intro service registered
    rcases coherent.present gatt with ⟨-, last⟩ | ⟨-, last, -⟩
    · exact Option.some.inj (registered.symm.trans last)
    · cases registered.symm.trans last
  constructor
  case present =>
    rcases coherent.present gatt with ⟨fresh, -⟩ | ⟨on, -, restored⟩
    · exact Or.inl fresh
    · exact Or.inr ⟨on, restored⟩
  case identity =>
    intro service registered
    rw [same service registered, startupGattService_uuid]
  case carries =>
    intro service registered
    rw [same service registered, carriesPsm_startupGattService]
    constructor
    · intro known
      rcases coherent.settled gatt with started | unsupported
      · exact started
      · simp [coherent.unsupported unsupported] at known
    · exact coherent.started
  case current =>
    intro service registered characteristic member carried
    rw [same service registered] at member
    obtain ⟨psm, known, value⟩ := psm_of_mem_startupGattService member carried
    exact ⟨psm, coherent.psm ▸ known, value⟩

theorem event_of_peripheralEventReport {event : RuntimeEvent} {powered : Bool}
    (reported : peripheralEventReport event = some powered) :
    event = .peripheralState (.adapterStateChanged powered) := by
  unfold peripheralEventReport at reported
  split at reported
  · cases reported
    rfl
  · cases reported

theorem no_peripheralOff_of_powered {turn : Turn} (starts : startsUp turn.event = true)
    (answered : turn.backend.peripheralIsPowered = .ok true) :
    (peripheralReports turn).contains false = false := by
  have reported : peripheralEventReport turn.event ≠ some false := by
    intro reported
    simp [event_of_peripheralEventReport reported, startsUp] at starts
  simp [peripheralReports, starts, answered, Except.toOption, reported]

theorem gattService_tryStartL2capListener (task : BleRuntimeTask δ) (backend : Backend) :
    (task.tryStartL2capListener backend).startup.gattService = task.startup.gattService := by
  rw [tryStartL2capListener_eq]
  split
  · rfl
  · rfl

theorem restoredState_tryStartL2capListener (task : BleRuntimeTask δ) (backend : Backend) :
    (task.tryStartL2capListener backend).restoredState = task.restoredState := by
  rw [tryStartL2capListener_eq]
  split
  · rfl
  · rfl

theorem listenerTried_tryStartL2capListener (task : BleRuntimeTask δ) (backend : Backend) :
    listenerTried (task.tryStartL2capListener backend).startup =
      !listenerSettled task.startup backend := by
  have steps : listenerStep backend.l2capListener ≠ .pending := by
    unfold listenerStep
    split <;> decide
  rw [tryStartL2capListener_eq]
  split
  · rename_i tried
    rw [listenerSettled, tried]
    simp [listenerTried, steps]
  · rename_i untried
    simp [listenerSettled, untried]

/-! ## One call of `try_startup` keeps the record coherent -/

theorem listenerAnswers_filter (backend : Backend) (outbox : List Effect) :
    listenerAnswers backend (outbox.filter ofStartup) = listenerAnswers backend outbox := by
  unfold listenerAnswers
  rw [List.filterMap_filter]
  congr
  funext effect
  cases effect <;> rfl

theorem addedServices_filter (backend : Backend) (outbox : List Effect) :
    addedServices backend (outbox.filter ofStartup) = addedServices backend outbox := by
  unfold addedServices
  rw [List.filterMap_filter]
  congr
  funext effect
  cases effect <;> rfl

section
variable {record : StartupRecord δ} {turn : Turn} {before after task : BleRuntimeTask δ}

theorem Coherent.congr
    (listener : after.startup.l2capListener = before.startup.l2capListener)
    (gatt : after.startup.gattService = before.startup.gattService)
    (advertising : after.startup.advertising = before.startup.advertising)
    (localPsm : after.localPsm = before.localPsm)
    (localNodeId : after.localNodeId = before.localNodeId)
    (restoredState : after.restoredState = before.restoredState)
    (outbox : after.outbox.filter ofStartup = before.outbox.filter ofStartup)
    (coherent : Coherent (record.observe turn before)) : Coherent (record.observe turn after) := by
  have answers : listenerAnswers turn.backend after.outbox =
      listenerAnswers turn.backend before.outbox := by
    rw [← listenerAnswers_filter, outbox, listenerAnswers_filter]
  have services : addedServices turn.backend after.outbox =
      addedServices turn.backend before.outbox := by
    rw [← addedServices_filter, outbox, addedServices_filter]
  have service : after.startupGattService = before.startupGattService := by
    simp only [BleRuntimeTask.startupGattService, localPsm, localNodeId]
  obtain ⟨psm, started, unsupported, waiting, settled, advertised, restored, present⟩ := coherent
  constructor
  all_goals
    simp only [StartupRecord.observe, listener, gatt, advertising, localPsm, restoredState, answers,
      services, service]
    assumption

theorem Coherent.frame (frame : StartupFrame before after)
    (coherent : Coherent (record.observe turn before)) : Coherent (record.observe turn after) :=
  coherent.congr (congrArg _ frame.startup) (congrArg _ frame.startup) (congrArg _ frame.startup)
    frame.localPsm frame.localNodeId frame.restoredState frame.outbox

theorem Coherent.peripheralPowerChanged (found : BleRuntimeTask δ)
    (power : AdapterPowerState)
    (psm : (record.observe turn found).task.localPsm = (record.observe turn found).listenerPsm)
    (unsupported : found.startup.l2capListener = .unsupported → found.localPsm = none)
    (restored : jacquardIdentityServiceUuid ∈ found.restoredState.peripheralServiceUuids →
      (record.observe turn found).registered = none) :
    Coherent (record.observe turn
      { found with startup := found.startup.peripheralPowerChanged power }) := by
  have steps : power.nextStep ≠ .started ∧ power.nextStep ≠ .unsupported := by
    cases power <;> decide
  constructor
  case psm => exact psm
  case restored => exact restored
  case started =>
    intro started
    simp only [StartupRecord.observe, BleStartupState.peripheralPowerChanged] at started
    split at started
    · exact absurd started steps.1
    · simp_all
  case unsupported =>
    intro started
    simp only [StartupRecord.observe, BleStartupState.peripheralPowerChanged] at started
    split at started
    · exact absurd started steps.2
    · exact unsupported started
  case waiting =>
    intro waits
    simp only [StartupRecord.observe, BleStartupState.peripheralPowerChanged] at waits ⊢
    split at waits
    · exact waits
    · simp_all
  case settled => exact fun started => absurd started steps.1
  case advertised => exact fun started => absurd started steps.1
  case present => exact fun started => absurd started steps.1

theorem Coherent.tryStartL2capListener (coherent : Coherent (record.observe turn task))
    (kept : listenerTried task.startup = true → turn.backend.l2capListener = .error .notSupported →
      task.localPsm = none) :
    Coherent (record.observe turn (task.tryStartL2capListener turn.backend)) := by
  rw [tryStartL2capListener_eq]
  split
  · rename_i tried
    -- A listener that is still tried has no service behind it yet.
    have unregistered : task.startup.gattService ≠ .started := by
      intro started
      rcases coherent.settled started with settled | settled
      · simp_all [StartupRecord.observe, listenerTried]
      · simp_all [StartupRecord.observe, listenerTried]
    have unadvertised : task.startup.advertising ≠ .started := fun started =>
      unregistered (coherent.advertised started)
    have known := coherent.psm
    have none_registered := coherent.restored
    constructor
    case settled => exact fun started => absurd started unregistered
    case advertised => exact fun started => absurd started unadvertised
    case present => exact fun started => absurd started unregistered
    case restored => simpa [StartupRecord.observe, BleRuntimeTask.perform, addedServices] using
      none_registered
    all_goals
      cases answered : turn.backend.l2capListener with
      | ok psm =>
          simp [StartupRecord.observe, BleRuntimeTask.perform, listenerAnswers, answered, latest,
            listenerStep, Except.toOption]
      | error error =>
          simp only [StartupRecord.observe] at known
          cases error <;> simp_all [StartupRecord.observe, BleRuntimeTask.perform, listenerAnswers,
            latest, listenerStep, Except.toOption]
  · exact coherent

theorem Coherent.tryStartGattService (coherent : Coherent (record.observe turn task))
    (allowed : due task.startup.gattService = true → listenerTried task.startup = false →
      if jacquardIdentityServiceUuid ∈ task.restoredState.peripheralServiceUuids then
        (record.observe turn task).poweredOff = false
      else turn.backend.addService ≠ .error .alreadyAdvertising) :
    Coherent (record.observe turn (task.tryStartGattService turn.backend)) := by
  rw [tryStartGattService_eq]
  split
  · rename_i tried
    obtain ⟨tried, untried⟩ : due task.startup.gattService = true ∧
        listenerTried task.startup = false := by
      simpa using tried
    have allows := allowed tried untried
    have settled : task.startup.l2capListener = .started ∨
        task.startup.l2capListener = .unsupported := by
      have waiting := coherent.waiting
      cases step : task.startup.l2capListener <;>
        simp_all [listenerTried, due, StartupRecord.observe]
    have unadvertised : task.startup.advertising ≠ .started := by
      intro advertised
      have registered := coherent.advertised advertised
      simp_all [due, StartupRecord.observe]
    have unwaiting : task.startup.l2capListener ≠ .waitingForPower := by
      rcases settled with step | step <;> simp [step]
    split at allows
    · rename_i member
      rw [if_pos member]
      exact ⟨coherent.psm, coherent.started, coherent.unsupported,
        fun waits => absurd waits unwaiting, fun _ => settled,
        fun started => absurd started unadvertised, coherent.restored,
        fun _ => Or.inr ⟨allows, coherent.restored member, member⟩⟩
    · rename_i unrestored
      rw [if_neg unrestored]
      have known := coherent.psm
      constructor
      case psm => simpa [StartupRecord.observe, BleRuntimeTask.perform, listenerAnswers] using known
      case started => exact coherent.started
      case unsupported => exact coherent.unsupported
      case waiting => exact fun waits => absurd waits unwaiting
      case settled => exact fun _ => settled
      case advertised => exact fun started => absurd started unadvertised
      case restored => exact fun member => absurd member unrestored
      case present =>
        intro started
        have answered : turn.backend.addService = .ok () := by
          cases answered : turn.backend.addService with
          | ok answer => rfl
          | error error =>
              cases error <;> simp_all [StartupRecord.observe, StartupStep.fromStartResult]
        refine Or.inl ⟨?_, ?_⟩
        · simp [StartupRecord.observe, BleRuntimeTask.perform, addedServices, answered,
            Except.toOption]
        · simp [StartupRecord.observe, BleRuntimeTask.perform, addedServices, answered,
            Except.toOption, latest]
          rfl
  · exact coherent

theorem Coherent.tryStartAdvertising (coherent : Coherent (record.observe turn task)) :
    Coherent (record.observe turn (task.tryStartAdvertising turn.backend)) := by
  rw [tryStartAdvertising_eq]
  split
  · rename_i tried
    obtain ⟨-, registered⟩ : due task.startup.advertising = true ∧
        task.startup.gattService = .started := by
      simpa using tried
    have performed : Coherent (record.observe turn
        (task.perform (.startAdvertising task.advertisingConfig))) :=
      coherent.frame (.perform task rfl)
    exact ⟨performed.psm, performed.started, performed.unsupported, performed.waiting,
      performed.settled, fun _ => registered, performed.restored, performed.present⟩
  · exact coherent

theorem Coherent.centralStep (coherent : Coherent (record.observe turn task)) :
    Coherent (record.observe turn
      (if turn.backend.centralIsPowered.toOption.getD false then task.tryStartScan turn.backend
        else { task with startup := task.startup.centralPowerChanged .poweredOff })) := by
  split
  · rw [tryStartScan_eq]
    split
    · have performed : Coherent (record.observe turn
          (task.perform (.startScan task.config.scanFilter))) := coherent.frame (.perform task rfl)
      refine Coherent.congr ?_ ?_ ?_ ?_ ?_ ?_ ?_ performed
      all_goals rfl
    · exact coherent
  · refine Coherent.congr ?_ ?_ ?_ ?_ ?_ ?_ ?_ coherent
    all_goals rfl

theorem unsupported_of_poweredSteps {startup : BleStartupState} {event : RuntimeEvent}
    (unsupported : (poweredSteps startup event).l2capListener = .unsupported) :
    startup.l2capListener = .unsupported := by
  unfold poweredSteps at unsupported
  split at unsupported
  · exact unsupported
  · rename_i powered
    simp only [BleStartupState.peripheralPowerChanged] at unsupported
    split at unsupported
    · cases powered <;> cases unsupported
    · exact unsupported
  · exact unsupported

/-- A power event of the peripheral resets its steps; without one nothing has changed, if no answer
says that the peripheral is off. -/
theorem Coherent.poweredSteps (coherent : Coherent record)
    (on : (peripheralReports turn).contains false = true →
      ∃ powered, turn.event = .peripheralState (.adapterStateChanged powered)) :
    Coherent (record.observe turn { record.task with
      outbox := [], startup := poweredSteps record.task.startup turn.event }) := by
  have same (off : (peripheralReports turn).contains false = false) :
      Coherent (record.observe turn { record.task with outbox := [] }) := by
    obtain ⟨psm, started, unsupported, waiting, settled, advertised, restored, present⟩ := coherent
    constructor
    all_goals
      simp only [StartupRecord.observe, off, Bool.not_false, Bool.and_true, Bool.or_false]
      simpa [listenerAnswers, addedServices, latest, BleRuntimeTask.startupGattService]
  have reset (power : AdapterPowerState) : Coherent (record.observe turn { record.task with
      outbox := [], startup := record.task.startup.peripheralPowerChanged power }) :=
    .peripheralPowerChanged { record.task with outbox := [] } power coherent.psm
      coherent.unsupported coherent.restored
  cases off : (peripheralReports turn).contains false with
  | true =>
      obtain ⟨powered, event⟩ := on off
      rw [event]
      exact reset (AdapterPowerState.ofBool powered)
  | false =>
      have same := same off
      unfold LinkProfile.poweredSteps
      split
      · refine Coherent.congr ?_ ?_ ?_ ?_ ?_ ?_ ?_ same
        all_goals rfl
      · exact reset _
      · exact same

theorem Coherent.step [PeerDirectory δ BlePeerKey DiscoveredPeerHint] (coherent : Coherent record)
    (allowed : StartsFresh record turn) : Coherent (record.step turn) := by
  unfold StartupRecord.step BleRuntimeTask.step
  cases starts : startsUp turn.event with
  | false =>
      refine Coherent.frame (handle_of_not_startsUp starts) (coherent.poweredSteps ?_)
      intro off
      have reported : peripheralEventReport turn.event = some false := by
        simpa [peripheralReports, starts] using off
      exact ⟨false, event_of_peripheralEventReport reported⟩
  | true =>
      rw [handle_of_startsUp starts, BleRuntimeTask.tryStartup]
      apply Coherent.centralStep
      split
      · rename_i powered
        have answered : turn.backend.peripheralIsPowered = .ok true := by
          cases answered : turn.backend.peripheralIsPowered with
          | ok answer => simp_all [Except.toOption]
          | error error => simp [answered, Except.toOption] at powered
        have on : (peripheralReports turn).contains false = false :=
          no_peripheralOff_of_powered starts answered
        obtain ⟨kept, fresh⟩ := allowed starts answered
        have unreported : (peripheralReports turn).contains false = true →
            ∃ powered, turn.event = .peripheralState (.adapterStateChanged powered) := by
          intro off
          rw [on] at off
          cases off
        have found := coherent.poweredSteps unreported
        refine ((found.tryStartL2capListener kept).tryStartGattService ?_).tryStartAdvertising
        rw [gattService_tryStartL2capListener, listenerTried_tryStartL2capListener,
          restoredState_tryStartL2capListener]
        intro tried settled
        have allows := fresh tried (by simpa using settled)
        split at allows
        · rename_i restored
          rw [if_pos (List.contains_iff_mem.mp restored)]
          simp only [StartupRecord.observe, on, Bool.or_false]
          exact allows
        · rename_i unrestored
          rw [if_neg (mt List.contains_iff_mem.mpr unrestored)]
          exact allows
      · apply Coherent.peripheralPowerChanged
        · exact coherent.psm
        · exact fun unsupported => coherent.unsupported (unsupported_of_poweredSteps unsupported)
        · exact coherent.restored

theorem Coherent.launch [PeerDirectory δ BlePeerKey DiscoveredPeerHint] (targetOs : TargetOs)
    (localNodeId : NodeId) (config : BleConfig) (restoredState : BleRestoredState) :
    Coherent (.launch (.launch targetOs localNodeId config restoredState) : StartupRecord δ) := by
  constructor
  case psm => rfl
  case restored => exact fun _ => rfl
  all_goals
    intro step
    cases step

end

/-- Whenever the node advertises, its service is on the radio and shows the PSM of its listener. -/
theorem advertising_service_fresh [PeerDirectory δ BlePeerKey DiscoveredPeerHint]
    {targetOs : TargetOs} {localNodeId : NodeId} {config : BleConfig}
    {restoredState : BleRestoredState} {initial : BleRuntimeTask δ}
    (created : BleRuntimeTask.new targetOs localNodeId config restoredState = .ok initial)
    {turns : List Turn}
    (meets : Execution.Meets StartupRecord.step StartsFresh (.launch initial) turns) :
    ∀ before, before <+: turns →
      (Execution.exec BleRuntimeTask.step initial before).startup.advertising = .started →
      FreshService (Execution.exec StartupRecord.step (.launch initial) before) := by
  intro before initially advertising
  have coherent : Coherent (Execution.exec StartupRecord.step (.launch initial) before) := by
    refine Execution.exec_invariant ?_ ?_ (meets.of_prefix initially)
    · rw [eq_launch_of_new created]
      exact Coherent.launch targetOs localNodeId config restoredState
    · exact fun record turn coherent allowed => coherent.step allowed
  rw [← task_exec] at advertising
  exact coherent.freshService advertising

namespace Scenario

def powerEvent (powered : Bool) (backend : Backend) : Turn :=
  ⟨.peripheralState (.adapterStateChanged powered), backend⟩

def listening (psm : Psm) : Backend := { silent with l2capListener := .ok psm }

def powerCycle : List Turn :=
  [⟨.startup, listening ⟨129⟩⟩, powerEvent false silent, powerEvent true (listening ⟨131⟩)]

end Scenario

open Scenario

theorem advertising_service_fresh_power_cycle :
    (reached .other powerCycle).startup.advertising = .started ∧
      FreshService (Execution.exec StartupRecord.step (.launch (launched .other)) powerCycle) := by
  have advertising : (reached .other powerCycle).startup.advertising = .started := by
    decide +kernel
  refine ⟨advertising, ?_⟩
  exact advertising_service_fresh (new_launched .other) (by decide +kernel) powerCycle
    List.prefix_rfl advertising

/-- The restored identity service still counts as registered after the radio was off: the node
advertises and has not called `add_service`. -/
theorem restored_service_assumed_after_power_off :
    let restoredState : BleRestoredState := ⟨[], [jacquardIdentityServiceUuid]⟩
    let initial : BleRuntimeTask PeerMap := .launch .other (node 1) {} restoredState
    BleRuntimeTask.new .other (node 1) {} restoredState = .ok initial ∧
      RunOf restoredState.centralDevices powerCycle ∧
      (Execution.exec BleRuntimeTask.step initial powerCycle).startup.advertising = .started ∧
      ¬ FreshService (Execution.exec StartupRecord.step (.launch initial) powerCycle) := by
  refine ⟨rfl, runOf_looped powerCycle (by decide), by decide +kernel, ?_⟩
  intro service
  have stale : ∀ record : StartupRecord PeerMap, record.fresh = false → record.poweredOff = true →
      ¬ FreshService record := by
    intro record stale off service
    rcases service.present with fresh | ⟨on, -⟩
    · rw [stale] at fresh
      cases fresh
    · rw [off] at on
      cases on
  exact stale _ (by decide +kernel) (by decide +kernel) service

end JqBle.Proof.LinkProfile
