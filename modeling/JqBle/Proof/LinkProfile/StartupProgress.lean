import JqBle.Proof.LinkProfile.Startup

/-!
# Startup steps that nobody will try again

A step that waits for power is tried again only after a power-on event of its adapter. It is left
behind when `try_startup` takes a failed power query for a power-off, and when it is told that the
adapter is on while the step still waits.
-/

namespace JqBle.Proof.LinkProfile
open Std Host Library JqBle.LinkProfile

variable {δ : Type}

/-- The step is over, the retry timer runs, or the adapter is known to be off. -/
def Attended (retryDue : Bool) (report : Option Bool) (step : StartupStep) : Prop :=
  step = .started ∨ step = .unsupported ∨ retryDue = true ∨
    (step = .waitingForPower ∧ report = some false)

structure NotStalled (record : StartupRecord δ) : Prop where
  l2capListener : Attended record.task.startup.retryDue record.peripheralReport
    record.task.startup.l2capListener
  gattService : Attended record.task.startup.retryDue record.peripheralReport
    record.task.startup.gattService
  advertising : Attended record.task.startup.retryDue record.peripheralReport
    record.task.startup.advertising
  scan : Attended record.task.startup.retryDue record.centralReport record.task.startup.scan

/-- The states at the top of the select loop: all restored devices are handled and `try_startup` has
been called once. -/
def LoopRun (restored : List BleDevice) (turns : List Turn) : Prop :=
  ∃ rehydrated first looped, turns = rehydrated ++ first :: looped ∧
    rehydrated.map Turn.event = restored.map RuntimeEvent.restoredDevice ∧
    first.event = .startup ∧ ∀ turn ∈ looped, ∀ device, turn.event ≠ .restoredDevice device

/-- The answer to `is_powered` fits the steps of the adapter: it is on only if none of them waits, and
it fails only if the adapter is known to be off. -/
def AnswerFits (waits : Bool) (report : Option Bool) : Except BlewError Bool → Prop
  | .ok true => waits = false
  | .ok false => True
  | .error _ => report = some false

instance (waits : Bool) (report : Option Bool) (answer : Except BlewError Bool) :
    Decidable (AnswerFits waits report answer) :=
  match answer with
  | .ok true => inferInstanceAs (Decidable (waits = false))
  | .ok false => inferInstanceAs (Decidable True)
  | .error _ => inferInstanceAs (Decidable (report = some false))

def peripheralWaits (startup : BleStartupState) : Bool :=
  [startup.l2capListener, startup.gattService, startup.advertising].contains .waitingForPower

def AnswersFit (record : StartupRecord δ) (turn : Turn) : Prop :=
  startsUp turn.event = true →
    AnswerFits (peripheralWaits (poweredSteps record.task.startup turn.event))
      ((peripheralEventReport turn.event).or record.peripheralReport)
      turn.backend.peripheralIsPowered ∧
    AnswerFits ((poweredSteps record.task.startup turn.event).scan = .waitingForPower)
      ((centralEventReport turn.event).or record.centralReport) turn.backend.centralIsPowered

instance (record : StartupRecord δ) (turn : Turn) : Decidable (AnswersFit record turn) :=
  inferInstanceAs (Decidable (_ → _ ∧ _))

/-! ## The steps of one adapter -/

/-- What holds of the peripheral steps between two turns of the loop: a step that is not tried waits
for power that is off, or for a step before it that will be retried. -/
structure PeripheralAttended (startup : BleStartupState) (report : Option Bool) : Prop where
  waiting : peripheralWaits startup = true → report = some false
  listener : startup.l2capListener ≠ .pending
  gatt : startup.gattService = .pending ∨ startup.gattService = .unsupported →
    startup.l2capListener = .retry
  advertising : startup.advertising = .pending →
    startup.gattService = .retry ∨ startup.l2capListener = .retry

structure CentralAttended (startup : BleStartupState) (report : Option Bool) : Prop where
  waiting : startup.scan = .waitingForPower → report = some false
  scan : startup.scan ≠ .pending

theorem fromStartResult_cases (answer : Except BlewError Unit) :
    StartupStep.fromStartResult answer = .started ∨ StartupStep.fromStartResult answer = .retry := by
  unfold StartupStep.fromStartResult
  split
  · exact Or.inl rfl
  · exact Or.inl rfl
  · exact Or.inr rfl

theorem listenerStep_cases (answer : Except BlewError Psm) :
    listenerStep answer = .started ∨ listenerStep answer = .unsupported ∨
      listenerStep answer = .retry := by
  unfold listenerStep
  split
  · exact Or.inl rfl
  · exact Or.inr (Or.inl rfl)
  · exact Or.inr (Or.inr rfl)

theorem PeripheralAttended.poweredOff (startup : BleStartupState) :
    PeripheralAttended (startup.peripheralPowerChanged .poweredOff) (some false) := by
  constructor
  case waiting => exact fun _ => rfl
  case listener =>
    simp only [BleStartupState.peripheralPowerChanged]
    split
    · decide
    · simp_all
  case gatt => simp [BleStartupState.peripheralPowerChanged, AdapterPowerState.nextStep]
  case advertising => simp [BleStartupState.peripheralPowerChanged, AdapterPowerState.nextStep]

theorem CentralAttended.poweredOff (startup : BleStartupState) :
    CentralAttended (startup.centralPowerChanged .poweredOff) (some false) := by
  refine ⟨fun _ => rfl, ?_⟩
  simp [BleStartupState.centralPowerChanged, AdapterPowerState.nextStep]

theorem listener_tried (task : BleRuntimeTask δ) (backend : Backend)
    (unwaiting : task.startup.l2capListener ≠ .waitingForPower) :
    let tried := task.tryStartL2capListener backend
    (tried.startup.l2capListener = .started ∨ tried.startup.l2capListener = .unsupported ∨
        tried.startup.l2capListener = .retry) ∧
      tried.startup.gattService = task.startup.gattService ∧
      tried.startup.advertising = task.startup.advertising := by
  dsimp only
  rw [tryStartL2capListener_eq]
  split
  · exact ⟨listenerStep_cases _, rfl, rfl⟩
  · rename_i untried
    refine ⟨?_, rfl, rfl⟩
    cases step : task.startup.l2capListener <;> simp_all [listenerTried]

theorem gattService_tried (task : BleRuntimeTask δ) (backend : Backend)
    (unwaiting : task.startup.gattService ≠ .waitingForPower)
    (settled : task.startup.l2capListener ≠ .pending) :
    let tried := task.tryStartGattService backend
    (tried.startup.gattService = .started ∨ tried.startup.gattService = .retry ∨
        tried.startup.l2capListener = .retry) ∧
      tried.startup.gattService ≠ .waitingForPower ∧
      tried.startup.l2capListener = task.startup.l2capListener ∧
      tried.startup.advertising = task.startup.advertising := by
  dsimp only
  rw [tryStartGattService_eq]
  split
  · split
    · exact ⟨Or.inl rfl, by simp, rfl, rfl⟩
    · rcases fromStartResult_cases backend.addService with step | step
      · exact ⟨Or.inl step, by simp [step], rfl, rfl⟩
      · exact ⟨Or.inr (Or.inl step), by simp [step], rfl, rfl⟩
  · rename_i untried
    refine ⟨?_, unwaiting, rfl, rfl⟩
    cases tried : listenerTried task.startup with
    | true => simp_all [listenerTried]
    | false => simp_all [due]

theorem advertising_tried (task : BleRuntimeTask δ) (backend : Backend)
    (unwaiting : task.startup.advertising ≠ .waitingForPower) :
    let tried := task.tryStartAdvertising backend
    (tried.startup.advertising = .started ∨ tried.startup.advertising = .retry ∨
        tried.startup.gattService ≠ .started) ∧
      tried.startup.advertising ≠ .waitingForPower ∧
      tried.startup.l2capListener = task.startup.l2capListener ∧
      tried.startup.gattService = task.startup.gattService := by
  dsimp only
  rw [tryStartAdvertising_eq]
  split
  · rcases fromStartResult_cases backend.startAdvertising with step | step
    · exact ⟨Or.inl step, by simp [step], rfl, rfl⟩
    · exact ⟨Or.inr (Or.inl step), by simp [step], rfl, rfl⟩
  · rename_i untried
    refine ⟨?_, unwaiting, rfl, rfl⟩
    by_cases started : task.startup.advertising = .started
    · exact Or.inl started
    · exact Or.inr (Or.inr (by simp_all [due]))

/-- A call of `try_startup` under power, with no step waiting, leaves every step of the peripheral
over or behind one that will be retried. -/
theorem PeripheralAttended.tried (task : BleRuntimeTask δ) (backend : Backend) (report : Option Bool)
    (unwaiting : peripheralWaits task.startup = false) :
    PeripheralAttended (((task.tryStartL2capListener backend).tryStartGattService
      backend).tryStartAdvertising backend).startup report := by
  obtain ⟨listenerOn, gattOn, advertisingOn⟩ : task.startup.l2capListener ≠ .waitingForPower ∧
      task.startup.gattService ≠ .waitingForPower ∧
      task.startup.advertising ≠ .waitingForPower := by
    refine ⟨?_, ?_, ?_⟩
    all_goals
      intro waits
      simp [peripheralWaits, waits] at unwaiting
  obtain ⟨listener, gattKept, advertisingKept⟩ := listener_tried task backend listenerOn
  obtain ⟨gatt, gattOn, listenerKept, advertisingKept'⟩ :=
    gattService_tried (task.tryStartL2capListener backend) backend (gattKept ▸ gattOn)
      (by rcases listener with step | step | step <;> simp [step])
  obtain ⟨advertising, advertisingOn, listenerKept', gattKept'⟩ :=
    advertising_tried ((task.tryStartL2capListener backend).tryStartGattService backend) backend
      (by rw [advertisingKept', advertisingKept]; exact advertisingOn)
  rw [← listenerKept] at listener
  rw [← listenerKept'] at listener gatt
  rw [← gattKept'] at gatt gattOn
  generalize (((task.tryStartL2capListener backend).tryStartGattService
    backend).tryStartAdvertising backend).startup = startup at *
  have listenerOn : startup.l2capListener ≠ .waitingForPower := by
    rcases listener with step | step | step <;> simp [step]
  constructor
  case waiting => simp [peripheralWaits, gattOn.symm, advertisingOn.symm, listenerOn.symm]
  case listener => rcases listener with step | step | step <;> simp [step]
  case gatt =>
    rcases gatt with step | step | step
    · simp [step]
    · simp [step]
    · exact fun _ => step
  case advertising =>
    intro pending
    rcases gatt with step | step | step
    · simp_all
    · exact Or.inl step
    · exact Or.inr step

theorem CentralAttended.tried (task : BleRuntimeTask δ) (backend : Backend) (report : Option Bool)
    (unwaiting : task.startup.scan ≠ .waitingForPower) :
    CentralAttended (task.tryStartScan backend).startup report := by
  rw [tryStartScan_eq]
  split
  · rcases fromStartResult_cases backend.startScan with step | step
    · exact ⟨by simp [step], by simp [step]⟩
    · exact ⟨by simp [step], by simp [step]⟩
  · rename_i untried
    refine ⟨fun waits => absurd waits unwaiting, ?_⟩
    intro pending
    simp [due, pending] at untried

/-! ## Turns -/

theorem retryDue_of_retry {startup : BleStartupState} {step : StartupStep}
    (listed : step ∈ [startup.l2capListener, startup.gattService, startup.advertising, startup.scan])
    (retries : step = .retry) : startup.retryDue = true := by
  subst retries
  simpa [BleStartupState.retryDue] using listed

theorem attended_of_listed {startup : BleStartupState} {report : Option Bool} {step : StartupStep}
    (listed : step ∈ [startup.l2capListener, startup.gattService, startup.advertising, startup.scan])
    (waiting : step = .waitingForPower → report = some false)
    (pending : step = .pending → startup.retryDue = true) :
    Attended startup.retryDue report step := by
  cases step with
  | pending => exact Or.inr (Or.inr (Or.inl (pending rfl)))
  | waitingForPower => exact Or.inr (Or.inr (Or.inr ⟨rfl, waiting rfl⟩))
  | retry => exact Or.inr (Or.inr (Or.inl (retryDue_of_retry listed rfl)))
  | started => exact Or.inl rfl
  | unsupported => exact Or.inr (Or.inl rfl)

structure LoopAttended (record : StartupRecord δ) : Prop where
  peripheral : PeripheralAttended record.task.startup record.peripheralReport
  central : CentralAttended record.task.startup record.centralReport

theorem LoopAttended.notStalled {record : StartupRecord δ} (attended : LoopAttended record) :
    NotStalled record := by
  obtain ⟨⟨waiting, listener, gatt, advertising⟩, ⟨scanWaiting, scan⟩⟩ := attended
  constructor
  case l2capListener =>
    apply attended_of_listed (by simp)
    · exact fun waits => waiting (by simp [peripheralWaits, waits])
    · exact fun pending => absurd pending listener
  case gattService =>
    apply attended_of_listed (by simp)
    · exact fun waits => waiting (by simp [peripheralWaits, waits])
    · exact fun pending => retryDue_of_retry (by simp) (gatt (Or.inl pending))
  case advertising =>
    apply attended_of_listed (by simp)
    · exact fun waits => waiting (by simp [peripheralWaits, waits])
    · intro pending
      rcases advertising pending with retry | retry
      · exact retryDue_of_retry (by simp) retry
      · exact retryDue_of_retry (by simp) retry
  case scan =>
    apply attended_of_listed (by simp)
    · exact scanWaiting
    · exact fun pending => absurd pending scan

/-! ## Turns -/

theorem latest_reports (event answer known : Option Bool) (starts : Bool) :
    latest (event.toList ++ if starts then answer.toList else []) known =
      (if starts then answer else none).or (event.or known) := by
  cases starts <;> cases event <;> cases answer <;> rfl

theorem scan_peripheralStep (task : BleRuntimeTask δ) (backend : Backend) :
    (((task.tryStartL2capListener backend).tryStartGattService backend).tryStartAdvertising
      backend).startup.scan = task.startup.scan := by
  rw [tryStartAdvertising_eq, tryStartGattService_eq, tryStartL2capListener_eq]
  split_ifs <;> rfl

theorem PeripheralAttended.withScan {startup : BleStartupState} {report : Option Bool}
    (attended : PeripheralAttended startup report) (scan : StartupStep) :
    PeripheralAttended { startup with scan := scan } report :=
  ⟨attended.waiting, attended.listener, attended.gatt, attended.advertising⟩

theorem tryStartup_attended (task : BleRuntimeTask δ) (backend : Backend)
    (peripheralReport centralReport : Option Bool)
    (peripheral : AnswerFits (peripheralWaits task.startup) peripheralReport
      backend.peripheralIsPowered)
    (central : AnswerFits (task.startup.scan = .waitingForPower) centralReport
      backend.centralIsPowered) :
    PeripheralAttended (task.tryStartup backend).startup
        (backend.peripheralIsPowered.toOption.or peripheralReport) ∧
      CentralAttended (task.tryStartup backend).startup
        (backend.centralIsPowered.toOption.or centralReport) := by
  unfold BleRuntimeTask.tryStartup
  dsimp only
  have half : PeripheralAttended (if backend.peripheralIsPowered.toOption.getD false then
      ((task.tryStartL2capListener backend).tryStartGattService backend).tryStartAdvertising backend
      else { task with startup := task.startup.peripheralPowerChanged .poweredOff }).startup
      (backend.peripheralIsPowered.toOption.or peripheralReport) := by
    cases answered : backend.peripheralIsPowered with
    | error error =>
        rw [answered] at peripheral
        obtain rfl : peripheralReport = some false := peripheral
        exact .poweredOff task.startup
    | ok powered =>
        rw [answered] at peripheral
        cases powered with
        | false => exact .poweredOff task.startup
        | true => exact .tried task backend _ peripheral
  have scan : (if backend.peripheralIsPowered.toOption.getD false then
      ((task.tryStartL2capListener backend).tryStartGattService backend).tryStartAdvertising backend
      else { task with startup := task.startup.peripheralPowerChanged .poweredOff }).startup.scan =
      task.startup.scan := by
    split
    · exact scan_peripheralStep task backend
    · rfl
  generalize (if backend.peripheralIsPowered.toOption.getD false then
      ((task.tryStartL2capListener backend).tryStartGattService backend).tryStartAdvertising backend
      else { task with startup := task.startup.peripheralPowerChanged .poweredOff }) = tried at *
  constructor
  · split
    · rw [tryStartScan_eq]
      split
      · exact half.withScan _
      · exact half
    · exact half.withScan _
  · cases answered : backend.centralIsPowered with
    | error error =>
        rw [answered] at central
        obtain rfl : centralReport = some false := central
        exact .poweredOff tried.startup
    | ok powered =>
        rw [answered] at central
        cases powered with
        | false => exact .poweredOff tried.startup
        | true =>
            apply CentralAttended.tried
            rw [scan]
            simpa [AnswerFits] using central

section
variable [PeerDirectory δ BlePeerKey DiscoveredPeerHint] {record : StartupRecord δ} {turn : Turn}

theorem step_peripheralReport (record : StartupRecord δ) (turn : Turn) :
    (record.step turn).peripheralReport =
      (if startsUp turn.event then turn.backend.peripheralIsPowered.toOption else none).or
        ((peripheralEventReport turn.event).or record.peripheralReport) :=
  latest_reports ..

theorem step_centralReport (record : StartupRecord δ) (turn : Turn) :
    (record.step turn).centralReport =
      (if startsUp turn.event then turn.backend.centralIsPowered.toOption else none).or
        ((centralEventReport turn.event).or record.centralReport) :=
  latest_reports ..

theorem LoopAttended.of_startsUp (starts : startsUp turn.event = true)
    (fits : AnswersFit record turn) : LoopAttended (record.step turn) := by
  obtain ⟨peripheral, central⟩ := fits starts
  have attended := tryStartup_attended
    { record.task with outbox := [], startup := poweredSteps record.task.startup turn.event }
    turn.backend _ _ peripheral central
  have task : (record.step turn).task = BleRuntimeTask.tryStartup { record.task with
      outbox := [], startup := poweredSteps record.task.startup turn.event } turn.backend :=
    handle_of_startsUp starts
  constructor
  · rw [step_peripheralReport, if_pos starts, task]
    exact attended.1
  · rw [step_centralReport, if_pos starts, task]
    exact attended.2

theorem powerEvent_cases (event : RuntimeEvent) :
    (∃ powered, event = .central (.adapterStateChanged powered)) ∨
      (∃ powered, event = .peripheralState (.adapterStateChanged powered)) ∨
      ((∀ startup, poweredSteps startup event = startup) ∧ peripheralEventReport event = none ∧
        centralEventReport event = none) := by
  cases event with
  | central event =>
      cases event with
      | adapterStateChanged powered => exact Or.inl ⟨powered, rfl⟩
      | _ => exact Or.inr (Or.inr ⟨fun _ => rfl, rfl, rfl⟩)
  | peripheralState event =>
      cases event with
      | adapterStateChanged powered => exact Or.inr (Or.inl ⟨powered, rfl⟩)
      | _ => exact Or.inr (Or.inr ⟨fun _ => rfl, rfl, rfl⟩)
  | _ => exact Or.inr (Or.inr ⟨fun _ => rfl, rfl, rfl⟩)

theorem LoopAttended.of_not_startsUp (starts : startsUp turn.event = false)
    (attended : LoopAttended record) : LoopAttended (record.step turn) := by
  have startup : (record.step turn).task.startup = poweredSteps record.task.startup turn.event :=
    (handle_of_not_startsUp starts).startup
  obtain ⟨peripheral, central⟩ := attended
  constructor
  · rw [startup, step_peripheralReport, starts]
    rcases powerEvent_cases turn.event with ⟨powered, event⟩ | ⟨powered, event⟩ | ⟨steps, silent, -⟩
    · rw [event]
      exact peripheral.withScan _
    · rw [event] at starts ⊢
      cases powered with
      | true => cases starts
      | false => exact .poweredOff _
    · rw [steps, silent]
      exact peripheral
  · rw [startup, step_centralReport, starts]
    rcases powerEvent_cases turn.event with ⟨powered, event⟩ | ⟨powered, event⟩ | ⟨steps, -, silent⟩
    · rw [event] at starts ⊢
      cases powered with
      | true => cases starts
      | false => exact .poweredOff _
    · rw [event]
      exact ⟨central.waiting, central.scan⟩
    · rw [steps, silent]
      exact central

theorem LoopAttended.step (attended : LoopAttended record) (fits : AnswersFit record turn) :
    LoopAttended (record.step turn) := by
  cases starts : startsUp turn.event with
  | true => exact .of_startsUp starts fits
  | false => exact .of_not_startsUp starts attended

end

/-- At the top of the select loop every startup step is over, will be retried, or waits for an adapter
that is off. -/
theorem startup_not_stalled [PeerDirectory δ BlePeerKey DiscoveredPeerHint]
    {initial : BleRuntimeTask δ} {turns : List Turn}
    (meets : Execution.Meets StartupRecord.step AnswersFit (.launch initial) turns) :
    ∀ before, before <+: turns → LoopRun initial.restoredState.centralDevices before →
      NotStalled (Execution.exec StartupRecord.step (.launch initial) before) := by
  intro before initially loops
  obtain ⟨rehydrated, first, looped, rfl, -, event, -⟩ := loops
  obtain ⟨-, fits, meets⟩ := Execution.meets_append.mp (meets.of_prefix initially)
  rw [Execution.exec_append, Execution.exec_cons]
  apply LoopAttended.notStalled
  apply Execution.exec_invariant ?_ ?_ meets
  · exact .of_startsUp (by rw [event]; rfl) fits
  · exact fun record turn attended fits => attended.step fits

namespace Scenario

def unreadable : Backend :=
  { silent with peripheralIsPowered := .error (.other 0), centralIsPowered := .error (.other 0) }

def unpowered : Backend :=
  { silent with peripheralIsPowered := .ok false, centralIsPowered := .ok false }

def lateStart : List Turn :=
  [⟨.startup, unpowered⟩,
    ⟨.peripheralState (.adapterStateChanged true), { silent with centralIsPowered := .ok false }⟩,
    ⟨.central (.adapterStateChanged true), { silent with addService := .error (.other 0) }⟩]

end Scenario

open Scenario

theorem loopRun_lateStart : LoopRun [] lateStart := by
  refine ⟨[], _, _, rfl, rfl, rfl, ?_⟩
  intro turn member device event
  rcases List.mem_pair.mp member with rfl | rfl
  · cases event
  · cases event

theorem startup_not_stalled_late_start :
    NotStalled (Execution.exec StartupRecord.step (.launch (launched .other)) lateStart) :=
  startup_not_stalled (by decide +kernel) lateStart List.prefix_rfl
    loopRun_lateStart

/-- A failed power query at launch: every step waits for power, no adapter was reported off, and no
retry is due. -/
theorem startup_stalls_after_failed_query :
    BleRuntimeTask.new .other (node 1) {} {} = .ok (launched .other) ∧
      LoopRun [] [⟨.startup, unreadable⟩] ∧
      ¬ NotStalled (Execution.exec StartupRecord.step (.launch (launched .other))
        [⟨.startup, unreadable⟩]) := by
  refine ⟨rfl, ⟨[], _, [], rfl, rfl, rfl, by simp⟩, ?_⟩
  intro attended
  rcases attended.scan with started | unsupported | retried | ⟨-, off⟩
  · cases started
  · cases unsupported
  · cases retried
  · cases off

end JqBle.Proof.LinkProfile
