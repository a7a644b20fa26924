/-
  MariadbCtrl.Execute — `MariaDBStartManager.Execute` (part_000, lines 62-171) as a
  decision and a boot.

  `Execute` checks for an upgrade, then picks one of `joinCluster`, `bootstrapCluster` and
  `node0JoinCluster`. All three are one procedure, `boot`, under a `Plan`: start mysqld
  (in the mode `bootstrapNode` picks when the plan probes the cluster, else
  `JOIN_COMMAND`), seed when the plan seeds, then log and write the plan's state; the
  first error ends the boot (`joinCluster_eq`, `bootstrapCluster_eq`,
  `node0JoinCluster_eq`). `plan` is the decision of lines 76-109, read off the
  collaborators' answers: once the upgrade check has passed, a run of `Execute` is the calls
  `asked` to decide, then `boot plan` (`execute_eq`).

  Proved, for every configuration and every collaborator outcome:
  - `boot_cases`: a boot fails at the start, or at the seeding, or writes the state last.
  - `execute_starts`, `execute_probes`: the start and `AnyNodesReachable` calls of a run.
  - `execute_bootstrap_only_node0`: a run starts mysqld at most once, only after the upgrade
    check passed, and in `BOOTSTRAP_COMMAND` exactly when node 0 finds no peer and its
    state calls for a bootstrap; of nodes with distinct job indices at most one bootstraps.
  - `execute_writes`: a run writes the state file once, as its last call, exactly when it
    returns nil.
  - `execute_error_leaves_node_as_found`: a run that returns an error never writes the
    state file and stops mysqld after a start without error; one that returns nil never
    stops it.
-/

import Mathlib.Data.List.Basic
import MariadbCtrl.Seeding

namespace MariadbCtrl

open Go

/-- What `Execute` hands a boot over to once the upgrade check has passed: whether the
start mode is left to `bootstrapNode` (`probe`), whether the databases are seeded, and the
line logged before the state `state` is written. -/
structure Plan where
  probe : Bool
  seed : Bool
  note : String
  state : String
  deriving DecidableEq, Repr

namespace Plan

def joinCluster : Plan := ⟨false, false, "updating file with contents: '" ++ CLUSTERED ++ "'", CLUSTERED⟩

def bootstrapCluster (state : String) : Plan :=
  ⟨true, true, "writing file with contents: '" ++ state ++ "'", state⟩

def node0JoinCluster : Plan := ⟨false, true, "updating file with contents: '" ++ CLUSTERED ++ "'", CLUSTERED⟩

end Plan

namespace MariaDBStartManager

variable (m : MariaDBStartManager)

/-- Log `note`, then write `state` to the state file, discarding the error. -/
def persist (note state : String) : Go Unit := do
  log note
  let _ ← m.osHelper.writeStringToFile m.stateFileLocation state
  pure ()

/-- Start mysqld, seed, persist; the first error ends the boot. -/
def boot (p : Plan) : Go (Option GoError) := do
  let err ← if p.probe then m.bootstrapNode else m.mariaDBHelper.startMysqldInMode JOIN_COMMAND
  match err with
  | some _ => pure err
  | none =>
    let err ← if p.seed then m.seedDatabases else pure none
    match err with
    | some _ => pure err
    | none =>
      m.persist p.note p.state
      pure none

@[simp] theorem persist_eq (note state : String) :
    m.persist note state =
      ⟨[.log note, .writeStringToFile m.stateFileLocation state m.osHelper.fileWritten], .returned ()⟩ := rfl

theorem joinCluster_eq : m.joinCluster = m.boot .joinCluster := rfl

theorem node0JoinCluster_eq : m.node0JoinCluster = m.boot .node0JoinCluster := rfl

theorem bootstrapCluster_eq (state : String) : m.bootstrapCluster state = m.boot (.bootstrapCluster state) :=
  rfl

/-! ## What a boot does -/

/-- The mode `boot` starts mysqld in: `bootstrapNode`'s choice when the plan probes. -/
def command (p : Plan) : String :=
  if p.probe then (if m.clusterReachabilityChecker.reachable then JOIN_COMMAND else BOOTSTRAP_COMMAND)
  else JOIN_COMMAND

/-- The `AnyNodesReachable` call of a boot, when the plan probes. -/
def probeCalls (p : Plan) : List Call :=
  if p.probe then [.anyNodesReachable m.clusterReachabilityChecker.reachable] else []

/-- The seeding of a boot: `seedDatabases` when the plan seeds. -/
def seeding (p : Plan) : Go (Option GoError) := if p.seed then m.seedDatabases else pure none

/-- A boot is its start (`bootstrapNode` when the plan probes), then the seeding and the
write. -/
theorem boot_eq (p : Plan) : m.boot p =
    (⟨m.probeCalls p ++ [.startMysqldInMode (m.command p) m.mariaDBHelper.started],
      .returned m.mariaDBHelper.started⟩ : Go (Option GoError)) >>= fun err => match err with
    | some _ => pure err
    | none => m.seeding p >>= fun err => match err with
      | some _ => pure err
      | none => m.persist p.note p.state >>= fun _ => pure none := by
  rcases p with ⟨_ | _, _ | _, note, state⟩ <;> rfl

/-- A boot fails at the start; or starts mysqld and ends with the seeding's error or panic;
or starts it, seeds, and writes the plan's state as its last call. -/
theorem boot_cases (p : Plan) :
    (∃ e, m.mariaDBHelper.started = some e ∧
      m.boot p = ⟨m.probeCalls p ++ [.startMysqldInMode (m.command p) (some e)], .returned (some e)⟩) ∨
    (m.mariaDBHelper.started = none ∧ (m.seeding p).result ≠ .returned none ∧
      m.boot p = ⟨m.probeCalls p ++ [.startMysqldInMode (m.command p) none] ++ (m.seeding p).calls,
        (m.seeding p).result⟩) ∨
    (m.mariaDBHelper.started = none ∧ (m.seeding p).result = .returned none ∧
      m.boot p = ⟨m.probeCalls p ++ [.startMysqldInMode (m.command p) none] ++ (m.seeding p).calls ++
        [.log p.note, .writeStringToFile m.stateFileLocation p.state m.osHelper.fileWritten],
        .returned none⟩) := by
  rw [boot_eq]
  rcases m.mariaDBHelper.started with _ | e
  · rcases m.seeding p with ⟨cs, (_ | e) | q⟩ <;> simp
  · simp

/-! ## The decision -/

/-- `NeedsUpgrade` answered without error and, when it asked for an upgrade, `Upgrade`
returned nil. -/
def upgradeOk : Prop :=
  m.upgrader.upgradeNeeded.2 = none ∧ (m.upgrader.upgradeNeeded.1 = true → m.upgrader.upgraded = none)

/-- The calls of the upgrade check. -/
def upgradeCalls : List Call :=
  .needsUpgrade m.upgrader.upgradeNeeded.1 m.upgrader.upgradeNeeded.2 ::
    if m.upgrader.upgradeNeeded.2 = none ∧ m.upgrader.upgradeNeeded.1 = true then
      [.upgrade m.upgrader.upgraded] else []

/-- The boot `Execute` hands over to once the upgrade check has passed (lines 76-109). -/
def plan : Plan :=
  if m.jobIndex ≠ 0 then .joinCluster
  else if m.numberOfNodes = 1 then .bootstrapCluster SINGLE_NODE
  else if !m.osHelper.fileFound then .bootstrapCluster CLUSTERED
  else if m.osHelper.fileRead.1 = SINGLE_NODE then .bootstrapCluster CLUSTERED
  else .node0JoinCluster

/-- The calls `Execute` makes to pick the boot. -/
def asked : List Call :=
  if m.jobIndex ≠ 0 then []
  else if m.numberOfNodes = 1 then [.log "Single node deploy"]
  else if !m.osHelper.fileFound then
    [.fileExists m.stateFileLocation false,
     .log ("state file does not exist, creating with contents: '" ++ CLUSTERED ++ "'")]
  else
    [.fileExists m.stateFileLocation true,
     .readFile m.stateFileLocation m.osHelper.fileRead.1 m.osHelper.fileRead.2,
     .log ("state file exists and contains: '" ++ m.osHelper.fileRead.1 ++ "'")]

/-- Once the upgrade check has passed, `Execute` asks what it needs and runs `boot plan`. -/
theorem execute_eq (h : m.upgradeOk) :
    m.execute = ⟨m.upgradeCalls ++ m.asked ++ (m.boot m.plan).calls, (m.boot m.plan).result⟩ := by
  obtain ⟨h1, h2⟩ := h
  rcases hu : m.upgrader.upgradeNeeded with ⟨_ | _, err⟩ <;> simp only [hu] at h1 h2 <;> subst h1
  all_goals
    simp only [execute, upgradeCalls, Upgrader.needsUpgrade, Upgrader.upgrade, hu, call_bind, h2]
    by_cases hj : m.jobIndex = 0
    · by_cases hn : m.numberOfNodes = 1
      · simp [plan, asked, bootstrapCluster_eq, log, hj, hn]
      · cases hf : m.osHelper.fileFound
        · simp [plan, asked, bootstrapCluster_eq, OsHelper.fileExists, log, hj, hn, hf]
        · by_cases hs : m.osHelper.fileRead.1 = SINGLE_NODE <;>
            simp [plan, asked, bootstrapCluster_eq, node0JoinCluster_eq, OsHelper.fileExists,
              OsHelper.readFile, log, hj, hn, hf, hs]
    · simp [plan, asked, joinCluster_eq, hj]

/-- A failed upgrade check ends the run with its error, after a log line. -/
theorem execute_of_not_upgradeOk (h : ¬ m.upgradeOk) : ∃ msg,
    m.execute = ⟨m.upgradeCalls ++ [.log msg], .returned (m.upgrader.upgradeNeeded.2.or m.upgrader.upgraded)⟩ := by
  rcases hu : m.upgrader.upgradeNeeded with ⟨needed, _ | e⟩
  · obtain ⟨rfl, hg⟩ : needed = true ∧ m.upgrader.upgraded ≠ none := by simpa [upgradeOk, hu] using h
    obtain ⟨e, he⟩ := Option.ne_none_iff_exists'.mp hg
    refine ⟨"Failed to upgrade with error: " ++ e.message, ?_⟩
    simp only [execute, upgradeCalls, Upgrader.needsUpgrade, Upgrader.upgrade, log, hu, he, call_bind]
    simp
  · refine ⟨"Failed to determine upgrade status with error: " ++ e.message, ?_⟩
    simp only [execute, upgradeCalls, Upgrader.needsUpgrade, log, hu, call_bind]
    simp

instance : Decidable m.upgradeOk := inferInstanceAs (Decidable (_ ∧ _))

/-! ## Calls by kind -/

theorem seeding_calls (p : Plan) : ∀ c ∈ (m.seeding p).calls, c.isSeeding := by
  unfold seeding; split
  · exact m.seedDatabases_calls
  · simp

theorem seeding_cases (p : Plan) :
    ((m.seeding p).result = .returned none ∧ ∀ c ∈ (m.seeding p).calls, c.isStop = false) ∨
    (∃ e pre, (m.seeding p).result = .returned (some e) ∧
      (m.seeding p).calls = pre ++ [.stopStandaloneMysql] ∧ ∀ c ∈ pre, c.isStop = false) ∨
    ((m.seeding p).result = .panicked .nilDereference ∧ ∀ c ∈ (m.seeding p).calls, c.isStop = false) := by
  unfold seeding; split
  · exact m.seedDatabases_cases
  · simp

/-- A kind of call the seeding never makes shows, in a boot, only its start, its probe and
its write. -/
theorem boot_filter {P : Call → Bool} (hP : ∀ c, c.isSeeding → P c = false) (p : Plan) :
    (m.boot p).calls.filter P =
      (m.probeCalls p ++ [Call.startMysqldInMode (m.command p) m.mariaDBHelper.started]).filter P ++
      if (m.boot p).result = .returned none then
        [.log p.note, .writeStringToFile m.stateFileLocation p.state m.osHelper.fileWritten].filter P
      else [] := by
  have hs : (m.seeding p).calls.filter P = [] :=
    List.filter_eq_nil_iff.mpr fun c hc => by simp [hP c (m.seeding_calls p c hc)]
  rcases m.boot_cases p with ⟨e, he, hb⟩ | ⟨h0, hr, hb⟩ | ⟨h0, hr, hb⟩ <;> rw [hb]
  · simp [he]
  · simp only [List.filter_append, hs, h0, hr]; simp
  · simp only [List.filter_append, hs, h0]; simp

theorem upgradeCalls_isAsk : ∀ c ∈ m.upgradeCalls, c.isAsk :=
  List.all_eq_true.mp (by unfold upgradeCalls; split_ifs <;> rfl)

theorem asked_isAsk : ∀ c ∈ m.asked, c.isAsk := List.all_eq_true.mp (by unfold asked; split_ifs <;> rfl)

theorem probeCalls_isProbe (p : Plan) : ∀ c ∈ m.probeCalls p, c.isProbe := by
  unfold probeCalls; split <;> simp [Call.isProbe]

/-- A kind of call `Execute` never makes while asking shows only in the boot it hands over to. -/
theorem execute_filter {P : Call → Bool} (hP : ∀ c, c.isAsk → P c = false) :
    m.execute.calls.filter P = if m.upgradeOk then (m.boot m.plan).calls.filter P else [] := by
  have hu : m.upgradeCalls.filter P = [] :=
    List.filter_eq_nil_iff.mpr fun c hc => by simp [hP c (m.upgradeCalls_isAsk c hc)]
  by_cases h : m.upgradeOk
  · have ha : m.asked.filter P = [] :=
      List.filter_eq_nil_iff.mpr fun c hc => by simp [hP c (m.asked_isAsk c hc)]
    rw [execute_eq m h]
    simp [List.filter_append, hu, ha, h]
  · obtain ⟨msg, he⟩ := m.execute_of_not_upgradeOk h
    rw [he]
    simp [List.filter_append, hu, h, hP (.log msg) rfl]

/-! ## Starts, probes and writes -/

theorem plan_probe : m.plan.probe = true ↔ m.jobIndex = 0 ∧
    (m.numberOfNodes = 1 ∨ m.osHelper.fileFound = false ∨ m.osHelper.fileRead.1 = SINGLE_NODE) := by
  unfold plan
  by_cases hj : m.jobIndex = 0 <;> by_cases hn : m.numberOfNodes = 1 <;> cases hf : m.osHelper.fileFound <;>
    by_cases hs : m.osHelper.fileRead.1 = SINGLE_NODE <;>
    simp [hj, hn, hf, hs, Plan.joinCluster, Plan.bootstrapCluster, Plan.node0JoinCluster]

/-- The state a boot writes: `SINGLE_NODE` for node 0 of a one-node deployment, `CLUSTERED`
otherwise. -/
theorem plan_state :
    m.plan.state = if m.jobIndex = 0 ∧ m.numberOfNodes = 1 then SINGLE_NODE else CLUSTERED := by
  unfold plan
  by_cases hj : m.jobIndex = 0 <;> by_cases hn : m.numberOfNodes = 1 <;>
    simp [hj, hn, Plan.joinCluster, Plan.bootstrapCluster, Plan.node0JoinCluster]
  repeat' split
  all_goals rfl

theorem command_eq_bootstrap (p : Plan) :
    m.command p = BOOTSTRAP_COMMAND ↔ p.probe = true ∧ m.clusterReachabilityChecker.reachable = false := by
  have : JOIN_COMMAND ≠ BOOTSTRAP_COMMAND := by decide
  unfold command
  cases p.probe <;> cases m.clusterReachabilityChecker.reachable <;> simp [this]

theorem execute_starts : m.execute.calls.filter Call.isStart =
    if m.upgradeOk then [.startMysqldInMode (m.command m.plan) m.mariaDBHelper.started] else [] := by
  rw [m.execute_filter fun c h => (c.kinds_exclusive.1 h).1]
  split
  · rw [m.boot_filter (fun c h => (c.kinds_exclusive.2.2 h).1) m.plan]
    unfold probeCalls
    split <;> split <;> simp [Call.isStart]
  · rfl

theorem execute_probes : m.execute.calls.filter Call.isProbe =
    if m.upgradeOk then m.probeCalls m.plan else [] := by
  rw [m.execute_filter fun c h => (c.kinds_exclusive.1 h).2.1]
  split
  · rw [m.boot_filter (fun c h => (c.kinds_exclusive.2.2 h).2.1) m.plan]
    unfold probeCalls
    split <;> split <;> simp [Call.isProbe]
  · rfl

/-- A failed upgrade check returns an error. -/
theorem execute_result_of_not_upgradeOk (h : ¬ m.upgradeOk) : ∃ e, m.execute.result = .returned (some e) := by
  obtain ⟨msg, he⟩ := m.execute_of_not_upgradeOk h
  rw [he]
  rcases hu : m.upgrader.upgradeNeeded with ⟨needed, _ | e⟩
  · obtain ⟨e, he⟩ := Option.ne_none_iff_exists'.mp (by simp_all [upgradeOk] : m.upgrader.upgraded ≠ none)
    exact ⟨e, by simp [he]⟩
  · exact ⟨e, rfl⟩

/-- A run writes the state file exactly when it returns nil, and then once. -/
theorem execute_writes : m.execute.calls.filter Call.isWrite =
    if m.execute.result = .returned none then
      [.writeStringToFile m.stateFileLocation m.plan.state m.osHelper.fileWritten] else [] := by
  rw [m.execute_filter fun c h => (c.kinds_exclusive.1 h).2.2.1]
  by_cases h : m.upgradeOk
  · rw [if_pos h, m.boot_filter (fun c h => (c.kinds_exclusive.2.2 h).2.2) m.plan, execute_eq m h]
    unfold probeCalls
    split <;> split <;> simp [Call.isWrite]
  · obtain ⟨e, he⟩ := m.execute_result_of_not_upgradeOk h
    simp [h, he]

theorem execute_start_count : m.execute.calls.countP Call.isStart ≤ 1 := by
  rw [List.countP_eq_length_filter, execute_starts]
  split <;> simp

theorem upgradeOk_of_start {c : Call} (hc : c ∈ m.execute.calls) (hs : c.isStart) : m.upgradeOk := by
  by_contra h
  have : c ∈ m.execute.calls.filter Call.isStart := List.mem_filter.mpr ⟨hc, hs⟩
  simp [execute_starts, h] at this

/-- A run starts mysqld in `BOOTSTRAP_COMMAND` exactly when the upgrade check passed, the plan
leaves the mode to `bootstrapNode`, and no node was reachable. -/
theorem execute_bootstraps_iff : (∃ c ∈ m.execute.calls, c.isStartIn BOOTSTRAP_COMMAND) ↔
    m.upgradeOk ∧ m.plan.probe = true ∧ m.clusterReachabilityChecker.reachable = false := by
  have hf : (∃ c ∈ m.execute.calls, c.isStartIn BOOTSTRAP_COMMAND) ↔
      ∃ c ∈ m.execute.calls.filter Call.isStart, c.isStartIn BOOTSTRAP_COMMAND :=
    ⟨fun ⟨c, hc, hb⟩ => ⟨c, List.mem_filter.mpr ⟨hc, Call.isStart_of_isStartIn hb⟩, hb⟩,
     fun ⟨c, hc, hb⟩ => ⟨c, (List.mem_filter.mp hc).1, hb⟩⟩
  rw [hf, execute_starts, ← command_eq_bootstrap]
  split_ifs with h <;> simp [Call.isStartIn, h]

theorem probe_mem_iff (b : Bool) : Call.anyNodesReachable b ∈ m.execute.calls ↔
    m.upgradeOk ∧ m.plan.probe = true ∧ b = m.clusterReachabilityChecker.reachable := by
  have : Call.anyNodesReachable b ∈ m.execute.calls ↔
      Call.anyNodesReachable b ∈ m.execute.calls.filter Call.isProbe := by
    simp [List.mem_filter, Call.isProbe]
  rw [this, execute_probes]
  unfold probeCalls
  split
  · split <;> simp [*]
  · simp [*]

theorem execute_bootstrap_only_node0 :
    (∀ m : MariaDBStartManager,
      m.execute.calls.countP Call.isStart ≤ 1 ∧
      (∀ c ∈ m.execute.calls, c.isStart →
        m.upgrader.upgradeNeeded.2 = none ∧ (m.upgrader.upgradeNeeded.1 = true → m.upgrader.upgraded = none)) ∧
      ((∃ c ∈ m.execute.calls, c.isStartIn BOOTSTRAP_COMMAND) ↔
        m.jobIndex = 0 ∧ Call.anyNodesReachable false ∈ m.execute.calls ∧
        (m.numberOfNodes = 1 ∨ m.osHelper.fileFound = false ∨ m.osHelper.fileRead.1 = SINGLE_NODE))) ∧
    ∀ nodes : List MariaDBStartManager, (nodes.map (·.jobIndex)).Nodup →
      (nodes.filter fun n => n.execute.calls.any (Call.isStartIn BOOTSTRAP_COMMAND)).length ≤ 1 := by
  have node0 : ∀ m : MariaDBStartManager, (∃ c ∈ m.execute.calls, c.isStartIn BOOTSTRAP_COMMAND) ↔
      m.jobIndex = 0 ∧ Call.anyNodesReachable false ∈ m.execute.calls ∧
        (m.numberOfNodes = 1 ∨ m.osHelper.fileFound = false ∨ m.osHelper.fileRead.1 = SINGLE_NODE) := by
    intro m
    rw [execute_bootstraps_iff, probe_mem_iff, plan_probe]
    constructor
    · rintro ⟨hu, ⟨hj, hc⟩, hr⟩; exact ⟨hj, ⟨hu, ⟨hj, hc⟩, hr.symm⟩, hc⟩
    · rintro ⟨-, ⟨hu, hp, hr⟩, -⟩; exact ⟨hu, hp, hr.symm⟩
  refine ⟨fun m => ⟨m.execute_start_count, fun c hc hs => m.upgradeOk_of_start hc hs, node0 m⟩, ?_⟩
  intro nodes hnodup
  set boots := nodes.filter fun n => n.execute.calls.any (Call.isStartIn BOOTSTRAP_COMMAND)
  have hzero : boots.map (·.jobIndex) = List.replicate boots.length 0 := by
    refine List.eq_replicate_iff.mpr ⟨by simp, fun j hj => ?_⟩
    obtain ⟨n, hn, rfl⟩ := List.mem_map.mp hj
    have := (List.mem_filter.mp hn).2
    exact ((node0 n).mp (by simpa using this)).1
  have : (boots.map (·.jobIndex)).Nodup := hnodup.sublist ((List.filter_sublist nodes).map _)
  rw [hzero, List.nodup_replicate] at this
  exact this

/-- Nodes 0 and 1 of `seedsOnSecondTry`'s deployment on their first boot: node 0 finds no
peer and bootstraps, and of the two at most one does. -/
theorem seedsOnSecondTry_sole_bootstrapper :
    (∃ c ∈ seedsOnSecondTry.execute.calls, c.isStartIn BOOTSTRAP_COMMAND) ∧
    ([seedsOnSecondTry, { seedsOnSecondTry with jobIndex := 1 }].filter fun n =>
      n.execute.calls.any (Call.isStartIn BOOTSTRAP_COMMAND)).length ≤ 1 :=
  ⟨((execute_bootstrap_only_node0.1 seedsOnSecondTry).2.2).mpr ⟨rfl, by decide, .inr (.inl rfl)⟩,
    execute_bootstrap_only_node0.2 _ (by decide)⟩

/-! ## Stops -/

/-- A boot that returns nil never stops mysqld; one that returns an error after a start
without error is its probe, its start, then seeding that ends with the stop. -/
theorem boot_stops (p : Plan) :
    ((m.boot p).result = .returned none → ∀ c ∈ (m.boot p).calls, c.isStop = false) ∧
    (∀ e, (m.boot p).result = .returned (some e) → m.mariaDBHelper.started = none → ∃ pre,
      (m.boot p).calls = m.probeCalls p ++ .startMysqldInMode (m.command p) none :: (pre ++ [.stopStandaloneMysql]) ∧
      ∀ c ∈ pre, c.isStart = false) := by
  have hp : ∀ c ∈ m.probeCalls p, c.isStop = false := fun c hc =>
    (c.kinds_exclusive.2.1 (m.probeCalls_isProbe p c hc)).2.2.1
  constructor
  · intro h
    rcases m.boot_cases p with ⟨e, he, hb⟩ | ⟨h0, hr, hb⟩ | ⟨h0, hr, hb⟩ <;> rw [hb] at h ⊢
    · cases h
    · exact absurd h hr
    · rcases m.seeding_cases p with ⟨-, hs⟩ | ⟨e, pre, he, -⟩ | ⟨he, -⟩
      · intro c hc
        simp only [List.mem_append, List.mem_cons, List.mem_singleton, List.not_mem_nil, or_false] at hc
        rcases hc with ((hc | rfl) | hc) | rfl | rfl
        exacts [hp c hc, rfl, hs c hc, rfl, rfl]
      · simp [he] at hr
      · simp [he] at hr
  · intro e h h0
    rcases m.boot_cases p with ⟨e', he, hb⟩ | ⟨-, hr, hb⟩ | ⟨-, hr, hb⟩ <;> rw [hb] at h ⊢
    · simp [he] at h0
    · rcases m.seeding_cases p with ⟨he, -⟩ | ⟨e', pre, -, hs, -⟩ | ⟨he, -⟩
      · exact absurd he hr
      · refine ⟨pre, by simp [hs], fun c hc => ?_⟩
        have : c ∈ (m.seeding p).calls := by rw [hs]; exact List.mem_append_left _ hc
        exact (c.kinds_exclusive.2.2 (m.seeding_calls p c this)).1
      · simp [he] at h
    · cases h

/-- The start calls of a run: one, answering as `StartMysqldInMode` does, once the upgrade
check has passed. -/
theorem start_mem {command : String} {err : Option GoError}
    (h : Call.startMysqldInMode command err ∈ m.execute.calls) :
    m.upgradeOk ∧ command = m.command m.plan ∧ err = m.mariaDBHelper.started := by
  have hf : Call.startMysqldInMode command err ∈ m.execute.calls.filter Call.isStart :=
    List.mem_filter.mpr ⟨h, rfl⟩
  rw [execute_starts] at hf
  split at hf <;> simp_all

theorem execute_error_leaves_node_as_found (m : MariaDBStartManager) :
    (∀ e, m.execute.result = .returned (some e) →
      (∀ c ∈ m.execute.calls, c.isWrite = false) ∧ (∀ file, fileAfter file m.execute.calls = file) ∧
      ∀ command pre post, m.execute.calls = pre ++ .startMysqldInMode command none :: post →
        .stopStandaloneMysql ∈ post) ∧
    (m.execute.result = .returned none → ∀ c ∈ m.execute.calls, c.isStop = false) := by
  refine ⟨fun e he => ?_, fun he => ?_⟩
  · have hw : ∀ c ∈ m.execute.calls, c.isWrite = false := by
      have := m.execute_writes
      rw [he, if_neg (by simp)] at this
      simpa using List.filter_eq_nil_iff.mp this
    refine ⟨hw, fileAfter_of_no_write hw, fun command pre post hcalls => ?_⟩
    obtain ⟨hok, rfl, h0⟩ := m.start_mem (hcalls ▸ List.mem_append_right pre (List.mem_cons_self _ _))
    simp only [execute_eq m hok] at he hcalls
    obtain ⟨pre', hb, hpre'⟩ := (m.boot_stops m.plan).2 e he h0.symm
    rw [hb, ← List.append_assoc] at hcalls
    have hx : ∀ c ∈ m.upgradeCalls ++ m.asked ++ m.probeCalls m.plan, c.isStart = false := by
      simp only [List.mem_append]
      rintro c ((hc | hc) | hc)
      exacts [(c.kinds_exclusive.1 (m.upgradeCalls_isAsk c hc)).1, (c.kinds_exclusive.1 (m.asked_isAsk c hc)).1,
        (c.kinds_exclusive.2.1 (m.probeCalls_isProbe _ c hc)).1]
    have hz : ∀ c ∈ pre' ++ [.stopStandaloneMysql], c.isStart = false := by
      simp only [List.mem_append, List.mem_singleton]
      rintro c (hc | rfl)
      exacts [hpre' c hc, rfl]
    have hnot : ∀ {l : List Call}, (∀ c ∈ l, c.isStart = false) →
        Call.startMysqldInMode (m.command m.plan) none ∉ l := fun hl hc => by cases hl _ hc
    obtain ⟨-, -, rfl⟩ := (List.append_cons_inj_of_not_mem (hnot hx) (hnot hz)).mp hcalls
    simp
  · by_cases hok : m.upgradeOk
    · simp only [execute_eq m hok] at he ⊢
      simp only [List.mem_append]
      rintro c ((hc | hc) | hc)
      exacts [(c.kinds_exclusive.1 (m.upgradeCalls_isAsk c hc)).2.2.2.1,
        (c.kinds_exclusive.1 (m.asked_isAsk c hc)).2.2.2.1, (m.boot_stops m.plan).1 he c hc]
    · obtain ⟨e, he'⟩ := m.execute_result_of_not_upgradeOk hok
      rw [he'] at he
      cases he

/-- `seedsOnSecondTry` with one try: its seed script fails, so the run returns that error. -/
def seedFails : MariaDBStartManager := { seedsOnSecondTry with maxDatabaseSeedTries := 1 }

/-- `seedFails` leaves the state file as it found it and stops mysqld after its start (the
fifth call); `seedsOnSecondTry`, which returns nil, never stops it. -/
theorem seedFails_leaves_node_as_found :
    (∀ file, fileAfter file seedFails.execute.calls = file) ∧
    Call.stopStandaloneMysql ∈ seedFails.execute.calls.drop 5 ∧
    ∀ c ∈ seedsOnSecondTry.execute.calls, c.isStop = false :=
  have h := (execute_error_leaves_node_as_found seedFails).1 ⟨"exit status 1"⟩ rfl
  ⟨h.2.1, h.2.2 BOOTSTRAP_COMMAND (seedFails.execute.calls.take 4) _ rfl,
    (execute_error_leaves_node_as_found seedsOnSecondTry).2 rfl⟩

/-- A run that returns nil ends with its write of the plan's state. -/
theorem execute_ends_with_write (h : m.execute.result = .returned none) : ∃ pre,
    m.execute.calls = pre ++ [.writeStringToFile m.stateFileLocation m.plan.state m.osHelper.fileWritten] := by
  by_cases hok : m.upgradeOk
  · simp only [execute_eq m hok] at h ⊢
    rcases m.boot_cases m.plan with ⟨e, -, hb⟩ | ⟨-, hr, hb⟩ | ⟨-, -, hb⟩ <;> rw [hb] at h ⊢
    · cases h
    · exact absurd h hr
    · exact ⟨m.upgradeCalls ++ m.asked ++ (m.probeCalls m.plan ++ [.startMysqldInMode (m.command m.plan) none] ++
        (m.seeding m.plan).calls ++ [.log m.plan.note]), by simp⟩
  · obtain ⟨e, he⟩ := m.execute_result_of_not_upgradeOk hok
    rw [he] at h
    cases h

end MariaDBStartManager

end MariadbCtrl
