/-
  MariadbCtrl.StateFile — the state file (`stateFileLocation`): what a run of `Execute`
  writes to it, and how it reads it back.

  The file is `none` when absent, else its content; `fileAfter` applies a run's calls to
  it (`Call.applyTo`): a `WriteStringToFile` that succeeded replaces it, one that failed
  leaves it as it was or truncated to a prefix of what it was writing. `Execute` discards
  that call's error (lines 124 and 155): a run whose write failed still returns nil.

  Proved, for every configuration, every state file and every collaborator outcome:
  - `execute_success_persists`: a run that returns nil calls `WriteStringToFile` once, as
    its last call, with `SINGLE_NODE` for node 0 of a one-node deployment and `CLUSTERED`
    otherwise; when that write succeeds the file then holds that tag, so two such runs
    with the same `jobIndex` and `numberOfNodes` leave the same state.
    `execute_success_despite_failed_write`: a run whose write fails returns nil and
    leaves no state behind.
  - `execute_reads_state_tag`: what `ReadFile` returns matters only through whether it is
    exactly `SINGLE_NODE`, and its error not at all; on node 0 of a multi-node deployment
    any other content leads to `node0JoinCluster`. `execute_state_tag_exact`: a trailing
    newline or an empty file is not `SINGLE_NODE`.
-/

import MariadbCtrl.Execute

namespace MariadbCtrl

namespace MariaDBStartManager

variable (m : MariaDBStartManager)

/-- After a run that returns nil and whose write succeeded, the file holds the plan's state. -/
theorem fileAfter_of_success (h : m.execute.result = .returned none) (hw : m.osHelper.fileWritten = .written)
    (file : Option String) : fileAfter file m.execute.calls = some m.plan.state := by
  obtain ⟨pre, hpre⟩ := m.execute_ends_with_write h
  rw [hpre, fileAfter_append, hw]
  rfl

/-- What a run does to the state file: a run that returns nil applies its one write to it,
any other leaves it as it was. -/
theorem fileAfter_execute (file : Option String) :
    fileAfter file m.execute.calls =
      if m.execute.result = .returned none then
        (Call.writeStringToFile m.stateFileLocation m.plan.state m.osHelper.fileWritten).applyTo file
      else file := by
  have hw := m.execute_writes
  split
  · rename_i h
    obtain ⟨pre, hpre⟩ := m.execute_ends_with_write h
    rw [if_pos h, hpre, List.filter_append] at hw
    have hpre' : ∀ c ∈ pre, c.isWrite = false := by simpa [Call.isWrite] using hw
    rw [hpre, fileAfter_append, fileAfter_of_no_write hpre']
    rfl
  · rw [if_neg ‹_›] at hw
    exact fileAfter_of_no_write (by simpa using List.filter_eq_nil_iff.mp hw) file

theorem execute_success_persists :
    (∀ m : MariaDBStartManager, m.execute.result = .returned none →
      m.execute.calls.countP Call.isWrite = 1 ∧
      m.execute.calls.getLast? = some (.writeStringToFile m.stateFileLocation
        (if m.jobIndex = 0 ∧ m.numberOfNodes = 1 then SINGLE_NODE else CLUSTERED) m.osHelper.fileWritten) ∧
      (m.osHelper.fileWritten = .written → ∀ file, fileAfter file m.execute.calls =
        some (if m.jobIndex = 0 ∧ m.numberOfNodes = 1 then SINGLE_NODE else CLUSTERED))) ∧
    ∀ m m' : MariaDBStartManager, m.jobIndex = m'.jobIndex → m.numberOfNodes = m'.numberOfNodes →
      m.execute.result = .returned none → m'.execute.result = .returned none →
      m.osHelper.fileWritten = .written → m'.osHelper.fileWritten = .written →
      ∀ file, fileAfter (fileAfter file m.execute.calls) m'.execute.calls = fileAfter file m.execute.calls := by
  refine ⟨fun m h => ⟨?_, ?_, fun hw file => ?_⟩, fun m m' hj hn h h' hw hw' file => ?_⟩
  · rw [List.countP_eq_length_filter, execute_writes, if_pos h]
    rfl
  · obtain ⟨pre, hpre⟩ := m.execute_ends_with_write h
    rw [hpre, List.getLast?_concat, plan_state]
  · rw [fileAfter_of_success m h hw, plan_state]
  · rw [fileAfter_of_success m h hw, fileAfter_of_success m' h' hw', plan_state, plan_state, hj, hn]

/-- Node 0 of a three-node deployment whose state file holds `content`, with no peer
reachable and every collaborator succeeding. -/
def node0With (content : String) : MariaDBStartManager :=
  { osHelper := ⟨true, (content, none), fun _ => ("", none), .written⟩,
    stateFileLocation := "/var/vcap/store/mysql/state.txt", jobIndex := 0, numberOfNodes := 3,
    dbSeedScriptPath := "/var/vcap/jobs/mysql/bin/seed", clusterReachabilityChecker := ⟨false⟩,
    maxDatabaseSeedTries := 1, mariaDBHelper := ⟨none⟩, upgrader := ⟨(false, none), none⟩ }

/-- `seedsOnSecondTry` (a first boot) returns nil with its write succeeding: one write, and
the file holds `CLUSTERED`; a later boot reading it (`node0With CLUSTERED`) leaves it so. -/
theorem seedsOnSecondTry_persists :
    seedsOnSecondTry.execute.calls.countP Call.isWrite = 1 ∧
    fileAfter none seedsOnSecondTry.execute.calls = some CLUSTERED ∧
    fileAfter (fileAfter none seedsOnSecondTry.execute.calls) (node0With CLUSTERED).execute.calls =
      fileAfter none seedsOnSecondTry.execute.calls :=
  have h := execute_success_persists.1 seedsOnSecondTry rfl
  ⟨h.1, h.2.2 rfl none, execute_success_persists.2 seedsOnSecondTry (node0With CLUSTERED) rfl rfl rfl rfl rfl rfl none⟩

/-- Node 0 of a three-node deployment on its first boot: no state file, no peer reachable,
seeding on the first try, and a state file that cannot be opened for writing. -/
def unwritableNode : MariaDBStartManager :=
  { osHelper := ⟨false, ("", none), fun _ => ("", none), .notOpened ⟨"permission denied"⟩⟩,
    stateFileLocation := "/var/vcap/store/mysql/state.txt", jobIndex := 0, numberOfNodes := 3,
    dbSeedScriptPath := "/var/vcap/jobs/mysql/bin/seed", clusterReachabilityChecker := ⟨false⟩,
    maxDatabaseSeedTries := 1, mariaDBHelper := ⟨none⟩, upgrader := ⟨(false, none), none⟩ }

theorem execute_success_despite_failed_write :
    unwritableNode.execute.result = .returned none ∧ fileAfter none unwritableNode.execute.calls = none := by
  constructor <;> rfl

/-! ## Reading the file -/

/-- The seeding loop reads, of the manager, only `RunCommand`'s answers and the script's path. -/
theorem seedLoop_congr (m' : MariaDBStartManager) (hr : m.osHelper.commandRuns = m'.osHelper.commandRuns)
    (hp : m.dbSeedScriptPath = m'.dbSeedScriptPath) (tries numTries : Nat) (output : String)
    (err : Option GoError) : m.seedLoop tries numTries output err = m'.seedLoop tries numTries output err := by
  induction tries generalizing numTries output err with
  | zero => rfl
  | succ tries ih => simp only [seedLoop, OsHelper.runCommand, OsHelper.sleep, hr, hp, ih]

/-- A boot does not read the state file. -/
theorem boot_fileRead (read : String × Option GoError) (p : Plan) :
    ({ m with osHelper := { m.osHelper with fileRead := read } } : MariaDBStartManager).boot p = m.boot p := by
  simp only [boot, seedDatabases,
    seedLoop_congr m { m with osHelper := { m.osHelper with fileRead := read } } rfl rfl]
  rfl

/-- The decision reads the content `ReadFile` returns only through its comparison with
`SINGLE_NODE`, and ignores the error. -/
theorem plan_fileRead (read : String × Option GoError)
    (h : m.osHelper.fileRead.1 = SINGLE_NODE ↔ read.1 = SINGLE_NODE) :
    ({ m with osHelper := { m.osHelper with fileRead := read } } : MariaDBStartManager).plan = m.plan := by
  simp only [plan, h]

theorem asked_no_action : m.asked.filter Call.isAction = [] := by
  unfold asked; split_ifs <;> rfl

theorem execute_reads_state_tag :
    (∀ (m : MariaDBStartManager) (read : String × Option GoError),
      (m.osHelper.fileRead.1 = SINGLE_NODE ↔ read.1 = SINGLE_NODE) →
      ({ m with osHelper := { m.osHelper with fileRead := read } } : MariaDBStartManager).execute.calls.filter
          Call.isAction = m.execute.calls.filter Call.isAction ∧
      ({ m with osHelper := { m.osHelper with fileRead := read } } : MariaDBStartManager).execute.result =
          m.execute.result) ∧
    ∀ m : MariaDBStartManager, m.jobIndex = 0 → 1 < m.numberOfNodes → m.osHelper.fileFound = true →
      m.upgradeOk → m.osHelper.fileRead.1 ≠ SINGLE_NODE →
      Call.startMysqldInMode JOIN_COMMAND m.mariaDBHelper.started ∈ m.execute.calls ∧
      (∀ c ∈ m.execute.calls, c.isProbe = false) ∧ m.execute.result = m.node0JoinCluster.result := by
  refine ⟨fun m read h => ?_, fun m hj hn hf hok hs => ?_⟩
  · let m' : MariaDBStartManager := { m with osHelper := { m.osHelper with fileRead := read } }
    have hplan : m'.plan = m.plan := m.plan_fileRead read h
    have hboot : m'.boot m.plan = m.boot m.plan := m.boot_fileRead read m.plan
    by_cases hok : m.upgradeOk
    · rw [execute_eq m hok, execute_eq m' hok]
      refine ⟨?_, by simp only [hplan, hboot]⟩
      simp only [List.filter_append, hplan, hboot, asked_no_action]
      rfl
    · obtain ⟨msg, he⟩ := m.execute_of_not_upgradeOk hok
      obtain ⟨msg', he'⟩ := m'.execute_of_not_upgradeOk hok
      rw [he, he']
      exact ⟨by simp [List.filter_append, Call.isAction]; rfl, rfl⟩
  · have hplan : m.plan = .node0JoinCluster := by
      simp [plan, hj, hf, hs, show m.numberOfNodes ≠ 1 by omega]
    have hstart := m.execute_starts
    have hprobe := m.execute_probes
    rw [if_pos hok, hplan] at hstart hprobe
    refine ⟨?_, fun c hc => ?_, ?_⟩
    · have : Call.startMysqldInMode (m.command .node0JoinCluster) m.mariaDBHelper.started ∈
          m.execute.calls.filter Call.isStart := by rw [hstart]; exact List.mem_singleton_self _
      exact (List.mem_filter.mp this).1
    · by_contra hp
      have : c ∈ m.execute.calls.filter Call.isProbe := List.mem_filter.mpr ⟨hc, by simpa using hp⟩
      simp [hprobe, probeCalls, Plan.node0JoinCluster] at this
    · rw [execute_eq m hok, hplan, node0JoinCluster_eq]

theorem execute_state_tag_exact :
    (node0With SINGLE_NODE).execute.calls.filter Call.isStart = [.startMysqldInMode BOOTSTRAP_COMMAND none] ∧
    (node0With (SINGLE_NODE ++ "\n")).execute.calls.filter Call.isStart =
      [.startMysqldInMode JOIN_COMMAND none] ∧
    (node0With "").execute.calls.filter Call.isStart = [.startMysqldInMode JOIN_COMMAND none] ∧
    (node0With "").execute.result = .returned none := by
  refine ⟨rfl, rfl, rfl, rfl⟩

/-- A failing `ReadFile` of node 0 that returns `CLUSTERED` and a newline acts as the empty
file does, and `node0With ""` joins through `node0JoinCluster`. -/
theorem node0With_empty_joins :
    ({ node0With "" with osHelper := { (node0With "").osHelper with
        fileRead := (CLUSTERED ++ "\n", some ⟨"input/output error"⟩) } } : MariaDBStartManager).execute.result =
      (node0With "").execute.result ∧
    Call.startMysqldInMode JOIN_COMMAND none ∈ (node0With "").execute.calls :=
  ⟨(execute_reads_state_tag.1 (node0With "") (CLUSTERED ++ "\n", some ⟨"input/output error"⟩) (by decide)).2,
    (execute_reads_state_tag.2 (node0With "") rfl (by decide) rfl ⟨rfl, fun _ => rfl⟩ (by decide)).1⟩

end MariaDBStartManager

end MariadbCtrl
