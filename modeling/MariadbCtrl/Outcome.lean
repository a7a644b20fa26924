/-
  MariadbCtrl.Outcome — how a run of `Execute` ends, and in what order it acts, read off the
  collaborators' answers alone (part_000, lines 62-190). Errors are passed up unchanged from
  the first step that fails; the only panic is `seedDatabases`'s `err.Error()` on a nil `err`.

  Proved, for every configuration and every collaborator outcome:
  - `execute_result`: a run ends as `expectedResult` says, with the seeding loop in closed
    form (`seedResult`).
  - `execute_succeeds_iff`: nil comes back iff the upgrade check passed, mysqld started and,
    on node 0, a run of the seed script within `maxDatabaseSeedTries` succeeded.
  - `execute_panics_iff`: a run panics iff it reaches `seedDatabases` (node 0, upgrade check
    passed, mysqld started) with `maxDatabaseSeedTries ≤ 0`.
  - `execute_error_from_collaborator`: every error a run returns is one a collaborator
    returned to it.
  - `execute_acts_after_start`: the seed script, `StopStandaloneMysql` and the write of the
    state file come only after a `StartMysqldInMode` that returned nil.
-/

import Mathlib.Data.Nat.Find
import MariadbCtrl.Execute

namespace MariadbCtrl.MariaDBStartManager

variable (m : MariaDBStartManager)

/-! ## The seeding loop in closed form -/

/-- How `seedDatabases` ends: a panic with no try; nil once a run of the script within
`maxDatabaseSeedTries` succeeds; else the last run's error. -/
def seedResult : Outcome (Option GoError) :=
  if m.maxDatabaseSeedTries ≤ 0 then .panicked .nilDereference
  else if ∃ n < m.maxDatabaseSeedTries.toNat, (m.osHelper.commandRuns n).2 = none then .returned none
  else .returned (m.osHelper.commandRuns (m.maxDatabaseSeedTries.toNat - 1)).2

theorem seedDatabases_result : m.seedDatabases.result = m.seedResult := by
  unfold seedResult
  split_ifs with hM hok
  · rw [m.seedDatabases_of_nonpos hM]
  · obtain ⟨hn, hrun⟩ := Nat.find_spec hok
    rw [m.seedDatabases_succeeds hn (fun j hj => Option.ne_none_iff_isSome.mp fun h =>
      Nat.find_min hok hj ⟨by omega, h⟩) hrun]
  · obtain ⟨e, he, hsd⟩ := m.seedDatabases_exhausts (by omega) fun j hj =>
      Option.ne_none_iff_isSome.mp fun h => hok ⟨j, hj, h⟩
    rw [hsd, he]

theorem seedResult_none_iff : m.seedResult = .returned none ↔
    ∃ n < m.maxDatabaseSeedTries.toNat, (m.osHelper.commandRuns n).2 = none := by
  unfold seedResult
  split_ifs with hM hok
  · simp only [false_iff, not_exists, not_and]
    omega
  · simpa using hok
  · simp only [Outcome.returned.injEq, hok, iff_false]
    exact fun h => hok ⟨_, by omega, h⟩

theorem seedResult_panics_iff : (∃ p, m.seedResult = .panicked p) ↔ m.maxDatabaseSeedTries ≤ 0 := by
  unfold seedResult
  split_ifs with hM
  · exact iff_of_true ⟨_, rfl⟩ hM
  all_goals simp [hM]

theorem seedResult_error {e : GoError} (h : m.seedResult = .returned (some e)) :
    ∃ n < m.maxDatabaseSeedTries.toNat, (m.osHelper.commandRuns n).2 = some e := by
  unfold seedResult at h
  split_ifs at h with hM hok
  · cases h
  · exact ⟨_, by omega, Outcome.returned.inj h⟩

/-! ## The run -/

theorem plan_seed : m.plan.seed = decide (m.jobIndex = 0) := by
  unfold plan
  split_ifs <;> simp_all [Plan.joinCluster, Plan.bootstrapCluster, Plan.node0JoinCluster]

theorem seeding_result (p : Plan) :
    (m.seeding p).result = if p.seed then m.seedResult else .returned none := by
  unfold seeding
  split
  · exact m.seedDatabases_result
  · rfl

/-- A boot ends with the start's error, else as its seeding does. -/
theorem boot_result (p : Plan) : (m.boot p).result = match m.mariaDBHelper.started with
    | some e => .returned (some e)
    | none => (m.seeding p).result := by
  rcases m.boot_cases p with ⟨e, he, hb⟩ | ⟨hs, -, hb⟩ | ⟨hs, hok, hb⟩
  · simp [hb, he]
  · simp [hb, hs]
  · simp [hb, hs, hok]

/-- How `Execute` ends: the upgrade check's error; else the start's; else, on node 0, as the
seeding does; else nil. -/
def expectedResult : Outcome (Option GoError) :=
  if m.upgradeOk then
    match m.mariaDBHelper.started with
    | some e => .returned (some e)
    | none => if m.jobIndex = 0 then m.seedResult else .returned none
  else .returned (m.upgrader.upgradeNeeded.2.or m.upgrader.upgraded)

theorem execute_result : m.execute.result = m.expectedResult := by
  by_cases h : m.upgradeOk
  · rw [expectedResult, if_pos h]
    simp only [execute_eq m h, boot_result, seeding_result, plan_seed, decide_eq_true_eq]
  · obtain ⟨msg, hx⟩ := m.execute_of_not_upgradeOk h
    rw [expectedResult, if_neg h, hx]

theorem execute_succeeds_iff : m.execute.result = .returned none ↔
    m.upgradeOk ∧ m.mariaDBHelper.started = none ∧
      (m.jobIndex = 0 → ∃ n < m.maxDatabaseSeedTries.toNat, (m.osHelper.commandRuns n).2 = none) := by
  by_cases hu : m.upgradeOk
  · rw [execute_result, expectedResult, if_pos hu]
    rcases m.mariaDBHelper.started with _ | e
    · by_cases hj : m.jobIndex = 0
      · simp [hu, hj, seedResult_none_iff]
      · simp [hu, hj]
    · simp
  · obtain ⟨e, he⟩ := m.execute_result_of_not_upgradeOk hu
    simp [he, hu]

theorem execute_panics_iff : (∃ p, m.execute.result = .panicked p) ↔
    m.upgradeOk ∧ m.mariaDBHelper.started = none ∧ m.jobIndex = 0 ∧ m.maxDatabaseSeedTries ≤ 0 := by
  by_cases hu : m.upgradeOk
  · rw [execute_result, expectedResult, if_pos hu]
    rcases m.mariaDBHelper.started with _ | e
    · by_cases hj : m.jobIndex = 0
      · simp [hu, hj, seedResult_panics_iff]
      · simp [hj]
    · simp
  · obtain ⟨e, he⟩ := m.execute_result_of_not_upgradeOk hu
    simp [he, hu]

theorem execute_error_from_collaborator (e : GoError) (h : m.execute.result = .returned (some e)) :
    m.upgrader.upgradeNeeded.2 = some e ∨ m.upgrader.upgraded = some e ∨ m.mariaDBHelper.started = some e ∨
      ∃ n < m.maxDatabaseSeedTries.toNat, (m.osHelper.commandRuns n).2 = some e := by
  by_cases hu : m.upgradeOk
  · rw [execute_result, expectedResult, if_pos hu] at h
    rcases hs : m.mariaDBHelper.started with _ | e'
    · simp only [hs] at h
      split_ifs at h
      · exact .inr (.inr (.inr (m.seedResult_error h)))
      · cases h
    · simp only [hs] at h
      exact .inr (.inr (.inl (Outcome.returned.inj h)))
  · rw [execute_result, expectedResult, if_neg hu] at h
    rcases hn : m.upgrader.upgradeNeeded.2 with _ | e'
    · rw [hn] at h
      exact .inr (.inl (Outcome.returned.inj h))
    · rw [hn] at h
      exact .inl (Outcome.returned.inj h)

/-- `seedsOnSecondTry` with mysqld failing to start. -/
def failedStart : MariaDBStartManager := { seedsOnSecondTry with mariaDBHelper := ⟨some ⟨"mysqld exited"⟩⟩ }

theorem failedStart_error_is_helpers : failedStart.execute.result = .returned (some ⟨"mysqld exited"⟩) ∧
    (failedStart.upgrader.upgradeNeeded.2 = some ⟨"mysqld exited"⟩ ∨
      failedStart.upgrader.upgraded = some ⟨"mysqld exited"⟩ ∨
      failedStart.mariaDBHelper.started = some ⟨"mysqld exited"⟩ ∨
      ∃ n < failedStart.maxDatabaseSeedTries.toNat,
        (failedStart.osHelper.commandRuns n).2 = some ⟨"mysqld exited"⟩) :=
  ⟨rfl, execute_error_from_collaborator _ _ rfl⟩

/-! ## Order of the actions -/

/-- `A ++ s :: B` split again around a `c` that is neither in `A` nor `s`: `s` comes before it. -/
theorem mem_before_of_split {α : Type} {A B pre post : List α} {s c : α}
    (h : A ++ s :: B = pre ++ c :: post) (hA : c ∉ A) (hs : c ≠ s) : s ∈ pre := by
  rcases List.append_eq_append_iff.mp h with ⟨a', rfl, h'⟩ | ⟨c', rfl, h'⟩
  · cases a' with
    | nil => exact absurd (List.cons.inj h').1.symm hs
    | cons x a'' => simp [(List.cons.inj h').1]
  · cases c' with
    | nil => exact absurd (List.cons.inj h').1 hs
    | cons x c'' => simp [(List.cons.inj h').1] at hA

/-- Before its start a run only asks and probes. -/
theorem before_start_no_act : ∀ c ∈ m.upgradeCalls ++ m.asked ++ m.probeCalls m.plan,
    ¬(c.isRun ∨ c.isStop ∨ c.isWrite) := by
  have hask : ∀ c : Call, c.isAsk → ¬(c.isRun ∨ c.isStop ∨ c.isWrite) := fun c hc => by
    obtain ⟨-, -, hw, hs, hr⟩ := c.kinds_exclusive.1 hc
    simp [hw, hs, hr]
  simp only [List.mem_append]
  rintro c ((hc | hc) | hc)
  · exact hask c (m.upgradeCalls_isAsk c hc)
  · exact hask c (m.asked_isAsk c hc)
  · obtain ⟨-, hw, hs, hr⟩ := c.kinds_exclusive.2.1 (m.probeCalls_isProbe _ c hc)
    simp [hw, hs, hr]

/-- A boot whose start returned nil: its probe, its start, then the rest. -/
theorem boot_calls_of_started {p : Plan} (h : m.mariaDBHelper.started = none) :
    ∃ rest, (m.boot p).calls = m.probeCalls p ++ .startMysqldInMode (m.command p) none :: rest := by
  rcases m.boot_cases p with ⟨e, he, -⟩ | ⟨-, -, hb⟩ | ⟨-, -, hb⟩
  · simp [he] at h
  · exact ⟨(m.seeding p).calls, by simp [hb]⟩
  · exact ⟨(m.seeding p).calls ++ [.log p.note, .writeStringToFile m.stateFileLocation p.state
      m.osHelper.fileWritten], by simp [hb]⟩

theorem execute_acts_after_start (pre : List Call) (c : Call) (post : List Call)
    (h : m.execute.calls = pre ++ c :: post) (hc : c.isRun ∨ c.isStop ∨ c.isWrite) :
    ∃ command, Call.startMysqldInMode command none ∈ pre := by
  have hmem : c ∈ m.execute.calls := h ▸ List.mem_append_right pre (List.mem_cons_self _ _)
  have hA : c ∉ m.upgradeCalls ++ m.asked ++ m.probeCalls m.plan := fun hx => m.before_start_no_act c hx hc
  have hs : ∀ {command err}, c ≠ Call.startMysqldInMode command err := by
    rintro _ _ rfl
    simp [Call.isRun, Call.isStop, Call.isWrite] at hc
  by_cases hu : m.upgradeOk
  · simp only [execute_eq m hu] at h hmem
    rcases hst : m.mariaDBHelper.started with _ | e
    · obtain ⟨rest, hb⟩ := m.boot_calls_of_started hst
      rw [hb, ← List.append_assoc] at h
      exact ⟨_, mem_before_of_split h hA hs⟩
    · rcases m.boot_cases m.plan with ⟨e, -, hb⟩ | ⟨h0, -⟩ | ⟨h0, -⟩
      · rw [hb, ← List.append_assoc] at hmem
        rcases List.mem_append.mp hmem with hx | hx
        · exact absurd hx hA
        · exact absurd (List.mem_singleton.mp hx) hs
      all_goals simp [hst] at h0
  · obtain ⟨msg, hx⟩ := m.execute_of_not_upgradeOk hu
    rw [hx] at hmem
    rcases List.mem_append.mp hmem with hx | hx
    · exact absurd (List.mem_append_left _ (List.mem_append_left _ hx)) hA
    · rw [List.mem_singleton.mp hx] at hc
      simp [Call.isRun, Call.isStop, Call.isWrite] at hc

theorem seedsOnSecondTry_seeds_after_start :
    ∃ command, Call.startMysqldInMode command none ∈ seedsOnSecondTry.execute.calls.take 5 :=
  execute_acts_after_start _ _
    (.runCommand "bash" ["/var/vcap/jobs/mysql/bin/seed"] "ERROR 2002" (some ⟨"exit status 1"⟩))
    (seedsOnSecondTry.execute.calls.drop 6) rfl (.inl rfl)

end MariadbCtrl.MariaDBStartManager
