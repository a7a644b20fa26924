/-
  MariadbCtrl.Seeding — `seedDatabases` (part_000, lines 173-190): the retry loop over
  `RunCommand("bash", dbSeedScriptPath)` and what follows it.

  Proved, for every `maxDatabaseSeedTries` that `New` accepts and every sequence of
  `RunCommand` outcomes:
  - `seedLoop_calls`: the loop runs the script, logs and sleeps; it never stops mysqld.
  - `seedDatabases_cases`: a run returns nil without stopping mysqld, or returns an error
    with `StopStandaloneMysql` its last call and its only stop, or panics without stopping.
  - `seedDatabases_trace`: with at least one try, the calls of a run are those of the failed
    attempts (each runs the script, logs its output, logs a retry and sleeps a second, the
    last one included), then the run that succeeded and its log line, or the log of the
    last error and `StopStandaloneMysql`.
  - `seedDatabases_retries`: with at least one try, the script runs up to its first success
    and at most `maxDatabaseSeedTries` times; nil comes back iff a run succeeded, and
    otherwise mysqld is stopped once and the last attempt's error is returned.
  - `seedDatabases_zero_tries_panics`: with no try the loop never runs, `err` is still nil
    and `err.Error()` panics on it, before `StopStandaloneMysql`.
-/

import MariadbCtrl.StartManager

namespace MariadbCtrl.MariaDBStartManager

open Go

variable (m : MariaDBStartManager)

/-! ## One iteration -/

@[simp] theorem seedLoop_zero (numTries : Nat) (output : String) (err : Option GoError) :
    m.seedLoop 0 numTries output err = ⟨[], .returned (some (output, err))⟩ := rfl

/-- The calls of an attempt `n` that failed. -/
def retryCalls (n : Nat) : List Call :=
  [.runCommand "bash" [m.dbSeedScriptPath] (m.osHelper.commandRuns n).1 (m.osHelper.commandRuns n).2,
   .log ("There was a problem seeding the database: '" ++ (m.osHelper.commandRuns n).1 ++ "'"),
   .log "Retrying seeding script...", .sleep (1 * second)]

theorem seedLoop_succ_ok {tries numTries : Nat} {output : String} {err : Option GoError}
    (h : (m.osHelper.commandRuns numTries).2 = none) :
    m.seedLoop (tries + 1) numTries output err =
      ⟨[.runCommand "bash" [m.dbSeedScriptPath] (m.osHelper.commandRuns numTries).1 none,
        .log "Seeding databases succeeded."], .returned none⟩ := by
  simp [seedLoop, OsHelper.runCommand, log, h]

theorem seedLoop_succ_fail {tries numTries : Nat} {output : String} {err : Option GoError}
    (h : (m.osHelper.commandRuns numTries).2.isSome) :
    m.seedLoop (tries + 1) numTries output err =
      ⟨m.retryCalls numTries ++ (m.seedLoop tries (numTries + 1) (m.osHelper.commandRuns numTries).1
          (m.osHelper.commandRuns numTries).2).calls,
        (m.seedLoop tries (numTries + 1) (m.osHelper.commandRuns numTries).1
          (m.osHelper.commandRuns numTries).2).result⟩ := by
  obtain ⟨e, he⟩ := Option.isSome_iff_exists.mp h
  simp [seedLoop, retryCalls, OsHelper.runCommand, OsHelper.sleep, log, he]

/-- The calls of `n` failed attempts, from attempt `numTries` on. -/
def retriesFrom (numTries : Nat) : Nat → List Call
  | 0 => []
  | n + 1 => m.retryCalls numTries ++ retriesFrom (numTries + 1) n

@[simp] theorem retriesFrom_zero (numTries : Nat) : m.retriesFrom numTries 0 = [] := rfl

theorem retriesFrom_succ (numTries n : Nat) :
    m.retriesFrom numTries (n + 1) = m.retryCalls numTries ++ m.retriesFrom (numTries + 1) n := rfl

/-- Each failed attempt runs the script once and sleeps once, and none stops mysqld. -/
theorem retriesFrom_counts (numTries n : Nat) :
    (m.retriesFrom numTries n).countP Call.isRun = n ∧ (m.retriesFrom numTries n).countP Call.isStop = 0 := by
  induction n generalizing numTries with
  | zero => simp
  | succ n ih =>
    obtain ⟨h1, h2⟩ := ih (numTries + 1)
    simp [retriesFrom_succ, retryCalls, h1, h2, Call.isRun, Call.isStop]

/-! ## The whole loop -/

theorem seedLoop_calls (tries numTries : Nat) (output : String) (err : Option GoError) :
    ∀ c ∈ (m.seedLoop tries numTries output err).calls, c.isSeeding ∧ c.isStop = false := by
  induction tries generalizing numTries output err with
  | zero => simp
  | succ tries ih =>
    cases h : (m.osHelper.commandRuns numTries).2 with
    | none => simp [seedLoop_succ_ok m h, Call.isSeeding, Call.isStop]
    | some e =>
      rw [seedLoop_succ_fail m (by simp [h])]
      intro c hc
      rcases List.mem_append.mp hc with hc | hc
      · simp [retryCalls] at hc
        rcases hc with rfl | rfl | rfl | rfl <;> simp [Call.isSeeding, Call.isStop]
      · exact ih _ _ _ c hc

/-- The loop never panics. -/
theorem seedLoop_returns (tries numTries : Nat) (output : String) (err : Option GoError) :
    ∃ r, (m.seedLoop tries numTries output err).result = .returned r := by
  induction tries generalizing numTries output err with
  | zero => simp
  | succ tries ih =>
    cases h : (m.osHelper.commandRuns numTries).2 with
    | none => simp [seedLoop_succ_ok m h]
    | some e => rw [seedLoop_succ_fail m (by simp [h])]; exact ih _ _ _

/-- The first `n` attempts fail and attempt `n` succeeds, within the loop's bound: the loop
returns nil after the failed attempts, that run and its log line. -/
theorem seedLoop_succeeds {tries n : Nat} (numTries : Nat) (output : String) (err : Option GoError)
    (hn : n < tries)
    (hfail : ∀ j < n, (m.osHelper.commandRuns (numTries + j)).2.isSome)
    (hok : (m.osHelper.commandRuns (numTries + n)).2 = none) :
    m.seedLoop tries numTries output err =
      ⟨m.retriesFrom numTries n ++ [.runCommand "bash" [m.dbSeedScriptPath]
        (m.osHelper.commandRuns (numTries + n)).1 none, .log "Seeding databases succeeded."], .returned none⟩ := by
  induction n generalizing tries numTries output err with
  | zero =>
    obtain ⟨tries, rfl⟩ : ∃ t, tries = t + 1 := ⟨tries - 1, by omega⟩
    rw [seedLoop_succ_ok m (by simpa using hok)]
    rfl
  | succ n ih =>
    obtain ⟨tries, rfl⟩ : ∃ t, tries = t + 1 := ⟨tries - 1, by omega⟩
    have hshift : numTries + 1 + n = numTries + (n + 1) := by omega
    rw [seedLoop_succ_fail m (by simpa using hfail 0 (by omega)), ih (numTries + 1) _ _ (by omega)
      (fun j hj => by simpa [Nat.add_assoc, Nat.add_comm 1 j] using hfail (j + 1) (by omega))
      (by rwa [hshift]), hshift]
    simp [retriesFrom_succ]

/-- Every attempt of the loop fails: it ends with the last attempt's output and error, after
the failed attempts' calls. -/
theorem seedLoop_exhausts (tries numTries : Nat) (output : String) (err : Option GoError)
    (hfail : ∀ j < tries + 1, (m.osHelper.commandRuns (numTries + j)).2.isSome) :
    m.seedLoop (tries + 1) numTries output err =
      ⟨m.retriesFrom numTries (tries + 1), .returned (some (m.osHelper.commandRuns (numTries + tries)))⟩ := by
  induction tries generalizing numTries output err with
  | zero => simp [seedLoop_succ_fail m (by simpa using hfail 0 (by omega)), retriesFrom_succ]
  | succ tries ih =>
    have hshift : numTries + 1 + tries = numTries + (tries + 1) := by omega
    rw [seedLoop_succ_fail m (by simpa using hfail 0 (by omega)), ih (numTries + 1) _ _
      (fun j hj => by simpa [Nat.add_assoc, Nat.add_comm 1 j] using hfail (j + 1) (by omega)), hshift]
    simp [retriesFrom_succ m numTries (tries + 1)]

/-! ## `seedDatabases` -/

/-- What follows the loop, by how the loop ended. -/
theorem seedDatabases_of_loop {cs : List Call} {r : Option (String × Option GoError)}
    (h : m.seedLoop m.maxDatabaseSeedTries.toNat 0 "" none = ⟨cs, .returned r⟩) :
    m.seedDatabases = match r with
      | none => ⟨cs, .returned none⟩
      | some (output, some e) =>
        ⟨cs ++ [.log ("Error seeding databases: '" ++ e.message ++ "'\n'" ++ output ++ "'"),
          .stopStandaloneMysql], .returned (some e)⟩
      | some (_, none) => ⟨cs, .panicked .nilDereference⟩ := by
  rcases r with _ | ⟨o, _ | e⟩ <;> simp [seedDatabases, h, errorOf, log, DBHelper.stopStandaloneMysql]

/-- How the loop of `seedDatabases` ends: it returns, with calls that never stop mysqld. -/
theorem seedLoop_start : ∃ cs r, m.seedLoop m.maxDatabaseSeedTries.toNat 0 "" none = ⟨cs, .returned r⟩ ∧
    ∀ c ∈ cs, c.isSeeding ∧ c.isStop = false := by
  obtain ⟨r, hr⟩ := m.seedLoop_returns m.maxDatabaseSeedTries.toNat 0 "" none
  exact ⟨_, r, by rw [← hr], m.seedLoop_calls _ _ _ _⟩

/-- `seedDatabases` only runs the script, logs, sleeps and stops mysqld. -/
theorem seedDatabases_calls : ∀ c ∈ m.seedDatabases.calls, c.isSeeding := by
  obtain ⟨cs, r, hL, hcs⟩ := m.seedLoop_start
  have h : ∀ c ∈ cs, c.isSeeding := fun c hc => (hcs c hc).1
  rw [seedDatabases_of_loop m hL]
  rcases r with _ | ⟨o, _ | e⟩
  · exact h
  · exact h
  · intro c hc
    rcases List.mem_append.mp hc with hc | hc
    · exact h c hc
    · simp only [List.mem_cons, List.mem_singleton, List.not_mem_nil, or_false] at hc
      rcases hc with rfl | rfl <;> rfl

/-- A run of `seedDatabases` returns nil and never stops mysqld; or returns an error, with
`StopStandaloneMysql` its last call and its only stop; or panics, never stopping mysqld. -/
theorem seedDatabases_cases :
    (m.seedDatabases.result = .returned none ∧ ∀ c ∈ m.seedDatabases.calls, c.isStop = false) ∨
    (∃ e pre, m.seedDatabases.result = .returned (some e) ∧
      m.seedDatabases.calls = pre ++ [.stopStandaloneMysql] ∧ ∀ c ∈ pre, c.isStop = false) ∨
    (m.seedDatabases.result = .panicked .nilDereference ∧ ∀ c ∈ m.seedDatabases.calls, c.isStop = false) := by
  obtain ⟨cs, r, hL, hcs⟩ := m.seedLoop_start
  rw [seedDatabases_of_loop m hL]
  rcases r with _ | ⟨o, _ | e⟩
  · exact .inl ⟨rfl, fun c hc => (hcs c hc).2⟩
  · exact .inr (.inr ⟨rfl, fun c hc => (hcs c hc).2⟩)
  · refine .inr (.inl ⟨e, cs ++ [.log ("Error seeding databases: '" ++ e.message ++ "'\n'" ++ o ++ "'")],
      rfl, by simp, ?_⟩)
    intro c hc
    rcases List.mem_append.mp hc with hc | hc
    · exact (hcs c hc).2
    · simp only [List.mem_singleton] at hc
      subst hc; rfl

/-- With no try (`maxDatabaseSeedTries ≤ 0`) the loop body never runs, `err` is still nil, and
`err.Error()` panics on it: nothing is called. -/
theorem seedDatabases_of_nonpos (h : m.maxDatabaseSeedTries ≤ 0) :
    m.seedDatabases = ⟨[], .panicked .nilDereference⟩ := by
  have : m.maxDatabaseSeedTries.toNat = 0 := by omega
  simp [seedDatabases, this, errorOf]

theorem seedDatabases_zero_tries_panics (m : MariaDBStartManager) :
    ({ m with maxDatabaseSeedTries := 0 } : MariaDBStartManager).seedDatabases =
      ⟨[], .panicked .nilDereference⟩ :=
  seedDatabases_of_nonpos _ (Int.le_refl 0)

/-- The first `n` runs of the script fail and run `n` succeeds, within the bound:
`seedDatabases` returns nil after the failed attempts, that run and its log line. -/
theorem seedDatabases_succeeds {n : Nat} (hn : n < m.maxDatabaseSeedTries.toNat)
    (hfail : ∀ i < n, (m.osHelper.commandRuns i).2.isSome) (hok : (m.osHelper.commandRuns n).2 = none) :
    m.seedDatabases = ⟨m.retriesFrom 0 n ++ [.runCommand "bash" [m.dbSeedScriptPath]
      (m.osHelper.commandRuns n).1 none, .log "Seeding databases succeeded."], .returned none⟩ := by
  rw [seedDatabases_of_loop m (m.seedLoop_succeeds 0 "" none hn (by simpa using hfail) (by simpa using hok))]
  simp

/-- Every run of the script within the bound fails: `seedDatabases` logs the last run's
error and output after the failed attempts, stops mysqld, and returns that error. -/
theorem seedDatabases_exhausts (hM : 0 < m.maxDatabaseSeedTries)
    (hfail : ∀ i < m.maxDatabaseSeedTries.toNat, (m.osHelper.commandRuns i).2.isSome) :
    ∃ e, (m.osHelper.commandRuns (m.maxDatabaseSeedTries.toNat - 1)).2 = some e ∧
      m.seedDatabases = ⟨m.retriesFrom 0 m.maxDatabaseSeedTries.toNat ++
        [.log ("Error seeding databases: '" ++ e.message ++ "'\n'" ++
          (m.osHelper.commandRuns (m.maxDatabaseSeedTries.toNat - 1)).1 ++ "'"), .stopStandaloneMysql],
        .returned (some e)⟩ := by
  obtain ⟨t, ht⟩ : ∃ t, m.maxDatabaseSeedTries.toNat = t + 1 := ⟨_, (Nat.succ_pred_eq_of_pos (by omega)).symm⟩
  have hL := m.seedLoop_exhausts t 0 "" none (fun j hj => by simpa using hfail j (by omega))
  rw [← ht, Nat.zero_add] at hL
  obtain ⟨e, he⟩ := Option.isSome_iff_exists.mp (hfail t (by omega))
  rcases hrun : m.osHelper.commandRuns t with ⟨o, e'⟩
  rw [hrun] at he hL
  subst he
  exact ⟨e, by simp [ht, hrun], by rw [seedDatabases_of_loop m hL]; simp [ht, hrun]⟩

/-- Node 0 of three with two tries, whose seed script fails on its first run and succeeds on
its second. -/
def seedsOnSecondTry : MariaDBStartManager :=
  .new ⟨false, ("", none), fun n => if n = 0 then ("ERROR 2002", some ⟨"exit status 1"⟩) else ("", none),
    .written⟩ ⟨none⟩ ⟨(false, none), none⟩ "/var/vcap/store/mysql/state.txt"
    "/var/vcap/jobs/mysql/bin/seed" 0 3 ⟨false⟩ 2

theorem seedDatabases_trace (hM : 0 < m.maxDatabaseSeedTries) :
    (∀ n < m.maxDatabaseSeedTries.toNat, (∀ i < n, (m.osHelper.commandRuns i).2.isSome) →
      (m.osHelper.commandRuns n).2 = none →
      m.seedDatabases = ⟨m.retriesFrom 0 n ++ [.runCommand "bash" [m.dbSeedScriptPath]
        (m.osHelper.commandRuns n).1 none, .log "Seeding databases succeeded."], .returned none⟩) ∧
    ((∀ i < m.maxDatabaseSeedTries.toNat, (m.osHelper.commandRuns i).2.isSome) →
      ∃ e, (m.osHelper.commandRuns (m.maxDatabaseSeedTries.toNat - 1)).2 = some e ∧
        m.seedDatabases = ⟨m.retriesFrom 0 m.maxDatabaseSeedTries.toNat ++
          [.log ("Error seeding databases: '" ++ e.message ++ "'\n'" ++
            (m.osHelper.commandRuns (m.maxDatabaseSeedTries.toNat - 1)).1 ++ "'"), .stopStandaloneMysql],
          .returned (some e)⟩) :=
  ⟨fun _ hn hfail hok => m.seedDatabases_succeeds hn hfail hok, m.seedDatabases_exhausts hM⟩

theorem seedsOnSecondTry_trace : seedsOnSecondTry.seedDatabases =
    ⟨seedsOnSecondTry.retryCalls 0 ++ [.runCommand "bash" ["/var/vcap/jobs/mysql/bin/seed"] "" none,
      .log "Seeding databases succeeded."], .returned none⟩ :=
  (seedDatabases_trace seedsOnSecondTry (by decide)).1 1 (by decide) (by decide) rfl

/-- With at least one try: when the first `n` runs of the script fail and the next succeeds
within the bound, `seedDatabases` returns nil after `n + 1` runs without stopping mysqld;
when every run within the bound fails, it runs the script `maxDatabaseSeedTries` times,
stops mysqld once, and returns the last run's error, which is not nil. -/
theorem seedDatabases_retries (hM : 0 < m.maxDatabaseSeedTries) :
    (∀ n < m.maxDatabaseSeedTries.toNat, (∀ i < n, (m.osHelper.commandRuns i).2.isSome) →
      (m.osHelper.commandRuns n).2 = none →
      m.seedDatabases.result = .returned none ∧ m.seedDatabases.calls.countP Call.isRun = n + 1 ∧
        m.seedDatabases.calls.countP Call.isStop = 0) ∧
    ((∀ i < m.maxDatabaseSeedTries.toNat, (m.osHelper.commandRuns i).2.isSome) →
      m.seedDatabases.result = .returned (m.osHelper.commandRuns (m.maxDatabaseSeedTries.toNat - 1)).2 ∧
      (m.osHelper.commandRuns (m.maxDatabaseSeedTries.toNat - 1)).2.isSome ∧
      m.seedDatabases.calls.countP Call.isRun = m.maxDatabaseSeedTries.toNat ∧
      m.seedDatabases.calls.countP Call.isStop = 1) := by
  constructor
  · intro n hn hfail hok
    obtain ⟨hr, hs⟩ := m.retriesFrom_counts 0 n
    simp [m.seedDatabases_succeeds hn hfail hok, hr, hs, Call.isRun, Call.isStop]
  · intro hfail
    obtain ⟨e, he, hsd⟩ := m.seedDatabases_exhausts hM hfail
    obtain ⟨hr, hs⟩ := m.retriesFrom_counts 0 m.maxDatabaseSeedTries.toNat
    simp [hsd, he, hr, hs, Call.isRun, Call.isStop]

theorem seedsOnSecondTry_seeds : seedsOnSecondTry.seedDatabases.result = .returned none ∧
    seedsOnSecondTry.seedDatabases.calls.countP Call.isRun = 2 :=
  have h := (seedDatabases_retries seedsOnSecondTry (by decide)).1 1 (by decide) (by decide) rfl
  ⟨h.1, h.2.1⟩

end MariadbCtrl.MariaDBStartManager
