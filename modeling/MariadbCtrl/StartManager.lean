/-
  MariadbCtrl.StartManager — `mariadb_start_manager` (src/unnamed/part_000), function by
  function: `New`, `Execute`, and the helpers `Execute` hands the boot to
  (`bootstrapCluster`, `bootstrapNode`, `joinCluster`, `writeStringToFile`,
  `node0JoinCluster`, `seedDatabases`).

  Go's early `return`s are the `match` on the error just returned; a discarded result is
  `let _ ←`. The seeding loop `for numTries := 0; numTries < maxDatabaseSeedTries; numTries++`
  is `seedLoop` on the number of iterations left, `maxDatabaseSeedTries.toNat - numTries`.
  The logger is the `log` calls; `mysqlClientPath` and `showDatabasesScriptPath` are read by
  no function of the file and left out.
-/

import MariadbCtrl.Collaborators

namespace MariadbCtrl

open Go

def CLUSTERED : String := "CLUSTERED"
def SINGLE_NODE : String := "SINGLE_NODE"
def BOOTSTRAP_COMMAND : String := "bootstrap"
def JOIN_COMMAND : String := "start"

structure MariaDBStartManager where
  osHelper : OsHelper
  stateFileLocation : String
  jobIndex : Int
  numberOfNodes : Int
  dbSeedScriptPath : String
  clusterReachabilityChecker : ClusterReachabilityChecker
  maxDatabaseSeedTries : Int
  mariaDBHelper : DBHelper
  upgrader : Upgrader

namespace MariaDBStartManager

/-- `New`: stores its arguments, checking none of them. -/
def new (osHelper : OsHelper) (mariaDBHelper : DBHelper) (upgrader : Upgrader)
    (stateFileLocation dbSeedScriptPath : String) (jobIndex numberOfNodes : Int)
    (clusterReachabilityChecker : ClusterReachabilityChecker) (maxDatabaseSeedTries : Int) :
    MariaDBStartManager :=
  { osHelper, stateFileLocation, jobIndex, numberOfNodes, dbSeedScriptPath,
    clusterReachabilityChecker, maxDatabaseSeedTries, mariaDBHelper, upgrader }

variable (m : MariaDBStartManager)

/-- The seeding loop from attempt `numTries`, with `tries` iterations left: `none` is the
`return` after a seed that succeeded, `some (output, err)` the loop's variables once the
loop condition fails. -/
def seedLoop : (tries numTries : Nat) → String → Option GoError →
    Go (Option (String × Option GoError))
  | 0, _, output, err => pure (some (output, err))
  | tries + 1, numTries, _, _ => do
    let (output, err) ← m.osHelper.runCommand numTries "bash" [m.dbSeedScriptPath]
    match err with
    | none =>
      log "Seeding databases succeeded."
      pure none
    | some _ =>
      log ("There was a problem seeding the database: '" ++ output ++ "'")
      log "Retrying seeding script..."
      m.osHelper.sleep (1 * second)
      seedLoop tries (numTries + 1) output err

def seedDatabases : Go (Option GoError) := do
  match ← m.seedLoop m.maxDatabaseSeedTries.toNat 0 "" none with
  | none => pure none
  | some (output, err) =>
    log ("Error seeding databases: '" ++ (← errorOf err) ++ "'\n'" ++ output ++ "'")
    m.mariaDBHelper.stopStandaloneMysql
    pure err

def bootstrapNode : Go (Option GoError) := do
  let command := if (← m.clusterReachabilityChecker.anyNodesReachable) then JOIN_COMMAND
    else BOOTSTRAP_COMMAND
  m.mariaDBHelper.startMysqldInMode command

def writeStringToFile (contents : String) : Go Unit := do
  log ("updating file with contents: '" ++ contents ++ "'")
  let _ ← m.osHelper.writeStringToFile m.stateFileLocation contents
  pure ()

def bootstrapCluster (state : String) : Go (Option GoError) := do
  let err ← m.bootstrapNode
  match err with
  | some _ => pure err
  | none =>
    let err ← m.seedDatabases
    match err with
    | some _ => pure err
    | none =>
      log ("writing file with contents: '" ++ state ++ "'")
      let _ ← m.osHelper.writeStringToFile m.stateFileLocation state
      pure none

def joinCluster : Go (Option GoError) := do
  let err ← m.mariaDBHelper.startMysqldInMode JOIN_COMMAND
  match err with
  | some _ => pure err
  | none =>
    m.writeStringToFile CLUSTERED
    pure none

def node0JoinCluster : Go (Option GoError) := do
  let err ← m.mariaDBHelper.startMysqldInMode JOIN_COMMAND
  match err with
  | some _ => pure err
  | none =>
    let err ← m.seedDatabases
    match err with
    | some _ => pure err
    | none =>
      m.writeStringToFile CLUSTERED
      pure none

def execute : Go (Option GoError) := do
  let (needsUpgrade, err) ← m.upgrader.needsUpgrade
  match err with
  | some e =>
    log ("Failed to determine upgrade status with error: " ++ e.message)
    pure err
  | none =>
    let err ← if needsUpgrade then m.upgrader.upgrade else pure none
    match err with
    | some e =>
      log ("Failed to upgrade with error: " ++ e.message)
      pure err
    | none =>
      -- nodes > 0 always join an existing cluster
      if m.jobIndex ≠ 0 then m.joinCluster
      else if m.numberOfNodes = 1 then do
        log "Single node deploy"
        m.bootstrapCluster SINGLE_NODE
      else do
        -- multi-node deployments; initial deploy: the state file does not exist
        let found ← m.osHelper.fileExists m.stateFileLocation
        if !found then do
          log ("state file does not exist, creating with contents: '" ++ CLUSTERED ++ "'")
          m.bootstrapCluster CLUSTERED
        else do
          let (state, _) ← m.osHelper.readFile m.stateFileLocation
          log ("state file exists and contains: '" ++ state ++ "'")
          -- scaling up from a single node cluster
          if state = SINGLE_NODE then m.bootstrapCluster CLUSTERED
          else m.node0JoinCluster

end MariaDBStartManager

end MariadbCtrl
