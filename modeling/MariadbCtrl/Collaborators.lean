/-
  MariadbCtrl.Collaborators — what the start manager (`mariadb_start_manager`,
  src/unnamed/part_000) sees of the world: Go's `error` and a runtime panic, the
  collaborators behind its interfaces (`os_helper.OsHelper`, `mariadb_helper.DBHelper`,
  `upgrader.Upgrader`, `galera_helper.ClusterReachabilityChecker`, the logger), and `Go`,
  one run of Go code against them.

  A collaborator is given by the answers it gives in one run. `Execute` asks each of them
  at most once, `RunCommand` aside, whose answer is given for every attempt; so these
  records range over every sequence of collaborator outcomes. A run records every call it
  makes, with its arguments and its answer, in order (`Go.calls`), and ends by returning or
  by a runtime panic (`Go.result`); a panic keeps the calls made before it.
-/

namespace MariadbCtrl

/-- A non-nil Go `error`; `err.Error()` is its message. A nil one is `none`. -/
structure GoError where
  message : String
  deriving DecidableEq, Repr

/-- The runtime panic the manager can hit: a method call through a nil interface. -/
inductive Panic where
  | nilDereference
  deriving DecidableEq, Repr

/-- What `WriteStringToFile` did to the file (`ioutil.WriteFile`: open truncating, write,
close): the file holds the contents; or it failed before opening, leaving the file as it
was; or it failed after truncating, with the first `n` characters written. -/
inductive WriteOutcome where
  | written
  | notOpened (err : GoError)
  | truncated (err : GoError) (n : Nat)
  deriving DecidableEq, Repr

/-- The error `WriteStringToFile` returns. -/
def WriteOutcome.err : WriteOutcome → Option GoError
  | .written => none
  | .notOpened e => some e
  | .truncated e _ => some e

/-- Whether the write opened the file, and so replaced what it held. -/
def WriteOutcome.opened : WriteOutcome → Bool
  | .notOpened _ => false
  | _ => true

/-- The answers of `os_helper.OsHelper` in one run. -/
structure OsHelper where
  fileFound : Bool
  /-- What `ReadFile` returns: the contents it read, and its error. -/
  fileRead : String × Option GoError
  /-- What the `n`-th `RunCommand` returns: the output, and its error. -/
  commandRuns : Nat → String × Option GoError
  fileWritten : WriteOutcome

/-- The answer of `mariadb_helper.DBHelper.StartMysqldInMode` in one run. -/
structure DBHelper where
  started : Option GoError

/-- The answers of `upgrader.Upgrader` in one run. -/
structure Upgrader where
  upgradeNeeded : Bool × Option GoError
  upgraded : Option GoError

/-- The answer of `galera_helper.ClusterReachabilityChecker.AnyNodesReachable` in one run. -/
structure ClusterReachabilityChecker where
  reachable : Bool

/-- One call of the manager on a collaborator, with its arguments and its answer. -/
inductive Call where
  | needsUpgrade (needed : Bool) (err : Option GoError)
  | upgrade (err : Option GoError)
  | fileExists (filename : String) (found : Bool)
  | readFile (filename contents : String) (err : Option GoError)
  | anyNodesReachable (reachable : Bool)
  | startMysqldInMode (command : String) (err : Option GoError)
  | runCommand (executable : String) (args : List String) (output : String) (err : Option GoError)
  | sleep (duration : Nat)
  | writeStringToFile (filename contents : String) (outcome : WriteOutcome)
  | stopStandaloneMysql
  | log (message : String)
  deriving DecidableEq, Repr

/-- How a run ends: it returns, or a runtime panic unwinds it. -/
inductive Outcome (α : Type) where
  | returned (a : α)
  | panicked (p : Panic)
  deriving DecidableEq, Repr

/-- One run of Go code: the calls it made, in order, and how it ended. -/
structure Go (α : Type) where
  calls : List Call
  result : Outcome α
  deriving DecidableEq, Repr

namespace Go

/-- Sequencing: a panic skips the rest. -/
def bind {α β : Type} (x : Go α) (f : α → Go β) : Go β :=
  match x.result with
  | .returned a => ⟨x.calls ++ (f a).calls, (f a).result⟩
  | .panicked p => ⟨x.calls, .panicked p⟩

instance : Monad Go where
  pure a := ⟨[], .returned a⟩
  bind := bind

variable {α β : Type}

@[simp] theorem pure_eq (a : α) : (pure a : Go α) = ⟨[], .returned a⟩ := rfl

@[simp] theorem returned_bind (cs : List Call) (a : α) (f : α → Go β) :
    (⟨cs, .returned a⟩ : Go α) >>= f = ⟨cs ++ (f a).calls, (f a).result⟩ := rfl

@[simp] theorem panicked_bind (cs : List Call) (p : Panic) (f : α → Go β) :
    (⟨cs, .panicked p⟩ : Go α) >>= f = ⟨cs, .panicked p⟩ := rfl

instance : LawfulMonad Go := LawfulMonad.mk' Go
  (fun x => by rcases x with ⟨cs, a | p⟩ <;> simp [Functor.map, bind])
  (fun a f => by simp)
  (fun x f g => by
    rcases x with ⟨cs, a | p⟩
    · rcases h : f a with ⟨ds, b | q⟩ <;> simp [h]
    · rfl)

/-- A call that answers `a`. -/
def call (c : Call) (a : α) : Go α := ⟨[c], .returned a⟩

@[simp] theorem call_calls (c : Call) (a : α) : (call c a).calls = [c] := rfl
@[simp] theorem call_result (c : Call) (a : α) : (call c a).result = .returned a := rfl

@[simp] theorem call_bind (c : Call) (a : α) (f : α → Go β) :
    call c a >>= f = ⟨c :: (f a).calls, (f a).result⟩ := rfl

end Go

open Go

/-- `err.Error()` through the `error` interface: a nil one panics. -/
def errorOf : Option GoError → Go String
  | some e => pure e.message
  | none => ⟨[], .panicked .nilDereference⟩

/-- `logger.Log`. -/
def log (message : String) : Go Unit := call (.log message) ()

/-- `time.Second`, in nanoseconds. -/
def second : Nat := 1000000000

namespace OsHelper

variable (h : OsHelper)

def fileExists (filename : String) : Go Bool := call (.fileExists filename h.fileFound) h.fileFound

def readFile (filename : String) : Go (String × Option GoError) :=
  call (.readFile filename h.fileRead.1 h.fileRead.2) h.fileRead

/-- `RunCommand`, as the run's `n`-th call of it. -/
def runCommand (n : Nat) (executable : String) (args : List String) : Go (String × Option GoError) :=
  call (.runCommand executable args (h.commandRuns n).1 (h.commandRuns n).2) (h.commandRuns n)

def writeStringToFile (filename contents : String) : Go (Option GoError) :=
  call (.writeStringToFile filename contents h.fileWritten) h.fileWritten.err

def sleep (_ : OsHelper) (duration : Nat) : Go Unit := call (.sleep duration) ()

end OsHelper

def DBHelper.startMysqldInMode (h : DBHelper) (command : String) : Go (Option GoError) :=
  call (.startMysqldInMode command h.started) h.started

def DBHelper.stopStandaloneMysql (_ : DBHelper) : Go Unit := call .stopStandaloneMysql ()

def Upgrader.needsUpgrade (u : Upgrader) : Go (Bool × Option GoError) :=
  call (.needsUpgrade u.upgradeNeeded.1 u.upgradeNeeded.2) u.upgradeNeeded

def Upgrader.upgrade (u : Upgrader) : Go (Option GoError) := call (.upgrade u.upgraded) u.upgraded

def ClusterReachabilityChecker.anyNodesReachable (c : ClusterReachabilityChecker) : Go Bool :=
  call (.anyNodesReachable c.reachable) c.reachable

/-! ## Kinds of calls -/

namespace Call

def isStart : Call → Bool
  | .startMysqldInMode .. => true
  | _ => false

/-- A start of mysqld in `command`, whatever it answered. -/
def isStartIn (command : String) : Call → Bool
  | .startMysqldInMode c _ => c == command
  | _ => false

def isProbe : Call → Bool
  | .anyNodesReachable .. => true
  | _ => false

def isWrite : Call → Bool
  | .writeStringToFile .. => true
  | _ => false

def isStop : Call → Bool
  | .stopStandaloneMysql => true
  | _ => false

def isRun : Call → Bool
  | .runCommand .. => true
  | _ => false

/-- The calls the seeding loop makes. -/
def isSeeding : Call → Bool
  | .runCommand .. | .log .. | .sleep .. | .stopStandaloneMysql => true
  | _ => false

/-- What `Execute` does before handing a boot over: the upgrade check, looking at the state
file, and logging. -/
def isAsk : Call → Bool
  | .needsUpgrade .. | .upgrade .. | .fileExists .. | .readFile .. | .log .. => true
  | _ => false

/-- What the manager does to the node, as opposed to what it asks or logs. -/
def isAction : Call → Bool
  | .upgrade .. | .startMysqldInMode .. | .runCommand .. | .sleep ..
  | .writeStringToFile .. | .stopStandaloneMysql => true
  | _ => false

/-- The state file after `c`, from `file` before it (`none`: absent). The manager writes no
other file. -/
def applyTo (file : Option String) : Call → Option String
  | .writeStringToFile _ contents .written => some contents
  | .writeStringToFile _ _ (.notOpened _) => file
  | .writeStringToFile _ contents (.truncated _ n) => some ⟨contents.data.take n⟩
  | _ => file

variable {c : Call}

theorem isStart_of_isStartIn {command : String} (h : c.isStartIn command) : c.isStart := by
  cases c <;> first | rfl | cases h

/-- Which kinds exclude which: a call `Execute` asks starts, probes, writes, stops and runs
nothing; a probe starts, writes, stops and runs nothing; a call of the seeding loop starts,
probes and writes nothing. -/
theorem kinds_exclusive (c : Call) :
    (c.isAsk → c.isStart = false ∧ c.isProbe = false ∧ c.isWrite = false ∧ c.isStop = false ∧ c.isRun = false) ∧
    (c.isProbe → c.isStart = false ∧ c.isWrite = false ∧ c.isStop = false ∧ c.isRun = false) ∧
    (c.isSeeding → c.isStart = false ∧ c.isProbe = false ∧ c.isWrite = false) := by
  cases c <;> simp [isAsk, isProbe, isSeeding, isStart, isWrite, isStop, isRun]

theorem applyTo_of_not_isWrite (h : c.isWrite = false) (file : Option String) : c.applyTo file = file := by
  cases c <;> first | rfl | cases h

end Call

/-- The state file after the calls `cs`, from `file` before them. -/
def fileAfter (file : Option String) (cs : List Call) : Option String := cs.foldl Call.applyTo file

@[simp] theorem fileAfter_nil (file : Option String) : fileAfter file [] = file := rfl

@[simp] theorem fileAfter_cons (file : Option String) (c : Call) (cs : List Call) :
    fileAfter file (c :: cs) = fileAfter (c.applyTo file) cs := rfl

theorem fileAfter_append (file : Option String) (cs ds : List Call) :
    fileAfter file (cs ++ ds) = fileAfter (fileAfter file cs) ds := List.foldl_append ..

/-- Calls that write nothing leave the file as it was. -/
theorem fileAfter_of_no_write {cs : List Call} (h : ∀ c ∈ cs, c.isWrite = false) (file : Option String) :
    fileAfter file cs = file := by
  induction cs generalizing file with
  | nil => rfl
  | cons c cs ih =>
    rw [fileAfter_cons, Call.applyTo_of_not_isWrite (h c (List.mem_cons_self c cs))]
    exact ih (fun d hd => h d (List.mem_cons_of_mem c hd)) file

end MariadbCtrl
