/-
  MariadbCtrl.Lifetime — one node's whole life: boot after boot, each `New` then `Execute`
  (part_000, lines 37-190) at a start of the node's job, under the deployment of its time
  (a redeploy may scale the node from one node to many, or back), the state file
  persisting in between.

  The state file's location is the node's, the same for its whole life (`Lifetime path`):
  every boot looks at and writes the file at `path`, so all its calls act on that one file.
  Each boot's collaborators answer from the file as the boots before it left it
  (`Answers.Reads`), and nothing but those boots writes it.

  A boot persists (`Persists`) when it returns nil and its `WriteStringToFile` opened the
  file; it then leaves its deployment's tag (`Deployment.tag`: `SINGLE_NODE` for node 0 of a
  one-node deployment, `CLUSTERED` otherwise), or the part of it written before the write
  failed (`persisted`).

  Proved, over every sequence of boots, every deployment of each and every collaborator
  outcome:
  - `state_file_last_persisted`: the state file holds what the last boot that persisted
    left, and what it held before the first boot when none did; a boot that fails, or whose
    write cannot open the file, leaves no trace.
  - `state_file_stays_well_formed`: boots keep a state file that is absent or holds a prefix
    of `SINGLE_NODE` or `CLUSTERED` so; from no file, no boot ever leaves anything else.
-/

import MariadbCtrl.StateFile

namespace MariadbCtrl

open MariaDBStartManager

/-- What a deploy sets, and a redeploy may change: `New`'s configuration but the state
file's location, which is the node's. -/
structure Deployment where
  dbSeedScriptPath : String
  jobIndex : Int
  numberOfNodes : Int
  maxDatabaseSeedTries : Int

/-- What the collaborators answer in one boot. -/
structure Answers where
  osHelper : OsHelper
  mariaDBHelper : DBHelper
  upgrader : Upgrader
  clusterReachabilityChecker : ClusterReachabilityChecker

/-- The manager of one boot of the node whose state file is at `path`: `New` on the
deployment and the boot's collaborators. -/
def Deployment.manager (d : Deployment) (path : String) (a : Answers) : MariaDBStartManager :=
  .new a.osHelper a.mariaDBHelper a.upgrader path d.dbSeedScriptPath d.jobIndex d.numberOfNodes
    a.clusterReachabilityChecker d.maxDatabaseSeedTries

/-- `FileExists` and `ReadFile` answer from the state file as it is: `ReadFile` returns its
content, or, when it fails, the part of it read before failing. -/
def Answers.Reads (a : Answers) (file : Option String) : Prop :=
  a.osHelper.fileFound = file.isSome ∧ ∀ c, file = some c →
    a.osHelper.fileRead = (c, none) ∨ (a.osHelper.fileRead.2.isSome ∧ a.osHelper.fileRead.1.data <+: c.data)

/-- The tag a boot of `d` writes to the state file when it returns nil. -/
def Deployment.tag (d : Deployment) : String :=
  if d.jobIndex = 0 ∧ d.numberOfNodes = 1 then SINGLE_NODE else CLUSTERED

theorem Deployment.plan_state_eq_tag (d : Deployment) (path : String) (a : Answers) :
    (d.manager path a).plan.state = d.tag :=
  (d.manager path a).plan_state

section Node

variable (path : String)

/-- The calls of boots one after another. -/
def callsOf (boots : List (Deployment × Answers)) : List Call :=
  boots.flatMap fun b => (b.1.manager path b.2).execute.calls

@[simp] theorem callsOf_nil : callsOf path [] = [] := rfl

theorem callsOf_cons (b : Deployment × Answers) (boots : List (Deployment × Answers)) :
    callsOf path (b :: boots) = (b.1.manager path b.2).execute.calls ++ callsOf path boots := rfl

theorem callsOf_append_singleton (boots : List (Deployment × Answers)) (b : Deployment × Answers) :
    callsOf path (boots ++ [b]) = callsOf path boots ++ (b.1.manager path b.2).execute.calls := by
  simp [callsOf]

/-- A node's boots one after another from the state file `file` at `path`, each under its
own deployment: each boot's collaborators answer from the file the boots before it left. -/
inductive Lifetime : Option String → List (Deployment × Answers) → Prop
  | nil (file : Option String) : Lifetime file []
  | boot (file : Option String) (b : Deployment × Answers) (rest : List (Deployment × Answers)) :
      b.2.Reads file → Lifetime (fileAfter file (b.1.manager path b.2).execute.calls) rest →
      Lifetime file (b :: rest)

variable {path}

/-- The boots after some boots of a lifetime are a lifetime from the file those left. -/
theorem Lifetime.suffix {file : Option String} :
    ∀ {pre rest : List (Deployment × Answers)}, Lifetime path file (pre ++ rest) →
      Lifetime path (fileAfter file (callsOf path pre)) rest
  | [], _, h => h
  | _ :: _, _, .boot _ _ _ _ h => by rw [callsOf_cons, fileAfter_append]; exact h.suffix

/-- A boot of a lifetime reads the file the boots before it left. -/
theorem Lifetime.reads_at {file : Option String} {pre post : List (Deployment × Answers)}
    {b : Deployment × Answers} (h : Lifetime path file (pre ++ b :: post)) :
    b.2.Reads (fileAfter file (callsOf path pre)) := by
  cases h.suffix with
  | boot _ _ _ hr _ => exact hr

variable (path)

/-- A boot, the deployment of its time with its collaborators' answers, returns nil and its
write opens the state file. -/
def Persists (b : Deployment × Answers) : Bool :=
  (b.1.manager path b.2).execute.result == .returned none && b.2.osHelper.fileWritten.opened

/-- What a boot that persists leaves in the state file: its tag, or the part of it written
before the write failed. -/
def persisted (b : Deployment × Answers) : String :=
  match b.2.osHelper.fileWritten with
  | .truncated _ n => ⟨b.1.tag.data.take n⟩
  | _ => b.1.tag

theorem persisted_prefix_tag (b : Deployment × Answers) : (persisted b).data <+: b.1.tag.data := by
  unfold persisted
  split
  · exact List.take_prefix _ _
  · exact List.prefix_refl _

/-! ## The state file over a lifetime -/

/-- One boot: a boot that persists leaves `persisted`, any other the file as it was. -/
theorem fileAfter_boot (b : Deployment × Answers) (file : Option String) :
    fileAfter file (b.1.manager path b.2).execute.calls = if Persists path b then some (persisted b) else file := by
  obtain ⟨d, a⟩ := b
  rw [fileAfter_execute, d.plan_state_eq_tag path a]
  by_cases h : (d.manager path a).execute.result = .returned none
  · rcases hw : a.osHelper.fileWritten with _ | e | ⟨e, n⟩ <;>
      simp [Persists, persisted, h, hw, Deployment.manager, MariaDBStartManager.new, Call.applyTo,
        WriteOutcome.opened]
  · simp [Persists, h]

theorem state_file_last_persisted (file : Option String) (boots : List (Deployment × Answers)) :
    fileAfter file (callsOf path boots) = match (boots.filter (Persists path)).getLast? with
      | none => file
      | some b => some (persisted b) := by
  induction boots using List.reverseRecOn with
  | nil => rfl
  | append_singleton boots b ih =>
    rw [callsOf_append_singleton, fileAfter_append, fileAfter_boot, ih, List.filter_append]
    cases hb : Persists path b <;> simp [hb]

/-! ## What the state file can hold -/

/-- The state file is absent, or holds a prefix of one of the two tags `Execute` writes. -/
def StateFileWellFormed : Option String → Prop
  | none => True
  | some c => c.data <+: SINGLE_NODE.data ∨ c.data <+: CLUSTERED.data

theorem Deployment.tag_cases (d : Deployment) : d.tag = SINGLE_NODE ∨ d.tag = CLUSTERED := by
  unfold Deployment.tag
  split_ifs
  exacts [.inl rfl, .inr rfl]

/-- One boot keeps the state file well formed. -/
theorem wellFormed_fileAfter_boot (b : Deployment × Answers) {file : Option String}
    (h : StateFileWellFormed file) :
    StateFileWellFormed (fileAfter file (b.1.manager path b.2).execute.calls) := by
  rw [fileAfter_boot]
  split
  · rcases b.1.tag_cases with ht | ht
    · exact Or.inl (ht ▸ persisted_prefix_tag b)
    · exact Or.inr (ht ▸ persisted_prefix_tag b)
  · exact h

theorem state_file_stays_well_formed {file : Option String} (boots : List (Deployment × Answers))
    (h : StateFileWellFormed file) : StateFileWellFormed (fileAfter file (callsOf path boots)) := by
  induction boots using List.reverseRecOn with
  | nil => exact h
  | append_singleton boots b ih =>
    rw [callsOf_append_singleton, fileAfter_append]
    exact wellFormed_fileAfter_boot path b ih

end Node

/-- Where the job keeps its state file. -/
def statePath : String := "/var/vcap/store/mysql/state.txt"

/-- Node 0 of a three-node deployment, one seeding try. -/
def node0Deployment : Deployment := ⟨"/var/vcap/jobs/mysql/bin/seed", 0, 3, 1⟩

/-- A boot that finds no state file and no peer, with every call succeeding but the write,
which does what `write` says. -/
def firstBoot (write : WriteOutcome) : Answers :=
  ⟨⟨false, ("", none), fun _ => ("", none), write⟩, ⟨none⟩, ⟨(false, none), none⟩, ⟨false⟩⟩

/-- A boot that reads `content` from the state file, with every call succeeding. -/
def laterBoot (content : String) : Answers :=
  ⟨⟨true, (content, none), fun _ => ("", none), .written⟩, ⟨none⟩, ⟨(false, none), none⟩, ⟨false⟩⟩

/-- Node 0's first boot as the only node of its deployment, its write succeeding. -/
def singleNodeBoot : Deployment × Answers := ({ node0Deployment with numberOfNodes := 1 }, firstBoot .written)

theorem singleNode_then_clustered_well_formed :
    StateFileWellFormed (fileAfter none (callsOf statePath [singleNodeBoot, (node0Deployment, laterBoot SINGLE_NODE)])) :=
  state_file_stays_well_formed statePath _ trivial

end MariadbCtrl
