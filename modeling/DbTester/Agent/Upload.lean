import DbTester.Agent.Workdir

/-!
# The remote names of the uploaded files

When a Stop's signal reaches it, a monitor goroutine uploads the database log, the monitor CSV
and the agent log. Each file goes to `{TestName}-{ServerIndex+1}-{base}` under the
subdirectory, unless its base name already starts with the test name: then it keeps its base
name, and every node uploads to the same object.

* `uploadName`, `Process.remoteName`: the name an upload goes to;
* `remoteName_ne`: nodes with distinct indices name an artifact differently when the test name
  is not a prefix of its file name;
* `empty_test_name_collides`: with the default empty test name every node uploads each
  artifact to the same object;
* `uploadAttempts`: the retry loop around each upload.
-/

namespace DbTester.Agent

open Go

/-- The remote name of the file at `localPath`: `fmt.Sprintf("%s-%d-%s", TestName,
ServerIndex+1, base)` unless `strings.HasPrefix(base, TestName)`, then `filepath.Join` with the
subdirectory. `ServerIndex+1` is a `uint32` sum. -/
def uploadName (req : Request) (localPath : String) : String :=
  let base := Filepath.base localPath
  let dst := if !Strings.hasPrefix base req.testName then
      req.testName ++ "-" ++ toString (req.serverIndex + 1) ++ "-" ++ base
    else base
  Filepath.join [req.googleCloudStorageSubDirectory, dst]

/-- The name a goroutine of the process uploads an artifact to: from the request in the record
and the global that holds the artifact's path, both read when the upload starts. -/
def Process.remoteName (a : Process) (k : Artifact) : String :=
  uploadName a.server.req (k.path a.paths)

/-! ### Distinct nodes, distinct names -/

theorem sep_not_mem_toDigitsCore (f n : Nat) {ds : List Char} (hds : '/' ∉ ds) :
    '/' ∉ Nat.toDigitsCore 10 f n ds := by
  induction f generalizing n ds with
  | zero => exact hds
  | succ f ih =>
    have hd : '/' ∉ Nat.digitChar (n % 10) :: ds := by
      have hlt := Nat.mod_lt n (show 10 > 0 by omega)
      simp only [List.mem_cons, not_or]
      exact ⟨fun h => by interval_cases (n % 10) <;> simp_all [Nat.digitChar], hds⟩
    simp only [Nat.toDigitsCore]
    split
    · exact hd
    · exact ih _ hd

theorem sep_not_mem_toString (n : Nat) : '/' ∉ (toString n).data :=
  sep_not_mem_toDigitsCore (n + 1) n (List.not_mem_nil _)

/-- The part of a name after the test name. -/
def ordinalTail (i : UInt32) (base : String) : String :=
  "-" ++ toString (i + 1) ++ "-" ++ base

theorem ordinalTail_injective {i j : UInt32} {base : String}
    (h : ordinalTail i base = ordinalTail j base) : i = j := by
  have hd := congrArg String.data h
  simp only [ordinalTail, String.data_append, List.append_assoc] at hd
  replace hd := List.append_cancel_right (List.append_cancel_left hd)
  have hn : (i + 1).toNat = (j + 1).toNat :=
    toString_nat_injective (String.ext (by simpa using hd))
  have hb : i.toBitVec + (1 : UInt32).toBitVec = j.toBitVec + (1 : UInt32).toBitVec :=
    congrArg UInt32.toBitVec (UInt32.toNat.inj hn)
  exact UInt32.eq_of_toBitVec_eq (by bv_omega)

theorem uploadName_of_not_prefix {req : Request} {p : String} {k : Artifact}
    (hb : Filepath.base p = k.fileName) (ht : Strings.hasPrefix k.fileName req.testName = false) :
    uploadName req p = Filepath.join [req.googleCloudStorageSubDirectory,
      req.testName ++ ordinalTail req.serverIndex k.fileName] := by
  simp only [uploadName, hb, ht, Bool.not_false, if_true, ordinalTail, String.append_assoc]

/-- **Distinct nodes upload to distinct names** when the test name is not a prefix of the
artifact's file name: two agents in any reachable states, with the same test name and
subdirectory in their records and distinct server indices, name the artifact differently,
whatever their working directories. -/
theorem remoteName_ne {h₁ h₂ : Host} {a₁ a₂ : Process} (hr₁ : Reach h₁ a₁) (hr₂ : Reach h₂ a₂)
    (k : Artifact) (ht : a₁.server.req.testName = a₂.server.req.testName)
    (hd : a₁.server.req.googleCloudStorageSubDirectory =
      a₂.server.req.googleCloudStorageSubDirectory)
    (hi : a₁.server.req.serverIndex ≠ a₂.server.req.serverIndex)
    (hp : Strings.hasPrefix k.fileName a₁.server.req.testName = false) :
    a₁.remoteName k ≠ a₂.remoteName k := by
  have hbase : ∀ {h : Host} {a : Process}, Reach h a → Filepath.base (k.path a.paths) = k.fileName :=
    fun hr => Filepath.base_of_endsIn (artifact_endsIn hr k) k.isName.1 k.sep_not_mem
  have htail : ∀ i : UInt32, '/' ∉ (ordinalTail i k.fileName).data ∧
      ∃ c ∈ (ordinalTail i k.fileName).data, c ≠ '.' := fun i =>
    ⟨by simpa [ordinalTail] using And.intro (sep_not_mem_toString (i + 1).toNat) k.sep_not_mem,
      ⟨'-', by simp [ordinalTail]⟩⟩
  intro heq
  rw [Process.remoteName, Process.remoteName, uploadName_of_not_prefix (hbase hr₁) hp,
    uploadName_of_not_prefix (hbase hr₂) (ht ▸ hp), hd, ← ht] at heq
  exact hi (ordinalTail_injective (Filepath.join_append_injective (htail _).1 (htail _).1
    (htail _).2 (htail _).2 heq))

/-- A Start of etcd on two peers for node `i` of test `name`. -/
def nodeReq (name : String) (i : UInt32) : Request :=
  { startReq with peerIPString := "10.0.0.1___10.0.0.2", testName := name, serverIndex := i }

theorem remoteName_ne_at_nodes :
    (stopRun (nodeReq "run" 0)).remoteName .databaseLog = "run-1-database.log" ∧
    (stopRun (nodeReq "run" 1)).remoteName .databaseLog = "run-2-database.log" ∧
    (stopRun (nodeReq "run" 0)).remoteName .databaseLog ≠
      (stopRun (nodeReq "run" 1)).remoteName .databaseLog :=
  ⟨by decide, by decide, remoteName_ne
    ((Reach.init (h := demoHost)).run (stopEvents (nodeReq "run" 0)) rfl)
    ((Reach.init (h := demoHost)).run (stopEvents (nodeReq "run" 1)) rfl) .databaseLog rfl rfl (by decide)
    (by decide)⟩

/-- With the empty test name, the default, every base name starts with it: nodes 0 and 1,
each past a Stop whose signal its goroutine took, upload every artifact to the same object, the
artifact's bare file name. -/
theorem empty_test_name_collides :
    Reach demoHost (stopRun (nodeReq "" 0)) ∧ Reach demoHost (stopRun (nodeReq "" 1)) ∧
    (∃ l ∈ (stopRun (nodeReq "" 0)).loops, l.pc = .uploading) ∧
    (∃ l ∈ (stopRun (nodeReq "" 1)).loops, l.pc = .uploading) ∧
    (stopRun (nodeReq "" 0)).server.req.serverIndex ≠
      (stopRun (nodeReq "" 1)).server.req.serverIndex ∧
    ∀ k : Artifact, (stopRun (nodeReq "" 0)).remoteName k = k.fileName ∧
      (stopRun (nodeReq "" 1)).remoteName k = k.fileName :=
  ⟨Reach.init.run (stopEvents (nodeReq "" 0)) rfl, Reach.init.run (stopEvents (nodeReq "" 1)) rfl,
    by decide, by decide, by decide, fun k => by cases k <;> decide⟩

/-! ### The retry loop -/

/-- The attempts of `for k := 0; k < 30; k++` from attempt `k` with `n` left: a failed
`UploadFile` sleeps two seconds and goes on to the next attempt, the first that succeeds ends
the loop. -/
def uploadAttempts (ok : Nat → Bool) : Nat → Nat → List Nat
  | 0, _ => []
  | n + 1, k => k :: if ok k then [] else uploadAttempts ok n (k + 1)

/-- The two-second sleeps: one after each failed attempt. -/
def backoffs (ok : Nat → Bool) (attempts : List Nat) : Nat :=
  (attempts.filter fun k => !ok k).length

section Retry

variable {ok : Nat → Bool}

/-- **An upload that succeeds at attempt `k + m`**, within the attempts left, is tried exactly
at `k, …, k + m`. -/
theorem uploadAttempts_of_ok {n k m : Nat} (hm : m < n) (hfail : ∀ j < m, ok (k + j) = false)
    (hok : ok (k + m) = true) : uploadAttempts ok n k = List.range' k (m + 1) := by
  obtain ⟨n, rfl⟩ : ∃ n', n = n' + 1 := ⟨n - 1, by omega⟩
  induction m generalizing n k with
  | zero => simp_all [uploadAttempts]
  | succ m ih =>
    have h0 : ok k = false := by simpa using hfail 0 (by omega)
    have shift : ∀ j, k + 1 + j = k + (j + 1) := fun j => by omega
    obtain ⟨n, rfl⟩ : ∃ n', n = n' + 1 := ⟨n - 1, by omega⟩
    rw [uploadAttempts.eq_2, if_neg (by simp [h0]),
      ih (fun j hj => shift j ▸ hfail (j + 1) (by omega)) (shift m ▸ hok) n (by omega)]
    rfl

/-- **An upload that always fails** is tried at each of the attempts left. -/
theorem uploadAttempts_of_fail {n k : Nat} (hfail : ∀ j < n, ok (k + j) = false) :
    uploadAttempts ok n k = List.range' k n := by
  induction n generalizing k with
  | zero => rfl
  | succ n ih =>
    have h0 : ok k = false := by simpa using hfail 0 (by omega)
    have shift : ∀ j, k + 1 + j = k + (j + 1) := fun j => by omega
    rw [uploadAttempts.eq_2, if_neg (by simp [h0]),
      ih fun j hj => shift j ▸ hfail (j + 1) (by omega)]
    rfl

/-- Before the attempt that succeeds, every attempt failed and slept once. -/
theorem backoffs_of_ok {n k m : Nat} (hm : m < n) (hfail : ∀ j < m, ok (k + j) = false)
    (hok : ok (k + m) = true) : backoffs ok (uploadAttempts ok n k) = m := by
  have hr : ∀ i ∈ List.range' k m, (!ok i) = true := fun i hi => by
    obtain ⟨h₁, h₂⟩ := List.mem_range'_1.mp hi
    simpa [Nat.add_sub_cancel' h₁] using hfail (i - k) (by omega)
  rw [uploadAttempts_of_ok hm hfail hok, backoffs, List.range'_1_concat, List.filter_append,
    List.filter_eq_self.mpr hr]
  simp [hok]

end Retry

end DbTester.Agent
