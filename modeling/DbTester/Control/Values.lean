import DbTester.Control.Config

/-!
# The value corpus of the write benchmark

`newValues` builds the corpus once: one random value when no directory is configured,
otherwise the content of every file `walkDir` finds under it. The write generator then draws
value `i % sampleSize` for request `i`, and the read phase writes value `0` first.

* `Values`, `newValues`, `Values.pick`, `Values.first`;
* `newValues_spec`: a corpus that gets built has as many byte values as string values, one
  per sample, and each string holds its bytes;
* `pick_of_sampleSize_pos`: a corpus with a sample can serve every request;
* `empty_corpus_divides_by_zero`: a directory without files gives an empty corpus.
-/

namespace DbTester.Control

/-- A Go byte slice, and a Go string (which holds the bytes it was made from). -/
abbrev Bytes := List UInt8

/-- `values`. -/
structure Values where
  bytes : List Bytes
  strings : List Bytes
  sampleSize : Nat
  deriving DecidableEq, Repr

/-- `newValues(cfg)`: `random` is what `randBytes(ValueSize)` returns, `walk` what
`walkDir(ValueTestDataPath)` returns (the paths of the files), `readFile` what
`ioutil.ReadFile` returns; the first error is returned. -/
def newValues (cfg : Config) (random : Bytes) (walk : Except String (List String))
    (readFile : String → Except String Bytes) : Except String Values :=
  if cfg.step2.valueTestDataPath = "" then .ok ⟨[random], [random], 1⟩
  else match walk with
    | .error e => .error e
    | .ok fs => (fs.mapM readFile).map fun bs => ⟨bs, bs, bs.length⟩

/-- `vals.bytes[i%vals.sampleSize]` and `vals.strings[i%vals.sampleSize]` in
`generateWrites`: `none` where Go panics, on a division by zero or an index out of range. -/
def Values.pick (v : Values) (i : Nat) : Option (Bytes × Bytes) :=
  if v.sampleSize = 0 then none else do
    let b ← v.bytes[i % v.sampleSize]?
    let s ← v.strings[i % v.sampleSize]?
    pure (b, s)

/-- `vals.bytes[0]` and `vals.strings[0]` in the read phase: `none` where Go panics. -/
def Values.first (v : Values) : Option (Bytes × Bytes) := do
  let b ← v.bytes[0]?
  let s ← v.strings[0]?
  pure (b, s)

theorem mapM_length {fs : List String} {readFile : String → Except String Bytes}
    {bs : List Bytes} (h : fs.mapM readFile = .ok bs) : bs.length = fs.length := by
  induction fs generalizing bs with
  | nil => cases h; rfl
  | cons f fs ih =>
    simp only [List.mapM_cons, bind, Except.bind, pure, Except.pure] at h
    split at h
    · cases h
    · split at h
      · cases h
      · cases h; simp [ih ‹_›]

/-- **A corpus that gets built** has one byte value and one string value per sample, each
string holding its bytes; it has a sample unless the directory has no file. -/
theorem newValues_spec {cfg : Config} {random : Bytes} {walk : Except String (List String)}
    {readFile : String → Except String Bytes} {v : Values}
    (h : newValues cfg random walk readFile = .ok v) :
    v.bytes.length = v.sampleSize ∧ v.strings = v.bytes ∧
    (v.sampleSize = 0 → cfg.step2.valueTestDataPath ≠ "" ∧ walk = .ok []) := by
  unfold newValues at h
  by_cases hp : cfg.step2.valueTestDataPath = ""
  · rw [if_pos hp] at h
    cases h
    exact ⟨rfl, rfl, fun h0 => by cases h0⟩
  · rw [if_neg hp] at h
    cases hw : walk with
    | error e => rw [hw] at h; cases h
    | ok fs =>
      rw [hw] at h
      dsimp only at h
      cases hm : fs.mapM readFile with
      | error e => rw [hm] at h; cases h
      | ok bs =>
        rw [hm] at h
        cases h
        exact ⟨rfl, rfl, fun h0 => ⟨hp, by
          rw [List.eq_nil_of_length_eq_zero ((mapM_length hm).symm.trans h0)]⟩⟩

/-- With a sample, every request index picks a value, its bytes and its string alike, and the
read phase's value exists. -/
theorem pick_of_sampleSize_pos {v : Values} (hlen : v.bytes.length = v.sampleSize)
    (hs : v.strings = v.bytes) (hpos : 0 < v.sampleSize) (i : Nat) :
    (∃ b ∈ v.bytes, v.pick i = some (b, b)) ∧ v.first ≠ none := by
  have hi : i % v.sampleSize < v.bytes.length := by rw [hlen]; exact Nat.mod_lt i hpos
  have h0 : 0 < v.bytes.length := by rw [hlen]; exact hpos
  refine ⟨⟨_, List.getElem_mem hi, ?_⟩, ?_⟩
  · simp [Values.pick, hs, Nat.pos_iff_ne_zero.mp hpos, List.getElem?_eq_getElem hi]
  · simp [Values.first, hs, List.getElem?_eq_getElem h0]

/-- A write benchmark of one request with values from the directory `corpus`. -/
def corpusCfg : Config :=
  { (default : Config) with
    step2 := { (default : Step2) with valueTestDataPath := "corpus", totalRequests := 1 } }

/-- A directory without files gives `newValues` no error and an empty corpus: the write
generator's `i % vals.sampleSize` then divides by zero, and the read phase's `vals.strings[0]`
is out of range. -/
theorem empty_corpus_divides_by_zero :
    newValues corpusCfg [] (.ok []) (fun _ => .ok []) = .ok ⟨[], [], 0⟩ ∧
    (⟨[], [], 0⟩ : Values).pick 0 = none ∧ (⟨[], [], 0⟩ : Values).first = none :=
  ⟨rfl, rfl, rfl⟩

end DbTester.Control
