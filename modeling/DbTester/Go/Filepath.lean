import DbTester.Go.Strings

/-!
# Go's `path/filepath` on Unix: `Clean`, `Join`, `Base`

`Clean` is purely lexical. Its documentation states the rules it applies until none is left:
replace repeated separators by one, drop each `.` element, drop each `..` element with the
non-`..` element before it, drop `..` elements at the start of a rooted path; the empty result
is `"."`. `clean` applies them in one left-to-right pass over the elements, keeping the elements
so far on a stack, as the loop of `Clean` does with its write index and `dotdot` mark.

* `clean`, `join` (`filepath.Join(elem...)`), `base` (`filepath.Base`);
* `splitOn_append_cons`, `splitOn_append_of_not_mem`: the elements of a concatenation;
* `clean_eq_of_elems`: a path whose last element is an ordinary name cleans to a prefix that
  depends only on the elements before it, followed by that name;
* `base_append`: `Base` gives back the last element.
-/

namespace DbTester.Go.Filepath

/-- What `Clean` keeps of one element, given the elements kept so far (the last one first):
an empty element and `.` go; `..` removes the element before it, or stays at the start of a
relative path and goes at the start of a rooted one. -/
def cleanStep (rooted : Bool) (out : List String) (e : String) : List String :=
  if e = "" ∨ e = "." then out
  else if e = ".." then
    match out with
    | o :: rest => if o ≠ ".." then rest else if rooted then out else ".." :: out
    | [] => if rooted then [] else [".."]
  else e :: out

/-- The elements of a path: the pieces between its separators, empty ones included. -/
def elems (path : String) : List String := (path.data.splitOn '/').map String.mk

/-- The separator and the elements `Clean` keeps, before the empty result becomes `"."`. -/
def cleanBody (rooted : Bool) (es : List String) : String :=
  (if rooted then "/" else "") ++ Strings.join (es.foldl (cleanStep rooted) []).reverse "/"

/-- `filepath.Clean(path)`. -/
def clean (path : String) : String :=
  if path = "" then "." else
    let s := cleanBody (path.data.head? == some '/') (elems path)
    if s = "" then "." else s

/-- `filepath.Join(elem...)`: the arguments from the first nonempty one on, joined by the
separator and cleaned; `""` when all are empty. -/
def join (elem : List String) : String :=
  match elem.dropWhile (· == "") with
  | [] => ""
  | es => clean (Strings.join es "/")

/-- `filepath.Base(path)`: the last element once trailing separators are stripped; `"."` for
the empty path and `"/"` for a path of separators only. -/
def base (path : String) : String :=
  if path = "" then "." else
    let last := ((path.data.reverse.dropWhile (· == '/')).takeWhile (· != '/')).reverse
    if last = [] then "/" else String.mk last

/-- `filepath.HasPrefix(p, prefix)`: a plain string-prefix test, the same as
`strings.HasPrefix`. -/
def hasPrefix (p pre : String) : Bool := Strings.hasPrefix p pre

/-! ### The elements of a concatenation -/

section SplitOn

variable {α : Type} [DecidableEq α] (x : α)

theorem splitOn_append_cons (A B : List α) :
    (A ++ x :: B).splitOn x = A.splitOn x ++ B.splitOn x := by
  induction A with
  | nil => simp [List.splitOn, List.splitOnP_cons]
  | cons a A ih =>
    simp only [List.splitOn] at ih ⊢
    rw [List.cons_append, List.splitOnP_cons, List.splitOnP_cons, ih]
    split
    · rfl
    · obtain ⟨e, es, he⟩ := List.exists_cons_of_ne_nil (List.splitOnP_ne_nil (· == x) A)
      simp [he]

/-- Appending a piece without separators extends the last element. -/
theorem splitOn_append_of_not_mem (A : List α) {B : List α} (hB : x ∉ B) :
    ∃ es e, A.splitOn x = es ++ [e] ∧ (A ++ B).splitOn x = es ++ [e ++ B] := by
  induction A with
  | nil =>
    refine ⟨[], [], rfl, ?_⟩
    simpa [List.splitOn] using
      List.splitOnP_eq_single (· == x) B (fun y hy h => hB (eq_of_beq h ▸ hy))
  | cons a A ih =>
    obtain ⟨es, e, h1, h2⟩ := ih
    simp only [List.splitOn] at h1 h2 ⊢
    rw [List.cons_append, List.splitOnP_cons, List.splitOnP_cons, h1, h2]
    split
    · exact ⟨[] :: es, e, rfl, rfl⟩
    · cases es with
      | nil => exact ⟨[], a :: e, rfl, rfl⟩
      | cons f fs => exact ⟨(a :: f) :: fs, e, rfl, rfl⟩

end SplitOn

/-! ### Cleaning a path that ends in a name -/

/-- An ordinary name: not empty, not `.` or `..`. `Clean` keeps such a last element. -/
def IsName (e : String) : Prop := e ≠ "" ∧ e ≠ "." ∧ e ≠ ".."

theorem append_ne_empty {d e : String} (he : e ≠ "") : d ++ e ≠ "" := fun h0 =>
  he (String.ext (List.append_eq_nil.mp (congrArg String.data h0)).2)

theorem cleanStep_name {e : String} (he : IsName e) (rooted : Bool) (out : List String) :
    cleanStep rooted out e = e :: out := by
  simp [cleanStep, he.1, he.2.1, he.2.2]

theorem join_append_single (l : List String) (e sep : String) :
    Strings.join (l ++ [e]) sep = if l = [] then e else Strings.join l sep ++ sep ++ e := by
  induction l with
  | nil => rfl
  | cons a l ih =>
    cases l with
    | nil => simp
    | cons b l =>
      rw [List.cons_append, List.cons_append, Strings.join_cons_cons, ← List.cons_append, ih]
      simp [String.append_assoc]

/-- The cleaned form of the elements before a last name: the root, the kept elements, and a
separator before the name when anything precedes it. -/
def cleanPrefix (rooted : Bool) (es : List String) : String :=
  let out := (es.foldl (cleanStep rooted) []).reverse
  (if rooted then "/" else "") ++ (if out = [] then "" else Strings.join out "/" ++ "/")

theorem cleanBody_append_name (rooted : Bool) (es : List String) {e : String} (he : IsName e) :
    cleanBody rooted (es ++ [e]) = cleanPrefix rooted es ++ e := by
  simp only [cleanBody, cleanPrefix, List.foldl_append, List.foldl_cons, List.foldl_nil,
    cleanStep_name he, List.reverse_cons, join_append_single, List.reverse_eq_nil_iff]
  by_cases h : List.foldl (cleanStep rooted) [] es = [] <;> simp [h, String.append_assoc]

/-- **A path whose last element is a name cleans to a prefix fixed by the elements before it,
followed by the name.** -/
theorem clean_eq_of_elems {s e : String} {es : List String} (h : elems s = es ++ [e])
    (he : IsName e) : clean s = cleanPrefix (s.data.head? == some '/') es ++ e := by
  have hs : s ≠ "" := by
    rintro rfl
    have := congrArg List.getLast? h
    simp [elems] at this
    exact he.1 this.symm
  simp only [clean, hs, h, cleanBody_append_name _ _ he, if_false, append_ne_empty he.1]

theorem elems_append_sep (a b : String) : elems (a ++ "/" ++ b) = elems a ++ elems b := by
  simp only [elems, String.data_append, List.append_assoc]
  rw [show "/".data ++ b.data = '/' :: b.data from rfl, splitOn_append_cons, List.map_append]

theorem elems_of_not_mem {e : String} (h : '/' ∉ e.data) : elems e = [e] := by
  simp only [elems, List.splitOn]
  rw [List.splitOnP_eq_single _ _ (fun y hy hy' => h (by simp at hy'; exact hy' ▸ hy))]
  rfl

/-! ### Paths that end in a given name -/

/-- `p` is the name `e`, or a directory part, a separator and `e`. -/
def EndsIn (e p : String) : Prop := p = e ∨ ∃ d, p = d ++ "/" ++ e

theorem elems_of_endsIn {e p : String} (h : EndsIn e p) (he : '/' ∉ e.data) :
    ∃ es, elems p = es ++ [e] := by
  rcases h with rfl | ⟨d, rfl⟩
  · exact ⟨[], elems_of_not_mem he⟩
  · exact ⟨elems d, by rw [elems_append_sep, elems_of_not_mem he]⟩

theorem endsIn_cleanPrefix (rooted : Bool) (es : List String) (e : String) :
    EndsIn e (cleanPrefix rooted es ++ e) := by
  unfold cleanPrefix
  by_cases hout : (List.foldl (cleanStep rooted) [] es).reverse = []
  · cases rooted
    · exact Or.inl (by simp [hout])
    · exact Or.inr ⟨"", by simp [hout]⟩
  · exact Or.inr ⟨(if rooted then "/" else "") ++
      Strings.join (List.foldl (cleanStep rooted) [] es).reverse "/",
      by simp [hout, String.append_assoc]⟩

/-- A name at the end of a path survives `Clean`. -/
theorem endsIn_clean {e p : String} (h : EndsIn e p) (he : IsName e) (hs : '/' ∉ e.data) :
    EndsIn e (clean p) := by
  obtain ⟨es, hes⟩ := elems_of_endsIn h hs
  rw [clean_eq_of_elems hes he]
  exact endsIn_cleanPrefix _ _ _

theorem join_pair (a b : String) (hb : b ≠ "") :
    join [a, b] = if a = "" then clean b else clean (a ++ "/" ++ b) := by
  have hb' : (b == "") = false := by simpa using hb
  by_cases ha : a = ""
  · subst ha; simp [join, List.dropWhile, hb']
  · have ha' : (a == "") = false := by simpa using ha
    simp [join, List.dropWhile, ha', ha]

/-- A name at the end of a path survives `Join` with any directory in front. -/
theorem endsIn_join {e p : String} (dir : String) (h : EndsIn e p) (he : IsName e)
    (hs : '/' ∉ e.data) : EndsIn e (join [dir, p]) := by
  have hp : p ≠ "" := by
    rintro rfl
    rcases h with h | ⟨d, h⟩
    · exact he.1 h.symm
    · exact append_ne_empty he.1 h.symm
  rw [join_pair dir p hp]
  split
  · exact endsIn_clean h he hs
  · refine endsIn_clean ?_ he hs
    rcases h with rfl | ⟨d, rfl⟩
    · exact Or.inr ⟨dir, rfl⟩
    · exact Or.inr ⟨dir ++ "/" ++ d, by simp only [String.append_assoc]⟩

theorem base_append_name {d e : String} (hd : d = "" ∨ d.data.getLast? = some '/')
    (he : e ≠ "") (hs : '/' ∉ e.data) : base (d ++ e) = e := by
  obtain ⟨c, cs, hc⟩ := List.exists_cons_of_ne_nil (fun h0 : e.data.reverse = [] =>
    he (String.ext (List.reverse_eq_nil_iff.mp h0)))
  have hc' : c ≠ '/' := fun h0 => hs (List.mem_reverse.mp (h0 ▸ hc ▸ List.mem_cons_self c cs))
  have hall : ∀ x ∈ e.data.reverse, (x != '/') = true := by
    intro x hx
    simp only [bne_iff_ne, ne_eq]
    rintro rfl
    exact hs (List.mem_reverse.mp hx)
  have htail : (d.data.reverse.takeWhile (· != '/')) = [] := by
    rcases hd with rfl | hd
    · rfl
    · obtain ⟨l, hl⟩ := List.getLast?_eq_some_iff.mp hd
      simp [hl]
  have hdrop : (e.data.reverse ++ d.data.reverse).dropWhile (· == '/') =
      e.data.reverse ++ d.data.reverse := by
    rw [hc]
    exact List.dropWhile_cons_of_neg (by simpa using hc')
  have htake : (e.data.reverse ++ d.data.reverse).takeWhile (· != '/') = e.data.reverse := by
    rw [List.takeWhile_append_of_pos hall, htail, List.append_nil]
  simp only [base, append_ne_empty he, if_false, String.data_append, List.reverse_append, hdrop,
    htake, List.reverse_reverse]
  rw [if_neg (fun h0 => he (String.ext h0))]

/-- `Base` of a path that ends in a name is that name. -/
theorem base_of_endsIn {e p : String} (h : EndsIn e p) (he : e ≠ "") (hs : '/' ∉ e.data) :
    base p = e := by
  rcases h with rfl | ⟨d, rfl⟩
  · simpa using base_append_name (d := "") (Or.inl rfl) he hs
  · exact base_append_name (Or.inr (by simp)) he hs

/-- The cleaned elements before a last name are not empty when a name precedes it. -/
theorem cleanPrefix_append_name_ne {d : String} (hd : IsName d) (rooted : Bool)
    (es : List String) : cleanPrefix rooted (es ++ [d]) ≠ "" := by
  simp only [cleanPrefix, List.foldl_append, List.foldl_cons, List.foldl_nil, cleanStep_name hd,
    List.reverse_cons, List.append_eq_nil, List.cons_ne_nil, and_false, if_false]
  intro h0
  have := congrArg String.length h0
  have h1 : "/".length = 1 := rfl
  have h2 : "".length = 0 := rfl
  simp only [String.length_append] at this
  omega

/-- **A path joined onto `d/e`**, for names `d` and `e`, keeps a directory part: its base is
not the whole path, so `exec.Command` does not look it up in `PATH`. -/
theorem base_join_ne {dir d e : String} (hd : IsName d) (hds : '/' ∉ d.data) (he : IsName e)
    (hes : '/' ∉ e.data) : base (join [dir, d ++ "/" ++ e]) ≠ join [dir, d ++ "/" ++ e] := by
  have hclean : ∀ {s : String} (es : List String), elems s = es ++ [d, e] →
      base (clean s) ≠ clean s := by
    intro s es hs
    rw [@clean_eq_of_elems _ _ (es ++ [d]) (by simpa using hs) he,
      base_of_endsIn (endsIn_cleanPrefix _ _ _) he.1 hes]
    intro h0
    have := congrArg String.length h0
    simp only [String.length_append, self_eq_add_left] at this
    exact cleanPrefix_append_name_ne hd _ _ (String.ext (List.eq_nil_of_length_eq_zero this))
  have hde : elems (d ++ "/" ++ e) = [d, e] := by
    rw [elems_append_sep, elems_of_not_mem hds, elems_of_not_mem hes]; rfl
  rw [join_pair _ _ (append_ne_empty he.1)]
  split
  · exact hclean [] hde
  · exact hclean (elems dir) (by rw [elems_append_sep, hde])

/-! ### `Join` determines the tail of a name -/

/-- A piece that has a character other than a dot makes any name it ends an ordinary one. -/
theorem isName_append {e : List Char} {x : String} (hx : ∃ c ∈ x.data, c ≠ '.') :
    IsName (String.mk (e ++ x.data)) := by
  obtain ⟨c, hc, hcd⟩ := hx
  have hmem : c ∈ e ++ x.data := List.mem_append_right e hc
  refine ⟨fun h => ?_, fun h => ?_, fun h => ?_⟩ <;> have h' := congrArg String.data h <;>
    simp only at h' <;> rw [h'] at hmem <;> simp_all

theorem head_append_ne_sep {t x : String} (hx : x ≠ "") (hs : '/' ∉ x.data) :
    ((t.data ++ x.data).head? == some '/') = ((t ++ "a").data.head? == some '/') := by
  cases ht : t.data with
  | cons c cs => simp [ht]
  | nil =>
    obtain ⟨c, cs, hc⟩ := List.exists_cons_of_ne_nil (fun h0 : x.data = [] => hx (String.ext h0))
    have : c ≠ '/' := fun h0 => hs (h0 ▸ hc ▸ List.mem_cons_self c cs)
    simp [ht, hc, this]

/-- **`Join(dir, t ++ x)` determines a tail `x`** that has no separator and is not all dots:
the last element of the joined path is the last element of `t` followed by `x`. -/
theorem join_append_injective {dir t x₁ x₂ : String} (hs₁ : '/' ∉ x₁.data)
    (hs₂ : '/' ∉ x₂.data) (hd₁ : ∃ c ∈ x₁.data, c ≠ '.') (hd₂ : ∃ c ∈ x₂.data, c ≠ '.')
    (h : join [dir, t ++ x₁] = join [dir, t ++ x₂]) : x₁ = x₂ := by
  obtain ⟨es, e, ht, h₁⟩ := splitOn_append_of_not_mem '/' t.data hs₁
  obtain ⟨es', e', ht', h₂⟩ := splitOn_append_of_not_mem '/' t.data hs₂
  obtain ⟨rfl, he⟩ := List.append_inj' (ht.symm.trans ht') rfl
  cases he
  have hne : ∀ {x : String}, (∃ c ∈ x.data, c ≠ '.') → x ≠ "" := by
    rintro x ⟨c, hc, -⟩ rfl; cases hc
  have hel : ∀ {x : String}, (t.data ++ x.data).splitOn '/' = es ++ [e ++ x.data] →
      elems (t ++ x) = es.map String.mk ++ [String.mk (e ++ x.data)] := by
    intro x hx; simp [elems, hx]
  rw [join_pair _ _ (append_ne_empty (hne hd₁)), join_pair _ _ (append_ne_empty (hne hd₂))] at h
  have key : ∀ {r₁ r₂ : Bool} {pre : List String}, r₁ = r₂ →
      cleanPrefix r₁ pre ++ String.mk (e ++ x₁.data) =
        cleanPrefix r₂ pre ++ String.mk (e ++ x₂.data) → x₁ = x₂ := by
    rintro r₁ r₂ pre rfl h0
    have := List.append_cancel_left (congrArg String.data h0)
    exact String.ext (List.append_cancel_left this)
  split at h
  · rw [clean_eq_of_elems (hel h₁) (isName_append hd₁),
      clean_eq_of_elems (hel h₂) (isName_append hd₂)] at h
    exact key (by simp only [String.data_append]; rw [head_append_ne_sep (hne hd₁) hs₁,
      head_append_ne_sep (hne hd₂) hs₂]) h
  · rw [clean_eq_of_elems (by rw [elems_append_sep, hel h₁, List.append_assoc])
        (isName_append hd₁),
      clean_eq_of_elems (by rw [elems_append_sep, hel h₂, List.append_assoc])
        (isName_append hd₂)] at h
    refine key ?_ h
    obtain ⟨c, cs, hc⟩ := List.exists_cons_of_ne_nil (fun h0 : dir.data = [] =>
      ‹¬dir = ""› (String.ext h0))
    simp [hc]

end DbTester.Go.Filepath
