/-
# `CertWatch.Comparison` — `==` and `<` between any two documents.

Most of the agent compares strings, and for these `Json.ltStr` is enough.  Two places hand whatever document
they were given to Python's operators: the host ids of an on-demand check, and the registration time that
comes out of `agent.json`.  Booleans, integers and floats compare by value there, and NaN equals nothing.
-/
import CertWatch.Exceptions

namespace CertWatch

/-! ## Numbers -/

/-- The number that a value is to an arithmetic operator. -/
def Json.number : Json → Option PyFloat
  | .bool b => some (.finite (if b then 1 else 0))
  | .int n => some (.finite n)
  | .float x => some x
  | _ => none

/-- `x == y` on floats. -/
def PyFloat.eq : PyFloat → PyFloat → Bool
  | .finite a, .finite b => a == b
  | .posInf, .posInf => true
  | .negInf, .negInf => true
  | _, _ => false

/-- `x < y` on floats. -/
def PyFloat.lt : PyFloat → PyFloat → Bool
  | .finite a, .finite b => decide (a < b)
  | .negInf, .finite _ => true
  | .negInf, .posInf => true
  | .finite _, .posInf => true
  | _, _ => false

/-! ## Documents -/

namespace Json

/-- `x == y` where one side is a number. -/
def numberEq (x y : Json) : Bool :=
  match x.number, y.number with
  | some a, some b => a.eq b
  | _, _ => false

mutual
/-- `x == y`. -/
def pyEq : (x y : Json) → Bool
  | .null, y => match y with
    | .null => true
    | _ => false
  | .str s, y => match y with
    | .str t => s == t
    | _ => false
  | .arr xs, y => match y with
    | .arr ys => pyEqList xs ys
    | _ => false
  | .obj d, y => match y with
    | .obj e => d.length == e.length && pyEqFields d e
    | _ => false
  | .bool b, y => numberEq (.bool b) y
  | .int n, y => numberEq (.int n) y
  | .float x, y => numberEq (.float x) y

/-- `==` of lists. -/
def pyEqList : (xs ys : List Json) → Bool
  | [], [] => true
  | x :: xs, y :: ys => pyEq x y && pyEqList xs ys
  | _, _ => false

/-- Every field of the one dictionary is in the other, with an equal value. -/
def pyEqFields : (d e : Dict) → Bool
  | [], _ => true
  | (k, x) :: d, e => (match Dict.get? e k with
    | some y => pyEq x y
    | none => false) && pyEqFields d e
end

mutual
/-- `x < y`: numbers by value, strings by code points, lists by their first difference. -/
def lt : (x y : Json) → Except PyExc Bool
  | .str s, y => match y with
    | .str t => .ok (decide (s < t))
    | _ => .error .typeError
  | .arr xs, y => match y with
    | .arr ys => ltList xs ys
    | _ => .error .typeError
  | x, y => match x.number, y.number with
    | some a, some b => .ok (a.lt b)
    | _, _ => .error .typeError

/-- `<` of lists. -/
def ltList : (xs ys : List Json) → Except PyExc Bool
  | x :: xs, y :: ys => if pyEq x y then ltList xs ys else lt x y
  | [], _ :: _ => .ok true
  | _, [] => .ok false
end

example : lt (.arr [.int 1, .str "a"]) (.arr [.bool true, .str "b"]) = .ok true := by decide

/-- Against a string, `<` is the comparison that the queue uses. -/
theorem lt_str (x : Json) (s : String) : x.lt (.str s) = x.ltStr s := by
  cases x with
  | str t => simp only [lt, ltStr]
  | arr xs => simp only [lt, ltStr]
  | _ => simp only [lt, ltStr, number]

theorem pyEq_str (s t : String) : pyEq (.str s) (.str t) = (s == t) := by
  simp only [pyEq]

theorem pyEq_int (m n : Int) : pyEq (.int m) (.int n) = (m == n) := by
  simp only [pyEq, numberEq, number, PyFloat.eq]
  rw [Bool.eq_iff_iff, beq_iff_eq, beq_iff_eq]
  exact Rat.intCast_inj

end Json

end CertWatch
