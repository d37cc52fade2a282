import BookStore.Traversals

/-!
# SQL statements

Integer expressions of SQL over the columns `C` of a table, and `UPDATE … SET … WHERE c IN (…)`.
`none` is `NULL`: a comparison with it is not true, and it fits no column.

* `simpleCase` is `CASE operand WHEN value THEN result … ELSE otherwise END`;
  `eval_simpleCase`: its first branch with the value of the operand counts.
* `Update.run` goes through the rows; it is refused if a value does not fit its column.
* `WellQuoted`: every literal in the text of a statement is closed.

The module knows nothing about what the rows are.
-/

namespace BookStore
namespace Sql

variable {C Row α : Type}

inductive Expr (C : Type)
  | column (c : C)
  | int (n : Int)
  | null
  | add (a b : Expr C)
  | sub (a b : Expr C)
  /-- `CASE WHEN a >= b THEN x ELSE y END` -/
  | whenGe (a b x y : Expr C)
  /-- The first `WHEN` of `CASE operand …`, and the rest of it -/
  | whenEq (operand value x rest : Expr C)

def eval (row : C → Option Int) : Expr C → Option Int
  | .column c => row c
  | .int n => some n
  | .null => none
  | .add a b =>
      match eval row a, eval row b with
      | some m, some n => some (m + n)
      | _, _ => none
  | .sub a b =>
      match eval row a, eval row b with
      | some m, some n => some (m - n)
      | _, _ => none
  | .whenGe a b x y =>
      match eval row a, eval row b with
      | some m, some n => if m ≥ n then eval row x else eval row y
      | _, _ => eval row y
  | .whenEq operand value x rest =>
      match eval row operand, eval row value with
      | some m, some n => if m = n then eval row x else eval row rest
      | _, _ => eval row rest

def simpleCase (operand : Expr C) (branches : List (Expr C × Expr C)) (otherwise : Expr C) :
    Expr C :=
  branches.foldr (fun branch rest => .whenEq operand branch.1 branch.2 rest) otherwise

section Eval

variable {row : C → Option Int} {a b x y : Expr C} {m n : Int}

theorem eval_add (ha : eval row a = some m) (hb : eval row b = some n) :
    eval row (.add a b) = some (m + n) := by
  simp only [eval, ha, hb]

theorem eval_sub (ha : eval row a = some m) (hb : eval row b = some n) :
    eval row (.sub a b) = some (m - n) := by
  simp only [eval, ha, hb]

theorem eval_whenGe (ha : eval row a = some m) (hb : eval row b = some n) :
    eval row (.whenGe a b x y) = if m ≥ n then eval row x else eval row y := by
  simp only [eval, ha, hb]

/-- The first branch with the value of the operand counts. -/
theorem eval_simpleCase
    {operand : Expr C} (otherwise : Expr C) (hoperand : eval row operand = some n)
    (value : α → Int) (result : α → Expr C) (l : List α) :
    eval row (simpleCase operand (l.map fun a => (.int (value a), result a)) otherwise) =
      ((l.find? fun a => decide (value a = n)).map fun a => eval row (result a)).getD
        (eval row otherwise) := by
  induction l with
  | nil =>
      rfl
  | cons a l ih =>
      rw [simpleCase] at ih
      rw [List.map_cons, simpleCase, List.foldr_cons, List.find?_cons]
      simp only [eval, hoperand]
      by_cases hvalue : value a = n
      · rw [if_pos hvalue.symm, decide_eq_true hvalue]
        rfl
      · rw [if_neg (Ne.symm hvalue), decide_eq_false hvalue, ih]

end Eval

/-! ### Statements -/

/-- How the rows of a table hold their columns. -/
structure Layout (Row C : Type) where
  get : Row → C → Option Int
  put : Row → C → Int → Row

/-- `UPDATE … SET assignments WHERE column IN (keys)` -/
structure Update (C : Type) where
  assignments : List (C × Expr C)
  column : C
  keys : List Int

section Run

variable (layout : Layout Row C) (fits : Int → Bool)

/-- One assignment; the ones after it see its effect. -/
def assign (row : Row) (assignment : C × Expr C) : Option Row :=
  ((eval (layout.get row) assignment.2).filter fits).map (layout.put row assignment.1)

/-- The statement is for the row. -/
def Update.hits (u : Update C) (row : Row) : Bool :=
  (layout.get row u.column).any fun n => decide (n ∈ u.keys)

def Update.row (u : Update C) (row : Row) : Option Row :=
  if u.hits layout row then u.assignments.foldlM (assign layout fits) row else some row

def Update.run (u : Update C) (rows : List Row) : Option (List Row) :=
  rows.mapM (u.row layout fits)

end Run

variable {layout : Layout Row C} {row : Row} {c : C} {e : Expr C} {n : Int}

theorem assign_of_eval (fits : Int → Bool) (he : eval (layout.get row) e = some n) :
    assign layout fits row (c, e) = if fits n then some (layout.put row c n) else none := by
  rw [assign, he]
  cases hfits : fits n <;> simp [Option.filter, hfits]

variable {fits : Int → Bool}

theorem Update.row_of_not_hits {u : Update C} (h : u.hits layout row = false) :
    u.row layout fits row = some row := by
  rw [Update.row, h, if_neg Bool.false_ne_true]

theorem Update.row_of_hits {u : Update C} (h : u.hits layout row = true) :
    u.row layout fits row = u.assignments.foldlM (assign layout fits) row := by
  rw [Update.row, h, if_pos rfl]

/-! ### Texts -/

def quote : Char := Char.ofNat 39

/-- Where the next character of a text stands -/
inductive Place
  | code
  | literal
  /-- In a literal, after a backslash -/
  | escaped
  deriving DecidableEq

def Place.next : Place → Char → Place
  | .code, c => if c = quote then .literal else .code
  | .literal, c => if c = quote then .code else if c = '\\' then .escaped else .literal
  | .escaped, _ => .literal

/-- Where the end of a text stands -/
def Place.after (p : Place) (text : String) : Place :=
  text.toList.foldl Place.next p

theorem Place.after_append
    {p p'' : Place} {text text' : String} (p' : Place)
    (h : p.after text = p') (h' : p'.after text' = p'') : p.after (text ++ text') = p'' := by
  rw [← h', ← h, Place.after, String.toList_append, List.foldl_append]
  rfl

theorem Place.after_ofList
    {p p' : Place} {cs : List Char} (h : cs.foldl Place.next p = p') :
    p.after (String.ofList cs) = p' := by
  rw [Place.after, String.toList_ofList, h]

/-- Every literal is closed. -/
def WellQuoted (text : String) : Prop :=
  Place.code.after text = .code

instance (text : String) : Decidable (WellQuoted text) :=
  inferInstanceAs (Decidable (_ = _))

end Sql
end BookStore
