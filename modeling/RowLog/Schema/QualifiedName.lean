import Std.Data.ExtTreeMap

/-!
# Qualified table names

A table is named by its database and its own name. Names are in the order of their databases, and
those of one database in the order of their own names.
-/

namespace RowLog.Schema

/-- The name of a table with its database. -/
structure QualifiedName where
  schema : String
  table : String
  deriving DecidableEq

namespace QualifiedName

def compare : QualifiedName → QualifiedName → Ordering :=
  compareLex (compareOn schema) (compareOn table)

instance : Std.TransCmp compare :=
  inferInstanceAs (Std.TransCmp (compareLex (compareOn schema) (compareOn table)))

instance : Std.LawfulEqCmp compare where
  eq_of_compare {left right} equal := by
    simp only [compare, compareLex_eq_eq, compareOn, Std.compare_eq_iff_eq] at equal
    cases left
    cases right
    simp_all

end QualifiedName

end RowLog.Schema
