/-!
# Names of objects

An object of a cluster is named by its namespace and its name there.
-/

namespace VolumeMigration

open Std

/-- The namespace of an object and its name in that namespace. -/
structure ObjectName where
  ns : String
  name : String
deriving DecidableEq, Repr, Inhabited

namespace ObjectName

/-- By namespace first, then by name. -/
instance : Ord ObjectName := ⟨fun a b => (compare a.ns b.ns).then (compare a.name b.name)⟩

instance : TransOrd ObjectName where
  eq_swap {a b} := by
    change Ordering.then _ _ = (Ordering.then _ _).swap
    rw [Ordering.swap_then, ← OrientedCmp.eq_swap, ← OrientedCmp.eq_swap]
  isLE_trans {a b c} h₁ h₂ := by
    change (Ordering.then _ _).isLE = true at h₁ h₂ ⊢
    exact @TransCmp.isLE_trans (String × String) (compareLex (compareOn (·.1)) (compareOn (·.2))) _
      (a.ns, a.name) (b.ns, b.name) (c.ns, c.name) h₁ h₂

instance : LawfulEqOrd ObjectName where
  eq_of_compare {a b} h := by
    change Ordering.then _ _ = .eq at h
    rw [Ordering.then_eq_eq] at h
    have h₁ := LawfulEqOrd.eq_of_compare h.1
    have h₂ := LawfulEqOrd.eq_of_compare h.2
    cases a; cases b; simp_all

def display (n : ObjectName) : String := n.ns ++ "/" ++ n.name

instance : ToString ObjectName := ⟨display⟩

end ObjectName

end VolumeMigration
