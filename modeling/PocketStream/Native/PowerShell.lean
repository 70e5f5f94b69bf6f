import PocketStream.Native.Adapter

/-! # Texts and errors of the native scripts

How the scripts compare texts is a matter of the host's culture tables, so a
comparison is by keys that the host supplies.
-/

namespace PocketStream

/-- Two texts are `-eq`, `-ceq` or equal for `OrdinalIgnoreCase` when their keys are. -/
structure PowerShell where
  eqKey : String → String
  ceqKey : String → String
  ordinalKey : String → String
  /-- `ToLowerInvariant` -/
  lower : String → String

namespace PowerShell

variable (ps : PowerShell)

/-- `-eq` -/
def same (a b : String) : Bool := ps.eqKey a == ps.eqKey b

/-- `-ceq` -/
def exactly (a b : String) : Bool := ps.ceqKey a == ps.ceqKey b

/-- `-in` -/
def isIn (a : String) (l : List String) : Bool := l.any (ps.same a)

/-- `.Trim` of the braces of a GUID, in lower case. -/
def guidText (guid : String) : String :=
  ps.lower (String.ofList
    ((guid.toList.dropWhile isBrace).reverse.dropWhile isBrace).reverse)

/-- A MAC with colons, in lower case. -/
def macText (mac : String) : String :=
  ps.lower (String.ofList (mac.toList.map fun ch => if ch = '-' then ':' else ch))

/-- `Sort-Object -Unique`, up to the order. -/
def distinct (l : List String) : List String :=
  l.pwFilter fun a b => ps.same a b = false

variable {ps}

theorem same_refl (a : String) : ps.same a a = true := by simp [same]

theorem same_symm {a b : String} (h : ps.same a b = true) : ps.same b a = true := by
  simp only [same, beq_iff_eq] at *
  exact h.symm

theorem same_trans {a b c : String} (h : ps.same a b = true) (h' : ps.same b c = true) :
    ps.same a c = true := by
  simp only [same, beq_iff_eq] at *
  exact h.trans h'

theorem mem_of_mem_distinct {l : List String} {a : String} (h : a ∈ ps.distinct l) : a ∈ l :=
  List.pwFilter_subset l h

/-- Every text of the list is kept up to `-eq`. -/
theorem exists_mem_distinct {l : List String} {a : String} (h : a ∈ l) :
    ∃ b ∈ ps.distinct l, ps.same a b = true := by
  by_contra hnone
  have hall : ∀ b ∈ ps.distinct l, ps.same a b = false := by
    intro b hb
    by_contra hsame
    exact hnone ⟨b, hb, by simpa using hsame⟩
  have htrans : ∀ {x y z : String}, ps.same x z = false → ps.same x y = false ∨
      ps.same y z = false := by
    intro x y z hxz
    by_contra hboth
    simp only [not_or, Bool.not_eq_false] at hboth
    rw [same_trans hboth.1 hboth.2] at hxz
    cases hxz
  have hself :=
    (List.forall_mem_pwFilter (R := fun a b => ps.same a b = false) htrans a l).mp hall a h
  rw [same_refl] at hself
  cases hself

/-- Texts are compared as they are. -/
def literal : PowerShell := ⟨id, id, id, id⟩

end PowerShell

structure CmdletError where
  objectNotFound : Bool
  id : String

/-- With `-ErrorAction Stop`, an error ends a script at its cmdlet. -/
def CmdletError.stop {α : Type} (r : Except CmdletError α) : Except String α :=
  r.mapError CmdletError.id

end PocketStream
