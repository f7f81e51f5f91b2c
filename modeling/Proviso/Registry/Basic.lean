/-
  Proviso/Registry/Basic.lean
  ===========================
  **The registry of checks.**

  Checks are found by name without regard to the case of ASCII letters; registering a check
  replaces the one of that name.  The entries are kept in ascending order of their names' bytes,
  the order in which `names` lists them.
-/
import Proviso.Check.Basic
import Proviso.Error

namespace Proviso

namespace Registry

/-- The bytes of a name, which order the entries. -/
def bytes (name : String) : List UInt8 := name.toByteArray.data.toList

/-- The name under which a check is kept: ASCII letters are in lower case. -/
def key (name : String) : String := name.map Char.toLower

/-- Entries with `check` under `name`: in place of the one there, or before the first larger
    name. -/
def insertEntry (name : String) (check : Check) :
    List (String × Check) → List (String × Check)
  | [] => [(name, check)]
  | e :: rest =>
    if e.1 = name then (name, check) :: rest
    else if bytes name < bytes e.1 then (name, check) :: e :: rest
    else e :: insertEntry name check rest

/-- Names in strictly ascending order of their bytes. -/
def Ascending (entries : List (String × Check)) : Prop :=
  entries.Pairwise fun a b => bytes a.1 < bytes b.1

theorem bytes_injective {a b : String} (h : bytes a = bytes b) : a = b := by
  apply String.toByteArray_inj.1
  have : a.toByteArray.data = b.toByteArray.data := Array.toList_inj.1 h
  exact ByteArray.ext this

theorem bytes_lt_of_ne {a b : String} (hne : a ≠ b) (h : ¬ bytes b < bytes a) :
    bytes a < bytes b := by
  rcases List.le_iff_lt_or_eq.1 (List.not_lt.1 h) with hlt | heq
  · exact hlt
  · exact absurd (bytes_injective heq) hne

theorem mem_insertEntry {name : String} {check : Check} {e : String × Check} :
    ∀ {entries : List (String × Check)}, e ∈ insertEntry name check entries →
      e = (name, check) ∨ e ∈ entries
  | [], h => by simpa [insertEntry] using h
  | f :: rest, h => by
    rw [insertEntry] at h
    split at h
    · rcases List.mem_cons.1 h with h | h
      · exact .inl h
      · exact .inr (List.mem_cons_of_mem _ h)
    · split at h
      · exact List.mem_cons.1 h
      · rcases List.mem_cons.1 h with h | h
        · exact .inr (h ▸ List.mem_cons_self)
        · exact (mem_insertEntry h).imp_right (List.mem_cons_of_mem _)

theorem ascending_insertEntry (name : String) (check : Check) :
    ∀ {entries : List (String × Check)}, Ascending entries →
      Ascending (insertEntry name check entries)
  | [], _ => by simp [insertEntry, Ascending]
  | e :: rest, h => by
    have ⟨hfirst, hrest⟩ := List.pairwise_cons.1 h
    rw [insertEntry]
    split
    · next heq => exact List.pairwise_cons.2 ⟨fun f hf => heq ▸ hfirst f hf, hrest⟩
    · split
      · next hlt =>
        refine List.pairwise_cons.2 ⟨fun f hf => ?_, h⟩
        rcases List.mem_cons.1 hf with rfl | hf
        · exact hlt
        · exact List.lt_trans hlt (hfirst f hf)
      · next hne hlt =>
        refine List.pairwise_cons.2 ⟨fun f hf => ?_, ascending_insertEntry name check hrest⟩
        rcases mem_insertEntry hf with rfl | hf
        · exact bytes_lt_of_ne hne hlt
        · exact hfirst f hf

end Registry

/-- Checks by name. -/
structure Registry where
  entries : List (String × Check)
  ascending : Registry.Ascending entries

namespace Registry

def empty : Registry := ⟨[], List.Pairwise.nil⟩

/-- The registry with `check` under `name`, in place of any check under that name. -/
def register (r : Registry) (name : String) (check : Check) : Registry :=
  ⟨insertEntry (key name) check r.entries, ascending_insertEntry _ _ r.ascending⟩

/-- The check under a name. -/
def get? (r : Registry) (name : String) : Option Check := r.entries.lookup (key name)

/-- The check under a name; without one the error shows the name as asked for. -/
def find (r : Registry) (name : String) : Except Error Check :=
  match r.get? name with
  | some check => .ok check
  | none => .error (.unknownCheck name)

def has (r : Registry) (name : String) : Bool := (r.get? name).isSome

/-- The names, in ascending order of their bytes. -/
def names (r : Registry) : List String := r.entries.map Prod.fst

def size (r : Registry) : Nat := r.entries.length

def isEmpty (r : Registry) : Bool := r.entries.isEmpty

/-- The registry with a row of checks, registered one after the other. -/
def registerAll (r : Registry) (checks : List (String × Check)) : Registry :=
  checks.foldl (fun r c => r.register c.1 c.2) r

end Registry

end Proviso
