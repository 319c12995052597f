/-
# Records assigned field by field

A record whose fields are of several kinds is a function on them: `Record Value Field` gives the
field `f` of kind `k` a `Value k`.  Code that copies one record to another names the fields of
both, one line a field; such a list of lines is a TABLE, and `assign` runs it.

* `assign_of_mem`: a line's assignment stands when no later line names the same target.
* `assign_back`: copying over a table and back over its reverse gives the fields it names again.
-/
import Mathlib.Data.Sigma.Basic
import Mathlib.Logic.Function.Basic

namespace Tables

variable {K : Type} {Value : K → Type}

/-- A record: a value of its kind for every field. -/
abbrev Record (Value : K → Type) (Field : K → Type) := (f : Σ k, Field k) → Value f.1

variable {F G : K → Type}

/-- Lines `target.f = source.g`, each within one kind. -/
abbrev Table (F G : K → Type) := List (Σ k, F k × G k)

/-- The fields a table assigns to. -/
def targets (table : Table F G) : List (Σ k, F k) := table.map fun line => ⟨line.1, line.2.1⟩

/-- The same lines the other way around. -/
def reverse (table : Table F G) : Table G F :=
  table.map fun line => ⟨line.1, line.2.2, line.2.1⟩

theorem exists_of_mem_targets {table : Table F G} {k : K} {f : F k} (h : ⟨k, f⟩ ∈ targets table) :
    ∃ g, ⟨k, f, g⟩ ∈ table := by
  obtain ⟨⟨k', f', g⟩, hmem, heq⟩ := List.mem_map.mp h
  cases heq
  exact ⟨g, hmem⟩

/-! ## 1. What an assignment leaves -/

variable [DecidableEq (Σ k, F k)]

/-- The record with one field set. -/
def Record.set {k : K} (r : Record Value F) (f : F k) (v : Value k) : Record Value F :=
  Function.update r ⟨k, f⟩ v

@[simp] theorem Record.set_self {k : K} (r : Record Value F) (f : F k) (v : Value k) :
    r.set f v ⟨k, f⟩ = v := Function.update_self _ _ _

theorem Record.set_of_ne {k : K} (r : Record Value F) (f : F k) (v : Value k) {g : Σ k, F k}
    (h : g ≠ ⟨k, f⟩) : r.set f v g = r g := Function.update_of_ne h _ _

/-- `target` after the lines of `table`, which read `source`. -/
def assign (table : Table F G) (source : Record Value G) (target : Record Value F) :
    Record Value F :=
  table.foldl (fun r line => r.set line.2.1 (source ⟨line.1, line.2.2⟩)) target

theorem assign_of_notMem {source : Record Value G} {f : Σ k, F k} :
    ∀ {table : Table F G} {target : Record Value F}, f ∉ targets table →
      assign table source target f = target f
  | [], _, _ => rfl
  | line :: rest, target, h => by
    simp only [targets, List.map_cons, List.mem_cons, not_or] at h
    calc assign (line :: rest) source target f
        = target.set line.2.1 (source ⟨line.1, line.2.2⟩) f := assign_of_notMem h.2
      _ = target f := Record.set_of_ne _ _ _ h.1

/-- **A line's assignment stands** where the table names each target once. -/
theorem assign_of_mem {source : Record Value G} {k : K} {f : F k} {g : G k} :
    ∀ {table : Table F G} {target : Record Value F}, (targets table).Nodup →
      ⟨k, f, g⟩ ∈ table → assign table source target ⟨k, f⟩ = source ⟨k, g⟩
  | line :: rest, target, hnodup, hmem => by
    obtain ⟨hnew, hrestNodup⟩ : _ ∉ targets rest ∧ (targets rest).Nodup :=
      List.nodup_cons.mp hnodup
    rcases List.mem_cons.mp hmem with rfl | hrest
    · calc assign (⟨k, f, g⟩ :: rest) source target ⟨k, f⟩
          = target.set f (source ⟨k, g⟩) ⟨k, f⟩ := assign_of_notMem hnew
        _ = source ⟨k, g⟩ := Record.set_self _ _ _
    · change assign rest source (target.set line.2.1 (source ⟨line.1, line.2.2⟩)) ⟨k, f⟩ = _
      exact assign_of_mem hrestNodup hrest

/-- A table that assigns to every field leaves nothing of what was there. -/
theorem assign_congr {table : Table F G} (hnodup : (targets table).Nodup)
    (htotal : ∀ f, f ∈ targets table) (source : Record Value G) (r r' : Record Value F) :
    assign table source r = assign table source r' := by
  funext ⟨k, f⟩
  obtain ⟨g, hmem⟩ := exists_of_mem_targets (htotal ⟨k, f⟩)
  rw [assign_of_mem hnodup hmem, assign_of_mem hnodup hmem]

/-! ## 2. There and back -/

variable [DecidableEq (Σ k, G k)]

/-- **There and back.**  Copying over a table and back over its reverse restores the source,
where the reverse assigns to every one of its fields. -/
theorem assign_back {table : Table F G} (hnodup : (targets table).Nodup)
    (hback : (targets (reverse table)).Nodup) (htotal : ∀ g, g ∈ targets (reverse table))
    (source : Record Value G) (target : Record Value F) (r : Record Value G) :
    assign (reverse table) (assign table source target) r = source := by
  funext ⟨k, g⟩
  obtain ⟨f, hmem⟩ := exists_of_mem_targets (htotal ⟨k, g⟩)
  obtain ⟨⟨k', f', g'⟩, hmem', heq⟩ := List.mem_map.mp hmem
  cases heq
  rw [assign_of_mem hback hmem, assign_of_mem hnodup hmem']

end Tables
