/-
  Which methods an override can be built against.

  Resolution asks a class for the methods that can be seen on it.  On a class of a linked pool these
  are the methods declared along the superclass walk, each as a member of the class that declares it
  (`Denotes.mem_visible_iff`).  So resolution fails exactly if neither the class nor an ancestor
  declares a method of the name (`Denotes.resolve_eq_error_iff`), and what it finds has that name
  (`Target.name_of_resolve`).
-/
import Splice.Proofs.Pool.Image
import Splice.Target

namespace Splice

variable {c : Lineage} {name : String} {x : Method} {e : Failure}

/-! ## What a class answers -/

theorem Lineage.mem_visible_of_declared? (h : c.declared? name = some x) :
    x ∈ c.visible ∧ x.name = name := by
  refine ⟨?_, by simpa using List.find?_some h⟩
  rw [visible_eq]
  exact List.mem_append_left _ (List.mem_of_find?_eq_some h)

theorem mem_of_lastNamed? {ms : List Method} (h : lastNamed? name ms = some x) :
    x ∈ ms ∧ x.name = name := by
  obtain ⟨hname, before, after, rfl, -⟩ := lastNamed?_eq_some_iff.mp h
  exact ⟨by simp, hname⟩

/-- What is resolved is seen on the class and has the name. -/
theorem Target.name_of_resolve (h : (Target.resolve c name).outcome = .ok x) :
    x ∈ c.visible ∧ x.name = name := by
  rw [outcome_resolve] at h
  split at h
  · rename_i y hy
    obtain rfl : y = x := Except.ok.inj h
    rcases Option.or_eq_some_iff.mp hy with hy | ⟨-, hy⟩
    · exact Lineage.mem_visible_of_declared? hy
    · exact mem_of_lastNamed? hy
  · exact absurd h nofun

/-- Resolution finds a method if one of the name is seen on the class. -/
theorem Target.exists_resolve (h : ∃ y ∈ c.visible, y.name = name) :
    ∃ y, (Target.resolve c name).outcome = .ok y := by
  obtain ⟨y, hy, hname⟩ := h
  have hlast : lastNamed? name c.visible ≠ none := fun hnone =>
    lastNamed?_eq_none_iff.mp hnone y hy hname
  obtain ⟨z, hz⟩ := Option.ne_none_iff_exists'.mp hlast
  rw [outcome_resolve, show visible c = c.visible from rfl, hz]
  cases declared? c name with
  | some m => exact ⟨m, rfl⟩
  | none => exact ⟨z, rfl⟩

/-- If none is, resolution fails. -/
theorem Target.resolve_eq_error (h : ∀ y ∈ c.visible, y.name ≠ name) :
    (Target.resolve c name).outcome = .error (.methodNotFound c.name name) := by
  have hown : declared? c name = none := Option.eq_none_iff_forall_ne_some.mpr fun y hy =>
    have ⟨hmem, hname⟩ := Lineage.mem_visible_of_declared? hy
    h y hmem hname
  rw [outcome_resolve, hown, show visible c = c.visible from rfl, lastNamed?_eq_none_iff.mpr h]
  rfl

theorem Target.resolve_eq_error_iff :
    (Target.resolve c name).outcome = .error e ↔
      (∀ y ∈ c.visible, y.name ≠ name) ∧ e = .methodNotFound c.name name := by
  constructor
  · intro he
    have hnone : ∀ y ∈ c.visible, y.name ≠ name := by
      intro y hy hname
      obtain ⟨z, hz⟩ := Target.exists_resolve ⟨y, hy, hname⟩
      exact absurd (hz.symm.trans he) nofun
    exact ⟨hnone, Except.error.inj (he.symm.trans (Target.resolve_eq_error hnone))⟩
  · rintro ⟨hnone, rfl⟩
    exact Target.resolve_eq_error hnone

/-! ## What the declarations say -/

namespace Linking

open Walk

variable {decls : List Declaration} {n : String} {d : Declaration}

/-- The class `n` or one of its ancestors declares a method of the name. -/
def Declares (decls : List Declaration) (n name : String) : Prop :=
  ∃ d, Reaches decls n d ∧ ∃ x ∈ d.methods, x.name = name

/-- What is seen on a class are the methods of the declarations its walk comes to, as members. -/
theorem Denotes.mem_visible_iff (h : Denotes decls n c) :
    x ∈ c.visible ↔ ∃ d, Reaches decls n d ∧ ∃ y ∈ d.methods, y.declaredOn d.name = x := by
  obtain ⟨ds, hds, hc⟩ := h
  rw [Lineage.visible, hc]
  simp only [List.mem_flatMap, List.mem_map, ← hds.mem_iff_reaches]
  constructor
  · rintro ⟨_, ⟨d, hd, rfl⟩, hx⟩
    exact ⟨d, hd, List.mem_map.mp hx⟩
  · rintro ⟨d, hd, hx⟩
    exact ⟨_, ⟨d, hd, rfl⟩, List.mem_map.mpr hx⟩

theorem Denotes.declares_iff (h : Denotes decls n c) :
    Declares decls n name ↔ ∃ y ∈ c.visible, y.name = name := by
  constructor
  · rintro ⟨d, hd, x, hx, hname⟩
    exact ⟨x.declaredOn d.name, h.mem_visible_iff.mpr ⟨d, hd, x, hx, rfl⟩, hname⟩
  · rintro ⟨_, hy, hname⟩
    obtain ⟨d, hd, x, hx, rfl⟩ := h.mem_visible_iff.mp hy
    exact ⟨d, hd, x, hx, hname⟩

/-- Resolution on what a name denotes fails exactly if nothing on the walk declares the method. -/
theorem Denotes.resolve_eq_error_iff (h : Denotes decls n c) :
    (Target.resolve c name).outcome = .error e ↔
      ¬ Declares decls n name ∧ e = .methodNotFound n name := by
  rw [h.declares_iff, Target.resolve_eq_error_iff, h.name_eq]
  simp only [not_exists, not_and, ne_eq]

end Linking

end Splice
