/-
  A pool as a finite map from names to classes.

  The classes of a pool stand in a list; what a pool means is what `Pool.get?` finds.  The two say
  the same as long as no two classes of the list have one name (`Pool.Distinct`), which inserting
  keeps (`Distinct.insert`): then a class is found under a name exactly if it is in the list and
  has the name (`Distinct.get?_eq_some_iff`).
-/
import Splice.Pool

namespace Splice

/-- Where no two members have one name, a member is what is found under its name. -/
theorem find?_of_nodup {α : Type} (name : α → String) {as : List α} {a : α}
    (h : (as.map name).Nodup) (ha : a ∈ as) : as.find? (name · == name a) = some a := by
  induction as with
  | nil => exact absurd ha List.not_mem_nil
  | cons b as ih =>
    rw [List.map_cons, List.nodup_cons] at h
    rcases List.mem_cons.mp ha with rfl | ha
    · simp
    · have hb : name b ≠ name a := fun hb => h.1 (hb ▸ List.mem_map_of_mem ha)
      rw [List.find?_cons_of_neg (by simpa using hb), ih h.2 ha]

namespace Pool

variable {p : Pool} {c : Lineage} {n : String}

/-- The names of the classes, in the order in which they first came in. -/
def names (p : Pool) : List String := p.classes.map Lineage.name

/-- No two classes have one name. -/
def Distinct (p : Pool) : Prop := p.names.Nodup

theorem size_eq (p : Pool) : p.size = p.names.length := List.length_map _ |>.symm

theorem mem_names_iff : n ∈ p.names ↔ ∃ c, p.get? n = some c := by
  rw [names, List.mem_map]
  constructor
  · rintro ⟨c, hc, rfl⟩
    exact Option.isSome_iff_exists.mp (List.find?_isSome.mpr ⟨c, hc, by simp⟩)
  · rintro ⟨c, hc⟩
    exact ⟨c, List.mem_of_find?_eq_some hc, name_of_get? hc⟩

/-- A new name goes to the end, and an old one stays where it is. -/
theorem map_name_place (c : Lineage) (ds : List Lineage) :
    (place c ds).map Lineage.name =
      if c.name ∈ ds.map Lineage.name then ds.map Lineage.name
      else ds.map Lineage.name ++ [c.name] := by
  induction ds with
  | nil => rfl
  | cons d ds ih =>
    by_cases hd : d.name = c.name
    · rw [place, if_pos hd, List.map_cons, List.map_cons, hd, if_pos List.mem_cons_self]
    · have hc : c.name ∈ d.name :: ds.map Lineage.name ↔ c.name ∈ ds.map Lineage.name := by
        rw [List.mem_cons, or_iff_right (Ne.symm hd)]
      rw [place, if_neg hd, List.map_cons, List.map_cons, ih]
      by_cases hm : c.name ∈ ds.map Lineage.name
      · rw [if_pos hm, if_pos (hc.mpr hm)]
      · rw [if_neg hm, if_neg (hm ∘ hc.mp), List.cons_append]

theorem names_insert (p : Pool) (c : Lineage) :
    (p.insert c).names = if c.name ∈ p.names then p.names else p.names ++ [c.name] :=
  map_name_place c p.classes

/-- A class whose name is new comes in behind the others. -/
theorem names_insert_of_none (h : p.get? c.name = none) :
    (p.insert c).names = p.names ++ [c.name] := by
  have hnew : c.name ∉ p.names := by
    rw [mem_names_iff, h]
    exact nofun
  rw [names_insert, if_neg hnew]

theorem distinct_empty : empty.Distinct := List.nodup_nil

theorem Distinct.insert (h : p.Distinct) (c : Lineage) : (p.insert c).Distinct := by
  rw [Distinct, names_insert]
  split
  · exact h
  · rename_i hc
    refine List.nodup_append.mpr ⟨h, List.pairwise_singleton _ _, fun m hm k hk => ?_⟩
    rintro rfl
    exact hc (List.mem_singleton.mp hk ▸ hm)

theorem Distinct.get?_eq_some_iff (h : p.Distinct) :
    p.get? n = some c ↔ c ∈ p.classes ∧ c.name = n := by
  constructor
  · intro hc
    exact ⟨List.mem_of_find?_eq_some hc, name_of_get? hc⟩
  · rintro ⟨hc, rfl⟩
    exact find?_of_nodup Lineage.name h hc

end Pool

end Splice
