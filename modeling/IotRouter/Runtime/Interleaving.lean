import Mathlib.Data.List.Infix
import Mathlib.Data.List.Nodup
import Mathlib.Tactic.Common

/-!
# Lists with gaps and merged lists

Two general facts behind every statement about order in a pipeline with several sources.
A stage that may drop an entry maps a list to a list with gaps; what is left
keeps its position. A shared queue merges the lists of its sources; the part of
each source is found again by filtering, and no value is repeated if no part
repeats one.
-/

namespace IotRouter.Runtime

universe u v

/-! ## Lists with gaps -/

section Gaps

variable {α : Type u}

/-- The entries that are present, each with its position. -/
def present (image : List (Option α)) : List (Nat × α) :=
  image.zipIdx.filterMap fun entry => entry.1.map fun value => (entry.2, value)

theorem present_append_singleton (image : List (Option α)) (entry : Option α) :
    present (image ++ [entry]) =
      present image ++ (entry.map fun value => (image.length, value)).toList := by
  simp only [present, List.zipIdx_append, List.filterMap_append]
  cases entry <;> simp

theorem mem_present {image : List (Option α)} {index : Nat} {value : α} :
    (index, value) ∈ present image ↔ image[index]? = some (some value) := by
  simp only [present, List.mem_filterMap, Prod.exists, Option.map_eq_some_iff,
    Prod.mk.injEq]
  constructor
  · intro listed
    rcases listed with ⟨entry, position, member, found, rfl, rfl, rfl⟩
    exact List.mem_zipIdx_iff_getElem?.mp member
  · intro found
    exact ⟨some value, index, List.mem_zipIdx_iff_getElem?.mpr found, value,
      rfl, rfl, rfl⟩

/-- Positions increase. -/
theorem pairwise_present (image : List (Option α)) :
    (present image).Pairwise fun left right => left.1 < right.1 := by
  induction image using List.reverseRecOn with
  | nil => exact List.Pairwise.nil
  | append_singleton image entry ih =>
      rw [present_append_singleton, List.pairwise_append]
      refine ⟨ih, by cases entry <;> simp, ?_⟩
      intro earlier member later laterMember
      rcases earlier with ⟨index, value⟩
      have bound := (List.getElem?_eq_some_iff.mp (mem_present.mp member)).1
      cases entry with
      | none => cases laterMember
      | some last =>
          simp only [Option.map_some, Option.toList_some, List.mem_singleton]
            at laterMember
          rw [laterMember]
          exact bound

theorem present_mono {before after : List (Option α)}
    (grows : before <+: after) : present before <+: present after := by
  rcases grows with ⟨rest, rfl⟩
  induction rest using List.reverseRecOn with
  | nil => rw [List.append_nil]
  | append_singleton rest entry ih =>
      rw [← List.append_assoc, present_append_singleton]
      exact ih.trans (List.prefix_append _ _)

/-- Without the positions, only the gaps are gone. -/
theorem map_snd_present (image : List (Option α)) :
    (present image).map Prod.snd = image.filterMap id := by
  induction image using List.reverseRecOn with
  | nil => rfl
  | append_singleton image entry ih =>
      rw [present_append_singleton, List.map_append, ih, List.filterMap_append]
      cases entry <;> rfl

end Gaps

/-! ## Merged lists -/

section Merged

variable {α : Type u} {Source : Type v} [DecidableEq Source]
variable (source : α → Source)

/-- What one source contributed, in order. -/
def part (merged : List α) (origin : Source) : List α :=
  merged.filter fun value => source value = origin

@[simp] theorem part_append (left right : List α) (origin : Source) :
    part source (left ++ right) origin =
      part source left origin ++ part source right origin :=
  List.filter_append _ _

theorem part_of_all {values : List α} {origin : Source}
    (all : ∀ value ∈ values, source value = origin) :
    part source values origin = values := by
  simp only [part, List.filter_eq_self, decide_eq_true_eq]
  exact all

theorem part_of_none {values : List α} {origin other : Source}
    (all : ∀ value ∈ values, source value = origin) (different : other ≠ origin) :
    part source values other = [] := by
  simp only [part, List.filter_eq_nil_iff, decide_eq_true_eq]
  intro value member same
  exact different (same.symm.trans (all value member))

theorem mem_part {merged : List α} {value : α} :
    value ∈ part source merged (source value) ↔ value ∈ merged := by
  simp [part]

theorem part_mono {before after : List α} (grows : before <+: after)
    (origin : Source) :
    part source before origin <+: part source after origin :=
  grows.filter _

/-- A merged list repeats no value if the part of no source does. -/
theorem nodup_of_parts {merged : List α}
    (parts : ∀ origin, (part source merged origin).Nodup) : merged.Nodup := by
  classical
  rw [List.nodup_iff_count_le_one]
  intro value
  have once := List.nodup_iff_count_le_one.mp (parts (source value)) value
  rwa [part, List.count_filter (by simp)] at once

end Merged

end IotRouter.Runtime
