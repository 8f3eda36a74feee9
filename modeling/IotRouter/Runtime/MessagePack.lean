import Mathlib.Tactic.Common

/-!
# MessagePack records

The values of the MessagePack format as trees, and the two forms a record takes
among them: a positional array of its fields, or a map keyed by their names. A
derived decoder reads both, and in a map it insists on every field exactly once
and ignores the keys it does not know.
-/

namespace IotRouter.Runtime.MessagePack

universe u

inductive Value where
  | nil
  | bool (value : Bool)
  | uint (value : UInt64)
  | int (value : Int64)
  | float32 (bits : UInt32)
  | float64 (bits : UInt64)
  | str (value : String)
  | bin (bytes : List UInt8)
  | array (items : List Value)
  | map (entries : List (Value × Value))
  | ext (tag : Int8) (bytes : List UInt8)

/-- The values a map has under a string key, in order. -/
def valuesOf (entries : List (Value × Value)) (name : String) : List Value :=
  entries.filterMap fun entry =>
    match entry.1 with
    | .str key => if key = name then some entry.2 else none
    | _ => none

/-- All keys are strings. -/
def Keyed (entries : List (Value × Value)) : Prop :=
  ∀ entry ∈ entries, ∃ key, entry.1 = .str key

/-- The map has exactly one value for each of the names. -/
def Holds (entries : List (Value × Value)) (names : List String)
    (values : List Value) : Prop :=
  names.map (valuesOf entries) = values.map fun value => [value]

theorem Holds.of_cons {entries : List (Value × Value)} {name : String}
    {names : List String} {values : List Value}
    (holds : Holds entries (name :: names) values) :
    ∃ value rest, values = value :: rest ∧ valuesOf entries name = [value] ∧
      Holds entries names rest := by
  cases values with
  | nil => cases holds
  | cons value rest =>
      rcases List.cons.inj holds with ⟨here, others⟩
      exact ⟨value, rest, rfl, here, others⟩

theorem Holds.of_nil {entries : List (Value × Value)} {values : List Value}
    (holds : Holds entries [] values) : values = [] :=
  List.map_eq_nil_iff.mp holds.symm

/-- The forms of a record whose fields have the given names and values. -/
inductive Record (names : List String) (values : List Value) : Value → Prop where
  | positional (aligned : values.length = names.length) :
      Record names values (.array values)
  /-- The fields in any order, among other keys. -/
  | named (entries : List (Value × Value)) (keyed : Keyed entries)
      (holds : Holds entries names values) : Record names values (.map entries)

/-- `decode` is the derived decoder of a record, and `build` decodes its fields,
given in order. -/
structure Derived {α : Type u} (names : List String)
    (build : List Value → Option α) (decode : Value → Option α) : Prop where
  positional : ∀ values, values.length = names.length →
    decode (.array values) = build values
  named : ∀ entries values, Keyed entries → Holds entries names values →
    decode (.map entries) = build values
  /-- A missing or a doubled field is an error. -/
  incomplete : ∀ entries, Keyed entries → ∀ name ∈ names,
    (valuesOf entries name).length ≠ 1 → decode (.map entries) = none

section Derived

variable {α : Type u} {names : List String} {build : List Value → Option α}
  {decode : Value → Option α}

theorem Derived.decode_record (derived : Derived names build decode)
    {values : List Value} {value : Value} (record : Record names values value) :
    decode value = build values := by
  cases record with
  | positional aligned => exact derived.positional values aligned
  | named entries keyed holds => exact derived.named entries values keyed holds

theorem exists_holds {entries : List (Value × Value)} {names : List String}
    (once : ∀ name ∈ names, (valuesOf entries name).length = 1) :
    ∃ values, Holds entries names values := by
  induction names with
  | nil => exact ⟨[], rfl⟩
  | cons name names ih =>
      rcases ih (fun other member => once other (List.mem_cons_of_mem _ member))
        with ⟨values, holds⟩
      rcases List.length_eq_one_iff.mp (once name List.mem_cons_self) with
        ⟨value, found⟩
      refine ⟨value :: values, ?_⟩
      rw [Holds, List.map_cons, List.map_cons, found, holds]

/-- A map is accepted exactly if it has every field once and all their values
decode. -/
theorem Derived.decode_map_isSome (derived : Derived names build decode)
    {entries : List (Value × Value)} (keyed : Keyed entries) :
    (decode (.map entries)).isSome ↔
      ∃ values, Holds entries names values ∧ (build values).isSome := by
  constructor
  · intro accepted
    by_cases once : ∀ name ∈ names, (valuesOf entries name).length = 1
    · rcases exists_holds once with ⟨values, holds⟩
      rw [derived.named entries values keyed holds] at accepted
      exact ⟨values, holds, accepted⟩
    · push Not at once
      rcases once with ⟨name, member, many⟩
      rw [derived.incomplete entries keyed name member many] at accepted
      cases accepted
  · intro complete
    rcases complete with ⟨values, holds, built⟩
    rw [derived.named entries values keyed holds]
    exact built

end Derived

/-! ## A derived decoder -/

section Reading

variable {α : Type u} (names : List String) (build : List Value → Option α)

/-- One value for each name. -/
def fields (entries : List (Value × Value)) :
    List String → Option (List Value)
  | [] => some []
  | name :: names =>
      match valuesOf entries name with
      | [value] => (fields entries names).map (value :: ·)
      | _ => none

def readRecord : Value → Option α
  | .array values =>
      if values.length = names.length then build values else none
  | .map entries => (fields entries names).bind build
  | _ => none

variable {names}

theorem fields_eq_some {entries : List (Value × Value)} {values : List Value}
    (holds : Holds entries names values) : fields entries names = some values := by
  induction names generalizing values with
  | nil => rw [holds.of_nil, fields]
  | cons name names ih =>
      rcases holds.of_cons with ⟨value, rest, rfl, here, others⟩
      rw [fields, here]
      simp only [ih others, Option.map_some]

theorem fields_eq_none {entries : List (Value × Value)} {name : String}
    (member : name ∈ names) (many : (valuesOf entries name).length ≠ 1) :
    fields entries names = none := by
  induction names with
  | nil => cases member
  | cons head names ih =>
      simp only [fields]
      split
      · rename_i value found
        rcases List.mem_cons.mp member with rfl | later
        · rw [found] at many
          exact absurd rfl many
        · rw [ih later, Option.map_none]
      · rfl

theorem derived_readRecord : Derived names build (readRecord names build) where
  positional values aligned := by
    simp only [readRecord, if_pos aligned]
  named entries values keyed holds := by
    simp only [readRecord, fields_eq_some holds, Option.bind_some]
  incomplete entries keyed name member many := by
    simp only [readRecord, fields_eq_none member many, Option.bind_none]

end Reading

end IotRouter.Runtime.MessagePack
