import Mathlib.Data.Finset.Card
import Mathlib.Data.List.Perm.Basic
import Mathlib.Data.String.Basic
import Worksheet.Function.Registry

/-!
# Registering functions

What a registry holds after some registrations (`Registry.ofList`): under each name in upper case
the function that was registered last under it (`getElem?_ofList`), so that there are as many
functions as different names in upper case (`size_ofList`). A name in any case finds the function
that is held under it (`find?_ofList`).

The listing has just the functions that can be found (`mem_definitions`). It is in order without
ties, as functions of one name would be held under one key (`pairwise_mergeSort`), and so it does
not depend on the order in which the functions are taken from the registry
(`mergeSort_eq_definitions`).
-/

set_option autoImplicit false
set_option relaxedAutoImplicit false

namespace Worksheet

/-- The name of a function in upper case, under which it is registered. -/
def FunctionDefinition.key (definition : FunctionDefinition) : String :=
  Text.uppercase definition.name

namespace Registry

/-! ### The first registry -/

/-- The registries that registrations begin with. -/
inductive Start where
  /-- The registry without functions. -/
  | empty
  /-- The registry of the built-in functions. -/
  | builtIn

namespace Start

/-- The registry to begin with. -/
def registry : Start → Registry
  | empty => Registry.empty
  | builtIn => Registry.builtIn

/-- The functions that are in it, in the order in which they were registered. -/
def definitions : Start → List FunctionDefinition
  | empty => []
  | builtIn => mathFunctions ++ textFunctions

end Start

variable {registry : Registry} {definition : FunctionDefinition}
  {registered : List FunctionDefinition}

/-! ### One registration -/

theorem getElem?_register (registry : Registry) (definition : FunctionDefinition) (key : String) :
    (registry.register definition).functions[key]? =
      if definition.key = key then some definition else registry.functions[key]? := by
  show (registry.functions.insert definition.key definition)[key]? = _
  rw [Std.ExtTreeMap.getElem?_insert]
  by_cases same : definition.key = key
  · rw [if_pos same, if_pos (Std.LawfulEqOrd.compare_eq_iff_eq.mpr same)]
  · rw [if_neg same, if_neg fun equal ↦ same (Std.LawfulEqOrd.eq_of_compare equal)]

/-- Every function is registered under its own key. -/
def Keyed (registry : Registry) : Prop :=
  ∀ (key : String) (definition : FunctionDefinition),
    registry.functions[key]? = some definition → definition.key = key

theorem keyed_empty : Keyed empty := by
  intro key definition found
  cases found.symm.trans Std.ExtTreeMap.getElem?_empty

theorem Keyed.register (keyed : Keyed registry) (definition : FunctionDefinition) :
    Keyed (registry.register definition) := by
  intro key other found
  rw [getElem?_register] at found
  split at found
  · next same =>
    obtain rfl := Option.some.inj found
    exact same
  · exact keyed key other found

/-! ### A list of registrations -/

/-- The registry after some registrations. -/
def ofList (registered : List FunctionDefinition) : Registry := registered.foldl register empty

theorem ofList_concat (registered : List FunctionDefinition) (definition : FunctionDefinition) :
    ofList (registered ++ [definition]) = (ofList registered).register definition := by
  rw [ofList, List.foldl_append]
  rfl

/-- Registrations go on from those of the first registry. -/
theorem foldl_register_start (start : Start) (calls : List FunctionDefinition) :
    calls.foldl register start.registry = ofList (start.definitions ++ calls) := by
  have first : start.registry = ofList start.definitions := by cases start <;> rfl
  rw [first, ofList, ofList, List.foldl_append]

theorem keyed_ofList (registered : List FunctionDefinition) : Keyed (ofList registered) := by
  induction registered using List.reverseRecOn with
  | nil => exact keyed_empty
  | append_singleton registered definition ih =>
    rw [ofList_concat]
    exact ih.register definition

/-- The last definition of a list with a key. -/
def last? (registered : List FunctionDefinition) (key : String) : Option FunctionDefinition :=
  (registered.filter fun definition ↦ definition.key = key).getLast?

/-- What is stored under a key is what was registered last under it. -/
theorem getElem?_ofList (registered : List FunctionDefinition) (key : String) :
    (ofList registered).functions[key]? = last? registered key := by
  induction registered using List.reverseRecOn with
  | nil => exact Std.ExtTreeMap.getElem?_empty
  | append_singleton registered definition ih =>
    rw [ofList_concat, getElem?_register, ih, last?, last?, List.filter_append]
    by_cases same : definition.key = key
    · rw [if_pos same, List.filter_cons_of_pos (by simpa using same), List.filter_nil,
        List.getLast?_concat]
    · rw [if_neg same, List.filter_cons_of_neg (by simpa using same), List.filter_nil,
        List.append_nil]

/-- A name in any case finds what was registered last under it. -/
theorem find?_ofList (registered : List FunctionDefinition) (name : String) :
    (ofList registered).find? name = last? registered (Text.uppercase name) :=
  getElem?_ofList registered (Text.uppercase name)

theorem mem_functions_ofList {key : String} :
    key ∈ (ofList registered).functions ↔ key ∈ registered.map FunctionDefinition.key := by
  rw [Std.ExtTreeMap.mem_iff_isSome_getElem?, getElem?_ofList, last?, List.getLast?_isSome, Ne,
    List.filter_eq_nil_iff, List.mem_map]
  simp

/-- There are as many functions as different keys. -/
theorem size_ofList (registered : List FunctionDefinition) :
    (ofList registered).size = (registered.map FunctionDefinition.key).toFinset.card := by
  have members : (ofList registered).functions.keys.toFinset =
      (registered.map FunctionDefinition.key).toFinset := by
    ext key
    rw [List.mem_toFinset, List.mem_toFinset, Std.ExtTreeMap.mem_keys, mem_functions_ofList]
  rw [← members, List.toFinset_card_of_nodup Std.ExtTreeMap.nodup_keys,
    Std.ExtTreeMap.length_keys]
  rfl

/-! ### The functions of a registry -/

theorem values_eq (registry : Registry) :
    registry.functions.values = registry.functions.toList.map Prod.snd := by
  have folded : registry.functions.values =
      registry.functions.foldr (fun _ definition later ↦ definition :: later) [] := by
    obtain ⟨⟨⟨functions⟩⟩⟩ := registry
    induction functions using Quotient.ind with
    | _ functions => rfl
  rw [folded, Std.ExtTreeMap.foldr_eq_foldr_toList]
  induction registry.functions.toList with
  | nil => rfl
  | cons entry later ih => rw [List.foldr_cons, ih, List.map_cons]

theorem mem_values (keyed : Keyed registry) :
    definition ∈ registry.functions.values ↔ registry.find? definition.name = some definition := by
  rw [values_eq, List.mem_map]
  simp only [Prod.exists, Std.ExtTreeMap.mem_toList_iff_getElem?_eq_some]
  constructor
  · rintro ⟨key, found, stored, rfl⟩
    obtain rfl := keyed key found stored
    exact stored
  · intro stored
    exact ⟨definition.key, definition, stored, rfl⟩

/-! ### The listing -/

/-- A function comes before another in listings: by group, then by name. -/
def Before (one other : FunctionDefinition) : Prop :=
  one.category.rank < other.category.rank ∨
    one.category.rank = other.category.rank ∧ one.name < other.name

theorem Before.asymm {one other : FunctionDefinition} (before : Before one other) :
    ¬ Before other one := by
  rintro (group | ⟨group, name⟩)
  · rcases before with first | ⟨first, _⟩
    · exact lt_asymm first group
    · exact group.ne first.symm
  · rcases before with first | ⟨_, first⟩
    · exact first.ne group.symm
    · exact lt_asymm first name

theorem Before.trans {one middle other : FunctionDefinition} (first : Before one middle)
    (second : Before middle other) : Before one other := by
  rcases first with first | ⟨rank, first⟩
  · rcases second with second | ⟨rank, _⟩
    · exact Or.inl (first.trans second)
    · exact Or.inl (rank ▸ first)
  · rcases second with second | ⟨other, second⟩
    · exact Or.inl (rank ▸ second)
    · exact Or.inr ⟨rank.trans other, lt_trans first second⟩

theorem listedBefore_iff {one other : FunctionDefinition} :
    listedBefore one other ↔
      Before one other ∨ one.category.rank = other.category.rank ∧ one.name = other.name := by
  unfold listedBefore Before
  rw [compareLex, compareOn, compareOn, Ordering.isLE_iff_eq_lt_or_eq_eq, Ordering.then_eq_lt,
    Ordering.then_eq_eq]
  simp only [compare_lt_iff_lt, compare_eq_iff_eq]

theorem listedBefore_total (one other : FunctionDefinition) :
    (listedBefore one other || listedBefore other one) = true := by
  rw [Bool.or_eq_true, listedBefore_iff, listedBefore_iff]
  unfold Before
  rcases Nat.lt_trichotomy one.category.rank other.category.rank with less | same | more
  · exact Or.inl (Or.inl (Or.inl less))
  · rcases lt_trichotomy one.name other.name with first | name | last
    · exact Or.inl (Or.inl (Or.inr ⟨same, first⟩))
    · exact Or.inl (Or.inr ⟨same, name⟩)
    · exact Or.inr (Or.inl (Or.inr ⟨same.symm, last⟩))
  · exact Or.inr (Or.inl (Or.inl more))

theorem listedBefore_trans (one middle other : FunctionDefinition)
    (first : listedBefore one middle) (second : listedBefore middle other) :
    listedBefore one other := by
  rw [listedBefore_iff] at first second ⊢
  rcases first with first | ⟨rank, name⟩
  · rcases second with second | ⟨rank, name⟩
    · exact Or.inl (first.trans second)
    · exact Or.inl (by rwa [Before, ← rank, ← name])
  · rwa [Before, rank, name]

/-- No two functions of a registry have the same key. -/
theorem nodup_key_values (keyed : Keyed registry) :
    (registry.functions.values.map FunctionDefinition.key).Nodup := by
  have keys : registry.functions.values.map FunctionDefinition.key = registry.functions.keys := by
    rw [values_eq, List.map_map, ← Std.ExtTreeMap.map_fst_toList_eq_keys]
    refine List.map_congr_left fun entry member ↦ ?_
    exact keyed entry.1 entry.2 (Std.ExtTreeMap.mem_toList_iff_getElem?_eq_some.mp member)
  rw [keys]
  exact Std.ExtTreeMap.nodup_keys

section Listing

variable {listing : List FunctionDefinition} (keyed : Keyed registry)
  (same : listing.Perm registry.functions.values)

include keyed same

/-- Sorting the functions puts them in order without ties. -/
theorem pairwise_mergeSort : (listing.mergeSort listedBefore).Pairwise Before := by
  have sorted := List.pairwise_mergeSort listedBefore_trans listedBefore_total listing
  have perm : (listing.mergeSort listedBefore).Perm registry.functions.values :=
    (listing.mergeSort_perm listedBefore).trans same
  have distinct := (perm.map FunctionDefinition.key).nodup_iff.mpr (nodup_key_values keyed)
  rw [List.Nodup, List.pairwise_map] at distinct
  refine (sorted.and distinct).imp fun {one other} ordered ↦ ?_
  rcases listedBefore_iff.mp ordered.1 with before | ⟨_, name⟩
  · exact before
  · exact absurd (congrArg Text.uppercase name) ordered.2

/-- The order in which the functions are taken from the registry has no bearing on the listing. -/
theorem mergeSort_eq_definitions : listing.mergeSort listedBefore = registry.definitions := by
  refine List.Perm.eq_of_pairwise (fun _ _ _ _ before after ↦ absurd after before.asymm)
    (pairwise_mergeSort keyed same) (pairwise_mergeSort keyed (List.Perm.refl _)) ?_
  exact ((listing.mergeSort_perm listedBefore).trans same).trans
    (List.mergeSort_perm _ listedBefore).symm

end Listing

/-- Just the functions that a name finds are listed. -/
theorem mem_definitions (keyed : Keyed registry) :
    definition ∈ registry.definitions ↔ ∃ name, registry.find? name = some definition := by
  rw [definitions, List.mem_mergeSort, mem_values keyed]
  constructor
  · exact fun found ↦ ⟨definition.name, found⟩
  · rintro ⟨name, found⟩
    have same : definition.key = Text.uppercase name := keyed (Text.uppercase name) definition found
    rwa [find?, show Text.uppercase definition.name = Text.uppercase name from same]

example : builtIn.definitions.map FunctionDefinition.name =
    ["AVERAGE", "COUNT", "MAX", "MIN", "SUM", "LOWER", "TRIM", "UPPER"] := by
  cbv

end Registry

end Worksheet
