import PostfixSheet.Address.Notation

/-! Ragged tables: rows of their own lengths, looked up by address. No operation
here changes a shape. Entries are listed row by row, left to right. -/
namespace PostfixSheet

structure Table (α : Type) where
  rows : Array (Array α)
deriving DecidableEq, Repr, Inhabited

namespace Table

-- Sums start from the natural number zero itself, whatever structures are in scope.
attribute [local instance (high)] Zero.ofOfNat0

variable {α β : Type}

def get? (table : Table α) (address : Address) : Option α :=
  table.rows[address.row]?.bind (·[address.column]?)

/-- Decodes a written address and finds the entry that it names. -/
def locate? (table : Table α) (text : String) : Option (Address × α) := do
  let address ← Address.ofText? text
  let entry ← table.get? address
  return (address, entry)

/-- Changes one entry; an address outside the table changes nothing. -/
def modify (table : Table α) (address : Address) (change : α → α) : Table α :=
  ⟨table.rows.modify address.row (·.modify address.column change)⟩

def set (table : Table α) (address : Address) (entry : α) : Table α :=
  table.modify address fun _ => entry

def mapAddress (f : Address → α → β) (table : Table α) : Table β :=
  ⟨table.rows.mapIdx fun row entries => entries.mapIdx fun column => f ⟨column, row⟩⟩

def map (f : α → β) (table : Table α) : Table β := ⟨table.rows.map (·.map f)⟩

def toList (table : Table α) : List α := table.rows.toList.flatMap Array.toList

/-- The addresses of all entries, row by row. -/
def addresses (table : Table α) : List Address := (table.mapAddress fun address _ => address).toList

/-- The number of entries in each row. -/
def widths (table : Table α) : List Nat := table.rows.toList.map Array.size

def size (table : Table α) : Nat := table.widths.sum

/-- The sum of a weight over all entries. -/
def total (weight : α → Nat) (table : Table α) : Nat := (table.toList.map weight).sum

theorem locate?_eq_some_iff {table : Table α} {text : String} {address : Address} {entry : α} :
    table.locate? text = some (address, entry) ↔
      Address.ofText? text = some address ∧ table.get? address = some entry := by
  simp only [locate?, Option.bind_eq_bind, Option.bind_eq_some_iff, Option.pure_def,
    Option.some.injEq, Prod.mk.injEq]
  constructor
  · rintro ⟨_, decoded, _, found, rfl, rfl⟩
    exact ⟨decoded, found⟩
  · rintro ⟨decoded, found⟩
    exact ⟨address, decoded, entry, found, rfl, rfl⟩

/-- Which cell a text names depends on the shape alone. -/
theorem map_fst_locate?_congr {left : Table α} {right : Table β}
    (same : ∀ address, (left.get? address).isSome = (right.get? address).isSome) (text : String) :
    (left.locate? text).map Prod.fst = (right.locate? text).map Prod.fst := by
  simp only [locate?, Option.bind_eq_bind, Option.pure_def]
  cases decoded : Address.ofText? text with
  | none => rfl
  | some address =>
    have present := same address
    cases inLeft : left.get? address <;> cases inRight : right.get? address <;>
      simp [inLeft, inRight] at present ⊢

theorem get?_modify {table : Table α} {address other : Address} {change : α → α} :
    (table.modify address change).get? other =
      if address = other then (table.get? other).map change else table.get? other := by
  obtain ⟨column, row⟩ := address
  obtain ⟨otherColumn, otherRow⟩ := other
  simp only [get?, modify, Array.getElem?_modify, Address.mk.injEq]
  by_cases sameRow : row = otherRow
  · subst sameRow
    by_cases sameColumn : column = otherColumn
    · subst sameColumn
      cases table.rows[row]? <;> simp [Array.getElem?_modify]
    · cases table.rows[row]? <;> simp [Array.getElem?_modify, sameColumn]
  · simp [sameRow]

theorem get?_set {table : Table α} {address other : Address} {entry : α} :
    (table.set address entry).get? other =
      if address = other then (table.get? other).map fun _ => entry else table.get? other :=
  get?_modify

@[simp] theorem get?_map {table : Table α} {f : α → β} {address : Address} :
    (table.map f).get? address = (table.get? address).map f := by
  simp only [get?, map, Array.getElem?_map]
  cases table.rows[address.row]? <;> simp

@[simp] theorem get?_mapAddress {table : Table α} {f : Address → α → β} {address : Address} :
    (table.mapAddress f).get? address = (table.get? address).map (f address) := by
  simp only [get?, mapAddress, Array.getElem?_mapIdx]
  cases table.rows[address.row]? <;> simp

theorem size_eq_length (table : Table α) : table.size = table.toList.length := by
  simp only [size, widths, toList, List.length_flatMap, Array.length_toList]

theorem toList_map {table : Table α} {f : α → β} : (table.map f).toList = table.toList.map f := by
  simp only [toList, map, Array.toList_map, List.flatMap_map, List.map_flatMap]

theorem mem_toList {table : Table α} {entry : α} :
    entry ∈ table.toList ↔ ∃ address, table.get? address = some entry := by
  simp only [toList, get?, List.mem_flatMap, Array.mem_toList_iff, Array.mem_iff_getElem?,
    Option.bind_eq_some_iff]
  constructor
  · rintro ⟨entries, ⟨row, inRows⟩, column, inEntries⟩
    exact ⟨⟨column, row⟩, entries, inRows, inEntries⟩
  · rintro ⟨address, entries, inRows, inEntries⟩
    exact ⟨entries, ⟨address.row, inRows⟩, address.column, inEntries⟩

theorem mem_addresses {table : Table α} {address : Address} :
    address ∈ table.addresses ↔ (table.get? address).isSome := by
  simp only [addresses, mem_toList, get?_mapAddress, Option.map_eq_some_iff]
  constructor
  · rintro ⟨_, _, found, rfl⟩
    simp [found]
  · intro present
    obtain ⟨entry, found⟩ := Option.isSome_iff_exists.mp present
    exact ⟨address, entry, found, rfl⟩

theorem widths_modify {table : Table α} {address : Address} {change : α → α} :
    (table.modify address change).widths = table.widths := by
  simp only [widths, modify, Array.toList_modify]
  apply List.ext_getElem?
  intro row
  simp only [List.getElem?_map, List.getElem?_modify]
  cases table.rows.toList[row]? with
  | none => rfl
  | some entries => by_cases same : address.row = row <;> simp [same]

theorem widths_mapAddress {table : Table α} {f : Address → α → β} :
    (table.mapAddress f).widths = table.widths := by
  simp only [widths, mapAddress]
  apply List.ext_getElem?
  intro row
  cases rowEntries : table.rows[row]? <;> simp [rowEntries]

theorem widths_map {table : Table α} {f : α → β} : (table.map f).widths = table.widths := by
  simp [widths, map, Function.comp_def]

/-- Which addresses have an entry depends on the widths alone. -/
theorem isSome_get?_iff {table : Table α} {address : Address} :
    (table.get? address).isSome ↔
      ∃ width, table.widths[address.row]? = some width ∧ address.column < width := by
  simp only [get?, widths, List.getElem?_map, Array.getElem?_toList]
  cases table.rows[address.row]? <;> simp

/-- A table is fixed by its shape and its entries. -/
theorem ext_get? {left right : Table α} (shape : left.widths = right.widths)
    (same : ∀ address, left.get? address = right.get? address) : left = right := by
  obtain ⟨leftRows⟩ := left
  obtain ⟨rightRows⟩ := right
  rw [mk.injEq]
  refine Array.ext_getElem? fun row => ?_
  have width := congrArg (·[row]?) shape
  simp only [widths, List.getElem?_map, Array.getElem?_toList] at width
  cases inLeft : leftRows[row]? <;> cases inRight : rightRows[row]? <;>
    simp only [inLeft, inRight, Option.map_some, Option.map_none, reduceCtorEq] at width ⊢
  rename_i leftEntries rightEntries
  congr 1
  refine Array.ext_getElem? fun column => ?_
  simpa only [get?, inLeft, inRight, Option.bind_some] using same ⟨column, row⟩

theorem map_map {γ : Type} {table : Table α} {f : α → β} {g : β → γ} :
    (table.map f).map g = table.map (g ∘ f) := by
  simp [map, Function.comp_def]

/-- Changing an entry before a map is changing it afterwards, if the changes agree. -/
theorem map_modify {table : Table α} {address : Address} {change : α → α} {f : α → β}
    {changed : β → β} (agree : ∀ entry, f (change entry) = changed (f entry)) :
    (table.modify address change).map f = (table.map f).modify address changed := by
  refine ext_get? (by simp only [widths_map, widths_modify]) fun other => ?_
  simp only [get?_map, get?_modify]
  split
  · cases table.get? other <;> simp [agree]
  · rfl

theorem addresses_map {table : Table α} {f : α → β} :
    (table.map f).addresses = table.addresses := by
  simp only [addresses]
  refine congrArg toList (ext_get? ?_ fun address => ?_)
  · simp only [widths_mapAddress, widths_map]
  · simp only [get?_mapAddress, get?_map, Option.map_map, Function.comp_def]

theorem addresses_mapAddress {table : Table α} {f : Address → α → β} :
    (table.mapAddress f).addresses = table.addresses := by
  simp only [addresses]
  refine congrArg toList (ext_get? ?_ fun address => ?_)
  · simp only [widths_mapAddress]
  · simp only [get?_mapAddress, Option.map_map, Function.comp_def]

theorem length_addresses (table : Table α) : table.addresses.length = table.size := by
  rw [addresses, ← size_eq_length, size, widths_mapAddress, size]

/-- Row by row, addresses ascend. -/
theorem sorted_addresses (table : Table α) : table.addresses.Pairwise (· < ·) := by
  simp only [addresses, toList, mapAddress, Array.toList_mapIdx, List.pairwise_flatMap]
  constructor
  · intro entries member
    obtain ⟨row, inRows, rfl⟩ := List.mem_mapIdx.mp member
    simp only [Array.toList_mapIdx, List.pairwise_iff_getElem, List.getElem_mapIdx]
    intro left right _ _ before
    exact .inr ⟨rfl, before⟩
  · simp only [List.pairwise_iff_getElem, List.getElem_mapIdx, Array.toList_mapIdx,
      List.mem_mapIdx]
    intro upper lower _ _ before
    rintro _ ⟨_, _, rfl⟩ _ ⟨_, _, rfl⟩
    exact .inl before

theorem nodup_addresses (table : Table α) : table.addresses.Nodup :=
  table.sorted_addresses.imp fun {address _} low => by
    rintro rfl
    exact Address.lt_irrefl address low

theorem toList_rows_modify {table : Table α} {address : Address} {change : α → α} :
    (table.modify address change).rows.toList.map Array.toList =
      (table.rows.toList.map Array.toList).modify address.row (·.modify address.column change) := by
  simp only [modify, Array.toList_modify]
  apply List.ext_getElem?
  intro row
  simp only [List.getElem?_map, List.getElem?_modify]
  cases table.rows.toList[row]? with
  | none => rfl
  | some entries => by_cases same : address.row = row <;> simp [same]

/-- Changing one element changes a weighted sum by the change of its weight. -/
theorem sum_map_modify (weight : α → Nat) (change : α → α) {list : List α} {index : Nat}
    {element : α} (present : list[index]? = some element) :
    ((list.modify index change).map weight).sum + weight element =
      (list.map weight).sum + weight (change element) := by
  induction list generalizing index with
  | nil => simp at present
  | cons head rest ih =>
    cases index with
    | zero =>
      obtain rfl : head = element := by simpa using present
      simp only [List.modify_zero_cons, List.map_cons, List.sum_cons]
      omega
    | succ index =>
      have tail : ((rest.modify index change).map weight).sum + weight element =
          (rest.map weight).sum + weight (change element) := ih (by simpa using present)
      simp only [List.modify_succ_cons, List.map_cons, List.sum_cons]
      omega

theorem total_eq_rows (weight : α → Nat) (table : Table α) :
    table.total weight =
      (table.rows.toList.map fun entries => (entries.toList.map weight).sum).sum := by
  simp only [total, toList]
  induction table.rows.toList with
  | nil => rfl
  | cons entries rest ih => simp [ih]

theorem total_modify (weight : α → Nat) (change : α → α) {table : Table α} {address : Address}
    {entry : α} (present : table.get? address = some entry) :
    (table.modify address change).total weight + weight entry =
      table.total weight + weight (change entry) := by
  simp only [get?, Option.bind_eq_some_iff] at present
  obtain ⟨entries, inRows, inEntries⟩ := present
  have inner := sum_map_modify weight change
    (show entries.toList[address.column]? = some entry by simpa using inEntries)
  have outer := sum_map_modify (fun row : Array α => (row.toList.map weight).sum)
    (·.modify address.column change)
    (show table.rows.toList[address.row]? = some entries by simpa using inRows)
  simp only [total_eq_rows, modify, Array.toList_modify] at outer ⊢
  omega

theorem total_map (weight : β → Nat) (f : α → β) (table : Table α) :
    (table.map f).total weight = table.total (weight ∘ f) := by
  simp only [total, toList_map, List.map_map]

/-- One more for each entry is as many more as there are entries. -/
theorem total_add_one (weight : α → Nat) (table : Table α) :
    (table.total fun entry => weight entry + 1) = table.total weight + table.size := by
  rw [total, total, size_eq_length]
  induction table.toList with
  | nil => rfl
  | cons entry rest ih =>
    simp only [List.map_cons, List.sum_cons, List.length_cons]
    omega

/-- An entry of no weight makes no sum greater. -/
theorem total_set_le (weight : α → Nat) (table : Table α) (address : Address) {entry : α}
    (weightless : weight entry = 0) : (table.set address entry).total weight ≤ table.total weight := by
  cases found : table.get? address with
  | some old =>
    have same := total_modify weight (fun _ => entry) found
    simp only [set, weightless] at same ⊢
    omega
  | none =>
    apply Nat.le_of_eq
    obtain ⟨column, row⟩ := address
    simp only [get?] at found
    cases inRows : table.rows[row]? with
    | none =>
      have outside : table.rows.size ≤ row := Array.getElem?_eq_none_iff.mp inRows
      simp [set, modify, total_eq_rows, List.modify_eq_self, outside]
    | some entries =>
      have outside : entries.size ≤ column := by
        simpa [inRows, Array.getElem?_eq_none_iff] using found
      have kept := sum_map_modify (fun row : Array α => (row.toList.map weight).sum)
        (·.modify column fun _ => entry)
        (show table.rows.toList[row]? = some entries by simpa using inRows)
      have unmoved : entries.toList.modify column (fun _ => entry) = entries.toList :=
        List.modify_eq_self (by simpa using outside)
      simp only [Array.toList_modify, unmoved] at kept
      simp only [set, modify, total_eq_rows, Array.toList_modify]
      omega

end Table

end PostfixSheet
