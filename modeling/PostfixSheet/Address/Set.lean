import PostfixSheet.Address.Basic

/-! Finite sets of addresses, kept as a strictly ascending list. Two sets with
the same members are the same set, and the size of a set is the length of its
list. A union walks both lists once. -/
namespace PostfixSheet

structure AddressSet where
  toList : List Address
  sorted : toList.Pairwise (· < ·) := by exact .nil
deriving DecidableEq

namespace AddressSet

instance : Membership Address AddressSet := ⟨fun set address => address ∈ set.toList⟩

theorem mem_def {address : Address} {set : AddressSet} : address ∈ set ↔ address ∈ set.toList :=
  Iff.rfl

instance (address : Address) (set : AddressSet) : Decidable (address ∈ set) :=
  decidable_of_iff' _ mem_def

def empty : AddressSet := ⟨[], .nil⟩

def singleton (address : Address) : AddressSet := ⟨[address], List.pairwise_singleton _ _⟩

def size (set : AddressSet) : Nat := set.toList.length

/-- Joins two ascending lists; an address that is in both is kept once. -/
def join : List Address → List Address → List Address
  | [], right => right
  | left, [] => left
  | a :: left, b :: right =>
      if a < b then a :: join left (b :: right)
      else if b < a then b :: join (a :: left) right
      else a :: join left right
termination_by left right => left.length + right.length

theorem mem_join {address : Address} {left right : List Address} :
    address ∈ join left right ↔ address ∈ left ∨ address ∈ right := by
  fun_induction join left right with
  | case1 right => simp
  | case2 left => simp
  | case3 a left b right low ih => simp only [List.mem_cons, ih]; grind
  | case4 a left b right _ low ih => simp only [List.mem_cons, ih]; grind
  | case5 a left b right notLow notHigh ih =>
    obtain rfl := Address.eq_of_not_lt notLow notHigh
    simp only [List.mem_cons, ih]
    grind

theorem sorted_join {left right : List Address} (leftSorted : left.Pairwise (· < ·))
    (rightSorted : right.Pairwise (· < ·)) : (join left right).Pairwise (· < ·) := by
  fun_induction join left right with
  | case1 right => exact rightSorted
  | case2 left => exact leftSorted
  | case3 a left b right low ih =>
    rw [List.pairwise_cons] at leftSorted ⊢
    refine ⟨fun x member => ?_, ih leftSorted.2 rightSorted⟩
    rcases mem_join.mp member with inLeft | inRight
    · exact leftSorted.1 x inLeft
    · rcases List.mem_cons.mp inRight with rfl | later
      · exact low
      · exact Address.lt_trans low ((List.pairwise_cons.mp rightSorted).1 x later)
  | case4 a left b right _ low ih =>
    rw [List.pairwise_cons] at rightSorted ⊢
    refine ⟨fun x member => ?_, ih leftSorted rightSorted.2⟩
    rcases mem_join.mp member with inLeft | inRight
    · rcases List.mem_cons.mp inLeft with rfl | later
      · exact low
      · exact Address.lt_trans low ((List.pairwise_cons.mp leftSorted).1 x later)
    · exact rightSorted.1 x inRight
  | case5 a left b right notLow notHigh ih =>
    obtain rfl := Address.eq_of_not_lt notLow notHigh
    rw [List.pairwise_cons] at leftSorted rightSorted ⊢
    refine ⟨fun x member => ?_, ih leftSorted.2 rightSorted.2⟩
    rcases mem_join.mp member with inLeft | inRight
    · exact leftSorted.1 x inLeft
    · exact rightSorted.1 x inRight

instance : Union AddressSet :=
  ⟨fun left right => ⟨join left.toList right.toList, sorted_join left.sorted right.sorted⟩⟩

instance : Insert Address AddressSet := ⟨fun address set => singleton address ∪ set⟩

@[simp] theorem not_mem_empty (address : Address) : address ∉ empty := by
  simp [mem_def, empty]

@[simp] theorem mem_union {address : Address} {left right : AddressSet} :
    address ∈ left ∪ right ↔ address ∈ left ∨ address ∈ right := mem_join

@[simp] theorem mem_insert {address other : Address} {set : AddressSet} :
    address ∈ insert other set ↔ address = other ∨ address ∈ set := by
  refine mem_union.trans (or_congr_left ?_)
  simp [mem_def, singleton]

/-- An ascending list holds every address once. -/
theorem nodup_of_sorted {list : List Address} (sorted : list.Pairwise (· < ·)) : list.Nodup :=
  sorted.imp fun {a _} low => by
    rintro rfl
    exact Address.lt_irrefl a low

/-- An ascending list is fixed by its members. -/
theorem eq_of_mem_iff {left right : List Address} (leftSorted : left.Pairwise (· < ·))
    (rightSorted : right.Pairwise (· < ·)) (same : ∀ a, a ∈ left ↔ a ∈ right) : left = right := by
  have perm : left.Perm right := by
    rw [List.perm_iff_count]
    intro a
    rw [(nodup_of_sorted leftSorted).count, (nodup_of_sorted rightSorted).count]
    simp only [same a]
  exact perm.eq_of_pairwise
    (fun a b _ _ low high => absurd (Address.lt_trans low high) (Address.lt_irrefl a))
    leftSorted rightSorted

/-- Sets with the same members are the same. -/
theorem ext {left right : AddressSet} (same : ∀ address, address ∈ left ↔ address ∈ right) :
    left = right := by
  obtain ⟨leftList, leftSorted⟩ := left
  obtain ⟨rightList, rightSorted⟩ := right
  obtain rfl : leftList = rightList := eq_of_mem_iff leftSorted rightSorted same
  rfl

end AddressSet

end PostfixSheet
