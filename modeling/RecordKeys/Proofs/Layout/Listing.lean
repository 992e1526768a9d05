/-
The members that are keys of a type, listed without building anything: those of the root of the
chain first, those of the type itself last, and those of one level in the order of their
declaration. Each stands with its rank, the number of steps from the type to the level that
declares it.
-/
import RecordKeys.Layout.Basic
import Mathlib.Data.List.Basic

namespace RecordKeys

/-- A declared member in the listing of a type, with the layout that declares it. -/
structure Listed where
  rank : Nat
  owner : Layout
  member : Member

namespace Listed

/-- The normal form of the name of a listed member. -/
def key (casing : Casing) (x : Listed) : Name := casing.key x.member.wireName

/-- The same member, listed for a type that embeds the one it was listed for. -/
def raise (x : Listed) : Listed := { x with rank := x.rank + 1 }

@[simp] theorem key_raise (casing : Casing) (x : Listed) : x.raise.key casing = x.key casing := rfl

end Listed

namespace Layout

/-- A type and its bases, the root of the chain last. -/
def chain : Layout → List Layout
  | root l => [root l]
  | embedding l field base => embedding l field base :: chain base

/-- The steps that lead from a type to the root of its chain. -/
def links (t : Layout) : List Link := t.chain.filterMap link?

/-- The members of one level that are keys. -/
def ownListing (t : Layout) (rank : Nat) : List Listed :=
  (t.members.filter (·.isKey)).map fun m => ⟨rank, t, m⟩

/-- The members of a type and its bases that are keys. -/
def listing (t : Layout) : List Listed :=
  t.chain.zipIdx.reverse.flatMap fun (u, rank) => u.ownListing rank

/-! ## Chains -/

@[simp] theorem chain_root (l : Level) : (root l).chain = [root l] := rfl

@[simp] theorem chain_embedding (l : Level) (field : String) (base : Layout) :
    (embedding l field base).chain = embedding l field base :: base.chain := rfl

@[simp] theorem links_root (l : Level) : (root l).links = [] := rfl

@[simp] theorem links_embedding (l : Level) (field : String) (base : Layout) :
    (embedding l field base).links = ⟨l.id, field⟩ :: base.links := rfl

theorem chain_eq_cons (t : Layout) : t.chain = t :: t.chain.tail := by
  cases t <;> rfl

theorem chain_of_alone {t : Layout} (h : t.base? = none) : t.chain = [t] := by
  cases t with
  | root l => rfl
  | embedding l field base => cases h

theorem chain_of_base {t b : Layout} (h : t.base? = some b) : t.chain = t :: b.chain := by
  cases t with
  | root l => cases h
  | embedding l field base => cases h; rfl

theorem self_mem_chain (t : Layout) : t ∈ t.chain := by
  rw [chain_eq_cons]; exact List.mem_cons_self

theorem length_chain (t : Layout) : t.chain.length = t.links.length + 1 := by
  induction t with
  | root l => rfl
  | embedding l field base ih => simp [ih]

/-- A base of a type in the chain is in the chain. -/
theorem base_mem_chain {t u b : Layout} (hu : u ∈ t.chain) (hb : u.base? = some b) :
    b ∈ t.chain := by
  induction t with
  | root l =>
    rw [chain_root, List.mem_singleton] at hu
    subst hu; cases hb
  | embedding l field base ih =>
    rcases List.mem_cons.1 hu with rfl | hu
    · cases hb; exact List.mem_cons_of_mem _ (self_mem_chain _)
    · exact List.mem_cons_of_mem _ (ih hu)

/-! ## Listings -/

theorem listing_root (l : Level) : (root l).listing = (root l).ownListing 0 := by
  simp [listing]

theorem map_raise_ownListing (t : Layout) (rank : Nat) :
    (t.ownListing rank).map Listed.raise = t.ownListing (rank + 1) := by
  simp [ownListing, Listed.raise]

/-- A type is listed after its base, whose members come one step further away. -/
theorem listing_embedding (l : Level) (field : String) (base : Layout) :
    (embedding l field base).listing =
      base.listing.map Listed.raise ++ (embedding l field base).ownListing 0 := by
  unfold listing
  rw [chain_embedding, List.zipIdx_cons, List.reverse_cons, List.flatMap_append,
    List.zipIdx_succ, ← List.map_reverse, List.flatMap_map, List.map_flatMap]
  simp only [List.flatMap_singleton, map_raise_ownListing]

theorem mem_ownListing {t : Layout} {rank : Nat} {x : Listed} :
    x ∈ t.ownListing rank ↔
      x.rank = rank ∧ x.owner = t ∧ x.member ∈ t.members ∧ x.member.isKey := by
  unfold ownListing
  rw [List.mem_map]
  constructor
  · rintro ⟨m, hm, rfl⟩
    exact ⟨rfl, rfl, List.mem_filter.1 hm⟩
  · rintro ⟨rfl, rfl, hm⟩
    exact ⟨x.member, List.mem_filter.2 hm, rfl⟩

/-- What is listed is the members that are keys, at every level of the chain. -/
theorem mem_listing {t : Layout} {x : Listed} :
    x ∈ t.listing ↔
      t.chain[x.rank]? = some x.owner ∧ x.member ∈ x.owner.members ∧ x.member.isKey := by
  unfold listing
  simp only [List.mem_flatMap, List.mem_reverse, Prod.exists, List.mk_mem_zipIdx_iff_getElem?,
    mem_ownListing]
  constructor
  · rintro ⟨u, k, hu, rfl, rfl, hm⟩
    exact ⟨hu, hm⟩
  · rintro ⟨hu, hm⟩
    exact ⟨x.owner, x.rank, hu, rfl, rfl, hm⟩

end Layout

end RecordKeys
